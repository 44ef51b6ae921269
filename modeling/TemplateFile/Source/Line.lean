namespace TemplateFile
namespace Source

/-!
# Lines of a text

The lines of a text are the stretches between its line feeds, so a text with
`n` line feeds has `n + 1` lines and no character other than the line feeds is
lost.  A line shown to a reader also loses one carriage return at its end.
-/

/-- The stretches between line feeds, in order.  There is always at least one. -/
def lines : List Char -> List (List Char)
  | [] => [[]]
  | character :: rest =>
      if character = '\n' then [] :: lines rest
      else
        match lines rest with
        | [] => [[character]]
        | line :: others => (character :: line) :: others

/-- A text without the carriage return at its end, if there is one. -/
def dropReturn (line : List Char) : List Char :=
  if line.getLast? = some '\r' then line.dropLast else line

/-- The line with the given number, counted from one, without its ending. -/
def line? (source : String) (number : Nat) : Option String :=
  if number = 0 then none
  else (lines source.toList)[number - 1]?.map fun line => String.ofList (dropReturn line)

end Source
end TemplateFile
