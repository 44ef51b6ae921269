import TemplateFile.Text.Numeral

namespace TemplateFile

/-!
# Message formats

A message format is a text with slots, each a number between braces.  The
pieces of a format are its slots and the single characters around them, found
from left to right; filling replaces each slot by the argument with its number.
An argument is never looked at again, so braces inside it stay as they are, and
a slot that names no argument stays as it was written.
-/

/-- A name for a kind of message, and the text of such messages with slots for
their arguments. -/
structure MessageFormat where
  name : String
  pattern : String
deriving DecidableEq, Repr

namespace MessageFormat

/-- A piece of a format: a character that stands for itself, or a slot with the
digits of its number. -/
inductive Piece where
  | literal (character : Char)
  | slot (digits : List Char)
deriving DecidableEq, Repr

namespace Piece

/-- The piece as it is written in the format. -/
def written : Piece -> List Char
  | literal character => [character]
  | slot digits => '{' :: digits ++ ['}']

/-- The piece with the arguments filled in. -/
def filled (arguments : List String) : Piece -> List Char
  | literal character => [character]
  | slot digits =>
      match (Text.numeral? digits).bind fun index => arguments[index]? with
      | some argument => argument.toList
      | none => (slot digits).written

end Piece

/-- The digits of the slot at the front of a text, and what follows the slot. -/
def slot? : List Char -> Option (List Char × List Char)
  | '{' :: text =>
      match text.takeWhile Text.isDecimalDigit, text.dropWhile Text.isDecimalDigit with
      | digit :: digits, '}' :: rest => some (digit :: digits, rest)
      | _, _ => none
  | _ => none

/-- A slot and what follows it make up the text again. -/
theorem eq_of_slot? {text digits rest : List Char} (found : slot? text = some (digits, rest)) :
    text = (Piece.slot digits).written ++ rest := by
  unfold slot? at found
  split at found
  · next inside =>
      split at found
      · next digit others after digitsHere afterDigits =>
          cases found
          have parts : inside = inside.takeWhile Text.isDecimalDigit ++ inside.dropWhile Text.isDecimalDigit :=
            List.takeWhile_append_dropWhile.symm
          rw [digitsHere, afterDigits] at parts
          rw [parts]
          simp only [Piece.written, List.cons_append, List.append_assoc, List.nil_append]
      · cases found
  · cases found

/-- What follows a slot is no longer than what follows its first character. -/
theorem length_le_of_slot? {character : Char} {others digits rest : List Char}
    (found : slot? (character :: others) = some (digits, rest)) : rest.length ≤ others.length := by
  have parts := congrArg List.length (eq_of_slot? found)
  simp only [Piece.written, List.cons_append, List.append_assoc, List.length_cons, List.length_append] at parts
  omega

/-- The pieces of a text, from left to right. -/
def pieces (text : List Char) : List Piece :=
  match text with
  | [] => []
  | character :: others =>
      match found : slot? (character :: others) with
      | some (digits, rest) =>
          have := length_le_of_slot? found
          .slot digits :: pieces rest
      | none => .literal character :: pieces others
termination_by text.length

/-- The message for given arguments. -/
def fill (format : MessageFormat) (arguments : List String) : String :=
  String.ofList ((pieces format.pattern.toList).flatMap (Piece.filled arguments))

/-- The message about text that does not have the form of a file: its only
argument is the whole message. -/
def syntaxError : MessageFormat := ⟨"SyntaxError", "\x7b0\x7d"⟩

/-- The message about a template whose body failed: its arguments are the path,
the template's name and what went wrong. -/
def templateBodyFailure : MessageFormat :=
  ⟨"TemplateBodyFailure", "In file \x7b0\x7d, template \x7b1\x7d: \x7b2\x7d"⟩

end MessageFormat

end TemplateFile
