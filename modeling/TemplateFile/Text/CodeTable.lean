namespace TemplateFile
namespace Text

/-!
# Tables of character codes

A class of characters that a standard gives by listing is a table of ranges of
codes.  Both ends of a range belong to it, and a range may run over codes that
no character has.
-/

/-- The codes from `first` to `last`, both included. -/
structure CodeRange where
  first : Nat
  last : Nat

/-- A class of characters, as a list of ranges of codes. -/
abbrev CodeTable := List CodeRange

/-- Whether some range of the table covers the code. -/
def CodeTable.covers (table : CodeTable) (code : Nat) : Bool :=
  table.any fun range => decide (range.first ≤ code) && decide (code ≤ range.last)

end Text
end TemplateFile
