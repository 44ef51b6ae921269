import TemplateFile.Proofs.Source.Counting
import Mathlib.Data.Prod.Lex

namespace TemplateFile

/-!
# The order of places

Places are ordered by line, and on one line by column.  This is the order of
the text itself: a place comes before the place after the next character.  So
of two texts of which one begins the other, the longer one ends later.
-/

namespace Place

/-- The line, and then the column. -/
def key (place : Place) : Nat ×ₗ Nat := toLex (place.line, place.column)

theorem key_injective : Function.Injective key := by
  rintro ⟨line, column⟩ ⟨otherLine, otherColumn⟩ same
  cases same
  rfl

instance : PartialOrder Place := PartialOrder.lift key key_injective

theorem lt_iff {one two : Place} :
    one < two ↔ one.line < two.line ∨ one.line = two.line ∧ one.column < two.column := Prod.Lex.lt_iff

theorem le_iff {one two : Place} :
    one ≤ two ↔ one.line < two.line ∨ one.line = two.line ∧ one.column ≤ two.column := Prod.Lex.le_iff

theorem lt_next (place : Place) (character : Char) : place < place.next character := by
  unfold next
  split
  · exact lt_iff.mpr (Or.inl (Nat.lt_succ_self _))
  · exact lt_iff.mpr (Or.inr ⟨rfl, Nat.lt_succ_self _⟩)

end Place

namespace Position

theorem toPlace_le_advance (position : Position) (text : List Char) :
    position.toPlace ≤ (position.advance text).toPlace := by
  induction text generalizing position with
  | nil => exact le_refl _
  | cons character rest inductionHypothesis =>
      exact (Place.lt_next position.toPlace character).le.trans (inductionHypothesis (position.next character))

/-- A longer text does not end earlier. -/
theorem after_le_after {one two : List Char} (begins : one <+: two) : (after one).toPlace ≤ (after two).toPlace := by
  rcases begins with ⟨rest, rfl⟩
  rw [← after_advance]
  exact toPlace_le_advance _ _

/-- Every character stands before the place after it. -/
theorem after_lt_after {one two : List Char} {character : Char} (begins : one ++ [character] <+: two) :
    (after one).toPlace < (after two).toPlace := by
  have step : (after one).toPlace < (after (one ++ [character])).toPlace := by
    rw [after_append_singleton]
    exact Place.lt_next _ character
  exact step.trans_le (after_le_after begins)

end Position

end TemplateFile
