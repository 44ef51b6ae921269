import TemplateFile.Source.Cursor
import Mathlib.Data.List.Induction

namespace TemplateFile

/-!
# Positions by counting

A position is reached one character at a time.  The position after a whole
text can also be read off the text: its line feeds count the lines, the
characters after the last one count the columns, and its bytes are the offset.
-/

namespace Source

theorem byteCount_append (left right : List Char) : byteCount (left ++ right) = byteCount left + byteCount right := by
  induction left with
  | nil => rw [List.nil_append, byteCount, Nat.zero_add]
  | cons character left inductionHypothesis =>
      rw [List.cons_append, byteCount, byteCount, inductionHypothesis, Nat.add_assoc]

end Source

namespace Position

/-- The position after a text, by counting. -/
def after (text : List Char) : Position where
  line := 1 + text.count '\n'
  column := 1 + (text.reverse.takeWhile fun character => character != '\n').length
  offset := Source.byteCount text

theorem after_append_singleton (text : List Char) (character : Char) :
    after (text ++ [character]) = (after text).next character := by
  have bytes : Source.byteCount (text ++ [character]) = Source.byteCount text + character.utf8Size :=
    Source.byteCount_append text [character]
  by_cases lineFeed : character = '\n'
  · subst lineFeed
    have lines : (text ++ ['\n']).count '\n' = text.count '\n' + 1 := by
      rw [List.count_append, List.count_singleton_self]
    simp only [after, next, Place.next, if_true, lines, bytes, List.reverse_append, List.reverse_singleton,
      List.singleton_append, bne_self_eq_false, List.takeWhile_cons, Bool.false_eq_true, if_false, List.length_nil,
      Nat.add_zero, Nat.add_assoc]
  · have lines : (text ++ [character]).count '\n' = text.count '\n' := by
      rw [List.count_append, List.count_singleton, if_neg (by rwa [beq_iff_eq]), Nat.add_zero]
    have inLine : (character != '\n') = true := bne_iff_ne.mpr lineFeed
    simp only [after, next, Place.next, if_neg lineFeed, lines, bytes, List.reverse_append, List.reverse_singleton,
      List.singleton_append, List.takeWhile_cons, inLine, if_true, List.length_cons, Nat.add_assoc]

/-- Walking from the start of a text and counting agree. -/
theorem start_advance (text : List Char) : start.advance text = after text := by
  induction text using List.reverseRecOn with
  | nil => rfl
  | append_singleton text character inductionHypothesis =>
      rw [advance_append, inductionHypothesis, after_append_singleton]
      rfl

theorem after_advance (text more : List Char) : (after text).advance more = after (text ++ more) := by
  rw [← start_advance, ← advance_append, start_advance]

end Position

end TemplateFile
