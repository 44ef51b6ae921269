namespace TemplateFile
namespace Text

/-!
# Finding a word in a text

`dropWord?` recognizes a word at the front of a text, and `cutAt?` cuts a text
around the first place where a word stands.  Both give back what is left, so
that a reader of text never needs an index.
-/

/-- What follows `word` in a text that begins with it. -/
def dropWord? : List Char -> List Char -> Option (List Char)
  | [], text => some text
  | _ :: _, [] => none
  | letter :: word, character :: text => if letter = character then dropWord? word text else none

/-- Dropping a word succeeds exactly on the texts that begin with it. -/
theorem dropWord?_eq_some_iff {word text rest : List Char} :
    dropWord? word text = some rest ↔ text = word ++ rest := by
  induction word generalizing text with
  | nil => simp only [dropWord?, Option.some.injEq, List.nil_append]
  | cons letter word inductionHypothesis =>
      cases text with
      | nil => simp only [dropWord?, List.cons_append, reduceCtorEq]
      | cons character text =>
          by_cases same : letter = character
          · subst same
            simp only [dropWord?, if_true, inductionHypothesis, List.cons_append, List.cons.injEq, true_and]
          · simp only [dropWord?, if_neg same, reduceCtorEq, List.cons_append, List.cons.injEq, false_iff, not_and]
            exact fun equal => absurd equal.symm same

/-- The text before and after the first occurrence of `word`. -/
def cutAt? (word : List Char) : List Char -> Option (List Char × List Char)
  | [] => (dropWord? word []).map fun after => ([], after)
  | character :: text =>
      match dropWord? word (character :: text) with
      | some after => some ([], after)
      | none => (cutAt? word text).map fun (before, after) => (character :: before, after)

/-- The parts that `cutAt?` gives back make up the text again. -/
theorem eq_of_cutAt? {word text before after : List Char}
    (cut : cutAt? word text = some (before, after)) : text = before ++ word ++ after := by
  induction text generalizing before with
  | nil =>
      simp only [cutAt?, Option.map_eq_some_iff, Prod.mk.injEq] at cut
      rcases cut with ⟨rest, dropped, rfl, rfl⟩
      simpa only [List.nil_append] using dropWord?_eq_some_iff.mp dropped
  | cons character text inductionHypothesis =>
      rw [cutAt?] at cut
      split at cut
      · next rest dropped =>
          cases cut
          simpa only [List.nil_append] using dropWord?_eq_some_iff.mp dropped
      · simp only [Option.map_eq_some_iff, Prod.mk.injEq] at cut
        rcases cut with ⟨⟨front, rest⟩, found, rfl, rfl⟩
        rw [inductionHypothesis found]
        simp only [List.cons_append, List.append_assoc]

end Text
end TemplateFile
