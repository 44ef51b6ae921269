import TemplateFile.Text.Search
import Mathlib.Data.List.Infix

namespace TemplateFile
namespace Text

/-!
# The first occurrence of a word

`cutAt?` is defined by walking along a text.  `FirstAt` says what it finds
without walking: a text is cut around a word, and no occurrence of the word
begins earlier.  The two agree, and the search fails exactly when the word
does not occur at all.

A cut stays where it is when more text follows, as `FirstAt.append` says.  A
word whose first letter does not come back inside it cannot overlap itself, so
such a word is found right after any text that does not contain it.
-/

/-- A word without a character ends before the places where this character stands. -/
theorem prefix_of_notMem {character : Char} {word before after : List Char} (free : character ∉ word)
    (begins : word <+: before ++ character :: after) : word <+: before := by
  rcases Nat.lt_or_ge before.length word.length with longer | fits
  · have reaches : before ++ [character] <+: word := by
      refine List.prefix_of_prefix_length_le ⟨after, ?_⟩ begins ?_
      · rw [List.append_assoc, List.singleton_append]
      · rw [List.length_append, List.length_singleton]
        omega
    exact absurd (reaches.subset (List.mem_append_right before List.mem_cons_self)) free
  · exact List.prefix_of_prefix_length_le begins (List.prefix_append before _) fits

/-- A word whose first letter does not come back inside it, and that begins
before a place where this letter stands, ends before that place. -/
theorem exists_gap_of_prefix {letter : Char} {letters other before rest : List Char} (onlyFirst : letter ∉ letters)
    (begins : other ++ letter :: letters <+: before ++ letter :: rest) (shorter : other.length < before.length) :
    ∃ gap, before = other ++ gap ∧ letter :: letters <+: gap := by
  have inside : other <+: before :=
    List.prefix_of_prefix_length_le ((List.prefix_append other _).trans begins) (List.prefix_append before _)
      (Nat.le_of_lt shorter)
  rcases inside with ⟨gap, rfl⟩
  refine ⟨gap, rfl, ?_⟩
  rw [List.append_assoc, List.prefix_append_right_inj] at begins
  cases gap with
  | nil =>
      rw [List.append_nil] at shorter
      exact absurd shorter (Nat.lt_irrefl _)
  | cons first others =>
      rw [List.cons_append, List.cons_prefix_cons] at begins
      exact List.cons_prefix_cons.mpr ⟨begins.1, prefix_of_notMem onlyFirst begins.2⟩

/-- The text is cut around the first occurrence of a word. -/
structure FirstAt (word text before after : List Char) : Prop where
  parts : text = before ++ word ++ after
  first : forall other, other ++ word <+: text -> before.length ≤ other.length

namespace FirstAt

variable {word text before after : List Char}

/-- There is only one such cut. -/
theorem unique {otherBefore otherAfter : List Char} (found : FirstAt word text before after)
    (again : FirstAt word text otherBefore otherAfter) : before = otherBefore ∧ after = otherAfter := by
  have shorter := found.first otherBefore ⟨otherAfter, again.parts.symm⟩
  have longer := again.first before ⟨after, found.parts.symm⟩
  have sameText : before ++ (word ++ after) = otherBefore ++ (word ++ otherAfter) := by
    rw [← List.append_assoc, ← List.append_assoc, ← found.parts, ← again.parts]
  have parts := List.append_inj sameText (Nat.le_antisymm shorter longer)
  exact ⟨parts.1, List.append_cancel_left parts.2⟩

/-- Text that follows does not move the first occurrence. -/
theorem append (found : FirstAt word text before after) (rest : List Char) :
    FirstAt word (text ++ rest) before (after ++ rest) where
  parts := by rw [found.parts, List.append_assoc]
  first := by
    intro other begins
    by_cases shorter : before.length ≤ other.length
    · exact shorter
    · have fits : (other ++ word).length ≤ text.length := by
        rw [found.parts]
        simp only [List.length_append]
        omega
      exact found.first other (List.prefix_of_prefix_length_le begins (List.prefix_append text rest) fits)

/-- What comes after the first occurrence has no part in it. -/
theorem upTo (found : FirstAt word text before after) : FirstAt word (before ++ word) before [] where
  parts := (List.append_nil _).symm
  first := fun other begins => found.first other (begins.trans ⟨after, found.parts.symm⟩)

/-- A text that does not contain a word is followed by the first occurrence of
it, if the word cannot overlap itself. -/
theorem of_not_infix {letter : Char} {letters : List Char} (free : ¬ letter :: letters <:+: before)
    (onlyFirst : letter ∉ letters) (after : List Char) :
    FirstAt (letter :: letters) (before ++ letter :: letters ++ after) before after where
  parts := rfl
  first := by
    intro other begins
    by_contra shorter
    rw [List.append_assoc] at begins
    rcases exists_gap_of_prefix onlyFirst begins (Nat.lt_of_not_le shorter) with ⟨gap, rfl, within⟩
    exact free (within.isInfix.trans (List.suffix_append other gap).isInfix)

/-- A text without a letter is followed by the first occurrence of the letter. -/
theorem of_notMem {letter : Char} (free : letter ∉ before) (after : List Char) :
    FirstAt [letter] (before ++ letter :: after) before after := by
  have found := of_not_infix (fun inside => free ((List.singleton_infix_iff letter before).mp inside))
    List.not_mem_nil after
  rw [List.append_assoc] at found
  exact found

/-- The first occurrence of a letter comes after a text without it. -/
theorem notMem {letter : Char} (found : FirstAt [letter] text before after) : letter ∉ before := by
  intro inside
  rcases List.append_of_mem inside with ⟨front, back, rfl⟩
  have begins : front ++ [letter] <+: text := by
    rw [found.parts]
    exact ⟨back ++ [letter] ++ after, by simp only [List.append_assoc, List.cons_append, List.nil_append]⟩
  have shorter := found.first front begins
  rw [List.length_append, List.length_cons] at shorter
  omega

/-- What comes before the first occurrence of a word does not contain it. -/
theorem not_infix (found : FirstAt word text before after) (notEmpty : word ≠ []) : ¬ word <:+: before := by
  rintro ⟨front, back, rfl⟩
  have begins : front ++ word <+: text := by
    rw [found.parts, List.append_assoc, List.append_assoc]
    exact List.prefix_append _ _
  have shorter := found.first front begins
  have positive := List.length_pos_iff.mpr notEmpty
  simp only [List.length_append] at shorter
  omega

/-- A word at the front is its own first occurrence. -/
theorem front (parts : text = word ++ after) : FirstAt word text [] after :=
  ⟨by rw [parts, List.nil_append], fun other _ => Nat.zero_le other.length⟩

/-- A word that is not at the front is found in the rest of the text. -/
theorem cons_iff {character : Char} (notHere : ¬ word <+: character :: text) :
    FirstAt word (character :: text) before after ↔ ∃ shorter, before = character :: shorter ∧
      FirstAt word text shorter after := by
  constructor
  · intro found
    cases before with
    | nil => exact absurd ⟨after, found.parts.symm⟩ notHere
    | cons first shorter =>
        have parts := List.cons.inj found.parts
        refine ⟨shorter, by rw [parts.1], parts.2, ?_⟩
        intro other begins
        have begun : character :: other ++ word <+: character :: text :=
          List.cons_prefix_cons.mpr ⟨rfl, begins⟩
        exact Nat.le_of_succ_le_succ (found.first (character :: other) begun)
  · rintro ⟨shorter, rfl, found⟩
    refine ⟨by rw [found.parts]; rfl, ?_⟩
    intro other begins
    cases other with
    | nil => exact absurd begins notHere
    | cons first others =>
        have inTail := (List.cons_prefix_cons.mp begins).2
        exact Nat.succ_le_succ (found.first others inTail)

end FirstAt

theorem dropWord?_eq_none_iff {word text : List Char} : dropWord? word text = none ↔ ¬ word <+: text := by
  rw [Option.eq_none_iff_forall_ne_some]
  constructor
  · rintro absent ⟨rest, equal⟩
    exact absent rest (dropWord?_eq_some_iff.mpr equal.symm)
  · intro notHere rest dropped
    exact notHere ⟨rest, (dropWord?_eq_some_iff.mp dropped).symm⟩

/-- Cutting finds the first occurrence. -/
theorem cutAt?_eq_some_iff {word text before after : List Char} :
    cutAt? word text = some (before, after) ↔ FirstAt word text before after := by
  induction text generalizing before with
  | nil =>
      simp only [cutAt?, Option.map_eq_some_iff, Prod.mk.injEq, dropWord?_eq_some_iff]
      constructor
      · rintro ⟨rest, parts, rfl, rfl⟩
        exact .front parts
      · intro found
        have empty := List.append_eq_nil_iff.mp found.parts.symm
        have nothing := (List.append_eq_nil_iff.mp empty.1).1
        subst nothing
        exact ⟨after, found.parts, rfl, rfl⟩
  | cons character text inductionHypothesis =>
      rw [cutAt?]
      split
      · next rest here =>
          have atFront := FirstAt.front (dropWord?_eq_some_iff.mp here)
          constructor
          · rintro ⟨⟩
            exact atFront
          · intro found
            have same := atFront.unique found
            rw [same.1, same.2]
      · next absent =>
          rw [FirstAt.cons_iff (dropWord?_eq_none_iff.mp absent)]
          simp only [Option.map_eq_some_iff, Prod.mk.injEq]
          constructor
          · rintro ⟨⟨shorter, rest⟩, cut, rfl, rfl⟩
            exact ⟨shorter, rfl, inductionHypothesis.mp cut⟩
          · rintro ⟨shorter, rfl, found⟩
            exact ⟨(shorter, after), inductionHypothesis.mpr found, rfl, rfl⟩

/-- Cutting fails exactly when the word does not occur. -/
theorem cutAt?_eq_none_iff {word text : List Char} : cutAt? word text = none ↔ ¬ word <:+: text := by
  induction text with
  | nil => rw [cutAt?, Option.map_eq_none_iff, dropWord?_eq_none_iff, List.prefix_nil, List.infix_nil]
  | cons character text inductionHypothesis =>
      rw [cutAt?, List.infix_cons_iff, not_or, ← inductionHypothesis, ← dropWord?_eq_none_iff]
      split
      · next rest here => simp only [reduceCtorEq, here, false_and]
      · next absent => simp only [absent, Option.map_eq_none_iff, true_and]

end Text
end TemplateFile
