import TemplateFile.Proofs.Source.Counting

namespace TemplateFile
namespace Source

/-!
# Offsets between characters

`splitAtByte?` walks along a text until enough bytes have passed.  What it
gives back needs no walk: an offset stands between two parts of a text exactly
when it is the number of bytes of the first part.  A slice is what stands
between two such offsets, the second of which does not come before the first.
-/

/-- The text between two byte offsets. -/
def slice? (text : List Char) (opening closing : Nat) : Option (List Char) := do
  let (head, _) ← splitAtByte? text closing
  let (_, inside) ← splitAtByte? head opening
  return inside

variable {text before after inside : List Char} {offset opening closing : Nat}

theorem byteCount_lt_append {more : List Char} (notEmpty : more ≠ []) (before : List Char) :
    byteCount before < byteCount (before ++ more) := by
  cases more with
  | nil => exact absurd rfl notEmpty
  | cons character rest =>
      have positive := character.utf8Size_pos
      rw [byteCount_append, byteCount]
      omega

theorem eq_nil_of_byteCount_le {more : List Char} (few : byteCount (before ++ more) ≤ byteCount before) : more = [] := by
  by_contra notEmpty
  exact Nat.not_lt.mpr few (byteCount_lt_append notEmpty before)

theorem splitAtByte?_zero (text : List Char) : splitAtByte? text 0 = some ([], text) := by
  cases text <;> rfl

theorem splitAtByte?_append (before after : List Char) :
    splitAtByte? (before ++ after) (byteCount before) = some (before, after) := by
  induction before with
  | nil => exact splitAtByte?_zero after
  | cons character before inductionHypothesis =>
      obtain ⟨size, isSize⟩ := Nat.exists_eq_succ_of_ne_zero (Nat.ne_of_gt character.utf8Size_pos)
      have bytes : byteCount (character :: before) = size + byteCount before + 1 := by
        rw [byteCount, isSize]
        omega
      have left : size + byteCount before + 1 - character.utf8Size = byteCount before := by omega
      rw [bytes, List.cons_append, splitAtByte?, if_pos (by omega), left, inductionHypothesis, Option.map_some]

theorem parts_of_splitAtByte? (split : splitAtByte? text offset = some (before, after)) :
    text = before ++ after ∧ offset = byteCount before := by
  fun_induction splitAtByte? text offset generalizing before with
  | case1 text =>
      cases split
      exact ⟨rfl, rfl⟩
  | case2 => cases split
  | case3 character rest offset fits inductionHypothesis =>
      rcases Option.map_eq_some_iff.mp split with ⟨⟨front, back⟩, found, same⟩
      cases same
      have parts := inductionHypothesis found
      refine ⟨by rw [parts.1]; rfl, ?_⟩
      rw [byteCount, ← parts.2]
      omega
  | case4 => cases split

/-- An offset splits a text where it counts the bytes of the first part. -/
theorem splitAtByte?_eq_some_iff :
    splitAtByte? text offset = some (before, after) ↔ text = before ++ after ∧ offset = byteCount before := by
  constructor
  · exact parts_of_splitAtByte?
  · rintro ⟨rfl, rfl⟩
    exact splitAtByte?_append before after

/-- A slice is a part of the text between two offsets. -/
theorem slice?_eq_some_iff :
    slice? text opening closing = some inside ↔ ∃ before after, text = before ++ inside ++ after ∧
      opening = byteCount before ∧ closing = byteCount (before ++ inside) := by
  simp only [slice?, Option.bind_eq_bind, Option.bind_eq_some_iff, Prod.exists, splitAtByte?_eq_some_iff,
    Option.pure_def, Option.some.injEq]
  constructor
  · rintro ⟨head, rest, ⟨parts, isClosing⟩, before, slice, ⟨rfl, isOpening⟩, rfl⟩
    exact ⟨before, rest, parts, isOpening, isClosing⟩
  · rintro ⟨before, rest, parts, isOpening, isClosing⟩
    exact ⟨before ++ inside, rest, ⟨parts, isClosing⟩, before, inside, ⟨rfl, isOpening⟩, rfl⟩

theorem slice?_append (before inside after : List Char) :
    slice? (before ++ inside ++ after) (byteCount before) (byteCount (before ++ inside)) = some inside :=
  slice?_eq_some_iff.mpr ⟨before, after, rfl, rfl, rfl⟩

/-- Of two offsets in a text, a character begins at the earlier one and ends at the later one or before. -/
theorem exists_prefix_of_byteCount_lt {one afterOne two afterTwo : List Char} (parts : text = one ++ afterOne)
    (otherParts : text = two ++ afterTwo) (fewer : byteCount one < byteCount two) :
    ∃ character, one ++ [character] <+: two := by
  rcases List.append_eq_append_iff.mp (parts.symm.trans otherParts) with ⟨more, rfl, _⟩ | ⟨more, rfl, _⟩
  · cases more with
    | nil =>
        rw [List.append_nil] at fewer
        exact absurd fewer (Nat.lt_irrefl _)
    | cons character rest => exact ⟨character, rest, by rw [List.append_assoc, List.singleton_append]⟩
  · rw [byteCount_append] at fewer
    omega

/-- Of two texts before offsets, the one with fewer bytes has fewer characters. -/
theorem length_lt_of_byteCount_lt {one afterOne two afterTwo : List Char} (parts : text = one ++ afterOne)
    (otherParts : text = two ++ afterTwo) (fewer : byteCount one < byteCount two) : one.length < two.length := by
  rcases exists_prefix_of_byteCount_lt parts otherParts fewer with ⟨character, begins⟩
  have shorter := begins.length_le
  rwa [List.length_append, List.length_singleton] at shorter

/-- The position at an offset is the position after the text before it. -/
theorem positionAt?_eq_some_iff {position : Position} :
    positionAt? text offset = some position ↔ ∃ before after, text = before ++ after ∧ offset = byteCount before ∧
      position = Position.after before := by
  simp only [positionAt?, Option.map_eq_some_iff, Prod.exists, splitAtByte?_eq_some_iff, Position.start_advance]
  constructor
  · rintro ⟨before, after, ⟨parts, bytes⟩, rfl⟩
    exact ⟨before, after, parts, bytes, rfl⟩
  · rintro ⟨before, after, parts, bytes, rfl⟩
    exact ⟨before, after, ⟨parts, bytes⟩, rfl⟩

end Source
end TemplateFile
