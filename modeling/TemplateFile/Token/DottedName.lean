import TemplateFile.Text.Blank

namespace TemplateFile
namespace DottedName

/-!
# Dotted names

A name is one or more segments joined by dots.  A segment begins with an ASCII
letter or an underscore and goes on with those and ASCII digits.  Blanks may
stand on either side of a dot; they belong to the text of the name and not to
its value.  A dot that no segment follows is not part of the name, and neither
are the blanks before it.
-/

/-- Whether a character may begin a segment. -/
def isStart (character : Char) : Bool := character.isAlpha || character == '_'

/-- Whether a character may stand in a segment after its beginning. -/
def isPart (character : Char) : Bool := character.isAlphanum || character == '_'

/-- The segment at the front of a text, and what follows it. -/
def segment? : List Char -> Option (List Char × List Char)
  | [] => none
  | character :: rest =>
      if isStart character then some (character :: rest.takeWhile isPart, rest.dropWhile isPart) else none

/-- The dot and segment at the front of a text, with the blanks around the
dot, and what follows. -/
def dottedSegment? (text : List Char) : Option (List Char × List Char) :=
  match text.dropWhile Text.isBlank with
  | '.' :: rest =>
      (segment? (rest.dropWhile Text.isBlank)).map fun (segment, after) =>
        (text.takeWhile Text.isBlank ++ '.' :: rest.takeWhile Text.isBlank ++ segment, after)
  | _ => none

/-- A segment and what follows it make up the text again. -/
theorem eq_of_segment? {text segment after : List Char} (found : segment? text = some (segment, after)) :
    text = segment ++ after ∧ segment ≠ [] := by
  cases text with
  | nil => simp only [segment?, reduceCtorEq] at found
  | cons character rest =>
      simp only [segment?] at found
      split at found
      · cases found
        simp only [List.cons_append, List.takeWhile_append_dropWhile, ne_eq, reduceCtorEq,
          not_false_eq_true, and_self]
      · cases found

/-- A dotted segment and what follows it make up the text again. -/
theorem eq_of_dottedSegment? {text segment after : List Char}
    (found : dottedSegment? text = some (segment, after)) : text = segment ++ after ∧ segment ≠ [] := by
  simp only [dottedSegment?] at found
  split at found
  · next rest dot =>
      simp only [Option.map_eq_some_iff, Prod.mk.injEq] at found
      rcases found with ⟨⟨front, back⟩, inner, rfl, rfl⟩
      have parts := (eq_of_segment? inner).1
      constructor
      · calc text = text.takeWhile Text.isBlank ++ text.dropWhile Text.isBlank :=
              List.takeWhile_append_dropWhile.symm
          _ = text.takeWhile Text.isBlank ++
                '.' :: (rest.takeWhile Text.isBlank ++ rest.dropWhile Text.isBlank) := by
              rw [dot, List.takeWhile_append_dropWhile]
          _ = _ := by
              rw [parts]
              simp only [List.append_assoc, List.cons_append]
      · simp only [List.append_assoc, List.cons_append, ne_eq, List.append_eq_nil_iff, reduceCtorEq, and_false,
          not_false_eq_true]
  · cases found

/-- What follows a dotted segment is shorter than the text. -/
theorem length_lt_of_dottedSegment? {text segment after : List Char}
    (found : dottedSegment? text = some (segment, after)) : after.length < text.length := by
  have parts := eq_of_dottedSegment? found
  have positive := List.length_pos_iff.mpr parts.2
  rw [parts.1, List.length_append]
  omega

/-- The longest run of dotted segments at the front of a text, and what
follows it. -/
def dottedSegments (text : List Char) : List Char × List Char :=
  match found : dottedSegment? text with
  | none => ([], text)
  | some (segment, after) =>
      have := length_lt_of_dottedSegment? found
      let (segments, rest) := dottedSegments after
      (segment ++ segments, rest)
termination_by text.length

/-- The longest name at the front of a text, and what follows it. -/
def front? (text : List Char) : Option (List Char × List Char) :=
  (segment? text).map fun (segment, after) =>
    let (segments, rest) := dottedSegments after
    (segment ++ segments, rest)

/-- The value of a name: its text without blanks. -/
def value (text : List Char) : List Char := text.filter fun character => !Text.isBlank character

/-- A run of dotted segments and what follows it make up the text again. -/
theorem dottedSegments_append (text : List Char) :
    (dottedSegments text).1 ++ (dottedSegments text).2 = text := by
  fun_induction dottedSegments text with
  | case1 text none => rfl
  | case2 text segment after found _ segments rest equal inductionHypothesis =>
      rw [equal] at inductionHypothesis
      rw [(eq_of_dottedSegment? found).1, ← inductionHypothesis, List.append_assoc]

/-- A name and what follows it make up the text again. -/
theorem eq_of_front? {text name after : List Char} (found : front? text = some (name, after)) :
    text = name ++ after ∧ name ≠ [] := by
  simp only [front?, Option.map_eq_some_iff, Prod.mk.injEq] at found
  rcases found with ⟨⟨segment, rest⟩, first, rfl, rfl⟩
  have parts := eq_of_segment? first
  constructor
  · rw [parts.1, List.append_assoc, dottedSegments_append]
  · simp only [ne_eq, List.append_eq_nil_iff, parts.2, false_and, not_false_eq_true]

end DottedName
end TemplateFile
