import Mathlib.Data.List.TakeWhile

namespace TemplateFile
namespace Text

/-!
# Stretches of one kind of character

A stretch of accepted characters is as long as it can be when the text that
follows does not begin with another one.  `Stops` says this of the text that
follows, and `takeWhile` and `dropWhile` cut a text in such a place.
-/

/-- The text does not begin with an accepted character. -/
def Stops (accepts : Char -> Bool) (text : List Char) : Prop :=
  forall character, text.head? = some character -> accepts character = false

variable {accepts : Char -> Bool} {stretch text rest : List Char}

theorem stops_nil : Stops accepts [] := by
  intro character impossible
  cases impossible

theorem stops_cons_iff {character : Char} : Stops accepts (character :: rest) ↔ accepts character = false := by
  constructor
  · intro stops
    exact stops character rfl
  · intro rejected other same
    cases same
    exact rejected

theorem stops_dropWhile (text : List Char) : Stops accepts (text.dropWhile accepts) := by
  intro character first
  have rejected := List.head?_dropWhile_not accepts text
  rw [first] at rejected
  exact rejected

theorem takeWhile_append_of_stops (all : forall character, character ∈ stretch -> accepts character = true)
    (stops : Stops accepts rest) : (stretch ++ rest).takeWhile accepts = stretch := by
  rw [List.takeWhile_append_of_pos all]
  cases rest with
  | nil => rw [List.takeWhile_nil, List.append_nil]
  | cons character rest =>
      rw [List.takeWhile_cons_of_neg (by simp only [stops_cons_iff.mp stops, Bool.false_eq_true, not_false_eq_true]),
        List.append_nil]

theorem dropWhile_append_of_stops (all : forall character, character ∈ stretch -> accepts character = true)
    (stops : Stops accepts rest) : (stretch ++ rest).dropWhile accepts = rest := by
  have parts : (stretch ++ rest).takeWhile accepts ++ (stretch ++ rest).dropWhile accepts = stretch ++ rest :=
    List.takeWhile_append_dropWhile
  rw [takeWhile_append_of_stops all stops] at parts
  exact List.append_cancel_left parts

/-- No stretch at the front of a text is longer than the one that `takeWhile` finds. -/
theorem prefix_takeWhile (all : forall character, character ∈ stretch -> accepts character = true)
    (begins : stretch <+: text) : stretch <+: text.takeWhile accepts := by
  rcases begins with ⟨rest, rfl⟩
  rw [List.takeWhile_append_of_pos all]
  exact List.prefix_append _ _

theorem drop_length_takeWhile (accepts : Char -> Bool) (text : List Char) :
    text.drop (text.takeWhile accepts).length = text.dropWhile accepts := by
  have parts : text.takeWhile accepts ++ text.dropWhile accepts = text := List.takeWhile_append_dropWhile
  calc
    text.drop (text.takeWhile accepts).length
        = (text.takeWhile accepts ++ text.dropWhile accepts).drop (text.takeWhile accepts).length := by rw [parts]
    _ = text.dropWhile accepts := List.drop_left

/-- A stretch ends before a character that is not accepted, whatever follows. -/
theorem takeWhile_append_cons {character : Char} (rejected : accepts character = false) (before after : List Char) :
    (before ++ character :: after).takeWhile accepts = before.takeWhile accepts := by
  have ends : (character :: after).takeWhile accepts = [] :=
    List.takeWhile_cons_of_neg (Bool.eq_false_iff.mp rejected)
  rw [List.takeWhile_append, ends, List.append_nil]
  split
  · next whole => exact (List.takeWhile_prefix accepts).eq_of_length whole |>.symm
  · rfl

theorem dropWhile_append_cons {character : Char} (rejected : accepts character = false) (before after : List Char) :
    (before ++ character :: after).dropWhile accepts = before.dropWhile accepts ++ character :: after := by
  have parts : (before ++ character :: after).takeWhile accepts ++ (before ++ character :: after).dropWhile accepts =
      before.takeWhile accepts ++ (before.dropWhile accepts ++ character :: after) := by
    rw [List.takeWhile_append_dropWhile, ← List.append_assoc, List.takeWhile_append_dropWhile]
  rw [takeWhile_append_cons rejected] at parts
  exact List.append_cancel_left parts

end Text
end TemplateFile
