import TemplateFile.Proofs.Lexical.Rule
import TemplateFile.Proofs.Text.Stretch

namespace TemplateFile

open Computability

/-!
# The longest name at the front of a text

`DottedName.front?` goes from segment to segment and never looks back.  The
language of names does not say where to stop: a text may begin with many
names.  Here the two are brought together.  A segment that something other
than a further letter follows is the whole stretch of letters, so every name
at the front of a text is either cut off inside the walk or goes the same way.
-/

namespace LexicalRule

theorem mem_segment_iff {text : List Char} :
    text ∈ segment ↔ ∃ first others, text = first :: others ∧ DottedName.isStart first = true ∧
      forall character, character ∈ others -> DottedName.isPart character = true := by
  constructor
  · intro member
    rcases Language.mem_mul.mp member with ⟨_, ⟨first, start, rfl⟩, others, parts, rfl⟩
    exact ⟨first, others, rfl, start, mem_anyOf_iff.mp parts⟩
  · rintro ⟨first, others, rfl, start, parts⟩
    exact Language.mem_mul.mpr ⟨[first], ⟨first, start, rfl⟩, others, mem_anyOf_iff.mpr parts, rfl⟩

/-- A segment can be recognized by looking at its characters. -/
theorem mem_segment_of_all {first : Char} {others : List Char} (start : DottedName.isStart first = true)
    (parts : others.all DottedName.isPart = true) : first :: others ∈ segment :=
  mem_segment_iff.mpr ⟨first, others, rfl, start, List.all_eq_true.mp parts⟩

theorem mem_dottedSegment_iff {text : List Char} :
    text ∈ dottedSegment ↔ ∃ before after piece, text = before ++ '.' :: after ++ piece ∧
      (forall character, character ∈ before -> Text.isBlank character = true) ∧
      (forall character, character ∈ after -> Text.isBlank character = true) ∧ piece ∈ segment := by
  constructor
  · intro member
    rcases Language.mem_mul.mp member with ⟨_, front, piece, inSegment, rfl⟩
    rcases Language.mem_mul.mp front with ⟨_, dotted, after, afterBlank, rfl⟩
    rcases Language.mem_mul.mp dotted with ⟨before, beforeBlank, _, rfl, rfl⟩
    refine ⟨before, after, piece, ?_, mem_anyOf_iff.mp beforeBlank, mem_anyOf_iff.mp afterBlank, inSegment⟩
    simp only [List.append_assoc, List.cons_append, List.nil_append]
  · rintro ⟨before, after, piece, rfl, beforeBlank, afterBlank, inSegment⟩
    refine Language.mem_mul.mpr ⟨before ++ ['.'] ++ after, Language.mem_mul.mpr ⟨before ++ ['.'],
      Language.mem_mul.mpr ⟨before, mem_anyOf_iff.mpr beforeBlank, ['.'], rfl, rfl⟩, after,
      mem_anyOf_iff.mpr afterBlank, rfl⟩, piece, inSegment, ?_⟩
    simp only [List.append_assoc, List.cons_append, List.nil_append]

/-- A dotted segment and more of them. -/
theorem append_mem_kstar {language : Language Char} {piece rest : List Char} (first : piece ∈ language)
    (others : rest ∈ language∗) : piece ++ rest ∈ language∗ := by
  rcases Language.mem_kstar.mp others with ⟨pieces, rfl, all⟩
  refine Language.mem_kstar.mpr ⟨piece :: pieces, rfl, ?_⟩
  intro other listed
  rcases List.mem_cons.mp listed with rfl | later
  · exact first
  · exact all other later

/-! ## The characters of names -/

theorem isPart_of_isStart {character : Char} (start : DottedName.isStart character = true) :
    DottedName.isPart character = true := by
  simp only [DottedName.isStart, DottedName.isPart, Bool.or_eq_true, Char.isAlphanum] at start ⊢
  rcases start with letter | underscore
  · exact Or.inl (Or.inl letter)
  · exact Or.inr underscore

theorem not_isPart_of_isBlank {character : Char} (blank : Text.isBlank character = true) :
    DottedName.isPart character = false := by
  simp only [Text.isBlank, Text.blankCodes, Text.CodeTable.covers, List.any_cons, List.any_nil, Bool.or_eq_true,
    Bool.and_eq_true, decide_eq_true_eq, Bool.or_false, Char.toNat] at blank
  have codes : 'A'.val.toNat = 65 ∧ 'Z'.val.toNat = 90 ∧ 'a'.val.toNat = 97 ∧ 'z'.val.toNat = 122 ∧
      '0'.val.toNat = 48 ∧ '9'.val.toNat = 57 ∧ '_'.val.toNat = 95 := by decide
  have letters : character.isAlpha = (decide (character.val ≥ 'A'.val ∧ character.val ≤ 'Z'.val) ||
      (decide (character.val ≥ 'a'.val) && decide (character.val ≤ 'z'.val))) := rfl
  simp only [DottedName.isPart, Char.isAlphanum, letters, Char.isDigit, Bool.or_eq_false_iff, beq_eq_false_iff_ne,
    Bool.and_eq_false_iff, decide_eq_false_iff_not, UInt32.le_iff_toNat_le, ge_iff_le]
  refine ⟨by omega, ?_⟩
  rintro rfl
  omega

theorem not_isBlank_of_isStart {character : Char} (start : DottedName.isStart character = true) :
    Text.isBlank character = false := by
  cases blank : Text.isBlank character with
  | false => rfl
  | true =>
      have part := isPart_of_isStart start
      rw [not_isPart_of_isBlank blank] at part
      cases part

/-- A dotted segment does not go on with the segment before it. -/
theorem stops_of_mem_dottedSegment {piece : List Char} (member : piece ∈ dottedSegment) (rest : List Char) :
    Text.Stops DottedName.isPart (piece ++ rest) := by
  rcases mem_dottedSegment_iff.mp member with ⟨before, after, inner, rfl, beforeBlank, _, _⟩
  cases before with
  | nil => exact Text.stops_cons_iff.mpr (by decide)
  | cons first others => exact Text.stops_cons_iff.mpr (not_isPart_of_isBlank (beforeBlank first List.mem_cons_self))

/-- Neither do several of them. -/
theorem stops_of_dotted {pieces : List (List Char)} {rest : List Char}
    (dotted : forall piece, piece ∈ pieces -> piece ∈ dottedSegment) (stops : Text.Stops DottedName.isPart rest) :
    Text.Stops DottedName.isPart (pieces.flatten ++ rest) := by
  cases pieces with
  | nil => exact stops
  | cons piece pieces =>
      rw [List.flatten_cons, List.append_assoc]
      exact stops_of_mem_dottedSegment (dotted piece List.mem_cons_self) _

/-! ## A piece that begins a text is found whole -/

/-- What a search for a piece owes to any such piece at the front of a text: it
finds one that is no shorter, and that very piece if something else follows. -/
def FoundWhole (found : Option (List Char × List Char)) (piece tail : List Char) : Prop :=
  ∃ longest after, found = some (longest, after) ∧ piece.length ≤ longest.length ∧
    (tail ≠ [] -> longest = piece ∧ tail <+: after)

theorem foundWhole_segment? {piece tail text : List Char} (member : piece ∈ segment)
    (stops : Text.Stops DottedName.isPart tail) (begins : piece ++ tail <+: text) :
    FoundWhole (DottedName.segment? text) piece tail := by
  rcases begins with ⟨rest, rfl⟩
  rcases mem_segment_iff.mp member with ⟨first, others, rfl, start, parts⟩
  refine ⟨first :: (others ++ tail ++ rest).takeWhile DottedName.isPart,
    (others ++ tail ++ rest).dropWhile DottedName.isPart, ?_, ?_, ?_⟩
  · simp only [List.cons_append, DottedName.segment?, start, if_true]
  · have inside : others <+: (others ++ tail ++ rest).takeWhile DottedName.isPart :=
      Text.prefix_takeWhile parts (by rw [List.append_assoc]; exact List.prefix_append others (tail ++ rest))
    exact Nat.succ_le_succ inside.length_le
  · intro notEmpty
    have stopsLater : Text.Stops DottedName.isPart (tail ++ rest) := by
      cases tail with
      | nil => exact absurd rfl notEmpty
      | cons next tail => exact Text.stops_cons_iff.mpr (Text.stops_cons_iff.mp stops)
    rw [List.append_assoc, Text.takeWhile_append_of_stops parts stopsLater,
      Text.dropWhile_append_of_stops parts stopsLater]
    exact ⟨rfl, List.prefix_append tail rest⟩

theorem foundWhole_dottedSegment? {piece tail text : List Char} (member : piece ∈ dottedSegment)
    (stops : Text.Stops DottedName.isPart tail) (begins : piece ++ tail <+: text) :
    FoundWhole (DottedName.dottedSegment? text) piece tail := by
  rcases begins with ⟨rest, rfl⟩
  rcases mem_dottedSegment_iff.mp member with ⟨before, after, inner, rfl, beforeBlank, afterBlank, inSegment⟩
  have atDot : Text.Stops Text.isBlank ('.' :: (after ++ (inner ++ tail ++ rest))) :=
    Text.stops_cons_iff.mpr (by decide)
  have atInner : Text.Stops Text.isBlank (inner ++ tail ++ rest) := by
    rcases mem_segment_iff.mp inSegment with ⟨first, others, rfl, start, _⟩
    exact Text.stops_cons_iff.mpr (not_isBlank_of_isStart start)
  have whole : before ++ '.' :: after ++ inner ++ tail ++ rest =
      before ++ '.' :: (after ++ (inner ++ tail ++ rest)) := by
    simp only [List.append_assoc, List.cons_append]
  rcases foundWhole_segment? inSegment stops (List.prefix_append (inner ++ tail) rest) with
    ⟨longest, remaining, found, longer, exact⟩
  refine ⟨before ++ '.' :: after ++ longest, remaining, ?_, ?_, ?_⟩
  · rw [whole]
    simp only [DottedName.dottedSegment?, Text.dropWhile_append_of_stops beforeBlank atDot,
      Text.takeWhile_append_of_stops beforeBlank atDot, Text.dropWhile_append_of_stops afterBlank atInner,
      Text.takeWhile_append_of_stops afterBlank atInner, found, Option.map_some]
  · simp only [List.length_append, List.length_cons]
    omega
  · intro notEmpty
    rw [(exact notEmpty).1]
    exact ⟨rfl, (exact notEmpty).2⟩

/-! ## The walk finds the longest name -/

theorem mem_segment_of_segment? {text found after : List Char}
    (here : DottedName.segment? text = some (found, after)) : found ∈ segment := by
  cases text with
  | nil => cases here
  | cons first rest =>
      rw [DottedName.segment?] at here
      by_cases start : DottedName.isStart first = true
      · rw [if_pos start] at here
        cases here
        exact mem_segment_iff.mpr ⟨first, _, rfl, start, fun character inside => List.mem_takeWhile_imp inside⟩
      · rw [if_neg start] at here
        cases here

theorem mem_dottedSegment_of_dottedSegment? {text found after : List Char}
    (here : DottedName.dottedSegment? text = some (found, after)) : found ∈ dottedSegment := by
  rw [DottedName.dottedSegment?] at here
  split at here
  · next rest dot =>
      simp only [Option.map_eq_some_iff, Prod.mk.injEq] at here
      rcases here with ⟨⟨piece, remaining⟩, segmentHere, rfl, _⟩
      exact mem_dottedSegment_iff.mpr ⟨text.takeWhile Text.isBlank, rest.takeWhile Text.isBlank, piece, rfl,
        fun character inside => List.mem_takeWhile_imp inside, fun character inside => List.mem_takeWhile_imp inside,
        mem_segment_of_segment? segmentHere⟩
  · cases here

theorem dottedSegments_of_none {text : List Char} (stops : DottedName.dottedSegment? text = none) :
    DottedName.dottedSegments text = ([], text) := by
  rw [DottedName.dottedSegments]
  split
  · rfl
  · next segment after found => rw [stops] at found; cases found

theorem dottedSegments_of_some {text piece after : List Char}
    (found : DottedName.dottedSegment? text = some (piece, after)) :
    DottedName.dottedSegments text =
      (piece ++ (DottedName.dottedSegments after).1, (DottedName.dottedSegments after).2) := by
  rw [DottedName.dottedSegments]
  split
  · next stops => rw [stops] at found; cases found
  · next other rest again =>
      rw [found] at again
      cases again
      rfl

theorem dottedSegments_mem_kstar (text : List Char) : (DottedName.dottedSegments text).1 ∈ dottedSegment∗ := by
  fun_induction DottedName.dottedSegments text with
  | case1 text stops => exact Language.nil_mem_kstar _
  | case2 text piece after found _ segments rest equal inductionHypothesis =>
      rw [equal] at inductionHypothesis
      exact append_mem_kstar (mem_dottedSegment_of_dottedSegment? found) inductionHypothesis

theorem length_le_dottedSegments (pieces : List (List Char)) (text : List Char)
    (dotted : forall piece, piece ∈ pieces -> piece ∈ dottedSegment) (begins : pieces.flatten <+: text) :
    pieces.flatten.length ≤ (DottedName.dottedSegments text).1.length := by
  induction pieces generalizing text with
  | nil => exact Nat.zero_le _
  | cons piece pieces inductionHypothesis =>
      have here := dotted piece List.mem_cons_self
      have others : forall other, other ∈ pieces -> other ∈ dottedSegment := fun other listed =>
        dotted other (List.mem_cons_of_mem piece listed)
      have stops : Text.Stops DottedName.isPart pieces.flatten :=
        List.append_nil pieces.flatten ▸ stops_of_dotted others Text.stops_nil
      rcases foundWhole_dottedSegment? here stops begins with ⟨longest, after, found, longer, exact⟩
      rw [dottedSegments_of_some found, List.flatten_cons, List.length_append, List.length_append]
      by_cases last : pieces.flatten = []
      · rw [last, List.length_nil]
        omega
      · rw [(exact last).1]
        exact Nat.add_le_add_left (inductionHypothesis after others (exact last).2) _

/-- What the walk finds is a name. -/
theorem mem_name_of_front? {text found after : List Char} (walked : DottedName.front? text = some (found, after)) :
    found ∈ name.language := by
  simp only [DottedName.front?, Option.map_eq_some_iff, Prod.mk.injEq] at walked
  rcases walked with ⟨⟨first, rest⟩, segmentHere, rfl, _⟩
  exact Language.append_mem_mul (mem_segment_of_segment? segmentHere) (dottedSegments_mem_kstar rest)

/-- A text that begins with a name begins with one for the walk, which is no shorter. -/
theorem front?_of_prefix {text piece : List Char} (member : piece ∈ name.language) (begins : piece <+: text) :
    ∃ found after, DottedName.front? text = some (found, after) ∧ piece.length ≤ found.length := by
  rcases Language.mem_mul.mp member with ⟨first, inSegment, others, inStar, rfl⟩
  rcases Language.mem_kstar.mp inStar with ⟨pieces, rfl, dotted⟩
  have stops : Text.Stops DottedName.isPart pieces.flatten :=
    List.append_nil pieces.flatten ▸ stops_of_dotted dotted Text.stops_nil
  rcases foundWhole_segment? inSegment stops begins with ⟨longest, after, found, longer, exact⟩
  refine ⟨longest ++ (DottedName.dottedSegments after).1, (DottedName.dottedSegments after).2, ?_, ?_⟩
  · simp only [DottedName.front?, found, Option.map_some]
  · rw [List.length_append, List.length_append]
    by_cases last : pieces.flatten = []
    · rw [last, List.length_nil]
      omega
    · rw [(exact last).1]
      exact Nat.add_le_add_left (length_le_dottedSegments pieces after dotted (exact last).2) _

/-! ## Where a name ends -/

/-- What is found whole is all that was there. -/
theorem FoundWhole.exact {found : Option (List Char × List Char)} {piece tail : List Char}
    (whole : FoundWhole found piece tail)
    (parts : forall longest after, found = some (longest, after) -> piece ++ tail = longest ++ after) :
    found = some (piece, tail) := by
  rcases whole with ⟨longest, after, isFound, longer, same⟩
  have sameText := parts longest after isFound
  have samePiece : longest = piece := by
    by_cases last : tail = []
    · rw [last, List.append_nil] at sameText
      have lengths := congrArg List.length sameText
      rw [List.length_append] at lengths
      have empty : after = [] := List.eq_nil_of_length_eq_zero (by omega)
      rw [sameText, empty, List.append_nil]
    · exact (same last).1
  rw [samePiece] at sameText isFound
  rw [isFound, List.append_cancel_left sameText]

theorem segment?_append {piece tail : List Char} (member : piece ∈ segment)
    (stops : Text.Stops DottedName.isPart tail) : DottedName.segment? (piece ++ tail) = some (piece, tail) :=
  (foundWhole_segment? member stops (List.prefix_refl _)).exact
    fun _ _ found => (DottedName.eq_of_segment? found).1

theorem dottedSegment?_append {piece tail : List Char} (member : piece ∈ dottedSegment)
    (stops : Text.Stops DottedName.isPart tail) : DottedName.dottedSegment? (piece ++ tail) = some (piece, tail) :=
  (foundWhole_dottedSegment? member stops (List.prefix_refl _)).exact
    fun _ _ found => (DottedName.eq_of_dottedSegment? found).1

/-- A text whose first character that is not blank is no dot. -/
def NoDot (text : List Char) : Prop :=
  Text.Stops (fun character => character == '.') (text.dropWhile Text.isBlank)

/-- A text with which no name goes on. -/
structure EndsName (text : List Char) : Prop where
  notPart : Text.Stops DottedName.isPart text
  noDot : NoDot text

theorem EndsName.dottedSegment? {text : List Char} (ends : EndsName text) :
    DottedName.dottedSegment? text = none := by
  rw [DottedName.dottedSegment?]
  split
  · next rest dot =>
      have dotless := ends.noDot '.' (by rw [dot]; rfl)
      cases dotless
  · rfl

theorem dottedSegments_append_of_ends (pieces : List (List Char)) {rest : List Char}
    (dotted : forall piece, piece ∈ pieces -> piece ∈ dottedSegment) (ends : EndsName rest) :
    DottedName.dottedSegments (pieces.flatten ++ rest) = (pieces.flatten, rest) := by
  induction pieces with
  | nil => exact dottedSegments_of_none ends.dottedSegment?
  | cons piece pieces inductionHypothesis =>
      have others : forall other, other ∈ pieces -> other ∈ dottedSegment := fun other listed =>
        dotted other (List.mem_cons_of_mem piece listed)
      have found := dottedSegment?_append (dotted piece List.mem_cons_self) (stops_of_dotted others ends.notPart)
      rw [List.flatten_cons, List.append_assoc, dottedSegments_of_some found, inductionHypothesis others]

/-- A name is found whole where it ends. -/
theorem front?_append {text rest : List Char} (member : text ∈ name.language) (ends : EndsName rest) :
    DottedName.front? (text ++ rest) = some (text, rest) := by
  rcases Language.mem_mul.mp member with ⟨first, inSegment, others, inStar, rfl⟩
  rcases Language.mem_kstar.mp inStar with ⟨pieces, rfl, dotted⟩
  simp only [List.append_assoc, DottedName.front?, Option.map_some,
    segment?_append inSegment (stops_of_dotted dotted ends.notPart), dottedSegments_append_of_ends pieces dotted ends]

end LexicalRule

end TemplateFile
