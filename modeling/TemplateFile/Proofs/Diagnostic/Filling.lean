import TemplateFile.Grammar.File
import TemplateFile.Proofs.Diagnostic.Log
import TemplateFile.Proofs.Text.Stretch
import Mathlib.Data.List.Forall2

namespace TemplateFile
namespace MessageFormat

/-!
# Filling is one substitution

`pieces` walks along a format.  `CutAtSlots` says what it finds without walking:
the format is cut around its first slot, then what follows that slot is cut in
the same way, and so on until no slot is left.  A format can be cut in one way
only, and the arguments have no part in it.

A message is what comes of the cut when each slot gives way to the argument with
its number.  So nothing that an argument brings along is ever taken for a slot,
neither alone nor together with what stands around it.  A slot stays as it is
written if there is no such argument, if its number does not fit in sixty-four
bits, or if its digits are not those of ASCII.
-/

/-- The digits of a slot: one or more decimal digits. -/
structure IsNumber (digits : List Char) : Prop where
  notEmpty : digits ≠ []
  decimal : forall digit, digit ∈ digits -> Text.isDecimalDigit digit = true

/-- A slot stands at the front of the text. -/
def BeginsWithSlot (text : List Char) : Prop :=
  ∃ digits, IsNumber digits ∧ (Piece.slot digits).written <+: text

/-- A slot stands somewhere in the text. -/
def HasSlot (text : List Char) : Prop :=
  ∃ digits, IsNumber digits ∧ (Piece.slot digits).written <:+: text

/-- The text is cut around its first slot: no slot begins earlier. -/
structure FirstSlot (text before digits after : List Char) : Prop where
  parts : text = before ++ (Piece.slot digits).written ++ after
  number : IsNumber digits
  first : forall other more, IsNumber more -> other ++ (Piece.slot more).written <+: text ->
    before.length ≤ other.length

/-- The digits of a slot, and the text between it and the slot before it. -/
structure Segment where
  before : List Char
  digits : List Char

/-- A text is cut at all of its slots, from left to right. -/
inductive CutAtSlots : List Char -> List Segment -> List Char -> Prop where
  | finished {text : List Char} (free : ¬ HasSlot text) : CutAtSlots text [] text
  | next {text before digits after last : List Char} {segments : List Segment}
      (first : FirstSlot text before digits after) (others : CutAtSlots after segments last) :
      CutAtSlots text (⟨before, digits⟩ :: segments) last

/-- The number of a slot, in ASCII digits and with any leading zeros, is the
place of an argument. -/
structure Names (arguments : List String) (digits : List Char) (argument : String) : Prop where
  ascii : digits.all Char.isDigit = true
  fits : Nat.ofDigitChars 10 digits 0 < Text.numeralLimit
  found : arguments[Nat.ofDigitChars 10 digits 0]? = some argument

/-- What stands in the place of a slot: its argument, or else the slot itself. -/
inductive Replaces (arguments : List String) (digits : List Char) : List Char -> Prop where
  | argument {argument : String} (named : Names arguments digits argument) : Replaces arguments digits argument.toList
  | written (unnamed : forall argument, ¬ Names arguments digits argument) :
      Replaces arguments digits (Piece.slot digits).written

/-- The text that a cut becomes when other texts take the places of the slots. -/
def joined (segments : List Segment) (texts : List (List Char)) (last : List Char) : List Char :=
  (List.zipWith (fun segment text => segment.before ++ text) segments texts).flatten ++ last

/-! ## The first slot -/

variable {text before digits after rest last : List Char}

theorem written_append (digits rest : List Char) :
    (Piece.slot digits).written ++ rest = '\x7b' :: (digits ++ '\x7d' :: rest) := by
  simp only [Piece.written, List.cons_append, List.append_assoc, List.nil_append]

theorem slot?_written (number : IsNumber digits) (rest : List Char) :
    slot? ('\x7b' :: (digits ++ '\x7d' :: rest)) = some (digits, rest) := by
  have stops : Text.Stops Text.isDecimalDigit ('\x7d' :: rest) := Text.stops_cons_iff.mpr (by decide)
  have digitsHere := Text.takeWhile_append_of_stops number.decimal stops
  have afterDigits := Text.dropWhile_append_of_stops number.decimal stops
  rcases List.exists_cons_of_ne_nil number.notEmpty with ⟨digit, others, rfl⟩
  simp only [slot?, digitsHere, afterDigits]

theorem isNumber_of_slot? (found : slot? text = some (digits, rest)) : IsNumber digits := by
  unfold slot? at found
  split at found
  · split at found
    · next digit others after digitsHere _ =>
        cases found
        rw [← digitsHere]
        exact ⟨by rw [digitsHere]; exact List.cons_ne_nil _ _, fun _ => List.mem_takeWhile_imp⟩
    · cases found
  · cases found

theorem slot?_eq_none (free : ¬ BeginsWithSlot text) : slot? text = none := by
  cases found : slot? text with
  | none => rfl
  | some cut => exact absurd ⟨cut.1, isNumber_of_slot? found, cut.2, (eq_of_slot? found).symm⟩ free

theorem pieces_of_slot? {character : Char} {others : List Char}
    (here : slot? (character :: others) = some (digits, rest)) :
    pieces (character :: others) = .slot digits :: pieces rest := by
  rw [pieces]
  split
  · next cutDigits cutRest found =>
      rw [here] at found
      cases found
      rfl
  · next found =>
      rw [here] at found
      cases found

theorem pieces_cons {character : Char} (notHere : ¬ BeginsWithSlot (character :: rest)) :
    pieces (character :: rest) = .literal character :: pieces rest := by
  have none := slot?_eq_none notHere
  rw [pieces]
  split
  · next found =>
      rw [none] at found
      cases found
  · rfl

theorem pieces_eq_literals (free : ¬ HasSlot text) : pieces text = text.map .literal := by
  induction text with
  | nil => rw [pieces, List.map_nil]
  | cons character rest inductionHypothesis =>
      have notHere : ¬ BeginsWithSlot (character :: rest) := by
        rintro ⟨digits, number, begins⟩
        exact free ⟨digits, number, begins.isInfix⟩
      have freeRest : ¬ HasSlot rest := by
        rintro ⟨digits, number, inside⟩
        exact free ⟨digits, number, List.infix_cons_iff.mpr (Or.inr inside)⟩
      rw [pieces_cons notHere, inductionHypothesis freeRest, List.map_cons]

namespace FirstSlot

/-- A slot at the front is the first one. -/
theorem front (number : IsNumber digits) (after : List Char) :
    FirstSlot ((Piece.slot digits).written ++ after) [] digits after where
  parts := rfl
  number := number
  first := fun _ _ _ _ => Nat.zero_le _

/-- Without a slot at the front, the first one is that of the rest. -/
theorem cons {character : Char} (notHere : ¬ BeginsWithSlot (character :: rest))
    (found : FirstSlot rest before digits after) :
    FirstSlot (character :: rest) (character :: before) digits after where
  parts := by rw [found.parts]; rfl
  number := found.number
  first := by
    intro other more number begins
    cases other with
    | nil => exact absurd ⟨more, number, begins⟩ notHere
    | cons first others =>
        exact Nat.succ_le_succ (found.first others more number (List.cons_prefix_cons.mp begins).2)

/-- The walk along a text comes to the first slot, and goes on after it. -/
theorem pieces_eq (found : FirstSlot text before digits after) :
    pieces text = before.map .literal ++ .slot digits :: pieces after := by
  induction before generalizing text with
  | nil =>
      rw [found.parts, List.nil_append, written_append, pieces_of_slot? (slot?_written found.number after)]
      rfl
  | cons character shorter inductionHypothesis =>
      have parts : text = character :: (shorter ++ (Piece.slot digits).written ++ after) := found.parts
      subst parts
      have notHere : ¬ BeginsWithSlot (character :: (shorter ++ (Piece.slot digits).written ++ after)) := by
        rintro ⟨more, number, begins⟩
        exact absurd (found.first [] more number begins) (Nat.not_succ_le_zero shorter.length)
      have inRest : FirstSlot (shorter ++ (Piece.slot digits).written ++ after) shorter digits after :=
        { parts := rfl
          number := found.number
          first := by
            intro other more number begins
            have begun : character :: other ++ (Piece.slot more).written <+:
                character :: (shorter ++ (Piece.slot digits).written ++ after) :=
              List.cons_prefix_cons.mpr ⟨rfl, begins⟩
            exact Nat.le_of_succ_le_succ (found.first (character :: other) more number begun) }
      rw [pieces_cons notHere, inductionHypothesis inRest]
      rfl

/-- There is only one first slot. -/
theorem unique {otherBefore otherDigits otherAfter : List Char} (found : FirstSlot text before digits after)
    (again : FirstSlot text otherBefore otherDigits otherAfter) :
    before = otherBefore ∧ digits = otherDigits ∧ after = otherAfter := by
  have shorter := found.first otherBefore otherDigits again.number ⟨otherAfter, again.parts.symm⟩
  have longer := again.first before digits found.number ⟨after, found.parts.symm⟩
  have sameText : before ++ ((Piece.slot digits).written ++ after) =
      otherBefore ++ ((Piece.slot otherDigits).written ++ otherAfter) := by
    rw [← List.append_assoc, ← List.append_assoc, ← found.parts, ← again.parts]
  have parts := List.append_inj sameText (Nat.le_antisymm shorter longer)
  -- A slot ends with the first character after its digits that is none, so its digits are known by what follows.
  have slots := congrArg slot? parts.2
  rw [written_append, written_append, slot?_written found.number, slot?_written again.number] at slots
  cases slots
  exact ⟨parts.1, rfl, rfl⟩

end FirstSlot

/-- A text with a slot has a first one. -/
theorem HasSlot.exists_first (slotted : HasSlot text) : ∃ before digits after, FirstSlot text before digits after := by
  rcases slotted with ⟨digits, number, inside⟩
  induction text with
  | nil =>
      rw [List.infix_nil] at inside
      cases inside
  | cons character rest inductionHypothesis =>
      by_cases here : BeginsWithSlot (character :: rest)
      · rcases here with ⟨more, isNumber, after, parts⟩
        rw [← parts]
        exact ⟨_, _, _, FirstSlot.front isNumber after⟩
      · rcases List.infix_cons_iff.mp inside with atFront | inRest
        · exact absurd ⟨digits, number, atFront⟩ here
        · rcases inductionHypothesis inRest with ⟨before, cutDigits, after, found⟩
          exact ⟨_, _, _, found.cons here⟩

/-! ## The whole cut -/

/-- What a slot is filled with is what belongs in its place. -/
theorem replaces_filled (arguments : List String) (notEmpty : digits ≠ []) :
    Replaces arguments digits (Piece.filled arguments (.slot digits)) := by
  by_cases named : ∃ argument, Names arguments digits argument
  · rcases named with ⟨argument, names⟩
    have number : Text.numeral? digits = some (Nat.ofDigitChars 10 digits 0) :=
      if_pos ⟨notEmpty, names.ascii, names.fits⟩
    rw [Piece.filled_slot number names.found]
    exact .argument names
  · have unnamed := not_exists.mp named
    have nothing : ((Text.numeral? digits).bind fun index => arguments[index]?) = none := by
      unfold Text.numeral?
      split
      · next readable =>
          cases found : arguments[Nat.ofDigitChars 10 digits 0]? with
          | none => exact found
          | some argument => exact absurd ⟨readable.2.1, readable.2.2, found⟩ (unnamed argument)
      · rfl
    simp only [Piece.filled, nothing]
    exact .written unnamed

namespace CutAtSlots

variable {segments : List Segment}

/-- Every text can be cut. -/
theorem exists_cut (text : List Char) : ∃ segments last, CutAtSlots text segments last := by
  by_cases slotted : HasSlot text
  · rcases slotted.exists_first with ⟨before, digits, after, first⟩
    have shorter : after.length < text.length := by
      rw [first.parts]
      simp only [Piece.written, List.length_append, List.length_cons]
      omega
    rcases exists_cut after with ⟨segments, last, others⟩
    exact ⟨_, _, .next first others⟩
  · exact ⟨_, _, .finished slotted⟩
termination_by text.length

/-- There is only one way to cut a text. -/
theorem unique {otherSegments : List Segment} {otherLast : List Char} (cut : CutAtSlots text segments last)
    (again : CutAtSlots text otherSegments otherLast) : otherSegments = segments ∧ otherLast = last := by
  induction cut generalizing otherSegments otherLast with
  | finished free =>
      cases again with
      | finished _ => exact ⟨rfl, rfl⟩
      | next first _ => exact absurd ⟨_, first.number, _, _, first.parts.symm⟩ free
  | next first _ inductionHypothesis =>
      cases again with
      | finished free => exact absurd ⟨_, first.number, _, _, first.parts.symm⟩ free
      | next other others =>
          rcases first.unique other with ⟨rfl, rfl, rfl⟩
          rcases inductionHypothesis others with ⟨rfl, rfl⟩
          exact ⟨rfl, rfl⟩

/-- The walk along a text finds the cut. -/
theorem flatMap_filled (cut : CutAtSlots text segments last) (arguments : List String) :
    (pieces text).flatMap (Piece.filled arguments) =
      joined segments (segments.map fun segment => Piece.filled arguments (.slot segment.digits)) last := by
  induction cut with
  | finished free =>
      rw [pieces_eq_literals free, flatMap_filled_literal]
      rfl
  | @next text before digits after last segments first others inductionHypothesis =>
      rw [first.pieces_eq, List.flatMap_append, flatMap_filled_literal, List.flatMap_cons, inductionHypothesis]
      simp only [joined, List.map_cons, List.zipWith_cons_cons, List.flatten_cons, List.append_assoc]

/-- Every slot is filled with what stands in its place. -/
theorem forall₂_replaces (cut : CutAtSlots text segments last) (arguments : List String) :
    List.Forall₂ (fun segment text => Replaces arguments segment.digits text) segments
      (segments.map fun segment => Piece.filled arguments (.slot segment.digits)) := by
  induction cut with
  | finished free => exact .nil
  | next first others inductionHypothesis =>
      exact .cons (replaces_filled arguments first.number.notEmpty) inductionHypothesis

end CutAtSlots

/-- The arguments take the places of the slots of a format, and what they bring
along is not looked at again: the cut is the same for all arguments.  Therefore
whatever is wrong with a file or with a body is reported word for word. -/
theorem fill_substitutes :
    (forall format : MessageFormat, ∃ segments last,
      (forall others otherLast, CutAtSlots format.pattern.toList others otherLast ↔
        others = segments ∧ otherLast = last) ∧
      forall arguments, ∃ texts,
        List.Forall₂ (fun segment text => Replaces arguments segment.digits text) segments texts ∧
        (format.fill arguments).toList = joined segments texts last) ∧
    (forall message, syntaxError.fill [message] = message) ∧
    (forall path name message, templateBodyFailure.fill [path, name, message] =
      "In file " ++ path ++ ", template " ++ name ++ ": " ++ message) ∧
    (forall (error : SyntaxError) tips, (error.toReport.toDiagnostic tips).message = error.fault.message) ∧
    (forall request (template : Template) failure tips,
      ((ParseState.failureReport request template failure).toDiagnostic tips).message =
        "In file " ++ request.path ++ ", template " ++ template.displayName ++ ": " ++
          TemplateText.shiftLineNumber failure.message request.start.line) := by
  refine ⟨fun format => ?_, fill_syntaxError, fill_templateBodyFailure, fun error _ => ?_,
    fun request template failure _ => ?_⟩
  · rcases CutAtSlots.exists_cut format.pattern.toList with ⟨segments, last, cut⟩
    refine ⟨segments, last, fun others otherLast => ⟨cut.unique, ?_⟩, fun arguments => ?_⟩
    · rintro ⟨rfl, rfl⟩
      exact cut
    · refine ⟨_, cut.forall₂_replaces arguments, ?_⟩
      rw [fill, String.toList_ofList, cut.flatMap_filled]
  · exact fill_syntaxError error.fault.message
  · exact fill_templateBodyFailure request.path template.displayName _

/-- Braces that make no slot, leading zeros, a slot without an argument, and
arguments that look like slots or complete one. -/
example : fill ⟨"", "\x7b1\x7b0\x7d \x7b\x7b01\x7d\x7d \x7b2\x7d"⟩ ["\x7b1\x7d", "0"] =
    "\x7b1\x7b1\x7d \x7b0\x7d \x7b2\x7d" := by decide +kernel

end MessageFormat
end TemplateFile
