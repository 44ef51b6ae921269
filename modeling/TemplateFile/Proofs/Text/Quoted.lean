import TemplateFile.Proofs.Text.Stretch
import TemplateFile.Text.Quoted
import Mathlib.Data.List.Forall2

namespace TemplateFile
namespace Text

/-!
# Quoted text can be read back

Inside a quoted text a character is written in one of three ways: by a short
escape, by its code, or as itself.  Quotes, backslashes and control characters
are never written as themselves.  Which way is chosen for the others makes no
difference here, and it might well depend on the place where a character
stands: `unquote?` undoes the escapes and finds the end of the text all the same.

No written form is the beginning of another one, and a quote inside the text
always comes after a backslash that escapes it.  So a quoted text ends at the
first quote that is not escaped, whatever follows.
-/

/-- The character for which a letter stands after a backslash. -/
def escapedBy? : Char -> Option Char
  | '0' => some '\x00'
  | 't' => some '\t'
  | 'r' => some '\r'
  | 'n' => some '\n'
  | '\\' => some '\\'
  | '"' => some '"'
  | _ => none

/-- The value of a hexadecimal digit. -/
def hexValue (digit : Char) : Nat :=
  if digit.isDigit then digit.toNat - '0'.toNat else digit.toNat - 'a'.toNat + 10

/-- The number that hexadecimal digits stand for. -/
def ofHexDigits (digits : List Char) : Nat := digits.foldl (fun value digit => 16 * value + hexValue digit) 0

/-- The character at the front of a text, with its escape undone, and what
follows its written form. -/
def unescape? : List Char -> Option (Char × List Char)
  | '\\' :: 'u' :: '\x7b' :: text =>
      match text.dropWhile fun digit => digit != '\x7d' with
      | '\x7d' :: rest => some (Char.ofNat (ofHexDigits (text.takeWhile fun digit => digit != '\x7d')), rest)
      | _ => none
  | '\\' :: letter :: rest => (escapedBy? letter).map fun character => (character, rest)
  | ['\\'] => none
  | character :: rest => some (character, rest)
  | [] => none

/-- What follows a written form is shorter than the text. -/
theorem length_lt_of_unescape? {text rest : List Char} {character : Char}
    (found : unescape? text = some (character, rest)) : rest.length < text.length := by
  unfold unescape? at found
  split at found
  · next inside =>
      split at found
      · next after ends =>
          cases found
          have shorter := (List.dropWhile_suffix (fun digit => digit != '\x7d') (l := inside)).length_le
          rw [ends] at shorter
          simp only [List.length_cons] at shorter ⊢
          omega
      · cases found
  · next letter after _ =>
      rcases Option.map_eq_some_iff.mp found with ⟨_, _, same⟩
      cases same
      simp only [List.length_cons]
      omega
  · cases found
  · cases found
    exact Nat.lt_succ_self _
  · cases found

/-- The text up to the quote that ends it, with all escapes undone, and what
follows the quote. -/
def unquoteRest? (text : List Char) : Option (List Char × List Char) :=
  match text with
  | [] => none
  | '"' :: rest => some ([], rest)
  | first :: others =>
      match found : unescape? (first :: others) with
      | none => none
      | some (character, rest) =>
          have := length_lt_of_unescape? found
          (unquoteRest? rest).map fun (inside, after) => (character :: inside, after)
termination_by text.length
decreasing_by exact this

/-- The text that stands quoted at the front of a text, and what follows it. -/
def unquote? : List Char -> Option (List Char × List Char)
  | '"' :: text => unquoteRest? text
  | _ => none

/-- Whether a character is a control character. -/
def IsControl (character : Char) : Prop :=
  character.toNat < 0x20 ∨ 0x7F ≤ character.toNat ∧ character.toNat < 0xA0

instance (character : Char) : Decidable (IsControl character) := inferInstanceAs (Decidable (_ ∨ _))

/-- The ways to write a character inside a quoted text. -/
inductive Writes : Char -> List Char -> Prop where
  | short {letter character : Char} (stands : escapedBy? letter = some character) : Writes character ['\\', letter]
  | code (character : Char) :
      Writes character (['\\', 'u', '\x7b'] ++ Nat.toDigits 16 character.toNat ++ ['\x7d'])
  | itself {character : Char} (visible : ¬ IsControl character) (notQuote : character ≠ '"')
      (notBackslash : character ≠ '\\') : Writes character [character]

/-- A text is quoted: each character is written in one of its ways, and the
whole stands between quotes. -/
def Quotes (text quoted : List Char) : Prop :=
  ∃ forms, List.Forall₂ Writes text forms ∧ quoted = '"' :: forms.flatten ++ ['"']

/-- Whether a text ends with a backslash that escapes what follows.  A backslash
that is escaped itself does not. -/
def endsEscaping (text : List Char) : Bool :=
  text.foldl (fun escaping character => !escaping && character == '\\') false

/-- Every quote in the text is escaped, and what follows the text is not. -/
structure Escaped (text : List Char) : Prop where
  closed : endsEscaping text = false
  quotes : forall front back, text = front ++ '"' :: back -> endsEscaping front = true

/-- Nothing inside a quoted text breaks out of it: there are no control
characters, and the first quote that is not escaped is the one at its end. -/
structure Sealed (quoted : List Char) : Prop where
  noControl : forall character, character ∈ quoted -> ¬ IsControl character
  ends : ∃ inside, quoted = '"' :: inside ++ ['"'] ∧ Escaped inside

/-! ## Hexadecimal digits -/

theorem exists_digitChar_of_mem_toDigits {number : Nat} {digit : Char} (member : digit ∈ Nat.toDigits 16 number) :
    ∃ value, value < 16 ∧ digit = value.digitChar := by
  induction number using Nat.strongRecOn with
  | ind number inductionHypothesis =>
      rw [Nat.toDigits_eq_if (by decide)] at member
      split at member
      · next small => exact ⟨number, small, List.mem_singleton.mp member⟩
      · next large =>
          rcases List.mem_append.mp member with earlier | last
          · exact inductionHypothesis (number / 16) (by omega) earlier
          · exact ⟨number % 16, Nat.mod_lt number (by decide), List.mem_singleton.mp last⟩

theorem hexValue_digitChar : forall value, value < 16 -> hexValue value.digitChar = value := by decide

/-- The digits of a number stand for the number. -/
theorem ofHexDigits_toDigits (number : Nat) : ofHexDigits (Nat.toDigits 16 number) = number := by
  induction number using Nat.strongRecOn with
  | ind number inductionHypothesis =>
      rw [Nat.toDigits_eq_if (by decide)]
      split
      · next small => rw [ofHexDigits, List.foldl_cons, List.foldl_nil, hexValue_digitChar number small, Nat.mul_zero,
          Nat.zero_add]
      · next large =>
          have front := inductionHypothesis (number / 16) (by omega)
          rw [ofHexDigits] at front
          rw [ofHexDigits, List.foldl_append, front, List.foldl_cons, List.foldl_nil,
            hexValue_digitChar _ (Nat.mod_lt number (by decide))]
          omega

/-- What a hexadecimal digit is not. -/
theorem digitChar_plain : forall value, value < 16 -> value.digitChar ≠ '\x7d' ∧ value.digitChar ≠ '\\' ∧
    value.digitChar ≠ '"' ∧ ¬ IsControl value.digitChar := by decide

/-! ## Written forms -/

namespace Writes

variable {character : Char} {form : List Char}

/-- A written form is read back, whatever follows it. -/
theorem unescape?_append (writes : Writes character form) (rest : List Char) :
    unescape? (form ++ rest) = some (character, rest) := by
  cases writes with
  | short stands =>
      unfold escapedBy? at stands
      split at stands
      all_goals cases stands
      all_goals rfl
  | code =>
      have digits : forall digit, digit ∈ Nat.toDigits 16 character.toNat -> (digit != '\x7d') = true := by
        intro digit member
        rcases exists_digitChar_of_mem_toDigits member with ⟨value, small, rfl⟩
        exact bne_iff_ne.mpr (digitChar_plain value small).1
      have stops : Stops (fun digit => digit != '\x7d') ('\x7d' :: rest) := stops_cons_iff.mpr (by decide)
      simp only [List.append_assoc, List.cons_append, List.nil_append, unescape?,
        takeWhile_append_of_stops digits stops, dropWhile_append_of_stops digits stops, ofHexDigits_toDigits,
        Char.ofNat_toNat]
  | itself visible notQuote notBackslash =>
      rw [List.singleton_append]
      unfold unescape?
      split
      · next same => exact absurd (List.cons.inj same).1 notBackslash
      · next same => exact absurd (List.cons.inj same).1 notBackslash
      · next same => exact absurd (List.cons.inj same).1 notBackslash
      · next same => cases same; rfl
      · next same => cases same

/-- A written form does not begin with a quote. -/
theorem exists_cons (writes : Writes character form) : ∃ first others, form = first :: others ∧ first ≠ '"' := by
  cases writes with
  | short stands => exact ⟨_, _, rfl, by decide⟩
  | code => exact ⟨_, _, rfl, by decide⟩
  | itself visible notQuote notBackslash => exact ⟨_, _, rfl, notQuote⟩

theorem not_isControl_of_all {text : List Char} (all : (text.all fun other => !decide (IsControl other)) = true) :
    forall other, other ∈ text -> ¬ IsControl other := by
  intro other member
  have here := List.all_eq_true.mp all other member
  simpa only [Bool.not_eq_true', decide_eq_false_iff_not] using here

theorem not_isControl (writes : Writes character form) : forall other, other ∈ form -> ¬ IsControl other := by
  cases writes with
  | short stands =>
      unfold escapedBy? at stands
      split at stands
      all_goals cases stands
      all_goals exact not_isControl_of_all (by decide)
  | code =>
      intro other member
      rcases List.mem_append.mp member with inFront | atEnd
      · rcases List.mem_append.mp inFront with inOpening | inDigits
        · exact not_isControl_of_all (by decide) other inOpening
        · rcases exists_digitChar_of_mem_toDigits inDigits with ⟨value, small, rfl⟩
          exact (digitChar_plain value small).2.2.2
      · rw [List.mem_singleton.mp atEnd]
        decide
  | itself visible notQuote notBackslash =>
      intro other member
      rw [List.mem_singleton.mp member]
      exact visible

end Writes

/-! ## Escapes -/

namespace Escaped

variable {text other : List Char}

theorem nil : Escaped [] where
  closed := rfl
  quotes := fun _ _ impossible => by
    simp only [List.nil_eq, List.append_eq_nil_iff, reduceCtorEq, and_false] at impossible

/-- A backslash and the letter that it escapes. -/
theorem pair (letter : Char) : Escaped ['\\', letter] where
  closed := rfl
  quotes := by
    intro front back parts
    rcases List.cons_eq_append_iff.mp parts with ⟨_, first⟩ | ⟨others, rfl, inLetter⟩
    · cases first
    · rcases List.cons_eq_append_iff.mp inLetter with ⟨rfl, _⟩ | ⟨more, rfl, inNothing⟩
      · rfl
      · simp only [List.nil_eq, List.append_eq_nil_iff, reduceCtorEq, and_false] at inNothing

/-- A text without backslashes and quotes. -/
theorem of_notMem (noBackslash : '\\' ∉ text) (noQuote : '"' ∉ text) : Escaped text where
  closed := by
    induction text with
    | nil => rfl
    | cons first others inductionHypothesis =>
        have different : first ≠ '\\' := fun same => noBackslash (same ▸ List.mem_cons_self)
        have none := inductionHypothesis (fun later => noBackslash (List.mem_cons_of_mem _ later))
          fun later => noQuote (List.mem_cons_of_mem _ later)
        rw [endsEscaping, List.foldl_cons, beq_eq_false_iff_ne.mpr different, Bool.and_false]
        exact none
  quotes := by
    rintro front back rfl
    exact absurd (List.mem_append_right front List.mem_cons_self) noQuote

theorem endsEscaping_append (escaped : Escaped text) (more : List Char) :
    endsEscaping (text ++ more) = endsEscaping more := by
  have closed := escaped.closed
  unfold endsEscaping at closed ⊢
  rw [List.foldl_append, closed]

theorem append (escaped : Escaped text) (more : Escaped other) : Escaped (text ++ other) where
  closed := by rw [escaped.endsEscaping_append, more.closed]
  quotes := by
    intro front back parts
    rcases List.append_eq_append_iff.mp parts with ⟨gap, rfl, inOther⟩ | ⟨gap, inText, inQuote⟩
    · rw [escaped.endsEscaping_append]
      exact more.quotes gap back inOther
    · cases gap with
      | nil =>
          rw [List.append_nil] at inText
          rw [← inText, ← List.append_nil text, escaped.endsEscaping_append]
          exact more.quotes [] back inQuote.symm
      | cons first others =>
          cases (List.cons.inj inQuote).1
          exact escaped.quotes front others inText

end Escaped

theorem Writes.escaped {character : Char} {form : List Char} (writes : Writes character form) : Escaped form := by
  cases writes with
  | @short letter _ _ => exact .pair letter
  | code =>
      have free : forall {sign : Char}, sign ≠ '\x7b' -> sign ≠ '\x7d' ->
          (forall value, value < 16 -> value.digitChar ≠ sign) ->
          sign ∉ '\x7b' :: (Nat.toDigits 16 character.toNat ++ ['\x7d']) := by
        intro sign notOpening notClosing notDigit member
        rcases List.mem_cons.mp member with isOpening | inRest
        · exact notOpening isOpening
        · rcases List.mem_append.mp inRest with inDigits | isClosing
          · rcases exists_digitChar_of_mem_toDigits inDigits with ⟨value, small, same⟩
            exact notDigit value small same.symm
          · exact notClosing (List.mem_singleton.mp isClosing)
      exact (Escaped.pair 'u').append (.of_notMem
        (free (by decide) (by decide) fun value small => (digitChar_plain value small).2.1)
        (free (by decide) (by decide) fun value small => (digitChar_plain value small).2.2.1))
  | itself visible notQuote notBackslash =>
      exact .of_notMem (fun member => notBackslash (List.mem_singleton.mp member).symm)
        fun member => notQuote (List.mem_singleton.mp member).symm

/-! ## Quoted texts -/

theorem unquoteRest?_quote (rest : List Char) : unquoteRest? ('"' :: rest) = some ([], rest) := by
  rw [unquoteRest?]

theorem unquoteRest?_of_unescape? {first character : Char} {others rest : List Char} (notQuote : first ≠ '"')
    (here : unescape? (first :: others) = some (character, rest)) :
    unquoteRest? (first :: others) =
      (unquoteRest? rest).map fun (inside, after) => (character :: inside, after) := by
  rw [unquoteRest?]
  · split
    · next found =>
        rw [here] at found
        cases found
    · next found =>
        rw [here] at found
        cases found
        rfl
  · exact fun same => notQuote same

namespace Quotes

variable {text quoted : List Char}

/-- A quoted text is read back, whatever follows it. -/
theorem unquote?_append (quotes : Quotes text quoted) (rest : List Char) :
    unquote? (quoted ++ rest) = some (text, rest) := by
  rcases quotes with ⟨forms, written, rfl⟩
  have inside : unquoteRest? (forms.flatten ++ '"' :: rest) = some (text, rest) := by
    induction written with
    | nil => exact unquoteRest?_quote rest
    | @cons character form text forms writes _ inductionHypothesis =>
        have here := writes.unescape?_append (forms.flatten ++ '"' :: rest)
        rcases writes.exists_cons with ⟨first, others, rfl, notQuote⟩
        rw [List.flatten_cons, List.append_assoc]
        rw [List.cons_append] at here ⊢
        rw [unquoteRest?_of_unescape? notQuote here, inductionHypothesis]
        rfl
  rw [List.cons_append, List.cons_append, List.append_assoc, List.singleton_append]
  exact inside

/-- Nothing breaks out of a quoted text. -/
theorem isSealed (quotes : Quotes text quoted) : Sealed quoted := by
  rcases quotes with ⟨forms, written, rfl⟩
  have inside : Escaped forms.flatten ∧ forall character, character ∈ forms.flatten -> ¬ IsControl character := by
    induction written with
    | nil => exact ⟨.nil, fun _ => List.not_mem_nil.elim⟩
    | cons writes _ inductionHypothesis =>
        refine ⟨writes.escaped.append inductionHypothesis.1, fun character member => ?_⟩
        rcases List.mem_append.mp member with inForm | later
        · exact writes.not_isControl character inForm
        · exact inductionHypothesis.2 character later
  refine ⟨fun character member => ?_, _, rfl, inside.1⟩
  rcases List.mem_append.mp member with inFront | atEnd
  · rcases List.mem_cons.mp inFront with rfl | later
    · decide
    · exact inside.2 character later
  · rw [List.mem_singleton.mp atEnd]
    decide

end Quotes

/-! ## Hidden characters -/

/-- The written form of a character, by its code if it is one that `hides`
chooses and it has no short escape. -/
def escapeBy (hides : Char -> Bool) (character : Char) : List Char :=
  match character with
  | '\x00' => ['\\', '0']
  | '\t' => ['\\', 't']
  | '\r' => ['\\', 'r']
  | '\n' => ['\\', 'n']
  | '\\' => ['\\', '\\']
  | '"' => ['\\', '"']
  | character =>
      if hides character then
        ['\\', 'u', '\x7b'] ++ Nat.toDigits 16 character.toNat ++ ['\x7d']
      else [character]

/-- The written forms of the characters of a text.  What stands in front of a
character has a say in whether it is hidden. -/
def formsBy (hides : List Char -> Char -> Bool) (front : List Char) : List Char -> List (List Char)
  | [] => []
  | character :: text => escapeBy (hides front) character :: formsBy hides (front ++ [character]) text

/-- A text between quotes, with the characters that `hides` chooses hidden. -/
def quoteBy (hides : List Char -> Char -> Bool) (text : List Char) : List Char :=
  '"' :: (formsBy hides [] text).flatten ++ ['"']

/-- Control characters are hidden wherever they stand. -/
def HidesControls (hides : List Char -> Char -> Bool) : Prop :=
  forall front character, IsControl character -> hides front character = true

theorem writes_escapeBy {hides : Char -> Bool} {character : Char}
    (controls : IsControl character -> hides character = true) : Writes character (escapeBy hides character) := by
  unfold escapeBy
  split
  · exact .short rfl
  · exact .short rfl
  · exact .short rfl
  · exact .short rfl
  · exact .short rfl
  · exact .short rfl
  · next notBackslash notQuote =>
      split
      · exact .code character
      · next visible => exact .itself (fun control => visible (controls control)) notQuote notBackslash

/-- A text is quoted whatever else is hidden besides the control characters. -/
theorem quotes_quoteBy {hides : List Char -> Char -> Bool} (controls : HidesControls hides) (text : List Char) :
    Quotes text (quoteBy hides text) := by
  refine ⟨formsBy hides [] text, ?_, rfl⟩
  -- The text in front only decides which of the ways is taken.
  generalize [] = front
  induction text generalizing front with
  | nil => exact .nil
  | cons character text inductionHypothesis =>
      exact .cons (writes_escapeBy (controls front character)) (inductionHypothesis (front ++ [character]))

/-- Control characters cannot be printed. -/
theorem isUnprintable_of_isControl {character : Char} (control : IsControl character) :
    isUnprintable character = true := by
  have covered : controlCodes.covers character.toNat = true := by
    refine List.any_eq_true.mpr ?_
    rcases control with low | ⟨above, below⟩
    · refine ⟨⟨0x00, 0x1F⟩, List.mem_cons_self, ?_⟩
      simp only [Nat.zero_le, decide_true, Bool.true_and, decide_eq_true_eq]
      omega
    · refine ⟨⟨0x7F, 0xA0⟩, List.mem_cons_of_mem _ List.mem_cons_self, ?_⟩
      simp only [above, decide_true, Bool.true_and, decide_eq_true_eq]
      omega
  simp only [isUnprintable, covered, Bool.true_or]

theorem hidesControls_isHidden : HidesControls fun _ character => isHidden character :=
  fun _ _ control => by simp only [isHidden, isUnprintable_of_isControl control, Bool.true_or]

/-- Hides what cannot be printed, and a grapheme extender where there is nothing
in front for it to attach to. -/
def hidesDetached (front : List Char) (character : Char) : Bool :=
  isUnprintable character || (front.isEmpty && isGraphemeExtender character)

theorem hidesControls_hidesDetached : HidesControls hidesDetached :=
  fun _ _ control => by simp only [hidesDetached, isUnprintable_of_isControl control, Bool.true_or]

theorem escapeBy_isHidden (character : Char) : escapeBy isHidden character = escape character := rfl

/-- What messages put between quotes hides the hidden characters wherever they stand. -/
theorem toList_quote (text : String) :
    (quote text).toList = quoteBy (fun _ character => isHidden character) text.toList := by
  have forms : forall front, formsBy (fun _ character => isHidden character) front text.toList =
      text.toList.map escape := by
    induction text.toList with
    | nil => exact fun _ => rfl
    | cons character text inductionHypothesis =>
        intro front
        rw [formsBy, escapeBy_isHidden character, inductionHypothesis, List.map_cons]
  rw [quote, String.toList_ofList, quoteBy, forms, List.flatMap_def]
  rfl

end Text
end TemplateFile
