import TemplateFile.Proofs.Text.FirstOccurrence
import TemplateFile.Proofs.Text.Stretch
import TemplateFile.Tree.TemplateText

namespace TemplateFile

/-!
# Shifting the line number of a message

`lineNumber?` walks along a message.  `FirstLineNumber` says what it finds
without walking: the message is cut around the word `line`, a space and a whole
run of decimal digits, and no such place begins earlier.

Other digits may take the place of those, and the cut stays where it is.  The
letter `l` stands only at the front of a line number, so none that begins
before the cut could reach into it.  This is why shifting a message twice
shifts it by the sum.
-/

namespace Text

theorem isDecimalDigit_of_isDigit {character : Char} (digit : character.isDigit = true) :
    isDecimalDigit character = true := by
  have bounds : 0x30 ≤ character.toNat ∧ character.toNat ≤ 0x39 := Char.isDigit_iff_toNat.mp digit
  refine List.any_eq_true.mpr ⟨⟨0x30, 0x39⟩, List.mem_cons_self, ?_⟩
  simp only [bounds, decide_true, Bool.and_self]

/-- The number of a run of digits is the value that the digits have, if they
are those of ASCII and the value fits. -/
theorem numeral?_eq {digits : List Char} (notEmpty : digits ≠ []) :
    numeral? digits = if digits.all Char.isDigit = true ∧ Nat.ofDigitChars 10 digits 0 < numeralLimit then
      some (Nat.ofDigitChars 10 digits 0) else none := by
  simp only [numeral?, ne_eq, notEmpty, not_false_eq_true, true_and]

theorem all_isDigit_toDigits (number : Nat) : (Nat.toDigits 10 number).all Char.isDigit = true :=
  List.all_eq_true.mpr fun _ member => Nat.isDigit_of_mem_toDigits (by decide) (by decide) member

end Text

namespace TemplateText

/-- The text begins with the word `line`, a space and a decimal digit. -/
def BeginsWithLineNumber (text : List Char) : Prop :=
  ∃ digit, Text.isDecimalDigit digit = true ∧ "line ".toList ++ [digit] <+: text

/-- Somewhere in the message stand the word `line`, a space and a decimal
digit. -/
def HasLineNumber (message : List Char) : Prop :=
  ∃ digit, Text.isDecimalDigit digit = true ∧ "line ".toList ++ [digit] <:+: message

/-- The message is cut around its first line number, and the cut takes all of
its digits. -/
structure FirstLineNumber (message before digits after : List Char) : Prop where
  parts : message = before ++ "line ".toList ++ digits ++ after
  notEmpty : digits ≠ []
  decimal : forall digit, digit ∈ digits -> Text.isDecimalDigit digit = true
  whole : Text.Stops Text.isDecimalDigit after
  first : forall other digit, Text.isDecimalDigit digit = true ->
    other ++ ("line ".toList ++ [digit]) <+: message -> before.length ≤ other.length

/-- The digits can be raised by `offset`: they have a value, and the sum fits
in sixty-four bits. -/
def Raisable (digits : List Char) (offset : Nat) : Prop :=
  digits.all Char.isDigit = true ∧ Nat.ofDigitChars 10 digits 0 + offset < Text.numeralLimit

instance (digits : List Char) (offset : Nat) : Decidable (Raisable digits offset) :=
  inferInstanceAs (Decidable (_ ∧ _))

variable {message before digits after : List Char}

theorem lineNumber?_of_prefix {digit : Char} {rest : List Char} (decimal : Text.isDecimalDigit digit = true) :
    lineNumber? ("line ".toList ++ digit :: rest) = some ("line ".toList,
      (digit :: rest).takeWhile Text.isDecimalDigit, (digit :: rest).dropWhile Text.isDecimalDigit) := by
  have dropped : Text.dropWord? "line ".toList ("line ".toList ++ digit :: rest) = some (digit :: rest) :=
    Text.dropWord?_eq_some_iff.mpr rfl
  rw [List.takeWhile_cons_of_pos decimal, List.dropWhile_cons_of_pos decimal]
  change lineNumber? ('l' :: ("ine ".toList ++ digit :: rest)) = _
  change Text.dropWord? _ ('l' :: ("ine ".toList ++ digit :: rest)) = _ at dropped
  simp only [lineNumber?, dropped, decimal, if_true]

theorem lineNumber?_cons {character : Char} {text : List Char}
    (notHere : ¬ BeginsWithLineNumber (character :: text)) :
    lineNumber? (character :: text) =
      (lineNumber? text).map fun (before, digits, after) => (character :: before, digits, after) := by
  rw [lineNumber?]
  split
  · next digit rest dropped =>
      have parts := Text.dropWord?_eq_some_iff.mp dropped
      split
      · next decimal =>
          refine absurd ⟨digit, decimal, rest, ?_⟩ notHere
          rw [parts, List.append_assoc, List.singleton_append]
      · rfl
  · rfl

namespace FirstLineNumber

/-- A line number at the front is the first one. -/
theorem front {digit : Char} {rest : List Char} (decimal : Text.isDecimalDigit digit = true) :
    FirstLineNumber ("line ".toList ++ digit :: rest) [] ((digit :: rest).takeWhile Text.isDecimalDigit)
      ((digit :: rest).dropWhile Text.isDecimalDigit) where
  parts := by
    rw [List.nil_append, List.append_assoc, List.takeWhile_append_dropWhile]
  notEmpty := by
    rw [List.takeWhile_cons_of_pos decimal]
    exact List.cons_ne_nil _ _
  decimal := fun _ member => List.mem_takeWhile_imp member
  whole := Text.stops_dropWhile _
  first := fun other _ _ _ => Nat.zero_le other.length

/-- A message that does not begin with a line number has its first one in the
rest. -/
theorem cons {character : Char}
    (notHere : ¬ BeginsWithLineNumber (character :: message))
    (found : FirstLineNumber message before digits after) :
    FirstLineNumber (character :: message) (character :: before) digits after where
  parts := by rw [found.parts]; rfl
  notEmpty := found.notEmpty
  decimal := found.decimal
  whole := found.whole
  first := by
    intro other digit decimal begins
    cases other with
    | nil => exact absurd ⟨digit, decimal, begins⟩ notHere
    | cons first others =>
        exact Nat.succ_le_succ (found.first others digit decimal (List.cons_prefix_cons.mp begins).2)

/-- The walk along the message finds the cut. -/
theorem lineNumber?_eq (found : FirstLineNumber message before digits after) :
    lineNumber? message = some (before ++ "line ".toList, digits, after) := by
  induction before generalizing message with
  | nil =>
      cases digits with
      | nil => exact absurd rfl found.notEmpty
      | cons digit others =>
          have parts : message = "line ".toList ++ digit :: (others ++ after) := by
            rw [found.parts, List.nil_append, List.append_assoc, List.cons_append]
          rw [parts, lineNumber?_of_prefix (found.decimal digit List.mem_cons_self), ← List.cons_append,
            Text.takeWhile_append_of_stops found.decimal found.whole,
            Text.dropWhile_append_of_stops found.decimal found.whole, List.nil_append]
  | cons character shorter inductionHypothesis =>
      have parts : message = character :: (shorter ++ "line ".toList ++ digits ++ after) := found.parts
      subst parts
      have notHere : ¬ BeginsWithLineNumber (character :: (shorter ++ "line ".toList ++ digits ++ after)) := by
        rintro ⟨digit, decimal, begins⟩
        exact absurd (found.first [] digit decimal begins) (Nat.not_succ_le_zero shorter.length)
      have inRest : FirstLineNumber (shorter ++ "line ".toList ++ digits ++ after) shorter digits after :=
        { parts := rfl
          notEmpty := found.notEmpty
          decimal := found.decimal
          whole := found.whole
          first := by
            intro other digit decimal begins
            have begun : character :: other ++ ("line ".toList ++ [digit]) <+:
                character :: (shorter ++ "line ".toList ++ digits ++ after) :=
              List.cons_prefix_cons.mpr ⟨rfl, begins⟩
            exact Nat.le_of_succ_le_succ (found.first (character :: other) digit decimal begun) }
      rw [lineNumber?_cons notHere, inductionHypothesis inRest]
      rfl

/-- Other decimal digits may stand in the place of the found ones. -/
theorem replace (found : FirstLineNumber message before digits after) {others : List Char} (notEmpty : others ≠ [])
    (decimal : forall digit, digit ∈ others -> Text.isDecimalDigit digit = true) :
    FirstLineNumber (before ++ "line ".toList ++ others ++ after) before others after where
  parts := rfl
  notEmpty := notEmpty
  decimal := decimal
  whole := found.whole
  first := by
    intro other digit isDecimal begins
    by_contra shorter
    have onlyFirst : 'l' ∉ "ine ".toList ++ [digit] := by
      intro member
      rcases List.mem_append.mp member with inWord | isDigit
      · revert inWord
        decide
      · rw [← List.mem_singleton.mp isDigit] at isDecimal
        revert isDecimal
        decide
    have begun : other ++ 'l' :: ("ine ".toList ++ [digit]) <+:
        before ++ 'l' :: ("ine ".toList ++ (others ++ after)) := by
      simp only [List.append_assoc] at begins ⊢
      exact begins
    rcases Text.exists_gap_of_prefix onlyFirst begun (Nat.lt_of_not_le shorter) with ⟨gap, rfl, within⟩
    have earlier : other ++ ("line ".toList ++ [digit]) <+: message := by
      rw [found.parts, List.append_assoc, List.append_assoc, List.append_assoc]
      exact (List.prefix_append_right_inj other).mpr (within.trans (List.prefix_append gap _))
    exact shorter (found.first other digit isDecimal earlier)

theorem replace_toDigits (found : FirstLineNumber message before digits after) (number : Nat) :
    FirstLineNumber (String.ofList (before ++ "line ".toList ++ Nat.toDigits 10 number ++ after)).toList before
      (Nat.toDigits 10 number) after := by
  rw [String.toList_ofList]
  refine found.replace Nat.toDigits_ne_nil (fun digit member => ?_)
  exact Text.isDecimalDigit_of_isDigit (List.all_eq_true.mp (Text.all_isDigit_toDigits number) digit member)

end FirstLineNumber

/-- A message with a line number has a first one. -/
theorem HasLineNumber.exists_first (numbered : HasLineNumber message) :
    ∃ before digits after, FirstLineNumber message before digits after := by
  rcases numbered with ⟨digit, decimal, inside⟩
  induction message with
  | nil => cases List.infix_nil.mp inside
  | cons character rest inductionHypothesis =>
      by_cases here : BeginsWithLineNumber (character :: rest)
      · rcases here with ⟨first, isDecimal, after, parts⟩
        rw [List.append_assoc, List.singleton_append] at parts
        rw [← parts]
        exact ⟨_, _, _, FirstLineNumber.front isDecimal⟩
      · rcases List.infix_cons_iff.mp inside with atFront | inRest
        · exact absurd ⟨digit, decimal, atFront⟩ here
        · rcases inductionHypothesis inRest with ⟨before, digits, after, found⟩
          exact ⟨_, _, _, found.cons here⟩

theorem lineNumber?_eq_none (free : ¬ HasLineNumber message) : lineNumber? message = none := by
  induction message with
  | nil => rfl
  | cons character rest inductionHypothesis =>
      have notHere : ¬ BeginsWithLineNumber (character :: rest) := by
        rintro ⟨digit, decimal, begins⟩
        exact free ⟨digit, decimal, begins.isInfix⟩
      have freeRest : ¬ HasLineNumber rest := by
        rintro ⟨digit, decimal, inside⟩
        exact free ⟨digit, decimal, List.infix_cons_iff.mpr (Or.inr inside)⟩
      rw [lineNumber?_cons notHere, inductionHypothesis freeRest]
      rfl

theorem shiftLineNumber_of_free {message : String} (free : ¬ HasLineNumber message.toList) (offset : Nat) :
    shiftLineNumber message offset = message := by
  rw [shiftLineNumber, lineNumber?_eq_none free]

/-- What shifting does to the first line number, and to nothing else. -/
theorem FirstLineNumber.shiftLineNumber_eq {message : String}
    (found : FirstLineNumber message.toList before digits after) (offset : Nat) :
    shiftLineNumber message offset =
      if Raisable digits offset then
        String.ofList (before ++ "line ".toList ++ Nat.toDigits 10 (Nat.ofDigitChars 10 digits 0 + offset) ++ after)
      else message := by
  simp only [shiftLineNumber, found.lineNumber?_eq, Text.numeral?_eq found.notEmpty]
  by_cases raisable : Raisable digits offset
  · have fits : Nat.ofDigitChars 10 digits 0 < Text.numeralLimit := by
      have := raisable.2
      omega
    simp only [raisable, raisable.1, raisable.2, fits, and_self, if_true]
  · rw [if_neg raisable]
    split
    · next line value =>
        split at value
        · next readable =>
            cases value
            exact if_neg fun fits => raisable ⟨readable.1, fits⟩
        · cases value
    · rfl

theorem raisable_toDigits {number offset : Nat} :
    Raisable (Nat.toDigits 10 number) offset ↔ number + offset < Text.numeralLimit := by
  rw [Raisable, Nat.ofDigitChars_ten_toDigits]
  exact and_iff_right (Text.all_isDigit_toDigits number)

/-- Two shifts of a line number that stays in sixty-four bits are one shift by
the sum. -/
theorem shiftLineNumber_shiftLineNumber {message : String} {first second : Nat}
    (fits : forall before digits after, FirstLineNumber message.toList before digits after ->
      digits.all Char.isDigit = true -> Nat.ofDigitChars 10 digits 0 + first + second < Text.numeralLimit) :
    shiftLineNumber (shiftLineNumber message first) second = shiftLineNumber message (first + second) := by
  by_cases numbered : HasLineNumber message.toList
  · rcases numbered.exists_first with ⟨before, digits, after, found⟩
    by_cases readable : digits.all Char.isDigit = true
    · have bound := fits before digits after found readable
      have raisesFirst : Raisable digits first := ⟨readable, by omega⟩
      have raisesBoth : Raisable digits (first + second) := ⟨readable, by omega⟩
      have onceMore := found.replace_toDigits (Nat.ofDigitChars 10 digits 0 + first)
      rw [found.shiftLineNumber_eq first, if_pos raisesFirst, onceMore.shiftLineNumber_eq second,
        if_pos (raisable_toDigits.mpr bound), Nat.ofDigitChars_ten_toDigits,
        found.shiftLineNumber_eq (first + second), if_pos raisesBoth, Nat.add_assoc]
    · have unread : forall offset, shiftLineNumber message offset = message := by
        intro offset
        rw [found.shiftLineNumber_eq offset, if_neg (fun raisable => readable raisable.1)]
      rw [unread first, unread second, unread (first + second)]
  · rw [shiftLineNumber_of_free numbered first, shiftLineNumber_of_free numbered second,
      shiftLineNumber_of_free numbered (first + second)]

/-- Shifting changes the first line number of a message and nothing else, and
shifts add up.  A number stays as it is, and with it the whole message, when
one of its digits is not of ASCII or the raised number does not fit in
sixty-four bits. -/
theorem shiftLineNumber_onlyFirst (message : String) :
    (¬ HasLineNumber message.toList -> forall offset, shiftLineNumber message offset = message) ∧
    (HasLineNumber message.toList -> ∃ before digits after, FirstLineNumber message.toList before digits after) ∧
    (forall before digits after, FirstLineNumber message.toList before digits after -> forall offset,
      (Raisable digits offset -> shiftLineNumber message offset = String.ofList
        (before ++ "line ".toList ++ Nat.toDigits 10 (Nat.ofDigitChars 10 digits 0 + offset) ++ after)) ∧
      (¬ Raisable digits offset -> shiftLineNumber message offset = message)) ∧
    (forall first second, (forall before digits after, FirstLineNumber message.toList before digits after ->
        digits.all Char.isDigit = true -> Nat.ofDigitChars 10 digits 0 + first + second < Text.numeralLimit) ->
      shiftLineNumber (shiftLineNumber message first) second = shiftLineNumber message (first + second)) := by
  refine ⟨shiftLineNumber_of_free, HasLineNumber.exists_first, ?_, ?_⟩
  · intro before digits after found offset
    refine ⟨fun raisable => ?_, fun fixed => ?_⟩
    · rw [found.shiftLineNumber_eq offset, if_pos raisable]
    · rw [found.shiftLineNumber_eq offset, if_neg fixed]
  · intro first second fits
    exact shiftLineNumber_shiftLineNumber fits

/-- Only the first of two numbers moves, and its leading zeros go. -/
theorem shiftLineNumber_twoNumbers :
    FirstLineNumber "at line 007, not line 4".toList "at ".toList "007".toList ", not line 4".toList ∧
    shiftLineNumber "at line 007, not line 4" 10 = "at line 17, not line 4" ∧
    shiftLineNumber (shiftLineNumber "at line 007, not line 4" 10) 5 = "at line 22, not line 4" := by
  have whole : FirstLineNumber "line 007, not line 4".toList [] "007".toList ", not line 4".toList :=
    @FirstLineNumber.front '0' "07, not line 4".toList (by decide)
  have found : FirstLineNumber "at line 007, not line 4".toList "at ".toList "007".toList ", not line 4".toList := by
    refine .cons ?_ (.cons ?_ (.cons ?_ whole))
    all_goals
      rintro ⟨digit, _, begins⟩
      exact absurd (List.cons_prefix_cons.mp begins).1 (by decide)
  have only : forall before digits after, FirstLineNumber "at line 007, not line 4".toList before digits after ->
      digits = "007".toList := by
    intro before digits after again
    have same := again.lineNumber?_eq.symm.trans found.lineNumber?_eq
    exact congrArg (fun parts => parts.2.1) (Option.some.inj same)
  rcases shiftLineNumber_onlyFirst "at line 007, not line 4" with ⟨_, _, moves, adds⟩
  refine ⟨found, (moves _ _ _ found 10).1 (by decide), ?_⟩
  rw [adds 10 5 ?_, (moves _ _ _ found 15).1 (by decide)]
  · decide
  · intro before digits after again _
    rw [only before digits after again]
    decide

end TemplateText
end TemplateFile
