import TemplateFile.Proofs.Source.Boundaries
import TemplateFile.Proofs.Source.Lines
import TemplateFile.Proofs.Source.Order

namespace TemplateFile

/-!
# Places from a table of lines

A place can be found without walking through the whole text: a table holds the
offsets at which lines begin, a binary search in it finds the line of an offset,
and the characters from there to the offset count the column.  This gives the
position that walking gives, for every offset, and nothing for an offset that
stands between no two characters.

The lines that a reader is shown are found in another way, by cutting the text
at its line feeds.  Both ways agree on which character stands where.
-/

/-! ## Binary search -/

/-- The number of values that are accepted, found by halving.  All accepted
values must come before the others. -/
def partitionPoint (accepts : Nat -> Bool) (values : List Nat) : Nat :=
  match found : values.drop (values.length / 2) with
  | [] => 0
  | middle :: later =>
      have shorter : later.length < values.length := by
        have lengths := congrArg List.length found
        rw [List.length_drop, List.length_cons] at lengths
        omega
      have half : (values.take (values.length / 2)).length < values.length := by
        have lengths := congrArg List.length found
        rw [List.length_drop, List.length_cons] at lengths
        rw [List.length_take]
        omega
      if accepts middle then values.length / 2 + 1 + partitionPoint accepts later
      else partitionPoint accepts (values.take (values.length / 2))
termination_by values.length

/-- What stands in the middle of two lists belongs to the first or to the second. -/
theorem append_cases_of_drop_eq {Element : Type} {front back later : List Element} {middle : Element} {count : Nat}
    (found : (front ++ back).drop count = middle :: later) :
    (∃ rest, front = (front ++ back).take count ++ middle :: rest ∧ later = rest ++ back) ∨
      ∃ rest, (front ++ back).take count = front ++ rest ∧ back = rest ++ middle :: later := by
  have whole : (front ++ back).take count ++ middle :: later = front ++ back := by
    rw [← found, List.take_append_drop]
  rcases List.append_eq_append_iff.mp whole with ⟨more, frontParts, laterParts⟩ | inBack
  · cases more with
    | nil =>
        refine Or.inr ⟨[], ?_, laterParts.symm⟩
        rw [List.append_nil] at frontParts ⊢
        exact frontParts.symm
    | cons first rest =>
        cases laterParts
        exact Or.inl ⟨rest, frontParts, rfl⟩
  · exact Or.inr inBack

/-- Halving finds the border between the accepted values and the others. -/
theorem partitionPoint_append {accepts : Nat -> Bool} {front back : List Nat}
    (accepted : forall value, value ∈ front -> accepts value = true)
    (rejected : forall value, value ∈ back -> accepts value = false) :
    partitionPoint accepts (front ++ back) = front.length := by
  generalize whole : front ++ back = values
  fun_induction partitionPoint accepts values generalizing front back with
  | case1 values found =>
      have lengths := congrArg List.length whole
      have few := List.drop_eq_nil_iff.mp found
      rw [List.length_append] at lengths
      omega
  | case2 values middle later found _ _ isAccepted inductionHypothesis =>
      subst whole
      rcases append_cases_of_drop_eq found with ⟨rest, frontParts, laterParts⟩ | ⟨rest, _, backParts⟩
      · have later := inductionHypothesis (fun value member => accepted value (by
          rw [frontParts]
          exact List.mem_append_right _ (List.mem_cons_of_mem middle member))) rejected laterParts.symm
        have length := congrArg List.length frontParts
        rw [List.length_append, List.length_take, List.length_cons] at length
        omega
      · have isRejected := rejected middle (by
          rw [backParts]
          exact List.mem_append_right rest List.mem_cons_self)
        rw [isAccepted] at isRejected
        cases isRejected
  | case3 values middle later found _ _ isRejected inductionHypothesis =>
      subst whole
      rcases append_cases_of_drop_eq found with ⟨rest, frontParts, _⟩ | ⟨rest, halfParts, backParts⟩
      · exact absurd (accepted middle (by
          rw [frontParts]
          exact List.mem_append_right _ List.mem_cons_self)) isRejected
      · exact inductionHypothesis accepted (fun value member => rejected value (by
          rw [backParts]
          exact List.mem_append_left _ member)) halfParts.symm

namespace Source

/-! ## The table of lines -/

/-- The offsets after the line feeds of a text that begins at an offset. -/
def lineStartsFrom : Nat -> List Char -> List Nat
  | _, [] => []
  | offset, character :: rest =>
      if character = '\n' then (offset + character.utf8Size) :: lineStartsFrom (offset + character.utf8Size) rest
      else lineStartsFrom (offset + character.utf8Size) rest

/-- The offsets at which the lines of a text begin. -/
def lineStarts (text : List Char) : List Nat := 0 :: lineStartsFrom 0 text

/-- The position at an offset, from the table of lines.  The last line that does
not begin after the offset is its line, and the slice from there on is what
comes before it in the line. -/
def tablePosition? (text : List Char) (offset : Nat) : Option Position := do
  let line := partitionPoint (fun start => decide (start ≤ offset)) (lineStarts text)
  let start ← (lineStarts text)[line - 1]?
  let inside ← slice? text start offset
  return { line := line, column := inside.length + 1, offset := offset }

theorem lineStartsFrom_append (offset : Nat) (before after : List Char) :
    lineStartsFrom offset (before ++ after) =
      lineStartsFrom offset before ++ lineStartsFrom (offset + byteCount before) after := by
  induction before generalizing offset with
  | nil => rfl
  | cons character before inductionHypothesis =>
      rw [List.cons_append, lineStartsFrom, lineStartsFrom, inductionHypothesis, byteCount, Nat.add_assoc]
      split
      · rw [List.cons_append]
      · rfl

/-- A line other than the first begins after the offset of the text and not after its end. -/
theorem bounds_of_mem_lineStartsFrom {text : List Char} {offset start : Nat}
    (member : start ∈ lineStartsFrom offset text) : offset < start ∧ start ≤ offset + byteCount text := by
  induction text generalizing offset with
  | nil => cases member
  | cons character rest inductionHypothesis =>
      have positive := character.utf8Size_pos
      have later : start ∈ lineStartsFrom (offset + character.utf8Size) rest ->
          offset < start ∧ start ≤ offset + byteCount (character :: rest) := by
        intro inRest
        have bounds := inductionHypothesis inRest
        rw [byteCount]
        omega
      rw [lineStartsFrom] at member
      split at member
      · rcases List.mem_cons.mp member with rfl | inRest
        · rw [byteCount]
          omega
        · exact later inRest
      · exact later member

theorem length_lineStartsFrom (offset : Nat) (text : List Char) :
    (lineStartsFrom offset text).length = text.count '\n' := by
  induction text generalizing offset with
  | nil => rfl
  | cons character rest inductionHypothesis =>
      rw [lineStartsFrom]
      split
      · next lineFeed => rw [List.length_cons, inductionHypothesis, lineFeed, List.count_cons_self]
      · next inLine => rw [inductionHypothesis, List.count_cons_of_ne inLine]

theorem lineStarts_append (before after : List Char) :
    lineStarts (before ++ after) = lineStarts before ++ lineStartsFrom (byteCount before) after := by
  rw [lineStarts, lineStartsFrom_append, Nat.zero_add]
  rfl

theorem length_lineStarts (text : List Char) : (lineStarts text).length = text.count '\n' + 1 := by
  rw [lineStarts, List.length_cons, length_lineStartsFrom]

/-- The lines that do not begin after an offset are those of the text before it. -/
theorem partitionPoint_lineStarts (before after : List Char) :
    partitionPoint (fun start => decide (start ≤ byteCount before)) (lineStarts (before ++ after)) =
      before.count '\n' + 1 := by
  rw [lineStarts_append, partitionPoint_append, length_lineStarts]
  · intro start member
    refine decide_eq_true ?_
    rcases List.mem_cons.mp member with rfl | later
    · exact Nat.zero_le _
    · have bounds := bounds_of_mem_lineStartsFrom later
      omega
  · intro start member
    have bounds := bounds_of_mem_lineStartsFrom member
    exact decide_eq_false (by omega)

/-- The line of a place begins where the text after the last line feed does. -/
theorem getElem?_lineStarts (before after : List Char) :
    ∃ front, before = front ++ lastLine before ∧
      (lineStarts (before ++ after))[before.count '\n']? = some (byteCount front) := by
  induction before using List.reverseRecOn generalizing after with
  | nil => exact ⟨[], rfl, rfl⟩
  | append_singleton before character inductionHypothesis =>
      rw [List.append_assoc, List.singleton_append, List.count_append]
      by_cases lineFeed : character = '\n'
      · subst lineFeed
        refine ⟨before ++ ['\n'], by rw [lastLine_append_lineFeed, List.append_nil], ?_⟩
        rw [List.count_singleton_self, lineStarts_append, ← length_lineStarts,
          List.getElem?_append_right (Nat.le_refl _), Nat.sub_self, lineStartsFrom, if_pos rfl,
          List.getElem?_cons_zero, byteCount_append]
        rfl
      · rcases inductionHypothesis (character :: after) with ⟨front, parts, found⟩
        refine ⟨front, ?_, ?_⟩
        · rw [lastLine_append_singleton _ lineFeed, ← List.append_assoc, ← parts]
        · rw [List.count_singleton, if_neg (by rwa [beq_iff_eq]), Nat.add_zero]
          exact found

/-- The table gives the position that walking gives. -/
theorem tablePosition?_append (before after : List Char) :
    tablePosition? (before ++ after) (byteCount before) = some (Position.after before) := by
  rcases getElem?_lineStarts before after with ⟨front, parts, start⟩
  have inside : slice? (before ++ after) (byteCount front) (byteCount before) = some (lastLine before) := by
    have cut := slice?_append front (lastLine before) after
    rwa [← parts] at cut
  have position : Position.after before =
      ⟨⟨before.count '\n' + 1, (lastLine before).length + 1⟩, byteCount before⟩ := by
    rw [Nat.add_comm (before.count '\n'), Nat.add_comm (lastLine before).length, ← Position.column_after]
    rfl
  simp only [tablePosition?, partitionPoint_lineStarts, Nat.add_sub_cancel, start, inside, position,
    Option.bind_eq_bind, Option.bind_some, Option.pure_def]

/-- The table and walking agree on every offset, between characters or not. -/
theorem tablePosition?_eq (text : List Char) (offset : Nat) : tablePosition? text offset = positionAt? text offset := by
  cases split : splitAtByte? text offset with
  | some parts =>
      rcases parts with ⟨before, after⟩
      rcases splitAtByte?_eq_some_iff.mp split with ⟨rfl, rfl⟩
      rw [tablePosition?_append]
      exact (positionAt?_eq_some_iff.mpr ⟨before, after, rfl, rfl, rfl⟩).symm
  | none =>
      have noSlice : forall start, slice? text start offset = none := by
        intro start
        rw [slice?, split]
        rfl
      rw [positionAt?, split, Option.map_none, tablePosition?]
      simp only [noSlice, Option.bind_eq_bind, Option.bind_none, Option.bind_fun_none]

/-! ## Places and the lines that are shown -/

/-- The line that is shown has ended: nothing follows but the end of the text or
a line feed, perhaps with a carriage return before it. -/
def EndsLine (after : List Char) : Prop :=
  after = [] ∨ after = ['\r'] ∨ ['\n'] <+: after ∨ ['\r', '\n'] <+: after

/-- What the position between two parts of a text says.  It counts the bytes and
the line feeds before it and the characters since the last of them, and in the
line with its number the character with its column is the one that follows,
until the line has ended. -/
structure Locates (source : String) (before after : List Char) (position : Position) : Prop where
  offset : position.offset = byteCount before
  line : position.line = 1 + before.count '\n'
  column : position.column = 1 + (lastLine before).length
  shown : ∃ line, line? source position.line = some line ∧
    (¬ EndsLine after -> line.toList[position.column - 1]? = after.head?) ∧
    (EndsLine after -> line.toList[position.column - 1]? = none)

/-- The two ways to find lines agree on a text.  The table knows the same
offsets as walking does, and they are those between characters; it puts them
into the order of the text; and no line is shown that is not the line of an
offset. -/
structure LinesAgree (source : String) : Prop where
  walks : forall offset, tablePosition? source.toList offset = positionAt? source.toList offset
  locates : forall before after, source.toList = before ++ after ->
    ∃ position, tablePosition? source.toList (byteCount before) = some position ∧
      Locates source before after position
  increases : forall {one two : Nat} {position later : Position},
    tablePosition? source.toList one = some position -> tablePosition? source.toList two = some later -> one < two ->
      position.line < later.line ∨ position.line = later.line ∧ position.column < later.column
  ends : ∃ last, tablePosition? source.toList (byteCount source.toList) = some last ∧
    forall number, line? source number = none ↔ number = 0 ∨ last.line < number

/-- A shown line keeps every character but its last one. -/
theorem getElem?_dropReturn {text : List Char} {index : Nat} (inner : index + 1 < text.length) :
    (dropReturn text)[index]? = text[index]? := by
  unfold dropReturn
  split
  · rw [List.dropLast_eq_take, List.getElem?_take_of_lt (by omega)]
  · rfl

/-- What is left of a line that has ended is nothing, or a carriage return. -/
theorem EndsLine.takeWhile_cases {after : List Char} (ends : EndsLine after) :
    (after.takeWhile fun character => character != '\n') = [] ∨
      (after.takeWhile fun character => character != '\n') = ['\r'] := by
  rcases ends with rfl | rfl | ⟨rest, rfl⟩ | ⟨rest, rfl⟩
  · exact Or.inl rfl
  · exact Or.inr rfl
  · exact Or.inl rfl
  · exact Or.inr rfl

/-- Where a line has ended, no character of it is shown any more. -/
theorem getElem?_dropReturn_of_endsLine (line : List Char) {after : List Char} (ends : EndsLine after) :
    (dropReturn (line ++ after.takeWhile fun character => character != '\n'))[line.length]? = none := by
  rcases ends.takeWhile_cases with nothing | isReturn
  · rw [nothing, List.append_nil]
    exact List.getElem?_eq_none (length_dropReturn_le line)
  · rw [isReturn, dropReturn, List.getLast?_concat, if_pos rfl, List.dropLast_concat]
    exact List.getElem?_eq_none (Nat.le_refl _)

/-- Where a line has not ended, its next character is shown. -/
theorem getElem?_dropReturn_of_not_endsLine (line : List Char) {after : List Char} (goesOn : ¬ EndsLine after) :
    (dropReturn (line ++ after.takeWhile fun character => character != '\n'))[line.length]? = after.head? := by
  cases after with
  | nil => exact absurd (Or.inl rfl) goesOn
  | cons character rest =>
      have inLine : character ≠ '\n' := by
        rintro rfl
        exact goesOn (Or.inr (Or.inr (Or.inl ⟨rest, rfl⟩)))
      rw [List.takeWhile_cons, if_pos (bne_iff_ne.mpr inLine), List.head?_cons]
      by_cases isReturn : character = '\r'
      · subst isReturn
        -- A carriage return that is not shown would stand at the end of the line, but another character follows.
        cases rest with
        | nil => exact absurd (Or.inr (Or.inl rfl)) goesOn
        | cons next others =>
            have nextInLine : next ≠ '\n' := by
              rintro rfl
              exact goesOn (Or.inr (Or.inr (Or.inr ⟨others, rfl⟩)))
            rw [List.takeWhile_cons, if_pos (bne_iff_ne.mpr nextInLine), getElem?_dropReturn,
              List.getElem?_append_right (Nat.le_refl _), Nat.sub_self, List.getElem?_cons_zero]
            simp only [List.length_append, List.length_cons]
            omega
      · rw [dropReturn_append_cons isReturn, List.getElem?_append_right (Nat.le_refl _), Nat.sub_self,
          List.getElem?_cons_zero]

theorem locates_after {source : String} {before after : List Char} (parts : source.toList = before ++ after) :
    Locates source before after (Position.after before) where
  offset := rfl
  line := rfl
  column := Position.column_after before
  shown := by
    refine ⟨_, line?_after parts, ?_⟩
    rw [Position.column_after, Nat.add_sub_cancel_left, String.toList_ofList]
    exact ⟨getElem?_dropReturn_of_not_endsLine _, getElem?_dropReturn_of_endsLine _⟩

/-- The lines that are shown are those of the text. -/
theorem line?_eq_none_iff (source : String) (number : Nat) :
    line? source number = none ↔ number = 0 ∨ (Position.after source.toList).line < number := by
  have lines : (lines source.toList).length = (Position.after source.toList).line :=
    (length_lines source.toList).trans (Nat.add_comm _ _)
  unfold line?
  split
  · next isZero => exact iff_of_true rfl (Or.inl isZero)
  · next positive =>
      rw [Option.map_eq_none_iff, List.getElem?_eq_none_iff, lines]
      omega

end Source

end TemplateFile
