import TemplateFile.Proofs.Source.Lines
import TemplateFile.Text.Blank
import TemplateFile.Text.Search
import Mathlib.Data.List.TakeWhile

namespace TemplateFile
namespace Text

/-!
# Carriage returns before line feeds

A file may end its lines with a line feed, or with a carriage return and a line
feed.  The second is the first with a carriage return put before every line
feed.  Nothing that looks for a word or for one kind of character minds the
carriage returns, as long as it takes a carriage return for the same kind of
character as a line feed.
-/

/-- The text with a carriage return before every line feed. -/
def withReturns (text : List Char) : List Char :=
  text.flatMap fun character => if character = '\n' then ['\r', '\n'] else [character]

section

variable {text word : List Char} {character : Char} {accepts : Char -> Bool}

@[simp] theorem withReturns_nil : withReturns [] = [] := rfl

@[simp] theorem withReturns_cons_lineFeed (text : List Char) :
    withReturns ('\n' :: text) = '\r' :: '\n' :: withReturns text := rfl

theorem withReturns_cons_of_ne (inLine : character ≠ '\n') (text : List Char) :
    withReturns (character :: text) = character :: withReturns text := by
  rw [withReturns, List.flatMap_cons, if_neg inLine, List.singleton_append, withReturns]

@[simp] theorem withReturns_append (left right : List Char) :
    withReturns (left ++ right) = withReturns left ++ withReturns right := List.flatMap_append

theorem withReturns_of_notMem (free : '\n' ∉ text) : withReturns text = text := by
  induction text with
  | nil => rfl
  | cons character rest inductionHypothesis =>
      have inLine : character ≠ '\n' := fun same => free (same ▸ List.mem_cons_self)
      rw [withReturns_cons_of_ne inLine, inductionHypothesis fun later => free (List.mem_cons_of_mem _ later)]

theorem withReturns_eq_nil_iff : withReturns text = [] ↔ text = [] := by
  cases text with
  | nil => exact iff_of_true rfl rfl
  | cons character rest =>
      refine iff_of_false ?_ (List.cons_ne_nil _ _)
      by_cases lineFeed : character = '\n'
      · rw [lineFeed, withReturns_cons_lineFeed]
        exact List.cons_ne_nil _ _
      · rw [withReturns_cons_of_ne lineFeed]
        exact List.cons_ne_nil _ _

theorem mem_withReturns_iff (notReturn : character ≠ '\r') : character ∈ withReturns text ↔ character ∈ text := by
  rw [withReturns, List.mem_flatMap]
  constructor
  · rintro ⟨other, listed, inside⟩
    split at inside
    · next lineFeed =>
        rcases List.mem_cons.mp inside with isReturn | isFeed
        · exact absurd isReturn notReturn
        · rwa [List.mem_singleton.mp isFeed, ← lineFeed]
    · rwa [List.mem_singleton.mp inside]
  · intro member
    refine ⟨character, member, ?_⟩
    split
    · next lineFeed => exact List.mem_cons_of_mem _ (List.mem_singleton.mpr lineFeed)
    · exact List.mem_singleton_self _

/-- A text begins with another character than a line ending just when it did so before. -/
theorem head?_withReturns_iff (notReturn : character ≠ '\r') (notFeed : character ≠ '\n') :
    (withReturns text).head? = some character ↔ text.head? = some character := by
  cases text with
  | nil => exact Iff.rfl
  | cons first rest =>
      by_cases lineFeed : first = '\n'
      · rw [lineFeed, withReturns_cons_lineFeed]
        exact iff_of_false (fun same => notReturn (Option.some.inj same).symm)
          fun same => notFeed (Option.some.inj same).symm
      · rw [withReturns_cons_of_ne lineFeed, List.head?_cons, List.head?_cons]

theorem withReturns_append_lineFeed (text : List Char) :
    withReturns (text ++ ['\n']) = withReturns text ++ ['\r'] ++ ['\n'] := by
  rw [withReturns_append, List.append_assoc]
  rfl

theorem withReturns_append_of_ne (inLine : character ≠ '\n') (text : List Char) :
    withReturns (text ++ [character]) = withReturns text ++ [character] := by
  rw [withReturns_append, withReturns_cons_of_ne inLine, withReturns_nil]

/-! ## Kinds of characters -/

theorem takeWhile_withReturns (same : accepts '\r' = accepts '\n') (text : List Char) :
    (withReturns text).takeWhile accepts = withReturns (text.takeWhile accepts) := by
  induction text with
  | nil => rfl
  | cons character rest inductionHypothesis =>
      by_cases lineFeed : character = '\n'
      · subst lineFeed
        rw [withReturns_cons_lineFeed, List.takeWhile_cons, List.takeWhile_cons, List.takeWhile_cons, same]
        cases accepts '\n' with
        | false => rfl
        | true => rw [if_pos rfl, if_pos rfl, if_pos rfl, inductionHypothesis, withReturns_cons_lineFeed]
      · rw [withReturns_cons_of_ne lineFeed, List.takeWhile_cons, List.takeWhile_cons]
        cases accepts character with
        | false => rfl
        | true => rw [if_pos rfl, if_pos rfl, inductionHypothesis, withReturns_cons_of_ne lineFeed]

theorem dropWhile_withReturns (same : accepts '\r' = accepts '\n') (text : List Char) :
    (withReturns text).dropWhile accepts = withReturns (text.dropWhile accepts) := by
  have parts : (withReturns text).takeWhile accepts ++ (withReturns text).dropWhile accepts =
      withReturns (text.takeWhile accepts) ++ withReturns (text.dropWhile accepts) := by
    rw [List.takeWhile_append_dropWhile, ← withReturns_append, List.takeWhile_append_dropWhile]
  rw [takeWhile_withReturns same] at parts
  exact List.append_cancel_left parts

theorem isBlank_return : isBlank '\r' = isBlank '\n' := by decide

theorem filter_withReturns (noReturn : accepts '\r' = false) (noFeed : accepts '\n' = false) (text : List Char) :
    (withReturns text).filter accepts = text.filter accepts := by
  induction text with
  | nil => rfl
  | cons character rest inductionHypothesis =>
      by_cases lineFeed : character = '\n'
      · rw [lineFeed, withReturns_cons_lineFeed, List.filter_cons_of_neg (Bool.eq_false_iff.mp noReturn),
          List.filter_cons_of_neg (Bool.eq_false_iff.mp noFeed), List.filter_cons_of_neg (Bool.eq_false_iff.mp noFeed),
          inductionHypothesis]
      · rw [withReturns_cons_of_ne lineFeed, List.filter_cons, List.filter_cons, inductionHypothesis]

/-! ## Words -/

/-- A word that is the same with both line endings. -/
structure IsInLine (word : List Char) : Prop where
  noReturn : '\r' ∉ word
  noFeed : '\n' ∉ word

instance (word : List Char) : Decidable (IsInLine word) :=
  decidable_of_iff ('\r' ∉ word ∧ '\n' ∉ word) ⟨fun both => ⟨both.1, both.2⟩, fun inLine => ⟨inLine.1, inLine.2⟩⟩

theorem withReturns_eq_iff (inLine : IsInLine word) : withReturns text = word ↔ text = word := by
  constructor
  · intro same
    have oneLine : '\n' ∉ text := fun member =>
      inLine.noFeed (same ▸ (mem_withReturns_iff (by decide)).mpr member)
    rwa [withReturns_of_notMem oneLine] at same
  · rintro rfl
    exact withReturns_of_notMem inLine.noFeed

theorem dropWord?_withReturns (inLine : IsInLine word) (text : List Char) :
    dropWord? word (withReturns text) = (dropWord? word text).map withReturns := by
  induction word generalizing text with
  | nil => rfl
  | cons letter word inductionHypothesis =>
      have others : IsInLine word :=
        ⟨fun later => inLine.noReturn (List.mem_cons_of_mem _ later),
          fun later => inLine.noFeed (List.mem_cons_of_mem _ later)⟩
      have notReturn : letter ≠ '\r' := fun same => inLine.noReturn (same ▸ List.mem_cons_self)
      have notFeed : letter ≠ '\n' := fun same => inLine.noFeed (same ▸ List.mem_cons_self)
      cases text with
      | nil => rfl
      | cons character rest =>
          by_cases lineFeed : character = '\n'
          · rw [lineFeed, withReturns_cons_lineFeed, dropWord?, dropWord?, if_neg notReturn, if_neg notFeed,
              Option.map_none]
          · rw [withReturns_cons_of_ne lineFeed, dropWord?, dropWord?]
            split
            · exact inductionHypothesis others rest
            · rfl

theorem cutAt?_cons_of_eq_none {rest : List Char} (absent : dropWord? word (character :: rest) = none) :
    cutAt? word (character :: rest) = (cutAt? word rest).map fun around => (character :: around.1, around.2) := by
  rw [cutAt?, absent]

theorem cutAt?_withReturns (inLine : IsInLine word) (notEmpty : word ≠ []) (text : List Char) :
    cutAt? word (withReturns text) = (cutAt? word text).map (Prod.map withReturns withReturns) := by
  have notHere : forall {character : Char} {rest : List Char}, character = '\r' ∨ character = '\n' ->
      dropWord? word (character :: rest) = none := by
    intro character rest ending
    cases word with
    | nil => exact absurd rfl notEmpty
    | cons letter word =>
        refine if_neg ?_
        rintro rfl
        rcases ending with rfl | rfl
        · exact inLine.noReturn List.mem_cons_self
        · exact inLine.noFeed List.mem_cons_self
  induction text with
  | nil =>
      rw [withReturns_nil, cutAt?]
      cases word with
      | nil => exact absurd rfl notEmpty
      | cons letter word => rfl
  | cons character rest inductionHypothesis =>
      by_cases lineFeed : character = '\n'
      · subst lineFeed
        rw [withReturns_cons_lineFeed, cutAt?_cons_of_eq_none (notHere (Or.inl rfl)), cutAt?_cons_of_eq_none (notHere (Or.inr rfl)),
          cutAt?_cons_of_eq_none (notHere (Or.inr rfl)), inductionHypothesis]
        cases cutAt? word rest <;> rfl
      · have dropped := dropWord?_withReturns inLine (character :: rest)
        rw [withReturns_cons_of_ne lineFeed] at dropped ⊢
        cases here : dropWord? word (character :: rest) with
        | some after =>
            rw [here, Option.map_some] at dropped
            rw [cutAt?, dropped, cutAt?, here]
            rfl
        | none =>
            rw [here, Option.map_none] at dropped
            rw [cutAt?_cons_of_eq_none here, cutAt?_cons_of_eq_none dropped, inductionHypothesis]
            cases cutAt? word rest with
            | none => rfl
            | some around =>
                change some (character :: withReturns around.1, withReturns around.2) =
                  some (withReturns (character :: around.1), withReturns around.2)
                rw [withReturns_cons_of_ne lineFeed]

/-! ## Trimming -/

theorem trimEnd_append_of_isBlank (isBlank : isBlank character = true) (text : List Char) :
    trimEnd (text ++ [character]) = trimEnd text := by
  rw [trimEnd, List.reverse_append, List.reverse_singleton, List.singleton_append,
    List.dropWhile_cons_of_pos isBlank, ← trimEnd]

theorem trimEnd_append_of_not_isBlank (notBlank : isBlank character = false) (text : List Char) :
    trimEnd (text ++ [character]) = text ++ [character] := by
  rw [trimEnd, List.reverse_append, List.reverse_singleton, List.singleton_append,
    List.dropWhile_cons_of_neg (Bool.eq_false_iff.mp notBlank), List.reverse_cons, List.reverse_reverse]

theorem trimEnd_withReturns (text : List Char) : trimEnd (withReturns text) = withReturns (trimEnd text) := by
  induction text using List.reverseRecOn with
  | nil => rfl
  | append_singleton text character inductionHypothesis =>
      by_cases lineFeed : character = '\n'
      · rw [lineFeed, withReturns_append_lineFeed, trimEnd_append_of_isBlank (by decide),
          trimEnd_append_of_isBlank (by decide), trimEnd_append_of_isBlank (by decide), inductionHypothesis]
      · rw [withReturns_append_of_ne lineFeed]
        cases kind : isBlank character with
        | true => rw [trimEnd_append_of_isBlank kind, trimEnd_append_of_isBlank kind, inductionHypothesis]
        | false =>
            rw [trimEnd_append_of_not_isBlank kind, trimEnd_append_of_not_isBlank kind,
              withReturns_append_of_ne lineFeed]

theorem trim_withReturns (text : List Char) : trim (withReturns text) = withReturns (trim text) := by
  rw [trim, trimStart, dropWhile_withReturns isBlank_return, trimEnd_withReturns, trim, trimStart]

/-- The first word of a text has no line ending. -/
theorem firstWord_withReturns (text : List Char) : firstWord (withReturns text) = firstWord text := by
  have oneLine : '\n' ∉ firstWord text := fun member => absurd (List.mem_takeWhile_imp member) (by decide)
  have cut : firstWord (withReturns text) = withReturns (firstWord text) := by
    rw [firstWord, trimStart, dropWhile_withReturns isBlank_return]
    exact takeWhile_withReturns (by decide) _
  rw [cut, withReturns_of_notMem oneLine]

end

end Text

/-! ## Positions -/

/-- The position with a carriage return at the end of every line before it: the
place is the same, and the offset counts them. -/
def Position.withReturns (position : Position) : Position :=
  { position with offset := position.offset + (position.line - 1) }

namespace Source

theorem count_withReturns (text : List Char) : (Text.withReturns text).count '\n' = text.count '\n' := by
  induction text with
  | nil => rfl
  | cons character rest inductionHypothesis =>
      by_cases lineFeed : character = '\n'
      · rw [lineFeed, Text.withReturns_cons_lineFeed, List.count_cons_of_ne (by decide), List.count_cons_self,
          List.count_cons_self, inductionHypothesis]
      · rw [Text.withReturns_cons_of_ne lineFeed, List.count_cons_of_ne lineFeed, List.count_cons_of_ne lineFeed,
          inductionHypothesis]

theorem byteCount_withReturns (text : List Char) :
    byteCount (Text.withReturns text) = byteCount text + text.count '\n' := by
  induction text with
  | nil => rfl
  | cons character rest inductionHypothesis =>
      by_cases lineFeed : character = '\n'
      · have size : '\r'.utf8Size = 1 := by decide
        rw [lineFeed, Text.withReturns_cons_lineFeed, byteCount, byteCount, byteCount, List.count_cons_self,
          inductionHypothesis, size]
        omega
      · rw [Text.withReturns_cons_of_ne lineFeed, byteCount, byteCount, List.count_cons_of_ne lineFeed,
          inductionHypothesis, Nat.add_assoc]

theorem lastLine_withReturns (text : List Char) : lastLine (Text.withReturns text) = lastLine text := by
  induction text using List.reverseRecOn with
  | nil => rfl
  | append_singleton text character inductionHypothesis =>
      by_cases lineFeed : character = '\n'
      · rw [lineFeed, Text.withReturns_append_lineFeed, lastLine_append_lineFeed, lastLine_append_lineFeed]
      · rw [Text.withReturns_append_of_ne lineFeed, lastLine_append_singleton _ lineFeed,
          lastLine_append_singleton _ lineFeed, inductionHypothesis]

end Source

/-- Carriage returns before line feeds move no character to another place. -/
theorem Position.after_withReturns (text : List Char) : after (Text.withReturns text) = (after text).withReturns := by
  have line : (after (Text.withReturns text)).line = (after text).line :=
    congrArg (1 + ·) (Source.count_withReturns text)
  have column : (after (Text.withReturns text)).column = (after text).column := by
    rw [column_after, column_after, Source.lastLine_withReturns]
  have offset : (after (Text.withReturns text)).offset = (after text).withReturns.offset := by
    change Source.byteCount _ = Source.byteCount text + (1 + text.count '\n' - 1)
    rw [Source.byteCount_withReturns, Nat.add_sub_cancel_left]
  calc
    after (Text.withReturns text)
        = ⟨⟨(after (Text.withReturns text)).line, (after (Text.withReturns text)).column⟩,
            (after (Text.withReturns text)).offset⟩ := rfl
    _ = (after text).withReturns := by
      rw [line, column, offset]
      rfl

end TemplateFile
