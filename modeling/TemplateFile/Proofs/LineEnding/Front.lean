import TemplateFile.Proofs.LineEnding.Text
import TemplateFile.Proofs.RoundTrip.Pieces

namespace TemplateFile

/-!
# Line endings at the front of a text

The rules between lexemes take from a text with carriage returns what they take
from the text without them, each line feed with its carriage return.  There are
two exceptions.  A line comment ends before the line feed and has the carriage
return to itself.  An open tag wants a blank and one more character after its
keyword, and a line feed alone is only one character.
-/

/-- The lexeme with a carriage return before every line feed. -/
def Lexeme.withReturns (lexeme : Lexeme) : Lexeme := ⟨lexeme.kind, Text.withReturns lexeme.text⟩

/-- The front with a carriage return before every line feed. -/
def Scanner.Front.withReturns : Scanner.Front -> Scanner.Front
  | .lexeme piece => .lexeme piece.withReturns
  | .opener construct text => .opener construct (Text.withReturns text)

/-! ## Names -/

namespace DottedName

open Text (withReturns withReturns_cons_of_ne withReturns_cons_lineFeed)

theorem segment?_withReturns (text : List Char) :
    segment? (withReturns text) = (segment? text).map (Prod.map withReturns withReturns) := by
  have same : isPart '\r' = isPart '\n' := by decide
  cases text with
  | nil => rfl
  | cons character rest =>
      by_cases lineFeed : character = '\n'
      · have noReturn : isStart '\r' = false := by decide
        have noFeed : isStart '\n' = false := by decide
        rw [lineFeed, withReturns_cons_lineFeed, segment?, segment?, noReturn, noFeed]
        rfl
      · rw [withReturns_cons_of_ne lineFeed, segment?, segment?]
        split
        · rw [Text.takeWhile_withReturns same, Text.dropWhile_withReturns same, Option.map_some, Prod.map,
            withReturns_cons_of_ne lineFeed]
        · rfl

theorem dottedSegment?_withReturns (text : List Char) :
    dottedSegment? (withReturns text) = (dottedSegment? text).map (Prod.map withReturns withReturns) := by
  have same := Text.isBlank_return
  have dropped := Text.dropWhile_withReturns same text
  cases found : text.dropWhile Text.isBlank with
  | nil =>
      rw [found, Text.withReturns_nil] at dropped
      simp only [dottedSegment?, dropped, found, Option.map_none]
  | cons character rest =>
      have inLine : character ≠ '\n' := by
        rintro rfl
        exact absurd (Text.stops_cons_iff.mp (found ▸ Text.stops_dropWhile text)) (by decide)
      rw [found, withReturns_cons_of_ne inLine] at dropped
      by_cases isDot : character = '.'
      · subst isDot
        simp only [dottedSegment?, dropped, found, Text.takeWhile_withReturns same, Text.dropWhile_withReturns same,
          segment?_withReturns, Option.map_map]
        refine congrArg (fun change => (segment? (rest.dropWhile Text.isBlank)).map change) (funext fun around => ?_)
        simp only [Function.comp, Prod.map, Text.withReturns_append, withReturns_cons_of_ne (by decide : '.' ≠ '\n')]
      · have notDot : forall {text rest : List Char}, text.dropWhile Text.isBlank = character :: rest ->
            dottedSegment? text = none := by
          intro text rest other
          unfold dottedSegment?
          split
          · next dot =>
              rw [other] at dot
              exact absurd (List.cons.inj dot).1 isDot
          · rfl
        rw [notDot found, notDot dropped, Option.map_none]

theorem dottedSegments_withReturns (text : List Char) :
    dottedSegments (withReturns text) = Prod.map withReturns withReturns (dottedSegments text) := by
  fun_induction dottedSegments text with
  | case1 text stops =>
      have none := dottedSegment?_withReturns text
      rw [stops, Option.map_none] at none
      exact LexicalRule.dottedSegments_of_none none
  | case2 text segment after found _ segments rest equal inductionHypothesis =>
      have some := dottedSegment?_withReturns text
      rw [found, Option.map_some] at some
      rw [LexicalRule.dottedSegments_of_some some, inductionHypothesis, equal]
      exact Prod.ext (Text.withReturns_append segment segments).symm rfl

theorem front?_withReturns (text : List Char) :
    front? (withReturns text) = (front? text).map (Prod.map withReturns withReturns) := by
  rw [front?, segment?_withReturns, front?, Option.map_map, Option.map_map]
  refine congrArg (fun change => (segment? text).map change) (funext fun around => ?_)
  simp only [Function.comp, Prod.map, dottedSegments_withReturns, Text.withReturns_append]

end DottedName

/-! ## The rules -/

namespace Scanner

open Text (withReturns withReturns_cons_of_ne withReturns_cons_lineFeed)

theorem withReturns_token (kind : TokenKind) (text : List Char) :
    (Front.token kind text).withReturns = .token kind (withReturns text) := rfl

theorem withReturns_single {character : Char} (inLine : character ≠ '\n') (rest : List Char) :
    Prod.map Front.withReturns withReturns (single character rest) = single character (withReturns rest) := by
  rw [single, Prod.map, withReturns_token, withReturns_cons_of_ne inLine]
  rfl

theorem fixed?_withReturns {kind : TokenKind} {word : List Char} (inLine : Text.IsInLine word) (text : List Char) :
    fixed? (.token kind) word (withReturns text) =
      (fixed? (.token kind) word text).map (Prod.map Front.withReturns withReturns) := by
  rw [fixed?, fixed?, Text.dropWord?_withReturns inLine, Option.map_map, Option.map_map]
  refine congrArg (fun change => (Text.dropWord? word text).map change) (funext fun rest => ?_)
  simp only [Function.comp, Prod.map, withReturns_token, Text.withReturns_of_notMem inLine.noFeed]

theorem cutAt?_cons_of_ne {letter character : Char} (different : letter ≠ character) (text : List Char) :
    Text.cutAt? [letter] (character :: text) =
      (Text.cutAt? [letter] text).map fun around => (character :: around.1, around.2) :=
  Text.cutAt?_cons_of_eq_none (if_neg different)

theorem isInLine_keyword (kind : TemplateKind) : Text.IsInLine kind.keyword := by
  cases kind <;> decide

/-- After the keyword and a blank an open tag runs to the first closing brace, if this does not follow at once. -/
theorem openTag?_eq {kind : TemplateKind} {text more : List Char} {blank : Char}
    (found : Text.dropWord? kind.keyword text = some (blank :: more)) :
    openTag? kind text =
      if Text.isBlank blank = true ∧ more.head? ≠ some '\x7d' then
        (Text.cutAt? ['\x7d'] more).map fun around =>
          (.opener (.template kind) (kind.keyword ++ blank :: around.1 ++ ['\x7d']), around.2)
      else none := by
  cases more with
  | nil =>
      simp only [openTag?, found, Text.cutAt?, Text.dropWord?, Option.map_none, ite_self]
  | cons second rest =>
      by_cases brace : second = '\x7d'
      · subst brace
        simp only [openTag?, found, List.head?_cons, ne_eq, not_true_eq_false, and_false, if_false]
      · have later : some second ≠ some '\x7d' := fun same => brace (Option.some.inj same)
        simp only [openTag?, found, List.head?_cons, later, cutAt?_cons_of_ne (Ne.symm brace), Option.map_map, brace,
          ne_eq, not_false_eq_true, and_true]
        rfl

/-- An open tag is found with both line endings, unless a line feed is all that its keyword is followed by. -/
theorem openTag?_withReturns {kind : TemplateKind} {text : List Char}
    (free : ¬ kind.keyword ++ ['\n', '\x7d'] <+: text) :
    openTag? kind (withReturns text) = (openTag? kind text).map (Prod.map Front.withReturns withReturns) := by
  have dropped := Text.dropWord?_withReturns (isInLine_keyword kind) text
  have inTag := Text.withReturns_of_notMem (isInLine_keyword kind).noFeed
  have closes := Text.cutAt?_withReturns (by decide : Text.IsInLine ['\x7d']) (by decide)
  cases found : Text.dropWord? kind.keyword text with
  | none =>
      rw [found, Option.map_none] at dropped
      simp only [openTag?, dropped, found, Option.map_none]
  | some rest =>
      rw [found, Option.map_some] at dropped
      cases rest with
      | nil => simp only [openTag?, dropped, found, Text.withReturns_nil, Option.map_none]
      | cons blank more =>
          by_cases lineFeed : blank = '\n'
          · subst lineFeed
            -- The carriage return takes the part of the blank, and the line feed is one more character.
            have noBrace : more.head? ≠ some '\x7d' := by
              intro brace
              rcases List.head?_eq_some_iff.mp brace with ⟨after, rfl⟩
              refine free ⟨after, ?_⟩
              rw [Text.dropWord?_eq_some_iff.mp found, List.append_assoc]
              rfl
            rw [withReturns_cons_lineFeed] at dropped
            rw [openTag?_eq dropped, openTag?_eq found, cutAt?_cons_of_ne (by decide), closes,
              if_pos ⟨by decide, fun same => absurd (Option.some.inj same) (by decide)⟩, if_pos ⟨by decide, noBrace⟩,
              Option.map_map, Option.map_map, Option.map_map]
            refine congrArg (fun change => (Text.cutAt? ['\x7d'] more).map change) (funext fun around => ?_)
            change (Front.opener _ (kind.keyword ++ '\r' :: '\n' :: withReturns around.1 ++ ['\x7d']), _) =
              (Front.opener _ (withReturns (kind.keyword ++ '\n' :: around.1 ++ ['\x7d'])), _)
            rw [Text.withReturns_append, Text.withReturns_append, inTag, withReturns_cons_lineFeed]
            rfl
          · have sameHead : (withReturns more).head? = some '\x7d' ↔ more.head? = some '\x7d' :=
              Text.head?_withReturns_iff (by decide) (by decide)
            rw [withReturns_cons_of_ne lineFeed] at dropped
            rw [openTag?_eq dropped, openTag?_eq found, closes]
            by_cases begins : Text.isBlank blank = true ∧ more.head? ≠ some '\x7d'
            · rw [if_pos begins, if_pos ⟨begins.1, mt sameHead.mp begins.2⟩, Option.map_map, Option.map_map]
              refine congrArg (fun change => (Text.cutAt? ['\x7d'] more).map change) (funext fun around => ?_)
              change (Front.opener _ (kind.keyword ++ blank :: withReturns around.1 ++ ['\x7d']), _) =
                (Front.opener _ (withReturns (kind.keyword ++ blank :: around.1 ++ ['\x7d'])), _)
              rw [Text.withReturns_append, Text.withReturns_append, inTag, withReturns_cons_of_ne lineFeed]
              rfl
            · rw [if_neg begins, if_neg fun other => begins ⟨other.1, mt sameHead.mpr other.2⟩, Option.map_none]

/-- No keyword of a template is followed by a line feed and a closing brace at the front of a text. -/
def OpensFreely (text : List Char) : Prop := forall kind : TemplateKind, ¬ kind.keyword ++ ['\n', '\x7d'] <+: text

theorem findSome?_withReturns {text : List Char} {rules : List (List Char -> Option (Front × List Char))}
    (each : forall rule, rule ∈ rules ->
      rule (withReturns text) = (rule text).map (Prod.map Front.withReturns withReturns)) :
    (rules.findSome? fun rule => rule (withReturns text)) =
      (rules.findSome? fun rule => rule text).map (Prod.map Front.withReturns withReturns) := by
  induction rules with
  | nil => rfl
  | cons rule rules inductionHypothesis =>
      rw [List.findSome?_cons, List.findSome?_cons, each rule List.mem_cons_self]
      cases rule text with
      | some cut => rfl
      | none => exact inductionHypothesis fun other later => each other (List.mem_cons_of_mem rule later)

theorem frontOfBrace_withReturns {rest : List Char} (free : OpensFreely ('{' :: rest)) :
    frontOfBrace (withReturns rest) = Prod.map Front.withReturns withReturns (frontOfBrace rest) := by
  have inLine : '{' ≠ '\n' := by decide
  have tried : (braceRules.findSome? fun rule => rule ('{' :: withReturns rest)) =
      (braceRules.findSome? fun rule => rule ('{' :: rest)).map (Prod.map Front.withReturns withReturns) := by
    rw [← withReturns_cons_of_ne inLine]
    apply findSome?_withReturns
    intro rule member
    simp only [braceRules, List.mem_cons, List.not_mem_nil, or_false] at member
    rcases member with rfl | rfl | rfl | rfl | rfl
    · exact openTag?_withReturns (free .basic)
    · exact openTag?_withReturns (free .delegate)
    · exact fixed?_withReturns (by decide) _
    · exact fixed?_withReturns (by decide) _
    · exact fixed?_withReturns (by decide) _
  rw [frontOfBrace, frontOfBrace, tried]
  cases braceRules.findSome? fun rule => rule ('{' :: rest) with
  | none => exact (withReturns_single inLine rest).symm
  | some cut => rfl

theorem frontOfQuote_withReturns (rest : List Char) :
    frontOfQuote (withReturns rest) = Prod.map Front.withReturns withReturns (frontOfQuote rest) := by
  have inLine : '"' ≠ '\n' := by decide
  rw [frontOfQuote, frontOfQuote, Text.cutAt?_withReturns (by decide) (by decide)]
  cases Text.cutAt? ['"'] rest with
  | none => exact (withReturns_single inLine rest).symm
  | some around =>
      change (Front.token .quoted ('"' :: withReturns around.1 ++ ['"']), _) =
        (Front.token .quoted (withReturns ('"' :: around.1 ++ ['"'])), _)
      rw [Text.withReturns_append, withReturns_cons_of_ne inLine]
      rfl

/-- A reserved word has no line ending. -/
theorem reserved?_withReturns (word : List Char) :
    TokenKind.reserved? (withReturns word) = TokenKind.reserved? word := by
  unfold TokenKind.reserved?
  simp only [Text.withReturns_eq_iff (by decide : Text.IsInLine AttributeKey.autoescape.word),
    Text.withReturns_eq_iff (by decide : Text.IsInLine AttributeKey.requireCss.word),
    Text.withReturns_eq_iff (by decide : Text.IsInLine AttributeKey.cssBase.word),
    Text.withReturns_eq_iff (by decide : Text.IsInLine "as".toList)]

theorem frontOfLetter_withReturns {character : Char} (inLine : character ≠ '\n') (rest : List Char) :
    frontOfLetter character (withReturns rest) =
      Prod.map Front.withReturns withReturns (frontOfLetter character rest) := by
  rw [frontOfLetter, frontOfLetter, ← withReturns_cons_of_ne inLine, DottedName.front?_withReturns]
  cases DottedName.front? (character :: rest) with
  | none => exact (withReturns_single inLine rest).symm
  | some around =>
      change (Front.token ((TokenKind.reserved? (withReturns around.1)).getD .name) _, _) = _
      rw [reserved?_withReturns]
      rfl

theorem frontOfSlash_comment {after : List Char} (noStar : after.head? ≠ some '*') :
    frontOfSlash ('*' :: after) = (.opener .comment ['/', '*'], after) := by
  cases after with
  | nil => rfl
  | cons character after => exact frontOfSlash_of_ne fun same => noStar (by rw [same]; rfl)

theorem frontOfSlash_single {rest : List Char} (noSlash : rest.head? ≠ some '/') (noStar : rest.head? ≠ some '*') :
    frontOfSlash rest = single '/' rest := by
  unfold frontOfSlash
  split
  · exact absurd rfl noSlash
  · exact absurd rfl noStar
  · exact absurd rfl noStar
  · exact absurd rfl noStar
  · rfl

theorem frontOfSlash_withReturns {rest : List Char} (noSlash : rest.head? ≠ some '/') :
    frontOfSlash (withReturns rest) = Prod.map Front.withReturns withReturns (frontOfSlash rest) := by
  have keeps : forall {letter : Char} {text : List Char}, letter ≠ '\r' -> letter ≠ '\n' ->
      text.head? ≠ some letter -> (withReturns text).head? ≠ some letter :=
    fun notReturn notFeed other same => other ((Text.head?_withReturns_iff notReturn notFeed).mp same)
  have star : '*' ≠ '\n' := by decide
  by_cases isComment : rest.head? = some '*'
  · rcases List.head?_eq_some_iff.mp isComment with ⟨after, rfl⟩
    by_cases isDoc : after.head? = some '*'
    · rcases List.head?_eq_some_iff.mp isDoc with ⟨inside, rfl⟩
      by_cases isEmpty : inside.head? = some '/'
      · rcases List.head?_eq_some_iff.mp isEmpty with ⟨more, rfl⟩
        rfl
      · rw [withReturns_cons_of_ne star, withReturns_cons_of_ne star, frontOfSlash_doc isEmpty,
          frontOfSlash_doc (keeps (by decide) (by decide) isEmpty)]
        rfl
    · rw [withReturns_cons_of_ne star, frontOfSlash_comment isDoc,
        frontOfSlash_comment (keeps (by decide) star isDoc)]
      rfl
  · rw [frontOfSlash_single noSlash isComment, withReturns_single (by decide),
      frontOfSlash_single (keeps (by decide) (by decide) noSlash) (keeps (by decide) star isComment)]

/-- What stands at the front of a text, if this is neither a blank nor a line comment. -/
theorem front_withReturns {character : Char} {rest : List Char} (notBlank : Text.isBlank character = false)
    (noLine : ¬ ['/', '/'] <+: character :: rest) (free : OpensFreely (character :: rest)) :
    front character (withReturns rest) = Prod.map Front.withReturns withReturns (front character rest) := by
  have inLine : character ≠ '\n' := Text.ne_of_isBlank (by decide) notBlank
  unfold front
  rw [if_neg (Bool.eq_false_iff.mp notBlank), if_neg (Bool.eq_false_iff.mp notBlank)]
  split
  · exact frontOfLetter_withReturns inLine rest
  · split
    · refine frontOfSlash_withReturns fun slash => noLine ?_
      rcases List.head?_eq_some_iff.mp slash with ⟨after, rfl⟩
      exact ⟨after, rfl⟩
    · exact frontOfBrace_withReturns free
    · rfl
    · rfl
    · exact frontOfQuote_withReturns rest
    · exact (withReturns_single inLine rest).symm

end Scanner

end TemplateFile
