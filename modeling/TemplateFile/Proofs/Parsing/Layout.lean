import TemplateFile.Proofs.Diagnostic.Layout
import TemplateFile.Proofs.LineEnding.Parse
import TemplateFile.Proofs.Parsing.Blame

namespace TemplateFile

/-!
# The layout of a syntax error

A syntax error is meant to be shown on five lines: the headline, an arrow with
the location, an empty gutter, the code line and the caret line.  The four below
the headline always come out as they should.  In the headline the message
escapes the misplaced token, but the tip repeats the token as it is quoted by
`Token.displayText`, which cuts a template down to its open tag and unexpected
text down to its first line, and leaves a quoted string alone.

So a quoted string with a line feed takes the headline apart, and so does the
open tag of a template with a line feed.  No other token can do it.
-/

namespace Token

/-- What is quoted of the token has a line feed: the token is a string or a
template, and the line feed is in the string or in the open tag. -/
def BreaksLine (token : Token) : Prop :=
  match token.kind with
  | .quoted => '\n' ∈ token.value.toList
  | .template _ => '\n' ∈ openTagOf token.value.toList
  | _ => False

theorem lineFeed_notMem_firstLineOf (text : List Char) : '\n' ∉ firstLineOf text := by
  unfold firstLineOf
  cases cut : Text.cutAt? ['\n'] text with
  | some around =>
      have first := Text.cutAt?_eq_some_iff.mp cut
      exact fun member => first.notMem ((Source.dropReturn_begins around.1).subset member)
  | none =>
      have absent := Text.cutAt?_eq_none_iff.mp cut
      intro member
      rcases List.append_of_mem member with ⟨front, back, rfl⟩
      exact absent ⟨front, back, by rw [List.append_assoc, List.singleton_append]⟩

end Token

/-- The rules for tokens take texts on one line, apart from the rules for strings and for names. -/
theorem LexicalRule.lineFeed_notMem_of_product {rule : LexicalRule} {found : List Char} {kind : TokenKind}
    (member : found ∈ rule.language) (product : rule.product found = .lexeme ⟨.token kind, found⟩)
    (notQuoted : kind ≠ .quoted) (notWord : ¬ IsWord kind) : '\n' ∉ found := by
  cases rule with
  | header tag =>
      rw [Set.mem_singleton_iff.mp member]
      cases tag <;> decide
  | closeCurly =>
      rw [Set.mem_singleton_iff.mp member]
      decide
  | equals =>
      rw [Set.mem_singleton_iff.mp member]
      decide
  | quoted =>
      cases product
      exact absurd rfl notQuoted
  | name => exact absurd (isWord_of_product_name product) notWord
  | _ => cases product

namespace Denotes

variable {occurrence : Occurrence} {token : Token}

/-- Apart from names, strings, templates and unexpected text, every token is written on one line. -/
theorem lineFeed_notMem_text (denotes : Denotes occurrence token) (expected : token.kind ≠ .unexpected)
    (notTemplate : forall kind, token.kind ≠ .template kind) (notQuoted : token.kind ≠ .quoted)
    (notName : token.kind ≠ .name) : '\n' ∉ occurrence.lexeme.text := by
  by_cases word : IsWord token.kind
  · cases kind : token.kind with
    | attributeKey key =>
        rw [(denotes.attributeKey key).mp kind]
        cases key <;> decide
    | asWord =>
        rw [denotes.asWord.mp kind]
        decide
    | name => exact absurd kind notName
    | _ => rw [kind] at word; exact word.elim
  · have heads := denotes.heads
    have lexeme : occurrence.lexeme = ⟨.token token.kind, occurrence.lexeme.text⟩ := by rw [← denotes.kind]
    rw [lexeme] at heads
    rcases heads.exists_takes expected notTemplate with ⟨rule, taken, product⟩
    exact LexicalRule.lineFeed_notMem_of_product taken.accepted product notQuoted word

/-- What is quoted of a token has a line feed only if the token is a string or a template. -/
theorem lineFeed_mem_displayText_iff (denotes : Denotes occurrence token) :
    '\n' ∈ token.displayText.toList ↔ token.BreaksLine := by
  have value := denotes.value
  have plain := denotes.lineFeed_notMem_text
  unfold Token.displayText Token.BreaksLine
  cases kind : token.kind with
  | endOfFile => exact iff_of_false (show '\n' ∉ "end of file".toList by decide) id
  | unexpected =>
      rw [String.toList_ofList]
      exact iff_of_false (Token.lineFeed_notMem_firstLineOf _) id
  | template kind => rw [String.toList_ofList]
  | quoted => exact Iff.rfl
  | name =>
      rw [kind] at value
      refine iff_of_false (fun member => ?_) id
      rw [value] at member
      exact absurd (List.mem_filter.mp member).2 (by decide)
  | _ =>
      rw [kind] at value plain
      refine iff_of_false (fun member => plain ?_ ?_ ?_ ?_ (value ▸ member)) id
      all_goals simp only [ne_eq, reduceCtorEq, not_false_eq_true, implies_true]

end Denotes

namespace TokenStream

/-- The same goes for the token that ends a file. -/
theorem lineFeed_mem_displayText_iff {path source : String} {token : Token}
    (member : token ∈ (ofSource path source).toList) : '\n' ∈ token.displayText.toList ↔ token.BreaksLine := by
  rcases List.mem_append.mp member with inner | isFinal
  · rcases exists_denotes_of_mem_pending inner with ⟨occurrence, denotes, _⟩
    exact denotes.lineFeed_mem_displayText_iff
  · rw [List.mem_singleton.mp isFinal]
    exact iff_of_false (show '\n' ∉ "end of file".toList by decide) id

end TokenStream

/-! ## The headline -/

/-- What is expected is said on one line. -/
theorem lineFeed_notMem_expectedAfter (before : List Token) : '\n' ∉ (expectedAfter before).toList := by
  unfold expectedAfter
  cases Stage.start.run (kindsOf before) with
  | none => exact List.not_mem_nil
  | some stage => cases stage <;> decide

theorem lineFeed_notMem_message_misplacedFault (before : List Token) (token : Token) :
    '\n' ∉ (misplacedFault before token).message.toList := by
  apply SyntaxFault.lineFeed_notMem_message
  unfold misplacedFault
  split
  · exact List.not_mem_nil
  · simp only [SyntaxFault.trail, String.toList_append, List.mem_append, not_or]
    exact ⟨⟨by decide, lineFeed_notMem_expectedAfter before⟩, by decide⟩

/-- The tip about a misplaced token has the line feeds of what is quoted of the token. -/
theorem count_tip_misplacedFault (before : List Token) (token : Token) :
    ((misplacedFault before token).tip.map fun tip => tip.toList.count '\n').getD 0 =
      token.displayText.toList.count '\n' := by
  unfold misplacedFault
  split
  · next unexpected =>
      have oneLine : '\n' ∉ token.displayText.toList := by
        rw [Token.displayText, unexpected, String.toList_ofList]
        exact Token.lineFeed_notMem_firstLineOf _
      rw [SyntaxFault.count_tip_unrecognised, List.count_eq_zero.mpr oneLine]
  · exact SyntaxFault.count_tip_unexpected _ (lineFeed_notMem_expectedAfter before)

/-- How many line feeds there are in the headline about a token, besides the one that ends it. -/
def Token.extraLines (tips : TipPolicy) (token : Token) : Nat :=
  match tips with
  | .keep => token.displayText.toList.count '\n'
  | .discard => 0

/-- There are none if the tips are dropped, or if what is quoted of the token is on one line. -/
theorem TokenStream.extraLines_eq_zero_iff {path source : String} {token : Token} {tips : TipPolicy}
    (member : token ∈ (ofSource path source).toList) :
    token.extraLines tips = 0 ↔ tips = .discard ∨ ¬ token.BreaksLine := by
  cases tips with
  | keep => rw [Token.extraLines, List.count_eq_zero, lineFeed_mem_displayText_iff member, or_iff_right (by decide)]
  | discard => exact iff_of_true rfl (Or.inl rfl)

theorem count_headline_misplacedDiagnostic (tips : TipPolicy) (path : String) (before : List Token) (token : Token) :
    (misplacedDiagnostic tips path before token).headline.toList.count '\n' = token.extraLines tips := by
  have message := List.count_eq_zero.mpr (lineFeed_notMem_message_misplacedFault before token)
  rw [Diagnostic.count_headline]
  change (misplacedFault before token).message.toList.count '\n' + _ = _
  rw [message, Nat.zero_add]
  cases tips with
  | keep => exact count_tip_misplacedFault before token
  | discard => rfl

/-! ## The whole layout -/

namespace Diagnostic

namespace PointsAt

variable {source line code caret : String} {token : Token} {diagnostic : Diagnostic} {dashes : Nat}

/-- The location is written with the place of the token. -/
theorem text_location (points : diagnostic.PointsAt source token line dashes code caret) :
    diagnostic.location.text = diagnostic.location.path ++ ":" ++ toString token.span.first.line ++ ":" ++
      toString token.span.first.column := by
  rw [Location.text, if_pos points.isKnown, points.place]

/-- Below the headline stand four lines, if the path is written on one line. -/
theorem exists_printedLines (points : diagnostic.PointsAt source token line dashes code caret)
    (onePath : '\n' ∉ diagnostic.location.path.toList) :
    ∃ gutter : String, gutter.toList = List.replicate ((toString token.span.first.line).length + 1) ' ' ++ ['|'] ∧
      diagnostic.printedLines source = Source.lines diagnostic.headline.toList ++
        ["-> " ++ diagnostic.location.text, gutter, code, caret].map String.toList := by
  rcases points.display with ⟨gutter, display⟩
  have isSnippet : snippet line.toList diagnostic.location.first = [gutter, code, caret] := by
    rw [Diagnostic.display, points.found] at display
    exact (List.cons.inj (List.cons.inj display).2).2
  have isGutter := toList_gutter isSnippet
  have arrowLine : '\n' ∉ ("-> " ++ diagnostic.location.text).toList := by
    rw [String.toList_append, List.mem_append, not_or]
    exact ⟨by decide, Location.lineFeed_notMem_text onePath⟩
  have gutterLine : '\n' ∉ gutter.toList := by
    rw [isGutter, List.mem_append, not_or]
    exact ⟨fun among => absurd (List.eq_of_mem_replicate among) (by decide), by decide⟩
  have codeLine := points.shows.lineFeed_notMem_code (Source.lineFeed_notMem_of_line? points.found)
  have caretLine := points.shows.lineFeed_notMem_caret
  refine ⟨gutter, by rw [isGutter, points.place], ?_⟩
  rw [printedLines_eq, display]
  simp only [List.flatMap_cons, List.flatMap_nil, Source.lines_of_notMem arrowLine, Source.lines_of_notMem gutterLine,
    Source.lines_of_notMem codeLine, Source.lines_of_notMem caretLine, List.singleton_append, List.map_cons,
    List.map_nil]

end PointsAt

/-- The layout in which the error about a misplaced token comes out.  Below the
headline, with as many lines as it may have, stand an arrow with the location,
an empty gutter, and the two lines that point at the token.  The headline has
one line more for each line feed in what its tip quotes of the token, and so the
layout has five lines as long as there is none. -/
structure LaidOut (tips : TipPolicy) (source : String) (token : Token) (diagnostic : Diagnostic)
    (arrow gutter code caret : String) : Prop where
  points : ∃ line dashes, diagnostic.PointsAt source token line dashes code caret
  isArrow : arrow = "-> " ++ (diagnostic.location.path ++ ":" ++ toString token.span.first.line ++ ":" ++
    toString token.span.first.column)
  isGutter : gutter.toList = List.replicate ((toString token.span.first.line).length + 1) ' ' ++ ['|']
  printed : diagnostic.printedLines source =
    Source.lines diagnostic.headline.toList ++ [arrow, gutter, code, caret].map String.toList
  length : (diagnostic.printedLines source).length = 5 + token.extraLines tips
  fiveLines_iff : diagnostic.printedLines source = [diagnostic.headline, arrow, gutter, code, caret].map String.toList ↔
    tips = .discard ∨ ¬ token.BreaksLine

end Diagnostic

/-- The error about a token of a file comes out in its layout. -/
theorem TokenStream.exists_laidOut_of_mem {path source : String} {token : Token} (tips : TipPolicy)
    (before : List Token) (onePath : '\n' ∉ path.toList) (member : token ∈ (ofSource path source).toList) :
    ∃ arrow gutter code caret,
      (misplacedDiagnostic tips path before token).LaidOut tips source token arrow gutter code caret := by
  generalize isDiagnostic : misplacedDiagnostic tips path before token = diagnostic
  have located : diagnostic.location = Location.ofSpan path token.span := by rw [← isDiagnostic]; rfl
  have headline : diagnostic.headline.toList.count '\n' = token.extraLines tips := by
    rw [← isDiagnostic, count_headline_misplacedDiagnostic]
  rcases exists_pointsAt_of_mem member located with ⟨line, dashes, code, caret, points⟩
  rcases points.exists_printedLines (by rw [located]; exact onePath) with ⟨gutter, isGutter, printed⟩
  refine ⟨"-> " ++ diagnostic.location.text, gutter, code, caret, ?_⟩
  exact {
    points := ⟨line, dashes, points⟩
    isArrow := by rw [points.text_location]
    isGutter := isGutter
    printed := printed
    length := by
      rw [printed, List.length_append, Source.length_lines, headline]
      change _ + 1 + 4 = _
      omega
    fiveLines_iff := by
      have texts : [diagnostic.headline, "-> " ++ diagnostic.location.text, gutter, code, caret].map String.toList =
          [diagnostic.headline.toList] ++
            ["-> " ++ diagnostic.location.text, gutter, code, caret].map String.toList := rfl
      rw [printed, texts, List.append_left_inj, Source.lines_eq_singleton_iff, ← List.count_eq_zero, headline,
        extraLines_eq_zero_iff member] }

namespace Session

/-- A namespace tag with a template in it, whose open tag goes on to the next line. -/
def brokenTagSource : String := "\x7bnamespace \x7btemplate\n.a\x7d\x7b/template\x7d\x7d"

/-- The first token of `brokenTagSource`. -/
def namespaceToken : Token := ⟨.header .namespaceTag, "\x7bnamespace", ⟨⟨⟨1, 1⟩, 0⟩, ⟨⟨1, 10⟩, 9⟩⟩, none⟩

/-- The template in `brokenTagSource`. -/
def brokenTag : Token :=
  ⟨.template .basic, "\x7btemplate\n.a\x7d\x7b/template\x7d", ⟨⟨⟨1, 12⟩, 11⟩, ⟨⟨2, 14⟩, 34⟩⟩, none⟩

end Session

end TemplateFile
