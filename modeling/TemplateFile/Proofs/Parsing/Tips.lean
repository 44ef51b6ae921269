import TemplateFile.Proofs.Lexical.Occurrences
import TemplateFile.Proofs.Lexical.TemplateParts
import TemplateFile.Proofs.Parsing.Outcome
import TemplateFile.Proofs.Source.Lines

namespace TemplateFile

/-!
# Tips about what is never closed

The tip about text that no rule accepts is guessed from a quotation, which shows
only the first line of the text.  The guess is always right: the words by which
a construct is known have no line break in them, none of them begins with
another one, and a text that begins with one of them is unexpected only if the
construct is never closed.
-/

/-- A word without line breaks begins a text exactly if it begins its first line. -/
theorem Token.prefix_firstLineOf_iff {word text : List Char} (noFeed : '\n' ∉ word) (noReturn : '\r' ∉ word) :
    word <+: firstLineOf text ↔ word <+: text := by
  unfold firstLineOf
  cases cut : Text.cutAt? ['\n'] text with
  | none => exact Iff.rfl
  | some around =>
      rcases around with ⟨line, after⟩
      have parts : text = line ++ '\n' :: after := by
        rw [Text.eq_of_cutAt? cut, List.append_assoc, List.singleton_append]
      rw [parts]
      constructor
      · intro begins
        exact begins.trans ((Source.dropReturn_begins line).trans (List.prefix_append line _))
      · intro begins
        exact Source.prefix_dropReturn noReturn (Text.prefix_of_notMem noFeed begins)

namespace SyntaxFault

/-- The first line of a text gives the same tip as the whole text. -/
theorem tip_firstLineOf (text : List Char) :
    (unrecognised (String.ofList (Token.firstLineOf text))).tip = (unrecognised (String.ofList text)).tip := by
  have keyword : forall kind : TemplateKind, kind.keyword <+: Token.firstLineOf text ↔ kind.keyword <+: text := by
    intro kind
    apply Token.prefix_firstLineOf_iff
    all_goals cases kind <;> decide
  have comment : ['/', '*'] <+: Token.firstLineOf text ↔ ['/', '*'] <+: text :=
    Token.prefix_firstLineOf_iff (by decide) (by decide)
  simp only [tip, String.toList_ofList, keyword, comment]

/-- The tip is chosen by the word that the text begins with. -/
structure TipByFront (tip : Option String) (text : List Char) : Prop where
  basic : tip = some "Template is missing its \x7b/template\x7d closing tag" ↔ TemplateKind.basic.keyword <+: text
  delegate : tip = some "Template is missing its \x7b/deltemplate\x7d closing tag" ↔
    TemplateKind.delegate.keyword <+: text
  comment : tip = some "Comment is missing its closing */" ↔ ['/', '*'] <+: text
  none : tip = none ↔ (forall kind : TemplateKind, ¬ kind.keyword <+: text) ∧ ¬ ['/', '*'] <+: text

/-- None of these words begins with another one, so the order in which they are tried does not matter. -/
theorem tipByFront (text : List Char) : TipByFront (unrecognised (String.ofList text)).tip text := by
  have apart : forall word other : List Char, ¬ word <+: other -> ¬ other <+: word -> word <+: text ->
      ¬ other <+: text := by
    intro word other shorter longer begins otherBegins
    exact (List.prefix_or_prefix_of_prefix begins otherBegins).elim shorter longer
  simp only [tip, String.toList_ofList]
  by_cases basic : TemplateKind.basic.keyword <+: text
  · have delegate := apart _ TemplateKind.delegate.keyword (by decide) (by decide) basic
    have comment := apart _ ['/', '*'] (by decide) (by decide) basic
    rw [if_pos basic]
    exact {
      basic := iff_of_true rfl basic
      delegate := iff_of_false (by decide) delegate
      comment := iff_of_false (by decide) comment
      none := iff_of_false (Option.some_ne_none _) fun free => free.1 .basic basic }
  · rw [if_neg basic]
    by_cases delegate : TemplateKind.delegate.keyword <+: text
    · have comment := apart _ ['/', '*'] (by decide) (by decide) delegate
      rw [if_pos delegate]
      exact {
        basic := iff_of_false (by decide) basic
        delegate := iff_of_true rfl delegate
        comment := iff_of_false (by decide) comment
        none := iff_of_false (Option.some_ne_none _) fun free => free.1 .delegate delegate }
    · rw [if_neg delegate]
      by_cases comment : ['/', '*'] <+: text
      · rw [if_pos comment]
        exact {
          basic := iff_of_false (by decide) basic
          delegate := iff_of_false (by decide) delegate
          comment := iff_of_true rfl comment
          none := iff_of_false (Option.some_ne_none _) fun free => free.2 comment }
      · rw [if_neg comment]
        have free : forall kind : TemplateKind, ¬ kind.keyword <+: text := by
          intro kind
          cases kind
          · exact basic
          · exact delegate
        exact {
          basic := iff_of_false (Option.some_ne_none _).symm basic
          delegate := iff_of_false (Option.some_ne_none _).symm delegate
          comment := iff_of_false (Option.some_ne_none _).symm comment
          none := iff_of_true rfl ⟨free, comment⟩ }

end SyntaxFault

/-! ## What no rule accepts -/

/-- A text begins with a complete open tag, and the closing tag does not come after it. -/
def LacksClosingTag (kind : TemplateKind) (text rest : List Char) : Prop :=
  ∃ openTag inside, openTag ∈ (LexicalRule.openTag kind).language ∧ openTag <+: text ∧
    text ++ rest = openTag ++ inside ∧ ¬ kind.closer <:+: inside

/-- A text begins a comment, and the end of the comment does not come after it. -/
def LacksCommentEnd (text rest : List Char) : Prop :=
  ∃ inside, ['/', '*'] <+: text ∧ text ++ rest = ['/', '*'] ++ inside ∧ ¬ ['*', '/'] <:+: inside

/-- A text is a single character that no rule accepts before the text that follows. -/
def IsUnacceptable (text rest : List Char) : Prop :=
  ∃ character, text = [character] ∧ forall rule : LexicalRule, ¬ rule.Matches (character :: rest)

theorem TemplateKind.two_le_length_keyword (kind : TemplateKind) : 2 ≤ kind.keyword.length := by
  cases kind <;> decide

/-- A word of several characters does not begin a single one. -/
theorem not_prefix_singleton {word : List Char} {character : Char} (long : 2 ≤ word.length) :
    ¬ word <+: [character] := by
  intro begins
  have short := begins.length_le
  rw [List.length_singleton] at short
  omega

theorem LacksClosingTag.keyword_prefix {kind : TemplateKind} {text rest : List Char}
    (lacks : LacksClosingTag kind text rest) : kind.keyword <+: text := by
  rcases lacks with ⟨openTag, _, opens, begins, _⟩
  exact (LexicalRule.opening_prefix_of_mem opens).trans begins

namespace Unlexable

variable {text rest : List Char}

theorem not_infix_of_docOpener {inside : List Char}
    (taken : LexicalRule.docOpener.Takes ('/' :: '*' :: '*' :: inside) ['/', '*', '*'])
    (absent : ¬ ['*', '/'] <:+: inside) : ¬ ['*', '/'] <:+: '*' :: inside := by
  intro found
  rcases List.infix_cons_iff.mp found with here | later
  · -- The comment would be the empty one, which is tried before.
    have empty : LexicalRule.emptyComment.Matches ('/' :: '*' :: '*' :: inside) :=
      ⟨['/', '*', '*', '/'], rfl, (List.prefix_append_right_inj ['/', '*']).mpr here⟩
    exact taken.noEarlier .emptyComment (by decide) empty
  · exact absent later

/-- Text that no rule accepts is one of four things. -/
theorem cases (unlexable : Unlexable text rest) :
    (∃ kind, LacksClosingTag kind text rest) ∨ LacksCommentEnd text rest ∨ IsUnacceptable text rest := by
  rcases unlexable with unaccepted | ⟨rfl, rule, construct, opener, inside, taken, product, rfl, absent⟩
  · exact Or.inr (Or.inr unaccepted)
  · have whole : opener ++ inside ++ [] = opener ++ inside := List.append_nil _
    cases rule with
    | openTag kind =>
        cases product
        exact Or.inl ⟨kind, opener, inside, taken.accepted, List.prefix_append _ _, whole, absent⟩
    | commentOpener =>
        have isOpener : opener = ['/', '*'] := taken.accepted
        subst isOpener
        cases product
        exact Or.inr (Or.inl ⟨inside, List.prefix_append _ _, whole, absent⟩)
    | docOpener =>
        have isOpener : opener = ['/', '*', '*'] := taken.accepted
        subst isOpener
        cases product
        exact Or.inr (Or.inl ⟨'*' :: inside, ⟨'*' :: inside, rfl⟩, whole, not_infix_of_docOpener taken absent⟩)
    | _ => cases product

/-- What the text begins with tells which of them it is. -/
theorem lacksClosingTag_iff (unlexable : Unlexable text rest) (kind : TemplateKind) :
    LacksClosingTag kind text rest ↔ kind.keyword <+: text := by
  constructor
  · exact LacksClosingTag.keyword_prefix
  · intro begins
    rcases unlexable.cases with ⟨other, lacks⟩ | ⟨inside, comment, _⟩ | ⟨character, rfl, _⟩
    · have same : kind = other := by
        have prefixes := List.prefix_or_prefix_of_prefix begins lacks.keyword_prefix
        cases kind <;> cases other <;> first | rfl | exact absurd prefixes (by decide)
      exact same ▸ lacks
    · have prefixes := List.prefix_or_prefix_of_prefix begins comment
      cases kind <;> exact absurd prefixes (by decide)
    · exact absurd begins (not_prefix_singleton kind.two_le_length_keyword)

theorem lacksCommentEnd_iff (unlexable : Unlexable text rest) : LacksCommentEnd text rest ↔ ['/', '*'] <+: text := by
  constructor
  · rintro ⟨_, begins, _⟩
    exact begins
  · intro begins
    rcases unlexable.cases with ⟨kind, lacks⟩ | lacks | ⟨character, rfl, _⟩
    · have prefixes := List.prefix_or_prefix_of_prefix begins lacks.keyword_prefix
      cases kind <;> exact absurd prefixes (by decide)
    · exact lacks
    · exact absurd begins (not_prefix_singleton (by decide))

theorem isUnacceptable_iff (unlexable : Unlexable text rest) :
    IsUnacceptable text rest ↔ (forall kind : TemplateKind, ¬ kind.keyword <+: text) ∧ ¬ ['/', '*'] <+: text := by
  constructor
  · rintro ⟨character, rfl, _⟩
    exact ⟨fun kind => not_prefix_singleton kind.two_le_length_keyword, not_prefix_singleton (by decide)⟩
  · rintro ⟨noTag, noComment⟩
    rcases unlexable.cases with ⟨kind, lacks⟩ | ⟨_, comment, _⟩ | unacceptable
    · exact absurd lacks.keyword_prefix (noTag kind)
    · exact absurd comment noComment
    · exact unacceptable

end Unlexable

/-! ## The tip fits -/

/-- A tip says what is missing, if something is. -/
structure TipFits (tip : Option String) (text rest : List Char) : Prop where
  basic : tip = some "Template is missing its \x7b/template\x7d closing tag" ↔ LacksClosingTag .basic text rest
  delegate : tip = some "Template is missing its \x7b/deltemplate\x7d closing tag" ↔
    LacksClosingTag .delegate text rest
  comment : tip = some "Comment is missing its closing */" ↔ LacksCommentEnd text rest
  none : tip = none ↔ IsUnacceptable text rest

/-- The tip about an unexpected token fits what is wrong with its text. -/
theorem Denotes.tipFits {occurrence : Occurrence} {token : Token} (denotes : Denotes occurrence token)
    (unexpected : token.kind = .unexpected) :
    TipFits (SyntaxFault.unrecognised token.displayText).tip token.value.toList occurrence.after := by
  have unlexable := denotes.unexpected.mp unexpected
  have value := denotes.value
  rw [unexpected] at value
  have isText : token.value.toList = occurrence.lexeme.text := value
  rw [Token.displayText, unexpected, SyntaxFault.tip_firstLineOf, isText]
  have byFront := SyntaxFault.tipByFront occurrence.lexeme.text
  exact {
    basic := byFront.basic.trans (unlexable.lacksClosingTag_iff .basic).symm
    delegate := byFront.delegate.trans (unlexable.lacksClosingTag_iff .delegate).symm
    comment := byFront.comment.trans unlexable.lacksCommentEnd_iff.symm
    none := byFront.none.trans unlexable.isUnacceptable_iff.symm }

/-- The error with which the rule for a file stops, and the token at which it stops. -/
def FileRule.stop? (script : BodyScript) (kind : FileKind) (state : ParseState) : Option (SyntaxError × Token) :=
  match sourceFile script kind state with
  | .ok _ _ => none
  | .error error after => some (error, after.tokens.current)

theorem FileRule.exists_of_stop? {script : BodyScript} {kind : FileKind} {state : ParseState} {error : SyntaxError}
    {token : Token} (stopped : stop? script kind state = some (error, token)) :
    ∃ after, sourceFile script kind state = .error error after ∧ after.tokens.current = token := by
  unfold stop? at stopped
  split at stopped
  · cases stopped
  · next failed after ran =>
      cases stopped
      exact ⟨after, ran, rfl⟩

/-- Where a parse stops at a token that no rule accepts, its last diagnostic points there, and the tip
says what was never closed, if anything. -/
theorem Session.parseFile_tipFits {session : Session} {script : BodyScript} {kind : FileKind} {path source : String}
    {error : SyntaxError} {token : Token}
    (stopped : FileRule.stop? script kind (ParseState.start session path source) = some (error, token))
    (unexpected : token.kind = .unexpected) :
    ∃ before rest diagnostic,
      source.toList = before ++ token.value.toList ++ rest ∧
      token.span.first = Position.after before ∧
      (session.parseFile script kind path source).1.file = none ∧
      (session.parseFile script kind path source).1.diagnostics.getLast? = some diagnostic ∧
      diagnostic.name = "SyntaxError" ∧
      diagnostic.location = Location.ofSpan path token.span ∧
      (session.log.tips = .keep -> diagnostic.tip = error.fault.tip) ∧
      TipFits error.fault.tip token.value.toList rest := by
  rcases FileRule.exists_of_stop? stopped with ⟨after, ran, rfl⟩
  rcases FileRule.course_of_error ran with ⟨tokens, course, _, isMisplaced⟩
  have inner : after.tokens.current.kind ≠ .endOfFile := by
    rw [unexpected]
    exact TokenKind.noConfusion
  rcases TokenStream.exists_denotes_of_mem_pending (course.passes.current_mem inner) with ⟨occurrence, denotes, parts⟩
  have isText := denotes.value
  rw [unexpected] at isText
  have fault : error.fault = .unrecognised after.tokens.current.displayText := by
    rw [isMisplaced, misplacedFault, if_pos unexpected]
  rw [isMisplaced] at ran
  rw [parseFile_of_error ran course.log (toDiagnostic_misplacedFault _ _ _ _)]
  refine ⟨occurrence.before, occurrence.after, _, ?_, denotes.first, rfl, List.getLast?_concat, rfl, rfl, ?_, ?_⟩
  · rw [parts, isText]
  · intro keeps
    simp only [misplacedDiagnostic, keeps, isMisplaced]
  · rw [fault]
    exact denotes.tipFits unexpected

/-- A file that breaks off inside a template, whose open tag is spread over two lines. -/
def brokenOffSource : String := "\x7bnamespace a\x7d\n\x7btemplate\r\n  .greeting\x7d\n\x7bif $x\x7d /* Hello */"

theorem Session.parseFile_tipFits_brokenOff :
    ∃ text rest diagnostic,
      (Session.start.parseFile (.always BodyParser.raw) .source "broken.soy" brokenOffSource).1.diagnostics.getLast? =
        some diagnostic ∧
      diagnostic.tip = some "Template is missing its \x7b/template\x7d closing tag" ∧
      LacksClosingTag .basic text rest ∧ TipFits diagnostic.tip text rest := by
  have evaluated : (FileRule.stop? (.always BodyParser.raw) .source
      (ParseState.start Session.start "broken.soy" brokenOffSource)).map (fun stop => (stop.1.fault.tip, stop.2.kind)) =
        some (some "Template is missing its \x7b/template\x7d closing tag", .unexpected) := by
    decide +kernel
  rcases Option.map_eq_some_iff.mp evaluated with ⟨⟨error, token⟩, stopped, parts⟩
  have isTip : error.fault.tip = some "Template is missing its \x7b/template\x7d closing tag" := congrArg Prod.fst parts
  rcases parseFile_tipFits stopped (congrArg Prod.snd parts) with ⟨_, rest, diagnostic, _, _, _, last, _, _, keeps, fits⟩
  have tip := (keeps rfl).trans isTip
  rw [← keeps rfl] at fits
  exact ⟨_, rest, diagnostic, last, tip, fits.basic.mp tip, fits⟩

end TemplateFile
