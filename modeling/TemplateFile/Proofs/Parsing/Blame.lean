import TemplateFile.Proofs.Diagnostic.Snippet
import TemplateFile.Proofs.Lexical.Occurrences
import TemplateFile.Proofs.Parsing.Outcome

namespace TemplateFile

/-!
# What a parse points at

Apart from what the body parsers say, a parse reports a template whose body
failed and a token that is misplaced.  Both are tokens of the file, so each of
these diagnostics is shown with the line on which its token begins.  The caret
points at the first character of the token; only the token that ends the file
has none, and then the caret points behind the last character of the file.
-/

/-- What a parse itself has to say about a token: the body of the template
failed, or the token is misplaced. -/
inductive Blames (tips : TipPolicy) (script : BodyScript) (path : String) (before : List Token)
    (offender : Option Token) : Token -> Diagnostic -> Prop
  | body {answered : AnsweredForm} {failure : BodyFailure} (among : answered ∈ answersIn script path before)
      (failed : answered.answer.outcome = .error failure) :
      Blames tips script path before offender answered.form.whole.token
        (answered.form.failureDiagnostic path (namespaceIn before) failure)
  | grammar {token : Token} (misplaced : offender = some token) :
      Blames tips script path before offender token (misplacedDiagnostic tips path before token)

/-- What a body parser itself has to say about a template. -/
def SaysItself (tips : TipPolicy) (script : BodyScript) (path : String) (before : List Token)
    (diagnostic : Diagnostic) : Prop :=
  ∃ answered report, answered ∈ answersIn script path before ∧ report ∈ answered.answer.reports ∧
    report.toDiagnostic tips = diagnostic

/-- A token stands in a text and begins with a character. -/
def Token.BeginsWith (source : List Char) (token : Token) (character : Char) : Prop :=
  ∃ before others after, source = before ++ character :: others ++ after ∧
    Denotes ⟨before, ⟨.token token.kind, character :: others⟩, after⟩ token

/-- A diagnostic about a token is shown with a code line and a caret line.  The
two bars stand in one column.  The caret stands where the place of the token is
in the code line, and what stands there is the first character of the token. -/
structure Diagnostic.PointsAt (source : String) (token : Token) (diagnostic : Diagnostic) (line : String)
    (dashes : Nat) (code caret : String) : Prop where
  place : diagnostic.location.first = token.span.first.toPlace
  isKnown : diagnostic.location.isKnown = true
  found : Source.line? source diagnostic.location.first.line = some line
  display : ∃ gutter, diagnostic.display source =
    [diagnostic.headline, "-> " ++ diagnostic.location.text, gutter, code, caret]
  shows : ShowsPlace line.toList diagnostic.location.first dashes code caret
  bars : code.toList[(toString diagnostic.location.first.line).length + 1]? = some '|' ∧
    caret.toList[(toString diagnostic.location.first.line).length + 1]? = some '|'
  points : caret.toList[(toString diagnostic.location.first.line).length + 3 + dashes]? = some '^'
  first : token.kind ≠ .endOfFile -> ∃ character, token.BeginsWith source.toList character ∧
    code.toList[(toString diagnostic.location.first.line).length + 3 + dashes]? = some character

namespace Diagnostic

variable {source line : String} {token : Token} {diagnostic : Diagnostic} {dashes : Nat}

/-- A diagnostic is shown so if its line is found and its indentation ends before the place. -/
theorem exists_pointsAt (place : diagnostic.location.first = token.span.first.toPlace)
    (firstLine : 0 < diagnostic.location.first.line)
    (found : Source.line? source diagnostic.location.first.line = some line)
    (columns : (line.toList.takeWhile isIndent).length + dashes + 1 = diagnostic.location.first.column)
    (first : token.kind ≠ .endOfFile -> ∃ character, token.BeginsWith source.toList character ∧
      (Text.trimEnd (line.toList.dropWhile isIndent))[dashes]? = some character) :
    ∃ code caret, PointsAt source token diagnostic line dashes code caret := by
  rcases exists_snippet columns with ⟨gutter, code, caret, snippet, shows⟩
  refine ⟨code, caret, ?_⟩
  exact {
    place := place
    isKnown := decide_eq_true firstLine
    found := found
    display := ⟨gutter, by simp only [Diagnostic.display, found, snippet, List.cons_append, List.nil_append]⟩
    shows := shows
    bars := shows.bars
    points := shows.getElem?_caret
    first := by
      rw [shows.getElem?_code]
      exact first }

end Diagnostic

namespace TokenStream

variable {path source : String} {token : Token} {diagnostic : Diagnostic}

/-- A diagnostic about any token of a file points at the token. -/
theorem exists_pointsAt_of_mem (member : token ∈ (ofSource path source).toList)
    (located : diagnostic.location = Location.ofSpan path token.span) :
    ∃ line dashes code caret, diagnostic.PointsAt source token line dashes code caret := by
  have place : diagnostic.location.first = token.span.first.toPlace := congrArg Location.first located
  rcases List.mem_append.mp member with inner | isFinal
  · rcases exists_denotes_of_mem_pending inner with ⟨⟨before, ⟨kind, written⟩, after⟩, denotesToken, parts⟩
    have isToken := denotesToken.kind
    change kind = .token token.kind at isToken
    subst isToken
    rcases denotesToken.heads.not_isBlank LexemeKind.noConfusion with ⟨first, others, begins, visible⟩
    change written = first :: others at begins
    subst begins
    have cut : source.toList = before ++ first :: (others ++ after) := by
      rw [parts, List.append_assoc, List.cons_append]
    rcases Diagnostic.exists_line_of_visible cut visible with ⟨line, dashes, found, columns, above⟩
    have here : diagnostic.location.first = (Position.after before).toPlace :=
      place.trans (congrArg Position.toPlace denotesToken.first)
    rw [← here] at found columns
    have firstLine : 0 < diagnostic.location.first.line := by
      rw [here]
      exact Nat.lt_add_right _ Nat.one_pos
    exact ⟨line, dashes, Diagnostic.exists_pointsAt place firstLine found columns fun _ =>
      ⟨first, ⟨before, others, after, parts, denotesToken⟩, above⟩⟩
  · have final := List.mem_singleton.mp isFinal
    have here : diagnostic.location.first = (Position.after source.toList).toPlace := by
      rw [place, final, ← Position.start_advance]
      rfl
    rcases Diagnostic.exists_line_of_end source with ⟨line, dashes, found, columns⟩
    rw [← here] at found columns
    have firstLine : 0 < diagnostic.location.first.line := by
      rw [here]
      exact Nat.lt_add_right _ Nat.one_pos
    refine ⟨line, dashes, Diagnostic.exists_pointsAt place firstLine found columns fun notEnd => ?_⟩
    rw [final] at notEnd
    exact absurd rfl notEnd

/-- The tokens of the extent of a file are tokens of the file. -/
theorem Extent.mem_toList {stream : TokenStream} {before : List Token} {offender : Option Token}
    (extent : stream.Extent before offender) (among : token ∈ before ∨ offender = some token) :
    token ∈ stream.toList := by
  cases extent with
  | whole accepted =>
      rcases among with inside | impossible
      · exact List.mem_append_left _ inside
      · cases impossible
  | upTo misplaced =>
      rcases misplaced.parts with ⟨later, parts⟩
      rw [parts]
      rcases among with inside | isOffender
      · exact List.mem_append_left _ inside
      · cases isOffender
        exact List.mem_append_right _ List.mem_cons_self

end TokenStream

theorem mem_of_mem_answersIn {script : BodyScript} {path : String} {before : List Token} {answered : AnsweredForm}
    (member : answered ∈ answersIn script path before) : answered.form.whole.token ∈ before := by
  rcases List.mem_map.mp member with ⟨⟨form, call⟩, listed, rfl⟩
  exact mem_of_mem_templatesIn (List.fst_mem_of_mem_zipIdx listed)

/-- What is reported about a template comes from its body parser, or the body failed. -/
theorem AnsweredForm.mem_diagnostics_iff {tips : TipPolicy} {path : String} {namespaceName : Option String}
    {answered : AnsweredForm} {diagnostic : Diagnostic} :
    diagnostic ∈ answered.diagnostics tips path namespaceName ↔
      (∃ report, report ∈ answered.answer.reports ∧ report.toDiagnostic tips = diagnostic) ∨
        ∃ failure, answered.answer.outcome = .error failure ∧
          answered.form.failureDiagnostic path namespaceName failure = diagnostic := by
  unfold diagnostics
  rw [List.mem_append, List.mem_map]
  refine or_congr_right ?_
  cases answered.answer.outcome with
  | ok body =>
      constructor
      · intro impossible
        cases impossible
      · rintro ⟨failure, impossible, _⟩
        cases impossible
  | error failure =>
      rw [List.mem_singleton]
      constructor
      · rintro rfl
        exact ⟨failure, rfl, rfl⟩
      · rintro ⟨other, same, rfl⟩
        cases same
        rfl

/-- The diagnostics of a parse come from the body parsers or from the parse itself. -/
theorem Session.Course.mem_diagnostics_iff {session next : Session} {script : BodyScript} {kind : FileKind}
    {path source : String} {before : List Token} {offender : Option Token} {outcome : ParseOutcome}
    (course : session.Course script kind path source before offender outcome next) (diagnostic : Diagnostic) :
    diagnostic ∈ outcome.diagnostics ↔ SaysItself session.log.tips script path before diagnostic ∨
      ∃ token, Blames session.log.tips script path before offender token diagnostic := by
  rw [course.diagnostics, List.mem_append, List.mem_flatMap, List.mem_map]
  constructor
  · rintro (⟨answered, among, reported⟩ | ⟨token, isOffender, rfl⟩)
    · rcases AnsweredForm.mem_diagnostics_iff.mp reported with ⟨report, listed, same⟩ | ⟨failure, failed, rfl⟩
      · exact Or.inl ⟨answered, report, among, listed, same⟩
      · exact Or.inr ⟨_, .body among failed⟩
    · exact Or.inr ⟨token, .grammar (Option.mem_toList.mp isOffender)⟩
  · rintro (⟨answered, report, among, listed, same⟩ | ⟨token, blames⟩)
    · exact Or.inl ⟨answered, among, AnsweredForm.mem_diagnostics_iff.mpr (.inl ⟨report, listed, same⟩)⟩
    · cases blames with
      | @body answered failure among failed =>
          exact Or.inl ⟨answered, among, AnsweredForm.mem_diagnostics_iff.mpr (.inr ⟨failure, failed, rfl⟩)⟩
      | grammar misplaced => exact Or.inr ⟨token, Option.mem_toList.mpr misplaced, rfl⟩

namespace Session

end Session

end TemplateFile
