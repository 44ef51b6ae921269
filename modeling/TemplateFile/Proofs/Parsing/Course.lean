import TemplateFile.Proofs.Grammar.Extent
import TemplateFile.Proofs.Grammar.HeadTokens
import TemplateFile.Proofs.Parsing.Templates

namespace TemplateFile

/-!
# The course of a parse

A parse takes an id for the file, reads its head and then its templates, until
it comes to the end or to a misplaced token.  Whatever it comes to, the
templates that it has read on the way are the templates of the extent of the
file, each with its answer.  So the course of a parse is settled by the extent,
by the answers, and by the session it begins in: the bodies that are handed
out, what is reported, the ids that are taken, and the tree.
-/

/-- What is expected after tokens that a sentence can begin with. -/
def expectedAfter (before : List Token) : String :=
  match Stage.start.run (kindsOf before) with
  | some stage => stage.expectation.text
  | none => ""

/-- What is wrong with a misplaced token. -/
def misplacedFault (before : List Token) (token : Token) : SyntaxFault :=
  if token.kind = .unexpected then .unrecognised token.displayText
  else .unexpected token.displayText (expectedAfter before)

namespace FileForm

/-- The head of a form. -/
def head (path : String) (form : FileForm) : FileHead where
  delegatePackage := form.package.map fun tag => tag.name.token.value
  namespaceDeclaration := form.namespaceTag.map (NamespaceForm.declaration path)
  aliases := form.aliases.map (AliasForm.declaration path)

/-- The tree of a form, with an id and the templates that were made of it. -/
def tree (kind : FileKind) (path : String) (form : FileForm) (id : Nat) (templates : List Template) : SourceFile where
  id := id
  path := path
  kind := kind
  delegatePackage := (form.head path).delegatePackage
  namespaceDeclaration := (form.head path).namespaceDeclaration
  aliases := (form.head path).aliases
  templates := templates

/-- The tokens of the head of a form. -/
def headTokens (form : FileForm) : List Token :=
  form.package.toList.flatMap PackageForm.tokens ++
    (form.namespaceTag.toList.flatMap NamespaceForm.tokens ++ form.aliases.flatMap AliasForm.tokens)

theorem tokens_eq_headTokens_append (form : FileForm) :
    form.tokens = form.headTokens ++ form.templates.flatMap TemplateForm.tokens := by
  rw [tokens, headTokens, List.append_assoc, List.append_assoc]

/-- The templates of a form are those among its tokens, if the head has none. -/
theorem templatesIn_tokens {form : FileForm}
    (noTemplate : forall token, token ∈ form.headTokens -> token.kind.isTemplate = false) :
    templatesIn form.tokens = form.templates := by
  rw [tokens_eq_headTokens_append, templatesIn_append, templatesIn_eq_nil noTemplate, templatesIn_flatMap_tokens,
    List.nil_append]

theorem namespaceName_head (path : String) (form : FileForm) :
    (form.head path).namespaceDeclaration.map NamespaceDeclaration.name = form.namespaceName := by
  rw [head, Option.map_map]
  rfl

end FileForm

/-- Between two states of a stream lie only these tokens. -/
theorem TokenStream.Passes.unique {before after : TokenStream} {tokens others : List Token}
    (passes : before.Passes tokens after) (otherPasses : before.Passes others after) : tokens = others :=
  List.append_cancel_right (passes.pending.symm.trans otherPasses.pending)

/-- The templates among tokens have been read, and nothing else has left a trace. -/
structure ParseState.Course (script : BodyScript) (state : ParseState) (tokens : List Token)
    (templates : List Template) (after : ParseState) : Prop where
  passes : state.tokens.Passes tokens after.tokens
  requests : after.requests = state.requests ++ (templatesIn tokens).map (TemplateForm.request state.tokens.path)
  log : after.log = ⟨state.log.tips, state.log.entries ++
    (AnsweredForm.answerAll script state.tokens.path state.requests.length (templatesIn tokens)).flatMap
      (AnsweredForm.diagnostics state.log.tips state.tokens.path (namespaceIn tokens))⟩
  templates : AnsweredForm.templates state.tokens.path (namespaceIn tokens)
    (AnsweredForm.answerAll script state.tokens.path state.requests.length (templatesIn tokens)) state.ids.take.2 =
      (templates, after.ids)

/-- The rounds in which the templates are read, after the file has taken its id, make up a course. -/
theorem ParseState.Course.of_rounds {script : BodyScript} {state after : ParseState} (stream : TokenStream)
    {tokens : List Token} {templates : List Template} (passes : state.tokens.Passes tokens after.tokens)
    (rounds : Rounds (TemplateForm.Round script state.tokens.path (namespaceIn tokens))
      { state with tokens := stream, ids := state.ids.take.2 } (templatesIn tokens) templates after) :
    ParseState.Course script state tokens templates after where
  passes := passes
  requests := rounds.requests_eq
  log := rounds.log_eq_append
  templates := rounds.templates_eq

/-- The templates that a parse reads, whether they become part of a tree or not. -/
def ParseState.templatesRead (script : BodyScript) (state : ParseState) : List Template :=
  match FileHead.rule state.tokens with
  | .error _ _ => []
  | .ok head stream =>
      match FileRule.templates script (head.namespaceDeclaration.map NamespaceDeclaration.name)
          { state with tokens := stream, ids := state.ids.take.2 } with
      | .error _ _ => []
      | .ok templates _ => templates

namespace FileRule

variable {script : BodyScript} {kind : FileKind} {namespaceName : Option String} {state after : ParseState}

/-- A file fails with its head. -/
theorem sourceFile_of_head_error {error : SyntaxError} {stream : TokenStream}
    (ran : FileHead.rule state.tokens = .error error stream) :
    sourceFile script kind state = .error error { state with tokens := stream, ids := state.ids.take.2 } := by
  simp only [sourceFile, takeId, ofHeader, bind, EStateM.bind, ran]

/-- After the head and the templates a file must end. -/
theorem sourceFile_of_head_ok {head : FileHead} {stream : TokenStream} {values : List Template} {next : ParseState}
    (ranHead : FileHead.rule state.tokens = .ok head stream)
    (ranTemplates : templates script (head.namespaceDeclaration.map NamespaceDeclaration.name)
      { state with tokens := stream, ids := state.ids.take.2 } = .ok values next) :
    sourceFile script kind state =
      if next.tokens.hasTokens then
        .error (next.tokens.errorHere (afterTemplates head values).text) next
      else
        .ok ⟨state.ids.take.1, next.tokens.path, kind, head.delegatePackage, head.namespaceDeclaration, head.aliases,
          values⟩ next := by
  have here : (get : FileRule ParseState) next = .ok next next := rfl
  simp only [sourceFile, takeId, ofHeader, bind, EStateM.bind, ranHead, ranTemplates, here]
  cases next.tokens.hasTokens <;> rfl

/-- A template that stands there is read, whatever its body. -/
theorem template_eq_ok (begins : state.standsAtTemplate = true) :
    ∃ value next, template script namespaceName state = .ok value next := by
  unfold ParseState.standsAtTemplate TokenKind.isTemplate at begins
  split at begins
  · next kind here => exact ⟨_, _, by simp only [template, here]; rfl⟩
  · cases begins

/-- The templates of a file are read, whatever their bodies. -/
theorem templates_eq_ok (script : BodyScript) (namespaceName : Option String) (state : ParseState) :
    ∃ values next, templates script namespaceName state = .ok values next := by
  unfold templates
  fun_induction Rule.repeatWhile ParseState.size ParseState.standsAtTemplate (template script namespaceName) _ state
    with
  | case1 state begins error next ran =>
      rcases template_eq_ok begins with ⟨value, after, here⟩
      cases ran.symm.trans here
  | case2 state begins value next ran shorter error last failed inductionHypothesis =>
      rcases inductionHypothesis with ⟨values, after, succeeded⟩
      cases failed.symm.trans succeeded
  | case3 state begins value next ran shorter values last succeeded inductionHypothesis => exact ⟨_, _, rfl⟩
  | case4 state stops => exact ⟨_, _, rfl⟩

/-- After a head the templates are read, and so far the tokens are those of a form. -/
theorem exists_form_of_head {head : FileHead} {stream : TokenStream}
    (ran : FileHead.rule state.tokens = .ok head stream) :
    ∃ (form : FileForm) (values : List Template) (next : ParseState), head = form.head state.tokens.path ∧
      templates script (head.namespaceDeclaration.map NamespaceDeclaration.name)
        { state with tokens := stream, ids := state.ids.take.2 } = .ok values next ∧
      ParseState.Course script state form.tokens values next := by
  rcases FileHead.follows_rule.ok ran with
    ⟨_, headStage, passesHead, _, mayBegin, _, _, package, namespaceTag, aliases, rfl, isHead⟩
  rcases templates_eq_ok script (head.namespaceDeclaration.map NamespaceDeclaration.name)
    { state with tokens := stream, ids := state.ids.take.2 } with ⟨values, next, ranTemplates⟩
  rcases (follows_templates (List.mem_cons_of_mem _ mayBegin)).ok ranTemplates with
    ⟨_, _, passesTemplates, _, _, _, forms, rfl, rounds⟩
  obtain ⟨form, isForm⟩ : ∃ form : FileForm, form = ⟨package, namespaceTag, aliases, forms⟩ := ⟨_, rfl⟩
  have sameHead : head = form.head state.tokens.path := by rw [isHead, isForm]; rfl
  have passesForm : state.tokens.Passes form.headTokens stream := by rw [isForm]; exact passesHead
  -- The head passes no template, so the templates of the form are those that the rounds have read.
  have noTemplate : forall token, token ∈ form.headTokens -> token.kind.isTemplate = false := by
    rcases HeaderRule.StaysInHead.ok FileHead.staysInHead_rule ran with ⟨tokens, passes, noTemplate⟩
    rw [passesForm.unique passes]
    exact noTemplate
  have sameTemplates : templatesIn form.tokens = forms := by
    rw [FileForm.templatesIn_tokens noTemplate, isForm]
  have sameNamespace : head.namespaceDeclaration.map NamespaceDeclaration.name = namespaceIn form.tokens := by
    rw [sameHead, FileForm.namespaceName_head, FileForm.namespaceIn_tokens]
  refine ⟨form, values, next, sameHead, ranTemplates, .of_rounds stream ?_ ?_⟩
  · rw [FileForm.tokens_eq_headTokens_append, ← FileForm.templatesIn_tokens noTemplate, sameTemplates]
    exact passesForm.trans passesTemplates
  · rw [sameTemplates, ← sameNamespace, ← passesForm.path]
    exact rounds

/-- A file that is accepted is a form, and its tree is the tree of the form. -/
theorem course_of_ok {file : SourceFile} (ran : sourceFile script kind state = .ok file after) :
    ∃ form : FileForm, form.tokens = state.tokens.pending ∧
      file = form.tree kind state.tokens.path state.ids.next file.templates ∧
      file.templates = state.templatesRead script ∧
      ParseState.Course script state form.tokens (state.templatesRead script) after := by
  cases ranHead : FileHead.rule state.tokens with
  | error error stream =>
      rw [sourceFile_of_head_error ranHead] at ran
      cases ran
  | ok head stream =>
      rcases exists_form_of_head ranHead with ⟨form, values, next, sameHead, ranTemplates, course⟩
      rw [sourceFile_of_head_ok ranHead ranTemplates] at ran
      split at ran
      · cases ran
      · next ended =>
          cases ran
          have noMore := bne_eq_false_iff_eq.mp (Bool.eq_false_iff.mpr ended)
          have nothing := after.tokens.current_kind_eq_endOfFile_iff.mp noMore
          have read : state.templatesRead script = values := by
            simp only [ParseState.templatesRead, ranHead, ranTemplates]
          refine ⟨form, ?_, ?_, read.symm, read ▸ course⟩
          · rw [course.passes.pending, nothing, List.append_nil]
          · rw [sameHead, course.passes.path]
            rfl

/-- A file that is not accepted has been read up to its first misplaced token. -/
theorem course_of_error {error : SyntaxError} (ran : sourceFile script kind state = .error error after) :
    ∃ tokens, ParseState.Course script state tokens (state.templatesRead script) after ∧
      state.tokens.FirstMisplaced tokens after.tokens.current ∧
      error = ⟨misplacedFault tokens after.tokens.current,
        Location.ofSpan state.tokens.path after.tokens.current.span⟩ := by
  have course : ∃ tokens, ParseState.Course script state tokens (state.templatesRead script) after := by
    -- Either the head stops, and no template was read, or something follows the last template.
    cases ranHead : FileHead.rule state.tokens with
    | error error stream =>
        rw [sourceFile_of_head_error ranHead] at ran
        cases ran
        rcases HeaderRule.StaysInHead.error FileHead.staysInHead_rule ranHead with ⟨tokens, passes, noTemplate⟩
        refine ⟨tokens, .of_rounds stream passes ?_⟩
        rw [templatesIn_eq_nil noTemplate, ParseState.templatesRead, ranHead]
        exact .finished
    | ok head stream =>
        rcases exists_form_of_head ranHead with ⟨form, values, next, sameHead, ranTemplates, course⟩
        rw [sourceFile_of_head_ok ranHead ranTemplates] at ran
        split at ran
        · cases ran
          have read : state.templatesRead script = values := by
            simp only [ParseState.templatesRead, ranHead, ranTemplates]
          exact ⟨form.tokens, read ▸ course⟩
        · cases ran
  rcases course with ⟨tokens, course⟩
  rcases (follows_sourceFile kind).error ran with ⟨before, stage, passes, reached, notFinished, noStep, rfl⟩
  have sameTokens : before = tokens := passes.unique course.passes
  subst sameTokens
  refine ⟨before, course, ⟨TokenStream.exists_toList_eq passes, ?_, ?_⟩, ?_⟩
  · rw [Stage.viable_iff, reached]
    rfl
  · rw [Stage.viable_append_singleton_iff reached, noStep]
    exact Bool.false_ne_true
  · have expected : expectedAfter before = stage.expectation.text := by rw [expectedAfter, reached]
    rw [TokenStream.errorHere, TokenStream.locationOf, passes.path, misplacedFault, expected]

end FileRule

end TemplateFile
