import TemplateFile.Proofs.Grammar.Reading

namespace TemplateFile

/-!
# Templates one after the other

Reading a template hands out its body and lets the log grow by the answer.
`TemplateForm.Round` says what one template does to the state of reading a
file; the rule for the templates of a file is made of such rounds and nothing
else, and what all of them do follows by induction on the rounds.
-/

/-- One template has been read, with its body. -/
structure TemplateForm.Round (script : BodyScript) (path : String) (namespaceName : Option String) (state : ParseState)
    (form : TemplateForm) (template : Template) (next : ParseState) : Prop where
  samePath : state.tokens.path = path
  token : form.whole.token = state.tokens.current
  ran : state.readTemplate script namespaceName form.kind = (template, next)

namespace TemplateForm.Round

variable {script : BodyScript} {path : String} {namespaceName : Option String} {state next : ParseState}
  {form : TemplateForm} {template : Template}

theorem request_eq (round : form.Round script path namespaceName state template next) :
    form.request path = state.requestHere := by
  rw [request, ParseState.requestHere, round.token, round.samePath]

theorem declares (round : form.Round script path namespaceName state template next) :
    form.Declares script path namespaceName template := by
  have isRequest := round.request_eq
  have ran := round.ran
  unfold ParseState.readTemplate at ran
  cases ran
  refine ⟨rfl, ?_, ?_, ?_, rfl, state.requests.length, state.ids.take.2, ?_⟩
  · rw [round.token]
    rfl
  · rw [round.token]
    rfl
  · rw [round.token, ← round.samePath]
    rfl
  · rw [isRequest]
    rfl

/-- A template hands out its body. -/
theorem requests_eq (round : form.Round script path namespaceName state template next) :
    next.requests = state.requests ++ [form.request path] := by
  rw [round.request_eq, ← congrArg (fun result => result.2.requests) round.ran]
  rfl

/-- The log grows by what the body parser reports, and by its failure. -/
theorem log_eq (round : form.Round script path namespaceName state template next) :
    next.log = state.log.addAll (ParseState.reportsOf (form.request path)
      (state.declaredHere form.kind namespaceName) (script state.requests.length (form.request path))) := by
  rw [round.request_eq, ← congrArg (fun result => result.2.log) round.ran]
  rfl

end TemplateForm.Round

/-! ## All templates of a file -/

namespace Rounds

variable {script : BodyScript} {path : String} {namespaceName : Option String} {state last : ParseState}
  {forms : List TemplateForm} {templates : List Template}

/-- The bodies are handed out in the order of the templates. -/
theorem requests_eq
    (rounds : Rounds (TemplateForm.Round script path namespaceName) state forms templates last) :
    last.requests = state.requests ++ forms.map (TemplateForm.request path) := by
  induction rounds with
  | finished => rw [List.map_nil, List.append_nil]
  | again first others inductionHypothesis =>
      rw [inductionHypothesis, first.requests_eq, List.append_assoc, List.map_cons, List.singleton_append]

/-- If nothing is reported about any body, the log stays as it was. -/
theorem log_eq
    (rounds : Rounds (TemplateForm.Round script path namespaceName) state forms templates last)
    (quiet : forall call request template, ParseState.reportsOf request template (script call request) = []) :
    last.log = state.log := by
  induction rounds with
  | finished => rfl
  | again first others inductionHypothesis =>
      rw [inductionHypothesis, first.log_eq, quiet]
      rfl

end Rounds

namespace FileRule

variable {script : BodyScript} {namespaceName : Option String} {stage : Stage} {state : ParseState}

theorem follows_template (begins : state.standsAtTemplate = true) (mayBegin : stage ∈ Stage.beforeTemplate) :
    Follows ParseState.tokens stage (template script namespaceName) state fun value next tokens last =>
      last = .templates ∧ ∃ form : TemplateForm, tokens = form.tokens ∧
        form.Round script state.tokens.path namespaceName state value next := by
  have isTemplate : ∃ kind, state.tokens.current.kind = .template kind := by
    unfold ParseState.standsAtTemplate TokenKind.isTemplate at begins
    split at begins
    · next kind here => exact ⟨kind, here⟩
    · cases begins
  rcases isTemplate with ⟨kind, here⟩
  have leads : stage.step (.template kind) = some .templates := by
    revert stage
    cases kind <;> decide
  have ran : template script namespaceName state =
      .ok (state.readTemplate script namespaceName kind).1 (state.readTemplate script namespaceName kind).2 := by
    simp only [template, here]
  have passes := TokenStream.passes_advance (here ▸ TokenKind.noConfusion : state.tokens.current.kind ≠ .endOfFile)
  have reached : stage.run (kindsOf [state.tokens.current]) = some .templates := by
    rw [kindsOf, List.map_singleton, Stage.run_cons, here, leads]
    rfl
  exact follows_of_ok ran passes reached ⟨rfl, ⟨kind, state.tokens.current, here⟩, rfl, rfl, rfl, rfl⟩

/-- The templates that follow each other, from any stage at which one may begin. -/
theorem follows_templates (mayBegin : stage ∈ Stage.beforeTemplate) :
    Follows ParseState.tokens stage (templates script namespaceName) state fun values next tokens last =>
      next.standsAtTemplate = false ∧ last = (if values = [] then stage else .templates) ∧
        ∃ forms : List TemplateForm, tokens = forms.flatMap TemplateForm.tokens ∧
          Rounds (TemplateForm.Round script state.tokens.path namespaceName) state forms values next := by
  apply follows_repeatWhile (by decide) _ mayBegin rfl
  intro stage state mayBegin begins samePath
  rw [← samePath]
  exact follows_template begins mayBegin

end FileRule

end TemplateFile
