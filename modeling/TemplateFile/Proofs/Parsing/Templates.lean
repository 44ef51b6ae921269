import TemplateFile.Proofs.Diagnostic.Log
import TemplateFile.Proofs.Grammar.Templates

namespace TemplateFile

/-!
# What becomes of the templates of a file

The templates of a file are read one after the other, and all that is read of
them follows from the templates and from the answers to their bodies: what the
log grows by, and, once it is known which id is given next, the trees of the
templates with all their ids.  An answered form is a template together with its
answer.  The functions below say what a list of them comes to, and the rounds
that a rule goes through come to nothing else.
-/

namespace TemplateForm

/-- The name that messages show. -/
def displayName (namespaceName : Option String) (form : TemplateForm) : String :=
  Template.qualifiedName form.kind namespaceName
    (Template.nameIn (String.ofList (TemplateText.commandText form.kind form.whole.token.value.toList)))

/-- The template that a form declares, with an id and no body yet. -/
def declared (path : String) (namespaceName : Option String) (form : TemplateForm) (id : Nat) : Template :=
  Template.declare id form.kind (String.ofList (TemplateText.commandText form.kind form.whole.token.value.toList))
    form.whole.token.doc (Location.ofSpan path form.whole.token.span) namespaceName

/-- The diagnostic about a template whose body failed. -/
def failureDiagnostic (path : String) (namespaceName : Option String) (form : TemplateForm)
    (failure : BodyFailure) : Diagnostic where
  name := "TemplateBodyFailure"
  message := "In file " ++ path ++ ", template " ++ form.displayName namespaceName ++ ": " ++
    TemplateText.shiftLineNumber failure.message form.whole.token.span.first.line
  tip := none
  location := Location.ofSpan path form.whole.token.span

/-- The report about a failed body becomes this diagnostic, whether tips are kept or not. -/
theorem toDiagnostic_failureReport (tips : TipPolicy) (path : String) (namespaceName : Option String)
    (form : TemplateForm) (id : Nat) (failure : BodyFailure) :
    (ParseState.failureReport (form.request path) (form.declared path namespaceName id) failure).toDiagnostic tips =
      form.failureDiagnostic path namespaceName failure := by
  have message := MessageFormat.fill_templateBodyFailure path (form.displayName namespaceName)
    (TemplateText.shiftLineNumber failure.message form.whole.token.span.first.line)
  unfold failureDiagnostic
  rw [← message]
  cases tips
  all_goals rfl

end TemplateForm

/-- A template and the answer to its body. -/
structure AnsweredForm where
  form : TemplateForm
  answer : BodyAnswer

namespace AnsweredForm

/-- Templates with the answers of a script, of which the first is the answer to
a given call. -/
def answerAll (script : BodyScript) (path : String) (call : Nat) (forms : List TemplateForm) : List AnsweredForm :=
  (forms.zipIdx call).map fun (form, call) => ⟨form, script call (form.request path)⟩

/-- Everything that is reported about a template: what its body parser says
itself, and that the body failed, if it did. -/
def diagnostics (tips : TipPolicy) (path : String) (namespaceName : Option String) (answered : AnsweredForm) :
    List Diagnostic :=
  answered.answer.reports.map (fun report => report.toDiagnostic tips) ++
    match answered.answer.outcome with
    | .ok _ => []
    | .error failure => [answered.form.failureDiagnostic path namespaceName failure]

/-- The template with its body, numbered from a supply. -/
def template (path : String) (namespaceName : Option String) (answered : AnsweredForm) (ids : IdSupply) :
    Template × IdSupply :=
  let (id, ids) := ids.take
  let (body, ids) := ParseState.nodesOf answered.answer ids
  ({ answered.form.declared path namespaceName id with body := body }, ids)

/-- The templates with their bodies, numbered from a supply. -/
def templates (path : String) (namespaceName : Option String) :
    List AnsweredForm -> IdSupply -> List Template × IdSupply
  | [], ids => ([], ids)
  | answered :: rest, ids =>
      let (template, ids) := answered.template path namespaceName ids
      let (templates, ids) := templates path namespaceName rest ids
      (template :: templates, ids)

variable {script : BodyScript} {path : String} {namespaceName : Option String}

theorem answerAll_nil (call : Nat) : answerAll script path call [] = [] := rfl

theorem answerAll_cons (call : Nat) (form : TemplateForm) (forms : List TemplateForm) :
    answerAll script path call (form :: forms) =
      ⟨form, script call (form.request path)⟩ :: answerAll script path (call + 1) forms := rfl

theorem getElem?_answerAll (forms : List TemplateForm) (index : Nat) :
    (answerAll script path 0 forms)[index]? =
      forms[index]?.map fun form => ⟨form, script index (form.request path)⟩ := by
  rw [answerAll, List.getElem?_map, List.getElem?_zipIdx, Option.map_map, Nat.zero_add]
  rfl

theorem templates_cons (answered : AnsweredForm) (rest : List AnsweredForm) (ids : IdSupply) :
    templates path namespaceName (answered :: rest) ids =
      ((answered.template path namespaceName ids).1 ::
        (templates path namespaceName rest (answered.template path namespaceName ids).2).1,
       (templates path namespaceName rest (answered.template path namespaceName ids).2).2) := rfl

/-- What is reported about a template depends on the template and its answer only. -/
theorem map_reportsOf (tips : TipPolicy) (answered : AnsweredForm) (id : Nat) :
    (ParseState.reportsOf (answered.form.request path) (answered.form.declared path namespaceName id)
      answered.answer).map (fun report => report.toDiagnostic tips) =
      answered.diagnostics tips path namespaceName := by
  unfold ParseState.reportsOf diagnostics
  rw [List.map_append]
  congr 1
  cases answered.answer.outcome with
  | ok body => rfl
  | error failure => rw [List.map_singleton, TemplateForm.toDiagnostic_failureReport]

/-- But for the tips, the same is reported to every log. -/
theorem map_withoutTip_diagnostics (tips : TipPolicy) (answered : AnsweredForm) :
    (answered.diagnostics tips path namespaceName).map Diagnostic.withoutTip =
      answered.diagnostics .discard path namespaceName := by
  unfold diagnostics
  rw [List.map_append, List.map_map]
  congr 1
  cases answered.answer.outcome with
  | ok body => rfl
  | error failure => rfl

end AnsweredForm

namespace TemplateForm.Round

variable {script : BodyScript} {path : String} {namespaceName : Option String} {state next : ParseState}
  {form : TemplateForm} {template : Template}

theorem declaredHere_eq (round : form.Round script path namespaceName state template next) :
    state.declaredHere form.kind namespaceName = form.declared path namespaceName state.ids.next := by
  rw [ParseState.declaredHere, TemplateForm.declared, round.token, TokenStream.locationOf, round.samePath]
  rfl

theorem template_eq (round : form.Round script path namespaceName state template next) :
    AnsweredForm.template path namespaceName ⟨form, script state.requests.length (form.request path)⟩ state.ids =
      (template, next.ids) := by
  have result : (state.readTemplate script namespaceName form.kind).1 = template ∧
      (state.readTemplate script namespaceName form.kind).2.ids = next.ids := by
    rw [round.ran]
    exact ⟨rfl, rfl⟩
  rw [← result.1, ← result.2, AnsweredForm.template, round.request_eq]
  unfold ParseState.readTemplate
  rw [round.declaredHere_eq]
  rfl

end TemplateForm.Round

namespace Rounds

variable {script : BodyScript} {path : String} {namespaceName : Option String} {state last : ParseState}
  {forms : List TemplateForm} {templates : List Template}

/-- The log grows by what is reported about the templates, in their order. -/
theorem log_eq_append
    (rounds : Rounds (TemplateForm.Round script path namespaceName) state forms templates last) :
    last.log = ⟨state.log.tips, state.log.entries ++
      (AnsweredForm.answerAll script path state.requests.length forms).flatMap
        (AnsweredForm.diagnostics state.log.tips path namespaceName)⟩ := by
  induction rounds with
  | finished => rw [AnsweredForm.answerAll_nil, List.flatMap_nil, List.append_nil]
  | again first others inductionHypothesis =>
      rw [inductionHypothesis, first.log_eq, first.declaredHere_eq, Log.addAll_eq, first.requests_eq,
        AnsweredForm.answerAll_cons, List.flatMap_cons, ← AnsweredForm.map_reportsOf, List.append_assoc,
        List.length_append, List.length_singleton]

/-- The templates and their ids follow from the forms and the answers. -/
theorem templates_eq
    (rounds : Rounds (TemplateForm.Round script path namespaceName) state forms templates last) :
    AnsweredForm.templates path namespaceName (AnsweredForm.answerAll script path state.requests.length forms)
      state.ids = (templates, last.ids) := by
  induction rounds with
  | finished => rfl
  | again first others inductionHypothesis =>
      rw [AnsweredForm.answerAll_cons, AnsweredForm.templates_cons, first.template_eq]
      rw [first.requests_eq, List.length_append, List.length_singleton] at inductionHypothesis
      rw [inductionHypothesis]

end Rounds

end TemplateFile
