import TemplateFile.Proofs.Parsing.Account

namespace TemplateFile

/-!
# Bodies have no say outside of their templates

Two parses of one file with different scripts are compared.  The scripts may
answer as they please: with failures, reports, or any number of nodes.  All the
same both parses hand out the same bodies, stop at the same token or not at
all, and give trees that differ in nothing but ids and the content of
templates.  Where the two scripts give the same answer to a body, what is
reported about its template and the content of its template are the same, and
the answers to the other bodies do not matter.

The two parses do share one way of counting, and a body that has more nodes
moves all later ids.  So a tree is compared without its ids, and this is the
only thing that a body can be said to do to another template.
-/

namespace Template

/-- The template without its id and its content. -/
def frame (template : Template) : Template := { template with id := 0, body := none }

end Template

namespace SourceFile

/-- The tree without its ids and without the content of its templates. -/
def frame (file : SourceFile) : SourceFile := { file with id := 0, templates := file.templates.map Template.frame }

end SourceFile

/-- The content of the templates of a tree, in order and without ids. -/
def ParseOutcome.contents (outcome : ParseOutcome) : Option (List (Option (Body Passage))) :=
  outcome.file.map fun file => file.templates.map fun template => template.body.map Body.passages

/-- Two scripts answer in the same way to the body that is handed out as a given
call, if there is one. -/
def BodyScript.AgreeAt (script other : BodyScript) (requests : List BodyRequest) (call : Nat) : Prop :=
  forall request, requests[call]? = some request -> script call request = other call request

/-- What is reported about each template of an extent. -/
def Session.bodyDiagnostics (session : Session) (script : BodyScript) (path : String) (before : List Token) :
    List (List Diagnostic) :=
  (answersIn script path before).map (AnsweredForm.diagnostics session.log.tips path (namespaceIn before))

/-- Two parses of a file differ only in what the scripts answer. -/
structure Session.Isolates (session : Session) (path : String) (before : List Token) (offender : Option Token)
    (script other : BodyScript) (one two : ParseOutcome) : Prop where
  requests : one.requests = two.requests
  frame : one.file.map SourceFile.frame = two.file.map SourceFile.frame
  diagnostics : one.diagnostics = (session.bodyDiagnostics script path before).flatten ++
    offender.toList.map (misplacedDiagnostic session.log.tips path before)
  otherDiagnostics : two.diagnostics = (session.bodyDiagnostics other path before).flatten ++
    offender.toList.map (misplacedDiagnostic session.log.tips path before)
  sameDiagnostics : forall call, script.AgreeAt other one.requests call ->
    (session.bodyDiagnostics script path before)[call]? = (session.bodyDiagnostics other path before)[call]?
  sameContents : forall call, script.AgreeAt other one.requests call ->
    (one.contents.bind fun contents => contents[call]?) = two.contents.bind fun contents => contents[call]?

namespace AnsweredForm

theorem map_form_answerAll (script : BodyScript) (path : String) (call : Nat) (forms : List TemplateForm) :
    (answerAll script path call forms).map AnsweredForm.form = forms := by
  induction forms generalizing call with
  | nil => rfl
  | cons form forms inductionHypothesis => rw [answerAll_cons, List.map_cons, inductionHypothesis]

/-- Up to their ids and contents the templates are what the forms declare. -/
theorem map_frame_templates (path : String) (namespaceName : Option String) (answers : List AnsweredForm)
    (ids : IdSupply) :
    (templates path namespaceName answers ids).1.map Template.frame =
      (answers.map AnsweredForm.form).map fun form => form.declared path namespaceName 0 := by
  induction answers generalizing ids with
  | nil => rfl
  | cons answered rest inductionHypothesis =>
      rw [templates_cons, List.map_cons, List.map_cons, List.map_cons, inductionHypothesis]
      rfl

end AnsweredForm

section

variable {session : Session} {script other : BodyScript} {kind : FileKind} {path source : String} {before : List Token}
  {offender : Option Token} {one two : ParseOutcome} {next otherNext : Session}

/-- The templates handed out as a given call have the same answer where the scripts agree. -/
theorem getElem?_answersIn_eq {call : Nat}
    (agree : script.AgreeAt other ((templatesIn before).map (TemplateForm.request path)) call) :
    (answersIn script path before)[call]? = (answersIn other path before)[call]? := by
  rw [answersIn, answersIn, AnsweredForm.getElem?_answerAll, AnsweredForm.getElem?_answerAll]
  cases here : (templatesIn before)[call]? with
  | none => rfl
  | some form =>
      have isRequest : ((templatesIn before).map (TemplateForm.request path))[call]? = some (form.request path) := by
        rw [List.getElem?_map, here]
        rfl
      rw [Option.map_some, Option.map_some, agree _ isRequest]

namespace Session.Course

theorem map_frame_templatesRead (course : session.Course script kind path source before offender one next) :
    ((ParseState.start session path source).templatesRead script).map Template.frame =
      (templatesIn before).map fun form => form.declared path (namespaceIn before) 0 := by
  rw [course.templatesRead_eq, templatesFrom, AnsweredForm.map_frame_templates, answersIn,
    AnsweredForm.map_form_answerAll]

/-- The frame of a tree does not depend on the script. -/
theorem map_frame_eq (course : session.Course script kind path source before offender one next)
    (otherCourse : session.Course other kind path source before offender two otherNext) :
    one.file.map SourceFile.frame = two.file.map SourceFile.frame := by
  rcases course.exists_trees otherCourse with ⟨noTree, noOtherTree⟩ | ⟨form, tree, otherTree⟩
  · rw [noTree, noOtherTree]
  · have templates := course.map_frame_templatesRead.trans otherCourse.map_frame_templatesRead.symm
    rw [course.templatesRead_eq, otherCourse.templatesRead_eq] at templates
    rw [tree, otherTree]
    simp only [Option.map_some, SourceFile.frame, FileForm.tree, templates]

/-- The contents are what the answers give. -/
theorem contents_eq (course : session.Course script kind path source before offender one next) :
    one.contents = if offender.isSome then none else
      some ((answersIn script path before).map fun answered => answered.answer.outcome.toOption) := by
  cases offender with
  | some token =>
      rw [ParseOutcome.contents, course.noTree rfl]
      rfl
  | none =>
      rcases course.tree rfl with ⟨form, _, tree⟩
      rw [ParseOutcome.contents, tree]
      exact congrArg some course.map_passages_templatesRead

theorem isolates (course : session.Course script kind path source before offender one next)
    (otherCourse : session.Course other kind path source before offender two otherNext) :
    session.Isolates path before offender script other one two where
  requests := course.requests.trans otherCourse.requests.symm
  frame := course.map_frame_eq otherCourse
  diagnostics := by rw [course.diagnostics, bodyDiagnostics, List.flatMap_def]
  otherDiagnostics := by rw [otherCourse.diagnostics, bodyDiagnostics, List.flatMap_def]
  sameDiagnostics := fun call agree => by
    rw [course.requests] at agree
    rw [bodyDiagnostics, bodyDiagnostics, List.getElem?_map, List.getElem?_map, getElem?_answersIn_eq agree]
  sameContents := fun call agree => by
    rw [course.requests] at agree
    rw [course.contents_eq, otherCourse.contents_eq]
    cases offender with
    | some token => rfl
    | none =>
        simp only [Option.isSome_none, Bool.false_eq_true, if_false, Option.bind_some, List.getElem?_map,
          getElem?_answersIn_eq agree]

end Session.Course

end

/-- Whatever two scripts answer, the parses differ in their answers only. -/
theorem Session.parseFile_isolates (session : Session) (kind : FileKind) (path source : String)
    (script other : BodyScript) :
    ∃ before offender, (TokenStream.ofSource path source).Extent before offender ∧
      session.Isolates path before offender script other (session.parseFile script kind path source).1
        (session.parseFile other kind path source).1 := by
  rcases session.exists_courses session script other kind path source with
    ⟨before, offender, extent, course, otherCourse⟩
  exact ⟨before, offender, extent, course.isolates otherCourse⟩

end TemplateFile
