import TemplateFile.Proofs.Parsing.Calls
import TemplateFile.Proofs.Parsing.Outcome
import TemplateFile.Proofs.Tree.RawText

namespace TemplateFile

/-!
# A parse does not look back

Two things go from one parse to the next: the supply of ids and the log.  What
a parse comes to depends on neither.  In a session with a history it is the
same as in one that begins with it, but for two things: all ids are later by
the one that the session gives next, and what is reported comes after what the
log holds already.

So whether a file fails is a matter of the file and of the answers to its
bodies, whatever has been done with the session before.
-/

namespace Template

/-- The template with all its ids changed. -/
def mapIds (change : Nat -> Nat) (template : Template) : Template :=
  { template with id := change template.id, body := template.body.map (Body.mapIds change) }

end Template

namespace SourceFile

/-- The tree with all its ids changed. -/
def mapIds (change : Nat -> Nat) (file : SourceFile) : SourceFile :=
  { file with id := change file.id, templates := file.templates.map (Template.mapIds change) }

end SourceFile

namespace ParseOutcome

/-- The outcome with all ids of its tree changed. -/
def mapIds (change : Nat -> Nat) (outcome : ParseOutcome) : ParseOutcome :=
  { outcome with file := outcome.file.map (SourceFile.mapIds change) }

end ParseOutcome

namespace Session

/-- A session with the same kind of log, in which nothing has happened yet. -/
def renewed (session : Session) : Session := ⟨IdSupply.empty, Log.empty session.log.tips⟩

/-- What becomes of a session when the same happens in it as in a renewed one. -/
def continuedBy (session later : Session) : Session :=
  ⟨⟨session.ids.next + later.ids.next⟩, { session.log with entries := session.log.entries ++ later.log.entries }⟩

/-- Whether the file of a reply has failed, if it is the reply to a parse. -/
def Reply.failed? : Reply -> Option Bool
  | .parsed outcome => some outcome.failed
  | .id _ => none
  | .done => none

end Session

namespace AnsweredForm

variable {path : String} {namespaceName : Option String}

/-- From a later supply a template gets later ids. -/
theorem template_add (amount : Nat) (answered : AnsweredForm) (ids : IdSupply) :
    answered.template path namespaceName ⟨amount + ids.next⟩ =
      ((answered.template path namespaceName ids).1.mapIds (amount + ·),
        ⟨amount + (answered.template path namespaceName ids).2.next⟩) := by
  unfold template ParseState.nodesOf
  cases answered.answer.outcome with
  | error failure => rfl
  | ok body =>
      exact congrArg (fun numbered : Body RawText × IdSupply =>
        ({ answered.form.declared path namespaceName (amount + ids.next) with body := some numbered.1 }, numbered.2))
        (Body.number_add amount body ids.take.2)

theorem templates_add (amount : Nat) (answers : List AnsweredForm) (ids : IdSupply) :
    templates path namespaceName answers ⟨amount + ids.next⟩ =
      ((templates path namespaceName answers ids).1.map (Template.mapIds (amount + ·)),
        ⟨amount + (templates path namespaceName answers ids).2.next⟩) := by
  induction answers generalizing ids with
  | nil => rfl
  | cons answered rest inductionHypothesis =>
      rw [templates_cons, templates_cons, template_add, inductionHypothesis, List.map_cons]

end AnsweredForm

section

variable {session other next otherNext : Session} {script : BodyScript} {kind : FileKind} {path source : String}
  {before : List Token} {offender : Option Token} {outcome one two : ParseOutcome}

/-- The trees of templates move with the ids of a session. -/
theorem templatesFrom_renewed (session : Session) (script : BodyScript) (path : String) (before : List Token) :
    templatesFrom session.ids script path before =
      ((templatesFrom session.renewed.ids script path before).1.map (Template.mapIds (session.ids.next + ·)),
        ⟨session.ids.next + (templatesFrom session.renewed.ids script path before).2.next⟩) :=
  AnsweredForm.templates_add session.ids.next (answersIn script path before) session.renewed.ids.take.2

namespace Session.Course

section

variable {fresh : ParseOutcome} {freshNext : Session}

theorem diagnostics_renewed (course : session.Course script kind path source before offender outcome next)
    (freshCourse : session.renewed.Course script kind path source before offender fresh freshNext) :
    outcome.diagnostics = fresh.diagnostics :=
  course.diagnostics.trans freshCourse.diagnostics.symm

theorem file_renewed (course : session.Course script kind path source before offender outcome next)
    (freshCourse : session.renewed.Course script kind path source before offender fresh freshNext) :
    outcome.file = fresh.file.map (SourceFile.mapIds (session.ids.next + ·)) := by
  rcases course.exists_trees freshCourse with ⟨noTree, noFreshTree⟩ | ⟨form, tree, freshTree⟩
  · rw [noTree, noFreshTree, Option.map_none]
  · rw [tree, freshTree, templatesFrom_renewed]
    rfl

theorem outcome_renewed (course : session.Course script kind path source before offender outcome next)
    (freshCourse : session.renewed.Course script kind path source before offender fresh freshNext) :
    outcome = fresh.mapIds (session.ids.next + ·) := by
  have diagnostics := course.diagnostics_renewed freshCourse
  have failed : outcome.failed = fresh.failed := by rw [course.failed, freshCourse.failed, diagnostics]
  have requests : outcome.requests = fresh.requests := course.requests.trans freshCourse.requests.symm
  calc outcome = ⟨outcome.file, outcome.failed, outcome.diagnostics, outcome.requests⟩ := rfl
    _ = fresh.mapIds (session.ids.next + ·) := by
      rw [course.file_renewed freshCourse, failed, diagnostics, requests, ParseOutcome.mapIds]

theorem next_renewed (course : session.Course script kind path source before offender outcome next)
    (freshCourse : session.renewed.Course script kind path source before offender fresh freshNext) :
    next = session.continuedBy freshNext := by
  have diagnostics := course.diagnostics_renewed freshCourse
  have ids : next.ids = ⟨session.ids.next + freshNext.ids.next⟩ := by
    rw [course.next_ids_eq, freshCourse.next_ids_eq, templatesFrom_renewed]
  calc next = ⟨next.ids, next.log⟩ := rfl
    _ = session.continuedBy freshNext := by
      rw [ids, course.log, continuedBy, freshCourse.log, diagnostics]
      rfl

end

/-- What is reported is the same in every session, but for the tips. -/
theorem map_withoutTip_diagnostics (course : session.Course script kind path source before offender outcome next) :
    outcome.diagnostics.map Diagnostic.withoutTip =
      (answersIn script path before).flatMap (AnsweredForm.diagnostics .discard path (namespaceIn before)) ++
        offender.toList.map (misplacedDiagnostic .discard path before) := by
  rw [course.diagnostics, List.map_append, List.map_flatMap, List.map_map]
  simp only [AnsweredForm.map_withoutTip_diagnostics]
  rfl

/-- Whether a file fails is the same in every session. -/
theorem failed_eq (course : session.Course script kind path source before offender one next)
    (otherCourse : other.Course script kind path source before offender two otherNext) : one.failed = two.failed := by
  -- The two logs may differ in what they do with tips, so diagnostics are compared without them.
  have same := course.map_withoutTip_diagnostics.trans otherCourse.map_withoutTip_diagnostics.symm
  rw [course.failed, otherCourse.failed, ← List.isEmpty_map, same, List.isEmpty_map]

end Session.Course

end

namespace Session

/-- What a call says about failure is the same in every session. -/
theorem failed?_perform (session other : Session) (call : Call) :
    (session.perform call).1.failed? = (other.perform call).1.failed? := by
  cases call with
  | takeId => rfl
  | reportTo log => rfl
  | parse script kind path source =>
      rcases session.exists_courses other script script kind path source with
        ⟨before, offender, _, course, otherCourse⟩
      exact congrArg some (course.failed_eq otherCourse)

theorem map_failed?_performAll (session : Session) (calls : List Call) :
    (session.performAll calls).1.map Reply.failed? = calls.map fun call => (start.perform call).1.failed? := by
  induction calls generalizing session with
  | nil => rfl
  | cons call calls inductionHypothesis =>
      rw [performAll, List.map_cons, List.map_cons, inductionHypothesis, session.failed?_perform start]

/-- A parse comes to the same as in a renewed session, and then the session
goes on from where it was.  Whatever calls share a session, the same files fail
as if each of them were the first. -/
theorem parseFile_forgets (session : Session) :
    (forall script kind path source, session.parseFile script kind path source =
      ((session.renewed.parseFile script kind path source).1.mapIds (session.ids.next + ·),
        session.continuedBy (session.renewed.parseFile script kind path source).2)) ∧
      forall calls, (session.performAll calls).1.map Reply.failed? =
        calls.map fun call => (start.perform call).1.failed? := by
  refine ⟨?_, session.map_failed?_performAll⟩
  intro script kind path source
  rcases session.exists_courses session.renewed script script kind path source with
    ⟨before, offender, _, course, renewedCourse⟩
  exact Prod.ext (course.outcome_renewed renewedCourse) (course.next_renewed renewedCourse)

end Session

end TemplateFile
