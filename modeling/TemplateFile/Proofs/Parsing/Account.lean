import TemplateFile.Proofs.Parsing.Outcome
import TemplateFile.Proofs.Tree.RawText

namespace TemplateFile

/-!
# The account that a parse gives

Three things can add to the log during a parse: the body parsers, the bodies
that fail, and the grammar.  What they add is kept in the order in which it
happens, template by template, and the grammar comes last.  A grammatical error
takes away the tree but nothing that was said before it, and a failed body
takes away the content of its template and nothing else.
-/

namespace AnsweredForm

/-- The content of a template is what its answer gives, if it gives one. -/
theorem map_passages_template (path : String) (namespaceName : Option String) (answered : AnsweredForm)
    (ids : IdSupply) :
    (answered.template path namespaceName ids).1.body.map Body.passages = answered.answer.outcome.toOption := by
  unfold template ParseState.nodesOf
  cases answered.answer.outcome with
  | error failure => rfl
  | ok body => exact congrArg some (Body.passages_number body ids.take.2)

theorem map_passages_templates (path : String) (namespaceName : Option String) (answers : List AnsweredForm)
    (ids : IdSupply) :
    ((templates path namespaceName answers ids).1.map fun template => template.body.map Body.passages) =
      answers.map fun answered => answered.answer.outcome.toOption := by
  induction answers generalizing ids with
  | nil => rfl
  | cons answered rest inductionHypothesis =>
      rw [templates_cons, List.map_cons, List.map_cons, inductionHypothesis, map_passages_template]

end AnsweredForm

/-- What a parse tells of a file with a given extent.  Every template of the
extent hands out its body once and in its turn.  Reported is what the answers
say, each followed by the failure of the body if it failed, and at last the
misplaced token, if there is one; it is also the only reason for a tree to be
missing.  A parse has failed if anything was reported, and then it has no
result.  In the tree, a template has a body if it was answered with one, and
then this is its body. -/
structure Session.Account (session : Session) (script : BodyScript) (path : String) (before : List Token)
    (offender : Option Token) (outcome : ParseOutcome) (next : Session) : Prop where
  requests : outcome.requests = (templatesIn before).map (TemplateForm.request path)
  diagnostics : outcome.diagnostics =
    (answersIn script path before).flatMap (AnsweredForm.diagnostics session.log.tips path (namespaceIn before)) ++
      offender.toList.map (misplacedDiagnostic session.log.tips path before)
  appended : next.log = { session.log with entries := session.log.entries ++ outcome.diagnostics }
  noTree_iff : outcome.file = none ↔ offender.isSome
  failed_iff : outcome.failed = true ↔ outcome.diagnostics ≠ []
  noResult : outcome.failed = true -> outcome.result = none
  result : outcome.failed = false -> ∃ file, outcome.file = some file ∧ outcome.result = some file
  bodies : forall file, outcome.file = some file ->
    (file.templates.map fun template => template.body.map Body.passages) =
      (answersIn script path before).map fun answered => answered.answer.outcome.toOption

namespace Session.Course

variable {session next : Session} {script : BodyScript} {kind : FileKind} {path source : String} {before : List Token}
  {offender : Option Token} {outcome : ParseOutcome}

theorem noTree_iff (course : session.Course script kind path source before offender outcome next) :
    outcome.file = none ↔ offender.isSome := by
  constructor
  · intro absent
    cases offender with
    | some token => rfl
    | none =>
        rcases course.tree rfl with ⟨form, _, tree⟩
        cases absent.symm.trans tree
  · exact course.noTree

theorem failed_iff (course : session.Course script kind path source before offender outcome next) :
    outcome.failed = true ↔ outcome.diagnostics ≠ [] := by
  rw [course.failed, Bool.not_eq_true', List.isEmpty_eq_false_iff]

/-- The templates that are read have the contents that the answers give. -/
theorem map_passages_templatesRead (course : session.Course script kind path source before offender outcome next) :
    (((ParseState.start session path source).templatesRead script).map fun template =>
      template.body.map Body.passages) =
        (answersIn script path before).map fun answered => answered.answer.outcome.toOption := by
  rw [course.templatesRead_eq]
  exact AnsweredForm.map_passages_templates path (namespaceIn before) _ _

/-- A parse that reports nothing has a tree. -/
theorem offender_eq_none (course : session.Course script kind path source before offender outcome next)
    (passed : outcome.failed = false) : offender = none := by
  cases offender with
  | none => rfl
  | some token =>
      have reported : outcome.diagnostics ≠ [] := by
        rw [course.diagnostics]
        exact List.append_ne_nil_of_right_ne_nil _ (List.cons_ne_nil _ _)
      rw [course.failed_iff.mpr reported] at passed
      cases passed

theorem account (course : session.Course script kind path source before offender outcome next) :
    session.Account script path before offender outcome next where
  requests := course.requests
  diagnostics := course.diagnostics
  appended := course.log
  noTree_iff := course.noTree_iff
  failed_iff := course.failed_iff
  noResult := fun failed => by rw [ParseOutcome.result, if_pos failed]
  result := fun passed => by
    rcases course.tree (course.offender_eq_none passed) with ⟨form, _, tree⟩
    refine ⟨_, tree, ?_⟩
    rw [ParseOutcome.result, passed, if_neg Bool.false_ne_true, tree]
  bodies := fun file isTree => by
    cases offender with
    | some token => cases isTree.symm.trans (course.noTree rfl)
    | none =>
        rcases course.tree rfl with ⟨form, _, tree⟩
        cases isTree.symm.trans tree
        exact course.map_passages_templatesRead

end Session.Course

end TemplateFile
