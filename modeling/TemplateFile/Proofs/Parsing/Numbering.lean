import TemplateFile.Proofs.Parsing.Calls
import TemplateFile.Proofs.Parsing.Outcome
import TemplateFile.Proofs.Tree.RawText

namespace TemplateFile

/-!
# Ids are given once and in order

A parse takes an id for its file, and then for each template an id for the
template and one for each node of its body.  So the ids of a tree are
consecutive numbers, in the order in which the tree is read.  A parse without a
tree has taken ids in the same way, for the templates that it had read, and
they are lost: no later call gets them again.

Whatever calls share a session, the ids that it gives are consecutive from
the first to the last, and so none is given twice.
-/

namespace IdSupply

/-- The ids that a supply gives until it has become a later one. -/
def upTo (ids later : IdSupply) : List Nat := List.range' ids.next (later.next - ids.next)

theorem upTo_append {ids middle later : IdSupply} (first : ids.next ≤ middle.next) (second : middle.next ≤ later.next) :
    ids.upTo middle ++ middle.upTo later = ids.upTo later := by
  have start : middle.next = ids.next + (middle.next - ids.next) := by omega
  have total : (middle.next - ids.next) + (later.next - middle.next) = later.next - ids.next := by omega
  unfold upTo
  rw [← total, ← List.range'_append_1, ← start]

/-- The first id that a supply gives is the one that it holds. -/
theorem take_upTo {ids later : IdSupply} (taken : ids.next < later.next) :
    ids.take.1 :: ids.take.2.upTo later = ids.upTo later := by
  have count : later.next - ids.next = (later.next - (ids.next + 1)) + 1 := by omega
  unfold upTo
  rw [count, List.range'_succ]
  rfl

theorem upTo_self (ids : IdSupply) : ids.upTo ids = [] := by
  rw [upTo, Nat.sub_self]
  rfl

theorem pairwise_upTo (ids later : IdSupply) : (ids.upTo later).Pairwise (· < ·) := List.pairwise_lt_range'

end IdSupply

namespace Template

/-- The ids of a template: its own, and those of its nodes. -/
def ids (template : Template) : List Nat :=
  template.id :: match template.body with
    | some body => body.nodes.map RawText.id
    | none => []

end Template

namespace SourceFile

/-- The ids of a file: its own, and those of its templates. -/
def ids (file : SourceFile) : List Nat := file.id :: file.templates.flatMap Template.ids

end SourceFile

/-- The passages that an answer makes nodes of. -/
def BodyAnswer.passages (answer : BodyAnswer) : List Passage :=
  match answer.outcome with
  | .ok body => body.nodes
  | .error _ => []

/-- The passages that a script makes nodes of, for bodies of which the first is
handed out as a given call. -/
def BodyScript.passagesFor (script : BodyScript) (call : Nat) (requests : List BodyRequest) : List Passage :=
  (requests.zipIdx call).flatMap fun (request, call) => (script call request).passages

namespace AnsweredForm

variable {script : BodyScript} {path : String} {namespaceName : Option String}

theorem next_template (answered : AnsweredForm) (ids : IdSupply) :
    (answered.template path namespaceName ids).2.next = ids.next + (1 + answered.answer.passages.length) := by
  unfold template ParseState.nodesOf BodyAnswer.passages
  cases answered.answer.outcome with
  | error failure => rfl
  | ok body =>
      rw [← Nat.add_assoc]
      exact Body.next_number body ids.take.2

/-- A template gives its own id first, and then those of its nodes. -/
theorem ids_template (answered : AnsweredForm) (ids : IdSupply) :
    (answered.template path namespaceName ids).1.ids = ids.upTo (answered.template path namespaceName ids).2 := by
  rw [IdSupply.upTo, next_template, Nat.add_sub_cancel_left]
  unfold template ParseState.nodesOf BodyAnswer.passages
  cases answered.answer.outcome with
  | error failure => rfl
  | ok body =>
      rw [Nat.add_comm, List.range'_succ]
      exact congrArg (fun others => ids.next :: others) (Body.map_id_number body ids.take.2)

theorem next_templates (answers : List AnsweredForm) (ids : IdSupply) :
    (templates path namespaceName answers ids).2.next =
      ids.next + answers.length + (answers.flatMap fun answered => answered.answer.passages).length := by
  induction answers generalizing ids with
  | nil => rfl
  | cons answered rest inductionHypothesis =>
      rw [templates_cons, inductionHypothesis, next_template, List.length_cons, List.flatMap_cons, List.length_append]
      omega

/-- Templates that are read one after the other give one stretch of ids. -/
theorem ids_templates (answers : List AnsweredForm) (ids : IdSupply) :
    (templates path namespaceName answers ids).1.flatMap Template.ids =
      ids.upTo (templates path namespaceName answers ids).2 := by
  induction answers generalizing ids with
  | nil => exact (IdSupply.upTo_self ids).symm
  | cons answered rest inductionHypothesis =>
      rw [templates_cons, List.flatMap_cons, inductionHypothesis, ids_template]
      refine IdSupply.upTo_append ?_ ?_
      · rw [next_template]
        exact Nat.le_add_right _ _
      · rw [next_templates, Nat.add_assoc]
        exact Nat.le_add_right _ _

theorem length_answerAll (call : Nat) (forms : List TemplateForm) :
    (answerAll script path call forms).length = forms.length := by
  rw [answerAll, List.length_map, List.length_zipIdx]

/-- The nodes that answers make are those that the script makes for the bodies. -/
theorem passages_answerAll (call : Nat) (forms : List TemplateForm) :
    ((answerAll script path call forms).flatMap fun answered => answered.answer.passages) =
      script.passagesFor call (forms.map (TemplateForm.request path)) := by
  rw [answerAll, BodyScript.passagesFor, List.zipIdx_map, List.flatMap_map, List.flatMap_map]
  rfl

end AnsweredForm

namespace Session

/-- The ids that a call gives, in order.  A parse gives one to the file, and it
gives the others to the templates that it reads, whether they become part of a
tree or not. -/
def given (session : Session) : Call -> List Nat
  | .parse script _ path source =>
      session.ids.take.1 :: ((ParseState.start session path source).templatesRead script).flatMap Template.ids
  | .takeId => [session.ids.take.1]
  | .reportTo _ => []

/-- The ids that several calls give, one call after the other. -/
def givenAll : Session -> List Call -> List Nat
  | _, [] => []
  | session, call :: calls => session.given call ++ givenAll (session.perform call).2 calls

/-- The ids that can be seen in a reply. -/
def Reply.ids : Reply -> List Nat
  | .parsed outcome => outcome.file.toList.flatMap SourceFile.ids
  | .id taken => [taken]
  | .done => []

/-- The ids of one parse.  Those of the file that it returns are all that it
gives; a parse without a tree gives as many to the file and to the templates
that it has read. -/
structure NumbersFile (session : Session) (script : BodyScript) (outcome : ParseOutcome) (next : Session) : Prop where
  tree : forall file, outcome.file = some file -> file.ids = session.ids.upTo next.ids
  taken : next.ids.next = session.ids.next + 1 + outcome.requests.length +
    (script.passagesFor 0 outcome.requests).length

/-- The ids of several calls.  They are given without gaps and in increasing
order, and none is seen but where it was given. -/
structure NumbersCalls (session : Session) (calls : List Call) (replies : List Reply) (next : Session) : Prop where
  given : session.givenAll calls = session.ids.upTo next.ids
  increasing : (session.givenAll calls).Pairwise (· < ·)
  seen : (replies.flatMap Reply.ids).Sublist (session.givenAll calls)

section

variable {session next : Session} {script : BodyScript} {kind : FileKind} {path source : String} {before : List Token}
  {offender : Option Token} {outcome : ParseOutcome}

/-- A parse takes an id for the file, one for each template, and one for each node. -/
theorem Course.next_eq (course : session.Course script kind path source before offender outcome next) :
    next.ids.next = session.ids.next + 1 + outcome.requests.length +
      (script.passagesFor 0 outcome.requests).length := by
  rw [course.next_ids_eq, templatesFrom, AnsweredForm.next_templates, answersIn, AnsweredForm.passages_answerAll,
    AnsweredForm.length_answerAll, course.requests, List.length_map]
  rfl

theorem Course.next_lt (course : session.Course script kind path source before offender outcome next) :
    session.ids.next < next.ids.next := by
  rw [course.next_eq]
  omega

/-- What a parse gives is one stretch of ids. -/
theorem Course.given_eq (course : session.Course script kind path source before offender outcome next) :
    session.given (.parse script kind path source) = session.ids.upTo next.ids := by
  have taken := IdSupply.take_upTo course.next_lt
  rw [← taken, course.next_ids_eq, given, course.templatesRead_eq, templatesFrom, AnsweredForm.ids_templates]

/-- A tree shows all the ids that were given in its parse. -/
theorem Course.ids_eq (course : session.Course script kind path source before offender outcome next)
    {file : SourceFile} (isTree : outcome.file = some file) :
    file.ids = session.given (.parse script kind path source) := by
  cases offender with
  | some token => cases isTree.symm.trans (course.noTree rfl)
  | none =>
      rcases course.tree rfl with ⟨form, _, tree⟩
      cases isTree.symm.trans tree
      rfl

theorem Course.numbersFile (course : session.Course script kind path source before offender outcome next) :
    session.NumbersFile script outcome next where
  tree := fun _ isTree => (course.ids_eq isTree).trans course.given_eq
  taken := course.next_eq

end

/-- A call gives one stretch of ids. -/
theorem given_eq_upTo (session : Session) (call : Call) :
    session.given call = session.ids.upTo (session.perform call).2.ids := by
  cases call with
  | takeId =>
      have one := @IdSupply.take_upTo session.ids session.ids.take.2 (Nat.lt_succ_self _)
      rwa [IdSupply.upTo_self] at one
  | reportTo log => exact (IdSupply.upTo_self session.ids).symm
  | parse script kind path source =>
      rcases session.exists_course script kind path source with ⟨before, offender, _, course⟩
      exact course.given_eq

theorem next_le_perform (session : Session) (call : Call) :
    session.ids.next ≤ (session.perform call).2.ids.next := by
  cases call with
  | takeId => exact Nat.le_succ _
  | reportTo log => exact Nat.le_refl _
  | parse script kind path source =>
      rcases session.exists_course script kind path source with ⟨before, offender, _, course⟩
      exact Nat.le_of_lt course.next_lt

/-- A reply shows only ids that its call gave. -/
theorem ids_sublist_given (session : Session) (call : Call) :
    (session.perform call).1.ids.Sublist (session.given call) := by
  cases call with
  | takeId => exact .refl _
  | reportTo log => exact .refl _
  | parse script kind path source =>
      rcases session.exists_course script kind path source with ⟨before, offender, _, course⟩
      cases isTree : (session.parseFile script kind path source).1.file with
      | none =>
          rw [perform, Reply.ids, isTree]
          exact List.nil_sublist _
      | some file =>
          rw [perform, Reply.ids, isTree, Option.toList_some, List.flatMap_singleton, course.ids_eq isTree]

theorem next_le_performAll (session : Session) (calls : List Call) :
    session.ids.next ≤ (session.performAll calls).2.ids.next := by
  induction calls generalizing session with
  | nil => exact Nat.le_refl _
  | cons call calls inductionHypothesis =>
      exact Nat.le_trans (session.next_le_perform call) (inductionHypothesis (session.perform call).2)

/-- Several calls give one stretch of ids. -/
theorem givenAll_eq_upTo (session : Session) (calls : List Call) :
    session.givenAll calls = session.ids.upTo (session.performAll calls).2.ids := by
  induction calls generalizing session with
  | nil => exact (IdSupply.upTo_self session.ids).symm
  | cons call calls inductionHypothesis =>
      rw [givenAll, given_eq_upTo, inductionHypothesis]
      exact IdSupply.upTo_append (session.next_le_perform call) (next_le_performAll _ calls)

theorem ids_sublist_givenAll (session : Session) (calls : List Call) :
    ((session.performAll calls).1.flatMap Reply.ids).Sublist (session.givenAll calls) := by
  induction calls generalizing session with
  | nil => exact .refl _
  | cons call calls inductionHypothesis =>
      rw [performAll, givenAll, List.flatMap_cons]
      exact (session.ids_sublist_given call).append (inductionHypothesis (session.perform call).2)

/-- Whatever is done with a session, ids are given once and in order, and a
parse takes exactly the ids that its file, its templates and their nodes need. -/
theorem performAll_numbers (session : Session) :
    (forall calls, session.NumbersCalls calls (session.performAll calls).1 (session.performAll calls).2) ∧
      forall script kind path source, session.NumbersFile script (session.parseFile script kind path source).1
        (session.parseFile script kind path source).2 := by
  constructor
  · intro calls
    exact {
      given := session.givenAll_eq_upTo calls
      increasing := session.givenAll_eq_upTo calls ▸ IdSupply.pairwise_upTo _ _
      seen := session.ids_sublist_givenAll calls }
  · intro script kind path source
    rcases session.exists_course script kind path source with ⟨before, offender, _, course⟩
    exact course.numbersFile

end Session

end TemplateFile
