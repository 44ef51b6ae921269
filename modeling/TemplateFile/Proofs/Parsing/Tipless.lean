import TemplateFile.Proofs.Diagnostic.Reporter
import TemplateFile.Proofs.Parsing.History

namespace TemplateFile

/-!
# Tips are all that a reporter decides

What is reported in a parse does not depend on the reporter.  So a session whose
log keeps no tips lives the same life as one whose log keeps them: at any time it
is the other one without its tips, and so is every answer that it gives.

This goes for all that can be done with a session and its reporter, by whoever
has them: files are parsed, problems are reported in either way, the reporter is
asked what it knows, and ids are taken.
-/

namespace ParseOutcome

/-- The outcome with all tips taken away. -/
def withoutTips (outcome : ParseOutcome) : ParseOutcome :=
  { outcome with diagnostics := outcome.diagnostics.map Diagnostic.withoutTip }

end ParseOutcome

namespace Session

/-- The same session with a log that keeps no tips and never did. -/
def tipless (session : Session) : Session :=
  ⟨session.ids, ⟨.discard, session.log.entries.map Diagnostic.withoutTip⟩⟩

/-- Something that is done with a session or with its reporter. -/
inductive Deed where
  | parse (script : BodyScript) (kind : FileKind) (path source : String)
  | tell (call : Reporter.Call)
  | mark
  | hasErrorsSince (checkpoint : Checkpoint)
  | since (checkpoint : Checkpoint)
  | renewLog
  | takeId
  | renewIds (ids : IdSupply)

/-- What a deed answers. -/
inductive Answer where
  | parsed (outcome : ParseOutcome)
  | marked (checkpoint : Checkpoint)
  | flag (holds : Bool)
  | listed (diagnostics : List Diagnostic)
  | id (id : Nat)
  | done
deriving DecidableEq, Repr

/-- The answer with all tips taken away. -/
def Answer.withoutTips : Answer -> Answer
  | parsed outcome => parsed outcome.withoutTips
  | listed diagnostics => listed (diagnostics.map Diagnostic.withoutTip)
  | other => other

/-- The answer to a deed, and the session after it. -/
def carryOut (session : Session) : Deed -> Answer × Session
  | .parse script kind path source =>
      (.parsed (session.parseFile script kind path source).1, (session.parseFile script kind path source).2)
  | .tell call =>
      (.done, ⟨session.ids, ⟨session.log.tips, session.log.tips.reporter.receive session.log.entries call⟩⟩)
  | .mark => (.marked (session.log.tips.reporter.checkpoint session.log.entries), session)
  | .hasErrorsSince checkpoint =>
      (.flag (session.log.tips.reporter.hasErrorsSince session.log.entries checkpoint), session)
  | .since checkpoint => (.listed (session.log.since checkpoint), session)
  | .renewLog => (.done, ⟨session.ids, Log.empty session.log.tips⟩)
  | .takeId => (.id session.ids.take.1, ⟨session.ids.take.2, session.log⟩)
  | .renewIds ids => (.done, ⟨ids, session.log⟩)

/-- The answers to several deeds, and the session after them. -/
def carryOutAll : Session -> List Deed -> List Answer × Session
  | session, [] => ([], session)
  | session, deed :: deeds =>
      ((session.carryOut deed).1 :: (carryOutAll (session.carryOut deed).2 deeds).1,
        (carryOutAll (session.carryOut deed).2 deeds).2)

end Session

/-! ## What a parse reports -/

/-- Everything that is reported in a parse, for a file with a given extent. -/
def reportsIn (script : BodyScript) (path : String) (before : List Token) (offender : Option Token) : List Report :=
  (answersIn script path before).flatMap (fun answered =>
    ParseState.reportsOf (answered.form.request path) (answered.form.declared path (namespaceIn before) 0)
      answered.answer) ++
    offender.toList.map fun token =>
      SyntaxError.toReport ⟨misplacedFault before token, Location.ofSpan path token.span⟩

namespace Session.Course

variable {session next tiplessNext : Session} {script : BodyScript} {kind : FileKind} {path source : String}
  {before : List Token} {offender : Option Token} {outcome tiplessOutcome : ParseOutcome}

/-- The log grows by the reports of the parse, whatever it does with them. -/
theorem log_eq_addAll (course : session.Course script kind path source before offender outcome next) :
    next.log = session.log.addAll (reportsIn script path before offender) := by
  rw [course.log, course.diagnostics, Log.addAll_eq, reportsIn, List.map_append, List.map_flatMap, List.map_map]
  simp only [AnsweredForm.map_reportsOf]
  congr 3
  exact List.map_congr_left fun token _ => (toDiagnostic_misplacedFault _ path before token).symm

/-- A parse in the session without tips comes to the same but for the tips. -/
theorem outcome_tipless (course : session.Course script kind path source before offender outcome next)
    (tiplessCourse : session.tipless.Course script kind path source before offender tiplessOutcome tiplessNext) :
    tiplessOutcome = outcome.withoutTips := by
  have requests := tiplessCourse.requests.trans course.requests.symm
  have diagnostics := tiplessCourse.diagnostics.trans course.map_withoutTip_diagnostics.symm
  have failed := tiplessCourse.failed_eq course
  have file : tiplessOutcome.file = outcome.file := by
    rcases course.exists_trees tiplessCourse with ⟨noTree, noTiplessTree⟩ | ⟨form, tree, tiplessTree⟩
    · rw [noTree, noTiplessTree]
    · rw [tree, tiplessTree]
      rfl
  calc tiplessOutcome
      = ⟨tiplessOutcome.file, tiplessOutcome.failed, tiplessOutcome.diagnostics, tiplessOutcome.requests⟩ := rfl
    _ = outcome.withoutTips := by
      rw [file, failed, diagnostics, requests, ParseOutcome.withoutTips]

theorem next_tipless (course : session.Course script kind path source before offender outcome next)
    (tiplessCourse : session.tipless.Course script kind path source before offender tiplessOutcome tiplessNext) :
    tiplessNext = next.tipless := by
  have ids : tiplessNext.ids = next.ids := tiplessCourse.next_ids_eq.trans course.next_ids_eq.symm
  have diagnostics := congrArg ParseOutcome.diagnostics (course.outcome_tipless tiplessCourse)
  calc tiplessNext = ⟨tiplessNext.ids, tiplessNext.log⟩ := rfl
    _ = ⟨next.ids, ⟨.discard, (session.log.entries ++ outcome.diagnostics).map Diagnostic.withoutTip⟩⟩ := by
      rw [ids, tiplessCourse.log, diagnostics, List.map_append]
      rfl
    _ = next.tipless := by rw [Session.tipless, course.log]

end Session.Course

/-! ## Sessions without tips -/

namespace Reporter

/-- Taking the tips away early or late makes no difference. -/
theorem receive_plain (tips : TipPolicy) (kept : List Diagnostic) (call : Call) :
    plain.receive (kept.map Diagnostic.withoutTip) call =
      (tips.reporter.receive kept call).map Diagnostic.withoutTip := by
  cases tips
  all_goals cases call
  all_goals
    simp only [receive, plain, TipPolicy.reporter, full, List.map_append, List.map_cons, List.map_nil]
    rfl

end Reporter

namespace Session

/-- Each deed comes to the same in the session without tips. -/
theorem carryOut_tipless (session : Session) (deed : Deed) :
    session.tipless.carryOut deed = ((session.carryOut deed).1.withoutTips, (session.carryOut deed).2.tipless) := by
  cases deed with
  | parse script kind path source =>
      rcases session.exists_courses session.tipless script script kind path source with
        ⟨before, offender, _, course, tiplessCourse⟩
      exact Prod.ext (congrArg Answer.parsed (course.outcome_tipless tiplessCourse))
        (course.next_tipless tiplessCourse)
  | tell call =>
      have received := Reporter.receive_plain session.log.tips session.log.entries call
      exact Prod.ext rfl (congrArg (fun entries => Session.mk session.ids ⟨.discard, entries⟩) received)
  | mark =>
      rw [carryOut, carryOut, Reporter.checkpoint_eq, Reporter.checkpoint_eq, Log.checkpoint, Log.size, tipless,
        List.length_map]
      rfl
  | hasErrorsSince checkpoint =>
      rw [carryOut, carryOut, Reporter.hasErrorsSince_eq, Reporter.hasErrorsSince_eq, Log.hasErrorsSince, Log.size,
        tipless, List.length_map]
      rfl
  | since checkpoint =>
      rw [carryOut, carryOut, Log.since, tipless, ← List.map_drop]
      rfl
  | renewLog => rfl
  | takeId => rfl
  | renewIds ids => rfl

/-- In every parse the same is reported to every reporter, in whichever way each
problem is reported.  And whatever is done with a session and its reporter, a
session without tips comes to the same but for the tips. -/
theorem carryOutAll_tipless :
    (forall script kind path source, ∃ reports : List Report, forall (session : Session) (calls : List Reporter.Call),
      calls.map Reporter.Call.toReport = reports ->
        (session.parseFile script kind path source).2.log =
          ⟨session.log.tips, session.log.tips.reporter.receiveAll session.log.entries calls⟩) ∧
      forall (session : Session) (deeds : List Deed),
        session.tipless.carryOutAll deeds =
          ((session.carryOutAll deeds).1.map Answer.withoutTips, (session.carryOutAll deeds).2.tipless) := by
  constructor
  · intro script kind path source
    rcases start.exists_course script kind path source with ⟨before, offender, extent, _⟩
    refine ⟨reportsIn script path before offender, ?_⟩
    rintro session calls reported
    rcases session.exists_course script kind path source with ⟨_, _, sameExtent, course⟩
    rcases extent.unique sameExtent with ⟨rfl, rfl⟩
    rw [Reporter.receiveAll_eq, reported, course.log_eq_addAll, Log.addAll_eq]
  · intro session deeds
    induction deeds generalizing session with
    | nil => rfl
    | cons deed deeds inductionHypothesis =>
        rw [carryOutAll, carryOut_tipless, inductionHypothesis, carryOutAll, List.map_cons]

/-- The plain reporter makes a new session one without tips. -/
example (ids : IdSupply) : tipless ⟨ids, Log.empty .keep⟩ = ⟨ids, Log.empty .discard⟩ := rfl

end Session

end TemplateFile
