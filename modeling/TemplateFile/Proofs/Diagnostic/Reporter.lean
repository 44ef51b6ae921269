import TemplateFile.Proofs.Diagnostic.Log

namespace TemplateFile

/-!
# Reporters

All that anyone knows of a reporter is what can be done with it.  A problem is
reported in one of two ways, with a tip or without, and a reporter that has no
use for tips need not say what it does with one: it takes the problem as if
there were none.

Two reporters keep a list of diagnostics.  One keeps the tips, too; the other
one leaves them to the default.  A log is one or the other, in whichever way it
is reported to.
-/

/-- What can be done with a reporter that keeps `Kept`. -/
structure Reporter (Kept : Type) where
  checkpoint : Kept -> Checkpoint
  hasErrorsSince : Kept -> Checkpoint -> Bool
  report : Kept -> Location -> MessageFormat -> List String -> Kept
  reportWithTip : Kept -> Location -> MessageFormat -> List String -> Option String -> Kept :=
    fun kept location format arguments _ => report kept location format arguments

namespace Reporter

/-- A problem, reported in one way or the other. -/
inductive Call where
  | report (location : Location) (format : MessageFormat) (arguments : List String)
  | reportWithTip (location : Location) (format : MessageFormat) (arguments : List String) (tip : Option String)
deriving DecidableEq, Repr

/-- What is reported. -/
def Call.toReport : Call -> Report
  | report location format arguments => ⟨location, format, arguments, none⟩
  | reportWithTip location format arguments tip => ⟨location, format, arguments, tip⟩

/-- A call is answered in the way in which it is made. -/
def receive {Kept : Type} (reporter : Reporter Kept) (kept : Kept) : Call -> Kept
  | .report location format arguments => reporter.report kept location format arguments
  | .reportWithTip location format arguments tip => reporter.reportWithTip kept location format arguments tip

/-- Calls are answered one after the other. -/
def receiveAll {Kept : Type} (reporter : Reporter Kept) (kept : Kept) (calls : List Call) : Kept :=
  calls.foldl reporter.receive kept

/-- The reporter that keeps diagnostics with their tips. -/
def full : Reporter (List Diagnostic) where
  checkpoint := fun kept => ⟨kept.length⟩
  hasErrorsSince := fun kept checkpoint => decide (checkpoint.count < kept.length)
  report := fun kept location format arguments => kept ++ [⟨format.name, format.fill arguments, none, location⟩]
  reportWithTip := fun kept location format arguments tip =>
    kept ++ [⟨format.name, format.fill arguments, tip, location⟩]

/-- The reporter that keeps diagnostics and says nothing of tips. -/
def plain : Reporter (List Diagnostic) where
  checkpoint := full.checkpoint
  hasErrorsSince := full.hasErrorsSince
  report := full.report

end Reporter

/-- The reporter that a log is. -/
def TipPolicy.reporter : TipPolicy -> Reporter (List Diagnostic)
  | keep => .full
  | discard => .plain

namespace Reporter

/-- A log does with a report what its reporter does with any call that makes it. -/
theorem receive_eq (log : Log) (call : Call) :
    log.tips.reporter.receive log.entries call = (log.add call.toReport).entries := by
  rcases log with ⟨tips, entries⟩
  cases tips
  all_goals cases call
  all_goals rfl

theorem receiveAll_eq (log : Log) (calls : List Call) :
    log.tips.reporter.receiveAll log.entries calls = (log.addAll (calls.map Call.toReport)).entries := by
  induction calls generalizing log with
  | nil => rfl
  | cons call calls inductionHypothesis =>
      have others := inductionHypothesis (log.add call.toReport)
      rw [← receive_eq] at others
      exact others

theorem checkpoint_eq (log : Log) : log.tips.reporter.checkpoint log.entries = log.checkpoint := by
  cases log.tips
  all_goals rfl

theorem hasErrorsSince_eq (log : Log) (checkpoint : Checkpoint) :
    log.tips.reporter.hasErrorsSince log.entries checkpoint = log.hasErrorsSince checkpoint := by
  cases log.tips
  all_goals rfl

end Reporter

end TemplateFile
