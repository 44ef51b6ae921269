import TemplateFile.Diagnostic.Message
import TemplateFile.Source.Location

namespace TemplateFile

/-!
# Diagnostics and the log that keeps them

Problems are reported to a log and never disturb what reports them.  A log only
grows.  A checkpoint remembers how much of it was there at some time, so that
one log can serve many files and still tell what belongs to each.  A log may be
one that keeps no tips; it is the same in every other way.
-/

/-- A problem as a reader sees it. -/
structure Diagnostic where
  name : String
  message : String
  tip : Option String
  location : Location
deriving DecidableEq, Repr

/-- A problem as it is reported: a message format with its arguments, and
perhaps a tip for mending the problem. -/
structure Report where
  location : Location
  format : MessageFormat
  arguments : List String
  tip : Option String
deriving DecidableEq, Repr

/-- What a log does with tips. -/
inductive TipPolicy where
  | keep
  | discard
deriving DecidableEq, Repr

/-- The diagnostic that a report becomes. -/
def Report.toDiagnostic (report : Report) (tips : TipPolicy) : Diagnostic where
  name := report.format.name
  message := report.format.fill report.arguments
  tip := match tips with
    | .keep => report.tip
    | .discard => none
  location := report.location

/-- The diagnostics reported so far, in order. -/
structure Log where
  tips : TipPolicy
  entries : List Diagnostic
deriving DecidableEq, Repr

/-- How many diagnostics a log held at some time. -/
structure Checkpoint where
  count : Nat
deriving DecidableEq, Repr

namespace Log

/-- A log without diagnostics. -/
def empty (tips : TipPolicy) : Log := ⟨tips, []⟩

/-- The log after a report. -/
def add (log : Log) (report : Report) : Log :=
  { log with entries := log.entries ++ [report.toDiagnostic log.tips] }

/-- The log after several reports. -/
def addAll (log : Log) (reports : List Report) : Log := reports.foldl add log

/-- How many diagnostics the log holds. -/
def size (log : Log) : Nat := log.entries.length

/-- Whether the log holds no diagnostics. -/
def isEmpty (log : Log) : Bool := log.entries.isEmpty

/-- The present moment in the life of the log. -/
def checkpoint (log : Log) : Checkpoint := ⟨log.size⟩

/-- Whether anything was reported after a checkpoint. -/
def hasErrorsSince (log : Log) (checkpoint : Checkpoint) : Bool := decide (checkpoint.count < log.size)

/-- The diagnostics reported after a checkpoint. -/
def since (log : Log) (checkpoint : Checkpoint) : List Diagnostic := log.entries.drop checkpoint.count

end Log

end TemplateFile
