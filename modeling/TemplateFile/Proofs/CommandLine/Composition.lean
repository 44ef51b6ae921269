import TemplateFile.CommandLine.Run
import TemplateFile.Proofs.Parsing.Account
import TemplateFile.Proofs.Parsing.History

namespace TemplateFile

/-!
# A run is made of its inputs

The inputs of a run share a session, but no input can tell that from what is
said about it.  Its diagnostics are those of its own parse, and a listing of its
tree shows no ids, which are all that a history could change.  So a run says of
each input what a run of that input alone says, in the order of the inputs, and
only the summary at the end looks at all of them.

`Options.Treats` says what becomes of one input, without a run: an input that
cannot be read and an input with problems have failed, and any other input has a
tree.
-/

namespace Options

/-- The options of a run on a single input. -/
def only (options : Options) (name : String) : Options := { options with inputs := [name] }

/-- What a run prints before its summary.  A quiet run has no summary. -/
def withoutSummary (options : Options) (lines : List OutputLine) : List OutputLine :=
  if options.quiet then lines else lines.dropLast

/-- What the parse of an input comes to when nothing was parsed before. -/
def outcomeAlone (options : Options) (name source : String) : ParseOutcome :=
  (Session.start.parseFile (BodyScript.always BodyParser.raw) options.kind name source).1

/-- The line that tells the time of a parse. -/
def progress (options : Options) (name : String) : List OutputLine :=
  if options.quiet then [] else [.timed ("Parsed " ++ name ++ " in ")]

/-- The lines that display diagnostics about a text. -/
def displayed (source : String) (diagnostics : List Diagnostic) : List OutputLine :=
  (diagnostics.flatMap fun diagnostic => diagnostic.display source).map .plain

/-- The lines that dump a tree, if the run is to dump trees. -/
def dumped (options : Options) (file : SourceFile) : List OutputLine :=
  if options.dump then file.listing.map .plain else []

/-- What is reported of an input with a given content.  There are three cases.
An input that cannot be read has failed, and nothing but that is said of it.  An
input with diagnostics has failed; they are displayed and nothing is dumped.  An
input without diagnostics has not failed, and it has a tree, which is dumped. -/
inductive Treats (options : Options) (name : String) : Except ReadFailure String -> InputReport -> Prop where
  | unreadable (failure : ReadFailure) :
      Treats options name (.error failure)
        ⟨[.plain ("Error: failed to read " ++ name ++ ": " ++ failure.message)], true⟩
  | faulty {source : String} (problems : (options.outcomeAlone name source).diagnostics ≠ []) :
      Treats options name (.ok source)
        ⟨options.progress name ++ displayed source (options.outcomeAlone name source).diagnostics, true⟩
  | sound {source : String} {file : SourceFile} (none : (options.outcomeAlone name source).diagnostics = [])
      (tree : (options.outcomeAlone name source).file = some file) :
      Treats options name (.ok source) ⟨options.progress name ++ options.dumped file, false⟩

/-- What a run prints and the code with which it exits, in terms of its inputs:
`reports` has one report for each of them, in their order.  A report says what
becomes of the input, and its lines are those of a run on this input alone.  The
run prints them one after the other, and then it counts the inputs that have
failed, which also decide the exit code. -/
structure Composes (options : Options) (read : String -> Except ReadFailure String) (output : List OutputLine)
    (code : Nat) (reports : List InputReport) : Prop where
  treats : List.Forall₂ (fun name report => options.Treats name (read name) report) options.inputs reports
  alone : List.Forall₂
    (fun name report => (options.only name).withoutSummary ((options.only name).run read).1 = report.lines)
    options.inputs reports
  lines : options.withoutSummary output =
    options.inputs.flatMap fun name => (options.only name).withoutSummary ((options.only name).run read).1
  summary : options.quiet = false -> output.getLast? =
    some (.timed ("Parsed " ++ toString options.inputs.length ++ " file(s), " ++
      toString (reports.countP InputReport.failed) ++ " failed, in "))
  code : code = if 0 < reports.countP InputReport.failed then 1 else 0

end Options

/-! ## A listing shows no ids -/

theorem SourceFile.listing_mapIds (change : Nat -> Nat) (file : SourceFile) :
    (file.mapIds change).listing = file.listing := by
  have lines : (file.templates.map (Template.mapIds change)).map templateLine = file.templates.map templateLine := by
    rw [List.map_map]
    rfl
  simp only [listing, mapIds, lines]

theorem ParseOutcome.result_mapIds (change : Nat -> Nat) (outcome : ParseOutcome) :
    (outcome.mapIds change).result = outcome.result.map (SourceFile.mapIds change) := by
  unfold result mapIds
  cases outcome.failed <;> rfl

/-! ## One input -/

/-- What a session that keeps tips makes of a file. -/
theorem Session.parseFile_of_keeps {session : Session} (keeps : session.log.tips = .keep) (script : BodyScript)
    (kind : FileKind) (path source : String) :
    (session.parseFile script kind path source).1 =
        (start.parseFile script kind path source).1.mapIds (session.ids.next + ·) ∧
      (session.parseFile script kind path source).2.log.tips = .keep := by
  have renewed : session.renewed = start := by
    rw [Session.renewed, keeps]
    rfl
  rcases session.exists_courses session.renewed script script kind path source with
    ⟨before, offender, _, course, renewedCourse⟩
  constructor
  · rw [course.outcome_renewed renewedCourse, renewed]
  · rw [course.log]
    exact keeps

namespace Options

variable {options : Options} {session : Session} {name : String}

/-- The report that an outcome leads to. -/
def reportOf (options : Options) (name source : String) (outcome : ParseOutcome) : InputReport where
  lines := options.progress name ++ displayed source outcome.diagnostics ++
    (outcome.result.map options.dumped).getD []
  failed := outcome.failed

theorem parseInput_eq (options : Options) (session : Session) (name source : String) :
    options.parseInput session name source =
      (options.reportOf name source
        (session.parseFile (BodyScript.always BodyParser.raw) options.kind name source).1,
        (session.parseFile (BodyScript.always BodyParser.raw) options.kind name source).2) := by
  simp only [parseInput, reportOf, progress, displayed]
  cases (session.parseFile (BodyScript.always BodyParser.raw) options.kind name source).1.result with
  | none => rw [ite_self, Option.map_none, Option.getD_none]
  | some file => rw [Option.map_some, Option.getD_some, dumped]

/-- Other ids make no difference to a report. -/
theorem reportOf_mapIds (change : Nat -> Nat) (source : String) (outcome : ParseOutcome) :
    options.reportOf name source (outcome.mapIds change) = options.reportOf name source outcome := by
  have dumps : options.dumped ∘ SourceFile.mapIds change = options.dumped := by
    funext file
    simp only [Function.comp_apply, dumped, SourceFile.listing_mapIds]
  rw [reportOf, ParseOutcome.result_mapIds, Option.map_map, dumps]
  rfl

/-- The report of an input when nothing was parsed before. -/
def reportAlone (options : Options) (name : String) (content : Except ReadFailure String) : InputReport :=
  (options.processInput Session.start name content).1

/-- In every session that keeps tips an input is reported alike, and tips are kept from there on. -/
theorem processInput_of_keeps (keeps : session.log.tips = .keep) (name : String)
    (content : Except ReadFailure String) :
    (options.processInput session name content).1 = options.reportAlone name content ∧
      (options.processInput session name content).2.log.tips = .keep := by
  cases content with
  | error failure => exact ⟨rfl, keeps⟩
  | ok source =>
      have parsed := session.parseFile_of_keeps keeps (BodyScript.always BodyParser.raw) options.kind name source
      constructor
      · simp only [reportAlone, processInput, parseInput_eq, parsed.1, reportOf_mapIds]
      · simp only [processInput, parseInput_eq, parsed.2]

/-- A parse fails with diagnostics and without a result, or it has no diagnostics and its tree is its result. -/
theorem outcomeAlone_fails_or_not (options : Options) (name source : String) :
    ((options.outcomeAlone name source).failed = true ∧ (options.outcomeAlone name source).diagnostics ≠ [] ∧
        (options.outcomeAlone name source).result = none) ∨
      ∃ file, (options.outcomeAlone name source).failed = false ∧ (options.outcomeAlone name source).diagnostics = [] ∧
        (options.outcomeAlone name source).file = some file ∧ (options.outcomeAlone name source).result = some file := by
  rcases Session.start.exists_course (BodyScript.always BodyParser.raw) options.kind name source with
    ⟨before, offender, _, course⟩
  have account := course.account
  cases failed : (options.outcomeAlone name source).failed with
  | true => exact Or.inl ⟨rfl, account.failed_iff.mp failed, account.noResult failed⟩
  | false =>
      rcases account.result failed with ⟨file, tree, isResult⟩
      have none : (options.outcomeAlone name source).diagnostics = [] := by
        by_contra some
        cases failed.symm.trans (account.failed_iff.mpr some)
      exact Or.inr ⟨file, rfl, none, tree, isResult⟩

/-- The report of an input alone is one of the three cases. -/
theorem treats_reportAlone (options : Options) (name : String) (content : Except ReadFailure String) :
    options.Treats name content (options.reportAlone name content) := by
  cases content with
  | error failure => exact .unreadable failure
  | ok source =>
      have report : options.reportAlone name (.ok source) =
          options.reportOf name source (options.outcomeAlone name source) := by
        simp only [reportAlone, processInput, parseInput_eq, outcomeAlone]
      rw [report, reportOf]
      rcases options.outcomeAlone_fails_or_not name source with
        ⟨failed, problems, noResult⟩ | ⟨file, passed, none, tree, result⟩
      · rw [failed, noResult, Option.map_none, Option.getD_none, List.append_nil]
        exact .faulty problems
      · rw [passed, result, none, Option.map_some, Option.getD_some, displayed, List.flatMap_nil, List.map_nil,
          List.append_nil]
        exact .sound none tree

end Options

/-! ## All inputs -/

namespace RunState

variable {state : RunState}

/-- One more input adds its own report to a run. -/
theorem next_of_keeps (options : Options) (keeps : state.session.log.tips = .keep) (name : String)
    (content : Except ReadFailure String) :
    (state.next options name content).1 = (options.reportAlone name content).lines ∧
      (state.next options name content).2.failures =
        state.failures + [options.reportAlone name content].countP InputReport.failed ∧
      (state.next options name content).2.session.log.tips = .keep := by
  have processed := options.processInput_of_keeps keeps name content
  refine ⟨?_, ?_, processed.2⟩
  · rw [← processed.1]
    rfl
  · rw [← processed.1, List.countP_singleton]
    simp only [next]
    split <;> rfl

/-- A run adds the reports of all its inputs, one after the other. -/
theorem nextAll_of_keeps (options : Options) (read : String -> Except ReadFailure String)
    (keeps : state.session.log.tips = .keep) (names : List String) :
    (nextAll options read state names).1 = names.flatMap (fun name => (options.reportAlone name (read name)).lines) ∧
      (nextAll options read state names).2.failures = state.failures +
        (names.map fun name => options.reportAlone name (read name)).countP InputReport.failed := by
  induction names generalizing state with
  | nil => exact ⟨rfl, rfl⟩
  | cons name names inductionHypothesis =>
      have here := next_of_keeps options keeps name (read name)
      have later := inductionHypothesis here.2.2
      simp only [nextAll, List.flatMap_cons, List.map_cons]
      constructor
      · rw [here.1, later.1]
      · rw [later.2, here.2.1, Nat.add_assoc, ← List.countP_append, List.singleton_append]

end RunState

namespace Options

/-- A run prints the reports of its inputs and a summary. -/
theorem run_eq (options : Options) (read : String -> Except ReadFailure String) :
    options.run read =
      (options.inputs.flatMap (fun name => (options.reportAlone name (read name)).lines) ++
        options.summary ((options.inputs.map fun name => options.reportAlone name (read name)).countP
          InputReport.failed),
        if 0 < (options.inputs.map fun name => options.reportAlone name (read name)).countP InputReport.failed
          then 1 else 0) := by
  have keeps : RunState.start.session.log.tips = .keep := rfl
  have all := RunState.nextAll_of_keeps options read keeps options.inputs
  have failures := all.2.trans (Nat.zero_add _)
  simp only [run, RunState.exitCode, all.1, failures]

/-- Taking the summary away leaves what was printed before it. -/
theorem withoutSummary_append (options : Options) (lines : List OutputLine) (failures : Nat) :
    options.withoutSummary (lines ++ options.summary failures) = lines := by
  unfold withoutSummary summary
  cases options.quiet with
  | true => exact List.append_nil lines
  | false => exact List.dropLast_concat

/-- A run on one input prints the report of that input. -/
theorem withoutSummary_run_only (options : Options) (read : String -> Except ReadFailure String) (name : String) :
    (options.only name).withoutSummary ((options.only name).run read).1 =
      (options.reportAlone name (read name)).lines := by
  rw [run_eq, withoutSummary_append]
  exact List.flatMap_singleton _ _

end Options

end TemplateFile
