import TemplateFile.Parse
import TemplateFile.Proofs.Parsing.Course

namespace TemplateFile

/-!
# What a parse comes to

Around the rule for a file a parse only keeps accounts: it reports the error, if
the rule stops with one, and it tells by the log whether something was reported
since it began.  `Session.Course` says what the outcome and the later session
are, in terms of the extent of the file and of the answers to its bodies.
-/

/-- The diagnostic about a misplaced token. -/
def misplacedDiagnostic (tips : TipPolicy) (path : String) (before : List Token) (token : Token) : Diagnostic where
  name := "SyntaxError"
  message := (misplacedFault before token).message
  tip := match tips with
    | .keep => (misplacedFault before token).tip
    | .discard => none
  location := Location.ofSpan path token.span

theorem toDiagnostic_misplacedFault (tips : TipPolicy) (path : String) (before : List Token) (token : Token) :
    (SyntaxError.toReport ⟨misplacedFault before token, Location.ofSpan path token.span⟩).toDiagnostic tips =
      misplacedDiagnostic tips path before token := by
  simp only [SyntaxError.toReport, Report.toDiagnostic, MessageFormat.fill_syntaxError]
  rfl

/-- The templates of a parse, each with the answer that its body gets. -/
def answersIn (script : BodyScript) (path : String) (before : List Token) : List AnsweredForm :=
  AnsweredForm.answerAll script path 0 (templatesIn before)

/-- The trees of these templates, and the ids that are left, when the file itself takes the first one. -/
def templatesFrom (ids : IdSupply) (script : BodyScript) (path : String) (before : List Token) :
    List Template × IdSupply :=
  AnsweredForm.templates path (namespaceIn before) (answersIn script path before) ids.take.2

/-- What a parse comes to, for a file with a given extent. -/
structure Session.Course (session : Session) (script : BodyScript) (kind : FileKind) (path source : String)
    (before : List Token) (offender : Option Token) (outcome : ParseOutcome) (next : Session) : Prop where
  requests : outcome.requests = (templatesIn before).map (TemplateForm.request path)
  diagnostics : outcome.diagnostics =
    (answersIn script path before).flatMap (AnsweredForm.diagnostics session.log.tips path (namespaceIn before)) ++
      offender.toList.map (misplacedDiagnostic session.log.tips path before)
  failed : outcome.failed = !outcome.diagnostics.isEmpty
  log : next.log = ⟨session.log.tips, session.log.entries ++ outcome.diagnostics⟩
  templates : templatesFrom session.ids script path before =
    ((ParseState.start session path source).templatesRead script, next.ids)
  tree : offender = none -> ∃ form : FileForm, form.tokens = before ∧
    outcome.file = some (form.tree kind path session.ids.next
      ((ParseState.start session path source).templatesRead script))
  noTree : offender.isSome -> outcome.file = none

namespace Session.Course

variable {session next : Session} {script : BodyScript} {kind : FileKind} {path source : String} {before : List Token}
  {offender : Option Token} {outcome : ParseOutcome}

theorem templatesRead_eq (course : session.Course script kind path source before offender outcome next) :
    (ParseState.start session path source).templatesRead script = (templatesFrom session.ids script path before).1 :=
  (congrArg Prod.fst course.templates).symm

theorem next_ids_eq (course : session.Course script kind path source before offender outcome next) :
    next.ids = (templatesFrom session.ids script path before).2 := (congrArg Prod.snd course.templates).symm

/-- Two parses of one file make trees of the same form, if they make any. -/
theorem exists_trees {other otherNext : Session} {otherScript : BodyScript} {otherOutcome : ParseOutcome}
    (course : session.Course script kind path source before offender outcome next)
    (otherCourse : other.Course otherScript kind path source before offender otherOutcome otherNext) :
    (outcome.file = none ∧ otherOutcome.file = none) ∨ ∃ form : FileForm,
      outcome.file = some (form.tree kind path session.ids.next (templatesFrom session.ids script path before).1) ∧
      otherOutcome.file =
        some (form.tree kind path other.ids.next (templatesFrom other.ids otherScript path before).1) := by
  cases offender with
  | some token => exact Or.inl ⟨course.noTree rfl, otherCourse.noTree rfl⟩
  | none =>
      rcases course.tree rfl with ⟨form, same, tree⟩
      rcases otherCourse.tree rfl with ⟨otherForm, otherSame, otherTree⟩
      -- No two forms have the same tokens.
      cases FileForm.tokens_injective (same.trans otherSame.symm)
      rw [course.templatesRead_eq] at tree
      rw [otherCourse.templatesRead_eq] at otherTree
      exact Or.inr ⟨form, tree, otherTree⟩

end Session.Course

namespace Session

section

variable {session : Session} {script : BodyScript} {kind : FileKind} {path source : String} {after : ParseState}
  {more : List Diagnostic}

/-- A file that is accepted has failed if something was added to the log. -/
theorem parseFile_of_ok {file : SourceFile}
    (ran : FileRule.sourceFile script kind (ParseState.start session path source) = .ok file after)
    (log : after.log = ⟨session.log.tips, session.log.entries ++ more⟩) :
    session.parseFile script kind path source =
      (⟨some file, !more.isEmpty, more, after.requests⟩,
        ⟨after.ids, ⟨session.log.tips, session.log.entries ++ more⟩⟩) := by
  simp only [parseFile, ran, ParseState.toSession, log, Log.hasErrorsSince_checkpoint, Log.since_checkpoint]

/-- A file that is not accepted adds its error to the log. -/
theorem parseFile_of_error {error : SyntaxError} {last : Diagnostic}
    (ran : FileRule.sourceFile script kind (ParseState.start session path source) = .error error after)
    (log : after.log = ⟨session.log.tips, session.log.entries ++ more⟩)
    (reported : error.toReport.toDiagnostic session.log.tips = last) :
    session.parseFile script kind path source =
      (⟨none, !(more ++ [last]).isEmpty, more ++ [last], after.requests⟩,
        ⟨after.ids, ⟨session.log.tips, session.log.entries ++ (more ++ [last])⟩⟩) := by
  simp only [parseFile, ran, ParseState.toSession, log, Log.add_eq, reported, List.append_assoc,
    Log.hasErrorsSince_checkpoint, Log.since_checkpoint]

end

/-- Every parse takes its course. -/
theorem exists_course (session : Session) (script : BodyScript) (kind : FileKind) (path source : String) :
    ∃ before offender, (TokenStream.ofSource path source).Extent before offender ∧
      session.Course script kind path source before offender (session.parseFile script kind path source).1
        (session.parseFile script kind path source).2 := by
  cases ran : FileRule.sourceFile script kind (ParseState.start session path source) with
  | ok file after =>
      rcases FileRule.course_of_ok ran with ⟨form, whole, isTree, read, course⟩
      have extent := TokenStream.Extent.whole (FileRule.kindsOf_toList_of_form whole)
      rw [← whole] at extent
      refine ⟨form.tokens, none, extent, ?_⟩
      rw [parseFile_of_ok ran course.log]
      exact {
        requests := course.requests
        diagnostics := (List.append_nil _).symm
        failed := rfl
        log := rfl
        templates := course.templates
        tree := fun _ => ⟨form, rfl, congrArg some (read ▸ isTree)⟩
        noTree := fun impossible => by cases impossible }
  | error error after =>
      rcases FileRule.course_of_error ran with ⟨before, course, misplaced, isMisplaced⟩
      refine ⟨before, some after.tokens.current, .upTo misplaced, ?_⟩
      rw [isMisplaced] at ran
      rw [parseFile_of_error ran course.log (toDiagnostic_misplacedFault _ _ _ _)]
      exact {
        requests := course.requests
        diagnostics := rfl
        failed := rfl
        log := rfl
        templates := course.templates
        tree := fun impossible => by cases impossible
        noTree := fun _ => rfl }

/-- Two parses of one file take their courses over the same extent. -/
theorem exists_courses (session other : Session) (script otherScript : BodyScript) (kind : FileKind)
    (path source : String) :
    ∃ before offender, (TokenStream.ofSource path source).Extent before offender ∧
      session.Course script kind path source before offender (session.parseFile script kind path source).1
        (session.parseFile script kind path source).2 ∧
      other.Course otherScript kind path source before offender (other.parseFile otherScript kind path source).1
        (other.parseFile otherScript kind path source).2 := by
  rcases session.exists_course script kind path source with ⟨before, offender, extent, course⟩
  rcases other.exists_course otherScript kind path source with ⟨_, _, otherExtent, otherCourse⟩
  rcases extent.unique otherExtent with ⟨rfl, rfl⟩
  exact ⟨before, offender, extent, course, otherCourse⟩

end Session

end TemplateFile
