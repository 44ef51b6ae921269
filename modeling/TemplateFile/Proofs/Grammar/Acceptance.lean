import TemplateFile.Proofs.Grammar.WholeFile
import TemplateFile.Proofs.Grammar.Wording

namespace TemplateFile

/-!
# Which files are accepted, and where the others fail

The rule for a file follows the automaton, so it accepts the sentences and no
other sequences of kinds, whatever the body parsers answer.  A file that is
accepted has one form, and its tree is what the form determines.  A file that
is not accepted fails at the first token that no sentence has in its place.
-/

namespace TokenStream

/-- The tokens read, the current one and those that come later. -/
theorem exists_toList_eq {before after : TokenStream} {tokens : List Token} (passes : before.Passes tokens after) :
    ∃ later, before.toList = tokens ++ after.current :: later := by
  unfold toList current
  rw [passes.pending, ← passes.final]
  cases after.pending with
  | nil => exact ⟨[], by rw [List.append_nil]; rfl⟩
  | cons token rest => exact ⟨rest ++ [after.final], by rw [List.append_assoc]; rfl⟩

end TokenStream

namespace FileRule

variable {script : BodyScript} {kind : FileKind} {state : ParseState}

/-- A file that is read to its end is a form, and its templates are read one after the other. -/
theorem exists_rounds_of_ok {file : SourceFile} {after : ParseState}
    (ran : sourceFile script kind state = .ok file after) :
    ∃ (form : FileForm) (stream : TokenStream), form.tokens = state.tokens.pending ∧
      form.Determines script kind state.tokens.path file ∧
      Rounds (TemplateForm.Round script state.tokens.path form.namespaceName)
        { state with tokens := stream, ids := state.ids.take.2 } form.templates file.templates after := by
  rcases (follows_sourceFile kind).ok ran with ⟨_, _, passes, _, ended, form, stream, rfl, determines, rounds⟩
  refine ⟨form, stream, ?_, determines, rounds⟩
  rw [passes.pending, ended, List.append_nil]

theorem exists_form_of_ok {file : SourceFile} {after : ParseState}
    (ran : sourceFile script kind state = .ok file after) :
    ∃ form : FileForm, form.tokens = state.tokens.pending ∧ form.Determines script kind state.tokens.path file := by
  rcases exists_rounds_of_ok ran with ⟨form, _, same, determines, _⟩
  exact ⟨form, same, determines⟩

/-- A token stops the rule for a file where the automaton has no step for it. -/
theorem exists_stage_of_error {error : SyntaxError} {after : ParseState}
    (ran : sourceFile script kind state = .error error after) :
    ∃ before later stage, state.tokens.toList = before ++ after.tokens.current :: later ∧
      after.tokens.path = state.tokens.path ∧ Stage.start.run (kindsOf before) = some stage ∧ stage ≠ .finished ∧
      stage.step after.tokens.current.kind = none ∧ error = after.tokens.errorHere stage.expectation.text := by
  rcases (follows_sourceFile kind).error ran with ⟨before, stage, passes, reached, notFinished, noStep, same⟩
  rcases TokenStream.exists_toList_eq passes with ⟨later, parts⟩
  exact ⟨before, later, stage, parts, passes.path, reached, notFinished, noStep, same⟩

theorem kindsOf_toList_of_form {stream : TokenStream} {form : FileForm} (same : form.tokens = stream.pending) :
    kindsOf stream.toList ∈ Sentence.file := by
  have ends : kindsOf stream.toList = kindsOf form.tokens ++ [.endOfFile] := by
    rw [TokenStream.toList, kindsOf_append, same, kindsOf, kindsOf, List.map_singleton, stream.final_kind]
  rw [ends]
  exact form.kindsOf_tokens_mem

theorem not_mem_file_of_error {error : SyntaxError} {after : ParseState}
    (ran : sourceFile script kind state = .error error after) : kindsOf state.tokens.toList ∉ Sentence.file := by
  rcases exists_stage_of_error ran with ⟨before, later, stage, parts, _, reached, _, noStep, _⟩
  intro member
  rw [parts, ← List.singleton_append, kindsOf_append, kindsOf_append, ← List.append_assoc] at member
  have viable := (Stage.viable_append_singleton_iff reached).mp ⟨_, member⟩
  rw [noStep] at viable
  cases viable

/-- The error tells of the first token that no sentence has in its place, and
names everything that a sentence can have there. -/
def BlamesFirstMisplaced (stream : TokenStream) (error : SyntaxError) : Prop :=
  ∃ before token later, stream.toList = before ++ token :: later ∧
    Sentence.Viable (kindsOf before) ∧ ¬ Sentence.Viable (kindsOf before ++ [token.kind]) ∧
    error.location = Location.ofSpan stream.path token.span ∧
    if token.kind = .unexpected then error.fault = .unrecognised token.displayText
    else ∃ expected, error.fault = .unexpected token.displayText expected ∧
      forall kind, Expectation.Names expected kind ↔ Sentence.Viable (kindsOf before ++ [kind])

/-- A file that is not accepted fails at the first misplaced token. -/
theorem blamesFirstMisplaced_of_error (script : BodyScript) (kind : FileKind) (state : ParseState)
    {error : SyntaxError} {after : ParseState}
    (ran : sourceFile script kind state = .error error after) : BlamesFirstMisplaced state.tokens error := by
  rcases exists_stage_of_error ran with ⟨before, later, stage, parts, samePath, reached, notFinished, noStep, rfl⟩
  refine ⟨before, after.tokens.current, later, parts, ?_, ?_, ?_, ?_⟩
  · rw [Stage.viable_iff, reached]
    rfl
  · rw [Stage.viable_append_singleton_iff reached, noStep]
    exact Bool.false_ne_true
  · rw [TokenStream.errorHere, TokenStream.locationOf, samePath]
  · split
    · next unrecognised => rw [TokenStream.errorHere, if_pos unrecognised]
    · next expected =>
        refine ⟨stage.expectation.text, by rw [TokenStream.errorHere, if_neg expected], ?_⟩
        intro kind
        rw [Expectation.names_text_iff, Stage.viable_append_singleton_iff reached, Stage.step_isSome_iff notFinished]

/-- A package tag without a name, before it is read. -/
def namelessPackage : ParseState where
  tokens :=
    { path := "nameless.soy"
      pending := Lexeme.tokens .start none
        [⟨.token (.header .package), HeaderTag.package.keyword⟩, ⟨.token .closeCurly, ['\x7d']⟩]
      final := Token.endOfFile ⟨⟨1, 13⟩, 12⟩
      pending_inner := by decide
      final_kind := rfl }
  ids := .empty
  log := .empty .keep
  requests := []

theorem blamesFirstMisplaced_namelessPackage :
    ∃ error after, sourceFile (.always BodyParser.raw) .source namelessPackage = .error error after ∧
      BlamesFirstMisplaced namelessPackage.tokens error :=
  ⟨_, _, rfl, blamesFirstMisplaced_of_error (.always BodyParser.raw) .source namelessPackage rfl⟩

end FileRule

end TemplateFile
