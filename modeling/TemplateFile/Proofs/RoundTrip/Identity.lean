import TemplateFile.Proofs.Grammar.Acceptance
import TemplateFile.Proofs.RoundTrip.Parts
import TemplateFile.Proofs.RoundTrip.Printing

namespace TemplateFile

open Computability

/-!
# Parsing gives the outline back

The tokens of a written outline are those of a form, and a file has only one
form, so the tree says what the outline says.  No body parser has a part in
this except for the bodies: each of them is handed out as it was written, and
the body parser that keeps the whole text gives it back.
-/

/-! ## What a tree says of its form -/

namespace TemplateForm.Declares

variable {script : BodyScript} {path : String} {namespaceName : Option String} {form : TemplateForm}
  {template : Template}

theorem withoutBody_eq (declares : form.Declares script path namespaceName template) :
    template.outline.withoutBody = form.outline.withoutBody := by
  simp only [TemplateOutline.withoutBody, Template.outline, TemplateForm.outline, declares.sameKind,
    declares.commandText, declares.doc]

theorem outline_eq (declares : form.Declares script path namespaceName template)
    (body : bodyTextOf template.body = (form.request path).text) : template.outline = form.outline := by
  simp only [Template.outline, TemplateForm.outline, declares.sameKind, declares.commandText, declares.doc, body]
  rfl

end TemplateForm.Declares

namespace FileForm.Determines

variable {script : BodyScript} {kind : FileKind} {path : String} {form : FileForm} {file : SourceFile}

theorem exists_declares (determines : form.Determines script kind path file) {template : Template}
    (member : template ∈ file.templates) :
    ∃ part, TemplateForm.Declares script path form.namespaceName part template := by
  rcases List.mem_iff_get.mp member with ⟨⟨index, bound⟩, rfl⟩
  exact ⟨_, determines.templates.get (determines.templates.length_eq ▸ bound) bound⟩

theorem map_templates_eq (determines : form.Determines script kind path file)
    {view : TemplateOutline -> TemplateOutline}
    (same : forall part template, TemplateForm.Declares script path form.namespaceName part template ->
      view template.outline = view part.outline) :
    file.outline.templates.map view = form.outline.templates.map view := by
  have templates := determines.templates
  simp only [SourceFile.outline, FileForm.outline, List.map_map]
  generalize form.templates = parts at templates
  generalize file.templates = trees at templates
  induction templates with
  | nil => rfl
  | cons declares others inductionHypothesis =>
      rw [List.map_cons, List.map_cons, inductionHypothesis]
      exact congrArg (fun first => first :: _) (same _ _ declares)

/-- The tree and its form say the same of everything but the templates. -/
theorem withTemplates_eq (determines : form.Determines script kind path file) (templates : List TemplateOutline) :
    { file.outline with templates := templates } = { form.outline with templates := templates } := by
  simp only [SourceFile.outline, FileForm.outline, determines.delegatePackage, determines.namespaceDeclaration,
    determines.aliases, Option.map_map, List.map_map]
  rfl

theorem withoutBodies_eq (determines : form.Determines script kind path file) :
    file.outline.withoutBodies = form.outline.withoutBodies := by
  have templates := determines.map_templates_eq fun _ _ declares => declares.withoutBody_eq
  calc file.outline.withoutBodies
      _ = { file.outline with templates := form.outline.templates.map TemplateOutline.withoutBody } := by
        rw [← templates]
        rfl
      _ = form.outline.withoutBodies := determines.withTemplates_eq _

/-- They say the same if the bodies keep their text. -/
theorem outline_eq (determines : form.Determines script kind path file)
    (kept : forall call request ids, bodyTextOf (ParseState.nodesOf (script call request) ids).1 = request.text) :
    file.outline = form.outline := by
  have same : forall part template, TemplateForm.Declares script path form.namespaceName part template ->
      id template.outline = id part.outline := by
    intro part template declares
    rcases declares.body with ⟨call, ids, body⟩
    exact declares.outline_eq (by rw [body, kept])
  have templates : file.outline.templates = form.outline.templates := by
    simpa only [List.map_id] using determines.map_templates_eq same
  calc file.outline
      _ = { file.outline with templates := form.outline.templates } := by
        rw [← templates]
      _ = form.outline := determines.withTemplates_eq _

end FileForm.Determines

/-! ## Body parsers that do not complain -/

/-- Every body is parsed, and nothing is reported. -/
def BodyScript.Quiet (script : BodyScript) : Prop :=
  forall call request, ∃ body, script call request = ⟨[], .ok body⟩

namespace BodyScript.Quiet

variable {script : BodyScript}

theorem reportsOf_eq_nil (quiet : script.Quiet) (call : Nat) (request : BodyRequest) (template : Template) :
    ParseState.reportsOf request template (script call request) = [] := by
  rcases quiet call request with ⟨body, answer⟩
  rw [answer]
  rfl

theorem isParsed (quiet : script.Quiet) {path : String} {namespaceName : Option String} {form : TemplateForm}
    {template : Template} (declares : form.Declares script path namespaceName template) : template.isParsed = true := by
  rcases declares.body with ⟨call, ids, body⟩
  rcases quiet call (form.request path) with ⟨parsed, answer⟩
  rw [answer] at body
  rw [Template.isParsed, body]
  rfl

end BodyScript.Quiet

namespace BodyParser

theorem quiet_raw : (BodyScript.always raw).Quiet := fun _ _ => ⟨_, rfl⟩

/-- The text of a body is kept. -/
theorem bodyTextOf_raw (request : BodyRequest) (ids : IdSupply) :
    bodyTextOf (ParseState.nodesOf (raw request) ids).1 = request.text := by
  cases empty : request.text.isEmpty with
  | true =>
      have noText : request.text = "" := String.isEmpty_iff.mp empty
      rw [raw, noText]
      rfl
  | false =>
      simp only [raw, empty, Bool.false_eq_true, if_false, ParseState.nodesOf, Body.number, RawText.numberAll,
        bodyTextOf, List.nil_append, List.map_cons, List.map_nil, String.join_cons, String.join_nil,
        String.append_empty]

end BodyParser

/-! ## The round trip -/

/-- What a parse gives back of an outline: nothing is wrong, the tree says the
same, and the bodies have been handed out as they are. -/
structure Outline.RecoveredBy (outline : Outline) (outcome : ParseOutcome) (file : SourceFile) : Prop where
  tree : outcome.result = some file
  diagnostics : outcome.diagnostics = []
  sameOutline : file.outline.withoutBodies = outline.withoutBodies
  bodies : outcome.requests.map BodyRequest.text = outline.templates.map TemplateOutline.body
  parsed : forall template, template ∈ file.templates -> template.isParsed = true

section

variable {outline : Outline} {source : String} {script : BodyScript} {kind : FileKind} {state after : ParseState}
  {form : FileForm} {file : SourceFile} {session : Session} {path : String}

/-- The tokens of a form are accepted. -/
theorem FileForm.exists_ok_of_tokens_eq (same : form.tokens = state.tokens.pending) (script : BodyScript)
    (kind : FileKind) : ∃ file after, FileRule.sourceFile script kind state = .ok file after := by
  cases ran : FileRule.sourceFile script kind state with
  | ok file after => exact ⟨file, after, rfl⟩
  | error error after => exact absurd (FileRule.kindsOf_toList_of_form same) (FileRule.not_mem_file_of_error ran)

/-- What is read from the tokens of a form is what this form determines. -/
theorem FileForm.rounds_of_tokens_eq (same : form.tokens = state.tokens.pending)
    (ran : FileRule.sourceFile script kind state = .ok file after) :
    form.Determines script kind state.tokens.path file ∧ ∃ stream,
      Rounds (TemplateForm.Round script state.tokens.path form.namespaceName)
        { state with tokens := stream, ids := state.ids.take.2 } form.templates file.templates after := by
  rcases FileRule.exists_rounds_of_ok ran with ⟨other, stream, otherSame, determines, rounds⟩
  rw [FileForm.tokens_injective (otherSame.trans same.symm)] at determines rounds
  exact ⟨determines, stream, rounds⟩

/-- A form is parsed without complaints. -/
theorem FileForm.exists_recoveredBy (same : form.tokens = (ParseState.start session path source).tokens.pending)
    (quiet : script.Quiet) :
    ∃ file, form.outline.RecoveredBy (session.parseFile script kind path source).1 file ∧
      form.Determines script kind path file := by
  rcases FileForm.exists_ok_of_tokens_eq same script kind with ⟨file, after, ran⟩
  rcases FileForm.rounds_of_tokens_eq same ran with ⟨determines, stream, rounds⟩
  have log : after.log = session.log := rounds.log_eq quiet.reportsOf_eq_nil
  have requests : after.requests = form.templates.map (TemplateForm.request path) := rounds.requests_eq
  have outcome : (session.parseFile script kind path source).1 = ⟨some file, false, [], after.requests⟩ := by
    simp only [Session.parseFile, ran, log, Log.hasErrorsSince, Log.since, Log.checkpoint, Log.size, Nat.lt_irrefl,
      decide_false, List.drop_length]
  refine ⟨file, ?_, determines⟩
  rw [outcome]
  refine ⟨rfl, rfl, determines.withoutBodies_eq, ?_, ?_⟩
  · rw [requests, List.map_map, FileForm.outline, List.map_map]
    rfl
  · intro template member
    rcases determines.exists_declares member with ⟨part, declares⟩
    exact quiet.isParsed declares

/-- Parsing gives a written outline back: the whole tree except for the bodies,
whatever parses these, and the bodies as well if their text is kept. -/
theorem parseFile_recovers (writable : outline.Writable) (written : source.toList ∈ Written.file outline)
    (session : Session) (kind : FileKind) (path : String) :
    (forall script : BodyScript, script.Quiet ->
      ∃ file, outline.RecoveredBy (session.parseFile script kind path source).1 file) ∧
    ∃ file, outline.RecoveredBy (session.parseFile (.always BodyParser.raw) kind path source).1 file ∧
      file.outline = outline := by
  rcases exists_form_of_mem_file writable written Position.start with ⟨form, rfl, same⟩
  have tokens : form.tokens = (ParseState.start session path source).tokens.pending := same.symm
  constructor
  · intro script quiet
    rcases FileForm.exists_recoveredBy tokens quiet with ⟨file, recovered, _⟩
    exact ⟨file, recovered⟩
  · rcases FileForm.exists_recoveredBy tokens BodyParser.quiet_raw with ⟨file, recovered, determines⟩
    exact ⟨file, recovered, determines.outline_eq fun _ => BodyParser.bodyTextOf_raw⟩

end

/-! ## A small file -/

theorem isName_of_all {first : Char} {others : List Char} (start : DottedName.isStart first = true)
    (parts : others.all DottedName.isPart = true) (free : TokenKind.reserved? (first :: others) = none) :
    IsName (String.ofList (first :: others)) := by
  have plain := Language.append_mem_mul (LexicalRule.mem_segment_of_all start parts)
    (Language.nil_mem_kstar ({['.']} * LexicalRule.segment))
  rw [List.append_nil] at plain
  refine ⟨?_, ?_, ?_⟩
  all_goals rw [String.toList_ofList]
  · exact plain
  · intro key same
    rw [same] at free
    revert free
    cases key <;> decide
  · intro same
    rw [same] at free
    revert free
    decide

/-- A package, a namespace, an alias and a documented template. -/
def Outline.greeting : Outline where
  delegatePackage := some "late"
  namespaceTag := some ⟨"greeting", [⟨"autoescape", "strict"⟩]⟩
  aliases := [⟨"names", some "n"⟩]
  templates := [⟨.basic, ".hello", some "/** Says hello. */", "Hello!"⟩]

theorem Outline.greeting_writable : Outline.greeting.Writable where
  delegatePackage := by
    rintro _ ⟨⟩
    exact isName_of_all (by decide) (by decide) (by decide)
  namespaceTag := by
    rintro _ ⟨⟩
    refine ⟨isName_of_all (by decide) (by decide) (by decide), ?_, ?_⟩
    all_goals
      intro entry member
      rw [List.mem_singleton.mp member]
    · exact ⟨.autoescape, by decide⟩
    · decide
  aliases := by
    intro entry member
    rw [List.mem_singleton.mp member]
    refine ⟨isName_of_all (by decide) (by decide) (by decide), ?_⟩
    rintro _ ⟨⟩
    exact isName_of_all (by decide) (by decide) (by decide)
  templates := by
    intro entry member
    rw [List.mem_singleton.mp member]
    refine ⟨by decide, by decide, ?_, ?_, by decide, ?_⟩
    · rintro _ ⟨⟩
      decide
    · rintro _ ⟨⟩
      decide
    · rintro _ ⟨⟩
      exact ⟨" Says hello. ".toList, by decide, by decide, Text.cutAt?_eq_some_iff.mp (by decide)⟩

/-- The small file with a comment of each kind between its parts. -/
def greetingSource : String :=
  "// A small file.\n\x7bdelpackage late\x7d\n\x7bnamespace greeting autoescape=\"strict\"\x7d\n" ++
    "\x7balias names as n\x7d\n/** Says hello. *//* Kindly. */\x7btemplate .hello\x7dHello!\x7b/template\x7d\n"

theorem greetingSource_written : greetingSource.toList ∈ Written.file Outline.greeting := by
  have writable := Outline.greeting_writable
  have remark : ['/', '/'] ++ (" A small file.".toList ++ ['\n']) ∈ Written.gap := by
    have oneLine : " A small file.".toList ∈ LexicalRule.anyOf fun character => character != '\n' :=
      LexicalRule.mem_anyOf_iff.mpr (List.all_eq_true.mp (by decide))
    exact Printed.mem_gap_of_piece (Or.inr (Or.inl (Language.append_mem_mul rfl (Language.append_mem_mul oneLine rfl))))
  have kindly : ['/', '*'] ++ " Kindly. ".toList ++ ['*', '/'] ∈ Written.gap :=
    Printed.mem_gap_of_piece (Or.inr (Or.inr
      ⟨" Kindly. ".toList, rfl, by decide, Text.cutAt?_eq_some_iff.mp (by decide)⟩))
  have package := Printed.line_mem (Printed.packageTag_mem (writable.delegatePackage "late" rfl))
  have namespaceTag := Printed.line_mem (Printed.namespaceTag_mem (writable.namespaceTag _ rfl))
  have aliases := Printed.mem_all fun entry listed =>
    Printed.line_mem (Printed.aliasTag_mem (writable.aliases entry listed))
  have doc : "/** Says hello. */".toList ∈ ({"/** Says hello. */".toList} : Language Char) := rfl
  have template := Printed.line_mem (Language.append_mem_mul (Language.append_mem_mul doc kindly)
    (Printed.templateTags_mem ⟨.basic, ".hello", some "/** Says hello. */", "Hello!"⟩))
  have written := Language.append_mem_mul remark (Language.append_mem_mul package (Language.append_mem_mul namespaceTag
    (Language.append_mem_mul aliases (Language.append_mem_mul template Language.nil_mem_one))))
  refine cast (congrArg (fun text => text ∈ Written.file Outline.greeting) ?_) written
  decide +kernel

theorem parseFile_recovers_greeting :
    Outline.greeting.Writable ∧ greetingSource.toList ∈ Written.file Outline.greeting ∧
      ∃ file, Outline.greeting.RecoveredBy
        (Session.start.parseFile (.always BodyParser.raw) .source "greeting.soy" greetingSource).1 file ∧
          file.outline = Outline.greeting :=
  ⟨Outline.greeting_writable, greetingSource_written,
    (parseFile_recovers Outline.greeting_writable greetingSource_written Session.start .source "greeting.soy").2⟩

end TemplateFile
