import TemplateFile.Proofs.LineEnding.Form
import TemplateFile.Proofs.Parsing.Locations
import TemplateFile.Proofs.Parsing.Outcome
import TemplateFile.Proofs.Related

namespace TemplateFile

/-!
# Line endings do not matter

The grammar looks at the kinds of tokens, and these are the same with carriage
returns.  So a file keeps its extent: with carriage returns the same tokens are
read, and the same one is misplaced, in the same place.  If none is, then the
tree is made of the same form, with carriage returns in the texts that it keeps.
-/

/-! ## The extent of a file -/

theorem kindsOf_map_withReturns (tokens : List Token) : kindsOf (tokens.map Token.withReturns) = kindsOf tokens := by
  rw [kindsOf, List.map_map]
  rfl

namespace TokenStream

variable {path source : String} {before : List Token} {offender : Option Token}

/-- The extent of a file has the same tokens with carriage returns. -/
theorem Extent.withReturns (free : forall kind : TemplateKind, ¬ kind.keyword ++ ['\n', '\x7d'] <:+: source.toList)
    (extent : (ofSource path source).Extent before offender) :
    (ofSource path (Source.withReturns source)).Extent (before.map Token.withReturns)
      (offender.map Token.withReturns) := by
  have tokens := toList_withReturns path free
  cases extent with
  | whole accepted =>
      rw [← pending_withReturns path free]
      refine .whole ?_
      rw [tokens, kindsOf_map_withReturns]
      exact accepted
  | upTo misplaced =>
      rcases misplaced.parts with ⟨later, parts⟩
      refine .upTo { parts := ⟨later.map Token.withReturns, ?_⟩, viable := ?_, notViable := ?_ }
      · rw [tokens, parts, List.map_append, List.map_cons]
      · rw [kindsOf_map_withReturns]
        exact misplaced.viable
      · rw [kindsOf_map_withReturns]
        exact misplaced.notViable

/-- A file without a misplaced token is read to its end. -/
theorem Extent.eq_pending (extent : (ofSource path source).Extent before none) :
    before = (ofSource path source).pending := by
  cases extent with
  | whole accepted => rfl

end TokenStream

/-! ## The templates of a file -/

namespace TemplateForm

theorem ofToken?_withReturns (token : Token) :
    ofToken? token.withReturns = (ofToken? token).map TemplateForm.withReturns := by
  by_cases isTemplate : ∃ kind, token.kind = .template kind
  · rcases isTemplate with ⟨kind, isTemplate⟩
    have found := ofToken?_whole ⟨kind, token, isTemplate⟩
    have foundLater := ofToken?_whole (withReturns ⟨kind, token, isTemplate⟩)
    change ofToken? token = _ at found
    rw [found]
    exact foundLater
  · have notTemplate : token.kind.isTemplate = false := by
      unfold TokenKind.isTemplate
      split
      · next kind same => exact absurd ⟨kind, same⟩ isTemplate
      · rfl
    rw [ofToken?_eq_none notTemplate]
    exact ofToken?_eq_none notTemplate

variable {path : String} {form : TemplateForm}

/-- The body parser is handed the body with carriage returns. -/
theorem request_withReturns (read : form.whole.token.IsRead) :
    form.withReturns.request path = (form.request path).withReturns := by
  rcases read with ⟨occurrence, denotes⟩
  rcases denotes.exists_parts form.whole.hasKind with ⟨value, openTag, body, parts⟩
  rw [← value] at parts
  have text : String.ofList (TemplateText.bodyText (Source.withReturns form.whole.token.value).toList) =
      Source.withReturns (String.ofList (TemplateText.bodyText form.whole.token.value.toList)) := by
    rw [Source.toList_withReturns, parts.bodyText_withReturns, Source.withReturns_ofList]
  change (⟨String.ofList (TemplateText.bodyText (Source.withReturns form.whole.token.value).toList), _, _⟩ :
    BodyRequest) = _
  rw [text]
  rfl

theorem declared_withReturns (namespaceName : Option String) (id : Nat) :
    form.withReturns.declared path namespaceName id = (form.declared path namespaceName id).withReturns := by
  have commandText : String.ofList
        (TemplateText.commandText form.kind (Source.withReturns form.whole.token.value).toList) =
      Source.withReturns (String.ofList (TemplateText.commandText form.kind form.whole.token.value.toList)) := by
    rw [Source.toList_withReturns, TemplateText.commandText_withReturns, Source.withReturns_ofList]
  have location : Location.ofSpan path form.whole.token.withReturns.span = Location.ofSpan path form.whole.token.span :=
    Location.between_withReturns path _ form.whole TokenKind.noConfusion
  change Template.declare id form.kind (String.ofList (TemplateText.commandText form.kind
    (Source.withReturns form.whole.token.value).toList)) (form.whole.token.doc.map Source.withReturns)
      (Location.ofSpan path form.whole.token.withReturns.span) namespaceName = _
  rw [commandText, location, Template.declare, Template.nameIn_withReturns]
  rfl

end TemplateForm

theorem templatesIn_map_withReturns (tokens : List Token) :
    templatesIn (tokens.map Token.withReturns) = (templatesIn tokens).map TemplateForm.withReturns := by
  rw [templatesIn, List.filterMap_map, templatesIn, List.map_filterMap]
  exact List.filterMap_congr fun token _ => TemplateForm.ofToken?_withReturns token

namespace AnsweredForm

variable {path : String} {namespaceName : Option String}

/-- The template of a form with carriage returns, when its body is kept as it is. -/
theorem template_withReturns {form : TemplateForm} (read : form.whole.token.IsRead) (ids : IdSupply) :
    template path namespaceName ⟨form.withReturns, BodyParser.raw (form.withReturns.request path)⟩ ids =
      Prod.map Template.withReturns id
        (template path namespaceName ⟨form, BodyParser.raw (form.request path)⟩ ids) := by
  simp only [template, TemplateForm.request_withReturns read, ParseState.nodesOf_raw_withReturns,
    TemplateForm.declared_withReturns]
  rfl

theorem templates_withReturns {forms : List TemplateForm}
    (read : forall form, form ∈ forms -> form.whole.token.IsRead) (call : Nat) (ids : IdSupply) :
    templates path namespaceName
        (answerAll (.always BodyParser.raw) path call (forms.map TemplateForm.withReturns)) ids =
      Prod.map (List.map Template.withReturns) id
        (templates path namespaceName (answerAll (.always BodyParser.raw) path call forms) ids) := by
  induction forms generalizing call ids with
  | nil => rfl
  | cons form forms inductionHypothesis =>
      have others := inductionHypothesis fun other later => read other (List.mem_cons_of_mem form later)
      have first : template path namespaceName ⟨form.withReturns, _⟩ ids = _ :=
        template_withReturns (read form List.mem_cons_self) ids
      rw [List.map_cons, answerAll_cons, answerAll_cons, templates_cons, templates_cons]
      simp only [BodyScript.always] at others ⊢
      rw [first, others]
      rfl

/-- The body parser for raw texts reports nothing. -/
theorem diagnostics_raw (tips : TipPolicy) {call : Nat} {forms : List TemplateForm} {answered : AnsweredForm}
    (member : answered ∈ answerAll (.always BodyParser.raw) path call forms) :
    answered.diagnostics tips path namespaceName = [] := by
  rcases List.mem_map.mp member with ⟨⟨form, index⟩, _, rfl⟩
  rfl

end AnsweredForm

/-- The templates of a form with carriage returns. -/
theorem FileForm.templatesFrom_withReturns {form : FileForm} (read : forall token, token ∈ form.tokens -> token.IsRead)
    (ids : IdSupply) (path : String) :
    templatesFrom ids (.always BodyParser.raw) path (form.tokens.map Token.withReturns) =
      Prod.map (List.map Template.withReturns) id (templatesFrom ids (.always BodyParser.raw) path form.tokens) := by
  have sameNamespace : namespaceIn (form.tokens.map Token.withReturns) = namespaceIn form.tokens := by
    rw [← form.tokens_withReturns, namespaceIn_tokens, namespaceName_withReturns read, namespaceIn_tokens]
  rw [templatesFrom, answersIn, sameNamespace, templatesIn_map_withReturns]
  exact AnsweredForm.templates_withReturns (fun other listed => read _ (mem_of_mem_templatesIn listed)) 0 _

namespace Session.Course

variable {session next : Session} {kind : FileKind} {path source : String} {before : List Token}
  {offender : Option Token} {outcome : ParseOutcome}

/-- If bodies are kept as they are, only a misplaced token is reported. -/
theorem diagnostics_raw
    (course : session.Course (.always BodyParser.raw) kind path source before offender outcome next) :
    outcome.diagnostics = offender.toList.map (misplacedDiagnostic session.log.tips path before) := by
  have nothing : (answersIn (.always BodyParser.raw) path before).flatMap
      (AnsweredForm.diagnostics session.log.tips path (namespaceIn before)) = [] :=
    List.flatMap_eq_nil_iff.mpr fun answered member => AnsweredForm.diagnostics_raw session.log.tips member
  rw [course.diagnostics, nothing, List.nil_append]

/-- The problem is where the misplaced token begins. -/
theorem places_raw
    (course : session.Course (.always BodyParser.raw) kind path source before offender outcome next) :
    (outcome.diagnostics.map fun diagnostic => diagnostic.location.first) =
      offender.toList.map fun token => token.span.first.toPlace := by
  rw [course.diagnostics_raw, List.map_map]
  rfl

theorem failed_raw
    (course : session.Course (.always BodyParser.raw) kind path source before offender outcome next) :
    outcome.failed = offender.isSome := by
  rw [course.failed, course.diagnostics_raw]
  cases offender <;> rfl

/-- With carriage returns a parse makes the tree with carriage returns. -/
theorem file_withReturns {other : Session} {returned : ParseOutcome}
    (course : session.Course (.always BodyParser.raw) kind path source before offender outcome next)
    (extent : (TokenStream.ofSource path source).Extent before offender)
    (later : session.Course (.always BodyParser.raw) kind path (Source.withReturns source)
      (before.map Token.withReturns) (offender.map Token.withReturns) returned other) :
    returned.file = outcome.file.map SourceFile.withReturns := by
  cases offender with
  | some token => rw [later.noTree rfl, course.noTree rfl, Option.map_none]
  | none =>
      rcases course.tree rfl with ⟨form, isForm, tree⟩
      rcases later.tree rfl with ⟨otherForm, isOther, otherTree⟩
      have read : forall token, token ∈ form.tokens -> token.IsRead := by
        rw [isForm, extent.eq_pending]
        exact fun token member => TokenStream.isRead_of_mem_pending member
      -- A file has only one form, so this is the one with carriage returns.
      have sameForm : otherForm = form.withReturns := by
        apply FileForm.tokens_injective
        rw [isOther, form.tokens_withReturns, isForm]
      have templates := FileForm.templatesFrom_withReturns read session.ids path
      rw [isForm] at templates
      rw [tree, otherTree, sameForm, course.templatesRead_eq, later.templatesRead_eq, templates]
      exact congrArg some (FileForm.tree_withReturns read kind path session.ids.next _)

end Session.Course

/-! ## Two parses of a file -/

/-- Two parses say the same of a file without and with carriage returns: they
fail together, they report problems in the same places, and the second tree is
the first one with carriage returns in its texts. -/
structure ParseOutcome.SameWithReturns (outcome returned : ParseOutcome) : Prop where
  failed : returned.failed = outcome.failed
  places : (returned.diagnostics.map fun diagnostic => diagnostic.location.first) =
    outcome.diagnostics.map fun diagnostic => diagnostic.location.first
  file : returned.file = outcome.file.map SourceFile.withReturns
  names : (returned.file.map fun file => file.templates.map Template.name) =
    outcome.file.map fun file => file.templates.map Template.name

/-- Carriage returns before its line feeds change neither the tokens of a file
nor what a parse makes of them, unless a line feed is all that stands in an
open tag after the keyword. -/
theorem Session.parseFile_withReturns (session : Session) (kind : FileKind) (path : String) {source : String}
    (free : forall kind : TemplateKind, ¬ kind.keyword ++ ['\n', '\x7d'] <:+: source.toList) :
    (TokenStream.ofSource path (Source.withReturns source)).toList =
        (TokenStream.ofSource path source).toList.map Token.withReturns ∧
      (session.parseFile (.always BodyParser.raw) kind path source).1.SameWithReturns
        (session.parseFile (.always BodyParser.raw) kind path (Source.withReturns source)).1 := by
  rcases session.exists_course (.always BodyParser.raw) kind path source with ⟨before, offender, extent, course⟩
  rcases session.exists_course (.always BodyParser.raw) kind path (Source.withReturns source) with
    ⟨_, _, otherExtent, later⟩
  rcases otherExtent.unique (extent.withReturns free) with ⟨rfl, rfl⟩
  have file := course.file_withReturns extent later
  refine ⟨TokenStream.toList_withReturns path free, ?_⟩
  exact {
    failed := by rw [later.failed_raw, course.failed_raw, Option.isSome_map]
    places := by
      rw [later.places_raw, course.places_raw]
      cases offender <;> rfl
    file := file
    names := by rw [file, SourceFile.map_names_withReturns] }

theorem Session.parseFile_withReturns_greetings :
    (forall kind : TemplateKind, ¬ kind.keyword ++ ['\n', '\x7d'] <:+: greetingsSource.toList) ∧
      ∃ file, (Session.start.parseFile (.always BodyParser.raw) .source "greetings.soy"
            (Source.withReturns greetingsSource)).1.file = some file ∧
        (file.templates.map fun template => template.body.map Body.passages) =
          [some ⟨[], [⟨"Hello!", ⟨"greetings.soy", ⟨3, 1⟩, ⟨3, 6⟩⟩⟩]⟩,
            some ⟨[], [⟨"\r\nGood\r\n  morning!", ⟨"greetings.soy", ⟨4, 3⟩, ⟨6, 10⟩⟩⟩]⟩] := by
  have free : forall kind : TemplateKind, ¬ kind.keyword ++ ['\n', '\x7d'] <:+: greetingsSource.toList := by
    intro kind
    cases kind <;> decide +kernel
  have read : ((Session.start.parseFile (.always BodyParser.raw) .source "greetings.soy" greetingsSource).1.file.map
      SourceFile.withReturns).map (fun file => file.templates.map fun template => template.body.map Body.passages) =
        some [some ⟨[], [⟨"Hello!", ⟨"greetings.soy", ⟨3, 1⟩, ⟨3, 6⟩⟩⟩]⟩,
          some ⟨[], [⟨"\r\nGood\r\n  morning!", ⟨"greetings.soy", ⟨4, 3⟩, ⟨6, 10⟩⟩⟩]⟩] := by
    decide +kernel
  rw [← (parseFile_withReturns Session.start .source "greetings.soy" free).2.file] at read
  rcases Option.map_eq_some_iff.mp read with ⟨file, tree, bodies⟩
  exact ⟨free, file, tree, bodies⟩

end TemplateFile
