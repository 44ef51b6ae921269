import TemplateFile.Proofs.Body.LastPlace
import TemplateFile.Proofs.Lexical.Spans
import TemplateFile.Proofs.Lexical.TemplateParts
import TemplateFile.Proofs.Parsing.Provenance
import TemplateFile.Proofs.Tree.RawText

namespace TemplateFile

/-!
# The locations in a tree

The namespace, the aliases and the templates of a tree have been read from
sections of the token stream, one after the other, and each has the location
from the first token of its section to the last one.  So the locations are in
the order of the text and do not overlap.

A raw text begins where its template does, because nothing else is known to the
body parser, and it ends inside of the template.
-/

/-! ## Sections of tokens -/

/-- A location runs from the first to the last one of some tokens. -/
def Delimits (path : String) (tokens : List Token) (location : Location) : Prop :=
  ∃ opening closing, tokens.head? = some opening ∧ tokens.getLast? = some closing ∧
    location = Location.between path opening.span closing.span

namespace Delimits

variable {path : String} {tokens others : List Token} {location other : Location} {text : List Char}

/-- Ordered tokens within a text delimit a stretch of the text. -/
theorem within (delimits : Delimits path tokens location) (sorted : tokens.Pairwise Token.EndsBefore)
    (each : forall token, token ∈ tokens -> token.Within text) : location.Within text := by
  rcases delimits with ⟨opening, closing, isFirst, isLast, rfl⟩
  have openingWithin := each opening (List.mem_of_head? isFirst) path
  have closingWithin := each closing (List.mem_of_getLast? isLast) path
  cases tokens with
  | nil => cases isFirst
  | cons first rest =>
      cases isFirst
      cases rest with
      | nil =>
          cases isLast
          exact openingWithin
      | cons second others =>
          rw [List.getLast?_cons_cons] at isLast
          have ends := (List.pairwise_cons.mp sorted).1 closing (List.mem_of_getLast? isLast)
          exact openingWithin.between closingWithin
            ((openingWithin.ordered.trans ends.le).trans closingWithin.ordered)

/-- The locations of sections that follow each other do not overlap. -/
theorem last_lt_first (delimits : Delimits path tokens location) (otherDelimits : Delimits path others other)
    (apart : forall token, token ∈ tokens -> forall later, later ∈ others -> token.EndsBefore later) :
    location.last < other.first := by
  rcases delimits with ⟨opening, closing, isFirst, isLast, rfl⟩
  rcases otherDelimits with ⟨otherOpening, otherClosing, otherIsFirst, otherIsLast, rfl⟩
  exact apart closing (List.mem_of_getLast? isLast) otherOpening (List.mem_of_head? otherIsFirst)

end Delimits

theorem NamespaceForm.delimits (path : String) (form : NamespaceForm) :
    Delimits path form.tokens (form.declaration path).location :=
  ⟨form.opening.token, form.closing.token, rfl, List.getLast?_concat, rfl⟩

theorem AliasForm.delimits (path : String) (form : AliasForm) :
    Delimits path form.tokens (form.declaration path).location :=
  ⟨form.opening.token, form.closing.token, rfl, List.getLast?_concat, rfl⟩

theorem TemplateForm.Declares.delimits {script : BodyScript} {path : String} {namespaceName : Option String}
    {form : TemplateForm} {template : Template} (declares : form.Declares script path namespaceName template) :
    Delimits path form.tokens template.location :=
  ⟨form.whole.token, form.whole.token, rfl, rfl, declares.location⟩

/-- The locations in a tree, from the namespace to the last template. -/
def SourceFile.locations (file : SourceFile) : List Location :=
  file.namespaceDeclaration.toList.map NamespaceDeclaration.location ++
    (file.aliases.map AliasDeclaration.location ++ file.templates.map Template.location)

namespace FileForm

/-- The sections of a form: the namespace tag, the alias tags and the templates. -/
def sections (form : FileForm) : List (List Token) :=
  form.namespaceTag.toList.map NamespaceForm.tokens ++
    (form.aliases.map AliasForm.tokens ++ form.templates.map TemplateForm.tokens)

theorem tokens_eq_append_sections (form : FileForm) :
    form.tokens = form.package.toList.flatMap PackageForm.tokens ++ form.sections.flatten := by
  rw [tokens, sections, List.flatten_append, List.flatten_append, ← List.flatMap_def, ← List.flatMap_def,
    ← List.flatMap_def]

/-- Each location of a tree is delimited by its section. -/
theorem Determines.forall₂_locations {form : FileForm} {script : BodyScript} {kind : FileKind} {path : String}
    {file : SourceFile} (determines : form.Determines script kind path file) :
    List.Forall₂ (Delimits path) form.sections file.locations := by
  have namespaceTag : List.Forall₂ (Delimits path) (form.namespaceTag.toList.map NamespaceForm.tokens)
      (file.namespaceDeclaration.toList.map NamespaceDeclaration.location) := by
    rw [determines.namespaceDeclaration]
    cases form.namespaceTag with
    | none => exact .nil
    | some tag => exact .cons (tag.delimits path) .nil
  have aliases : List.Forall₂ (Delimits path) (form.aliases.map AliasForm.tokens)
      (file.aliases.map AliasDeclaration.location) := by
    rw [determines.aliases, List.map_map, List.forall₂_map_left_iff, List.forall₂_map_right_iff, List.forall₂_same]
    exact fun tag _ => tag.delimits path
  have templates : List.Forall₂ (Delimits path) (form.templates.map TemplateForm.tokens)
      (file.templates.map Template.location) := by
    rw [List.forall₂_map_left_iff, List.forall₂_map_right_iff]
    exact determines.templates.imp fun _ _ declares => declares.delimits
  exact List.rel_append namespaceTag (List.rel_append aliases templates)

end FileForm

/-! ## Raw texts -/

/-- A raw text stands in its template.  It begins where the template does and
ends no later.  On one line its end is counted from its beginning, and nothing
is ever taken from too small a number.  It ends with the last character of the
body if the body begins on the line of the open tag and ends on a later one. -/
structure RawText.PlacedIn (before openTag body : List Char) (template : Template) (node : RawText) : Prop where
  text : node.text = String.ofList body
  first : node.location.first = template.location.first
  ordered : node.location.first ≤ node.location.last
  inside : node.location.last ≤ template.location.last
  sameLine : '\n' ∉ body -> node.location.last.column + 1 = node.location.first.column + body.length
  exactly : '\n' ∉ openTag -> '\n' ∈ body -> Source.lastLine body ≠ [] ->
    node.location.last = (Position.after (before ++ openTag ++ body.dropLast)).toPlace

/-- A template stands somewhere in a text, and its raw text in it, if it is not empty. -/
structure Template.PlacedIn (source before openTag body : List Char) (template : Template) : Prop where
  stands : ∃ whole after, source = before ++ whole ++ after ∧ TemplateText.Parts template.kind whole openTag body
  first : template.location.first = (Position.after before).toPlace
  content : ∃ content, template.body = some ⟨[], content⟩ ∧ (content = [] ↔ body = []) ∧
    forall node, node ∈ content -> node.PlacedIn before openTag body template

/-- The body parser for raw texts answers with one passage, or with none for an empty body. -/
theorem BodyParser.exists_nodesOf_raw (request : BodyRequest) (ids : IdSupply) :
    ∃ content : List RawText, (ParseState.nodesOf (raw request) ids).1 = some ⟨[], content⟩ ∧
      (content = [] ↔ request.text.toList = []) ∧ forall node, node ∈ content ->
        node.text = request.text ∧ node.location.first = request.start ∧
          node.location.last = lastPlace request.start request.text.toList := by
  refine ⟨(RawText.numberAll (if request.text.isEmpty then [] else
    [⟨request.text, ⟨request.path, request.start, lastPlace request.start request.text.toList⟩⟩]) ids).1, rfl, ?_⟩
  by_cases empty : request.text.isEmpty
  · rw [if_pos empty]
    exact ⟨iff_of_true rfl (String.toList_eq_nil_iff.mpr (String.isEmpty_iff.mp empty)),
      fun node impossible => by cases impossible⟩
  · rw [if_neg empty]
    refine ⟨iff_of_false (List.cons_ne_nil _ _) fun nothing => empty ?_, ?_⟩
    · exact String.isEmpty_iff.mpr (String.toList_eq_nil_iff.mp nothing)
    · intro node member
      rw [List.mem_singleton.mp member]
      exact ⟨rfl, rfl, rfl⟩

/-- The closing tag of a template is on one line. -/
theorem TemplateKind.lineFeed_notMem_closer (kind : TemplateKind) : '\n' ∉ kind.closer.dropLast := by
  cases kind <;> decide

/-- Where the token of a template ends. -/
theorem TemplateText.Parts.last_eq {kind : TemplateKind} {openTag body : List Char} {occurrence : Occurrence}
    {token : Token} (parts : Parts kind occurrence.lexeme.text openTag body) (denotes : Denotes occurrence token) :
    token.span.last = Position.after (occurrence.before ++ (openTag ++ body ++ kind.closer.dropLast)) := by
  rcases denotes.last with ⟨front, final, whole, last⟩
  have sameFront := congrArg List.dropLast (whole.symm.trans parts.parts)
  rw [List.dropLast_concat, List.dropLast_append_of_ne_nil kind.closer_ne_nil] at sameFront
  rw [last, sameFront]

namespace TemplateForm.Declares

variable {path : String} {namespaceName : Option String} {form : TemplateForm} {template : Template}

/-- A template that was made of a token stands where the lexeme of the token does. -/
theorem placedIn (declares : form.Declares (.always BodyParser.raw) path namespaceName template)
    {occurrence : Occurrence} {source : List Char} (denotes : Denotes occurrence form.whole.token)
    (stands : occurrence.before ++ occurrence.lexeme.text ++ occurrence.after = source) :
    ∃ openTag body, template.PlacedIn source occurrence.before openTag body := by
  rcases denotes.exists_parts form.whole.hasKind with ⟨value, openTag, body, parts⟩
  have first : template.location.first = (Position.after occurrence.before).toPlace := by
    rw [declares.location, ← denotes.first]
    rfl
  have last : template.location.last =
      (Position.after (occurrence.before ++ (openTag ++ body ++ form.kind.closer.dropLast))).toPlace := by
    rw [declares.location, ← parts.last_eq denotes]
    rfl
  rcases declares.body with ⟨call, ids, isBody⟩
  rcases BodyParser.exists_nodesOf_raw (form.request path) ids with ⟨content, made, empty_iff, nodes⟩
  have isText : (form.request path).text = String.ofList body := by
    rw [request, value, parts.bodyText_eq]
  have isStart : (form.request path).start = (Position.after occurrence.before).toPlace :=
    congrArg Position.toPlace denotes.first
  rw [isText, isStart, String.toList_ofList] at nodes
  rw [isText, String.toList_ofList] at empty_iff
  refine ⟨openTag, body, ?_⟩
  exact {
    stands := ⟨occurrence.lexeme.text, occurrence.after, stands.symm, declares.sameKind ▸ parts⟩
    first := first
    content := by
      refine ⟨content, isBody.trans made, empty_iff, ?_⟩
      intro node member
      have notEmpty : body ≠ [] := fun nothing => by
        rw [empty_iff.mpr nothing] at member
        cases member
      rcases nodes node member with ⟨text, nodeFirst, nodeLast⟩
      exact {
        text := text
        first := nodeFirst.trans first.symm
        ordered := by
          rw [nodeFirst, nodeLast]
          exact BodyParser.le_lastPlace _ notEmpty
        inside := by
          rw [nodeLast, last]
          exact BodyParser.lastPlace_le _ _ _ form.kind.lineFeed_notMem_closer
        sameLine := by
          intro oneLine
          have positive := List.length_pos_iff.mpr notEmpty
          rw [nodeFirst, nodeLast, BodyParser.lastPlace_of_notMem _ oneLine]
          change _ + _ - 1 + 1 = _
          omega
        exactly := by
          intro oneLine breaks lastLine
          rw [nodeLast]
          exact BodyParser.lastPlace_eq _ oneLine breaks lastLine } }

end TemplateForm.Declares

/-! ## Whole trees -/

/-- The locations of a tree are stretches of its text, in the order of the text
and apart from each other, and its templates stand in the text. -/
structure SourceFile.WellPlaced (source : List Char) (file : SourceFile) : Prop where
  within : forall location, location ∈ file.locations -> location.Within source
  apart : file.locations.Pairwise fun location later => location.last < later.first
  templates : forall template, template ∈ file.templates ->
    ∃ before openTag body, template.PlacedIn source before openTag body

/-- A file with a template on one line and another one over several. -/
def greetingsSource : String :=
  "\x7bnamespace greetings\x7d\n\x7balias names as n\x7d\n\x7btemplate .short\x7dHello!\x7b/template\x7d\n" ++
    "  \x7bdeltemplate long\x7d\nGood\n  morning!\x7b/deltemplate\x7d\n"

end TemplateFile
