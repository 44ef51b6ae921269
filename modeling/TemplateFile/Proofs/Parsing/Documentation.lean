import TemplateFile.Proofs.Lexical.Documentation
import TemplateFile.Proofs.Parsing.Provenance

namespace TemplateFile

/-!
# The documentation of a tree

The comment that documents a token is found in the gap before the token.  A
template of a tree has the comment of its token, so an author finds it right
before the open tag, with nothing but blanks and other comments between.  What
looks like such a comment inside of a body, of a string or of another comment
is part of a longer lexeme and documents nothing.
-/

/-- What becomes of the documentation comments among the lexemes of a text.  A
lexeme is one if it is written as one, it documents at most one token, and a
token is documented by at most one.  Every token has the text of the comment
that documents it and no other, the end of the file has none, and a template
has what its token has. -/
structure Session.AttachesDocs (path source : String) (occurrences : List Occurrence) (outcome : ParseOutcome) :
    Prop where
  comments : forall occurrence, occurrence ∈ occurrences ->
    (occurrence.lexeme.kind = .docComment ↔ IsDoc occurrence.lexeme.text)
  oneEach : forall comment token other otherToken, Documents occurrences comment token ->
    Documents occurrences other otherToken -> (comment = other ↔ token = otherToken)
  tokens : List.Forall₂ (fun occurrence token => Denotes occurrence token ∧ HasDoc occurrences occurrence token.doc)
    (occurrences.filter Occurrence.isToken) (TokenStream.ofSource path source).pending
  final : (TokenStream.ofSource path source).final.doc = none
  templates : forall file, outcome.file = some file ->
    List.Forall₂ (fun occurrence template => occurrence.lexeme.kind = .token (.template template.kind) ∧
        template.location.first = (Position.after occurrence.before).toPlace ∧
        HasDoc occurrences occurrence template.doc)
      (occurrences.filter Occurrence.isTemplate) file.templates

/-- A template has the documentation, the kind and the place of its token. -/
theorem TemplateForm.Declares.hasDoc {script : BodyScript} {path : String} {namespaceName : Option String}
    {form : TemplateForm} {template : Template} (declares : form.Declares script path namespaceName template)
    {occurrences : List Occurrence} {occurrence : Occurrence} (denotes : Denotes occurrence form.whole.token)
    (hasDoc : HasDoc occurrences occurrence form.whole.token.doc) :
    occurrence.lexeme.kind = .token (.template template.kind) ∧
      template.location.first = (Position.after occurrence.before).toPlace ∧
      HasDoc occurrences occurrence template.doc := by
  refine ⟨?_, ?_, ?_⟩
  · rw [denotes.kind, form.whole.hasKind, declares.sameKind]
  · rw [declares.location, ← denotes.first]
    rfl
  · rw [declares.doc]
    exact hasDoc

/-- Every parse attaches the documentation comments of its text to the tokens
and templates before which they stand. -/
theorem Session.parseFile_attachesDocs (session : Session) (script : BodyScript) (kind : FileKind)
    (path source : String) :
    ∃ lexemes : List Lexeme, (forall other, Lexing source.toList other ↔ other = lexemes) ∧
      AttachesDocs path source (Occurrence.allOf [] lexemes) (session.parseFile script kind path source).1 := by
  have lexing := Lexing.ofText source.toList
  have tokens := (TokenStream.denotes_pending path source).mp (fun _ _ denotes hasDoc => And.intro denotes hasDoc)
    (lexing.forall₂_hasDoc Position.start)
  refine ⟨(Scanner.ofText source.toList).lexemes, fun other => Lexing.iff_lexemes, ?_⟩
  exact {
    comments := fun _ member => (lexing.heads_of_mem member).docComment_iff
    oneEach := fun _ _ _ _ documents otherDocuments => lexing.documents_iff documents otherDocuments
    tokens := tokens
    final := rfl
    templates := by
      intro file tree
      rcases exists_form_of_file tree with ⟨form, same, determines⟩
      rw [← same] at tokens
      apply (determines.forall₂_templates (fun _ _ related => related.1) tokens).imp
      rintro occurrence template ⟨form, ⟨denotes, hasDoc⟩, _, declares⟩
      exact declares.hasDoc denotes hasDoc }

end TemplateFile
