import TemplateFile.Proofs.Lexical.Occurrences
import TemplateFile.Proofs.Parsing.Outcome
import TemplateFile.Proofs.Related

namespace TemplateFile

/-!
# Where a tree comes from

A tree has a form, and the tokens of the form are those of the file.  Each token
denotes a lexeme of the text.  So every part of a tree can be traced back to
the text: here the templates, which come one by one from the template lexemes
in the order in which they stand.
-/

/-! ## The template tokens of a form -/

theorem PackageForm.lacks_template (kind : TemplateKind) (form : PackageForm) : Lacks (.template kind) form.tokens := by
  simp [Lacks, tokens, TokenOf.hasKind]

theorem AttributeForm.lacks_template (kind : TemplateKind) (form : AttributeForm) :
    Lacks (.template kind) form.tokens := by
  simp [Lacks, tokens, TokenOf.hasKind]

theorem NamespaceForm.lacks_template (kind : TemplateKind) (form : NamespaceForm) :
    Lacks (.template kind) form.tokens := by
  have opening : Lacks (.template kind) [form.opening.token, form.name.token] := by
    simp [Lacks, TokenOf.hasKind]
  have closing : Lacks (.template kind) [form.closing.token] := by
    simp [Lacks, TokenOf.hasKind]
  exact (opening.append (.flatMap (AttributeForm.lacks_template kind) _)).append closing

theorem LocalNameForm.lacks_template (kind : TemplateKind) (form : LocalNameForm) :
    Lacks (.template kind) form.tokens := by
  simp [Lacks, tokens, TokenOf.hasKind]

theorem AliasForm.lacks_template (kind : TemplateKind) (form : AliasForm) : Lacks (.template kind) form.tokens := by
  have opening : Lacks (.template kind) [form.opening.token, form.target.token] := by
    simp [Lacks, TokenOf.hasKind]
  have closing : Lacks (.template kind) [form.closing.token] := by
    simp [Lacks, TokenOf.hasKind]
  exact (opening.append (.flatMap (LocalNameForm.lacks_template kind) _)).append closing

namespace FileForm

theorem lacks_template_headTokens (kind : TemplateKind) (form : FileForm) : Lacks (.template kind) form.headTokens :=
  (Lacks.flatMap (PackageForm.lacks_template kind) _).append
    ((Lacks.flatMap (NamespaceForm.lacks_template kind) _).append (.flatMap (AliasForm.lacks_template kind) _))

/-- The template tokens of a form are those of its templates. -/
theorem filter_isTemplate_tokens (form : FileForm) :
    (form.tokens.filter fun token => token.kind.isTemplate) =
      form.templates.map fun template => template.whole.token := by
  have head : (form.headTokens.filter fun token => token.kind.isTemplate) = [] := by
    refine List.filter_eq_nil_iff.mpr fun token member isTemplate => ?_
    unfold TokenKind.isTemplate at isTemplate
    split at isTemplate
    · next kind isKind => exact form.lacks_template_headTokens kind token member isKind
    · cases isTemplate
  have templates : forall forms : List TemplateForm,
      ((forms.flatMap TemplateForm.tokens).filter fun token => token.kind.isTemplate) =
        forms.map fun template => template.whole.token := by
    intro forms
    induction forms with
    | nil => rfl
    | cons first others inductionHypothesis =>
        have here : (first.tokens.filter fun token => token.kind.isTemplate) = [first.whole.token] :=
          List.filter_cons_of_pos (by rw [first.whole.hasKind]; rfl)
        rw [List.flatMap_cons, List.filter_append, inductionHypothesis, here, List.map_cons, List.singleton_append]
  rw [tokens_eq_headTokens_append, List.filter_append, head, templates, List.nil_append]

end FileForm

/-! ## The templates of a tree -/

/-- Whether the lexeme is a template. -/
def Occurrence.isTemplate (occurrence : Occurrence) : Bool :=
  match occurrence.lexeme.kind with
  | .token kind => kind.isTemplate
  | _ => false

theorem Occurrence.isToken_and_isTemplate (occurrence : Occurrence) :
    (occurrence.isToken && occurrence.isTemplate) = occurrence.isTemplate := by
  unfold isToken isTemplate
  cases occurrence.lexeme.kind <;> rfl

theorem Denotes.isTemplate_iff {occurrence : Occurrence} {token : Token} (denotes : Denotes occurrence token) :
    occurrence.isTemplate = true ↔ token.kind.isTemplate = true := by
  rw [Occurrence.isTemplate, denotes.kind]

/-- The templates of a tree come from the template lexemes, in order. -/
theorem FileForm.Determines.forall₂_templates {form : FileForm} {script : BodyScript} {kind : FileKind} {path : String}
    {file : SourceFile} (determines : form.Determines script kind path file) {occurrences : List Occurrence}
    {relates : Occurrence -> Token -> Prop} (denotes : forall occurrence token, relates occurrence token ->
      Denotes occurrence token)
    (tokens : List.Forall₂ relates (occurrences.filter Occurrence.isToken) form.tokens) :
    List.Forall₂ (fun occurrence template => ∃ form : TemplateForm, relates occurrence form.whole.token ∧
        ∃ namespaceName, form.Declares script path namespaceName template)
      (occurrences.filter Occurrence.isTemplate) file.templates := by
  have filtered : List.Forall₂ relates
      ((occurrences.filter Occurrence.isToken).filter Occurrence.isTemplate)
      (form.tokens.filter fun token => token.kind.isTemplate) :=
    List.rel_filter (p := Occurrence.isTemplate) (q := fun token : Token => token.kind.isTemplate)
      (fun occurrence token related => (denotes occurrence token related).isTemplate_iff) tokens
  have same : (fun occurrence : Occurrence => occurrence.isTemplate && occurrence.isToken) = Occurrence.isTemplate :=
    funext fun occurrence => by rw [Bool.and_comm, occurrence.isToken_and_isTemplate]
  rw [List.filter_filter, same, form.filter_isTemplate_tokens, List.forall₂_map_right_iff] at filtered
  apply (forall₂_trans filtered determines.templates).imp
  rintro occurrence template ⟨form, related, declares⟩
  exact ⟨form, related, _, declares⟩

/-- A tree is determined by the form that the file has. -/
theorem Session.exists_form_of_file {session : Session} {script : BodyScript} {kind : FileKind} {path source : String}
    {file : SourceFile} (tree : (session.parseFile script kind path source).1.file = some file) :
    ∃ form : FileForm, form.tokens = (TokenStream.ofSource path source).pending ∧
      form.Determines script kind path file := by
  unfold parseFile at tree
  cases ran : FileRule.sourceFile script kind (ParseState.start session path source) with
  | ok accepted after =>
      rw [ran] at tree
      cases tree
      exact FileRule.exists_form_of_ok ran
  | error error after =>
      rw [ran] at tree
      cases tree

end TemplateFile
