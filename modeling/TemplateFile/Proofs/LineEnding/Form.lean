import TemplateFile.Proofs.Lexical.Occurrences
import TemplateFile.Proofs.LineEnding.Tree
import TemplateFile.Proofs.Parsing.Course

namespace TemplateFile

/-!
# Line endings and the form of a file

The form of a file gives every token its part, and a token with carriage
returns can play the same part.  What the head of a tree takes from a form are
names, which have no line endings, the values of attributes, and places.
-/

/-! ## What tokens contribute to a tree -/

namespace Token.IsRead

variable {token : Token}

/-- A name has no line endings. -/
theorem value_of_name (read : token.IsRead) (isName : token.kind = .name) :
    Source.withReturns token.value = token.value := by
  rcases read with ⟨occurrence, denotes⟩
  have value := denotes.value
  rw [isName] at value
  change token.value.toList = _ at value
  apply Source.withReturns_of_notMem
  rw [value]
  exact fun member => absurd (List.mem_filter.mp member).2 (by decide)

/-- Neither has a reserved word. -/
theorem value_of_attributeKey (read : token.IsRead) {key : AttributeKey} (isKey : token.kind = .attributeKey key) :
    Source.withReturns token.value = token.value := by
  apply Source.withReturns_of_notMem
  rw [read.eq_word isKey, String.toList_ofList]
  cases key <;> decide

end Token.IsRead

/-- Only the end of an unexpected token may move. -/
theorem Location.between_withReturns (path : String) (opening : Token) {kind : TokenKind} (closing : TokenOf kind)
    (expected : kind ≠ .unexpected) :
    between path opening.withReturns.span closing.token.withReturns.span =
      between path opening.span closing.token.span := by
  have stays : ¬ closing.token.EndsInFeed := fun ends => expected (closing.hasKind.symm.trans ends.1)
  rw [Token.withReturns, Token.withReturns, if_neg stays]
  rfl

/-! ## Forms with carriage returns -/

def TokenOf.withReturns {kind : TokenKind} (token : TokenOf kind) : TokenOf kind :=
  ⟨token.token.withReturns, token.hasKind⟩

def PackageForm.withReturns (form : PackageForm) : PackageForm where
  opening := form.opening.withReturns
  name := form.name.withReturns
  closing := form.closing.withReturns

def AttributeForm.withReturns (form : AttributeForm) : AttributeForm where
  keyword := form.keyword
  key := form.key.withReturns
  equals := form.equals.withReturns
  value := form.value.withReturns

def NamespaceForm.withReturns (form : NamespaceForm) : NamespaceForm where
  opening := form.opening.withReturns
  name := form.name.withReturns
  attributes := form.attributes.map AttributeForm.withReturns
  closing := form.closing.withReturns

def LocalNameForm.withReturns (form : LocalNameForm) : LocalNameForm where
  asWord := form.asWord.withReturns
  name := form.name.withReturns

def AliasForm.withReturns (form : AliasForm) : AliasForm where
  opening := form.opening.withReturns
  target := form.target.withReturns
  localName := form.localName.map LocalNameForm.withReturns
  closing := form.closing.withReturns

def TemplateForm.withReturns (form : TemplateForm) : TemplateForm where
  kind := form.kind
  whole := form.whole.withReturns

def FileForm.withReturns (form : FileForm) : FileForm where
  package := form.package.map PackageForm.withReturns
  namespaceTag := form.namespaceTag.map NamespaceForm.withReturns
  aliases := form.aliases.map AliasForm.withReturns
  templates := form.templates.map TemplateForm.withReturns

theorem flatMap_tokens_withReturns {Form : Type} {tokensOf : Form -> List Token} {change : Form -> Form}
    (each : forall form, tokensOf (change form) = (tokensOf form).map Token.withReturns) (forms : List Form) :
    (forms.map change).flatMap tokensOf = (forms.flatMap tokensOf).map Token.withReturns := by
  rw [List.flatMap_map, List.map_flatMap]
  exact congrArg (fun tokens => forms.flatMap tokens) (funext each)

theorem toList_tokens_withReturns {Form : Type} {tokensOf : Form -> List Token} {change : Form -> Form}
    (each : forall form, tokensOf (change form) = (tokensOf form).map Token.withReturns) (form : Option Form) :
    (form.map change).toList.flatMap tokensOf = (form.toList.flatMap tokensOf).map Token.withReturns := by
  rw [← flatMap_tokens_withReturns each form.toList]
  cases form <;> rfl

theorem PackageForm.tokens_withReturns (form : PackageForm) :
    form.withReturns.tokens = form.tokens.map Token.withReturns := rfl

theorem AttributeForm.tokens_withReturns (form : AttributeForm) :
    form.withReturns.tokens = form.tokens.map Token.withReturns := rfl

theorem NamespaceForm.tokens_withReturns (form : NamespaceForm) :
    form.withReturns.tokens = form.tokens.map Token.withReturns := by
  have attributes := flatMap_tokens_withReturns AttributeForm.tokens_withReturns form.attributes
  rw [tokens, tokens, List.map_append, List.map_cons, List.map_cons, ← attributes]
  rfl

theorem LocalNameForm.tokens_withReturns (form : LocalNameForm) :
    form.withReturns.tokens = form.tokens.map Token.withReturns := rfl

theorem AliasForm.tokens_withReturns (form : AliasForm) :
    form.withReturns.tokens = form.tokens.map Token.withReturns := by
  have localName := toList_tokens_withReturns LocalNameForm.tokens_withReturns form.localName
  rw [tokens, tokens, List.map_append, List.map_cons, List.map_cons, ← localName]
  rfl

theorem TemplateForm.tokens_withReturns (form : TemplateForm) :
    form.withReturns.tokens = form.tokens.map Token.withReturns := rfl

theorem FileForm.tokens_withReturns (form : FileForm) :
    form.withReturns.tokens = form.tokens.map Token.withReturns := by
  rw [tokens, tokens, List.map_append, List.map_append, List.map_append,
    ← toList_tokens_withReturns PackageForm.tokens_withReturns,
    ← toList_tokens_withReturns NamespaceForm.tokens_withReturns,
    ← flatMap_tokens_withReturns AliasForm.tokens_withReturns,
    ← flatMap_tokens_withReturns TemplateForm.tokens_withReturns]
  rfl

/-! ## The head of a tree -/

section

variable {path : String}

theorem AttributeForm.toAttribute_withReturns {form : AttributeForm}
    (read : forall token, token ∈ form.tokens -> token.IsRead) :
    form.withReturns.toAttribute = form.toAttribute.withReturns := by
  have key := (read form.key.token List.mem_cons_self).value_of_attributeKey form.key.hasKind
  change (⟨Source.withReturns form.key.token.value, _⟩ : Attribute) = _
  rw [key]
  rfl

theorem NamespaceForm.declaration_withReturns {form : NamespaceForm}
    (read : forall token, token ∈ form.tokens -> token.IsRead) :
    form.withReturns.declaration path = (form.declaration path).withReturns := by
  have name := (read form.name.token (List.mem_cons_of_mem _ List.mem_cons_self)).value_of_name form.name.hasKind
  have attributes : (form.attributes.map AttributeForm.withReturns).map AttributeForm.toAttribute =
      (form.attributes.map AttributeForm.toAttribute).map Attribute.withReturns := by
    rw [List.map_map, List.map_map]
    refine List.map_congr_left fun entry listed => AttributeForm.toAttribute_withReturns fun token inEntry => ?_
    refine read token (List.mem_append_left _ ?_)
    exact List.mem_cons_of_mem _ (List.mem_cons_of_mem _ (List.mem_flatMap.mpr ⟨entry, listed, inEntry⟩))
  change (⟨Source.withReturns form.name.token.value, (form.attributes.map AttributeForm.withReturns).map
    AttributeForm.toAttribute, Location.between path form.opening.token.withReturns.span
      form.closing.token.withReturns.span⟩ : NamespaceDeclaration) = _
  rw [name, attributes, Location.between_withReturns path _ form.closing TokenKind.noConfusion]
  rfl

theorem AliasForm.declaration_withReturns {form : AliasForm}
    (read : forall token, token ∈ form.tokens -> token.IsRead) :
    form.withReturns.declaration path = form.declaration path := by
  have target := (read form.target.token (List.mem_cons_of_mem _ List.mem_cons_self)).value_of_name form.target.hasKind
  have localName : ((form.localName.map LocalNameForm.withReturns).map fun localName => localName.name.token.value) =
      form.localName.map fun localName => localName.name.token.value := by
    rw [Option.map_map]
    cases isLocal : form.localName with
    | none => rfl
    | some localName =>
        have member : localName.name.token ∈ form.tokens := by
          rw [tokens, isLocal]
          exact List.mem_append_left _ (List.mem_cons_of_mem _ (List.mem_cons_of_mem _
            (List.mem_cons_of_mem _ List.mem_cons_self)))
        exact congrArg some ((read _ member).value_of_name localName.name.hasKind)
  change (⟨Source.withReturns form.target.token.value, (form.localName.map LocalNameForm.withReturns).map
    (fun localName => localName.name.token.value), Location.between path form.opening.token.withReturns.span
      form.closing.token.withReturns.span⟩ : AliasDeclaration) = _
  rw [target, localName, Location.between_withReturns path _ form.closing TokenKind.noConfusion]
  rfl

namespace FileForm

variable {form : FileForm}

theorem packageName_withReturns (read : forall token, token ∈ form.tokens -> token.IsRead) :
    (form.withReturns.package.map fun tag => tag.name.token.value) =
      form.package.map fun tag => tag.name.token.value := by
  rw [withReturns, Option.map_map]
  cases isPackage : form.package with
  | none => rfl
  | some tag =>
      have member : tag.name.token ∈ form.tokens := by
        rw [tokens, isPackage]
        exact List.mem_append_left _ (List.mem_cons_of_mem _ List.mem_cons_self)
      exact congrArg some ((read _ member).value_of_name tag.name.hasKind)

theorem namespaceTag_withReturns (path : String) (read : forall token, token ∈ form.tokens -> token.IsRead) :
    form.withReturns.namespaceTag.map (NamespaceForm.declaration path) =
      (form.namespaceTag.map (NamespaceForm.declaration path)).map NamespaceDeclaration.withReturns := by
  rw [withReturns, Option.map_map, Option.map_map]
  cases isTag : form.namespaceTag with
  | none => rfl
  | some tag =>
      refine congrArg some (NamespaceForm.declaration_withReturns fun token inTag => read token ?_)
      rw [tokens, isTag, Option.toList_some, List.flatMap_singleton]
      exact List.mem_append_right _ (List.mem_append_left _ inTag)

theorem aliases_withReturns (read : forall token, token ∈ form.tokens -> token.IsRead) :
    form.withReturns.aliases.map (AliasForm.declaration path) = form.aliases.map (AliasForm.declaration path) := by
  rw [withReturns, List.map_map]
  refine List.map_congr_left fun tag listed => AliasForm.declaration_withReturns fun token inTag => read token ?_
  exact List.mem_append_right _ (List.mem_append_right _
    (List.mem_append_left _ (List.mem_flatMap.mpr ⟨tag, listed, inTag⟩)))

/-- The tree of a form with carriage returns. -/
theorem tree_withReturns (read : forall token, token ∈ form.tokens -> token.IsRead) (kind : FileKind) (path : String)
    (id : Nat) (templates : List Template) :
    form.withReturns.tree kind path id (templates.map Template.withReturns) =
      (form.tree kind path id templates).withReturns := by
  change (⟨id, path, kind, form.withReturns.package.map fun tag => tag.name.token.value,
    form.withReturns.namespaceTag.map (NamespaceForm.declaration path),
    form.withReturns.aliases.map (AliasForm.declaration path), _⟩ : SourceFile) = _
  rw [packageName_withReturns read, namespaceTag_withReturns path read, aliases_withReturns read]
  rfl

theorem namespaceName_withReturns (read : forall token, token ∈ form.tokens -> token.IsRead) :
    form.withReturns.namespaceName = form.namespaceName := by
  have same := congrArg (Option.map NamespaceDeclaration.name) (namespaceTag_withReturns "" read)
  rw [Option.map_map, Option.map_map, Option.map_map] at same
  exact same

end FileForm

end

end TemplateFile
