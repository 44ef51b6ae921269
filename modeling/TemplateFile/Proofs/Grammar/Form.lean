import TemplateFile.Grammar.File
import TemplateFile.Proofs.Grammar.Sentence

namespace TemplateFile

open Computability

/-!
# The form of a file

A form is a derivation of a file: it says which token plays which part.  Every
token in a form has the kind of its part, so a form cannot be wrong, and its
kinds are a sentence.  What the tree of a file owes to its tokens is read off
the form.

No two forms have the same tokens.  Each repeated or optional part is
recognized by its first token, which nothing that may follow begins with.
-/

/-- A token of a known kind. -/
structure TokenOf (kind : TokenKind) where
  token : Token
  hasKind : token.kind = kind

namespace TokenOf

theorem ext_token {kind : TokenKind} {one two : TokenOf kind} (same : one.token = two.token) : one = two := by
  cases one
  cases two
  cases same
  rfl

end TokenOf

/-- The tokens of a package tag. -/
structure PackageForm where
  opening : TokenOf (.header .package)
  name : TokenOf .name
  closing : TokenOf .closeCurly

/-- The tokens of an attribute. -/
structure AttributeForm where
  keyword : AttributeKey
  key : TokenOf (.attributeKey keyword)
  equals : TokenOf .equals
  value : TokenOf .quoted

/-- The tokens of a namespace tag. -/
structure NamespaceForm where
  opening : TokenOf (.header .namespaceTag)
  name : TokenOf .name
  attributes : List AttributeForm
  closing : TokenOf .closeCurly

/-- The tokens of the local name of an alias. -/
structure LocalNameForm where
  asWord : TokenOf .asWord
  name : TokenOf .name

/-- The tokens of an alias tag. -/
structure AliasForm where
  opening : TokenOf (.header .aliasTag)
  target : TokenOf .name
  localName : Option LocalNameForm
  closing : TokenOf .closeCurly

/-- The token of a template. -/
structure TemplateForm where
  kind : TemplateKind
  whole : TokenOf (.template kind)

/-- The tokens of a file before its end. -/
structure FileForm where
  package : Option PackageForm
  namespaceTag : Option NamespaceForm
  aliases : List AliasForm
  templates : List TemplateForm

namespace PackageForm

def tokens (form : PackageForm) : List Token := [form.opening.token, form.name.token, form.closing.token]

end PackageForm

namespace AttributeForm

def tokens (form : AttributeForm) : List Token := [form.key.token, form.equals.token, form.value.token]

def toAttribute (form : AttributeForm) : Attribute := ⟨form.key.token.value, form.value.token.value⟩

end AttributeForm

namespace NamespaceForm

def tokens (form : NamespaceForm) : List Token :=
  form.opening.token :: form.name.token :: form.attributes.flatMap AttributeForm.tokens ++ [form.closing.token]

def declaration (path : String) (form : NamespaceForm) : NamespaceDeclaration where
  name := form.name.token.value
  attributes := form.attributes.map AttributeForm.toAttribute
  location := Location.between path form.opening.token.span form.closing.token.span

end NamespaceForm

namespace LocalNameForm

def tokens (form : LocalNameForm) : List Token := [form.asWord.token, form.name.token]

end LocalNameForm

namespace AliasForm

def tokens (form : AliasForm) : List Token :=
  form.opening.token :: form.target.token :: form.localName.toList.flatMap LocalNameForm.tokens ++
    [form.closing.token]

def declaration (path : String) (form : AliasForm) : AliasDeclaration where
  target := form.target.token.value
  localName := form.localName.map fun localName => localName.name.token.value
  location := Location.between path form.opening.token.span form.closing.token.span

end AliasForm

namespace TemplateForm

def tokens (form : TemplateForm) : List Token := [form.whole.token]

/-- What is handed to a body parser. -/
def request (path : String) (form : TemplateForm) : BodyRequest where
  text := String.ofList (TemplateText.bodyText form.whole.token.value.toList)
  path := path
  start := form.whole.token.span.first.toPlace

/-- What a template owes to its token, to the namespace of the file and to the
body parser whose turn it was. -/
structure Declares (script : BodyScript) (path : String) (namespaceName : Option String) (form : TemplateForm)
    (template : Template) : Prop where
  sameKind : template.kind = form.kind
  commandText : template.commandText =
    String.ofList (TemplateText.commandText form.kind form.whole.token.value.toList)
  doc : template.doc = form.whole.token.doc
  location : template.location = Location.ofSpan path form.whole.token.span
  displayName : template.displayName = Template.qualifiedName form.kind namespaceName template.name
  body : ∃ call ids, template.body = (ParseState.nodesOf (script call (form.request path)) ids).1

end TemplateForm

namespace FileForm

def tokens (form : FileForm) : List Token :=
  form.package.toList.flatMap PackageForm.tokens ++
    (form.namespaceTag.toList.flatMap NamespaceForm.tokens ++
      (form.aliases.flatMap AliasForm.tokens ++ form.templates.flatMap TemplateForm.tokens))

/-- The name of the namespace. -/
def namespaceName (form : FileForm) : Option String := form.namespaceTag.map fun tag => tag.name.token.value

/-- The tree is the one that the form determines. -/
structure Determines (form : FileForm) (script : BodyScript) (kind : FileKind) (path : String)
    (file : SourceFile) : Prop where
  samePath : file.path = path
  sameKind : file.kind = kind
  delegatePackage : file.delegatePackage = form.package.map fun tag => tag.name.token.value
  namespaceDeclaration : file.namespaceDeclaration = form.namespaceTag.map (NamespaceForm.declaration path)
  aliases : file.aliases = form.aliases.map (AliasForm.declaration path)
  templates : List.Forall₂ (TemplateForm.Declares script path form.namespaceName) form.templates file.templates

end FileForm

/-! ## The kinds of a form are a sentence -/

/-- The kinds of tokens. -/
def kindsOf (tokens : List Token) : List TokenKind := tokens.map Token.kind

@[simp] theorem kindsOf_append (left right : List Token) : kindsOf (left ++ right) = kindsOf left ++ kindsOf right :=
  List.map_append

theorem kindsOf_flatMap_mem_kstar {Form : Type} {tokens : Form -> List Token} {language : Language TokenKind}
    (each : forall form, kindsOf (tokens form) ∈ language) (forms : List Form) :
    kindsOf (forms.flatMap tokens) ∈ language∗ := by
  refine Language.mem_kstar.mpr ⟨forms.map fun form => kindsOf (tokens form), ?_, ?_⟩
  · rw [kindsOf, List.map_flatMap, List.flatMap_def]
    rfl
  · intro piece listed
    rcases List.mem_map.mp listed with ⟨form, _, rfl⟩
    exact each form

theorem kindsOf_toList_mem_optional {Form : Type} {tokens : Form -> List Token} {language : Language TokenKind}
    (each : forall form, kindsOf (tokens form) ∈ language) (form : Option Form) :
    kindsOf (form.toList.flatMap tokens) ∈ Sentence.optional language := by
  cases form with
  | none => exact Sentence.nil_mem_optional language
  | some form =>
      rw [Option.toList_some, List.flatMap_singleton]
      exact Or.inr (each form)

theorem PackageForm.kindsOf_tokens_mem (form : PackageForm) : kindsOf form.tokens ∈ Sentence.packageTag := by
  simp only [kindsOf, tokens, List.map_cons, List.map_nil, TokenOf.hasKind]
  rfl

theorem AttributeForm.kindsOf_tokens_mem (form : AttributeForm) : kindsOf form.tokens ∈ Sentence.attributePair := by
  refine ⟨form.keyword, ?_⟩
  simp only [kindsOf, tokens, List.map_cons, List.map_nil, TokenOf.hasKind]

theorem NamespaceForm.kindsOf_tokens_mem (form : NamespaceForm) : kindsOf form.tokens ∈ Sentence.namespaceTag := by
  refine Language.mem_mul.mpr ⟨_, rfl, _, Language.append_mem_mul
    (kindsOf_flatMap_mem_kstar AttributeForm.kindsOf_tokens_mem form.attributes) rfl, ?_⟩
  simp only [kindsOf, tokens, List.map_cons, List.map_nil, List.map_append, TokenOf.hasKind, List.cons_append,
    List.nil_append]

theorem LocalNameForm.kindsOf_tokens (form : LocalNameForm) : kindsOf form.tokens = [.asWord, .name] := by
  simp only [kindsOf, tokens, List.map_cons, List.map_nil, TokenOf.hasKind]

theorem AliasForm.kindsOf_tokens_mem (form : AliasForm) : kindsOf form.tokens ∈ Sentence.aliasTag := by
  refine Language.mem_mul.mpr ⟨_, rfl, _, Language.append_mem_mul
    (kindsOf_toList_mem_optional LocalNameForm.kindsOf_tokens form.localName) rfl, ?_⟩
  simp only [kindsOf, tokens, List.map_cons, List.map_nil, List.map_append, TokenOf.hasKind, List.cons_append,
    List.nil_append]

theorem TemplateForm.kindsOf_tokens_mem (form : TemplateForm) : kindsOf form.tokens ∈ Sentence.template := by
  refine ⟨form.kind, ?_⟩
  simp only [kindsOf, tokens, List.map_cons, List.map_nil, TokenOf.hasKind]

/-- A form is a file. -/
theorem FileForm.kindsOf_tokens_mem (form : FileForm) : kindsOf form.tokens ++ [.endOfFile] ∈ Sentence.file := by
  have package := kindsOf_toList_mem_optional PackageForm.kindsOf_tokens_mem form.package
  have namespaceTag := kindsOf_toList_mem_optional NamespaceForm.kindsOf_tokens_mem form.namespaceTag
  have aliases := kindsOf_flatMap_mem_kstar AliasForm.kindsOf_tokens_mem form.aliases
  have templates := kindsOf_flatMap_mem_kstar TemplateForm.kindsOf_tokens_mem form.templates
  rw [tokens, kindsOf_append, kindsOf_append, kindsOf_append, List.append_assoc, List.append_assoc, List.append_assoc]
  exact Language.append_mem_mul package
    (Language.append_mem_mul namespaceTag (Language.append_mem_mul aliases (Language.append_mem_mul templates rfl)))

/-! ## No two forms have the same tokens -/

/-- A form can be told from the tokens that begin with it. -/
def Decodable {Form : Type} (tokens : Form -> List Token) : Prop :=
  forall form other rest tail, tokens form ++ rest = tokens other ++ tail -> form = other ∧ rest = tail

/-- Tokens that begin with one of a known kind. -/
def Opens (mayBegin : TokenKind -> Bool) (tokens : List Token) : Prop :=
  ∃ token rest, tokens = token :: rest ∧ mayBegin token.kind = true

/-- Tokens that do not begin so. -/
def Closes (mayBegin : TokenKind -> Bool) (tokens : List Token) : Prop :=
  forall token, tokens.head? = some token -> mayBegin token.kind = false

theorem Opens.not_closes {mayBegin : TokenKind -> Bool} {tokens : List Token} (opens : Opens mayBegin tokens) :
    ¬ Closes mayBegin tokens := by
  rcases opens with ⟨token, rest, rfl, begins⟩
  intro closes
  have never := closes token rfl
  rw [begins] at never
  cases never

/-- As many forms as there are can be told from the tokens that begin with them. -/
theorem Decodable.flatMap {Form : Type} {tokens : Form -> List Token} {mayBegin : TokenKind -> Bool}
    (decodable : Decodable tokens) (opens : forall form rest, Opens mayBegin (tokens form ++ rest))
    {forms others : List Form} {rest tail : List Token} (restCloses : Closes mayBegin rest)
    (tailCloses : Closes mayBegin tail) (same : forms.flatMap tokens ++ rest = others.flatMap tokens ++ tail) :
    forms = others ∧ rest = tail := by
  induction forms generalizing others with
  | nil =>
      cases others with
      | nil => exact ⟨rfl, same⟩
      | cons other others =>
          rw [List.flatMap_nil, List.nil_append, List.flatMap_cons, List.append_assoc] at same
          rw [same] at restCloses
          exact absurd restCloses (opens other _).not_closes
  | cons form forms inductionHypothesis =>
      rw [List.flatMap_cons, List.append_assoc] at same
      cases others with
      | nil =>
          rw [List.flatMap_nil, List.nil_append] at same
          rw [← same] at tailCloses
          exact absurd tailCloses (opens form _).not_closes
      | cons other others =>
          rw [List.flatMap_cons, List.append_assoc] at same
          rcases decodable form other _ _ same with ⟨rfl, later⟩
          rcases inductionHypothesis later with ⟨rfl, ends⟩
          exact ⟨rfl, ends⟩

/-- The same for at most one form. -/
theorem Decodable.toList {Form : Type} {tokens : Form -> List Token} {mayBegin : TokenKind -> Bool}
    (decodable : Decodable tokens) (opens : forall form rest, Opens mayBegin (tokens form ++ rest))
    {form other : Option Form} {rest tail : List Token} (restCloses : Closes mayBegin rest)
    (tailCloses : Closes mayBegin tail)
    (same : form.toList.flatMap tokens ++ rest = other.toList.flatMap tokens ++ tail) :
    form = other ∧ rest = tail := by
  rcases decodable.flatMap opens restCloses tailCloses same with ⟨sameList, ends⟩
  refine ⟨?_, ends⟩
  cases form <;> cases other <;> cases sameList <;> rfl

/-- What follows a repeated form does not begin with something that neither the form nor what follows it does. -/
theorem Closes.flatMap_append {Form : Type} {tokens : Form -> List Token} {mayBegin other : TokenKind -> Bool}
    (opens : forall form rest, Opens mayBegin (tokens form ++ rest))
    (disjoint : forall kind, mayBegin kind = true -> other kind = false) (forms : List Form) {rest : List Token}
    (closes : Closes other rest) : Closes other (forms.flatMap tokens ++ rest) := by
  cases forms with
  | nil => exact closes
  | cons form forms =>
      rw [List.flatMap_cons, List.append_assoc]
      rcases opens form (forms.flatMap tokens ++ rest) with ⟨token, later, same, begins⟩
      rw [same]
      intro first isFirst
      cases isFirst
      exact disjoint token.kind begins

theorem closes_cons {mayBegin : TokenKind -> Bool} {kind : TokenKind} (token : TokenOf kind)
    (different : mayBegin kind = false) (rest : List Token) : Closes mayBegin (token.token :: rest) := by
  intro first isFirst
  cases isFirst
  rw [token.hasKind]
  exact different

theorem opens_cons {mayBegin : TokenKind -> Bool} {kind : TokenKind} (token : TokenOf kind)
    (same : mayBegin kind = true) (rest : List Token) : Opens mayBegin (token.token :: rest) :=
  ⟨token.token, rest, rfl, by rw [token.hasKind]; exact same⟩

theorem PackageForm.decodable : Decodable tokens := by
  rintro ⟨opening, name, closing⟩ ⟨otherOpening, otherName, otherClosing⟩ rest tail same
  simp only [tokens, List.cons_append, List.nil_append, List.cons.injEq] at same
  rcases same with ⟨sameOpening, sameName, sameClosing, ends⟩
  rw [TokenOf.ext_token sameOpening, TokenOf.ext_token sameName, TokenOf.ext_token sameClosing]
  exact ⟨rfl, ends⟩

theorem AttributeForm.decodable : Decodable tokens := by
  rintro ⟨keyword, key, equals, value⟩ ⟨otherKeyword, otherKey, otherEquals, otherValue⟩ rest tail same
  simp only [tokens, List.cons_append, List.nil_append, List.cons.injEq] at same
  rcases same with ⟨sameKey, sameEquals, sameValue, ends⟩
  have sameKeyword : keyword = otherKeyword := by
    have kinds := key.hasKind
    rw [sameKey, otherKey.hasKind] at kinds
    exact (TokenKind.attributeKey.inj kinds).symm
  subst sameKeyword
  rw [TokenOf.ext_token sameKey, TokenOf.ext_token sameEquals, TokenOf.ext_token sameValue]
  exact ⟨rfl, ends⟩

theorem AttributeForm.opens (form : AttributeForm) (rest : List Token) :
    Opens TokenKind.isAttributeKey (form.tokens ++ rest) := opens_cons form.key rfl _

theorem NamespaceForm.decodable : Decodable tokens := by
  rintro ⟨opening, name, attributes, closing⟩ ⟨otherOpening, otherName, otherAttributes, otherClosing⟩ rest tail same
  simp only [tokens, List.append_assoc, List.cons_append, List.nil_append, List.cons.injEq] at same
  rcases same with ⟨sameOpening, sameName, later⟩
  rcases AttributeForm.decodable.flatMap AttributeForm.opens (closes_cons closing rfl rest)
    (closes_cons otherClosing rfl tail) later with ⟨rfl, ends⟩
  have parts := List.cons.inj ends
  rw [TokenOf.ext_token sameOpening, TokenOf.ext_token sameName, TokenOf.ext_token parts.1]
  exact ⟨rfl, parts.2⟩

theorem LocalNameForm.decodable : Decodable tokens := by
  rintro ⟨asWord, name⟩ ⟨otherAsWord, otherName⟩ rest tail same
  simp only [tokens, List.cons_append, List.nil_append, List.cons.injEq] at same
  rcases same with ⟨sameAsWord, sameName, ends⟩
  rw [TokenOf.ext_token sameAsWord, TokenOf.ext_token sameName]
  exact ⟨rfl, ends⟩

theorem LocalNameForm.opens (form : LocalNameForm) (rest : List Token) :
    Opens (fun kind => decide (kind = .asWord)) (form.tokens ++ rest) := opens_cons form.asWord (by decide) _

theorem AliasForm.decodable : Decodable tokens := by
  rintro ⟨opening, target, localName, closing⟩ ⟨otherOpening, otherTarget, otherLocalName, otherClosing⟩ rest tail same
  simp only [tokens, List.append_assoc, List.cons_append, List.nil_append, List.cons.injEq] at same
  rcases same with ⟨sameOpening, sameTarget, later⟩
  rcases LocalNameForm.decodable.toList LocalNameForm.opens (closes_cons closing (by decide) rest)
    (closes_cons otherClosing (by decide) tail) later with ⟨rfl, ends⟩
  have parts := List.cons.inj ends
  rw [TokenOf.ext_token sameOpening, TokenOf.ext_token sameTarget, TokenOf.ext_token parts.1]
  exact ⟨rfl, parts.2⟩

theorem TemplateForm.decodable : Decodable tokens := by
  rintro ⟨kind, whole⟩ ⟨otherKind, otherWhole⟩ rest tail same
  simp only [tokens, List.cons_append, List.nil_append, List.cons.injEq] at same
  rcases same with ⟨sameToken, ends⟩
  have sameKind : kind = otherKind := by
    have kinds := whole.hasKind
    rw [sameToken, otherWhole.hasKind] at kinds
    exact (TokenKind.template.inj kinds).symm
  subst sameKind
  rw [TokenOf.ext_token sameToken]
  exact ⟨rfl, ends⟩

theorem TemplateForm.opens (form : TemplateForm) (rest : List Token) :
    Opens TokenKind.isTemplate (form.tokens ++ rest) := opens_cons form.whole rfl _

/-- Whether a header tag begins with the kind. -/
def isHeader (tag : HeaderTag) (kind : TokenKind) : Bool := decide (kind = .header tag)

theorem PackageForm.opens (form : PackageForm) (rest : List Token) :
    Opens (isHeader .package) (form.tokens ++ rest) := opens_cons form.opening (by decide) _

theorem NamespaceForm.opens (form : NamespaceForm) (rest : List Token) :
    Opens (isHeader .namespaceTag) (form.tokens ++ rest) := opens_cons form.opening (by decide) _

theorem AliasForm.opens (form : AliasForm) (rest : List Token) :
    Opens (isHeader .aliasTag) (form.tokens ++ rest) := opens_cons form.opening (by decide) _

theorem isHeader_of_isTemplate (tag : HeaderTag) (kind : TokenKind) (isTemplate : kind.isTemplate = true) :
    isHeader tag kind = false := by
  refine decide_eq_false ?_
  rintro rfl
  cases isTemplate

theorem isHeader_of_isHeader {tag other : HeaderTag} (different : tag ≠ other) (kind : TokenKind)
    (same : isHeader tag kind = true) : isHeader other kind = false := by
  refine decide_eq_false ?_
  rintro rfl
  exact different (TokenKind.header.inj (of_decide_eq_true same)).symm

theorem closes_templates (tag : HeaderTag) (forms : List TemplateForm) :
    Closes (isHeader tag) (forms.flatMap TemplateForm.tokens ++ []) :=
  .flatMap_append TemplateForm.opens (isHeader_of_isTemplate tag) forms (fun _ impossible => by cases impossible)

theorem closes_aliases {tag : HeaderTag} (different : HeaderTag.aliasTag ≠ tag) (aliases : List AliasForm)
    (templates : List TemplateForm) :
    Closes (isHeader tag)
      (aliases.flatMap AliasForm.tokens ++ (templates.flatMap TemplateForm.tokens ++ [])) :=
  .flatMap_append AliasForm.opens (isHeader_of_isHeader different) aliases (closes_templates tag templates)

theorem closes_namespace (namespaceTag : Option NamespaceForm) (aliases : List AliasForm)
    (templates : List TemplateForm) :
    Closes (isHeader .package)
      (namespaceTag.toList.flatMap NamespaceForm.tokens ++
        (aliases.flatMap AliasForm.tokens ++ (templates.flatMap TemplateForm.tokens ++ []))) :=
  .flatMap_append NamespaceForm.opens (isHeader_of_isHeader (by decide)) _
    (closes_aliases (by decide) aliases templates)

/-- A file has only one form. -/
theorem FileForm.tokens_injective : Function.Injective tokens := by
  rintro ⟨package, namespaceTag, aliases, templates⟩
    ⟨otherPackage, otherNamespaceTag, otherAliases, otherTemplates⟩ same
  have ended : forall forms : List TemplateForm,
      forms.flatMap TemplateForm.tokens = forms.flatMap TemplateForm.tokens ++ [] :=
    fun forms => (List.append_nil _).symm
  rw [tokens, tokens, ended templates, ended otherTemplates] at same
  rcases PackageForm.decodable.toList PackageForm.opens (closes_namespace _ _ _) (closes_namespace _ _ _) same with
    ⟨rfl, afterPackage⟩
  rcases NamespaceForm.decodable.toList NamespaceForm.opens (closes_aliases (by decide) _ _)
    (closes_aliases (by decide) _ _) afterPackage with ⟨rfl, afterNamespace⟩
  rcases AliasForm.decodable.flatMap AliasForm.opens (closes_templates _ _) (closes_templates _ _) afterNamespace with
    ⟨rfl, afterAliases⟩
  have nothing : Closes TokenKind.isTemplate [] := fun _ impossible => by cases impossible
  rcases TemplateForm.decodable.flatMap TemplateForm.opens nothing nothing afterAliases with ⟨rfl, _⟩
  rfl

end TemplateFile
