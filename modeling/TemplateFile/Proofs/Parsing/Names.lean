import TemplateFile.Proofs.Lexical.NameValue
import TemplateFile.Proofs.Parsing.Provenance

namespace TemplateFile

/-!
# The names of a tree

A file may write blanks around the dots of its names, and words that are
reserved elsewhere between them.  None of this is left in the tree: every name
there is segments joined by single dots, and none is a reserved word.  Each name
is the value of a name token, so this is a matter of what such a token is worth.
-/

/-- A name in the form in which all names are kept: segments joined by dots, no
reserved word, and no blanks. -/
structure IsNormalName (name : String) : Prop extends IsName name where
  noBlank : forall character, character ∈ name.toList -> Text.isBlank character = false

/-- The names in a tree: of the package, of the namespace, of the targets of
aliases, and of their local names. -/
def SourceFile.names (file : SourceFile) : List String :=
  file.delegatePackage.toList ++ (file.namespaceDeclaration.toList.map NamespaceDeclaration.name ++
    file.aliases.flatMap fun declaration => declaration.target :: declaration.localName.toList)

/-- One of the three keys, and a value without quotes. -/
structure Attribute.IsNormal (entry : Attribute) : Prop where
  key : ∃ key : AttributeKey, entry.name = String.ofList key.word
  noQuote : '"' ∉ entry.value.toList

/-- Without a local name an alias is called by a single segment, which is what
comes after the last dot of its target. -/
def AliasDeclaration.NamedByTarget (declaration : AliasDeclaration) : Prop :=
  declaration.localName = none -> declaration.name.toList ∈ LexicalRule.segment ∧
    (declaration.name = declaration.target ∨
      ∃ front, declaration.target.toList = front ++ ['.'] ++ declaration.name.toList)

/-- All names of a tree are normal, and so are its attributes. -/
structure SourceFile.NamesNormal (file : SourceFile) : Prop where
  names : forall name, name ∈ file.names -> IsNormalName name
  attributes : forall declaration, file.namespaceDeclaration = some declaration ->
    forall entry, entry ∈ declaration.attributes -> entry.IsNormal
  aliases : forall declaration, declaration ∈ file.aliases -> declaration.NamedByTarget

theorem AliasDeclaration.namedByTarget {declaration : AliasDeclaration}
    (plain : declaration.target.toList ∈ plainName) : declaration.NamedByTarget := by
  intro noLocal
  have isName : declaration.name = String.ofList (lastSegment declaration.target.toList) := by
    rw [name, noLocal]
    rfl
  rw [isName, String.toList_ofList]
  rcases lastSegment_of_plainName plain with ⟨inSegment, whole | dotted⟩
  · exact ⟨inSegment, Or.inl (by rw [whole, String.ofList_toList])⟩
  · exact ⟨inSegment, Or.inr dotted⟩

/-! ## The name tokens of a form -/

def AliasForm.nameTokens (form : AliasForm) : List (TokenOf .name) :=
  form.target :: form.localName.toList.map LocalNameForm.name

namespace FileForm

/-- The tokens that give a tree its names, in the same order. -/
def nameTokens (form : FileForm) : List (TokenOf .name) :=
  form.package.toList.map PackageForm.name ++ (form.namespaceTag.toList.map NamespaceForm.name ++
    form.aliases.flatMap AliasForm.nameTokens)

theorem mem_tokens_of_mem_nameTokens {form : FileForm} {name : TokenOf .name} (member : name ∈ form.nameTokens) :
    name.token ∈ form.tokens := by
  rcases List.mem_append.mp member with inPackage | inRest
  · rcases List.mem_map.mp inPackage with ⟨tag, listed, rfl⟩
    exact List.mem_append_left _ (List.mem_flatMap.mpr ⟨tag, listed, List.mem_cons_of_mem _ List.mem_cons_self⟩)
  · refine List.mem_append_right _ ?_
    rcases List.mem_append.mp inRest with inNamespace | inAliases
    · rcases List.mem_map.mp inNamespace with ⟨tag, listed, rfl⟩
      refine List.mem_append_left _ (List.mem_flatMap.mpr ⟨tag, listed, ?_⟩)
      exact List.mem_append_left _ (List.mem_cons_of_mem _ List.mem_cons_self)
    · rcases List.mem_flatMap.mp inAliases with ⟨tag, listed, inTag⟩
      refine List.mem_append_right _ (List.mem_append_left _ (List.mem_flatMap.mpr ⟨tag, listed, ?_⟩))
      refine List.mem_append_left _ (List.mem_cons_of_mem _ ?_)
      rcases List.mem_cons.mp inTag with rfl | inLocal
      · exact List.mem_cons_self
      · rcases List.mem_map.mp inLocal with ⟨localName, isLocal, rfl⟩
        refine List.mem_cons_of_mem _ (List.mem_flatMap.mpr ⟨localName, isLocal, ?_⟩)
        exact List.mem_cons_of_mem _ List.mem_cons_self

theorem mem_tokens_of_mem_attributes {form : FileForm} {tag : NamespaceForm} (isTag : form.namespaceTag = some tag)
    {entry : AttributeForm} (listed : entry ∈ tag.attributes) {token : Token} (member : token ∈ entry.tokens) :
    token ∈ form.tokens := by
  refine List.mem_append_right _ (List.mem_append_left _ (List.mem_flatMap.mpr ⟨tag, ?_, ?_⟩))
  · rw [isTag]
    exact List.mem_singleton_self tag
  · refine List.mem_append_left _ (List.mem_cons_of_mem _ (List.mem_cons_of_mem _ ?_))
    exact List.mem_flatMap.mpr ⟨entry, listed, member⟩

theorem Determines.names_eq {form : FileForm} {script : BodyScript} {kind : FileKind} {path : String}
    {file : SourceFile} (determines : form.Determines script kind path file) :
    file.names = form.nameTokens.map fun name => name.token.value := by
  have aliases : (file.aliases.flatMap fun declaration => declaration.target :: declaration.localName.toList) =
      (form.aliases.flatMap AliasForm.nameTokens).map fun name => name.token.value := by
    rw [determines.aliases, List.flatMap_map, List.map_flatMap]
    refine congrArg (List.flatMap · form.aliases) (funext fun tag => ?_)
    cases isLocal : tag.localName <;> simp only [AliasForm.declaration, AliasForm.nameTokens, isLocal, Option.map_none,
      Option.map_some, Option.toList_none, Option.toList_some, List.map_nil, List.map_cons]
  rw [SourceFile.names, aliases, determines.delegatePackage, determines.namespaceDeclaration, nameTokens,
    List.map_append, List.map_append, List.map_map]
  cases form.package <;> cases form.namespaceTag <;> rfl

end FileForm

theorem AttributeForm.isNormal_toAttribute {form : AttributeForm} (read : forall token, token ∈ form.tokens -> token.IsRead) :
    form.toAttribute.IsNormal where
  key := ⟨form.keyword, (read form.key.token List.mem_cons_self).eq_word form.key.hasKind⟩
  noQuote := by
    have value := read form.value.token (List.mem_cons_of_mem _ (List.mem_cons_of_mem _ List.mem_cons_self))
    exact value.quote_notMem form.value.hasKind

/-! ## Whole trees -/

/-- The names of every tree are normal, however the file writes them. -/
theorem Session.parseFile_namesNormal {session : Session} {script : BodyScript} {kind : FileKind} {path source : String}
    {file : SourceFile} (tree : (session.parseFile script kind path source).1.file = some file) :
    file.NamesNormal := by
  rcases exists_form_of_file tree with ⟨form, same, determines⟩
  have read : forall token, token ∈ form.tokens -> token.IsRead := by
    intro token member
    rw [same] at member
    exact TokenStream.isRead_of_mem_pending member
  have names : forall name, name ∈ file.names -> IsNormalName name := by
    intro name member
    rw [determines.names_eq] at member
    rcases List.mem_map.mp member with ⟨token, listed, rfl⟩
    have isName := (read _ (FileForm.mem_tokens_of_mem_nameTokens listed)).isName token.hasKind
    exact { isName with noBlank := fun _ => not_isBlank_of_mem_plainName isName.segments }
  exact {
    names := names
    attributes := by
      intro declaration isDeclaration entry member
      rw [determines.namespaceDeclaration] at isDeclaration
      rcases Option.map_eq_some_iff.mp isDeclaration with ⟨tag, isTag, rfl⟩
      rcases List.mem_map.mp member with ⟨pair, listed, rfl⟩
      exact pair.isNormal_toAttribute fun token inPair =>
        read token (FileForm.mem_tokens_of_mem_attributes isTag listed inPair)
    aliases := by
      intro declaration listed
      have isTarget : declaration.target ∈ file.names :=
        List.mem_append_right _ (List.mem_append_right _ (List.mem_flatMap.mpr ⟨_, listed, List.mem_cons_self⟩))
      exact declaration.namedByTarget (names _ isTarget).segments }

/-- A file that writes blanks of several kinds around its dots, and reserved words between them. -/
def spacedSource : String :=
  "\x7bdelpackage a . as\x7d\x7bnamespace as\u2003.\n b\u00a0. autoescape requirecss = \"c d\"\x7d" ++
    "\x7balias x\u3000.\ty\x7d\x7balias as .z as cssbase . _q\x7d"

theorem Session.parseFile_namesNormal_spaced :
    ∃ file, (Session.start.parseFile (.always BodyParser.raw) .source "spaced.soy" spacedSource).1.file = some file ∧
      file.names = ["a.as", "as.b.autoescape", "x.y", "as.z", "cssbase._q"] ∧
      file.aliases.map AliasDeclaration.name = ["y", "cssbase._q"] ∧ file.NamesNormal := by
  have evaluated : (Session.start.parseFile (.always BodyParser.raw) .source "spaced.soy" spacedSource).1.file.map
      (fun file => (file.names, file.aliases.map AliasDeclaration.name)) =
        some (["a.as", "as.b.autoescape", "x.y", "as.z", "cssbase._q"], ["y", "cssbase._q"]) := by
    decide +kernel
  rcases Option.map_eq_some_iff.mp evaluated with ⟨file, tree, parts⟩
  exact ⟨file, tree, congrArg Prod.fst parts, congrArg Prod.snd parts, parseFile_namesNormal tree⟩

end TemplateFile
