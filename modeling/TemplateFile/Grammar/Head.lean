import TemplateFile.Grammar.Rule
import TemplateFile.Tree.Declaration

namespace TemplateFile

/-!
# The head of a file

The head of a file is at most one package tag, then at most one namespace tag,
then any number of alias tags.  The order is kept only by the order in which
the rules are tried: a tag whose turn has passed is a token in the wrong place
like any other.
-/

namespace HeaderRule

/-- A package tag: the keyword, a name and the closing brace. -/
def packageTag : HeaderRule String := do
  let _ ← want (.header .package) (.only (.header .package))
  let name ← want .name (.only .packageName)
  let _ ← want .closeCurly (.only .closeCurly)
  return name.value

/-- The words that may begin an attribute. -/
def attributeKeys : Expectation :=
  ⟨.attributeKey .autoescape, [.attributeKey .requireCss, .attributeKey .cssBase]⟩

/-- Whether the current token may begin an attribute. -/
def standsAtKey (stream : TokenStream) : Bool := stream.current.kind.isAttributeKey

/-- An attribute: one of the three keys, an equals sign and a quoted value. -/
def attributePair : HeaderRule Attribute := do
  let stream ← get
  if standsAtKey stream then
    let key ← next
    let _ ← want .equals (.only .equals)
    let value ← want .quoted (.only .attributeValue)
    return ⟨key.value, value.value⟩
  else unexpected attributeKeys.text

/-- An attribute leaves fewer tokens than it found. -/
theorem size_lt_of_attributePair (stream : TokenStream) (value : Attribute) (after : TokenStream)
    (begins : standsAtKey stream = true) (ran : attributePair stream = .ok value after) :
    after.size < stream.size := by
  rcases Rule.ok_of_bind ran with ⟨seen, same, here, there⟩
  cases here
  simp only [begins, if_true] at there
  rcases Rule.ok_of_bind there with ⟨key, middle, reading, later⟩
  cases reading
  have forward := (forward_want .equals (.only .equals)).bind (fun _ =>
    (forward_want .quoted (.only .attributeValue)).bind (fun value =>
      forward_pure (⟨stream.current.value, value.value⟩ : Attribute)))
  have inner : stream.current.kind ≠ .endOfFile := by
    intro ends
    simp only [standsAtKey, ends, TokenKind.isAttributeKey, Bool.false_eq_true] at begins
  exact Nat.lt_of_le_of_lt (forward _ _ _ later) (TokenStream.size_advance_lt inner)

/-- The attributes that follow each other from here on. -/
def attributePairs : HeaderRule (List Attribute) :=
  Rule.repeatWhile TokenStream.size standsAtKey attributePair size_lt_of_attributePair

/-- A namespace tag: the keyword, a name, any attributes and the closing brace. -/
def namespaceTag : HeaderRule NamespaceDeclaration := do
  let stream ← get
  let opening ← want (.header .namespaceTag) (.only (.header .namespaceTag))
  let name ← want .name (.only .namespaceName)
  let attributes ← attributePairs
  let closing ← want .closeCurly ⟨.anyAttribute, [.closeCurly]⟩
  return ⟨name.value, attributes, stream.locationBetween opening closing⟩

/-- The local name of an alias: the word `as` and a name. -/
def localName : HeaderRule String := do
  let _ ← next
  let name ← want .name (.only .aliasName)
  return name.value

/-- What may follow the target of an alias and the local name, if there was one. -/
def aliasEnd (localName : Option String) : Expectation :=
  match localName with
  | some _ => .only .closeCurly
  | none => ⟨.asWord, [.closeCurly]⟩

/-- An alias tag: the keyword, a name, perhaps a local name, and the closing
brace. -/
def aliasTag : HeaderRule AliasDeclaration := do
  let stream ← get
  let opening ← want (.header .aliasTag) (.only (.header .aliasTag))
  let target ← want .name (.only .aliasedNamespace)
  let localName ← Rule.optionally (standsAt .asWord) localName
  let closing ← want .closeCurly (aliasEnd localName)
  return ⟨target.value, localName, stream.locationBetween opening closing⟩

/-- An alias tag leaves fewer tokens than it found. -/
theorem consuming_aliasTag : Consuming aliasTag := by
  intro stream value after ran
  rcases Rule.ok_of_bind ran with ⟨seen, same, here, there⟩
  cases here
  have localForward : Forward localName :=
    forward_next.bind fun _ => (forward_want _ _).bind fun name => forward_pure name.value
  exact (consuming_want (by decide) _).bind (fun opening =>
    (forward_want _ _).bind fun target =>
      (localForward.optionally _).bind fun localName =>
        (forward_want _ _).bind fun closing =>
          forward_pure (⟨target.value, localName, stream.locationBetween opening closing⟩ : AliasDeclaration))
    stream value after there

/-- The alias tags that follow each other from here on. -/
def aliasTags : HeaderRule (List AliasDeclaration) :=
  Rule.repeatWhile TokenStream.size (standsAt (.header .aliasTag)) aliasTag
    fun stream value after _ ran => consuming_aliasTag stream value after ran

end HeaderRule

/-- What stands in a file before its templates. -/
structure FileHead where
  delegatePackage : Option String
  namespaceDeclaration : Option NamespaceDeclaration
  aliases : List AliasDeclaration
deriving DecidableEq, Repr

namespace FileHead

/-- The rule for the whole head of a file. -/
def rule : HeaderRule FileHead := do
  let delegatePackage ← Rule.optionally (HeaderRule.standsAt (.header .package)) HeaderRule.packageTag
  let namespaceDeclaration ←
    Rule.optionally (HeaderRule.standsAt (.header .namespaceTag)) HeaderRule.namespaceTag
  let aliases ← HeaderRule.aliasTags
  return ⟨delegatePackage, namespaceDeclaration, aliases⟩

/-- What could have followed the head: whatever has not had its turn. -/
def following (head : FileHead) : Expectation :=
  if head.namespaceDeclaration.isSome ∨ head.aliases ≠ [] then
    ⟨.header .aliasTag, [.anyTemplate, .endOfFile]⟩
  else if head.delegatePackage.isSome then
    ⟨.header .namespaceTag, [.header .aliasTag, .anyTemplate, .endOfFile]⟩
  else
    ⟨.header .package, [.header .namespaceTag, .header .aliasTag, .anyTemplate, .endOfFile]⟩

end FileHead

end TemplateFile
