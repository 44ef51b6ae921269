import TemplateFile.Parse
import TemplateFile.Proofs.Lexical.Rule
import TemplateFile.Proofs.Text.FirstOccurrence

namespace TemplateFile

open Computability

/-!
# Outlines, and how they are written

An outline is what the author of a file has in mind: names, attributes, command
texts, bodies and documentation, but no positions, no ids and no layout.  Not
every outline can be written; `Writable` says which ones can.  An outline that
can be written can be written in many ways, because blanks and comments may
stand between any two tokens, and blanks around the dots of a name.  The texts
of an outline are again a language.
-/

/-! ## Outlines -/

/-- A namespace without its location. -/
structure NamespaceOutline where
  name : String
  attributes : List Attribute
deriving DecidableEq, Repr

/-- An alias without its location. -/
structure AliasOutline where
  target : String
  localName : Option String
deriving DecidableEq, Repr

/-- A template without its location and ids. -/
structure TemplateOutline where
  kind : TemplateKind
  commandText : String
  doc : Option String
  body : String
deriving DecidableEq, Repr

/-- A file without its locations and ids. -/
structure Outline where
  delegatePackage : Option String
  namespaceTag : Option NamespaceOutline
  aliases : List AliasOutline
  templates : List TemplateOutline
deriving DecidableEq, Repr

/-- All text of a body, in order. -/
def bodyTextOf (body : Option (Body RawText)) : String :=
  match body with
  | some body => String.join ((body.header ++ body.content).map fun node => node.text)
  | none => ""

/-- What the tree says of a template. -/
def Template.outline (template : Template) : TemplateOutline :=
  ⟨template.kind, template.commandText, template.doc, bodyTextOf template.body⟩

/-- What the tree of a file says. -/
def SourceFile.outline (file : SourceFile) : Outline where
  delegatePackage := file.delegatePackage
  namespaceTag := file.namespaceDeclaration.map fun declaration => ⟨declaration.name, declaration.attributes⟩
  aliases := file.aliases.map fun declaration => ⟨declaration.target, declaration.localName⟩
  templates := file.templates.map Template.outline

/-- The outline with no text in its body. -/
def TemplateOutline.withoutBody (outline : TemplateOutline) : TemplateOutline := { outline with body := "" }

/-- The outline with no text in its bodies. -/
def Outline.withoutBodies (outline : Outline) : Outline :=
  { outline with templates := outline.templates.map TemplateOutline.withoutBody }

/-! ## Which outlines can be written -/

/-- Segments joined by dots. -/
def plainName : Language Char := LexicalRule.segment * ({['.']} * LexicalRule.segment)∗

/-- A name that is no reserved word. -/
structure IsName (name : String) : Prop where
  segments : name.toList ∈ plainName
  notKey : forall key : AttributeKey, name.toList ≠ key.word
  notAs : name.toList ≠ "as".toList

/-- A closing text that comes right after a text, and not earlier. -/
def ClosedBy (closer inside : List Char) : Prop := Text.FirstAt closer (inside ++ closer) inside []

/-- A documentation comment. -/
def IsDoc (doc : List Char) : Prop :=
  ∃ inside, doc = ['/', '*', '*'] ++ inside ++ ['*', '/'] ∧ inside.head? ≠ some '/' ∧ ClosedBy ['*', '/'] inside

namespace NamespaceOutline

structure Writable (outline : NamespaceOutline) : Prop where
  name : IsName outline.name
  keys : forall entry, entry ∈ outline.attributes -> ∃ key : AttributeKey, entry.name = String.ofList key.word
  values : forall entry, entry ∈ outline.attributes -> '"' ∉ entry.value.toList

end NamespaceOutline

namespace AliasOutline

structure Writable (outline : AliasOutline) : Prop where
  target : IsName outline.target
  localName : forall name, outline.localName = some name -> IsName name

end AliasOutline

namespace TemplateOutline

structure Writable (outline : TemplateOutline) : Prop where
  notEmpty : outline.commandText.toList ≠ []
  noBrace : '\x7d' ∉ outline.commandText.toList
  begins : forall character, outline.commandText.toList.head? = some character -> Text.isBlank character = false
  ends : forall character, outline.commandText.toList.getLast? = some character -> Text.isBlank character = false
  body : ¬ outline.kind.closer <:+: outline.body.toList
  doc : forall doc, outline.doc = some doc -> IsDoc doc.toList

end TemplateOutline

namespace Outline

structure Writable (outline : Outline) : Prop where
  delegatePackage : forall name, outline.delegatePackage = some name -> IsName name
  namespaceTag : forall tag, outline.namespaceTag = some tag -> tag.Writable
  aliases : forall entry, entry ∈ outline.aliases -> entry.Writable
  templates : forall entry, entry ∈ outline.templates -> entry.Writable

end Outline

/-! ## How an outline is written -/

namespace Written

/-- A comment to the end of its line, with the line feed. -/
def lineComment : Language Char :=
  {['/', '/']} * ((LexicalRule.anyOf fun character => character != '\n') * {['\n']})

/-- A comment that is not a documentation comment. -/
def blockComment : Language Char :=
  {text | ∃ inside, text = ['/', '*'] ++ inside ++ ['*', '/'] ∧ inside.head? ≠ some '*' ∧ ClosedBy ['*', '/'] inside}

/-- What may stand between two tokens. -/
def gap : Language Char := (LexicalRule.oneOf Text.isBlank + (lineComment + blockComment))∗

/-- What must stand between two words. -/
def separator : Language Char := {text | text ∈ gap ∧ text ≠ []}

/-- A name, perhaps with blanks around its dots. -/
def name (name : String) : Language Char :=
  {text | text ∈ LexicalRule.name.language ∧ DottedName.value text = name.toList}

/-- A part of a file, or nothing. -/
def optional {Part : Type} (texts : Part -> Language Char) : Option Part -> Language Char
  | none => 1
  | some part => texts part

/-- Parts of a file, one after the other. -/
def all {Part : Type} (texts : Part -> Language Char) : List Part -> Language Char
  | [] => 1
  | part :: parts => texts part * all texts parts

def packageTag (package : String) : Language Char :=
  {HeaderTag.package.keyword} * (gap * (name package * (gap * {['\x7d']})))

def attributePair (entry : Attribute) : Language Char :=
  {entry.name.toList} * (gap * ({['=']} * (gap * {'"' :: entry.value.toList ++ ['"']})))

/-- Attributes after a name: the first one is set off from it. -/
def attributePairs : List Attribute -> Language Char
  | [] => 1
  | first :: others => separator * (attributePair first * all (fun entry => gap * attributePair entry) others)

def namespaceTag (outline : NamespaceOutline) : Language Char :=
  {HeaderTag.namespaceTag.keyword} *
    (gap * (name outline.name * (attributePairs outline.attributes * (gap * {['\x7d']}))))

def localName (local_ : String) : Language Char :=
  separator * ({"as".toList} * (separator * name local_))

def aliasTag (outline : AliasOutline) : Language Char :=
  {HeaderTag.aliasTag.keyword} *
    (gap * (name outline.target * (optional localName outline.localName * (gap * {['\x7d']}))))

/-- The two tags of a template and what stands between them. -/
def templateTags (outline : TemplateOutline) : Language Char :=
  {outline.kind.keyword} * (LexicalRule.someOf Text.isBlank * ({outline.commandText.toList} *
    (LexicalRule.anyOf Text.isBlank * ({['\x7d']} * ({outline.body.toList} * {outline.kind.closer})))))

def template (outline : TemplateOutline) : Language Char :=
  optional (fun doc => {doc.toList} * gap) outline.doc * templateTags outline

/-- The texts of an outline. -/
def file (outline : Outline) : Language Char :=
  gap * (optional (fun package => packageTag package * gap) outline.delegatePackage *
    (optional (fun tag => namespaceTag tag * gap) outline.namespaceTag *
      (all (fun entry => aliasTag entry * gap) outline.aliases *
        all (fun entry => template entry * gap) outline.templates)))

end Written

end TemplateFile
