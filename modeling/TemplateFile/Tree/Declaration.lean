import TemplateFile.Source.Location

namespace TemplateFile

/-!
# Declarations at the head of a file

A file may declare the namespace of its templates, with attributes, and short
names for other namespaces.
-/

/-- An attribute of a namespace tag.  The value is the text between the quotes,
as written. -/
structure Attribute where
  name : String
  value : String
deriving DecidableEq, Repr

/-- The namespace of a file. -/
structure NamespaceDeclaration where
  name : String
  attributes : List Attribute
  location : Location
deriving DecidableEq, Repr

namespace NamespaceDeclaration

/-- The value of the first attribute with a given name. -/
def attribute? (declaration : NamespaceDeclaration) (name : String) : Option String :=
  (declaration.attributes.find? fun entry => entry.name == name).map Attribute.value

end NamespaceDeclaration

/-- A short name for another namespace, the target. -/
structure AliasDeclaration where
  target : String
  localName : Option String
  location : Location
deriving DecidableEq, Repr

namespace AliasDeclaration

/-- The part of a dotted name after its last dot, or all of it. -/
def lastSegment (name : List Char) : List Char :=
  (name.reverse.takeWhile fun character => character != '.').reverse

/-- The name that stands for the target: the local name, or else the last
segment of the target. -/
def name (declaration : AliasDeclaration) : String :=
  declaration.localName.getD (String.ofList (lastSegment declaration.target.toList))

end AliasDeclaration

end TemplateFile
