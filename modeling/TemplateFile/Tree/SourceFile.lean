import TemplateFile.Tree.Declaration
import TemplateFile.Tree.Template

namespace TemplateFile

/-!
# Source files

The tree of a file: what it declares at its head, and its templates, all in the
order of the text.
-/

/-- Why a file is read.  It is kept with the tree and changes nothing else. -/
inductive FileKind where
  | source
  | dependency
  | indirectDependency
deriving DecidableEq, Repr

namespace FileKind

/-- The name of the kind. -/
def label : FileKind -> String
  | source => "Source"
  | dependency => "Dependency"
  | indirectDependency => "IndirectDependency"

end FileKind

/-- The tree of a file. -/
structure SourceFile where
  id : Nat
  path : String
  kind : FileKind
  delegatePackage : Option String
  namespaceDeclaration : Option NamespaceDeclaration
  aliases : List AliasDeclaration
  templates : List Template
deriving DecidableEq, Repr

namespace SourceFile

/-- The name of the file's namespace. -/
def namespaceName (file : SourceFile) : Option String := file.namespaceDeclaration.map NamespaceDeclaration.name

/-- The first template that messages show under a given name. -/
def template? (file : SourceFile) (displayName : String) : Option Template :=
  file.templates.find? fun template => template.displayName == displayName

end SourceFile

end TemplateFile
