import TemplateFile.TemplateKind
import TemplateFile.Text.Blank
import TemplateFile.Tree.RawText

namespace TemplateFile

/-!
# Templates

A template is named by the first word of its command text.  A basic template
whose name begins with a dot belongs to the namespace of its file, and messages
show it with the namespace in front.  A template whose body could not be parsed
is still part of its file, without a body.
-/

/-- A template of a file.  The command text is what its open tag says after the
keyword. -/
structure Template where
  id : Nat
  kind : TemplateKind
  commandText : String
  doc : Option String
  location : Location
  displayName : String
  body : Option (Body RawText)
deriving DecidableEq, Repr

namespace Template

/-- The name in a command text: its first word. -/
def nameIn (commandText : String) : String := String.ofList (Text.firstWord commandText.toList)

/-- The name that messages show: a basic template's partial name is preceded by
the namespace of the file, if there is one. -/
def qualifiedName (kind : TemplateKind) (namespaceName : Option String) (name : String) : String :=
  match kind, namespaceName with
  | .basic, some namespaceName => if name.toList.head? = some '.' then namespaceName ++ name else name
  | _, _ => name

/-- A template as its open tag declares it, with no body yet. -/
def declare (id : Nat) (kind : TemplateKind) (commandText : String) (doc : Option String) (location : Location)
    (namespaceName : Option String) : Template where
  id := id
  kind := kind
  commandText := commandText
  doc := doc
  location := location
  displayName := qualifiedName kind namespaceName (nameIn commandText)
  body := none

/-- The name as written in the open tag. -/
def name (template : Template) : String := nameIn template.commandText

/-- Whether the template is a delegate. -/
def isDelegate (template : Template) : Bool := template.kind == .delegate

/-- Whether the body of the template was parsed. -/
def isParsed (template : Template) : Bool := template.body.isSome

end Template

end TemplateFile
