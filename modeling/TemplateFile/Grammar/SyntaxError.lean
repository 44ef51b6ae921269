import TemplateFile.Diagnostic.Log
import TemplateFile.TemplateKind
import TemplateFile.Text.Quoted
import TemplateFile.Text.Search

namespace TemplateFile

/-!
# Syntax errors

The grammar of a file stops at the first token that cannot stand where it
stands.  Either the token is a piece of text that no rule accepts at all, or
it is a good token in the wrong place, and then the error says what could have
stood there.
-/

/-- What is wrong with a token, which is quoted by `text`. -/
inductive SyntaxFault where
  | unrecognised (text : String)
  | unexpected (text : String) (expected : String)
deriving DecidableEq, Repr

namespace SyntaxFault

/-- The name of the kind of fault. -/
def label : SyntaxFault -> String
  | unrecognised _ => "UnrecognisedToken"
  | unexpected _ _ => "UnexpectedToken"

/-- The message about the fault. -/
def message : SyntaxFault -> String
  | unrecognised text => "unrecognised input " ++ Text.quote text
  | unexpected text expected => "unexpected token " ++ Text.quote text ++ " (expected " ++ expected ++ ")"

/-- A tip for mending the fault.  Text that no rule accepts has one if it
begins like a construct that was never closed. -/
def tip : SyntaxFault -> Option String
  | unrecognised text =>
      if TemplateKind.basic.keyword <+: text.toList then
        some "Template is missing its \x7b/template\x7d closing tag"
      else if TemplateKind.delegate.keyword <+: text.toList then
        some "Template is missing its \x7b/deltemplate\x7d closing tag"
      else if ['/', '*'] <+: text.toList then
        some "Comment is missing its closing */"
      else none
  | unexpected text expected => some ("Unexpected token: `" ++ text ++ "`, expected " ++ expected)

end SyntaxFault

/-- A fault and the location of its token. -/
structure SyntaxError where
  fault : SyntaxFault
  location : Location
deriving DecidableEq, Repr

namespace SyntaxError

/-- The report of the error. -/
def toReport (error : SyntaxError) : Report :=
  ⟨error.location, .syntaxError, [error.fault.message], error.fault.tip⟩

end SyntaxError

end TemplateFile
