import TemplateFile.Source.Line
import TemplateFile.Source.Place
import TemplateFile.Text.Search
import TemplateFile.Token.Kind

namespace TemplateFile

/-!
# Tokens

A token has a kind, a value, a span in the file and, perhaps, a documentation
comment that stood before it.  What a message quotes of a token is shorter
than its value where the value may run over many lines: a template is quoted
by its open tag, and an unexpected piece of text by its first line.
-/

/-- A token of a file. -/
structure Token where
  kind : TokenKind
  value : String
  span : Span
  doc : Option String
deriving DecidableEq, Repr

namespace Token

/-- The text up to and including the first closing brace, or all of it. -/
def openTagOf (text : List Char) : List Char :=
  match Text.cutAt? ['}'] text with
  | some (before, _) => before ++ ['}']
  | none => text

/-- The first line of a text, without its ending. -/
def firstLineOf (text : List Char) : List Char :=
  match Text.cutAt? ['\n'] text with
  | some (line, _) => Source.dropReturn line
  | none => text

/-- What a message quotes of a token. -/
def displayText (token : Token) : String :=
  match token.kind with
  | .endOfFile => "end of file"
  | .template _ => String.ofList (openTagOf token.value.toList)
  | .unexpected => String.ofList (firstLineOf token.value.toList)
  | _ => token.value

/-- The written form of a token's kind and value. -/
def text (token : Token) : String :=
  "Token \x7b\nkind: " ++ token.kind.label ++ ",\nvalue: " ++ token.value ++ "\x7d"

/-- The token that ends a file, at the position after its last character. -/
def endOfFile (position : Position) : Token := ⟨.endOfFile, "EOF", ⟨position, position⟩, none⟩

end Token

end TemplateFile
