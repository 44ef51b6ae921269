import TemplateFile.Diagnostic.Log
import TemplateFile.Tree.RawText

namespace TemplateFile

/-!
# Body parsers

The content of a template is not the business of the file grammar: each body
is cut out and handed to a body parser, with the place where the template
begins.  The answer is what the body parser wants reported, and either the
body in passages or one failure.  A body parser gives no ids; the passages it
hands over are numbered by the file grammar.
-/

/-- A template body to be parsed. -/
structure BodyRequest where
  text : String
  path : String
  start : Place
deriving DecidableEq, Repr

namespace BodyRequest

/-- The location of the place where the template begins. -/
def location (request : BodyRequest) : Location := Location.ofPlace request.path request.start

end BodyRequest

/-- Which part of body parsing failed. -/
inductive BodyFailureKind where
  | parse
  | lexical
  | legacySyntax
deriving DecidableEq, Repr

namespace BodyFailureKind

/-- The name of the kind of failure. -/
def label : BodyFailureKind -> String
  | parse => "ParseError"
  | lexical => "LexerError"
  | legacySyntax => "LegacySyntaxError"

end BodyFailureKind

/-- Why a body could not be parsed.  Lines in the message are counted by the
body parser's own reckoning. -/
structure BodyFailure where
  kind : BodyFailureKind
  message : String
deriving DecidableEq, Repr

namespace BodyFailure

/-- The written form of the failure. -/
def text (failure : BodyFailure) : String := failure.message

end BodyFailure

/-- What a body parser says about one body. -/
structure BodyAnswer where
  reports : List Report
  outcome : Except BodyFailure (Body Passage)

/-- A body parser. -/
abbrev BodyParser := BodyRequest -> BodyAnswer

namespace BodyParser

/-- The end of a body that begins at `start`: on the same line it is measured
from there, and otherwise by the last line of the text. -/
def lastPlace (start : Place) (text : List Char) : Place :=
  let breaks := text.count '\n'
  if breaks = 0 then ⟨start.line, start.column + text.length - 1⟩
  else ⟨start.line + breaks, max 1 (text.reverse.takeWhile fun character => character != '\n').length⟩

/-- The body parser that keeps the whole text as one passage.  An empty body
has no passage. -/
def raw : BodyParser := fun request =>
  let passages :=
    if request.text.isEmpty then []
    else [⟨request.text, ⟨request.path, request.start, lastPlace request.start request.text.toList⟩⟩]
  ⟨[], .ok ⟨[], passages⟩⟩

end BodyParser

/-- Body parsers for the first template of a file, the second one, and so on. -/
abbrev BodyScript := Nat -> BodyParser

namespace BodyScript

/-- The same body parser for every template. -/
def always (parser : BodyParser) : BodyScript := fun _ => parser

end BodyScript

end TemplateFile
