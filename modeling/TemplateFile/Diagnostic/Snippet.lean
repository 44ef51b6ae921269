import TemplateFile.Diagnostic.Log
import TemplateFile.Source.Line
import TemplateFile.Text.Blank

namespace TemplateFile

/-!
# Showing a diagnostic

A diagnostic is shown as its message, its location and, when the line of the
location is in the text, a snippet of three lines: an empty gutter, the line
without its indentation, and a caret under the character where the problem
begins.  The indentation that is taken away moves the caret to the left by as
many columns.
-/

namespace Diagnostic

/-- Whether a character is indentation. -/
def isIndent (character : Char) : Bool := character == ' ' || character == '\t'

/-- The gutter, the line with its number, and the caret under a column. -/
def snippet (line : List Char) (place : Place) : List String :=
  let number := toString place.line
  let gutter := ['|'].leftpad (number.length + 2) ' '
  let indent := (line.takeWhile isIndent).length
  let caret := ['^'].leftpad (max 1 (place.column - indent)) '-'
  [String.ofList gutter,
   number ++ " | " ++ String.ofList (Text.trimEnd (line.drop indent)),
   String.ofList (gutter ++ ' ' :: caret)]

/-- The message, with the tip in parentheses. -/
def headline (diagnostic : Diagnostic) : String :=
  match diagnostic.tip with
  | some tip => "Error: " ++ diagnostic.message ++ " (" ++ tip ++ ")"
  | none => "Error: " ++ diagnostic.message

/-- The lines that show a diagnostic about `source`. -/
def display (diagnostic : Diagnostic) (source : String) : List String :=
  [diagnostic.headline, "-> " ++ diagnostic.location.text] ++
    match Source.line? source diagnostic.location.first.line with
    | some line => snippet line.toList diagnostic.location.first
    | none => []

end Diagnostic

end TemplateFile
