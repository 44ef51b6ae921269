import TemplateFile.TemplateKind
import TemplateFile.Text.Blank
import TemplateFile.Text.Numeral
import TemplateFile.Text.Search

namespace TemplateFile
namespace TemplateText

/-!
# The parts of a template's text

The text of a template is cut again into the command text inside its open tag
and the body between its two tags.  Only the first closing brace and the last
opening brace matter for the cut.

Messages about a body count lines from the beginning of the body.
`shiftLineNumber` moves the first line number of such a message to where the
template stands in its file.
-/

/-- The command text: what stands in the open tag after the keyword, without
the blanks around it. -/
def commandText (kind : TemplateKind) (text : List Char) : List Char :=
  let openTag := match Text.cutAt? ['}'] text with
    | some (before, _) => before
    | none => text
  Text.trim ((Text.dropWord? kind.keyword openTag).getD openTag)

/-- The body: what stands between the first closing brace and the last opening
one.  It is empty if the braces stand the other way round. -/
def bodyText (text : List Char) : List Char :=
  let start := match Text.cutAt? ['}'] text with
    | some (before, _) => before.length + 1
    | none => 0
  let stop := match Text.cutAt? ['{'] text.reverse with
    | some (_, before) => before.length
    | none => text.length
  (text.take stop).drop start

/-- The text before the first line number of a message, its digits, and what
follows them.  A line number is the word `line`, a space and a run of decimal
digits. -/
def lineNumber? : List Char -> Option (List Char × List Char × List Char)
  | [] => none
  | character :: text =>
      match Text.dropWord? "line ".toList (character :: text) with
      | some (digit :: rest) =>
          if Text.isDecimalDigit digit then
            some ("line ".toList, digit :: rest.takeWhile Text.isDecimalDigit, rest.dropWhile Text.isDecimalDigit)
          else (lineNumber? text).map fun (before, digits, after) => (character :: before, digits, after)
      | _ => (lineNumber? text).map fun (before, digits, after) => (character :: before, digits, after)

/-- A message with its first line number raised by `offset`.  The message stays
as it is if it has no line number, or one that is not written in ASCII digits
or does not fit in sixty-four bits before or after. -/
def shiftLineNumber (message : String) (offset : Nat) : String :=
  match lineNumber? message.toList with
  | some (before, digits, after) =>
      match Text.numeral? digits with
      | some line =>
          if line + offset < Text.numeralLimit then
            String.ofList (before ++ Nat.toDigits 10 (line + offset) ++ after)
          else message
      | none => message
  | none => message

end TemplateText
end TemplateFile
