import TemplateFile.Text.GraphemeExtender
import TemplateFile.Text.Ignorable
import TemplateFile.Text.Printable

namespace TemplateFile
namespace Text

/-!
# Quoted text

Messages quote the text they talk about between double quotes.  A quote, a
backslash and the four common control characters get short escapes; any other
character that would not be seen as itself is written as `\u` and its code in
hexadecimal between braces, with no leading zeros.  All else stands as it is.

A character is not seen as itself if it is unprintable or ignorable, or if it
attaches to the character before it.  The two sound marks of halfwidth Katakana
attach as well, but they are drawn in a cell of their own like any letter.
-/

/-- Whether a character is one of the two halfwidth Katakana sound marks. -/
def isHalfwidthSoundMark (character : Char) : Bool :=
  character == '\uFF9E' || character == '\uFF9F'

/-- Whether a character would not be seen as itself. -/
def isHidden (character : Char) : Bool :=
  isUnprintable character || isIgnorable character ||
    (isGraphemeExtender character && !isHalfwidthSoundMark character)

/-- The written form of one character inside a quoted text. -/
def escape (character : Char) : List Char :=
  match character with
  | '\x00' => ['\\', '0']
  | '\t' => ['\\', 't']
  | '\r' => ['\\', 'r']
  | '\n' => ['\\', 'n']
  | '\\' => ['\\', '\\']
  | '"' => ['\\', '"']
  | character =>
      if isHidden character then
        ['\\', 'u', '{'] ++ Nat.toDigits 16 character.toNat ++ ['}']
      else [character]

/-- A text between double quotes, with every character in its written form. -/
def quote (text : String) : String :=
  String.ofList (['"'] ++ text.toList.flatMap escape ++ ['"'])

end Text
end TemplateFile
