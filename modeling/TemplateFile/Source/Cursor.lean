import TemplateFile.Source.Place

namespace TemplateFile

/-!
# Byte offsets into a text

A byte offset names a place in a text only when it stands between two
characters; `splitAtByte?` refuses every other number.  A cursor is a text
with an offset that may be moved freely: what it can show of the text is asked
of `splitAtByte?`, so an offset inside a character or past the end shows
nothing rather than something wrong.
-/

namespace Source

/-- The number of bytes that encode a text. -/
def byteCount : List Char -> Nat
  | [] => 0
  | character :: text => character.utf8Size + byteCount text

/-- The text before and after a byte offset, if the offset stands between two
characters or at either end. -/
def splitAtByte? : List Char -> Nat -> Option (List Char × List Char)
  | text, 0 => some ([], text)
  | [], _ + 1 => none
  | character :: text, offset + 1 =>
      if character.utf8Size ≤ offset + 1 then
        (splitAtByte? text (offset + 1 - character.utf8Size)).map fun (before, after) =>
          (character :: before, after)
      else none

/-- The position at a byte offset. -/
def positionAt? (text : List Char) (offset : Nat) : Option Position :=
  (splitAtByte? text offset).map fun (before, _) => Position.start.advance before

/-- The span of the text between two byte offsets. -/
def spanBetween? (text : List Char) (opening closing : Nat) : Option Span := do
  let (head, _) ← splitAtByte? text closing
  let (before, inside) ← splitAtByte? head opening
  return Span.ofText (Position.start.advance before) inside

end Source

/-- A text and a byte offset into it. -/
structure Cursor where
  source : List Char
  offset : Nat

namespace Cursor

/-- The cursor before the first character. -/
def ofSource (source : String) : Cursor := ⟨source.toList, 0⟩

/-- The cursor moved on by a number of bytes, wherever that leads. -/
def advance (cursor : Cursor) (bytes : Nat) : Cursor := { cursor with offset := cursor.offset + bytes }

/-- Whether the cursor stands at the end of the text or beyond it. -/
def isAtEnd (cursor : Cursor) : Bool := decide (Source.byteCount cursor.source ≤ cursor.offset)

/-- The text from the cursor on. -/
def remainder? (cursor : Cursor) : Option (List Char) :=
  (Source.splitAtByte? cursor.source cursor.offset).map Prod.snd

end Cursor

end TemplateFile
