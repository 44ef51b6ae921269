namespace TemplateFile

/-!
# Places in a text

A place is a line and a column, both counted from one; a column counts
characters, and only a line feed ends a line.  A position is a place that also
knows how many bytes of encoded text lie before it.  Every position of a text
is reached from `Position.start` by `Position.advance`, one character at a
time, so the three numbers never have to be reconciled afterwards.

A span names a stretch of text by the positions of its first and of its last
character, not of the character after it.
-/

/-- A line and a column of a text, both counted from one. -/
structure Place where
  line : Nat
  column : Nat
deriving DecidableEq, Repr

namespace Place

/-- The place of the first character of a text. -/
def start : Place := ⟨1, 1⟩

/-- The place after a character: a line feed opens the next line. -/
def next (place : Place) (character : Char) : Place :=
  if character = '\n' then ⟨place.line + 1, 1⟩ else ⟨place.line, place.column + 1⟩

end Place

/-- A place together with the number of bytes before it. -/
structure Position extends Place where
  offset : Nat
deriving DecidableEq, Repr

namespace Position

/-- The position of the first character of a text. -/
def start : Position := ⟨Place.start, 0⟩

/-- The position after a character. -/
def next (position : Position) (character : Char) : Position :=
  ⟨position.toPlace.next character, position.offset + character.utf8Size⟩

/-- The position after a stretch of text. -/
def advance (position : Position) (text : List Char) : Position :=
  text.foldl next position

@[simp] theorem advance_nil (position : Position) : position.advance [] = position := rfl

@[simp] theorem advance_cons (position : Position) (character : Char) (text : List Char) :
    position.advance (character :: text) = (position.next character).advance text := rfl

/-- Passing over two stretches is passing over their concatenation. -/
@[simp] theorem advance_append (position : Position) (left right : List Char) :
    position.advance (left ++ right) = (position.advance left).advance right := by
  simp only [advance, List.foldl_append]

end Position

/-- A stretch of text, named by the positions of its first and last characters. -/
structure Span where
  first : Position
  last : Position
deriving DecidableEq, Repr

namespace Span

/-- The span of `text` when it begins at `position`.  An empty stretch has no
last character and is given the position where it stands. -/
def ofText (position : Position) (text : List Char) : Span :=
  ⟨position, position.advance text.dropLast⟩

end Span

end TemplateFile
