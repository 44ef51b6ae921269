import TemplateFile.Source.Place

namespace TemplateFile

/-!
# Locations in a file

A location is what a reader is told about a stretch of a file: the path and
the places of the first and last characters.  A problem that belongs to no
stretch of the text has a location that only names the file.
-/

/-- A file's path and a stretch of its text. -/
structure Location where
  path : String
  first : Place
  last : Place
deriving DecidableEq, Repr

namespace Location

/-- The location that only names the file.  Line zero is no line of a text. -/
def unknown (path : String) : Location := ⟨path, ⟨0, 0⟩, ⟨0, 0⟩⟩

/-- The location of a single place. -/
def ofPlace (path : String) (place : Place) : Location := ⟨path, place, place⟩

/-- The location from the beginning of one span to the end of another. -/
def between (path : String) (opening closing : Span) : Location :=
  ⟨path, opening.first.toPlace, closing.last.toPlace⟩

/-- The location of one span. -/
def ofSpan (path : String) (span : Span) : Location := between path span span

/-- Whether the location names a place in the file and not the file alone. -/
def isKnown (location : Location) : Bool := decide (0 < location.first.line)

/-- The written form, `path:line:column`, or the path alone. -/
def text (location : Location) : String :=
  if location.isKnown then
    location.path ++ ":" ++ toString location.first.line ++ ":" ++ toString location.first.column
  else
    location.path

end Location

end TemplateFile
