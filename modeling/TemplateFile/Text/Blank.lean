import TemplateFile.Text.CodeTable

namespace TemplateFile
namespace Text

/-!
# Blank characters

Blank characters are those with the property White_Space.  They separate the
words of a text and are what trimming takes away.  The information separators
U+001C to U+001F and the zero-width space U+200B are not blank.
-/

/-- The codes of the characters with the property White_Space. -/
def blankCodes : CodeTable :=
  [⟨0x09, 0x0D⟩, ⟨0x20, 0x20⟩, ⟨0x85, 0x85⟩, ⟨0xA0, 0xA0⟩, ⟨0x1680, 0x1680⟩,
   ⟨0x2000, 0x200A⟩, ⟨0x2028, 0x2029⟩, ⟨0x202F, 0x202F⟩, ⟨0x205F, 0x205F⟩, ⟨0x3000, 0x3000⟩]

/-- Whether a character is blank. -/
def isBlank (character : Char) : Bool := blankCodes.covers character.toNat

/-- A character that is not blank is none of those that are. -/
theorem ne_of_isBlank {blank character : Char} (accepted : isBlank blank = true) (rejected : isBlank character = false) :
    character ≠ blank := by
  rintro rfl
  rw [accepted] at rejected
  cases rejected

/-- A text without the blanks it begins with. -/
def trimStart (text : List Char) : List Char := text.dropWhile isBlank

/-- A text without the blanks it ends with. -/
def trimEnd (text : List Char) : List Char := (text.reverse.dropWhile isBlank).reverse

/-- A text without the blanks at either end. -/
def trim (text : List Char) : List Char := trimEnd (trimStart text)

/-- The first stretch of characters that are not blank, empty if there is none. -/
def firstWord (text : List Char) : List Char :=
  (trimStart text).takeWhile fun character => !isBlank character

end Text
end TemplateFile
