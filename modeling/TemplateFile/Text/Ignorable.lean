import TemplateFile.Text.CodeTable

namespace TemplateFile
namespace Text

/-!
# Ignorable characters

A character with the property Default_Ignorable_Code_Point is shown as nothing
at all where it has no special support.  Most of these characters are format
characters or attach to another one; the four Hangul fillers are letters, so no
other property tells that they cannot be seen.  The property is that of version
17 of the Unicode standard.
-/

/-- The codes with the property Default_Ignorable_Code_Point. -/
def ignorableCodes : CodeTable :=
  [⟨0xAD, 0xAD⟩, ⟨0x34F, 0x34F⟩, ⟨0x61C, 0x61C⟩, ⟨0x115F, 0x1160⟩, ⟨0x17B4, 0x17B5⟩,
   ⟨0x180B, 0x180F⟩, ⟨0x200B, 0x200F⟩, ⟨0x202A, 0x202E⟩, ⟨0x2060, 0x206F⟩, ⟨0x3164, 0x3164⟩,
   ⟨0xFE00, 0xFE0F⟩, ⟨0xFEFF, 0xFEFF⟩, ⟨0xFFA0, 0xFFA0⟩, ⟨0xFFF0, 0xFFF8⟩, ⟨0x1BCA0, 0x1BCA3⟩,
   ⟨0x1D173, 0x1D17A⟩, ⟨0xE0000, 0xE0FFF⟩]

/-- Whether a character is shown as nothing. -/
def isIgnorable (character : Char) : Bool := ignorableCodes.covers character.toNat

end Text
end TemplateFile
