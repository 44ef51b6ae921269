import TemplateFile.Proofs.Text.FirstOccurrence
import TemplateFile.Proofs.Text.Stretch
import TemplateFile.Tree.TemplateText

namespace TemplateFile

/-!
# Cutting the text of a template again

The text of a template is its open tag, its body and its closing tag.  A
closing brace ends the open tag, and no opening brace stands in the closing tag
except at its front.  So the first closing brace and the last opening brace of
the whole text are enough to find the parts again.
-/

namespace Text

theorem trimStart_append {blanks text : List Char}
    (allBlank : forall character, character ∈ blanks -> isBlank character = true) (stops : Stops isBlank text) :
    trimStart (blanks ++ text) = text := dropWhile_append_of_stops allBlank stops

theorem trimEnd_append {blanks text : List Char}
    (allBlank : forall character, character ∈ blanks -> isBlank character = true)
    (stops : Stops isBlank text.reverse) : trimEnd (text ++ blanks) = text := by
  rw [trimEnd, List.reverse_append, dropWhile_append_of_stops _ stops, List.reverse_reverse]
  intro character member
  exact allBlank character (List.mem_reverse.mp member)

/-- Trimming takes away the blanks on both sides of a text that has none at its ends. -/
theorem trim_append {before after text : List Char} (notEmpty : text ≠ [])
    (beforeBlank : forall character, character ∈ before -> isBlank character = true)
    (afterBlank : forall character, character ∈ after -> isBlank character = true)
    (begins : Stops isBlank text) (ends : Stops isBlank text.reverse) :
    trim (before ++ (text ++ after)) = text := by
  have beginsLater : Stops isBlank (text ++ after) := by
    cases text with
    | nil => exact absurd rfl notEmpty
    | cons first others => exact stops_cons_iff.mpr (stops_cons_iff.mp begins)
  rw [trim, trimStart_append beforeBlank beginsLater, trimEnd_append afterBlank ends]

end Text

namespace TemplateKind

theorem brace_notMem_keyword (kind : TemplateKind) : '\x7d' ∉ kind.keyword := by
  cases kind <;> decide

/-- The only opening brace of a closing tag is its first character. -/
theorem closer_eq (kind : TemplateKind) : ∃ letters, kind.closer = '{' :: letters ∧ '{' ∉ letters := by
  cases kind
  all_goals exact ⟨_, rfl, by decide⟩

end TemplateKind

namespace TemplateText

variable {kind : TemplateKind} {openTag body : List Char}

theorem cutAt?_openTag (free : '\x7d' ∉ openTag) (rest : List Char) :
    Text.cutAt? ['\x7d'] (openTag ++ ['\x7d'] ++ rest) = some (openTag, rest) := by
  rw [List.append_assoc]
  exact Text.cutAt?_eq_some_iff.mpr (Text.FirstAt.of_notMem free rest)

/-- The command text is what the open tag says after the keyword, trimmed. -/
theorem commandText_append {inside : List Char} (free : '\x7d' ∉ inside) (rest : List Char) :
    commandText kind (kind.keyword ++ inside ++ ['\x7d'] ++ rest) = Text.trim inside := by
  have openFree : '\x7d' ∉ kind.keyword ++ inside := by
    intro member
    rcases List.mem_append.mp member with inKeyword | inInside
    · exact kind.brace_notMem_keyword inKeyword
    · exact free inInside
  have dropped : Text.dropWord? kind.keyword (kind.keyword ++ inside) = some inside :=
    Text.dropWord?_eq_some_iff.mpr rfl
  simp only [commandText, cutAt?_openTag openFree, dropped, Option.getD_some]

/-- The last opening brace of a text that ends with a closing tag begins the tag. -/
theorem exists_cutAt?_closer (kind : TemplateKind) (text : List Char) :
    ∃ letters, kind.closer = '{' :: letters ∧
      Text.cutAt? ['{'] (text ++ kind.closer).reverse = some (letters.reverse, text.reverse) := by
  rcases kind.closer_eq with ⟨letters, isCloser, noBrace⟩
  have reversed : (text ++ kind.closer).reverse = letters.reverse ++ '{' :: text.reverse := by
    simp only [isCloser, List.reverse_append, List.reverse_cons, List.append_assoc, List.cons_append, List.nil_append]
  have noBraceReversed : '{' ∉ letters.reverse := fun member => noBrace (List.mem_reverse.mp member)
  refine ⟨letters, isCloser, ?_⟩
  rw [reversed]
  exact Text.cutAt?_eq_some_iff.mpr (Text.FirstAt.of_notMem noBraceReversed _)

/-- The body is what stands between the two tags. -/
theorem bodyText_append (free : '\x7d' ∉ openTag) (body : List Char) :
    bodyText (openTag ++ ['\x7d'] ++ (body ++ kind.closer)) = body := by
  rcases exists_cutAt?_closer kind (openTag ++ ['\x7d'] ++ body) with ⟨letters, _, last⟩
  rw [List.append_assoc _ body] at last
  have opened : (openTag ++ ['\x7d']).length = openTag.length + 1 := by
    rw [List.length_append, List.length_singleton]
  simp only [bodyText, last, cutAt?_openTag free, List.length_reverse]
  rw [← List.append_assoc, List.take_left, ← opened, List.drop_left]

end TemplateText
end TemplateFile
