import TemplateFile.Diagnostic.Snippet
import TemplateFile.Proofs.Source.Lines
import TemplateFile.Proofs.Text.Stretch

namespace TemplateFile

/-!
# Where the caret points

A place is shown by its line and by a caret under it.  The line has lost its
indentation, and the caret has moved to the left by as much.  Because the
indentation ends before the place, the caret is never moved too far, and because
the character at the place is neither a blank nor the end of the line, it is
still there to be pointed at.
-/

namespace Text

/-- Trimming stops at a character that is not blank. -/
theorem trimEnd_append_cons {character : Char} (notBlank : isBlank character = false) (before after : List Char) :
    trimEnd (before ++ character :: after) = before ++ character :: trimEnd after := by
  have reversed : (before ++ character :: after).reverse = after.reverse ++ character :: before.reverse := by
    rw [List.reverse_append, List.reverse_cons, List.append_assoc, List.singleton_append]
  rw [trimEnd, reversed, dropWhile_append_cons notBlank, List.reverse_append, List.reverse_cons, List.reverse_reverse,
    List.append_assoc, List.singleton_append, trimEnd]

end Text

namespace Diagnostic

/-- A code line and a caret line show a place of a line.  The code line is the
number of the line, a bar, and the line without its indentation and without the
blanks at its end.  In the caret line stand another bar and, after some dashes,
the caret.  The indentation and the dashes are all that comes before the place
in its line. -/
structure ShowsPlace (line : List Char) (place : Place) (dashes : Nat) (code caret : String) : Prop where
  columns : (line.takeWhile isIndent).length + dashes + 1 = place.column
  code : code.toList = (toString place.line).toList ++ " | ".toList ++ Text.trimEnd (line.dropWhile isIndent)
  caret : caret.toList =
    List.replicate ((toString place.line).length + 1) ' ' ++ "| ".toList ++ (List.replicate dashes '-' ++ ['^'])

namespace ShowsPlace

variable {line : List Char} {place : Place} {dashes : Nat} {code caret : String}

/-- The two bars stand in one column. -/
theorem bars (shows : ShowsPlace line place dashes code caret) :
    code.toList[(toString place.line).length + 1]? = some '|' ∧
      caret.toList[(toString place.line).length + 1]? = some '|' := by
  constructor
  · rw [shows.code, List.append_assoc, List.getElem?_append_right (by rw [String.length_toList]; omega),
      String.length_toList, Nat.add_sub_cancel_left]
    rfl
  · rw [shows.caret, List.append_assoc, List.getElem?_append_right (by rw [List.length_replicate]),
      List.length_replicate, Nat.sub_self]
    rfl

/-- The caret stands under the code where as much has been passed as there are dashes. -/
theorem getElem?_caret (shows : ShowsPlace line place dashes code caret) :
    caret.toList[(toString place.line).length + 3 + dashes]? = some '^' := by
  have front : (List.replicate ((toString place.line).length + 1) ' ' ++ "| ".toList ++
      List.replicate dashes '-').length = (toString place.line).length + 3 + dashes := by
    rw [List.length_append, List.length_append, List.length_replicate, List.length_replicate]
    rfl
  rw [shows.caret, ← List.append_assoc, ← front, List.getElem?_concat_length]

/-- Above the caret stands what is at the place. -/
theorem getElem?_code (shows : ShowsPlace line place dashes code caret) :
    code.toList[(toString place.line).length + 3 + dashes]? = (Text.trimEnd (line.dropWhile isIndent))[dashes]? := by
  have front : ((toString place.line).toList ++ " | ".toList).length = (toString place.line).length + 3 := by
    rw [List.length_append, String.length_toList]
    rfl
  rw [shows.code, List.getElem?_append_right (by rw [front]; omega), front, Nat.add_sub_cancel_left]

end ShowsPlace

/-- A place is shown by the snippet of its line, if the indentation of the line ends before it. -/
theorem exists_snippet {line : List Char} {place : Place} {dashes : Nat}
    (columns : (line.takeWhile isIndent).length + dashes + 1 = place.column) :
    ∃ gutter code caret, snippet line place = [gutter, code, caret] ∧ ShowsPlace line place dashes code caret := by
  refine ⟨_, _, _, rfl, ?_⟩
  exact {
    columns := columns
    code := by
      rw [String.toList_append, String.toList_append, Text.drop_length_takeWhile, String.toList_ofList,
        String.toList_ofList]
    caret := by
      have moved : max 1 (place.column - (line.takeWhile isIndent).length) = dashes + 1 := by omega
      rw [String.toList_ofList, moved, List.leftpad, List.leftpad, List.append_assoc, List.append_assoc]
      rfl }

theorem isIndent_of_not_isBlank {character : Char} (notBlank : Text.isBlank character = false) :
    isIndent character = false := by
  refine Bool.eq_false_iff.mpr fun indents => ?_
  rcases Bool.or_eq_true_iff.mp indents with isSpace | isTab
  · exact Text.ne_of_isBlank (by decide) notBlank (beq_iff_eq.mp isSpace)
  · exact Text.ne_of_isBlank (by decide) notBlank (beq_iff_eq.mp isTab)

/-- The line of a visible character still has the character after as many others as there are columns
before it, those of the indentation not counted. -/
theorem exists_line_of_visible {source : String} {before after : List Char} {character : Char}
    (parts : source.toList = before ++ character :: after) (notBlank : Text.isBlank character = false) :
    ∃ line dashes, Source.line? source (Position.after before).line = some line ∧
      (line.toList.takeWhile isIndent).length + dashes + 1 = (Position.after before).column ∧
      (Text.trimEnd (line.toList.dropWhile isIndent))[dashes]? = some character := by
  have notIndent := isIndent_of_not_isBlank notBlank
  have inLine : character ≠ '\n' := Text.ne_of_isBlank (by decide) notBlank
  have notReturn : character ≠ '\r' := Text.ne_of_isBlank (by decide) notBlank
  have found := Source.line?_after parts
  rw [List.takeWhile_cons, if_pos (bne_iff_ne.mpr inLine), Source.dropReturn_append_cons notReturn] at found
  have length := congrArg List.length (List.takeWhile_append_dropWhile (p := isIndent) (l := Source.lastLine before))
  rw [List.length_append] at length
  refine ⟨_, ((Source.lastLine before).dropWhile isIndent).length, found, ?_, ?_⟩
  · rw [String.toList_ofList, Text.takeWhile_append_cons notIndent, length, Position.column_after, Nat.add_comm]
  · rw [String.toList_ofList, Text.dropWhile_append_cons notIndent, Text.trimEnd_append_cons notBlank,
      List.getElem?_append_right (Nat.le_refl _), Nat.sub_self, List.getElem?_cons_zero]

/-- The indentation of the last line ends before the end of the text. -/
theorem exists_line_of_end (source : String) :
    ∃ line dashes, Source.line? source (Position.after source.toList).line = some line ∧
      (line.toList.takeWhile isIndent).length + dashes + 1 = (Position.after source.toList).column := by
  have found := Source.line?_after (List.append_nil source.toList).symm
  rw [List.takeWhile_nil, List.append_nil] at found
  have shorter := (List.takeWhile_prefix (p := isIndent) (l := Source.dropReturn (Source.lastLine source.toList))).length_le
  have shown := Source.length_dropReturn_le (Source.lastLine source.toList)
  refine ⟨_, (Source.lastLine source.toList).length -
    ((Source.dropReturn (Source.lastLine source.toList)).takeWhile isIndent).length, found, ?_⟩
  rw [String.toList_ofList, Position.column_after]
  omega

end Diagnostic

end TemplateFile
