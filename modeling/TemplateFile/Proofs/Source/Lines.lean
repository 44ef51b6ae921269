import TemplateFile.Proofs.Source.Counting
import TemplateFile.Proofs.Text.FirstOccurrence
import TemplateFile.Source.Line

namespace TemplateFile

/-!
# The line around a place

A place in a text cuts its line in two: what comes before it in the line is the
text after the last line feed, and the rest of the line runs up to the next
one.  The line feeds before the place count the line and the characters after
the last of them count the column.
-/

namespace Source

/-- The text after the last line feed. -/
def lastLine (text : List Char) : List Char := (text.reverse.takeWhile fun character => character != '\n').reverse

theorem lastLine_append_lineFeed (text : List Char) : lastLine (text ++ ['\n']) = [] := by
  rw [lastLine, List.reverse_append, List.reverse_singleton, List.singleton_append,
    List.takeWhile_cons_of_neg (by decide), List.reverse_nil]

theorem lastLine_append_singleton (text : List Char) {character : Char} (inLine : character ≠ '\n') :
    lastLine (text ++ [character]) = lastLine text ++ [character] := by
  rw [lastLine, List.reverse_append, List.reverse_singleton, List.singleton_append,
    List.takeWhile_cons, if_pos (bne_iff_ne.mpr inLine), List.reverse_cons, ← lastLine]

/-- Text without a line feed goes on with the line. -/
theorem lastLine_append_of_notMem (text : List Char) {more : List Char} (free : '\n' ∉ more) :
    lastLine (text ++ more) = lastLine text ++ more := by
  induction more using List.reverseRecOn with
  | nil => rw [List.append_nil, List.append_nil]
  | append_singleton more character inductionHypothesis =>
      have inLine : character ≠ '\n' := fun same => free (same ▸ List.mem_append_right more List.mem_cons_self)
      rw [← List.append_assoc, lastLine_append_singleton _ inLine,
        inductionHypothesis fun member => free (List.mem_append_left _ member), List.append_assoc]

/-- After a line feed it does not matter what the text began with. -/
theorem lastLine_append_of_mem (text : List Char) {more : List Char} (breaks : '\n' ∈ more) :
    lastLine (text ++ more) = lastLine more := by
  induction more using List.reverseRecOn with
  | nil => cases breaks
  | append_singleton more character inductionHypothesis =>
      rw [← List.append_assoc]
      by_cases lineFeed : character = '\n'
      · rw [lineFeed, lastLine_append_lineFeed, lastLine_append_lineFeed]
      · have earlier : '\n' ∈ more := by
          rcases List.mem_append.mp breaks with inMore | last
          · exact inMore
          · exact absurd (List.mem_singleton.mp last).symm lineFeed
        rw [lastLine_append_singleton _ lineFeed, lastLine_append_singleton _ lineFeed, inductionHypothesis earlier]

/-! ## Lines and places -/

theorem lines_cons_lineFeed (text : List Char) : lines ('\n' :: text) = [] :: lines text := if_pos rfl

theorem lines_cons_of_ne {character : Char} (inLine : character ≠ '\n') (text : List Char) :
    ∃ line others, lines text = line :: others ∧ lines (character :: text) = (character :: line) :: others := by
  cases parts : lines text with
  | nil =>
      cases text with
      | nil => cases parts
      | cons first rest =>
          unfold lines at parts
          repeat' split at parts
          all_goals cases parts
  | cons line others =>
      refine ⟨line, others, rfl, ?_⟩
      rw [lines, if_neg inLine, parts]

theorem length_lines (text : List Char) : (lines text).length = text.count '\n' + 1 := by
  induction text with
  | nil => rfl
  | cons character rest inductionHypothesis =>
      by_cases lineFeed : character = '\n'
      · rw [lineFeed, lines_cons_lineFeed, List.length_cons, inductionHypothesis, List.count_cons_self]
      · rcases lines_cons_of_ne lineFeed rest with ⟨line, others, parts, extended⟩
        rw [parts] at inductionHypothesis
        rw [extended, List.count_cons_of_ne lineFeed]
        exact inductionHypothesis

theorem head?_lines (text : List Char) :
    (lines text).head? = some (text.takeWhile fun character => character != '\n') := by
  induction text with
  | nil => rfl
  | cons character rest inductionHypothesis =>
      by_cases lineFeed : character = '\n'
      · rw [lineFeed, lines_cons_lineFeed, List.takeWhile_cons_of_neg (by decide), List.head?_cons]
      · rcases lines_cons_of_ne lineFeed rest with ⟨line, others, parts, extended⟩
        rw [parts, List.head?_cons, Option.some.injEq] at inductionHypothesis
        rw [extended, List.takeWhile_cons, if_pos (bne_iff_ne.mpr lineFeed), List.head?_cons, inductionHypothesis]

/-- A line feed ends the lines before it, and others begin. -/
theorem lines_append_lineFeed (before after : List Char) :
    lines (before ++ '\n' :: after) = lines before ++ lines after := by
  induction before with
  | nil => exact lines_cons_lineFeed after
  | cons character rest inductionHypothesis =>
      rw [List.cons_append]
      by_cases lineFeed : character = '\n'
      · rw [lineFeed, lines_cons_lineFeed, lines_cons_lineFeed, inductionHypothesis, List.cons_append]
      · rcases lines_cons_of_ne lineFeed rest with ⟨line, others, parts, extended⟩
        rcases lines_cons_of_ne lineFeed (rest ++ '\n' :: after) with ⟨whole, others', wholeParts, wholeExtended⟩
        rw [inductionHypothesis, parts, List.cons_append] at wholeParts
        cases wholeParts
        rw [wholeExtended, extended, List.cons_append]

/-- The line around a place. -/
theorem getElem?_lines (before after : List Char) :
    (lines (before ++ after))[before.count '\n']? =
      some (lastLine before ++ after.takeWhile fun character => character != '\n') := by
  induction before using List.reverseRecOn generalizing after with
  | nil => rw [List.count_nil, ← List.head?_eq_getElem?, List.nil_append, head?_lines]; rfl
  | append_singleton before character inductionHypothesis =>
      rw [List.append_assoc, List.singleton_append, List.count_append]
      by_cases lineFeed : character = '\n'
      · rw [lineFeed, List.count_singleton_self, lines_append_lineFeed, ← length_lines,
          List.getElem?_append_right (Nat.le_refl _), Nat.sub_self, ← List.head?_eq_getElem?, head?_lines,
          lastLine_append_lineFeed, List.nil_append]
      · rw [List.count_singleton, if_neg (by rwa [beq_iff_eq]), Nat.add_zero, inductionHypothesis,
          lastLine_append_singleton _ lineFeed, List.takeWhile_cons, if_pos (bne_iff_ne.mpr lineFeed),
          List.append_assoc, List.singleton_append]

end Source

namespace Position

theorem line_after_append (text more : List Char) :
    (after (text ++ more)).line = (after text).line + more.count '\n' := by
  simp only [after, List.count_append, Nat.add_assoc]

/-- The column counts the characters after the last line feed. -/
theorem column_after (text : List Char) : (after text).column = 1 + (Source.lastLine text).length := by
  rw [after, Source.lastLine, List.length_reverse]

end Position

/-! ## Lines as they are shown -/

namespace Source

theorem dropReturn_begins (line : List Char) : dropReturn line <+: line := by
  unfold dropReturn
  split
  · exact List.dropLast_prefix line
  · exact List.prefix_refl line

theorem length_dropReturn_le (line : List Char) : (dropReturn line).length ≤ line.length :=
  (dropReturn_begins line).length_le

/-- A word without a carriage return is not cut off with it. -/
theorem prefix_dropReturn {word line : List Char} (noReturn : '\r' ∉ word) (begins : word <+: line) :
    word <+: dropReturn line := by
  unfold dropReturn
  split
  · next ends =>
      rcases List.getLast?_eq_some_iff.mp ends with ⟨front, rfl⟩
      rw [List.dropLast_concat]
      exact Text.prefix_of_notMem noReturn begins
  · exact begins

/-- Only what follows the last visible character is lost. -/
theorem dropReturn_append_cons {character : Char} (notReturn : character ≠ '\r') (before after : List Char) :
    dropReturn (before ++ character :: after) = before ++ character :: dropReturn after := by
  cases after using List.reverseRecOn with
  | nil =>
      have last : (before ++ [character]).getLast? ≠ some '\r' := by
        rw [List.getLast?_concat]
        exact fun same => notReturn (Option.some.inj same)
      exact if_neg last
  | append_singleton front final =>
      have parts : before ++ character :: (front ++ [final]) = before ++ character :: front ++ [final] := by
        rw [List.append_assoc, List.cons_append]
      rw [parts, dropReturn, dropReturn, List.getLast?_concat, List.getLast?_concat, List.dropLast_concat,
        List.dropLast_concat]
      split
      · rfl
      · rw [List.append_assoc, List.cons_append]

/-- The line around a place, as it is found. -/
theorem line?_after {source : String} {before after : List Char} (parts : source.toList = before ++ after) :
    line? source (Position.after before).line =
      some (String.ofList (dropReturn (lastLine before ++ after.takeWhile fun character => character != '\n'))) := by
  have number : (Position.after before).line = before.count '\n' + 1 := Nat.add_comm _ _
  rw [line?, number, if_neg (Nat.succ_ne_zero _), Nat.add_sub_cancel, parts, getElem?_lines, Option.map_some]

end Source

end TemplateFile
