import TemplateFile.Body.Parser
import TemplateFile.Proofs.Source.Lines
import TemplateFile.Proofs.Source.Order

namespace TemplateFile
namespace BodyParser

/-!
# Where a raw text ends

The end of a raw text is counted from the place where its template begins and
not from the open tag's end, so it is mostly not the place of its last
character.  It is never outside of the template.  Only when the body begins on
the line of the open tag and ends on a later one do the two ways of counting
meet.
-/

variable {start : Place} {before openTag body closer : List Char}

theorem lastPlace_of_notMem (start : Place) (free : '\n' ∉ body) :
    lastPlace start body = ⟨start.line, start.column + body.length - 1⟩ :=
  if_pos (List.count_eq_zero.mpr free)

theorem lastPlace_of_mem (start : Place) (breaks : '\n' ∈ body) :
    lastPlace start body = ⟨start.line + body.count '\n', max 1 (Source.lastLine body).length⟩ := by
  rw [Source.lastLine, List.length_reverse]
  exact if_neg (Nat.pos_iff_ne_zero.mp (List.count_pos_iff.mpr breaks))

theorem le_lastPlace (start : Place) (notEmpty : body ≠ []) : start ≤ lastPlace start body := by
  have positive := List.length_pos_iff.mpr notEmpty
  by_cases breaks : '\n' ∈ body
  · have several := List.count_pos_iff.mpr breaks
    rw [lastPlace_of_mem start breaks, Place.le_iff]
    exact Or.inl (Nat.lt_add_of_pos_right several)
  · rw [lastPlace_of_notMem start breaks, Place.le_iff]
    refine Or.inr ⟨rfl, ?_⟩
    change start.column ≤ start.column + body.length - 1
    omega

/-- The raw text of a body ends before the closing tag does. -/
theorem lastPlace_le (before openTag body : List Char) (oneLine : '\n' ∉ closer) :
    lastPlace (Position.after before).toPlace body ≤
      (Position.after (before ++ (openTag ++ body ++ closer))).toPlace := by
  have lines := Position.line_after_append before (openTag ++ body ++ closer)
  rw [List.count_append, List.count_append, List.count_eq_zero.mpr oneLine] at lines
  by_cases tagBreaks : '\n' ∈ openTag
  · -- The template ends on a later line than the body, counted from the open tag.
    have several := List.count_pos_iff.mpr tagBreaks
    refine Place.le_iff.mpr (Or.inl ?_)
    by_cases breaks : '\n' ∈ body
    · rw [lastPlace_of_mem _ breaks, lines]
      change _ + _ < _
      omega
    · rw [lastPlace_of_notMem _ breaks, lines]
      change (Position.after before).line < _
      omega
  · rw [List.count_eq_zero.mpr tagBreaks] at lines
    refine Place.le_iff.mpr (Or.inr ?_)
    rw [Position.column_after, lines]
    by_cases breaks : '\n' ∈ body
    · rw [lastPlace_of_mem _ breaks, ← List.append_assoc, Source.lastLine_append_of_notMem _ oneLine,
        ← List.append_assoc, Source.lastLine_append_of_mem _ breaks, List.length_append]
      refine ⟨by change _ + _ = _; omega, ?_⟩
      change max _ _ ≤ _
      omega
    · have whole : '\n' ∉ openTag ++ body ++ closer := by
        simp only [List.mem_append, not_or]
        exact ⟨⟨tagBreaks, breaks⟩, oneLine⟩
      rw [lastPlace_of_notMem _ breaks, List.count_eq_zero.mpr breaks, Source.lastLine_append_of_notMem _ whole,
        List.length_append, List.length_append, List.length_append, Position.column_after]
      refine ⟨rfl, ?_⟩
      change _ + _ - 1 ≤ _
      omega

/-- Where the open tag ends on the line it begins on and the body on a later one, the raw text ends
with the body's last character. -/
theorem lastPlace_eq (before : List Char) (oneLine : '\n' ∉ openTag) (breaks : '\n' ∈ body)
    (notEmpty : Source.lastLine body ≠ []) :
    lastPlace (Position.after before).toPlace body =
      (Position.after (before ++ openTag ++ body.dropLast)).toPlace := by
  have bodyNotEmpty : body ≠ [] := List.ne_nil_of_mem breaks
  have parts := List.dropLast_concat_getLast bodyNotEmpty
  generalize body.getLast bodyNotEmpty = final at parts
  generalize body.dropLast = front at parts ⊢
  subst parts
  have inLine : final ≠ '\n' := by
    rintro rfl
    exact notEmpty (Source.lastLine_append_lineFeed front)
  have earlier : '\n' ∈ front := by
    rcases List.mem_append.mp breaks with inFront | last
    · exact inFront
    · exact absurd (List.mem_singleton.mp last).symm inLine
  have lines := Position.line_after_append before (openTag ++ front)
  have column := Position.column_after (before ++ openTag ++ front)
  rw [List.count_append, List.count_eq_zero.mpr oneLine, Nat.zero_add, ← List.append_assoc] at lines
  rw [Source.lastLine_append_of_mem _ earlier] at column
  have sameLines : (front ++ [final]).count '\n' = front.count '\n' := by
    rw [List.count_append, List.count_singleton, if_neg (by rwa [beq_iff_eq]), Nat.add_zero]
  rw [lastPlace_of_mem _ breaks, sameLines, Source.lastLine_append_singleton _ inLine, List.length_append,
    List.length_singleton]
  refine Place.key_injective (congrArg toLex (Prod.ext lines.symm ?_))
  rw [column]
  change max 1 _ = 1 + _
  omega

end BodyParser
end TemplateFile
