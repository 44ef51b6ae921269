import TemplateFile.Proofs.Lexical.Occurrences
import TemplateFile.Proofs.Related
import TemplateFile.Proofs.Source.Lines
import TemplateFile.Proofs.Source.Order
import TemplateFile.Source.Location

namespace TemplateFile

/-!
# The spans of tokens

The span of a token runs from its first character to its last one.  Since the
lexemes of a text follow each other without gaps, the order of the text is also
the order of the spans: each ends before the next one begins, and all of them
lie within the lines of the text.
-/

/-! ## Locations in a text -/

/-- A location is a stretch of a text: it ends where it begins or later, and both
of its ends are on lines of the text. -/
structure Location.Within (text : List Char) (location : Location) : Prop where
  ordered : location.first ≤ location.last
  firstLine : 1 ≤ location.first.line
  firstColumn : 1 ≤ location.first.column
  lastColumn : 1 ≤ location.last.column
  lastLine : location.last.line ≤ (Source.lines text).length

/-- No place in a text is on a line beyond the last one. -/
theorem Position.line_after_le {text before : List Char} (begins : before <+: text) :
    (after before).line ≤ (Source.lines text).length := by
  have fewer := begins.sublist.count_le '\n'
  rw [Source.length_lines]
  change 1 + before.count '\n' ≤ _
  omega

/-- From one stretch of a text to a later one. -/
theorem Location.Within.between {text : List Char} {path : String} {opening closing : Span}
    (first : (Location.ofSpan path opening).Within text) (last : (Location.ofSpan path closing).Within text)
    (ordered : opening.first.toPlace ≤ closing.last.toPlace) : (Location.between path opening closing).Within text where
  ordered := ordered
  firstLine := first.firstLine
  firstColumn := first.firstColumn
  lastColumn := last.lastColumn
  lastLine := last.lastLine

/-! ## The spans of tokens -/

namespace Token

/-- A token ends before another one begins. -/
def EndsBefore (one two : Token) : Prop := one.span.last.toPlace < two.span.first.toPlace

/-- A token lies within the lines of a text. -/
def Within (text : List Char) (token : Token) : Prop := forall path, (Location.ofSpan path token.span).Within text

end Token

namespace Denotes

variable {occurrence other : Occurrence} {token otherToken : Token}

theorem last_lt_first (denotes : Denotes occurrence token) (otherDenotes : Denotes other otherToken)
    (ends : occurrence.EndsBefore other) : token.EndsBefore otherToken := by
  rcases denotes.last with ⟨front, final, parts, last⟩
  have begins : occurrence.before ++ front ++ [final] <+: other.before := by
    rw [List.append_assoc, ← parts]
    exact ends
  rw [Token.EndsBefore, last, otherDenotes.first]
  exact Position.after_lt_after begins

theorem within {text : List Char} {lexemes : List Lexeme} (lexing : Lexing text lexemes)
    (member : occurrence ∈ Occurrence.allOf [] lexemes) (denotes : Denotes occurrence token) : token.Within text := by
  intro path
  rcases denotes.last with ⟨front, final, parts, last⟩
  have whole := Occurrence.parts_of_mem member
  rw [List.nil_append, lexing.flatMap_text, parts] at whole
  have begins : occurrence.before ++ front <+: text :=
    ⟨[final] ++ occurrence.after, by rw [← whole]; simp only [List.append_assoc]⟩
  have first : (Location.ofSpan path token.span).first = (Position.after occurrence.before).toPlace :=
    congrArg Position.toPlace denotes.first
  have final : (Location.ofSpan path token.span).last = (Position.after (occurrence.before ++ front)).toPlace :=
    congrArg Position.toPlace last
  exact {
    ordered := by
      rw [first, final]
      exact Position.after_le_after (List.prefix_append _ _)
    firstLine := by
      rw [first]
      exact Nat.le_add_right 1 _
    firstColumn := by
      rw [first]
      exact Nat.le_add_right 1 _
    lastColumn := by
      rw [final]
      exact Nat.le_add_right 1 _
    lastLine := by
      rw [final]
      exact Position.line_after_le begins }

end Denotes

namespace TokenStream

/-- The tokens of a text are in the order of the text. -/
theorem pairwise_endsBefore_pending (path source : String) :
    (ofSource path source).pending.Pairwise Token.EndsBefore :=
  pairwise_of_forall₂ (denotes_pending path source) ((Occurrence.pairwise_endsBefore [] _).filter _)
    fun denotes otherDenotes ends => denotes.last_lt_first otherDenotes ends

/-- The tokens of a text lie within its lines. -/
theorem within_of_mem_pending {path source : String} {token : Token} (member : token ∈ (ofSource path source).pending) :
    token.Within source.toList := by
  rcases exists_of_forall₂ (denotes_pending path source) member with ⟨occurrence, listed, denotes⟩
  exact denotes.within (Lexing.ofText source.toList) (List.mem_filter.mp listed).1

end TokenStream

end TemplateFile
