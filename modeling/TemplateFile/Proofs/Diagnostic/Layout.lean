import TemplateFile.Proofs.Diagnostic.Snippet
import TemplateFile.Proofs.Grammar.Message
import TemplateFile.Proofs.Tree.LineNumber

namespace TemplateFile

/-!
# The lines that show a diagnostic

The texts that show a diagnostic are printed one below the other.  A reader sees
as many lines as there are texts, unless one of the texts has line feeds of its
own.  The location, the gutter, the code line and the caret line have none: they
are made of numbers, signs and a line of the file.  The message has none either,
since it quotes what it talks about.  So it is for the tip alone to keep the
headline on one line.
-/

namespace Source

/-- Texts that are printed one below the other, each with a line feed behind it. -/
def printed (texts : List (List Char)) : List Char := texts.flatMap fun text => text ++ ['\n']

theorem lines_of_notMem {text : List Char} (free : '\n' ∉ text) : lines text = [text] := by
  have single : (lines text).length = 1 := by rw [length_lines, List.count_eq_zero.mpr free]
  rcases List.length_eq_one_iff.mp single with ⟨line, only⟩
  have whole : text.takeWhile (fun character => character != '\n') = text :=
    List.takeWhile_eq_self_iff.mpr fun character member => bne_iff_ne.mpr fun same => free (same ▸ member)
  have first := head?_lines text
  rw [whole, only, List.head?_singleton] at first
  rw [only, Option.some.inj first]

theorem lines_eq_singleton_iff {text : List Char} : lines text = [text] ↔ '\n' ∉ text := by
  refine ⟨fun single => ?_, lines_of_notMem⟩
  have length := length_lines text
  rw [single, List.length_singleton] at length
  exact List.count_eq_zero.mp (Nat.succ.inj length).symm

/-- The lines of printed texts are those of the texts, and an empty one behind the last line feed. -/
theorem lines_printed (texts : List (List Char)) : lines (printed texts) = texts.flatMap lines ++ [[]] := by
  induction texts with
  | nil => rfl
  | cons text texts inductionHypothesis =>
      rw [printed, List.flatMap_cons, ← printed, List.append_assoc, List.singleton_append, lines_append_lineFeed,
        inductionHypothesis, List.flatMap_cons, List.append_assoc]

theorem lineFeed_notMem_of_mem_lines {text line : List Char} (member : line ∈ lines text) : '\n' ∉ line := by
  induction text generalizing line with
  | nil =>
      rw [List.mem_singleton.mp member]
      exact List.not_mem_nil
  | cons character rest inductionHypothesis =>
      by_cases lineFeed : character = '\n'
      · rw [lineFeed, lines_cons_lineFeed] at member
        rcases List.mem_cons.mp member with rfl | later
        · exact List.not_mem_nil
        · exact inductionHypothesis later
      · rcases lines_cons_of_ne lineFeed rest with ⟨first, others, parts, extended⟩
        rw [parts] at inductionHypothesis
        rw [extended] at member
        rcases List.mem_cons.mp member with rfl | later
        · have inFirst := inductionHypothesis List.mem_cons_self
          exact fun among => (List.mem_cons.mp among).elim (fun same => lineFeed same.symm) inFirst
        · exact inductionHypothesis (List.mem_cons_of_mem _ later)

/-- A line of a file that is shown has no line feed. -/
theorem lineFeed_notMem_of_line? {source line : String} {number : Nat} (found : line? source number = some line) :
    '\n' ∉ line.toList := by
  unfold line? at found
  split at found
  · cases found
  · rcases Option.map_eq_some_iff.mp found with ⟨whole, listed, rfl⟩
    rw [String.toList_ofList]
    exact fun member =>
      lineFeed_notMem_of_mem_lines (List.mem_of_getElem? listed) ((dropReturn_begins whole).subset member)

end Source

namespace Text

theorem lineFeed_notMem_toString (number : Nat) : '\n' ∉ (toString number).toList := by
  intro member
  have digit := List.all_eq_true.mp (all_isDigit_toDigits number) '\n' (by
    rwa [Nat.toString_eq_repr, Nat.repr, String.toList_ofList] at member)
  exact absurd digit (by decide)

/-- A quoted text is on one line, whatever it quotes. -/
theorem lineFeed_notMem_quote (text : String) : '\n' ∉ (quote text).toList := by
  rw [toList_quote]
  exact fun member => (quotes_quoteBy hidesControls_isHidden _).isSealed.noControl '\n' member (by decide)

theorem trimEnd_subset (text : List Char) : trimEnd text ⊆ text := by
  intro character member
  rw [trimEnd, List.mem_reverse] at member
  exact List.mem_reverse.mp (List.dropWhile_subset _ member)

end Text

/-- A location is written on one line, if its path is. -/
theorem Location.lineFeed_notMem_text {location : Location} (onePath : '\n' ∉ location.path.toList) :
    '\n' ∉ location.text.toList := by
  unfold text
  split
  · simp only [String.toList_append, List.mem_append, not_or]
    exact ⟨⟨⟨⟨onePath, by decide⟩, Text.lineFeed_notMem_toString _⟩, by decide⟩, Text.lineFeed_notMem_toString _⟩
  · exact onePath

namespace Diagnostic

/-- The lines that a reader sees.  Each of the texts that show a diagnostic is printed
with a line feed behind it, and no line begins behind the last one. -/
def printedLines (diagnostic : Diagnostic) (source : String) : List (List Char) :=
  (Source.lines (Source.printed ((diagnostic.display source).map String.toList))).dropLast

theorem printedLines_eq (diagnostic : Diagnostic) (source : String) :
    diagnostic.printedLines source = (diagnostic.display source).flatMap fun text => Source.lines text.toList := by
  rw [printedLines, Source.lines_printed, List.dropLast_concat, List.flatMap_map]

/-- The gutter is empty up to the bar, which stands in one column with the other bars. -/
theorem toList_gutter {line : List Char} {place : Place} {gutter code caret : String}
    (isSnippet : snippet line place = [gutter, code, caret]) :
    gutter.toList = List.replicate ((toString place.line).length + 1) ' ' ++ ['|'] := by
  rw [← (List.cons.inj isSnippet).1, String.toList_ofList, List.leftpad]
  rfl

namespace ShowsPlace

variable {line : List Char} {place : Place} {dashes : Nat} {code caret : String}

theorem lineFeed_notMem_code (shows : ShowsPlace line place dashes code caret) (free : '\n' ∉ line) :
    '\n' ∉ code.toList := by
  rw [shows.code, List.mem_append, List.mem_append, not_or, not_or]
  exact ⟨⟨Text.lineFeed_notMem_toString _, by decide⟩, fun member =>
    free (List.dropWhile_subset _ (Text.trimEnd_subset _ member))⟩

theorem lineFeed_notMem_caret (shows : ShowsPlace line place dashes code caret) : '\n' ∉ caret.toList := by
  have padding : forall {sign : Char} (count : Nat), sign ≠ '\n' -> '\n' ∉ List.replicate count sign :=
    fun count different member => different (List.eq_of_mem_replicate member).symm
  simp only [shows.caret, List.mem_append, not_or]
  exact ⟨⟨padding _ (by decide), by decide⟩, padding _ (by decide), by decide⟩

end ShowsPlace

/-- The headline has the line feeds of the message and those of the tip. -/
theorem count_headline (diagnostic : Diagnostic) :
    diagnostic.headline.toList.count '\n' =
      diagnostic.message.toList.count '\n' + (diagnostic.tip.map fun tip => tip.toList.count '\n').getD 0 := by
  unfold headline
  cases diagnostic.tip with
  | none =>
      rw [String.toList_append, List.count_append]
      exact Nat.add_comm 0 _
  | some tip =>
      simp only [String.toList_append, List.count_append, Option.map_some, Option.getD_some]
      change 0 + _ + 0 + _ + 0 = _
      omega

end Diagnostic

namespace SyntaxFault

/-- The message about a fault is on one line, if the expected text is. -/
theorem lineFeed_notMem_message {fault : SyntaxFault} (oneLine : '\n' ∉ fault.trail.toList) :
    '\n' ∉ fault.message.toList := by
  have lead : '\n' ∉ fault.lead.toList := by
    cases fault
    all_goals rw [SyntaxFault.lead]
    all_goals decide
  rw [toList_message, messageWith, List.mem_append, List.mem_append, not_or, not_or]
  exact ⟨⟨lead, Text.lineFeed_notMem_quote _⟩, oneLine⟩

/-- The tip about a misplaced token repeats the token as it is. -/
theorem count_tip_unexpected (text : String) {expected : String} (oneLine : '\n' ∉ expected.toList) :
    ((unexpected text expected).tip.map fun tip => tip.toList.count '\n').getD 0 = text.toList.count '\n' := by
  simp only [tip, Option.map_some, Option.getD_some, String.toList_append, List.count_append,
    List.count_eq_zero.mpr oneLine]
  change 0 + _ + 0 + 0 = _
  omega

theorem count_tip_unrecognised (text : String) :
    ((unrecognised text).tip.map fun tip => tip.toList.count '\n').getD 0 = 0 := by
  simp only [tip]
  repeat' split
  all_goals rfl

end SyntaxFault

end TemplateFile
