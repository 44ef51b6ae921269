import TemplateFile.Proofs.Parsing.Blame
import TemplateFile.Proofs.Parsing.Locations
import TemplateFile.Proofs.Tree.LineNumber

namespace TemplateFile

/-!
# The lines of a body in its file

A body parser counts the lines of the body from one.  The first of them begins
behind the open tag and not below it, so that the line with number `n` stands on
the line of the file that is `n - 1` lines below the tag.

What is reported about a failed body has the number of the line of the tag added
to it.  Therefore it names the line of the file below the one that is meant,
and if the last line of the body is meant, it names a line below the template.
-/

/-! ## A text within another one -/

namespace Source

/-- The line of a text with a given number stands on a line of the file in which
the text follows `before`.  The line begins somewhere in the text, and wherever a
place of the text is on it, the same place of the file is on that line. -/
structure StandsOn (before text : List Char) (number line : Nat) : Prop where
  begins : ∃ above below, text = above ++ below ∧ lastLine above = [] ∧ (Position.after above).line = number
  everywhere : forall above below, text = above ++ below -> (Position.after above).line = number ->
    (Position.after (before ++ above)).line = line

/-- Behind each line feed a line begins. -/
theorem exists_cut_of_le_count {text : List Char} {count : Nat} (enough : count ≤ text.count '\n') :
    ∃ above below, text = above ++ below ∧ lastLine above = [] ∧ above.count '\n' = count := by
  induction text using List.reverseRecOn with
  | nil => exact ⟨[], [], rfl, rfl, (Nat.le_zero.mp enough).symm⟩
  | append_singleton text character inductionHypothesis =>
      by_cases earlier : count ≤ text.count '\n'
      · rcases inductionHypothesis earlier with ⟨above, below, parts, beginning, counted⟩
        exact ⟨above, below ++ [character], by rw [parts, List.append_assoc], beginning, counted⟩
      · -- The line that is looked for begins behind the last character, which is a line feed.
        rw [List.count_append, List.count_singleton] at enough
        split at enough
        · next lineFeed =>
            have same : character = '\n' := beq_iff_eq.mp lineFeed
            refine ⟨text ++ [character], [], (List.append_nil _).symm, by rw [same, lastLine_append_lineFeed], ?_⟩
            rw [List.count_append, same, List.count_singleton_self]
            omega
        · omega

/-- Each line of a text stands on a line of the file, and the first one where the text begins. -/
theorem standsOn_of_le (before : List Char) {text : List Char} {number : Nat} (positive : 1 ≤ number)
    (inText : number ≤ (lines text).length) :
    StandsOn before text number ((Position.after before).line + number - 1) where
  begins := by
    rw [length_lines] at inText
    rcases exists_cut_of_le_count (Nat.sub_le_of_le_add inText) with ⟨above, below, parts, beginning, counted⟩
    refine ⟨above, below, parts, beginning, ?_⟩
    change 1 + above.count '\n' = number
    omega
  everywhere := by
    intro above below _ isNumber
    have counted : 1 + above.count '\n' = number := isNumber
    rw [Position.line_after_append]
    omega

/-- Text without a line feed ends on the line on which it begins. -/
theorem line_after_append_of_notMem (before : List Char) {text : List Char} (free : '\n' ∉ text) :
    (Position.after (before ++ text)).line = (Position.after before).line := by
  rw [Position.line_after_append, List.count_eq_zero.mpr free, Nat.add_zero]

end Source

/-! ## Failures that name a line -/

/-- The first line number in the message of a failure is the number of a line of the body, with the lines
counted from one.  The lead and the trail are the message around it. -/
structure BodyFailure.NamesLine (failure : BodyFailure) (body lead trail : List Char) (number : Nat) : Prop where
  found : ∃ digits, TemplateText.FirstLineNumber failure.message.toList lead digits trail ∧
    digits.all Char.isDigit = true ∧ Nat.ofDigitChars 10 digits 0 = number
  positive : 1 ≤ number
  inBody : number ≤ (Source.lines body).length

/-- A template stands in a file, with its open tag, its body and its closing tag, and the body is what is
handed to the body parser. -/
structure TemplateForm.StandsIn (source : List Char) (path : String) (form : TemplateForm)
    (front openTag body rest : List Char) : Prop where
  parts : source = front ++ (openTag ++ body ++ form.kind.closer) ++ rest
  opens : openTag ∈ (LexicalRule.openTag form.kind).language
  first : form.whole.token.span.first = Position.after front
  last : form.whole.token.span.last = Position.after (front ++ (openTag ++ body ++ form.kind.closer.dropLast))
  handed : (form.request path).text = String.ofList body

/-- What is reported about a failure that names a line of the body.  The line
stands on a line of the file within the template, but the report names the line
below.  If that number has more than sixty-four bits, the message is as it was.
The line that is named is below the template exactly if the last line of the
body is meant. -/
structure TemplateForm.ReportsBelow (path : String) (namespaceName : Option String) (form : TemplateForm)
    (failure : BodyFailure) (before body lead trail : List Char) (number line : Nat) (diagnostic : Diagnostic) :
    Prop where
  standsOn : Source.StandsOn before body number line
  inside : diagnostic.location.first.line ≤ line ∧ line ≤ diagnostic.location.last.line
  name : diagnostic.name = "TemplateBodyFailure"
  location : diagnostic.location = Location.ofSpan path form.whole.token.span
  message : diagnostic.message = "In file " ++ path ++ ", template " ++ form.displayName namespaceName ++ ": " ++
    if line + 1 < Text.numeralLimit then
      String.ofList (lead ++ "line ".toList ++ Nat.toDigits 10 (line + 1) ++ trail)
    else failure.message
  outside_iff : diagnostic.location.last.line < line + 1 ↔ number = (Source.lines body).length

namespace TemplateForm

variable {source front openTag body rest lead trail : List Char} {path : String} {namespaceName : Option String}
  {form : TemplateForm} {failure : BodyFailure} {number : Nat}

/-- A template of a file stands in it. -/
theorem exists_standsIn {source : String} (member : form.whole.token ∈ (TokenStream.ofSource path source).pending) :
    ∃ front openTag body rest, form.StandsIn source.toList path front openTag body rest := by
  rcases TokenStream.exists_denotes_of_mem_pending member with ⟨occurrence, denotes, stands⟩
  rcases denotes.exists_parts form.whole.hasKind with ⟨value, openTag, body, parts⟩
  refine ⟨occurrence.before, openTag, body, occurrence.after, ?_⟩
  exact {
    parts := by rw [stands, parts.parts]
    opens := parts.opens
    first := denotes.first
    last := parts.last_eq denotes
    handed := by rw [request, value, parts.bodyText_eq] }

namespace StandsIn

/-- With its open tag on one line, the template ends as many lines below as its body has line feeds. -/
theorem last_line (stands : form.StandsIn source path front openTag body rest) (oneLine : '\n' ∉ openTag) :
    form.whole.token.span.last.line + 1 = form.whole.token.span.first.line + (Source.lines body).length := by
  have closer := List.count_eq_zero.mpr form.kind.lineFeed_notMem_closer
  rw [stands.last, stands.first, Position.line_after_append, List.count_append, List.count_append,
    List.count_eq_zero.mpr oneLine, closer, Source.length_lines]
  omega

/-- The report about a failure names the line below the one on which the line of the body stands. -/
theorem exists_reportsBelow (stands : form.StandsIn source path front openTag body rest) (oneLine : '\n' ∉ openTag)
    (names : failure.NamesLine body lead trail number) :
    ∃ line, form.ReportsBelow path namespaceName failure (front ++ openTag) body lead trail number line
      (form.failureDiagnostic path namespaceName failure) := by
  rcases names.found with ⟨digits, found, ascii, value⟩
  have positive := names.positive
  have inBody := names.inBody
  have last := stands.last_line oneLine
  have standsOn := Source.standsOn_of_le (front ++ openTag) positive inBody
  rw [Source.line_after_append_of_notMem front oneLine, ← stands.first] at standsOn
  have below : form.whole.token.span.first.line + number - 1 + 1 = number + form.whole.token.span.first.line := by
    omega
  have atFirst : (form.failureDiagnostic path namespaceName failure).location.first.line =
      form.whole.token.span.first.line := rfl
  have atLast : (form.failureDiagnostic path namespaceName failure).location.last.line =
      form.whole.token.span.last.line := rfl
  have raisable : TemplateText.Raisable digits form.whole.token.span.first.line ↔
      number + form.whole.token.span.first.line < Text.numeralLimit := by
    rw [TemplateText.Raisable, value, and_iff_right ascii]
  refine ⟨form.whole.token.span.first.line + number - 1, ?_⟩
  exact {
    standsOn := standsOn
    inside := by
      rw [atFirst, atLast]
      omega
    name := rfl
    location := rfl
    message := by rw [failureDiagnostic, found.shiftLineNumber_eq, below, value, if_congr raisable rfl rfl]
    outside_iff := by
      rw [atLast]
      omega }

end StandsIn
end TemplateForm

/-! ## Whole parses -/

namespace Session

/-- A template on a single line. -/
def shortSource : String := "\x7btemplate .a\x7dx\x7b/template\x7d"

/-- What a parse of `shortSource` comes to if the body parser complains about the first line of the body. -/
def complaint : ParseOutcome :=
  (start.parseFile (.always fun _ => ⟨[], .error ⟨.parse, "at line 1"⟩⟩) .source "a.soy" shortSource).1

end Session

end TemplateFile
