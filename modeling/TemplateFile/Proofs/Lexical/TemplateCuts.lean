import TemplateFile.Proofs.Lexical.Occurrences
import TemplateFile.Proofs.Lexical.TemplateParts
import TemplateFile.Proofs.Related

namespace TemplateFile

/-!
# Two cuts of one template

A template is cut twice.  The scanner cuts it out of the file: it knows the open
tag by a rule and then looks forward for the closing tag.  Later the text of the
token is cut again without either: the first closing brace ends the open tag,
and the last opening brace begins the closing tag.

The cuts agree, whatever stands in the template.  There is no closing brace in
an open tag but its last character, and no opening brace in a closing tag but
its first one, so neither search can be led astray by the body between them, and
none of the ways out for a text without these braces is ever taken.
-/

namespace TemplateText

/-- The text of a template token is cut alike by the scanner and afterwards.  The
scanner stands before the text with `after` behind it: it takes the open tag, and
then it finishes the token at the first closing tag.  The second cut finds the end
of the open tag, its keyword, and the beginning of the closing tag, which comes
right after the open tag only if there is no body; and from these it has the same
body and the command text. -/
structure CutsAgree (kind : TemplateKind) (value inside body after : List Char) : Prop where
  parts : value = kind.openTag inside ++ body ++ kind.closer
  spaced : ∃ blank second others, inside = blank :: second :: others ∧ Text.isBlank blank = true
  opens : (Scanner.ofText (value ++ after)).step =
    some (none, ⟨.inside (.template kind) (kind.openTag inside), body ++ kind.closer ++ after⟩)
  closes : Scanner.step ⟨.inside (.template kind) (kind.openTag inside), body ++ kind.closer ++ after⟩ =
    some (some ⟨.token (.template kind), value⟩, Scanner.ofText after)
  closerFree : ¬ kind.closer <:+: body
  tagEnd : Text.cutAt? ['\x7d'] value = some (kind.keyword ++ inside, body ++ kind.closer)
  keyword : Text.dropWord? kind.keyword (kind.keyword ++ inside) = some inside
  closerBegin : ∃ letters, kind.closer = '\x7b' :: letters ∧
    Text.cutAt? ['\x7b'] value.reverse = some (letters.reverse, (kind.openTag inside ++ body).reverse)
  ordered : (kind.openTag inside ++ body).length ≤ (kind.keyword ++ inside).length + 1 -> body = []
  body : bodyText value = body
  command : commandText kind value = Text.trim inside

end TemplateText

/-- A template lexeme is cut alike by the scanner and afterwards. -/
theorem Heads.exists_cutsAgree {text written rest : List Char} {kind : TemplateKind}
    (heads : Heads text ⟨.token (.template kind), written⟩ rest) :
    ∃ inside body, TemplateText.CutsAgree kind written inside body rest := by
  rcases heads.exists_cut with ⟨openTag, body, parts, taken, closes⟩
  rcases LexicalRule.exists_inside_of_mem_openTag taken.accepted with ⟨inside, rfl, free, spaced⟩
  have whole : written = kind.keyword ++ inside ++ ['\x7d'] ++ (body ++ kind.closer) := by
    rw [parts, TemplateKind.openTag, List.append_assoc]
  refine ⟨inside, body, ?_⟩
  exact {
    parts := parts
    spaced := spaced
    opens := by
      have ahead : text = kind.openTag inside ++ (body ++ kind.closer ++ rest) := by
        rw [heads.parts, parts]
        simp only [List.append_assoc]
      rw [← heads.parts]
      exact Scanner.step_of_takes taken ahead
    closes := by
      have cut := Text.cutAt?_eq_some_iff.mpr closes
      simp only [Scanner.step, Construct.closer, cut, Construct.lexemeKind, ← parts, Scanner.ofText]
    closerFree := closes.not_infix kind.closer_ne_nil
    tagEnd := by
      rw [whole]
      exact TemplateText.cutAt?_openTag free _
    keyword := Text.dropWord?_eq_some_iff.mpr rfl
    closerBegin := by
      rw [parts]
      exact TemplateText.exists_cutAt?_closer kind _
    ordered := by
      intro adjacent
      simp only [TemplateKind.openTag, List.length_append, List.length_singleton] at adjacent
      exact List.length_eq_zero_iff.mp (by omega)
    body := by
      rw [whole]
      exact TemplateText.bodyText_append free body
    command := by
      have insideFree : '\x7d' ∉ inside := fun member => free (List.mem_append_right _ member)
      rw [whole]
      exact TemplateText.commandText_append insideFree _ }

/-- Every template token of a text stands there as it is written, and it is cut
alike by the scanner and afterwards. -/
theorem TokenStream.template_cutsAgree {path source : String} {token : Token} {kind : TemplateKind}
    (member : token ∈ (ofSource path source).toList) (isTemplate : token.kind = .template kind) :
    ∃ before inside body after, source.toList = before ++ token.value.toList ++ after ∧
      token.span.first = Position.after before ∧
      TemplateText.CutsAgree kind token.value.toList inside body after := by
  have pending : token ∈ (ofSource path source).pending := by
    rcases List.mem_append.mp member with pending | final
    · exact pending
    · rw [List.mem_singleton.mp final, (ofSource path source).final_kind] at isTemplate
      cases isTemplate
  rcases exists_of_forall₂ (denotes_pending path source) pending with ⟨occurrence, listed, denotes⟩
  have stands := Occurrence.parts_of_mem (List.mem_filter.mp listed).1
  rw [List.nil_append, (Lexing.ofText source.toList).flatMap_text] at stands
  have value := denotes.heads_of_template isTemplate
  rcases value.2.exists_cutsAgree with ⟨inside, body, agree⟩
  rw [← value.1] at stands agree
  exact ⟨occurrence.before, inside, body, occurrence.after, stands.symm, denotes.first, agree⟩

theorem TokenStream.current_mem_toList (stream : TokenStream) : stream.current ∈ stream.toList := by
  unfold current toList
  cases stream.pending with
  | nil => exact List.mem_singleton_self _
  | cons token rest => exact List.mem_append_left _ List.mem_cons_self

/-- A file with a delegate in whose open tag there are quotes and an opening brace,
and in whose body there are braces, a comment and the tags of other templates. -/
def nestedSource : String :=
  "/** é */ \x7bdeltemplate  a.b \x7b'q' \"→\" \x7d/* \x7b/template\x7d \x7btemplate .c\x7d\x7d\x7b //…\n" ++
    "\x7b/deltemplate \x7d\x7b/deltemplate\x7d"

theorem TokenStream.template_cutsAgree_nested :
    ∃ token, token ∈ (ofSource "nested.soy" nestedSource).toList ∧ token.kind = .template .delegate ∧
      String.ofList (TemplateText.commandText .delegate token.value.toList) = "a.b \x7b'q' \"→\"" ∧
      ∃ before inside body after, nestedSource.toList = before ++ token.value.toList ++ after ∧
        token.span.first = Position.after before ∧
        TemplateText.CutsAgree .delegate token.value.toList inside body after := by
  have member := current_mem_toList (ofSource "nested.soy" nestedSource)
  have evaluated : (ofSource "nested.soy" nestedSource).current.kind = .template .delegate ∧
      String.ofList (TemplateText.commandText .delegate (ofSource "nested.soy" nestedSource).current.value.toList) =
        "a.b \x7b'q' \"→\"" := by
    decide +kernel
  exact ⟨_, member, evaluated.1, evaluated.2, template_cutsAgree member evaluated.1⟩

end TemplateFile
