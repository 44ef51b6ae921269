import TemplateFile.Proofs.Lexical.Tokens
import TemplateFile.Proofs.Tree.TemplateText

namespace TemplateFile

/-!
# The parts of a template lexeme

A template lexeme is an open tag, a body, and the first closing tag after the
open tag.  The text of the token has lost these borders, but they can be found
again: the body that is cut out of it is the stretch between the two tags.
-/

/-- The open tag with a given text between its keyword and its closing brace. -/
def TemplateKind.openTag (kind : TemplateKind) (inside : List Char) : List Char := kind.keyword ++ inside ++ ['\x7d']

/-- Every open tag has its keyword, a blank, at least one more character, and only one closing brace. -/
theorem LexicalRule.exists_inside_of_mem_openTag {kind : TemplateKind} {openTag : List Char}
    (opens : openTag ∈ (LexicalRule.openTag kind).language) :
    ∃ inside, openTag = kind.openTag inside ∧ '\x7d' ∉ kind.keyword ++ inside ∧
      ∃ blank second others, inside = blank :: second :: others ∧ Text.isBlank blank = true := by
  rcases mem_openTag_iff.mp opens with ⟨blank, second, others, isTag, blankIsBlank, different, free⟩
  refine ⟨blank :: second :: others, isTag, ?_, blank, second, others, rfl, blankIsBlank⟩
  intro member
  rcases List.mem_append.mp member with inKeyword | inRest
  · exact kind.brace_notMem_keyword inKeyword
  · rcases List.mem_cons.mp inRest with isBlankBrace | inRest
    · rw [← isBlankBrace, isBlank_brace] at blankIsBlank
      cases blankIsBlank
    · exact (List.mem_cons.mp inRest).elim (fun same => different same.symm) free

/-- A text is an open tag, a body, and a closing tag that does not come earlier. -/
structure TemplateText.Parts (kind : TemplateKind) (text openTag body : List Char) : Prop where
  parts : text = openTag ++ body ++ kind.closer
  opens : openTag ∈ (LexicalRule.openTag kind).language
  closes : Text.FirstAt kind.closer (body ++ kind.closer) body []

/-- The open tag is known by the first closing brace. -/
theorem TemplateText.Parts.exists_front {kind : TemplateKind} {text openTag body : List Char}
    (parts : Parts kind text openTag body) :
    ∃ front, '\x7d' ∉ front ∧ text = front ++ ['\x7d'] ++ (body ++ kind.closer) := by
  rcases LexicalRule.exists_inside_of_mem_openTag parts.opens with ⟨inside, isTag, free, _⟩
  exact ⟨kind.keyword ++ inside, free, by rw [parts.parts, isTag, TemplateKind.openTag, List.append_assoc]⟩

/-- The body of a template is what is between its tags. -/
theorem TemplateText.Parts.bodyText_eq {kind : TemplateKind} {text openTag body : List Char}
    (parts : Parts kind text openTag body) : bodyText text = body := by
  rcases parts.exists_front with ⟨front, free, whole⟩
  rw [whole]
  exact bodyText_append free body

theorem LexicalRule.eq_openTag_of_product {rule : LexicalRule} {kind : TemplateKind} {found : List Char}
    (product : rule.product found = .opener (.template kind) found) : rule = openTag kind := by
  cases rule <;> cases product
  rfl

theorem LexicalRule.product_ne_template {rule : LexicalRule} {kind : TemplateKind} {found text : List Char} :
    rule.product found ≠ .lexeme ⟨.token (.template kind), text⟩ := by
  intro product
  have same := text_of_product_lexeme product
  subst same
  cases rule with
  | name => exact isWord_of_product_name product
  | _ => cases product

/-- Every template lexeme is cut at the tag that opens it and at the first closing tag after that. -/
theorem Heads.exists_cut {text written rest : List Char} {kind : TemplateKind}
    (heads : Heads text ⟨.token (.template kind), written⟩ rest) :
    ∃ openTag body, written = openTag ++ body ++ kind.closer ∧ (LexicalRule.openTag kind).Takes text openTag ∧
      Text.FirstAt kind.closer (body ++ kind.closer ++ rest) body rest := by
  generalize same : (⟨.token (.template kind), written⟩ : Lexeme) = lexeme at heads
  cases heads with
  | piece taken product parts =>
      rw [← same] at product
      exact absurd product LexicalRule.product_ne_template
  | @closed _ _ found _ inside _ construct taken product parts closes =>
      cases construct with
      | template other =>
          cases same
          rw [LexicalRule.eq_openTag_of_product product] at taken
          exact ⟨found, inside, rfl, taken, closes.parts ▸ closes⟩
      | _ => cases same
  | unclosed taken product parts absent => cases same
  | unknown none => cases same

/-- Every template lexeme has its parts. -/
theorem Heads.exists_parts {text written rest : List Char} {kind : TemplateKind}
    (heads : Heads text ⟨.token (.template kind), written⟩ rest) :
    ∃ openTag body, TemplateText.Parts kind written openTag body := by
  rcases heads.exists_cut with ⟨openTag, body, parts, taken, closes⟩
  exact ⟨openTag, body, parts, taken.accepted, closes.upTo⟩

/-- The value of a template token is the whole text of its lexeme. -/
theorem Denotes.heads_of_template {occurrence : Occurrence} {token : Token} {kind : TemplateKind}
    (denotes : Denotes occurrence token) (isTemplate : token.kind = .template kind) :
    token.value.toList = occurrence.lexeme.text ∧
      Heads (occurrence.lexeme.text ++ occurrence.after) ⟨.token (.template kind), occurrence.lexeme.text⟩
        occurrence.after := by
  have isLexeme := denotes.kind
  have value := denotes.value
  rw [isTemplate] at isLexeme value
  have lexeme : occurrence.lexeme = ⟨.token (.template kind), occurrence.lexeme.text⟩ := by rw [← isLexeme]
  exact ⟨value, lexeme ▸ denotes.heads⟩

/-- The token of a template has the parts of its lexeme. -/
theorem Denotes.exists_parts {occurrence : Occurrence} {token : Token} {kind : TemplateKind}
    (denotes : Denotes occurrence token) (isTemplate : token.kind = .template kind) :
    token.value.toList = occurrence.lexeme.text ∧
      ∃ openTag body, TemplateText.Parts kind occurrence.lexeme.text openTag body :=
  ⟨(denotes.heads_of_template isTemplate).1, (denotes.heads_of_template isTemplate).2.exists_parts⟩

end TemplateFile
