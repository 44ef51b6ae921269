import TemplateFile.Proofs.Lexical.Lexing
import TemplateFile.Proofs.Source.Counting
import TemplateFile.Token.Stream

namespace TemplateFile

/-!
# The tokens of a text

A token says of its lexeme what kind it has, where it stands and what it is
worth.  `Denotes` is that relation, for a lexeme together with the text before
and after it, and it leaves nothing of the token open but the documentation
comment.  The tokens of a text denote its token lexemes, one by one.
-/

/-- A lexeme and the text around it. -/
structure Occurrence where
  before : List Char
  lexeme : Lexeme
  after : List Char

namespace Occurrence

/-- Whether the lexeme is a token. -/
def isToken (occurrence : Occurrence) : Bool :=
  match occurrence.lexeme.kind with
  | .token _ => true
  | _ => false

/-- The lexemes of a text that comes after another one, each with what is around it. -/
def allOf : List Char -> List Lexeme -> List Occurrence
  | _, [] => []
  | before, lexeme :: rest =>
      ⟨before, lexeme, rest.flatMap Lexeme.text⟩ :: allOf (before ++ lexeme.text) rest

end Occurrence

/-- A text that no rule accepts: a character where no rule matches, or a
construct that is not closed before the end. -/
def Unlexable (text after : List Char) : Prop :=
  (∃ character, text = [character] ∧ forall rule : LexicalRule, ¬ rule.Matches (character :: after)) ∨
    (after = [] ∧ ∃ rule : LexicalRule, ∃ construct opener inside, rule.Takes text opener ∧
      rule.product opener = .opener construct opener ∧ text = opener ++ inside ∧ ¬ construct.closer <:+: inside)

/-- The value of a token with a given text. -/
def HasValue (text : List Char) : TokenKind -> List Char -> Prop
  | .quoted, value => text = '"' :: value ++ ['"'] ∧ '"' ∉ value
  | .name, value => value = text.filter fun character => !Text.isBlank character
  | _, value => value = text

/-- The kinds of the names and of the reserved words. -/
def IsWord : TokenKind -> Prop
  | .name => True
  | .asWord => True
  | .attributeKey _ => True
  | _ => False

/-- What a token says of its lexeme. -/
structure Denotes (occurrence : Occurrence) (token : Token) : Prop where
  kind : occurrence.lexeme.kind = .token token.kind
  heads : Heads (occurrence.lexeme.text ++ occurrence.after) occurrence.lexeme occurrence.after
  first : token.span.first = Position.after occurrence.before
  last : ∃ front final, occurrence.lexeme.text = front ++ [final] ∧
    token.span.last = Position.after (occurrence.before ++ front)
  value : HasValue occurrence.lexeme.text token.kind token.value.toList
  word : IsWord token.kind ↔
    LexicalRule.name.Takes (occurrence.lexeme.text ++ occurrence.after) occurrence.lexeme.text
  attributeKey : forall key, token.kind = .attributeKey key ↔ occurrence.lexeme.text = key.word
  asWord : token.kind = .asWord ↔ occurrence.lexeme.text = "as".toList
  unexpected : token.kind = .unexpected ↔ Unlexable occurrence.lexeme.text occurrence.after

/-! ## The kind of a token lexeme -/

namespace LexicalRule

theorem isWord_reserved? (text : List Char) : IsWord ((TokenKind.reserved? text).getD .name) := by
  unfold TokenKind.reserved?
  repeat' split
  all_goals exact trivial

theorem eq_name_of_product {rule : LexicalRule} {text : List Char} {kind : TokenKind}
    (product : rule.product text = .lexeme ⟨.token kind, text⟩) (word : IsWord kind) : rule = name := by
  cases rule with
  | name => rfl
  | _ => cases product <;> exact word.elim

theorem isWord_of_product_name {text : List Char} {kind : TokenKind}
    (product : name.product text = .lexeme ⟨.token kind, text⟩) : IsWord kind := by
  cases product
  exact isWord_reserved? text

theorem eq_quoted_of_product {rule : LexicalRule} {text : List Char}
    (product : rule.product text = .lexeme ⟨.token .quoted, text⟩) : rule = quoted := by
  cases rule with
  | quoted => rfl
  | name => exact (isWord_of_product_name product).elim
  | _ => cases product

theorem reserved?_eq_attributeKey_iff {text : List Char} {key : AttributeKey} :
    (TokenKind.reserved? text).getD .name = .attributeKey key ↔ text = key.word := by
  constructor
  · intro reserved
    unfold TokenKind.reserved? at reserved
    repeat' split at reserved
    all_goals cases reserved
    all_goals assumption
  · rintro rfl
    cases key <;> decide

theorem reserved?_eq_asWord_iff {text : List Char} :
    (TokenKind.reserved? text).getD .name = .asWord ↔ text = "as".toList := by
  constructor
  · intro reserved
    unfold TokenKind.reserved? at reserved
    repeat' split at reserved
    all_goals cases reserved
    all_goals assumption
  · rintro rfl
    decide

/-- A single segment is a name. -/
theorem mem_name_of_all {first : Char} {others : List Char} (start : DottedName.isStart first = true)
    (parts : others.all DottedName.isPart = true) : first :: others ∈ name.language := by
  have found := Language.append_mem_mul (mem_segment_of_all start parts) (Language.nil_mem_kstar dottedSegment)
  rwa [List.append_nil] at found

theorem word_mem_name (key : AttributeKey) : key.word ∈ name.language := by
  cases key
  all_goals exact mem_name_of_all (by decide) (by decide)

theorem as_mem_name : "as".toList ∈ name.language := mem_name_of_all (by decide) (by decide)

end LexicalRule

namespace Heads

open LexicalRule

variable {text rest written : List Char} {kind : TokenKind}

/-- A token that is neither a template nor unexpected is taken by a rule. -/
theorem exists_takes (heads : Heads text ⟨.token kind, written⟩ rest) (expected : kind ≠ .unexpected)
    (notTemplate : forall template, kind ≠ .template template) :
    ∃ rule : LexicalRule, rule.Takes text written ∧ rule.product written = .lexeme ⟨.token kind, written⟩ := by
  generalize same : (⟨.token kind, written⟩ : Lexeme) = lexeme at heads
  cases heads with
  | piece taken product parts =>
      subst same
      have whole := text_of_product_lexeme product
      subst whole
      exact ⟨_, taken, product⟩
  | @closed _ _ _ _ _ _ construct taken product parts closes =>
      cases construct with
      | template template => cases same; exact absurd rfl (notTemplate template)
      | _ => cases same
  | unclosed taken product parts absent => cases same; exact absurd rfl expected
  | unknown none => cases same; exact absurd rfl expected

theorem of_takes_name (taken : name.Takes text written) (parts : text = written ++ rest) :
    Heads text ⟨.token ((TokenKind.reserved? written).getD .name), written⟩ rest :=
  .piece taken rfl parts

theorem isWord_iff (heads : Heads text ⟨.token kind, written⟩ rest) : IsWord kind ↔ name.Takes text written := by
  constructor
  · intro word
    have expected : kind ≠ .unexpected := by
      rintro rfl
      exact word
    have notTemplate : forall template, kind ≠ .template template := by
      rintro template rfl
      exact word
    rcases heads.exists_takes expected notTemplate with ⟨rule, taken, product⟩
    exact eq_name_of_product product word ▸ taken
  · intro taken
    cases ((of_takes_name taken heads.parts).unique heads).1
    exact isWord_reserved? written

/-- The kind of a token whose text is a name. -/
theorem kind_of_mem_name (heads : Heads text ⟨.token kind, written⟩ rest) (member : written ∈ name.language) :
    kind = (TokenKind.reserved? written).getD .name := by
  have matched : name.Matches text := ⟨written, member, ⟨rest, heads.parts.symm⟩⟩
  cases text with
  | nil => exact absurd (List.append_eq_nil_iff.mp heads.parts.symm).1 heads.text_ne_nil
  | cons character tail =>
      rcases recognizes_front character tail with ⟨rule, found, taken, _, parts⟩ | ⟨none, _⟩
      · have isName : rule = name := eq_of_lead_eq (taken.matches.lead_eq matched) (by decide) (by decide)
        rw [isName] at taken
        cases ((of_takes_name taken parts).unique heads).1
        rfl
      · exact absurd matched (none name)

theorem attributeKey_iff (heads : Heads text ⟨.token kind, written⟩ rest) (key : AttributeKey) :
    kind = .attributeKey key ↔ written = key.word := by
  constructor
  · rintro rfl
    have taken := heads.isWord_iff.mp trivial
    exact reserved?_eq_attributeKey_iff.mp (heads.kind_of_mem_name taken.accepted).symm
  · rintro rfl
    rw [heads.kind_of_mem_name (word_mem_name key)]
    exact reserved?_eq_attributeKey_iff.mpr rfl

theorem asWord_iff (heads : Heads text ⟨.token kind, written⟩ rest) : kind = .asWord ↔ written = "as".toList := by
  constructor
  · rintro rfl
    have taken := heads.isWord_iff.mp trivial
    exact reserved?_eq_asWord_iff.mp (heads.kind_of_mem_name taken.accepted).symm
  · rintro rfl
    rw [heads.kind_of_mem_name as_mem_name]
    exact reserved?_eq_asWord_iff.mpr rfl

theorem of_unlexable (unlexable : Unlexable written rest) :
    Heads (written ++ rest) ⟨.token .unexpected, written⟩ rest := by
  rcases unlexable with ⟨character, rfl, none⟩ | ⟨rfl, rule, construct, opener, inside, taken, product, parts, absent⟩
  · exact .unknown none
  · rw [List.append_nil]
    exact .unclosed taken product parts absent

/-- An unexpected token is a text that no rule accepts, and the other way round. -/
theorem unexpected_iff (heads : Heads text ⟨.token kind, written⟩ rest) :
    kind = .unexpected ↔ Unlexable written rest := by
  constructor
  · rintro rfl
    generalize same : (⟨.token .unexpected, written⟩ : Lexeme) = lexeme at heads
    cases heads with
    | @piece rule _ found _ _ taken product parts =>
        rw [← text_of_product_lexeme product, ← same] at product
        cases rule with
        | name => exact (isWord_of_product_name product).elim
        | _ => cases product
    | @closed _ _ _ _ _ _ construct taken product parts closes => cases construct <;> cases same
    | unclosed taken product parts absent =>
        cases same
        exact Or.inr ⟨rfl, _, _, _, _, taken, product, parts, absent⟩
    | unknown none =>
        cases same
        exact Or.inl ⟨_, rfl, none⟩
  · intro unlexable
    have parts : text = written ++ rest := heads.parts
    subst parts
    cases (heads.unique (of_unlexable unlexable)).1
    rfl

theorem hasValue_tokenValue (heads : Heads text ⟨.token kind, written⟩ rest) :
    HasValue written kind (Lexeme.tokenValue kind written) := by
  cases kind with
  | quoted =>
      rcases heads.exists_takes TokenKind.noConfusion (fun _ => TokenKind.noConfusion) with ⟨rule, taken, product⟩
      rw [eq_quoted_of_product product] at taken
      rcases mem_quoted_iff.mp taken.accepted with ⟨inside, rfl, free⟩
      have value : Lexeme.tokenValue .quoted ('"' :: inside ++ ['"']) = inside := by
        simp only [Lexeme.tokenValue, List.cons_append, List.drop_succ_cons, List.drop_zero, List.dropLast_concat]
      rw [value]
      exact ⟨rfl, free⟩
  | _ => rfl

end Heads

/-! ## The tokens denote the token lexemes -/

theorem denotes_of_heads {written rest before : List Char} {kind : TokenKind} (doc : Option String)
    (heads : Heads (written ++ rest) ⟨.token kind, written⟩ rest) :
    Denotes ⟨before, ⟨.token kind, written⟩, rest⟩
      ⟨kind, String.ofList (Lexeme.tokenValue kind written), Span.ofText (Position.after before) written, doc⟩ where
  kind := rfl
  heads := heads
  first := rfl
  last := by
    refine ⟨written.dropLast, written.getLast heads.text_ne_nil, (List.dropLast_concat_getLast _).symm, ?_⟩
    exact Position.after_advance before written.dropLast
  value := by
    rw [String.toList_ofList]
    exact heads.hasValue_tokenValue
  word := heads.isWord_iff
  attributeKey := heads.attributeKey_iff
  asWord := heads.asWord_iff
  unexpected := heads.unexpected_iff

/-- The tokens of a text that comes after another one. -/
theorem denotes_tokens {text before : List Char} {lexemes : List Lexeme} {doc : Option String}
    (lexing : Lexing text lexemes) :
    List.Forall₂ Denotes ((Occurrence.allOf before lexemes).filter Occurrence.isToken)
      (Lexeme.tokens (Position.after before) doc lexemes) := by
  induction lexing generalizing before doc with
  | finished => exact .nil
  | @next text rest lexeme lexemes first others inductionHypothesis =>
      rcases lexeme with ⟨kind, written⟩
      have position := Position.after_advance before written
      cases kind with
      | token kind =>
          rw [first.parts] at first
          rw [Occurrence.allOf, others.flatMap_text, List.filter_cons_of_pos rfl, Lexeme.tokens, position]
          exact .cons (denotes_of_heads doc first) inductionHypothesis
      | _ =>
          rw [Occurrence.allOf, List.filter_cons_of_neg Bool.false_ne_true, Lexeme.tokens, position]
          exact inductionHypothesis

/-- There are no more tokens than lexemes. -/
theorem Lexeme.length_tokens_le (position : Position) (doc : Option String) (lexemes : List Lexeme) :
    (tokens position doc lexemes).length ≤ lexemes.length := by
  induction lexemes generalizing position doc with
  | nil => exact Nat.le_refl _
  | cons lexeme rest inductionHypothesis =>
      rw [tokens, List.length_cons]
      split
      · exact Nat.succ_le_succ (inductionHypothesis _ _)
      · exact Nat.le_succ_of_le (inductionHypothesis _ _)
      · exact Nat.le_succ_of_le (inductionHypothesis _ _)

/-- The pending tokens of a text denote its token lexemes. -/
theorem TokenStream.denotes_pending (path source : String) :
    List.Forall₂ Denotes ((Occurrence.allOf [] (Scanner.ofText source.toList).lexemes).filter Occurrence.isToken)
      (ofSource path source).pending := denotes_tokens (Lexing.ofText source.toList)

end TemplateFile
