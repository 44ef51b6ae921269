import TemplateFile.Proofs.Lexical.Front

namespace TemplateFile

/-!
# The lexical grammar

Which lexeme stands at the front of a text is a matter of the rules and of the
closing texts alone: a rule takes a lexeme, or it takes the text that opens a
construct, which runs to the first occurrence of its closer.  `Heads` says
this, and `Lexing` says it of all lexemes of a text, one after the other.

Neither mentions a scanner.  There is exactly one way to cut a text, and the
scanner finds it.
-/

namespace LexicalRule

theorem mem_order (rule : LexicalRule) : rule ∈ order := by
  cases rule with
  | openTag kind => cases kind <;> decide
  | header tag => cases tag <;> decide
  | _ => decide

/-- The order decides between any two rules. -/
theorem rank_injective : Function.Injective rank := by
  intro rule other same
  exact (List.idxOf_inj (mem_order rule)).mp same

/-- Only one rule applies to a text, and it takes only one piece of it. -/
theorem Takes.unique {rule other : LexicalRule} {text found again : List Char} (one : rule.Takes text found)
    (two : other.Takes text again) : rule = other ∧ found = again := by
  have sameRule : rule = other := by
    rcases Nat.lt_trichotomy rule.rank other.rank with earlier | same | later
    · exact absurd ⟨found, one.accepted, one.begins⟩ (two.noEarlier rule earlier)
    · exact rank_injective same
    · exact absurd ⟨again, two.accepted, two.begins⟩ (one.noEarlier other later)
  subst sameRule
  have shorter := two.longest found one.accepted one.begins
  have longer := one.longest again two.accepted two.begins
  have sameLength := Nat.le_antisymm shorter longer
  exact ⟨rfl, (List.prefix_of_prefix_length_le one.begins two.begins shorter).eq_of_length sameLength⟩

theorem Takes.matches {rule : LexicalRule} {text found : List Char} (taken : rule.Takes text found) :
    rule.Matches text := ⟨found, taken.accepted, taken.begins⟩

end LexicalRule

theorem TemplateKind.closer_ne_nil (kind : TemplateKind) : kind.closer ≠ [] := by
  cases kind <;> decide

theorem Construct.closer_ne_nil (construct : Construct) : construct.closer ≠ [] := by
  cases construct with
  | template kind => exact kind.closer_ne_nil
  | _ => decide

/-- The lexeme at the front of a text, and what follows it. -/
inductive Heads : List Char -> Lexeme -> List Char -> Prop where
  | piece {rule : LexicalRule} {text found rest : List Char} {lexeme : Lexeme} (taken : rule.Takes text found)
      (product : rule.product found = .lexeme lexeme) (parts : text = found ++ rest) : Heads text lexeme rest
  | closed {rule : LexicalRule} {text found tail inside rest : List Char} {construct : Construct}
      (taken : rule.Takes text found) (product : rule.product found = .opener construct found)
      (parts : text = found ++ tail) (closes : Text.FirstAt construct.closer tail inside rest) :
      Heads text ⟨construct.lexemeKind, found ++ inside ++ construct.closer⟩ rest
  | unclosed {rule : LexicalRule} {text found tail : List Char} {construct : Construct}
      (taken : rule.Takes text found) (product : rule.product found = .opener construct found)
      (parts : text = found ++ tail) (absent : ¬ construct.closer <:+: tail) :
      Heads text ⟨.token .unexpected, text⟩ []
  | unknown {character : Char} {rest : List Char}
      (none : forall rule : LexicalRule, ¬ rule.Matches (character :: rest)) :
      Heads (character :: rest) ⟨.token .unexpected, [character]⟩ rest

/-- The lexemes of a text. -/
inductive Lexing : List Char -> List Lexeme -> Prop where
  | finished : Lexing [] []
  | next {text rest : List Char} {lexeme : Lexeme} {lexemes : List Lexeme} (first : Heads text lexeme rest)
      (others : Lexing rest lexemes) : Lexing text (lexeme :: lexemes)

namespace LexicalRule

theorem text_product (rule : LexicalRule) (found : List Char) : (rule.product found).text = found := by
  cases rule <;> rfl

theorem text_of_product_lexeme {rule : LexicalRule} {found : List Char} {lexeme : Lexeme}
    (product : rule.product found = .lexeme lexeme) : lexeme.text = found := by
  rw [← text_product rule found, product]
  rfl

theorem text_of_product_opener {rule : LexicalRule} {found opener : List Char} {construct : Construct}
    (product : rule.product found = .opener construct opener) : opener = found := by
  rw [← text_product rule found, product]
  rfl

/-- What is cut off as an opener was taken by a rule. -/
theorem exists_takes_of_front {character : Char} {tail opener after : List Char} {construct : Construct}
    (cut : Scanner.front character tail = (.opener construct opener, after)) :
    ∃ rule : LexicalRule, rule.Takes (character :: tail) opener ∧ rule.product opener = .opener construct opener ∧
      character :: tail = opener ++ after := by
  rcases recognizes_front character tail with ⟨rule, found, taken, product, parts⟩ | ⟨_, _, _, _, single⟩
  · rw [cut] at product parts
    have same := text_of_product_opener product.symm
    subst same
    exact ⟨rule, taken, product.symm, parts⟩
  · rw [cut] at single
    cases single

theorem eq_blank_of_lead {rule : LexicalRule} (lead : rule.lead = .blank) : rule = blank := by
  cases rule <;> first | rfl | cases lead

/-- What a rule takes begins with no blank, unless it is the rule for blanks. -/
theorem not_isBlank_of_mem {rule : LexicalRule} {found : List Char} (member : found ∈ rule.language)
    (other : rule ≠ blank) : ∃ first others, found = first :: others ∧ Text.isBlank first = false := by
  rcases lead_of_mem member with ⟨first, others, parts, lead⟩
  refine ⟨first, others, parts, Bool.eq_false_iff.mpr fun isBlank => other ?_⟩
  rw [Lead.ofChar, if_pos isBlank] at lead
  exact eq_blank_of_lead lead.symm

theorem Takes.ne_nil {rule : LexicalRule} {text found : List Char} (taken : rule.Takes text found) : found ≠ [] := by
  rcases lead_of_mem taken.accepted with ⟨character, rest, rfl, _⟩
  exact List.cons_ne_nil character rest

end LexicalRule

namespace Heads

variable {text rest : List Char} {lexeme : Lexeme}

/-- The lexeme and what follows it make up the text. -/
theorem parts (heads : Heads text lexeme rest) : text = lexeme.text ++ rest := by
  cases heads with
  | piece taken product parts => rw [LexicalRule.text_of_product_lexeme product, parts]
  | closed taken product parts closes =>
      rw [parts, closes.parts, List.append_assoc, List.append_assoc, List.append_assoc]
  | unclosed taken product parts absent => rw [List.append_nil]
  | unknown none => rfl

theorem text_ne_nil (heads : Heads text lexeme rest) : lexeme.text ≠ [] := by
  cases heads with
  | piece taken product parts => exact LexicalRule.text_of_product_lexeme product ▸ taken.ne_nil
  | closed taken product parts closes =>
      exact fun empty => taken.ne_nil (List.append_eq_nil_iff.mp (List.append_eq_nil_iff.mp empty).1).1
  | unclosed taken product parts absent =>
      exact fun empty => taken.ne_nil (List.append_eq_nil_iff.mp (parts.symm.trans empty)).1
  | unknown none => exact List.cons_ne_nil _ _

/-- Only blanks begin with a blank. -/
theorem not_isBlank (heads : Heads text lexeme rest) (notBlank : lexeme.kind ≠ .blank) :
    ∃ first others, lexeme.text = first :: others ∧ Text.isBlank first = false := by
  cases heads with
  | @piece rule _ found _ _ taken product parts =>
      have other : rule ≠ .blank := by
        rintro rfl
        cases product
        exact notBlank rfl
      rw [LexicalRule.text_of_product_lexeme product]
      exact LexicalRule.not_isBlank_of_mem taken.accepted other
  | @closed rule _ found _ _ _ _ taken product parts closes =>
      have other : rule ≠ .blank := by
        rintro rfl
        cases product
      rcases LexicalRule.not_isBlank_of_mem taken.accepted other with ⟨first, others, rfl, visible⟩
      exact ⟨first, _, rfl, visible⟩
  | @unclosed rule _ found _ _ taken product parts absent =>
      have other : rule ≠ .blank := by
        rintro rfl
        cases product
      rcases LexicalRule.not_isBlank_of_mem taken.accepted other with ⟨first, others, rfl, visible⟩
      exact ⟨first, _, parts, visible⟩
  | @unknown character _ none =>
      refine ⟨character, [], rfl, Bool.eq_false_iff.mpr fun isBlank => none .blank ?_⟩
      refine ⟨[character], LexicalRule.mem_someOf_iff.mpr ⟨List.cons_ne_nil _ _, ?_⟩, [character].prefix_append _⟩
      intro other member
      rw [List.mem_singleton.mp member]
      exact isBlank

/-- What the rules cut off as a lexeme is the lexeme at the front of the text. -/
theorem of_front {character : Char} {tail : List Char} (cut : Scanner.front character tail = (.lexeme lexeme, rest)) :
    Heads (character :: tail) lexeme rest := by
  rcases LexicalRule.recognizes_front character tail with
    ⟨rule, found, taken, product, parts⟩ | ⟨none, _, _, same, single⟩
  · rw [cut] at product parts
    exact .piece taken product.symm parts
  · cases same
    rw [cut] at single
    cases single
    exact .unknown none

/-- Every text that is not empty has a lexeme at its front. -/
theorem exists_of_ne_nil (notEmpty : text ≠ []) : ∃ lexeme rest, Heads text lexeme rest := by
  cases text with
  | nil => exact absurd rfl notEmpty
  | cons character tail =>
      rcases cut : Scanner.front character tail with ⟨front, after⟩
      cases front with
      | lexeme lexeme => exact ⟨lexeme, after, of_front cut⟩
      | opener construct opener =>
          rcases LexicalRule.exists_takes_of_front cut with ⟨rule, taken, product, parts⟩
          cases closed : Text.cutAt? construct.closer after with
          | some around => exact ⟨_, around.2, .closed taken product parts (Text.cutAt?_eq_some_iff.mp closed)⟩
          | none => exact ⟨_, [], .unclosed taken product parts (Text.cutAt?_eq_none_iff.mp closed)⟩

end Heads

/-! ## The scanner cuts a text as the rules say -/

namespace Scanner

theorem lexemes_of_opened {scanner next : Scanner} (stepped : scanner.step = some (none, next)) :
    scanner.lexemes = next.lexemes := by
  rw [lexemes]
  split
  · next found => rw [stepped] at found; cases found
  · next other found => rw [stepped] at found; cases found; rfl
  · next lexeme other found => rw [stepped] at found; cases found

theorem lexemes_of_finishes {scanner next : Scanner} {lexeme : Lexeme}
    (stepped : scanner.step = some (some lexeme, next)) : scanner.lexemes = lexeme :: next.lexemes := by
  rw [lexemes]
  split
  · next found => rw [stepped] at found; cases found
  · next other found => rw [stepped] at found; cases found
  · next again other found => rw [stepped] at found; cases found; rfl

theorem lexemes_ofText_nil : (ofText []).lexemes = [] := by
  rw [lexemes]
  split
  · rfl
  · next other found => cases found
  · next again other found => cases found

variable {rule : LexicalRule} {text found rest : List Char}

theorem front_of_takes {character : Char} {tail : List Char} (taken : rule.Takes (character :: tail) found)
    (parts : character :: tail = found ++ rest) : front character tail = (rule.product found, rest) := by
  rcases LexicalRule.recognizes_front character tail with ⟨other, again, takenAgain, product, partsAgain⟩ | ⟨none, _⟩
  · rcases taken.unique takenAgain with ⟨rfl, rfl⟩
    rw [parts] at partsAgain
    rw [List.append_cancel_left partsAgain, ← product]
  · exact absurd taken.matches (none rule)

/-- What a scanner between lexemes does where a rule takes something. -/
theorem step_of_takes (taken : rule.Takes text found) (parts : text = found ++ rest) :
    (ofText text).step = match rule.product found with
      | .lexeme lexeme => some (some lexeme, ofText rest)
      | .opener construct opener => some (none, ⟨.inside construct opener, rest⟩) := by
  cases text with
  | nil => exact absurd (List.append_eq_nil_iff.mp parts.symm).1 taken.ne_nil
  | cons character tail =>
      simp only [ofText, step, front_of_takes taken parts]
      cases rule.product found <;> rfl

theorem front_of_unknown {character : Char} (none : forall rule : LexicalRule, ¬ rule.Matches (character :: rest)) :
    front character rest = single character rest := by
  rcases LexicalRule.recognizes_front character rest with ⟨rule, found, taken, _⟩ | ⟨_, other, tail, same, cut⟩
  · exact absurd taken.matches (none rule)
  · cases same
    exact cut

theorem step_of_unknown {character : Char} (none : forall rule : LexicalRule, ¬ rule.Matches (character :: rest)) :
    (ofText (character :: rest)).step = some (some ⟨.token .unexpected, [character]⟩, ofText rest) := by
  simp only [ofText, step, front_of_unknown none, single, Front.token]

/-- The lexeme at the front of a text is found first. -/
theorem lexemes_ofText_of_heads {lexeme : Lexeme} (heads : Heads text lexeme rest) :
    (ofText text).lexemes = lexeme :: (ofText rest).lexemes := by
  cases heads with
  | piece taken product parts =>
      apply lexemes_of_finishes
      rw [step_of_takes taken parts, product]
  | closed taken product parts closes =>
      have opened := step_of_takes taken parts
      rw [product] at opened
      rw [lexemes_of_opened opened]
      apply lexemes_of_finishes
      simp only [step, Text.cutAt?_eq_some_iff.mpr closes, ofText]
  | unclosed taken product parts absent =>
      have opened := step_of_takes taken parts
      rw [product] at opened
      rw [lexemes_of_opened opened]
      apply lexemes_of_finishes
      simp only [step, Text.cutAt?_eq_none_iff.mpr absent, ofText, parts]
  | unknown none => exact lexemes_of_finishes (step_of_unknown none)

end Scanner

/-- There is only one lexeme at the front of a text. -/
theorem Heads.unique {text rest tail : List Char} {lexeme other : Lexeme} (one : Heads text lexeme rest)
    (two : Heads text other tail) : lexeme = other ∧ rest = tail := by
  have same := Scanner.lexemes_ofText_of_heads one
  rw [Scanner.lexemes_ofText_of_heads two] at same
  have sameLexeme := (List.cons.inj same).1
  subst sameLexeme
  exact ⟨rfl, List.append_cancel_left (one.parts.symm.trans two.parts)⟩

namespace Lexing

theorem eq_lexemes {text : List Char} {lexemes : List Lexeme} (lexing : Lexing text lexemes) :
    lexemes = (Scanner.ofText text).lexemes := by
  induction lexing with
  | finished => exact Scanner.lexemes_ofText_nil.symm
  | next first others inductionHypothesis => rw [Scanner.lexemes_ofText_of_heads first, inductionHypothesis]

/-- Every text is cut by the rules. -/
theorem ofText (text : List Char) : Lexing text (Scanner.ofText text).lexemes := by
  by_cases empty : text = []
  · rw [empty, Scanner.lexemes_ofText_nil]
    exact .finished
  · rcases Heads.exists_of_ne_nil empty with ⟨lexeme, rest, heads⟩
    have shorter : rest.length < text.length := by
      have positive := List.length_pos_iff.mpr heads.text_ne_nil
      rw [heads.parts, List.length_append]
      omega
    rw [Scanner.lexemes_ofText_of_heads heads]
    exact .next heads (ofText rest)
termination_by text.length

/-- The scanner computes the lexical grammar. -/
theorem iff_lexemes {text : List Char} {lexemes : List Lexeme} :
    Lexing text lexemes ↔ lexemes = (Scanner.ofText text).lexemes := by
  constructor
  · exact eq_lexemes
  · intro same
    rw [same]
    exact ofText text

/-- Nothing of the text is lost. -/
theorem flatMap_text {text : List Char} {lexemes : List Lexeme} (lexing : Lexing text lexemes) :
    lexemes.flatMap Lexeme.text = text := by
  induction lexing with
  | finished => rfl
  | next first others inductionHypothesis => rw [List.flatMap_cons, inductionHypothesis, ← first.parts]

/-- A text has no more lexemes than characters. -/
theorem length_le {text : List Char} {lexemes : List Lexeme} (lexing : Lexing text lexemes) :
    lexemes.length ≤ text.length := by
  induction lexing with
  | finished => exact Nat.le_refl _
  | next first others inductionHypothesis =>
      have positive := List.length_pos_iff.mpr first.text_ne_nil
      rw [first.parts, List.length_append, List.length_cons]
      omega

end Lexing

end TemplateFile
