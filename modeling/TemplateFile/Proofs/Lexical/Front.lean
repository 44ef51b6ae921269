import TemplateFile.Proofs.Lexical.LongestName
import TemplateFile.Proofs.Text.FirstOccurrence

namespace TemplateFile

open Computability

/-!
# The scanner applies the rules in order

`Scanner.front` picks a rule by looking at the first character, and often
without trying the rules that stand earlier in the order.  That is sound
because of the first characters alone: every rule has a lead, the only kind of
character with which its texts begin, and apart from the rules for a slash and
those for an opening brace no two rules have the same one.
-/

namespace LexicalRule

/-- A kind of character with which the texts of a rule begin. -/
inductive Lead where
  | blank
  | letter
  | sign (character : Char)
deriving DecidableEq, Repr

namespace Lead

/-- The kind of a character. -/
def ofChar (character : Char) : Lead :=
  if Text.isBlank character then blank
  else if DottedName.isStart character then letter
  else sign character

end Lead

/-- The kind of character with which all texts of a rule begin. -/
def lead : LexicalRule -> Lead
  | blank => .blank
  | lineComment => .sign '/'
  | emptyComment => .sign '/'
  | docOpener => .sign '/'
  | commentOpener => .sign '/'
  | openTag _ => .sign '{'
  | header _ => .sign '{'
  | closeCurly => .sign '\x7d'
  | equals => .sign '='
  | quoted => .sign '"'
  | name => .letter

theorem lead_of_mem {rule : LexicalRule} {found : List Char} (member : found ∈ rule.language) :
    ∃ character rest, found = character :: rest ∧ Lead.ofChar character = rule.lead := by
  cases rule with
  | blank =>
      rcases Language.mem_mul.mp member with ⟨_, ⟨first, isBlank, rfl⟩, others, _, rfl⟩
      exact ⟨first, others, rfl, by rw [Lead.ofChar, if_pos isBlank]; rfl⟩
  | lineComment =>
      rcases Language.mem_mul.mp member with ⟨_, rfl, inside, _, rfl⟩
      exact ⟨'/', '/' :: inside, rfl, by decide⟩
  | emptyComment => exact ⟨_, _, member, by decide⟩
  | docOpener => exact ⟨_, _, member, by decide⟩
  | commentOpener => exact ⟨_, _, member, by decide⟩
  | openTag kind =>
      rcases Language.mem_mul.mp member with ⟨_, front, _, _, rfl⟩
      rcases Language.mem_mul.mp front with ⟨_, start, inside, _, rfl⟩
      rcases Language.mem_mul.mp start with ⟨_, rfl, blanks, _, rfl⟩
      cases kind <;> exact ⟨'{', _, rfl, by decide⟩
  | header tag => cases tag <;> exact ⟨'{', _, member, by decide⟩
  | closeCurly => exact ⟨_, _, member, by decide⟩
  | equals => exact ⟨_, _, member, by decide⟩
  | quoted =>
      rcases Language.mem_mul.mp member with ⟨_, front, _, _, rfl⟩
      rcases Language.mem_mul.mp front with ⟨_, rfl, inside, _, rfl⟩
      exact ⟨'"', _, rfl, by decide⟩
  | name =>
      rcases Language.mem_mul.mp member with ⟨_, inSegment, others, _, rfl⟩
      rcases mem_segment_iff.mp inSegment with ⟨first, parts, rfl, start, _⟩
      refine ⟨first, parts ++ others, rfl, ?_⟩
      rw [Lead.ofChar, not_isBlank_of_isStart start, if_neg Bool.false_ne_true, if_pos start]
      rfl

theorem lead_of_matches {rule : LexicalRule} {character : Char} {rest : List Char}
    (found : rule.Matches (character :: rest)) : rule.lead = Lead.ofChar character := by
  rcases found with ⟨start, member, begins⟩
  rcases lead_of_mem member with ⟨first, others, rfl, same⟩
  rw [← (List.cons_prefix_cons.mp begins).1, same]

/-- Rules with a text at the same front have the same lead. -/
theorem Matches.lead_eq {rule other : LexicalRule} {text : List Char} (one : rule.Matches text)
    (two : other.Matches text) : rule.lead = other.lead := by
  cases text with
  | nil =>
      rcases one with ⟨found, member, begins⟩
      rcases lead_of_mem member with ⟨character, rest, rfl, _⟩
      cases List.prefix_nil.mp begins
  | cons character rest => rw [lead_of_matches one, lead_of_matches two]

/-- Outside the slash and the opening brace the lead decides the rule. -/
theorem eq_of_lead_eq {rule other : LexicalRule} (same : other.lead = rule.lead) (notSlash : rule.lead ≠ .sign '/')
    (notBrace : rule.lead ≠ .sign '{') : other = rule := by
  cases rule <;> cases other <;> simp_all only [lead, reduceCtorEq, ne_eq, not_true_eq_false, not_false_eq_true,
    Lead.sign.injEq] <;> revert same <;> decide

/-! ## What it takes to recognize a front -/

/-- What the rules say about the front of a text and what follows it: some rule
takes the front, or no rule has a text there and one character is cut off. -/
def Recognizes (text : List Char) (cut : Scanner.Front × List Char) : Prop :=
  (∃ rule : LexicalRule, ∃ found, rule.Takes text found ∧ cut.1 = rule.product found ∧ text = found ++ cut.2) ∨
    ((forall rule : LexicalRule, ¬ rule.Matches text) ∧
      ∃ character rest, text = character :: rest ∧ cut = Scanner.single character rest)

theorem recognizes_of_takes {rule : LexicalRule} {found rest : List Char}
    (taken : rule.Takes (found ++ rest) found) : Recognizes (found ++ rest) (rule.product found, rest) :=
  Or.inl ⟨rule, found, taken, rfl, rfl⟩

theorem recognizes_single {character : Char} {rest : List Char}
    (none : forall rule : LexicalRule, rule.lead = Lead.ofChar character -> ¬ rule.Matches (character :: rest)) :
    Recognizes (character :: rest) (Scanner.single character rest) :=
  Or.inr ⟨fun rule found => none rule (lead_of_matches found) found, character, rest, rfl, rfl⟩

/-- Only earlier rules with the same lead can come in the way. -/
theorem takes_of_lead {rule : LexicalRule} {found rest : List Char} (accepted : found ∈ rule.language)
    (longest : forall other, other ∈ rule.language -> other <+: found ++ rest -> other.length ≤ found.length)
    (noEarlier : forall other : LexicalRule, other.lead = rule.lead -> other.rank < rule.rank ->
      ¬ other.Matches (found ++ rest)) :
    rule.Takes (found ++ rest) found where
  accepted := accepted
  begins := List.prefix_append found rest
  longest := longest
  noEarlier := by
    intro other earlier matched
    rcases lead_of_mem accepted with ⟨character, others, rfl, lead⟩
    exact noEarlier other ((lead_of_matches matched).trans lead) earlier matched

/-- The only rule with its lead need not care about the order. -/
theorem takes_of_only {rule : LexicalRule} {found rest : List Char} (accepted : found ∈ rule.language)
    (only : forall other : LexicalRule, other.lead = rule.lead -> other = rule)
    (longest : forall other, other ∈ rule.language -> other <+: found ++ rest -> other.length ≤ found.length) :
    rule.Takes (found ++ rest) found := by
  apply takes_of_lead accepted longest
  intro other same earlier
  rw [only other same] at earlier
  exact absurd earlier (Nat.lt_irrefl _)

/-- The text with which all texts of a rule begin. -/
def opening : LexicalRule -> List Char
  | blank => []
  | lineComment => ['/', '/']
  | emptyComment => ['/', '*', '*', '/']
  | docOpener => ['/', '*', '*']
  | commentOpener => ['/', '*']
  | openTag kind => kind.keyword
  | header tag => tag.keyword
  | closeCurly => ['\x7d']
  | equals => ['=']
  | quoted => ['"']
  | name => []

theorem opening_prefix_of_mem {rule : LexicalRule} {found : List Char} (member : found ∈ rule.language) :
    rule.opening <+: found := by
  cases rule with
  | blank => exact List.nil_prefix
  | lineComment =>
      rcases Language.mem_mul.mp member with ⟨_, rfl, inside, _, rfl⟩
      exact List.prefix_append _ _
  | openTag kind =>
      rcases Language.mem_mul.mp member with ⟨_, front, last, _, rfl⟩
      rcases Language.mem_mul.mp front with ⟨_, start, inside, _, rfl⟩
      rcases Language.mem_mul.mp start with ⟨_, rfl, blanks, _, rfl⟩
      exact ⟨blanks ++ inside ++ last, by simp only [List.append_assoc, opening]⟩
  | quoted =>
      rcases Language.mem_mul.mp member with ⟨_, front, last, _, rfl⟩
      rcases Language.mem_mul.mp front with ⟨_, rfl, inside, _, rfl⟩
      exact ⟨inside ++ last, by simp only [List.append_assoc, opening]⟩
  | name => exact List.nil_prefix
  | emptyComment => rw [Set.mem_singleton_iff.mp member]; exact List.prefix_refl _
  | docOpener => rw [Set.mem_singleton_iff.mp member]; exact List.prefix_refl _
  | commentOpener => rw [Set.mem_singleton_iff.mp member]; exact List.prefix_refl _
  | header tag => rw [Set.mem_singleton_iff.mp member]; exact List.prefix_refl _
  | closeCurly => rw [Set.mem_singleton_iff.mp member]; exact List.prefix_refl _
  | equals => rw [Set.mem_singleton_iff.mp member]; exact List.prefix_refl _

theorem opening_prefix_of_matches {rule : LexicalRule} {text : List Char} (matched : rule.Matches text) :
    rule.opening <+: text := by
  rcases matched with ⟨found, member, begins⟩
  exact (opening_prefix_of_mem member).trans begins

/-! ## Blanks, names and single signs -/

theorem recognizes_blank {character : Char} (isBlank : Text.isBlank character = true) (rest : List Char) :
    Recognizes (character :: rest)
      (.lexeme ⟨.blank, character :: rest.takeWhile Text.isBlank⟩, rest.dropWhile Text.isBlank) := by
  have all : forall other, other ∈ character :: rest.takeWhile Text.isBlank -> Text.isBlank other = true := by
    intro other member
    rcases List.mem_cons.mp member with rfl | later
    · exact isBlank
    · exact List.mem_takeWhile_imp later
  have whole : character :: rest = character :: rest.takeWhile Text.isBlank ++ rest.dropWhile Text.isBlank := by
    rw [List.cons_append, List.takeWhile_append_dropWhile]
  have taken : blank.Takes (character :: rest.takeWhile Text.isBlank ++ rest.dropWhile Text.isBlank)
      (character :: rest.takeWhile Text.isBlank) := by
    apply takes_of_only
    · exact mem_someOf_iff.mpr ⟨List.cons_ne_nil _ _, all⟩
    · exact fun other same => eq_of_lead_eq same (by decide) (by decide)
    · intro other member begins
      have inside := Text.prefix_takeWhile (mem_someOf_iff.mp member).2 begins
      rw [Text.takeWhile_append_of_stops all (Text.stops_dropWhile rest)] at inside
      exact inside.length_le
  rw [whole]
  exact recognizes_of_takes taken

theorem recognizes_frontOfLetter {character : Char} (start : DottedName.isStart character = true)
    (rest : List Char) : Recognizes (character :: rest) (Scanner.frontOfLetter character rest) := by
  unfold Scanner.frontOfLetter
  cases walked : DottedName.front? (character :: rest) with
  | none =>
      apply recognizes_single
      rintro rule lead ⟨found, member, begins⟩
      rw [Lead.ofChar, not_isBlank_of_isStart start, if_neg Bool.false_ne_true, if_pos start] at lead
      have isName : rule = name := eq_of_lead_eq lead (by decide) (by decide)
      rw [isName] at member
      rcases front?_of_prefix member begins with ⟨longest, after, some, _⟩
      rw [walked] at some
      cases some
  | some cut =>
      rcases cut with ⟨found, after⟩
      have whole := (DottedName.eq_of_front? walked).1
      have taken : name.Takes (found ++ after) found := by
        apply takes_of_only
        · exact mem_name_of_front? walked
        · exact fun other same => eq_of_lead_eq same (by decide) (by decide)
        · intro other member begins
          rw [← whole] at begins
          rcases front?_of_prefix member begins with ⟨longest, rest, again, longer⟩
          rw [walked] at again
          cases again
          exact longer
      rw [whole]
      exact recognizes_of_takes taken

/-- A rule with a single text takes it, unless an earlier rule with the same lead begins there. -/
theorem recognizes_fixed (rule : LexicalRule) {word rest : List Char} (single : rule.language = {word})
    (noEarlier : forall other : LexicalRule, other.lead = rule.lead -> other.rank < rule.rank ->
      ¬ other.opening <+: word ++ rest) :
    Recognizes (word ++ rest) (rule.product word, rest) := by
  apply recognizes_of_takes
  apply takes_of_lead
  · rw [single]
    rfl
  · intro other member _
    rw [single] at member
    rw [Set.mem_singleton_iff.mp member]
  · exact fun other same earlier matched => noEarlier other same earlier (opening_prefix_of_matches matched)

/-- A sign that begins the texts of one rule only. -/
theorem recognizes_sign (rule : LexicalRule) {word : List Char} (single : rule.language = {word})
    (notSlash : rule.lead ≠ .sign '/') (notBrace : rule.lead ≠ .sign '{') (rest : List Char) :
    Recognizes (word ++ rest) (rule.product word, rest) := by
  apply recognizes_fixed rule single
  intro other same earlier
  rw [eq_of_lead_eq same notSlash notBrace] at earlier
  exact absurd earlier (Nat.lt_irrefl _)

theorem mem_quoted_iff {text : List Char} :
    text ∈ quoted.language ↔ ∃ inside, text = '"' :: inside ++ ['"'] ∧ '"' ∉ inside := by
  constructor
  · intro member
    rcases Language.mem_mul.mp member with ⟨_, front, _, rfl, rfl⟩
    rcases Language.mem_mul.mp front with ⟨_, rfl, inside, inInside, rfl⟩
    refine ⟨inside, rfl, ?_⟩
    intro quote
    have different := mem_anyOf_iff.mp inInside '"' quote
    simp only [bne_self_eq_false, Bool.false_eq_true] at different
  · rintro ⟨inside, rfl, free⟩
    refine Language.mem_mul.mpr ⟨'"' :: inside, Language.mem_mul.mpr ⟨['"'], rfl, inside, ?_, rfl⟩, ['"'], rfl, rfl⟩
    refine mem_anyOf_iff.mpr fun character member => ?_
    rw [bne_iff_ne]
    rintro rfl
    exact free member

/-- A quoted string at the front of a text ends at the first quote. -/
theorem cutAt?_of_quoted {found rest : List Char} (member : found ∈ quoted.language)
    (begins : found <+: '"' :: rest) :
    ∃ inside after, Text.cutAt? ['"'] rest = some (inside, after) ∧ found = '"' :: inside ++ ['"'] := by
  rcases mem_quoted_iff.mp member with ⟨inside, rfl, free⟩
  rcases begins with ⟨after, whole⟩
  refine ⟨inside, after, Text.cutAt?_eq_some_iff.mpr ?_, rfl⟩
  have inRest : inside ++ '"' :: after = rest := by
    have parts := (List.cons.inj whole).2
    simpa only [List.append_eq, List.append_assoc, List.cons_append, List.nil_append] using parts
  rw [← inRest]
  exact Text.FirstAt.of_notMem free after

theorem recognizes_frontOfQuote (rest : List Char) : Recognizes ('"' :: rest) (Scanner.frontOfQuote rest) := by
  unfold Scanner.frontOfQuote
  cases closed : Text.cutAt? ['"'] rest with
  | none =>
      apply recognizes_single
      rintro rule lead ⟨found, member, begins⟩
      have isQuoted : rule = quoted := eq_of_lead_eq lead (by decide) (by decide)
      rw [isQuoted] at member
      rcases cutAt?_of_quoted member begins with ⟨inside, after, some, _⟩
      rw [closed] at some
      cases some
  | some cut =>
      rcases cut with ⟨inside, after⟩
      have first := Text.cutAt?_eq_some_iff.mp closed
      have whole : '"' :: rest = '"' :: inside ++ ['"'] ++ after := by
        rw [first.parts]
        simp only [List.cons_append, List.append_assoc]
      have taken : quoted.Takes ('"' :: inside ++ ['"'] ++ after) ('"' :: inside ++ ['"']) := by
        apply takes_of_only
        · exact mem_quoted_iff.mpr ⟨inside, rfl, first.notMem⟩
        · exact fun other same => eq_of_lead_eq same (by decide) (by decide)
        · intro other member begins
          rw [← whole] at begins
          rcases cutAt?_of_quoted member begins with ⟨again, rest, some, rfl⟩
          rw [closed] at some
          cases some
          exact Nat.le_refl _
      rw [whole]
      exact recognizes_of_takes taken

/-! ## Slashes -/

/-- The rules for a slash, in their order. -/
theorem eq_of_lead_slash {rule : LexicalRule} (lead : rule.lead = .sign '/') :
    rule = lineComment ∨ rule = emptyComment ∨ rule = docOpener ∨ rule = commentOpener := by
  cases rule <;> first
    | exact Or.inl rfl
    | exact Or.inr (Or.inl rfl)
    | exact Or.inr (Or.inr (Or.inl rfl))
    | exact Or.inr (Or.inr (Or.inr rfl))
    | exact absurd lead (by decide)
    | cases lead

theorem recognizes_lineComment (rest : List Char) :
    Recognizes ('/' :: '/' :: rest)
      (lineComment.product ('/' :: '/' :: rest.takeWhile fun character => character != '\n'),
        rest.dropWhile fun character => character != '\n') := by
  have oneLine : forall character, character ∈ (rest.takeWhile fun character => character != '\n') ->
      (character != '\n') = true := fun character inside => by
    have stays := List.mem_takeWhile_imp inside
    exact stays
  have whole : '/' :: '/' :: rest = ('/' :: '/' :: rest.takeWhile fun character => character != '\n') ++
      rest.dropWhile fun character => character != '\n' := by
    rw [List.cons_append, List.cons_append, List.takeWhile_append_dropWhile]
  rw [whole]
  apply recognizes_of_takes
  apply takes_of_lead
  · exact Language.mem_mul.mpr ⟨['/', '/'], rfl, _, mem_anyOf_iff.mpr oneLine, rfl⟩
  · intro other member begins
    rcases Language.mem_mul.mp member with ⟨_, rfl, inside, inInside, rfl⟩
    rw [← whole] at begins
    have insideRest : inside <+: rest :=
      (List.cons_prefix_cons.mp (List.cons_prefix_cons.mp begins).2).2
    exact Nat.add_le_add_right (Text.prefix_takeWhile (mem_anyOf_iff.mp inInside) insideRest).length_le 2
  · intro other lead earlier
    rcases eq_of_lead_slash lead with rfl | rfl | rfl | rfl
    all_goals exact absurd earlier (by decide)

theorem recognizes_frontOfSlash (rest : List Char) : Recognizes ('/' :: rest) (Scanner.frontOfSlash rest) := by
  have notTwo : forall text, ¬ lineComment.opening <+: '/' :: '*' :: text := by
    intro text begins
    exact absurd (List.cons_prefix_cons.mp (List.cons_prefix_cons.mp begins).2).1 (by decide)
  unfold Scanner.frontOfSlash
  split
  · next tail => exact recognizes_lineComment tail
  · next after =>
      apply recognizes_fixed emptyComment rfl
      intro other lead earlier
      rcases eq_of_lead_slash lead with rfl | rfl | rfl | rfl
      · exact notTwo _
      all_goals exact absurd earlier (by decide)
  · next after notEmpty =>
      apply recognizes_fixed docOpener rfl
      intro other lead earlier
      rcases eq_of_lead_slash lead with rfl | rfl | rfl | rfl
      · exact notTwo _
      · rintro ⟨tail, begins⟩
        cases begins
        exact notEmpty tail rfl
      all_goals exact absurd earlier (by decide)
  · next after notEmpty notDoc =>
      apply recognizes_fixed commentOpener rfl
      intro other lead earlier
      rcases eq_of_lead_slash lead with rfl | rfl | rfl | rfl
      · exact notTwo _
      · rintro ⟨tail, begins⟩
        cases begins
        exact notEmpty tail rfl
      · rintro ⟨tail, begins⟩
        cases begins
        exact notDoc tail rfl
      · exact absurd earlier (by decide)
  · next notLine notEmpty notDoc notComment =>
      apply recognizes_single
      intro rule lead matched
      rcases opening_prefix_of_matches matched with ⟨tail, begins⟩
      rcases eq_of_lead_slash lead with rfl | rfl | rfl | rfl
      · exact notLine tail (List.cons.inj begins).2.symm
      · exact notEmpty tail (List.cons.inj begins).2.symm
      · exact notDoc tail (List.cons.inj begins).2.symm
      · exact notComment tail (List.cons.inj begins).2.symm

/-! ## Opening braces -/

theorem isBlank_brace : Text.isBlank '\x7d' = false := by decide

theorem mem_openTag_iff {kind : TemplateKind} {text : List Char} :
    text ∈ (openTag kind).language ↔
      ∃ blank second inside, text = kind.keyword ++ blank :: second :: inside ++ ['\x7d'] ∧
        Text.isBlank blank = true ∧ second ≠ '\x7d' ∧ '\x7d' ∉ inside := by
  constructor
  · intro member
    rcases Language.mem_mul.mp member with ⟨_, front, _, rfl, rfl⟩
    rcases Language.mem_mul.mp front with ⟨_, start, inside, inInside, rfl⟩
    rcases Language.mem_mul.mp start with ⟨_, rfl, _, ⟨_, ⟨blank, isBlank, rfl⟩, blanks, inBlanks, rfl⟩, rfl⟩
    have insideFree := mem_someOf_iff.mp inInside
    have free : '\x7d' ∉ blanks ++ inside := by
      intro member
      rcases List.mem_append.mp member with inGap | inText
      · exact absurd (mem_anyOf_iff.mp inBlanks _ inGap) (by rw [isBlank_brace]; exact Bool.false_ne_true)
      · exact bne_iff_ne.mp (insideFree.2 _ inText) rfl
    cases tag : blanks ++ inside with
    | nil => exact absurd (List.append_eq_nil_iff.mp tag).2 insideFree.1
    | cons second others =>
        rw [tag] at free
        refine ⟨blank, second, others, ?_, isBlank, ?_, ?_⟩
        · simp only [List.append_assoc, List.nil_append, List.cons_append, ← tag]
        · rintro rfl
          exact free List.mem_cons_self
        · exact fun inOthers => free (List.mem_cons_of_mem second inOthers)
  · rintro ⟨blank, second, inside, rfl, isBlank, different, free⟩
    have wholeFree : forall character, character ∈ second :: inside -> (character != '\x7d') = true := by
      intro character member
      rw [bne_iff_ne]
      rintro rfl
      rcases List.mem_cons.mp member with same | later
      · exact different same.symm
      · exact free later
    refine Language.mem_mul.mpr ⟨kind.keyword ++ [blank] ++ second :: inside, ?_, ['\x7d'], rfl, ?_⟩
    · refine Language.append_mem_mul (Language.append_mem_mul rfl ?_) ?_
      · exact mem_someOf_iff.mpr ⟨List.cons_ne_nil _ _, fun character member => by
          rw [List.mem_singleton.mp member]; exact isBlank⟩
      · exact mem_someOf_iff.mpr ⟨List.cons_ne_nil _ _, wholeFree⟩
    · simp only [List.append_assoc, List.nil_append, List.cons_append]

/-- An attempt at one rule: it cuts off what the rule takes of a text that it matches. -/
structure Attempts (rule : LexicalRule) (attempt : List Char -> Option (Scanner.Front × List Char)) : Prop where
  sound : forall text cut, attempt text = some cut -> ∃ found ∈ rule.language,
    cut.1 = rule.product found ∧ text = found ++ cut.2
  complete : forall text found, found ∈ rule.language -> found <+: text ->
    ∃ rest, text = found ++ rest ∧ attempt text = some (rule.product found, rest)

theorem attempts_fixed? {rule : LexicalRule} {word : List Char} (single : rule.language = {word}) :
    Attempts rule (Scanner.fixed? rule.product word) where
  sound := by
    intro text cut attempted
    simp only [Scanner.fixed?, Option.map_eq_some_iff] at attempted
    rcases attempted with ⟨rest, dropped, rfl⟩
    exact ⟨word, by rw [single]; rfl, rfl, Text.dropWord?_eq_some_iff.mp dropped⟩
  complete := by
    rintro text found member ⟨rest, rfl⟩
    rw [single] at member
    rw [Set.mem_singleton_iff.mp member]
    refine ⟨rest, rfl, ?_⟩
    rw [Scanner.fixed?, Text.dropWord?_eq_some_iff.mpr rfl, Option.map_some]

theorem attempts_openTag? (kind : TemplateKind) : Attempts (openTag kind) (Scanner.openTag? kind) where
  sound := by
    intro text cut attempted
    simp only [Scanner.openTag?] at attempted
    split at attempted
    · next blank second rest dropped =>
        split at attempted
        · next begins =>
            simp only [Option.map_eq_some_iff] at attempted
            rcases attempted with ⟨⟨inside, after⟩, closed, rfl⟩
            have first := Text.cutAt?_eq_some_iff.mp closed
            refine ⟨kind.keyword ++ blank :: second :: inside ++ ['\x7d'], ?_, rfl, ?_⟩
            · exact mem_openTag_iff.mpr ⟨blank, second, inside, rfl, begins.1, begins.2, first.notMem⟩
            · rw [Text.dropWord?_eq_some_iff.mp dropped, first.parts]
              simp only [List.append_assoc, List.cons_append]
        · cases attempted
    · cases attempted
  complete := by
    rintro text found member ⟨rest, rfl⟩
    rcases mem_openTag_iff.mp member with ⟨blank, second, inside, rfl, isBlank, different, free⟩
    refine ⟨rest, rfl, ?_⟩
    have dropped : Text.dropWord? kind.keyword (kind.keyword ++ blank :: second :: inside ++ ['\x7d'] ++ rest) =
        some (blank :: second :: (inside ++ '\x7d' :: rest)) := by
      rw [Text.dropWord?_eq_some_iff]
      simp only [List.append_assoc, List.cons_append, List.nil_append]
    have closed : Text.cutAt? ['\x7d'] (inside ++ '\x7d' :: rest) = some (inside, rest) :=
      Text.cutAt?_eq_some_iff.mpr (Text.FirstAt.of_notMem free rest)
    simp only [Scanner.openTag?, dropped, isBlank, different, ne_eq, not_false_eq_true, and_self, if_true, closed,
      Option.map_some]
    rfl

/-- What is cut off has no rival: the rule has nothing longer there. -/
theorem Attempts.longest {rule : LexicalRule} {attempt : List Char -> Option (Scanner.Front × List Char)}
    {text found other : List Char} {cut : Scanner.Front × List Char} (attempts : Attempts rule attempt)
    (attempted : attempt text = some cut) (parts : text = found ++ cut.2) (member : other ∈ rule.language)
    (begins : other <+: text) : other.length ≤ found.length := by
  rcases attempts.complete text other member begins with ⟨rest, otherParts, again⟩
  rw [attempted] at again
  cases again
  rw [parts] at otherParts
  rw [List.append_cancel_right otherParts]

/-- The first attempt that succeeds, among attempts at some rules in their order. -/
theorem exists_of_findSome? {rules : List LexicalRule}
    {attempts : List (List Char -> Option (Scanner.Front × List Char))} (each : List.Forall₂ Attempts rules attempts)
    {text : List Char} {cut : Scanner.Front × List Char}
    (tried : attempts.findSome? (fun attempt => attempt text) = some cut) :
    ∃ before rule after found, rules = before ++ rule :: after ∧
      (forall other, other ∈ before -> ¬ other.Matches text) ∧
      found ∈ rule.language ∧ cut.1 = rule.product found ∧ text = found ++ cut.2 ∧
      forall other, other ∈ rule.language -> other <+: text -> other.length ≤ found.length := by
  induction each with
  | nil => cases tried
  | @cons rule attempt rules attempts first _ inductionHypothesis =>
      cases here : attempt text with
      | some found =>
          rw [List.findSome?_cons, here] at tried
          cases tried
          rcases first.sound text cut here with ⟨found, member, product, parts⟩
          exact ⟨[], rule, rules, found, rfl, fun other inNil => absurd inNil List.not_mem_nil, member, product, parts,
            fun other => first.longest here parts⟩
      | none =>
          rw [List.findSome?_cons, here] at tried
          rcases inductionHypothesis tried with ⟨before, later, after, found, split, noEarlier, others⟩
          refine ⟨rule :: before, later, after, found, by rw [split, List.cons_append], ?_, others⟩
          intro other listed
          rcases List.mem_cons.mp listed with rfl | inBefore
          · rintro ⟨piece, member, begins⟩
            rcases first.complete text piece member begins with ⟨rest, _, again⟩
            rw [here] at again
            cases again
          · exact noEarlier other inBefore

/-- If no attempt succeeds, then none of the rules matches. -/
theorem not_matches_of_findSome?_eq_none {rules : List LexicalRule}
    {attempts : List (List Char -> Option (Scanner.Front × List Char))} (each : List.Forall₂ Attempts rules attempts)
    {text : List Char} (tried : attempts.findSome? (fun attempt => attempt text) = none) {rule : LexicalRule}
    (listed : rule ∈ rules) : ¬ rule.Matches text := by
  rintro ⟨found, member, begins⟩
  have all := List.findSome?_eq_none_iff.mp tried
  rcases List.mem_iff_getElem.mp listed with ⟨index, bound, rfl⟩
  have attempts := (List.forall₂_iff_get.mp each)
  rcases (attempts.2 index bound (attempts.1 ▸ bound)).complete text found member begins with ⟨rest, _, succeeded⟩
  have failed := all _ (List.get_mem _ ⟨index, attempts.1 ▸ bound⟩)
  rw [succeeded] at failed
  cases failed

/-- The rules for an opening brace, in their order. -/
def braced : List LexicalRule :=
  [openTag .basic, openTag .delegate, header .package, header .namespaceTag, header .aliasTag]

theorem mem_braced_of_lead {rule : LexicalRule} (lead : rule.lead = .sign '{') : rule ∈ braced := by
  cases rule with
  | openTag kind => cases kind <;> decide
  | header tag => cases tag <;> decide
  | _ => exact absurd lead (by decide)

theorem attempts_braceRules : List.Forall₂ Attempts braced Scanner.braceRules :=
  .cons (attempts_openTag? .basic) <|
  .cons (attempts_openTag? .delegate) <|
  .cons (attempts_fixed? rfl) <|
  .cons (attempts_fixed? rfl) <|
  .cons (attempts_fixed? rfl) .nil

theorem braced_sorted : braced.Pairwise fun rule later => rule.rank < later.rank := by decide

/-- Only the two kinds of template compete for the same opening brace, and their keywords differ. -/
theorem takes_openTag {kind : TemplateKind} {found : List Char} (member : found ∈ (openTag kind).language)
    (rest : List Char) : (openTag kind).Takes (found ++ rest) found := by
  rcases (attempts_openTag? kind).complete _ found member (List.prefix_append found rest) with
    ⟨after, parts, attempted⟩
  apply takes_of_lead member
  · exact fun other inLanguage begins => (attempts_openTag? kind).longest attempted parts inLanguage begins
  · intro other lead earlier matched
    have rival : other = openTag .basic ∧ kind = .delegate := by
      have all : forall rule, rule ∈ braced -> rule.rank < (openTag kind).rank ->
          rule = openTag .basic ∧ kind = .delegate := by
        cases kind <;> decide
      exact all other (mem_braced_of_lead lead) earlier
    rcases rival with ⟨rfl, rfl⟩
    have delegate := (opening_prefix_of_mem member).trans (List.prefix_append found rest)
    rcases List.prefix_or_prefix_of_prefix (opening_prefix_of_matches matched) delegate with begins | begins
    · exact absurd begins (by decide)
    · exact absurd begins (by decide)

theorem recognizes_frontOfBrace (rest : List Char) : Recognizes ('{' :: rest) (Scanner.frontOfBrace rest) := by
  unfold Scanner.frontOfBrace
  cases tried : Scanner.braceRules.findSome? fun attempt => attempt ('{' :: rest) with
  | none =>
      apply recognizes_single
      intro rule lead
      exact not_matches_of_findSome?_eq_none attempts_braceRules tried (mem_braced_of_lead lead)
  | some cut =>
      rcases exists_of_findSome? attempts_braceRules tried with
        ⟨before, rule, after, found, split, noEarlier, member, product, parts, longest⟩
      refine Or.inl ⟨rule, found, ?_, product, parts⟩
      refine ⟨member, ⟨cut.2, parts.symm⟩, longest, ?_⟩
      intro other earlier matched
      have listed := mem_braced_of_lead (lead_of_matches matched)
      rw [split] at listed
      have sorted := braced_sorted
      rw [split] at sorted
      have later := (List.pairwise_cons.mp (List.pairwise_append.mp sorted).2.1).1
      rcases List.mem_append.mp listed with inBefore | notBefore
      · exact noEarlier other inBefore matched
      · rcases List.mem_cons.mp notBefore with same | inAfter
        · exact absurd earlier (same ▸ Nat.lt_irrefl _)
        · exact absurd earlier (Nat.lt_asymm (later other inAfter))

/-! ## All fronts -/

/-- What the scanner cuts off is what the rules say. -/
theorem recognizes_front (character : Char) (rest : List Char) :
    Recognizes (character :: rest) (Scanner.front character rest) := by
  unfold Scanner.front
  split
  · next isBlank => exact recognizes_blank isBlank rest
  · next notBlank =>
      split
      · next start => exact recognizes_frontOfLetter start rest
      · next notStart =>
          split
          · exact recognizes_frontOfSlash rest
          · exact recognizes_frontOfBrace rest
          · exact recognizes_sign closeCurly rfl (by decide) (by decide) rest
          · exact recognizes_sign equals rfl (by decide) (by decide) rest
          · exact recognizes_frontOfQuote rest
          · next notSlash notBrace notClose notEquals notQuote =>
              apply recognizes_single
              intro rule lead
              rw [Lead.ofChar, if_neg notBlank, if_neg notStart] at lead
              cases rule <;> cases lead <;> contradiction

end LexicalRule

end TemplateFile
