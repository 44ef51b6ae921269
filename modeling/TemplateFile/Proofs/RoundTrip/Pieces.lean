import TemplateFile.Proofs.Grammar.Form
import TemplateFile.Proofs.Lexical.Tokens
import TemplateFile.Proofs.RoundTrip.Outline
import TemplateFile.Proofs.Tree.TemplateText

namespace TemplateFile

open Computability

/-!
# The tokens of a text, piece by piece

The tokens of a text are found by scanning all of it.  Here they are found one
piece at a time: a gap at the front only moves the position, and a token at the
front is the first token, whatever follows, provided that what follows a word
does not go on with it.
-/

/-- The tokens of a text at a position, when a documentation comment may wait for the first of them. -/
def tokensFrom (position : Position) (doc : Option String) (text : List Char) : List Token :=
  Lexeme.tokens position doc (Scanner.ofText text).lexemes

/-- The token of a given kind that is written as `text`. -/
def tokenAt (kind : TokenKind) (position : Position) (doc : Option String) (text : List Char) : TokenOf kind :=
  ⟨⟨kind, String.ofList (Lexeme.tokenValue kind text), Span.ofText position text, doc⟩, rfl⟩

namespace Scanner

variable {character : Char} {rest after : List Char}

theorem lexemes_ofText_of_front {lexeme : Lexeme} (cut : front character rest = (.lexeme lexeme, after)) :
    (ofText (character :: rest)).lexemes = lexeme :: (ofText after).lexemes := by
  apply lexemes_of_finishes
  simp only [ofText, step, cut]

theorem lexemes_ofText_of_opener {construct : Construct} {opener inside tail : List Char}
    (cut : front character rest = (.opener construct opener, after))
    (closes : Text.FirstAt construct.closer after inside tail) :
    (ofText (character :: rest)).lexemes =
      ⟨construct.lexemeKind, opener ++ inside ++ construct.closer⟩ :: (ofText tail).lexemes := by
  have opened : (ofText (character :: rest)).step = some (none, ⟨.inside construct opener, after⟩) := by
    simp only [ofText, step, cut]
  rw [lexemes_of_opened opened]
  apply lexemes_of_finishes
  simp only [step, Text.cutAt?_eq_some_iff.mpr closes, ofText]

/-- A construct that is not closed takes the rest of the text. -/
theorem lexemes_ofText_of_unclosed {construct : Construct} {opener : List Char}
    (cut : front character rest = (.opener construct opener, after)) (absent : ¬ construct.closer <:+: after) :
    (ofText (character :: rest)).lexemes = [⟨.token .unexpected, opener ++ after⟩] := by
  have opened : (ofText (character :: rest)).step = some (none, ⟨.inside construct opener, after⟩) := by
    simp only [ofText, step, cut]
  have finished : step ⟨.inside construct opener, after⟩ =
      some (some ⟨.token .unexpected, opener ++ after⟩, ofText []) := by
    simp only [step, Text.cutAt?_eq_none_iff.mpr absent, ofText]
  rw [lexemes_of_opened opened, lexemes_of_finishes finished, lexemes_ofText_nil]

end Scanner

section

variable {position : Position} {doc : Option String} {text rest : List Char}

theorem tokensFrom_nil : tokensFrom position doc [] = [] := by
  rw [tokensFrom, Scanner.lexemes_ofText_nil, Lexeme.tokens]

theorem tokensFrom_of_token {kind : TokenKind}
    (first : (Scanner.ofText (text ++ rest)).lexemes = ⟨.token kind, text⟩ :: (Scanner.ofText rest).lexemes) :
    tokensFrom position doc (text ++ rest) =
      (tokenAt kind position doc text).token :: tokensFrom (position.advance text) none rest := by
  rw [tokensFrom, first, Lexeme.tokens]
  rfl

/-- A lexeme that is neither a token nor a documentation comment. -/
theorem tokensFrom_of_skipped {kind : LexemeKind} (notToken : forall token, kind ≠ .token token)
    (notDoc : kind ≠ .docComment)
    (first : (Scanner.ofText (text ++ rest)).lexemes = ⟨kind, text⟩ :: (Scanner.ofText rest).lexemes) :
    tokensFrom position doc (text ++ rest) = tokensFrom (position.advance text) doc rest := by
  rw [tokensFrom, first, Lexeme.tokens]
  cases kind with
  | token token => exact absurd rfl (notToken token)
  | docComment => exact absurd rfl notDoc
  | _ => rfl

/-! ## Gaps -/

theorem front_of_isBlank {character : Char} (isBlank : Text.isBlank character = true) (rest : List Char) :
    Scanner.front character rest =
      (.lexeme ⟨.blank, character :: rest.takeWhile Text.isBlank⟩, rest.dropWhile Text.isBlank) := by
  unfold Scanner.front
  rw [if_pos isBlank]

theorem tokensFrom_cons_eq {character : Char} (isBlank : Text.isBlank character = true) :
    tokensFrom position doc (character :: rest) =
      tokensFrom (position.advance (character :: rest.takeWhile Text.isBlank)) doc (rest.dropWhile Text.isBlank) := by
  rw [tokensFrom, Scanner.lexemes_ofText_of_front (front_of_isBlank isBlank rest), Lexeme.tokens]
  rfl

/-- A run of blanks may be cut anywhere. -/
theorem tokensFrom_cons_of_isBlank {character : Char} (isBlank : Text.isBlank character = true) :
    tokensFrom position doc (character :: rest) = tokensFrom (position.next character) doc rest := by
  rw [tokensFrom_cons_eq isBlank, Position.advance_cons]
  cases rest with
  | nil => rfl
  | cons next rest =>
      cases nextBlank : Text.isBlank next with
      | false =>
          rw [List.takeWhile_cons_of_neg (Bool.eq_false_iff.mp nextBlank), Position.advance_nil,
            List.dropWhile_cons_of_neg (Bool.eq_false_iff.mp nextBlank)]
      | true =>
          rw [List.takeWhile_cons_of_pos nextBlank, List.dropWhile_cons_of_pos nextBlank,
            tokensFrom_cons_eq nextBlank]

theorem tokensFrom_lineComment (member : text ∈ Written.lineComment) :
    tokensFrom position doc (text ++ rest) = tokensFrom (position.advance text) doc rest := by
  rcases Language.mem_mul.mp member with ⟨_, rfl, _, ended, rfl⟩
  rcases Language.mem_mul.mp ended with ⟨inside, oneLine, _, rfl, rfl⟩
  have inLine : forall character, character ∈ '/' :: inside -> (character != '\n') = true := by
    intro character member
    rcases List.mem_cons.mp member with rfl | later
    · decide
    · exact LexicalRule.mem_anyOf_iff.mp oneLine character later
  have stops : Text.Stops (fun character => character != '\n') ('\n' :: rest) :=
    Text.stops_cons_iff.mpr (by decide)
  have cut : Scanner.front '/' ('/' :: inside ++ '\n' :: rest) =
      (.lexeme ⟨.lineComment, '/' :: '/' :: inside⟩, '\n' :: rest) := by
    change ((Scanner.Front.lexeme ⟨.lineComment, '/' :: ('/' :: inside ++ '\n' :: rest).takeWhile _⟩,
      ('/' :: inside ++ '\n' :: rest).dropWhile _) : Scanner.Front × List Char) = _
    rw [Text.takeWhile_append_of_stops inLine stops, Text.dropWhile_append_of_stops inLine stops]
  have skipped : tokensFrom position doc ('/' :: '/' :: inside ++ '\n' :: rest) =
      tokensFrom (position.advance ('/' :: '/' :: inside)) doc ('\n' :: rest) :=
    tokensFrom_of_skipped (fun _ => LexemeKind.noConfusion) LexemeKind.noConfusion (Scanner.lexemes_ofText_of_front cut)
  have whole : ['/', '/'] ++ (inside ++ ['\n']) ++ rest = '/' :: '/' :: inside ++ '\n' :: rest := by
    simp only [List.append_assoc, List.cons_append, List.nil_append]
  rw [whole, skipped, tokensFrom_cons_of_isBlank (by decide), ← List.append_assoc, Position.advance_append]
  rfl

/-- A comment whose first character is not a second star. -/
theorem frontOfSlash_of_ne {character : Char} (different : character ≠ '*') :
    Scanner.frontOfSlash ('*' :: character :: rest) = (.opener .comment ['/', '*'], character :: rest) := by
  unfold Scanner.frontOfSlash
  split
  · next same => cases (List.cons.inj same).1
  · next same => exact absurd (List.cons.inj (List.cons.inj same).2).1 different
  · next same => exact absurd (List.cons.inj (List.cons.inj same).2).1 different
  · next same =>
      cases same
      rfl
  · next none => exact absurd rfl (none _)

theorem tokensFrom_blockComment (member : text ∈ Written.blockComment) :
    tokensFrom position doc (text ++ rest) = tokensFrom (position.advance text) doc rest := by
  rcases member with ⟨inside, rfl, noStar, closed⟩
  have first : (Scanner.ofText (['/', '*'] ++ inside ++ ['*', '/'] ++ rest)).lexemes =
      ⟨.comment, ['/', '*'] ++ inside ++ ['*', '/']⟩ :: (Scanner.ofText rest).lexemes := by
    cases inside with
    | nil => exact Scanner.lexemes_ofText_of_front rfl
    | cons character inside =>
        have different : character ≠ '*' := fun same => noStar (by rw [same]; rfl)
        have cut : Scanner.front '/' ('*' :: character :: inside ++ ['*', '/'] ++ rest) =
            (.opener .comment ['/', '*'], character :: inside ++ ['*', '/'] ++ rest) :=
          frontOfSlash_of_ne different
        exact Scanner.lexemes_ofText_of_opener cut (closed.append rest)
  exact tokensFrom_of_skipped (fun _ => LexemeKind.noConfusion) LexemeKind.noConfusion first

theorem tokensFrom_gap (member : text ∈ Written.gap) :
    tokensFrom position doc (text ++ rest) = tokensFrom (position.advance text) doc rest := by
  rcases Language.mem_kstar.mp member with ⟨pieces, rfl, all⟩
  clear member
  induction pieces generalizing position with
  | nil => rfl
  | cons piece pieces inductionHypothesis =>
      have first : tokensFrom position doc (piece ++ (pieces.flatten ++ rest)) =
          tokensFrom (position.advance piece) doc (pieces.flatten ++ rest) := by
        rcases all piece List.mem_cons_self with ⟨_, isBlank, rfl⟩ | isLine | isBlock
        · exact tokensFrom_cons_of_isBlank isBlank
        · exact tokensFrom_lineComment isLine
        · exact tokensFrom_blockComment isBlock
      rw [List.flatten_cons, List.append_assoc, first, Position.advance_append]
      exact inductionHypothesis fun other listed => all other (List.mem_cons_of_mem piece listed)

/-! ## Tokens -/

/-- The text at the front reads as the tokens. -/
def Reads (position : Position) (text rest : List Char) (tokens : List Token) : Prop :=
  tokensFrom position none (text ++ rest) = tokens ++ tokensFrom (position.advance text) none rest

/-- One text after another. -/
theorem Reads.append {later : List Char} {tokens more : List Token}
    (first : Reads position text (later ++ rest) tokens) (second : Reads (position.advance text) later rest more) :
    Reads position (text ++ later) rest (tokens ++ more) := by
  unfold Reads at first second ⊢
  rw [List.append_assoc, first, second, Position.advance_append, List.append_assoc]

theorem reads_nil : Reads position [] rest [] := rfl

theorem reads_gap (member : text ∈ Written.gap) : Reads position text rest [] := tokensFrom_gap member

theorem reads_of_token {kind : TokenKind}
    (first : (Scanner.ofText (text ++ rest)).lexemes = ⟨.token kind, text⟩ :: (Scanner.ofText rest).lexemes) :
    Reads position text rest [(tokenAt kind position none text).token] := tokensFrom_of_token first

theorem reads_keyword (tag : HeaderTag) :
    Reads position tag.keyword rest [(tokenAt (.header tag) position none tag.keyword).token] := by
  apply reads_of_token
  cases tag
  all_goals exact Scanner.lexemes_ofText_of_front rfl

theorem reads_closeCurly :
    Reads position ['\x7d'] rest [(tokenAt .closeCurly position none ['\x7d']).token] :=
  reads_of_token (Scanner.lexemes_ofText_of_front rfl)

theorem reads_equals : Reads position ['='] rest [(tokenAt .equals position none ['=']).token] :=
  reads_of_token (Scanner.lexemes_ofText_of_front rfl)

theorem reads_quoted {inside : List Char} (free : '"' ∉ inside) :
    Reads position ('"' :: inside ++ ['"']) rest
      [(tokenAt .quoted position none ('"' :: inside ++ ['"'])).token] := by
  have closed : Text.cutAt? ['"'] (inside ++ ['"'] ++ rest) = some (inside, rest) := by
    rw [List.append_assoc]
    exact Text.cutAt?_eq_some_iff.mpr (Text.FirstAt.of_notMem free rest)
  have cut : Scanner.front '"' (inside ++ ['"'] ++ rest) = (.token .quoted ('"' :: inside ++ ['"']), rest) := by
    change Scanner.frontOfQuote (inside ++ ['"'] ++ rest) = _
    rw [Scanner.frontOfQuote, closed]
  exact reads_of_token (Scanner.lexemes_ofText_of_front cut)

/-- A name or a reserved word. -/
theorem reads_word (member : text ∈ LexicalRule.name.language) (ends : LexicalRule.EndsName rest) :
    Reads position text rest
      [(tokenAt ((TokenKind.reserved? text).getD .name) position none text).token] := by
  have found := LexicalRule.front?_append member ends
  rcases Language.mem_mul.mp member with ⟨_, inSegment, others, _, rfl⟩
  rcases LexicalRule.mem_segment_iff.mp inSegment with ⟨first, parts, rfl, start, _⟩
  have cut : Scanner.front first (parts ++ others ++ rest) =
      (.token ((TokenKind.reserved? (first :: parts ++ others)).getD .name) (first :: parts ++ others), rest) := by
    unfold Scanner.front
    rw [if_neg (by rw [LexicalRule.not_isBlank_of_isStart start]; exact Bool.false_ne_true), if_pos start]
    rw [List.cons_append, List.cons_append] at found
    rw [Scanner.frontOfLetter, found]
    rfl
  exact reads_of_token (Scanner.lexemes_ofText_of_front cut)

theorem reads_attributeKey (key : AttributeKey) (ends : LexicalRule.EndsName rest) :
    Reads position key.word rest [(tokenAt (.attributeKey key) position none key.word).token] := by
  have reads : Reads position key.word rest _ := reads_word (LexicalRule.word_mem_name key) ends
  rwa [LexicalRule.reserved?_eq_attributeKey_iff.mpr rfl] at reads

theorem reads_as (ends : LexicalRule.EndsName rest) :
    Reads position "as".toList rest [(tokenAt .asWord position none "as".toList).token] := by
  have reads : Reads position "as".toList rest _ := reads_word LexicalRule.as_mem_name ends
  rwa [LexicalRule.reserved?_eq_asWord_iff.mpr rfl] at reads

theorem reserved?_of_isName {name : String} (isName : IsName name) (member : text ∈ Written.name name) :
    TokenKind.reserved? text = none := by
  have notKey : forall key : AttributeKey, text ≠ key.word := by
    rintro key rfl
    have plain : DottedName.value key.word = key.word := by
      cases key <;> decide
    exact isName.notKey key (plain ▸ member.2.symm)
  have notAs : text ≠ "as".toList := by
    rintro rfl
    exact isName.notAs member.2.symm
  unfold TokenKind.reserved?
  rw [if_neg (notKey .autoescape), if_neg (notKey .requireCss), if_neg (notKey .cssBase), if_neg notAs]

theorem reads_name {name : String} (isName : IsName name) (member : text ∈ Written.name name)
    (ends : LexicalRule.EndsName rest) :
    Reads position text rest [(tokenAt .name position none text).token] := by
  have reads : Reads position text rest _ := reads_word member.1 ends
  rwa [reserved?_of_isName isName member] at reads

theorem value_tokenAt_name {name : String} (member : text ∈ Written.name name) :
    (tokenAt .name position doc text).token.value = name := by
  change String.ofList (DottedName.value text) = name
  rw [member.2, String.ofList_toList]

theorem value_tokenAt_quoted (inside : List Char) :
    (tokenAt .quoted position doc ('"' :: inside ++ ['"'])).token.value = String.ofList inside := by
  change String.ofList ((List.drop 1 ('"' :: inside ++ ['"'])).dropLast) = String.ofList inside
  rw [List.cons_append, List.drop_succ_cons, List.drop_zero, List.dropLast_concat]

theorem tokensFrom_template {kind : TemplateKind} {openTag body : List Char}
    (opens : openTag ∈ (LexicalRule.openTag kind).language) (free : ¬ kind.closer <:+: body) :
    tokensFrom position doc (openTag ++ (body ++ kind.closer) ++ rest) =
      (tokenAt (.template kind) position doc (openTag ++ (body ++ kind.closer))).token ::
        tokensFrom (position.advance (openTag ++ (body ++ kind.closer))) none rest := by
  have closes : Text.FirstAt kind.closer (body ++ kind.closer ++ rest) body rest := by
    rcases kind.closer_eq with ⟨letters, isCloser, noBrace⟩
    rw [isCloser] at free ⊢
    exact Text.FirstAt.of_not_infix free noBrace rest
  have heads : Heads (openTag ++ (body ++ kind.closer ++ rest))
      ⟨.token (.template kind), openTag ++ body ++ kind.closer⟩ rest :=
    .closed (LexicalRule.takes_openTag opens _) rfl rfl closes
  have first := Scanner.lexemes_ofText_of_heads heads
  rw [← List.append_assoc, List.append_assoc openTag body] at first
  exact tokensFrom_of_token first

/-! ## Documentation comments -/

theorem frontOfSlash_doc (noSlash : rest.head? ≠ some '/') :
    Scanner.frontOfSlash ('*' :: '*' :: rest) = (.opener .docComment ['/', '*', '*'], rest) := by
  unfold Scanner.frontOfSlash
  split
  · next same => cases (List.cons.inj same).1
  · next same =>
      cases same
      exact absurd rfl noSlash
  · next same =>
      cases same
      rfl
  · next none same => exact (none rest (List.cons.inj same).2.symm).elim
  · next none => exact absurd rfl (none _)

/-- A documentation comment is the lexeme at the front, whatever follows. -/
theorem Scanner.lexemes_ofText_of_isDoc (isDoc : IsDoc text) :
    (ofText (text ++ rest)).lexemes = ⟨.docComment, text⟩ :: (ofText rest).lexemes := by
  rcases isDoc with ⟨inside, rfl, noSlash, closed⟩
  have noSlashLater : (inside ++ ['*', '/'] ++ rest).head? ≠ some '/' := by
    cases inside with
    | nil => exact fun same => by cases same
    | cons first others => exact noSlash
  have cut : front '/' ('*' :: '*' :: (inside ++ ['*', '/'] ++ rest)) =
      (.opener .docComment ['/', '*', '*'], inside ++ ['*', '/'] ++ rest) := frontOfSlash_doc noSlashLater
  have whole : ['/', '*', '*'] ++ inside ++ ['*', '/'] ++ rest =
      '/' :: '*' :: '*' :: (inside ++ ['*', '/'] ++ rest) := by
    simp only [List.append_assoc, List.cons_append, List.nil_append]
  rw [whole]
  exact lexemes_ofText_of_opener cut (closed.append rest)

theorem tokensFrom_doc (isDoc : IsDoc text) :
    tokensFrom position doc (text ++ rest) = tokensFrom (position.advance text) (some (String.ofList text)) rest := by
  rw [tokensFrom, Scanner.lexemes_ofText_of_isDoc isDoc, Lexeme.tokens]
  rfl

/-! ## What ends a word -/

theorem noDot_cons {character : Char} (notBlank : Text.isBlank character = false) (notDot : character ≠ '.') :
    LexicalRule.NoDot (character :: rest) := by
  unfold LexicalRule.NoDot
  rw [List.dropWhile_cons_of_neg (Bool.eq_false_iff.mp notBlank)]
  exact Text.stops_cons_iff.mpr (beq_eq_false_iff_ne.mpr notDot)

theorem endsName_cons {character : Char} (notBlank : Text.isBlank character = false)
    (notPart : DottedName.isPart character = false) (notDot : character ≠ '.') :
    LexicalRule.EndsName (character :: rest) :=
  ⟨Text.stops_cons_iff.mpr notPart, noDot_cons notBlank notDot⟩

/-- Comments and the words themselves have no dot at the front. -/
theorem noDot_gap (member : text ∈ Written.gap) (noDot : LexicalRule.NoDot rest) :
    LexicalRule.NoDot (text ++ rest) := by
  rcases Language.mem_kstar.mp member with ⟨pieces, rfl, all⟩
  clear member
  induction pieces with
  | nil => exact noDot
  | cons piece pieces inductionHypothesis =>
      have later := inductionHypothesis fun other listed => all other (List.mem_cons_of_mem piece listed)
      rw [List.flatten_cons, List.append_assoc]
      rcases all piece List.mem_cons_self with ⟨character, isBlank, rfl⟩ | isLine | isBlock
      · unfold LexicalRule.NoDot at later ⊢
        rw [List.singleton_append, List.dropWhile_cons_of_pos isBlank]
        exact later
      · rcases Language.mem_mul.mp isLine with ⟨_, rfl, _, _, rfl⟩
        exact noDot_cons (by decide) (by decide)
      · rcases isBlock with ⟨inside, rfl, _⟩
        exact noDot_cons (by decide) (by decide)

/-- A gap begins with a blank or a slash, if it is not empty. -/
theorem stops_separator (member : text ∈ Written.separator) : Text.Stops DottedName.isPart (text ++ rest) := by
  rcases member with ⟨inGap, notEmpty⟩
  rw [Written.gap, ← Language.one_add_self_mul_kstar_eq_kstar] at inGap
  rcases inGap with empty | later
  · exact absurd empty notEmpty
  · rcases Language.mem_mul.mp later with ⟨first, inFirst, others, _, rfl⟩
    rcases inFirst with ⟨character, isBlank, rfl⟩ | isLine | isBlock
    · exact Text.stops_cons_iff.mpr (LexicalRule.not_isPart_of_isBlank isBlank)
    · rcases Language.mem_mul.mp isLine with ⟨_, rfl, _, _, rfl⟩
      exact Text.stops_cons_iff.mpr (by decide)
    · rcases isBlock with ⟨inside, rfl, _⟩
      exact Text.stops_cons_iff.mpr (by decide)

theorem endsName_separator (member : text ∈ Written.separator) (noDot : LexicalRule.NoDot rest) :
    LexicalRule.EndsName (text ++ rest) := ⟨stops_separator member, noDot_gap member.1 noDot⟩

theorem endsName_gap (member : text ∈ Written.gap) (ends : LexicalRule.EndsName rest) :
    LexicalRule.EndsName (text ++ rest) := by
  by_cases empty : text = []
  · rw [empty]
    exact ends
  · exact endsName_separator ⟨member, empty⟩ ends.noDot

/-- A word has no dot at the front. -/
theorem noDot_word (member : text ∈ LexicalRule.name.language) : LexicalRule.NoDot (text ++ rest) := by
  rcases Language.mem_mul.mp member with ⟨_, inSegment, others, _, rfl⟩
  rcases LexicalRule.mem_segment_iff.mp inSegment with ⟨first, parts, rfl, start, _⟩
  refine noDot_cons (LexicalRule.not_isBlank_of_isStart start) ?_
  rintro rfl
  exact absurd start (by decide)

end

end TemplateFile
