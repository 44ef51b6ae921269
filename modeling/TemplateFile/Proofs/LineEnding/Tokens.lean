import TemplateFile.Proofs.Lexical.TemplateParts
import TemplateFile.Proofs.LineEnding.Front

namespace TemplateFile

/-!
# Line endings and tokens

A text with carriage returns has the same tokens as the text without them, in
the same places.  The token that a lexeme makes ends where it did, because no
lexeme that the rules accept ends with a line feed.  A construct that is never
closed may do so; then its last character is one column further to the right.
-/

/-! ## Sources and tokens with carriage returns -/

namespace Source

/-- The source with a carriage return before every line feed. -/
def withReturns (source : String) : String := String.ofList (Text.withReturns source.toList)

theorem toList_withReturns (source : String) : (withReturns source).toList = Text.withReturns source.toList :=
  String.toList_ofList

theorem withReturns_ofList (text : List Char) :
    withReturns (String.ofList text) = String.ofList (Text.withReturns text) := by
  rw [withReturns, String.toList_ofList]

theorem withReturns_of_notMem {source : String} (oneLine : '\n' ∉ source.toList) : withReturns source = source := by
  rw [withReturns, Text.withReturns_of_notMem oneLine, String.ofList_toList]

end Source

namespace Token

/-- A token that no rule accepts and that ends with a line feed. -/
def EndsInFeed (token : Token) : Prop := token.kind = .unexpected ∧ token.value.toList.getLast? = some '\n'

instance (token : Token) : Decidable token.EndsInFeed := inferInstanceAs (Decidable (_ ∧ _))

/-- The token in the text with carriage returns.  It begins and ends in the
same places, except that a line feed at its end has moved to the right. -/
def withReturns (token : Token) : Token where
  kind := token.kind
  value := Source.withReturns token.value
  span :=
    ⟨token.span.first.withReturns,
      if token.EndsInFeed then token.span.last.withReturns.next '\r' else token.span.last.withReturns⟩
  doc := token.doc.map Source.withReturns

theorem withReturns_endOfFile (position : Position) :
    (endOfFile position).withReturns = endOfFile position.withReturns := by
  have inner : ¬ (endOfFile position).EndsInFeed := fun ends => by cases ends.1
  have value : Source.withReturns "EOF" = "EOF" := Source.withReturns_of_notMem (by decide)
  rw [withReturns, if_neg inner]
  change (⟨_, Source.withReturns "EOF", _, _⟩ : Token) = _
  rw [value]
  rfl

end Token

/-! ## How lexemes end -/

namespace LexicalRule

/-- A text that ends with a character of a name. -/
def EndsInPart (text : List Char) : Prop :=
  ∃ front final, text = front ++ [final] ∧ DottedName.isPart final = true

theorem EndsInPart.append_left {later : List Char} (ends : EndsInPart later) (earlier : List Char) :
    EndsInPart (earlier ++ later) := by
  rcases ends with ⟨front, final, rfl, isPart⟩
  exact ⟨earlier ++ front, final, (List.append_assoc _ _ _).symm, isPart⟩

theorem endsInPart_segment {text : List Char} (member : text ∈ segment) : EndsInPart text := by
  rcases mem_segment_iff.mp member with ⟨first, others, rfl, start, parts⟩
  by_cases alone : others = []
  · exact ⟨[], first, by rw [alone, List.nil_append], isPart_of_isStart start⟩
  · refine .append_left ⟨others.dropLast, others.getLast alone, ?_, ?_⟩ [first]
    · exact (List.dropLast_concat_getLast alone).symm
    · exact parts _ (List.getLast_mem alone)

theorem endsInPart_dottedSegment {text : List Char} (member : text ∈ dottedSegment) : EndsInPart text := by
  rcases mem_dottedSegment_iff.mp member with ⟨before, after, piece, rfl, _, _, inSegment⟩
  exact (endsInPart_segment inSegment).append_left _

theorem endsInPart_name {text : List Char} (member : text ∈ name.language) : EndsInPart text := by
  rcases Language.mem_mul.mp member with ⟨first, inSegment, _, others, rfl⟩
  rcases Language.mem_kstar.mp others with ⟨pieces, rfl, all⟩
  clear member others
  induction pieces using List.reverseRecOn with
  | nil =>
      rw [List.flatten_nil, List.append_nil]
      exact endsInPart_segment inSegment
  | append_singleton pieces piece _ =>
      rw [List.flatten_append, List.flatten_singleton, ← List.append_assoc]
      exact (endsInPart_dottedSegment (all piece (List.mem_append_right _ List.mem_cons_self))).append_left _

/-- What a rule takes for a token does not end with a line feed. -/
theorem getLast?_ne_lineFeed {rule : LexicalRule} {found : List Char} {kind : TokenKind}
    (member : found ∈ rule.language) (product : rule.product found = .lexeme ⟨.token kind, found⟩) :
    found.getLast? ≠ some '\n' := by
  cases rule with
  | header tag =>
      rw [show found = tag.keyword from member]
      cases tag <;> decide
  | closeCurly =>
      rw [show found = ['\x7d'] from member]
      decide
  | equals =>
      rw [show found = ['='] from member]
      decide
  | quoted =>
      rcases mem_quoted_iff.mp member with ⟨inside, rfl, _⟩
      rw [List.getLast?_concat]
      decide
  | name =>
      rcases endsInPart_name member with ⟨front, final, rfl, isPart⟩
      rw [List.getLast?_concat]
      intro same
      rw [Option.some.inj same] at isPart
      exact absurd isPart (by decide)
  | _ => cases product

end LexicalRule

namespace Heads

variable {text written rest : List Char} {kind : TokenKind}

/-- Only an unexpected token may end with a line feed. -/
theorem getLast?_ne_lineFeed (heads : Heads text ⟨.token kind, written⟩ rest) (expected : kind ≠ .unexpected) :
    written.getLast? ≠ some '\n' := by
  by_cases isTemplate : ∃ template, kind = .template template
  · rcases isTemplate with ⟨template, rfl⟩
    rcases heads.exists_parts with ⟨openTag, body, parts⟩
    rw [parts.parts, List.getLast?_append]
    cases template <;> exact fun same => absurd (Option.some.inj same) (by decide)
  · rcases heads.exists_takes expected fun template same => isTemplate ⟨template, same⟩ with ⟨rule, taken, product⟩
    exact LexicalRule.getLast?_ne_lineFeed taken.accepted product

/-- The value of a token has its line feeds where its text has them. -/
theorem tokenValue_withReturns (heads : Heads text ⟨.token kind, written⟩ rest) :
    Lexeme.tokenValue kind (Text.withReturns written) = Text.withReturns (Lexeme.tokenValue kind written) := by
  cases kind with
  | quoted =>
      have parts := heads.hasValue_tokenValue.1
      generalize Lexeme.tokenValue .quoted written = value at parts
      rw [parts, Text.withReturns_append, Text.withReturns_cons_of_ne (by decide)]
      simp only [Lexeme.tokenValue, Text.withReturns_of_notMem (by decide : '\n' ∉ ['"']), List.cons_append,
        List.drop_succ_cons, List.drop_zero, List.dropLast_concat]
  | name =>
      have blankless : '\n' ∉ DottedName.value written := fun member =>
        absurd (List.mem_filter.mp member).2 (by decide)
      have sameValue : DottedName.value (Text.withReturns written) = DottedName.value written :=
        Text.filter_withReturns (by decide) (by decide) written
      change DottedName.value (Text.withReturns written) = Text.withReturns (DottedName.value written)
      rw [sameValue, Text.withReturns_of_notMem blankless]
  | _ => rfl

end Heads

variable {before written rest : List Char} {kind : TokenKind}

theorem endsInFeed_tokenAt_iff (doc : Option String) {front : List Char} {final : Char}
    (heads : Heads (front ++ [final] ++ rest) ⟨.token kind, front ++ [final]⟩ rest) :
    (tokenAt kind (Position.after before) doc (front ++ [final])).token.EndsInFeed ↔ final = '\n' := by
  constructor
  · rintro ⟨unexpected, lineFeed⟩
    change kind = .unexpected at unexpected
    subst unexpected
    change (String.ofList (front ++ [final])).toList.getLast? = some '\n' at lineFeed
    rw [String.toList_ofList, List.getLast?_concat] at lineFeed
    exact Option.some.inj lineFeed
  · rintro rfl
    have unexpected : kind = .unexpected := by
      by_contra expected
      exact heads.getLast?_ne_lineFeed expected List.getLast?_concat
    subst unexpected
    refine ⟨rfl, ?_⟩
    change (String.ofList (front ++ ['\n'])).toList.getLast? = some '\n'
    rw [String.toList_ofList, List.getLast?_concat]

/-- A token lexeme makes the token in the text with carriage returns. -/
theorem withReturns_tokenAt (before : List Char) (doc : Option String)
    (heads : Heads (written ++ rest) ⟨.token kind, written⟩ rest) :
    (tokenAt kind (Position.after before) doc written).token.withReturns =
      (tokenAt kind (Position.after (Text.withReturns before)) (doc.map Source.withReturns)
        (Text.withReturns written)).token := by
  obtain ⟨front, final, rfl⟩ : ∃ front final, written = front ++ [final] :=
    ⟨_, _, (List.dropLast_concat_getLast heads.text_ne_nil).symm⟩
  have value : Source.withReturns (tokenAt kind (Position.after before) doc (front ++ [final])).token.value =
      String.ofList (Lexeme.tokenValue kind (Text.withReturns (front ++ [final]))) := by
    rw [heads.tokenValue_withReturns]
    exact Source.withReturns_ofList _
  have last : (tokenAt kind (Position.after before) doc (front ++ [final])).token.span.last =
      Position.after (before ++ front) := by
    change (Position.after before).advance (front ++ [final]).dropLast = _
    rw [List.dropLast_concat, Position.after_advance]
  have lastLater : (if (tokenAt kind (Position.after before) doc (front ++ [final])).token.EndsInFeed then
        (Position.after (before ++ front)).withReturns.next '\r' else (Position.after (before ++ front)).withReturns) =
      (Position.after (Text.withReturns before)).advance (Text.withReturns (front ++ [final])).dropLast := by
    rw [Position.after_advance, ← Position.after_withReturns, Text.withReturns_append]
    by_cases lineFeed : final = '\n'
    · rw [if_pos ((endsInFeed_tokenAt_iff doc heads).mpr lineFeed), lineFeed, Text.withReturns_append_lineFeed,
        List.dropLast_concat, ← List.append_assoc, Position.after_append_singleton]
    · rw [if_neg (mt (endsInFeed_tokenAt_iff doc heads).mp lineFeed), Text.withReturns_append_of_ne lineFeed,
        List.dropLast_concat]
  have first : (Position.after before).withReturns = Position.after (Text.withReturns before) :=
    (Position.after_withReturns before).symm
  rw [Token.withReturns, value, last, lastLater]
  change (⟨kind, _, ⟨(Position.after before).withReturns, _⟩, _⟩ : Token) = _
  rw [first]
  rfl

/-! ## The lexeme at the front of a text -/

namespace Text

theorem FirstAt.withReturns {word text before after : List Char} (found : FirstAt word text before after)
    (inLine : IsInLine word) (notEmpty : word ≠ []) :
    FirstAt word (withReturns text) (withReturns before) (withReturns after) := by
  rw [← cutAt?_eq_some_iff, cutAt?_withReturns inLine notEmpty, cutAt?_eq_some_iff.mpr found]
  rfl

theorem not_infix_withReturns {word text : List Char} (absent : ¬ word <:+: text) (inLine : IsInLine word)
    (notEmpty : word ≠ []) : ¬ word <:+: withReturns text := by
  rw [← cutAt?_eq_none_iff, cutAt?_withReturns inLine notEmpty, cutAt?_eq_none_iff.mpr absent]
  rfl

end Text

theorem Construct.isInLine_closer (construct : Construct) : Text.IsInLine construct.closer := by
  cases construct with
  | template kind => cases kind <;> decide
  | _ => decide

/-- The lexeme at the front of a text, if this is neither a blank nor a line comment. -/
theorem Scanner.lexemes_withReturns {character : Char} {rest after : List Char} {lexeme : Lexeme}
    (heads : Heads (character :: rest) lexeme after) (notBlank : Text.isBlank character = false)
    (noLine : ¬ ['/', '/'] <+: character :: rest) (free : OpensFreely (character :: rest)) :
    (ofText (Text.withReturns (character :: rest))).lexemes =
      lexeme.withReturns :: (ofText (Text.withReturns after)).lexemes := by
  have inLine : character ≠ '\n' := Text.ne_of_isBlank (by decide) notBlank
  have cut := front_withReturns notBlank noLine free
  rw [Text.withReturns_cons_of_ne inLine]
  cases heads with
  | piece taken product parts =>
      rw [front_of_takes taken parts, product] at cut
      exact lexemes_ofText_of_front cut
  | @closed rule _ found tail inside _ construct taken product parts closes =>
      rw [front_of_takes taken parts, product] at cut
      have closesLater := closes.withReturns construct.isInLine_closer construct.closer_ne_nil
      rw [lexemes_ofText_of_opener cut closesLater, Lexeme.withReturns, Text.withReturns_append,
        Text.withReturns_append, Text.withReturns_of_notMem construct.isInLine_closer.noFeed]
  | @unclosed rule _ found tail construct taken product parts absent =>
      rw [front_of_takes taken parts, product] at cut
      have absentLater := Text.not_infix_withReturns absent construct.isInLine_closer construct.closer_ne_nil
      rw [lexemes_ofText_of_unclosed cut absentLater, Lexeme.withReturns, parts, Text.withReturns_append,
        Text.withReturns_nil, lexemes_ofText_nil]
  | unknown none =>
      rw [front_of_unknown none, withReturns_single inLine] at cut
      rw [lexemes_ofText_of_front cut, Lexeme.withReturns, Text.withReturns_cons_of_ne inLine, Text.withReturns_nil]

/-! ## The tokens of a text -/

section

variable {position : Position} {doc : Option String}

theorem mem_lineComment {inside : List Char} (oneLine : '\n' ∉ inside) :
    ['/', '/'] ++ (inside ++ ['\n']) ∈ Written.lineComment := by
  refine Language.append_mem_mul rfl (Language.append_mem_mul (LexicalRule.mem_anyOf_iff.mpr ?_) rfl)
  intro character member
  exact bne_iff_ne.mpr fun same => oneLine (same ▸ member)

/-- After a line comment that no line feed ends there is nothing. -/
theorem tokensFrom_lastComment {inside : List Char} (oneLine : '\n' ∉ inside) :
    tokensFrom position doc (['/', '/'] ++ inside) = [] := by
  have inLine : forall character, character ∈ '/' :: inside -> (character != '\n') = true := by
    intro character member
    rcases List.mem_cons.mp member with rfl | later
    · decide
    · exact bne_iff_ne.mpr fun same => oneLine (same ▸ later)
  have cut : Scanner.front '/' ('/' :: inside) = (.lexeme ⟨.lineComment, '/' :: '/' :: inside⟩, []) := by
    change ((Scanner.Front.lexeme ⟨.lineComment, '/' :: ('/' :: inside).takeWhile _⟩,
      ('/' :: inside).dropWhile _) : Scanner.Front × List Char) = _
    rw [List.takeWhile_eq_self_iff.mpr inLine, List.dropWhile_eq_nil_iff.mpr inLine]
  change tokensFrom position doc ('/' :: '/' :: inside) = []
  rw [tokensFrom, Scanner.lexemes_ofText_of_front cut, Scanner.lexemes_ofText_nil, Lexeme.tokens]
  rfl

end

/-- The text after another one has the tokens that it should have with carriage returns. -/
def KeepsTokens (before text : List Char) : Prop :=
  forall doc : Option String,
    tokensFrom (Position.after (Text.withReturns before)) (doc.map Source.withReturns) (Text.withReturns text) =
      (tokensFrom (Position.after before) doc text).map Token.withReturns

namespace KeepsTokens

variable {before text rest : List Char}

theorem nil (before : List Char) : KeepsTokens before [] := by
  intro doc
  rw [Text.withReturns_nil, tokensFrom_nil, tokensFrom_nil, List.map_nil]

theorem of_isBlank {character : Char} (isBlank : Text.isBlank character = true)
    (later : KeepsTokens (before ++ [character]) rest) : KeepsTokens before (character :: rest) := by
  intro doc
  rw [tokensFrom_cons_of_isBlank isBlank, ← Position.after_append_singleton, ← later doc]
  by_cases lineFeed : character = '\n'
  · rw [lineFeed, Text.withReturns_cons_lineFeed, tokensFrom_cons_of_isBlank (by decide),
      tokensFrom_cons_of_isBlank (by decide), Text.withReturns_append_lineFeed, Position.after_append_singleton,
      Position.after_append_singleton]
  · rw [Text.withReturns_cons_of_ne lineFeed, tokensFrom_cons_of_isBlank isBlank,
      Text.withReturns_append_of_ne lineFeed, Position.after_append_singleton]

/-- A line comment has the carriage return to itself. -/
theorem of_lineComment {inside : List Char} (oneLine : '\n' ∉ inside)
    (later : KeepsTokens (before ++ (['/', '/'] ++ (inside ++ ['\n']))) rest) :
    KeepsTokens before (['/', '/'] ++ (inside ++ ['\n']) ++ rest) := by
  have comment : Text.withReturns (['/', '/'] ++ (inside ++ ['\n'])) = ['/', '/'] ++ ((inside ++ ['\r']) ++ ['\n']) := by
    rw [Text.withReturns_append, Text.withReturns_append_lineFeed, Text.withReturns_of_notMem oneLine]
    rfl
  have oneLineLater : '\n' ∉ inside ++ ['\r'] := by
    rw [List.mem_append, not_or]
    exact ⟨oneLine, by decide⟩
  intro doc
  rw [tokensFrom_lineComment (mem_lineComment oneLine), Position.after_advance, ← later doc,
    Text.withReturns_append _ rest, Text.withReturns_append before, comment,
    tokensFrom_lineComment (mem_lineComment oneLineLater), Position.after_advance]

theorem of_lastComment {inside : List Char} (oneLine : '\n' ∉ inside) :
    KeepsTokens before (['/', '/'] ++ inside) := by
  intro doc
  rw [Text.withReturns_append, Text.withReturns_of_notMem oneLine]
  rw [tokensFrom_lastComment oneLine]
  exact tokensFrom_lastComment oneLine

/-- A lexeme that is found with both line endings. -/
theorem of_heads {lexeme : Lexeme} (heads : Heads text lexeme rest)
    (first : (Scanner.ofText (Text.withReturns text)).lexemes =
      lexeme.withReturns :: (Scanner.ofText (Text.withReturns rest)).lexemes)
    (later : KeepsTokens (before ++ lexeme.text) rest) : KeepsTokens before text := by
  rcases lexeme with ⟨kind, written⟩
  intro doc
  rw [tokensFrom, first, tokensFrom, Scanner.lexemes_ofText_of_heads heads, Lexeme.withReturns, Lexeme.tokens,
    Lexeme.tokens, Position.after_advance, Position.after_advance, ← Text.withReturns_append]
  cases kind with
  | token kind =>
      rw [heads.parts] at heads
      rw [List.map_cons]
      exact congrArg₂ List.cons (withReturns_tokenAt before doc heads).symm (later none)
  | docComment =>
      change tokensFrom _ (some (String.ofList (Text.withReturns written))) _ = _
      rw [← Source.withReturns_ofList]
      exact later (some (String.ofList written))
  | _ => exact later doc

end KeepsTokens

/-- No text minds carriage returns, unless a line feed is all that stands in an open tag. -/
theorem keepsTokens (before text : List Char)
    (free : forall kind : TemplateKind, ¬ kind.keyword ++ ['\n', '\x7d'] <:+: text) : KeepsTokens before text := by
  match text with
  | [] => exact .nil before
  | character :: rest =>
      have freeLater : forall {later : List Char}, later <:+ character :: rest ->
          forall kind : TemplateKind, ¬ kind.keyword ++ ['\n', '\x7d'] <:+: later :=
        fun ends kind found => free kind (found.trans ends.isInfix)
      by_cases isBlank : Text.isBlank character = true
      · exact .of_isBlank isBlank (keepsTokens _ rest (freeLater (List.suffix_cons character rest)))
      · by_cases isLine : ['/', '/'] <+: character :: rest
        · rcases isLine with ⟨comment, whole⟩
          rw [← whole]
          cases cut : Text.cutAt? ['\n'] comment with
          | none => exact .of_lastComment fun member =>
              Text.cutAt?_eq_none_iff.mp cut ((List.singleton_infix_iff _ _).mpr member)
          | some around =>
              have found := Text.cutAt?_eq_some_iff.mp cut
              have parts : character :: rest = ['/', '/'] ++ (around.1 ++ ['\n']) ++ around.2 := by
                rw [← whole, found.parts]
                simp only [List.append_assoc]
              have shorter : around.2.length < (character :: rest).length := by
                rw [parts, List.length_append, List.length_append]
                exact Nat.lt_add_of_pos_left (Nat.add_pos_left Nat.two_pos _)
              rw [whole, parts]
              exact .of_lineComment found.notMem
                (keepsTokens _ around.2 (freeLater ⟨_, parts.symm⟩))
        · rcases Heads.exists_of_ne_nil (List.cons_ne_nil character rest) with ⟨lexeme, after, heads⟩
          have shorter : after.length < (character :: rest).length := by
            rw [heads.parts, List.length_append]
            exact Nat.lt_add_of_pos_left (List.length_pos_iff.mpr heads.text_ne_nil)
          have first := Scanner.lexemes_withReturns heads (Bool.eq_false_iff.mpr isBlank) isLine
            fun kind begins => free kind begins.isInfix
          exact .of_heads heads first (keepsTokens _ after (freeLater ⟨_, heads.parts.symm⟩))
termination_by text.length
decreasing_by
  · exact Nat.lt_succ_self rest.length
  · exact shorter
  · exact shorter

/-! ## The token stream -/

namespace TokenStream

variable {path source : String}

theorem ofSource_pending (path source : String) :
    (ofSource path source).pending = tokensFrom (Position.after []) none source.toList := rfl

theorem pending_withReturns (path : String)
    (free : forall kind : TemplateKind, ¬ kind.keyword ++ ['\n', '\x7d'] <:+: source.toList) :
    (ofSource path (Source.withReturns source)).pending = (ofSource path source).pending.map Token.withReturns := by
  rw [ofSource_pending, ofSource_pending, Source.toList_withReturns]
  exact keepsTokens [] source.toList free none

theorem final_withReturns (path source : String) :
    (ofSource path (Source.withReturns source)).final = (ofSource path source).final.withReturns := by
  change Token.endOfFile (Position.start.advance (Source.withReturns source).toList) =
    (Token.endOfFile (Position.start.advance source.toList)).withReturns
  rw [Position.start_advance, Position.start_advance, Source.toList_withReturns, Position.after_withReturns,
    Token.withReturns_endOfFile]

/-- With carriage returns a file has the same tokens. -/
theorem toList_withReturns (path : String)
    (free : forall kind : TemplateKind, ¬ kind.keyword ++ ['\n', '\x7d'] <:+: source.toList) :
    (ofSource path (Source.withReturns source)).toList = (ofSource path source).toList.map Token.withReturns := by
  rw [toList, toList, pending_withReturns path free, final_withReturns, List.map_append, List.map_singleton]

end TokenStream

end TemplateFile
