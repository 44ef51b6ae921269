import TemplateFile.Proofs.Lexical.Tokens
import TemplateFile.Proofs.Source.LineTable

namespace TemplateFile

open Source

/-!
# Scanning by offsets

A scanner can also keep the whole text and only move an offset through it.  Then
everything that it needs of the text is a slice between two offsets or the
position at an offset, and each of these fails unless the offsets are in the text
and between its characters.  Nothing in the way such a scanner is written says
that they are, or that it comes to an end.

It does, and nothing fails.  Each iteration does what one step of a scanner
without offsets does, so the offset is always at the border of what the other
one has read, moves on with every iteration, and in the end the same tokens have
been found.
-/

/-- A scanner that moves an offset through a text.  `opened` is where the last
construct began, `construct` is the one that the scanner is inside of, and `doc`
is the documentation comment that waits for a token. -/
structure OffsetScanner where
  offset : Nat
  opened : Nat
  construct : Option Construct
  doc : Option String
  tokens : List Token

/-- The span of the slice between two offsets, which ends on its last character. -/
def Source.tableSpan? (text : List Char) (opening closing : Nat) : Option Span := do
  let inside ← slice? text opening closing
  let first ← tablePosition? text opening
  let last ← tablePosition? text (opening + byteCount inside.dropLast)
  return ⟨first, last⟩

namespace OffsetScanner

/-! ## The loop -/

/-- The scanner before the first character. -/
def start : OffsetScanner := ⟨0, 0, none, none, []⟩

/-- The scanner after a number of bytes, wherever they lead. -/
def advance (scanner : OffsetScanner) (bytes : Nat) : OffsetScanner :=
  { scanner with offset := scanner.offset + bytes }

/-- One more token.  It gets the documentation comment that waits. -/
def push (scanner : OffsetScanner) (kind : TokenKind) (value : List Char) (span : Span) : OffsetScanner :=
  { scanner with doc := none, tokens := scanner.tokens ++ [⟨kind, String.ofList value, span, scanner.doc⟩] }

/-- The value of a token that was found at the front of the rest of a text. -/
def value? (kind : TokenKind) (rest found : List Char) : Option (List Char) :=
  match kind with
  | .quoted => slice? found 1 (byteCount found - 1)
  | .name => some (DottedName.value found)
  | .unexpected => slice? rest 0 (byteCount found)
  | _ => some found

/-- Takes a lexeme at the front of the rest of the text. -/
def take? (text rest : List Char) (lexeme : Lexeme) (scanner : OffsetScanner) : Option OffsetScanner :=
  match lexeme.kind with
  | .token kind => do
      let span ← tableSpan? text scanner.offset (scanner.offset + byteCount lexeme.text)
      let value ← value? kind rest lexeme.text
      return (scanner.push kind value span).advance (byteCount lexeme.text)
  | _ => some (scanner.advance (byteCount lexeme.text))

/-- Enters a construct. -/
def enter (construct : Construct) (opener : List Char) (scanner : OffsetScanner) : OffsetScanner :=
  { scanner with offset := scanner.offset + byteCount opener, opened := scanner.offset, construct := some construct }

/-- Leaves a construct behind its closer, which comes after `inside`. -/
def leave? (text : List Char) (construct : Construct) (inside : List Char) (scanner : OffsetScanner) :
    Option OffsetScanner :=
  let later := { scanner.advance (byteCount inside + byteCount construct.closer) with construct := none }
  match construct with
  | .comment => some later
  | .docComment => do
      let doc ← slice? text later.opened later.offset
      return { later with doc := some (String.ofList doc) }
  | .template kind => do
      let span ← tableSpan? text later.opened later.offset
      let value ← slice? text later.opened later.offset
      return later.push (.template kind) value span

/-- Gives up on a construct that is not closed before the end of the text. -/
def abandon? (text : List Char) (scanner : OffsetScanner) : Option OffsetScanner := do
  let span ← tableSpan? text scanner.opened (byteCount text)
  let value ← slice? text scanner.opened (byteCount text)
  return { scanner.push .unexpected value span with offset := byteCount text, construct := none }

/-- One iteration.  It fails where a slice or the position at an offset fails. -/
def iterate? (text : List Char) (scanner : OffsetScanner) : Option OffsetScanner := do
  let (_, rest) ← splitAtByte? text scanner.offset
  match scanner.construct with
  | some construct =>
      match Text.cutAt? construct.closer rest with
      | some (inside, _) => scanner.leave? text construct inside
      | none => scanner.abandon? text
  | none =>
      match rest with
      | [] => none
      | character :: others =>
          match (Scanner.front character others).1 with
          | .lexeme lexeme => scanner.take? text rest lexeme
          | .opener construct opener => some (scanner.enter construct opener)

/-- Iterates until the end of the text.  It fails when there are more iterations than allowed. -/
def run? (text : List Char) : Nat -> OffsetScanner -> Option OffsetScanner
  | 0, scanner => if byteCount text ≤ scanner.offset then some scanner else none
  | limit + 1, scanner =>
      if byteCount text ≤ scanner.offset then some scanner else (scanner.iterate? text).bind (run? text limit)

/-- The scanner inside of no construct.  One may have been entered right at the end of the text. -/
def settle? (text : List Char) (scanner : OffsetScanner) : Option OffsetScanner :=
  if scanner.construct = none then some scanner else scanner.abandon? text

/-- What is left to do at the end of the text. -/
def finish? (text : List Char) (scanner : OffsetScanner) : Option (List Token) := do
  let last ← scanner.settle? text
  let position ← tablePosition? text (byteCount text)
  return last.tokens ++ [Token.endOfFile position]

/-- The tokens of a text, if no more iterations are needed than allowed. -/
def tokenize? (text : List Char) (limit : Nat) : Option (List Token) :=
  (run? text limit start).bind (finish? text)

/-- The scanners that the loop comes to, and after how many iterations. -/
inductive Reaches (text : List Char) : Nat -> OffsetScanner -> Prop where
  | start : Reaches text 0 start
  | next {count : Nat} {scanner later : OffsetScanner} (reached : Reaches text count scanner)
      (inText : scanner.offset < byteCount text) (stepped : scanner.iterate? text = some later) :
      Reaches text (count + 1) later

end OffsetScanner

/-- The texts that open a construct. -/
def Construct.Opens : Construct -> List Char -> Prop
  | comment, opener => opener = ['/', '*']
  | docComment, opener => opener = ['/', '*', '*']
  | template kind, opener => opener ∈ (LexicalRule.openTag kind).language

namespace OffsetScanner

/-- Both offsets of a scanner stand between characters of the text, and the text
from one to the other is the opener of the construct that the scanner is inside of. -/
structure Sound (text : List Char) (scanner : OffsetScanner) : Prop where
  offset : ∃ before after, text = before ++ after ∧ scanner.offset = byteCount before
  opened : ∃ before after, text = before ++ after ∧ scanner.opened = byteCount before
  ordered : scanner.opened ≤ scanner.offset
  opener : forall construct, scanner.construct = some construct ->
    ∃ opener, slice? text scanner.opened scanner.offset = some opener ∧ construct.Opens opener

/-- The loop reads a whole text.  Wherever it comes to it is sound, and from
there it goes on until the end of the text, so it needs no more iterations than
the text has characters.  It finds no more tokens than that, and then the one
that ends the file. -/
structure ReadsAll (text : List Char) (tokens : List Token) : Prop where
  sound : forall {count : Nat} {scanner : OffsetScanner}, Reaches text count scanner -> Sound text scanner
  advances : forall {count : Nat} {scanner : OffsetScanner}, Reaches text count scanner ->
    scanner.offset < byteCount text -> ∃ later, scanner.iterate? text = some later ∧ scanner.offset < later.offset
  bounded : forall {count : Nat} {scanner : OffsetScanner}, Reaches text count scanner -> count ≤ text.length
  tokenizes : forall limit, text.length ≤ limit -> tokenize? text limit = some tokens
  ends : ∃ inner, tokens = inner ++ [Token.endOfFile (Position.after text)] ∧ inner.length ≤ text.length ∧
    forall token, token ∈ inner -> token.kind ≠ .endOfFile

end OffsetScanner

/-! ## What is cut out of the text -/

theorem Source.tableSpan?_append (before inside after : List Char) :
    tableSpan? (before ++ inside ++ after) (byteCount before) (byteCount (before ++ inside)) =
      some (Span.ofText (Position.after before) inside) := by
  have first : tablePosition? (before ++ inside ++ after) (byteCount before) = some (Position.after before) := by
    rw [List.append_assoc, tablePosition?_append]
  have last : tablePosition? (before ++ inside ++ after) (byteCount before + byteCount inside.dropLast) =
      some (Position.after (before ++ inside.dropLast)) := by
    have parts : before ++ inside ++ after =
        before ++ inside.dropLast ++ (inside.drop (inside.length - 1) ++ after) := by
      rw [List.dropLast_eq_take, List.append_assoc, List.append_assoc, ← List.append_assoc (inside.take _),
        List.take_append_drop]
    rw [← byteCount_append, parts, tablePosition?_append]
  simp only [tableSpan?, slice?_append, first, last, Option.bind_eq_bind, Option.bind_some, Option.pure_def,
    Span.ofText, Position.after_advance]

/-- The rules only cut off the opener of a documentation comment. -/
theorem Scanner.kind_ne_docComment_of_front {character : Char} {others after : List Char} {lexeme : Lexeme}
    (cut : Scanner.front character others = (.lexeme lexeme, after)) : lexeme.kind ≠ .docComment := by
  rcases LexicalRule.recognizes_front character others with ⟨rule, found, _, product, _⟩ | ⟨_, _, _, _, single⟩
  · rw [cut] at product
    cases rule <;> cases product <;> exact LexemeKind.noConfusion
  · rw [cut] at single
    cases single
    exact LexemeKind.noConfusion

/-- What the rules cut off as an opener opens the construct. -/
theorem Construct.opens_of_front {character : Char} {others after opener : List Char} {construct : Construct}
    (cut : Scanner.front character others = (.opener construct opener, after)) : construct.Opens opener := by
  rcases LexicalRule.exists_takes_of_front cut with ⟨rule, taken, product, _⟩
  have accepted := taken.accepted
  cases rule with
  | docOpener => cases product; exact accepted
  | commentOpener => cases product; exact accepted
  | openTag kind => cases product; exact accepted
  | _ => cases product

theorem Source.slice?_quoted (value : List Char) :
    slice? ('"' :: value ++ ['"']) 1 (byteCount ('"' :: value ++ ['"']) - 1) = some value := by
  have quote : byteCount ['"'] = 1 := by decide
  have closing : byteCount ('"' :: value ++ ['"']) - 1 = byteCount (['"'] ++ value) := by
    rw [byteCount_append, quote, Nat.add_sub_cancel]
    rfl
  rw [closing]
  exact slice?_append ['"'] value ['"']

namespace OffsetScanner

variable {text before after : List Char} {current : OffsetScanner}

/-- No value fails, and it is the one of the token. -/
theorem value?_eq {written : List Char} {kind : TokenKind}
    (heads : Heads (written ++ after) ⟨.token kind, written⟩ after) :
    value? kind (written ++ after) written = some (Lexeme.tokenValue kind written) := by
  cases kind with
  | quoted =>
      -- Without the quotes at both ends, each of one byte, a quoted text is its value.
      have cut := slice?_quoted (Lexeme.tokenValue .quoted written)
      rwa [← heads.hasValue_tokenValue.1] at cut
  | unexpected => exact slice?_append [] written after
  | _ => rfl

/-! ## One lexeme more -/

/-- A lexeme has been read: the scanner stands behind it, inside of no construct,
and together with the tokens of any lexemes that come next it has the same tokens
as before. -/
def Finishes (before : List Char) (lexeme : Lexeme) (opened : Nat) (current : OffsetScanner)
    (later : Option OffsetScanner) : Prop :=
  ∃ doc tokens, later = some ⟨byteCount (before ++ lexeme.text), opened, none, doc, tokens⟩ ∧
    forall lexemes, tokens ++ Lexeme.tokens (Position.after (before ++ lexeme.text)) doc lexemes =
      current.tokens ++ Lexeme.tokens (Position.after before) current.doc (lexeme :: lexemes)

/-- Pushing the token of a lexeme reads the lexeme. -/
theorem finishes_token {written : List Char} {kind : TokenKind} {opened : Nat} {result : Option OffsetScanner}
    (pushed : result = some ⟨byteCount (before ++ written), opened, none, none, current.tokens ++
      [⟨kind, String.ofList (Lexeme.tokenValue kind written), Span.ofText (Position.after before) written,
        current.doc⟩]⟩) :
    Finishes before ⟨.token kind, written⟩ opened current result := by
  refine ⟨none, _, pushed, ?_⟩
  intro lexemes
  rw [Lexeme.tokens, Position.after_advance, List.append_assoc, List.singleton_append]

/-- Only passing over a lexeme reads it if it is neither a token nor a documentation comment. -/
theorem finishes_passed {lexeme : Lexeme} {opened : Nat} {result : Option OffsetScanner}
    (notToken : forall kind, lexeme.kind ≠ .token kind) (notDoc : lexeme.kind ≠ .docComment)
    (passed : result = some ⟨byteCount (before ++ lexeme.text), opened, none, current.doc, current.tokens⟩) :
    Finishes before lexeme opened current result := by
  refine ⟨current.doc, current.tokens, passed, ?_⟩
  intro lexemes
  rw [Lexeme.tokens, Position.after_advance]
  split
  · next kind isToken => exact absurd isToken (notToken kind)
  · next isDoc => exact absurd isDoc notDoc
  · rfl

/-- Taking a lexeme at the front of the rest of the text does not fail. -/
theorem finishes_take? {lexeme : Lexeme} (offset : current.offset = byteCount before)
    (outside : current.construct = none) (heads : Heads (lexeme.text ++ after) lexeme after)
    (notDoc : lexeme.kind ≠ .docComment) :
    Finishes before lexeme current.opened current
      (take? (before ++ lexeme.text ++ after) (lexeme.text ++ after) lexeme current) := by
  rcases lexeme with ⟨kind, written⟩
  cases kind with
  | token kind =>
      apply finishes_token
      simp only [take?, offset, ← byteCount_append, tableSpan?_append, value?_eq heads, Option.bind_eq_bind,
        Option.bind_some, Option.pure_def, push, advance, outside]
  | docComment => exact absurd rfl notDoc
  | _ =>
      apply finishes_passed (fun _ => LexemeKind.noConfusion) notDoc
      simp only [take?, advance, offset, ← byteCount_append, outside]

/-- Leaving a construct at its closer does not fail. -/
theorem finishes_leave? {opener : List Char} (construct : Construct) (inside after : List Char)
    (offset : current.offset = byteCount (before ++ opener)) (opened : current.opened = byteCount before) :
    Finishes before ⟨construct.lexemeKind, opener ++ inside ++ construct.closer⟩ (byteCount before) current
      (leave? (before ++ (opener ++ inside ++ construct.closer) ++ after) construct inside current) := by
  have closed : current.offset + (byteCount inside + byteCount construct.closer) =
      byteCount (before ++ (opener ++ inside ++ construct.closer)) := by
    simp only [offset, byteCount_append, Nat.add_assoc]
  cases construct with
  | comment =>
      apply finishes_passed (fun _ => LexemeKind.noConfusion) LexemeKind.noConfusion
      simp only [leave?, advance, closed, opened]
  | docComment =>
      refine ⟨some (String.ofList (opener ++ inside ++ Construct.docComment.closer)), current.tokens, ?_, ?_⟩
      · simp only [leave?, advance, closed, opened, slice?_append, Option.bind_eq_bind, Option.bind_some,
          Option.pure_def]
      · intro lexemes
        rw [Lexeme.tokens, Position.after_advance]
        rfl
  | template kind =>
      apply finishes_token
      simp only [leave?, advance, closed, opened, tableSpan?_append, slice?_append, Option.bind_eq_bind,
        Option.bind_some, Option.pure_def, push, Lexeme.tokenValue]

/-- Giving up on a construct does not fail. -/
theorem finishes_abandon? (opener rest : List Char) (opened : current.opened = byteCount before) :
    Finishes before ⟨.token .unexpected, opener ++ rest⟩ (byteCount before) current
      (abandon? (before ++ (opener ++ rest)) current) := by
  have span := tableSpan?_append before (opener ++ rest) []
  have value := slice?_append before (opener ++ rest) []
  rw [List.append_nil] at span value
  apply finishes_token
  simp only [abandon?, opened, span, value, Option.bind_eq_bind, Option.bind_some, Option.pure_def, push,
    Lexeme.tokenValue]

/-! ## One iteration -/

/-- A scanner that moves an offset stands where one without an offset does, which
has `before` behind it and may have taken the opener of a construct after that. -/
inductive Follows (text before : List Char) (current : OffsetScanner) : Scanner -> Prop where
  | between {rest earlier : List Char} (parts : text = before ++ rest) (begins : earlier <+: before)
      (offset : current.offset = byteCount before) (opened : current.opened = byteCount earlier)
      (outside : current.construct = none) : Follows text before current ⟨.between, rest⟩
  | inside {opener rest : List Char} {construct : Construct} (parts : text = before ++ (opener ++ rest))
      (opens : construct.Opens opener) (offset : current.offset = byteCount (before ++ opener))
      (opened : current.opened = byteCount before) (entered : current.construct = some construct) :
      Follows text before current ⟨.inside construct opener, rest⟩

/-- The tokens that have been found and those that the text still has. -/
def allTokens (before : List Char) (scanner : Scanner) (current : OffsetScanner) : List Token :=
  current.tokens ++ Lexeme.tokens (Position.after before) current.doc scanner.lexemes

/-- A scanner stands somewhere in a text, and altogether it will have the given tokens. -/
def Tracks (text : List Char) (tokens : List Token) (current : OffsetScanner) : Prop :=
  ∃ before scanner, Follows text before current scanner ∧ allTokens before scanner current = tokens

theorem Finishes.tracks {lexeme : Lexeme} {earlier rest : List Char} {result : Option OffsetScanner}
    {scanner : Scanner} (finishes : Finishes before lexeme (byteCount earlier) current result)
    (begins : earlier <+: before) (parts : text = before ++ lexeme.text ++ rest)
    (stepped : scanner.step = some (some lexeme, ⟨.between, rest⟩)) :
    ∃ later, result = some later ∧ later.offset = byteCount (before ++ lexeme.text) ∧ later.construct = none ∧
      Tracks text (allTokens before scanner current) later := by
  rcases finishes with ⟨doc, tokens, isLater, same⟩
  -- Where the last construct began stays known, but only behind the lexeme that it belonged to.
  refine ⟨_, isLater, rfl, rfl, before ++ lexeme.text, ⟨.between, rest⟩, ?_, ?_⟩
  · exact .between parts (begins.trans (List.prefix_append _ _)) rfl rfl rfl
  · rw [allTokens, allTokens, Scanner.lexemes_of_finishes stepped]
    exact same _

/-- Giving up on a construct that is not closed is what a scanner without an offset does. -/
theorem abandon?_tracks {opener rest : List Char} {construct : Construct} (parts : text = before ++ (opener ++ rest))
    (opened : current.opened = byteCount before) (notClosed : Text.cutAt? construct.closer rest = none) :
    ∃ later, current.abandon? text = some later ∧ later.offset = byteCount text ∧ later.construct = none ∧
      Tracks text (allTokens before ⟨.inside construct opener, rest⟩ current) later := by
  have stepped : Scanner.step ⟨.inside construct opener, rest⟩ =
      some (some ⟨.token .unexpected, opener ++ rest⟩, ⟨.between, []⟩) := by
    simp only [Scanner.step, notClosed]
  have whole : text = before ++ (opener ++ rest) ++ [] := by rw [List.append_nil, parts]
  have finishes := finishes_abandon? opener rest opened
  rw [← parts] at finishes
  have tracks := finishes.tracks (List.prefix_refl before) whole stepped
  rwa [← parts] at tracks

/-- An iteration moves on, and what the scanner will have stays the same. -/
def MovesOn (text : List Char) (tokens : List Token) (current : OffsetScanner) : Prop :=
  ∃ later, current.iterate? text = some later ∧ current.offset < later.offset ∧ Tracks text tokens later

theorem MovesOn.of_iterate? {tokens : List Token} {later : OffsetScanner} (movesOn : MovesOn text tokens current)
    (stepped : current.iterate? text = some later) : current.offset < later.offset ∧ Tracks text tokens later := by
  rcases movesOn with ⟨other, isOther, moved⟩
  rw [stepped] at isOther
  cases isOther
  exact moved

theorem movesOn_between {character : Char} {earlier others : List Char} (parts : text = before ++ character :: others)
    (begins : earlier <+: before) (offset : current.offset = byteCount before)
    (opened : current.opened = byteCount earlier) (outside : current.construct = none) :
    MovesOn text (allTokens before ⟨.between, character :: others⟩ current) current := by
  have split : splitAtByte? text current.offset = some (before, character :: others) := by
    rw [offset, parts, splitAtByte?_append]
  rcases cut : Scanner.front character others with ⟨front, after⟩
  cases front with
  | lexeme lexeme =>
      have iteration : current.iterate? text = current.take? text (character :: others) lexeme := by
        simp only [iterate?, split, outside, cut, Option.bind_eq_bind, Option.bind_some]
      have stepped : Scanner.step ⟨.between, character :: others⟩ = some (some lexeme, ⟨.between, after⟩) := by
        simp only [Scanner.step, cut]
      have heads := Heads.of_front cut
      have whole : text = before ++ lexeme.text ++ after := by rw [parts, heads.parts, List.append_assoc]
      have finishes := finishes_take? offset outside (heads.parts ▸ heads) (Scanner.kind_ne_docComment_of_front cut)
      rw [← heads.parts, ← whole, ← iteration, opened] at finishes
      rcases finishes.tracks begins whole stepped with ⟨later, isLater, laterOffset, _, tracks⟩
      refine ⟨later, isLater, ?_, tracks⟩
      rw [offset, laterOffset]
      exact byteCount_lt_append heads.text_ne_nil before
  | opener construct opener =>
      have iteration : current.iterate? text = some (current.enter construct opener) := by
        simp only [iterate?, split, outside, cut, Option.bind_eq_bind, Option.bind_some]
      have stepped : Scanner.step ⟨.between, character :: others⟩ =
          some (none, ⟨.inside construct opener, after⟩) := by
        simp only [Scanner.step, cut]
      have splits := Scanner.splits_front character others
      rw [cut] at splits
      have entered : (current.enter construct opener).offset = byteCount (before ++ opener) := by
        rw [byteCount_append, ← offset]
        rfl
      refine ⟨_, iteration, ?_, before, ⟨.inside construct opener, after⟩, ?_, ?_⟩
      · rw [offset, entered]
        exact byteCount_lt_append splits.2 before
      · exact .inside (parts.trans (congrArg _ splits.1)) (Construct.opens_of_front cut) entered offset rfl
      · rw [allTokens, allTokens, Scanner.lexemes_of_opened stepped]
        rfl

theorem movesOn_inside {opener rest : List Char} {construct : Construct} (parts : text = before ++ (opener ++ rest))
    (offset : current.offset = byteCount (before ++ opener)) (opened : current.opened = byteCount before)
    (entered : current.construct = some construct) (inText : current.offset < byteCount text) :
    MovesOn text (allTokens before ⟨.inside construct opener, rest⟩ current) current := by
  have split : splitAtByte? text current.offset = some (before ++ opener, rest) := by
    rw [offset, parts, ← List.append_assoc, splitAtByte?_append]
  cases closed : Text.cutAt? construct.closer rest with
  | some around =>
      rcases around with ⟨inside, after⟩
      have iteration : current.iterate? text = current.leave? text construct inside := by
        simp only [iterate?, split, entered, closed, Option.bind_eq_bind, Option.bind_some]
      have stepped : Scanner.step ⟨.inside construct opener, rest⟩ =
          some (some ⟨construct.lexemeKind, opener ++ inside ++ construct.closer⟩, ⟨.between, after⟩) := by
        simp only [Scanner.step, closed]
      have whole : text = before ++ (opener ++ inside ++ construct.closer) ++ after := by
        rw [parts, Text.eq_of_cutAt? closed]
        simp only [List.append_assoc]
      have finishes := finishes_leave? construct inside after offset opened
      rw [← whole, ← iteration] at finishes
      rcases finishes.tracks (List.prefix_refl before) whole stepped with ⟨later, isLater, laterOffset, _, tracks⟩
      refine ⟨later, isLater, ?_, tracks⟩
      have notEmpty : inside ++ construct.closer ≠ [] :=
        fun empty => construct.closer_ne_nil (List.append_eq_nil_iff.mp empty).2
      have longer := byteCount_lt_append notEmpty (before ++ opener)
      simp only [List.append_assoc] at longer laterOffset
      rw [offset, laterOffset]
      exact longer
  | none =>
      have iteration : current.iterate? text = current.abandon? text := by
        simp only [iterate?, split, entered, closed, Option.bind_eq_bind, Option.bind_some]
      rcases abandon?_tracks parts opened closed with ⟨later, isLater, atEnd, _, tracks⟩
      exact ⟨later, iteration.trans isLater, atEnd ▸ inText, tracks⟩

/-- The scanner moves on everywhere in the text. -/
theorem Tracks.movesOn {tokens : List Token} (tracks : Tracks text tokens current)
    (inText : current.offset < byteCount text) : MovesOn text tokens current := by
  rcases tracks with ⟨before, scanner, follows, rfl⟩
  cases follows with
  | @between rest _ parts begins offset opened outside =>
      cases rest with
      | nil =>
          rw [parts, List.append_nil, offset] at inText
          exact absurd inText (Nat.lt_irrefl _)
      | cons character others => exact movesOn_between parts begins offset opened outside
  | inside parts opens offset opened entered => exact movesOn_inside parts offset opened entered inText

/-! ## The whole loop -/

theorem tracks_start (text : List Char) :
    Tracks text (Lexeme.tokens Position.start none (Scanner.ofText text).lexemes) start :=
  ⟨[], Scanner.ofText text, .between rfl (List.prefix_refl []) rfl rfl rfl, rfl⟩

theorem Reaches.tracks {count : Nat} (reaches : Reaches text count current) :
    Tracks text (Lexeme.tokens Position.start none (Scanner.ofText text).lexemes) current := by
  induction reaches with
  | start => exact tracks_start text
  | next _ inText stepped inductionHypothesis => exact ((inductionHypothesis.movesOn inText).of_iterate? stepped).2

theorem Tracks.sound {tokens : List Token} (tracks : Tracks text tokens current) : Sound text current := by
  rcases tracks with ⟨before, scanner, follows, _⟩
  cases follows with
  | @between rest earlier parts begins offset opened outside =>
      rcases begins with ⟨more, rfl⟩
      exact {
        offset := ⟨earlier ++ more, rest, parts, offset⟩
        opened := ⟨earlier, more ++ rest, by rw [parts, List.append_assoc], opened⟩
        ordered := by
          rw [offset, opened, byteCount_append]
          exact Nat.le_add_right _ _
        opener := by
          intro construct entered
          rw [outside] at entered
          cases entered }
  | @inside opener rest construct parts opens offset opened entered =>
      exact {
        offset := ⟨before ++ opener, rest, by rw [parts, List.append_assoc], offset⟩
        opened := ⟨before, opener ++ rest, parts, opened⟩
        ordered := by
          rw [offset, opened, byteCount_append]
          exact Nat.le_add_right _ _
        opener := by
          intro other isOther
          cases entered.symm.trans isOther
          refine ⟨opener, ?_, opens⟩
          rw [parts, offset, opened, ← List.append_assoc, slice?_append] }

/-- There have not been more iterations than characters before the offset. -/
theorem Reaches.count_le {count : Nat} (reaches : Reaches text count current) :
    forall before after, text = before ++ after -> current.offset = byteCount before -> count ≤ before.length := by
  induction reaches with
  | start => exact fun before _ _ _ => Nat.zero_le before.length
  | next reached inText stepped inductionHypothesis =>
      intro before after parts offset
      have further := ((reached.tracks.movesOn inText).of_iterate? stepped).1
      rcases reached.tracks.sound.offset with ⟨earlier, rest, earlierParts, earlierOffset⟩
      have fewer := inductionHypothesis earlier rest earlierParts earlierOffset
      rw [earlierOffset, offset] at further
      exact Nat.lt_of_le_of_lt fewer (length_lt_of_byteCount_lt earlierParts parts further)

/-- The loop comes to the end of the text if as many iterations are allowed as characters are left. -/
theorem Tracks.run? {tokens : List Token} {limit : Nat} (tracks : Tracks text tokens current)
    (parts : text = before ++ after) (offset : current.offset = byteCount before) (enough : after.length ≤ limit) :
    ∃ last, OffsetScanner.run? text limit current = some last ∧ byteCount text ≤ last.offset ∧
      Tracks text tokens last := by
  induction limit generalizing current before after with
  | zero =>
      have atEnd : byteCount text ≤ current.offset := by
        rw [offset, parts, List.length_eq_zero_iff.mp (Nat.le_zero.mp enough), List.append_nil]
      exact ⟨current, by rw [OffsetScanner.run?, if_pos atEnd], atEnd, tracks⟩
  | succ limit inductionHypothesis =>
      rw [OffsetScanner.run?]
      split
      · next atEnd => exact ⟨current, rfl, atEnd, tracks⟩
      · next inText =>
          rcases tracks.movesOn (Nat.lt_of_not_le inText) with ⟨later, isLater, further, tracksLater⟩
          rcases tracksLater.sound.offset with ⟨front, rest, frontParts, laterOffset⟩
          rw [isLater, Option.bind_some]
          refine inductionHypothesis tracksLater frontParts laterOffset ?_
          -- More bytes behind the offset are at least one character more, and one character less is left.
          rw [offset, laterOffset] at further
          have longer := length_lt_of_byteCount_lt parts frontParts further
          have lengths := congrArg List.length (parts.symm.trans frontParts)
          rw [List.length_append, List.length_append] at lengths
          omega

theorem Tracks.tokens_eq {tokens : List Token} (tracks : Tracks text tokens current)
    (isOutside : current.construct = none) (atEnd : byteCount text ≤ current.offset) : current.tokens = tokens := by
  rcases tracks with ⟨before, scanner, follows, rfl⟩
  cases follows with
  | between parts _ offset _ _ =>
      rw [parts, offset] at atEnd
      have nothing := eq_nil_of_byteCount_le atEnd
      subst nothing
      have noLexemes : Scanner.lexemes ⟨.between, []⟩ = [] := Scanner.lexemes_ofText_nil
      rw [allTokens, noLexemes]
      exact (List.append_nil _).symm
  | inside _ _ _ _ entered =>
      rw [isOutside] at entered
      cases entered

/-- At the end of the text a construct that has just been entered is given up. -/
theorem Tracks.settle? {tokens : List Token} (tracks : Tracks text tokens current)
    (atEnd : byteCount text ≤ current.offset) :
    ∃ last, OffsetScanner.settle? text current = some last ∧ last.tokens = tokens := by
  unfold OffsetScanner.settle?
  split
  · next outside => exact ⟨current, rfl, tracks.tokens_eq outside atEnd⟩
  · next inConstruct =>
      rcases tracks with ⟨before, scanner, follows, rfl⟩
      cases follows with
      | between _ _ _ _ outside => exact absurd outside inConstruct
      | @inside opener rest construct parts _ offset opened _ =>
          rw [parts, offset, ← List.append_assoc] at atEnd
          have nothing := eq_nil_of_byteCount_le atEnd
          have notClosed : Text.cutAt? construct.closer rest = none := by
            rw [nothing]
            exact Text.cutAt?_eq_none_iff.mpr fun inNothing => construct.closer_ne_nil (List.infix_nil.mp inNothing)
          rcases abandon?_tracks parts opened notClosed with ⟨last, isLast, lastAtEnd, outside, tracksLast⟩
          exact ⟨last, isLast, tracksLast.tokens_eq outside (Nat.le_of_eq lastAtEnd.symm)⟩

theorem Tracks.finish? {tokens : List Token} (tracks : Tracks text tokens current)
    (atEnd : byteCount text ≤ current.offset) :
    OffsetScanner.finish? text current = some (tokens ++ [Token.endOfFile (Position.after text)]) := by
  rcases tracks.settle? atEnd with ⟨last, isLast, sameTokens⟩
  have position := tablePosition?_append text []
  rw [List.append_nil] at position
  simp only [OffsetScanner.finish?, isLast, position, sameTokens, Option.bind_eq_bind, Option.bind_some,
    Option.pure_def]

end OffsetScanner

end TemplateFile
