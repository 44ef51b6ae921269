import TemplateFile.Proofs.Lexical.OffsetScanner

namespace TemplateFile

open Source

/-!
# Beginning again between two lexemes

Between two lexemes a text can be cut, and what follows can be scanned as a text
of its own.  Its tokens are those that the whole text still has there.  Only
their positions are other ones, since they are counted from the cut, and a
documentation comment that waits at the cut is not known to them.

So all that a scanner carries along from what it has read is the position and
that comment.  The tokens that it has found have no say in those to come.
-/

/-! ## Positions counted from elsewhere -/

/-- A position of a text, as it is counted when the text begins at `origin`.
The first line goes on with the line of the origin, and the others are their own. -/
def Position.rebase (origin position : Position) : Position where
  line := position.line + origin.line - 1
  column := if position.line = 1 then position.column + origin.column - 1 else position.column
  offset := position.offset + origin.offset

/-- Both ends of a span, counted from `origin`. -/
def Span.rebase (origin : Position) (span : Span) : Span := ⟨origin.rebase span.first, origin.rebase span.last⟩

namespace Token

/-- The token, counted from `origin`. -/
def rebase (origin : Position) (token : Token) : Token := { token with span := token.span.rebase origin }

/-- A documentation comment for the first of some tokens.  It is not taken by a
token that has one of its own, nor by the one that ends a file. -/
def giveDoc (doc : Option String) : List Token -> List Token
  | [] => []
  | token :: rest =>
      (if token.kind = .endOfFile then token else { token with doc := token.doc.or doc }) :: rest

end Token

/-- The tokens of what is left of a file, counted from `origin`, where a documentation comment may wait. -/
def TokenStream.resumed (path : String) (origin : Position) (doc : Option String) (rest : List Char) : List Token :=
  (Token.giveDoc doc (ofSource path (String.ofList rest)).toList).map (Token.rebase origin)

namespace Position

/-- The position after a text, counted from the end of another one, is the position after both. -/
theorem rebase_after (before text : List Char) : (after before).rebase (after text) = after (before ++ text) := by
  have line : (after text).line + (after before).line - 1 = (after (before ++ text)).line := by
    rw [line_after_append]
    change 1 + text.count '\n' + _ - 1 = _
    omega
  have column : (if (after text).line = 1 then (after text).column + (after before).column - 1
      else (after text).column) = (after (before ++ text)).column := by
    by_cases breaks : '\n' ∈ text
    · have several := List.count_pos_iff.mpr breaks
      have later : (after text).line ≠ 1 := by
        change 1 + text.count '\n' ≠ 1
        omega
      rw [if_neg later, column_after, column_after, lastLine_append_of_mem _ breaks]
    · have single : (after text).line = 1 := by
        change 1 + text.count '\n' = 1
        rw [List.count_eq_zero.mpr breaks]
      have whole : lastLine text = text := lastLine_append_of_notMem [] breaks
      rw [if_pos single, column_after, column_after, column_after, lastLine_append_of_notMem _ breaks, whole,
        List.length_append]
      omega
  have offset : byteCount text + byteCount before = byteCount (before ++ text) := by
    rw [byteCount_append, Nat.add_comm]
  rw [rebase, line, column]
  exact congrArg (Position.mk _) offset

end Position

theorem Span.rebase_ofText (before text written : List Char) :
    (ofText (Position.after text) written).rebase (Position.after before) =
      ofText (Position.after (before ++ text)) written := by
  rw [ofText, ofText, rebase, Position.after_advance, Position.after_advance, Position.rebase_after,
    Position.rebase_after, List.append_assoc]

namespace Token

theorem rebase_endOfFile (before text : List Char) :
    (endOfFile (Position.after text)).rebase (Position.after before) = endOfFile (Position.after (before ++ text)) := by
  rw [endOfFile, rebase, Span.rebase, Position.rebase_after, endOfFile]

theorem giveDoc_none (tokens : List Token) : giveDoc none tokens = tokens := by
  cases tokens with
  | nil => rfl
  | cons token rest =>
      rw [giveDoc, Option.or_none]
      split
      all_goals rfl

/-- The token that ends a file takes no comment. -/
theorem giveDoc_append_endOfFile (doc : Option String) (tokens : List Token) (position : Position) :
    giveDoc doc (tokens ++ [endOfFile position]) = giveDoc doc tokens ++ [endOfFile position] := by
  cases tokens with
  | nil => exact congrArg (fun token => [token]) (if_pos rfl)
  | cons token rest => rfl

end Token

/-! ## The tokens of lexemes that stand elsewhere -/

/-- The tokens of a text are those of its lexemes and the one that ends the file. -/
theorem TokenStream.toList_ofSource (path source : String) :
    (ofSource path source).toList =
      Lexeme.tokens Position.start none (Scanner.ofText source.toList).lexemes ++
        [Token.endOfFile (Position.after source.toList)] := by
  rw [← Position.start_advance]
  rfl

/-- Lexemes have the same tokens wherever they stand, but for the positions.  A comment that waits before
them goes to the first token, unless a later comment comes in between. -/
theorem Lexeme.tokens_after_append (before : List Char) {lexemes : List Lexeme}
    (inner : forall lexeme, lexeme ∈ lexemes -> lexeme.kind ≠ .token .endOfFile) (text : List Char)
    (own doc : Option String) :
    tokens (Position.after (before ++ text)) (own.or doc) lexemes =
      (Token.giveDoc doc (tokens (Position.after text) own lexemes)).map (Token.rebase (Position.after before)) := by
  induction lexemes generalizing text own doc with
  | nil => rfl
  | cons lexeme rest inductionHypothesis =>
      have later := fun own doc =>
        inductionHypothesis (fun other member => inner other (List.mem_cons_of_mem _ member)) (text ++ lexeme.text)
          own doc
      rw [tokens, tokens, Position.after_advance, Position.after_advance, List.append_assoc]
      split
      · next kind isToken =>
          have notEnd : kind ≠ .endOfFile := fun isEnd => inner lexeme List.mem_cons_self (isEnd ▸ isToken)
          -- After the token no comment waits any more.
          have others := later none none
          rw [Option.or_none, Token.giveDoc_none] at others
          rw [Token.giveDoc, if_neg notEnd, List.map_cons, Token.rebase, Span.rebase_ofText, others]
      · exact later (some _) doc
      · exact later own doc

/-- What is left of a text has the tokens that the whole text still has. -/
theorem TokenStream.resumed_eq (path : String) (before after : List Char) (doc : Option String) :
    resumed path (Position.after before) doc after =
      Lexeme.tokens (Position.after before) doc (Scanner.ofText after).lexemes ++
        [Token.endOfFile (Position.after (before ++ after))] := by
  have inner : forall lexeme, lexeme ∈ (Scanner.ofText after).lexemes -> lexeme.kind ≠ .token .endOfFile :=
    fun _ member => Scanner.kind_ne_of_mem_lexemes member
  have moved : Lexeme.tokens (Position.after (before ++ [])) (Option.or none doc) (Scanner.ofText after).lexemes =
      (Token.giveDoc doc (Lexeme.tokens Position.start none (Scanner.ofText after).lexemes)).map
        (Token.rebase (Position.after before)) := Lexeme.tokens_after_append before inner [] none doc
  rw [List.append_nil, Option.none_or] at moved
  rw [resumed, toList_ofSource, String.toList_ofList, Token.giveDoc_append_endOfFile, List.map_append,
    List.map_singleton, Token.rebase_endOfFile, moved]

/-! ## The loop from any place between two lexemes -/

namespace OffsetScanner

variable {text before after : List Char} {current : OffsetScanner} {tokens : List Token}

/-- The loop reads on to the end, from wherever a scanner stands. -/
theorem Tracks.tokenizes {limit : Nat} (tracks : Tracks text tokens current) (parts : text = before ++ after)
    (offset : current.offset = byteCount before) (enough : after.length ≤ limit) :
    (OffsetScanner.run? text limit current).bind (OffsetScanner.finish? text) =
      some (tokens ++ [Token.endOfFile (Position.after text)]) := by
  rcases tracks.run? parts offset enough with ⟨last, isLast, atEnd, tracksLast⟩
  rw [isLast, Option.bind_some, tracksLast.finish? atEnd]

/-- What a scanner between two lexemes will have does not hang on the tokens that it has. -/
theorem Follows.tracks_withTokens (follows : Follows text before current ⟨.between, after⟩) (emitted : List Token) :
    Tracks text (emitted ++ Lexeme.tokens (Position.after before) current.doc (Scanner.ofText after).lexemes)
      { current with tokens := emitted } := by
  cases follows with
  | between parts begins offset opened outside =>
      exact ⟨before, ⟨.between, after⟩, .between parts begins offset opened outside, rfl⟩

/-- A scanner inside of no construct stands between two lexemes. -/
theorem Tracks.exists_follows (tracks : Tracks text tokens current) (outside : current.construct = none) :
    ∃ before after, Follows text before current ⟨.between, after⟩ ∧ text = before ++ after ∧
      current.offset = byteCount before ∧
      tokens = current.tokens ++ Lexeme.tokens (Position.after before) current.doc (Scanner.ofText after).lexemes := by
  rcases tracks with ⟨before, scanner, follows, rfl⟩
  cases follows with
  | @between after _ parts begins offset opened outside =>
      exact ⟨before, after, .between parts begins offset opened outside, parts, offset, rfl⟩
  | inside _ _ _ _ entered =>
      rw [outside] at entered
      cases entered

/-- What is left of a text can be scanned as a text of its own.  Its tokens, counted from the place where the
scanner stands, are those that the whole text still has, and those that the loop still finds, whatever tokens it
has found.  The first of them gets the comment that waits, if it has none. -/
structure Resumes (path source : String) (current : OffsetScanner) (rest : List Char) (origin : Position) : Prop where
  ahead : ∃ before, splitAtByte? source.toList current.offset = some (before, rest)
  place : tablePosition? source.toList current.offset = some origin
  alone : forall limit, rest.length ≤ limit ->
    tokenize? rest limit = some (TokenStream.ofSource path (String.ofList rest)).toList
  whole : (TokenStream.ofSource path source).toList =
    current.tokens ++ TokenStream.resumed path origin current.doc rest
  onward : forall emitted limit, rest.length ≤ limit ->
    (run? source.toList limit { current with tokens := emitted }).bind (finish? source.toList) =
      some (emitted ++ TokenStream.resumed path origin current.doc rest)

deriving instance DecidableEq for OffsetScanner

/-- A name, then a documentation comment that waits, and two names on the next line. -/
def waitingSource : String := "a /** é */\n b c"

/-- The scanner behind the comment of `waitingSource`. -/
def waiting : OffsetScanner :=
  ⟨11, 2, none, some "/** é */", [⟨.name, "a", ⟨⟨⟨1, 1⟩, 0⟩, ⟨⟨1, 1⟩, 0⟩⟩, none⟩]⟩

end OffsetScanner

end TemplateFile
