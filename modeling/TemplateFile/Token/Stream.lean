import TemplateFile.Source.Location
import TemplateFile.Token.Scanner

namespace TemplateFile

/-!
# Token streams

A token stream is what a grammar rule reads from: the tokens of a file that
have not been read, and the token that ends the file.  The two are kept apart,
and the stream carries the proof that only the last token ends the file, so a
rule can neither run past the end nor meet an end in the middle.
-/

/-- The unread tokens of the file at `path`, and the token that ends the file. -/
structure TokenStream where
  path : String
  pending : List Token
  final : Token
  pending_inner : forall token, token ∈ pending -> token.kind ≠ .endOfFile
  final_kind : final.kind = .endOfFile

namespace TokenStream

/-- The tokens of a stream, the last one included. -/
def toList (stream : TokenStream) : List Token := stream.pending ++ [stream.final]

/-- The token to be read next. -/
def current (stream : TokenStream) : Token := stream.pending.headD stream.final

/-- The stream after its current token.  The last token is never passed. -/
def advance (stream : TokenStream) : TokenStream where
  path := stream.path
  pending := stream.pending.tail
  final := stream.final
  pending_inner := fun token member => stream.pending_inner token (List.mem_of_mem_tail member)
  final_kind := stream.final_kind

/-- Whether there is a token before the one that ends the file. -/
def hasTokens (stream : TokenStream) : Bool := stream.current.kind != .endOfFile

/-- How many tokens are left before the one that ends the file. -/
def size (stream : TokenStream) : Nat := stream.pending.length

/-- The location of a token of the stream's file. -/
def locationOf (stream : TokenStream) (token : Token) : Location := Location.ofSpan stream.path token.span

/-- The location from one token of the stream's file to another. -/
def locationBetween (stream : TokenStream) (opening closing : Token) : Location :=
  Location.between stream.path opening.span closing.span

/-- The current token is the last one exactly when no token is pending. -/
theorem current_kind_eq_endOfFile_iff (stream : TokenStream) :
    stream.current.kind = .endOfFile ↔ stream.pending = [] := by
  unfold current
  cases tokens : stream.pending with
  | nil => simp only [List.headD_nil, stream.final_kind]
  | cons token rest =>
      have inner := stream.pending_inner token (by rw [tokens]; exact List.mem_cons_self)
      simp only [List.headD_cons, inner, reduceCtorEq]

/-- Passing a token that does not end the file leaves fewer tokens. -/
theorem size_advance_lt {stream : TokenStream} (inner : stream.current.kind ≠ .endOfFile) :
    stream.advance.size < stream.size := by
  have notEmpty := (not_congr stream.current_kind_eq_endOfFile_iff).mp inner
  have positive := List.length_pos_iff.mpr notEmpty
  simp only [size, advance, List.length_tail]
  omega

/-- Passing a token never leaves more tokens. -/
theorem size_advance_le (stream : TokenStream) : stream.advance.size ≤ stream.size := by
  simp only [size, advance, List.length_tail]
  omega

/-- The tokens of the file at `path` with the text `source`.  Every text has
its tokens; what no rule accepts is in the stream as an unexpected token. -/
def ofSource (path source : String) : TokenStream where
  path := path
  pending := Lexeme.tokens Position.start none (Scanner.ofText source.toList).lexemes
  final := Token.endOfFile (Position.start.advance source.toList)
  pending_inner := fun token member => by
    rcases Lexeme.exists_lexeme_of_mem_tokens member with ⟨lexeme, among, isToken⟩
    intro isEnd
    exact Scanner.kind_ne_of_mem_lexemes among (isEnd ▸ isToken)
  final_kind := rfl

end TokenStream

end TemplateFile
