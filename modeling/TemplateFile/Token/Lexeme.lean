import TemplateFile.Source.Place
import TemplateFile.Token.Basic
import TemplateFile.Token.DottedName

namespace TemplateFile

/-!
# Lexemes

The text of a file is cut into lexemes, without gaps.  A lexeme is a token, or
one of the pieces that only separate tokens: blanks and comments.  A lexeme is
text alone; the positions of the tokens, and the documentation comments that
belong to them, follow from the lexemes before them.
-/

/-- What a lexeme is.  Only a token becomes part of the token stream, and only
a documentation comment is remembered until the next token. -/
inductive LexemeKind where
  | blank
  | lineComment
  | comment
  | docComment
  | token (kind : TokenKind)
deriving DecidableEq, Repr

/-- A piece of a file's text. -/
structure Lexeme where
  kind : LexemeKind
  text : List Char
deriving DecidableEq, Repr

namespace Lexeme

/-- The value of a token written as `text`: a quoted string loses its quotes, a
name loses its blanks, and everything else is kept as written. -/
def tokenValue (kind : TokenKind) (text : List Char) : List Char :=
  match kind with
  | .quoted => (text.drop 1).dropLast
  | .name => DottedName.value text
  | _ => text

/-- The tokens among lexemes whose first one stands at `position`, when `doc`
is the documentation comment that still waits for its token. -/
def tokens : Position -> Option String -> List Lexeme -> List Token
  | _, _, [] => []
  | position, doc, lexeme :: rest =>
      match lexeme.kind with
      | .token kind =>
          ⟨kind, String.ofList (tokenValue kind lexeme.text), Span.ofText position lexeme.text, doc⟩ ::
            tokens (position.advance lexeme.text) none rest
      | .docComment => tokens (position.advance lexeme.text) (some (String.ofList lexeme.text)) rest
      | _ => tokens (position.advance lexeme.text) doc rest

/-- The kinds of the tokens are those of the token lexemes. -/
theorem exists_lexeme_of_mem_tokens {position : Position} {doc : Option String} {lexemes : List Lexeme}
    {token : Token} (member : token ∈ tokens position doc lexemes) :
    ∃ lexeme ∈ lexemes, lexeme.kind = .token token.kind := by
  induction lexemes generalizing position doc with
  | nil => simp only [tokens, List.not_mem_nil] at member
  | cons lexeme rest inductionHypothesis =>
      have later : forall {position : Position} {doc : Option String}, token ∈ tokens position doc rest ->
          ∃ other ∈ lexeme :: rest, other.kind = .token token.kind := by
        intro position doc inRest
        rcases inductionHypothesis inRest with ⟨other, among, same⟩
        exact ⟨other, List.mem_cons_of_mem _ among, same⟩
      rw [tokens] at member
      split at member
      · next kind isToken =>
          rcases List.mem_cons.mp member with here | inRest
          · exact ⟨lexeme, List.mem_cons_self, by rw [here]; exact isToken⟩
          · exact later inRest
      · exact later member
      · exact later member

end Lexeme

end TemplateFile
