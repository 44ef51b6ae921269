import TemplateFile.Token.Scanner
import Mathlib.Computability.Language

namespace TemplateFile

open Computability

/-!
# The rules between lexemes

The text between two lexemes is read by fourteen rules, tried in a fixed
order.  A rule is nothing but a language: the set of texts that it may take.
The rule that applies is the first one with a text of its language at the
front, and it takes the longest such text.  This describes the rules without
saying how they are searched; in particular a rule for a name does not know
where the name will end.

Only three rules need the order: an empty comment, a documentation comment and
a comment begin alike.
-/

/-- A rule between lexemes. -/
inductive LexicalRule where
  | blank
  | lineComment
  | emptyComment
  | docOpener
  | commentOpener
  | openTag (kind : TemplateKind)
  | header (tag : HeaderTag)
  | closeCurly
  | equals
  | quoted
  | name
deriving DecidableEq, Repr

namespace LexicalRule

/-! ## The languages -/

/-- The texts of one accepted character. -/
def oneOf (accepts : Char -> Bool) : Language Char :=
  {text | ∃ character, accepts character = true ∧ text = [character]}

/-- The texts of any number of accepted characters. -/
def anyOf (accepts : Char -> Bool) : Language Char := (oneOf accepts)∗

/-- The texts of one or more accepted characters. -/
def someOf (accepts : Char -> Bool) : Language Char := oneOf accepts * anyOf accepts

/-- The segments of names. -/
def segment : Language Char := oneOf DottedName.isStart * anyOf DottedName.isPart

/-- A dot and a segment, with blanks around the dot. -/
def dottedSegment : Language Char := anyOf Text.isBlank * {['.']} * anyOf Text.isBlank * segment

/-- The texts that a rule may take. -/
def language : LexicalRule -> Language Char
  | blank => someOf Text.isBlank
  | lineComment => {['/', '/']} * anyOf fun character => character != '\n'
  | emptyComment => {['/', '*', '*', '/']}
  | docOpener => {['/', '*', '*']}
  | commentOpener => {['/', '*']}
  | openTag kind =>
      {kind.keyword} * someOf Text.isBlank * (someOf fun character => character != '\x7d') * {['\x7d']}
  | header tag => {tag.keyword}
  | closeCurly => {['\x7d']}
  | equals => {['=']}
  | quoted => {['"']} * (anyOf fun character => character != '"') * {['"']}
  | name => segment * dottedSegment∗

/-- The order in which the rules are tried. -/
def order : List LexicalRule :=
  [blank, lineComment, emptyComment, docOpener, commentOpener, openTag .basic, openTag .delegate,
   header .package, header .namespaceTag, header .aliasTag, closeCurly, equals, quoted, name]

/-- The place of a rule in the order. -/
def rank (rule : LexicalRule) : Nat := order.idxOf rule

/-- The rule has a text at the front. -/
def Matches (rule : LexicalRule) (text : List Char) : Prop :=
  ∃ found ∈ rule.language, found <+: text

/-- The rule applies to a text and takes `found`: no earlier rule has a text at
the front, and `found` is the longest that this rule has there. -/
structure Takes (rule : LexicalRule) (text found : List Char) : Prop where
  accepted : found ∈ rule.language
  begins : found <+: text
  longest : forall other, other ∈ rule.language -> other <+: text -> other.length ≤ found.length
  noEarlier : forall other : LexicalRule, other.rank < rule.rank -> ¬ other.Matches text

/-- What becomes of the text that a rule takes. -/
def product : LexicalRule -> List Char -> Scanner.Front
  | blank, text => .lexeme ⟨.blank, text⟩
  | lineComment, text => .lexeme ⟨.lineComment, text⟩
  | emptyComment, text => .lexeme ⟨.comment, text⟩
  | docOpener, text => .opener .docComment text
  | commentOpener, text => .opener .comment text
  | openTag kind, text => .opener (.template kind) text
  | header tag, text => .token (.header tag) text
  | closeCurly, text => .token .closeCurly text
  | equals, text => .token .equals text
  | quoted, text => .token .quoted text
  | name, text => .token ((TokenKind.reserved? text).getD .name) text

/-! ## Texts of one kind of character -/

theorem mem_anyOf_iff {accepts : Char -> Bool} {text : List Char} :
    text ∈ anyOf accepts ↔ forall character, character ∈ text -> accepts character = true := by
  constructor
  · intro member character inText
    rcases Language.mem_kstar.mp member with ⟨pieces, rfl, all⟩
    rcases List.mem_flatten.mp inText with ⟨piece, listed, inPiece⟩
    rcases all piece listed with ⟨single, accepted, rfl⟩
    rw [List.mem_singleton.mp inPiece]
    exact accepted
  · intro all
    refine Language.mem_kstar.mpr ⟨text.map fun character => [character], ?_, ?_⟩
    · induction text with
      | nil => rfl
      | cons character rest inductionHypothesis =>
          rw [List.map_cons, List.flatten_cons, ← inductionHypothesis fun other later =>
            all other (List.mem_cons_of_mem character later)]
          rfl
    · intro piece listed
      rcases List.mem_map.mp listed with ⟨character, inText, rfl⟩
      exact ⟨character, all character inText, rfl⟩

theorem mem_someOf_iff {accepts : Char -> Bool} {text : List Char} :
    text ∈ someOf accepts ↔ text ≠ [] ∧ forall character, character ∈ text -> accepts character = true := by
  constructor
  · intro member
    rcases Language.mem_mul.mp member with ⟨_, ⟨first, accepted, rfl⟩, others, inOthers, rfl⟩
    refine ⟨List.cons_ne_nil _ _, ?_⟩
    intro character inText
    rcases List.mem_cons.mp inText with rfl | later
    · exact accepted
    · exact mem_anyOf_iff.mp inOthers character later
  · rintro ⟨notEmpty, all⟩
    cases text with
    | nil => exact absurd rfl notEmpty
    | cons first others =>
        exact Language.mem_mul.mpr ⟨[first], ⟨first, all first List.mem_cons_self, rfl⟩, others,
          mem_anyOf_iff.mpr fun other later => all other (List.mem_cons_of_mem first later), rfl⟩

end LexicalRule

end TemplateFile
