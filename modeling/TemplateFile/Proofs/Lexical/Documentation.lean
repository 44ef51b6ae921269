import TemplateFile.Proofs.Lexical.Occurrences
import TemplateFile.Proofs.RoundTrip.Pieces

namespace TemplateFile

/-!
# Which comment documents which token

While the tokens of a text are made, a documentation comment waits for the next
token.  `Waits` says of the lexemes before some place which comment waits
there, without following what happens on the way: it is the last lexeme that is
not a mere separator, and a documentation comment.  So the comment of a token
is a matter of the lexemes between it and the token before, and of nothing
else.  In particular a comment that has its token documents no other one.
-/

namespace Occurrence

/-- Whether the lexeme only separates: it is neither a token nor a documentation comment. -/
def isSeparator (occurrence : Occurrence) : Bool :=
  match occurrence.lexeme.kind with
  | .token _ => false
  | .docComment => false
  | _ => true

end Occurrence

/-- After some lexemes a documentation comment waits for a token. -/
structure Waits (earlier : List Occurrence) (comment : Occurrence) : Prop where
  isDoc : comment.lexeme.kind = .docComment
  last : ∃ front gap, earlier = front ++ comment :: gap ∧
    forall between, between ∈ gap -> between.isSeparator = true

/-- A comment documents a token: it waits where the token stands. -/
structure Documents (occurrences : List Occurrence) (comment token : Occurrence) : Prop where
  isToken : token.isToken = true
  waits : ∃ earlier later, occurrences = earlier ++ token :: later ∧ Waits earlier comment

/-- What is remembered after some lexemes is the text of the comment that waits there, if there is one. -/
def Remembers (earlier : List Occurrence) (doc : Option String) : Prop :=
  forall text, doc = some text ↔ ∃ comment, Waits earlier comment ∧ text = String.ofList comment.lexeme.text

/-- The documentation of a token is the text of the comment that documents it, if there is one. -/
def HasDoc (occurrences : List Occurrence) (token : Occurrence) (doc : Option String) : Prop :=
  forall text, doc = some text ↔
    ∃ comment, Documents occurrences comment token ∧ text = String.ofList comment.lexeme.text

namespace Waits

variable {earlier : List Occurrence} {occurrence comment other : Occurrence}

theorem not_isSeparator (waits : Waits earlier comment) : comment.isSeparator = false := by
  rw [Occurrence.isSeparator, waits.isDoc]

/-- Only one comment waits. -/
theorem unique (waits : Waits earlier comment) (otherWaits : Waits earlier other) : comment = other := by
  rcases waits.last with ⟨front, gap, parts, free⟩
  rcases otherWaits.last with ⟨otherFront, otherGap, otherParts, otherFree⟩
  -- From behind, the comment is the first lexeme that is not a separator.
  have backwards := congrArg List.reverse (parts.symm.trans otherParts)
  rw [List.reverse_append, List.reverse_append, List.reverse_cons, List.reverse_cons, List.append_assoc,
    List.append_assoc] at backwards
  have free : forall between, between ∈ gap.reverse -> (!between.isSeparator) = false := fun between member => by
    rw [free between (List.mem_reverse.mp member)]
    rfl
  have otherFree : forall between, between ∈ otherGap.reverse -> (!between.isSeparator) = false :=
    fun between member => by
      rw [otherFree between (List.mem_reverse.mp member)]
      rfl
  exact (eq_of_append_cons_eq (fun occurrence => !occurrence.isSeparator) backwards free
    (by rw [waits.not_isSeparator]; rfl) otherFree (by rw [otherWaits.not_isSeparator]; rfl)).2.1

/-- After a separator the same comment waits as before. -/
theorem append_separator_iff (separates : occurrence.isSeparator = true) :
    Waits (earlier ++ [occurrence]) comment ↔ Waits earlier comment := by
  constructor
  · rintro ⟨isDoc, front, gap, parts, free⟩
    rcases List.eq_nil_or_concat gap with rfl | ⟨gap, last, rfl⟩
    · have same := (List.append_inj' parts rfl).2
      rw [List.singleton_inj.mp same, Occurrence.isSeparator, isDoc] at separates
      cases separates
    · rw [List.concat_eq_append, ← List.cons_append, ← List.append_assoc] at parts
      refine ⟨isDoc, front, gap, (List.append_inj' parts rfl).1, fun between member => free between ?_⟩
      rw [List.concat_eq_append]
      exact List.mem_append_left _ member
  · rintro ⟨isDoc, front, gap, rfl, free⟩
    refine ⟨isDoc, front, gap ++ [occurrence], by rw [List.append_assoc, List.cons_append], ?_⟩
    intro between member
    rcases List.mem_append.mp member with inGap | isLast
    · exact free between inGap
    · rw [List.mem_singleton.mp isLast]
      exact separates

/-- After anything else no comment waits but the lexeme itself. -/
theorem eq_of_append (notSeparator : occurrence.isSeparator = false) (waits : Waits (earlier ++ [occurrence]) comment) :
    comment = occurrence := by
  rcases waits.last with ⟨front, gap, parts, free⟩
  rcases List.eq_nil_or_concat gap with rfl | ⟨gap, last, rfl⟩
  · exact (List.singleton_inj.mp (List.append_inj' parts rfl).2).symm
  · rw [List.concat_eq_append, ← List.cons_append, ← List.append_assoc] at parts
    have same := List.singleton_inj.mp (List.append_inj' parts rfl).2
    have separates := free last (by rw [List.concat_eq_append]; exact List.mem_append_right _ List.mem_cons_self)
    rw [← same, notSeparator] at separates
    cases separates

theorem append_self (isDoc : occurrence.lexeme.kind = .docComment) : Waits (earlier ++ [occurrence]) occurrence :=
  ⟨isDoc, earlier, [], rfl, fun _ impossible => by cases impossible⟩

end Waits

namespace Remembers

variable {earlier : List Occurrence} {occurrence : Occurrence} {doc : Option String}

theorem nil : Remembers [] none := by
  intro text
  constructor
  · intro impossible
    cases impossible
  · rintro ⟨comment, ⟨_, front, gap, empty, _⟩, _⟩
    cases (List.append_eq_nil_iff.mp empty.symm).2

/-- A token takes what is remembered. -/
theorem token (isToken : occurrence.isToken = true) : Remembers (earlier ++ [occurrence]) none := by
  intro text
  constructor
  · intro impossible
    cases impossible
  · rintro ⟨comment, waits, _⟩
    unfold Occurrence.isToken at isToken
    split at isToken
    · next kind isKind =>
        have notSeparator : occurrence.isSeparator = false := by rw [Occurrence.isSeparator, isKind]
        have isDoc := waits.isDoc
        rw [waits.eq_of_append notSeparator, isKind] at isDoc
        cases isDoc
    · cases isToken

/-- A documentation comment is remembered in place of an earlier one. -/
theorem docComment (isDoc : occurrence.lexeme.kind = .docComment) :
    Remembers (earlier ++ [occurrence]) (some (String.ofList occurrence.lexeme.text)) := by
  intro text
  have notSeparator : occurrence.isSeparator = false := by rw [Occurrence.isSeparator, isDoc]
  constructor
  · rintro ⟨⟩
    exact ⟨occurrence, .append_self isDoc, rfl⟩
  · rintro ⟨comment, waits, rfl⟩
    rw [waits.eq_of_append notSeparator]

theorem separator (remembers : Remembers earlier doc) (separates : occurrence.isSeparator = true) :
    Remembers (earlier ++ [occurrence]) doc := by
  intro text
  simp only [Waits.append_separator_iff separates]
  exact remembers text

end Remembers

/-- Every token has what is remembered of the lexemes before it. -/
theorem forall₂_remembers {before : List Char} {lexemes : List Lexeme} {all earlier : List Occurrence}
    (position : Position) {doc : Option String} (parts : all = earlier ++ Occurrence.allOf before lexemes)
    (remembers : Remembers earlier doc) :
    List.Forall₂ (fun occurrence token => ∃ front back, all = front ++ occurrence :: back ∧ Remembers front token.doc)
      ((Occurrence.allOf before lexemes).filter Occurrence.isToken) (Lexeme.tokens position doc lexemes) := by
  induction lexemes generalizing before earlier position doc with
  | nil => exact .nil
  | cons lexeme rest inductionHypothesis =>
      rw [Occurrence.allOf] at parts ⊢
      have later := parts
      rw [← List.singleton_append, ← List.append_assoc] at later
      rcases lexeme with ⟨kind, written⟩
      rw [Lexeme.tokens]
      cases kind with
      | token kind =>
          rw [List.filter_cons_of_pos rfl]
          exact .cons ⟨earlier, _, parts, remembers⟩ (inductionHypothesis _ later (.token rfl))
      | docComment =>
          rw [List.filter_cons_of_neg Bool.false_ne_true]
          exact inductionHypothesis _ later (.docComment rfl)
      | _ =>
          rw [List.filter_cons_of_neg Bool.false_ne_true]
          exact inductionHypothesis _ later (remembers.separator rfl)

/-- The documentation comments are the lexemes that are written as one. -/
theorem Heads.docComment_iff {text rest : List Char} {lexeme : Lexeme} (heads : Heads text lexeme rest) :
    lexeme.kind = .docComment ↔ IsDoc lexeme.text := by
  constructor
  · intro isDoc
    cases heads with
    | @piece rule _ found _ _ taken product parts => cases rule <;> cases product <;> cases isDoc
    | @closed rule _ found tail inside _ construct taken product parts closes =>
        cases construct with
        | docComment =>
            have isOpener : rule = .docOpener := by
              cases rule <;> cases product
              rfl
            subst isOpener
            have isFound : found = ['/', '*', '*'] := taken.accepted
            subst isFound
            refine ⟨inside, rfl, ?_, closes.upTo⟩
            -- With a slash at once the empty comment would come first in the order of the rules.
            intro slash
            cases inside with
            | nil => cases slash
            | cons first others =>
                cases slash
                refine taken.noEarlier .emptyComment (by decide) ⟨['/', '*', '*', '/'], rfl, ?_⟩
                rw [parts, closes.parts]
                exact ⟨others ++ Construct.docComment.closer ++ rest, rfl⟩
        | _ => cases isDoc
    | unclosed taken product parts absent => cases isDoc
    | unknown none => cases isDoc
  · intro isDoc
    have same := Scanner.lexemes_ofText_of_heads heads
    rw [heads.parts, Scanner.lexemes_ofText_of_isDoc isDoc] at same
    rw [← (List.cons.inj same).1]

namespace Lexing

variable {text : List Char} {lexemes : List Lexeme}

/-- A lexeme stands in one place only, so that what waits there is its documentation. -/
theorem hasDoc_of_remembers (lexing : Lexing text lexemes) {front back : List Occurrence} {token : Occurrence}
    {doc : Option String} (parts : Occurrence.allOf [] lexemes = front ++ token :: back) (isToken : token.isToken = true)
    (remembers : Remembers front doc) : HasDoc (Occurrence.allOf [] lexemes) token doc := by
  intro text
  rw [remembers text]
  constructor
  · rintro ⟨comment, waits, rfl⟩
    exact ⟨comment, ⟨isToken, front, back, parts, waits⟩, rfl⟩
  · rintro ⟨comment, ⟨_, earlier, later, otherParts, waits⟩, rfl⟩
    rw [← (lexing.eq_of_allOf_eq parts otherParts).1] at waits
    exact ⟨comment, waits, rfl⟩

/-- The tokens of a text have the comments that document them. -/
theorem forall₂_hasDoc (lexing : Lexing text lexemes) (position : Position) :
    List.Forall₂ (fun occurrence token => HasDoc (Occurrence.allOf [] lexemes) occurrence token.doc)
      ((Occurrence.allOf [] lexemes).filter Occurrence.isToken) (Lexeme.tokens position none lexemes) := by
  have whole : Occurrence.allOf [] lexemes = [] ++ Occurrence.allOf [] lexemes := rfl
  have both := List.forall₂_iff_zip.mp (forall₂_remembers position whole Remembers.nil)
  refine List.forall₂_iff_zip.mpr ⟨both.1, ?_⟩
  intro occurrence token paired
  rcases both.2 paired with ⟨front, back, parts, remembers⟩
  exact lexing.hasDoc_of_remembers parts (List.mem_filter.mp (List.of_mem_zip paired).1).2 remembers

/-- A comment documents at most one token, and a token has at most one comment. -/
theorem documents_iff (lexing : Lexing text lexemes) {comment otherComment token otherToken : Occurrence}
    (documents : Documents (Occurrence.allOf [] lexemes) comment token)
    (otherDocuments : Documents (Occurrence.allOf [] lexemes) otherComment otherToken) :
    comment = otherComment ↔ token = otherToken := by
  rcases documents with ⟨isToken, earlier, later, parts, waits⟩
  rcases otherDocuments with ⟨otherIsToken, otherEarlier, otherLater, otherParts, otherWaits⟩
  constructor
  · rintro rfl
    rcases waits.last with ⟨front, gap, rfl, free⟩
    rcases otherWaits.last with ⟨otherFront, otherGap, rfl, otherFree⟩
    rw [List.append_assoc, List.cons_append] at parts otherParts
    -- After the comment, the token is the first lexeme that is not a separator.
    have rests := (lexing.eq_of_allOf_eq parts otherParts).2
    have notToken : forall {gap : List Occurrence}, (forall between, between ∈ gap -> between.isSeparator = true) ->
        forall between, between ∈ gap -> between.isToken = false := by
      intro gap free between member
      have separates := free between member
      revert separates
      unfold Occurrence.isSeparator Occurrence.isToken
      cases between.lexeme.kind with
      | token kind => exact fun impossible => by cases impossible
      | _ => exact fun _ => rfl
    exact (eq_of_append_cons_eq _ rests (notToken free) isToken (notToken otherFree) otherIsToken).2.1
  · rintro rfl
    rw [(lexing.eq_of_allOf_eq parts otherParts).1] at waits
    exact waits.unique otherWaits

end Lexing

end TemplateFile
