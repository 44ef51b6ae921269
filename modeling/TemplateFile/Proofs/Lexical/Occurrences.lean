import TemplateFile.Proofs.Lexical.Tokens
import TemplateFile.Proofs.Related

namespace TemplateFile

/-!
# The lexemes of a text in their places

The lexemes of a text follow each other without gaps.  So what comes before a
lexeme says where it stands: of two lexemes one ends before the other begins,
and no lexeme stands in two places.
-/

namespace Occurrence

variable {before : List Char} {lexemes : List Lexeme} {occurrence : Occurrence}

/-- One lexeme ends before the other begins. -/
def EndsBefore (one two : Occurrence) : Prop := one.before ++ one.lexeme.text <+: two.before

theorem before_prefix_of_mem (member : occurrence ∈ allOf before lexemes) : before <+: occurrence.before := by
  induction lexemes generalizing before with
  | nil => cases member
  | cons lexeme rest inductionHypothesis =>
      rcases List.mem_cons.mp member with rfl | later
      · exact List.prefix_refl _
      · exact (List.prefix_append before lexeme.text).trans (inductionHypothesis later)

/-- A lexeme and what is around it make up the text. -/
theorem parts_of_mem (member : occurrence ∈ allOf before lexemes) :
    occurrence.before ++ occurrence.lexeme.text ++ occurrence.after = before ++ lexemes.flatMap Lexeme.text := by
  induction lexemes generalizing before with
  | nil => cases member
  | cons lexeme rest inductionHypothesis =>
      rcases List.mem_cons.mp member with rfl | later
      · rw [List.flatMap_cons, List.append_assoc]
      · rw [inductionHypothesis later, List.flatMap_cons, List.append_assoc]

/-- Every lexeme ends before all later ones begin. -/
theorem pairwise_endsBefore (before : List Char) (lexemes : List Lexeme) :
    (allOf before lexemes).Pairwise EndsBefore := by
  induction lexemes generalizing before with
  | nil => exact .nil
  | cons lexeme rest inductionHypothesis =>
      exact .cons (fun _ later => before_prefix_of_mem later) (inductionHypothesis _)

end Occurrence

namespace Lexing

variable {text before : List Char} {lexemes : List Lexeme} {occurrence : Occurrence}

/-- Each lexeme stands at the front of the text that begins with it. -/
theorem heads_of_mem (lexing : Lexing text lexemes) (member : occurrence ∈ Occurrence.allOf before lexemes) :
    Heads (occurrence.lexeme.text ++ occurrence.after) occurrence.lexeme occurrence.after := by
  induction lexing generalizing before with
  | finished => cases member
  | next first others inductionHypothesis =>
      rcases List.mem_cons.mp member with rfl | later
      · rw [others.flatMap_text, ← first.parts]
        exact first
      · exact inductionHypothesis later

/-- A lexeme that ends before another one begins has less text before it. -/
theorem length_before_lt (lexing : Lexing text lexemes) {one two : Occurrence}
    (member : one ∈ Occurrence.allOf before lexemes) (ends : one.EndsBefore two) :
    one.before.length < two.before.length := by
  have notEmpty := List.length_pos_iff.mpr (lexing.heads_of_mem member).text_ne_nil
  have shorter := ends.length_le
  rw [List.length_append] at shorter
  omega

end Lexing

/-- The token was read from a text. -/
def Token.IsRead (token : Token) : Prop := ∃ occurrence, Denotes occurrence token

/-- The value of an attribute key is its word. -/
theorem Token.IsRead.eq_word {token : Token} (read : token.IsRead) {key : AttributeKey}
    (kind : token.kind = .attributeKey key) : token.value = String.ofList key.word := by
  rcases read with ⟨occurrence, denotes⟩
  have value := denotes.value
  rw [kind] at value
  have isText : token.value.toList = occurrence.lexeme.text := value
  rw [(denotes.attributeKey key).mp kind] at isText
  rw [← isText, String.ofList_toList]

namespace TokenStream

variable {path source : String} {token : Token}

/-- A token of a text denotes a lexeme that stands in the text. -/
theorem exists_denotes_of_mem_pending (member : token ∈ (ofSource path source).pending) :
    ∃ occurrence, Denotes occurrence token ∧
      source.toList = occurrence.before ++ occurrence.lexeme.text ++ occurrence.after := by
  rcases exists_of_forall₂ (denotes_pending path source) member with ⟨occurrence, listed, denotes⟩
  have parts := Occurrence.parts_of_mem (List.mem_filter.mp listed).1
  rw [List.nil_append, (Lexing.ofText source.toList).flatMap_text] at parts
  exact ⟨occurrence, denotes, parts.symm⟩

theorem isRead_of_mem_pending (member : token ∈ (ofSource path source).pending) : token.IsRead := by
  rcases exists_denotes_of_mem_pending member with ⟨occurrence, denotes, _⟩
  exact ⟨occurrence, denotes⟩

end TokenStream

/-- A list is cut in one way only around the first element with a property. -/
theorem eq_of_append_cons_eq {Element : Type} (property : Element -> Bool) {front otherFront back otherBack : List Element}
    {element other : Element} (same : front ++ element :: back = otherFront ++ other :: otherBack)
    (free : forall earlier, earlier ∈ front -> property earlier = false) (here : property element = true)
    (otherFree : forall earlier, earlier ∈ otherFront -> property earlier = false) (otherHere : property other = true) :
    front = otherFront ∧ element = other ∧ back = otherBack := by
  have frontOf : forall {list rest : List Element} {first : Element},
      (forall earlier, earlier ∈ list -> property earlier = false) -> property first = true ->
      (list ++ first :: rest).takeWhile (fun earlier => !property earlier) = list := by
    intro list rest first none found
    rw [List.takeWhile_append_of_pos fun earlier member => by rw [none earlier member]; rfl,
      List.takeWhile_cons_of_neg (by rw [found]; exact Bool.false_ne_true), List.append_nil]
  have fronts := congrArg (List.takeWhile fun earlier => !property earlier) same
  rw [frontOf free here, frontOf otherFree otherHere] at fronts
  subst fronts
  have backs := List.cons.inj (List.append_cancel_left same)
  exact ⟨rfl, backs.1, backs.2⟩

/-- No lexeme stands in two places. -/
theorem Lexing.eq_of_allOf_eq {text before : List Char} {lexemes : List Lexeme} (lexing : Lexing text lexemes)
    {earlier otherEarlier later otherLater : List Occurrence} {occurrence : Occurrence}
    (parts : Occurrence.allOf before lexemes = earlier ++ occurrence :: later)
    (otherParts : Occurrence.allOf before lexemes = otherEarlier ++ occurrence :: otherLater) :
    earlier = otherEarlier ∧ later = otherLater := by
  have shorter : forall {front back : List Occurrence}, Occurrence.allOf before lexemes = front ++ occurrence :: back ->
      forall other, other ∈ front -> decide (occurrence.before.length ≤ other.before.length) = false := by
    intro front back cut other member
    have sorted := Occurrence.pairwise_endsBefore before lexemes
    rw [cut] at sorted
    have ends := (List.pairwise_append.mp sorted).2.2 other member occurrence List.mem_cons_self
    have listed : other ∈ Occurrence.allOf before lexemes := by
      rw [cut]
      exact List.mem_append_left _ member
    exact decide_eq_false (Nat.not_le.mpr (lexing.length_before_lt listed ends))
  have here : decide (occurrence.before.length ≤ occurrence.before.length) = true := decide_eq_true (Nat.le_refl _)
  have cut := eq_of_append_cons_eq (fun other : Occurrence =>
    decide (occurrence.before.length ≤ other.before.length)) (parts.symm.trans otherParts) (shorter parts) here
    (shorter otherParts) here
  exact ⟨cut.1, cut.2.2⟩

end TemplateFile
