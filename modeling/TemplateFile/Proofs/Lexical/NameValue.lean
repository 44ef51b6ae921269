import TemplateFile.Proofs.Lexical.Occurrences
import TemplateFile.Proofs.RoundTrip.Printing
import TemplateFile.Tree.Declaration

namespace TemplateFile

open Computability

/-!
# The values of names

The value of a name is its text without blanks, and blanks stand only around
its dots.  So the value is again a name, and a plain one.  Whether a name is
reserved is decided by its text, before the blanks are taken away.  This makes
no difference: a text that loses a blank has a dot, and no reserved word has one.
-/

namespace LexicalRule

theorem value_of_mem_segment {text : List Char} (member : text ∈ segment) : DottedName.value text = text := by
  refine List.filter_eq_self.mpr fun character inText => ?_
  rw [not_isBlank_of_mem_segment member inText]
  rfl

theorem dot_notMem_segment {text : List Char} (member : text ∈ segment) : '.' ∉ text := by
  rcases mem_segment_iff.mp member with ⟨first, others, rfl, start, parts⟩
  intro inText
  rcases List.mem_cons.mp inText with rfl | later
  · exact absurd start (by decide)
  · exact absurd (parts '.' later) (by decide)

/-- Around the dot only blanks are lost. -/
theorem value_of_mem_dottedSegment {text : List Char} (member : text ∈ dottedSegment) :
    DottedName.value text ∈ ({['.']} * segment : Language Char) := by
  rcases mem_dottedSegment_iff.mp member with ⟨before, after, piece, rfl, beforeBlank, afterBlank, inSegment⟩
  have lost : forall blanks : List Char, (forall character, character ∈ blanks -> Text.isBlank character = true) ->
      DottedName.value blanks = [] := by
    intro blanks allBlank
    refine List.filter_eq_nil_iff.mpr fun character inBlanks kept => ?_
    rw [allBlank character inBlanks] at kept
    cases kept
  have value : DottedName.value (before ++ '.' :: after ++ piece) = '.' :: piece := by
    have parts : before ++ '.' :: after ++ piece = before ++ (['.'] ++ (after ++ piece)) := by
      simp only [List.append_assoc, List.cons_append, List.nil_append]
    have dot : DottedName.value ['.'] = ['.'] := by decide
    rw [parts, DottedName.value, List.filter_append, List.filter_append, List.filter_append, ← DottedName.value,
      ← DottedName.value, ← DottedName.value, ← DottedName.value, lost before beforeBlank, lost after afterBlank, dot,
      value_of_mem_segment inSegment]
    rfl
  rw [value]
  exact Language.mem_mul.mpr ⟨['.'], rfl, piece, inSegment, rfl⟩

theorem value_append (text more : List Char) :
    DottedName.value (text ++ more) = DottedName.value text ++ DottedName.value more := List.filter_append ..

theorem value_flatten (pieces : List (List Char)) :
    DottedName.value pieces.flatten = (pieces.map DottedName.value).flatten := List.filter_flatten ..

/-- The value of a name is a plain name. -/
theorem value_mem_plainName {text : List Char} (member : text ∈ name.language) :
    DottedName.value text ∈ plainName := by
  rcases Language.mem_mul.mp member with ⟨first, inFirst, _, inOthers, rfl⟩
  rcases Language.mem_kstar.mp inOthers with ⟨pieces, rfl, dotted⟩
  rw [value_append, value_of_mem_segment inFirst, value_flatten]
  refine Language.append_mem_mul inFirst (Language.mem_kstar.mpr ⟨_, rfl, ?_⟩)
  intro value listed
  rcases List.mem_map.mp listed with ⟨piece, isPiece, rfl⟩
  exact value_of_mem_dottedSegment (dotted piece isPiece)

/-- A name whose value has no dot is written as its value. -/
theorem value_eq_self {text : List Char} (member : text ∈ name.language) (noDot : '.' ∉ DottedName.value text) :
    DottedName.value text = text := by
  rcases Language.mem_mul.mp member with ⟨first, inFirst, _, inOthers, rfl⟩
  rcases Language.mem_kstar.mp inOthers with ⟨pieces, rfl, dotted⟩
  cases pieces with
  | nil =>
      rw [List.flatten_nil, List.append_nil]
      exact value_of_mem_segment inFirst
  | cons piece pieces =>
      rcases Language.mem_mul.mp (value_of_mem_dottedSegment (dotted piece List.mem_cons_self)) with
        ⟨_, rfl, segment, _, isValue⟩
      refine absurd ?_ noDot
      rw [value_append, List.flatten_cons, value_append, ← isValue]
      exact List.mem_append_right _ (List.mem_append_left _ List.mem_cons_self)

end LexicalRule

/-! ## The last segment -/

namespace AliasDeclaration

theorem lastSegment_of_noDot {name : List Char} (noDot : '.' ∉ name) : lastSegment name = name := by
  have whole : name.reverse.takeWhile (fun character => character != '.') = name.reverse := by
    refine List.takeWhile_eq_self_iff.mpr fun character member => ?_
    exact bne_iff_ne.mpr fun isDot => noDot (isDot ▸ List.mem_reverse.mp member)
  rw [lastSegment, whole, List.reverse_reverse]

theorem lastSegment_append_dot {segment : List Char} (noDot : '.' ∉ segment) (front : List Char) :
    lastSegment (front ++ ['.'] ++ segment) = segment := by
  have stops : Text.Stops (fun character => character != '.') (['.'] ++ front.reverse) :=
    Text.stops_cons_iff.mpr (by decide)
  have cut : (segment.reverse ++ (['.'] ++ front.reverse)).takeWhile (fun character => character != '.') =
      segment.reverse := by
    refine Text.takeWhile_append_of_stops (fun character member => ?_) stops
    exact bne_iff_ne.mpr fun isDot => noDot (isDot ▸ List.mem_reverse.mp member)
  rw [lastSegment, List.reverse_append, List.reverse_append, List.reverse_singleton, cut, List.reverse_reverse]

/-- The last segment of a plain name is a single segment, and what comes before it ends with a dot. -/
theorem lastSegment_of_plainName {name : List Char} (member : name ∈ plainName) :
    lastSegment name ∈ LexicalRule.segment ∧
      (lastSegment name = name ∨ ∃ front, name = front ++ ['.'] ++ lastSegment name) := by
  rcases Language.mem_mul.mp member with ⟨first, inFirst, _, inOthers, rfl⟩
  rcases Language.mem_kstar.mp inOthers with ⟨pieces, rfl, dotted⟩
  rcases List.eq_nil_or_concat' pieces with rfl | ⟨earlier, last, rfl⟩
  · rw [List.flatten_nil, List.append_nil, lastSegment_of_noDot (LexicalRule.dot_notMem_segment inFirst)]
    exact ⟨inFirst, Or.inl rfl⟩
  · rcases Language.mem_mul.mp (dotted last (List.mem_append_right _ List.mem_cons_self)) with
      ⟨_, rfl, segment, inSegment, rfl⟩
    have parts : first ++ (earlier ++ [['.'] ++ segment]).flatten = first ++ earlier.flatten ++ ['.'] ++ segment := by
      simp only [List.flatten_append, List.flatten_cons, List.flatten_nil, List.append_nil, List.append_assoc]
    rw [parts, lastSegment_append_dot (LexicalRule.dot_notMem_segment inSegment)]
    exact ⟨inSegment, Or.inr ⟨_, rfl⟩⟩

end AliasDeclaration

/-! ## The values of tokens -/

namespace Token.IsRead

variable {token : Token}

/-- The value of a name token is a name, and none of the reserved words. -/
theorem isName (read : token.IsRead) (kind : token.kind = .name) : IsName token.value := by
  rcases read with ⟨occurrence, denotes⟩
  have value := denotes.value
  have word := denotes.word
  rw [kind] at value word
  have isValue : token.value.toList = DottedName.value occurrence.lexeme.text := value
  have inLanguage := (word.mp trivial).accepted
  have written : '.' ∉ token.value.toList -> occurrence.lexeme.text = token.value.toList := by
    intro noDot
    rw [isValue] at noDot ⊢
    exact (LexicalRule.value_eq_self inLanguage noDot).symm
  exact {
    segments := isValue ▸ LexicalRule.value_mem_plainName inLanguage
    notKey := by
      intro key reserved
      have noDot : '.' ∉ key.word := by cases key <;> decide
      have isKey := (denotes.attributeKey key).mpr ((written (reserved ▸ noDot)).trans reserved)
      cases kind.symm.trans isKey
    notAs := by
      intro reserved
      have noDot : '.' ∉ "as".toList := by decide
      have isAs := denotes.asWord.mpr ((written (reserved ▸ noDot)).trans reserved)
      cases kind.symm.trans isAs }

/-- A quoted value has no quote in it. -/
theorem quote_notMem (read : token.IsRead) (kind : token.kind = .quoted) : '"' ∉ token.value.toList := by
  rcases read with ⟨occurrence, denotes⟩
  have value := denotes.value
  rw [kind] at value
  exact value.2

end Token.IsRead

end TemplateFile
