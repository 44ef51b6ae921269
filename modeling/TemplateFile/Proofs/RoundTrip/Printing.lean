import TemplateFile.Proofs.Lexical.LongestName
import TemplateFile.Proofs.RoundTrip.Outline
import Mathlib.Algebra.Order.Kleene

namespace TemplateFile

open Computability

/-!
# A plain way to write an outline

Every outline that can be written is written by a printer: one blank where
something must stand between two words, and a line for each part.  So the
language of an outline is never empty.
-/

/-! ## Names -/

theorem not_isBlank_of_mem_segment {segment : List Char} (member : segment ∈ LexicalRule.segment) {character : Char}
    (inSegment : character ∈ segment) : Text.isBlank character = false := by
  rcases LexicalRule.mem_segment_iff.mp member with ⟨first, others, rfl, start, parts⟩
  rcases List.mem_cons.mp inSegment with rfl | later
  · exact LexicalRule.not_isBlank_of_isStart start
  · by_contra blank
    have notPart := LexicalRule.not_isPart_of_isBlank (Bool.eq_true_of_not_eq_false blank)
    rw [parts character later] at notPart
    cases notPart

theorem not_isBlank_of_mem_plainName {name : List Char} (member : name ∈ plainName) {character : Char}
    (inName : character ∈ name) : Text.isBlank character = false := by
  rcases Language.mem_mul.mp member with ⟨first, inFirst, _, inOthers, rfl⟩
  rcases Language.mem_kstar.mp inOthers with ⟨pieces, rfl, all⟩
  rcases List.mem_append.mp inName with here | later
  · exact not_isBlank_of_mem_segment inFirst here
  · rcases List.mem_flatten.mp later with ⟨piece, listed, inPiece⟩
    rcases Language.mem_mul.mp (all piece listed) with ⟨_, rfl, segment, inSegment, rfl⟩
    rcases List.mem_cons.mp inPiece with rfl | inside
    · decide
    · exact not_isBlank_of_mem_segment inSegment inside

/-- A plain name is a name, and it has no blanks to lose. -/
theorem IsName.mem_name {name : String} (isName : IsName name) : name.toList ∈ Written.name name := by
  have plainDot : ({['.']} * LexicalRule.segment : Language Char) ≤ LexicalRule.dottedSegment := by
    intro text member
    rcases Language.mem_mul.mp member with ⟨_, rfl, segment, inSegment, rfl⟩
    refine LexicalRule.mem_dottedSegment_iff.mpr ⟨[], [], segment, rfl, ?_, ?_, inSegment⟩
    · exact fun _ impossible => by cases impossible
    · exact fun _ impossible => by cases impossible
  have inLanguage : name.toList ∈ LexicalRule.name.language := mul_le_mul' le_rfl (kstar_mono plainDot) isName.segments
  refine ⟨inLanguage, List.filter_eq_self.mpr ?_⟩
  intro character inName
  rw [not_isBlank_of_mem_plainName isName.segments inName]
  rfl

/-! ## The printer -/

namespace Printed

def packageTag (package : String) : List Char :=
  HeaderTag.package.keyword ++ ([' '] ++ (package.toList ++ ['\x7d']))

def attributePair (entry : Attribute) : List Char :=
  entry.name.toList ++ (['='] ++ ('"' :: entry.value.toList ++ ['"']))

def namespaceTag (outline : NamespaceOutline) : List Char :=
  HeaderTag.namespaceTag.keyword ++ ([' '] ++ (outline.name.toList ++
    (outline.attributes.flatMap (fun entry => [' '] ++ attributePair entry) ++ ['\x7d'])))

def localName (name : String) : List Char := [' '] ++ ("as".toList ++ ([' '] ++ name.toList))

def aliasTag (outline : AliasOutline) : List Char :=
  HeaderTag.aliasTag.keyword ++ ([' '] ++ (outline.target.toList ++ (outline.localName.elim [] localName ++ ['\x7d'])))

def templateTags (outline : TemplateOutline) : List Char :=
  outline.kind.keyword ++ ([' '] ++ (outline.commandText.toList ++
    (['\x7d'] ++ (outline.body.toList ++ outline.kind.closer))))

def template (outline : TemplateOutline) : List Char :=
  outline.doc.elim [] (fun doc => doc.toList ++ ['\n']) ++ templateTags outline

def file (outline : Outline) : List Char :=
  outline.delegatePackage.elim [] (fun package => packageTag package ++ ['\n']) ++
    (outline.namespaceTag.elim [] (fun tag => namespaceTag tag ++ ['\n']) ++
      (outline.aliases.flatMap (fun entry => aliasTag entry ++ ['\n']) ++
        outline.templates.flatMap fun entry => template entry ++ ['\n']))

/-! ## What is printed is written -/

theorem nil_mem_gap : [] ∈ Written.gap := Language.nil_mem_kstar _

/-- A part that may be empty may be left out. -/
theorem mem_mul_of_nil {first second : Language Char} {text : List Char} (empty : [] ∈ first)
    (member : text ∈ second) : text ∈ first * second := Language.append_mem_mul empty member

/-- A blank or a comment is a gap. -/
theorem mem_gap_of_piece {text : List Char}
    (piece : text ∈ LexicalRule.oneOf Text.isBlank + (Written.lineComment + Written.blockComment)) :
    text ∈ Written.gap := by
  have once : LexicalRule.oneOf Text.isBlank + (Written.lineComment + Written.blockComment) ≤ Written.gap := le_kstar
  exact once piece

theorem blank_mem_gap {character : Char} (isBlank : Text.isBlank character = true) : [character] ∈ Written.gap :=
  mem_gap_of_piece (Or.inl ⟨character, isBlank, rfl⟩)

theorem space_mem_gap : [' '] ∈ Written.gap := blank_mem_gap (by decide)

theorem newline_mem_gap : ['\n'] ∈ Written.gap := blank_mem_gap (by decide)

/-- A part on a line of its own. -/
theorem line_mem {language : Language Char} {text : List Char} (member : text ∈ language) :
    text ++ ['\n'] ∈ language * Written.gap := Language.append_mem_mul member newline_mem_gap

theorem space_mem_separator : [' '] ∈ Written.separator := ⟨space_mem_gap, List.cons_ne_nil _ _⟩

section

variable {Part : Type} {texts : Part -> Language Char} {print : Part -> List Char}

theorem mem_optional {part : Option Part} (each : forall inside, part = some inside -> print inside ∈ texts inside) :
    part.elim [] print ∈ Written.optional texts part := by
  cases part with
  | none => exact Language.nil_mem_one
  | some part => exact each part rfl

theorem mem_all {parts : List Part} (each : forall part, part ∈ parts -> print part ∈ texts part) :
    parts.flatMap print ∈ Written.all texts parts := by
  induction parts with
  | nil => exact Language.nil_mem_one
  | cons part parts inductionHypothesis =>
      exact Language.append_mem_mul (each part List.mem_cons_self)
        (inductionHypothesis fun other listed => each other (List.mem_cons_of_mem part listed))

end

theorem packageTag_mem {package : String} (isName : IsName package) :
    packageTag package ∈ Written.packageTag package :=
  Language.append_mem_mul rfl (Language.append_mem_mul space_mem_gap (Language.append_mem_mul isName.mem_name
    (mem_mul_of_nil nil_mem_gap rfl)))

theorem attributePair_mem (entry : Attribute) : attributePair entry ∈ Written.attributePair entry :=
  Language.append_mem_mul rfl (mem_mul_of_nil nil_mem_gap (Language.append_mem_mul rfl
    (mem_mul_of_nil nil_mem_gap rfl)))

theorem attributePairs_mem (attributes : List Attribute) :
    attributes.flatMap (fun entry => [' '] ++ attributePair entry) ∈ Written.attributePairs attributes := by
  cases attributes with
  | nil => exact Language.nil_mem_one
  | cons entry others =>
      have inOthers : others.flatMap (fun entry => [' '] ++ attributePair entry) ∈
          Written.all (fun entry => Written.gap * Written.attributePair entry) others :=
        mem_all fun entry _ => Language.append_mem_mul space_mem_gap (attributePair_mem entry)
      rw [List.flatMap_cons, List.append_assoc]
      exact Language.append_mem_mul space_mem_separator (Language.append_mem_mul (attributePair_mem entry) inOthers)

theorem namespaceTag_mem {outline : NamespaceOutline} (writable : outline.Writable) :
    namespaceTag outline ∈ Written.namespaceTag outline :=
  Language.append_mem_mul rfl (Language.append_mem_mul space_mem_gap (Language.append_mem_mul writable.name.mem_name
    (Language.append_mem_mul (attributePairs_mem outline.attributes) (mem_mul_of_nil nil_mem_gap rfl))))

theorem localName_mem {name : String} (isName : IsName name) : localName name ∈ Written.localName name :=
  Language.append_mem_mul space_mem_separator (Language.append_mem_mul rfl
    (Language.append_mem_mul space_mem_separator isName.mem_name))

theorem aliasTag_mem {outline : AliasOutline} (writable : outline.Writable) :
    aliasTag outline ∈ Written.aliasTag outline := by
  have named : outline.localName.elim [] localName ∈ Written.optional Written.localName outline.localName :=
    mem_optional fun name isLocal => localName_mem (writable.localName name isLocal)
  exact Language.append_mem_mul rfl (Language.append_mem_mul space_mem_gap
    (Language.append_mem_mul writable.target.mem_name (Language.append_mem_mul named
      (mem_mul_of_nil nil_mem_gap rfl))))

theorem templateTags_mem (outline : TemplateOutline) : templateTags outline ∈ Written.templateTags outline := by
  have blank : [' '] ∈ LexicalRule.someOf Text.isBlank :=
    LexicalRule.mem_someOf_iff.mpr ⟨List.cons_ne_nil _ _, fun character member => by
      rw [List.mem_singleton.mp member]
      decide⟩
  have nothing : [] ∈ LexicalRule.anyOf Text.isBlank := Language.nil_mem_kstar _
  exact Language.append_mem_mul rfl (Language.append_mem_mul blank (Language.append_mem_mul rfl
    (mem_mul_of_nil nothing (Language.append_mem_mul rfl (Language.append_mem_mul rfl rfl)))))

theorem template_mem (outline : TemplateOutline) : template outline ∈ Written.template outline := by
  have documented : outline.doc.elim [] (fun doc => doc.toList ++ ['\n']) ∈
      Written.optional (fun doc => {doc.toList} * Written.gap) outline.doc :=
    mem_optional fun doc _ => line_mem rfl
  exact Language.append_mem_mul documented (templateTags_mem outline)

/-- What the printer writes is one of the texts of the outline. -/
theorem file_mem {outline : Outline} (writable : outline.Writable) : file outline ∈ Written.file outline := by
  have package := mem_optional fun name isName => line_mem (packageTag_mem (writable.delegatePackage name isName))
  have namespaceTag := mem_optional fun tag isTag => line_mem (namespaceTag_mem (writable.namespaceTag tag isTag))
  have aliases := mem_all fun entry listed => line_mem (aliasTag_mem (writable.aliases entry listed))
  have templates : outline.templates.flatMap (fun entry => template entry ++ ['\n']) ∈
      Written.all (fun entry => Written.template entry * Written.gap) outline.templates :=
    mem_all fun entry _ => line_mem (template_mem entry)
  exact mem_mul_of_nil nil_mem_gap (Language.append_mem_mul package
    (Language.append_mem_mul namespaceTag (Language.append_mem_mul aliases templates)))

end Printed

end TemplateFile
