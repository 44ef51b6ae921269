import TemplateFile.Proofs.Lexical.TemplateCuts
import TemplateFile.Proofs.Parsing.Provenance

namespace TemplateFile

/-!
# Templates without a name

An open tag needs a blank after its keyword and one more character before its
closing brace.  That character may be a blank as well, so a tag with nothing but
blanks in it opens a template as soon as there are two of them.  The command text
of such a template is empty, and so is its name.

Below two blanks no rule accepts the brace at the front of the tag.  It becomes
an unexpected token, and no sentence has one of these.
-/

/-- An open tag with nothing but blanks in it stands at the front of a text. -/
structure BlankTag (kind : TemplateKind) (blanks text rest : List Char) : Prop where
  parts : text = kind.openTag blanks ++ rest
  blank : forall character, character ∈ blanks -> Text.isBlank character = true

/-! ## Words among blanks -/

namespace Text

variable {text : List Char}

theorem firstWord_eq_nil_iff : firstWord text = [] ↔ forall character, character ∈ text -> isBlank character = true := by
  constructor
  · intro none
    have empty : trimStart text = [] := by
      have stops : Stops isBlank (text.dropWhile isBlank) := stops_dropWhile text
      rw [firstWord, trimStart] at none
      rw [trimStart]
      cases rest : text.dropWhile isBlank with
      | nil => rfl
      | cons first others =>
          rw [rest] at none stops
          rw [List.takeWhile_cons_of_pos (by rw [stops_cons_iff.mp stops]; rfl)] at none
          cases none
    exact List.dropWhile_eq_nil_iff.mp empty
  · intro all
    rw [firstWord, trimStart, List.dropWhile_eq_nil_iff.mpr all, List.takeWhile_nil]

/-- Trimming keeps every character that is not blank. -/
theorem mem_trim {character : Char} (member : character ∈ text) (notBlank : isBlank character = false) :
    character ∈ trim text := by
  have dropped : forall {whole : List Char}, character ∈ whole -> character ∈ whole.dropWhile isBlank := by
    intro whole inWhole
    rw [← List.takeWhile_append_dropWhile (p := isBlank) (l := whole)] at inWhole
    refine (List.mem_append.mp inWhole).resolve_left fun early => ?_
    rw [List.mem_takeWhile_imp early] at notBlank
    cases notBlank
  rw [trim, trimEnd, List.mem_reverse]
  exact dropped (List.mem_reverse.mpr (dropped member))

theorem trim_subset : trim text ⊆ text := by
  intro character member
  rw [trim, trimEnd, List.mem_reverse] at member
  exact List.dropWhile_subset _ (List.mem_reverse.mp (List.dropWhile_subset _ member))

/-- A text has no words exactly if it is blank. -/
theorem firstWord_trim_eq_nil_iff :
    firstWord (trim text) = [] ↔ forall character, character ∈ text -> isBlank character = true := by
  rw [firstWord_eq_nil_iff]
  constructor
  · intro all character member
    by_contra notBlank
    exact notBlank (all character (mem_trim member (Bool.eq_false_iff.mpr notBlank)))
  · exact fun all character member => all character (trim_subset member)

end Text

/-! ## The lexeme at a blank tag -/

/-- At the keyword of a template only the rule for its open tag can apply. -/
theorem LexicalRule.Matches.eq_openTag {rule : LexicalRule} {kind : TemplateKind} {text : List Char}
    (matched : rule.Matches text) (begins : kind.keyword <+: text) : rule = openTag kind := by
  have braced : rule.lead = .sign '\x7b' := by
    rcases begins with ⟨rest, rfl⟩
    cases kind
    all_goals exact lead_of_matches matched
  have comparable := List.prefix_or_prefix_of_prefix (opening_prefix_of_matches matched) begins
  have only : forall other, other ∈ LexicalRule.braced ->
      other.opening <+: kind.keyword ∨ kind.keyword <+: other.opening -> other = openTag kind := by
    cases kind
    all_goals decide
  exact only rule (mem_braced_of_lead braced) comparable

namespace BlankTag

variable {kind : TemplateKind} {blanks text rest after : List Char} {lexeme : Lexeme}

theorem brace_notMem (tag : BlankTag kind blanks text rest) : '\x7d' ∉ blanks := by
  intro member
  have isBlank := tag.blank _ member
  rw [LexicalRule.isBlank_brace] at isBlank
  cases isBlank

/-- With two blanks the tag is an open tag like any other. -/
theorem mem_openTag (tag : BlankTag kind blanks text rest) (two : 2 ≤ blanks.length) :
    kind.openTag blanks ∈ (LexicalRule.openTag kind).language := by
  have free := tag.brace_notMem
  rcases List.exists_cons_of_length_pos (Nat.lt_of_succ_lt two) with ⟨first, later, rfl⟩
  rcases List.exists_cons_of_length_pos (Nat.lt_of_succ_lt_succ two) with ⟨second, others, rfl⟩
  rw [List.mem_cons, List.mem_cons, not_or, not_or] at free
  exact LexicalRule.mem_openTag_iff.mpr
    ⟨first, second, others, rfl, tag.blank first List.mem_cons_self, fun same => free.2.1 same.symm, free.2.2⟩

/-- Below two blanks no rule accepts the tag. -/
theorem not_matches (tag : BlankTag kind blanks text rest) (few : blanks.length < 2) (rule : LexicalRule) :
    ¬ rule.Matches text := by
  intro matched
  have parts : text = kind.keyword ++ (blanks ++ '\x7d' :: rest) := by
    rw [tag.parts, TemplateKind.openTag]
    simp only [List.append_assoc, List.singleton_append]
  cases matched.eq_openTag ⟨_, parts.symm⟩
  rcases matched with ⟨found, member, begins⟩
  rcases LexicalRule.mem_openTag_iff.mp member with ⟨blank, second, inside, rfl, isBlank, different, _⟩
  rw [parts, List.append_assoc, List.prefix_append_right_inj] at begins
  cases blanks with
  | nil =>
      rw [(List.cons_prefix_cons.mp begins).1, LexicalRule.isBlank_brace] at isBlank
      cases isBlank
  | cons first others =>
      have single : others = [] := List.length_eq_zero_iff.mp (Nat.lt_one_iff.mp (Nat.lt_of_succ_lt_succ few))
      subst single
      exact different (List.cons_prefix_cons.mp (List.cons_prefix_cons.mp begins).2).1

theorem exists_eq_cons (tag : BlankTag kind blanks text rest) : ∃ tail, text = '\x7b' :: tail := by
  rw [tag.parts]
  cases kind
  all_goals exact ⟨_, rfl⟩

/-- What the lexeme at a blank tag is. -/
theorem lexeme_kind (tag : BlankTag kind blanks text rest) (heads : Heads text lexeme after) :
    lexeme.kind = .token (if 2 ≤ blanks.length ∧ kind.closer <:+: rest then .template kind else .unexpected) := by
  by_cases two : 2 ≤ blanks.length
  · have taken := LexicalRule.takes_openTag (tag.mem_openTag two) rest
    rw [← tag.parts] at taken
    cases closed : Text.cutAt? kind.closer rest with
    | some around =>
        have closes := Text.cutAt?_eq_some_iff.mp closed
        have found : kind.closer <:+: rest := ⟨around.1, around.2, closes.parts.symm⟩
        have whole : Heads text ⟨.token (.template kind), kind.openTag blanks ++ around.1 ++ kind.closer⟩ around.2 :=
          .closed taken rfl tag.parts closes
        rw [if_pos ⟨two, found⟩, (heads.unique whole).1]
    | none =>
        have absent := Text.cutAt?_eq_none_iff.mp closed
        have broken : Heads text ⟨.token .unexpected, text⟩ [] := .unclosed taken rfl tag.parts absent
        rw [if_neg fun both => absent both.2, (heads.unique broken).1]
  · rw [if_neg fun both => two both.1]
    rcases tag.exists_eq_cons with ⟨tail, rfl⟩
    rw [(heads.unique (.unknown (tag.not_matches (Nat.lt_of_not_le two)))).1]

end BlankTag

/-! ## Files with unexpected tokens -/

namespace Sentence

open Computability

variable {kind : TokenKind} {language other : Language TokenKind}

/-- No sequence of the language has a given kind. -/
def Avoids (kind : TokenKind) (language : Language TokenKind) : Prop := forall kinds, kinds ∈ language -> kind ∉ kinds

theorem Avoids.mul (left : Avoids kind language) (right : Avoids kind other) : Avoids kind (language * other) := by
  intro kinds member among
  rcases Language.mem_mul.mp member with ⟨front, inLeft, back, inRight, rfl⟩
  exact (List.mem_append.mp among).elim (left front inLeft) (right back inRight)

theorem Avoids.kstar (avoids : Avoids kind language) : Avoids kind language∗ := by
  intro kinds member among
  rcases Language.mem_kstar.mp member with ⟨pieces, rfl, all⟩
  rcases List.mem_flatten.mp among with ⟨piece, listed, inPiece⟩
  exact avoids piece (all piece listed) inPiece

theorem Avoids.optional (avoids : Avoids kind language) : Avoids kind (optional language) := by
  rintro kinds (rfl | member)
  · exact List.not_mem_nil
  · exact avoids kinds member

theorem Avoids.singleton {kinds : List TokenKind} (absent : kind ∉ kinds) : Avoids kind {kinds} := by
  rintro _ rfl
  exact absent

/-- No sentence has an unexpected token. -/
theorem avoids_unexpected_file : Avoids .unexpected file := by
  have attributePairs : Avoids .unexpected attributePair := by
    rintro _ ⟨key, rfl⟩
    simp only [List.mem_cons, List.not_mem_nil, reduceCtorEq, or_self, not_false_eq_true]
  have templates : Avoids .unexpected template := by
    rintro _ ⟨kind, rfl⟩
    simp only [List.mem_singleton, reduceCtorEq, not_false_eq_true]
  have package : Avoids .unexpected packageTag := .singleton (by decide)
  have namespaces : Avoids .unexpected namespaceTag :=
    .mul (.singleton (by decide)) (attributePairs.kstar.mul (.singleton (by decide)))
  have aliases : Avoids .unexpected aliasTag :=
    .mul (.singleton (by decide)) (.mul (.optional (.singleton (by decide))) (.singleton (by decide)))
  exact package.optional.mul (namespaces.optional.mul
    (aliases.kstar.mul (templates.kstar.mul (.singleton (by decide)))))

end Sentence

/-- A file with an unexpected token has no tree, and its parse has failed. -/
theorem Session.parseFile_of_unexpected (session : Session) (script : BodyScript) (kind : FileKind)
    {path source : String} {token : Token} (member : token ∈ (TokenStream.ofSource path source).pending)
    (unexpected : token.kind = .unexpected) :
    (session.parseFile script kind path source).1.file = none ∧
      (session.parseFile script kind path source).1.failed = true := by
  rcases session.exists_course script kind path source with ⟨before, offender, extent, course⟩
  cases extent with
  | whole accepted =>
      refine absurd ?_ (Sentence.avoids_unexpected_file _ accepted)
      rw [← unexpected]
      exact List.mem_map_of_mem (List.mem_append_left _ member)
  | upTo misplaced =>
      refine ⟨course.noTree rfl, ?_⟩
      rw [course.failed, course.diagnostics, Bool.not_eq_true', List.isEmpty_eq_false_iff]
      exact List.append_ne_nil_of_right_ne_nil _ (List.cons_ne_nil _ _)

/-! ## The names of the templates -/

/-- The lexemes of a text. -/
def Occurrence.inSource (source : String) : List Occurrence := allOf [] (Scanner.ofText source.toList).lexemes

/-- A template has no name exactly if its open tag is blank, with two blanks or more. -/
theorem TemplateForm.Declares.name_eq_empty_iff {form : TemplateForm} {script : BodyScript} {path : String}
    {namespaceName : Option String} {template : Template} {occurrence : Occurrence}
    (declares : form.Declares script path namespaceName template) (denotes : Denotes occurrence form.whole.token) :
    template.name = "" ↔
      ∃ blanks rest, 2 ≤ blanks.length ∧ BlankTag template.kind blanks occurrence.lexeme.text rest := by
  have value := denotes.heads_of_template form.whole.hasKind
  rcases value.2.exists_cutsAgree with ⟨inside, body, agree⟩
  have name : template.name = "" ↔ forall character, character ∈ inside -> Text.isBlank character = true := by
    rw [Template.name, Template.nameIn, declares.commandText, value.1, agree.command, String.toList_ofList,
      ← String.toList_inj, String.toList_ofList, String.toList_empty, Text.firstWord_trim_eq_nil_iff]
  rw [name, declares.sameKind]
  constructor
  · intro blank
    rcases agree.spaced with ⟨first, second, others, rfl, _⟩
    exact ⟨_, body ++ form.kind.closer, by simp only [List.length_cons]; omega,
      by rw [agree.parts, List.append_assoc], blank⟩
  · rintro ⟨blanks, rest, _, tag⟩
    -- Both tags end at the first closing brace.
    have tagEnd := agree.tagEnd
    have free : '\x7d' ∉ form.kind.keyword ++ blanks := fun member =>
      (List.mem_append.mp member).elim form.kind.brace_notMem_keyword tag.brace_notMem
    rw [tag.parts, TemplateKind.openTag, TemplateText.cutAt?_openTag free] at tagEnd
    rw [← List.append_cancel_left (congrArg Prod.fst (Option.some.inj tagEnd))]
    exact tag.blank

/-- What becomes of an open tag with nothing but blanks in it.  With two blanks
or more, and a closing tag after it, it opens a template; otherwise it begins an
unexpected token and the parse fails.  The templates that are opened in this way
are those without a name. -/
theorem Session.parseFile_blankTags (session : Session) (script : BodyScript) (kind : FileKind)
    (path source : String) :
    (forall occurrence, occurrence ∈ Occurrence.inSource source -> forall template blanks rest,
      BlankTag template blanks (occurrence.lexeme.text ++ occurrence.after) rest ->
        if 2 ≤ blanks.length ∧ template.closer <:+: rest then
          occurrence.lexeme.kind = .token (.template template)
        else
          occurrence.lexeme.kind = .token .unexpected ∧
            (session.parseFile script kind path source).1.file = none ∧
            (session.parseFile script kind path source).1.failed = true) ∧
      forall file, (session.parseFile script kind path source).1.file = some file ->
        List.Forall₂
          (fun occurrence template => template.name = "" ↔
            ∃ blanks rest, 2 ≤ blanks.length ∧ BlankTag template.kind blanks occurrence.lexeme.text rest)
          ((Occurrence.inSource source).filter Occurrence.isTemplate) file.templates := by
  have tokens := TokenStream.denotes_pending path source
  constructor
  · intro occurrence listed template blanks rest tag
    have isKind := tag.lexeme_kind ((Lexing.ofText source.toList).heads_of_mem listed)
    split
    · next opens => rwa [if_pos opens] at isKind
    · next opensNot =>
        rw [if_neg opensNot] at isKind
        refine ⟨isKind, ?_⟩
        have isToken : occurrence.isToken = true := by rw [Occurrence.isToken, isKind]
        rcases exists_of_forall₂ tokens.flip (List.mem_filter.mpr ⟨listed, isToken⟩) with ⟨token, member, denotes⟩
        have sameKind := denotes.kind
        rw [isKind] at sameKind
        exact session.parseFile_of_unexpected script kind member (LexemeKind.token.inj sameKind).symm
  · intro file tree
    rcases exists_form_of_file tree with ⟨form, same, determines⟩
    rw [← same] at tokens
    apply (determines.forall₂_templates (fun _ _ denotes => denotes) tokens).imp
    rintro occurrence template ⟨templateForm, denotes, _, declares⟩
    exact declares.name_eq_empty_iff denotes

/-- Two blanks are enough to leave a template without a name. -/
theorem Session.parseFile_unnamed :
    ¬ forall source file,
      (Session.start.parseFile (.always BodyParser.raw) .source "a.soy" source).1.file = some file ->
        forall template, template ∈ file.templates -> template.name ≠ "" := by
  intro named
  have evaluated : (Session.start.parseFile (.always BodyParser.raw) .source "a.soy"
      "\x7btemplate  \x7d\x7b/template\x7d").1.file.map (fun file => file.templates.map Template.name) =
        some [""] := by
    decide +kernel
  rcases Option.map_eq_some_iff.mp evaluated with ⟨file, tree, names⟩
  have listed : "" ∈ file.templates.map Template.name := by
    rw [names]
    exact List.mem_singleton_self ""
  rcases List.mem_map.mp listed with ⟨template, member, empty⟩
  exact named _ file tree template member empty

end TemplateFile
