import TemplateFile.Proofs.RoundTrip.Pieces

namespace TemplateFile

open Computability

/-!
# Reading the parts of an outline

Every part of an outline reads as the tokens of a form that says the same.  The
parts of a part are read one after the other; only a name has to be told from
what follows it.
-/

/-! ## What a form says -/

namespace NamespaceForm

def outline (form : NamespaceForm) : NamespaceOutline :=
  ⟨form.name.token.value, form.attributes.map AttributeForm.toAttribute⟩

end NamespaceForm

namespace AliasForm

def outline (form : AliasForm) : AliasOutline :=
  ⟨form.target.token.value, form.localName.map fun localName => localName.name.token.value⟩

end AliasForm

namespace TemplateForm

def outline (form : TemplateForm) : TemplateOutline where
  kind := form.kind
  commandText := String.ofList (TemplateText.commandText form.kind form.whole.token.value.toList)
  doc := form.whole.token.doc
  body := String.ofList (TemplateText.bodyText form.whole.token.value.toList)

end TemplateForm

namespace FileForm

def outline (form : FileForm) : Outline where
  delegatePackage := form.package.map fun tag => tag.name.token.value
  namespaceTag := form.namespaceTag.map NamespaceForm.outline
  aliases := form.aliases.map AliasForm.outline
  templates := form.templates.map TemplateForm.outline

end FileForm

/-! ## Forms of parts -/

/-- Every text of a part reads as the tokens of a form that means the part. -/
def ReadsAs {Part Form : Type} (texts : Part -> Language Char) (tokensOf : Form -> List Token)
    (meaning : Form -> Part) (part : Part) : Prop :=
  forall text, text ∈ texts part -> forall position rest,
    ∃ form, meaning form = part ∧ Reads position text rest (tokensOf form)

namespace ReadsAs

variable {Part Form : Type} {texts : Part -> Language Char} {tokensOf : Form -> List Token} {meaning : Form -> Part}

theorem append_gap {part : Part} (reads : ReadsAs texts tokensOf meaning part) :
    ReadsAs (fun part => texts part * Written.gap) tokensOf meaning part := by
  intro text member position rest
  rcases Language.mem_mul.mp member with ⟨text, inPart, gap, inGap, rfl⟩
  rcases reads text inPart position (gap ++ rest) with ⟨form, means, here⟩
  have both := here.append (reads_gap inGap)
  rw [List.append_nil] at both
  exact ⟨form, means, both⟩

theorem gap_append {part : Part} (reads : ReadsAs texts tokensOf meaning part) :
    ReadsAs (fun part => Written.gap * texts part) tokensOf meaning part := by
  intro text member position rest
  rcases Language.mem_mul.mp member with ⟨gap, inGap, text, inPart, rfl⟩
  rcases reads text inPart (position.advance gap) rest with ⟨form, means, here⟩
  exact ⟨form, means, (reads_gap inGap).append here⟩

theorem optional {part : Option Part}
    (reads : forall inside, part = some inside -> ReadsAs texts tokensOf meaning inside) :
    ReadsAs (Written.optional texts) (fun form => form.toList.flatMap tokensOf) (Option.map meaning) part := by
  intro text member position rest
  cases part with
  | none =>
      cases (Language.mem_one text).mp member
      exact ⟨none, rfl, reads_nil⟩
  | some part =>
      rcases reads part rfl text member position rest with ⟨form, means, here⟩
      have tokens : (some form).toList.flatMap tokensOf = tokensOf form := List.flatMap_singleton tokensOf form
      refine ⟨some form, congrArg some means, ?_⟩
      simp only [tokens]
      exact here

theorem all {parts : List Part} (reads : forall part, part ∈ parts -> ReadsAs texts tokensOf meaning part) :
    ReadsAs (Written.all texts) (fun forms => forms.flatMap tokensOf) (List.map meaning) parts := by
  induction parts with
  | nil =>
      intro text member position rest
      cases (Language.mem_one text).mp member
      exact ⟨[], rfl, reads_nil⟩
  | cons part parts inductionHypothesis =>
      intro text member position rest
      rcases Language.mem_mul.mp member with ⟨first, inPart, later, inParts, rfl⟩
      rcases reads part List.mem_cons_self first inPart position (later ++ rest) with ⟨form, means, here⟩
      rcases inductionHypothesis (fun other listed => reads other (List.mem_cons_of_mem part listed)) later inParts
        (position.advance first) rest with ⟨forms, meansLater, there⟩
      have meansBoth : (form :: forms).map meaning = part :: parts := by
        rw [List.map_cons, means, meansLater]
      exact ⟨form :: forms, meansBoth, here.append there⟩

end ReadsAs

/-! ## The parts -/

section

variable {position : Position} {text rest : List Char}

/-- What is left of a tag after its last name ends the name. -/
theorem endsName_gap_closeCurly {gap : List Char} (inGap : gap ∈ Written.gap) :
    LexicalRule.EndsName (gap ++ ['\x7d'] ++ rest) := by
  rw [List.append_assoc]
  exact endsName_gap inGap (endsName_cons (by decide) (by decide) (by decide))

theorem readsAs_packageTag {package : String} (isName : IsName package) :
    ReadsAs Written.packageTag PackageForm.tokens (fun form => form.name.token.value) package := by
  intro text member position rest
  rcases Language.mem_mul.mp member with ⟨_, rfl, _, afterKeyword, rfl⟩
  rcases Language.mem_mul.mp afterKeyword with ⟨gap, inGap, _, afterGap, rfl⟩
  rcases Language.mem_mul.mp afterGap with ⟨name, inName, _, afterName, rfl⟩
  rcases Language.mem_mul.mp afterName with ⟨last, inLast, _, rfl, rfl⟩
  have reads : Reads position _ rest _ := (reads_keyword .package).append ((reads_gap inGap).append
    ((reads_name isName inName (endsName_gap_closeCurly inLast)).append
      ((reads_gap inLast).append reads_closeCurly)))
  exact ⟨⟨tokenAt _ _ _ _, tokenAt _ _ _ _, tokenAt _ _ _ _⟩, value_tokenAt_name inName, reads⟩

/-- A key, an equals sign and a quoted value. -/
theorem readsAs_attributePair {entry : Attribute} (isKey : ∃ key : AttributeKey, entry.name = String.ofList key.word)
    (free : '"' ∉ entry.value.toList) :
    ReadsAs Written.attributePair AttributeForm.tokens AttributeForm.toAttribute entry := by
  rcases entry with ⟨name, value⟩
  rcases isKey with ⟨key, rfl⟩
  intro text member position rest
  rcases Language.mem_mul.mp member with ⟨_, rfl, _, afterKey, rfl⟩
  rcases Language.mem_mul.mp afterKey with ⟨gap, inGap, _, afterGap, rfl⟩
  rcases Language.mem_mul.mp afterGap with ⟨_, rfl, _, afterEquals, rfl⟩
  rcases Language.mem_mul.mp afterEquals with ⟨last, inLast, _, rfl, rfl⟩
  have ends : LexicalRule.EndsName (gap ++ (['='] ++ (last ++ ('"' :: value.toList ++ ['"']))) ++ rest) := by
    rw [List.append_assoc]
    exact endsName_gap inGap (endsName_cons (by decide) (by decide) (by decide))
  have reads : Reads position _ rest _ := (reads_attributeKey key ends).append ((reads_gap inGap).append
    (reads_equals.append ((reads_gap inLast).append (reads_quoted free))))
  rw [String.toList_ofList]
  refine ⟨⟨key, tokenAt _ _ _ _, tokenAt _ _ _ _, tokenAt _ _ _ _⟩, ?_, reads⟩
  rw [AttributeForm.toAttribute, value_tokenAt_quoted, String.ofList_toList]
  rfl

theorem readsAs_attributePairs {attributes : List Attribute}
    (reads : forall entry, entry ∈ attributes ->
      ReadsAs Written.attributePair AttributeForm.tokens AttributeForm.toAttribute entry) :
    ReadsAs Written.attributePairs (fun forms => forms.flatMap AttributeForm.tokens)
      (List.map AttributeForm.toAttribute) attributes := by
  cases attributes with
  | nil => exact ReadsAs.all reads
  | cons entry others =>
      intro text member position rest
      rcases Language.mem_mul.mp member with ⟨separator, inSeparator, _, afterSeparator, rfl⟩
      rcases Language.mem_mul.mp afterSeparator with ⟨first, inFirst, later, inOthers, rfl⟩
      have readsOthers := ReadsAs.all fun other listed => (reads other (List.mem_cons_of_mem entry listed)).gap_append
      rcases reads entry List.mem_cons_self first inFirst (position.advance separator) (later ++ rest) with
        ⟨form, means, here⟩
      rcases readsOthers later inOthers ((position.advance separator).advance first) rest with
        ⟨forms, meansLater, there⟩
      have meansBoth : (form :: forms).map AttributeForm.toAttribute = entry :: others := by
        rw [List.map_cons, means, meansLater]
      exact ⟨form :: forms, meansBoth, (reads_gap inSeparator.1).append (here.append there)⟩

/-- Attributes end the name before them, and so does their absence. -/
theorem endsName_attributePairs {attributes : List Attribute}
    (areKeys : forall entry, entry ∈ attributes -> ∃ key : AttributeKey, entry.name = String.ofList key.word)
    (member : text ∈ Written.attributePairs attributes) (ends : LexicalRule.EndsName rest) :
    LexicalRule.EndsName (text ++ rest) := by
  cases attributes with
  | nil =>
      cases (Language.mem_one text).mp member
      exact ends
  | cons entry others =>
      rcases Language.mem_mul.mp member with ⟨separator, inSeparator, _, afterSeparator, rfl⟩
      rcases Language.mem_mul.mp afterSeparator with ⟨_, inFirst, later, _, rfl⟩
      rcases Language.mem_mul.mp inFirst with ⟨_, rfl, value, _, rfl⟩
      rcases areKeys entry List.mem_cons_self with ⟨key, isKey⟩
      rw [isKey, String.toList_ofList, List.append_assoc, List.append_assoc, List.append_assoc]
      exact endsName_separator inSeparator (noDot_word (LexicalRule.word_mem_name key))

theorem readsAs_namespaceTag {outline : NamespaceOutline} (writable : outline.Writable) :
    ReadsAs Written.namespaceTag NamespaceForm.tokens NamespaceForm.outline outline := by
  intro text member position rest
  rcases Language.mem_mul.mp member with ⟨_, rfl, _, afterKeyword, rfl⟩
  rcases Language.mem_mul.mp afterKeyword with ⟨gap, inGap, _, afterGap, rfl⟩
  rcases Language.mem_mul.mp afterGap with ⟨name, inName, _, afterName, rfl⟩
  rcases Language.mem_mul.mp afterName with ⟨pairs, inPairs, _, afterPairs, rfl⟩
  rcases Language.mem_mul.mp afterPairs with ⟨last, inLast, _, rfl, rfl⟩
  have ends : LexicalRule.EndsName (pairs ++ (last ++ ['\x7d']) ++ rest) := by
    rw [List.append_assoc]
    exact endsName_attributePairs writable.keys inPairs (endsName_gap_closeCurly inLast)
  have readsPairs := readsAs_attributePairs fun entry listed =>
    readsAs_attributePair (writable.keys entry listed) (writable.values entry listed)
  rcases readsPairs pairs inPairs _ (last ++ ['\x7d'] ++ rest) with ⟨attributes, means, here⟩
  have reads : Reads position _ rest _ := (reads_keyword .namespaceTag).append ((reads_gap inGap).append
    ((reads_name writable.name inName ends).append (here.append ((reads_gap inLast).append reads_closeCurly))))
  refine ⟨⟨tokenAt _ _ _ _, tokenAt _ _ _ _, attributes, tokenAt _ _ _ _⟩, ?_, reads⟩
  rw [NamespaceForm.outline, value_tokenAt_name inName, means]

theorem reads_localName {name : String} (isName : IsName name) (member : text ∈ Written.localName name)
    (ends : LexicalRule.EndsName rest) :
    ∃ form : LocalNameForm, form.name.token.value = name ∧ Reads position text rest form.tokens := by
  rcases Language.mem_mul.mp member with ⟨first, inFirst, _, afterFirst, rfl⟩
  rcases Language.mem_mul.mp afterFirst with ⟨_, rfl, _, afterAs, rfl⟩
  rcases Language.mem_mul.mp afterAs with ⟨second, inSecond, word, inWord, rfl⟩
  have endsAs : LexicalRule.EndsName (second ++ word ++ rest) := by
    rw [List.append_assoc]
    exact endsName_separator inSecond (noDot_word inWord.1)
  have reads : Reads position _ rest _ := (reads_gap inFirst.1).append ((reads_as endsAs).append
    ((reads_gap inSecond.1).append (reads_name isName inWord ends)))
  exact ⟨⟨tokenAt _ _ _ _, tokenAt _ _ _ _⟩, value_tokenAt_name inWord, reads⟩

theorem endsName_localName {name : String} (member : text ∈ Written.localName name) :
    LexicalRule.EndsName (text ++ rest) := by
  rcases Language.mem_mul.mp member with ⟨first, inFirst, _, afterFirst, rfl⟩
  rcases Language.mem_mul.mp afterFirst with ⟨_, rfl, later, _, rfl⟩
  rw [List.append_assoc, List.append_assoc]
  exact endsName_separator inFirst (noDot_word LexicalRule.as_mem_name)

/-- The local name of an alias, if it has one, and the closing brace. -/
theorem reads_aliasEnd {localName : Option String} (areNames : forall name, localName = some name -> IsName name)
    {gap : List Char} (member : text ∈ Written.optional Written.localName localName) (inGap : gap ∈ Written.gap) :
    LexicalRule.EndsName (text ++ (gap ++ ['\x7d']) ++ rest) ∧
      ∃ form : Option LocalNameForm, form.map (fun form => form.name.token.value) = localName ∧
        Reads position text (gap ++ ['\x7d'] ++ rest) (form.toList.flatMap LocalNameForm.tokens) := by
  cases localName with
  | none =>
      cases (Language.mem_one text).mp member
      exact ⟨endsName_gap_closeCurly inGap, none, rfl, reads_nil⟩
  | some name =>
      rcases reads_localName (areNames name rfl) member (endsName_gap_closeCurly inGap) with ⟨form, means, here⟩
      rw [List.append_assoc]
      refine ⟨endsName_localName member, some form, congrArg some means, ?_⟩
      rw [Option.toList_some, List.flatMap_singleton]
      exact here

theorem readsAs_aliasTag {outline : AliasOutline} (writable : outline.Writable) :
    ReadsAs Written.aliasTag AliasForm.tokens AliasForm.outline outline := by
  intro text member position rest
  rcases Language.mem_mul.mp member with ⟨_, rfl, _, afterKeyword, rfl⟩
  rcases Language.mem_mul.mp afterKeyword with ⟨gap, inGap, _, afterGap, rfl⟩
  rcases Language.mem_mul.mp afterGap with ⟨target, inTarget, _, afterTarget, rfl⟩
  rcases Language.mem_mul.mp afterTarget with ⟨named, inNamed, _, afterNamed, rfl⟩
  rcases Language.mem_mul.mp afterNamed with ⟨last, inLast, _, rfl, rfl⟩
  rcases reads_aliasEnd writable.localName inNamed inLast with ⟨ends, localName, means, here⟩
  have reads : Reads position _ rest _ := (reads_keyword .aliasTag).append ((reads_gap inGap).append
    ((reads_name writable.target inTarget ends).append (here.append ((reads_gap inLast).append reads_closeCurly))))
  refine ⟨⟨tokenAt _ _ _ _, tokenAt _ _ _ _, localName, tokenAt _ _ _ _⟩, ?_, reads⟩
  rw [AliasForm.outline, value_tokenAt_name inTarget, means]

namespace TemplateOutline

variable {outline : TemplateOutline} {blanks trailing : List Char}

/-- What stands in the open tag after its keyword has no closing brace. -/
theorem Writable.brace_notMem (writable : outline.Writable)
    (areBlank : forall character, character ∈ blanks -> Text.isBlank character = true)
    (areTrailing : forall character, character ∈ trailing -> Text.isBlank character = true) :
    '\x7d' ∉ blanks ++ (outline.commandText.toList ++ trailing) := by
  intro member
  rcases List.mem_append.mp member with inFront | later
  · exact absurd (areBlank _ inFront) (by decide)
  · rcases List.mem_append.mp later with inCommand | inEnd
    · exact writable.noBrace inCommand
    · exact absurd (areTrailing _ inEnd) (by decide)

theorem Writable.trim_append (writable : outline.Writable)
    (areBlank : forall character, character ∈ blanks -> Text.isBlank character = true)
    (areTrailing : forall character, character ∈ trailing -> Text.isBlank character = true) :
    Text.trim (blanks ++ (outline.commandText.toList ++ trailing)) = outline.commandText.toList := by
  have ends : Text.Stops Text.isBlank outline.commandText.toList.reverse := by
    unfold Text.Stops
    rw [List.head?_reverse]
    exact writable.ends
  exact Text.trim_append writable.notEmpty areBlank areTrailing writable.begins ends

theorem Writable.openTag_mem (writable : outline.Writable) (inBlanks : blanks ∈ LexicalRule.someOf Text.isBlank)
    (areTrailing : forall character, character ∈ trailing -> Text.isBlank character = true) :
    outline.kind.keyword ++ (blanks ++ (outline.commandText.toList ++ trailing)) ++ ['\x7d'] ∈
      (LexicalRule.openTag outline.kind).language := by
  have inside : outline.commandText.toList ++ trailing ∈ LexicalRule.someOf fun character => character != '\x7d' := by
    refine LexicalRule.mem_someOf_iff.mpr ⟨fun empty => writable.notEmpty (List.append_eq_nil_iff.mp empty).1, ?_⟩
    intro character member
    rw [bne_iff_ne]
    rintro rfl
    exact writable.brace_notMem (LexicalRule.mem_someOf_iff.mp inBlanks).2 areTrailing (List.mem_append_right _ member)
  rw [← List.append_assoc]
  exact Language.append_mem_mul (Language.append_mem_mul (Language.append_mem_mul rfl inBlanks) inside) rfl

end TemplateOutline

/-- The tags of a template read as its token, which keeps the documentation
comment that waits for it. -/
theorem tokensFrom_templateTags {outline : TemplateOutline} (writable : outline.Writable) {doc : Option String}
    (member : text ∈ Written.templateTags outline) :
    ∃ form : TemplateForm, form.outline = { outline with doc := doc } ∧
      tokensFrom position doc (text ++ rest) = form.tokens ++ tokensFrom (position.advance text) none rest := by
  rcases Language.mem_mul.mp member with ⟨_, rfl, _, afterKeyword, rfl⟩
  rcases Language.mem_mul.mp afterKeyword with ⟨blanks, inBlanks, _, afterBlanks, rfl⟩
  rcases Language.mem_mul.mp afterBlanks with ⟨_, rfl, _, afterCommand, rfl⟩
  rcases Language.mem_mul.mp afterCommand with ⟨trailing, inTrailing, _, afterTrailing, rfl⟩
  rcases Language.mem_mul.mp afterTrailing with ⟨_, rfl, _, afterOpen, rfl⟩
  rcases Language.mem_mul.mp afterOpen with ⟨_, rfl, _, rfl, rfl⟩
  have areBlank := (LexicalRule.mem_someOf_iff.mp inBlanks).2
  have areTrailing := LexicalRule.mem_anyOf_iff.mp inTrailing
  have free := writable.brace_notMem areBlank areTrailing
  have parts : outline.kind.keyword ++ (blanks ++ (outline.commandText.toList ++ (trailing ++
      (['\x7d'] ++ (outline.body.toList ++ outline.kind.closer))))) =
      outline.kind.keyword ++ (blanks ++ (outline.commandText.toList ++ trailing)) ++ ['\x7d'] ++
        (outline.body.toList ++ outline.kind.closer) := by
    simp only [List.append_assoc]
  have openFree : '\x7d' ∉ outline.kind.keyword ++ (blanks ++ (outline.commandText.toList ++ trailing)) := by
    intro member
    rcases List.mem_append.mp member with inKeyword | later
    · exact outline.kind.brace_notMem_keyword inKeyword
    · exact free later
  rw [parts]
  refine ⟨⟨outline.kind, tokenAt _ _ _ _⟩, ?_,
    tokensFrom_template (writable.openTag_mem inBlanks areTrailing) writable.body⟩
  simp only [TemplateForm.outline, tokenAt, Lexeme.tokenValue, String.toList_ofList]
  rw [TemplateText.commandText_append free, writable.trim_append areBlank areTrailing,
    TemplateText.bodyText_append openFree, String.ofList_toList, String.ofList_toList]

theorem readsAs_template {outline : TemplateOutline} (writable : outline.Writable) :
    ReadsAs Written.template TemplateForm.tokens TemplateForm.outline outline := by
  intro text member position rest
  rcases Language.mem_mul.mp member with ⟨docText, inDoc, tags, inTags, rfl⟩
  rcases outline with ⟨kind, commandText, doc, body⟩
  cases doc with
  | none =>
      cases (Language.mem_one docText).mp inDoc
      exact tokensFrom_templateTags writable inTags
  | some doc =>
      rcases Language.mem_mul.mp inDoc with ⟨_, rfl, gap, inGap, rfl⟩
      rcases tokensFrom_templateTags writable inTags with ⟨form, means, here⟩
      refine ⟨form, means, ?_⟩
      unfold Reads
      rw [List.append_assoc, List.append_assoc, tokensFrom_doc (writable.doc doc rfl), tokensFrom_gap inGap,
        String.ofList_toList, here, Position.advance_append, Position.advance_append]

end

/-- A written outline reads as a form that says the same. -/
theorem exists_form_of_mem_file {outline : Outline} (writable : outline.Writable) {text : List Char}
    (member : text ∈ Written.file outline) (position : Position) :
    ∃ form : FileForm, form.outline = outline ∧ tokensFrom position none text = form.tokens := by
  rcases Language.mem_mul.mp member with ⟨gap, inGap, _, afterGap, rfl⟩
  rcases Language.mem_mul.mp afterGap with ⟨package, inPackage, _, afterPackage, rfl⟩
  rcases Language.mem_mul.mp afterPackage with ⟨namespaceTag, inNamespace, _, afterNamespace, rfl⟩
  rcases Language.mem_mul.mp afterNamespace with ⟨aliases, inAliases, templates, inTemplates, rfl⟩
  have readsPackage := ReadsAs.optional fun name isName =>
    (readsAs_packageTag (writable.delegatePackage name isName)).append_gap
  have readsNamespace := ReadsAs.optional fun tag isTag =>
    (readsAs_namespaceTag (writable.namespaceTag tag isTag)).append_gap
  have readsAliases := ReadsAs.all fun entry listed =>
    (readsAs_aliasTag (writable.aliases entry listed)).append_gap
  have readsTemplates := ReadsAs.all fun entry listed =>
    (readsAs_template (writable.templates entry listed)).append_gap
  rcases readsPackage package inPackage (position.advance gap) _ with ⟨packageForm, meansPackage, first⟩
  rcases readsNamespace namespaceTag inNamespace _ _ with ⟨namespaceForm, meansNamespace, second⟩
  rcases readsAliases aliases inAliases _ _ with ⟨aliasForms, meansAliases, third⟩
  rcases readsTemplates templates inTemplates _ [] with ⟨templateForms, meansTemplates, fourth⟩
  have reads := (reads_gap inGap).append (first.append (second.append (third.append fourth)))
  refine ⟨⟨packageForm, namespaceForm, aliasForms, templateForms⟩, ?_, ?_⟩
  · rw [FileForm.outline, meansPackage, meansNamespace, meansAliases, meansTemplates]
  · unfold Reads at reads
    rw [List.append_nil] at reads
    rw [reads, tokensFrom_nil]
    exact List.append_nil _

/-- No text is written for two outlines. -/
theorem Outline.eq_of_mem_file {one two : Outline} (oneWritable : one.Writable) (twoWritable : two.Writable)
    {text : List Char} (inOne : text ∈ Written.file one) (inTwo : text ∈ Written.file two) : one = two := by
  rcases exists_form_of_mem_file oneWritable inOne .start with ⟨form, rfl, tokens⟩
  rcases exists_form_of_mem_file twoWritable inTwo .start with ⟨other, rfl, otherTokens⟩
  rw [FileForm.tokens_injective (tokens.symm.trans otherTokens)]

end TemplateFile
