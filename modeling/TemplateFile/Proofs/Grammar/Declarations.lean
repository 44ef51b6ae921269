import TemplateFile.Proofs.Grammar.Reading

namespace TemplateFile

/-!
# The rules follow the stages

Each rule for the head of a file is followed from the stage at which it is
tried.  A rule that is tried only where its first token stands cannot fail on
that token; everywhere else the expectation that it states is the one of its
stage.
-/

theorem Rounds.map_eq {State Form Value : Type} {valueOf : Form -> Value} {state last : State} {forms : List Form}
    {values : List Value}
    (rounds : Rounds (fun (_ : State) form value (_ : State) => valueOf form = value) state forms values last) :
    forms.map valueOf = values := by
  induction rounds with
  | finished => rfl
  | again first others inductionHypothesis => rw [List.map_cons, first, inductionHypothesis]

/-- A token of a known kind has been read. -/
def ReadsToken (kind : TokenKind) (target : Stage) (value : Token) (_ : TokenStream) (tokens : List Token)
    (last : Stage) : Prop :=
  last = target ∧ ∃ part : TokenOf kind, value = part.token ∧ tokens = [part.token]

/-- A form has been read, and the value is the one that it determines. -/
def ReadsForm {Form Value : Type} (tokensOf : Form -> List Token) (valueOf : Form -> Value) (target : Stage)
    (value : Value) (_ : TokenStream) (tokens : List Token) (last : Stage) : Prop :=
  last = target ∧ ∃ form, tokens = tokensOf form ∧ valueOf form = value

namespace HeaderRule

variable {stage target : Stage} {stream : TokenStream} {kind : TokenKind} {expectation : Expectation}

theorem follows_next (here : stream.current.kind = kind) (inner : kind ≠ .endOfFile)
    (leads : stage.step kind = some target) : Follows id stage next stream (ReadsToken kind target) := by
  have reached : stage.run (kindsOf [stream.current]) = some target := by
    rw [kindsOf, List.map_singleton, Stage.run_cons, here, leads]
    rfl
  exact follows_of_ok rfl (TokenStream.passes_advance (here ▸ inner)) reached ⟨rfl, ⟨stream.current, here⟩, rfl, rfl⟩

/-- A wanted token that stands there. -/
theorem follows_want_here (here : stream.current.kind = kind) (inner : kind ≠ .endOfFile)
    (leads : stage.step kind = some target) :
    Follows id stage (want kind expectation) stream (ReadsToken kind target) := by
  have runs : want kind expectation stream = next stream := by
    simp only [want, expect, here, if_true]
  unfold Follows
  rw [runs]
  exact follows_next here inner leads

/-- A wanted token, where the expectation is the one of the stage. -/
theorem follows_want (inner : kind ≠ .endOfFile) (leads : stage.step kind = some target)
    (notFinished : stage ≠ .finished) (same : expectation = stage.expectation)
    (only : stream.current.kind ≠ kind -> stage.step stream.current.kind = none) :
    Follows id stage (want kind expectation) stream (ReadsToken kind target) := by
  by_cases here : stream.current.kind = kind
  · exact follows_want_here here inner leads
  · have fails : want kind expectation stream = .error (stream.errorHere stage.expectation.text) stream := by
      simp only [want, expect, here, if_false, unexpected, same]
    exact follows_of_error fails ⟨[], stage, .refl stream, rfl, notFinished, only here, rfl⟩

/-- A wanted token at a stage where nothing else may come next. -/
theorem follows_want_only {item : Expected} (single : stage.options = [(item, target)]) (named : item.kinds = [kind])
    (inner : kind ≠ .endOfFile) :
    Follows id stage (want kind (.only item)) stream (ReadsToken kind target) := by
  have step : forall other, stage.step other = if other = kind then some target else none := by
    intro other
    by_cases same : other = kind <;>
      simp only [Stage.step, single, List.find?_cons, List.find?_nil, named, List.mem_singleton, same, decide_true,
        decide_false, Option.map_some, Option.map_none, if_true, if_false]
  apply follows_want inner
  · rw [step, if_pos rfl]
  · rintro rfl
    cases single
  · rw [Stage.expectation, single]
    rfl
  · intro different
    rw [step, if_neg different]

theorem follows_packageTag (begins : stream.current.kind = .header .package) :
    Follows id .start packageTag stream
      (ReadsForm PackageForm.tokens (fun form => form.name.token.value) .afterPackage) := by
  apply Follows.bind (follows_want_here begins (by decide) rfl)
  rintro _ _ _ _ _ ⟨rfl, opening, rfl, rfl⟩
  apply Follows.bind (follows_want_only rfl rfl (by decide))
  rintro _ _ _ _ _ ⟨rfl, name, rfl, rfl⟩
  apply Follows.bind (follows_want_only rfl rfl (by decide))
  rintro _ _ _ _ _ ⟨rfl, closing, rfl, rfl⟩
  exact follows_pure ⟨rfl, ⟨opening, name, closing⟩, rfl, rfl⟩

theorem exists_key_of_standsAtKey (begins : standsAtKey stream = true) :
    ∃ key, stream.current.kind = .attributeKey key := by
  unfold standsAtKey TokenKind.isAttributeKey at begins
  split at begins
  · next key isKey => exact ⟨key, isKey⟩
  · cases begins

theorem follows_attributePair (begins : standsAtKey stream = true) :
    Follows id .attributes attributePair stream
      (ReadsForm AttributeForm.tokens AttributeForm.toAttribute .attributes) := by
  rcases exists_key_of_standsAtKey begins with ⟨keyword, here⟩
  have leads : Stage.attributes.step (.attributeKey keyword) = some .equals := by
    cases keyword <;> decide
  apply Follows.bind follows_get
  rintro _ _ _ _ _ ⟨rfl, rfl, rfl, rfl⟩
  rw [if_pos begins]
  apply Follows.bind (follows_next here TokenKind.noConfusion leads)
  rintro _ _ _ _ _ ⟨rfl, key, rfl, rfl⟩
  apply Follows.bind (follows_want_only rfl rfl (by decide))
  rintro _ _ _ _ _ ⟨rfl, equals, rfl, rfl⟩
  apply Follows.bind (follows_want_only rfl rfl (by decide))
  rintro _ _ _ _ _ ⟨rfl, value, rfl, rfl⟩
  exact follows_pure ⟨rfl, ⟨keyword, key, equals, value⟩, rfl, rfl⟩

theorem follows_attributePairs :
    Follows id .attributes attributePairs stream fun values next tokens last =>
      standsAtKey next = false ∧ last = .attributes ∧ ∃ forms : List AttributeForm,
        tokens = forms.flatMap AttributeForm.tokens ∧ forms.map AttributeForm.toAttribute = values := by
  have once : forall (stage : Stage) (state : TokenStream), stage ∈ [Stage.attributes] -> standsAtKey state = true ->
      state.path = stream.path -> Follows id stage attributePair state
        (ReadsForm AttributeForm.tokens AttributeForm.toAttribute .attributes) := by
    intro stage state isAttributes here _
    rw [List.mem_singleton.mp isAttributes]
    exact follows_attributePair here
  apply (follows_repeatWhile (by decide) once (by decide) rfl).imp
  rintro values next tokens last _ ⟨noKey, sameStage, forms, rfl, rounds⟩
  exact ⟨noKey, by rw [sameStage, ite_self], forms, rfl, rounds.map_eq⟩

theorem follows_namespaceTag (begins : stream.current.kind = .header .namespaceTag)
    (leads : stage.step (.header .namespaceTag) = some .namespaceName) :
    Follows id stage namespaceTag stream
      (ReadsForm NamespaceForm.tokens (NamespaceForm.declaration stream.path) .aliases) := by
  apply Follows.bind follows_get
  rintro _ _ _ _ _ ⟨rfl, rfl, rfl, rfl⟩
  apply Follows.bind (follows_want_here begins (by decide) leads)
  rintro _ _ _ _ _ ⟨rfl, opening, rfl, rfl⟩
  apply Follows.bind (follows_want_only rfl rfl (by decide))
  rintro _ _ _ _ _ ⟨rfl, name, rfl, rfl⟩
  apply Follows.bind follows_attributePairs
  rintro _ next _ _ _ ⟨noKey, rfl, attributes, rfl, rfl⟩
  have onlyClosing : next.current.kind ≠ .closeCurly -> Stage.attributes.step next.current.kind = none := by
    unfold standsAtKey at noKey
    revert noKey
    cases next.current.kind with
    | attributeKey key => exact fun impossible => by cases impossible
    | closeCurly => exact fun _ different => absurd rfl different
    | _ => exact fun _ _ => rfl
  apply Follows.bind (follows_want (by decide) rfl (by decide) rfl onlyClosing)
  rintro _ _ _ _ _ ⟨rfl, closing, rfl, rfl⟩
  exact follows_pure ⟨rfl, ⟨opening, name, attributes, closing⟩, rfl, rfl⟩

theorem follows_localName (begins : stream.current.kind = .asWord) :
    Follows id .aliasRest localName stream
      (ReadsForm LocalNameForm.tokens (fun form => form.name.token.value) .aliasEnd) := by
  apply Follows.bind (follows_next begins (by decide) rfl)
  rintro _ _ _ _ _ ⟨rfl, asWord, rfl, rfl⟩
  apply Follows.bind (follows_want_only rfl rfl (by decide))
  rintro _ _ _ _ _ ⟨rfl, name, rfl, rfl⟩
  exact follows_pure ⟨rfl, ⟨asWord, name⟩, rfl, rfl⟩

theorem follows_optional_localName :
    Follows id .aliasRest (Rule.optionally (standsAt .asWord) localName) stream fun value next tokens last =>
      ∃ form : Option LocalNameForm, tokens = form.toList.flatMap LocalNameForm.tokens ∧
        value = form.map (fun form => form.name.token.value) ∧
        last = (if form.isSome then .aliasEnd else .aliasRest) ∧ (form = none -> next.current.kind ≠ .asWord) := by
  apply follows_optionally
  · intro here
    apply (follows_localName (of_decide_eq_true here)).imp
    rintro value next tokens last _ ⟨rfl, form, rfl, rfl⟩
    have tokens : form.tokens = (some form).toList.flatMap LocalNameForm.tokens := by
      rw [Option.toList_some, List.flatMap_singleton]
    exact ⟨some form, tokens, rfl, rfl, fun impossible => by cases impossible⟩
  · intro stops
    exact ⟨none, rfl, rfl, rfl, fun _ => of_decide_eq_false stops⟩

theorem follows_aliasTag (begins : stream.current.kind = .header .aliasTag)
    (leads : stage.step (.header .aliasTag) = some .aliasTarget) :
    Follows id stage aliasTag stream
      (ReadsForm AliasForm.tokens (AliasForm.declaration stream.path) .aliases) := by
  apply Follows.bind follows_get
  rintro _ _ _ _ _ ⟨rfl, rfl, rfl, rfl⟩
  apply Follows.bind (follows_want_here begins (by decide) leads)
  rintro _ _ _ _ _ ⟨rfl, opening, rfl, rfl⟩
  apply Follows.bind (follows_want_only rfl rfl (by decide))
  rintro _ _ _ _ _ ⟨rfl, target, rfl, rfl⟩
  apply Follows.bind follows_optional_localName
  rintro _ next _ _ _ ⟨localName, rfl, rfl, rfl, noWord⟩
  have closes : Follows id (if localName.isSome then .aliasEnd else .aliasRest)
      (want .closeCurly (aliasEnd (localName.map fun form => form.name.token.value))) next
      (ReadsToken .closeCurly .aliases) := by
    cases localName with
    | some localName => exact follows_want_only rfl rfl (by decide)
    | none =>
        apply follows_want (by decide) rfl (by decide) rfl
        intro different
        simp only [Option.isSome_none, Bool.false_eq_true, if_false, Stage.step, Stage.options, Expected.kinds,
          List.mem_singleton, noWord rfl, different, List.find?_cons, List.find?_nil, decide_false, Option.map_none]
  apply Follows.bind closes
  rintro _ _ _ _ _ ⟨rfl, closing, rfl, rfl⟩
  exact follows_pure ⟨rfl, ⟨opening, target, localName, closing⟩, rfl, rfl⟩

/-- The alias tags that follow each other, from any stage at which one may begin. -/
theorem follows_aliasTags (begins : stage ∈ Stage.beforeAlias) :
    Follows id stage aliasTags stream fun values next tokens last =>
      standsAt (.header .aliasTag) next = false ∧ last = (if values = [] then stage else .aliases) ∧
        ∃ forms : List AliasForm, tokens = forms.flatMap AliasForm.tokens ∧
          forms.map (AliasForm.declaration stream.path) = values := by
  have once : forall (stage : Stage) (state : TokenStream), stage ∈ Stage.beforeAlias ->
      standsAt (.header .aliasTag) state = true -> state.path = stream.path ->
      Follows id stage aliasTag state
        (ReadsForm AliasForm.tokens (AliasForm.declaration stream.path) .aliases) := by
    intro stage state begins here samePath
    have leads : stage.step (.header .aliasTag) = some .aliasTarget := by
      revert stage
      decide
    rw [← samePath]
    exact follows_aliasTag (of_decide_eq_true here) leads
  apply (follows_repeatWhile (by decide) once begins rfl).imp
  rintro values next tokens last _ ⟨noAlias, sameStage, forms, rfl, rounds⟩
  exact ⟨noAlias, sameStage, forms, rfl, rounds.map_eq⟩

end HeaderRule

end TemplateFile
