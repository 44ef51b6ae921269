import TemplateFile.Proofs.Grammar.Declarations
import TemplateFile.Proofs.Grammar.Templates

namespace TemplateFile

/-!
# The rule for a file follows the stages

The optional parts of a head leave the stage where it was if they are absent.
What the absence shows is that the current token begins no such part, so that
at the end of the head the stage allows the same as the stage after everything
that may still come: this is `SameAs`, and it goes from one part to the next.
-/

/-- The stage allows the current token if and only if a later stage does, and then it leads to the same place. -/
def SameAs (later : Stage) (stream : TokenStream) (stage : Stage) : Prop :=
  stage.step stream.current.kind = later.step stream.current.kind

/-- What cannot come next may be left out of the options. -/
theorem sameAs_of_not_mem {stage later target : Stage} {item : Expected} {stream : TokenStream}
    (options : stage.options = (item, target) :: later.options) (different : stream.current.kind ∉ item.kinds) :
    SameAs later stream stage := by
  unfold SameAs Stage.step
  rw [options, List.find?_cons_of_neg (by simpa only [decide_eq_true_eq] using different)]

namespace FileHead

variable {stage : Stage} {stream : TokenStream}

/-- An optional part of the head, from a stage at which it may begin. -/
theorem follows_optional_tag {Form Value : Type} {tag : HeaderTag} {target later : Stage} {rule : HeaderRule Value}
    {tokensOf : Form -> List Token} {valueOf : Form -> Value}
    (once : stream.current.kind = .header tag ->
      Follows id stage rule stream (ReadsForm tokensOf valueOf target))
    (skips : stream.current.kind ≠ .header tag -> SameAs later stream stage)
    (targetSame : forall next : TokenStream, SameAs later next target) :
    Follows id stage (Rule.optionally (HeaderRule.standsAt (.header tag)) rule) stream
      fun value next tokens last => SameAs later next last ∧ ∃ form : Option Form,
        last = (if form.isSome then target else stage) ∧ tokens = form.toList.flatMap tokensOf ∧
          form.map valueOf = value := by
  apply follows_optionally
  · intro here
    apply (once (of_decide_eq_true here)).imp
    rintro value next tokens last _ ⟨rfl, form, rfl, rfl⟩
    exact ⟨targetSame next, some form, rfl, by rw [Option.toList_some, List.flatMap_singleton], rfl⟩
  · intro absent
    exact ⟨skips (of_decide_eq_false absent), none, rfl, rfl, rfl⟩

/-- What is expected after a head, by the parts that it has. -/
theorem expectation_eq_following (package : Option String) (namespaceDeclaration : Option NamespaceDeclaration)
    (aliases : List AliasDeclaration) :
    (if aliases = [] then
        if namespaceDeclaration.isSome then Stage.aliases
        else if package.isSome then Stage.afterPackage else Stage.start
      else Stage.aliases).expectation = following ⟨package, namespaceDeclaration, aliases⟩ := by
  cases package <;> cases namespaceDeclaration <;> cases aliases <;> rfl

/-- The head of a file. -/
theorem follows_rule :
    Follows id .start rule stream fun head next tokens last =>
      last ∈ Stage.beforeAlias ∧ SameAs .templates next last ∧ last.expectation = head.following ∧
        ∃ (package : Option PackageForm) (namespaceTag : Option NamespaceForm) (aliases : List AliasForm),
          tokens = package.toList.flatMap PackageForm.tokens ++
            (namespaceTag.toList.flatMap NamespaceForm.tokens ++ aliases.flatMap AliasForm.tokens) ∧
          head = ⟨package.map fun form => form.name.token.value,
            namespaceTag.map (NamespaceForm.declaration stream.path),
            aliases.map (AliasForm.declaration stream.path)⟩ := by
  have skipsPackage (different : stream.current.kind ≠ .header .package) : SameAs .afterPackage stream .start :=
    sameAs_of_not_mem rfl (by simpa only [Expected.kinds, List.mem_singleton] using different)
  apply Follows.bind (follows_optional_tag HeaderRule.follows_packageTag skipsPackage fun next => rfl)
  rintro _ middle _ first passes ⟨same, package, rfl, rfl, rfl⟩
  -- With or without a package the namespace may begin, and it leads to the same stage.
  have firstBegins : (if package.isSome then Stage.afterPackage else .start) ∈ Stage.beforeNamespace := by
    split <;> decide
  have leads : (if package.isSome then Stage.afterPackage else .start).step (.header .namespaceTag) =
      some .namespaceName := by
    cases package <;> rfl
  have skipsNamespace (different : middle.current.kind ≠ .header .namespaceTag) :
      SameAs .aliases middle .afterPackage :=
    sameAs_of_not_mem rfl (by simpa only [Expected.kinds, List.mem_singleton] using different)
  apply Follows.bind (follows_optional_tag (fun here => HeaderRule.follows_namespaceTag here leads)
    (fun different => same.trans (skipsNamespace different)) fun next => rfl)
  rintro _ later _ second passesLater ⟨sameLater, namespaceTag, rfl, rfl, rfl⟩
  have secondBegins : (if namespaceTag.isSome then Stage.aliases
      else if package.isSome then .afterPackage else .start) ∈ Stage.beforeAlias := by
    split
    · decide
    · split <;> decide
  apply Follows.bind (HeaderRule.follows_aliasTags secondBegins)
  rintro _ final _ last passesFinal ⟨noAlias, rfl, aliases, rfl, rfl⟩
  have skips : SameAs .templates final .aliases := sameAs_of_not_mem rfl (by
    simpa only [Expected.kinds, List.mem_singleton] using of_decide_eq_false noAlias)
  have paths : middle.path = stream.path ∧ later.path = stream.path :=
    ⟨passes.path, passesLater.path.trans passes.path⟩
  refine follows_pure ⟨?_, ?_, ?_, package, namespaceTag, aliases, ?_, ?_⟩
  · split
    · exact secondBegins
    · decide
  · split
    · next noAliases =>
        -- Nothing was read since the namespace, so what held of the token there holds of it here.
        rw [List.map_eq_nil_iff.mp noAliases] at passesFinal
        have here : final.current = later.current := passesFinal.current_of_nil
        unfold SameAs at sameLater skips ⊢
        rw [← skips, here, sameLater]
    · exact skips
  · rw [← expectation_eq_following, Option.isSome_map, Option.isSome_map]
  · rw [List.append_nil]
  · rw [paths.1, paths.2]

end FileHead

namespace FileRule

variable {script : BodyScript} {stage : Stage} {state : ParseState}

/-- A rule for the head, as a rule for the file.  It changes nothing but the tokens. -/
theorem follows_ofHeader {Value : Type} {rule : HeaderRule Value}
    {post : Value -> TokenStream -> List Token -> Stage -> Prop} (follows : Follows id stage rule state.tokens post) :
    Follows ParseState.tokens stage (ofHeader rule) state fun value next tokens last =>
      next = { state with tokens := next.tokens } ∧ post value next.tokens tokens last := by
  cases ran : rule state.tokens with
  | error error tokens =>
      have ranHere : ofHeader rule state = .error error { state with tokens := tokens } := by
        simp only [ofHeader, ran]
      exact follows_of_error ranHere (follows.error ran)
  | ok value tokens =>
      have ranHere : ofHeader rule state = .ok value { state with tokens := tokens } := by
        simp only [ofHeader, ran]
      rcases follows.ok ran with ⟨read, last, passes, reached, holds⟩
      exact follows_of_ok ranHere passes reached ⟨rfl, holds⟩

/-- After the templates only another template or the end may come. -/
theorem step_templates_of_not {stream : TokenStream} (noTemplate : stream.current.kind.isTemplate = false)
    (notEnd : stream.current.kind ≠ .endOfFile) : Stage.templates.step stream.current.kind = none := by
  revert noTemplate notEnd
  cases stream.current.kind with
  | template kind => exact fun impossible => by cases impossible
  | endOfFile => exact fun _ different => absurd rfl different
  | _ => exact fun _ _ => rfl

/-- What comes after the templates: the end, or an error. -/
theorem follows_end {head : FileHead} {templates : List Template} (file : SourceFile)
    (same : SameAs .templates state.tokens stage) (noTemplate : state.standsAtTemplate = false)
    (notFinished : stage ≠ .finished) (expectation : stage.expectation = afterTemplates head templates) :
    Follows ParseState.tokens stage
      (if state.tokens.hasTokens then ofHeader (HeaderRule.unexpected (afterTemplates head templates).text)
        else pure file) state
      fun result next tokens _ => result = file ∧ next = state ∧ tokens = [] ∧ state.tokens.pending = [] := by
  cases more : state.tokens.hasTokens with
  | true =>
      have notEnd : state.tokens.current.kind ≠ .endOfFile := bne_iff_ne.mp more
      have noStep := same.trans (step_templates_of_not noTemplate notEnd)
      rw [if_pos rfl, ← expectation]
      exact follows_of_error rfl ⟨[], stage, .refl _, rfl, notFinished, noStep, rfl⟩
  | false =>
      have ended : state.tokens.current.kind = .endOfFile := bne_eq_false_iff_eq.mp more
      rw [if_neg Bool.false_ne_true]
      exact follows_pure ⟨rfl, rfl, rfl, state.tokens.current_kind_eq_endOfFile_iff.mp ended⟩

/-- A whole file.  The file takes one id, its head only reads tokens, and then the templates are read. -/
theorem follows_sourceFile (kind : FileKind) :
    Follows ParseState.tokens .start (sourceFile script kind) state fun file next tokens _ =>
      next.tokens.pending = [] ∧ ∃ (form : FileForm) (stream : TokenStream), tokens = form.tokens ∧
        form.Determines script kind state.tokens.path file ∧
        Rounds (TemplateForm.Round script state.tokens.path form.namespaceName)
          { state with tokens := stream, ids := state.ids.take.2 } form.templates file.templates next := by
  have takes : Follows ParseState.tokens .start takeId state fun _ next tokens last =>
      next = { state with ids := state.ids.take.2 } ∧ tokens = [] ∧ last = .start :=
    follows_of_ok rfl (.refl _) rfl ⟨rfl, rfl, rfl⟩
  apply Follows.bind takes
  rintro id _ _ _ _ ⟨rfl, rfl, rfl⟩
  apply Follows.bind (follows_ofHeader FileHead.follows_rule)
  rintro head second _ headStage passesHead
    ⟨isSecond, mayBegin, same, following, package, namespaceTag, aliases, rfl, isHead⟩
  apply Follows.bind (follows_templates (List.mem_cons_of_mem _ mayBegin))
  rintro templates _ _ _ passesTemplates ⟨noTemplate, rfl, forms, rfl, rounds⟩
  apply Follows.bind follows_get
  rintro _ third _ _ _ ⟨rfl, rfl, rfl, rfl⟩
  -- Without templates the stage is the one after the head, and the state is the one it left.
  have sameLast : SameAs .templates third.tokens (if templates = [] then headStage else .templates) := by
    split
    · next noTemplates =>
        subst noTemplates
        cases rounds
        exact same
    · rfl
  have notFinished : (if templates = [] then headStage else .templates) ≠ Stage.finished := by
    split
    · rintro rfl
      exact absurd mayBegin (by decide)
    · decide
  have expectation : (if templates = [] then headStage else .templates).expectation =
      afterTemplates head templates := by
    unfold afterTemplates
    split
    · exact following
    · rfl
  have pathHead : second.tokens.path = state.tokens.path := passesHead.path
  have pathThird : third.tokens.path = state.tokens.path := passesTemplates.path.trans pathHead
  apply (follows_end _ sameLast noTemplate notFinished expectation).imp
  rintro _ _ _ _ _ ⟨rfl, rfl, rfl, ended⟩
  rw [pathHead] at rounds
  subst isHead
  rw [Option.map_map] at rounds
  refine ⟨ended, ⟨package, namespaceTag, aliases, forms⟩, second.tokens, ?_, ?_, ?_⟩
  · simp only [FileForm.tokens, List.nil_append, List.append_nil, List.append_assoc]
  · exact ⟨pathThird, rfl, rfl, rfl, rfl, rounds.forall₂ fun _ _ _ _ round => round.declares⟩
  · rw [isSecond] at rounds
    exact rounds

end FileRule

end TemplateFile
