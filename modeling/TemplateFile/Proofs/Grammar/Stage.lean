import TemplateFile.Grammar.Expectation
import TemplateFile.Proofs.Grammar.Sentence

namespace TemplateFile

open Computability

/-!
# The stages of reading a file

While the kinds of a file are read from left to right, fifteen stages are all
that has to be remembered.  `Stage.options` lists, for each of them, what may
come next and where it leads, in the words and in the order of a message.  Read
as a set of kinds the list is the transition function of an automaton; read as
a text it is what an error says.

The automaton accepts the sentences of `Sentence.file` and no others, and from
each stage the end can still be reached.  So the kinds read so far begin a
sentence exactly when the automaton has not stopped.
-/

/-- How far a file has been read. -/
inductive Stage where
  | start
  | packageName
  | packageEnd
  | afterPackage
  | namespaceName
  | attributes
  | equals
  | attributeValue
  | aliases
  | aliasTarget
  | aliasRest
  | aliasName
  | aliasEnd
  | templates
  | finished
deriving DecidableEq, Repr

namespace Stage

/-- What may come next once the aliases are over. -/
def templateOptions : List (Expected × Stage) := [(.anyTemplate, templates), (.endOfFile, finished)]

/-- What may come next once the namespace is over. -/
def aliasOptions : List (Expected × Stage) := (.header .aliasTag, aliasTarget) :: templateOptions

/-- What may come next once the package is over. -/
def namespaceOptions : List (Expected × Stage) := (.header .namespaceTag, namespaceName) :: aliasOptions

/-- What may come next, and where it leads. -/
def options : Stage -> List (Expected × Stage)
  | start => (.header .package, packageName) :: namespaceOptions
  | packageName => [(.packageName, packageEnd)]
  | packageEnd => [(.closeCurly, afterPackage)]
  | afterPackage => namespaceOptions
  | namespaceName => [(.namespaceName, attributes)]
  | attributes => [(.anyAttribute, equals), (.closeCurly, aliases)]
  | equals => [(.equals, attributeValue)]
  | attributeValue => [(.attributeValue, attributes)]
  | aliases => aliasOptions
  | aliasTarget => [(.aliasedNamespace, aliasRest)]
  | aliasRest => [(.asWord, aliasName), (.closeCurly, aliases)]
  | aliasName => [(.aliasName, aliasEnd)]
  | aliasEnd => [(.closeCurly, aliases)]
  | templates => templateOptions
  | finished => []

/-- The stage after a kind, if the kind may come next. -/
def step (stage : Stage) (kind : TokenKind) : Option Stage :=
  (stage.options.find? fun option => decide (kind ∈ option.1.kinds)).map Prod.snd

/-- The stage after several kinds. -/
def run (stage : Stage) (kinds : List TokenKind) : Option Stage := kinds.foldlM step stage

@[simp] theorem run_nil (stage : Stage) : stage.run [] = some stage := rfl

theorem run_cons (stage : Stage) (kind : TokenKind) (kinds : List TokenKind) :
    stage.run (kind :: kinds) = (stage.step kind).bind fun next => next.run kinds := by
  rw [run, List.foldlM_cons]
  rfl

theorem run_append (stage : Stage) (left right : List TokenKind) :
    stage.run (left ++ right) = (stage.run left).bind fun next => next.run right := by
  rw [run, List.foldlM_append]
  rfl

theorem run_append_of_some {stage middle : Stage} {left : List TokenKind} (reached : stage.run left = some middle)
    (right : List TokenKind) : stage.run (left ++ right) = middle.run right := by
  rw [run_append, reached, Option.bind_some]

/-- What an error at this stage says. -/
def expectation (stage : Stage) : Expectation :=
  match stage.options.map Prod.fst with
  | [] => .only .endOfFile
  | first :: others => ⟨first, others⟩

/-- A kind may come next exactly when the expectation names it. -/
theorem step_isSome_iff {stage : Stage} {kind : TokenKind} (notFinished : stage ≠ finished) :
    (stage.step kind).isSome ↔ kind ∈ stage.expectation.kinds := by
  cases stage <;> first
    | exact absurd rfl notFinished
    | simp [step, options, expectation, namespaceOptions, aliasOptions, templateOptions, Expectation.kinds,
        Expectation.items]

/-! ## The automaton accepts sentences -/

/-- A repeated language leads back to where it begins. -/
theorem run_kstar {stage : Stage} {language : Language TokenKind}
    (once : forall kinds, kinds ∈ language -> stage.run kinds = some stage) {kinds : List TokenKind}
    (member : kinds ∈ language∗) : stage.run kinds = some stage := by
  rcases Language.mem_kstar.mp member with ⟨pieces, rfl, all⟩
  clear member
  induction pieces with
  | nil => rfl
  | cons piece pieces inductionHypothesis =>
      rw [List.flatten_cons, run_append_of_some (once piece (all piece List.mem_cons_self))]
      exact inductionHypothesis fun other listed => all other (List.mem_cons_of_mem piece listed)

theorem run_attributePairs {kinds : List TokenKind} (member : kinds ∈ Sentence.attributePair∗) :
    attributes.run kinds = some attributes := by
  refine run_kstar ?_ member
  rintro _ ⟨key, rfl⟩
  cases key <;> decide

/-- The stages at which a namespace may begin. -/
def beforeNamespace : List Stage := [start, afterPackage]

/-- The stages at which an alias may begin. -/
def beforeAlias : List Stage := aliases :: beforeNamespace

/-- The stages at which a template may begin, and at which a file may end. -/
def beforeTemplate : List Stage := templates :: beforeAlias

theorem run_package {kinds : List TokenKind} (member : kinds ∈ Sentence.optional Sentence.packageTag) :
    ∃ last ∈ beforeNamespace, start.run kinds = some last := by
  rcases member with rfl | rfl
  · exact ⟨start, by decide, rfl⟩
  · exact ⟨afterPackage, by decide, by decide⟩

theorem run_namespaceTag {stage : Stage} (mayBegin : stage ∈ beforeNamespace) {kinds : List TokenKind}
    (member : kinds ∈ Sentence.namespaceTag) : stage.run kinds = some aliases := by
  rcases Language.mem_mul.mp member with ⟨_, rfl, _, others, rfl⟩
  rcases Language.mem_mul.mp others with ⟨pairs, inPairs, _, rfl, rfl⟩
  have opened : stage.run [.header .namespaceTag, .name] = some attributes := by
    revert stage
    decide
  rw [run_append_of_some opened, run_append_of_some (run_attributePairs inPairs)]
  decide

theorem run_namespace {stage : Stage} (mayBegin : stage ∈ beforeNamespace) {kinds : List TokenKind}
    (member : kinds ∈ Sentence.optional Sentence.namespaceTag) :
    ∃ last ∈ beforeAlias, stage.run kinds = some last := by
  rcases member with rfl | inTag
  · exact ⟨stage, List.mem_cons_of_mem _ mayBegin, rfl⟩
  · exact ⟨aliases, by decide, run_namespaceTag mayBegin inTag⟩

theorem run_aliasTag {stage : Stage} (mayBegin : stage ∈ beforeAlias) {kinds : List TokenKind}
    (member : kinds ∈ Sentence.aliasTag) : stage.run kinds = some aliases := by
  rcases Language.mem_mul.mp member with ⟨_, rfl, _, others, rfl⟩
  rcases Language.mem_mul.mp others with ⟨_, rfl | rfl, _, rfl, rfl⟩
  all_goals revert stage; decide

theorem run_template {stage : Stage} (mayBegin : stage ∈ beforeTemplate) {kinds : List TokenKind}
    (member : kinds ∈ Sentence.template) : stage.run kinds = some templates := by
  rcases member with ⟨kind, rfl⟩
  cases kind
  all_goals revert stage; decide

/-- A repeated language that leads to one stage from wherever it may begin. -/
theorem run_repeated {stage target : Stage} {starts : List Stage} {language : Language TokenKind}
    (once : forall stage, stage ∈ starts -> forall kinds, kinds ∈ language -> stage.run kinds = some target)
    (again : target ∈ starts) (mayBegin : stage ∈ starts) {kinds : List TokenKind} (member : kinds ∈ language∗) :
    ∃ last ∈ starts, stage.run kinds = some last := by
  rw [← Language.one_add_self_mul_kstar_eq_kstar] at member
  rcases member with rfl | later
  · exact ⟨stage, mayBegin, rfl⟩
  · rcases Language.mem_mul.mp later with ⟨first, inFirst, others, inOthers, rfl⟩
    refine ⟨target, again, ?_⟩
    rw [run_append_of_some (once stage mayBegin first inFirst)]
    exact run_kstar (once target again) inOthers

theorem run_file {kinds : List TokenKind} (member : kinds ∈ Sentence.file) : start.run kinds = some finished := by
  rcases Language.mem_mul.mp member with ⟨package, inPackage, _, afterPackage, rfl⟩
  rcases Language.mem_mul.mp afterPackage with ⟨namespaceKinds, inNamespace, _, afterNamespace, rfl⟩
  rcases Language.mem_mul.mp afterNamespace with ⟨aliasKinds, inAliases, _, afterAliases, rfl⟩
  rcases Language.mem_mul.mp afterAliases with ⟨templateKinds, inTemplates, _, rfl, rfl⟩
  rcases run_package inPackage with ⟨first, firstBetween, toFirst⟩
  rcases run_namespace firstBetween inNamespace with ⟨second, secondBetween, toSecond⟩
  rcases run_repeated (fun _ mayBegin _ => run_aliasTag mayBegin) (by decide) secondBetween inAliases with
    ⟨third, thirdBetween, toThird⟩
  rcases run_repeated (fun _ mayBegin _ => run_template mayBegin) (by decide)
    (List.mem_cons_of_mem templates thirdBetween) inTemplates with ⟨last, lastBetween, toLast⟩
  rw [run_append_of_some toFirst, run_append_of_some toSecond, run_append_of_some toThird, run_append_of_some toLast]
  clear toLast
  revert last
  decide

/-! ## Only sentences are accepted -/

/-- What may follow the aliases. -/
def fromTemplates : Language TokenKind := Sentence.template∗ * {[.endOfFile]}

/-- What may follow the namespace. -/
def fromAliases : Language TokenKind := Sentence.aliasTag∗ * fromTemplates

/-- What may follow the package. -/
def fromNamespace : Language TokenKind := Sentence.optional Sentence.namespaceTag * fromAliases

/-- What may follow the name of the namespace. -/
def fromAttributes : Language TokenKind := Sentence.attributePair∗ * ({[.closeCurly]} * fromAliases)

/-- What is still to come at a stage. -/
def remaining : Stage -> Language TokenKind
  | start => Sentence.file
  | packageName => {[.name, .closeCurly]} * fromNamespace
  | packageEnd => {[.closeCurly]} * fromNamespace
  | afterPackage => fromNamespace
  | namespaceName => {[.name]} * fromAttributes
  | attributes => fromAttributes
  | equals => {[.equals, .quoted]} * fromAttributes
  | attributeValue => {[.quoted]} * fromAttributes
  | aliases => fromAliases
  | aliasTarget => {[.name]} * (Sentence.optional {[.asWord, .name]} * ({[.closeCurly]} * fromAliases))
  | aliasRest => Sentence.optional {[.asWord, .name]} * ({[.closeCurly]} * fromAliases)
  | aliasName => {[.name, .closeCurly]} * fromAliases
  | aliasEnd => {[.closeCurly]} * fromAliases
  | templates => fromTemplates
  | finished => 1

/-- Something that comes first, or nothing. -/
theorem mem_optional_mul_iff {first rest : Language TokenKind} {kinds : List TokenKind} :
    kinds ∈ Sentence.optional first * rest ↔ kinds ∈ rest ∨ kinds ∈ first * rest := by
  rw [Sentence.optional, add_mul, one_mul]
  rfl

/-- One more repetition, or none. -/
theorem mem_kstar_mul_iff {item rest : Language TokenKind} {kinds : List TokenKind} :
    kinds ∈ item∗ * rest ↔ kinds ∈ rest ∨ kinds ∈ item * (item∗ * rest) := by
  have unfolded : item∗ * rest = rest + item * (item∗ * rest) := by
    calc item∗ * rest = (1 + item * item∗) * rest := by rw [Language.one_add_self_mul_kstar_eq_kstar]
      _ = rest + item * (item∗ * rest) := by rw [add_mul, one_mul, mul_assoc]
  constructor
  · intro member
    rw [unfolded] at member
    exact member
  · intro member
    rw [unfolded]
    exact member

theorem cons_mem_word_mul {kind : TokenKind} {word kinds : List TokenKind} {rest : Language TokenKind}
    (member : kinds ∈ {word} * rest) : kind :: kinds ∈ ({kind :: word} : Language TokenKind) * rest := by
  rcases Language.mem_mul.mp member with ⟨_, rfl, others, inRest, rfl⟩
  exact Language.mem_mul.mpr ⟨_, rfl, others, inRest, rfl⟩

theorem cons_mem_mul {kind : TokenKind} {kinds : List TokenKind} {first rest : Language TokenKind}
    (single : [kind] ∈ first) (member : kinds ∈ rest) : kind :: kinds ∈ first * rest :=
  Language.append_mem_mul single member

variable {item : Expected} {next : Stage} {kind : TokenKind} {kinds : List TokenKind}

theorem cons_mem_fromTemplates (listed : (item, next) ∈ templateOptions) (named : kind ∈ item.kinds)
    (member : kinds ∈ next.remaining) : kind :: kinds ∈ fromTemplates := by
  simp only [templateOptions, List.mem_cons, Prod.mk.injEq, List.not_mem_nil, or_false] at listed
  rcases listed with ⟨rfl, rfl⟩ | ⟨rfl, rfl⟩
  · simp only [Expected.kinds, List.mem_cons, List.not_mem_nil, or_false] at named
    refine mem_kstar_mul_iff.mpr (Or.inr (cons_mem_mul ?_ member))
    rcases named with rfl | rfl
    · exact ⟨.basic, rfl⟩
    · exact ⟨.delegate, rfl⟩
  · refine mem_kstar_mul_iff.mpr (Or.inl ?_)
    rw [List.mem_singleton.mp named, (Language.mem_one kinds).mp member]
    rfl

theorem cons_mem_fromAliases (listed : (item, next) ∈ aliasOptions) (named : kind ∈ item.kinds)
    (member : kinds ∈ next.remaining) : kind :: kinds ∈ fromAliases := by
  rcases List.mem_cons.mp listed with same | later
  · cases same
    rw [List.mem_singleton.mp named]
    refine mem_kstar_mul_iff.mpr (Or.inr ?_)
    have opened : .header .aliasTag :: kinds ∈ _ := cons_mem_word_mul member
    rwa [← mul_assoc (Sentence.optional _), ← mul_assoc ({_} : Language TokenKind)] at opened
  · exact mem_kstar_mul_iff.mpr (Or.inl (cons_mem_fromTemplates later named member))

theorem cons_mem_fromNamespace (listed : (item, next) ∈ namespaceOptions) (named : kind ∈ item.kinds)
    (member : kinds ∈ next.remaining) : kind :: kinds ∈ fromNamespace := by
  rcases List.mem_cons.mp listed with same | later
  · cases same
    rw [List.mem_singleton.mp named]
    refine mem_optional_mul_iff.mpr (Or.inr ?_)
    have opened : .header .namespaceTag :: kinds ∈ _ := cons_mem_word_mul member
    rwa [fromAttributes, ← mul_assoc Sentence.attributePair∗, ← mul_assoc ({_} : Language TokenKind)] at opened
  · exact mem_optional_mul_iff.mpr (Or.inl (cons_mem_fromAliases later named member))

theorem cons_mem_fromAttributes (listed : (item, next) ∈ attributes.options) (named : kind ∈ item.kinds)
    (member : kinds ∈ next.remaining) : kind :: kinds ∈ fromAttributes := by
  simp only [options, List.mem_cons, Prod.mk.injEq, List.not_mem_nil, or_false] at listed
  rcases listed with ⟨rfl, rfl⟩ | ⟨rfl, rfl⟩
  · have isKey : ∃ key, kind = .attributeKey key := by
      simp only [Expected.kinds, List.mem_cons, List.not_mem_nil, or_false] at named
      rcases named with rfl | rfl | rfl
      all_goals exact ⟨_, rfl⟩
    rcases isKey with ⟨key, rfl⟩
    rcases Language.mem_mul.mp member with ⟨_, rfl, others, inRest, rfl⟩
    refine mem_kstar_mul_iff.mpr (Or.inr ?_)
    exact Language.mem_mul.mpr ⟨_, ⟨key, rfl⟩, others, inRest, rfl⟩
  · rw [List.mem_singleton.mp named]
    exact mem_kstar_mul_iff.mpr (Or.inl (cons_mem_mul rfl member))

/-- What may come next is followed by what is still to come there. -/
theorem cons_mem_remaining {stage : Stage} (listed : (item, next) ∈ stage.options) (named : kind ∈ item.kinds)
    (member : kinds ∈ next.remaining) : kind :: kinds ∈ stage.remaining := by
  cases stage with
  | start =>
      rcases List.mem_cons.mp listed with same | later
      · cases same
        rw [List.mem_singleton.mp named]
        exact mem_optional_mul_iff.mpr (Or.inr (cons_mem_word_mul member))
      · exact mem_optional_mul_iff.mpr (Or.inl (cons_mem_fromNamespace later named member))
  | afterPackage => exact cons_mem_fromNamespace listed named member
  | attributes => exact cons_mem_fromAttributes listed named member
  | aliases => exact cons_mem_fromAliases listed named member
  | templates => exact cons_mem_fromTemplates listed named member
  | finished => cases listed
  | aliasRest =>
      simp only [options, List.mem_cons, Prod.mk.injEq, List.not_mem_nil, or_false] at listed
      rcases listed with ⟨rfl, rfl⟩ | ⟨rfl, rfl⟩ <;> rw [List.mem_singleton.mp named]
      · rcases Language.mem_mul.mp member with ⟨_, rfl, others, inRest, rfl⟩
        refine mem_optional_mul_iff.mpr (Or.inr ?_)
        exact Language.mem_mul.mpr ⟨_, rfl, .closeCurly :: others, cons_mem_mul rfl inRest, rfl⟩
      · exact mem_optional_mul_iff.mpr (Or.inl (cons_mem_mul rfl member))
  | packageName | equals | aliasName =>
      cases List.mem_singleton.mp listed
      rw [List.mem_singleton.mp named]
      exact cons_mem_word_mul member
  | packageEnd | namespaceName | attributeValue | aliasTarget | aliasEnd =>
      cases List.mem_singleton.mp listed
      rw [List.mem_singleton.mp named]
      exact cons_mem_mul rfl member

theorem exists_option_of_step {stage : Stage} (stepped : stage.step kind = some next) :
    ∃ item, (item, next) ∈ stage.options ∧ kind ∈ item.kinds := by
  simp only [step, Option.map_eq_some_iff] at stepped
  rcases stepped with ⟨⟨item, target⟩, found, rfl⟩
  have named := List.find?_some found
  exact ⟨item, List.mem_of_find?_eq_some found, of_decide_eq_true named⟩

theorem mem_remaining_of_run {stage : Stage} (ran : stage.run kinds = some finished) : kinds ∈ stage.remaining := by
  induction kinds generalizing stage with
  | nil =>
      cases ran
      exact Language.nil_mem_one
  | cons kind kinds inductionHypothesis =>
      rw [run_cons, Option.bind_eq_some_iff] at ran
      rcases ran with ⟨next, stepped, later⟩
      rcases exists_option_of_step stepped with ⟨item, listed, named⟩
      exact cons_mem_remaining listed named (inductionHypothesis later)

/-- The automaton accepts the sentences and nothing else. -/
theorem run_eq_finished_iff : start.run kinds = some finished ↔ kinds ∈ Sentence.file :=
  ⟨mem_remaining_of_run, run_file⟩

/-! ## From every stage the end can be reached -/

/-- A shortest way to the end of the file. -/
def completion : Stage -> List TokenKind
  | packageName => [.name, .closeCurly, .endOfFile]
  | namespaceName => [.name, .closeCurly, .endOfFile]
  | equals => [.equals, .quoted, .closeCurly, .endOfFile]
  | attributeValue => [.quoted, .closeCurly, .endOfFile]
  | aliasTarget => [.name, .closeCurly, .endOfFile]
  | aliasName => [.name, .closeCurly, .endOfFile]
  | packageEnd | attributes | aliasRest | aliasEnd => [.closeCurly, .endOfFile]
  | start | afterPackage | aliases | templates => [.endOfFile]
  | finished => []

theorem run_completion (stage : Stage) : stage.run stage.completion = some finished := by
  cases stage <;> decide

/-- The kinds read so far begin a sentence exactly when the automaton has not stopped. -/
theorem viable_iff : Sentence.Viable kinds ↔ (start.run kinds).isSome := by
  constructor
  · rintro ⟨rest, member⟩
    have ran := run_file member
    rw [run_append, Option.bind_eq_some_iff] at ran
    rcases ran with ⟨stage, reached, _⟩
    rw [reached]
    rfl
  · intro reached
    rcases Option.isSome_iff_exists.mp reached with ⟨stage, ran⟩
    refine ⟨stage.completion, run_eq_finished_iff.mp ?_⟩
    rw [run_append_of_some ran, run_completion]

/-- One more kind at a known stage. -/
theorem viable_append_singleton_iff {stage : Stage} (reached : start.run kinds = some stage) :
    Sentence.Viable (kinds ++ [kind]) ↔ (stage.step kind).isSome := by
  rw [viable_iff, run_append_of_some reached, run_cons]
  cases stage.step kind <;> rfl

end Stage
end TemplateFile
