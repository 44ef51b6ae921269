import TemplateFile.Proofs.Grammar.Form
import TemplateFile.Proofs.Grammar.Stage

namespace TemplateFile

/-!
# Rules and stages

A rule that begins at a stage of the automaton either reads tokens that lead
the automaton on, or it stops at the first token for which the automaton has no
step, with the expectation of the stage it had reached.  `Follows` says this of
a rule, together with what the rule makes of the tokens.  It holds of a
sequence of rules if it holds of each of them, and so it is shown rule by rule.
-/

/-- The tokens that lie between two states of a stream. -/
structure TokenStream.Passes (before : TokenStream) (tokens : List Token) (after : TokenStream) : Prop where
  pending : before.pending = tokens ++ after.pending
  final : after.final = before.final
  path : after.path = before.path

namespace TokenStream

theorem Passes.refl (stream : TokenStream) : stream.Passes [] stream := ⟨rfl, rfl, rfl⟩

theorem Passes.trans {before middle after : TokenStream} {tokens more : List Token}
    (first : before.Passes tokens middle) (second : middle.Passes more after) :
    before.Passes (tokens ++ more) after where
  pending := by rw [first.pending, second.pending, List.append_assoc]
  final := second.final.trans first.final
  path := second.path.trans first.path

/-- A stream that nothing was read from shows the same token. -/
theorem Passes.current_of_nil {before after : TokenStream} (nothing : before.Passes [] after) :
    after.current = before.current := by
  rw [current, current, nothing.pending, nothing.final, List.nil_append]

/-- The tokens that a stream shows were pending before. -/
theorem Passes.current_mem {before after : TokenStream} {tokens : List Token} (passes : before.Passes tokens after)
    (inner : after.current.kind ≠ .endOfFile) : after.current ∈ before.pending := by
  have notEmpty := (not_congr after.current_kind_eq_endOfFile_iff).mp inner
  rcases List.exists_cons_of_ne_nil notEmpty with ⟨token, rest, pending⟩
  rw [passes.pending, current, pending, List.headD_cons]
  exact List.mem_append_right tokens List.mem_cons_self

/-- A stream shows its tokens one by one. -/
theorem passes_advance {stream : TokenStream} (inner : stream.current.kind ≠ .endOfFile) :
    stream.Passes [stream.current] stream.advance where
  pending := by
    have notEmpty := (not_congr stream.current_kind_eq_endOfFile_iff).mp inner
    rcases List.exists_cons_of_ne_nil notEmpty with ⟨token, rest, tokens⟩
    simp only [current, advance, tokens, List.headD_cons, List.tail_cons, List.singleton_append]
  final := rfl
  path := rfl

end TokenStream

/-- An error at the first token for which there is no step. -/
def StopsAt (stage : Stage) (before after : TokenStream) (error : SyntaxError) : Prop :=
  ∃ tokens last, before.Passes tokens after ∧ stage.run (kindsOf tokens) = some last ∧ last ≠ .finished ∧
    last.step after.current.kind = none ∧ error = after.errorHere last.expectation.text

theorem StopsAt.after {stage middle : Stage} {before between after : TokenStream} {tokens : List Token}
    {error : SyntaxError} (passes : before.Passes tokens between) (ran : stage.run (kindsOf tokens) = some middle)
    (stops : StopsAt middle between after error) : StopsAt stage before after error := by
  rcases stops with ⟨more, last, further, reached, notFinished, none, same⟩
  refine ⟨tokens ++ more, last, passes.trans further, ?_, notFinished, none, same⟩
  rw [kindsOf_append, Stage.run_append_of_some ran, reached]

section

variable {State Value Result : Type} {streamOf : State -> TokenStream} {stage : Stage} {state : State}

/-- A rule that begins at a stage, and what holds of the tokens it reads. -/
def Follows (streamOf : State -> TokenStream) (stage : Stage) (rule : Rule State Value) (state : State)
    (post : Value -> State -> List Token -> Stage -> Prop) : Prop :=
  match rule state with
  | .ok value next => ∃ tokens last, (streamOf state).Passes tokens (streamOf next) ∧
      stage.run (kindsOf tokens) = some last ∧ post value next tokens last
  | .error error next => StopsAt stage (streamOf state) (streamOf next) error

theorem follows_of_ok {rule : Rule State Value} {next : State} {value : Value} {last : Stage} {tokens : List Token}
    {post : Value -> State -> List Token -> Stage -> Prop} (ran : rule state = .ok value next)
    (passes : (streamOf state).Passes tokens (streamOf next)) (reached : stage.run (kindsOf tokens) = some last)
    (holds : post value next tokens last) : Follows streamOf stage rule state post := by
  unfold Follows
  rw [ran]
  exact ⟨tokens, last, passes, reached, holds⟩

theorem follows_of_error {rule : Rule State Value} {next : State} {error : SyntaxError}
    {post : Value -> State -> List Token -> Stage -> Prop} (ran : rule state = .error error next)
    (stops : StopsAt stage (streamOf state) (streamOf next) error) : Follows streamOf stage rule state post := by
  unfold Follows
  rw [ran]
  exact stops

theorem Follows.ok {rule : Rule State Value} {next : State} {value : Value}
    {post : Value -> State -> List Token -> Stage -> Prop} (follows : Follows streamOf stage rule state post)
    (ran : rule state = .ok value next) :
    ∃ tokens last, (streamOf state).Passes tokens (streamOf next) ∧ stage.run (kindsOf tokens) = some last ∧
      post value next tokens last := by
  unfold Follows at follows
  rw [ran] at follows
  exact follows

theorem Follows.error {rule : Rule State Value} {next : State} {error : SyntaxError}
    {post : Value -> State -> List Token -> Stage -> Prop} (follows : Follows streamOf stage rule state post)
    (ran : rule state = .error error next) : StopsAt stage (streamOf state) (streamOf next) error := by
  unfold Follows at follows
  rw [ran] at follows
  exact follows

theorem Follows.imp {rule : Rule State Value} {post weaker : Value -> State -> List Token -> Stage -> Prop}
    (follows : Follows streamOf stage rule state post)
    (implies : forall value next tokens last, (streamOf state).Passes tokens (streamOf next) ->
      post value next tokens last -> weaker value next tokens last) :
    Follows streamOf stage rule state weaker := by
  cases ran : rule state with
  | error error next => exact follows_of_error ran (follows.error ran)
  | ok value next =>
      rcases follows.ok ran with ⟨tokens, last, passes, reached, holds⟩
      exact follows_of_ok ran passes reached (implies value next tokens last passes holds)

theorem follows_pure {value : Value} {post : Value -> State -> List Token -> Stage -> Prop}
    (holds : post value state [] stage) : Follows streamOf stage (pure value) state post :=
  follows_of_ok rfl (.refl _) rfl holds

theorem follows_get : Follows streamOf stage get state fun value next tokens last =>
    value = state ∧ next = state ∧ tokens = [] ∧ last = stage :=
  follows_of_ok rfl (.refl _) rfl ⟨rfl, rfl, rfl, rfl⟩

/-- One rule after another. -/
theorem Follows.bind {rule : Rule State Value} {following : Value -> Rule State Result}
    {post : Value -> State -> List Token -> Stage -> Prop} {last : Result -> State -> List Token -> Stage -> Prop}
    (first : Follows streamOf stage rule state post)
    (second : forall value next tokens middle, (streamOf state).Passes tokens (streamOf next) ->
      post value next tokens middle -> Follows streamOf middle (following value) next
        fun result final more => last result final (tokens ++ more)) :
    Follows streamOf stage (rule >>= following) state last := by
  cases ran : rule state with
  | error error next =>
      apply follows_of_error _ (first.error ran)
      change EStateM.bind rule following state = _
      simp only [EStateM.bind, ran]
  | ok value next =>
      rcases first.ok ran with ⟨tokens, middle, passes, reached, holds⟩
      have later := second value next tokens middle passes holds
      have bound : (rule >>= following) state = following value next := by
        change EStateM.bind rule following state = _
        simp only [EStateM.bind, ran]
      cases ranLater : following value next with
      | error error final =>
          exact follows_of_error (bound.trans ranLater) ((later.error ranLater).after passes reached)
      | ok result final =>
          rcases later.ok ranLater with ⟨more, finalStage, further, reachedLater, holdsLater⟩
          apply follows_of_ok (bound.trans ranLater) (passes.trans further) _ holdsLater
          rw [kindsOf_append, Stage.run_append_of_some reached, reachedLater]

theorem follows_optionally {mayBegin : State -> Bool} {rule : Rule State Value}
    {post : Option Value -> State -> List Token -> Stage -> Prop}
    (begins : mayBegin state = true -> Follows streamOf stage rule state fun value => post (some value))
    (otherwise : mayBegin state = false -> post none state [] stage) :
    Follows streamOf stage (Rule.optionally mayBegin rule) state post := by
  cases here : mayBegin state with
  | false =>
      refine follows_of_ok ?_ (.refl _) rfl (otherwise here)
      simp only [Rule.optionally, here, Bool.false_eq_true, if_false]
  | true =>
      have follows := begins here
      cases ran : rule state with
      | error error next =>
          apply follows_of_error _ (follows.error ran)
          simp only [Rule.optionally, here, if_true, EStateM.map, ran]
      | ok value next =>
          rcases follows.ok ran with ⟨tokens, last, passes, reached, holds⟩
          apply follows_of_ok _ passes reached holds
          simp only [Rule.optionally, here, if_true, EStateM.map, ran]

/-- The rounds of a repeated rule, each with its form and its value. -/
inductive Rounds {Form : Type} (round : State -> Form -> Value -> State -> Prop) :
    State -> List Form -> List Value -> State -> Prop
  | finished {state : State} : Rounds round state [] [] state
  | again {state next last : State} {form : Form} {value : Value} {forms : List Form} {values : List Value}
      (first : round state form value next) (others : Rounds round next forms values last) :
      Rounds round state (form :: forms) (value :: values) last

theorem Rounds.forall₂ {Form : Type} {round : State -> Form -> Value -> State -> Prop}
    {relation : Form -> Value -> Prop} {forms : List Form} {values : List Value} {last : State} (rounds : Rounds round state forms values last)
    (implies : forall state form value next, round state form value next -> relation form value) :
    List.Forall₂ relation forms values := by
  induction rounds with
  | finished => exact .nil
  | again first others inductionHypothesis => exact .cons (implies _ _ _ _ first) inductionHypothesis

/-- A repeated rule that leads to the same stage each time.  The first time it
may begin elsewhere, and if there is no first time the stage stays. -/
theorem follows_repeatWhile {Form : Type} {size : State -> Nat} {mayBegin : State -> Bool} {rule : Rule State Value}
    {shrinks : forall state value next, mayBegin state = true -> rule state = .ok value next -> size next < size state}
    {target : Stage} {starts : List Stage} {path : String} {tokensOf : Form -> List Token}
    {round : State -> Form -> Value -> State -> Prop} (again : target ∈ starts)
    (once : forall stage state, stage ∈ starts -> mayBegin state = true -> (streamOf state).path = path ->
      Follows streamOf stage rule state fun value next tokens last =>
        last = target ∧ ∃ form, tokens = tokensOf form ∧ round state form value next)
    (begins : stage ∈ starts) (samePath : (streamOf state).path = path) :
    Follows streamOf stage (Rule.repeatWhile size mayBegin rule shrinks) state fun values next tokens last =>
      mayBegin next = false ∧ last = (if values = [] then stage else target) ∧
        ∃ forms, tokens = forms.flatMap tokensOf ∧ Rounds round state forms values next := by
  unfold Follows
  fun_induction Rule.repeatWhile size mayBegin rule shrinks state generalizing stage with
  | case1 state here error next ran => exact (once stage state begins here samePath).error ran
  | case2 state here value next ran shorter error final failed inductionHypothesis =>
      rcases (once stage state begins here samePath).ok ran with ⟨tokens, last, passes, reached, rfl, _⟩
      have later := inductionHypothesis again (passes.path.trans samePath)
      rw [failed] at later
      exact later.after passes reached
  | case3 state here value next ran shorter values final succeeded inductionHypothesis =>
      rcases (once stage state begins here samePath).ok ran with
        ⟨tokens, last, passes, reached, rfl, form, rfl, related⟩
      have later := inductionHypothesis again (passes.path.trans samePath)
      rw [succeeded] at later
      rcases later with ⟨more, finalStage, further, reachedLater, stops, sameStage, forms, rfl, others⟩
      refine ⟨_, finalStage, passes.trans further, ?_, stops, ?_, form :: forms, rfl, .again related others⟩
      · rw [kindsOf_append, Stage.run_append_of_some reached, reachedLater]
      · rw [sameStage, ite_self, if_neg (List.cons_ne_nil _ _)]
  | case4 state stops =>
      exact ⟨[], stage, .refl _, rfl, Bool.eq_false_iff.mpr stops, (if_pos rfl).symm, [], rfl, .finished⟩

end

end TemplateFile
