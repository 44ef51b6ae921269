import TemplateFile.Proofs.Grammar.HeadTokens

namespace TemplateFile

/-!
# Where a rule stops, and how far it comes

A rule for the head of a file can be tried anywhere, also where it has no turn.
It stops only on account of the token that is then current, and it has not read
that token.  When it succeeds it has read something.  So no rule ever reads a
token and then fails because of it.
-/

/-- A sequence of two rules fails with the first one, or after it with the second. -/
theorem Rule.error_of_bind {State First Second : Type} {rule : Rule State First}
    {following : First -> Rule State Second} {state last : State} {error : SyntaxError}
    (ran : (rule >>= following) state = .error error last) :
    rule state = .error error last ∨
      ∃ first middle, rule state = .ok first middle ∧ following first middle = .error error last := by
  change EStateM.bind rule following state = .error error last at ran
  unfold EStateM.bind at ran
  split at ran
  · next first middle here => exact Or.inr ⟨first, middle, here, ran⟩
  · next failed middle here =>
      cases ran
      exact Or.inl here

namespace HeaderRule

/-! ## Errors are about the current token -/

/-- A rule whose errors are about the token where it stops. -/
def StopsHere {Value : Type} (rule : HeaderRule Value) : Prop :=
  forall stream error after, rule stream = .error error after -> ∃ expected, error = after.errorHere expected

theorem stopsHere_pure {Value : Type} (value : Value) : StopsHere (pure value : HeaderRule Value) := by
  intro stream error after impossible
  cases impossible

theorem stopsHere_get : StopsHere (get : HeaderRule TokenStream) := by
  intro stream error after impossible
  cases impossible

theorem stopsHere_next : StopsHere next := by
  intro stream error after impossible
  cases impossible

theorem stopsHere_unexpected {Value : Type} (expected : String) :
    StopsHere (unexpected expected : HeaderRule Value) := by
  intro stream error after ran
  cases ran
  exact ⟨expected, rfl⟩

theorem expect_of_error {kind : TokenKind} {expected : String} {stream after : TokenStream} {error : SyntaxError}
    (ran : expect kind expected stream = .error error after) :
    error = stream.errorHere expected ∧ after = stream := by
  unfold expect at ran
  split at ran
  · cases ran
  · cases ran
    exact ⟨rfl, rfl⟩

theorem stopsHere_expect (kind : TokenKind) (expected : String) : StopsHere (expect kind expected) := by
  intro stream error after ran
  rcases expect_of_error ran with ⟨rfl, rfl⟩
  exact ⟨expected, rfl⟩

theorem StopsHere.bind {First Second : Type} {rule : HeaderRule First} {following : First -> HeaderRule Second}
    (first : StopsHere rule) (second : forall value, StopsHere (following value)) : StopsHere (rule >>= following) := by
  intro stream error after ran
  rcases Rule.error_of_bind ran with here | ⟨value, middle, _, there⟩
  · exact first stream error after here
  · exact second value middle error after there

theorem StopsHere.optionally {Value : Type} {rule : HeaderRule Value} (stops : StopsHere rule)
    (mayBegin : TokenStream -> Bool) : StopsHere (Rule.optionally mayBegin rule) := by
  intro stream error after ran
  unfold Rule.optionally at ran
  split at ran
  · unfold EStateM.map at ran
    split at ran
    · cases ran
    · next failed middle here =>
        cases ran
        exact stops stream error after here
  · cases ran

theorem StopsHere.repeatWhile {Value : Type} {rule : HeaderRule Value} {mayBegin : TokenStream -> Bool}
    {shrinks : forall stream value after, mayBegin stream = true -> rule stream = .ok value after ->
      after.size < stream.size} (stops : StopsHere rule) :
    StopsHere (Rule.repeatWhile TokenStream.size mayBegin rule shrinks) := by
  intro stream
  fun_induction Rule.repeatWhile TokenStream.size mayBegin rule shrinks stream with
  | case1 stream begins failed middle ran =>
      rintro _ _ ⟨⟩
      exact stops stream failed middle ran
  | case2 stream begins first middle ran shorter failed last ranLater inductionHypothesis =>
      rintro _ _ ⟨⟩
      exact inductionHypothesis failed last ranLater
  | case3 stream begins first middle ran shorter values last succeeded inductionHypothesis =>
      intro error after impossible
      cases impossible
  | case4 stream ends =>
      intro error after impossible
      cases impossible

theorem stopsHere_packageTag : StopsHere packageTag :=
  (stopsHere_expect _ _).bind fun _ => (stopsHere_expect _ _).bind fun _ => (stopsHere_expect _ _).bind fun _ =>
    stopsHere_pure _

theorem stopsHere_attributePair : StopsHere attributePair := by
  refine stopsHere_get.bind fun stream => ?_
  split
  · exact stopsHere_next.bind fun _ => (stopsHere_expect _ _).bind fun _ => (stopsHere_expect _ _).bind fun _ =>
      stopsHere_pure _
  · exact stopsHere_unexpected _

theorem stopsHere_namespaceTag : StopsHere namespaceTag :=
  stopsHere_get.bind fun _ => (stopsHere_expect _ _).bind fun _ => (stopsHere_expect _ _).bind fun _ =>
    stopsHere_attributePair.repeatWhile.bind fun _ => (stopsHere_expect _ _).bind fun _ => stopsHere_pure _

theorem stopsHere_localName : StopsHere localName :=
  stopsHere_next.bind fun _ => (stopsHere_expect _ _).bind fun _ => stopsHere_pure _

theorem stopsHere_aliasTag : StopsHere aliasTag :=
  stopsHere_get.bind fun _ => (stopsHere_expect _ _).bind fun _ => (stopsHere_expect _ _).bind fun _ =>
    (stopsHere_localName.optionally _).bind fun _ => (stopsHere_expect _ _).bind fun _ => stopsHere_pure _

/-! ## A rule that succeeds has read something -/

theorem consuming_packageTag : Consuming packageTag :=
  (consuming_want (by decide) _).bind fun _ => (forward_want _ _).bind fun _ => (forward_want _ _).bind fun _ =>
    forward_pure _

theorem consuming_attributePair : Consuming attributePair := by
  intro stream value after ran
  cases begins : standsAtKey stream with
  | true => exact size_lt_of_attributePair stream value after begins ran
  | false =>
      rcases Rule.ok_of_bind ran with ⟨seen, _, ⟨⟩, there⟩
      rw [begins] at there
      cases there

theorem consuming_namespaceTag : Consuming namespaceTag := by
  intro stream value after ran
  rcases Rule.ok_of_bind ran with ⟨seen, _, ⟨⟩, there⟩
  exact (consuming_want (by decide) _).bind (fun _ => (forward_want _ _).bind fun _ =>
    (Forward.repeatWhile size_lt_of_attributePair).bind fun _ => (forward_want _ _).bind fun _ => forward_pure _)
      stream value after there

end HeaderRule

end TemplateFile
