import TemplateFile.Proofs.Grammar.Reading

namespace TemplateFile

/-!
# The head of a file passes no template

A rule for the head of a file may fail after it has read something, and then
the tokens that it read are not those of any part of a file.  All the same
there is no template among them: a rule reads a token only if it has the kind
of the token that is wanted, or if it begins an attribute or a local name.
This is shown of each rule from any stream, whether the rule then succeeds or
not.
-/

/-- Tokens have been passed, and none of them is a template. -/
def TokenStream.PassesHead (before after : TokenStream) : Prop :=
  ∃ tokens, before.Passes tokens after ∧ forall token, token ∈ tokens -> token.kind.isTemplate = false

namespace TokenStream.PassesHead

variable {before middle after : TokenStream}

theorem refl (stream : TokenStream) : stream.PassesHead stream :=
  ⟨[], .refl stream, fun _ impossible => by cases impossible⟩

theorem trans (first : before.PassesHead middle) (second : middle.PassesHead after) : before.PassesHead after := by
  rcases first with ⟨tokens, passes, noTemplate⟩
  rcases second with ⟨more, further, noTemplateFurther⟩
  refine ⟨tokens ++ more, passes.trans further, ?_⟩
  intro token member
  exact (List.mem_append.mp member).elim (noTemplate token) (noTemplateFurther token)

theorem advance (inner : before.current.kind ≠ .endOfFile) (noTemplate : before.current.kind.isTemplate = false) :
    before.PassesHead before.advance := by
  refine ⟨[before.current], passes_advance inner, ?_⟩
  intro token member
  rw [List.mem_singleton.mp member]
  exact noTemplate

end TokenStream.PassesHead

/-- A rule for the head that passes no template, wherever it ends. -/
def HeaderRule.StaysInHead {Value : Type} (rule : HeaderRule Value) (stream : TokenStream) : Prop :=
  match rule stream with
  | .ok _ after => stream.PassesHead after
  | .error _ after => stream.PassesHead after

namespace HeaderRule

section

variable {First Second Value : Type} {stream after : TokenStream}

theorem staysInHead_of_ok {rule : HeaderRule Value} {value : Value} (ran : rule stream = .ok value after)
    (passes : stream.PassesHead after) : rule.StaysInHead stream := by
  unfold StaysInHead
  rw [ran]
  exact passes

theorem staysInHead_of_error {rule : HeaderRule Value} {error : SyntaxError} (ran : rule stream = .error error after)
    (passes : stream.PassesHead after) : rule.StaysInHead stream := by
  unfold StaysInHead
  rw [ran]
  exact passes

theorem StaysInHead.ok {rule : HeaderRule Value} {value : Value} (stays : rule.StaysInHead stream)
    (ran : rule stream = .ok value after) : stream.PassesHead after := by
  unfold StaysInHead at stays
  rw [ran] at stays
  exact stays

theorem StaysInHead.error {rule : HeaderRule Value} {error : SyntaxError} (stays : rule.StaysInHead stream)
    (ran : rule stream = .error error after) : stream.PassesHead after := by
  unfold StaysInHead at stays
  rw [ran] at stays
  exact stays

theorem staysInHead_pure (value : Value) : (pure value : HeaderRule Value).StaysInHead stream := .refl stream

theorem staysInHead_get : (get : HeaderRule TokenStream).StaysInHead stream := .refl stream

theorem staysInHead_unexpected (expected : String) : (unexpected expected : HeaderRule Value).StaysInHead stream :=
  .refl stream

theorem staysInHead_next (inner : stream.current.kind ≠ .endOfFile)
    (noTemplate : stream.current.kind.isTemplate = false) : next.StaysInHead stream :=
  .advance inner noTemplate

theorem StaysInHead.bind {rule : HeaderRule First} {following : First -> HeaderRule Second}
    (first : rule.StaysInHead stream)
    (second : forall value middle, rule stream = .ok value middle -> (following value).StaysInHead middle) :
    (rule >>= following).StaysInHead stream := by
  cases ran : rule stream with
  | error error middle =>
      have stopped : (rule >>= following) stream = .error error middle := by
        change EStateM.bind rule following stream = _
        simp only [EStateM.bind, ran]
      exact staysInHead_of_error stopped (first.error ran)
  | ok value middle =>
      have later := second value middle ran
      have bound : (rule >>= following) stream = following value middle := by
        change EStateM.bind rule following stream = _
        simp only [EStateM.bind, ran]
      cases ranLater : following value middle with
      | error error last =>
          exact staysInHead_of_error (bound.trans ranLater) ((first.ok ran).trans (later.error ranLater))
      | ok result last => exact staysInHead_of_ok (bound.trans ranLater) ((first.ok ran).trans (later.ok ranLater))

theorem StaysInHead.optionally {rule : HeaderRule Value} {mayBegin : TokenStream -> Bool}
    (stays : mayBegin stream = true -> rule.StaysInHead stream) :
    HeaderRule.StaysInHead (Rule.optionally mayBegin rule) stream := by
  cases begins : mayBegin stream with
  | false =>
      have skipped : Rule.optionally mayBegin rule stream = .ok none stream := by
        simp only [Rule.optionally, begins, Bool.false_eq_true, if_false]
      exact staysInHead_of_ok skipped (.refl stream)
  | true =>
      cases ran : rule stream with
      | error error after =>
          have stopped : Rule.optionally mayBegin rule stream = .error error after := by
            simp only [Rule.optionally, begins, if_true, EStateM.map, ran]
          exact staysInHead_of_error stopped ((stays begins).error ran)
      | ok value after =>
          have found : Rule.optionally mayBegin rule stream = .ok (some value) after := by
            simp only [Rule.optionally, begins, if_true, EStateM.map, ran]
          exact staysInHead_of_ok found ((stays begins).ok ran)

theorem StaysInHead.repeatWhile {rule : HeaderRule Value} {mayBegin : TokenStream -> Bool}
    {shrinks : forall stream value after, mayBegin stream = true -> rule stream = .ok value after ->
      after.size < stream.size}
    (stays : forall stream, mayBegin stream = true -> rule.StaysInHead stream) (stream : TokenStream) :
    HeaderRule.StaysInHead (Rule.repeatWhile TokenStream.size mayBegin rule shrinks) stream := by
  unfold StaysInHead
  fun_induction Rule.repeatWhile TokenStream.size mayBegin rule shrinks stream with
  | case1 stream begins error middle ran => exact (stays stream begins).error ran
  | case2 stream begins first middle ran shorter error last failed inductionHypothesis =>
      rw [failed] at inductionHypothesis
      exact ((stays stream begins).ok ran).trans inductionHypothesis
  | case3 stream begins first middle ran shorter values last succeeded inductionHypothesis =>
      rw [succeeded] at inductionHypothesis
      exact ((stays stream begins).ok ran).trans inductionHypothesis
  | case4 stream stops => exact .refl stream

theorem staysInHead_want {kind : TokenKind} (inner : kind ≠ .endOfFile) (noTemplate : kind.isTemplate = false)
    (expectation : Expectation) : (want kind expectation).StaysInHead stream := by
  by_cases here : stream.current.kind = kind
  · have ran : want kind expectation stream = .ok stream.current stream.advance := by
      simp only [want, expect, here, if_true, next]
    exact staysInHead_of_ok ran (.advance (here ▸ inner) (here ▸ noTemplate))
  · have ran : want kind expectation stream = .error (stream.errorHere expectation.text) stream := by
      simp only [want, expect, here, if_false, unexpected]
    exact staysInHead_of_error ran (.refl stream)

end

/-! ## The rules for the head -/

variable {stream : TokenStream}

theorem staysInHead_packageTag : packageTag.StaysInHead stream := by
  apply (staysInHead_want (by decide) rfl _).bind
  intro _ _ _
  apply (staysInHead_want (by decide) rfl _).bind
  intro _ _ _
  apply (staysInHead_want (by decide) rfl _).bind
  intro _ _ _
  exact staysInHead_pure _

theorem staysInHead_attributePair : attributePair.StaysInHead stream := by
  apply staysInHead_get.bind
  rintro _ _ ⟨⟩
  cases begins : standsAtKey stream with
  | false => exact staysInHead_unexpected _
  | true =>
      have notEnd : stream.current.kind ≠ .endOfFile := by
        intro ends
        simp only [standsAtKey, ends, TokenKind.isAttributeKey, Bool.false_eq_true] at begins
      have noTemplate : stream.current.kind.isTemplate = false := by
        unfold standsAtKey at begins
        revert begins
        cases stream.current.kind with
        | template kind => exact fun impossible => by cases impossible
        | _ => exact fun _ => rfl
      rw [if_pos rfl]
      apply (staysInHead_next notEnd noTemplate).bind
      intro _ _ _
      apply (staysInHead_want (by decide) rfl _).bind
      intro _ _ _
      apply (staysInHead_want (by decide) rfl _).bind
      intro _ _ _
      exact staysInHead_pure _

theorem staysInHead_namespaceTag : namespaceTag.StaysInHead stream := by
  apply staysInHead_get.bind
  intro _ _ _
  apply (staysInHead_want (by decide) rfl _).bind
  intro _ _ _
  apply (staysInHead_want (by decide) rfl _).bind
  intro _ middle _
  apply (StaysInHead.repeatWhile (fun _ _ => staysInHead_attributePair) middle).bind
  intro _ _ _
  apply (staysInHead_want (by decide) rfl _).bind
  intro _ _ _
  exact staysInHead_pure _

theorem staysInHead_localName (begins : standsAt .asWord stream = true) : localName.StaysInHead stream := by
  have here : stream.current.kind = .asWord := of_decide_eq_true begins
  have notEnd : stream.current.kind ≠ .endOfFile := by
    rw [here]
    decide
  apply (staysInHead_next notEnd (by rw [here]; rfl)).bind
  intro _ _ _
  apply (staysInHead_want (by decide) rfl _).bind
  intro _ _ _
  exact staysInHead_pure _

theorem staysInHead_aliasTag : aliasTag.StaysInHead stream := by
  apply staysInHead_get.bind
  intro _ _ _
  apply (staysInHead_want (by decide) rfl _).bind
  intro _ _ _
  apply (staysInHead_want (by decide) rfl _).bind
  intro _ _ _
  apply (StaysInHead.optionally staysInHead_localName).bind
  intro _ _ _
  apply (staysInHead_want (by decide) rfl _).bind
  intro _ _ _
  exact staysInHead_pure _

end HeaderRule

/-- The head of a file passes no template, also if it fails. -/
theorem FileHead.staysInHead_rule {stream : TokenStream} : HeaderRule.StaysInHead rule stream := by
  apply (HeaderRule.StaysInHead.optionally fun _ => HeaderRule.staysInHead_packageTag).bind
  intro _ _ _
  apply (HeaderRule.StaysInHead.optionally fun _ => HeaderRule.staysInHead_namespaceTag).bind
  intro _ middle _
  apply (HeaderRule.StaysInHead.repeatWhile (fun _ _ => HeaderRule.staysInHead_aliasTag) middle).bind
  intro _ _ _
  exact HeaderRule.staysInHead_pure _

end TemplateFile
