import TemplateFile.Grammar.Expectation
import TemplateFile.Grammar.SyntaxError
import TemplateFile.Token.Stream

namespace TemplateFile

/-!
# Rules of the grammar

A rule reads from a state and either gives a value or stops with a syntax
error; in both cases the state shows how far it came.  Rules never step back.
The rules for the head of a file read from a token stream and have nothing else
to change, so an error in the head cannot leave any trace but the position.

`repeatWhile` repeats a rule as long as the state allows it to begin.  It asks
for the proof that the rule leaves less to read whenever it succeeds, and so
needs no other bound.
-/

/-- A rule that reads from a state. -/
abbrev Rule (State Value : Type) := EStateM SyntaxError State Value

namespace Rule

/-- Repeat a rule while it may begin, and collect its values. -/
def repeatWhile {State Value : Type} (size : State -> Nat) (mayBegin : State -> Bool) (rule : Rule State Value)
    (shrinks : forall state value next, mayBegin state = true -> rule state = .ok value next ->
      size next < size state) : Rule State (List Value) := fun state =>
  if begins : mayBegin state = true then
    match ran : rule state with
    | .error error next => .error error next
    | .ok value next =>
        have := shrinks state value next begins ran
        match repeatWhile size mayBegin rule shrinks next with
        | .error error last => .error error last
        | .ok values last => .ok (value :: values) last
  else .ok [] state
termination_by state => size state

/-- A sequence of two rules succeeds only if both do, one after the other. -/
theorem ok_of_bind {State First Second : Type} {rule : Rule State First} {following : First -> Rule State Second}
    {state last : State} {value : Second} (ran : (rule >>= following) state = .ok value last) :
    ∃ first middle, rule state = .ok first middle ∧ following first middle = .ok value last := by
  change EStateM.bind rule following state = .ok value last at ran
  unfold EStateM.bind at ran
  split at ran
  · next first middle here => exact ⟨first, middle, here, ran⟩
  · cases ran

/-- Run a rule only if it may begin. -/
def optionally {State Value : Type} (mayBegin : State -> Bool) (rule : Rule State Value) :
    Rule State (Option Value) := fun state =>
  if mayBegin state then rule.map some state else .ok none state

end Rule

/-- A rule for the head of a file. -/
abbrev HeaderRule (Value : Type) := Rule TokenStream Value

namespace TokenStream

/-- The error that the current token is, where something else was expected. -/
def errorHere (stream : TokenStream) (expected : String) : SyntaxError where
  fault :=
    if stream.current.kind = .unexpected then .unrecognised stream.current.displayText
    else .unexpected stream.current.displayText expected
  location := stream.locationOf stream.current

end TokenStream

namespace HeaderRule

/-- Stop at the current token. -/
def unexpected {Value : Type} (expected : String) : HeaderRule Value := fun stream =>
  .error (stream.errorHere expected) stream

/-- Read the current token, whatever it is. -/
def next : HeaderRule Token := fun stream => .ok stream.current stream.advance

/-- Read the current token if it has the given kind, and stop otherwise. -/
def expect (kind : TokenKind) (expected : String) : HeaderRule Token := fun stream =>
  if stream.current.kind = kind then next stream else unexpected expected stream

/-- Read the current token if it has the given kind, and stop with an
expectation otherwise. -/
def want (kind : TokenKind) (expectation : Expectation) : HeaderRule Token := expect kind expectation.text

/-- Whether the current token has the given kind. -/
def standsAt (kind : TokenKind) (stream : TokenStream) : Bool := decide (stream.current.kind = kind)

/-- Reading a token of a given kind succeeds exactly where one stands. -/
theorem expect_eq_ok_iff {kind : TokenKind} {expected : String} {stream after : TokenStream} {token : Token} :
    expect kind expected stream = .ok token after ↔
      stream.current.kind = kind ∧ token = stream.current ∧ after = stream.advance := by
  unfold expect
  split
  · next same =>
      simp only [next, EStateM.Result.ok.injEq, same, true_and]
      exact ⟨fun equal => ⟨equal.1.symm, equal.2.symm⟩, fun equal => ⟨equal.1.symm, equal.2.symm⟩⟩
  · next different =>
      simp only [unexpected, reduceCtorEq, different, false_and]

/-! ## What a rule leaves to read -/

/-- A rule that never leaves more tokens than it found. -/
def Forward {Value : Type} (rule : HeaderRule Value) : Prop :=
  forall stream value after, rule stream = .ok value after -> after.size ≤ stream.size

/-- A rule that leaves fewer tokens than it found. -/
def Consuming {Value : Type} (rule : HeaderRule Value) : Prop :=
  forall stream value after, rule stream = .ok value after -> after.size < stream.size

theorem Consuming.forward {Value : Type} {rule : HeaderRule Value} (consuming : Consuming rule) : Forward rule :=
  fun stream value after ran => Nat.le_of_lt (consuming stream value after ran)

theorem forward_pure {Value : Type} (value : Value) : Forward (pure value : HeaderRule Value) := by
  intro stream result after ran
  cases ran
  exact Nat.le_refl _

theorem forward_next : Forward next := by
  intro stream result after ran
  cases ran
  exact stream.size_advance_le

theorem Forward.bind {First Second : Type} {rule : HeaderRule First} {following : First -> HeaderRule Second}
    (before : Forward rule) (later : forall value, Forward (following value)) : Forward (rule >>= following) := by
  intro stream value after ran
  rcases Rule.ok_of_bind ran with ⟨first, middle, here, there⟩
  exact Nat.le_trans (later first middle value after there) (before stream first middle here)

theorem Consuming.bind {First Second : Type} {rule : HeaderRule First} {following : First -> HeaderRule Second}
    (before : Consuming rule) (later : forall value, Forward (following value)) :
    Consuming (rule >>= following) := by
  intro stream value after ran
  rcases Rule.ok_of_bind ran with ⟨first, middle, here, there⟩
  exact Nat.lt_of_le_of_lt (later first middle value after there) (before stream first middle here)

theorem Forward.optionally {Value : Type} {rule : HeaderRule Value} (forward : Forward rule)
    (mayBegin : TokenStream -> Bool) : Forward (Rule.optionally mayBegin rule) := by
  intro stream value after ran
  unfold Rule.optionally at ran
  split at ran
  · unfold EStateM.map at ran
    split at ran
    · next result middle here =>
        cases ran
        exact forward stream result after here
    · cases ran
  · cases ran
    exact Nat.le_refl _

theorem Forward.repeatWhile {Value : Type} {rule : HeaderRule Value} {mayBegin : TokenStream -> Bool}
    (shrinks : forall stream value after, mayBegin stream = true -> rule stream = .ok value after ->
      after.size < stream.size) :
    Forward (Rule.repeatWhile TokenStream.size mayBegin rule shrinks) := by
  intro stream
  fun_induction Rule.repeatWhile TokenStream.size mayBegin rule shrinks stream with
  | case1 stream begins error middle ran =>
      intro value after impossible
      cases impossible
  | case2 stream begins first middle ran shorter error last failed inductionHypothesis =>
      intro value after impossible
      cases impossible
  | case3 stream begins first middle ran shorter values last succeeded inductionHypothesis =>
      intro value after equal
      cases equal
      exact Nat.le_trans (inductionHypothesis _ _ succeeded) (Nat.le_of_lt shorter)
  | case4 stream stops =>
      intro value after equal
      cases equal
      exact Nat.le_refl _

theorem forward_want (kind : TokenKind) (expectation : Expectation) : Forward (want kind expectation) := by
  intro stream token after ran
  rcases expect_eq_ok_iff.mp ran with ⟨_, _, rfl⟩
  exact stream.size_advance_le

/-- Reading a token that does not end the file leaves fewer tokens. -/
theorem consuming_want {kind : TokenKind} (inner : kind ≠ .endOfFile) (expectation : Expectation) :
    Consuming (want kind expectation) := by
  intro stream token after ran
  rcases expect_eq_ok_iff.mp ran with ⟨same, _, rfl⟩
  exact TokenStream.size_advance_lt (same ▸ inner)

end HeaderRule

end TemplateFile
