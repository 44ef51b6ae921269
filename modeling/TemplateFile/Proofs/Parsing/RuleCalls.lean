import TemplateFile.Proofs.Grammar.Stopping
import TemplateFile.Proofs.Parsing.Numbering

namespace TemplateFile

/-!
# Rules called one by one

The rules of the grammar may also be called one by one, in any order, and one
may go on after an error.  Whatever is called, the tokens are read from the
first to the last.  A call that succeeds has read some tokens in a row.  A call
that fails leaves the token that its error is about to be read next, and unless
it was the rule for a whole file it has left no trace other than that.

Each call is a turn.  What a turn does is shown of one turn first, from any
state, and then of all turns of a run.
-/

/-! ## Places in a stream -/

namespace TokenStream

/-- The stream is what is left of another one after `position` tokens.  The last
token may stand at that position, but it has not been passed. -/
structure StandsAt (whole stream : TokenStream) (position : Nat) : Prop where
  notPast : position ≤ whole.size
  rest : stream.toList = whole.toList.drop position
  path : stream.path = whole.path

/-- Both are places in one stream, and the second does not come before the first. -/
def Advances (whole before after : TokenStream) : Prop :=
  ∃ first last, first ≤ last ∧ whole.StandsAt before first ∧ whole.StandsAt after last

variable {whole stream before after : TokenStream} {tokens more : List Token}

theorem Passes.standsAt (passes : whole.Passes tokens stream) : whole.StandsAt stream tokens.length where
  notPast := by
    rw [size, passes.pending, List.length_append]
    exact Nat.le_add_right _ _
  rest := by
    rw [toList, toList, passes.pending, passes.final, List.append_assoc, List.drop_left]
  path := passes.path

/-- The current token is the one at the position. -/
theorem StandsAt.getElem?_eq {position : Nat} (stands : whole.StandsAt stream position) :
    whole.toList[position]? = some stream.current := by
  have here := congrArg List.head? stands.rest
  rw [List.head?_drop] at here
  rw [← here, toList, current, List.headD_eq_head?_getD]
  cases stream.pending <;> rfl

theorem Passes.advances (toBefore : whole.Passes tokens before) (passes : before.Passes more after) :
    whole.Advances before after := by
  refine ⟨tokens.length, (tokens ++ more).length, ?_, toBefore.standsAt, (toBefore.trans passes).standsAt⟩
  rw [List.length_append]
  exact Nat.le_add_right _ _

/-- Tokens have been read, and there is at least one unless the stream was at its end. -/
def Reads (before after : TokenStream) : Prop :=
  ∃ tokens, before.Passes tokens after ∧ (tokens = [] -> before.current.kind = .endOfFile)

theorem Reads.passes (reads : before.Reads after) : ∃ tokens, before.Passes tokens after := by
  rcases reads with ⟨tokens, passes, _⟩
  exact ⟨tokens, passes⟩

theorem reads_advance (stream : TokenStream) : stream.Reads stream.advance := by
  by_cases ended : stream.current.kind = .endOfFile
  · refine ⟨[], ⟨?_, rfl, rfl⟩, fun _ => ended⟩
    change stream.pending = stream.pending.tail
    rw [stream.current_kind_eq_endOfFile_iff.mp ended]
    rfl
  · exact ⟨[stream.current], passes_advance ended, fun impossible => by cases impossible⟩

theorem Passes.reads (passes : before.Passes tokens after) (shorter : after.size < before.size) :
    before.Reads after := by
  refine ⟨tokens, passes, fun nothing => ?_⟩
  rw [size, size, passes.pending, nothing, List.nil_append] at shorter
  exact absurd shorter (Nat.lt_irrefl _)

end TokenStream

/-- The error quotes a token of the file at `path` and locates it. -/
structure SyntaxError.IsAbout (error : SyntaxError) (path : String) (token : Token) : Prop where
  quotes : if token.kind = .unexpected then error.fault = .unrecognised token.displayText
    else ∃ expected, error.fault = .unexpected token.displayText expected
  locates : error.location = Location.ofSpan path token.span

theorem TokenStream.errorHere_isAbout (stream : TokenStream) (expected : String) :
    (stream.errorHere expected).IsAbout stream.path stream.current where
  quotes := by
    unfold errorHere
    split
    · rfl
    · exact ⟨expected, rfl⟩
  locates := rfl

/-! ## Calls -/

/-- A rule that reads tokens and does nothing else. -/
inductive HeadCall where
  | packageTag
  | namespaceTag
  | attributePair
  | aliasTag
  | expect (kind : TokenKind) (expected : String)
  | advance
deriving DecidableEq, Repr

/-- A rule that can be called. -/
inductive RuleCall where
  | file (kind : FileKind)
  | template (namespaceName : Option String)
  | head (call : HeadCall)
deriving DecidableEq, Repr

/-- What a call gives when it succeeds. -/
inductive RuleValue where
  | file (file : SourceFile)
  | template (template : Template)
  | packageName (name : String)
  | namespaceTag (declaration : NamespaceDeclaration)
  | attributePair (pair : Attribute)
  | aliasTag (declaration : AliasDeclaration)
  | token (token : Token)
deriving DecidableEq, Repr

/-- The rule of a call for the head of a file. -/
def HeadCall.rule : HeadCall -> HeaderRule RuleValue
  | packageTag => do return .packageName (← HeaderRule.packageTag)
  | namespaceTag => do return .namespaceTag (← HeaderRule.namespaceTag)
  | attributePair => do return .attributePair (← HeaderRule.attributePair)
  | aliasTag => do return .aliasTag (← HeaderRule.aliasTag)
  | expect kind expected => do return .token (← HeaderRule.expect kind expected)
  | advance => do return .token (← HeaderRule.next)

/-- The rule of a call. -/
def RuleCall.rule (script : BodyScript) : RuleCall -> FileRule RuleValue
  | file kind => do return .file (← FileRule.sourceFile script kind)
  | template namespaceName => do return .template (← FileRule.template script namespaceName)
  | head call => FileRule.ofHeader call.rule

/-- Whether the call looks at one token only. -/
def RuleCall.IsSingle : RuleCall -> Prop
  | template _ => True
  | head (.expect _ _) => True
  | _ => False

/-- A call, the states before and after it, and what came of it. -/
structure Turn where
  call : RuleCall
  before : ParseState
  reply : Except SyntaxError RuleValue
  after : ParseState

namespace ParseState

/-- The turn of a call. -/
def turn (script : BodyScript) (state : ParseState) (call : RuleCall) : Turn :=
  match call.rule script state with
  | .ok value after => ⟨call, state, .ok value, after⟩
  | .error error after => ⟨call, state, .error error, after⟩

/-- The turns of several calls, each made in the state that the one before it left. -/
def turns (script : BodyScript) : ParseState -> List RuleCall -> List Turn
  | _, [] => []
  | state, call :: calls => state.turn script call :: turns script (state.turn script call).after calls

end ParseState

/-! ## What one call does -/

/-- Nothing but the tokens left has changed. -/
structure ParseState.KeepsRecords (before after : ParseState) : Prop where
  ids : after.ids = before.ids
  log : after.log = before.log
  requests : after.requests = before.requests

/-- Templates have been read after a file has taken its id, and all ids are
theirs, their nodes' and the file's. -/
structure ParseState.GivesTo (script : BodyScript) (before after : ParseState) (templates : List TemplateForm) : Prop where
  requests : after.requests = before.requests ++ templates.map (TemplateForm.request before.tokens.path)
  given : before.ids.upTo after.ids =
    before.ids.next :: (before.templatesRead script).flatMap Template.ids
  sameLength : (before.templatesRead script).length = templates.length
  taken : after.ids.next = before.ids.next + 1 + templates.length +
    (script.passagesFor before.requests.length (templates.map (TemplateForm.request before.tokens.path))).length

namespace Rule

variable {State First Second : Type} {rule : Rule State First} {wrap : First -> Second} {state last : State}

theorem ok_of_bind_pure {result : Second}
    (ran : (rule >>= fun value => pure (wrap value)) state = .ok result last) :
    ∃ value, rule state = .ok value last ∧ result = wrap value := by
  rcases ok_of_bind ran with ⟨value, middle, here, ⟨⟩⟩
  exact ⟨value, here, rfl⟩

theorem error_of_bind_pure {error : SyntaxError}
    (ran : (rule >>= fun value => pure (wrap value)) state = .error error last) : rule state = .error error last := by
  rcases error_of_bind ran with here | ⟨value, middle, _, ⟨⟩⟩
  exact here

end Rule

namespace HeaderRule

variable {Value : Type} {rule : HeaderRule Value} {stream after : TokenStream}

theorem StaysInHead.reads {value : Value} (stays : rule.StaysInHead stream) (consuming : Consuming rule)
    (ran : rule stream = .ok value after) : stream.Reads after := by
  rcases stays.ok ran with ⟨tokens, passes, _⟩
  exact passes.reads (consuming stream value after ran)

theorem StaysInHead.passes_of_error {error : SyntaxError} (stays : rule.StaysInHead stream)
    (ran : rule stream = .error error after) : ∃ tokens, stream.Passes tokens after := by
  rcases stays.error ran with ⟨tokens, passes, _⟩
  exact ⟨tokens, passes⟩

end HeaderRule

namespace HeadCall

variable {call : HeadCall} {stream after : TokenStream}

theorem reads_of_ok {value : RuleValue} (ran : call.rule stream = .ok value after) : stream.Reads after := by
  cases call with
  | packageTag =>
      rcases Rule.ok_of_bind_pure ran with ⟨_, here, _⟩
      exact HeaderRule.staysInHead_packageTag.reads HeaderRule.consuming_packageTag here
  | namespaceTag =>
      rcases Rule.ok_of_bind_pure ran with ⟨_, here, _⟩
      exact HeaderRule.staysInHead_namespaceTag.reads HeaderRule.consuming_namespaceTag here
  | attributePair =>
      rcases Rule.ok_of_bind_pure ran with ⟨_, here, _⟩
      exact HeaderRule.staysInHead_attributePair.reads HeaderRule.consuming_attributePair here
  | aliasTag =>
      rcases Rule.ok_of_bind_pure ran with ⟨_, here, _⟩
      exact HeaderRule.staysInHead_aliasTag.reads HeaderRule.consuming_aliasTag here
  | expect kind expected =>
      rcases Rule.ok_of_bind_pure ran with ⟨_, here, _⟩
      rcases HeaderRule.expect_eq_ok_iff.mp here with ⟨_, _, rfl⟩
      exact stream.reads_advance
  | advance =>
      rcases Rule.ok_of_bind_pure ran with ⟨_, ⟨⟩, _⟩
      exact stream.reads_advance

theorem passes_of_error {error : SyntaxError} (ran : call.rule stream = .error error after) :
    ∃ tokens, stream.Passes tokens after := by
  cases call with
  | packageTag => exact HeaderRule.staysInHead_packageTag.passes_of_error (Rule.error_of_bind_pure ran)
  | namespaceTag => exact HeaderRule.staysInHead_namespaceTag.passes_of_error (Rule.error_of_bind_pure ran)
  | attributePair => exact HeaderRule.staysInHead_attributePair.passes_of_error (Rule.error_of_bind_pure ran)
  | aliasTag => exact HeaderRule.staysInHead_aliasTag.passes_of_error (Rule.error_of_bind_pure ran)
  | expect kind expected =>
      rcases HeaderRule.expect_of_error (Rule.error_of_bind_pure ran) with ⟨_, rfl⟩
      exact ⟨[], .refl after⟩
  | advance => cases Rule.error_of_bind_pure ran

theorem stopsHere (call : HeadCall) : HeaderRule.StopsHere call.rule := by
  cases call with
  | packageTag => exact HeaderRule.stopsHere_packageTag.bind fun _ => HeaderRule.stopsHere_pure _
  | namespaceTag => exact HeaderRule.stopsHere_namespaceTag.bind fun _ => HeaderRule.stopsHere_pure _
  | attributePair => exact HeaderRule.stopsHere_attributePair.bind fun _ => HeaderRule.stopsHere_pure _
  | aliasTag => exact HeaderRule.stopsHere_aliasTag.bind fun _ => HeaderRule.stopsHere_pure _
  | expect kind expected => exact (HeaderRule.stopsHere_expect kind expected).bind fun _ => HeaderRule.stopsHere_pure _
  | advance => exact HeaderRule.stopsHere_next.bind fun _ => HeaderRule.stopsHere_pure _

end HeadCall

namespace FileRule

variable {state after : ParseState}

theorem ofHeader_of_ok {Value : Type} {rule : HeaderRule Value} {value : Value}
    (ran : ofHeader rule state = .ok value after) : rule state.tokens = .ok value after.tokens := by
  unfold ofHeader at ran
  split at ran
  · next here =>
      cases ran
      exact here
  · cases ran

theorem ofHeader_of_error {Value : Type} {rule : HeaderRule Value} {error : SyntaxError}
    (ran : ofHeader rule state = .error error after) :
    ∃ tokens, rule state.tokens = .error error tokens ∧ after = { state with tokens := tokens } := by
  unfold ofHeader at ran
  split at ran
  · cases ran
  · next failed tokens here =>
      cases ran
      exact ⟨tokens, here, rfl⟩

theorem template_reads {script : BodyScript} {namespaceName : Option String} {value : Template}
    (ran : template script namespaceName state = .ok value after) : state.tokens.Reads after.tokens := by
  unfold template at ran
  split at ran
  · cases ran
    exact state.tokens.reads_advance
  · cases ran

/-- Where no template stands, nothing is touched. -/
theorem template_of_error {script : BodyScript} {namespaceName : Option String} {error : SyntaxError}
    (ran : template script namespaceName state = .error error after) :
    error = state.tokens.errorHere templateTags.text ∧ after = state := by
  unfold template at ran
  split at ran
  · cases ran
  · cases ran
    exact ⟨rfl, rfl⟩

theorem sourceFile_reads {script : BodyScript} {kind : FileKind} {file : SourceFile}
    (ran : sourceFile script kind state = .ok file after) : state.tokens.Reads after.tokens := by
  rcases course_of_ok ran with ⟨form, whole, _, _, course⟩
  refine ⟨form.tokens, course.passes, fun nothing => ?_⟩
  exact state.tokens.current_kind_eq_endOfFile_iff.mpr (whole.symm.trans nothing)

end FileRule

theorem AnsweredForm.length_templates {path : String} {namespaceName : Option String} (answers : List AnsweredForm)
    (ids : IdSupply) : (templates path namespaceName answers ids).1.length = answers.length := by
  induction answers generalizing ids with
  | nil => rfl
  | cons answered rest inductionHypothesis =>
      rw [templates_cons, List.length_cons, List.length_cons, inductionHypothesis]

/-- The ids in the course of a parse. -/
theorem ParseState.Course.givesTo {script : BodyScript} {state after : ParseState} {tokens : List Token}
    (course : ParseState.Course script state tokens (state.templatesRead script) after) :
    state.GivesTo script after (templatesIn tokens) := by
  obtain ⟨answers, isAnswers⟩ : ∃ answers, answers =
    AnsweredForm.answerAll script state.tokens.path state.requests.length (templatesIn tokens) := ⟨_, rfl⟩
  have templates := course.templates
  rw [← isAnswers] at templates
  have count : answers.length = (templatesIn tokens).length := by
    rw [isAnswers, AnsweredForm.length_answerAll]
  have taken : after.ids.next = state.ids.next + 1 + (templatesIn tokens).length +
      (script.passagesFor state.requests.length
        ((templatesIn tokens).map (TemplateForm.request state.tokens.path))).length := by
    have next := @AnsweredForm.next_templates state.tokens.path (namespaceIn tokens) answers state.ids.take.2
    rw [templates, count, isAnswers, AnsweredForm.passages_answerAll] at next
    exact next
  exact {
    requests := course.requests
    given := by
      have ids := @AnsweredForm.ids_templates state.tokens.path (namespaceIn tokens) answers state.ids.take.2
      rw [templates] at ids
      rw [ids]
      exact (IdSupply.take_upTo (by omega)).symm
    sameLength := by
      have length := @AnsweredForm.length_templates state.tokens.path (namespaceIn tokens) answers state.ids.take.2
      rw [templates] at length
      exact length.trans count
    taken := taken }

namespace RuleCall

variable {script : BodyScript} {call : RuleCall} {state after : ParseState} {error : SyntaxError}

/-- A call that succeeds has read something. -/
theorem reads_of_ok {value : RuleValue} (ran : call.rule script state = .ok value after) :
    state.tokens.Reads after.tokens := by
  cases call with
  | file kind =>
      rcases Rule.ok_of_bind_pure ran with ⟨_, here, _⟩
      exact FileRule.sourceFile_reads here
  | template namespaceName =>
      rcases Rule.ok_of_bind_pure ran with ⟨_, here, _⟩
      exact FileRule.template_reads here
  | head call => exact HeadCall.reads_of_ok (FileRule.ofHeader_of_ok ran)

/-- A call that fails stops at the token that its error is about. -/
theorem stops_of_error (ran : call.rule script state = .error error after) :
    (∃ tokens, state.tokens.Passes tokens after.tokens) ∧ ∃ expected, error = after.tokens.errorHere expected := by
  cases call with
  | file kind =>
      rcases (FileRule.follows_sourceFile kind).error (Rule.error_of_bind_pure ran) with
        ⟨tokens, stage, passes, _, _, _, same⟩
      exact ⟨⟨tokens, passes⟩, _, same⟩
  | template namespaceName =>
      rcases FileRule.template_of_error (Rule.error_of_bind_pure ran) with ⟨same, rfl⟩
      exact ⟨⟨[], .refl _⟩, _, same⟩
  | head call =>
      rcases FileRule.ofHeader_of_error ran with ⟨tokens, here, rfl⟩
      exact ⟨HeadCall.passes_of_error here, call.stopsHere _ _ _ here⟩

/-- A call that looks at one token fails without reading it. -/
theorem stays_of_error (single : call.IsSingle) (ran : call.rule script state = .error error after) :
    after = state := by
  cases call with
  | file kind => exact single.elim
  | template namespaceName => exact (FileRule.template_of_error (Rule.error_of_bind_pure ran)).2
  | head call =>
      rcases FileRule.ofHeader_of_error ran with ⟨tokens, here, rfl⟩
      cases call with
      | expect kind expected => rw [(HeaderRule.expect_of_error (Rule.error_of_bind_pure here)).2]
      | _ => exact single.elim

/-- Only the rule for a whole file leaves more than a position when it fails. -/
theorem keepsRecords_of_error (notFile : forall kind, call ≠ .file kind)
    (ran : call.rule script state = .error error after) : state.KeepsRecords after := by
  cases call with
  | file kind => exact absurd rfl (notFile kind)
  | template namespaceName =>
      rw [(FileRule.template_of_error (Rule.error_of_bind_pure ran)).2]
      exact ⟨rfl, rfl, rfl⟩
  | head call =>
      rcases FileRule.ofHeader_of_error ran with ⟨tokens, _, rfl⟩
      exact ⟨rfl, rfl, rfl⟩

end RuleCall

/-! ## One turn -/

/-- What holds of a turn in a run over the tokens of `whole`. -/
structure Turn.Orderly (script : BodyScript) (whole : TokenStream) (turn : Turn) : Prop where
  advances : whole.Advances turn.before.tokens turn.after.tokens
  reads : forall value, turn.reply = .ok value -> turn.before.tokens.Reads turn.after.tokens
  blames : forall error, turn.reply = .error error -> ∃ position token,
    whole.StandsAt turn.after.tokens position ∧ whole.toList[position]? = some token ∧ error.IsAbout whole.path token
  repeats : forall error, turn.reply = .error error -> turn.call.IsSingle ->
    turn.after = turn.before ∧ turn.after.turn script turn.call = turn
  quiet : forall error, turn.reply = .error error -> (forall kind, turn.call ≠ .file kind) ->
    turn.before.KeepsRecords turn.after
  gives : forall error kind, turn.reply = .error error -> turn.call = .file kind -> ∃ tokens,
    turn.before.tokens.Passes tokens turn.after.tokens ∧ turn.before.GivesTo script turn.after (templatesIn tokens)

namespace ParseState

variable {script : BodyScript} {state : ParseState} {call : RuleCall}

theorem turn_of_ok {value : RuleValue} {after : ParseState} (ran : call.rule script state = .ok value after) :
    state.turn script call = ⟨call, state, .ok value, after⟩ := by
  rw [turn, ran]

theorem turn_of_error {error : SyntaxError} {after : ParseState} (ran : call.rule script state = .error error after) :
    state.turn script call = ⟨call, state, .error error, after⟩ := by
  rw [turn, ran]

theorem exists_passes_turn (script : BodyScript) (state : ParseState) (call : RuleCall) :
    ∃ tokens, state.tokens.Passes tokens (state.turn script call).after.tokens := by
  cases ran : call.rule script state with
  | ok value after =>
      rw [turn_of_ok ran]
      exact (RuleCall.reads_of_ok ran).passes
  | error error after =>
      rw [turn_of_error ran]
      exact (RuleCall.stops_of_error ran).1

theorem turn_before (script : BodyScript) (state : ParseState) (call : RuleCall) :
    (state.turn script call).before = state := by
  unfold turn
  split <;> rfl

/-- Every turn is orderly, wherever in the stream it begins. -/
theorem turn_orderly {whole : TokenStream} {front : List Token} (begins : whole.Passes front state.tokens)
    (script : BodyScript) (call : RuleCall) : (state.turn script call).Orderly script whole := by
  cases ran : call.rule script state with
  | ok value after =>
      have reads := RuleCall.reads_of_ok ran
      rcases reads.passes with ⟨tokens, passes⟩
      rw [turn_of_ok ran]
      exact {
        advances := begins.advances passes
        reads := fun _ _ => reads
        blames := fun _ impossible => by cases impossible
        repeats := fun _ impossible => by cases impossible
        quiet := fun _ impossible => by cases impossible
        gives := fun _ _ impossible => by cases impossible }
  | error error after =>
      rcases RuleCall.stops_of_error ran with ⟨⟨tokens, passes⟩, expected, isAbout⟩
      have stands := (begins.trans passes).standsAt
      have same := turn_of_error ran
      rw [same]
      exact {
        advances := begins.advances passes
        reads := fun _ impossible => by cases impossible
        blames := by
          rintro _ ⟨⟩
          refine ⟨_, _, stands, stands.getElem?_eq, ?_⟩
          rw [isAbout, ← stands.path]
          exact after.tokens.errorHere_isAbout expected
        repeats := by
          intro _ _ single
          have stays := RuleCall.stays_of_error single ran
          refine ⟨stays, ?_⟩
          change after.turn script call = _
          rw [stays, same, stays]
        quiet := fun _ _ notFile => RuleCall.keepsRecords_of_error notFile ran
        gives := by
          rintro _ kind _ rfl
          rcases FileRule.course_of_error (Rule.error_of_bind_pure ran) with ⟨read, course, _⟩
          exact ⟨read, course.passes, course.givesTo⟩ }

/-! ## All turns of a run -/

/-- Every turn of a run begins where the run has come to. -/
theorem exists_passes_of_mem_turns {calls : List RuleCall} {turn : Turn} (member : turn ∈ state.turns script calls) :
    ∃ tokens, state.tokens.Passes tokens turn.before.tokens := by
  induction calls generalizing state with
  | nil => cases member
  | cons call calls inductionHypothesis =>
      rcases List.mem_cons.mp member with rfl | later
      · rw [turn_before]
        exact ⟨[], .refl _⟩
      · rcases exists_passes_turn script state call with ⟨tokens, passes⟩
        rcases inductionHypothesis later with ⟨more, further⟩
        exact ⟨tokens ++ more, passes.trans further⟩

theorem turns_orderly {whole : TokenStream} {front : List Token} (begins : whole.Passes front state.tokens)
    (script : BodyScript) (calls : List RuleCall) :
    (forall turn, turn ∈ state.turns script calls -> turn.Orderly script whole) ∧
      (state.turns script calls).Pairwise fun earlier later =>
        whole.Advances earlier.after.tokens later.before.tokens := by
  induction calls generalizing state front with
  | nil => exact ⟨fun _ member => (List.not_mem_nil member).elim, .nil⟩
  | cons call calls inductionHypothesis =>
      rcases exists_passes_turn script state call with ⟨tokens, passes⟩
      have reached := begins.trans passes
      have others := inductionHypothesis reached
      constructor
      · intro turn member
        rcases List.mem_cons.mp member with rfl | later
        · exact turn_orderly begins script call
        · exact others.1 turn later
      · refine .cons (fun later member => ?_) others.2
        rcases exists_passes_of_mem_turns member with ⟨more, further⟩
        exact reached.advances further

end ParseState

/-- Rules may be called in any order on the tokens of a text, also after errors.
Every turn is orderly, and no turn begins before the place where an earlier one
ended. -/
theorem Session.ruleCalls_orderly (session : Session) (script : BodyScript) (path source : String)
    (calls : List RuleCall) :
    (forall turn, turn ∈ (ParseState.start session path source).turns script calls ->
      turn.Orderly script (TokenStream.ofSource path source)) ∧
      ((ParseState.start session path source).turns script calls).Pairwise fun earlier later =>
        (TokenStream.ofSource path source).Advances earlier.after.tokens later.before.tokens :=
  ParseState.turns_orderly (.refl _) script calls

/-- After a file that fails at the equals sign one may go on by hand, and read the template in the end. -/
example : ((ParseState.start Session.start "a.soy"
      "\x7bnamespace a = \x7d\x7btemplate .b\x7dHello\x7b/template\x7d").turns (.always BodyParser.raw)
    [.file .source, .head (.expect .quoted "a value"), .head .advance, .template none, .head .advance, .template none,
     .head .advance]).map (fun turn => (turn.reply.toOption.isSome, turn.after.tokens.size, turn.after.ids.next)) =
    [(false, 3, 1), (false, 3, 1), (true, 2, 1), (false, 2, 1), (true, 1, 1), (true, 0, 3), (true, 0, 3)] := by
  decide +kernel

end TemplateFile
