import ShardedSql.Parser.State

/-!
# Outcomes of parse steps

A step of a parse turns a state into a value or an error, and into the state behind it.  This file
says what the basic steps do, and how the outcome of a sequence follows from that of its parts.
-/

namespace ShardedSql

namespace Parse

variable {α β : Type}

/-- What a step does from a state. -/
def outcome
    (step : Parse α)
    (state : ParseState) : Except Error α × ParseState :=
  step.run state

@[simp]
theorem outcome_pure
    (value : α)
    (state : ParseState) :
    (pure value : Parse α).outcome state = (.ok value, state) :=
  rfl

@[simp]
theorem outcome_throw
    (error : Error)
    (state : ParseState) :
    (throw error : Parse α).outcome state = (.error error, state) :=
  rfl

@[simp]
theorem outcome_get
    (state : ParseState) :
    (get : Parse ParseState).outcome state = (.ok state, state) :=
  rfl

@[simp]
theorem outcome_modify
    (change : ParseState → ParseState)
    (state : ParseState) :
    (modify change : Parse Unit).outcome state = (.ok (), change state) :=
  rfl

theorem outcome_bind
    (step : Parse α)
    (next : α → Parse β)
    (state : ParseState) :
    (step >>= next).outcome state =
      match step.outcome state with
      | (.ok value, after) => (next value).outcome after
      | (.error error, after) => (.error error, after) := by
  have unfolded : (step >>= next).outcome state =
      ExceptT.bindCont next (step.outcome state).1 (step.outcome state).2 := rfl
  rw [unfolded]
  rcases step.outcome state with ⟨error | value, after⟩
  · rfl
  · rfl

theorem outcome_bind_of_ok
    {step : Parse α}
    {next : α → Parse β}
    {before after : ParseState}
    {value : α}
    (succeeded : step.outcome before = (.ok value, after)) :
    (step >>= next).outcome before = (next value).outcome after := by
  rw [outcome_bind, succeeded]

theorem outcome_bind_of_error
    {step : Parse α}
    {next : α → Parse β}
    {before after : ParseState}
    {error : Error}
    (failed : step.outcome before = (.error error, after)) :
    (step >>= next).outcome before = (.error error, after) := by
  rw [outcome_bind, failed]

/-- A sequence succeeds when both of its steps do. -/
theorem outcome_bind_eq_ok
    {step : Parse α}
    {next : α → Parse β}
    {before after : ParseState}
    {result : β} :
    (step >>= next).outcome before = (.ok result, after) ↔
      ∃ value between, step.outcome before = (.ok value, between) ∧
        (next value).outcome between = (.ok result, after) := by
  rw [outcome_bind]
  constructor
  · intro succeeded
    split at succeeded
    next value between first => exact ⟨value, between, first, succeeded⟩
    next => cases succeeded
  · rintro ⟨value, between, first, second⟩
    rw [first]
    exact second

@[simp]
theorem outcome_current (state : ParseState) :
    current.outcome state = (.ok state.cursor.current, state) :=
  rfl

@[simp]
theorem outcome_statement (state : ParseState) :
    statement.outcome state = (.ok state.statement, state) :=
  rfl

@[simp]
theorem outcome_lastStop (state : ParseState) :
    lastStop.outcome state = (.ok state.cursor.lastStop, state) :=
  rfl

@[simp]
theorem outcome_modifyStatement
    (change : Statement → Statement)
    (state : ParseState) :
    (modifyStatement change).outcome state =
      (.ok (), { state with statement := change state.statement }) :=
  rfl

@[simp]
theorem outcome_modifyCursor
    (change : Cursor → Cursor)
    (state : ParseState) :
    (modifyCursor change).outcome state = (.ok (), { state with cursor := change state.cursor }) :=
  rfl

@[simp]
theorem outcome_advance (state : ParseState) :
    advance.outcome state = (.ok (), { state with cursor := state.cursor.advance }) :=
  rfl

@[simp]
theorem outcome_passMeasured
    (width : List Token → Nat)
    (state : ParseState) :
    (passMeasured width).outcome state =
      (.ok (width state.cursor.tokens),
        { state with cursor := state.cursor.passBy (width state.cursor.tokens) }) :=
  rfl

@[simp]
theorem outcome_failUnexpected
    (expected : String)
    (state : ParseState) :
    (failUnexpected expected : Parse α).outcome state =
      (.error (state.unexpected expected), state) :=
  rfl

@[simp]
theorem outcome_failUnsupported (state : ParseState) :
    (failUnsupported : Parse α).outcome state = (.error state.unsupported, state) :=
  rfl

@[simp]
theorem outcome_isKind
    (kind : TokenKind)
    (state : ParseState) :
    (isKind kind).outcome state = (.ok (state.cursor.current.kind == kind), state) :=
  rfl

@[simp]
theorem outcome_isAnyKind
    (kinds : List TokenKind)
    (state : ParseState) :
    (isAnyKind kinds).outcome state =
      (.ok (kinds.contains state.cursor.current.kind), state) :=
  rfl

theorem outcome_skipAnyKind
    (kinds : List TokenKind)
    (state : ParseState) :
    (skipAnyKind kinds).outcome state =
      if kinds.contains state.cursor.current.kind then
        (.ok true, { state with cursor := state.cursor.advance })
      else
        (.ok false, state) := by
  unfold skipAnyKind
  rw [outcome_bind_of_ok (outcome_isAnyKind kinds state)]
  cases kinds.contains state.cursor.current.kind with
  | true => rfl
  | false => rfl

theorem outcome_skipKind
    (kind : TokenKind)
    (state : ParseState) :
    (skipKind kind).outcome state =
      if state.cursor.current.kind = kind then
        (.ok true, { state with cursor := state.cursor.advance })
      else
        (.ok false, state) := by
  rw [skipKind, outcome_skipAnyKind]
  simp

/-- A clause that begins with one of several words is not read without them. -/
theorem outcome_isAnyKind_of_absent
    {kinds : List TokenKind}
    {state : ParseState}
    (absent : state.cursor.current.kind ∉ kinds)
    (body : Parse Unit) :
    outcome (do
      if ← isAnyKind kinds then
        body) state = (.ok (), state) := by
  rw [outcome_bind_of_ok (outcome_isAnyKind kinds state),
    if_neg fun isThere => absent (List.contains_iff_mem.mp isThere)]
  rfl

/-- A clause that begins with a word is not read without it. -/
theorem outcome_skipWord_of_absent
    {word : Keyword}
    {state : ParseState}
    (absent : state.cursor.current.kind ≠ .keyword word)
    (body : Parse Unit) :
    outcome (do
      if ← skipWord word then
        body) state = (.ok (), state) := by
  rw [outcome_bind, skipWord, outcome_skipKind, if_neg absent]
  rfl

theorem outcome_accept
    (kind : TokenKind)
    (state : ParseState) :
    (accept kind).outcome state =
      if state.cursor.current.kind = kind then
        (.ok (), { state with cursor := state.cursor.advance })
      else
        (.error (state.unexpected kind.display), state) := by
  unfold accept
  rw [outcome_bind, outcome_skipKind]
  by_cases isThere : state.cursor.current.kind = kind
  · rw [if_pos isThere, if_pos isThere]
    rfl
  · rw [if_neg isThere, if_neg isThere]
    rfl

/-- What a turn keeps of the value that is handed on and of the state holds at the end of all
turns. -/
theorem iterate_holds
    {step : α → Parse (α × Bool)}
    (holds : α → ParseState → Prop)
    (keeps : ∀ {value following : α} {again : Bool} {before after : ParseState},
      holds value before → (step value).outcome before = (.ok (following, again), after) →
        holds following after)
    {fuel : Nat}
    {value result : α}
    {before after : ParseState}
    (starts : holds value before)
    (ran : (iterate step fuel value).outcome before = (.ok result, after)) :
    holds result after := by
  induction fuel generalizing value before with
  | zero =>
      cases ran
      exact starts
  | succ fuel ih =>
      obtain ⟨⟨following, again⟩, between, turn, rest⟩ := outcome_bind_eq_ok.mp ran
      have kept := keeps starts turn
      cases again with
      | true => exact ih kept rest
      | false =>
          cases rest
          exact kept

theorem repeatFrom_holds
    {step : α → Parse (α × Bool)}
    (holds : α → ParseState → Prop)
    (keeps : ∀ {value following : α} {again : Bool} {before after : ParseState},
      holds value before → (step value).outcome before = (.ok (following, again), after) →
        holds following after)
    {value result : α}
    {before after : ParseState}
    (starts : holds value before)
    (ran : (repeatFrom value step).outcome before = (.ok result, after)) :
    holds result after := by
  rw [repeatFrom, outcome_bind_of_ok (outcome_get before)] at ran
  exact iterate_holds holds keeps starts ran

/-- What all turns together do, when each turn that asks for another one leaves fewer tokens. -/
theorem iterate_finishes
    {step : α → Parse (α × Bool)}
    (finishes : α → ParseState → α → ParseState → Prop)
    (stops : ∀ {value following : α} {before after : ParseState},
      (step value).outcome before = (.ok (following, false), after) →
        finishes value before following after)
    (goesOn : ∀ {value following : α} {before between : ParseState},
      (step value).outcome before = (.ok (following, true), between) →
        between.cursor.tokens.length < before.cursor.tokens.length ∧
          ∀ result after, finishes following between result after →
            finishes value before result after)
    {fuel : Nat}
    {value result : α}
    {before after : ParseState}
    (enough : before.cursor.tokens.length < fuel)
    (ran : (iterate step fuel value).outcome before = (.ok result, after)) :
    finishes value before result after := by
  induction fuel generalizing value before with
  | zero => omega
  | succ fuel ih =>
      obtain ⟨⟨following, again⟩, between, turn, rest⟩ := outcome_bind_eq_ok.mp ran
      cases again with
      | true =>
          obtain ⟨fewer, others⟩ := goesOn turn
          exact others result after (ih (by omega) rest)
      | false =>
          cases rest
          exact stops turn

theorem repeatFrom_finishes
    {step : α → Parse (α × Bool)}
    (finishes : α → ParseState → α → ParseState → Prop)
    (stops : ∀ {value following : α} {before after : ParseState},
      (step value).outcome before = (.ok (following, false), after) →
        finishes value before following after)
    (goesOn : ∀ {value following : α} {before between : ParseState},
      (step value).outcome before = (.ok (following, true), between) →
        between.cursor.tokens.length < before.cursor.tokens.length ∧
          ∀ result after, finishes following between result after →
            finishes value before result after)
    {value result : α}
    {before after : ParseState}
    (ran : (repeatFrom value step).outcome before = (.ok result, after)) :
    finishes value before result after := by
  rw [repeatFrom, outcome_bind_of_ok (outcome_get before)] at ran
  exact iterate_finishes finishes stops goesOn (Nat.lt_succ_self _) ran

theorem repeatStep_finishes
    {step : Parse Bool}
    (finishes : ParseState → ParseState → Prop)
    (stops : ∀ {before after : ParseState},
      step.outcome before = (.ok false, after) → finishes before after)
    (goesOn : ∀ {before between : ParseState}, step.outcome before = (.ok true, between) →
      between.cursor.tokens.length < before.cursor.tokens.length ∧
        ∀ after, finishes between after → finishes before after)
    {before after : ParseState}
    (ran : (repeatStep step).outcome before = (.ok (), after)) :
    finishes before after := by
  apply repeatFrom_finishes (fun _ before _ after => finishes before after) _ _ ran
  · intro _ _ before after turn
    obtain ⟨again, between, stepped, finished⟩ := outcome_bind_eq_ok.mp turn
    cases finished
    exact stops stepped
  · intro _ _ before between turn
    obtain ⟨again, last, stepped, finished⟩ := outcome_bind_eq_ok.mp turn
    cases finished
    obtain ⟨fewer, others⟩ := goesOn stepped
    exact ⟨fewer, fun _ => others⟩

end Parse

end ShardedSql
