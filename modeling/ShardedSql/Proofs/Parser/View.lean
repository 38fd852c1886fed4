import ShardedSql.Proofs.Parser.Place
import ShardedSql.Proofs.Parser.Run

/-!
# What a step of a WHERE clause sees

A WHERE clause looks at the tokens ahead, the tables and the rule, and it changes the conditions.
Beside these, its steps touch markers and the row limit only.  This file says how such steps go from
one view to another, and how the parts of a sequence make up the whole.
-/

namespace ShardedSql

/-- What the parse of a WHERE clause depends on, and what it changes. -/
structure ParseView where
  place : Place
  rule : Rule
  tables : Tables
  conditions : Conditions

namespace ParseView

/-- The view from another place. -/
def move
    (view : ParseView)
    (place : Place) : ParseView :=
  { view with place := place }

/-- The view behind some further conditions. -/
def record
    (view : ParseView)
    (conditions : List Condition) : ParseView :=
  { view with conditions := conditions.foldl Conditions.add view.conditions }

@[simp]
theorem place_move
    (view : ParseView)
    (place : Place) :
    (view.move place).place = place :=
  rfl

@[simp]
theorem move_move
    (view : ParseView)
    (first second : Place) :
    (view.move first).move second = view.move second :=
  rfl

/-- The view behind a comparison, which may state a condition. -/
def note
    (view : ParseView)
    (compared : Option Comparison) : ParseView :=
  view.record (compared.bind (Comparison.condition? view.rule view.tables)).toList

theorem move_record
    (view : ParseView)
    (conditions : List Condition)
    (place : Place) :
    (view.record conditions).move place = (view.move place).record conditions :=
  rfl

theorem record_record
    (view : ParseView)
    (first second : List Condition) :
    (view.record first).record second = view.record (first ++ second) := by
  simp [record]

end ParseView

/-- The place of a cursor. -/
def Cursor.place (cursor : Cursor) : Place :=
  ⟨cursor.tokens, cursor.placeholders⟩

/-- What a WHERE clause sees of a state. -/
def ParseState.view (state : ParseState) : ParseView :=
  { place := state.cursor.place
    rule := state.rule
    tables := state.statement.tables
    conditions := state.statement.conditions }

namespace Cursor

theorem current_kind (cursor : Cursor) :
    cursor.current.kind = cursor.place.ahead.kind := by
  unfold current Place.ahead place
  cases cursor.tokens.head? with
  | none => rfl
  | some token => rfl

theorem current_source (cursor : Cursor) :
    cursor.current.source = cursor.place.ahead.source := by
  unfold current Place.ahead place
  cases cursor.tokens.head? with
  | none => rfl
  | some token => rfl

theorem current_literals (cursor : Cursor) :
    cursor.current.literals = cursor.place.ahead.literals := by
  unfold current Place.ahead place
  cases cursor.tokens.head? with
  | none => rfl
  | some token => rfl

theorem place_pass (cursor : Cursor) :
    cursor.pass.place = cursor.place.passBy 1 := by
  unfold pass Place.passBy place advance current
  cases cursor.tokens with
  | nil => rfl
  | cons token rest =>
      cases isPlaceholder : token.isPlaceholder with
      | true => simp [isPlaceholder]
      | false => simp [isPlaceholder]

theorem place_passBy
    (count : Nat)
    (cursor : Cursor) :
    (cursor.passBy count).place = cursor.place.passBy count := by
  induction count generalizing cursor with
  | zero => simp [passBy]
  | succ count ih =>
      rw [passBy, ih, place_pass, Place.passBy_passBy, Nat.add_comm 1 count]

theorem tokens_passBy
    (count : Nat)
    (cursor : Cursor) :
    (cursor.passBy count).tokens = cursor.tokens.drop count :=
  congrArg Place.tokens (place_passBy count cursor)

end Cursor

namespace ParseState

theorem current_kind (state : ParseState) :
    state.cursor.current.kind = state.view.place.ahead.kind :=
  state.cursor.current_kind

theorem view_withCursor
    (state : ParseState)
    (cursor : Cursor) :
    ({ state with cursor := cursor } : ParseState).view = state.view.move cursor.place :=
  rfl

end ParseState

/-- Whether an error refuses a token that is not supported. -/
def Error.RefusesToken (error : Error) : Prop :=
  ∃ literals, error = .unsupportedToken literals

theorem ParseState.not_refusesToken_unexpected
    (state : ParseState)
    (expected : String) :
    ¬ (state.unexpected expected).RefusesToken := by
  rintro ⟨literals, equal⟩
  unfold unexpected at equal
  dsimp only at equal
  split at equal
  next => cases equal
  next => cases equal

namespace Parse

variable {α β : Type}

/-- Whether a step succeeds with a value from every state with the view `before`, and leaves the view
`after`. -/
def Reads
    (step : Parse α)
    (before : ParseView)
    (value : α)
    (after : ParseView) : Prop :=
  ∀ state, state.view = before →
    ∃ final, step.outcome state = (.ok value, final) ∧ final.view = after

/-- Whether a step fails from every state with the view `before`, with an error of some sort. -/
def Refuses
    (step : Parse α)
    (before : ParseView)
    (sort : Error → Prop) : Prop :=
  ∀ state, state.view = before →
    ∃ error final, step.outcome state = (.error error, final) ∧ sort error

/-- Whether a step succeeds with a value in a view, or, without these, fails for another reason than
a token that is not supported. -/
def Follows
    (step : Parse α)
    (before : ParseView) : Option (α × ParseView) → Prop
  | some (value, after) => step.Reads before value after
  | none => step.Refuses before fun error => ¬ error.RefusesToken

section Sequences

variable {step : Parse α} {next : α → Parse β} {value : α} {result : β}
variable {before between after : ParseView} {sort : Error → Prop}

theorem Reads.bind
    (first : step.Reads before value between)
    (second : (next value).Reads between result after) :
    (step >>= next).Reads before result after := by
  intro state sees
  obtain ⟨middle, succeeded, seesBetween⟩ := first state sees
  obtain ⟨final, finished, seesAfter⟩ := second middle seesBetween
  exact ⟨final, by rw [outcome_bind_of_ok succeeded, finished], seesAfter⟩

theorem Reads.bind_refuses
    (first : step.Reads before value between)
    (second : (next value).Refuses between sort) :
    (step >>= next).Refuses before sort := by
  intro state sees
  obtain ⟨middle, succeeded, seesBetween⟩ := first state sees
  obtain ⟨error, final, failed, ofSort⟩ := second middle seesBetween
  exact ⟨error, final, by rw [outcome_bind_of_ok succeeded, failed], ofSort⟩

theorem Refuses.bind (refused : step.Refuses before sort) :
    (step >>= next).Refuses before sort := by
  intro state sees
  obtain ⟨error, final, failed, ofSort⟩ := refused state sees
  exact ⟨error, final, outcome_bind_of_error failed, ofSort⟩

theorem Reads.bind_follows
    {outcome : Option (β × ParseView)}
    (first : step.Reads before value between)
    (second : (next value).Follows between outcome) :
    (step >>= next).Follows before outcome := by
  cases outcome with
  | none => exact first.bind_refuses second
  | some => exact first.bind second

theorem Follows.bind
    {outcome : Option (α × ParseView)}
    (first : step.Follows before outcome)
    (finish : α × ParseView → β × ParseView)
    (second : ∀ value between,
      (next value).Reads between (finish (value, between)).1 (finish (value, between)).2) :
    (step >>= next).Follows before (outcome.map finish) := by
  cases outcome with
  | none => exact Refuses.bind first
  | some middle => exact Reads.bind first (second middle.1 middle.2)

theorem reads_pure
    (value : α)
    (view : ParseView) :
    (pure value : Parse α).Reads view value view := by
  intro state sees
  exact ⟨state, rfl, sees⟩

theorem reads_get_bind
    {next : ParseState → Parse β}
    (reads : ∀ state, state.view = before → (next state).Reads before result after) :
    (get >>= next).Reads before result after := by
  intro state sees
  exact reads state sees state sees

theorem refuses_get_bind
    {next : ParseState → Parse β}
    (refuses : ∀ state, state.view = before → (next state).Refuses before sort) :
    (get >>= next).Refuses before sort := by
  intro state sees
  exact refuses state sees state sees

theorem reads_current_bind
    {next : Token → Parse β}
    (reads : ∀ token, token.kind = before.place.ahead.kind →
      token.source = before.place.ahead.source → token.literals = before.place.ahead.literals →
      (next token).Reads before result after) :
    (current >>= next).Reads before result after := by
  intro state sees
  have place : state.cursor.place = before.place := by rw [← sees]; rfl
  refine reads state.cursor.current ?_ ?_ ?_ state sees
  · rw [Cursor.current_kind, place]
  · rw [Cursor.current_source, place]
  · rw [Cursor.current_literals, place]

theorem follows_current_bind
    {next : Token → Parse β}
    {outcome : Option (β × ParseView)}
    (follows : ∀ token, token.kind = before.place.ahead.kind →
      (next token).Follows before outcome) :
    (current >>= next).Follows before outcome := by
  have kind : ∀ state : ParseState, state.view = before →
      state.cursor.current.kind = before.place.ahead.kind := by
    rintro state rfl
    exact state.cursor.current_kind
  cases outcome with
  | none =>
      intro state sees
      exact follows _ (kind state sees) state sees
  | some final =>
      intro state sees
      exact follows _ (kind state sees) state sees

theorem reads_statement_bind
    {next : Statement → Parse β}
    (reads : ∀ statement, statement.tables = before.tables →
      (next statement).Reads before result after) :
    (statement >>= next).Reads before result after := by
  intro state sees
  exact reads state.statement (by rw [← sees]; rfl) state sees

theorem reads_lastStop_bind
    {next : Nat → Parse β}
    (reads : ∀ stop, (next stop).Reads before result after) :
    (lastStop >>= next).Reads before result after := by
  intro state sees
  exact reads state.cursor.lastStop state sees

theorem Reads.ite
    {condition : Prop}
    [Decidable condition]
    {other : Parse α}
    (first : condition → step.Reads before value after)
    (second : ¬ condition → other.Reads before value after) :
    (if condition then step else other).Reads before value after := by
  split
  next holds => exact first holds
  next fails => exact second fails

end Sequences

section Turns

variable {step : α → Parse (α × Bool)} {value following result : α}
variable {before between after : ParseView} {sort : Error → Prop} {fuel : Nat}

theorem Reads.iterate_again
    (turn : (step value).Reads before (following, true) between)
    (others : (iterate step fuel following).Reads between result after) :
    (iterate step (fuel + 1) value).Reads before result after :=
  turn.bind others

theorem Reads.iterate_stop (turn : (step value).Reads before (following, false) after) :
    (iterate step (fuel + 1) value).Reads before following after :=
  turn.bind (reads_pure _ _)

theorem Reads.iterate_follows
    {outcome : Option (α × ParseView)}
    (turn : (step value).Reads before (following, true) between)
    (others : (iterate step fuel following).Follows between outcome) :
    (iterate step (fuel + 1) value).Follows before outcome :=
  turn.bind_follows others

theorem Refuses.iterate (turn : (step value).Refuses before sort) :
    (iterate step (fuel + 1) value).Refuses before sort :=
  turn.bind

theorem Reads.repeatFrom
    (turns : (iterate step (before.place.tokens.length + 1) value).Reads before result after) :
    (repeatFrom value step).Reads before result after := by
  rintro state rfl
  exact turns state rfl

theorem Refuses.repeatFrom
    (turns : (Parse.iterate step (before.place.tokens.length + 1) value).Refuses before sort) :
    (Parse.repeatFrom value step).Refuses before sort := by
  rintro state rfl
  exact turns state rfl

theorem Follows.repeatFrom
    {outcome : Option (α × ParseView)}
    (turns : (iterate step (before.place.tokens.length + 1) value).Follows before outcome) :
    (repeatFrom value step).Follows before outcome := by
  cases outcome with
  | none => exact Refuses.repeatFrom turns
  | some final => exact Reads.repeatFrom turns

end Turns

section Primitives

variable (view : ParseView)

theorem passMeasured_reads (width : List Token → Nat) :
    (passMeasured width).Reads view (width view.place.tokens)
      (view.move (view.place.passBy (width view.place.tokens))) := by
  rintro state rfl
  refine ⟨_, outcome_passMeasured width state, ?_⟩
  rw [ParseState.view_withCursor, Cursor.place_passBy]
  rfl

theorem advance_reads :
    advance.Reads view () (view.move view.place.advance) := by
  rintro state rfl
  exact ⟨_, outcome_advance state, rfl⟩

theorem passBy_reads (count : Nat) :
    (modifyCursor (Cursor.passBy count)).Reads view () (view.move (view.place.passBy count)) := by
  rintro state rfl
  refine ⟨_, outcome_modifyCursor (Cursor.passBy count) state, ?_⟩
  rw [ParseState.view_withCursor, Cursor.place_passBy]
  rfl

theorem pass_reads :
    (modifyCursor Cursor.pass).Reads view () (view.move (view.place.passBy 1)) :=
  passBy_reads view 1

theorem modifyStatement_reads
    {change : Statement → Statement}
    (keeps : ∀ statement, (change statement).tables = statement.tables ∧
      (change statement).conditions = statement.conditions) :
    (modifyStatement change).Reads view () view := by
  rintro state rfl
  refine ⟨_, outcome_modifyStatement change state, ?_⟩
  simp only [ParseState.view, (keeps state.statement).1, (keeps state.statement).2]

theorem mark_reads (marker : Marker) :
    (modifyStatement fun statement => statement.mark marker).Reads view () view :=
  modifyStatement_reads view fun _ => ⟨rfl, rfl⟩

theorem failUnexpected_refuses (expected : String) :
    (failUnexpected expected : Parse α).Refuses view fun error => ¬ error.RefusesToken := by
  intro state sees
  exact ⟨_, state, outcome_failUnexpected expected state,
    state.not_refusesToken_unexpected expected⟩

theorem failUnsupported_refuses :
    (failUnsupported : Parse α).Refuses view Error.RefusesToken := by
  intro state sees
  exact ⟨_, state, outcome_failUnsupported state, _, rfl⟩

theorem throw_refuses
    {error : Error}
    {sort : Error → Prop}
    (ofSort : sort error) :
    (throw error : Parse α).Refuses view sort := by
  intro state sees
  exact ⟨error, state, rfl, ofSort⟩

theorem isKind_reads (kind : TokenKind) :
    (isKind kind).Reads view (view.place.ahead.kind == kind) view := by
  rintro state rfl
  refine ⟨state, ?_, rfl⟩
  rw [outcome_isKind, Cursor.current_kind]
  rfl

theorem isAnyKind_reads (kinds : List TokenKind) :
    (isAnyKind kinds).Reads view (kinds.contains view.place.ahead.kind) view := by
  rintro state rfl
  refine ⟨state, ?_, rfl⟩
  rw [outcome_isAnyKind, Cursor.current_kind]
  rfl

theorem skipKind_reads_true
    {view : ParseView}
    {kind : TokenKind}
    (isThere : view.place.ahead.kind = kind) :
    (skipKind kind).Reads view true (view.move view.place.advance) := by
  rintro state rfl
  refine ⟨{ state with cursor := state.cursor.advance }, ?_, rfl⟩
  rw [outcome_skipKind, if_pos (state.cursor.current_kind.trans isThere)]

theorem skipKind_reads_false
    {view : ParseView}
    {kind : TokenKind}
    (isOther : view.place.ahead.kind ≠ kind) :
    (skipKind kind).Reads view false view := by
  rintro state rfl
  refine ⟨state, ?_, rfl⟩
  rw [outcome_skipKind, if_neg fun isThere => isOther (state.cursor.current_kind.symm.trans isThere)]

theorem accept_refuses
    {view : ParseView}
    {kind : TokenKind}
    (isOther : view.place.ahead.kind ≠ kind) :
    (accept kind).Refuses view fun error => ¬ error.RefusesToken := by
  rintro state rfl
  refine ⟨state.unexpected kind.display, state, ?_, state.not_refusesToken_unexpected _⟩
  rw [outcome_accept, if_neg fun isThere => isOther (state.cursor.current_kind.symm.trans isThere)]

theorem accept_reads
    {view : ParseView}
    {kind : TokenKind}
    (isThere : view.place.ahead.kind = kind) :
    (accept kind).Reads view () (view.move view.place.advance) := by
  rintro state rfl
  refine ⟨{ state with cursor := state.cursor.advance }, ?_, rfl⟩
  rw [outcome_accept, if_pos (state.cursor.current_kind.trans isThere)]

end Primitives

end Parse

end ShardedSql
