import ShardedSql.Proofs.Parser.Compound
import ShardedSql.Proofs.Parser.Steps

/-!
# Bounds of row limits

A row limit is given by TOP in front of the select list, by clauses behind the order, or by comparisons
with the number of the row.  This file says which tokens each form is made of, and which bounds and
markers it gives.
-/

namespace ShardedSql

namespace Limit

/-- The row count or the offset. -/
def bound? (isRowCount : Bool) (limit : Limit) : Option LimitOperand :=
  if isRowCount then limit.rowCount else limit.offset

/-- Set the row count or the offset. -/
def withBound (isRowCount : Bool) (operand : LimitOperand) (limit : Limit) : Limit :=
  if isRowCount then { limit with rowCount := some operand }
  else { limit with offset := some operand }

theorem bound?_withBound
    {isRowCount isAsked : Bool}
    {operand : LimitOperand}
    {limit : Limit}
    {found : LimitOperand}
    (isFound : (limit.withBound isRowCount operand).bound? isAsked = some found) :
    isAsked = isRowCount ∧ found = operand ∨ limit.bound? isAsked = some found := by
  cases isRowCount <;> cases isAsked <;> simp_all [withBound, bound?]

end Limit

/-- The bound of a row limit that a marker stands for: whether it is the row count, and its value. -/
def Marker.bound? : Marker → Option (Bool × Int64)
  | .rowCount _ _ value => some (true, value)
  | .offset _ _ value => some (false, value)
  | _ => none

/-- The mark on a bound of a row limit, if it is a literal. -/
def Parse.LimitSpan.marks
    (isRowCount : Bool)
    (bound : Parse.LimitSpan) : List Marker :=
  match bound.operand with
  | .literal value =>
      [if isRowCount then .rowCount bound.start (bound.stop - bound.start) value
        else .offset bound.start (bound.stop - bound.start) value]
  | .placeholder _ => []

namespace Cursor

/-- Whether the current token is a bound of a row limit. -/
inductive HasBound (cursor : Cursor) : Parse.LimitSpan → Prop where
  | literal
      {value : Int64}
      (isNumber : cursor.current.kind = .literal .int)
      (read : Integer.read cursor.current.literals = .ok value) :
      HasBound cursor ⟨.literal value, cursor.current.start, cursor.current.stop⟩
  | placeholder (isPlaceholder : cursor.current.kind = .symbol .question) :
      HasBound cursor ⟨.placeholder cursor.placeholders, cursor.current.start, cursor.current.stop⟩

/-- A bound of a row limit, possibly in parentheses, and the cursor behind it. -/
inductive TopOperand (cursor : Cursor) : Parse.LimitSpan → Cursor → Prop where
  | plain {bound : Parse.LimitSpan} (isBound : cursor.HasBound bound) :
      TopOperand cursor bound cursor.pass
  | grouped
      {bound : Parse.LimitSpan}
      (opens : cursor.current.kind = .symbol .leftParen)
      (isBound : cursor.advance.HasBound bound)
      (closes : cursor.advance.pass.current.kind = .symbol .rightParen) :
      TopOperand cursor bound cursor.advance.pass.advance

/-- One clause of a row limit: the limit behind it, the cursor behind it, and the markers. -/
inductive LimitClause (cursor : Cursor) (limit : Limit) : Limit → Cursor → List Marker → Prop where
  | all
      (isLimit : cursor.current.kind = .keyword .LIMIT)
      (isAll : cursor.advance.current.kind = .keyword .ALL) :
      LimitClause cursor limit limit cursor.advance.advance []
  | rowCount
      {bound : Parse.LimitSpan}
      (isLimit : cursor.current.kind = .keyword .LIMIT)
      (isBound : cursor.advance.HasBound bound) :
      LimitClause cursor limit (limit.withBound true bound.operand) cursor.advance.pass
        (bound.marks true)
  | window
      {first second : Parse.LimitSpan}
      (isLimit : cursor.current.kind = .keyword .LIMIT)
      (isFirst : cursor.advance.HasBound first)
      (isComma : cursor.advance.pass.current.kind = .symbol .comma)
      (isSecond : cursor.advance.pass.advance.HasBound second) :
      LimitClause cursor limit ((limit.withBound false first.operand).withBound true second.operand)
        cursor.advance.pass.advance.pass (first.marks false ++ second.marks true)
  | offset
      {bound : Parse.LimitSpan}
      (isOffset : cursor.current.kind = .keyword .OFFSET)
      (isBound : cursor.advance.HasBound bound) :
      LimitClause cursor limit (limit.withBound false bound.operand)
        (cursor.advance.pass.skipAny [.keyword .ROW, .keyword .ROWS]) (bound.marks false)
  | fetch
      {bound : Parse.LimitSpan}
      (isFetch : cursor.current.kind = .keyword .FETCH)
      (isBound : (cursor.advance.skipAny [.keyword .FIRST, .keyword .NEXT]).HasBound bound) :
      LimitClause cursor limit (limit.withBound true bound.operand)
        (((cursor.advance.skipAny [.keyword .FIRST, .keyword .NEXT]).pass.skipAny
          [.keyword .ROW, .keyword .ROWS]).skipAny [.keyword .ONLY]) (bound.marks true)
  | fetchOne (isFetch : cursor.current.kind = .keyword .FETCH) :
      LimitClause cursor limit (limit.withBound true (.literal 1))
        (((cursor.advance.skipAny [.keyword .FIRST, .keyword .NEXT]).skipAny
          [.keyword .ROW, .keyword .ROWS]).skipAny [.keyword .ONLY]) []

/-- Clauses of a row limit one after the other. -/
inductive LimitClauses (cursor : Cursor) (limit : Limit) :
    Limit → Cursor → List Marker → Prop where
  | none : LimitClauses cursor limit limit cursor []
  | further
      {between result : Limit}
      {behind last : Cursor}
      {markers others : List Marker}
      (clauses : LimitClauses cursor limit between behind markers)
      (clause : behind.LimitClause between result last others) :
      LimitClauses cursor limit result last (markers ++ others)

end Cursor

/-- A state with a row limit. -/
def ParseState.limited
    (state : ParseState)
    (limit : Limit) : ParseState :=
  { state with statement := { state.statement with limit := some limit } }

namespace Parse

section Marks

variable (bound : LimitSpan) (state : ParseState)

theorem outcome_markRowCount :
    (markRowCount bound).outcome state = (.ok (), state.marked (bound.marks true)) := by
  obtain ⟨operand, start, stop⟩ := bound
  cases operand with
  | literal value => rfl
  | placeholder index => exact congrArg (Prod.mk _) state.marked_nil.symm

theorem outcome_markOffset :
    (markOffset bound).outcome state = (.ok (), state.marked (bound.marks false)) := by
  obtain ⟨operand, start, stop⟩ := bound
  cases operand with
  | literal value => rfl
  | placeholder index => exact congrArg (Prod.mk _) state.marked_nil.symm

end Marks

variable {before after : ParseState}

theorem limitOperand_eq_ok
    {bound : LimitSpan}
    (ran : limitOperand.outcome before = (.ok bound, after)) :
    before.cursor.HasBound bound ∧ after = { before with cursor := before.cursor.pass } := by
  unfold limitOperand at ran
  rw [outcome_bind_of_ok (outcome_current before)] at ran
  split at ran
  next isNumber =>
    split at ran
    next => cases ran
    next value read =>
      rw [Cursor.pass_of_kind isNumber nofun]
      split at ran
      next => cases ran
      next =>
        cases ran
        exact ⟨.literal isNumber read, rfl⟩
  next isPlaceholder =>
    cases ran
    exact ⟨.placeholder isPlaceholder, rfl⟩
  next => cases ran

theorem topOperand_eq_ok
    {bound : LimitSpan}
    (ran : topOperand.outcome before = (.ok bound, after)) :
    ∃ cursor, before.cursor.TopOperand bound cursor ∧ after = { before with cursor := cursor } := by
  unfold topOperand at ran
  rw [outcome_bind, skipSign, outcome_skipKind] at ran
  by_cases opens : before.cursor.current.kind = .symbol .leftParen
  · rw [if_pos opens] at ran
    obtain ⟨found, between, read, closed⟩ := outcome_bind_eq_ok.mp ran
    obtain ⟨isBound, rfl⟩ := limitOperand_eq_ok read
    rw [if_pos rfl, outcome_bind, acceptSign, outcome_accept] at closed
    split at closed
    next accepted closing =>
      split at closing
      next closes =>
        cases closing
        cases closed
        exact ⟨_, .grouped opens isBound closes, rfl⟩
      next => cases closing
    next => cases closed
  · rw [if_neg opens] at ran
    obtain ⟨found, between, read, closed⟩ := outcome_bind_eq_ok.mp ran
    obtain ⟨isBound, rfl⟩ := limitOperand_eq_ok read
    cases closed
    exact ⟨_, .plain isBound, rfl⟩

theorem topClause_eq_ok (ran : topClause.outcome before = (.ok (), after)) :
    after = before ∨ ∃ bound cursor,
      before.cursor.current.kind = .keyword .TOP ∧
      before.cursor.advance.TopOperand bound cursor ∧
      after = (({ before with cursor := cursor }.limited
        ((before.statement.limit.getD { countsFromOffset := false }).withBound true
          bound.operand)).marked (bound.marks true)) := by
  unfold topClause at ran
  rw [outcome_bind, skipWord, outcome_skipKind] at ran
  by_cases isTop : before.cursor.current.kind = .keyword .TOP
  · rw [if_pos isTop] at ran
    obtain ⟨bound, between, read, marked⟩ := outcome_bind_eq_ok.mp ran
    obtain ⟨cursor, isBound, rfl⟩ := topOperand_eq_ok read
    rw [outcome_bind_of_ok (outcome_modifyStatement _ _), outcome_markRowCount] at marked
    cases marked
    exact .inr ⟨bound, cursor, isTop, isBound, rfl⟩
  · rw [if_neg isTop] at ran
    cases ran
    exact .inl rfl

theorem skipTop_eq_ok (ran : skipTop.outcome before = (.ok (), after)) :
    after = before ∨ ∃ bound cursor,
      before.cursor.current.kind = .keyword .TOP ∧
      before.cursor.advance.TopOperand bound cursor ∧ after = { before with cursor := cursor } := by
  unfold skipTop at ran
  rw [outcome_bind, skipWord, outcome_skipKind] at ran
  by_cases isTop : before.cursor.current.kind = .keyword .TOP
  · rw [if_pos isTop] at ran
    obtain ⟨bound, between, read, finished⟩ := outcome_bind_eq_ok.mp ran
    obtain ⟨cursor, isBound, rfl⟩ := topOperand_eq_ok read
    cases finished
    exact .inr ⟨bound, cursor, isTop, isBound, rfl⟩
  · rw [if_neg isTop] at ran
    cases ran
    exact .inl rfl

/-- Read the bounds behind LIMIT. -/
def limitBounds (limit : Limit) : Parse (Limit × Bool) := do
  if ← skipWord .ALL then
    return (limit, true)
  let first ← limitOperand
  if ← skipSign .comma then
    let second ← limitOperand
    markOffset first
    markRowCount second
    return ({ limit with offset := some first.operand, rowCount := some second.operand }, true)
  markRowCount first
  return ({ limit with rowCount := some first.operand }, true)

/-- Read the bound behind OFFSET. -/
def offsetBound (limit : Limit) : Parse (Limit × Bool) := do
  let bound ← limitOperand
  markOffset bound
  let _ ← skipAnyWord [.ROW, .ROWS]
  return ({ limit with offset := some bound.operand }, true)

/-- Pass the words behind the bound of a FETCH. -/
def fetched (limit : Limit) (rowCount : LimitOperand) : Parse (Limit × Bool) := do
  let _ ← skipAnyWord [.ROW, .ROWS]
  let _ ← skipWord .ONLY
  return ({ limit with rowCount := some rowCount }, true)

/-- Read the bound behind FETCH. -/
def fetchBound (limit : Limit) : Parse (Limit × Bool) := do
  let _ ← skipAnyWord [.FIRST, .NEXT]
  if ← isAnyKind [.literal .int, .symbol .question] then
    let bound ← limitOperand
    markRowCount bound
    fetched limit bound.operand
  else
    fetched limit (.literal 1)

theorem limitClause_eq (limit : Limit) :
    limitClause limit = (do
      if ← skipWord .LIMIT then
        limitBounds limit
      else if ← skipWord .OFFSET then
        offsetBound limit
      else if ← skipWord .FETCH then
        fetchBound limit
      else
        return (limit, false)) := by
  rfl

theorem outcome_limitBounds
    {limit result : Limit}
    {again : Bool}
    (isLimit : before.cursor.current.kind = .keyword .LIMIT)
    (ran : (limitBounds limit).outcome { before with cursor := before.cursor.advance } =
      (.ok (result, again), after)) :
    ∃ cursor markers, before.cursor.LimitClause limit result cursor markers ∧
      after = { before with cursor := cursor }.marked markers := by
  unfold limitBounds at ran
  rw [outcome_bind, skipWord, outcome_skipKind] at ran
  by_cases isAll : before.cursor.advance.current.kind = .keyword .ALL
  · rw [if_pos isAll] at ran
    cases ran
    exact ⟨_, _, .all isLimit isAll, (ParseState.marked_nil _).symm⟩
  rw [if_neg isAll] at ran
  obtain ⟨first, between, readFirst, rest⟩ := outcome_bind_eq_ok.mp ran
  obtain ⟨isFirst, rfl⟩ := limitOperand_eq_ok readFirst
  rw [outcome_bind, skipSign, outcome_skipKind] at rest
  by_cases isComma : before.cursor.advance.pass.current.kind = .symbol .comma
  · rw [if_pos isComma] at rest
    obtain ⟨second, last, readSecond, marked⟩ := outcome_bind_eq_ok.mp rest
    obtain ⟨isSecond, rfl⟩ := limitOperand_eq_ok readSecond
    rw [outcome_bind_of_ok (outcome_markOffset _ _), outcome_bind_of_ok (outcome_markRowCount _ _),
      ParseState.marked_marked] at marked
    cases marked
    exact ⟨_, _, .window isLimit isFirst isComma isSecond, rfl⟩
  · rw [if_neg isComma] at rest
    change ((markRowCount first >>= fun _ => _ : Parse _).outcome _) = _ at rest
    rw [outcome_bind_of_ok (outcome_markRowCount _ _)] at rest
    cases rest
    exact ⟨_, _, .rowCount isLimit isFirst, rfl⟩

theorem outcome_offsetBound
    {limit result : Limit}
    {again : Bool}
    (isOffset : before.cursor.current.kind = .keyword .OFFSET)
    (ran : (offsetBound limit).outcome { before with cursor := before.cursor.advance } =
      (.ok (result, again), after)) :
    ∃ cursor markers, before.cursor.LimitClause limit result cursor markers ∧
      after = { before with cursor := cursor }.marked markers := by
  obtain ⟨bound, between, read, rest⟩ := outcome_bind_eq_ok.mp ran
  obtain ⟨isBound, rfl⟩ := limitOperand_eq_ok read
  rw [outcome_bind_of_ok (outcome_markOffset _ _), skipAnyWord,
    outcome_bind_of_ok (outcome_skipAny _ _)] at rest
  cases rest
  exact ⟨_, _, .offset isOffset isBound, rfl⟩

theorem outcome_fetched
    (limit : Limit)
    (rowCount : LimitOperand)
    (state : ParseState) :
    (fetched limit rowCount).outcome state =
      (.ok ({ limit with rowCount := some rowCount }, true),
        { state with
          cursor := (state.cursor.skipAny [.keyword .ROW, .keyword .ROWS]).skipAny
            [.keyword .ONLY] }) := by
  unfold fetched
  rw [skipAnyWord, outcome_bind_of_ok (outcome_skipAny _ _), skipWord, skipKind,
    outcome_bind_of_ok (outcome_skipAny _ _)]
  rfl

theorem outcome_fetchBound
    {limit result : Limit}
    {again : Bool}
    (isFetch : before.cursor.current.kind = .keyword .FETCH)
    (ran : (fetchBound limit).outcome { before with cursor := before.cursor.advance } =
      (.ok (result, again), after)) :
    ∃ cursor markers, before.cursor.LimitClause limit result cursor markers ∧
      after = { before with cursor := cursor }.marked markers := by
  unfold fetchBound at ran
  rw [skipAnyWord, outcome_bind_of_ok (outcome_skipAny _ _),
    outcome_bind_of_ok (outcome_isAnyKind _ _)] at ran
  split at ran
  · obtain ⟨bound, behind, read, rest⟩ := outcome_bind_eq_ok.mp ran
    obtain ⟨isBound, rfl⟩ := limitOperand_eq_ok read
    rw [outcome_bind_of_ok (outcome_markRowCount _ _), outcome_fetched] at rest
    cases rest
    exact ⟨_, _, .fetch isFetch isBound, rfl⟩
  · rw [outcome_fetched] at ran
    cases ran
    exact ⟨_, _, .fetchOne isFetch, (ParseState.marked_nil _).symm⟩

/-- A turn over the clauses of a row limit ends them or reads one of them. -/
theorem limitClause_eq_ok
    {limit result : Limit}
    {again : Bool}
    (ran : (limitClause limit).outcome before = (.ok (result, again), after)) :
    (result, after) = (limit, before) ∨
      ∃ cursor markers, before.cursor.LimitClause limit result cursor markers ∧
        after = { before with cursor := cursor }.marked markers := by
  rw [limitClause_eq, outcome_bind, skipWord, outcome_skipKind] at ran
  by_cases isLimit : before.cursor.current.kind = .keyword .LIMIT
  · rw [if_pos isLimit] at ran
    exact .inr (outcome_limitBounds isLimit ran)
  rw [if_neg isLimit] at ran
  dsimp only at ran
  rw [if_neg Bool.false_ne_true, outcome_bind, skipWord, outcome_skipKind] at ran
  by_cases isOffset : before.cursor.current.kind = .keyword .OFFSET
  · rw [if_pos isOffset] at ran
    exact .inr (outcome_offsetBound isOffset ran)
  rw [if_neg isOffset] at ran
  dsimp only at ran
  rw [if_neg Bool.false_ne_true, outcome_bind, skipWord, outcome_skipKind] at ran
  by_cases isFetch : before.cursor.current.kind = .keyword .FETCH
  · rw [if_pos isFetch] at ran
    exact .inr (outcome_fetchBound isFetch ran)
  · rw [if_neg isFetch] at ran
    cases ran
    exact .inl rfl

theorem limitClauses_eq_ok (ran : limitClauses.outcome before = (.ok (), after)) :
    after = before ∨ ∃ limit cursor markers,
      before.cursor.LimitClauses { countsFromOffset := true } limit cursor markers ∧
        after = ({ before with cursor := cursor }.marked markers).limited limit := by
  unfold limitClauses at ran
  rw [outcome_bind_of_ok (outcome_isAnyKind _ _)] at ran
  split at ran
  · obtain ⟨limit, between, read, finished⟩ := outcome_bind_eq_ok.mp ran
    cases finished
    let reached (limit : Limit) (state : ParseState) : Prop := ∃ cursor markers,
      before.cursor.LimitClauses { countsFromOffset := true } limit cursor markers ∧
        state = { before with cursor := cursor }.marked markers
    have kept : reached limit between := by
      apply repeatFrom_holds reached _ _ read
      · rintro limit result again _ last ⟨cursor, markers, clauses, rfl⟩ turn
        rcases limitClause_eq_ok turn with unchanged | ⟨behind, others, clause, rfl⟩
        · cases unchanged
          exact ⟨cursor, markers, clauses, rfl⟩
        · exact ⟨behind, markers ++ others, .further clauses clause,
            ParseState.marked_marked { before with cursor := behind } markers others⟩
      · exact ⟨before.cursor, [], .none, (ParseState.marked_nil _).symm⟩
    obtain ⟨cursor, markers, clauses, rfl⟩ := kept
    exact .inr ⟨limit, cursor, markers, clauses, rfl⟩
  · cases ran
    exact .inl rfl

/-- A comparison with the number of the row passes its sign and an operand, and sets a bound if the
operand can be one. -/
theorem outcome_rowNumberCondition (state : ParseState) :
    rowNumberCondition.outcome state =
      (.ok (),
        let isRowCount :=
          [TokenKind.symbol .lt, .symbol .ltEq].contains state.cursor.current.kind
        let front := state.cursor.advance
        let passed := { state with cursor := front.behindOperand }.marked
          (front.ownerMarks state.statement.tables)
        match rowNumberBound? front.place.operand.1 with
        | some operand =>
            (passed.limited ((state.statement.limit.getD { countsFromOffset := false }).withBound
              isRowCount operand)).marked
                (LimitSpan.marks isRowCount
                  ⟨operand, front.current.start, front.behindOperand.lastStop⟩)
        | none => passed) := by
  unfold rowNumberCondition
  rw [outcome_bind_of_ok (outcome_isAnyKind _ _), outcome_bind_of_ok (outcome_advance _),
    outcome_bind_of_ok (outcome_current _), outcome_bind_of_ok (outcome_expression _)]
  dsimp only
  cases rowNumberBound? state.cursor.advance.place.operand.1 with
  | none => rfl
  | some operand =>
      cases operand with
      | literal value => rfl
      | placeholder index =>
          change _ = (_, ParseState.marked _ [])
          rw [ParseState.marked_nil]
          rfl

end Parse

end ShardedSql
