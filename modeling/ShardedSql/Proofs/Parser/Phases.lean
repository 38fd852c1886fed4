import ShardedSql.Proofs.Parser.ReadingOver

/-!
# In front of a WHERE clause and behind it

A SELECT, an UPDATE or a DELETE is read in three phases, of which the second is its WHERE clause.
-/

namespace ShardedSql

/-- Whether statements of a kind may have a WHERE clause. -/
def StatementKind.hasWhere : StatementKind → Bool
  | .select => true
  | .update => true
  | .delete => true
  | _ => false

namespace Parse

/-- Read the parts of a query in front of its WHERE clause. -/
def queryOpening
    (nested : Parse Unit)
    (depth : Nat) : Parse Unit := do
  acceptWord .SELECT
  distinctClause depth
  topClause
  selectList depth
  fromClause nested

/-- Read a query up to the end of its select list. -/
def queryList (depth : Nat) : Parse Unit := do
  acceptWord .SELECT
  distinctClause depth
  topClause
  selectList depth

theorem queryOpening_eq
    (nested : Parse Unit)
    (depth : Nat) :
    queryOpening nested depth = queryList depth >>= fun _ => fromClause nested := by
  simp only [queryOpening, queryList, bind_assoc]

/-- Read the parts of a query behind its WHERE clause. -/
def queryEnding (depth : Nat) : Parse Unit := do
  groupByClause depth
  if ← isWord .HAVING then
    throw .having
  orderByClause depth
  limitClauses
  if ← isAnyKind [.keyword .UNION, .keyword .INTERSECT, .keyword .EXCEPT, .keyword .MINUS] then
    throw (.setOperator (Text.upperAscii (← current).literals))
  lockClause

/-- Add what merging the results of a query needs. -/
def finishSelect : Parse Unit := do
  markOwners
  let notes := (← get).notes
  match notes.listStop with
  | some stop => modifyStatement fun statement => statement.deriveColumns stop
  | none => pure ()
  modifyStatement fun statement => statement.deriveOrder notes.groupByStop

/-- Read the parts of an UPDATE in front of its WHERE clause. -/
def updateOpening : Parse Unit := do
  acceptWord .UPDATE
  let _ ← skipAnyWord [.LOW_PRIORITY, .IGNORE, .ONLY]
  skipTop
  singleTable
  acceptWord .SET
  repeatStep assignment
  if ← isWord .FROM then
    throw .multipleTables

/-- Read the parts of a DELETE in front of its WHERE clause. -/
def deleteOpening : Parse Unit := do
  acceptWord .DELETE
  let _ ← skipAnyWord [.LOW_PRIORITY, .QUICK, .IGNORE]
  skipTop
  let _ ← skipWord .FROM
  let _ ← skipWord .ONLY
  singleTable
  if ← isAnyKind [.keyword .FROM, .keyword .USING] then
    throw .multipleTables

theorem queryWith_eq
    (nested : Parse Unit)
    (depth : Nat) :
    queryWith nested depth =
      queryOpening nested depth >>= fun _ => whereClause >>= fun _ => queryEnding depth := by
  simp only [queryWith, queryOpening, queryEnding, bind_assoc]

theorem guard_bind
    {β : Type}
    (condition : Bool)
    (failure : Parse Unit)
    (next : Parse β) :
    ((if condition then failure else pure ()) >>= fun _ => next) =
      if condition then failure >>= fun _ => next else next := by
  cases condition with
  | true => rfl
  | false => exact pure_bind () fun _ => next

theorem updateStatement_eq :
    updateStatement = updateOpening >>= fun _ => whereClause := by
  simp only [updateStatement, updateOpening, bind_assoc, guard_bind]

theorem deleteStatement_eq :
    deleteStatement = deleteOpening >>= fun _ => whereClause := by
  simp only [deleteStatement, deleteOpening, bind_assoc, guard_bind]

/-- Begin a statement of the kind that the current token starts. -/
def startKind : Parse StatementKind := do
  match StatementKind.ofToken? (← current) with
  | none => throw (.unsupportedStatement (← get).text)
  | some kind =>
      modifyStatement fun _ => { kind := kind }
      return kind

/-- Read everything in front of the first clause of a statement, and find its kind. -/
def leading : Parse StatementKind := do
  repeatStep (skipSign .semi)
  withClause
  startKind

/-- Read the clauses of a statement in front of its WHERE clause. -/
def opening : StatementKind → Parse Unit
  | .select => get >>= fun state => queryOpening (query state.cursor.tokens.length 1) 0
  | .update => updateOpening
  | .delete => deleteOpening
  | _ => pure ()

/-- Read the clauses of a statement behind its WHERE clause. -/
def ending : StatementKind → Parse Unit
  | .select => queryEnding 0 >>= fun _ => finishSelect
  | _ => pure ()

theorem statementOf_eq
    {kind : StatementKind}
    (hasWhere : kind.hasWhere = true)
    (parameterCount : Nat) :
    statementOf kind parameterCount =
      opening kind >>= fun _ => whereClause >>= fun _ => ending kind := by
  cases kind with
  | select =>
      simp only [statementOf, selectStatement, opening, query, queryWith_eq, bind_assoc, Nat.zero_add]
      rfl
  | update => simp only [statementOf, opening, ending, updateStatement_eq, bind_pure_unit]
  | delete => simp only [statementOf, opening, ending, deleteStatement_eq, bind_pure_unit]
  | _ => cases hasWhere

theorem wholeStatement_eq (parameterCount : Nat) :
    wholeStatement parameterCount =
      leading >>= fun kind => statementOf kind parameterCount >>= fun _ => statement := by
  simp only [wholeStatement, leading, startKind, bind_assoc]
  refine bind_congr fun _ => bind_congr fun _ => bind_congr fun token => ?_
  cases StatementKind.ofToken? token with
  | none => rfl
  | some kind => simp only [bind_assoc, pure_bind]

section ReadingOver

open Conduct (readingOver)

theorem queryEnding_readsOver (depth : Nat) :
    (queryEnding depth).Obeys readingOver := by
  have locked : Obeys (do
      if ← isAnyKind [.keyword .UNION, .keyword .INTERSECT, .keyword .EXCEPT, .keyword .MINUS] then
        throw (.setOperator (Text.upperAscii (← current).literals))
      lockClause) readingOver := by
    refine (isAnyKind_readsOver _).bind fun _ => .ite ?_ lockClause_readsOver
    refine current_readsOver.bind fun token => (throw_readsOver ?_).bind fun _ =>
      lockClause_readsOver
    simp [Error.RefusesToken]
  have ordered : Obeys (do
      orderByClause depth
      limitClauses
      if ← isAnyKind [.keyword .UNION, .keyword .INTERSECT, .keyword .EXCEPT, .keyword .MINUS] then
        throw (.setOperator (Text.upperAscii (← current).literals))
      lockClause) readingOver :=
    (orderByClause_readsOver depth).bind fun _ => limitClauses_readsOver.bind fun _ => locked
  unfold queryEnding
  refine (groupByClause_readsOver depth).bind fun _ => (isKind_readsOver _).bind fun _ => ?_
  refine .ite ((throw_readsOver ?_).bind fun _ => ordered) ordered
  simp [Error.RefusesToken]

theorem deriveColumns_keeps
    (statement : Statement)
    (listStop : Nat) :
    (statement.deriveColumns listStop).tables = statement.tables ∧
      (statement.deriveColumns listStop).conditions = statement.conditions := by
  unfold Statement.deriveColumns
  dsimp only
  split
  next => exact ⟨rfl, rfl⟩
  next => exact ⟨rfl, rfl⟩

theorem deriveOrder_keeps
    (statement : Statement)
    (groupByStop : Option Nat) :
    (statement.deriveOrder groupByStop).tables = statement.tables ∧
      (statement.deriveOrder groupByStop).conditions = statement.conditions := by
  unfold Statement.deriveOrder
  split
  next => exact ⟨rfl, rfl⟩
  next =>
    dsimp only
    split
    next => exact ⟨rfl, rfl⟩
    next => exact ⟨rfl, rfl⟩

theorem finishSelect_readsOver : finishSelect.Obeys readingOver := by
  have ordered : ∀ stop : Option Nat,
      (modifyStatement fun statement => statement.deriveOrder stop).Obeys readingOver :=
    fun stop => modifyStatement_readsOver fun statement => (deriveOrder_keeps statement stop).2
  unfold finishSelect
  refine markOwners_readsOver.bind fun _ => obeys_get_bind fun state => ?_
  dsimp only
  split
  next stop _ =>
    refine (modifyStatement_readsOver fun statement => ?_).bind fun _ => ordered _
    exact (deriveColumns_keeps statement stop).2
  next => exact ordered _

theorem ending_readsOver (kind : StatementKind) :
    (ending kind).Obeys readingOver := by
  cases kind with
  | select => exact (queryEnding_readsOver 0).bind fun _ => finishSelect_readsOver
  | _ => exact obeys_pure ()

end ReadingOver

end Parse

namespace Statement

/-- Whether the parse of a text with a statement of some kind comes to a state behind everything
that stands in front of the statement's WHERE clause. -/
def OpensWith
    (dialect : Dialect)
    (rule : Rule)
    (keys : Keys)
    (sql : String)
    (kind : StatementKind)
    (state : ParseState) : Prop :=
  ∃ front, Parse.leading.outcome (ParseState.start dialect rule keys sql { kind := .select }) =
      (.ok kind, front) ∧
    (Parse.opening kind).outcome front = (.ok (), state)

theorem parse_of_opensWith
    {dialect : Dialect}
    {rule : Rule}
    {keys : Keys}
    {sql : String}
    {kind : StatementKind}
    {state : ParseState}
    (opens : OpensWith dialect rule keys sql kind state)
    (hasWhere : kind.hasWhere = true)
    (parameterCount : Nat) :
    (Statement.parse dialect rule keys sql parameterCount).1 =
      ((Parse.whereClause >>= fun _ => Parse.ending kind >>= fun _ =>
        Parse.statement).outcome state).1 := by
  obtain ⟨front, leads, opened⟩ := opens
  change ((Parse.wholeStatement parameterCount).outcome _).1 = _
  rw [Parse.wholeStatement_eq, Parse.outcome_bind_of_ok leads, Parse.statementOf_eq hasWhere,
    bind_assoc, Parse.outcome_bind_of_ok opened, bind_assoc]

end Statement

end ShardedSql
