import ShardedSql.Proofs.Parser.Compound
import ShardedSql.Proofs.Parser.Steps

/-!
# The row of an INSERT

An INSERT names its columns in a list or by assignments, and gives one row of values.  This file says
which tokens they are made of, and what a parse keeps of them.
-/

namespace ShardedSql

namespace Cursor

theorem length_advance_le (cursor : Cursor) :
    cursor.advance.tokens.length ≤ cursor.tokens.length := by
  simp [advance]

theorem length_advance_lt
    {cursor : Cursor}
    {kind : TokenKind}
    (isKind : cursor.current.kind = kind)
    (notLast : kind ≠ .finish) :
    cursor.advance.tokens.length < cursor.tokens.length := by
  obtain ⟨tokens, textLength, placeholders, lastStop⟩ := cursor
  cases tokens with
  | nil => exact absurd isKind.symm notLast
  | cons token rest => exact Nat.lt_succ_self _

theorem length_behindOperand_le (cursor : Cursor) :
    cursor.behindOperand.tokens.length ≤ cursor.tokens.length := by
  have suffix := cursor.place.operand_reaches.suffix
  rw [← place_behindOperand] at suffix
  exact suffix.length_le

/-- A column, possibly behind an owner, and the cursor behind it. -/
inductive ReadsColumn (cursor : Cursor) : String → Cursor → Prop where
  | bare
      (isName : cursor.current.kind.isName = true)
      (noOwner : cursor.advance.current.kind ≠ .symbol .dot) :
      ReadsColumn cursor (unquoteName cursor.current.source) cursor.advance
  | owned
      (isName : cursor.current.kind.isName = true)
      (isPoint : cursor.advance.current.kind = .symbol .dot) :
      ReadsColumn cursor (unquoteName cursor.advance.advance.current.source)
        cursor.advance.advance.advance

/-- The columns up to the parenthesis that closes their list. -/
inductive ReadsColumns : Cursor → List String → Cursor → Prop where
  | last
      {cursor closing : Cursor}
      {name : String}
      (column : cursor.ReadsColumn name closing)
      (closes : closing.current.kind = .symbol .rightParen) :
      ReadsColumns cursor [name] closing
  | next
      {cursor comma closing : Cursor}
      {name : String}
      {names : List String}
      (column : cursor.ReadsColumn name comma)
      (isComma : comma.current.kind = .symbol .comma)
      (others : ReadsColumns comma.advance names closing) :
      ReadsColumns cursor (name :: names) closing

/-- The only table of a statement, possibly in parentheses: the token that names it, its alias, and the
cursor behind it. -/
inductive SingleTable (cursor : Cursor) : Token → Option String → Cursor → Prop where
  | plain
      {token : Token}
      {behind : Cursor}
      (table : cursor.TableName token behind) :
      SingleTable cursor token behind.aliasAhead? behind.behindAlias
  | grouped
      {token : Token}
      {behind : Cursor}
      (opens : cursor.current.kind = .symbol .leftParen)
      (table : cursor.advance.TableName token behind)
      (closes : behind.current.kind = .symbol .rightParen) :
      SingleTable cursor token behind.advance.aliasAhead? behind.advance.behindAlias

/-- The column list of an INSERT, if there is one: the columns, the cursor in front of the parenthesis
that closes the list, and the cursor behind it. -/
inductive ColumnList (cursor : Cursor) : List String → Option Cursor → Cursor → Prop where
  | absent (noList : cursor.current.kind ≠ .symbol .leftParen) :
      ColumnList cursor [] none cursor
  | listed
      {names : List String}
      {closing : Cursor}
      (opens : cursor.current.kind = .symbol .leftParen)
      (columns : cursor.advance.ReadsColumns names closing) :
      ColumnList cursor names (some closing) closing.advance

/-- The places of the values up to the parenthesis that closes the row. -/
inductive ReadsValues : Cursor → List Cursor → Cursor → Prop where
  | last
      {cursor : Cursor}
      (closes : cursor.behindOperand.current.kind = .symbol .rightParen) :
      ReadsValues cursor [cursor] cursor.behindOperand
  | next
      {cursor closing : Cursor}
      {starts : List Cursor}
      (isComma : cursor.behindOperand.current.kind = .symbol .comma)
      (others : ReadsValues cursor.behindOperand.advance starts closing) :
      ReadsValues cursor (cursor :: starts) closing

/-- The columns of assignments with the places of their values, and the cursor behind them. -/
inductive ReadsAssignments : Cursor → List (String × Cursor) → Cursor → Prop where
  | last
      {cursor sign : Cursor}
      {name : String}
      (column : cursor.ReadsColumn name sign)
      (isSign : sign.current.kind = .symbol .eq) :
      ReadsAssignments cursor [(name, sign.advance)] sign.advance.behindOperand
  | next
      {cursor sign last : Cursor}
      {name : String}
      {assignments : List (String × Cursor)}
      (column : cursor.ReadsColumn name sign)
      (isSign : sign.current.kind = .symbol .eq)
      (isComma : sign.advance.behindOperand.current.kind = .symbol .comma)
      (others : ReadsAssignments sign.advance.behindOperand.advance assignments last) :
      ReadsAssignments cursor ((name, sign.advance) :: assignments) last

/-- The row of an INSERT: the columns of assignments, the places of the values, the cursor in front of
the parenthesis that closes the row, and the cursor behind it. -/
structure RowReading where
  assigned : List String
  starts : List Cursor
  closing : Option Cursor
  last : Cursor

/-- Whether a row stands ahead behind a number of columns: values in parentheses, or assignments. -/
inductive RowReading.IsRow (cursor : Cursor) (columnCount : Nat) : RowReading → Prop where
  | values
      {starts : List Cursor}
      {closing : Cursor}
      (isValues : cursor.current.kind ∈ [TokenKind.keyword .VALUES, .keyword .VALUE])
      (opens : cursor.advance.current.kind = .symbol .leftParen)
      (row : cursor.advance.advance.ReadsValues starts closing)
      (isSingle : closing.advance.current.kind ≠ .symbol .comma)
      (sameCount : columnCount = starts.length ∨ columnCount = 0) :
      IsRow cursor columnCount ⟨[], starts, some closing, closing.advance⟩
  | assignments
      {assignments : List (String × Cursor)}
      {last : Cursor}
      (isSet : cursor.current.kind = .keyword .SET)
      (row : cursor.advance.ReadsAssignments assignments last) :
      IsRow cursor columnCount ⟨assignments.map Prod.fst, assignments.map Prod.snd, none, last⟩

theorem ReadsColumn.length_lt
    {cursor behind : Cursor}
    {name : String}
    (column : cursor.ReadsColumn name behind) :
    behind.tokens.length < cursor.tokens.length := by
  have named : ∀ isName : cursor.current.kind.isName = true,
      cursor.advance.tokens.length < cursor.tokens.length := by
    intro isName
    apply length_advance_lt rfl
    intro isLast
    rw [isLast] at isName
    cases isName
  cases column with
  | bare isName => exact named isName
  | owned isName =>
      have shorter := named isName
      have second := cursor.advance.length_advance_le
      have third := cursor.advance.advance.length_advance_le
      omega

/-- The marks on the owners of the values that are tables. -/
def valueMarks
    (tables : Tables)
    (starts : List Cursor) : List Marker :=
  starts.flatMap fun start => start.ownerMarks tables

/-- The expressions at some places. -/
def valuesAt (starts : List Cursor) : List Expression :=
  starts.map fun start => start.place.operand.1

end Cursor

/-- A state with further columns to insert. -/
def ParseState.withColumns
    (state : ParseState)
    (table : String)
    (names : List String) : ParseState :=
  { state with
    statement :=
      { state.statement with
        insertColumns := state.statement.insertColumns ++ names.map fun name => ⟨name, table⟩ } }

/-- A state with a further table. -/
def ParseState.withTable
    (state : ParseState)
    (table : Table) : ParseState :=
  { state with
    statement := { state.statement with tables := state.statement.tables.add table } }

/-- The words and the sign that join two tables. -/
def TokenKind.joinSigns : List TokenKind :=
  [.keyword .LEFT, .keyword .RIGHT, .keyword .FULL, .keyword .INNER, .keyword .NATURAL,
    .keyword .JOIN, .symbol .comma, .keyword .STRAIGHT_JOIN, .keyword .CROSS, .keyword .OUTER]

namespace Parse

open Cursor (valueMarks valuesAt)

variable {table : String} {before after : ParseState}

theorem insertColumn_eq_ok
    {column : Column}
    (ran : (insertColumn table).outcome before = (.ok column, after)) :
    ∃ name cursor, before.cursor.ReadsColumn name cursor ∧ column = ⟨name, table⟩ ∧
      after = { before with cursor := cursor } := by
  obtain ⟨isName, passed⟩ := needName_eq_ok ran
  rw [outcome_bind_of_ok (outcome_current before), outcome_bind_of_ok (outcome_advance before),
    outcome_bind, skipSign, outcome_skipKind] at passed
  by_cases isPoint : before.cursor.advance.current.kind = .symbol .dot
  · rw [if_pos isPoint] at passed
    cases passed
    exact ⟨_, _, .owned isName isPoint, rfl, rfl⟩
  · rw [if_neg isPoint] at passed
    cases passed
    exact ⟨_, _, .bare isName isPoint, rfl, rfl⟩

/-- Read a column of a list, and tell whether another one follows. -/
def columnTurn (table : String) : Parse (Nat × Bool) := do
  addColumn (← insertColumn table)
  let token ← current
  if ← skipSign .rightParen then
    return (token.start, false)
  acceptSign .comma
  return (token.start, true)

theorem columnTurn_eq_ok
    {stop : Nat}
    {again : Bool}
    (ran : (columnTurn table).outcome before = (.ok (stop, again), after)) :
    ∃ name cursor, before.cursor.ReadsColumn name cursor ∧ stop = cursor.current.start ∧
      cursor.current.kind = .symbol (if again then .comma else .rightParen) ∧
      after = { before with cursor := cursor.advance }.withColumns table [name] := by
  obtain ⟨column, between, read, rest⟩ := outcome_bind_eq_ok.mp ran
  obtain ⟨name, cursor, isColumn, rfl, rfl⟩ := insertColumn_eq_ok read
  rw [addColumn, outcome_bind_of_ok (outcome_modifyStatement _ _),
    outcome_bind_of_ok (outcome_current _), outcome_bind, skipSign, outcome_skipKind] at rest
  by_cases closes : cursor.current.kind = .symbol .rightParen
  · rw [if_pos closes] at rest
    cases rest
    exact ⟨name, cursor, isColumn, rfl, closes, rfl⟩
  · rw [if_neg closes] at rest
    obtain ⟨_, last, accepted, finished⟩ := outcome_bind_eq_ok.mp rest
    rw [acceptSign, outcome_accept] at accepted
    split at accepted
    next isComma =>
      cases accepted
      cases finished
      exact ⟨name, cursor, isColumn, rfl, isComma, rfl⟩
    next => cases accepted

/-- What the columns of a list leave behind, beside the place of the parenthesis that closes it. -/
def LeavesColumns
    (table : String)
    (before : ParseState)
    (stop : Nat)
    (after : ParseState) : Prop :=
  ∃ names closing, before.cursor.ReadsColumns names closing ∧ stop = closing.current.start ∧
    after = { before with cursor := closing.advance }.withColumns table names

theorem columnTurns_eq_ok
    {start stop : Nat}
    (ran : (repeatFrom start fun _ => columnTurn table).outcome before = (.ok stop, after)) :
    LeavesColumns table before stop after := by
  apply repeatFrom_finishes (fun _ => LeavesColumns table) _ _ ran
  · intro _ stop state last turn
    obtain ⟨name, closing, column, isStop, closes, rfl⟩ := columnTurn_eq_ok turn
    exact ⟨[name], closing, .last column closes, isStop, rfl⟩
  · intro _ _ state between turn
    obtain ⟨name, comma, column, -, isComma, rfl⟩ := columnTurn_eq_ok turn
    constructor
    · exact Nat.lt_of_le_of_lt comma.length_advance_le column.length_lt
    · rintro stop last ⟨names, closing, others, isStop, rfl⟩
      refine ⟨name :: names, closing, .next column isComma others, isStop, ?_⟩
      simp [ParseState.withColumns]

/-- Read a value of a row, and tell whether another one follows. -/
def valueTurn (row : InsertRow) : Parse (InsertRow × Bool) := do
  let value ← expression
  let values := row.values ++ [value]
  let state ← get
  if ← skipSign .rightParen then
    return (⟨values, some (state.cursor.current.start, state.cursor.placeholders)⟩, false)
  acceptSign .comma
  return (⟨values, none⟩, true)

theorem valueTurn_eq_ok
    {row following : InsertRow}
    {again : Bool}
    (ran : (valueTurn row).outcome before = (.ok (following, again), after)) :
    let behind := before.cursor.behindOperand
    behind.current.kind = .symbol (if again then .comma else .rightParen) ∧
      following = ⟨row.values ++ [before.cursor.place.operand.1],
        if again then none else some (behind.current.start, behind.placeholders)⟩ ∧
      after = { before with cursor := behind.advance }.marked
        (before.cursor.ownerMarks before.statement.tables) := by
  unfold valueTurn at ran
  rw [outcome_bind_of_ok (outcome_expression before), outcome_bind_of_ok (outcome_get _),
    outcome_bind, skipSign, outcome_skipKind] at ran
  by_cases closes : before.cursor.behindOperand.current.kind = .symbol .rightParen
  · rw [ParseState.marked, if_pos closes] at ran
    cases ran
    exact ⟨closes, rfl, rfl⟩
  · rw [ParseState.marked, if_neg closes] at ran
    obtain ⟨_, last, accepted, finished⟩ := outcome_bind_eq_ok.mp ran
    rw [acceptSign, outcome_accept] at accepted
    split at accepted
    next isComma =>
      cases accepted
      cases finished
      exact ⟨isComma, rfl, rfl⟩
    next => cases accepted

/-- What the values of a row in parentheses leave behind those that are there. -/
def LeavesValues
    (row : InsertRow)
    (before : ParseState)
    (result : InsertRow)
    (after : ParseState) : Prop :=
  ∃ starts closing, before.cursor.ReadsValues starts closing ∧
    result = ⟨row.values ++ valuesAt starts,
      some (closing.current.start, closing.placeholders)⟩ ∧
    after = { before with cursor := closing.advance }.marked
      (valueMarks before.statement.tables starts)

theorem valueTurns_eq_ok
    {row result : InsertRow}
    (ran : (repeatFrom row valueTurn).outcome before = (.ok result, after)) :
    LeavesValues row before result after := by
  apply repeatFrom_finishes LeavesValues _ _ ran
  · intro row following state last turn
    obtain ⟨closes, rfl, rfl⟩ := valueTurn_eq_ok turn
    exact ⟨[state.cursor], _, .last closes, rfl, by simp [valueMarks]⟩
  · intro row following state between turn
    obtain ⟨isComma, rfl, rfl⟩ := valueTurn_eq_ok turn
    constructor
    · exact Nat.lt_of_lt_of_le (Cursor.length_advance_lt isComma nofun)
        state.cursor.length_behindOperand_le
    · rintro result last ⟨starts, closing, others, rfl, rfl⟩
      refine ⟨state.cursor :: starts, closing, .next isComma others, ?_, ?_⟩
      · simp [valuesAt]
      · simp [valueMarks, ParseState.marked]

/-- Read an assignment of a row, and tell whether another one follows. -/
def assignmentTurn (table : String) (row : InsertRow) : Parse (InsertRow × Bool) := do
  let column ← insertColumn table
  acceptSign .eq
  addColumn column
  let value ← expression
  return (⟨row.values ++ [value], none⟩, ← skipSign .comma)

theorem assignmentTurn_eq_ok
    {row following : InsertRow}
    {again : Bool}
    (ran : (assignmentTurn table row).outcome before = (.ok (following, again), after)) :
    ∃ name sign, before.cursor.ReadsColumn name sign ∧ sign.current.kind = .symbol .eq ∧
      let start := sign.advance
      let behind := start.behindOperand
      following = ⟨row.values ++ [start.place.operand.1], none⟩ ∧
        (again = true ↔ behind.current.kind = .symbol .comma) ∧
        after = ({ before with cursor := if again then behind.advance else behind }.withColumns
          table [name]).marked (start.ownerMarks before.statement.tables) := by
  obtain ⟨column, between, read, rest⟩ := outcome_bind_eq_ok.mp ran
  obtain ⟨name, sign, isColumn, rfl, rfl⟩ := insertColumn_eq_ok read
  obtain ⟨_, behindSign, accepted, assigned⟩ := outcome_bind_eq_ok.mp rest
  rw [acceptSign, outcome_accept] at accepted
  split at accepted
  next isSign =>
    cases accepted
    rw [addColumn, outcome_bind_of_ok (outcome_modifyStatement _ _),
      outcome_bind_of_ok (outcome_expression _), outcome_bind, skipSign, outcome_skipKind] at assigned
    refine ⟨name, sign, isColumn, isSign, ?_⟩
    by_cases isComma : sign.advance.behindOperand.current.kind = .symbol .comma
    · rw [ParseState.marked, if_pos isComma] at assigned
      cases assigned
      exact ⟨rfl, by simp [isComma], rfl⟩
    · rw [ParseState.marked, if_neg isComma] at assigned
      cases assigned
      exact ⟨rfl, by simp [isComma], rfl⟩
  next => cases accepted

/-- What the assignments of a row leave behind those that are there. -/
def LeavesAssignments
    (table : String)
    (row : InsertRow)
    (before : ParseState)
    (result : InsertRow)
    (after : ParseState) : Prop :=
  ∃ assignments last, before.cursor.ReadsAssignments assignments last ∧
    result = ⟨row.values ++ valuesAt (assignments.map Prod.snd), none⟩ ∧
    after = ({ before with cursor := last }.withColumns table (assignments.map Prod.fst)).marked
      (valueMarks before.statement.tables (assignments.map Prod.snd))

theorem assignmentTurns_eq_ok
    {row result : InsertRow}
    (ran : (repeatFrom row (assignmentTurn table)).outcome before = (.ok result, after)) :
    LeavesAssignments table row before result after := by
  apply repeatFrom_finishes (LeavesAssignments table) _ _ ran
  · intro row following state last turn
    obtain ⟨name, sign, column, isSign, rfl, -, rfl⟩ := assignmentTurn_eq_ok turn
    exact ⟨[(name, sign.advance)], _, .last column isSign, rfl, by simp [valueMarks]⟩
  · intro row following state between turn
    obtain ⟨name, sign, column, isSign, rfl, again, rfl⟩ := assignmentTurn_eq_ok turn
    have isComma := again.mp rfl
    constructor
    · have first := column.length_lt
      have second := sign.length_advance_le
      have third := sign.advance.length_behindOperand_le
      have fourth := sign.advance.behindOperand.length_advance_le
      simp only [ParseState.marked, ParseState.withColumns, if_true]
      omega
    · rintro result last ⟨assignments, behind, others, rfl, rfl⟩
      refine ⟨(name, sign.advance) :: assignments, behind, .next column isSign isComma others, ?_, ?_⟩
      · simp [valuesAt]
      · simp [valueMarks, ParseState.marked, ParseState.withColumns]

section Joins

/-- A step that, where it succeeds, never answers no. -/
def NeverDenies (step : Parse Bool) : Prop :=
  ∀ before after, step.outcome before ≠ (.ok false, after)

theorem NeverDenies.behind
    {α : Type}
    {step : Parse α}
    {next : α → Parse Bool}
    (never : ∀ value, NeverDenies (next value)) :
    NeverDenies (step >>= next) := by
  intro before after ran
  obtain ⟨value, between, -, denied⟩ := outcome_bind_eq_ok.mp ran
  exact never value between after denied

theorem neverDenies_true : NeverDenies (pure true) := by
  intro before after ran
  cases ran

theorem denied_of_skip
    {kinds : List TokenKind}
    {found others : Parse Bool}
    (never : NeverDenies found)
    (ran : outcome (do
      if ← skipAnyKind kinds then
        found
      else
        others) before = (.ok false, after)) :
    before.cursor.current.kind ∉ kinds ∧ others.outcome before = (.ok false, after) := by
  rw [outcome_bind, outcome_skipAnyKind] at ran
  split at ran
  next isThere skipped =>
    split at skipped
    next =>
      cases skipped
      exact absurd ran (never _ _)
    next absent =>
      cases skipped
      exact ⟨fun isThere => absent (List.contains_iff_mem.mpr isThere), ran⟩
  next failed =>
    split at failed
    next => cases failed
    next => cases failed

/-- Where no word of a join stands, none is passed. -/
theorem skipJoin_eq_false (ran : skipJoin.outcome before = (.ok false, after)) :
    before.cursor.current.kind ∉ TokenKind.joinSigns ∧ after = before := by
  have joined : ∀ word : Keyword, NeverDenies (do
      acceptWord word
      return true) :=
    fun _ => .behind fun _ => neverDenies_true
  obtain ⟨noSide, behindSided⟩ := denied_of_skip (.behind fun _ => joined _) ran
  obtain ⟨noInner, behindInner⟩ := denied_of_skip (joined _) behindSided
  obtain ⟨noNatural, behindNatural⟩ :=
    denied_of_skip (.behind fun _ => .behind fun _ => joined _) behindInner
  obtain ⟨notPlain, behindPlain⟩ := denied_of_skip neverDenies_true behindNatural
  have crossed : NeverDenies (do
      if ← skipAnyWord [.JOIN, .APPLY] then
        return true
      let _ : PUnit ← failUnexpected "JOIN"
      if ← skipWord .OUTER then
        acceptWord .APPLY
        return true
      return false) := by
    apply NeverDenies.behind
    intro isThere
    cases isThere with
    | true => exact neverDenies_true
    | false =>
        intro state last failed
        cases failed
  obtain ⟨noCross, behindCross⟩ := denied_of_skip crossed behindPlain
  obtain ⟨noOuter, finished⟩ := denied_of_skip (joined _) behindCross
  cases finished
  exact ⟨by simp_all [TokenKind.joinSigns], rfl⟩

theorem outcome_skipJoin_of_absent
    (absent : before.cursor.current.kind ∉ TokenKind.joinSigns) :
    skipJoin.outcome before = (.ok false, before) := by
  have skips : ∀ kinds : List TokenKind, kinds ⊆ TokenKind.joinSigns →
      (skipAnyKind kinds).outcome before = (.ok false, before) := by
    intro kinds among
    rw [outcome_skipAnyKind, if_neg]
    exact fun isThere => absent (among (List.contains_iff_mem.mp isThere))
  unfold skipJoin skipWord skipAnyWord skipKind
  rw [outcome_bind_of_ok (skips _ (by decide)), if_neg Bool.false_ne_true,
    outcome_bind_of_ok (skips _ (by decide)), if_neg Bool.false_ne_true,
    outcome_bind_of_ok (skips _ (by decide)), if_neg Bool.false_ne_true,
    outcome_bind_of_ok (skips _ (by decide)), if_neg Bool.false_ne_true,
    outcome_bind_of_ok (skips _ (by decide)), if_neg Bool.false_ne_true,
    outcome_bind_of_ok (skips _ (by decide)), if_neg Bool.false_ne_true]
  rfl

end Joins

theorem singleTable_eq_ok (ran : singleTable.outcome before = (.ok (), after)) :
    ∃ token aliasName cursor, before.cursor.SingleTable token aliasName cursor ∧
      after = ({ before with cursor := cursor }.marked [.table token.start token.source]).withTable
        ⟨unquoteName token.source, aliasName⟩ := by
  have named : ∀ {state last : ParseState} {name : String},
      outcome (do
        let aliasName ← alias?
        if ← skipJoin then
          throw .multipleTables
        addTable name aliasName) state = (.ok (), last) →
      last = { state with cursor := state.cursor.behindAlias }.withTable
        ⟨name, state.cursor.aliasAhead?⟩ := by
    intro state last name read
    rw [outcome_bind_of_ok (outcome_alias? state)] at read
    obtain ⟨isJoined, between, passed, added⟩ := outcome_bind_eq_ok.mp read
    cases isJoined with
    | true => cases added
    | false =>
        rw [(skipJoin_eq_false passed).2] at added
        cases added
        rfl
  unfold singleTable at ran
  rw [outcome_bind, skipSign, outcome_skipKind] at ran
  by_cases opens : before.cursor.current.kind = .symbol .leftParen
  · rw [if_pos opens] at ran
    change outcome (isKind (.keyword .SELECT) >>= fun _ => _) _ = _ at ran
    rw [outcome_bind_of_ok (outcome_isKind _ _)] at ran
    split at ran
    next => cases ran
    next =>
      obtain ⟨name, between, read, rest⟩ := outcome_bind_eq_ok.mp ran
      obtain ⟨token, behind, isTable, rfl, rfl⟩ := tableName_eq_ok read
      obtain ⟨_, last, accepted, added⟩ := outcome_bind_eq_ok.mp rest
      rw [acceptSign, outcome_accept] at accepted
      split at accepted
      next closes =>
        cases accepted
        exact ⟨token, _, _, .grouped opens isTable closes, named added⟩
      next => cases accepted
  · rw [if_neg opens] at ran
    obtain ⟨name, between, read, rest⟩ := outcome_bind_eq_ok.mp ran
    obtain ⟨token, behind, isTable, rfl, rfl⟩ := tableName_eq_ok read
    exact ⟨token, _, _, .plain isTable, named rest⟩

theorem columnList_eq_ok
    {stop : Option Nat}
    (ran : (columnList table).outcome before = (.ok stop, after)) :
    ∃ names closing behind, before.cursor.ColumnList names closing behind ∧
      stop = closing.map (fun closing => closing.current.start) ∧
      after = { before with cursor := behind }.withColumns table names := by
  unfold columnList at ran
  rw [outcome_bind, skipSign, outcome_skipKind] at ran
  by_cases opens : before.cursor.current.kind = .symbol .leftParen
  · rw [if_pos opens] at ran
    change outcome (isKind (.keyword .SELECT) >>= fun _ => _) _ = _ at ran
    rw [outcome_bind_of_ok (outcome_isKind _ _)] at ran
    split at ran
    next => cases ran
    next =>
      obtain ⟨place, between, read, finished⟩ := outcome_bind_eq_ok.mp ran
      obtain ⟨names, closing, columns, rfl, rfl⟩ := columnTurns_eq_ok read
      cases finished
      exact ⟨names, some closing, _, .listed opens columns, rfl, rfl⟩
  · rw [if_neg opens] at ran
    cases ran
    exact ⟨[], none, _, .absent opens, rfl, by simp [ParseState.withColumns]⟩

/-- What the row of an INSERT leaves. -/
def LeavesRow
    (table : String)
    (before : ParseState)
    (result : InsertRow)
    (after : ParseState) : Prop :=
  ∃ reading : Cursor.RowReading,
    reading.IsRow before.cursor before.statement.insertColumns.length ∧
    result = ⟨valuesAt reading.starts,
      reading.closing.map fun closing => (closing.current.start, closing.placeholders)⟩ ∧
    after = ({ before with cursor := reading.last }.withColumns table reading.assigned).marked
      (valueMarks before.statement.tables reading.starts)

theorem valueList_eq_ok
    {result : InsertRow}
    (ran : valueList.outcome before = (.ok result, after)) :
    before.cursor.current.kind = .symbol .leftParen ∧
      LeavesValues ⟨[], none⟩ { before with cursor := before.cursor.advance } result after := by
  obtain ⟨_, between, accepted, read⟩ := outcome_bind_eq_ok.mp ran
  rw [acceptSign, outcome_accept] at accepted
  split at accepted
  next opens =>
    cases accepted
    exact ⟨opens, valueTurns_eq_ok read⟩
  next => cases accepted

theorem insertRow_eq_ok
    {result : InsertRow}
    (ran : (insertRow table).outcome before = (.ok result, after)) :
    LeavesRow table before result after := by
  unfold insertRow at ran
  rw [outcome_bind, skipAnyWord, outcome_skipAnyKind] at ran
  by_cases isValues : [TokenKind.keyword .VALUES, .keyword .VALUE].contains
      before.cursor.current.kind = true
  · rw [List.map_cons, List.map_cons, List.map_nil, if_pos isValues] at ran
    obtain ⟨row, between, read, rest⟩ := outcome_bind_eq_ok.mp ran
    obtain ⟨opens, starts, closing, values, rfl, rfl⟩ := valueList_eq_ok read
    change outcome (isKind (.symbol .comma) >>= fun _ => _) _ = _ at rest
    rw [outcome_bind_of_ok (outcome_isKind _ _)] at rest
    split at rest
    next => cases rest
    next isSingle =>
      rw [outcome_bind_of_ok (outcome_statement _)] at rest
      dsimp only at rest
      split at rest
      next => cases rest
      next counted =>
        cases rest
        refine ⟨⟨[], starts, some closing, closing.advance⟩, ?_, rfl, ?_⟩
        · apply Cursor.RowReading.IsRow.values (by simpa using isValues) opens values
          · exact fun isComma => isSingle (beq_iff_eq.mpr isComma)
          · simp only [ParseState.marked, valuesAt, List.nil_append, List.length_map] at counted
            by_cases same : before.statement.insertColumns.length = starts.length
            · exact .inl same
            · exact .inr (by simpa [same] using counted)
        · simp [ParseState.withColumns]
  · rw [List.map_cons, List.map_cons, List.map_nil, if_neg isValues] at ran
    dsimp only at ran
    rw [if_neg Bool.false_ne_true, outcome_bind_of_ok (outcome_isAnyKind _ _)] at ran
    split at ran
    next => cases ran
    next =>
      rw [outcome_bind, skipWord, outcome_skipKind] at ran
      by_cases isSet : before.cursor.current.kind = .keyword .SET
      · rw [if_pos isSet] at ran
        obtain ⟨assignments, last, read, rfl, rfl⟩ := assignmentTurns_eq_ok ran
        exact ⟨⟨_, _, none, last⟩, .assignments isSet read, by simp, rfl⟩
      · rw [if_neg isSet] at ran
        cases ran

end Parse

namespace Cursor

section Unique

variable {cursor : Cursor}

theorem TableName.isName
    {token : Token}
    {behind : Cursor}
    (table : cursor.TableName token behind) :
    cursor.current.kind.isName = true := by
  cases table with
  | bare isName => exact isName
  | owned isName => exact isName

theorem TableName.unique
    {token other : Token}
    {behind last : Cursor}
    (first : cursor.TableName token behind)
    (second : cursor.TableName other last) :
    token = other ∧ behind = last := by
  cases first with
  | bare _ noOwner =>
      cases second with
      | bare => exact ⟨rfl, rfl⟩
      | owned _ isPoint => exact absurd isPoint noOwner
  | owned _ isPoint =>
      cases second with
      | bare _ noOwner => exact absurd isPoint noOwner
      | owned => exact ⟨rfl, rfl⟩

theorem SingleTable.unique
    {token other : Token}
    {aliasName otherAlias : Option String}
    {behind last : Cursor}
    (first : cursor.SingleTable token aliasName behind)
    (second : cursor.SingleTable other otherAlias last) :
    token = other ∧ aliasName = otherAlias ∧ behind = last := by
  have noGroup : ∀ {token behind}, cursor.TableName token behind →
      cursor.current.kind ≠ .symbol .leftParen := by
    intro token behind table isGroup
    have isName := table.isName
    rw [isGroup] at isName
    cases isName
  cases first with
  | plain table =>
      cases second with
      | plain otherTable =>
          obtain ⟨rfl, rfl⟩ := table.unique otherTable
          exact ⟨rfl, rfl, rfl⟩
      | grouped opens => exact absurd opens (noGroup table)
  | grouped opens table =>
      cases second with
      | plain otherTable => exact absurd opens (noGroup otherTable)
      | grouped _ otherTable =>
          obtain ⟨rfl, rfl⟩ := table.unique otherTable
          exact ⟨rfl, rfl, rfl⟩

theorem ReadsColumn.unique
    {name other : String}
    {behind last : Cursor}
    (first : cursor.ReadsColumn name behind)
    (second : cursor.ReadsColumn other last) :
    name = other ∧ behind = last := by
  cases first with
  | bare _ noOwner =>
      cases second with
      | bare => exact ⟨rfl, rfl⟩
      | owned _ isPoint => exact absurd isPoint noOwner
  | owned _ isPoint =>
      cases second with
      | bare _ noOwner => exact absurd isPoint noOwner
      | owned => exact ⟨rfl, rfl⟩

theorem ReadsColumns.unique
    {names others : List String}
    {closing last : Cursor}
    (first : cursor.ReadsColumns names closing)
    (second : cursor.ReadsColumns others last) :
    names = others ∧ closing = last := by
  induction first generalizing others last with
  | last column closes =>
      cases second with
      | last otherColumn =>
          obtain ⟨rfl, rfl⟩ := column.unique otherColumn
          exact ⟨rfl, rfl⟩
      | next otherColumn isComma =>
          obtain ⟨-, rfl⟩ := column.unique otherColumn
          cases closes.symm.trans isComma
  | next column isComma _ ih =>
      cases second with
      | last otherColumn closes =>
          obtain ⟨-, rfl⟩ := column.unique otherColumn
          cases closes.symm.trans isComma
      | next otherColumn _ rest =>
          obtain ⟨rfl, rfl⟩ := column.unique otherColumn
          obtain ⟨rfl, rfl⟩ := ih rest
          exact ⟨rfl, rfl⟩

theorem ColumnList.unique
    {names others : List String}
    {closing otherClosing : Option Cursor}
    {behind last : Cursor}
    (first : cursor.ColumnList names closing behind)
    (second : cursor.ColumnList others otherClosing last) :
    names = others ∧ closing = otherClosing ∧ behind = last := by
  cases first with
  | absent noList =>
      cases second with
      | absent => exact ⟨rfl, rfl, rfl⟩
      | listed opens => exact absurd opens noList
  | listed opens columns =>
      cases second with
      | absent noList => exact absurd opens noList
      | listed _ otherColumns =>
          obtain ⟨rfl, rfl⟩ := columns.unique otherColumns
          exact ⟨rfl, rfl, rfl⟩

theorem ReadsValues.unique
    {starts others : List Cursor}
    {closing last : Cursor}
    (first : cursor.ReadsValues starts closing)
    (second : cursor.ReadsValues others last) :
    starts = others ∧ closing = last := by
  induction first generalizing others last with
  | last closes =>
      cases second with
      | last => exact ⟨rfl, rfl⟩
      | next isComma => cases closes.symm.trans isComma
  | next isComma _ ih =>
      cases second with
      | last closes => cases closes.symm.trans isComma
      | next _ rest =>
          obtain ⟨rfl, rfl⟩ := ih rest
          exact ⟨rfl, rfl⟩

/-- A row in parentheses is read in one way only. -/
theorem RowReading.IsRow.unique
    {columnCount : Nat}
    {row other : RowReading}
    {closing : Cursor}
    (first : row.IsRow cursor columnCount)
    (second : other.IsRow cursor columnCount)
    (isClosing : row.closing = some closing) :
    row = other := by
  cases first with
  | values isValues _ values =>
      cases second with
      | values _ _ otherValues =>
          obtain ⟨rfl, rfl⟩ := values.unique otherValues
          rfl
      | assignments isSet =>
          rw [isSet] at isValues
          simp at isValues
  | assignments => cases isClosing

end Unique

end Cursor

/-- What an INSERT says up to the end of its row: the token that names its table, with the alias, its
column list with the cursor in front of the parenthesis that closes it, and the row. -/
structure InsertReading where
  token : Token
  aliasName : Option String
  behindTable : Cursor
  listed : List String
  listClosing : Option Cursor
  behindList : Cursor
  row : Cursor.RowReading

namespace InsertReading

/-- Whether an INSERT stands ahead. -/
structure IsRead
    (cursor : Cursor)
    (reading : InsertReading) : Prop where
  isInsert : cursor.current.kind = .keyword .INSERT
  table : ((cursor.advance.skipAny [.keyword .LOW_PRIORITY, .keyword .IGNORE]).skipAny
    [.keyword .INTO]).SingleTable reading.token reading.aliasName reading.behindTable
  list : reading.behindTable.ColumnList reading.listed reading.listClosing reading.behindList
  row : reading.row.IsRow reading.behindList reading.listed.length

/-- An INSERT with a row in parentheses is read in one way only. -/
theorem IsRead.unique
    {cursor closing : Cursor}
    {reading other : InsertReading}
    (first : reading.IsRead cursor)
    (second : other.IsRead cursor)
    (isClosing : reading.row.closing = some closing) :
    reading = other := by
  obtain ⟨token, aliasName, behindTable, listed, listClosing, behindList, row⟩ := reading
  obtain ⟨otherToken, otherAlias, otherBehind, others, otherClosing, last, otherRow⟩ := other
  obtain ⟨rfl, rfl, rfl⟩ := first.table.unique second.table
  obtain ⟨rfl, rfl, rfl⟩ := first.list.unique second.list
  obtain rfl := first.row.unique second.row isClosing
  rfl

variable (reading : InsertReading)

/-- The name of the table. -/
def table : String :=
  unquoteName reading.token.source

/-- The tables of the statement. -/
def tables : Tables :=
  ⟨[⟨reading.table, reading.aliasName⟩]⟩

/-- The columns of the list and those of the assignments. -/
def columns : List Column :=
  (reading.listed ++ reading.row.assigned).map fun name => ⟨name, reading.table⟩

/-- The values of the row. -/
def values : List Expression :=
  Cursor.valuesAt reading.row.starts

/-- The place of the parenthesis that closes the column list. -/
def listStop : Option Nat :=
  reading.listClosing.map fun closing => closing.current.start

/-- The row as the key is looked for in it. -/
def insertRow : Parse.InsertRow :=
  ⟨reading.values,
    reading.row.closing.map fun closing => (closing.current.start, closing.placeholders)⟩

/-- The cursor behind the row and what is passed behind it. -/
def last : Cursor :=
  reading.row.last.passBy (Extent.widthUntil [.symbol .semi] reading.row.last.tokens)

/-- The statement as far as the row gives it. -/
def statement (rule : Rule) : Statement :=
  { kind := .insert
    tables := reading.tables
    conditions := Parse.rowConditions rule {} reading.columns reading.values
    markers := .table reading.token.start reading.token.source ::
      Cursor.valueMarks reading.tables reading.row.starts
    insertColumns := reading.columns }

end InsertReading

namespace Parse

variable {table : String} {parameterCount : Nat} {before after : ParseState}

/-- What noting or adding the key of a row leaves. -/
inductive LeavesKey
    (table : String)
    (listStop : Option Nat)
    (row : InsertRow)
    (parameterCount : Nat)
    (before : ParseState) : ParseState → Prop where
  | unkeyed (noKey : before.rule.keyColumn? table = none) :
      LeavesKey table listStop row parameterCount before before
  | given
      {name : String}
      {position : Nat}
      (isKey : before.rule.keyColumn? table = some name)
      (isListed : (before.statement.insertColumns.findIdx? fun column =>
        Text.sameName column.name name) = some position) :
      LeavesKey table listStop row parameterCount before
        { before with
          statement :=
            { before.statement with
              generatedKey := some ⟨name, keySourceOf row.values[position]?⟩ } }
  | placeless
      {name : String}
      (isKey : before.rule.keyColumn? table = some name)
      (isAbsent : (before.statement.insertColumns.findIdx? fun column =>
        Text.sameName column.name name) = none)
      (noPlace : listStop = none ∨ row.place = none) :
      LeavesKey table listStop row parameterCount before before
  | added
      {name : String}
      {place valuesStop placeholders : Nat}
      {addition : KeyAddition}
      {between : ParseState}
      (isKey : before.rule.keyColumn? table = some name)
      (isAbsent : (before.statement.insertColumns.findIdx? fun column =>
        Text.sameName column.name name) = none)
      (isList : listStop = some place)
      (isRow : row.place = some (valuesStop, placeholders))
      (isAdded : (keyAddition table placeholders parameterCount).outcome before =
        (.ok addition, between)) :
      LeavesKey table listStop row parameterCount before
        { between with
          statement :=
            withKey between.statement before.rule ⟨name, table⟩ place valuesStop addition }

theorem generatedKey_eq_ok
    {listStop : Option Nat}
    {row : InsertRow}
    (ran : (generatedKey table listStop row parameterCount).outcome before = (.ok (), after)) :
    LeavesKey table listStop row parameterCount before after := by
  unfold generatedKey at ran
  rw [outcome_bind_of_ok (outcome_get before)] at ran
  split at ran
  next noKey =>
    cases ran
    exact .unkeyed noKey
  next name isKey =>
    dsimp only at ran
    split at ran
    next position isListed =>
      cases ran
      exact .given isKey isListed
    next isAbsent =>
      split at ran
      next place valuesStop placeholders isRow =>
        obtain ⟨addition, between, isAdded, finished⟩ := outcome_bind_eq_ok.mp ran
        cases finished
        exact .added isKey isAbsent rfl isRow isAdded
      next notBoth =>
        cases ran
        apply LeavesKey.placeless isKey isAbsent
        apply Decidable.byContradiction
        intro both
        rw [not_or] at both
        obtain ⟨place, isList⟩ := Option.ne_none_iff_exists'.mp both.1
        obtain ⟨found, isRow⟩ := Option.ne_none_iff_exists'.mp both.2
        exact notBoth place found.1 found.2 isList isRow

/-- An added key is a placeholder where parameters are bound, and otherwise a key of its own. -/
theorem keyAddition_eq_ok
    {placeholders : Nat}
    {addition : KeyAddition}
    (ran : (keyAddition table placeholders parameterCount).outcome before = (.ok addition, after)) :
    (0 < parameterCount ∧
      addition = ⟨"?", .placeholder placeholders, .deferred placeholders⟩ ∧ after = before) ∨
    (parameterCount = 0 ∧ ∃ key keys, before.keys.generate before.rule table = .ok (key, keys) ∧
      addition = ⟨toString key.toInt, .number (.integer key), .literal key⟩ ∧
      after = { before with keys := keys }) := by
  unfold keyAddition at ran
  split at ran
  next isBound =>
    cases ran
    exact .inl ⟨isBound, rfl, rfl⟩
  next unbound =>
    rw [outcome_bind_of_ok (outcome_get before)] at ran
    cases generated : before.keys.generate before.rule table with
    | error error =>
        rw [generated] at ran
        cases ran
    | ok taken =>
        rw [generated] at ran
        cases ran
        exact .inr ⟨Nat.eq_zero_of_not_pos unbound, taken.1, taken.2, rfl, rfl, rfl⟩

/-- Read an INSERT up to its table. -/
def insertOpening : Parse Unit := do
  acceptWord .INSERT
  let _ ← skipAnyWord [.LOW_PRIORITY, .IGNORE]
  let _ ← skipWord .INTO
  singleTable

theorem insertStatement_eq (parameterCount : Nat) :
    insertStatement parameterCount = (do
      insertOpening
      let table := (← statement).tables.singleName?.getD ""
      let columnsStop ← columnList table
      let row ← insertRow table
      skipUntil [.symbol .semi]
      let rule := (← get).rule
      modifyStatement fun statement =>
        { statement with
          conditions :=
            rowConditions rule statement.conditions statement.insertColumns row.values }
      generatedKey table columnsStop row parameterCount) := by
  simp only [insertStatement, insertOpening, bind_assoc]

theorem insertOpening_eq_ok (ran : insertOpening.outcome before = (.ok (), after)) :
    before.cursor.current.kind = .keyword .INSERT ∧
      ∃ token aliasName cursor,
        ((before.cursor.advance.skipAny [.keyword .LOW_PRIORITY, .keyword .IGNORE]).skipAny
          [.keyword .INTO]).SingleTable token aliasName cursor ∧
        after = ({ before with cursor := cursor }.marked
          [.table token.start token.source]).withTable ⟨unquoteName token.source, aliasName⟩ := by
  obtain ⟨_, between, accepted, rest⟩ := outcome_bind_eq_ok.mp ran
  rw [acceptWord, outcome_accept] at accepted
  split at accepted
  next isInsert =>
    cases accepted
    rw [skipAnyWord, outcome_bind_of_ok (outcome_skipAny _ _), skipWord, skipKind,
      outcome_bind_of_ok (outcome_skipAny _ _)] at rest
    exact ⟨isInsert, singleTable_eq_ok rest⟩
  next => cases accepted

/-- **An INSERT leaves what its tokens say, and then the key of its row.** -/
theorem insertStatement_eq_ok
    (fresh : before.statement = { kind := .insert })
    (ran : (insertStatement parameterCount).outcome before = (.ok (), after)) :
    ∃ reading : InsertReading, reading.IsRead before.cursor ∧
      LeavesKey reading.table reading.listStop reading.insertRow parameterCount
        { before with cursor := reading.last, statement := reading.statement before.rule } after := by
  obtain ⟨text, dialect, rule, cursor, statement, keys, rowNumberAlias, notes⟩ := before
  obtain rfl : statement = { kind := .insert } := fresh
  rw [insertStatement_eq] at ran
  obtain ⟨_, named, opened, rest⟩ := outcome_bind_eq_ok.mp ran
  obtain ⟨isInsert, token, aliasName, behindTable, isTable, rfl⟩ := insertOpening_eq_ok opened
  rw [outcome_bind_of_ok (outcome_statement _)] at rest
  obtain ⟨_, listed, list, rest⟩ := outcome_bind_eq_ok.mp rest
  obtain ⟨names, listClosing, behindList, isList, rfl, rfl⟩ := columnList_eq_ok list
  obtain ⟨_, between, rowRead, rest⟩ := outcome_bind_eq_ok.mp rest
  obtain ⟨row, isRow, rfl, rfl⟩ := insertRow_eq_ok rowRead
  have keyed := generatedKey_eq_ok rest
  refine ⟨⟨token, aliasName, behindTable, names, listClosing, behindList, row⟩,
    ⟨isInsert, isTable, isList, ?_⟩, ?_⟩
  · simpa [ParseState.withColumns, ParseState.withTable, ParseState.marked] using isRow
  · simpa [ParseState.withColumns, ParseState.withTable, ParseState.marked, Tables.add,
      Tables.containsName, Tables.singleName?, InsertReading.table, InsertReading.listStop,
      InsertReading.insertRow, InsertReading.values, InsertReading.last, InsertReading.statement,
      InsertReading.columns, InsertReading.tables] using keyed

end Parse

end ShardedSql
