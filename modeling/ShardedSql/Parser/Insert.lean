import ShardedSql.Parser.Expression

/-!
# Inserts

An INSERT gives one row, by a column list and values or by assignments.  Its columns and values are
conditions: the row has to be stored where its values will be looked for.  A key column that the
statement leaves out is added with a generated key.
-/

namespace ShardedSql

namespace Parse

/-- Pass a column, possibly behind an owner. -/
def insertColumn (table : String) : Parse Column := do
  if !(← isName) then
    failUnexpected "column name"
  let first := (← current).source
  advance
  let name ←
    if ← skipSign .dot then
      let second := (← current).source
      advance
      pure second
    else
      pure first
  return ⟨unquoteName name, table⟩

/-- Add a column to insert. -/
def addColumn (column : Column) : Parse Unit :=
  modifyStatement fun statement =>
    { statement with insertColumns := statement.insertColumns ++ [column] }

/-- Read a column list, if there is one, and give the place of its closing parenthesis. -/
def columnList (table : String) : Parse (Option Nat) := do
  if !(← skipSign .leftParen) then
    return none
  if ← isWord .SELECT then
    throw .insertSelect
  let stop ← repeatFrom 0 fun _ => do
    addColumn (← insertColumn table)
    let token ← current
    if ← skipSign .rightParen then
      return (token.start, false)
    acceptSign .comma
    return (token.start, true)
  return some stop

/-- The values of the row to insert.  A row in parentheses has a place for further values, with a
number of placeholders in front of it. -/
structure InsertRow where
  values : List Expression
  place : Option (Nat × Nat)

/-- Read the values of a row up to its closing parenthesis. -/
def valueList : Parse InsertRow := do
  acceptSign .leftParen
  repeatFrom ⟨[], none⟩ fun row => do
    let value ← expression
    let values := row.values ++ [value]
    let state ← get
    if ← skipSign .rightParen then
      return (⟨values, some (state.cursor.current.start, state.cursor.placeholders)⟩, false)
    acceptSign .comma
    return (⟨values, none⟩, true)

/-- Read the assignments of a row. -/
def assignmentList (table : String) : Parse InsertRow :=
  repeatFrom ⟨[], none⟩ fun row => do
    let column ← insertColumn table
    acceptSign .eq
    addColumn column
    let value ← expression
    return (⟨row.values ++ [value], none⟩, ← skipSign .comma)

/-- Read the row to insert. -/
def insertRow (table : String) : Parse InsertRow := do
  if ← skipAnyWord [.VALUES, .VALUE] then
    let row ← valueList
    if ← isSign .comma then
      throw .multipleRows
    let columns := (← statement).insertColumns
    if columns.length != row.values.length && !columns.isEmpty then
      throw (.valueCount columns.length row.values.length)
    return row
  if ← isAnyKind [.keyword .SELECT, .symbol .leftParen] then
    throw .insertSelect
  if ← skipWord .SET then
    assignmentList table
  else
    failUnexpected Keyword.VALUES.text

/-- The conditions that the values of a row give, after those that are there. -/
def rowConditions
    (rule : Rule)
    (conditions : Conditions)
    (columns : List Column)
    (values : List Expression) : Conditions :=
  (columns.zip values).foldl
    (fun collected (column, value) =>
      if value.isValue && rule.isShardingColumn column then
        collected.add ⟨column, .equal, [value]⟩
      else
        collected)
    conditions

/-- Where the key of a row with a key column comes from. -/
def keySourceOf : Option Expression → KeySource
  | some (.placeholder index) => .placeholder index
  | some (.number value) =>
      match value.toInteger? with
      | some key => .literal key
      | none => .unknown
  | _ => .unknown

/-- What a statement gains by a generated key: the value to add to the row, the expression that
stands for it, and where the key comes from. -/
structure KeyAddition where
  text : String
  expression : Expression
  source : KeySource

/-- The key to add to a row: a further placeholder behind those of the row where parameters are
bound, and otherwise a key of its own, which is taken now. -/
def keyAddition
    (table : String)
    (placeholders parameterCount : Nat) : Parse KeyAddition := do
  if 0 < parameterCount then
    return ⟨"?", .placeholder placeholders, .deferred placeholders⟩
  else
    let state ← get
    let (key, keys) ← liftExcept (state.keys.generate state.rule table)
    set { state with keys := keys }
    return ⟨toString key.toInt, .number (.integer key), .literal key⟩
where
  /-- Fail as a computation failed. -/
  liftExcept {α : Type} : Except Error α → Parse α
    | .ok value => pure value
    | .error error => throw error

/-- Add a key column with a generated key to a statement. -/
def withKey
    (statement : Statement)
    (rule : Rule)
    (column : Column)
    (listStop valuesStop : Nat)
    (addition : KeyAddition) : Statement :=
  let marked :=
    (statement.mark (.items listStop [column.name])).mark (.items valuesStop [addition.text])
  { marked with
    conditions := rowConditions rule marked.conditions [column] [addition.expression]
    generatedKey := some ⟨column.name, addition.source⟩
    insertColumns := marked.insertColumns ++ [column] }

/-- Note the key of the row, or add one that the statement leaves out. -/
def generatedKey
    (table : String)
    (columnsStop : Option Nat)
    (row : InsertRow)
    (parameterCount : Nat) : Parse Unit := do
  let state ← get
  match state.rule.keyColumn? table with
  | none => pure ()
  | some name =>
      let columns := state.statement.insertColumns
      match columns.findIdx? fun column => Text.sameName column.name name with
      | some position =>
          let source := keySourceOf row.values[position]?
          modifyStatement fun statement =>
            { statement with generatedKey := some ⟨name, source⟩ }
      | none =>
          match columnsStop, row.place with
          | some listStop, some (valuesStop, placeholders) =>
              let addition ← keyAddition table placeholders parameterCount
              modifyStatement fun statement =>
                withKey statement state.rule ⟨name, table⟩ listStop valuesStop addition
          | _, _ => pure ()

/-- Read an INSERT that runs with a number of bound parameters. -/
def insertStatement (parameterCount : Nat) : Parse Unit := do
  acceptWord .INSERT
  let _ ← skipAnyWord [.LOW_PRIORITY, .IGNORE]
  let _ ← skipWord .INTO
  singleTable
  let table := (← statement).tables.singleName?.getD ""
  let columnsStop ← columnList table
  let row ← insertRow table
  skipUntil [.symbol .semi]
  let rule := (← get).rule
  modifyStatement fun statement =>
    { statement with
      conditions :=
        rowConditions rule statement.conditions statement.insertColumns row.values }
  generatedKey table columnsStop row parameterCount

end Parse

end ShardedSql
