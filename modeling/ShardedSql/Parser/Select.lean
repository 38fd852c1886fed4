import ShardedSql.Parser.Where
import ShardedSql.Statement.Derived

/-!
# Queries

A query has a select list, tables, conditions, groups, an order and a row limit, in this order.
Queries in place of a table are read in the same way; they contribute tables and conditions, but
only the outermost select list, groups and order count.
-/

namespace ShardedSql

namespace Parse

/-- Change the notes of a query. -/
def modifyNotes (change : SelectNotes → SelectNotes) : Parse Unit :=
  modify fun state => { state with notes := change state.notes }

/-- Add an item to the select list of the outermost query. -/
def addItem
    (depth : Nat)
    (item : SelectItem) : Parse Unit :=
  if depth = 0 then
    modifyStatement fun statement => { statement with items := statement.items ++ [item] }
  else
    pure ()

/-- Add a star to the select list of the outermost query. -/
def addStar
    (depth : Nat)
    (owner : Option String) : Parse Unit := do
  if depth = 0 then
    modifyStatement fun statement => { statement with containsStar := true }
  addItem depth (.star owner)

/-- What a select item begins with. -/
inductive ItemHead where
  /-- A star with an owner, which is the whole item. -/
  | ownedStar
  /-- Something else than a name. -/
  | other
  /-- A name or a column. -/
  | name
  /-- A call of a function, which may be an aggregation of its arguments. -/
  | call (aggregation : Option Aggregation) (arguments : String)

/-- Pass the beginning of a select item. -/
def itemHead (depth : Nat) : Parse ItemHead := do
  let token ← current
  if !token.kind.isIdentifier then
    return .other
  advance
  if ← isSign .leftParen then
    let arguments ← group
    return .call (Aggregation.ofName? (unquoteName token.source)) arguments
  if ← skipSign .dot then
    modifyNotes fun notes =>
      { notes with owners := notes.owners ++ [(token.start, token.source)] }
    if ← skipSign .star then
      addStar depth (some (unquoteName token.source))
      return .ownedStar
    advance
  return .name

/-- Pass the rest of a select item. -/
def skipItem (afterOperand : Bool) : Parse Unit := do
  let extent := Extent.ofItem afterOperand (← get).cursor.tokens
  modifyCursor (Cursor.passBy extent.width)
  if extent.meetsUnknown then
    failUnexpected "select item"

/-- Remember the alias of the pseudo column that numbers rows. -/
def noteRowNumber
    (expression : String)
    (aliasName : Option String) : Parse Unit := do
  let state ← get
  if state.dialect.rowNumberColumn?.any fun column => Text.sameName column expression then
    match aliasName with
    | some name => set { state with rowNumberAlias := some name }
    | none => pure ()

/-- Read the rest of a select item behind its beginning. -/
def finishItem
    (depth start : Nat)
    (head : ItemHead) : Parse Unit := do
  let headStop ← lastStop
  skipItem (match head with
    | .other => false
    | _ => true)
  let stop ← lastStop
  let text := Text.slice (← get).text start stop
  let expression := unquoteName (Text.trim text)
  let aliasName ← alias?
  noteRowNumber expression aliasName
  let item :=
    match head with
    | .call (some function) arguments =>
        if stop = headStop then .aggregation function arguments aliasName
        else .common expression aliasName
    | _ => .common expression aliasName
  addItem depth item

/-- Read an item of the select list. -/
def selectItem (depth : Nat) : Parse Unit := do
  let start := (← current).start
  if ← skipSign .star then
    addStar depth none
  else
    match ← itemHead depth with
    | .ownedStar => pure ()
    | head => finishItem depth start head

/-- Read the select list. -/
def selectList (depth : Nat) : Parse Unit := do
  repeatStep do
    selectItem depth
    skipSign .comma
  if depth = 0 then
    let stop ← lastStop
    modifyNotes fun notes => { notes with listStop := some stop }

/-- Mark the literal of a row count. -/
def markRowCount (bound : LimitSpan) : Parse Unit :=
  match bound.operand with
  | .literal value =>
      modifyStatement fun statement =>
        statement.mark (.rowCount bound.start (bound.stop - bound.start) value)
  | .placeholder _ => pure ()

/-- Mark the literal of an offset. -/
def markOffset (bound : LimitSpan) : Parse Unit :=
  match bound.operand with
  | .literal value =>
      modifyStatement fun statement =>
        statement.mark (.offset bound.start (bound.stop - bound.start) value)
  | .placeholder _ => pure ()

/-- Pass a row limit in front of the select list, possibly in parentheses. -/
def topOperand : Parse LimitSpan := do
  let inParentheses ← skipSign .leftParen
  let bound ← limitOperand
  if inParentheses then
    acceptSign .rightParen
  return bound

/-- Read a row limit in front of the select list. -/
def topClause : Parse Unit := do
  if ← skipWord .TOP then
    let bound ← topOperand
    modifyStatement fun statement =>
      let limit := statement.limit.getD { countsFromOffset := false }
      { statement with limit := some { limit with rowCount := some bound.operand } }
    markRowCount bound

/-- Read a table, or a query in its place by `nested`, with an alias and possibly in parentheses. -/
def tableReference (nested : Parse Unit) : Parse Unit := do
  if ← skipSign .leftParen then
    if ← isWord .SELECT then
      nested
      acceptSign .rightParen
      let _ ← alias?
    else
      let name ← tableName
      let inner ← alias?
      acceptSign .rightParen
      match inner with
      | some aliasName => addTable name (some aliasName)
      | none => addTable name (← alias?)
  else
    let name ← tableName
    addTable name (← alias?)

/-- Read the condition of a join; its columns only tell where the names of tables stand. -/
def joinCondition : Parse Unit := do
  if ← skipWord .ON then
    repeatStep do
      let _ ← expression
      if ← skipAnyKind [.symbol .eq, .symbol .lt, .symbol .gt, .symbol .ltEq, .symbol .gtEq,
          .symbol .ltGt, .symbol .bangEq] then
        let _ ← expression
      skipWord .AND
  else if ← skipWord .USING then
    let _ ← group

/-- Read the tables of a query. -/
def fromClause (nested : Parse Unit) : Parse Unit := do
  if ← skipWord .FROM then
    tableReference nested
    repeatStep do
      let joined ← skipJoin
      if joined then
        tableReference nested
        joinCondition
      return joined

/-- The alias that the select list gives an expression. -/
def aliasOf?
    (items : List SelectItem)
    (expression : String) : Option String :=
  (items.find? fun item => Text.sameName item.expression expression).bind SelectItem.alias?

/-- The column that an expression of an order names, or the position that it gives. -/
def orderItem?
    (items : List SelectItem)
    (direction : OrderDirection) : Expression → Option OrderItem
  | .number value =>
      value.toInteger?.bind fun index =>
        if 0 < index then
          some { index := some index.toInt.toNat, direction := direction }
        else
          none
  | .identifier name =>
      some { name := some name, direction := direction, aliasName := aliasOf? items name }
  | .property owner name =>
      some
        { owner := some owner
          name := some name
          direction := direction
          aliasName := aliasOf? items (owner ++ "." ++ name) }
  | _ => none

/-- Read an item of an order; one that is neither a column nor a position is passed over. -/
def orderItem : Parse (Option OrderItem) := do
  let ordered ← expression
  let isDescending ← skipWord .DESC
  if !isDescending then
    let _ ← skipWord .ASC
  if ← skipWord .NULLS then
    let _ ← skipAnyWord [.FIRST, .LAST]
  let direction := if isDescending then OrderDirection.descending else .ascending
  return orderItem? (← statement).items direction ordered

/-- Read the items of an order. -/
def orderItems : Parse (List OrderItem) :=
  repeatFrom [] fun items => do
    let item ← orderItem
    return (items ++ item.toList, ← skipSign .comma)

/-- Read the groups of a query. -/
def groupByClause (depth : Nat) : Parse Unit := do
  if ← skipWord .GROUP then
    acceptWord .BY
    let items ← orderItems
    if ← skipWord .WITH then
      let _ ← skipWord .ROLLUP
    if depth = 0 then
      let stop ← lastStop
      modifyStatement fun statement =>
        { statement with groupByItems := statement.groupByItems ++ items }
      modifyNotes fun notes => { notes with groupByStop := some stop }

/-- Read the order of a query. -/
def orderByClause (depth : Nat) : Parse Unit := do
  if ← skipWord .ORDER then
    acceptWord .BY
    let items ← orderItems
    if depth = 0 then
      modifyStatement fun statement =>
        { statement with orderByItems := statement.orderByItems ++ items }

/-- Read one clause of a row limit, if there is one, into the bounds so far. -/
def limitClause (limit : Limit) : Parse (Limit × Bool) := do
  if ← skipWord .LIMIT then
    if ← skipWord .ALL then
      return (limit, true)
    let first ← limitOperand
    if ← skipSign .comma then
      let second ← limitOperand
      markOffset first
      markRowCount second
      return ({ limit with offset := some first.operand, rowCount := some second.operand }, true)
    markRowCount first
    return ({ limit with rowCount := some first.operand }, true)
  if ← skipWord .OFFSET then
    let bound ← limitOperand
    markOffset bound
    let _ ← skipAnyWord [.ROW, .ROWS]
    return ({ limit with offset := some bound.operand }, true)
  if ← skipWord .FETCH then
    let _ ← skipAnyWord [.FIRST, .NEXT]
    let isCounted ← isAnyKind [.literal .int, .symbol .question]
    let rowCount ←
      if isCounted then
        let bound ← limitOperand
        markRowCount bound
        pure bound.operand
      else
        pure (LimitOperand.literal 1)
    let _ ← skipAnyWord [.ROW, .ROWS]
    let _ ← skipWord .ONLY
    return ({ limit with rowCount := some rowCount }, true)
  return (limit, false)

/-- Read the clauses of a row limit in any order. -/
def limitClauses : Parse Unit := do
  if ← isAnyKind [.keyword .LIMIT, .keyword .OFFSET, .keyword .FETCH] then
    let limit ← repeatFrom { countsFromOffset := true } limitClause
    modifyStatement fun statement => { statement with limit := some limit }

/-- Pass a clause that locks the rows of the result. -/
def lockClause : Parse Unit := do
  if ← isAnyKind [.keyword .FOR, .keyword .LOCK] then
    let count := Extent.lockWidth (← get).cursor.tokens
    modifyCursor (Cursor.advanceBy count)

/-- Pass DISTINCT, which counts for the outermost query, or ALL. -/
def distinctClause (depth : Nat) : Parse Unit := do
  if ← skipAnyWord [.DISTINCT, .DISTINCTROW] then
    if depth = 0 then
      modifyStatement fun statement => { statement with distinct := true }
  else
    let _ ← skipWord .ALL

/-- Read a query at a depth of nesting, whose tables may be queries themselves. -/
def queryWith
    (nested : Parse Unit)
    (depth : Nat) : Parse Unit := do
  acceptWord .SELECT
  distinctClause depth
  topClause
  selectList depth
  fromClause nested
  whereClause
  groupByClause depth
  if ← isWord .HAVING then
    throw .having
  orderByClause depth
  limitClauses
  if ← isAnyKind [.keyword .UNION, .keyword .INTERSECT, .keyword .EXCEPT, .keyword .MINUS] then
    throw (.setOperator (Text.upperAscii (← current).literals))
  lockClause

/-- Read a query at a depth of nesting; at most `fuel` queries are nested in each other. -/
def query : (fuel : Nat) → (depth : Nat) → Parse Unit
  | 0, _ => failUnexpected Keyword.SELECT.text
  | fuel + 1, depth => queryWith (query fuel (depth + 1)) depth

/-- Mark the owners in front of select items that are tables of the statement. -/
def markOwners : Parse Unit := do
  for (position, literals) in (← get).notes.owners do
    if (← statement).tables.containsName (unquoteName literals) then
      modifyStatement fun statement => statement.mark (.table position literals)

/-- Read a SELECT, and add what merging its results needs. -/
def selectStatement : Parse Unit := do
  query ((← get).cursor.tokens.length + 1) 0
  markOwners
  let notes := (← get).notes
  match notes.listStop with
  | some stop => modifyStatement fun statement => statement.deriveColumns stop
  | none => pure ()
  modifyStatement fun statement => statement.deriveOrder notes.groupByStop

end Parse

end ShardedSql
