import ShardedSql.Parser.Expression

/-!
# Conditions of a WHERE clause

A WHERE clause is a chain of predicates joined by AND, with parentheses around parts of it.  Three
forms of predicates give conditions: equality, membership in a list, and a range.  Other predicates
are read over, and OR is refused, because under it no condition need hold.
-/

namespace ShardedSql

namespace Parse

/-- The column that an expression names among the given tables.  A bare name is a column of the only
table. -/
def columnOf?
    (tables : Tables) : Expression → Option Column
  | .property owner name => (tables.find? owner).map fun table => ⟨name, table.name⟩
  | .identifier name => tables.singleName?.map fun table => ⟨name, table⟩
  | _ => none

/-- The column that an expression names, if some strategy may choose by it. -/
def shardingColumn? (expression : Expression) : Parse (Option Column) := do
  let state ← get
  return (columnOf? state.statement.tables expression).filter state.rule.isShardingColumn

/-- Add a condition on the column that an expression names, if some strategy may choose by it. -/
def addCondition
    (left : Expression)
    (operator : ConditionOperator)
    (operands : List Expression) : Parse Unit := do
  match ← shardingColumn? left with
  | some column =>
      modifyStatement fun statement =>
        { statement with conditions := statement.conditions.add ⟨column, operator, operands⟩ }
  | none => pure ()

/-- Whether an expression is a column with an owner. -/
def isQualified : Expression → Bool
  | .property _ _ => true
  | _ => false

/-- Read the right side of an equality. -/
def equalCondition (left : Expression) : Parse Unit := do
  advance
  let right ← expression
  if ((← statement).tables.isSingle || isQualified left) && right.isValue then
    addCondition left .equal [right]

/-- Read the list of a membership. -/
def membershipCondition (left : Expression) : Parse Unit := do
  advance
  acceptSign .leftParen
  if ← isWord .SELECT then
    throw .subquery
  let members ← repeatFrom [] fun members => do
    if ← skipSign .rightParen then
      return (members, false)
    if ← isKind .finish then
      failUnexpected "')'"
    if ← skipSign .comma then
      return (members, true)
    let member ← expression
    return (members ++ [member], true)
  if !members.isEmpty && members.all Expression.isValue then
    addCondition left .among members

/-- Read the bounds of a range. -/
def rangeCondition (left : Expression) : Parse Unit := do
  advance
  let lower ← expression
  acceptWord .AND
  let upper ← expression
  if lower.isValue && upper.isValue then
    addCondition left .between [lower, upper]

/-- The operand of a row limit that an expression stands for. -/
def rowNumberBound? : Expression → Option LimitOperand
  | .number value => value.toInteger?.map LimitOperand.literal
  | .placeholder index => some (.placeholder index)
  | _ => none

/-- Set a bound of the row limit that comparisons with the row number make up, and mark its
literal. -/
def boundRowNumber
    (isRowCount : Bool)
    (operand : LimitOperand)
    (position length : Nat) : Parse Unit := do
  let limit := (← statement).limit.getD { countsFromOffset := false }
  let bounded :=
    if isRowCount then
      { limit with rowCount := some operand }
    else
      { limit with offset := some operand }
  modifyStatement fun statement => { statement with limit := some bounded }
  match operand with
  | .literal value =>
      let marker :=
        if isRowCount then Marker.rowCount position length value
        else Marker.offset position length value
      modifyStatement fun statement => statement.mark marker
  | .placeholder _ => pure ()

/-- Read a comparison with the row number: an upper bound limits the row count, a lower bound is an
offset. -/
def rowNumberCondition : Parse Unit := do
  let isRowCount ← isAnyKind [.symbol .lt, .symbol .ltEq]
  advance
  let position := (← current).start
  let bound ← expression
  match rowNumberBound? bound with
  | some operand => boundRowNumber isRowCount operand position ((← lastStop) - position)
  | none => pure ()

/-- The name of a column, with or without an owner. -/
def columnName? : Expression → Option String
  | .identifier name => some name
  | .property _ name => some name
  | _ => none

/-- Read a predicate that begins with an operand. -/
def comparison : Parse Unit := do
  let left ← expression
  match (← current).kind with
  | .symbol .eq => equalCondition left
  | .keyword .IN => membershipCondition left
  | .keyword .BETWEEN => rangeCondition left
  | .symbol .lt => inequality left
  | .symbol .gt => inequality left
  | .symbol .ltEq => inequality left
  | .symbol .gtEq => inequality left
  | .symbol .ltGt => passOperand
  | .symbol .bangEq => passOperand
  | .keyword .LIKE => passOperand
  | _ => pure ()
where
  /-- Pass an operator and its right operand. -/
  passOperand : Parse Unit := do
    advance
    let _ ← expression
  /-- Read an inequality, which counts when a query compares the row number. -/
  inequality (left : Expression) : Parse Unit := do
    let state ← get
    if state.statement.kind == .select && (columnName? left).any state.isRowNumber then
      rowNumberCondition
    else
      passOperand

/-- Whether a predicate begins with an operand here. -/
def isOperandStart : Parse Bool := do
  let kind := (← current).kind
  return (kind.isIdentifier && kind != .keyword .EXISTS) ||
    [TokenKind.literal .chars, .literal .int, .literal .float, .literal .hex,
      .symbol .question].contains kind

/-- Pass the rest of a predicate inside `opened` groups, and give the number of groups open behind
it. -/
def skipPredicate (opened : Nat) : Parse Nat := do
  let extent := Extent.ofPredicate false opened (← get).cursor.tokens
  modifyCursor (Cursor.passBy extent.width)
  if extent.meetsOr then
    failUnsupported
  return extent.opened

/-- Read one predicate inside `opened` groups with the parentheses around it, and tell whether
another one follows. -/
def predicate (opened : Nat) : Parse (Nat × Bool) := do
  let further ← passMeasured fun tokens => (tokens.takeWhile Token.opensGroup).length
  if ← isOperandStart then
    comparison
  let closed ← passMeasured fun tokens =>
    min (opened + further) (tokens.takeWhile Token.closesGroup).length
  let left ← skipPredicate (opened + further - closed)
  return (left, ← skipWord .AND)

/-- Read a WHERE clause, if there is one. -/
def whereClause : Parse Unit := do
  if ← skipWord .WHERE then
    let _ ← repeatFrom 0 predicate

end Parse

end ShardedSql
