import ShardedSql.Parser.State

/-!
# Expressions and names

The parts that the clauses of all statements are made of: expressions as far as routing understands
them, aliases, tables, joins and row limits.
-/

namespace ShardedSql

namespace Parse

/-- The characters of a number without the suffix of a floating-point number. -/
def numberText (literals : String) : String :=
  String.ofList (literals.toList.reverse.dropWhile fun character =>
    character == 'f' || character == 'F' || character == 'd' || character == 'D').reverse

/-- The expression that a token is by itself; a placeholder gets the next number. -/
def expressionOf
    (token : Token)
    (placeholders : Nat) : Expression :=
  match token.kind with
  | .symbol .question => .placeholder placeholders
  | .literal .chars => .text token.literals
  | .literal .int => ofNumber token.literals
  | .literal .float => ofNumber token.literals
  | .literal .hex =>
      match Integer.readHex? (token.literals.toList.drop 2) with
      | some value => .number (.integer value)
      | none => .ignored
  | kind => if kind.isIdentifier then .identifier (unquoteName token.literals) else .ignored
where
  /-- The expression of a number token. -/
  ofNumber (literals : String) : Expression :=
    match Value.ofLiteral (numberText literals) with
    | .integer value => .number (.integer value)
    | .float value => .number (.float value)
    | _ => .ignored

/-- Pass what makes the operand before it composite, and tell whether there is any. -/
def skipComposite : Parse Bool :=
  return (← passMeasured Extent.compositeWidth) != 0

/-- Pass an expression.  A name with an owner in front of it is a column of that owner. -/
def bareExpression : Parse Expression := do
  let token ← current
  let simple := expressionOf token (← get).cursor.placeholders
  modifyCursor Cursor.pass
  let whole ←
    if token.kind.isIdentifier then
      if ← skipSign .dot then
        let name := unquoteName (← current).source
        advance
        pure (Expression.property (unquoteName token.source) name)
      else
        pure simple
    else
      pure simple
  return if ← skipComposite then .ignored else whole

/-- Pass an expression, and mark the owner of a column that is a table of the statement. -/
def expression : Parse Expression := do
  let token ← current
  let result ← bareExpression
  match result with
  | .property owner _ =>
      if (← statement).tables.containsName owner then
        modifyStatement fun statement => statement.mark (.table token.start token.source)
  | _ => pure ()
  return result

/-- Pass a group in parentheses, and give its text: up to the closing parenthesis, or to the end of
the text.  Without an opening parenthesis there is nothing to pass. -/
def group : Parse String := do
  let state ← get
  let token := state.cursor.current
  if token.opensGroup then
    let extent := Extent.ofGroup 0 state.cursor.tokens
    modifyCursor (Cursor.passBy extent.width)
    let closing ← lastStop
    let stop := if extent.isClosed then closing else state.text.utf8ByteSize
    return Text.slice state.text token.start stop
  else
    return ""

/-- Pass the tokens in front of the first one of the given kinds. -/
def skipUntil (kinds : List TokenKind) : Parse Unit := do
  let _ ← passMeasured (Extent.widthUntil kinds)

/-- Pass an alias: any word behind AS, or a bare name. -/
def alias? : Parse (Option String) := do
  let behindAs ← skipWord .AS
  let token ← current
  let isAlias :=
    match token.kind with
    | .symbol _ => false
    | .finish => false
    | kind => behindAs || kind.isName
  if isAlias then
    advance
    return some (unquoteName token.literals)
  else
    return none

/-- Pass the name of a table, possibly behind a schema; mark the name, and give it unquoted. -/
def tableName : Parse String := do
  if !(← isName) then
    failUnexpected "table name"
  let first ← current
  advance
  let token ←
    if ← skipSign .dot then
      if !(← isName) then
        failUnexpected "table name"
      let second ← current
      advance
      pure second
    else
      pure first
  modifyStatement fun statement => statement.mark (.table token.start token.source)
  return unquoteName token.source

/-- Add a table to the statement. -/
def addTable
    (name : String)
    (aliasName : Option String) : Parse Unit :=
  modifyStatement fun statement =>
    { statement with tables := statement.tables.add ⟨name, aliasName⟩ }

/-- Pass the words that join two tables, or the comma between them, and tell whether there are
any. -/
def skipJoin : Parse Bool := do
  if ← skipAnyWord [.LEFT, .RIGHT, .FULL] then
    let _ ← skipWord .OUTER
    acceptWord .JOIN
    return true
  if ← skipWord .INNER then
    acceptWord .JOIN
    return true
  if ← skipWord .NATURAL then
    let _ ← skipAnyWord [.LEFT, .RIGHT, .INNER]
    let _ ← skipWord .OUTER
    acceptWord .JOIN
    return true
  if ← skipAnyKind [.keyword .JOIN, .symbol .comma, .keyword .STRAIGHT_JOIN] then
    return true
  if ← skipWord .CROSS then
    if ← skipAnyWord [.JOIN, .APPLY] then
      return true
    failUnexpected "JOIN"
  if ← skipWord .OUTER then
    acceptWord .APPLY
    return true
  return false

/-- Pass the only table of a statement that changes data. -/
def singleTable : Parse Unit := do
  let inParentheses ← skipSign .leftParen
  if inParentheses then
    if ← isWord .SELECT then
      throw .subquery
  let name ← tableName
  if inParentheses then
    acceptSign .rightParen
  let aliasName ← alias?
  if ← skipJoin then
    throw .multipleTables
  addTable name aliasName

/-- An operand of a row limit with the span of its text. -/
structure LimitSpan where
  operand : LimitOperand
  start : Nat
  stop : Nat

/-- Pass an operand of a row limit: an integer that is not negative, or a placeholder. -/
def limitOperand : Parse LimitSpan := do
  let token ← current
  match token.kind with
  | .literal .int =>
      match Integer.read token.literals with
      | .error fault => throw (.invalidLimit token.literals fault)
      | .ok value =>
          if value < 0 then
            throw .negativeLimit
          advance
          return ⟨.literal value, token.start, token.stop⟩
  | .symbol .question =>
      let index := (← get).cursor.placeholders
      modifyCursor Cursor.pass
      return ⟨.placeholder index, token.start, token.stop⟩
  | _ => failUnexpected "LIMIT value"

end Parse

end ShardedSql
