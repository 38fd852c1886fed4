import ShardedSql.Parser.Change
import ShardedSql.Parser.Definition
import ShardedSql.Parser.Insert

/-!
# Statements from text

The leading keyword decides how a statement is read.  Where only its kind matters, the first such
keyword is enough.
-/

namespace ShardedSql

/-- The kind of the statements that a keyword leads. -/
def StatementKind.ofKeyword? : Keyword → Option StatementKind
  | .SELECT => some .select
  | .INSERT => some .insert
  | .UPDATE => some .update
  | .DELETE => some .delete
  | .CREATE => some .create
  | .ALTER => some .alter
  | .DROP => some .drop
  | .TRUNCATE => some .truncate
  | _ => none

/-- The kind of the statements that a token leads. -/
def StatementKind.ofToken? (token : Token) : Option StatementKind :=
  match token.kind with
  | .keyword word => ofKeyword? word
  | _ => none

namespace Parse

/-- Pass a named query in front of a statement, and tell whether another one follows. -/
def namedQuery : Parse Bool := do
  if !(← isName) then
    failUnexpected "CTE name"
  advance
  let _ ← group
  acceptWord .AS
  if !(← isSign .leftParen) then
    failUnexpected "'('"
  let _ ← group
  skipSign .comma

/-- Pass the named queries in front of a statement. -/
def withClause : Parse Unit := do
  if ← skipWord .WITH then
    repeatStep namedQuery

/-- Read a statement of a kind, which runs with a number of bound parameters. -/
def statementOf
    (kind : StatementKind)
    (parameterCount : Nat) : Parse Unit :=
  match kind with
  | .select => selectStatement
  | .insert => insertStatement parameterCount
  | .update => updateStatement
  | .delete => deleteStatement
  | .create => createStatement
  | .alter => alterStatement
  | .drop => dropStatement
  | .truncate => truncateStatement

/-- Read a statement behind semicolons and named queries. -/
def wholeStatement (parameterCount : Nat) : Parse Statement := do
  repeatStep (skipSign .semi)
  withClause
  match StatementKind.ofToken? (← current) with
  | none => throw (.unsupportedStatement (← get).text)
  | some kind =>
      modifyStatement fun _ => { kind := kind }
      statementOf kind parameterCount
      statement

end Parse

namespace Statement

/-- Parse a statement that runs with a number of bound parameters.  Beside the statement there are
the keys that are left. -/
def parse
    (dialect : Dialect)
    (rule : Rule)
    (keys : Keys)
    (sql : String)
    (parameterCount : Nat) : Except Error Statement × Keys :=
  let (result, state) :=
    (Parse.wholeStatement parameterCount).run
      (ParseState.start dialect rule keys sql { kind := .select })
  (result, state.keys)

/-- The kind of a statement by the first keyword that decides it.  The end of the text, or a piece
of it that fits no class of tokens, ends the search. -/
def judge
    (dialect : Dialect)
    (sql : String) : Except Error StatementKind :=
  let searched := (Lexer.tokens dialect sql).takeWhile fun token =>
    token.kind != .finish && token.kind != .unknown
  match searched.findSome? StatementKind.ofToken? with
  | some kind => .ok kind
  | none => .error (.unsupportedStatement sql)

end Statement

end ShardedSql
