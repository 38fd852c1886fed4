import ShardedSql.Parser.Expression

/-!
# Definitions of tables

Statements that create, alter, drop or empty tables are read for the names of the tables only; the
rest stays as it is.
-/

namespace ShardedSql

namespace Parse

/-- Pass the word TABLE; other objects are not sharded. -/
def acceptTable : Parse Unit := do
  let isTable ← skipWord .TABLE
  if !isTable then
    failUnsupported

/-- Read a table to define. -/
def definedTable : Parse Unit := do
  addTable (← tableName) none

/-- Pass the rest of a statement. -/
def skipRest : Parse Unit :=
  skipUntil [.symbol .semi]

/-- Read a CREATE. -/
def createStatement : Parse Unit := do
  acceptWord .CREATE
  let _ ← skipWord .TEMPORARY
  acceptTable
  if ← skipWord .IF then
    acceptWord .NOT
    acceptWord .EXISTS
  definedTable
  skipRest

/-- Read an ALTER. -/
def alterStatement : Parse Unit := do
  acceptWord .ALTER
  acceptTable
  let _ ← skipWord .ONLY
  definedTable
  skipRest

/-- Read a DROP of one or more tables. -/
def dropStatement : Parse Unit := do
  acceptWord .DROP
  let _ ← skipWord .TEMPORARY
  acceptTable
  if ← skipWord .IF then
    acceptWord .EXISTS
  repeatStep do
    definedTable
    skipSign .comma
  skipRest

/-- Read a TRUNCATE. -/
def truncateStatement : Parse Unit := do
  acceptWord .TRUNCATE
  let _ ← skipWord .TABLE
  definedTable
  skipRest

end Parse

end ShardedSql
