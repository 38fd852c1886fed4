import ShardedSql.Parser.Select

/-!
# Updates and deletes

An UPDATE or a DELETE changes exactly one table.
-/

namespace ShardedSql

namespace Parse

/-- Pass a row limit in front of the table. -/
def skipTop : Parse Unit := do
  if ← skipWord .TOP then
    let _ ← topOperand

/-- Read an assignment, and tell whether another one follows. -/
def assignment : Parse Bool := do
  let _ ← expression
  acceptSign .eq
  let _ ← expression
  let _ ← passMeasured Extent.assignmentWidth
  skipSign .comma

/-- Read an UPDATE. -/
def updateStatement : Parse Unit := do
  acceptWord .UPDATE
  let _ ← skipAnyWord [.LOW_PRIORITY, .IGNORE, .ONLY]
  skipTop
  singleTable
  acceptWord .SET
  repeatStep assignment
  if ← isWord .FROM then
    throw .multipleTables
  whereClause

/-- Read a DELETE. -/
def deleteStatement : Parse Unit := do
  acceptWord .DELETE
  let _ ← skipAnyWord [.LOW_PRIORITY, .QUICK, .IGNORE]
  skipTop
  let _ ← skipWord .FROM
  let _ ← skipWord .ONLY
  singleTable
  if ← isAnyKind [.keyword .FROM, .keyword .USING] then
    throw .multipleTables
  whereClause

end Parse

end ShardedSql
