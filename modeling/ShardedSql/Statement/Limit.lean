import ShardedSql.Error

/-!
# Row limits

A limit asks for a window of the result.  When a statement runs on several tables, each of them has
to deliver every row up to the end of the window.
-/

namespace ShardedSql

/-- A bound of a window: a literal or a placeholder. -/
inductive LimitOperand where
  | literal (value : Int64)
  | placeholder (index : Nat)
  deriving DecidableEq

namespace LimitOperand

/-- The number of rows that an operand stands for. -/
def resolve
    (operand : LimitOperand)
    (parameters : List Value) : Except Error Int64 := do
  let value ←
    match operand with
    | .literal value => .ok value
    | .placeholder index =>
        match (parameters[index]?).bind Value.nearestInteger? with
        | some value => .ok value
        | none => .error (Error.unboundLimit index)
  if value < 0 then .error .negativeLimit else .ok value

/-- The placeholder of an operand. -/
def index? : LimitOperand → Option Nat
  | .literal _ => none
  | .placeholder index => some index

end LimitOperand

/-- A window of a result.  `countsFromOffset` says that the row count begins at the offset, and not
at the first row of the result. -/
structure Limit where
  offset : Option LimitOperand := none
  rowCount : Option LimitOperand := none
  countsFromOffset : Bool
  deriving DecidableEq

namespace Limit

/-- The row count that stands for all rows. -/
def allRows : Int64 := 2147483647

/-- The number of rows to pass over. -/
def offsetValue
    (limit : Limit)
    (parameters : List Value) : Except Error Int64 :=
  match limit.offset with
  | some operand => operand.resolve parameters
  | none => .ok 0

/-- The number of rows to deliver. -/
def rowCountValue
    (limit : Limit)
    (parameters : List Value) : Except Error (Option Int64) :=
  match limit.rowCount with
  | some operand => (operand.resolve parameters).map some
  | none => .ok none

/-- The row count that one of several tables has to deliver for a window. -/
def widened
    (limit : Limit)
    (fetchAll : Bool)
    (offset rowCount : Int64) : Int64 :=
  if fetchAll then allRows
  else if limit.countsFromOffset then Integer.saturatingAdd offset rowCount
  else rowCount

/-- Put an integer in the place of the parameter of an operand. -/
def bindOperand
    (operand : Option LimitOperand)
    (value : Int64)
    (parameters : List Value) : List Value :=
  match operand.bind LimitOperand.index? with
  | some index => parameters.set index (.integer value)
  | none => parameters

/-- Widen the window that is given by parameters, for a statement that runs on several tables: the
offset becomes zero, and the row count reaches to the end of the window.  The parameters are changed
in their places. -/
def widenInPlace
    (limit : Limit)
    (fetchAll : Bool) : ExceptT Error (StateM (List Value)) Unit := do
  let parameters ← get
  let offset ← limit.offsetValue parameters
  let rowCount ← limit.rowCountValue parameters
  modify (bindOperand limit.offset 0)
  match rowCount with
  | some count => modify (bindOperand limit.rowCount (limit.widened fetchAll offset count))
  | none => pure ()

/-- The parameters of a widened window. -/
def widenParameters
    (limit : Limit)
    (parameters : List Value)
    (fetchAll : Bool) : Except Error (List Value) :=
  let (outcome, widened) := (limit.widenInPlace fetchAll).run.run parameters
  outcome.map fun _ => widened

end Limit

end ShardedSql
