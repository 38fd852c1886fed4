import ShardedSql.Error
import ShardedSql.Statement.ShardingValue

/-!
# Conditions

A condition restricts one column of one table.  A statement holds at most one condition for each
column; a later one takes the place of the earlier one.
-/

namespace ShardedSql

/-- The value of an expression under bound parameters. -/
def Expression.value
    (expression : Expression)
    (parameters : List Value) : Except Error Value :=
  match expression with
  | .placeholder index =>
      match parameters[index]? with
      | some value => .ok value
      | none => .error (.parameterOutOfRange index parameters.length)
  | .text content => .ok (.text content)
  | .number value => .ok value
  | other => .error (.noShardingValue other)

/-- A restriction of a column by an operator and its operands. -/
structure Condition where
  column : Column
  operator : ConditionOperator
  operands : List Expression
  deriving DecidableEq

namespace Condition

/-- What the condition says about its column under bound parameters. -/
def shardingValue
    (condition : Condition)
    (parameters : List Value) : Except Error ShardingValue := do
  let values ← condition.operands.mapM fun operand => operand.value parameters
  match ValueChoice.ofOperands? condition.operator values with
  | some choice => .ok ⟨condition.column.table, condition.column.name, choice⟩
  | none => .error (.conditionArity condition.operator condition.column values.length)

end Condition

/-- The conditions of a statement in the order in which their columns were first restricted. -/
structure Conditions where
  toList : List Condition := []
  deriving DecidableEq

namespace Conditions

/-- Put a condition in the place of the first one on the same column, or at the end. -/
def place
    (condition : Condition) : List Condition → List Condition
  | [] => [condition]
  | present :: rest =>
      if present.column.same condition.column then
        condition :: rest
      else
        present :: place condition rest

/-- Add a condition; it replaces an earlier one on its column. -/
def add
    (conditions : Conditions)
    (condition : Condition) : Conditions :=
  ⟨place condition conditions.toList⟩

/-- The condition on a column. -/
def find?
    (conditions : Conditions)
    (column : Column) : Option Condition :=
  conditions.toList.find? fun condition => condition.column.same column

end Conditions

end ShardedSql
