import ShardedSql.Statement.Operator
import ShardedSql.Value

/-!
# Sharding values

What a condition or a hint says about one column: its value, the values it may have, or a range of
values that includes both ends.
-/

namespace ShardedSql

/-- The values that a column may have. -/
inductive ValueChoice where
  | single (value : Value)
  | list (values : List Value)
  | range (lower upper : Value)
  deriving DecidableEq

/-- The values that a column of a logic table may have. -/
structure ShardingValue where
  table : String
  column : String
  choice : ValueChoice
  deriving DecidableEq

namespace ShardingValue

/-- The operator that gives this form of values. -/
def operator (value : ShardingValue) : ConditionOperator :=
  match value.choice with
  | .single _ => .equal
  | .list _ => .among
  | .range _ _ => .between

/-- The condition that gives these values. -/
def display (value : ShardingValue) : String :=
  value.table ++ "." ++ value.column ++ " " ++
    match value.choice with
    | .single only => "= " ++ only.display
    | .list values => "IN (" ++ ", ".intercalate (values.map Value.display) ++ ")"
    | .range lower upper => "BETWEEN " ++ lower.display ++ " AND " ++ upper.display

end ShardingValue

/-- The choice that an operator makes of its operands; each operator takes its own number of
them. -/
def ValueChoice.ofOperands? : ConditionOperator → List Value → Option ValueChoice
  | .equal, [value] => some (.single value)
  | .among, value :: values => some (.list (value :: values))
  | .between, [lower, upper] => some (.range lower upper)
  | _, _ => none

end ShardedSql
