/-!
# Operators of conditions

The three forms of a condition that tells which rows a statement can touch.
-/

namespace ShardedSql

/-- The operators of conditions on a sharding column. -/
inductive ConditionOperator where
  | equal
  | among
  | between
  deriving DecidableEq

/-- The spelling of an operator. -/
def ConditionOperator.text : ConditionOperator → String
  | .equal => "="
  | .among => "IN"
  | .between => "BETWEEN"

end ShardedSql
