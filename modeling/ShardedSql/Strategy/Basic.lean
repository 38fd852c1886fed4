import ShardedSql.Statement.Kind
import ShardedSql.Strategy.Algorithm
import ShardedSql.Strategy.NameSet

/-!
# Sharding strategies

A strategy is a set of sharding columns and the algorithm that chooses targets by their values.
-/

namespace ShardedSql

/-- Sharding columns and an algorithm. -/
structure Strategy where
  columns : List String
  algorithm : Algorithm

namespace Strategy

/-- The strategy with the set of the given columns. -/
def ofColumns
    (columns : List String)
    (algorithm : Algorithm) : Strategy :=
  ⟨NameSet.ofList columns, algorithm⟩

/-- The strategy without columns, which keeps every target. -/
def none : Strategy :=
  ofColumns [] .firstTarget

/-- Whether the strategy chooses by a column. -/
def containsColumn
    (strategy : Strategy)
    (column : String) : Bool :=
  Text.holdsName strategy.columns column

/-- The set of targets to choose among the available ones.  Without values all of them are kept,
which an INSERT may not do when there are several. -/
def chooseAmong
    (strategy : Strategy)
    (kind : StatementKind)
    (targets : List String)
    (values : List ShardingValue) : Except Error (List String) :=
  if values.isEmpty then
    if kind = .insert ∧ 1 < targets.length then
      .error .insertWithoutValue
    else
      .ok (NameSet.ofList targets)
  else
    (strategy.algorithm.choose targets values).map NameSet.ofList

/-- The set of targets where none are known beforehand. -/
def chooseDynamic
    (strategy : Strategy)
    (values : List ShardingValue) : Except Error (List String) :=
  if values.isEmpty then
    .error .dynamicWithoutValue
  else
    (strategy.algorithm.choose [] values).map NameSet.ofList

end Strategy

end ShardedSql
