import ShardedSql.Routing.Hint
import ShardedSql.Routing.Outcome
import ShardedSql.Rule.Basic
import ShardedSql.Statement.Basic

/-!
# Routing one table

The database strategy chooses data sources, and on each of them the table strategy chooses actual
tables.  Both choose by the hint when it is active, and otherwise by the conditions of the
statement.
-/

namespace ShardedSql

/-- A statement with what decides where it runs. -/
structure RoutingRequest where
  rule : Rule
  parameters : List Value
  statement : Statement
  hint : Hint

namespace RoutingRequest

/-- What is known about a column of a table: the hinted value when the hint is active, or the
condition on it. -/
def columnValue
    (request : RoutingRequest)
    (hinted : String → String → Option ShardingValue)
    (table column : String) : Except Error (Option ShardingValue) :=
  if request.hint.isActive then
    .ok (hinted table column)
  else
    match request.statement.conditions.find? ⟨column, table⟩ with
    | some condition => (condition.shardingValue request.parameters).map some
    | none => .ok none

/-- What is known about the sharding columns of a strategy. -/
def shardingValues
    (request : RoutingRequest)
    (strategy : Strategy)
    (hinted : String → String → Option ShardingValue)
    (table : String) : Except Error (List ShardingValue) :=
  (strategy.columns.mapM (request.columnValue hinted table)).map fun values =>
    values.filterMap id

/-- Refuse an empty choice. -/
def refuseEmpty
    (error : Error)
    (names : List String) : Except Error (List String) :=
  if names.isEmpty then .error error else .ok names

/-- The data sources for a table. -/
def dataSourcesFor
    (request : RoutingRequest)
    (table : String)
    (tableRule : TableRule) : Except Error (List String) := do
  let strategy := request.rule.databaseStrategyOf tableRule
  let values ← request.shardingValues strategy request.hint.databaseValue? table
  let chosen ← strategy.chooseAmong request.statement.kind tableRule.dataSources values
  refuseEmpty .noDataSourceRoute chosen

/-- The actual tables for a table on a data source. -/
def tablesFor
    (request : RoutingRequest)
    (table : String)
    (tableRule : TableRule)
    (dataSource : String) : Except Error (List String) := do
  let strategy := request.rule.tableStrategyOf tableRule
  let values ← request.shardingValues strategy request.hint.tableValue? table
  let chosen ←
    if tableRule.isDynamic then
      strategy.chooseDynamic values
    else
      strategy.chooseAmong request.statement.kind (tableRule.tablesOn dataSource) values
  refuseEmpty .noTableRoute chosen

/-- The units of a table on a data source. -/
def unitsOn
    (request : RoutingRequest)
    (table : String)
    (tableRule : TableRule)
    (dataSource : String) : Except Error (List TableUnit) :=
  (request.tablesFor table tableRule dataSource).map fun actualTables =>
    actualTables.map fun actualTable => ⟨dataSource, tableRule.logicTable, actualTable⟩

/-- The units of a logic table. -/
def routeTable
    (request : RoutingRequest)
    (table : String) : Except Error TableUnits := do
  let tableRule ← request.rule.tableRule table
  let dataSources ← request.dataSourcesFor table tableRule
  let units ← dataSources.mapM (request.unitsOn table tableRule)
  .ok (TableUnits.ofList units.flatten)

end RoutingRequest

end ShardedSql
