import ShardedSql.Json.Basic
import ShardedSql.Rule.Basic

/-!
# Records of rules

A sharding rule as a JSON value, with the strategies that apply to each table.
-/

namespace ShardedSql

/-- The record of a strategy. -/
def Strategy.toJson (strategy : Strategy) : Json :=
  .list [.ofTexts strategy.columns, .text strategy.algorithm.arity.text]

/-- The record of a data node. -/
def DataNode.toJson (node : DataNode) : Json :=
  .list [.text node.text, .boolean node.isDynamic]

/-- The record of the rule of a table, with the common strategies where it has none of its own. -/
def Rule.tableToJson
    (rule : Rule)
    (tableRule : TableRule) : Json :=
  .object
    [("logic_table", .text tableRule.logicTable),
      ("dynamic", .boolean tableRule.isDynamic),
      ("key_column", .ofText? tableRule.keyColumn),
      ("nodes", .list (tableRule.nodes.map DataNode.toJson)),
      ("data_sources", .ofTexts tableRule.dataSources),
      ("own_strategies",
        .list [.boolean tableRule.databaseStrategy.isSome, .boolean tableRule.tableStrategy.isSome]),
      ("database_strategy", (rule.databaseStrategyOf tableRule).toJson),
      ("table_strategy", (rule.tableStrategyOf tableRule).toJson)]

/-- The record of a rule. -/
def Rule.toJson (rule : Rule) : Json :=
  .object
    [("data_sources", .ofTexts rule.dataSources),
      ("default", .ofText? rule.defaultDataSource),
      ("tables", .list (rule.tables.map rule.tableToJson)),
      ("bindings", .list (rule.bindingGroups.map fun group => .ofTexts group.logicTables)),
      ("default_table_columns", .ofTexts rule.commonTableStrategy.columns)]

end ShardedSql
