import ShardedSql.Key.Generator
import ShardedSql.Rule.DataNode
import ShardedSql.Strategy.Basic

/-!
# Rules of tables

The rule of a logic table lists the actual tables that hold its rows, and says how rows are placed
among them.  The actual tables of a dynamic rule are not listed; they are made up by its algorithm.
-/

namespace ShardedSql

/-- The rule of a logic table; a strategy or a generator that is missing is the common one. -/
structure TableRule where
  logicTable : String
  isDynamic : Bool
  nodes : List DataNode
  databaseStrategy : Option Strategy
  tableStrategy : Option Strategy
  keyColumn : Option String
  keyGenerator : Option KeyGenerator

/-- What is declared about a logic table.  An actual table is written with its data source, or
stands for one table on each of `dataSources`. -/
structure TableDeclaration where
  logicTable : String
  isDynamic : Bool := false
  actualTables : List String := []
  dataSources : List String := []
  databaseStrategy : Option Strategy := none
  tableStrategy : Option Strategy := none
  keyColumn : Option String := none
  keyGenerator : Option KeyGenerator := none

namespace TableDeclaration

/-- The data nodes of one actual table. -/
def nodesOf
    (declaration : TableDeclaration)
    (actualTable : String) : Except Error (List DataNode) :=
  if actualTable.toList.contains '.' then
    (DataNode.read actualTable).map fun node => [node]
  else if declaration.dataSources.isEmpty then
    .error (.tableWithoutSource actualTable declaration.logicTable)
  else
    .ok (declaration.dataSources.map fun dataSource => ⟨dataSource, Text.trim actualTable⟩)

/-- The data nodes of a table whose actual tables are fixed; without a list of them, the logic table
is an actual table on each data source. -/
def fixedNodes (declaration : TableDeclaration) : Except Error (List DataNode) :=
  if declaration.actualTables.isEmpty then
    if declaration.dataSources.isEmpty then
      .error (.tableWithoutNodes declaration.logicTable)
    else
      .ok (declaration.dataSources.map fun dataSource => ⟨dataSource, declaration.logicTable⟩)
  else
    (declaration.actualTables.mapM declaration.nodesOf).map List.flatten

/-- The data nodes of a dynamic table. -/
def dynamicNodes (declaration : TableDeclaration) : Except Error (List DataNode) :=
  if declaration.dataSources.isEmpty then
    .error (.dynamicWithoutSources declaration.logicTable)
  else
    .ok (declaration.dataSources.map DataNode.dynamic)

/-- The data nodes that a declaration describes. -/
def nodes (declaration : TableDeclaration) : Except Error (List DataNode) :=
  if (Text.trim declaration.logicTable).isEmpty then
    .error .emptyLogicTable
  else if declaration.isDynamic && !declaration.actualTables.isEmpty then
    .error (.dynamicWithTables declaration.logicTable)
  else if declaration.isDynamic then
    declaration.dynamicNodes
  else
    declaration.fixedNodes

/-- The rule that a declaration describes. -/
def build (declaration : TableDeclaration) : Except Error TableRule :=
  declaration.nodes.map fun nodes =>
    { logicTable := declaration.logicTable
      isDynamic := declaration.isDynamic
      nodes := nodes
      databaseStrategy := declaration.databaseStrategy
      tableStrategy := declaration.tableStrategy
      keyColumn := declaration.keyColumn
      keyGenerator := declaration.keyGenerator }

end TableDeclaration

namespace TableRule

/-- Whether the rule is about a logic table. -/
def isFor
    (rule : TableRule)
    (logicTable : String) : Bool :=
  Text.sameName rule.logicTable logicTable

/-- The data sources of the table in the order of their first node. -/
def dataSources (rule : TableRule) : List String :=
  rule.nodes.foldl
    (fun names node => if names.contains node.dataSource then names else names ++ [node.dataSource])
    []

/-- The actual tables on a data source. -/
def tablesOn
    (rule : TableRule)
    (dataSource : String) : List String :=
  (rule.nodes.filter fun node => Text.sameName node.dataSource dataSource).map DataNode.table

/-- The data nodes at the given data sources and tables; a dynamic table may be at each pair of
them. -/
def nodesAt
    (rule : TableRule)
    (dataSources tables : List String) : List DataNode :=
  if rule.isDynamic then
    dataSources.flatMap fun dataSource => tables.map fun table => ⟨dataSource, table⟩
  else
    rule.nodes.filter fun node =>
      Text.holdsName dataSources node.dataSource && Text.holdsName tables node.table

/-- The position of an actual table among the data nodes. -/
def nodeIndex?
    (rule : TableRule)
    (dataSource table : String) : Option Nat :=
  rule.nodes.findIdx? fun node => node.isAt dataSource table

end TableRule

end ShardedSql
