import ShardedSql.Rule.TableRule

/-!
# Sharding rules

A sharding rule collects the rules of the logic tables.  Tables of a binding group are sharded in
the same way: their actual tables belong together in the order in which they are listed.
-/

namespace ShardedSql

/-- The rules of tables that are sharded in the same way. -/
structure BindingGroup where
  tables : List TableRule

/-- The rules of all tables, with what applies where a table's own rule says nothing. -/
structure Rule where
  dataSources : List String
  defaultDataSource : Option String
  tables : List TableRule
  bindingGroups : List BindingGroup
  databaseStrategy : Option Strategy
  tableStrategy : Option Strategy
  keyGenerator : Option KeyGenerator

/-- What is declared about all tables. -/
structure RuleDeclaration where
  dataSources : List String
  defaultDataSource : Option String := none
  tables : List TableRule := []
  bindingGroups : List (List String) := []
  databaseStrategy : Option Strategy := none
  tableStrategy : Option Strategy := none
  keyGenerator : Option KeyGenerator := none

namespace BindingGroup

/-- Whether a logic table belongs to the group. -/
def contains
    (group : BindingGroup)
    (logicTable : String) : Bool :=
  group.tables.any fun rule => rule.isFor logicTable

/-- The logic tables of the group. -/
def logicTables (group : BindingGroup) : List String :=
  group.tables.map TableRule.logicTable

/-- The position of an actual table in the first rule that lists it; no dynamic rule may come before
that one. -/
def nodeIndex?
    (dataSource actualTable : String) : List TableRule → Except Error (Option Nat)
  | [] => .ok none
  | rule :: rest =>
      if rule.isDynamic then
        .error .dynamicBinding
      else
        match rule.nodeIndex? dataSource actualTable with
        | some index => .ok (some index)
        | none => nodeIndex? dataSource actualTable rest

/-- The actual table of a logic table that belongs together with an actual table of the group. -/
def partner
    (group : BindingGroup)
    (dataSource logicTable otherActualTable : String) : Except Error String := do
  match ← nodeIndex? dataSource otherActualTable group.tables with
  | none => .error (.unknownActualTable dataSource otherActualTable)
  | some index =>
      let node := (group.tables.find? fun rule => rule.isFor logicTable).bind fun rule =>
        rule.nodes[index]?
      match node with
      | some node => .ok node.table
      | none => .error (.noBindingPartner dataSource logicTable otherActualTable)

end BindingGroup

namespace RuleDeclaration

/-- The data source for tables without a rule: the declared one, or the only one there is. -/
def chosenDefault (declaration : RuleDeclaration) : Except Error (Option String) :=
  match declaration.defaultDataSource, declaration.dataSources with
  | some name, dataSources =>
      if dataSources.contains name then .ok (some name) else .error (.undeclaredDefault name)
  | none, [only] => .ok (some only)
  | none, _ => .ok none

/-- Check rules of tables one after another: each lies on declared data sources, and none is about
the table of an earlier one. -/
def checkTables
    (dataSources : List String)
    (earlier : List TableRule) :
    List TableRule → Except Error Unit
  | [] => .ok ()
  | rule :: rest =>
      match rule.nodes.find? fun node => !dataSources.contains node.dataSource with
      | some node => .error (.undeclaredSource rule.logicTable node.dataSource)
      | none =>
          if earlier.any fun other => other.isFor rule.logicTable then
            .error (.repeatedTable rule.logicTable)
          else
            checkTables dataSources (earlier ++ [rule]) rest

/-- The rule of a table that a binding group names. -/
def boundTable
    (tables : List TableRule)
    (logicTable : String) : Except Error TableRule :=
  match tables.find? (fun rule => rule.isFor logicTable) with
  | some rule => .ok rule
  | none => .error (.unboundTable logicTable)

/-- The rules of the tables of a binding group. -/
def bindTables
    (tables : List TableRule)
    (logicTables : List String) : Except Error BindingGroup :=
  (logicTables.mapM (boundTable tables)).map BindingGroup.mk

/-- The sharding rule that a declaration describes. -/
def build (declaration : RuleDeclaration) : Except Error Rule := do
  if declaration.dataSources.isEmpty then
    .error .noDataSources
  else
    let defaultDataSource ← declaration.chosenDefault
    checkTables declaration.dataSources [] declaration.tables
    let groups ← declaration.bindingGroups.mapM (bindTables declaration.tables)
    .ok
      { dataSources := declaration.dataSources
        defaultDataSource := defaultDataSource
        tables := declaration.tables
        bindingGroups := groups
        databaseStrategy := declaration.databaseStrategy
        tableStrategy := declaration.tableStrategy
        keyGenerator := declaration.keyGenerator }

end RuleDeclaration

namespace Rule

/-- The rule of a logic table, if it is sharded. -/
def findTable?
    (rule : Rule)
    (logicTable : String) : Option TableRule :=
  rule.tables.find? fun tableRule => tableRule.isFor logicTable

/-- The declaration of a table that is not sharded: a single table on the default data source. -/
def unshardedTable (dataSource logicTable : String) : TableDeclaration :=
  { logicTable := logicTable
    dataSources := [dataSource]
    databaseStrategy := some Strategy.none
    tableStrategy := some Strategy.none }

/-- The rule of a logic table, or the one for a table that is not sharded. -/
def tableRule
    (rule : Rule)
    (logicTable : String) : Except Error TableRule :=
  match rule.findTable? logicTable with
  | some tableRule => .ok tableRule
  | none =>
      match rule.defaultDataSource with
      | some dataSource => (unshardedTable dataSource logicTable).build
      | none => .error (.unknownTable logicTable)

/-- The strategy that places tables on data sources unless a table has its own. -/
def commonDatabaseStrategy (rule : Rule) : Strategy :=
  rule.databaseStrategy.getD Strategy.none

/-- The strategy that chooses among actual tables unless a table has its own. -/
def commonTableStrategy (rule : Rule) : Strategy :=
  rule.tableStrategy.getD Strategy.none

/-- The strategy that chooses the data sources of a table. -/
def databaseStrategyOf
    (rule : Rule)
    (tableRule : TableRule) : Strategy :=
  tableRule.databaseStrategy.getD rule.commonDatabaseStrategy

/-- The strategy that chooses the actual tables of a table. -/
def tableStrategyOf
    (rule : Rule)
    (tableRule : TableRule) : Strategy :=
  tableRule.tableStrategy.getD rule.commonTableStrategy

/-- The first binding group that a logic table belongs to. -/
def findGroup?
    (rule : Rule)
    (logicTable : String) : Option BindingGroup :=
  rule.bindingGroups.find? fun group => group.contains logicTable

/-- Of the first binding group that one of the logic tables belongs to, the tables that are among
them. -/
def boundAmong
    (rule : Rule)
    (logicTables : List String) : List String :=
  match logicTables.findSome? rule.findGroup? with
  | some group => group.logicTables.filter fun bound => Text.holdsName logicTables bound
  | none => []

/-- Whether the logic tables all belong to the first binding group that one of them belongs to. -/
def areBound
    (rule : Rule)
    (logicTables : List String) : Bool :=
  let bound := rule.boundAmong logicTables
  !bound.isEmpty && logicTables.all fun logicTable => Text.holdsName bound logicTable

/-- Whether a strategy that is there chooses by a column. -/
def choosesBy
    (strategy : Option Strategy)
    (column : String) : Bool :=
  strategy.any fun present => present.containsColumn column

/-- Whether some strategy that may apply to a table chooses by the column. -/
def isShardingColumn
    (rule : Rule)
    (column : Column) : Bool :=
  choosesBy rule.databaseStrategy column.name || choosesBy rule.tableStrategy column.name ||
    (rule.tables.filter fun tableRule => tableRule.isFor column.table).any fun tableRule =>
      choosesBy tableRule.databaseStrategy column.name ||
        choosesBy tableRule.tableStrategy column.name

/-- The column of a logic table whose values are generated. -/
def keyColumn?
    (rule : Rule)
    (logicTable : String) : Option String :=
  (rule.findTable? logicTable).bind TableRule.keyColumn

end Rule

end ShardedSql
