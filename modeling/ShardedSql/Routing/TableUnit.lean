import ShardedSql.Strategy.NameSet

/-!
# Table units

A table unit is an actual table that stands for a logic table on a data source.  Routing a statement
collects such units, each once, in the order in which they are found.
-/

namespace ShardedSql

/-- An actual table that stands for a logic table on a data source. -/
structure TableUnit where
  dataSource : String
  logicTable : String
  actualTable : String
  deriving DecidableEq

/-- The unit of a statement that runs on a data source as it is. -/
def TableUnit.whole (dataSource : String) : TableUnit :=
  ⟨dataSource, "", ""⟩

/-- Table units without repetition. -/
structure TableUnits where
  toList : List TableUnit := []
  deriving DecidableEq

namespace TableUnits

/-- Add a unit, unless it is there. -/
def add
    (units : TableUnits)
    (unit : TableUnit) : TableUnits :=
  if units.toList.contains unit then units else ⟨units.toList ++ [unit]⟩

/-- The units of a list. -/
def ofList (units : List TableUnit) : TableUnits :=
  units.foldl add {}

/-- Add a name at the end, unless it is there. -/
def insertSource
    (names : List String)
    (name : String) : List String :=
  if names.contains name then names else names ++ [name]

/-- The data sources in the order of their first unit. -/
def dataSources (units : TableUnits) : List String :=
  (units.toList.map TableUnit.dataSource).foldl insertSource []

/-- The first unit with an actual table on a data source, in any letter case. -/
def find?
    (units : TableUnits)
    (dataSource actualTable : String) : Option TableUnit :=
  units.toList.find? fun unit =>
    Text.sameName unit.dataSource dataSource && Text.sameName unit.actualTable actualTable

/-- The logic tables on a data source. -/
def logicTablesOn
    (units : TableUnits)
    (dataSource : String) : List String :=
  NameSet.distinct
    ((units.toList.filter fun unit => unit.dataSource == dataSource).map TableUnit.logicTable)

/-- Names in ascending order. -/
def ascending (names : List String) : List String :=
  names.mergeSort fun first second => !decide (second < first)

/-- The logic tables on those of the given data sources that have units, in ascending order of the
data sources. -/
def logicTablesBySource
    (units : TableUnits)
    (dataSources : List String) : List (String × List String) :=
  (ascending (units.dataSources.filter dataSources.contains)).map fun dataSource =>
    (dataSource, units.logicTablesOn dataSource)

/-- The actual tables on a data source for each of the logic tables that has any. -/
def actualTableGroups
    (units : TableUnits)
    (dataSource : String)
    (logicTables : List String) : List (List String) :=
  (logicTables.map fun logicTable =>
    (units.toList.filter fun unit =>
      unit.dataSource == dataSource && Text.sameName unit.logicTable logicTable).map
        TableUnit.actualTable).filter fun group => !group.isEmpty

end TableUnits

end ShardedSql
