import ShardedSql.Routing.Outcome

/-!
# Combining tables

Several tables are read together on the data sources that all of them are routed to.  On each of
these the statement runs once for every choice of one unit per table.
-/

namespace ShardedSql

namespace Cartesian

/-- Every choice of one member of each group; the first group varies slowest. -/
def choices {α : Type} : List (List α) → List (List α)
  | [] => [[]]
  | group :: groups => group.flatMap fun member => (choices groups).map (member :: ·)

/-- The data sources that occur in all of the routed tables, in the order of the first one. -/
def sharedSources : List TableUnits → List String
  | [] => []
  | first :: rest =>
      first.dataSources.filter fun dataSource =>
        rest.all fun units => units.dataSources.contains dataSource

/-- The logic tables on each shared data source, in ascending order of the data sources. -/
def logicTables (results : List TableUnits) : List (String × List String) :=
  (TableUnits.ascending (sharedSources results)).map fun dataSource =>
    (dataSource, NameSet.distinct (results.flatMap fun units => units.logicTablesOn dataSource))

/-- The first unit among the routed tables with an actual table on a data source. -/
def findUnit?
    (results : List TableUnits)
    (dataSource actualTable : String) : Option TableUnit :=
  results.findSome? fun units => units.find? dataSource actualTable

/-- The units on a data source, grouped by routed table and logic table. -/
def unitGroups
    (results : List TableUnits)
    (dataSource : String)
    (logicTables : List String) : List (List TableUnit) :=
  (results.flatMap fun units =>
    (units.actualTableGroups dataSource logicTables).map fun actualTables =>
      actualTables.filterMap (findUnit? results dataSource)).filter fun group => !group.isEmpty

/-- The choices on a data source as references; the empty choice is none. -/
def references (groups : List (List TableUnit)) : List TableReference :=
  ((choices groups).filter fun choice => !choice.isEmpty).map TableReference.mk

/-- Combine the routed tables. -/
def combine (results : List TableUnits) : Combinations :=
  (logicTables results).foldl
    (fun combinations (dataSource, tables) =>
      combinations.merge dataSource (references (unitGroups results dataSource tables)))
    {}

end Cartesian

end ShardedSql
