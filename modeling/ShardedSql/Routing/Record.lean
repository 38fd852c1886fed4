import ShardedSql.Routing.Router
import ShardedSql.Statement.Record

/-!
# Records of routes

Where a statement runs, and what is sent there, as JSON values.
-/

namespace ShardedSql

/-- The record of a table unit. -/
def TableUnit.toJson (unit : TableUnit) : Json :=
  .ofTexts [unit.dataSource, unit.logicTable, unit.actualTable]

/-- The records of table units. -/
def TableUnit.listToJson (units : List TableUnit) : Json :=
  .list (units.map TableUnit.toJson)

/-- The record of the combinations on a data source. -/
def CombinedSource.toJson (source : CombinedSource) : Json :=
  .object
    [("data_source", .text source.dataSource),
      ("references", .list (source.references.map fun reference =>
        TableUnit.listToJson reference.units))]

/-- The record of an outcome. -/
def Outcome.toJson (outcome : Outcome) : Json :=
  let shared :=
    [("single", Json.boolean outcome.isSingle),
      ("units", TableUnit.listToJson outcome.tableUnits.toList)]
  match outcome with
  | .units _ => .tagged "units" shared
  | .combined combinations =>
      .tagged "cartesian"
        (shared ++ [("data_sources", .list (combinations.dataSources.map CombinedSource.toJson))])

/-- The record of a statement for a data source. -/
def ExecutionUnit.toJson (unit : ExecutionUnit) : Json :=
  .object [("data_source", .text unit.dataSource), ("sql", .text unit.sql)]

/-- The record of a route. -/
def RouteResult.toJson (result : RouteResult) : Json :=
  .object
    [("execution_units", .list (result.units.map ExecutionUnit.toJson)),
      ("parameters", .list (result.parameters.map Value.toJson)),
      ("generated_keys", .list (result.generatedKeys.map fun key => .integer key.toInt))]

end ShardedSql
