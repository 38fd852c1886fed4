import ShardedSql.Routing.Cartesian
import ShardedSql.Routing.Table

/-!
# Routing several tables

Tables that are bound to each other run where one of them runs.  Tables that are not are routed one
by one and combined.
-/

namespace ShardedSql

namespace RoutingRequest

/-- Route tables one after another.  A table without a rule is passed over, and so is one that is
bound to a table routed before. -/
def routeEach
    (request : RoutingRequest)
    (bound : List String) :
    List String → Except Error (List TableUnits)
  | [] => .ok []
  | table :: rest =>
      match request.rule.findTable? table with
      | none => routeEach request bound rest
      | some _ =>
          if Text.holdsName bound table then
            routeEach request bound rest
          else do
            let units ← request.routeTable table
            let partners :=
              match request.rule.findGroup? table with
              | some group => group.logicTables
              | none => []
            let others ← routeEach request (bound ++ partners) rest
            .ok (units :: others)

/-- Route tables that need not be bound to each other. -/
def routeUnbound
    (request : RoutingRequest)
    (tables : List String) : Except Error Outcome := do
  match ← request.routeEach [] tables with
  | [] => .error (.unknownTables tables)
  | [units] => .ok (.units units)
  | results => .ok (.combined (Cartesian.combine results))

/-- Route a statement without tables to the default data source. -/
def routeDefault (rule : Rule) : Except Error Outcome :=
  match rule.defaultDataSource with
  | some dataSource => .ok (.units (TableUnits.ofList [TableUnit.whole dataSource]))
  | none => .error .noDefaultSource

/-- Route the tables of the statement. -/
def route (request : RoutingRequest) : Except Error Outcome :=
  match request.statement.tables.names with
  | [] => routeDefault request.rule
  | [table] => (request.routeTable table).map Outcome.units
  | table :: others =>
      if request.rule.areBound (table :: others) then
        (request.routeTable table).map Outcome.units
      else
        request.routeUnbound (table :: others)

end RoutingRequest

/-- The data sources that a hint for the data source alone chooses. -/
def Hint.route
    (hint : Hint)
    (rule : Rule)
    (kind : StatementKind) : Except Error Outcome := do
  match hint.databaseValue? Hint.wholeTable Hint.wholeColumn with
  | none => .error .noHintedValue
  | some value =>
      let chosen ← rule.commonDatabaseStrategy.chooseAmong kind rule.dataSources [value]
      let dataSources ← RoutingRequest.refuseEmpty .noDataSourceRoute chosen
      .ok (.units (TableUnits.ofList (dataSources.map TableUnit.whole)))

end ShardedSql
