import ShardedSql.Parser.Statement
import ShardedSql.Rendering.Request
import ShardedSql.Routing.Tables

/-!
# Routing statements

A statement is parsed, its tables are routed, and it is rendered for every place it runs at.  Under
a hint for the data source alone it is sent as it is.
-/

namespace ShardedSql

/-- A statement for a data source. -/
structure ExecutionUnit where
  dataSource : String
  sql : String
  deriving DecidableEq

/-- The statements to run, the parameters to bind to each of them, and the generated keys. -/
structure RouteResult where
  kind : StatementKind
  units : List ExecutionUnit
  parameters : List Value
  generatedKeys : List Int64
  deriving DecidableEq

/-- What routing depends on beside the statement and its parameters. -/
structure Router where
  dialect : Dialect
  rule : Rule

namespace Router

/-- The parameters with the generated key among them, the keys of the statement, and the keys that
are left. -/
structure KeyedParameters where
  parameters : List Value
  generatedKeys : List Int64
  keys : Keys

/-- Fill in the generated key of a statement.  A key that is still to be generated is taken now, and
inserted where its placeholder stands. -/
def fillKey
    (router : Router)
    (keys : Keys)
    (statement : Statement)
    (parameters : List Value) : Except Error KeyedParameters := do
  match statement.generatedKey, statement.tables.singleName? with
  | some key, some table =>
      match key.source with
      | .literal value => .ok ⟨parameters, [value], keys⟩
      | .deferred index =>
          if parameters.length < index then
            .error (.keyOutOfRange index parameters.length)
          else
            let (value, left) ← keys.generate router.rule table
            .ok ⟨parameters.insertIdx index (.integer value), [value], left⟩
      | .placeholder index =>
          .ok ⟨parameters, ((parameters[index]?).bind Value.toInteger?).toList, keys⟩
      | .unknown => .ok ⟨parameters, [], keys⟩
  | _, _ => .ok ⟨parameters, [], keys⟩

/-- The statement for one unit. -/
def unitStatement
    (request : RenderRequest)
    (template : Template)
    (unit : TableUnit) : Except Error ExecutionUnit :=
  (request.fill template [unit]).map fun sql => ⟨unit.dataSource, sql⟩

/-- The statement for one combination of units. -/
def referenceStatement
    (request : RenderRequest)
    (template : Template)
    (dataSource : String)
    (reference : TableReference) : Except Error ExecutionUnit :=
  (request.fill template reference.units).map fun sql => ⟨dataSource, sql⟩

/-- The statements for the combinations on a data source. -/
def sourceStatements
    (request : RenderRequest)
    (template : Template)
    (source : CombinedSource) : Except Error (List ExecutionUnit) :=
  source.references.mapM (referenceStatement request template source.dataSource)

/-- The statements for everything that a statement runs on. -/
def executionUnits
    (request : RenderRequest)
    (template : Template) : Outcome → Except Error (List ExecutionUnit)
  | .units found => found.toList.mapM (unitStatement request template)
  | .combined combinations =>
      (combinations.dataSources.mapM (sourceStatements request template)).map List.flatten

/-- The parameters for a statement that runs where the outcome says. -/
def limitedParameters
    (statement : Statement)
    (isSingle : Bool)
    (parameters : List Value) : Except Error (List Value) :=
  match statement.limit with
  | some limit =>
      if isSingle then .ok parameters
      else limit.widenParameters parameters statement.needsAllRows
  | none => .ok parameters

/-- Route a parsed statement whose generated key is filled in. -/
def routeKeyed
    (router : Router)
    (hint : Hint)
    (sql : String)
    (statement : Statement)
    (keyed : KeyedParameters) : Except Error RouteResult := do
  let outcome ← RoutingRequest.route ⟨router.rule, keyed.parameters, statement, hint⟩
  let request : RenderRequest := ⟨router.rule, sql, statement, keyed.parameters⟩
  let template ← request.template (!outcome.isSingle)
  let units ← executionUnits request template outcome
  let parameters ← limitedParameters statement outcome.isSingle keyed.parameters
  .ok ⟨statement.kind, units, parameters, keyed.generatedKeys⟩

/-- Route a statement by its text. -/
def routeParsed
    (router : Router)
    (keys : Keys)
    (hint : Hint)
    (sql : String)
    (parameters : List Value) : Except Error RouteResult × Keys :=
  match Statement.parse router.dialect router.rule keys sql parameters.length with
  | (.error error, left) => (.error error, left)
  | (.ok statement, left) =>
      match router.fillKey left statement parameters with
      | .error error => (.error error, left)
      | .ok keyed => (router.routeKeyed hint sql statement keyed, keyed.keys)

/-- Route a statement by the hint for the data source alone. -/
def routeHinted
    (router : Router)
    (hint : Hint)
    (sql : String)
    (parameters : List Value) : Except Error RouteResult := do
  let kind ← Statement.judge router.dialect sql
  let outcome ← hint.route router.rule kind
  let units := outcome.tableUnits.toList.map fun unit => ExecutionUnit.mk unit.dataSource sql
  .ok ⟨kind, units, parameters, []⟩

/-- Route a statement.  Beside the result there are the keys that are left. -/
def route
    (router : Router)
    (keys : Keys)
    (hint : Hint)
    (sql : String)
    (parameters : List Value) : Except Error RouteResult × Keys :=
  if hint.isDatabaseOnly then
    (router.routeHinted hint sql parameters, keys)
  else
    router.routeParsed keys hint sql parameters

end Router

end ShardedSql
