import ShardedSql.Json.Basic
import ShardedSql.Rule.Basic

/-!
# Rule files

A rule file is a JSON value with the declarations of a sharding rule.  Fields that are missing have
an empty value; an unknown field is passed over, and a value of the wrong type is refused.  A record
may also be written as the list of its leading fields.
-/

namespace ShardedSql

/-- The fields of a record with their values. -/
abbrev Fields := List (String × Json)

namespace Fields

/-- The fields of a value that is a record with the given field names. -/
def ofJson?
    (names : List String) : Json → Option Fields
  | .object fields => some fields
  | .list items => if items.length ≤ names.length then some (names.zip items) else none
  | _ => none

/-- The last value of a field. -/
def find?
    (fields : Fields)
    (name : String) : Option Json :=
  (fields.reverse.find? fun entry => entry.1 == name).map Prod.snd

/-- Read a field, which has a value of its own when it is missing. -/
def read
    {α : Type}
    (fields : Fields)
    (name : String)
    (missing : Option α)
    (decode : Json → Option α) : Option α :=
  match fields.find? name with
  | some value => decode value
  | none => missing

end Fields

namespace Json

/-- A text. -/
def text? : Json → Option String
  | .text value => some value
  | _ => none

/-- A truth value. -/
def boolean? : Json → Option Bool
  | .boolean value => some value
  | _ => none

/-- A list whose items are all read by `decode`. -/
def list?
    {α : Type}
    (decode : Json → Option α) : Json → Option (List α)
  | .list items => items.mapM decode
  | _ => none

/-- Null, or a value read by `decode`. -/
def nullable?
    {α : Type}
    (decode : Json → Option α) : Json → Option (Option α)
  | .null => some none
  | value => (decode value).map some

/-- An integer of 64 bits without sign. -/
def unsigned? : Json → Option UInt64
  | .integer value =>
      if 0 ≤ value ∧ value ≤ Integer.greatestUnsigned then some value.toNat.toUInt64 else none
  | _ => none

/-- An integer of 64 bits with sign. -/
def signed? : Json → Option Int
  | .integer value => if Integer.least ≤ value ∧ value ≤ Integer.greatest then some value else none
  | _ => none

end Json

/-- The built-in algorithm that a value declares. -/
def Algorithm.ofJson? (json : Json) : Option Algorithm := do
  let tag ←
    match json with
    | .object fields => Fields.find? fields "type"
    | .list items => items.head?
    | _ => none
  let arguments := fun (names : List String) =>
    match json with
    | .list items => Fields.ofJson? names (.list (items.drop 1))
    | _ => Fields.ofJson? names json
  match tag with
  | .text "none" => (arguments []).map fun _ => .firstTarget
  | .text "modulo" =>
      let fields ← arguments ["modulus"]
      let modulus ← fields.read "modulus" (some none) (Json.nullable? Json.unsigned?)
      return .modulo modulus
  | .text "dynamic_modulo" =>
      let fields ← arguments ["prefix", "modulus"]
      let stem ← fields.read "prefix" none Json.text?
      let modulus ← fields.read "modulus" none Json.unsigned?
      return .dynamicModulo stem modulus
  | _ => none

/-- A declared strategy. -/
structure StrategyConfig where
  columns : List String
  algorithm : Algorithm

namespace StrategyConfig

/-- The strategy that a value declares. -/
def ofJson? (json : Json) : Option StrategyConfig := do
  let fields ← Fields.ofJson? ["sharding_columns", "algorithm"] json
  let columns ← fields.read "sharding_columns" (some []) (Json.list? Json.text?)
  let algorithm ← fields.read "algorithm" none Algorithm.ofJson?
  return ⟨columns, algorithm⟩

/-- The strategy, whose algorithm has to fit the number of its columns. -/
def build (config : StrategyConfig) : Except Error Strategy := do
  let algorithm ← config.algorithm.validate
  if algorithm.arity = .single ∧ config.columns.length ≠ 1 then
    .error (.strategyColumns config.columns)
  else
    .ok (Strategy.ofColumns config.columns algorithm)

/-- The strategy, if one is declared. -/
def buildOptional : Option StrategyConfig → Except Error (Option Strategy)
  | some config => config.build.map some
  | none => .ok none

end StrategyConfig

/-- The declared number of the worker of a key generator. -/
def workerOfJson? (json : Json) : Option Int := do
  let fields ← Fields.ofJson? ["worker_id"] json
  fields.read "worker_id" (some 0) Json.signed?

/-- The key generator of a worker, if one is declared. -/
def KeyGenerator.ofOptionalWorker : Option Int → Except Error (Option KeyGenerator)
  | some worker => (KeyGenerator.ofWorker worker).map some
  | none => .ok none

/-- A declared rule of a table. -/
structure TableConfig where
  logicTable : String
  isDynamic : Bool
  actualTables : List String
  dataSources : List String
  databaseStrategy : Option StrategyConfig
  tableStrategy : Option StrategyConfig
  keyColumn : Option String
  worker : Option Int

namespace TableConfig

/-- The names of the fields in their order. -/
def fieldNames : List String :=
  ["logic_table", "dynamic", "actual_tables", "data_source_names", "database_strategy",
    "table_strategy", "generate_key_column", "key_generator"]

/-- The rule of a table that a value declares. -/
def ofJson? (json : Json) : Option TableConfig := do
  let fields ← Fields.ofJson? fieldNames json
  return {
    logicTable := ← fields.read "logic_table" none Json.text?
    isDynamic := ← fields.read "dynamic" (some false) Json.boolean?
    actualTables := ← fields.read "actual_tables" (some []) (Json.list? Json.text?)
    dataSources := ← fields.read "data_source_names" (some []) (Json.list? Json.text?)
    databaseStrategy :=
      ← fields.read "database_strategy" (some none) (Json.nullable? StrategyConfig.ofJson?)
    tableStrategy :=
      ← fields.read "table_strategy" (some none) (Json.nullable? StrategyConfig.ofJson?)
    keyColumn := ← fields.read "generate_key_column" (some none) (Json.nullable? Json.text?)
    worker := ← fields.read "key_generator" (some none) (Json.nullable? workerOfJson?) }

/-- The rule of the table, which lies on all data sources unless it names its own. -/
def build
    (config : TableConfig)
    (dataSources : List String) : Except Error TableRule := do
  let databaseStrategy ← StrategyConfig.buildOptional config.databaseStrategy
  let tableStrategy ← StrategyConfig.buildOptional config.tableStrategy
  let keyGenerator ← KeyGenerator.ofOptionalWorker config.worker
  let declaration : TableDeclaration :=
    { logicTable := config.logicTable
      isDynamic := config.isDynamic
      actualTables := config.actualTables
      dataSources := if config.dataSources.isEmpty then dataSources else config.dataSources
      databaseStrategy := databaseStrategy
      tableStrategy := tableStrategy
      keyColumn := config.keyColumn
      keyGenerator := keyGenerator }
  declaration.build

end TableConfig

/-- A declared sharding rule. -/
structure RuleConfig where
  dataSources : List String
  defaultDataSource : Option String
  tables : List TableConfig
  bindingGroups : List (List String)
  databaseStrategy : Option StrategyConfig
  tableStrategy : Option StrategyConfig
  worker : Option Int

namespace RuleConfig

/-- The names of the fields in their order. -/
def fieldNames : List String :=
  ["data_sources", "default_data_source", "tables", "binding_tables",
    "default_database_strategy", "default_table_strategy", "key_generator"]

/-- The sharding rule that a value declares. -/
def ofJson? (json : Json) : Option RuleConfig := do
  let fields ← Fields.ofJson? fieldNames json
  return {
    dataSources := ← fields.read "data_sources" none (Json.list? Json.text?)
    defaultDataSource :=
      ← fields.read "default_data_source" (some none) (Json.nullable? Json.text?)
    tables := ← fields.read "tables" (some []) (Json.list? TableConfig.ofJson?)
    bindingGroups :=
      ← fields.read "binding_tables" (some []) (Json.list? (Json.list? Json.text?))
    databaseStrategy :=
      ← fields.read "default_database_strategy" (some none) (Json.nullable? StrategyConfig.ofJson?)
    tableStrategy :=
      ← fields.read "default_table_strategy" (some none) (Json.nullable? StrategyConfig.ofJson?)
    worker := ← fields.read "key_generator" (some none) (Json.nullable? workerOfJson?) }

/-- The sharding rule. -/
def build (config : RuleConfig) : Except Error Rule := do
  let tables ← config.tables.mapM fun table => table.build config.dataSources
  let databaseStrategy ← StrategyConfig.buildOptional config.databaseStrategy
  let tableStrategy ← StrategyConfig.buildOptional config.tableStrategy
  let keyGenerator ← KeyGenerator.ofOptionalWorker config.worker
  let declaration : RuleDeclaration :=
    { dataSources := config.dataSources
      defaultDataSource := config.defaultDataSource
      tables := tables
      bindingGroups := config.bindingGroups
      databaseStrategy := databaseStrategy
      tableStrategy := tableStrategy
      keyGenerator := keyGenerator }
  declaration.build

end RuleConfig

end ShardedSql
