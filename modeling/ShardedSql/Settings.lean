import ShardedSql.Dialect
import ShardedSql.Error

/-!
# Settings

The settings of a program that routes statements come from environment variables; each has a value
of its own when its variable is not set.
-/

namespace ShardedSql

/-- Settings of a program that routes statements. -/
structure Settings where
  workers : Nat
  shutdownSeconds : Nat
  showsSql : Bool
  dialectName : String
  dialect : Dialect
  logLevel : String
  logStyle : String
  rulePath : Option String
  deriving DecidableEq

namespace Settings

/-- The variables that are read. -/
def variableNames : List String :=
  ["SHARDING_EXECUTOR_SIZE", "SHARDING_EXECUTOR_SHUTDOWN_TIMEOUT", "SHARDING_SQL_SHOW",
    "SHARDING_DATABASE_TYPE", "SHARDING_RULE_PATH", "RUST_LOG", "RUST_LOG_STYLE"]

/-- The number in a variable, or its value when the variable is not set. -/
def number
    (environment : String → Option String)
    (variableName : String)
    (unset : Nat) : Except Error Nat :=
  match environment variableName with
  | none => .ok unset
  | some text =>
      match Integer.readUnsigned? text with
      | some value => .ok value.toNat
      | none => .error (.settingNotNumber variableName text)

/-- Whether a text says yes. -/
def isYes (text : String) : Bool :=
  let lowered := Text.lowerCase text
  lowered == "true" || lowered == "1" || lowered == "yes"

/-- The dialect with a name. -/
def dialectOf (name : String) : Except Error Dialect :=
  match Dialect.ofName? name with
  | some dialect => .ok dialect
  | none => .error (.unknownDialect name)

/-- Read the settings from an environment; unless told otherwise there is a worker for each
processor. -/
def read
    (environment : String → Option String)
    (processors : Nat) : Except Error Settings := do
  let workers ← number environment "SHARDING_EXECUTOR_SIZE" processors
  let shutdownSeconds ← number environment "SHARDING_EXECUTOR_SHUTDOWN_TIMEOUT" 5
  if workers = 0 then
    .error .noConfiguredWorkers
  else
    let dialectName := (environment "SHARDING_DATABASE_TYPE").getD Dialect.mysql.name
    let dialect ← dialectOf dialectName
    .ok
      { workers := workers
        shutdownSeconds := shutdownSeconds
        showsSql := (environment "SHARDING_SQL_SHOW").any isYes
        dialectName := dialectName
        dialect := dialect
        logLevel := (environment "RUST_LOG").getD "info"
        logStyle := (environment "RUST_LOG_STYLE").getD "auto"
        rulePath := environment "SHARDING_RULE_PATH" }

end Settings

end ShardedSql
