import ShardedSql.Json.Reader
import ShardedSql.Json.Writer
import ShardedSql.Routing.Record
import ShardedSql.Rule.Config
import ShardedSql.Settings

/-!
# Calls of the program

A call names a statement, its parameters and a file with a sharding rule, and asks where the
statement runs.
-/

namespace ShardedSql

/-- What a call asks for. -/
structure Invocation where
  sql : String
  parameters : List String
  rulePath : Option String
  databaseValue : Option String
  deriving DecidableEq

/-- Why a call has no answer. -/
inductive InvocationFault where
  /-- An argument has no meaning. -/
  | unknownArgument (argument : String)
  /-- An argument lacks its value. -/
  | missingValue (argument : String)
  /-- An argument is given more than once. -/
  | repeatedArgument (argument : String)
  /-- No statement is given. -/
  | missingStatement
  /-- No rule file is given. -/
  | missingRule
  /-- A rule file declares no rule. -/
  | invalidRule (path : String)
  /-- Routing failed. -/
  | failed (error : Error)

/-- The message of a fault. -/
def InvocationFault.message : InvocationFault → String
  | .unknownArgument argument => "unexpected argument '" ++ argument ++ "' found"
  | .missingValue argument => "a value is required for '" ++ argument ++ "' but none was supplied"
  | .repeatedArgument argument =>
      "the argument '" ++ argument ++ "' cannot be used multiple times"
  | .missingStatement => "the following required arguments were not provided: --sql"
  | .missingRule => "No rule file given: pass --rule or set SHARDING_RULE_PATH"
  | .invalidRule path => "Failed to load sharding rule " ++ path
  | .failed error => error.message

/-- What the arguments read so far have stated. -/
structure InvocationArguments where
  sql : Option String := none
  parameters : List String := []
  rulePath : Option String := none
  databaseValue : Option String := none
  deriving DecidableEq

namespace InvocationArguments

/-- The value of an argument that is given once. -/
def once
    (name : String)
    (present : Option String)
    (value : String) : Except InvocationFault (Option String) :=
  if present.isSome then .error (.repeatedArgument name) else .ok (some value)

/-- Add the value of an argument. -/
def add
    (stated : InvocationArguments)
    (name value : String) : Except InvocationFault InvocationArguments :=
  match name with
  | "--sql" => (once name stated.sql value).map fun sql => { stated with sql := sql }
  | "--param" => .ok { stated with parameters := stated.parameters ++ [value] }
  | "--rule" =>
      (once name stated.rulePath value).map fun rulePath => { stated with rulePath := rulePath }
  | "--hint-database-value" =>
      (once name stated.databaseValue value).map fun databaseValue =>
        { stated with databaseValue := databaseValue }
  | _ => .error (.unknownArgument name)

/-- The name of an argument, and its value if both are written in one. -/
def split (argument : String) : String × Option String :=
  match argument.splitOn "=" with
  | name :: first :: others => (name, some ("=".intercalate (first :: others)))
  | _ => (argument, none)

/-- Read arguments one after another; a value may also stand behind its argument. -/
def read
    (stated : InvocationArguments) :
    List String → Except InvocationFault InvocationArguments
  | [] => .ok stated
  | argument :: rest =>
      match split argument, rest with
      | (name, some value), rest => (stated.add name value).bind fun next => read next rest
      | (name, none), value :: others => (stated.add name value).bind fun next => read next others
      | (name, none), [] => .error (.missingValue name)

end InvocationArguments

namespace Invocation

/-- The call that arguments describe. -/
def ofArguments (arguments : List String) : Except InvocationFault Invocation := do
  let stated ← InvocationArguments.read {} arguments
  match stated.sql with
  | some sql => .ok ⟨sql, stated.parameters, stated.rulePath, stated.databaseValue⟩
  | none => .error .missingStatement

/-- The file with the rule: the one that the call names, or else the one of the settings. -/
def ruleFile
    (invocation : Invocation)
    (settings : Settings) : Except InvocationFault String :=
  match invocation.rulePath, settings.rulePath with
  | some path, _ => .ok path
  | none, some path => .ok path
  | none, none => .error .missingRule

/-- The rule that the text of a file declares. -/
def readRule (path content : String) : Except InvocationFault Rule :=
  match (Json.read? content).bind RuleConfig.ofJson? with
  | some config => config.build.mapError .failed
  | none => .error (.invalidRule path)

/-- The hint of a call. -/
def hint (invocation : Invocation) : Hint :=
  match invocation.databaseValue with
  | some value => Hint.setDatabase {} (Value.ofLiteral value)
  | none => {}

/-- Where the statement of a call runs at the time `now`, as indented text. -/
def answer
    (invocation : Invocation)
    (dialect : Dialect)
    (rule : Rule)
    (now : Int) : Except InvocationFault String :=
  let (result, _) :=
    Router.route ⟨dialect, rule⟩ (Keys.ofRule rule now) invocation.hint invocation.sql
      (invocation.parameters.map Value.ofLiteral)
  (result.mapError .failed).map fun route => route.toJson.write JsonLayout.indented

end Invocation

end ShardedSql
