import ShardedSql.Invocation
import Std.Time.DateTime.Timestamp

/-!
# Command line

The program prints where one statement runs, or says on the error stream why it does not know.
-/

namespace ShardedSql

/-- The time in milliseconds since 1970. -/
def currentTime : IO Int := do
  return (← Std.Time.Timestamp.now).toMillisecondsSinceUnixEpoch.val

/-- The values of the variables that settings are read from. -/
def readEnvironment : IO (List (String × Option String)) :=
  Settings.variableNames.mapM fun name => do
    return (name, ← IO.getEnv name)

/-- The answer to a call, or the message of what keeps it from having one. -/
def answerCall (arguments : List String) : IO (Except String String) := do
  let entries ← readEnvironment
  let environment := fun name => (entries.find? fun entry => entry.1 == name).bind Prod.snd
  let prepared := do
    let invocation ← Invocation.ofArguments arguments
    let settings ← (Settings.read environment 1).mapError InvocationFault.failed
    return (invocation, settings, ← invocation.ruleFile settings)
  match prepared with
  | .error fault => return .error fault.message
  | .ok (invocation, settings, path) =>
      match ← (IO.FS.readFile path).toBaseIO with
      | .error failure => return .error (toString failure)
      | .ok content =>
          let now ← currentTime
          let answer := do
            invocation.answer settings.dialect (← Invocation.readRule path content) now
          return answer.mapError InvocationFault.message

end ShardedSql

/-- Print where a statement runs. -/
def main (arguments : List String) : IO UInt32 := do
  match ← ShardedSql.answerCall arguments with
  | .ok text =>
      IO.println text
      return 0
  | .error message =>
      IO.eprintln ("Error: " ++ message)
      return 1
