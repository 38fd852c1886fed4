import ShardedSql.Routing.Router

/-!
# Execution events

Before and after a statement runs on a data source, an event tells about it, once for each set of
parameters that it runs with.  The history of a job keeps its events together with the calls that
they surround.
-/

namespace ShardedSql

/-- When an event arises. -/
inductive ExecutionPhase where
  | before
  | success
  | failure
  deriving DecidableEq

/-- The name of a phase. -/
def ExecutionPhase.name : ExecutionPhase → String
  | .before => "BEFORE_EXECUTE"
  | .success => "EXECUTE_SUCCESS"
  | .failure => "EXECUTE_FAILURE"

/-- An event of the task with a number about the parameter set with a number. -/
structure ExecutionEvent where
  task : Nat
  set : Nat
  category : StatementCategory
  phase : ExecutionPhase
  unit : ExecutionUnit
  parameters : List Value
  error : Option String
  deriving DecidableEq

/-- What a task does that others can see. -/
inductive Incident (τ : Type) where
  /-- An event reaches the listeners. -/
  | published (event : ExecutionEvent)
  /-- The callback runs for a task and ends with a value or a message. -/
  | called (task : Nat) (outcome : Except String τ)

namespace Incident

variable {τ : Type}

/-- The task that an incident belongs to. -/
def task : Incident τ → Nat
  | .published event => event.task
  | .called task _ => task

/-- The event of an incident, if it has one. -/
def event? : Incident τ → Option ExecutionEvent
  | .published event => some event
  | .called _ _ => none

end Incident

end ShardedSql
