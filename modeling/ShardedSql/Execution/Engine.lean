import ShardedSql.Execution.Machine

/-!
# Executors

An executor runs the units of statements until it is closed.
-/

namespace ShardedSql

/-- An executor with a number of workers beside its caller, and the number of units at work. -/
structure Executor where
  workers : Nat
  isClosed : Bool := false
  inFlight : Nat := 0
  deriving DecidableEq

namespace Executor

variable {σ τ : Type}

/-- An executor with at least one worker. -/
def ofWorkers (workers : Nat) : Except Error Executor :=
  if workers = 0 then .error .noWorkers else .ok { workers := workers }

/-- The number of steps of a task from the queue to its end. -/
def taskSteps (job : Job σ τ) : Nat :=
  2 * job.eventSets.length + 5

/-- The schedule that runs one task after the other. -/
def sequentialSchedule (job : Job σ τ) : List Nat :=
  List.replicate (job.works.length + taskSteps job) 0
    ++ (List.range job.works.length).tail.flatMap (List.replicate (taskSteps job))
    ++ [0]

/-- Run a job in the order of a schedule, from given connections.  A closed executor runs nothing. -/
def execute
    (executor : Executor)
    (job : Job σ τ)
    (connections : Nat → Connection σ)
    (schedule : List Nat) : Except Error (Machine σ τ) :=
  if executor.isClosed then
    .error .executorClosed
  else
    .ok ((job.start connections executor.inFlight).run job executor.workers schedule)

/-- Refuse further work.  Units that are at work keep the executor from stopping. -/
def close (executor : Executor) : Except Error Unit × Executor :=
  let closed := { executor with isClosed := true }
  if executor.inFlight = 0 then (.ok (), closed) else (.error .executorBusy, closed)

end Executor

end ShardedSql
