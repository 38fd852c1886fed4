import ShardedSql.Execution.Event

/-!
# Running units side by side

Every unit of a statement is a task.  The caller hands all tasks but the first to the workers, runs
the first one itself, waits for the others and puts the results together.  Caller and workers go on
in small steps, in any order that a schedule gives: number zero in a schedule is the caller, any
other number the worker of the task with that number.  A task that needs a connection waits until
no other task holds it, and a task that is handed out waits until a worker is free.
-/

namespace ShardedSql

/-- A connection with its state and the task that holds it.  After a failure inside of a task the
connection can not be used any more. -/
structure Connection (σ : Type) where
  state : σ
  holder : Option Nat := none
  isPoisoned : Bool := false

/-- A unit and the number of the connection that it runs on. -/
structure Work where
  unit : ExecutionUnit
  connection : Nat
  deriving DecidableEq

/-- Units to run.  The callback runs one unit on the state of its connection; its second argument
tells whether it runs on the thread of the caller. -/
structure Job (σ τ : Type) where
  category : StatementCategory
  works : List Work
  parameterSets : List (List Value)
  rethrows : Bool
  callback : ExecutionUnit → Bool → σ → Except String τ × σ

/-- How far a task has come. -/
inductive TaskStage (τ : Type) where
  /-- The caller has not come to the task yet. -/
  | listed
  /-- The task is handed out; no worker has taken it yet. -/
  | queued
  /-- The task is begun; the connection is not held yet. -/
  | waiting
  /-- The events before the callback are published from the parameter set with a number on. -/
  | announcing (set : Nat)
  /-- The events after the callback are published from the parameter set with a number on. -/
  | reporting (outcome : Except String τ) (set : Nat)
  /-- The connection is let go; the task still counts as being at work. -/
  | released (result : Except Error (Option τ))
  /-- The task is done. -/
  | finished (result : Except Error (Option τ))

namespace TaskStage

variable {τ : Type}

/-- Whether someone runs a task. -/
def isRunning : TaskStage τ → Bool
  | .waiting | .announcing _ | .reporting _ _ | .released _ => true
  | .listed | .queued | .finished _ => false

/-- Whether a task is done. -/
def isFinished : TaskStage τ → Bool
  | .finished _ => true
  | _ => false

/-- What a task gives; before it is done it gives nothing. -/
def result : TaskStage τ → Except Error (Option τ)
  | .finished result => result
  | _ => .ok none

end TaskStage

/-- How far the caller has come. -/
inductive CallerStage (τ : Type) where
  /-- The tasks from a number on, and the first one, are still to be begun. -/
  | submitting (next : Nat)
  /-- The caller runs the first task and waits for the others. -/
  | working
  /-- The caller has its answer. -/
  | returned (answer : Except Error (List (Option τ)))

/-- The caller, the tasks of a job and their connections in the middle of the work. -/
structure Machine (σ τ : Type) where
  connections : Nat → Connection σ
  caller : CallerStage τ
  stages : List (TaskStage τ)
  history : List (Incident τ)
  inFlight : Nat

/-- What one step changes for its task. -/
structure TaskTurn (σ τ : Type) where
  stage : TaskStage τ
  connection : Connection σ
  incident : Option (Incident τ) := none

namespace Job

variable {σ τ : Type}

/-- The parameter sets that events are published for; without any there is an empty one. -/
def eventSets (job : Job σ τ) : List (List Value) :=
  if job.parameterSets.isEmpty then [[]] else job.parameterSets

/-- The event of a task about a parameter set. -/
def event
    (job : Job σ τ)
    (work : Work)
    (task set : Nat)
    (phase : ExecutionPhase)
    (error : Option String) : ExecutionEvent :=
  { task := task
    set := set
    category := job.category
    phase := phase
    unit := work.unit
    parameters := job.eventSets[set]?.getD []
    error := error }

/-- The event after the callback. -/
def outcomeEvent
    (job : Job σ τ)
    (work : Work)
    (task set : Nat) : Except String τ → ExecutionEvent
  | .ok _ => job.event work task set .success none
  | .error message => job.event work task set .failure (some message)

/-- What a task gives back for the outcome of its callback. -/
def resultOf
    (job : Job σ τ)
    (work : Work) : Except String τ → Except Error (Option τ)
  | .ok value => .ok (some value)
  | .error message =>
      if job.rethrows then .error (.unitFailed work.unit.dataSource message) else .ok none

/-- Take the connection of a task, unless another task holds it. -/
def takeTurn
    (work : Work)
    (task : Nat)
    (connection : Connection σ) : Option (TaskTurn σ τ) :=
  match connection.holder with
  | some _ => none
  | none =>
      if connection.isPoisoned then
        some
          { stage := .released
              (.error (.unitFailed work.unit.dataSource "connection lock poisoned"))
            connection := connection }
      else
        some { stage := .announcing 0, connection := { connection with holder := some task } }

/-- Run the callback of a task on its connection. -/
def callTurn
    (job : Job σ τ)
    (work : Work)
    (task : Nat)
    (connection : Connection σ) : TaskTurn σ τ :=
  let (outcome, state) := job.callback work.unit (task == 0) connection.state
  { stage := .reporting outcome 0
    connection := { connection with state := state }
    incident := some (.called task outcome) }

/-- The next step of a task on its connection, if it can take one by itself. -/
def turn
    (job : Job σ τ)
    (work : Work)
    (task : Nat)
    (connection : Connection σ) : TaskStage τ → Option (TaskTurn σ τ)
  | .waiting => takeTurn work task connection
  | .announcing set =>
      if set < job.eventSets.length then
        some
          { stage := .announcing (set + 1)
            connection := connection
            incident := some (.published (job.event work task set .before none)) }
      else
        some (job.callTurn work task connection)
  | .reporting outcome set =>
      if set < job.eventSets.length then
        some
          { stage := .reporting outcome (set + 1)
            connection := connection
            incident := some (.published (job.outcomeEvent work task set outcome)) }
      else
        some
          { stage := .released (job.resultOf work outcome)
            connection := { connection with holder := none } }
  | .released result => some { stage := .finished result, connection := connection }
  | .listed | .queued | .finished _ => none

/-- The caller and the tasks of a job before the first step. -/
def start
    (job : Job σ τ)
    (connections : Nat → Connection σ)
    (inFlight : Nat) : Machine σ τ :=
  { connections := connections
    caller := .submitting 1
    stages := job.works.map fun _ => .listed
    history := []
    inFlight := inFlight }

end Job

namespace Machine

variable {σ τ : Type}

/-- The events that have been published. -/
def events (machine : Machine σ τ) : List ExecutionEvent :=
  machine.history.filterMap Incident.event?

/-- Whether every task is done. -/
def isDone (machine : Machine σ τ) : Bool :=
  machine.stages.all TaskStage.isFinished

/-- The results in the order of the units, or the first failure among them. -/
def results (machine : Machine σ τ) : Except Error (List (Option τ)) :=
  machine.stages.mapM TaskStage.result

/-- The number of tasks that workers run. -/
def busyWorkers (machine : Machine σ τ) : Nat :=
  machine.stages.tail.countP TaskStage.isRunning

/-- Hand a task out to the workers. -/
def submit
    (machine : Machine σ τ)
    (task : Nat) : Machine σ τ :=
  { machine with
    caller := .submitting (task + 1)
    stages := machine.stages.set task .queued
    inFlight := machine.inFlight + 1 }

/-- Begin the first task on the thread of the caller. -/
def begin (machine : Machine σ τ) : Machine σ τ :=
  { machine with
    caller := .working
    stages := machine.stages.set 0 .waiting
    inFlight := machine.inFlight + 1 }

/-- Give the caller its answer. -/
def answer
    (machine : Machine σ τ)
    (answer : Except Error (List (Option τ))) : Machine σ τ :=
  { machine with caller := .returned answer }

/-- Let a worker take a task. -/
def engage
    (machine : Machine σ τ)
    (task : Nat) : Machine σ τ :=
  { machine with stages := machine.stages.set task .waiting }

/-- Carry out the step of a task.  A task that is done does not count as being at work any more. -/
def apply
    (machine : Machine σ τ)
    (work : Work)
    (task : Nat)
    (turn : TaskTurn σ τ) : Machine σ τ :=
  { machine with
    connections := fun number =>
      if number = work.connection then turn.connection else machine.connections number
    stages := machine.stages.set task turn.stage
    history := machine.history ++ turn.incident.toList
    inFlight := if turn.stage.isFinished then machine.inFlight - 1 else machine.inFlight }

/-- Let the task with a number take a step of its own. -/
def stepTask
    (job : Job σ τ)
    (machine : Machine σ τ)
    (task : Nat) : Machine σ τ :=
  match job.works[task]?, machine.stages[task]? with
  | some work, some stage =>
      match job.turn work task (machine.connections work.connection) stage with
      | some turn => machine.apply work task turn
      | none => machine
  | _, _ => machine

/-- Let the caller take a step. -/
def stepCaller
    (job : Job σ τ)
    (machine : Machine σ τ) : Machine σ τ :=
  match machine.caller with
  | .submitting next =>
      if next < job.works.length then
        machine.submit next
      else if job.works.isEmpty then
        machine.answer (.ok [])
      else
        machine.begin
  | .working => if machine.isDone then machine.answer machine.results else machine.stepTask job 0
  | .returned _ => machine

/-- Let the worker of a task take a step, one of a number of workers. -/
def stepWorker
    (job : Job σ τ)
    (workers : Nat)
    (machine : Machine σ τ)
    (task : Nat) : Machine σ τ :=
  match machine.stages[task]? with
  | some .queued => if machine.busyWorkers < workers then machine.engage task else machine
  | _ => machine.stepTask job task

/-- Let the caller or a worker take a step. -/
def step
    (job : Job σ τ)
    (workers : Nat)
    (machine : Machine σ τ) : Nat → Machine σ τ
  | 0 => machine.stepCaller job
  | task + 1 => machine.stepWorker job workers (task + 1)

/-- Let the caller and the workers take steps in the order of a schedule. -/
def run
    (job : Job σ τ)
    (workers : Nat)
    (machine : Machine σ τ)
    (schedule : List Nat) : Machine σ τ :=
  schedule.foldl (step job workers) machine

end Machine

end ShardedSql
