import ShardedSql.Execution.Engine

/-!
# What a step can do

A step of the caller or of a worker leaves a machine as it is, or changes it in one of six ways.
What holds at the start and is kept by each of them holds after every schedule.
-/

namespace ShardedSql

variable {σ τ : Type}

/-- The ways in which a task goes on in one step, from its stage and its connection. -/
inductive Job.Turns
    (job : Job σ τ)
    (work : Work)
    (task : Nat)
    (connection : Connection σ) : TaskStage τ → TaskTurn σ τ → Prop where
  | submit :
      Turns job work task connection .listed { stage := .queued, connection := connection }
  | begin :
      Turns job work task connection .listed { stage := .waiting, connection := connection }
  | engage :
      Turns job work task connection .queued { stage := .waiting, connection := connection }
  | take (free : connection.holder = none) (sound : connection.isPoisoned = false) :
      Turns job work task connection .waiting
        { stage := .announcing 0, connection := { connection with holder := some task } }
  | refuse (free : connection.holder = none) (poisoned : connection.isPoisoned = true) :
      Turns job work task connection .waiting
        { stage := .released
            (.error (.unitFailed work.unit.dataSource "connection lock poisoned"))
          connection := connection }
  | announce {set : Nat} (more : set < job.eventSets.length) :
      Turns job work task connection (.announcing set)
        { stage := .announcing (set + 1)
          connection := connection
          incident := some (.published (job.event work task set .before none)) }
  | call {set : Nat} (all : job.eventSets.length ≤ set) :
      Turns job work task connection (.announcing set) (job.callTurn work task connection)
  | report {outcome : Except String τ} {set : Nat} (more : set < job.eventSets.length) :
      Turns job work task connection (.reporting outcome set)
        { stage := .reporting outcome (set + 1)
          connection := connection
          incident := some (.published (job.outcomeEvent work task set outcome)) }
  | release {outcome : Except String τ} {set : Nat} (all : job.eventSets.length ≤ set) :
      Turns job work task connection (.reporting outcome set)
        { stage := .released (job.resultOf work outcome)
          connection := { connection with holder := none } }
  | finish {result : Except Error (Option τ)} :
      Turns job work task connection (.released result)
        { stage := .finished result, connection := connection }

namespace Job

variable {job : Job σ τ} {work : Work} {task : Nat} {connection : Connection σ}
variable {stage : TaskStage τ} {turn : TaskTurn σ τ}

theorem turns_of_takeTurn
    (taken : takeTurn work task connection = some turn) :
    job.Turns work task connection .waiting turn := by
  unfold takeTurn at taken
  cases free : connection.holder with
  | some holder => simp [free] at taken
  | none =>
      simp only [free] at taken
      split at taken
      · rename_i poisoned
        cases taken
        exact .refuse free poisoned
      · rename_i sound
        cases taken
        exact .take free (by simpa using sound)

/-- A step that a task takes by itself is one of its turns. -/
theorem turns_of_turn
    (turned : job.turn work task connection stage = some turn) :
    job.Turns work task connection stage turn := by
  cases stage with
  | listed | queued | finished result => cases turned
  | waiting => exact turns_of_takeTurn turned
  | announcing set =>
      simp only [Job.turn] at turned
      split at turned
      · rename_i more
        cases turned
        exact .announce more
      · rename_i all
        cases turned
        exact .call (Nat.le_of_not_lt all)
  | reporting outcome set =>
      simp only [Job.turn] at turned
      split at turned
      · rename_i more
        cases turned
        exact .report more
      · rename_i all
        cases turned
        exact .release (Nat.le_of_not_lt all)
  | released result =>
      cases turned
      exact .finish

theorem Turns.stage_ne_listed
    (turns : job.Turns work task connection stage turn) :
    turn.stage ≠ .listed := by
  cases turns <;> simp [callTurn]

theorem Turns.isFinished_eq_false
    (turns : job.Turns work task connection stage turn) :
    stage.isFinished = false := by
  cases turns <;> rfl

/-- Whatever a task does in a turn belongs to it. -/
theorem Turns.task_of_mem
    (turns : job.Turns work task connection stage turn)
    {incident : Incident τ}
    (member : incident ∈ turn.incident.toList) :
    incident.task = task := by
  cases turns with
  | submit | begin | engage | take | refuse | release | finish => simp at member
  | announce | call =>
      cases List.mem_singleton.mp member
      rfl
  | @report outcome =>
      cases List.mem_singleton.mp member
      cases outcome <;> rfl

/-- No turn makes a connection useless. -/
theorem Turns.isPoisoned_eq
    (turns : job.Turns work task connection stage turn) :
    turn.connection.isPoisoned = connection.isPoisoned := by
  cases turns <;> rfl

end Job

namespace Machine

variable {job : Job σ τ} {workers : Nat} {machine : Machine σ τ}

/-- The ways in which the caller and the workers change a machine. -/
inductive Move (job : Job σ τ) (machine : Machine σ τ) : Machine σ τ → Prop where
  /-- The caller hands out a task. -/
  | submit {next : Nat}
      (caller : machine.caller = .submitting next)
      (more : next < job.works.length) :
      Move job machine (machine.submit next)
  /-- Without units the caller has its answer at once. -/
  | leave {next : Nat}
      (caller : machine.caller = .submitting next)
      (empty : job.works = []) :
      Move job machine (machine.answer (.ok []))
  /-- The caller begins the first task. -/
  | begin {next : Nat}
      (caller : machine.caller = .submitting next)
      (all : job.works.length ≤ next)
      (nonempty : job.works ≠ []) :
      Move job machine machine.begin
  /-- A worker takes a task. -/
  | engage {task : Nat}
      (queued : machine.stages[task]? = some .queued) :
      Move job machine (machine.engage task)
  /-- A task takes a step by itself. -/
  | turn {task : Nat} {work : Work} {stage : TaskStage τ} {turn : TaskTurn σ τ}
      (listed : job.works[task]? = some work)
      (current : machine.stages[task]? = some stage)
      (turned : job.turn work task (machine.connections work.connection) stage = some turn) :
      Move job machine (machine.apply work task turn)
  /-- The caller gets its answer from the tasks. -/
  | answer
      (caller : machine.caller = .working)
      (done : machine.isDone = true) :
      Move job machine (machine.answer machine.results)

theorem stepTask_eq_or_move (task : Nat) :
    machine.stepTask job task = machine ∨ Move job machine (machine.stepTask job task) := by
  unfold stepTask
  split
  · rename_i work stage listed current
    split
    · rename_i turn turned
      exact .inr (.turn listed current turned)
    · exact .inl rfl
  · exact .inl rfl

theorem stepCaller_eq_or_move :
    machine.stepCaller job = machine ∨ Move job machine (machine.stepCaller job) := by
  unfold stepCaller
  split
  · rename_i next caller
    split
    · rename_i more
      exact .inr (.submit caller more)
    · rename_i all
      split
      · rename_i empty
        exact .inr (.leave caller (List.isEmpty_iff.mp empty))
      · rename_i nonempty
        exact .inr (.begin caller (Nat.le_of_not_lt all) (by simpa using nonempty))
  · rename_i caller
    split
    · rename_i done
      exact .inr (.answer caller done)
    · exact stepTask_eq_or_move 0
  · exact .inl rfl

theorem stepWorker_eq_or_move (task : Nat) :
    machine.stepWorker job workers task = machine
      ∨ Move job machine (machine.stepWorker job workers task) := by
  unfold stepWorker
  split
  · rename_i queued
    split
    · exact .inr (.engage queued)
    · exact .inl rfl
  · exact stepTask_eq_or_move task

/-- A step leaves a machine as it is or is one of the moves. -/
theorem step_eq_or_move
    (job : Job σ τ)
    (workers : Nat)
    (machine : Machine σ τ)
    (actor : Nat) :
    machine.step job workers actor = machine
      ∨ Move job machine (machine.step job workers actor) := by
  cases actor with
  | zero => exact stepCaller_eq_or_move
  | succ task => exact stepWorker_eq_or_move (task + 1)

/-- What every move keeps is kept by a schedule. -/
theorem run_induction
    {holds : Machine σ τ → Prop}
    (kept : ∀ {machine next}, holds machine → Move job machine next → holds next)
    (start : holds machine)
    (schedule : List Nat) :
    holds (machine.run job workers schedule) := by
  induction schedule generalizing machine with
  | nil => exact start
  | cons actor schedule ih =>
      refine ih ?_
      rcases step_eq_or_move job workers machine actor with same | move
      · exact same.symm ▸ start
      · exact kept start move

end Machine

end ShardedSql
