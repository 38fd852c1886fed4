import ShardedSql.Proofs.Execution.Moves
import Mathlib.Tactic.Common

/-!
# Caller and tasks

How far the caller has come fits to the stages of the tasks at any time: it has left aside just the
tasks that it has still to begin, and it has its answer only after all of them are done.  So every
change of a machine is one task that goes on, or the caller that gets its answer.
-/

namespace ShardedSql

variable {σ τ : Type}

/-- Whether the caller has still to begin a task or to hand it out. -/
def CallerStage.KeepsBack : CallerStage τ → Nat → Prop
  | .submitting next, task => task = 0 ∨ next ≤ task
  | .working, _ | .returned _, _ => False

/-- How much a task adds to the number of units at work. -/
def TaskStage.load : TaskStage τ → Nat
  | .listed | .finished _ => 0
  | .queued | .waiting | .announcing _ | .reporting _ _ | .released _ => 1

namespace Job

variable {job : Job σ τ} {work : Work} {task : Nat} {connection : Connection σ}
variable {stage : TaskStage τ} {turn : TaskTurn σ τ}

theorem stage_ne_queued_of_turn
    (turned : job.turn work task connection stage = some turn) :
    turn.stage ≠ .queued := by
  cases turns_of_turn turned with
  | submit => cases turned
  | begin | engage | take | refuse | announce | call | report | release | finish => simp [callTurn]

/-- A task that goes on by itself stays at work until it is done. -/
theorem load_of_turn
    (turned : job.turn work task connection stage = some turn) :
    stage.load = 1 ∧ turn.stage.load = if turn.stage.isFinished then 0 else 1 := by
  cases turns_of_turn turned with
  | submit | begin => cases turned
  | engage | take | refuse | announce | call | report | release | finish => exact ⟨rfl, rfl⟩

end Job

namespace Machine

variable {job : Job σ τ} {machine next : Machine σ τ}

/-- The stages of the tasks fit to the stage of the caller. -/
structure Arranged (job : Job σ τ) (machine : Machine σ τ) : Prop where
  length_eq : machine.stages.length = job.works.length
  listed_iff : ∀ {task : Nat} {stage : TaskStage τ}, machine.stages[task]? = some stage →
    (stage = .listed ↔ machine.caller.KeepsBack task)
  next_pos : ∀ {next : Nat}, machine.caller = .submitting next → 0 < next
  first_ne_queued : machine.stages[0]? ≠ some .queued
  settled : ∀ {answer : Except Error (List (Option τ))}, machine.caller = .returned answer →
    machine.isDone = true ∧ answer = machine.results

/-- A machine after one of its tasks has gone on. -/
structure Advances
    (job : Job σ τ)
    (machine next : Machine σ τ)
    (task : Nat)
    (work : Work)
    (stage : TaskStage τ)
    (turn : TaskTurn σ τ) : Prop where
  listed : job.works[task]? = some work
  current : machine.stages[task]? = some stage
  turns : job.Turns work task (machine.connections work.connection) stage turn
  connections : ∀ number, next.connections number =
    if number = work.connection then turn.connection else machine.connections number
  stages : next.stages = machine.stages.set task turn.stage
  history : next.history = machine.history ++ turn.incident.toList
  inFlight : next.inFlight = machine.inFlight + turn.stage.load - stage.load

theorem getElem?_set_eq_some
    {stages : List (TaskStage τ)}
    {task other : Nat}
    {stage current : TaskStage τ}
    (found : (stages.set task stage)[other]? = some current) :
    (other = task ∧ current = stage) ∨ (other ≠ task ∧ stages[other]? = some current) := by
  rw [List.getElem?_set] at found
  split at found
  · rename_i same
    split at found
    · exact .inl ⟨same.symm, (Option.some.inj found).symm⟩
    · cases found
  · rename_i apart
    exact .inr ⟨fun same => apart same.symm, found⟩

theorem connections_eq_ite
    (machine : Machine σ τ)
    (number other : Nat) :
    machine.connections other =
      if other = number then machine.connections number else machine.connections other := by
  split
  · rename_i same
    rw [same]
  · rfl

theorem isFinished_of_isDone
    (done : machine.isDone = true)
    {task : Nat}
    {stage : TaskStage τ}
    (current : machine.stages[task]? = some stage) :
    stage.isFinished = true :=
  List.all_eq_true.mp done stage (List.mem_of_getElem? current)

namespace Arranged

variable (arranged : Arranged job machine)
include arranged

theorem lt_length
    {task : Nat}
    {stage : TaskStage τ}
    (current : machine.stages[task]? = some stage) :
    task < job.works.length :=
  arranged.length_eq ▸ (List.getElem?_eq_some_iff.mp current).1

theorem exists_stage
    {task : Nat}
    (bound : task < job.works.length) :
    ∃ stage, machine.stages[task]? = some stage :=
  ⟨_, List.getElem?_eq_getElem (arranged.length_eq.symm ▸ bound)⟩

theorem current_eq_listed
    {task : Nat}
    (bound : task < job.works.length)
    (kept : machine.caller.KeepsBack task) :
    machine.stages[task]? = some .listed := by
  obtain ⟨stage, current⟩ := arranged.exists_stage bound
  rw [current, (arranged.listed_iff current).mpr kept]

theorem not_returned
    {task : Nat}
    {stage : TaskStage τ}
    (current : machine.stages[task]? = some stage)
    (unfinished : stage.isFinished = false)
    (answer : Except Error (List (Option τ))) :
    machine.caller ≠ .returned answer := by
  intro caller
  have finished := isFinished_of_isDone (arranged.settled caller).1 current
  rw [unfinished] at finished
  cases finished

theorem submit
    {task : Nat}
    (caller : machine.caller = .submitting task) :
    Arranged job (machine.submit task) where
  length_eq := by simp [Machine.submit, arranged.length_eq]
  listed_iff := by
    intro other stage current
    have kept : (machine.submit task).caller.KeepsBack other ↔ other = 0 ∨ task + 1 ≤ other :=
      Iff.rfl
    have positive := arranged.next_pos caller
    rw [kept]
    rcases getElem?_set_eq_some current with ⟨rfl, rfl⟩ | ⟨apart, current⟩
    · simp only [reduceCtorEq, false_iff]
      omega
    · rw [arranged.listed_iff current, caller, CallerStage.KeepsBack]
      omega
  next_pos := by
    intro next same
    cases same
    exact Nat.succ_pos task
  first_ne_queued := by
    intro current
    rcases getElem?_set_eq_some current with ⟨rfl, -⟩ | ⟨-, current⟩
    · exact Nat.lt_irrefl 0 (arranged.next_pos caller)
    · exact arranged.first_ne_queued current
  settled := by
    intro answer returned
    cases returned

theorem begin
    {next : Nat}
    (caller : machine.caller = .submitting next)
    (all : job.works.length ≤ next) :
    Arranged job machine.begin where
  length_eq := by simp [Machine.begin, arranged.length_eq]
  listed_iff := by
    intro other stage current
    have kept : ¬ machine.begin.caller.KeepsBack other := id
    rcases getElem?_set_eq_some current with ⟨rfl, rfl⟩ | ⟨apart, current⟩
    · simp [kept]
    · have bound := arranged.lt_length current
      have begun : ¬ machine.caller.KeepsBack other := by
        rw [caller, CallerStage.KeepsBack]
        omega
      rw [arranged.listed_iff current]
      exact iff_of_false begun kept
  next_pos := by
    intro next same
    cases same
  first_ne_queued := by
    intro current
    rcases getElem?_set_eq_some current with ⟨-, same⟩ | ⟨apart, -⟩
    · cases same
    · exact apart rfl
  settled := by
    intro answer returned
    cases returned

/-- A task that is begun or handed out goes on, whatever the caller does. -/
theorem set_stage
    {task : Nat}
    {stage later : TaskStage τ}
    (current : machine.stages[task]? = some stage)
    (unlisted : stage ≠ .listed)
    (unfinished : stage.isFinished = false)
    (laterUnlisted : later ≠ .listed)
    (laterUnqueued : later ≠ .queued)
    (caller : next.caller = machine.caller)
    (stages : next.stages = machine.stages.set task later) :
    Arranged job next where
  length_eq := by rw [stages, List.length_set, arranged.length_eq]
  listed_iff := by
    intro other found foundAt
    rw [caller]
    rw [stages] at foundAt
    rcases getElem?_set_eq_some foundAt with ⟨rfl, rfl⟩ | ⟨-, found⟩
    · exact iff_of_false laterUnlisted fun kept =>
        unlisted ((arranged.listed_iff current).mpr kept)
    · exact arranged.listed_iff found
  next_pos := caller ▸ arranged.next_pos
  first_ne_queued := by
    intro queued
    rw [stages] at queued
    rcases getElem?_set_eq_some queued with ⟨-, same⟩ | ⟨-, queued⟩
    · exact laterUnqueued same.symm
    · exact arranged.first_ne_queued queued
  settled := by
    intro answer returned
    exact (arranged.not_returned current unfinished answer (caller ▸ returned)).elim

theorem answer
    {answer : Except Error (List (Option τ))}
    (begun : ∀ task < job.works.length, ¬ machine.caller.KeepsBack task)
    (done : machine.isDone = true)
    (results : answer = machine.results) :
    Arranged job (machine.answer answer) where
  length_eq := arranged.length_eq
  listed_iff := by
    intro task stage current
    exact (arranged.listed_iff current).trans
      (iff_of_false (begun task (arranged.lt_length current)) id)
  next_pos := by
    intro next same
    cases same
  first_ne_queued := arranged.first_ne_queued
  settled := by
    intro other returned
    cases returned
    exact ⟨done, results⟩

/-- Every move keeps the arrangement of caller and tasks. -/
theorem move (move : Move job machine next) :
    Arranged job next := by
  cases move with
  | submit caller => exact arranged.submit caller
  | leave caller empty =>
      have noStages : machine.stages = [] :=
        List.eq_nil_of_length_eq_zero (by rw [arranged.length_eq, empty, List.length_nil])
      refine arranged.answer ?_ ?_ ?_
      · simp [empty]
      · simp [isDone, noStages]
      · simp [results, noStages, pure, Except.pure]
  | begin caller all => exact arranged.begin caller all
  | engage queued =>
      exact arranged.set_stage queued (by simp) rfl (by simp) (by simp) rfl rfl
  | turn listed current turned =>
      have turns := Job.turns_of_turn turned
      refine arranged.set_stage current ?_ turns.isFinished_eq_false turns.stage_ne_listed ?_ rfl rfl
      · rintro rfl
        cases turned
      · exact Job.stage_ne_queued_of_turn turned
  | answer caller done =>
      refine arranged.answer ?_ done rfl
      rw [caller]
      exact fun _ _ => id

/-- A move is one task that goes on, or the caller that gets its answer. -/
theorem advances_or_answers (move : Move job machine next) :
    (∃ task work stage turn, Advances job machine next task work stage turn)
      ∨ ∃ answer, next = machine.answer answer := by
  cases move with
  | @submit task caller more =>
      exact .inl ⟨task, job.works[task], .listed, _,
        { listed := List.getElem?_eq_getElem more
          current := arranged.current_eq_listed more (by simp [caller, CallerStage.KeepsBack])
          turns := .submit
          connections := machine.connections_eq_ite _
          stages := rfl
          history := (List.append_nil _).symm
          inFlight := rfl }⟩
  | leave => exact .inr ⟨_, rfl⟩
  | @begin task caller all nonempty =>
      have first : 0 < job.works.length := List.length_pos_iff.mpr nonempty
      exact .inl ⟨0, job.works[0], .listed, _,
        { listed := List.getElem?_eq_getElem first
          current := arranged.current_eq_listed first (by simp [caller, CallerStage.KeepsBack])
          turns := .begin
          connections := machine.connections_eq_ite _
          stages := rfl
          history := (List.append_nil _).symm
          inFlight := rfl }⟩
  | @engage task queued =>
      have bound := arranged.lt_length queued
      exact .inl ⟨task, job.works[task], .queued, _,
        { listed := List.getElem?_eq_getElem bound
          current := queued
          turns := .engage
          connections := machine.connections_eq_ite _
          stages := rfl
          history := (List.append_nil _).symm
          inFlight := rfl }⟩
  | @turn task work stage turn listed current turned =>
      obtain ⟨load, laterLoad⟩ := Job.load_of_turn turned
      refine .inl ⟨task, work, stage, turn,
        { listed := listed
          current := current
          turns := Job.turns_of_turn turned
          connections := fun _ => rfl
          stages := rfl
          history := rfl
          inFlight := ?_ }⟩
      rw [load, laterLoad, apply]
      split <;> rfl
  | answer => exact .inr ⟨_, rfl⟩

end Arranged

end Machine

end ShardedSql
