import ShardedSql.Proofs.Execution.Separation
import Mathlib.Algebra.Ring.Nat

/-!
# What holds at any time

The number of units at work is the number that it had before and one for each task that is handed out or
begun and not yet done.  Together with the arrangement, the histories and the separation of the tasks it
holds after every schedule.  Every move comes nearer to the end.
-/

namespace ShardedSql

variable {σ τ : Type}

/-- How many steps a task has still to take, when events are published for a number of sets. -/
def TaskStage.remaining (sets : Nat) : TaskStage τ → Nat
  | .listed => 2 * sets + 6
  | .queued => 2 * sets + 5
  | .waiting => 2 * sets + 4
  | .announcing set => sets - set + sets + 3
  | .reporting _ set => sets - set + 2
  | .released _ => 1
  | .finished _ => 0

/-- Whether the caller has still to get its answer, as a number. -/
def CallerStage.remaining : CallerStage τ → Nat
  | .submitting _ | .working => 1
  | .returned _ => 0

namespace Machine

variable {job : Job σ τ} {machine next : Machine σ τ}

/-- A change of one stage changes a sum over the stages by the measures of that one. -/
theorem sum_map_set
    {stages : List (TaskStage τ)}
    {task : Nat}
    {stage : TaskStage τ}
    (current : stages[task]? = some stage)
    (later : TaskStage τ)
    (measure : TaskStage τ → Nat) :
    ((stages.set task later).map measure).sum + measure stage =
      (stages.map measure).sum + measure later := by
  induction stages generalizing task with
  | nil => simp at current
  | cons first stages ih =>
      cases task with
      | zero =>
          cases current
          simp only [List.set_cons_zero, List.map_cons, List.sum_cons]
          omega
      | succ task =>
          have found : stages[task]? = some stage := by simpa using current
          have rest := ih found
          simp only [List.set_cons_succ, List.map_cons, List.sum_cons]
          omega

/-- How much the tasks add to the number of units at work. -/
def load (machine : Machine σ τ) : Nat :=
  (machine.stages.map TaskStage.load).sum

/-- How far a machine is from its end. -/
def remaining (job : Job σ τ) (machine : Machine σ τ) : Nat :=
  (machine.stages.map (TaskStage.remaining job.eventSets.length)).sum + machine.caller.remaining

/-- What holds at any time for a machine that has begun with a number of units at work. -/
structure Consistent (job : Job σ τ) (before : Nat) (machine : Machine σ τ) : Prop where
  arranged : Arranged job machine
  held : Held job machine
  recorded : Recorded job machine
  owned : ∀ incident ∈ machine.history, incident.task < job.works.length
  separated : ∀ number, ∃ order, Separated job machine number order
  inFlight_eq : machine.inFlight = before + machine.load

variable {before : Nat}

/-- A task that goes on changes the number of units at work as it changes its own load. -/
theorem Advances.inFlight_eq
    {task : Nat}
    {work : Work}
    {stage : TaskStage τ}
    {turn : TaskTurn σ τ}
    (advances : Advances job machine next task work stage turn)
    (counted : machine.inFlight = before + machine.load) :
    next.inFlight = before + next.load := by
  have sums := sum_map_set advances.current turn.stage TaskStage.load
  rw [← advances.stages] at sums
  have changed := advances.inFlight
  simp only [load] at counted ⊢
  omega

theorem Consistent.move
    (consistent : Consistent job before machine)
    (move : Move job machine next) :
    Consistent job before next := by
  have arranged := consistent.arranged.move move
  rcases consistent.arranged.advances_or_answers move with
    ⟨task, work, stage, turn, advances⟩ | ⟨answer, rfl⟩
  · have held := consistent.held
    have recorded := consistent.recorded
    exact
      { arranged := arranged
        held := held.advance advances
        recorded := recorded.advance advances (held.sound advances.listed)
        owned := advances.task_lt_of_mem consistent.owned
        separated := fun number =>
          (consistent.separated number).elim fun _ separated =>
            separated.advance advances held recorded
        inFlight_eq := advances.inFlight_eq consistent.inFlight_eq }
  · exact
      { arranged := arranged
        held := { consistent.held with }
        recorded := consistent.recorded
        owned := consistent.owned
        separated := fun number =>
          (consistent.separated number).elim fun order separated => ⟨order, { separated with }⟩
        inFlight_eq := consistent.inFlight_eq }

/-- What holds at any time holds after every schedule. -/
theorem Consistent.run
    (consistent : Consistent job before machine)
    (workers : Nat)
    (schedule : List Nat) :
    Consistent job before (machine.run job workers schedule) :=
  run_induction (fun holds => holds.move) consistent schedule

namespace Arranged

variable (arranged : Arranged job machine)
include arranged

end Arranged

end Machine

end ShardedSql
