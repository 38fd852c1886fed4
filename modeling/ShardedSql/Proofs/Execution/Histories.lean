import ShardedSql.Proofs.Execution.Arrangement

/-!
# What a task does

A task announces its statement once for each set of parameters, calls back once and reports the outcome
once for each set.  Its history at any time is the part of this block that its stage tells.
-/

namespace ShardedSql

variable {σ τ : Type}

namespace Job

/-- The events of a task before its callback, for the first parameter sets. -/
def announcements
    (job : Job σ τ)
    (work : Work)
    (task sets : Nat) : List (Incident τ) :=
  (List.range sets).map fun set => .published (job.event work task set .before none)

/-- The events of a task after its callback, for the first parameter sets. -/
def reports
    (job : Job σ τ)
    (work : Work)
    (task : Nat)
    (outcome : Except String τ)
    (sets : Nat) : List (Incident τ) :=
  (List.range sets).map fun set => .published (job.outcomeEvent work task set outcome)

/-- All that a task does when its callback has a given outcome. -/
def block
    (job : Job σ τ)
    (work : Work)
    (task : Nat)
    (outcome : Except String τ) : List (Incident τ) :=
  job.announcements work task job.eventSets.length
    ++ .called task outcome :: job.reports work task outcome job.eventSets.length

/-- Whether the callback of a task gives an outcome on some state of its connection. -/
def Arises
    (job : Job σ τ)
    (work : Work)
    (task : Nat)
    (outcome : Except String τ) : Prop :=
  ∃ state, (job.callback work.unit (task == 0) state).1 = outcome

/-- The histories that a task can have at a stage, as long as its connection is sound. -/
inductive Traces
    (job : Job σ τ)
    (work : Work)
    (task : Nat) : TaskStage τ → List (Incident τ) → Prop where
  | listed : Traces job work task .listed []
  | queued : Traces job work task .queued []
  | waiting : Traces job work task .waiting []
  | announcing {set : Nat} (bound : set ≤ job.eventSets.length) :
      Traces job work task (.announcing set) (job.announcements work task set)
  | reporting {outcome : Except String τ} {set : Nat}
      (bound : set ≤ job.eventSets.length)
      (arises : job.Arises work task outcome) :
      Traces job work task (.reporting outcome set)
        (job.announcements work task job.eventSets.length
          ++ .called task outcome :: job.reports work task outcome set)
  | released {outcome : Except String τ} (arises : job.Arises work task outcome) :
      Traces job work task (.released (job.resultOf work outcome)) (job.block work task outcome)
  | finished {outcome : Except String τ} (arises : job.Arises work task outcome) :
      Traces job work task (.finished (job.resultOf work outcome)) (job.block work task outcome)

variable {job : Job σ τ} {work : Work} {task : Nat}

theorem announcements_succ (set : Nat) :
    job.announcements work task (set + 1) =
      job.announcements work task set ++ [.published (job.event work task set .before none)] := by
  simp [announcements, List.range_succ]

theorem reports_succ
    (outcome : Except String τ)
    (set : Nat) :
    job.reports work task outcome (set + 1) =
      job.reports work task outcome set
        ++ [.published (job.outcomeEvent work task set outcome)] := by
  simp [reports, List.range_succ]

/-- A turn on a sound connection carries the history of a task on. -/
theorem Traces.turn
    {connection : Connection σ}
    {stage : TaskStage τ}
    {turn : TaskTurn σ τ}
    {trace : List (Incident τ)}
    (traces : job.Traces work task stage trace)
    (turns : job.Turns work task connection stage turn)
    (sound : connection.isPoisoned = false) :
    job.Traces work task turn.stage (trace ++ turn.incident.toList) := by
  cases turns with
  | submit =>
      cases traces
      exact .queued
  | begin | engage =>
      cases traces
      exact .waiting
  | take =>
      cases traces
      exact .announcing (Nat.zero_le _)
  | refuse free poisoned => simp [sound] at poisoned
  | announce more =>
      cases traces
      rw [Option.toList_some, ← announcements_succ]
      exact .announcing more
  | @call set all =>
      cases traces with
      | announcing bound =>
          rw [Nat.le_antisymm bound all]
          exact .reporting (Nat.zero_le _) ⟨connection.state, rfl⟩
  | @report outcome set more =>
      cases traces with
      | reporting bound arises =>
          rw [Option.toList_some, List.append_assoc, List.cons_append, ← reports_succ]
          exact .reporting more arises
  | @release outcome set all =>
      cases traces with
      | reporting bound arises =>
          rw [Option.toList_none, List.append_nil, Nat.le_antisymm bound all]
          exact .released arises
  | finish =>
      cases traces with
      | released arises =>
          rw [Option.toList_none, List.append_nil]
          exact .finished arises

end Job

namespace Machine

variable {job : Job σ τ} {machine next : Machine σ τ}

/-- What a task has done so far. -/
def historyOf
    (machine : Machine σ τ)
    (task : Nat) : List (Incident τ) :=
  machine.history.filter fun incident => incident.task == task

namespace Advances

variable {task : Nat} {work : Work} {stage : TaskStage τ} {turn : TaskTurn σ τ}
variable (advances : Advances job machine next task work stage turn)
include advances

theorem current_next :
    next.stages[task]? = some turn.stage := by
  rw [advances.stages]
  exact List.getElem?_set_self (List.getElem?_eq_some_iff.mp advances.current).1

theorem getElem?_of_ne
    {other : Nat}
    (apart : other ≠ task) :
    next.stages[other]? = machine.stages[other]? := by
  rw [advances.stages]
  exact List.getElem?_set_ne fun same => apart same.symm

/-- What a task does is seen just where its doings are looked at. -/
theorem filter_history (chosen : Nat → Bool) :
    next.history.filter (fun incident => chosen incident.task) =
      machine.history.filter (fun incident => chosen incident.task)
        ++ if chosen task then turn.incident.toList else [] := by
  rw [advances.history, List.filter_append]
  congr 1
  split
  · rename_i seen
    exact List.filter_eq_self.mpr fun incident member => by
      rw [advances.turns.task_of_mem member, seen]
  · rename_i unseen
    exact List.filter_eq_nil_iff.mpr fun incident member => by
      rw [advances.turns.task_of_mem member]
      exact unseen

theorem historyOf_self :
    next.historyOf task = machine.historyOf task ++ turn.incident.toList := by
  have seen := advances.filter_history (· == task)
  rwa [if_pos (beq_self_eq_true task)] at seen

theorem historyOf_of_ne
    {other : Nat}
    (apart : other ≠ task) :
    next.historyOf other = machine.historyOf other := by
  have unseen := advances.filter_history (· == other)
  rwa [if_neg (by simpa using Ne.symm apart), List.append_nil] at unseen

theorem historyOf_of_silent
    (silent : turn.incident = none)
    (other : Nat) :
    next.historyOf other = machine.historyOf other := by
  by_cases same : other = task
  · rw [same, advances.historyOf_self, silent, Option.toList_none, List.append_nil]
  · exact advances.historyOf_of_ne same

end Advances

/-- Every task has done what its stage tells. -/
def Recorded (job : Job σ τ) (machine : Machine σ τ) : Prop :=
  ∀ ⦃task : Nat⦄ ⦃work : Work⦄ ⦃stage : TaskStage τ⦄,
    job.works[task]? = some work → machine.stages[task]? = some stage →
      job.Traces work task stage (machine.historyOf task)

theorem Recorded.advance
    {task : Nat}
    {work : Work}
    {stage : TaskStage τ}
    {turn : TaskTurn σ τ}
    (recorded : Recorded job machine)
    (advances : Advances job machine next task work stage turn)
    (sound : (machine.connections work.connection).isPoisoned = false) :
    Recorded job next := by
  intro other otherWork otherStage listed current
  by_cases same : other = task
  · subst other
    cases advances.listed.symm.trans listed
    cases advances.current_next.symm.trans current
    rw [advances.historyOf_self]
    exact (recorded listed advances.current).turn advances.turns sound
  · rw [advances.historyOf_of_ne same]
    exact recorded listed (advances.getElem?_of_ne same ▸ current)

/-- Whatever happens belongs to one of the tasks. -/
theorem Advances.task_lt_of_mem
    {task : Nat}
    {work : Work}
    {stage : TaskStage τ}
    {turn : TaskTurn σ τ}
    (advances : Advances job machine next task work stage turn)
    (owned : ∀ incident ∈ machine.history, incident.task < job.works.length) :
    ∀ incident ∈ next.history, incident.task < job.works.length := by
  intro incident member
  rw [advances.history] at member
  rcases List.mem_append.mp member with earlier | recent
  · exact owned incident earlier
  · rw [advances.turns.task_of_mem recent]
    exact (List.getElem?_eq_some_iff.mp advances.listed).1

end Machine

end ShardedSql
