import ShardedSql.Proofs.Execution.Histories
import Mathlib.Data.List.Nodup

/-!
# Tasks that share a connection

A connection is held by one task at a time, from before its first event until after its last one.  So
what happens on a connection are the whole blocks of its tasks, one after the other, in the order in
which they took it.
-/

namespace ShardedSql

variable {σ τ : Type}

namespace TaskStage

/-- Whether a task holds its connection. -/
def holdsConnection : TaskStage τ → Bool
  | .announcing _ | .reporting _ _ => true
  | .listed | .queued | .waiting | .released _ | .finished _ => false

/-- Whether a task has taken its connection, be it let go since or not. -/
def hasTaken : TaskStage τ → Bool
  | .announcing _ | .reporting _ _ | .released _ | .finished _ => true
  | .listed | .queued | .waiting => false

end TaskStage

namespace Job

/-- Whether a task runs on the connection with a number. -/
def runsOn
    (job : Job σ τ)
    (number task : Nat) : Bool :=
  job.works[task]?.any fun work => work.connection == number

variable {job : Job σ τ} {work : Work} {task : Nat} {connection : Connection σ}
variable {stage : TaskStage τ} {turn : TaskTurn σ τ} {trace : List (Incident τ)}

theorem runsOn_eq
    (listed : job.works[task]? = some work)
    (number : Nat) :
    job.runsOn number task = (work.connection == number) := by
  rw [runsOn, listed, Option.any_some]

theorem exists_work_of_runsOn
    {number : Nat}
    (runs : job.runsOn number task = true) :
    ∃ work, job.works[task]? = some work ∧ work.connection = number := by
  simpa [runsOn, Option.any_eq_true] using runs

/-- A turn changes the holder of a connection just when its task takes it or lets it go. -/
theorem Turns.holds_iff
    (turns : job.Turns work task connection stage turn)
    (held : stage.holdsConnection = true ↔ connection.holder = some task) :
    (turn.stage.holdsConnection = true ↔ turn.connection.holder = some task)
      ∧ ∀ other, other ≠ task →
        (turn.connection.holder = some other ↔ connection.holder = some other) := by
  cases turns with
  | submit | begin | engage | refuse | announce | call | report | finish =>
      exact ⟨held, fun _ _ => Iff.rfl⟩
  | take free =>
      refine ⟨iff_of_true rfl rfl, fun other apart => ?_⟩
      simp [free, Ne.symm apart]
  | release =>
      have holder := held.mp rfl
      refine ⟨iff_of_false Bool.false_ne_true (by simp), fun other apart => ?_⟩
      simp [holder, Ne.symm apart]

/-- A turn takes the connection, or it neither takes it nor does anything without holding it. -/
theorem Turns.takes_or_keeps
    (turns : job.Turns work task connection stage turn)
    (sound : connection.isPoisoned = false) :
    (stage = .waiting ∧ turn.stage.hasTaken = true ∧ turn.incident = none
        ∧ connection.holder = none)
      ∨ (turn.stage.hasTaken = stage.hasTaken
        ∧ (turn.stage.holdsConnection = true → stage.holdsConnection = true)
        ∧ (turn.incident = none ∨ stage.holdsConnection = true)) := by
  cases turns with
  | take free => exact .inl ⟨rfl, rfl, rfl, free⟩
  | refuse _ poisoned => simp [sound] at poisoned
  | submit | begin | engage | finish => exact .inr ⟨rfl, id, .inl rfl⟩
  | release => exact .inr ⟨rfl, fun _ => rfl, .inl rfl⟩
  | announce | call | report => exact .inr ⟨rfl, fun _ => rfl, .inr rfl⟩

theorem Traces.eq_nil_of_waiting
    (traces : job.Traces work task .waiting trace) :
    trace = [] := by
  cases traces
  rfl

end Job

namespace Machine

variable {job : Job σ τ} {machine next : Machine σ τ}

/-- The connections are sound, and held by the tasks that are at work on them. -/
structure Held (job : Job σ τ) (machine : Machine σ τ) : Prop where
  sound : ∀ {task : Nat} {work : Work}, job.works[task]? = some work →
    (machine.connections work.connection).isPoisoned = false
  holds_iff : ∀ {task : Nat} {work : Work} {stage : TaskStage τ},
    job.works[task]? = some work → machine.stages[task]? = some stage →
      (stage.holdsConnection = true ↔ (machine.connections work.connection).holder = some task)
  runsOn_of_holder : ∀ {task holder : Nat} {work : Work}, job.works[task]? = some work →
    (machine.connections work.connection).holder = some holder →
      job.runsOn work.connection holder = true

section Advance

variable {task : Nat} {work : Work} {stage : TaskStage τ} {turn : TaskTurn σ τ}

theorem Held.advance
    (held : Held job machine)
    (advances : Advances job machine next task work stage turn) :
    Held job next := by
  have holds := held.holds_iff advances.listed advances.current
  obtain ⟨turnHolds, others⟩ := advances.turns.holds_iff holds
  refine { sound := ?_, holds_iff := ?_, runsOn_of_holder := ?_ }
  · intro other otherWork listed
    rw [advances.connections]
    split
    · rw [advances.turns.isPoisoned_eq]
      exact held.sound advances.listed
    · exact held.sound listed
  · intro other otherWork otherStage listed current
    rw [advances.connections]
    by_cases same : other = task
    · subst other
      cases advances.listed.symm.trans listed
      cases advances.current_next.symm.trans current
      rw [if_pos rfl]
      exact turnHolds
    · have current := advances.getElem?_of_ne same ▸ current
      rw [held.holds_iff listed current]
      split
      · rename_i shared
        rw [others other same, shared]
      · rfl
  · intro other holder otherWork listed holderEq
    rw [advances.connections] at holderEq
    split at holderEq
    · rename_i shared
      by_cases same : holder = task
      · rw [same, Job.runsOn_eq advances.listed, shared, beq_self_eq_true]
      · rw [others holder same, ← shared] at holderEq
        exact held.runsOn_of_holder listed holderEq
    · exact held.runsOn_of_holder listed holderEq

end Advance

/-- What has happened on the connection with a number. -/
def historyOn
    (job : Job σ τ)
    (machine : Machine σ τ)
    (number : Nat) : List (Incident τ) :=
  machine.history.filter fun incident => job.runsOn number incident.task

/-- The tasks that have taken a connection, in their order, have done so one after the other. -/
structure Separated
    (job : Job σ τ)
    (machine : Machine σ τ)
    (number : Nat)
    (order : List Nat) : Prop where
  nodup : order.Nodup
  mem_iff : ∀ {task : Nat}, task ∈ order ↔ job.runsOn number task = true
    ∧ ∃ stage, machine.stages[task]? = some stage ∧ stage.hasTaken = true
  history_eq : machine.historyOn job number = order.flatMap machine.historyOf
  last : ∀ {task : Nat} {stage : TaskStage τ}, job.runsOn number task = true →
    machine.stages[task]? = some stage → stage.holdsConnection = true →
      ∃ earlier, order = earlier ++ [task]

namespace Separated

variable {task number : Nat} {work : Work} {stage : TaskStage τ} {turn : TaskTurn σ τ}
variable {order : List Nat}

theorem historyOn_next
    (advances : Advances job machine next task work stage turn)
    (number : Nat) :
    next.historyOn job number = machine.historyOn job number
      ++ if job.runsOn number task then turn.incident.toList else [] :=
  advances.filter_history (job.runsOn number)

/-- The stages of the tasks in an order do not matter as long as they keep what they have taken. -/
theorem mem_iff_next
    (separated : Separated job machine number order)
    (advances : Advances job machine next task work stage turn)
    (keeps : job.runsOn number task = true → turn.stage.hasTaken = stage.hasTaken)
    {other : Nat} :
    other ∈ order ↔ job.runsOn number other = true
      ∧ ∃ stage, next.stages[other]? = some stage ∧ stage.hasTaken = true := by
  rw [separated.mem_iff]
  refine and_congr_right fun runs => ?_
  by_cases same : other = task
  · subst other
    simp [advances.current, advances.current_next, keeps runs]
  · rw [advances.getElem?_of_ne same]

/-- A task that goes on elsewhere changes nothing on a connection. -/
theorem elsewhere
    (separated : Separated job machine number order)
    (advances : Advances job machine next task work stage turn)
    (runs : job.runsOn number task = false) :
    Separated job next number order where
  nodup := separated.nodup
  mem_iff := separated.mem_iff_next advances (by simp [runs])
  history_eq := by
    rw [historyOn_next advances, separated.history_eq, runs]
    simp only [Bool.false_eq_true, if_false, List.append_nil]
    refine List.flatMap_congr fun other member => ?_
    refine (advances.historyOf_of_ne ?_).symm
    rintro rfl
    have taken := (separated.mem_iff.mp member).1
    rw [runs] at taken
    cases taken
  last := by
    intro other otherStage otherRuns current holds
    have apart : other ≠ task := by
      rintro rfl
      simp [runs] at otherRuns
    exact separated.last otherRuns (advances.getElem?_of_ne apart ▸ current) holds

/-- A task that keeps what it has taken is the last of its connection, if it does anything. -/
theorem keep
    (separated : Separated job machine number order)
    (advances : Advances job machine next task work stage turn)
    (runs : job.runsOn number task = true)
    (keeps : turn.stage.hasTaken = stage.hasTaken)
    (stays : turn.stage.holdsConnection = true → stage.holdsConnection = true)
    (silent : turn.incident = none ∨ stage.holdsConnection = true) :
    Separated job next number order where
  nodup := separated.nodup
  mem_iff := separated.mem_iff_next advances fun _ => keeps
  history_eq := by
    rw [historyOn_next advances, separated.history_eq, if_pos runs]
    rcases silent with none | holds
    · rw [none, Option.toList_none, List.append_nil]
      exact List.flatMap_congr fun other _ => (advances.historyOf_of_silent none other).symm
    · obtain ⟨earlier, rfl⟩ := separated.last runs advances.current holds
      have absent : task ∉ earlier := fun member =>
        List.disjoint_of_nodup_append separated.nodup member (List.mem_singleton_self task)
      have before : earlier.flatMap next.historyOf = earlier.flatMap machine.historyOf :=
        List.flatMap_congr fun other member =>
          advances.historyOf_of_ne fun same => absent (same ▸ member)
      simp only [List.flatMap_append, List.flatMap_singleton, List.append_assoc]
      rw [before, advances.historyOf_self]
  last := by
    intro other otherStage otherRuns current holds
    by_cases same : other = task
    · subst other
      cases advances.current_next.symm.trans current
      exact separated.last runs advances.current (stays holds)
    · exact separated.last otherRuns (advances.getElem?_of_ne same ▸ current) holds

/-- A task that takes a free connection comes after all that have taken it before. -/
theorem take
    (separated : Separated job machine number order)
    (advances : Advances job machine next task work .waiting turn)
    (held : Held job machine)
    (recorded : Recorded job machine)
    (runs : job.runsOn number task = true)
    (taken : turn.stage.hasTaken = true)
    (silent : turn.incident = none)
    (free : (machine.connections work.connection).holder = none) :
    Separated job next number (order ++ [task]) := by
  have absent : task ∉ order := by
    intro member
    obtain ⟨-, stage, current, taken⟩ := separated.mem_iff.mp member
    cases advances.current.symm.trans current
    cases taken
  have same := advances.historyOf_of_silent silent
  have empty : machine.historyOf task = [] :=
    (recorded advances.listed advances.current).eq_nil_of_waiting
  refine { nodup := ?_, mem_iff := ?_, history_eq := ?_, last := ?_ }
  · exact List.nodup_append_comm.mpr (List.nodup_cons.mpr ⟨absent, separated.nodup⟩)
  · intro other
    rw [List.mem_append, List.mem_singleton, separated.mem_iff]
    by_cases same : other = task
    · subst other
      simp [runs, taken, advances.current_next]
    · rw [advances.getElem?_of_ne same, or_iff_left same]
  · rw [historyOn_next advances, separated.history_eq, silent, Option.toList_none, ite_self,
      List.append_nil, List.flatMap_append, List.flatMap_singleton, same, empty, List.append_nil]
    exact List.flatMap_congr fun other _ => (same other).symm
  · intro other otherStage otherRuns current holds
    by_cases same : other = task
    · exact ⟨order, by rw [same]⟩
    · obtain ⟨otherWork, listed, shared⟩ := Job.exists_work_of_runsOn otherRuns
      have holder := (held.holds_iff listed (advances.getElem?_of_ne same ▸ current)).mp holds
      obtain ⟨_, listed', here⟩ := Job.exists_work_of_runsOn runs
      cases advances.listed.symm.trans listed'
      rw [shared, ← here, free] at holder
      cases holder

theorem advance
    (separated : Separated job machine number order)
    (advances : Advances job machine next task work stage turn)
    (held : Held job machine)
    (recorded : Recorded job machine) :
    ∃ order, Separated job next number order := by
  cases runs : job.runsOn number task with
  | false => exact ⟨order, separated.elsewhere advances runs⟩
  | true =>
      rcases advances.turns.takes_or_keeps (held.sound advances.listed) with
        ⟨rfl, taken, silent, free⟩ | ⟨keeps, stays, silent⟩
      · exact ⟨order ++ [task], separated.take advances held recorded runs taken silent free⟩
      · exact ⟨order, separated.keep advances runs keeps stays silent⟩

end Separated

end Machine

end ShardedSql
