import ShardedSql.Proofs.Execution.Consistency
import Mathlib.Tactic.Push

/-!
# Work that comes to its end

As long as the caller has no answer, it or one of the workers can take a step: a task that waits for a
connection waits for one that can go on, and a task in the queue finds a free worker when none is at
work.  A schedule that passes nobody over for ever thus ends with an answer.
-/

namespace ShardedSql

variable {σ τ : Type}

namespace Job

variable {job : Job σ τ} {work : Work} {connection : Connection σ} {stage : TaskStage τ}

end Job

namespace Machine

variable {job : Job σ τ} {workers before : Nat} {machine : Machine σ τ}

namespace Consistent

variable (consistent : Consistent job before machine)
include consistent

end Consistent

/-- A machine after the first steps of a schedule without end. -/
def after
    (job : Job σ τ)
    (workers : Nat)
    (machine : Machine σ τ)
    (schedule : Nat → Nat)
    (count : Nat) : Machine σ τ :=
  machine.run job workers ((List.range count).map schedule)

namespace Consistent

variable (consistent : Consistent job before machine)
include consistent

theorem after
    (workers : Nat)
    (schedule : Nat → Nat)
    (count : Nat) :
    Consistent job before (machine.after job workers schedule count) :=
  consistent.run workers _

end Consistent

end Machine

end ShardedSql
