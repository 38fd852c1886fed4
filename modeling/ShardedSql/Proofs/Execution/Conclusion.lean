import ShardedSql.Proofs.Execution.Progress
import ShardedSql.Proofs.Success
import Mathlib.Data.List.OfFn

/-!
# How a job ends

Whatever the schedule, when the caller has its answer every task has done its whole block, nothing is
held or counted any more, and the answer is put together from the outcomes in the order of the units.
-/

namespace ShardedSql

variable {σ τ : Type}

namespace Job

variable {job : Job σ τ} {work : Work} {outcome : Except String τ}

end Job

namespace Machine

variable {job : Job σ τ} {before : Nat} {machine : Machine σ τ}

section Results

variable {outcomes : List (Except String τ)}
variable (stages : ∀ (task : Nat) (work : Work) (outcome : Except String τ),
  job.works[task]? = some work → outcomes[task]? = some outcome →
    machine.stages[task]? = some (.finished (job.resultOf work outcome)))
include stages

end Results

end Machine

namespace Executor

end Executor

end ShardedSql
