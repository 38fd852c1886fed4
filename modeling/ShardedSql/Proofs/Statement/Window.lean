import ShardedSql.Proofs.Parser.Bounds
import ShardedSql.Proofs.Success
import ShardedSql.Statement.Limit

/-!
# Windows of a result

A bound of a window is given by a literal or by a parameter.  Two windows are the same if their bounds are,
in whatever way these are given.  Widening a window changes no parameter but those of its bounds, and none
at all when it fails.
-/

namespace ShardedSql

namespace LimitOperand

variable {operand : LimitOperand} {parameters : List Value} {value : Int64}

/-- The number that is given for an operand. -/
def number?
    (operand : LimitOperand)
    (parameters : List Value) : Option Int64 :=
  match operand with
  | .literal value => some value
  | .placeholder index => (parameters[index]?).bind Value.nearestInteger?

theorem lt_length_of_number?
    {index : Nat}
    (reads : (LimitOperand.placeholder index).number? parameters = some value) :
    index < parameters.length := by
  obtain ⟨bound, isBound, -⟩ := Option.bind_eq_some_iff.mp reads
  exact (List.getElem?_eq_some_iff.mp isBound).1

theorem resolve_eq_ok :
    operand.resolve parameters = .ok value ↔ operand.number? parameters = some value ∧ 0 ≤ value := by
  have judged : ∀ number : Int64,
      ((if number < 0 then .error .negativeLimit else .ok number : Except Error Int64) = .ok value) ↔
        number = value ∧ 0 ≤ value := by
    intro number
    split
    next isNegative =>
      apply iff_of_false (by simp)
      rintro ⟨rfl, isThere⟩
      exact absurd isNegative (Int64.not_lt.mpr isThere)
    next notNegative =>
      rw [Except.ok.injEq]
      refine ⟨?_, And.left⟩
      rintro rfl
      exact ⟨rfl, Int64.not_lt.mp notNegative⟩
  cases operand with
  | literal number =>
      rw [number?, Option.some_inj]
      exact judged number
  | placeholder index =>
      rw [number?, resolve]
      cases (parameters[index]?).bind Value.nearestInteger? with
      | none =>
          apply iff_of_false
          · intro isOk
            cases isOk
          · simp
      | some number =>
          rw [Option.some_inj]
          exact judged number

end LimitOperand

namespace Limit

variable {limit : Limit} {parameters : List Value}

/-- What is given for a bound: nothing, or a number. -/
inductive Gives
    (limit : Limit)
    (parameters : List Value)
    (isRowCount : Bool) : Option Int64 → Prop where
  | nothing (noBound : limit.bound? isRowCount = none) : Gives limit parameters isRowCount none
  | number
      {operand : LimitOperand}
      {value : Int64}
      (isBound : limit.bound? isRowCount = some operand)
      (reads : operand.number? parameters = some value) :
      Gives limit parameters isRowCount (some value)

theorem gives_iff {isRowCount : Bool} {given : Option Int64} :
    limit.Gives parameters isRowCount given ↔
      (limit.bound? isRowCount).map (·.number? parameters) = given.map some := by
  constructor
  · intro gives
    cases gives with
    | nothing noBound =>
        rw [noBound]
        rfl
    | number isBound reads =>
        rw [isBound, Option.map_some, reads]
        rfl
  · intro same
    cases given with
    | none => exact .nothing (Option.map_eq_none_iff.mp same)
    | some value =>
        obtain ⟨operand, isBound, reads⟩ := Option.map_eq_some_iff.mp same
        exact .number isBound reads

/-- A window of numbers that are not negative: the rows to pass over, and the rows to deliver if they are
limited. -/
structure Spans
    (limit : Limit)
    (parameters : List Value)
    (offset : Int64)
    (rowCount : Option Int64) : Prop where
  offset : limit.offsetValue parameters = .ok offset
  rowCount : limit.rowCountValue parameters = .ok rowCount

theorem gives_false_iff {given : Option Int64} :
    limit.Gives parameters false given ↔
      limit.offset.map (·.number? parameters) = given.map some :=
  gives_iff

theorem gives_true_iff {given : Option Int64} :
    limit.Gives parameters true given ↔
      limit.rowCount.map (·.number? parameters) = given.map some :=
  gives_iff

theorem offsetValue_eq_ok {offset : Int64} :
    limit.offsetValue parameters = .ok offset ↔
      (∃ given, limit.Gives parameters false given ∧ given.getD 0 = offset) ∧ 0 ≤ offset := by
  simp only [gives_false_iff, offsetValue]
  cases limit.offset with
  | none =>
      constructor
      · rintro ⟨⟩
        exact ⟨⟨none, rfl, rfl⟩, by decide⟩
      · rintro ⟨⟨given, isGiven, rfl⟩, -⟩
        rw [Option.map_eq_none_iff.mp isGiven.symm]
        rfl
  | some operand =>
      simp only [LimitOperand.resolve_eq_ok]
      refine and_congr_left fun _ => ?_
      constructor
      · intro reads
        exact ⟨some offset, congrArg some reads, rfl⟩
      · rintro ⟨given, isGiven, rfl⟩
        obtain ⟨value, rfl, reads⟩ := Option.map_eq_some_iff.mp isGiven.symm
        exact reads.symm

theorem rowCountValue_eq_ok {rowCount : Option Int64} :
    limit.rowCountValue parameters = .ok rowCount ↔
      limit.Gives parameters true rowCount ∧ ∀ count, rowCount = some count → 0 ≤ count := by
  simp only [gives_true_iff, rowCountValue]
  cases limit.rowCount with
  | none => cases rowCount <;> simp
  | some operand =>
      rw [Success.map_eq_ok]
      simp only [LimitOperand.resolve_eq_ok]
      constructor
      · rintro ⟨value, ⟨reads, nonneg⟩, rfl⟩
        refine ⟨congrArg some reads, ?_⟩
        rintro _ ⟨⟩
        exact nonneg
      · rintro ⟨isGiven, nonneg⟩
        obtain ⟨value, rfl, reads⟩ := Option.map_eq_some_iff.mp isGiven.symm
        exact ⟨value, ⟨reads.symm, nonneg value rfl⟩, rfl⟩

theorem spans_iff {offset : Int64} {rowCount : Option Int64} :
    limit.Spans parameters offset rowCount ↔
      ((∃ given, limit.Gives parameters false given ∧ given.getD 0 = offset) ∧ 0 ≤ offset) ∧
        limit.Gives parameters true rowCount ∧ ∀ count, rowCount = some count → 0 ≤ count := by
  rw [← offsetValue_eq_ok, ← rowCountValue_eq_ok]
  exact ⟨fun spans => ⟨spans.offset, spans.rowCount⟩, fun both => ⟨both.1, both.2⟩⟩

/-- The parameters of a window that begins with the first row and is as long as given. -/
def rebound
    (limit : Limit)
    (fetchAll : Bool)
    (offset : Int64)
    (rowCount : Option Int64)
    (parameters : List Value) : List Value :=
  let started := bindOperand limit.offset 0 parameters
  match rowCount with
  | some count => bindOperand limit.rowCount (limit.widened fetchAll offset count) started
  | none => started

theorem run_widenInPlace
    (limit : Limit)
    (fetchAll : Bool)
    (parameters : List Value) :
    (limit.widenInPlace fetchAll).run.run parameters =
      match limit.offsetValue parameters, limit.rowCountValue parameters with
      | .ok offset, .ok rowCount => (.ok (), limit.rebound fetchAll offset rowCount parameters)
      | .ok _, .error error => (.error error, parameters)
      | .error error, _ => (.error error, parameters) := by
  let rest (offset : Int64) (rowCount : Option Int64) : ExceptT Error (StateM (List Value)) Unit := do
    modify (bindOperand limit.offset 0)
    match rowCount with
    | some count => modify (bindOperand limit.rowCount (limit.widened fetchAll offset count))
    | none => pure ()
  have started : (limit.widenInPlace fetchAll).run.run parameters =
      ((limit.offsetValue parameters >>= fun offset =>
        limit.rowCountValue parameters >>= fun rowCount => rest offset rowCount) :
          ExceptT Error (StateM (List Value)) Unit).run.run parameters := rfl
  rw [started]
  cases limit.offsetValue parameters with
  | error error => rfl
  | ok offset =>
      cases limit.rowCountValue parameters with
      | error error => rfl
      | ok rowCount => cases rowCount <;> rfl

theorem widenParameters_eq_ok
    {fetchAll : Bool}
    {widened : List Value} :
    limit.widenParameters parameters fetchAll = .ok widened ↔
      ∃ offset rowCount, limit.Spans parameters offset rowCount ∧
        widened = limit.rebound fetchAll offset rowCount parameters := by
  unfold widenParameters
  rw [run_widenInPlace]
  cases isOffset : limit.offsetValue parameters with
  | error error =>
      refine iff_of_false nofun ?_
      rintro ⟨_, _, spans, -⟩
      cases isOffset.symm.trans spans.offset
  | ok offset =>
      cases isRowCount : limit.rowCountValue parameters with
      | error error =>
          refine iff_of_false nofun ?_
          rintro ⟨_, _, spans, -⟩
          cases isRowCount.symm.trans spans.rowCount
      | ok rowCount =>
          constructor
          · intro ran
            cases ran
            exact ⟨offset, rowCount, ⟨isOffset, isRowCount⟩, rfl⟩
          · rintro ⟨_, _, ⟨sameOffset, sameRowCount⟩, rfl⟩
            cases isOffset.symm.trans sameOffset
            cases isRowCount.symm.trans sameRowCount
            rfl

theorem getElem?_bindOperand
    (operand : Option LimitOperand)
    (value : Int64)
    (parameters : List Value)
    (index : Nat) :
    (bindOperand operand value parameters)[index]? =
      if operand = some (.placeholder index) ∧ index < parameters.length then
        some (.integer value)
      else
        parameters[index]? := by
  rcases operand with _ | _ | bound
  · simp [bindOperand]
  · simp [bindOperand, LimitOperand.index?]
  · rw [bindOperand, Option.bind_some, LimitOperand.index?, List.getElem?_set]
    simp only [Option.some_inj, LimitOperand.placeholder.injEq]
    by_cases isBound : bound = index
    · subst isBound
      by_cases isThere : bound < parameters.length
      · simp [isThere]
      · simp [isThere]
    · simp [isBound]

theorem length_bindOperand
    (operand : Option LimitOperand)
    (value : Int64)
    (parameters : List Value) :
    (bindOperand operand value parameters).length = parameters.length := by
  unfold bindOperand
  split
  · exact List.length_set
  · rfl

section Rebound

variable (limit : Limit) (fetchAll : Bool) (offset : Int64) (rowCount : Option Int64)
variable (parameters : List Value)

theorem length_rebound :
    (limit.rebound fetchAll offset rowCount parameters).length = parameters.length := by
  unfold rebound
  split
  · rw [length_bindOperand, length_bindOperand]
  · exact length_bindOperand _ _ _

theorem getElem?_rebound_of_ne
    {index : Nat}
    (isOther : ∀ isRowCount, limit.bound? isRowCount ≠ some (.placeholder index)) :
    (limit.rebound fetchAll offset rowCount parameters)[index]? = parameters[index]? := by
  have noOffset : limit.offset ≠ some (.placeholder index) := isOther false
  have noRowCount : limit.rowCount ≠ some (.placeholder index) := isOther true
  unfold rebound
  split
  · rw [getElem?_bindOperand, if_neg fun bound => noRowCount bound.1, getElem?_bindOperand,
      if_neg fun bound => noOffset bound.1]
  · rw [getElem?_bindOperand, if_neg fun bound => noOffset bound.1]

variable {limit fetchAll offset rowCount parameters} {index : Nat}

theorem getElem?_rebound_offset
    (isOffset : limit.offset = some (.placeholder index))
    (isOther : limit.rowCount ≠ some (.placeholder index))
    (isThere : index < parameters.length) :
    (limit.rebound fetchAll offset rowCount parameters)[index]? = some (.integer 0) := by
  unfold rebound
  split
  · rw [getElem?_bindOperand, if_neg fun bound => isOther bound.1, getElem?_bindOperand,
      if_pos ⟨isOffset, isThere⟩]
  · rw [getElem?_bindOperand, if_pos ⟨isOffset, isThere⟩]

theorem getElem?_rebound_rowCount
    {count : Int64}
    (isRowCount : limit.rowCount = some (.placeholder index))
    (isThere : index < parameters.length) :
    (limit.rebound fetchAll offset (some count) parameters)[index]? =
      some (.integer (limit.widened fetchAll offset count)) := by
  rw [rebound, getElem?_bindOperand, if_pos ⟨isRowCount, by rwa [length_bindOperand]⟩]

end Rebound

/-- What an attempt to widen a window in place leaves of the parameters. -/
structure Leaves
    (limit : Limit)
    (before : List Value)
    (outcome : Except Error Unit)
    (after : List Value) : Prop where
  length : after.length = before.length
  others : ∀ index, (∀ isRowCount, limit.bound? isRowCount ≠ some (.placeholder index)) →
    after[index]? = before[index]?
  failed : ∀ error, outcome = .error error → after = before

theorem leaves_widenInPlace
    (limit : Limit)
    (fetchAll : Bool)
    (before : List Value) :
    limit.Leaves before ((limit.widenInPlace fetchAll).run.run before).1
      ((limit.widenInPlace fetchAll).run.run before).2 := by
  rw [run_widenInPlace]
  split
  · refine ⟨length_rebound .., fun index isOther => ?_, nofun⟩
    exact getElem?_rebound_of_ne _ _ _ _ _ isOther
  · exact ⟨rfl, fun _ _ => rfl, fun _ _ => rfl⟩
  · exact ⟨rfl, fun _ _ => rfl, fun _ _ => rfl⟩

end Limit

/-- Whether two bounds are the same number, each with its parameters: a literal may also be the placeholder
of a parameter that is this integer. -/
inductive SameBound
    (first second : List Value) : Option LimitOperand → Option LimitOperand → Prop where
  | absent : SameBound first second none none
  | literals (value : Int64) : SameBound first second (some (.literal value)) (some (.literal value))
  | placeholders
      {index other : Nat}
      (same : first[index]? = second[other]?) :
      SameBound first second (some (.placeholder index)) (some (.placeholder other))
  | bound
      {value : Int64}
      {index : Nat}
      (isBound : second[index]? = some (.integer value)) :
      SameBound first second (some (.literal value)) (some (.placeholder index))
  | unbound
      {value : Int64}
      {index : Nat}
      (isBound : first[index]? = some (.integer value)) :
      SameBound first second (some (.placeholder index)) (some (.literal value))

namespace SameBound

variable {first second : List Value} {bound other : Option LimitOperand}

theorem map_const
    {α : Type}
    (same : SameBound first second bound other)
    (value : α) :
    (bound.map fun _ => value) = other.map fun _ => value := by
  cases same <;> rfl

theorem number?_eq (same : SameBound first second bound other) :
    bound.map (·.number? first) = other.map (·.number? second) := by
  cases same with
  | absent => rfl
  | literals => rfl
  | placeholders same => simp only [Option.map_some, LimitOperand.number?, same]
  | bound isBound =>
      simp only [Option.map_some, LimitOperand.number?, isBound]
      rfl
  | unbound isBound =>
      simp only [Option.map_some, LimitOperand.number?, isBound]
      rfl

end SameBound

namespace Limit

/-- Whether two windows are the same, each with its parameters. -/
structure Alike
    (limit other : Limit)
    (first second : List Value) : Prop where
  offset : SameBound first second limit.offset other.offset
  rowCount : SameBound first second limit.rowCount other.rowCount
  counts : limit.countsFromOffset = other.countsFromOffset

variable {limit other : Limit} {first second : List Value}

namespace Alike

variable (alike : limit.Alike other first second)

include alike

theorem bound (isRowCount : Bool) :
    SameBound first second (limit.bound? isRowCount) (other.bound? isRowCount) := by
  cases isRowCount with
  | false => exact alike.offset
  | true => exact alike.rowCount

theorem gives_iff {isRowCount : Bool} {given : Option Int64} :
    limit.Gives first isRowCount given ↔ other.Gives second isRowCount given := by
  rw [Limit.gives_iff, Limit.gives_iff, (alike.bound isRowCount).number?_eq]

end Alike

theorem Alike.spans_iff
    (alike : limit.Alike other first second)
    {offset : Int64}
    {rowCount : Option Int64} :
    limit.Spans first offset rowCount ↔ other.Spans second offset rowCount := by
  rw [Limit.spans_iff, Limit.spans_iff]
  simp only [alike.gives_iff]

end Limit

end ShardedSql
