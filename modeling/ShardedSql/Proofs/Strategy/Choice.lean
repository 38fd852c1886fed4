import ShardedSql.Proofs.Strategy.Remainder

/-!
# Choices that admit a number

A choice of values that admits an integer leads to the target of this integer, whichever form it
has.  The one exception is a range that begins at the smallest integer, under a modulus beyond the
signed integers.
-/

namespace ShardedSql

namespace ValueChoice

/-- Whether an integer is one of the values of a choice. -/
def Admits
    (choice : ValueChoice)
    (number : Int64) : Prop :=
  match choice with
  | .single value => value.toInteger? = some number
  | .list values => ∃ value ∈ values, value.toInteger? = some number
  | .range lower upper =>
      ∃ first last : Int64, lower.toInteger? = some first ∧ upper.toInteger? = some last ∧
        first.toInt ≤ number.toInt ∧ number.toInt ≤ last.toInt

/-- Whether a choice is a single value that stands for an integer. -/
def IsExactly
    (choice : ValueChoice)
    (number : Int64) : Prop :=
  ∃ value, choice = .single value ∧ value.toInteger? = some number

/-- Whether the made-up targets of a choice leave out the one of a number: the modulus lies beyond
the signed integers, the choice is a range from the smallest integer on, and the number leaves
another remainder than that integer. -/
def LeavesOut
    (choice : ValueChoice)
    (modulus : UInt64)
    (number : Int64) : Prop :=
  modulus.toInt64.toInt < 0 ∧
    (∃ lower upper, choice = .range lower upper ∧
      lower.toInteger? = some (Int64.ofInt Integer.least)) ∧
    number.toInt % modulus.toInt64.toInt ≠ Integer.least % modulus.toInt64.toInt

end ValueChoice

namespace Algorithm

theorem chooseSingle_moduloChoice_chosen
    {modulus : Option UInt64}
    {targets : List String}
    {value : ShardingValue}
    {names : List String}
    (succeeded : chooseSingle (moduloChoice modulus) targets value = .ok names)
    {name : String}
    (member : name ∈ names) :
    Remainder.IsChosen targets name := by
  unfold chooseSingle at succeeded
  split at succeeded
  next only _ =>
    obtain ⟨target, targetOk, rfl⟩ := Success.map_eq_ok.mp succeeded
    rw [List.mem_singleton.mp member]
    exact Remainder.isChosen_of_target targetOk
  next values _ =>
    obtain ⟨_, _, targetOk⟩ := Success.exists_input_of_mem succeeded member
    exact Remainder.isChosen_of_target targetOk
  next lower upper _ =>
    split at succeeded
    next first last _ _ =>
      have collected := Remainder.collected_of_collect succeeded
      rcases collected.sources name member with early | ⟨_, _, source⟩
      · simp at early
      · exact Remainder.isChosen_of_target source
    next => simp at succeeded

/-- A choice among listed targets reaches the target of every number it admits. -/
theorem mem_chooseSingle_moduloChoice
    {modulus : Option UInt64}
    {targets : List String}
    {value : ShardingValue}
    {names : List String}
    (succeeded : chooseSingle (moduloChoice modulus) targets value = .ok names)
    {number : Int64}
    (admits : value.choice.Admits number)
    {target : String}
    (targetOk : Remainder.target modulus targets (.integer number) = .ok target) :
    target ∈ names := by
  unfold chooseSingle at succeeded
  split at succeeded
  next only isSingle =>
    rw [isSingle] at admits
    obtain ⟨other, otherOk, rfl⟩ := Success.map_eq_ok.mp succeeded
    have same : Remainder.target modulus targets only = .ok target :=
      (Remainder.target_eq_ok_iff admits).mpr targetOk
    have equal : other = target := Except.ok.inj (otherOk.symm.trans same)
    simp [equal]
  next values isList =>
    rw [isList] at admits
    obtain ⟨member, memberMem, isNumber⟩ := admits
    obtain ⟨other, otherMem, otherOk⟩ := Success.exists_output_of_mem succeeded memberMem
    have same : Remainder.target modulus targets member = .ok target :=
      (Remainder.target_eq_ok_iff isNumber).mpr targetOk
    have equal : other = target := Except.ok.inj (otherOk.symm.trans same)
    exact equal ▸ otherMem
  next lower upper isRange =>
    rw [isRange] at admits
    obtain ⟨first, last, isFirst, isLast, lowerLe, leUpper⟩ := admits
    rw [isFirst, isLast] at succeeded
    exact Remainder.mem_rangeTargets lowerLe leUpper succeeded targetOk

theorem chooseSingle_dynamicModuloChoice_made
    {stem : String}
    {modulus : UInt64}
    {targets : List String}
    {value : ShardingValue}
    {names : List String}
    (succeeded : chooseSingle (dynamicModuloChoice stem modulus) targets value = .ok names)
    {name : String}
    (member : name ∈ names) :
    ∃ number : Int64, name = stem ++ toString (number.toInt % modulus.toInt64.toInt) := by
  unfold chooseSingle at succeeded
  split at succeeded
  next only _ =>
    obtain ⟨target, targetOk, rfl⟩ := Success.map_eq_ok.mp succeeded
    obtain ⟨number, _, made⟩ := Remainder.dynamicTarget_eq_ok targetOk
    exact ⟨number, (List.mem_singleton.mp member).trans made⟩
  next values _ =>
    obtain ⟨_, _, targetOk⟩ := Success.exists_input_of_mem succeeded member
    obtain ⟨number, _, made⟩ := Remainder.dynamicTarget_eq_ok targetOk
    exact ⟨number, made⟩
  next lower upper _ =>
    split at succeeded
    next first last _ _ =>
      change Remainder.dynamicRangeTargets stem modulus first last = .ok names at succeeded
      unfold Remainder.dynamicRangeTargets at succeeded
      split at succeeded
      next => simp at succeeded
      next =>
        have collected := Remainder.collected_of_collect succeeded
        rcases collected.sources name member with early | ⟨_, _, source⟩
        · simp at early
        · obtain ⟨number, _, made⟩ := Remainder.dynamicTarget_eq_ok source
          exact ⟨number, made⟩
    next => simp at succeeded

/-- A choice of made-up targets reaches the target of a number it admits, unless it leaves the
number out. -/
theorem mem_chooseSingle_dynamicModuloChoice_iff
    {stem : String}
    {modulus : UInt64}
    (nonzero : modulus ≠ 0)
    {targets : List String}
    {value : ShardingValue}
    {names : List String}
    (succeeded : chooseSingle (dynamicModuloChoice stem modulus) targets value = .ok names)
    (reached : names ≠ [])
    {number : Int64}
    (admits : value.choice.Admits number) :
    stem ++ toString (number.toInt % modulus.toInt64.toInt) ∈ names ↔
      ¬ value.choice.LeavesOut modulus number := by
  unfold chooseSingle at succeeded
  split at succeeded
  next only isSingle =>
    rw [isSingle] at admits
    obtain ⟨target, targetOk, rfl⟩ := Success.map_eq_ok.mp succeeded
    obtain ⟨other, isOther, rfl⟩ := Remainder.dynamicTarget_eq_ok targetOk
    have equal : other = number := Option.some.inj (isOther.symm.trans admits)
    simp [equal, isSingle, ValueChoice.LeavesOut]
  next values isList =>
    rw [isList] at admits
    obtain ⟨member, memberMem, isNumber⟩ := admits
    obtain ⟨target, targetMem, targetOk⟩ := Success.exists_output_of_mem succeeded memberMem
    obtain ⟨other, isOther, rfl⟩ := Remainder.dynamicTarget_eq_ok targetOk
    have equal : other = number := Option.some.inj (isOther.symm.trans isNumber)
    rw [equal] at targetMem
    have included : ¬ value.choice.LeavesOut modulus number := by
      simp [isList, ValueChoice.LeavesOut]
    exact iff_of_true targetMem included
  next lower upper isRange =>
    rw [isRange] at admits
    obtain ⟨first, last, isFirst, isLast, lowerLe, leUpper⟩ := admits
    rw [isFirst, isLast] at succeeded
    change Remainder.dynamicRangeTargets stem modulus first last = .ok names at succeeded
    rcases Int.lt_or_gt_of_ne (Remainder.toInt64_toInt_ne_zero nonzero) with negative | positive
    · -- The cap lies below the lower bound.  At most the target of the bound itself is tried.
      rcases Remainder.dynamicRangeTargets_of_neg negative succeeded with none | ⟨isLeast, rfl⟩
      · exact absurd none reached
      · have firstLeast : first = Int64.ofInt Integer.least := by
          rw [← isLeast, Int64.ofInt_toInt]
        rw [firstLeast] at isFirst
        constructor
        · rintro member ⟨_, _, differs⟩
          apply differs
          apply Remainder.eq_of_sameName_remainder nonzero
          rw [List.mem_singleton.mp member]
          exact Text.sameName_refl _
        · intro kept
          by_contra absent
          apply kept
          refine ⟨negative, ⟨lower, upper, isRange, isFirst⟩, fun equal => absent ?_⟩
          rw [equal]
          exact List.mem_cons_self
    · have member :=
        Remainder.mem_dynamicRangeTargets_of_pos positive lowerLe leUpper succeeded
      constructor
      · rintro _ ⟨negative, _⟩
        omega
      · intro _
        exact member

end Algorithm

end ShardedSql
