import Mathlib.Data.List.Perm.Subperm
import ShardedSql.Proofs.Number.Saturation
import ShardedSql.Proofs.Strategy.NameSet
import ShardedSql.Proofs.Success
import ShardedSql.Proofs.Text.Digits
import ShardedSql.Strategy.Basic

/-!
# Targets chosen by remainders

A target that is listed is found by the decimal digits at the end of its name, and a target that is
made up ends with these digits.  Letter case does not touch digits, so that neither kind of target
is ever lost in a set of names.  A range of values reaches the target of each of its values.
-/

namespace ShardedSql

namespace Remainder

theorem toInt64_toInt_ne_zero
    {modulus : UInt64}
    (nonzero : modulus ≠ 0) :
    modulus.toInt64.toInt ≠ 0 := by
  intro zero
  apply nonzero
  have asSigned : modulus.toInt64 = 0 := Int64.toInt_inj.mp (by simpa using zero)
  have asUnsigned : modulus = Int64.toUInt64 0 := by
    simpa using congrArg Int64.toUInt64 asSigned
  exact asUnsigned.trans rfl

theorem ofValue_eq_ok
    {value : Int64}
    {modulus : UInt64}
    {remainder : Int}
    (divided : ofValue value modulus = .ok remainder) :
    remainder = value.toInt % modulus.toInt64.toInt := by
  unfold ofValue at divided
  split at divided
  · simp at divided
  · exact (Except.ok.inj divided).symm

theorem allDigits_of_ofValue
    {value : Int64}
    {modulus : UInt64}
    (nonzero : modulus ≠ 0)
    {remainder : Int}
    (divided : ofValue value modulus = .ok remainder) :
    AllDigits (toString remainder).toList := by
  apply AllDigits.toString_of_nonneg
  rw [ofValue_eq_ok divided]
  exact Int.emod_nonneg _ (toInt64_toInt_ne_zero nonzero)

theorem integerOf_eq_ok
    {value : Value}
    {number : Int64} :
    integerOf value = .ok number ↔ value.toInteger? = some number := by
  unfold integerOf
  split
  next present found => simp [found]
  next absent => simp [absent]

/-- Whether a target is the first one whose name ends with some digits. -/
def IsChosen
    (targets : List String)
    (target : String) : Prop :=
  ∃ digits : List Char, AllDigits digits ∧
    (targets.find? fun candidate => digits.isSuffixOf candidate.toList) = some target

/-- A chosen target is the first spelling of its name. -/
theorem IsChosen.find?_sameName
    {targets : List String}
    {target : String}
    (chosen : IsChosen targets target) :
    (targets.find? fun candidate => Text.sameName candidate target) = some target := by
  obtain ⟨digits, allDigits, found⟩ := chosen
  rw [List.find?_eq_some_iff_append] at found ⊢
  obtain ⟨ends, earlier, later, rfl, passed⟩ := found
  refine ⟨Text.sameName_refl target, earlier, later, rfl, ?_⟩
  intro candidate member
  have doesNotEnd := passed candidate member
  simp only [Bool.not_eq_true', ← Bool.not_eq_true, List.isSuffixOf_iff_suffix] at doesNotEnd ends ⊢
  intro same
  rw [Text.sameName_comm] at same
  exact doesNotEnd (AllDigits.isSuffix_of_sameName allDigits same ends)

theorem IsChosen.mem
    {targets : List String}
    {target : String}
    (chosen : IsChosen targets target) :
    target ∈ targets := by
  obtain ⟨_, _, found⟩ := chosen
  exact List.mem_of_find?_eq_some found

/-- Two chosen targets never differ in letter case alone. -/
theorem IsChosen.eq_of_sameName
    {targets : List String}
    {first second : String}
    (firstChosen : IsChosen targets first)
    (secondChosen : IsChosen targets second)
    (same : Text.sameName first second = true) :
    first = second := by
  have found := firstChosen.find?_sameName
  rw [NameSet.find?_sameName_congr same targets, secondChosen.find?_sameName] at found
  exact (Option.some.inj found).symm

theorem isChosen_of_target
    {modulus : Option UInt64}
    {targets : List String}
    {value : Value}
    {target : String}
    (succeeded : Remainder.target modulus targets value = .ok target) :
    IsChosen targets target := by
  unfold Remainder.target at succeeded
  obtain ⟨number, _, succeeded⟩ := Success.bind_eq_ok.mp succeeded
  dsimp only at succeeded
  split at succeeded
  next => simp at succeeded
  next nonzero =>
    obtain ⟨remainder, divided, succeeded⟩ := Success.bind_eq_ok.mp succeeded
    split at succeeded
    next found same =>
      rw [← Except.ok.inj succeeded]
      exact ⟨_, allDigits_of_ofValue nonzero divided, same⟩
    next => simp at succeeded

/-- A target depends on the integer that a value stands for, not on the form of the value. -/
theorem target_eq_ok_congr
    {modulus : Option UInt64}
    {targets : List String}
    {first second : Value}
    (same : first.toInteger? = second.toInteger?)
    {target : String}
    (succeeded : Remainder.target modulus targets first = .ok target) :
    Remainder.target modulus targets second = .ok target := by
  unfold Remainder.target at succeeded ⊢
  obtain ⟨number, isNumber, succeeded⟩ := Success.bind_eq_ok.mp succeeded
  rw [integerOf_eq_ok, same] at isNumber
  refine Success.bind_eq_ok.mpr ⟨number, integerOf_eq_ok.mpr isNumber, ?_⟩
  dsimp only at succeeded ⊢
  split at succeeded
  next => simp at succeeded
  next nonzero =>
    rw [if_neg nonzero]
    obtain ⟨remainder, divided, succeeded⟩ := Success.bind_eq_ok.mp succeeded
    refine Success.bind_eq_ok.mpr ⟨remainder, divided, ?_⟩
    split at succeeded
    next found same => simpa [same] using succeeded
    next => simp at succeeded

/-- The target of a value is the one of the integer that it stands for. -/
theorem target_eq_ok_iff
    {modulus : Option UInt64}
    {targets : List String}
    {value : Value}
    {number : Int64}
    (standsFor : value.toInteger? = some number)
    {target : String} :
    Remainder.target modulus targets value = .ok target ↔
      Remainder.target modulus targets (.integer number) = .ok target := by
  have same : value.toInteger? = (Value.integer number).toInteger? := standsFor
  exact ⟨target_eq_ok_congr same, target_eq_ok_congr same.symm⟩

theorem mem_insertTarget
    {targets : List String}
    {added target : String} :
    target ∈ insertTarget targets added ↔ target ∈ targets ∨ target = added := by
  unfold insertTarget
  split
  next present =>
    rw [List.contains_iff_mem] at present
    constructor
    · exact Or.inl
    · rintro (old | rfl)
      · exact old
      · exact present
  next => simp

theorem nodup_insertTarget
    {targets : List String}
    (distinct : targets.Nodup)
    (added : String) :
    (insertTarget targets added).Nodup := by
  unfold insertTarget
  split
  next => exact distinct
  next absent =>
    rw [List.contains_iff_mem] at absent
    refine List.nodup_append.mpr ⟨distinct, by simp, ?_⟩
    intro target member other otherMem equal
    rw [equal, List.mem_singleton.mp otherMem] at member
    exact absent member

section Collect

variable {targetOf : Int64 → Except Error String}
variable {isComplete : List String → Bool}

/-- Collecting keeps what was found, takes nothing but targets of the values, and misses the target
of a value only once the list is complete. -/
structure Collected
    (targetOf : Int64 → Except Error String)
    (isComplete : List String → Bool)
    (count : Nat)
    (value : Int)
    (found result : List String) : Prop where
  keeps : found ⊆ result
  distinct : found.Nodup → result.Nodup
  sources : ∀ target ∈ result, target ∈ found ∨
    ∃ index < count, targetOf (Int64.ofInt (value + index)) = .ok target
  reaches : isComplete result = true ∨
    ∀ index < count, ∃ target ∈ result, targetOf (Int64.ofInt (value + index)) = .ok target

/-- A target that completes what was found ends the loop, with the numbers behind its own not tried. -/
theorem collected_of_complete
    {count : Nat}
    {value : Int}
    {target : String}
    {found : List String}
    (made : targetOf (Int64.ofInt value) = .ok target)
    (complete : isComplete (insertTarget found target) = true) :
    Collected targetOf isComplete (count + 1) value found (insertTarget found target) where
  keeps _ old := mem_insertTarget.mpr (.inl old)
  distinct distinct := nodup_insertTarget distinct target
  sources other member := by
    rcases mem_insertTarget.mp member with old | rfl
    · exact .inl old
    · exact .inr ⟨0, by omega, by simpa using made⟩
  reaches := .inl complete

/-- What is collected from the next number on, with the target of this one, is collected from this one on. -/
theorem Collected.step
    {count : Nat}
    {value : Int}
    {target : String}
    {found result : List String}
    (made : targetOf (Int64.ofInt value) = .ok target)
    (rest : Collected targetOf isComplete count (value + 1) (insertTarget found target) result) :
    Collected targetOf isComplete (count + 1) value found result := by
  have first : targetOf (Int64.ofInt (value + (0 : Nat))) = .ok target := by simpa using made
  have shift (index : Nat) : value + 1 + (index : Int) = value + ((index + 1 : Nat) : Int) := by
    omega
  refine ⟨fun old member => rest.keeps (mem_insertTarget.mpr (.inl member)),
    fun distinct => rest.distinct (nodup_insertTarget distinct target), ?_, ?_⟩
  · intro other member
    rcases rest.sources other member with early | ⟨index, small, later⟩
    · rcases mem_insertTarget.mp early with old | rfl
      · exact .inl old
      · exact .inr ⟨0, by omega, first⟩
    · rw [shift] at later
      exact .inr ⟨index + 1, by omega, later⟩
  · apply rest.reaches.imp_right
    intro reached index small
    cases index with
    | zero => exact ⟨target, rest.keeps (mem_insertTarget.mpr (.inr rfl)), first⟩
    | succ index =>
        obtain ⟨other, member, later⟩ := reached index (by omega)
        rw [shift] at later
        exact ⟨other, member, later⟩

theorem collected_of_collect
    {count : Nat}
    {value : Int}
    {found result : List String}
    (succeeded : collect targetOf isComplete count value found = .ok result) :
    Collected targetOf isComplete count value found result := by
  induction count generalizing value found with
  | zero =>
      cases succeeded
      exact ⟨fun _ member => member, fun distinct => distinct, fun _ member => .inl member,
        .inr fun _ small => absurd small (Nat.not_lt_zero _)⟩
  | succ count ih =>
      unfold collect at succeeded
      split at succeeded
      next => cases succeeded
      next target made =>
        dsimp only at succeeded
        split at succeeded
        next complete =>
          cases succeeded
          exact collected_of_complete made complete
        next => exact .step made (ih succeeded)

/-- Collecting fails only where a value that it tries has no target. -/
theorem exists_failure_of_collect
    {count : Nat}
    {value : Int}
    {found : List String}
    {error : Error}
    (failed : collect targetOf isComplete count value found = .error error) :
    ∃ index < count, targetOf (Int64.ofInt (value + index)) = .error error := by
  induction count generalizing value found with
  | zero => cases failed
  | succ count ih =>
      unfold collect at failed
      split at failed
      next failure first =>
        cases failed
        exact ⟨0, by omega, by simpa using first⟩
      next =>
        dsimp only at failed
        split at failed
        next => cases failed
        next =>
          obtain ⟨index, small, later⟩ := ih failed
          have shift : value + 1 + (index : Int) = value + ((index + 1 : Nat) : Int) := by
            omega
          rw [shift] at later
          exact ⟨index + 1, by omega, later⟩

end Collect

/-- Listed targets cover a range: the target of each of its values is among them. -/
theorem mem_rangeTargets
    {modulus : Option UInt64}
    {targets : List String}
    {lower upper number : Int64}
    (lowerLe : lower.toInt ≤ number.toInt)
    (leUpper : number.toInt ≤ upper.toInt)
    {result : List String}
    (succeeded : rangeTargets modulus targets lower upper = .ok result)
    {target : String}
    (chosen : Remainder.target modulus targets (.integer number) = .ok target) :
    target ∈ result := by
  have collected := collected_of_collect succeeded
  rcases collected.reaches with complete | reached
  · -- As many different targets as there are listed ones are all of them.
    simp only [Bool.and_eq_true, Bool.not_eq_true', beq_iff_eq] at complete
    have listed : result ⊆ targets := by
      intro other member
      rcases collected.sources other member with early | ⟨index, _, source⟩
      · simp at early
      · exact (isChosen_of_target source).mem
    have permuted : result.Perm targets :=
      ((collected.distinct List.nodup_nil).subperm listed).perm_of_length_le
        (Nat.le_of_eq complete.2.symm)
    exact permuted.mem_iff.mpr (isChosen_of_target chosen).mem
  · have small : (number.toInt - lower.toInt).toNat < rangeCount lower.toInt upper.toInt := by
      unfold rangeCount
      omega
    obtain ⟨other, member, source⟩ := reached _ small
    have same : lower.toInt + ((number.toInt - lower.toInt).toNat : Int) = number.toInt := by
      omega
    rw [same, Int64.ofInt_toInt, chosen] at source
    rw [Except.ok.inj source]
    exact member

theorem dynamicTarget_eq_ok
    {stem : String}
    {modulus : UInt64}
    {value : Value}
    {target : String}
    (succeeded : dynamicTarget stem modulus value = .ok target) :
    ∃ number : Int64, value.toInteger? = some number ∧
      target = stem ++ toString (number.toInt % modulus.toInt64.toInt) := by
  unfold dynamicTarget at succeeded
  obtain ⟨number, isNumber, succeeded⟩ := Success.bind_eq_ok.mp succeeded
  obtain ⟨remainder, divided, succeeded⟩ := Success.bind_eq_ok.mp succeeded
  refine ⟨number, integerOf_eq_ok.mp isNumber, ?_⟩
  rw [← ofValue_eq_ok divided]
  exact (Except.ok.inj succeeded).symm

/-- Names made of one stem and remainders by one modulus are equal as soon as they agree up to
letter case. -/
theorem eq_of_sameName_remainder
    {stem : String}
    {modulus : UInt64}
    (nonzero : modulus ≠ 0)
    {first second : Int}
    (same : Text.sameName
      (stem ++ toString (first % modulus.toInt64.toInt))
      (stem ++ toString (second % modulus.toInt64.toInt)) = true) :
    first % modulus.toInt64.toInt = second % modulus.toInt64.toInt := by
  have firstNonneg := Int.emod_nonneg first (toInt64_toInt_ne_zero nonzero)
  have secondNonneg := Int.emod_nonneg second (toInt64_toInt_ne_zero nonzero)
  exact AllDigits.toString_inj_of_nonneg firstNonneg secondNonneg
    (AllDigits.append_left_cancel_of_sameName
      (AllDigits.toString_of_nonneg secondNonneg) same)

/-- A value in the range of a positive modulus has the remainder of one of the values that are
tried. -/
theorem exists_tried_remainder
    {modulus lower number last : Int}
    (positive : 0 < modulus)
    (lowerLe : lower ≤ number)
    (tried : last = min number (lower + (modulus - 1))) :
    ∃ index : Nat, lower + index ≤ last ∧ (lower + index) % modulus = number % modulus := by
  have nonneg := Int.emod_nonneg (number - lower) (show modulus ≠ 0 by omega)
  have small := Int.emod_lt_of_pos (number - lower) positive
  have below : (number - lower) % modulus ≤ number - lower := by
    have divided := Int.mul_ediv_add_emod (number - lower) modulus
    have quotient : 0 ≤ modulus * ((number - lower) / modulus) :=
      Int.mul_nonneg (by omega) (Int.ediv_nonneg (by omega) (by omega))
    omega
  refine ⟨((number - lower) % modulus).toNat, by omega, ?_⟩
  rw [Int.toNat_of_nonneg nonneg, Int.add_emod_emod]
  congr 1
  omega

/-- A positive modulus lets every remainder of a range be tried. -/
theorem mem_dynamicRangeTargets_of_pos
    {stem : String}
    {modulus : UInt64}
    (positive : 0 < modulus.toInt64.toInt)
    {lower upper number : Int64}
    (lowerLe : lower.toInt ≤ number.toInt)
    (leUpper : number.toInt ≤ upper.toInt)
    {result : List String}
    (succeeded : dynamicRangeTargets stem modulus lower upper = .ok result) :
    stem ++ toString (number.toInt % modulus.toInt64.toInt) ∈ result := by
  unfold dynamicRangeTargets at succeeded
  split at succeeded
  next => simp at succeeded
  next =>
    dsimp only at succeeded
    have collected := collected_of_collect succeeded
    obtain ⟨index, tried, remainder⟩ := exists_tried_remainder positive lowerLe rfl
    have lowest := lower.le_toInt
    have highest := number.toInt_lt
    have inRange : index < rangeCount lower.toInt
        (min upper.toInt
          (Integer.saturate (lower.toInt + (modulus.toInt64.toInt - 1))).toInt) := by
      rw [Integer.toInt_saturate, rangeCount]
      simp only [Integer.least, Integer.greatest]
      omega
    rcases collected.reaches with complete | reached
    · simp at complete
    · obtain ⟨target, member, source⟩ := reached index inRange
      obtain ⟨value, isValue, rfl⟩ := dynamicTarget_eq_ok source
      have equal : value = Int64.ofInt (lower.toInt + index) := (Option.some.inj isValue).symm
      have exact : value.toInt = lower.toInt + index := by
        rw [equal]
        exact Int64.toInt_ofInt_of_le (by omega) (by omega)
      rw [exact, remainder] at member
      exact member

/-- A modulus that counts as a negative number leaves no value to try, except at the smallest
integer, which is then tried alone. -/
theorem dynamicRangeTargets_of_neg
    {stem : String}
    {modulus : UInt64}
    (negative : modulus.toInt64.toInt < 0)
    {lower upper : Int64}
    {result : List String}
    (succeeded : dynamicRangeTargets stem modulus lower upper = .ok result) :
    result = [] ∨
      lower.toInt = Integer.least ∧
        result = [stem ++ toString (Integer.least % modulus.toInt64.toInt)] := by
  unfold dynamicRangeTargets at succeeded
  split at succeeded
  next => simp at succeeded
  next =>
    dsimp only at succeeded
    have lowest := lower.le_toInt
    have upperLowest := upper.le_toInt
    have highest := lower.toInt_lt
    rw [Integer.toInt_saturate] at succeeded
    by_cases isLeast : lower.toInt = Integer.least
    · right
      have count : rangeCount lower.toInt
          (min upper.toInt (max Integer.least
            (min Integer.greatest (lower.toInt + (modulus.toInt64.toInt - 1))))) = 1 := by
        rw [rangeCount, isLeast]
        simp only [Integer.least, Integer.greatest]
        omega
      rw [count, isLeast] at succeeded
      refine ⟨isLeast, ?_⟩
      unfold collect at succeeded
      split at succeeded
      next => simp at succeeded
      next target first =>
        obtain ⟨value, isValue, rfl⟩ := dynamicTarget_eq_ok first
        have equal : value = Int64.ofInt Integer.least := (Option.some.inj isValue).symm
        have exact : value.toInt = Integer.least := by
          rw [equal]
          exact Int64.toInt_ofInt_of_le (by decide) (by decide)
        rw [exact] at succeeded
        exact (Except.ok.inj succeeded).symm
    · left
      have count : rangeCount lower.toInt
          (min upper.toInt (max Integer.least
            (min Integer.greatest (lower.toInt + (modulus.toInt64.toInt - 1))))) = 0 := by
        rw [rangeCount]
        simp only [Integer.least, Integer.greatest] at isLeast ⊢
        omega
      rw [count] at succeeded
      exact (Except.ok.inj succeeded).symm

end Remainder

end ShardedSql
