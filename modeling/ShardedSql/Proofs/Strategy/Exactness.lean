import Mathlib.Algebra.Group.Nat.Defs
import Mathlib.Algebra.Ring.Int.Defs
import ShardedSql.Proofs.Strategy.Remainder

/-!
# Remainders by every modulus

A modulus is declared without a sign and divides with one.  Up to 2 ^ 63 this makes no difference
for a single value.  Beyond it, the remainder is one by the complement of the modulus, and there are
values without any.
-/

namespace ShardedSql

namespace Remainder

/-- The magnitude that a modulus has with a sign: its own, or that of its complement. -/
def magnitude (modulus : UInt64) : Nat :=
  min modulus.toNat (2 ^ 64 - modulus.toNat)

theorem magnitude_pos
    {modulus : UInt64}
    (nonzero : modulus ≠ 0) :
    0 < magnitude modulus := by
  have isUnsigned := modulus.toNat_lt
  have isPositive : 0 < modulus.toNat := by
    rw [Nat.pos_iff_ne_zero]
    exact fun isZero => nonzero (UInt64.toNat_inj.mp isZero)
  rw [magnitude]
  omega

theorem toInt_toInt64 (modulus : UInt64) :
    modulus.toInt64.toInt =
      if modulus.toNat < 2 ^ 63 then (modulus.toNat : Int) else modulus.toNat - 2 ^ 64 := by
  have asBits : modulus.toInt64.toInt = modulus.toBitVec.toInt := rfl
  rw [asBits, BitVec.toInt_eq_toNat_cond]
  simp only [UInt64.toNat_toBitVec]
  split
  · rw [if_pos (by omega)]
  · rw [if_neg (by omega)]
    rfl

theorem natAbs_toInt64 (modulus : UInt64) :
    modulus.toInt64.toInt.natAbs = magnitude modulus := by
  have isBelow := modulus.toNat_lt
  rw [toInt_toInt64, magnitude]
  split
  · omega
  · omega

/-- The sign of a modulus does not matter, only its magnitude. -/
theorem emod_toInt64 (number : Int) (modulus : UInt64) :
    number % modulus.toInt64.toInt = number % (magnitude modulus : Int) := by
  rw [← natAbs_toInt64]
  rcases Int.natAbs_eq modulus.toInt64.toInt with isPositive | isNegative
  · rw [← isPositive]
  · conv_lhs => rw [isNegative]
    exact Int.emod_neg _ _

theorem toInt64_eq_neg_one_iff {modulus : UInt64} :
    modulus.toInt64.toInt = -1 ↔ modulus.toNat = 2 ^ 64 - 1 := by
  have isBelow := modulus.toNat_lt
  rw [toInt_toInt64]
  split
  · omega
  · omega

theorem toInt64_eq_least_iff {modulus : UInt64} :
    modulus.toInt64.toInt = Integer.least ↔ modulus.toNat = 2 ^ 63 := by
  have isBelow := modulus.toNat_lt
  rw [toInt_toInt64, Integer.least]
  split
  · omega
  · omega

/-- Whether a value and a modulus are the ones whose division overflows. -/
def Overflows (modulus : UInt64) (number : Int64) : Prop :=
  modulus.toNat = 2 ^ 64 - 1 ∧ number.toInt = Integer.least

theorem ofValue_of_overflows
    {modulus : UInt64}
    {number : Int64}
    (overflows : Overflows modulus number) :
    ofValue number modulus = .error .remainderOverflow := by
  rw [ofValue, if_pos ⟨toInt64_eq_neg_one_iff.mpr overflows.1, overflows.2⟩]

theorem ofValue_of_not_overflows
    {modulus : UInt64}
    {number : Int64}
    (divides : ¬ Overflows modulus number) :
    ofValue number modulus = .ok (number.toInt % magnitude modulus) := by
  have isFree : ¬ (modulus.toInt64.toInt = -1 ∧ number.toInt = Integer.least) := by
    rwa [toInt64_eq_neg_one_iff]
  rw [ofValue, if_neg isFree, emod_toInt64]

/-- Whether a value is placed by a residue: the first listed target that ends with its digits is
taken, and a target that is made up has them behind its stem. -/
structure IsPlacedBy (modulus : UInt64) (number : Int64) (residue : Int) : Prop where
  listed : ∀ targets : List String,
    Remainder.target (some modulus) targets (.integer number) =
      match targets.find? fun target => (toString residue).toList.isSuffixOf target.toList with
      | some target => .ok target
      | none => .error (.noMatchingTarget targets (toString residue) (.integer number))
  made : ∀ stem : String,
    dynamicTarget stem modulus (.integer number) = .ok (stem ++ toString residue)

section Placing

variable {modulus : UInt64} {number : Int64} {residue : Int}

theorem isPlacedBy_of_ofValue
    (nonzero : modulus ≠ 0)
    (divided : ofValue number modulus = .ok residue) :
    IsPlacedBy modulus number residue := by
  have known : integerOf (.integer number) = .ok number := rfl
  constructor
  · intro targets
    unfold Remainder.target
    rw [known]
    change (if modulus = 0 then _ else ofValue number modulus >>= _) = _
    rw [if_neg nonzero, divided]
    rfl
  · intro stem
    unfold dynamicTarget
    rw [known]
    change (ofValue number modulus >>= _) = _
    rw [divided]
    rfl

/-- A value is placed by the remainder that the magnitude of the modulus leaves. -/
theorem isPlacedBy_magnitude
    (nonzero : modulus ≠ 0)
    (divides : ¬ Overflows modulus number) :
    IsPlacedBy modulus number (number.toInt % magnitude modulus) :=
  isPlacedBy_of_ofValue nonzero (ofValue_of_not_overflows divides)

theorem target_of_overflows
    (overflows : Overflows modulus number)
    (targets : List String) :
    Remainder.target (some modulus) targets (.integer number) = .error .remainderOverflow := by
  have known : integerOf (.integer number) = .ok number := rfl
  have nonzero : modulus ≠ 0 := by
    rintro rfl
    exact absurd overflows.1 (by decide)
  simp only [Remainder.target, known, Option.getD_some, nonzero, if_false,
    ofValue_of_overflows overflows, bind, Except.bind]

theorem dynamicTarget_of_overflows
    (overflows : Overflows modulus number)
    (stem : String) :
    dynamicTarget stem modulus (.integer number) = .error .remainderOverflow := by
  have known : integerOf (.integer number) = .ok number := rfl
  simp only [dynamicTarget, known, ofValue_of_overflows overflows, bind, Except.bind]

/-- A value that overflows is placed nowhere. -/
theorem IsPlacedBy.not_overflows (placed : IsPlacedBy modulus number residue) :
    ¬ Overflows modulus number := by
  intro overflows
  have made := placed.made ""
  rw [dynamicTarget_of_overflows overflows] at made
  cases made

/-- A value is placed by one residue only. -/
theorem IsPlacedBy.unique
    {other : Int}
    (placed : IsPlacedBy modulus number residue)
    (placedToo : IsPlacedBy modulus number other)
    (nonneg : 0 ≤ residue)
    (nonnegToo : 0 ≤ other) :
    residue = other := by
  have same := (placed.made "").symm.trans (placedToo.made "")
  exact AllDigits.toString_inj_of_nonneg nonneg nonnegToo
    ((String.append_right_inj "").mp (Except.ok.inj same))

end Placing

/-- The complement of a modulus beyond 2 ^ 63 leaves another remainder than the modulus, unless the
number is not negative and below both. -/
theorem emod_complement_iff
    {modulus number : Int}
    (isBeyond : 2 ^ 63 < modulus)
    (isUnsigned : modulus < 2 ^ 64)
    (isLarge : -2 ^ 63 ≤ number)
    (isSmall : number < 2 ^ 63) :
    number % (2 ^ 64 - modulus) = number % modulus ↔ 0 ≤ number ∧ number < 2 ^ 64 - modulus := by
  have below := Int.emod_lt_of_pos number (show 0 < 2 ^ 64 - modulus by omega)
  constructor
  · intro same
    by_cases isNegative : number < 0
    · -- The modulus would be a multiple of its complement, and less than three times as large.
      exfalso
      have shifted : number % modulus = number + modulus := by
        rw [← Int.add_emod_right, Int.emod_eq_of_lt (by omega) (by omega)]
      obtain ⟨quotient, isMultiple⟩ : 2 ^ 64 - modulus ∣ modulus := by
        have divides : 2 ^ 64 - modulus ∣ number - number % (2 ^ 64 - modulus) :=
          Int.dvd_self_sub_emod
        rw [same, shifted, show number - (number + modulus) = -modulus by omega] at divides
        exact Int.dvd_neg.mp divides
      have isPositive : 1 < quotient := by
        by_contra isFew
        have : (2 ^ 64 - modulus) * quotient ≤ (2 ^ 64 - modulus) * 1 :=
          Int.mul_le_mul_of_nonneg_left (by omega) (by omega)
        omega
      have isFew : quotient < 3 := by
        by_contra isMany
        have : (2 ^ 64 - modulus) * 3 ≤ (2 ^ 64 - modulus) * quotient :=
          Int.mul_le_mul_of_nonneg_left (by omega) (by omega)
        omega
      obtain rfl : quotient = 2 := by omega
      omega
    · rw [Int.emod_eq_of_lt (b := modulus) (by omega) (by omega)] at same
      omega
  · rintro ⟨nonneg, isBelow⟩
    rw [Int.emod_eq_of_lt nonneg isBelow, Int.emod_eq_of_lt nonneg (by omega)]

theorem emod_magnitude_iff
    {modulus : UInt64}
    (number : Int64) :
    number.toInt % magnitude modulus = number.toInt % modulus.toNat ↔
      modulus.toNat ≤ 2 ^ 63 ∨ 0 ≤ number.toInt ∧ number.toInt < 2 ^ 64 - modulus.toNat := by
  have isUnsigned := modulus.toNat_lt
  by_cases isHalf : modulus.toNat ≤ 2 ^ 63
  · have isOwn : magnitude modulus = modulus.toNat := by
      rw [magnitude]
      omega
    rw [isOwn]
    exact iff_of_true rfl (.inl isHalf)
  · have isComplement : (magnitude modulus : Int) = 2 ^ 64 - (modulus.toNat : Int) := by
      rw [magnitude]
      omega
    have isBeyond : (2 ^ 63 : Int) < modulus.toNat := by omega
    have isBelow : (modulus.toNat : Int) < 2 ^ 64 := by omega
    have bounds := emod_complement_iff isBeyond isBelow number.le_toInt number.toInt_lt
    rw [isComplement, bounds]
    exact (or_iff_right isHalf).symm

/-- A range of made-up targets overflows where the modulus has no number before it, or where its
lower bound has no remainder. -/
theorem dynamicRangeTargets_overflows_iff
    {stem : String}
    {modulus : UInt64}
    (nonzero : modulus ≠ 0)
    {lower upper : Int64} :
    dynamicRangeTargets stem modulus lower upper = .error .remainderOverflow ↔
      modulus.toNat = 2 ^ 63 ∨ Overflows modulus lower := by
  have lowest := lower.le_toInt
  have highest := lower.toInt_lt
  have upperLowest := upper.le_toInt
  unfold dynamicRangeTargets
  rw [← toInt64_eq_least_iff]
  split
  next isLeast => simp [isLeast]
  next isOther =>
    dsimp only
    rw [Integer.toInt_saturate]
    constructor
    · intro failed
      obtain ⟨index, isTried, failure⟩ := exists_failure_of_collect failed
      right
      by_cases overflows : Overflows modulus (Int64.ofInt (lower.toInt + index))
      · have isComplement := toInt64_eq_neg_one_iff.mpr overflows.1
        rw [isComplement, rangeCount] at isTried
        refine ⟨overflows.1, ?_⟩
        simp only [Integer.least, Integer.greatest] at isTried ⊢
        omega
      · rw [(isPlacedBy_magnitude nonzero overflows).made] at failure
        cases failure
    · rintro (isLeast | overflows)
      · exact absurd isLeast isOther
      · -- Behind the smallest integer nothing is left to try.
        have isSingle : rangeCount lower.toInt
            (min upper.toInt (max Integer.least
              (min Integer.greatest (lower.toInt + (modulus.toInt64.toInt - 1))))) = 1 := by
          rw [toInt64_eq_neg_one_iff.mpr overflows.1, overflows.2, rangeCount]
          simp only [Integer.least, Integer.greatest]
          omega
        rw [isSingle, collect, Int64.ofInt_toInt, dynamicTarget_of_overflows overflows]

/-- **Remainders are exact by every modulus up to 2 ^ 63.**  Each modulus but zero is accepted.  A
value is placed by its remainder if and only if the modulus is at most 2 ^ 63, or the value is not
negative and below the complement of the modulus.  Otherwise it is placed by its remainder by this
complement; only the smallest integer by the largest modulus is not placed at all, because the
division overflows.  A range of made-up targets overflows if its lower bound does, and always by
2 ^ 63. -/
theorem placed_exactly_iff
    {modulus : UInt64}
    (nonzero : modulus ≠ 0)
    (stem : String)
    (number lower upper : Int64) :
    ((Algorithm.modulo (some modulus)).validate = .ok (.modulo (some modulus)) ∧
      (Algorithm.dynamicModulo stem modulus).validate = .ok (.dynamicModulo stem modulus)) ∧
    (IsPlacedBy modulus number (number.toInt % modulus.toNat) ↔
      modulus.toNat ≤ 2 ^ 63 ∨ 0 ≤ number.toInt ∧ number.toInt < 2 ^ 64 - modulus.toNat) ∧
    (IsPlacedBy modulus number (number.toInt % magnitude modulus) ∨
      Overflows modulus number ∧
        (∀ targets, Remainder.target (some modulus) targets (.integer number) =
          .error .remainderOverflow) ∧
        dynamicTarget stem modulus (.integer number) = .error .remainderOverflow) ∧
    (dynamicRangeTargets stem modulus lower upper = .error .remainderOverflow ↔
      modulus.toNat = 2 ^ 63 ∨ Overflows modulus lower) := by
  have isPositive := magnitude_pos nonzero
  have isModulus : 0 < modulus.toNat := by
    rw [magnitude] at isPositive
    omega
  refine ⟨⟨?_, ?_⟩, ?_, ?_, dynamicRangeTargets_overflows_iff nonzero⟩
  · simp [Algorithm.validate, nonzero]
  · simp [Algorithm.validate, nonzero]
  · rw [← emod_magnitude_iff]
    constructor
    · intro placed
      exact (isPlacedBy_magnitude nonzero placed.not_overflows).unique placed
        (Int.emod_nonneg _ (by omega)) (Int.emod_nonneg _ (by omega))
    · intro same
      have isExact := (emod_magnitude_iff number).mp same
      have divides : ¬ Overflows modulus number := by
        rintro ⟨isLargest, isLeast⟩
        simp only [Integer.least] at isLeast
        omega
      exact same ▸ isPlacedBy_magnitude nonzero divides
  · by_cases overflows : Overflows modulus number
    · exact .inr ⟨overflows, target_of_overflows overflows, dynamicTarget_of_overflows overflows stem⟩
    · exact .inl (isPlacedBy_magnitude nonzero overflows)

/-- By the largest modulus, the value zero is placed by its remainder and the smallest integer not
at all. -/
theorem placed_exactly_largest :
    (18446744073709551615 : UInt64) ≠ 0 ∧
      IsPlacedBy 18446744073709551615 0 0 ∧
      dynamicTarget "t_" 18446744073709551615 (.integer Int64.minValue) =
        .error .remainderOverflow ∧
      dynamicRangeTargets "t_" 18446744073709551615 Int64.minValue 7 = .error .remainderOverflow := by
  have nonzero : (18446744073709551615 : UInt64) ≠ 0 := by decide
  have isLeast : Int64.minValue.toInt = Integer.least := by decide
  obtain ⟨-, isExact, -, -⟩ := placed_exactly_iff nonzero "t_" 0 0 0
  obtain ⟨-, -, isPlaced, isRange⟩ := placed_exactly_iff nonzero "t_" Int64.minValue Int64.minValue 7
  have overflows : Overflows 18446744073709551615 Int64.minValue := ⟨by decide, isLeast⟩
  refine ⟨nonzero, isExact.mpr (.inr (by decide)), ?_, isRange.mpr (.inr overflows)⟩
  exact (isPlaced.resolve_left fun placed => placed.not_overflows overflows).2.2

/-- A modulus beyond 2 ^ 63 places the value 23 by another remainder than its own, and by 2 ^ 63
every range overflows. -/
theorem placed_by_complement :
    (18446744073709551606 : UInt64) ≠ 0 ∧
      dynamicTarget "t_" 18446744073709551606 (.integer 23) = .ok "t_3" ∧
      "t_3" ≠ "t_" ++ toString ((23 : Int) % 18446744073709551606) ∧
      dynamicRangeTargets "t_" 9223372036854775808 0 1 = .error .remainderOverflow := by
  refine ⟨by decide, Success.toOption_eq_some.mp (by decide +kernel), by decide +kernel, ?_⟩
  exact (dynamicRangeTargets_overflows_iff (by decide)).mpr (.inl (by decide))

end Remainder

end ShardedSql
