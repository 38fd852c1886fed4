import Mathlib.Data.List.Nodup
import Mathlib.Data.Option.Basic
import ShardedSql.Proofs.Strategy.Exactness

/-!
# Ranges cover their values

A range leads to the targets of the integers in it, each target once.  Among listed targets the
search ends as soon as all of them are found, and where targets are made up it ends when every
remainder has occurred.  Neither loses a target.
-/

namespace ShardedSql

/-- Whether a list holds the target of each integer from `lower` to `upper` that has one, and
nothing else, each target once. -/
structure SingleKeyChoice.Covers
    (choice : SingleKeyChoice)
    (targets : List String)
    (lower upper : Int64)
    (result : List String) : Prop where
  distinct : result.Nodup
  mem_iff : ∀ target, target ∈ result ↔
    ∃ number : Int64, lower ≤ number ∧ number ≤ upper ∧
      choice.equal targets (.integer number) = .ok target

namespace Remainder

section Ranges

variable {lower upper : Int64}

theorem toInt_ofInt_add_index
    {index : Nat}
    (isTried : index < rangeCount lower.toInt upper.toInt) :
    (Int64.ofInt (lower.toInt + index)).toInt = lower.toInt + index := by
  have lowest := lower.le_toInt
  have highest := upper.toInt_lt
  unfold rangeCount at isTried
  exact Int64.toInt_ofInt_of_le (by omega) (by omega)

/-- An integer of a range has a place that is counted from the lower bound. -/
theorem exists_index
    {number : Int64}
    (lowerLe : lower ≤ number)
    (leUpper : number ≤ upper) :
    ∃ index < rangeCount lower.toInt upper.toInt, Int64.ofInt (lower.toInt + index) = number := by
  rw [Int64.le_iff_toInt_le] at lowerLe leUpper
  refine ⟨(number.toInt - lower.toInt).toNat, ?_, ?_⟩
  · unfold rangeCount
    omega
  · have same : lower.toInt + ((number.toInt - lower.toInt).toNat : Int) = number.toInt := by
      omega
    rw [same, Int64.ofInt_toInt]

/-- The places of a range have integers between its bounds. -/
theorem between_of_index
    {index : Nat}
    (isTried : index < rangeCount lower.toInt upper.toInt) :
    lower ≤ Int64.ofInt (lower.toInt + index) ∧ Int64.ofInt (lower.toInt + index) ≤ upper := by
  rw [Int64.le_iff_toInt_le, Int64.le_iff_toInt_le, toInt_ofInt_add_index isTried]
  unfold rangeCount at isTried
  omega

end Ranges

/-- Consecutive integers in ascending order. -/
def integersFrom (value : Int) (count : Nat) : List Int64 :=
  (List.range count).map fun index : Nat => Int64.ofInt (value + index)

/-- The integers from `lower` to `upper` in ascending order. -/
def integersBetween (lower upper : Int64) : List Int64 :=
  integersFrom lower.toInt (rangeCount lower.toInt upper.toInt)

theorem integersFrom_succ (value : Int) (count : Nat) :
    integersFrom value (count + 1) = Int64.ofInt value :: integersFrom (value + 1) count := by
  have shift : (fun index : Nat => Int64.ofInt (value + index)) ∘ Nat.succ =
      fun index : Nat => Int64.ofInt (value + 1 + index) := by
    funext index
    rw [Function.comp_apply, Nat.succ_eq_add_one]
    congr 1
    omega
  rw [integersFrom, List.range_succ_eq_map, List.map_cons, List.map_map, shift, Int.natCast_zero,
    Int.add_zero]
  rfl

theorem take_integersBetween (lower upper : Int64) (count : Nat) :
    (integersBetween lower upper).take count =
      integersFrom lower.toInt (min count (rangeCount lower.toInt upper.toInt)) := by
  rw [integersBetween, integersFrom, ← List.map_take, List.take_range]
  rfl

theorem mem_integersBetween
    {lower upper number : Int64} :
    number ∈ integersBetween lower upper ↔ lower ≤ number ∧ number ≤ upper := by
  simp only [integersBetween, integersFrom, List.mem_map, List.mem_range]
  constructor
  · rintro ⟨index, isTried, rfl⟩
    exact between_of_index isTried
  · rintro ⟨lowerLe, leUpper⟩
    exact exists_index lowerLe leUpper

section Repetitions

theorem insertTarget_eraseDups (names : List String) (name : String) :
    insertTarget names.eraseDups name = (names ++ [name]).eraseDups := by
  rw [insertTarget, List.eraseDups_append, List.cons_removeAll]
  cases isThere : names.contains name with
  | true => simpa [List.removeAll] using isThere
  | false => simpa [List.removeAll, List.eraseDups_cons] using isThere

/-- Targets that are added one after another are left once each, where they occur first. -/
theorem foldl_insertTarget (names others : List String) :
    others.foldl insertTarget names.eraseDups = (names ++ others).eraseDups := by
  induction others generalizing names with
  | nil => rw [List.foldl_nil, List.append_nil]
  | cons name others ih =>
      rw [List.foldl_cons, insertTarget_eraseDups, ih, List.append_assoc, List.singleton_append]

theorem eraseDups_append_of_subset
    {names others : List String}
    (occur : others ⊆ names) :
    (names ++ others).eraseDups = names.eraseDups := by
  have noneIsNew : others.removeAll names = [] := by
    rw [List.removeAll, List.filter_eq_nil_iff]
    intro name member
    simpa using occur member
  rw [List.eraseDups_append, noneIsNew, List.eraseDups_nil, List.append_nil]

theorem nodup_eraseDups (names : List String) :
    names.eraseDups.Nodup := by
  have distinct : ∀ found : List String, found.Nodup → (names.foldl insertTarget found).Nodup := by
    induction names with
    | nil => exact fun _ distinct => distinct
    | cons name names ih => exact fun found distinct => ih _ (nodup_insertTarget distinct name)
  have isFold := foldl_insertTarget [] names
  rw [List.nil_append] at isFold
  rw [← isFold]
  exact distinct _ List.nodup_nil

/-- Collecting without an early end leads to the targets of all values, less their repetitions. -/
theorem collect_eq_mapM
    (targetOf : Int64 → Except Error String)
    (count : Nat)
    (value : Int)
    (found : List String) :
    collect targetOf (fun _ => false) count value found =
      ((integersFrom value count).mapM targetOf).map fun names =>
        names.foldl insertTarget found := by
  induction count generalizing value found with
  | zero => rfl
  | succ count ih =>
      rw [collect, integersFrom_succ, List.mapM_cons]
      cases targetOf (Int64.ofInt value) with
      | error error => rfl
      | ok target =>
          simp only [Bool.false_eq_true, if_false, ih, bind, Except.bind, pure, Except.pure]
          cases (integersFrom (value + 1) count).mapM targetOf with
          | error error => rfl
          | ok names => rfl

end Repetitions

section Listed

variable {modulus : Option UInt64} {targets : List String} {lower upper : Int64}

/-- A range of listed targets that succeeds covers its integers, wherever the search ends. -/
theorem covers_of_rangeTargets
    {result : List String}
    (succeeded : rangeTargets modulus targets lower upper = .ok result) :
    (Algorithm.moduloChoice modulus).Covers targets lower upper result := by
  have collected := collected_of_collect succeeded
  refine ⟨collected.distinct List.nodup_nil, fun target => ⟨fun member => ?_, ?_⟩⟩
  · rcases collected.sources target member with early | ⟨index, isTried, source⟩
    · cases early
    · obtain ⟨lowerLe, leUpper⟩ := between_of_index isTried
      exact ⟨_, lowerLe, leUpper, source⟩
  · rintro ⟨number, lowerLe, leUpper, chosen⟩
    exact mem_rangeTargets (Int64.le_iff_toInt_le.mp lowerLe) (Int64.le_iff_toInt_le.mp leUpper)
      succeeded chosen

/-- Not more different targets are found than there are residues that lead to them. -/
theorem length_le_of_reached
    {targetOf : Nat → Option String}
    {residues : List Nat}
    {found : List String}
    (distinct : found.Nodup)
    (reached : ∀ target ∈ found, ∃ residue ∈ residues, targetOf residue = some target) :
    found.length ≤ residues.length := by
  have within : found.map some ⊆ residues.map targetOf := by
    intro option member
    obtain ⟨target, isFound, rfl⟩ := List.mem_map.mp member
    obtain ⟨residue, isResidue, leads⟩ := reached target isFound
    exact List.mem_map.mpr ⟨residue, isResidue, leads⟩
  have different : (found.map some).Nodup := distinct.map (Option.some_injective _)
  simpa using (different.subperm within).length_le

/-- Where as many different targets are found as there are residues, every residue leads to one. -/
theorem exists_of_all_found
    {targetOf : Nat → Option String}
    {bound : Nat}
    {found : List String}
    (distinct : found.Nodup)
    (reached : ∀ target ∈ found, ∃ residue < bound, targetOf residue = some target)
    (enough : bound ≤ found.length)
    {residue : Nat}
    (isResidue : residue < bound) :
    ∃ target, targetOf residue = some target := by
  by_contra isMissing
  -- All targets would be found by the other residues, which are too few.
  have others : ∀ target ∈ found, ∃ other ∈ (List.range bound).erase residue,
      targetOf other = some target := by
    intro target isFound
    obtain ⟨other, isOther, leads⟩ := reached target isFound
    have differs : other ≠ residue := by
      rintro rfl
      exact isMissing ⟨target, leads⟩
    exact ⟨other, (List.mem_erase_of_ne differs).mpr (List.mem_range.mpr isOther), leads⟩
  have isFew := length_le_of_reached distinct others
  rw [List.length_erase_of_mem (List.mem_range.mpr isResidue), List.length_range] at isFew
  omega

/-- The first target that ends with the digits of a residue. -/
def endingIn? (targets : List String) (residue : Nat) : Option String :=
  targets.find? fun target => (toString residue).toList.isSuffixOf target.toList

/-- What divides leads to the target that ends with the digits of its residue. -/
theorem exists_residue
    (targets : List String)
    {modulus : UInt64}
    (nonzero : modulus ≠ 0)
    {number : Int64}
    (divides : ¬ Overflows modulus number) :
    ∃ residue < magnitude modulus, ∀ target,
      Remainder.target (some modulus) targets (.integer number) = .ok target ↔
        endingIn? targets residue = some target := by
  have isPositive := magnitude_pos nonzero
  obtain ⟨residue, isResidue⟩ : ∃ residue : Nat, number.toInt % magnitude modulus = residue :=
    ⟨_, (Int.toNat_of_nonneg (Int.emod_nonneg _ (by omega))).symm⟩
  have isBelow := Int.emod_lt_of_pos number.toInt (show (0 : Int) < magnitude modulus by omega)
  refine ⟨residue, by omega, fun target => ?_⟩
  have placed := (isPlacedBy_magnitude nonzero divides).listed targets
  rw [isResidue] at placed
  rw [placed]
  split
  next found isFound =>
    have isFirst : endingIn? targets residue = some found := isFound
    simp [isFirst]
  next noneFound =>
    have isMissing : endingIn? targets residue = none := noneFound
    simp [isMissing]

/-- An integer that has a target has the one that ends with the digits of a residue. -/
theorem exists_residue_of_target
    {modulus : UInt64}
    {number : Int64}
    {target : String}
    (chosen : Remainder.target (some modulus) targets (.integer number) = .ok target) :
    modulus ≠ 0 ∧ ∃ residue < magnitude modulus, endingIn? targets residue = some target := by
  have nonzero : modulus ≠ 0 := by
    rintro rfl
    cases chosen
  refine ⟨nonzero, ?_⟩
  by_cases overflows : Overflows modulus number
  · cases (target_of_overflows overflows targets).symm.trans chosen
  · obtain ⟨residue, isResidue, leads⟩ := exists_residue targets nonzero overflows
    exact ⟨residue, isResidue, (leads target).mp chosen⟩

/-- Where as many different targets are reached as are listed, every integer has a target. -/
theorem exists_target_of_complete
    {result : List String}
    (distinct : result.Nodup)
    (sources : ∀ target ∈ result, ∃ number : Int64,
      Remainder.target none targets (.integer number) = .ok target)
    (nonempty : targets ≠ [])
    (isComplete : result.length = targets.length)
    (number : Int64) :
    ∃ target, Remainder.target none targets (.integer number) = .ok target := by
  -- Without a modulus, the number of targets is taken.
  obtain ⟨modulus, isModulus, isCount⟩ : ∃ modulus : UInt64,
      (∀ value, Remainder.target none targets value = Remainder.target (some modulus) targets value) ∧
        modulus.toNat = targets.length % 2 ^ 64 :=
    ⟨targets.length.toUInt64, fun _ => rfl, UInt64.toNat_ofNat'⟩
  simp only [isModulus] at sources ⊢
  have reached : ∀ target ∈ result, ∃ residue < magnitude modulus,
      endingIn? targets residue = some target := by
    intro target member
    obtain ⟨source, chosen⟩ := sources target member
    exact (exists_residue_of_target chosen).2
  have nonzero : modulus ≠ 0 := by
    have isCounted : 0 < result.length := isComplete ▸ List.length_pos_of_ne_nil nonempty
    obtain ⟨source, chosen⟩ := sources _ (List.getElem_mem isCounted)
    exact (exists_residue_of_target chosen).1
  have isFew : result.length ≤ magnitude modulus := by
    have listed : ∀ target ∈ result, ∃ residue ∈ List.range (magnitude modulus),
        endingIn? targets residue = some target := by
      simpa only [List.mem_range] using reached
    simpa only [List.length_range] using length_le_of_reached distinct listed
  have divides : ¬ Overflows modulus number := by
    rintro ⟨isLargest, -⟩
    rw [magnitude] at isFew
    omega
  obtain ⟨residue, isResidue, leads⟩ := exists_residue targets nonzero divides
  have enough : magnitude modulus ≤ result.length := by
    rw [magnitude]
    omega
  obtain ⟨target, isFound⟩ := exists_of_all_found distinct reached enough isResidue
  exact ⟨target, (leads target).mpr isFound⟩

/-- Where a range succeeds without a modulus, each of its integers has a target. -/
theorem exists_target_of_rangeTargets
    {result : List String}
    (succeeded : rangeTargets none targets lower upper = .ok result)
    {number : Int64}
    (lowerLe : lower ≤ number)
    (leUpper : number ≤ upper) :
    ∃ target, Remainder.target none targets (.integer number) = .ok target := by
  rcases (collected_of_collect succeeded).reaches with isComplete | reached
  · simp only [Bool.and_eq_true, Bool.not_eq_true', beq_iff_eq, List.isEmpty_eq_false_iff] at isComplete
    have covers := covers_of_rangeTargets succeeded
    refine exists_target_of_complete covers.distinct (fun target member => ?_) isComplete.1
      isComplete.2 number
    obtain ⟨source, -, -, chosen⟩ := (covers.mem_iff target).mp member
    exact ⟨source, chosen⟩
  · obtain ⟨index, isTried, rfl⟩ := exists_index lowerLe leUpper
    obtain ⟨target, -, chosen⟩ := reached index isTried
    exact ⟨target, chosen⟩

/-- **A range among listed targets covers its integers.**  If it succeeds, its targets are those of the
integers between its bounds, each of them once, although the search ends as soon as all targets are
found.  Without a modulus, it fails if and only if one of these integers has no target. -/
theorem moduloChoice_covers_range
    (modulus : Option UInt64)
    (targets : List String)
    (lower upper : Int64) :
    (∀ result, (Algorithm.moduloChoice modulus).between targets lower upper = .ok result →
      (Algorithm.moduloChoice modulus).Covers targets lower upper result) ∧
    ((∃ error, (Algorithm.moduloChoice none).between targets lower upper = .error error) ↔
      ∃ number : Int64, lower ≤ number ∧ number ≤ upper ∧
        ∃ error, (Algorithm.moduloChoice none).equal targets (.integer number) = .error error) := by
  refine ⟨fun result succeeded => covers_of_rangeTargets succeeded, ?_, ?_⟩
  · rintro ⟨error, failed⟩
    obtain ⟨index, isTried, failure⟩ := exists_failure_of_collect failed
    obtain ⟨lowerLe, leUpper⟩ := between_of_index isTried
    exact ⟨_, lowerLe, leUpper, error, failure⟩
  · rintro ⟨number, lowerLe, leUpper, error, failure⟩
    cases ran : rangeTargets none targets lower upper with
    | error error => exact ⟨error, ran⟩
    | ok result =>
        obtain ⟨target, chosen⟩ := exists_target_of_rangeTargets ran lowerLe leUpper
        cases failure.symm.trans chosen

/-- All integers together lead to the two targets that are listed, in the order in which they are
reached; with one target listed twice, an odd number has none. -/
theorem moduloChoice_covers_everything :
    (Algorithm.moduloChoice none).between ["t_1", "t_0"] Int64.minValue Int64.maxValue =
        .ok ["t_0", "t_1"] ∧
      (Algorithm.moduloChoice none).Covers ["t_1", "t_0"] Int64.minValue Int64.maxValue
        ["t_0", "t_1"] ∧
      ∃ error, (Algorithm.moduloChoice none).between ["t_0", "t_0"] 0 1 = .error error := by
  have succeeded : (Algorithm.moduloChoice none).between ["t_1", "t_0"] Int64.minValue
      Int64.maxValue = .ok ["t_0", "t_1"] :=
    Success.toOption_eq_some.mp (by decide +kernel)
  have covers := (moduloChoice_covers_range none ["t_1", "t_0"] Int64.minValue Int64.maxValue).1
  refine ⟨succeeded, covers _ succeeded, ?_⟩
  have fails := (moduloChoice_covers_range none ["t_0", "t_0"] 0 1).2
  exact fails.mpr ⟨1, by decide, by decide, _, rfl⟩

end Listed

section MadeUp

variable {stem : String} {modulus : UInt64} {lower upper : Int64}

/-- The name that is made up for an integer: the stem and its remainder. -/
def madeName (stem : String) (modulus : UInt64) (number : Int64) : String :=
  stem ++ toString (number.toInt % modulus.toNat)

/-- A modulus that is a signed integer makes up the name of every integer. -/
theorem dynamicTarget_eq_madeName
    (isPositive : 1 ≤ modulus.toNat)
    (isSigned : (modulus.toNat : Int) ≤ Integer.greatest)
    (number : Int64) :
    dynamicTarget stem modulus (.integer number) = .ok (madeName stem modulus number) := by
  simp only [Integer.greatest] at isSigned
  have nonzero : modulus ≠ 0 := by
    rintro rfl
    exact absurd isPositive (by decide)
  have divides : ¬ Overflows modulus number := by
    rintro ⟨isLargest, -⟩
    omega
  have isOwn : magnitude modulus = modulus.toNat := by
    rw [magnitude]
    omega
  have placed := isPlacedBy_magnitude nonzero divides
  rw [isOwn] at placed
  exact placed.made stem

/-- As many integers of a range are tried as there are remainders, or all if there are fewer. -/
theorem dynamicRangeTargets_eq_collect
    (isPositive : 1 ≤ modulus.toNat)
    (isSigned : (modulus.toNat : Int) ≤ Integer.greatest) :
    dynamicRangeTargets stem modulus lower upper =
      collect (fun number => dynamicTarget stem modulus (.integer number)) (fun _ => false)
        (min modulus.toNat (rangeCount lower.toInt upper.toInt)) lower.toInt [] := by
  have isOwn : modulus.toInt64.toInt = modulus.toNat := by
    rw [toInt_toInt64, if_pos]
    simp only [Integer.greatest] at isSigned
    omega
  have lowest := lower.le_toInt
  have highest := upper.toInt_lt
  have isCount : rangeCount lower.toInt (min upper.toInt (max Integer.least
      (min Integer.greatest (lower.toInt + ((modulus.toNat : Int) - 1))))) =
      min modulus.toNat (rangeCount lower.toInt upper.toInt) := by
    unfold rangeCount
    simp only [Integer.least, Integer.greatest]
    omega
  unfold dynamicRangeTargets
  rw [isOwn, Integer.toInt_saturate, if_neg (by simp only [Integer.least]; omega)]
  dsimp only
  rw [isCount]

/-- Every integer of a range has the name of one that is tried. -/
theorem exists_tried_name
    (isPositive : 1 ≤ modulus.toNat)
    {number : Int64}
    (member : number ∈ integersBetween lower upper) :
    ∃ tried ∈ (integersBetween lower upper).take modulus.toNat,
      madeName stem modulus tried = madeName stem modulus number := by
  obtain ⟨lowerLe, leUpper⟩ := mem_integersBetween.mp member
  rw [Int64.le_iff_toInt_le] at lowerLe leUpper
  obtain ⟨index, isTried, same⟩ :=
    exists_tried_remainder (show (0 : Int) < modulus.toNat by omega) lowerLe rfl
  have isCounted : index < rangeCount lower.toInt upper.toInt := by
    unfold rangeCount
    omega
  refine ⟨Int64.ofInt (lower.toInt + index), ?_, ?_⟩
  · rw [take_integersBetween, integersFrom]
    refine List.mem_map.mpr ⟨index, List.mem_range.mpr ?_, rfl⟩
    omega
  · rw [madeName, madeName, toInt_ofInt_add_index isCounted, same]

/-- The names of the integers that are tried are those of all integers. -/
theorem eraseDups_take_madeNames (isPositive : 1 ≤ modulus.toNat) :
    (((integersBetween lower upper).take modulus.toNat).map (madeName stem modulus)).eraseDups =
      ((integersBetween lower upper).map (madeName stem modulus)).eraseDups := by
  have occur : ((integersBetween lower upper).drop modulus.toNat).map (madeName stem modulus) ⊆
      ((integersBetween lower upper).take modulus.toNat).map (madeName stem modulus) := by
    intro name member
    obtain ⟨number, isLater, rfl⟩ := List.mem_map.mp member
    obtain ⟨tried, isTried, same⟩ := exists_tried_name isPositive (List.mem_of_mem_drop isLater)
    exact List.mem_map.mpr ⟨tried, isTried, same⟩
  rw [← eraseDups_append_of_subset occur, ← List.map_append, List.take_append_drop]

/-- A range leads to the names of its integers, less their repetitions. -/
theorem dynamicRangeTargets_eq_ok
    (isPositive : 1 ≤ modulus.toNat)
    (isSigned : (modulus.toNat : Int) ≤ Integer.greatest) :
    dynamicRangeTargets stem modulus lower upper =
      .ok ((integersBetween lower upper).map (madeName stem modulus)).eraseDups := by
  have isNamed : ∀ number ∈ (integersBetween lower upper).take modulus.toNat,
      dynamicTarget stem modulus (.integer number) = .ok (madeName stem modulus number) :=
    fun number _ => dynamicTarget_eq_madeName isPositive isSigned number
  have named := Success.mapM_eq_ok_map isNamed
  rw [take_integersBetween] at named
  have isFold := foldl_insertTarget []
    (((integersBetween lower upper).take modulus.toNat).map (madeName stem modulus))
  rw [List.eraseDups_nil, List.nil_append, eraseDups_take_madeNames isPositive] at isFold
  rw [dynamicRangeTargets_eq_collect isPositive isSigned, collect_eq_mapM, named, Except.map,
    ← take_integersBetween, isFold]

theorem mem_madeNames
    (isPositive : 1 ≤ modulus.toNat)
    {name : String} :
    name ∈ (integersBetween lower upper).map (madeName stem modulus) ↔
      ∃ residue : Nat, (∃ number : Int64, lower ≤ number ∧ number ≤ upper ∧
        number.toInt % modulus.toNat = residue) ∧ name = stem ++ toString residue := by
  simp only [List.mem_map, mem_integersBetween]
  constructor
  · rintro ⟨number, ⟨lowerLe, leUpper⟩, rfl⟩
    have nonneg := Int.emod_nonneg number.toInt (show (modulus.toNat : Int) ≠ 0 by omega)
    obtain ⟨residue, isResidue⟩ := Int.eq_ofNat_of_zero_le nonneg
    refine ⟨residue, ⟨number, lowerLe, leUpper, isResidue⟩, ?_⟩
    rw [madeName, isResidue]
    rfl
  · rintro ⟨residue, ⟨number, lowerLe, leUpper, isResidue⟩, rfl⟩
    refine ⟨number, ⟨lowerLe, leUpper⟩, ?_⟩
    rw [madeName, isResidue]
    rfl

/-- **A range among made-up targets covers its integers.**  By a modulus that is a signed integer, a
range always succeeds.  It leads to the names that the list of all its integers leads to, each of
them once, in the order in which they occur first; these are the stem and a residue of one of the
integers.  Not more integers are tried for it than there are residues. -/
theorem range_eq_list_of_integers
    (isPositive : 1 ≤ modulus.toNat)
    (isSigned : (modulus.toNat : Int) ≤ Integer.greatest)
    (stem : String)
    (lower upper : Int64)
    (targets : List String)
    (table column : String) :
    ∃ names : List String,
      Algorithm.chooseSingle (Algorithm.dynamicModuloChoice stem modulus) targets
          ⟨table, column, .list ((integersBetween lower upper).map Value.integer)⟩ = .ok names ∧
      Algorithm.chooseSingle (Algorithm.dynamicModuloChoice stem modulus) targets
          ⟨table, column, .range (.integer lower) (.integer upper)⟩ = .ok names.eraseDups ∧
      names.eraseDups.Nodup ∧
      (∀ name, name ∈ names.eraseDups ↔
        ∃ residue : Nat, (∃ number : Int64, lower ≤ number ∧ number ≤ upper ∧
          number.toInt % modulus.toNat = residue) ∧ name = stem ++ toString residue) ∧
      dynamicRangeTargets stem modulus lower upper =
        collect (fun number => dynamicTarget stem modulus (.integer number)) (fun _ => false)
          (min modulus.toNat (rangeCount lower.toInt upper.toInt)) lower.toInt [] := by
  refine ⟨(integersBetween lower upper).map (madeName stem modulus), ?_,
    dynamicRangeTargets_eq_ok isPositive isSigned, nodup_eraseDups _, fun name => ?_,
    dynamicRangeTargets_eq_collect isPositive isSigned⟩
  · change ((integersBetween lower upper).map Value.integer).mapM
      (fun member => dynamicTarget stem modulus member) = _
    rw [List.mapM_map]
    exact Success.mapM_eq_ok_map fun number _ => dynamicTarget_eq_madeName isPositive isSigned number
  · rw [List.mem_eraseDups, mem_madeNames isPositive]

/-- The last three integers leave the remainders five, six and zero by seven. -/
theorem range_eq_list_of_last_integers :
    (1 ≤ (7 : UInt64).toNat ∧ ((7 : UInt64).toNat : Int) ≤ Integer.greatest) ∧
      Algorithm.chooseSingle (Algorithm.dynamicModuloChoice "t_" 7) []
          ⟨"t_log", "order_id", .range (.integer 9223372036854775805) (.integer Int64.maxValue)⟩ =
        .ok ["t_5", "t_6", "t_0"] := by
  have bounds : 1 ≤ (7 : UInt64).toNat ∧ ((7 : UInt64).toNat : Int) ≤ Integer.greatest := by decide
  have listed : Algorithm.chooseSingle (Algorithm.dynamicModuloChoice "t_" 7) []
      ⟨"t_log", "order_id", .list ((integersBetween 9223372036854775805 Int64.maxValue).map
        Value.integer)⟩ = .ok ["t_5", "t_6", "t_0"] :=
    Success.toOption_eq_some.mp (by decide +kernel)
  obtain ⟨names, isList, isRange, -⟩ := range_eq_list_of_integers bounds.1 bounds.2 "t_"
    9223372036854775805 Int64.maxValue [] "t_log" "order_id"
  obtain rfl : names = ["t_5", "t_6", "t_0"] := Except.ok.inj (isList.symm.trans listed)
  exact ⟨bounds, isRange.trans (congrArg Except.ok (by decide +kernel))⟩

end MadeUp

end Remainder

end ShardedSql
