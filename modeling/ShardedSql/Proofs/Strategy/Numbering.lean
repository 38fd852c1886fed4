import Mathlib.Algebra.Group.Nat.Defs
import Mathlib.Data.List.Nodup
import ShardedSql.Proofs.Strategy.Remainder

/-!
# Numbered targets in any order

Where the targets are numbered from zero on, a value belongs to the target with the number of its remainder.
The first target whose name ends with the digits of the remainder is taken, and a longer number may end with
them too.  The main statement says which listings of the targets lead a value to the right one.
-/

namespace ShardedSql

/-- The name of the target with a number. -/
def numberedTarget (stem : String) (number : Nat) : String :=
  stem ++ toString number

/-- Whether the digits of one number end with those of another. -/
def EndsInDigitsOf (number ending : Nat) : Prop :=
  (toString ending).toList <:+ (toString number).toList

instance (number ending : Nat) : Decidable (EndsInDigitsOf number ending) :=
  inferInstanceAs (Decidable ((toString ending).toList <:+ (toString number).toList))

/-- The targets with the numbers below a bound, in ascending order. -/
def numberedTargets (stem : String) (count : Nat) : List String :=
  (List.range count).map (numberedTarget stem)

/-- Whether the target with a number is listed in front of all others whose numbers end with its digits. -/
def IsListedFirst
    (targets : List String)
    (stem : String)
    (number : Nat) : Prop :=
  ∀ other, [numberedTarget stem other, numberedTarget stem number].Sublist targets →
    ¬ EndsInDigitsOf other number

theorem toList_toString (number : Nat) :
    (toString number).toList = Nat.toDigits 10 number :=
  Nat.toList_repr

theorem toString_injective :
    Function.Injective fun number : Nat => toString number := by
  intro first second equal
  have written : toString (first : Int) = toString (second : Int) := equal
  exact Int.ofNat.inj (AllDigits.toString_inj_of_nonneg (Int.natCast_nonneg first)
    (Int.natCast_nonneg second) written)

theorem allDigits_toString (number : Nat) :
    AllDigits (toString number).toList :=
  AllDigits.toString_of_nonneg (Int.natCast_nonneg number)

namespace EndsInDigitsOf

theorem refl (number : Nat) :
    EndsInDigitsOf number number :=
  List.suffix_refl _

/-- A number that ends with the digits of another is not below it. -/
theorem le
    {number ending : Nat}
    (ends : EndsInDigitsOf number ending) :
    ending ≤ number := by
  obtain ⟨front, split⟩ := ends
  rw [toList_toString, toList_toString] at split
  have values := congrArg (fun digits => Nat.ofDigitChars 10 digits 0) split
  simp only [Nat.ofDigitChars_append] at values
  rw [Nat.ofDigitChars_eq_ofDigitChars_zero, Nat.ofDigitChars_toDigits (by decide) (by decide),
    Nat.ofDigitChars_toDigits (by decide) (by decide)] at values
  omega

/-- Numbers of one digit end with no digits but their own. -/
theorem eq_of_lt_ten
    {number ending : Nat}
    (isDigit : number < 10)
    (ends : EndsInDigitsOf number ending) :
    number = ending := by
  have sameLength : (toString ending).toList.length = (toString number).toList.length := by
    have isSmall : ending < 10 := Nat.lt_of_le_of_lt ends.le isDigit
    rw [toList_toString, toList_toString, Nat.toDigits_of_lt_base isSmall,
      Nat.toDigits_of_lt_base isDigit]
    rfl
  exact (toString_injective (String.toList_inj.mp (ends.eq_of_length sameLength))).symm

end EndsInDigitsOf

section Names

variable {stem : String} {targets : List String} {count : Nat}

theorem numberedTarget_injective (stem : String) :
    Function.Injective (numberedTarget stem) := by
  intro first second equal
  exact toString_injective ((String.append_right_inj stem).mp equal)

theorem mem_numberedTargets
    {target : String} :
    target ∈ numberedTargets stem count ↔ ∃ number < count, numberedTarget stem number = target := by
  simp [numberedTargets]

theorem nodup_numberedTargets (stem : String) (count : Nat) :
    (numberedTargets stem count).Nodup :=
  List.nodup_range.map (numberedTarget_injective stem)

/-- Behind a stem that does not end in a digit, a name ends with the digits of a number only if its own number
does. -/
theorem suffix_numberedTarget_iff
    (isOpen : ∀ last ∈ stem.toList.getLast?, last.isDigit = false)
    {number ending : Nat} :
    (toString ending).toList <:+ (numberedTarget stem number).toList ↔
      EndsInDigitsOf number ending := by
  have isName : (toString number).toList <:+ (numberedTarget stem number).toList := by
    rw [numberedTarget, String.toList_append]
    exact List.suffix_append _ _
  constructor
  · intro isEnding
    rcases List.suffix_or_suffix_of_suffix isEnding isName with within | ⟨front, beyond⟩
    · exact within
    · rcases List.eq_nil_or_concat' front with rfl | ⟨front, digit, rfl⟩
      · exact ⟨[], beyond.symm⟩
      · -- The digit in front of the number would be the last character of the stem.
        exfalso
        obtain ⟨before, split⟩ := isEnding
        rw [numberedTarget, String.toList_append, ← beyond, ← List.append_assoc] at split
        have isLast : digit ∈ stem.toList.getLast? := by
          rw [← List.append_cancel_right split]
          simp
        have isDigit : digit.isDigit = true :=
          allDigits_toString ending digit (by rw [← beyond]; simp)
        rw [isOpen digit isLast] at isDigit
        exact Bool.false_ne_true isDigit
  · exact fun within => List.IsSuffix.trans within isName

/-- The first target that ends with the digits of a number has this number if and only if it is listed in
front of all others that do. -/
theorem eq_iff_isListedFirst
    (isOpen : ∀ last ∈ stem.toList.getLast?, last.isDigit = false)
    (distinct : targets.Nodup)
    {number chosen : Nat}
    (isListed : numberedTarget stem number ∈ targets)
    (found : (targets.find? fun candidate =>
      (toString number).toList.isSuffixOf candidate.toList) = some (numberedTarget stem chosen)) :
    chosen = number ↔ IsListedFirst targets stem number := by
  have endsAlike (other : Nat) :
      (toString number).toList.isSuffixOf (numberedTarget stem other).toList = true ↔
        EndsInDigitsOf other number :=
    List.isSuffixOf_iff_suffix.trans (suffix_numberedTarget_iff isOpen)
  obtain ⟨ends, earlier, later, rfl, passed⟩ := List.find?_eq_some_iff_append.mp found
  have notEarlier (other : Nat) (isEarlier : numberedTarget stem other ∈ earlier) :
      ¬ EndsInDigitsOf other number := by
    have isPassed := passed _ isEarlier
    rwa [Bool.not_eq_true', ← Bool.not_eq_true, endsAlike] at isPassed
  have notLater : numberedTarget stem chosen ∉ later :=
    (List.nodup_cons.mp (List.nodup_append.mp distinct).2.1).1
  constructor
  · rintro rfl other isBefore alike
    obtain ⟨front, back, split, inEarlier, inLater⟩ := List.sublist_append_iff.mp isBefore
    cases front with
    | nil =>
        rw [List.nil_append] at split
        rw [← split] at inLater
        exact notLater (List.singleton_sublist.mp inLater.tail)
    | cons first rest =>
        obtain ⟨rfl, -⟩ := List.cons.inj split
        exact notEarlier other (inEarlier.subset List.mem_cons_self) alike
  · intro isFirst
    by_contra differ
    -- The target with this number would stand behind the chosen one.
    rcases List.mem_append.mp isListed with isEarlier | isLater
    · exact notEarlier number isEarlier (.refl number)
    · rcases List.mem_cons.mp isLater with isChosen | isLater
      · exact differ (numberedTarget_injective stem isChosen).symm
      · exact isFirst chosen ((List.Sublist.cons_cons _ (List.singleton_sublist.mpr isLater)).trans
          (List.sublist_append_right _ _)) ((endsAlike chosen).mp ends)

/-- A target may be listed anywhere if no other number ends with its digits. -/
theorem isListedFirst_of_alone
    (isListing : targets.Perm (numberedTargets stem count))
    {number : Nat}
    (alone : ∀ other < count, EndsInDigitsOf other number → other = number) :
    IsListedFirst targets stem number := by
  intro other isBefore ends
  have isTarget : numberedTarget stem other ∈ numberedTargets stem count :=
    isListing.subset (isBefore.subset List.mem_cons_self)
  obtain ⟨found, isBelow, same⟩ := mem_numberedTargets.mp isTarget
  cases numberedTarget_injective stem same
  cases alone other isBelow ends
  -- The target would be listed twice.
  have isTwice := isBefore.nodup (isListing.nodup_iff.mpr (nodup_numberedTargets stem count))
  simp at isTwice

/-- Targets may always be listed in ascending order. -/
theorem isListedFirst_numberedTargets (number : Nat) :
    IsListedFirst (numberedTargets stem count) stem number := by
  intro other isBefore ends
  obtain ⟨numbers, within, same⟩ := List.sublist_map_iff.mp isBefore
  have isPair : [other, number] = numbers :=
    (List.map_injective_iff.mpr (numberedTarget_injective stem)) same
  have ascending := List.pairwise_lt_range.sublist (isPair ▸ within)
  have isBelow : other < number := by simpa using ascending
  exact Nat.not_lt.mpr ends.le isBelow

end Names

namespace Remainder

section Listing

variable {targets : List String} {value : Value} {number : Int64}

/-- Without a modulus, the target is the first one that ends with the digits of the remainder by the number
of targets. -/
theorem target_none_eq_ok_iff
    (nonempty : targets ≠ [])
    (isCountable : targets.length < 2 ^ 63)
    (standsFor : value.toInteger? = some number)
    {target : String} :
    Remainder.target none targets value = .ok target ↔
      (targets.find? fun candidate =>
        (toString (number.toInt % targets.length)).toList.isSuffixOf candidate.toList) = some target := by
  have isPositive : 0 < targets.length := List.length_pos_of_ne_nil nonempty
  have asSigned : targets.length.toUInt64.toInt64.toInt = targets.length := by
    rw [show targets.length.toUInt64.toInt64 = Int64.ofNat targets.length from UInt64.toInt64_ofNat']
    exact Int64.toInt_ofNat_of_lt isCountable
  have nonzero : targets.length.toUInt64 ≠ 0 := by
    intro isZero
    rw [isZero] at asSigned
    have : (0 : UInt64).toInt64.toInt = 0 := rfl
    omega
  have divided : ofValue number targets.length.toUInt64 = .ok (number.toInt % targets.length) := by
    rw [ofValue, asSigned, if_neg (by omega)]
  have known := integerOf_eq_ok.mpr standsFor
  simp only [Remainder.target, known, Option.getD_none, nonzero, if_false, divided, bind, Except.bind]
  split
  next found isFound => rw [isFound, Except.ok.injEq, Option.some.injEq]
  next isMissing => rw [isMissing]; simp

/-- **The target of a remainder is reached where it is listed in front of those whose names end alike.**  Let
the targets with the numbers below `count` be listed in any order behind a stem that does not end in a digit.
A value is always sent to a target whose number ends with the digits of the value's remainder by `count`.  It is
the one with this number if and only if it stands in front of all others of this kind; so it is with up to ten
targets, and with any number of them in ascending order. -/
theorem exists_numbered_target
    {stem : String}
    (isOpen : ∀ last ∈ stem.toList.getLast?, last.isDigit = false)
    {count : Nat}
    (isPositive : 1 ≤ count)
    (isCountable : count < 2 ^ 63)
    (isListing : targets.Perm (numberedTargets stem count))
    (standsFor : value.toInteger? = some number) :
    ∃ residue chosen : Nat,
      residue = number.toInt % count ∧
      Remainder.target none targets value = .ok (numberedTarget stem chosen) ∧
      EndsInDigitsOf chosen residue ∧
      (chosen = residue ↔ IsListedFirst targets stem residue) ∧
      (count ≤ 10 ∨ targets = numberedTargets stem count → chosen = residue) := by
  have isLength : targets.length = count := by simpa [numberedTargets] using isListing.length_eq
  have distinct : targets.Nodup := isListing.nodup_iff.mpr (nodup_numberedTargets stem count)
  have nonempty : targets ≠ [] := by
    rintro rfl
    simp at isLength
    omega
  obtain ⟨residue, isResidue⟩ : ∃ residue : Nat, residue = number.toInt % count :=
    ⟨(number.toInt % count).toNat, Int.toNat_of_nonneg (Int.emod_nonneg _ (by omega))⟩
  have isBelow : residue < count := by
    have := Int.emod_lt_of_pos number.toInt (show (0 : Int) < count by omega)
    omega
  have ownTarget : numberedTarget stem residue ∈ targets :=
    isListing.symm.subset (mem_numberedTargets.mpr ⟨residue, isBelow, rfl⟩)
  have reached : ∀ target, Remainder.target none targets value = .ok target ↔
      (targets.find? fun candidate => (toString residue).toList.isSuffixOf candidate.toList) =
        some target := by
    intro target
    rw [target_none_eq_ok_iff nonempty (isLength ▸ isCountable) standsFor, isLength, ← isResidue]
    rfl
  have isFound : (targets.find? fun candidate =>
      (toString residue).toList.isSuffixOf candidate.toList).isSome = true :=
    List.find?_isSome.mpr ⟨_, ownTarget,
      List.isSuffixOf_iff_suffix.mpr ((suffix_numberedTarget_iff isOpen).mpr (.refl residue))⟩
  obtain ⟨target, found⟩ := Option.isSome_iff_exists.mp isFound
  obtain ⟨chosen, -, rfl⟩ := mem_numberedTargets.mp (isListing.subset (List.mem_of_find?_eq_some found))
  have isFirst := eq_iff_isListedFirst isOpen distinct ownTarget found
  refine ⟨residue, chosen, isResidue, (reached _).mpr found, ?_, isFirst, ?_⟩
  · have ends := List.find?_some found
    exact (suffix_numberedTarget_iff isOpen).mp (List.isSuffixOf_iff_suffix.mp ends)
  · rintro (areFew | rfl)
    · exact isFirst.mpr (isListedFirst_of_alone isListing fun other isOther alike =>
        alike.eq_of_lt_ten (Nat.lt_of_lt_of_le isOther areFew))
    · exact isFirst.mpr (isListedFirst_numberedTargets residue)

end Listing

section Samples

/-- Eleven targets, the last of which is listed first. -/
def displacedTargets : List String :=
  numberedTarget "t_" 10 :: numberedTargets "t_" 10

theorem displacedTargets_perm :
    displacedTargets.Perm (numberedTargets "t_" 11) := by
  rw [numberedTargets, List.range_succ, List.map_append]
  exact (List.perm_append_singleton _ _).symm

/-- In this order, a value with the remainder five is still sent to the target with this number. -/
theorem displacedTargets_five :
    (∀ last ∈ "t_".toList.getLast?, last.isDigit = false) ∧
      displacedTargets.Perm (numberedTargets "t_" 11) ∧
      (Value.text "-6").toInteger? = some (-6) ∧
      IsListedFirst displacedTargets "t_" 5 ∧
      Remainder.target none displacedTargets (.text "-6") = .ok (numberedTarget "t_" 5) := by
  have isOpen : ∀ last ∈ "t_".toList.getLast?, last.isDigit = false := by
    have isLast : "t_".toList.getLast? = some '_' := by decide
    intro last isThere
    rw [isLast] at isThere
    cases isThere
    rfl
  have standsFor : (Value.text "-6").toInteger? = some (-6) := by decide +kernel
  have isFive : IsListedFirst displacedTargets "t_" 5 :=
    isListedFirst_of_alone displacedTargets_perm (by decide +kernel)
  obtain ⟨residue, chosen, isResidue, reached, -, isFirst, -⟩ :=
    exists_numbered_target isOpen (by decide) (by decide) displacedTargets_perm standsFor
  obtain rfl : residue = 5 := Int.ofNat.inj (isResidue.trans (by decide))
  rw [isFirst.mpr isFive] at reached
  exact ⟨isOpen, displacedTargets_perm, standsFor, isFive, reached⟩

/-- In this order, a value with the remainder zero is sent to the target with the number ten. -/
theorem displacedTargets_zero :
    displacedTargets.Perm (numberedTargets "t_" 11) ∧
      Remainder.target none displacedTargets (.integer 0) = .ok "t_10" ∧
      "t_10" ≠ numberedTarget "t_" 0 :=
  ⟨displacedTargets_perm, Success.toOption_eq_some.mp (by decide +kernel), by decide +kernel⟩

end Samples

end Remainder

end ShardedSql
