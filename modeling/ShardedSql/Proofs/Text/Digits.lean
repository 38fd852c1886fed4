import ShardedSql.Text.AsciiCase

/-!
# Decimal digits in names

The digits that write a number have no letter case, so that names which differ in letter case alone
end with the same digits.
-/

namespace ShardedSql

/-- The ten decimal digits. -/
def decimalDigits : List Char :=
  ['0', '1', '2', '3', '4', '5', '6', '7', '8', '9']

theorem mem_decimalDigits
    {character : Char}
    (isDigit : character.isDigit = true) :
    character ∈ decimalDigits := by
  have bounds : 48 ≤ character.toNat ∧ character.toNat ≤ 57 := by
    simpa [Char.isDigit, UInt32.le_iff_toNat_le] using isDigit
  have back : character = Char.ofNat character.toNat := character.ofNat_toNat.symm
  generalize character.toNat = code at bounds back
  subst back
  have codes : code = 48 ∨ code = 49 ∨ code = 50 ∨ code = 51 ∨ code = 52 ∨ code = 53 ∨ code = 54 ∨
      code = 55 ∨ code = 56 ∨ code = 57 := by omega
  rcases codes with rfl | rfl | rfl | rfl | rfl | rfl | rfl | rfl | rfl | rfl <;> decide

/-- What can be tested of the ten digits holds for every digit. -/
theorem test_of_isDigit
    (test : Char → Bool)
    (holds : decimalDigits.all test = true)
    {character : Char}
    (isDigit : character.isDigit = true) :
    test character = true :=
  List.all_eq_true.mp holds character (mem_decimalDigits isDigit)

/-- Whether every character is a decimal digit. -/
def AllDigits (characters : List Char) : Prop :=
  ∀ character ∈ characters, character.isDigit = true

namespace AllDigits

theorem toString_of_nonneg
    {number : Int}
    (nonneg : 0 ≤ number) :
    AllDigits (toString number).toList := by
  obtain ⟨natural, rfl⟩ := Int.eq_ofNat_of_zero_le nonneg
  have digits : (toString (natural : Int)).toList = Nat.toDigits 10 natural := by
    change natural.repr.toList = _
    exact Nat.toList_repr
  rw [digits]
  intro character member
  exact Nat.isDigit_of_mem_toDigits (by decide) (by decide) member

/-- A digit is the lower case of itself alone. -/
theorem eq_of_toLower_eq
    {character digit : Char}
    (isDigit : digit.isDigit = true)
    (lower : character.toLower = digit) :
    character = digit := by
  unfold Char.toLower at lower
  split at lower
  next upper =>
    exfalso
    rw [← lower, Char.isDigit_iff_toNat] at isDigit
    have lowest : 'A'.toNat ≤ character.toNat := upper.1
    have highest : character.toNat ≤ 'Z'.toNat := upper.2
    have shifted : (character.val + ('a'.val - 'A'.val)).toNat ≤ '9'.toNat := isDigit.2
    rw [UInt32.toNat_add] at shifted
    change 65 ≤ character.val.toNat at lowest
    change character.val.toNat ≤ 90 at highest
    change (character.val.toNat + 32) % 2 ^ 32 ≤ 57 at shifted
    omega
  next => exact lower

theorem toLower_eq_self
    {digit : Char}
    (isDigit : digit.isDigit = true) :
    digit.toLower = digit := by
  unfold Char.toLower
  split
  next upper =>
    exfalso
    rw [Char.isDigit_iff_toNat] at isDigit
    have lowest : 'A'.toNat ≤ digit.toNat := upper.1
    have gap : '9'.toNat < 'A'.toNat := by decide
    omega
  next => rfl

theorem map_toLower_eq_self
    {digits : List Char}
    (allDigits : AllDigits digits) :
    digits.map Char.toLower = digits := by
  calc
    digits.map Char.toLower = digits.map id :=
      List.map_congr_left fun digit member => toLower_eq_self (allDigits digit member)
    _ = digits := List.map_id digits

/-- Characters that are digits in lower case are these digits. -/
theorem eq_of_map_toLower_eq
    {characters digits : List Char}
    (allDigits : AllDigits digits)
    (lower : characters.map Char.toLower = digits) :
    characters = digits := by
  induction characters generalizing digits with
  | nil => simpa using lower
  | cons character characters ih =>
      subst lower
      have head := eq_of_toLower_eq (allDigits _ List.mem_cons_self) rfl
      have tail := ih (fun other member => allDigits other (List.mem_cons_of_mem _ member)) rfl
      rw [List.map_cons, ← head, ← tail]

/-- The digits at the end of a name do not depend on the letter case of the name. -/
theorem isSuffix_of_sameName
    {digits : List Char}
    (allDigits : AllDigits digits)
    {first second : String}
    (same : Text.sameName first second = true)
    (suffix : digits <:+ first.toList) :
    digits <:+ second.toList := by
  rw [Text.sameName_iff, Text.foldAscii, Text.foldAscii] at same
  have folded := suffix.map Char.toLower
  rw [same, map_toLower_eq_self allDigits, List.suffix_map_iff] at folded
  obtain ⟨ending, endingSuffix, equal⟩ := folded
  rw [← eq_of_map_toLower_eq allDigits equal.symm]
  exact endingSuffix

theorem append_left_cancel_of_sameName
    {stem first second : String}
    (secondDigits : AllDigits second.toList)
    (same : Text.sameName (stem ++ first) (stem ++ second) = true) :
    first = second := by
  simp only [Text.sameName_iff, Text.foldAscii, String.toList_append, List.map_append] at same
  have folded := List.append_cancel_left same
  rw [map_toLower_eq_self secondDigits] at folded
  exact String.toList_inj.mp (eq_of_map_toLower_eq secondDigits folded)

/-- Numbers that are not negative are told apart by their digits. -/
theorem toString_inj_of_nonneg
    {first second : Int}
    (firstNonneg : 0 ≤ first)
    (secondNonneg : 0 ≤ second)
    (equal : toString first = toString second) :
    first = second := by
  obtain ⟨first, rfl⟩ := Int.eq_ofNat_of_zero_le firstNonneg
  obtain ⟨second, rfl⟩ := Int.eq_ofNat_of_zero_le secondNonneg
  have written : first.repr = second.repr := equal
  have digits := congrArg String.toList written
  rw [Nat.toList_repr, Nat.toList_repr] at digits
  have values := congrArg (fun characters => Nat.ofDigitChars 10 characters 0) digits
  have same : first = second := by simpa using values
  rw [same]

end AllDigits

end ShardedSql
