import ShardedSql.Number.Integer
import ShardedSql.Proofs.Success
import ShardedSql.Proofs.Text.Digits

/-!
# Integer literals

A sign and decimal digits are read as the integer that they write, as long as it is one of 64 bits.
-/

namespace ShardedSql

/-- The natural number that decimal digits write behind the digits of `value`. -/
def decimalFrom
    (value : Nat)
    (digits : List Char) : Nat :=
  digits.foldl (fun value digit => value * 10 + Integer.digitValue digit) value

theorem le_decimalFrom
    (value : Nat)
    (digits : List Char) :
    value ≤ decimalFrom value digits := by
  induction digits generalizing value with
  | nil => exact Nat.le_refl _
  | cons digit digits ih =>
      have extended := ih (value * 10 + Integer.digitValue digit)
      change value ≤ decimalFrom (value * 10 + Integer.digitValue digit) digits
      omega

theorem readDigits_eq_ok
    {limit : Nat}
    {overflow : IntegerFault}
    {digits : List Char}
    (allDigits : AllDigits digits)
    {value : Nat}
    (bounded : decimalFrom value digits ≤ limit) :
    Integer.readDigits limit overflow digits value = .ok (decimalFrom value digits) := by
  induction digits generalizing value with
  | nil => rfl
  | cons digit digits ih =>
      have isDigit := allDigits digit List.mem_cons_self
      have small := Nat.le_trans (le_decimalFrom _ digits) bounded
      have others : AllDigits digits := fun other member =>
        allDigits other (List.mem_cons_of_mem _ member)
      rw [Integer.readDigits, if_pos isDigit]
      dsimp only
      rw [if_pos small]
      exact ih others bounded

/-- An integer of 64 bits as it is written: an optional minus sign and decimal digits. -/
structure IntegerLiteral where
  isNegative : Bool
  digits : List Char
  notEmpty : digits ≠ []
  allDigits : AllDigits digits
  inRange : decimalFrom 0 digits ≤
    if isNegative then Integer.least.natAbs else Integer.greatest.toNat

namespace IntegerLiteral

/-- The integer that is written. -/
def value (literal : IntegerLiteral) : Int :=
  if literal.isNegative then -(decimalFrom 0 literal.digits : Int)
  else decimalFrom 0 literal.digits

/-- The characters that it is written with. -/
def characters (literal : IntegerLiteral) : List Char :=
  if literal.isNegative then '-' :: literal.digits else literal.digits

/-- The text that it is written with. -/
def source (literal : IntegerLiteral) : String :=
  String.ofList literal.characters

theorem readMagnitude_digits
    (literal : IntegerLiteral)
    {limit : Nat}
    (bounded : decimalFrom 0 literal.digits ≤ limit)
    (overflow : IntegerFault) :
    Integer.readMagnitude limit overflow literal.digits = .ok (decimalFrom 0 literal.digits) := by
  have isFull : literal.digits.isEmpty = false := by simpa using literal.notEmpty
  rw [Integer.readMagnitude, isFull]
  exact readDigits_eq_ok literal.allDigits bounded

theorem read?_source (literal : IntegerLiteral) :
    Integer.read? literal.source = some (Int64.ofInt literal.value) := by
  have inRange := literal.inRange
  cases isNegative : literal.isNegative with
  | true =>
      rw [isNegative, if_pos rfl] at inRange
      have text : literal.source.toList = '-' :: literal.digits := by
        simp [source, characters, isNegative]
      unfold Integer.read? Integer.read
      rw [text]
      split
      next equal => cases equal
      next equal => cases equal
      next digits equal =>
        rw [← (List.cons.inj equal).2, literal.readMagnitude_digits inRange, value, isNegative]
        rfl
      next notSigned => exact absurd rfl (notSigned _)
  | false =>
      rw [isNegative, if_neg Bool.false_ne_true] at inRange
      have text : literal.source.toList = literal.digits := by
        simp [source, characters, isNegative]
      have magnitude := literal.readMagnitude_digits inRange .tooLarge
      obtain ⟨first, rest, split⟩ := List.exists_cons_of_ne_nil literal.notEmpty
      have isDigit := literal.allDigits first (by simp [split])
      have notSign : first ≠ '+' ∧ first ≠ '-' := by
        simpa using test_of_isDigit (fun digit => digit != '+' && digit != '-') (by decide) isDigit
      obtain ⟨notPlus, notMinus⟩ := notSign
      rw [split] at text magnitude
      unfold Integer.read? Integer.read
      rw [text]
      split
      next equal => cases equal
      next equal => exact absurd (List.cons.inj equal).1 notPlus
      next equal => exact absurd (List.cons.inj equal).1 notMinus
      next =>
        rw [magnitude, value, isNegative, split]
        rfl

end IntegerLiteral

theorem decimalFrom_toDigits (number : Nat) :
    decimalFrom 0 (Nat.toDigits 10 number) = number := by
  have same : ∀ value digits, decimalFrom value digits = Nat.ofDigitChars 10 digits value := by
    intro value digits
    rw [Nat.ofDigitChars_eq_foldl, decimalFrom]
    congr 1
    funext value digit
    rw [Nat.mul_comm, Integer.digitValue]
  rw [same, Nat.ofDigitChars_toDigits (by decide) (by decide)]

namespace IntegerLiteral

/-- The digits of an integer that is not negative. -/
def ofNonneg (value : Int64) : IntegerLiteral where
  isNegative := false
  digits := Nat.toDigits 10 value.toInt.toNat
  notEmpty := Nat.toDigits_ne_nil
  allDigits _ member := Nat.isDigit_of_mem_toDigits (by decide) (by decide) member
  inRange := by
    have bound : value.toInt ≤ Integer.greatest := value.toInt_le
    rw [decimalFrom_toDigits, if_neg Bool.false_ne_true]
    omega

variable {value : Int64} (nonneg : 0 ≤ value.toInt)

include nonneg

theorem source_ofNonneg : (ofNonneg value).source = toString value.toInt := by
  obtain ⟨natural, isNatural⟩ := Int.eq_ofNat_of_zero_le nonneg
  change String.ofList (Nat.toDigits 10 value.toInt.toNat) = _
  rw [isNatural]
  exact (Nat.repr_eq_ofList_toDigits).symm

theorem value_ofNonneg : (ofNonneg value).value = value.toInt := by
  change ((decimalFrom 0 (Nat.toDigits 10 value.toInt.toNat) : Nat) : Int) = _
  rw [decimalFrom_toDigits, Int.toNat_of_nonneg nonneg]

end IntegerLiteral

/-- An integer is read from what it is written as. -/
theorem Integer.read_toString
    {value : Int64}
    (nonneg : 0 ≤ value.toInt) :
    Integer.read (toString value.toInt) = .ok value := by
  have isRead := (IntegerLiteral.ofNonneg value).read?_source
  rw [IntegerLiteral.source_ofNonneg nonneg, IntegerLiteral.value_ofNonneg nonneg, Int64.ofInt_toInt] at isRead
  exact Success.toOption_eq_some.mp isRead

namespace Integer

variable {limit : Nat} {fault : IntegerFault} {digits : List Char} {text : String}

theorem isDigit_of_readDigits
    {start total : Nat}
    (ran : readDigits limit fault digits start = .ok total) :
    AllDigits digits := by
  induction digits generalizing start with
  | nil => nofun
  | cons digit digits ih =>
      rw [readDigits] at ran
      split at ran
      next isDigit =>
        dsimp only at ran
        split at ran
        next => exact List.forall_mem_cons.mpr ⟨isDigit, ih ran⟩
        next => cases ran
      next => cases ran

theorem exists_last_of_readMagnitude
    {front : List Char}
    {total : Nat}
    (ran : readMagnitude limit fault digits = .ok total)
    (split : text.toList = front ++ digits) :
    ∃ others last, text.toList = others ++ [last] ∧ last.isDigit = true := by
  rw [readMagnitude] at ran
  split at ran
  next => cases ran
  next nonempty =>
    have notNil : digits ≠ [] := by simpa using nonempty
    refine ⟨front ++ digits.dropLast, digits.getLast notNil, ?_, ?_⟩
    · rw [split, List.append_assoc, List.dropLast_append_getLast]
    · exact isDigit_of_readDigits ran _ (List.getLast_mem notNil)

/-- An integer is written with a digit at its end. -/
theorem exists_last_of_read
    {value : Int64}
    (isRead : read text = .ok value) :
    ∃ others last, text.toList = others ++ [last] ∧ last.isDigit = true := by
  unfold read at isRead
  split at isRead
  next => cases isRead
  next digits split =>
    obtain ⟨_, bound, -⟩ := Success.map_eq_ok.mp isRead
    obtain ⟨total, magnitude, -⟩ := Success.bind_eq_ok.mp bound
    exact exists_last_of_readMagnitude magnitude (split.trans List.singleton_append.symm)
  next digits split =>
    obtain ⟨_, bound, -⟩ := Success.map_eq_ok.mp isRead
    obtain ⟨total, magnitude, -⟩ := Success.bind_eq_ok.mp bound
    exact exists_last_of_readMagnitude magnitude (split.trans List.singleton_append.symm)
  next =>
    obtain ⟨_, bound, -⟩ := Success.map_eq_ok.mp isRead
    obtain ⟨total, magnitude, -⟩ := Success.bind_eq_ok.mp bound
    exact exists_last_of_readMagnitude magnitude (List.nil_append _).symm

end Integer

end ShardedSql
