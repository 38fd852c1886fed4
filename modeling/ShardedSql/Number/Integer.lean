/-!
# Integers of 64 bits

Reading integers from text, with the reason why a text is none, and arithmetic that stops at the
ends of the range.
-/

namespace ShardedSql

/-- Why a text is not an integer of 64 bits. -/
inductive IntegerFault where
  | empty
  | invalidDigit
  | tooLarge
  | tooSmall
  deriving DecidableEq

/-- What a message says about a text that is no integer. -/
def IntegerFault.message : IntegerFault → String
  | .empty => "cannot parse integer from empty string"
  | .invalidDigit => "invalid digit found in string"
  | .tooLarge => "number too large to fit in target type"
  | .tooSmall => "number too small to fit in target type"

namespace Integer

/-- The largest integer of 64 bits. -/
def greatest : Int := 9223372036854775807

/-- The smallest integer of 64 bits. -/
def least : Int := -9223372036854775808

/-- The largest integer of 64 bits without sign. -/
def greatestUnsigned : Nat := 18446744073709551615

/-- The integer of 64 bits nearest to a number. -/
def saturate (number : Int) : Int64 :=
  Int64.ofInt (max least (min greatest number))

/-- Addition that stops at the ends of the range. -/
def saturatingAdd (first second : Int64) : Int64 :=
  saturate (first.toInt + second.toInt)

/-- The value of an ASCII digit. -/
def digitValue (character : Char) : Nat :=
  character.toNat - '0'.toNat

/-- The value of a hexadecimal digit. -/
def hexDigitValue? (character : Char) : Option Nat :=
  if character.isDigit then
    some (digitValue character)
  else if 'a' ≤ character ∧ character ≤ 'f' then
    some (character.toNat - 'a'.toNat + 10)
  else if 'A' ≤ character ∧ character ≤ 'F' then
    some (character.toNat - 'A'.toNat + 10)
  else
    none

/-- Read decimal digits onto `value`, as long as the result stays at or below `limit`. -/
def readDigits
    (limit : Nat)
    (overflow : IntegerFault) : List Char → Nat → Except IntegerFault Nat
  | [], value => .ok value
  | character :: rest, value =>
      if character.isDigit then
        let extended := value * 10 + digitValue character
        if extended ≤ limit then readDigits limit overflow rest extended else .error overflow
      else
        .error .invalidDigit

/-- Read a non-empty run of decimal digits. -/
def readMagnitude
    (limit : Nat)
    (overflow : IntegerFault)
    (characters : List Char) : Except IntegerFault Nat :=
  if characters.isEmpty then .error .invalidDigit else readDigits limit overflow characters 0

/-- Read a signed integer of 64 bits: an optional sign and decimal digits. -/
def read (text : String) : Except IntegerFault Int64 :=
  match text.toList with
  | [] => .error .empty
  | '+' :: digits =>
      (readMagnitude greatest.toNat .tooLarge digits).map fun value => Int64.ofInt value
  | '-' :: digits =>
      (readMagnitude least.natAbs .tooSmall digits).map fun value => Int64.ofInt (-value)
  | digits => (readMagnitude greatest.toNat .tooLarge digits).map fun value => Int64.ofInt value

/-- Read a signed integer of 64 bits, if the text is one. -/
def read? (text : String) : Option Int64 :=
  (read text).toOption

/-- Read an unsigned integer of 64 bits: an optional plus sign and decimal digits. -/
def readUnsigned? (text : String) : Option UInt64 :=
  match text.toList with
  | '+' :: digits => ((readMagnitude greatestUnsigned .tooLarge digits).map Nat.toUInt64).toOption
  | digits => ((readMagnitude greatestUnsigned .tooLarge digits).map Nat.toUInt64).toOption

/-- Read hexadecimal digits as a signed integer of 64 bits that is not negative. -/
def readHex? (digits : List Char) : Option Int64 :=
  if digits.isEmpty then
    none
  else
    (digits.mapM hexDigitValue?).bind fun values =>
      let magnitude := values.foldl (fun value digit => value * 16 + digit) 0
      if magnitude ≤ greatest.toNat then some (Int64.ofNat magnitude) else none

end Integer

end ShardedSql
