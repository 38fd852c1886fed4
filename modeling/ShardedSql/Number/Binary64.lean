import ShardedSql.Number.Integer
import ShardedSql.Number.Power

/-!
# Binary floating-point numbers of 64 bits

A number is its word of 64 bits.  Its value is read off as an exact ratio, and every result is
rounded once, to the nearest representable number and to an even significand in a tie, so that all
arithmetic here is arithmetic of natural numbers.
-/

namespace ShardedSql

/-- A floating-point number by its 64 bits: sign, eleven bits of exponent, 52 bits of fraction. -/
structure Binary64 where
  bits : UInt64
  deriving DecidableEq

namespace Binary64

/-- What a word stands for; a finite number has the magnitude `significand * 2 ^ exponent`. -/
inductive Shape where
  | notANumber
  | infinite (negative : Bool)
  | finite (negative : Bool) (significand : Nat) (exponent : Int)
  deriving DecidableEq

/-- Decode a word. -/
def shape (number : Binary64) : Shape :=
  let word := number.bits.toNat
  let negative := decide (twoTo 63 ≤ word)
  let field : Nat := word / twoTo 52 % twoTo 11
  let fraction : Nat := word % twoTo 52
  if field = 2047 then
    if fraction = 0 then .infinite negative else .notANumber
  else if field = 0 then
    .finite negative fraction (-1074)
  else
    .finite negative (twoTo 52 + fraction) ((field : Int) - 1075)

/-- A word from a sign and a magnitude of 63 bits. -/
def ofMagnitude
    (negative : Bool)
    (magnitude : Nat) : Binary64 :=
  ⟨(if negative then twoTo 63 + magnitude else magnitude).toUInt64⟩

/-- Zero with a sign. -/
def zero (negative : Bool) : Binary64 :=
  ofMagnitude negative 0

/-- Infinity with a sign. -/
def infinity (negative : Bool) : Binary64 :=
  ofMagnitude negative (2047 * twoTo 52)

/-- The word for what is not a number. -/
def notANumber (negative : Bool) : Binary64 :=
  ofMagnitude negative (2047 * twoTo 52 + twoTo 51)

/-- `numerator * 2 ^ exponent / denominator` rounded to the nearest integer, ties to even. -/
def roundScaled
    (numerator denominator : Nat)
    (exponent : Int) : Nat :=
  let scaledNumerator := numerator * twoTo exponent.toNat
  let scaledDenominator := denominator * twoTo (-exponent).toNat
  let quotient := scaledNumerator / scaledDenominator
  let remainder := scaledNumerator % scaledDenominator
  if scaledDenominator < 2 * remainder ∨ (scaledDenominator = 2 * remainder ∧ quotient % 2 = 1) then
    quotient + 1
  else
    quotient

/-- The exponent of the last bit of the significand that a positive ratio is rounded to. -/
def lastBitExponent (numerator denominator : Nat) : Int :=
  let estimate := (numerator.log2 : Int) - denominator.log2 - 53
  let scaled := numerator * twoTo (-estimate).toNat / (denominator * twoTo estimate.toNat)
  max (-1074) (estimate + (scaled.log2 - 52 : Nat))

/-- The number nearest to a ratio of natural numbers with a positive denominator. -/
def nearest
    (negative : Bool)
    (numerator denominator : Nat) : Binary64 :=
  if numerator = 0 then
    zero negative
  else
    let exponent := lastBitExponent numerator denominator
    let significand := roundScaled numerator denominator (-exponent)
    let magnitude :=
      if significand < twoTo 52 then
        significand
      else
        (exponent + 1075).toNat * twoTo 52 + (significand - twoTo 52)
    if 2047 * twoTo 52 ≤ magnitude then infinity negative else ofMagnitude negative magnitude

/-- The number nearest to `significand * 2 ^ exponent`. -/
def nearestScaled
    (negative : Bool)
    (significand : Nat)
    (exponent : Int) : Binary64 :=
  nearest negative (significand * twoTo exponent.toNat) (twoTo (-exponent).toNat)

/-- The number nearest to a natural number. -/
def ofNat (number : Nat) : Binary64 :=
  nearest false number 1

/-- The power of ten nearest to `10 ^ exponent`. -/
def powerOfTen (exponent : Nat) : Binary64 :=
  ofNat (tenTo exponent)

/-- The same number with the other sign. -/
def negate (number : Binary64) : Binary64 :=
  ⟨number.bits ^^^ (twoTo 63).toUInt64⟩

/-- Whether the number is an infinity. -/
def isInfinite (number : Binary64) : Bool :=
  match number.shape with
  | .infinite _ => true
  | _ => false

/-- The product of two finite numbers, rounded once. -/
def multiply (first second : Binary64) : Binary64 :=
  match first.shape, second.shape with
  | .finite firstNegative firstSignificand firstExponent,
    .finite secondNegative secondSignificand secondExponent =>
      nearestScaled (firstNegative != secondNegative) (firstSignificand * secondSignificand)
        (firstExponent + secondExponent)
  | _, _ => notANumber false

/-- The quotient of a finite number by a finite number other than zero, rounded once. -/
def divide (first second : Binary64) : Binary64 :=
  match first.shape, second.shape with
  | .finite firstNegative firstSignificand firstExponent,
    .finite secondNegative secondSignificand secondExponent =>
      let exponent := firstExponent - secondExponent
      nearest (firstNegative != secondNegative) (firstSignificand * twoTo exponent.toNat)
        (secondSignificand * twoTo (-exponent).toNat)
  | _, _ => notANumber false

/-- Give a magnitude a sign. -/
def signed
    (negative : Bool)
    (magnitude : Nat) : Int :=
  if negative then -(magnitude : Int) else magnitude

/-- The integer that a number equals, limited to the range of 64 bits; nothing for a number with a
fraction, an infinity or what is not a number. -/
def toInteger? (number : Binary64) : Option Int64 :=
  match number.shape with
  | .finite negative significand exponent =>
      if significand % twoTo (-exponent).toNat = 0 then
        some (Integer.saturate
          (signed negative (significand * twoTo exponent.toNat / twoTo (-exponent).toNat)))
      else
        none
  | _ => none

/-- The nearest integer, half-way cases away from zero, limited to the range of 64 bits; what is
not a number counts as zero. -/
def round (number : Binary64) : Int64 :=
  match number.shape with
  | .notANumber => 0
  | .infinite negative => Integer.saturate (if negative then Integer.least else Integer.greatest)
  | .finite negative significand exponent =>
      let scale := twoTo (-exponent).toNat
      Integer.saturate
        (signed negative ((2 * (significand * twoTo exponent.toNat) + scale) / (2 * scale)))

end Binary64

end ShardedSql
