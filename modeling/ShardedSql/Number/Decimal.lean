import ShardedSql.Number.Binary64

/-!
# Decimal text of floating-point numbers

Reading takes a sign, digits with at most one point, and an exponent, or one of the words for
infinity and for what is not a number.  Writing gives the fewest digits that read back as the same
number, in positional notation.
-/

namespace ShardedSql

namespace Decimal

/-- The value of a run of decimal digits. -/
def digitsValue (digits : List Char) : Nat :=
  digits.foldl (fun value digit => value * 10 + Integer.digitValue digit) 0

/-- The number nearest to `significand * 10 ^ exponent`.  Outside of the range of powers that can
matter the result is known without computing the power. -/
def nearestPower
    (negative : Bool)
    (significand : Nat)
    (exponent : Int) : Binary64 :=
  if significand = 0 then
    Binary64.zero negative
  else
    let leading := exponent + (Nat.toDigits 10 significand).length
    if 400 < leading then
      Binary64.infinity negative
    else if leading < -400 then
      Binary64.zero negative
    else
      Binary64.nearest negative (significand * tenTo exponent.toNat) (tenTo (-exponent).toNat)

/-- Read the exponent that follows a mantissa: nothing, or `e`, an optional sign and digits. -/
def readExponent? : List Char → Option Int
  | [] => some 0
  | marker :: rest =>
      if marker = 'e' ∨ marker = 'E' then
        let negative := rest.head? == some '-'
        let digits :=
          if rest.head? == some '-' || rest.head? == some '+' then rest.drop 1 else rest
        if digits.isEmpty || !digits.all Char.isDigit then
          none
        else
          some (Binary64.signed negative (digitsValue digits))
      else
        none

/-- Read an unsigned decimal number. -/
def readUnsigned?
    (negative : Bool)
    (characters : List Char) : Option Binary64 :=
  let whole := characters.takeWhile Char.isDigit
  let afterWhole := characters.dropWhile Char.isDigit
  let fraction :=
    if afterWhole.head? == some '.' then (afterWhole.drop 1).takeWhile Char.isDigit else []
  let afterFraction :=
    if afterWhole.head? == some '.' then (afterWhole.drop 1).dropWhile Char.isDigit else afterWhole
  if whole.isEmpty && fraction.isEmpty then
    none
  else
    (readExponent? afterFraction).map fun exponent =>
      nearestPower negative (digitsValue (whole ++ fraction)) (exponent - fraction.length)

/-- Read a number after its sign. -/
def readMagnitude?
    (negative : Bool)
    (characters : List Char) : Option Binary64 :=
  let word := String.ofList (characters.map Char.toLower)
  if word = "inf" ∨ word = "infinity" then
    some (Binary64.infinity negative)
  else if word = "nan" then
    some (Binary64.notANumber negative)
  else
    readUnsigned? negative characters

/-- Read a floating-point number, if the whole text is one. -/
def read? (text : String) : Option Binary64 :=
  match text.toList with
  | '+' :: rest => readMagnitude? false rest
  | '-' :: rest => readMagnitude? true rest
  | rest => readMagnitude? false rest

/-- The number of decimal digits before the point of a positive ratio; for a ratio below one, minus
the number of zeros that follow the point. -/
def leadingPosition (numerator denominator : Nat) : Int :=
  if denominator ≤ numerator then
    (Nat.toDigits 10 (numerator / denominator)).length
  else
    1 - ((Nat.toDigits 10 ((denominator - 1) / numerator)).length : Int)

/-- The bounds of the ratios that round to `significand * 2 ^ exponent`, and the number itself, in
quarters of the last bit of the significand. -/
def quarterBounds
    (significand : Nat)
    (exponent : Int) : Nat × Nat × Nat :=
  let below := if significand = twoTo 52 ∧ -1074 < exponent then 1 else 2
  (4 * significand - below, 4 * significand, 4 * significand + 2)

/-- The decimal significand with `count` digits that reads back, if there is one: of the two
neighbours of the number on the grid of `10 ^ position` the nearer one that does, and the larger one
in a tie. -/
def candidate?
    (significand : Nat)
    (exponent : Int)
    (position : Int) : Option Nat :=
  let (low, middle, high) := quarterBounds significand exponent
  let scale := twoTo (exponent - 2).toNat * tenTo (-position).toNat
  let unit := twoTo (2 - exponent).toNat * tenTo position.toNat
  let inside := fun number : Nat =>
    if significand % 2 = 0 then
      low * scale ≤ number * unit && number * unit ≤ high * scale
    else
      low * scale < number * unit && number * unit < high * scale
  let lower := middle * scale / unit
  let lowerGap := middle * scale - lower * unit
  let upper := if lowerGap = 0 then lower else lower + 1
  let upperGap := upper * unit - middle * scale
  if inside lower && inside upper then
    some (if lowerGap < upperGap then lower else upper)
  else if inside lower then
    some lower
  else if inside upper then
    some upper
  else
    none

/-- The decimal significand and exponent with the fewest digits that read back, tried up to
seventeen digits with `remaining` counts left to try.  A ten on the grid of one digit is a one. -/
def shortest
    (significand : Nat)
    (exponent leading : Int) : Nat → Nat × Int
  | 0 => (0, 0)
  | remaining + 1 =>
      let position := leading - (17 - remaining : Nat)
      match candidate? significand exponent position with
      | some digits => if digits % 10 = 0 then (digits / 10, position + 1) else (digits, position)
      | none => shortest significand exponent leading remaining

/-- Digits times a power of ten in positional notation. -/
def positional
    (digits : List Char)
    (position : Int) : List Char :=
  if 0 ≤ position then
    digits ++ List.replicate position.toNat '0'
  else
    let places := (-position).toNat
    if places < digits.length then
      digits.take (digits.length - places) ++ ['.'] ++ digits.drop (digits.length - places)
    else
      ['0', '.'] ++ List.replicate (places - digits.length) '0' ++ digits

/-- The magnitude of a finite number in the fewest digits. -/
def writeMagnitude
    (significand : Nat)
    (exponent : Int) : List Char :=
  if significand = 0 then
    ['0']
  else
    let leading :=
      leadingPosition (significand * twoTo exponent.toNat) (twoTo (-exponent).toNat)
    let (digits, position) := shortest significand exponent leading 17
    positional (Nat.toDigits 10 digits) position

/-- The text of a floating-point number. -/
def write (number : Binary64) : String :=
  match number.shape with
  | .notANumber => "NaN"
  | .infinite negative => if negative then "-inf" else "inf"
  | .finite negative significand exponent =>
      String.ofList ((if negative then ['-'] else []) ++ writeMagnitude significand exponent)

end Decimal

end ShardedSql
