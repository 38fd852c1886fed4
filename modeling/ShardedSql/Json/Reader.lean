import ShardedSql.Json.Basic
import ShardedSql.Number.Decimal

/-!
# Reading JSON

The reader takes a text that holds exactly one value.  Numbers without fraction and exponent are
integers as far as 64 bits hold them.  Any other number is computed in two roundings: its leading
digits up to 64 bits are rounded once, and the result is multiplied or divided by the power of ten,
so that a long number can differ from the nearest one in its last bit.
-/

namespace ShardedSql

namespace Json

/-- The largest exponent of a power of ten that is finite. -/
def greatestPower : Nat := 308

/-- The powers of ten that a division by `10 ^ exponent` is carried out with: the greatest one as
often as it takes, and then the remaining one. -/
def divisors (exponent : Nat) : List Nat :=
  let steps := (exponent - 1) / greatestPower
  List.replicate steps greatestPower ++ [exponent - steps * greatestPower]

/-- Digits times a power of ten; nothing when the result exceeds every finite number. -/
def scaledNumber?
    (negative : Bool)
    (significand : Nat)
    (exponent : Int) : Option Binary64 :=
  let start := Binary64.ofNat significand
  let signed := fun number : Binary64 => if negative then number.negate else number
  if significand = 0 then
    some (signed start)
  else if 0 ≤ exponent then
    if exponent ≤ greatestPower then
      let scaled := start.multiply (Binary64.powerOfTen exponent.toNat)
      if scaled.isInfinite then none else some (signed scaled)
    else
      none
  else if 4 * (greatestPower : Int) < -exponent then
    some (signed (Binary64.zero false))
  else
    some (signed ((divisors (-exponent).toNat).foldl
      (fun number power => number.divide (Binary64.powerOfTen power)) start))

/-- The leading digits of a run as far as 64 bits hold their value, starting from `value`, and how
many of the run were taken. -/
def takeDigits : List Char → Nat → Nat × Nat
  | [], value => (value, 0)
  | digit :: rest, value =>
      let extended := value * 10 + Integer.digitValue digit
      if extended ≤ Integer.greatestUnsigned then
        let (final, count) := takeDigits rest extended
        (final, count + 1)
      else
        (value, 0)

/-- The greatest exponent that is told apart from larger ones. -/
def greatestExponent : Nat := 2147483647

/-- Read the exponent part after its marker and finish the number. -/
def readExponent
    (negative : Bool)
    (significand : Nat)
    (exponent : Int)
    (characters : List Char) : Option (Json × List Char) :=
  let downward := characters.head? == some '-'
  let unsigned :=
    if downward || characters.head? == some '+' then characters.drop 1 else characters
  let digits := unsigned.takeWhile Char.isDigit
  let rest := unsigned.dropWhile Char.isDigit
  if digits.isEmpty then
    none
  else
    let stated := Decimal.digitsValue digits
    if greatestExponent < stated then
      if significand ≠ 0 ∧ !downward then
        none
      else
        some (.number (Binary64.zero negative), rest)
    else
      let total := if downward then exponent - stated else exponent + stated
      (scaledNumber? negative significand total).map fun number => (.number number, rest)

/-- Finish a number whose digits are read: an exponent part, or nothing more. -/
def finishNumber
    (negative : Bool)
    (significand : Nat)
    (exponent : Int)
    (characters : List Char) : Option (Json × List Char) :=
  match characters with
  | marker :: rest =>
      if marker = 'e' ∨ marker = 'E' then
        readExponent negative significand exponent rest
      else
        (scaledNumber? negative significand exponent).map fun number => (.number number, characters)
  | [] => (scaledNumber? negative significand exponent).map fun number => (.number number, [])

/-- Read the digits after a point, and what follows them. -/
def readFraction
    (negative : Bool)
    (significand : Nat)
    (exponent : Int)
    (characters : List Char) : Option (Json × List Char) :=
  let digits := characters.takeWhile Char.isDigit
  let rest := characters.dropWhile Char.isDigit
  let (extended, count) := takeDigits digits significand
  if digits.isEmpty then
    none
  else
    finishNumber negative extended (exponent - count) rest

/-- Read a number after its sign. -/
def readNumber
    (negative : Bool)
    (characters : List Char) : Option (Json × List Char) :=
  let digits := characters.takeWhile Char.isDigit
  let rest := characters.dropWhile Char.isDigit
  let (significand, count) := takeDigits digits 0
  let exponent : Int := digits.length - count
  if digits.isEmpty || (digits.head? == some '0' && 1 < digits.length) then
    none
  else
    match rest with
    | '.' :: fraction => readFraction negative significand exponent fraction
    | marker :: afterMarker =>
        if marker = 'e' ∨ marker = 'E' then
          readExponent negative significand exponent afterMarker
        else
          finish negative significand exponent rest
    | [] => finish negative significand exponent []
where
  /-- A number without fraction and exponent part. -/
  finish
      (negative : Bool)
      (significand : Nat)
      (exponent : Int)
      (rest : List Char) : Option (Json × List Char) :=
    if exponent = 0 then
      if !negative then
        some (.integer significand, rest)
      else if significand = 0 ∨ Integer.least.natAbs < significand then
        some (.number (Binary64.ofNat significand).negate, rest)
      else
        some (.integer (-significand), rest)
    else
      (scaledNumber? negative significand exponent).map fun number => (.number number, rest)

/-- Read four hexadecimal digits. -/
def readCodeUnit? : List Char → Option (Nat × List Char)
  | first :: second :: third :: fourth :: rest =>
      ([first, second, third, fourth].mapM Integer.hexDigitValue?).map fun values =>
        (values.foldl (fun value digit => value * 16 + digit) 0, rest)
  | _ => none

/-- Read the code point of an escape after `\u`: one code unit, or two surrogates in a row. -/
def readCodePoint? (characters : List Char) : Option (Char × List Char) :=
  (readCodeUnit? characters).bind fun (unit, rest) =>
    if 0xD800 ≤ unit ∧ unit < 0xDC00 then
      match rest with
      | '\\' :: 'u' :: more =>
          (readCodeUnit? more).bind fun (second, afterSecond) =>
            if 0xDC00 ≤ second ∧ second < 0xE000 then
              some (Char.ofNat (0x10000 + (unit - 0xD800) * 0x400 + (second - 0xDC00)), afterSecond)
            else
              none
      | _ => none
    else if 0xDC00 ≤ unit ∧ unit < 0xE000 then
      none
    else
      some (Char.ofNat unit, rest)

/-- Read the characters of a string after its opening quote, at most `fuel` of them; `before` holds
the characters read, last first. -/
def readString :
    (fuel : Nat) → (before : List Char) → List Char → Option (String × List Char)
  | 0, _, _ => none
  | _, _, [] => none
  | _ + 1, before, '"' :: rest => some (String.ofList before.reverse, rest)
  | fuel + 1, before, '\\' :: mark :: rest =>
      match mark with
      | '"' => readString fuel ('"' :: before) rest
      | '\\' => readString fuel ('\\' :: before) rest
      | '/' => readString fuel ('/' :: before) rest
      | 'b' => readString fuel ('\x08' :: before) rest
      | 'f' => readString fuel ('\x0c' :: before) rest
      | 'n' => readString fuel ('\n' :: before) rest
      | 'r' => readString fuel ('\r' :: before) rest
      | 't' => readString fuel ('\t' :: before) rest
      | 'u' =>
          (readCodePoint? rest).bind fun (character, afterEscape) =>
            readString fuel (character :: before) afterEscape
      | _ => none
  | fuel + 1, before, character :: rest =>
      if character = '\\' ∨ character.toNat < 0x20 then
        none
      else
        readString fuel (character :: before) rest

/-- The characters after leading white space. -/
def skipBlanks (characters : List Char) : List Char :=
  characters.dropWhile fun character =>
    character == ' ' || character == '\t' || character == '\n' || character == '\r'

mutual

/-- Read one value.  `depth` bounds the nesting and `fuel` the length of what is read. -/
def readValue :
    (fuel : Nat) → (depth : Nat) → List Char → Option (Json × List Char)
  | 0, _, _ => none
  | fuel + 1, depth, characters =>
      match skipBlanks characters with
      | 'n' :: 'u' :: 'l' :: 'l' :: rest => some (.null, rest)
      | 't' :: 'r' :: 'u' :: 'e' :: rest => some (.boolean true, rest)
      | 'f' :: 'a' :: 'l' :: 's' :: 'e' :: rest => some (.boolean false, rest)
      | '"' :: rest =>
          (readString (rest.length + 1) [] rest).map fun (content, afterText) =>
            (.text content, afterText)
      | '-' :: rest => readNumber true rest
      | '[' :: rest =>
          if depth ≤ 1 then
            none
          else
            match skipBlanks rest with
            | ']' :: afterList => some (.list [], afterList)
            | _ => readItems fuel (depth - 1) [] rest
      | '{' :: rest =>
          if depth ≤ 1 then
            none
          else
            match skipBlanks rest with
            | '}' :: afterObject => some (.object [], afterObject)
            | _ => readFields fuel (depth - 1) [] rest
      | rest => readNumber false rest

/-- Read the items of a list that is not empty, up to its closing bracket. -/
def readItems :
    (fuel : Nat) → (depth : Nat) → (before : List Json) → List Char → Option (Json × List Char)
  | 0, _, _, _ => none
  | fuel + 1, depth, before, characters =>
      match readValue fuel depth characters with
      | none => none
      | some (item, rest) =>
          match skipBlanks rest with
          | ',' :: more => readItems fuel depth (item :: before) more
          | ']' :: afterList => some (.list (item :: before).reverse, afterList)
          | _ => none

/-- Read the fields of an object that is not empty, up to its closing brace. -/
def readFields :
    (fuel : Nat) → (depth : Nat) → (before : List (String × Json)) → List Char →
      Option (Json × List Char)
  | 0, _, _, _ => none
  | fuel + 1, depth, before, characters =>
      match skipBlanks characters with
      | '"' :: rest =>
          match readString (rest.length + 1) [] rest with
          | none => none
          | some (name, afterName) =>
              match skipBlanks afterName with
              | ':' :: afterColon =>
                  match readValue fuel depth afterColon with
                  | none => none
                  | some (value, afterValue) =>
                      match skipBlanks afterValue with
                      | ',' :: more => readFields fuel depth ((name, value) :: before) more
                      | '}' :: afterObject =>
                          some (.object ((name, value) :: before).reverse, afterObject)
                      | _ => none
              | _ => none
      | _ => none

end

/-- The depth of nesting that is refused. -/
def depthLimit : Nat := 128

/-- Read a text that holds exactly one JSON value. -/
def read? (text : String) : Option Json :=
  let characters := text.toList
  (readValue (2 * characters.length + 2) depthLimit characters).bind fun (value, rest) =>
    if (skipBlanks rest).isEmpty then some value else none

end Json

end ShardedSql
