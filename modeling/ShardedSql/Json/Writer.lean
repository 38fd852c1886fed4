import ShardedSql.Json.Basic
import ShardedSql.Number.Decimal

/-!
# Writing JSON

A value is written on one line, or with each member of a list or an object on a line of its own.
-/

namespace ShardedSql

/-- How values are laid out. -/
structure JsonLayout where
  /-- The text of a floating-point number. -/
  number : Binary64 → String
  /-- What stands in front of a member at a depth, and in front of the end of what holds it. -/
  lineBreak : Nat → String
  /-- What stands between a name and its value. -/
  colon : String

namespace JsonLayout

/-- A floating-point number with its fraction; one that is not finite is null. -/
def plainNumber (number : Binary64) : String :=
  match number.shape with
  | .finite _ _ _ =>
      let text := Decimal.write number
      if text.toList.contains '.' then text else text ++ ".0"
  | _ => "null"

/-- Everything on one line. -/
def compact : JsonLayout :=
  ⟨plainNumber, fun _ => "", ":"⟩

/-- Each member on a line of its own, indented by its depth. -/
def indented : JsonLayout :=
  ⟨plainNumber, fun depth => String.ofList ('\n' :: List.replicate (2 * depth) ' '), ": "⟩

end JsonLayout

namespace Json

/-- A number with at least `width` hexadecimal digits in lower case. -/
def hexDigits (width number : Nat) : List Char :=
  let digits := Nat.toDigits 16 number
  List.replicate (width - digits.length) '0' ++ digits

/-- A character as it stands in a written text. -/
def writtenCharacter (character : Char) : List Char :=
  match character with
  | '"' => ['\\', '"']
  | '\\' => ['\\', '\\']
  | '\n' => ['\\', 'n']
  | '\r' => ['\\', 'r']
  | '\t' => ['\\', 't']
  | _ =>
      if character.toNat < 0x20 then
        ['\\', 'u'] ++ hexDigits 4 character.toNat
      else
        [character]

/-- A text between double quotes. -/
def writeText (text : String) : String :=
  String.ofList (['"'] ++ text.toList.flatMap writtenCharacter ++ ['"'])

/-- Members between an opening and a closing bracket. -/
def enclose
    (layout : JsonLayout)
    (depth : Nat)
    (opening closing : String)
    (members : List String) : String :=
  if members.isEmpty then
    opening ++ closing
  else
    opening ++ ",".intercalate (members.map fun member => layout.lineBreak (depth + 1) ++ member) ++
      layout.lineBreak depth ++ closing

mutual

/-- Write a value that stands at a depth. -/
def writeAt
    (layout : JsonLayout)
    (depth : Nat) : Json → String
  | .null => "null"
  | .boolean value => if value then "true" else "false"
  | .integer value => toString value
  | .number value => layout.number value
  | .text value => writeText value
  | .list items => enclose layout depth "[" "]" (writeItems layout (depth + 1) items)
  | .object fields => enclose layout depth "\x7b" "\x7d" (writeFields layout (depth + 1) fields)

/-- Write the items of a list. -/
def writeItems
    (layout : JsonLayout)
    (depth : Nat) : List Json → List String
  | [] => []
  | item :: rest => writeAt layout depth item :: writeItems layout depth rest

/-- Write the fields of an object. -/
def writeFields
    (layout : JsonLayout)
    (depth : Nat) : List (String × Json) → List String
  | [] => []
  | (name, value) :: rest =>
      (writeText name ++ layout.colon ++ writeAt layout depth value) ::
        writeFields layout depth rest

end

/-- Write a value. -/
def write
    (layout : JsonLayout)
    (json : Json) : String :=
  writeAt layout 0 json

end Json

end ShardedSql
