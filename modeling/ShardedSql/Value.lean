import ShardedSql.Json.Basic
import ShardedSql.Number.Decimal
import ShardedSql.Text.Blank
import ShardedSql.Text.LowerCase

/-!
# Values

A value is a literal of a statement or a bound parameter.  Sharding asks a value for the integer it
stands for, and pagination for the nearest one.
-/

namespace ShardedSql

/-- A literal or a bound parameter. -/
inductive Value where
  | null
  | boolean (value : Bool)
  | integer (value : Int64)
  | float (value : Binary64)
  | text (value : String)
  deriving DecidableEq

namespace Value

/-- The integer that a value stands for: an integer, a floating-point number without fraction, or a
text that is an integer between white space. -/
def toInteger? : Value → Option Int64
  | .integer value => some value
  | .float value => value.toInteger?
  | .text value => Integer.read? (Text.trim value)
  | _ => none

/-- The integer nearest to a number, or to the number that a text holds. -/
def nearestInteger? : Value → Option Int64
  | .integer value => some value
  | .float value => some value.round
  | .text value => (Decimal.read? (Text.trim value)).map Binary64.round
  | _ => none

/-- The value that a bare word or number stands for; any other text stands for itself. -/
def ofLiteral (literal : String) : Value :=
  match Integer.read? literal, Decimal.read? literal with
  | some value, _ => .integer value
  | none, some value => .float value
  | none, none =>
      match Text.lowerCase literal with
      | "null" => .null
      | "true" => .boolean true
      | "false" => .boolean false
      | _ => .text literal

/-- The text of a value in messages. -/
def display : Value → String
  | .null => "NULL"
  | .boolean value => if value then "true" else "false"
  | .integer value => toString value.toInt
  | .float value => Decimal.write value
  | .text value => value

/-- The value that a JSON value stands for; lists and objects stand for none, and an integer beyond
64 bits with sign becomes a floating-point number. -/
def ofJson? : Json → Option Value
  | .null => some .null
  | .boolean value => some (.boolean value)
  | .integer value =>
      if Integer.least ≤ value ∧ value ≤ Integer.greatest then
        some (.integer (Int64.ofInt value))
      else
        some (.float (Binary64.nearest (decide (value < 0)) value.natAbs 1))
  | .number value => some (.float value)
  | .text value => some (.text value)
  | .list _ => none
  | .object _ => none

/-- The JSON value that stands for a value. -/
def toJson : Value → Json
  | .null => .null
  | .boolean value => .boolean value
  | .integer value => .integer value.toInt
  | .float value => .number value
  | .text value => .text value

end Value

end ShardedSql
