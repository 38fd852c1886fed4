import ShardedSql.Text.AsciiCase

/-!
# Select lists and orders

The items of a select list, and the columns that a statement sorts or groups by.
-/

namespace ShardedSql

/-- A function that combines the rows of a group. -/
inductive Aggregation where
  | max
  | min
  | sum
  | count
  | avg
  deriving DecidableEq

namespace Aggregation

/-- The name of the function. -/
def name : Aggregation → String
  | .max => "MAX"
  | .min => "MIN"
  | .sum => "SUM"
  | .count => "COUNT"
  | .avg => "AVG"

/-- Every function. -/
def all : List Aggregation :=
  [.max, .min, .sum, .count, .avg]

/-- The function with a name, in any letter case. -/
def ofName? (name : String) : Option Aggregation :=
  all.find? fun aggregation => aggregation.name == Text.upperAscii name

end Aggregation

/-- An item of a select list; the argument of an aggregation keeps its parentheses. -/
inductive SelectItem where
  | star (owner : Option String)
  | common (expression : String) (aliasName : Option String)
  | aggregation (function : Aggregation) (argument : String) (aliasName : Option String)
  deriving DecidableEq

namespace SelectItem

/-- The text of the item without its alias. -/
def expression : SelectItem → String
  | .star none => "*"
  | .star (some owner) => owner ++ ".*"
  | .common expression _ => expression
  | .aggregation function argument _ => function.name ++ argument

/-- The alias of the item. -/
def alias? : SelectItem → Option String
  | .star _ => none
  | .common _ aliasName => aliasName
  | .aggregation _ _ aliasName => aliasName

/-- Whether the item is an aggregation. -/
def isAggregation : SelectItem → Bool
  | .aggregation .. => true
  | _ => false

end SelectItem

/-- The direction of a sort. -/
inductive OrderDirection where
  | ascending
  | descending
  deriving DecidableEq

/-- The keyword of a direction. -/
def OrderDirection.text : OrderDirection → String
  | .ascending => "ASC"
  | .descending => "DESC"

/-- A column to sort or group by: by name, possibly with an owner and an alias in the select list,
or by its position in the select list. -/
structure OrderItem where
  owner : Option String := none
  name : Option String := none
  index : Option Nat := none
  direction : OrderDirection
  aliasName : Option String := none
  deriving DecidableEq

namespace OrderItem

/-- What the result calls the column. -/
def label? (item : OrderItem) : Option String :=
  item.aliasName.or item.name

/-- The name of the column with its owner. -/
def qualifiedName? (item : OrderItem) : Option String :=
  item.name.map fun name =>
    match item.owner with
    | some owner => owner ++ "." ++ name
    | none => name

/-- Whether both texts are there and equal up to letter case. -/
def sameText : Option String → Option String → Bool
  | some first, some second => Text.sameName first second
  | _, _ => false

/-- Whether two items sort in the same direction by the same label, qualified name or position. -/
def same (first second : OrderItem) : Bool :=
  first.direction == second.direction &&
    (sameText first.label? second.label? ||
      sameText first.qualifiedName? second.qualifiedName? ||
      (first.index.isSome && first.index == second.index))

end OrderItem

end ShardedSql
