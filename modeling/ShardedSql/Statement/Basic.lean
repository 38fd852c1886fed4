import ShardedSql.Statement.Condition
import ShardedSql.Statement.Kind
import ShardedSql.Statement.Limit
import ShardedSql.Statement.SelectItem

/-!
# Statements

What parsing finds out about a statement: the tables, the conditions that decide where it runs, and
markers for the places of the text that change from table to table.
-/

namespace ShardedSql

/-- Where the generated key of an INSERT comes from: a bound parameter, a literal, a parameter that
is still to be generated and inserted, or an expression that routing does not understand. -/
inductive KeySource where
  | placeholder (index : Nat)
  | literal (value : Int64)
  | deferred (index : Nat)
  | unknown
  deriving DecidableEq

/-- The generated key of an INSERT. -/
structure GeneratedKey where
  column : String
  source : KeySource
  deriving DecidableEq

/-- A place of the statement's text that rendering changes, by its byte position. -/
inductive Marker where
  /-- The name of a logic table as it is written. -/
  | table (position : Nat) (literals : String)
  /-- A place for further items of a list. -/
  | items (position : Nat) (items : List String)
  /-- A place for the order that a grouped result needs. -/
  | orderBy (position : Nat)
  /-- The literal of a row count. -/
  | rowCount (position length : Nat) (value : Int64)
  /-- The literal of an offset. -/
  | offset (position length : Nat) (value : Int64)
  deriving DecidableEq

/-- The byte position of a marker. -/
def Marker.position : Marker → Nat
  | .table position _ => position
  | .items position _ => position
  | .orderBy position => position
  | .rowCount position _ _ => position
  | .offset position _ _ => position

/-- A parsed statement. -/
structure Statement where
  kind : StatementKind
  tables : Tables := {}
  conditions : Conditions := {}
  markers : List Marker := []
  items : List SelectItem := []
  containsStar : Bool := false
  distinct : Bool := false
  groupByItems : List OrderItem := []
  orderByItems : List OrderItem := []
  limit : Option Limit := none
  insertColumns : List Column := []
  generatedKey : Option GeneratedKey := none
  deriving DecidableEq

namespace Statement

/-- Add a marker. -/
def mark
    (statement : Statement)
    (marker : Marker) : Statement :=
  { statement with markers := statement.markers ++ [marker] }

/-- Whether rows are grouped and sorted by the same columns in the same directions. -/
def groupsAsSorted (statement : Statement) : Bool :=
  !statement.groupByItems.isEmpty &&
    statement.groupByItems.length == statement.orderByItems.length &&
    (statement.groupByItems.zip statement.orderByItems).all fun (group, order) => group.same order

/-- Whether every row is needed before the first one of a window is known: the rows are grouped or
aggregated, and not sorted as they are grouped. -/
def needsAllRows (statement : Statement) : Bool :=
  (!statement.groupByItems.isEmpty || statement.items.any SelectItem.isAggregation) &&
    !statement.groupsAsSorted

end Statement

end ShardedSql
