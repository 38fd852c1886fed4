import ShardedSql.Error
import ShardedSql.Statement.ShardingValue
import ShardedSql.Text.LowerCase

/-!
# Hints

A caller may give sharding values beside a statement.  Once a hint is active, the conditions of the
statement do not count.  A hint for the data source alone sends the statement as it is.
-/

namespace ShardedSql

/-- Sharding values by table and column, both in lower case. -/
abbrev HintedValues := List ((String × String) × ShardingValue)

/-- Sharding values that a caller gives. -/
structure Hint where
  databaseValues : HintedValues := []
  tableValues : HintedValues := []
  isActive : Bool := false
  isDatabaseOnly : Bool := false
  isMasterOnly : Bool := false
  deriving DecidableEq

namespace HintedValues

/-- The key of a column of a table. -/
def key (table column : String) : String × String :=
  (Text.lowerCase table, Text.lowerCase column)

/-- Put a value in the place of the one with its key, or at the end. -/
def insert
    (key : String × String)
    (value : ShardingValue) : HintedValues → HintedValues
  | [] => [(key, value)]
  | present :: rest =>
      if present.1 = key then (key, value) :: rest else present :: insert key value rest

/-- The value of a column of a table. -/
def find?
    (values : HintedValues)
    (table column : String) : Option ShardingValue :=
  (List.find? (fun entry => entry.1 == key table column) values).map Prod.snd

end HintedValues

namespace Hint

/-- The name that stands for the table of a value for the data source alone. -/
def wholeTable : String := "DB_TABLE_NAME"

/-- The name that stands for the column of a value for the data source alone. -/
def wholeColumn : String := "DB_COLUMN_NAME"

/-- Choose the data source by a value, and send the statement as it is. -/
def setDatabase
    (hint : Hint)
    (value : Value) : Hint :=
  { hint with
    isDatabaseOnly := true
    isActive := true
    databaseValues :=
      HintedValues.insert (HintedValues.key wholeTable wholeColumn)
        ⟨wholeTable, wholeColumn, .single value⟩ hint.databaseValues }

/-- The sharding value of operands, whose number has to fit the operator. -/
def valueOf
    (table column : String)
    (operator : ConditionOperator)
    (operands : List Value) : Except Error ShardingValue :=
  match ValueChoice.ofOperands? operator operands with
  | some choice => .ok ⟨table, column, choice⟩
  | none => .error (.hintArity operator operands.length)

/-- Give the values by which data sources are chosen for a column of a table. -/
def addDatabase
    (hint : Hint)
    (table column : String)
    (operator : ConditionOperator)
    (operands : List Value) : Except Error Hint :=
  (valueOf table column operator operands).map fun value =>
    { hint with
      isActive := true
      databaseValues :=
        HintedValues.insert (HintedValues.key table column) value hint.databaseValues }

/-- Give the values by which actual tables are chosen for a column of a table. -/
def addTable
    (hint : Hint)
    (table column : String)
    (operator : ConditionOperator)
    (operands : List Value) : Except Error Hint :=
  (valueOf table column operator operands).map fun value =>
    { hint with
      isActive := true
      tableValues :=
        HintedValues.insert (HintedValues.key table column) value hint.tableValues }

/-- Read from the master only. -/
def setMaster (hint : Hint) : Hint :=
  { hint with isMasterOnly := true }

/-- The value by which data sources are chosen for a column of a table. -/
def databaseValue?
    (hint : Hint)
    (table column : String) : Option ShardingValue :=
  HintedValues.find? hint.databaseValues table column

/-- The value by which actual tables are chosen for a column of a table. -/
def tableValue?
    (hint : Hint)
    (table column : String) : Option ShardingValue :=
  HintedValues.find? hint.tableValues table column

end Hint

end ShardedSql
