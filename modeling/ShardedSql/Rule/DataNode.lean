import ShardedSql.Error
import ShardedSql.Text.Blank

/-!
# Data nodes

A data node is an actual table on a data source, written with a point between them.
-/

namespace ShardedSql

/-- An actual table on a data source. -/
structure DataNode where
  dataSource : String
  table : String
  deriving DecidableEq

namespace DataNode

/-- The name that stands for the tables of a dynamic rule. -/
def dynamicName : String := "DYNAMIC_TABLE_PLACEHOLDER"

/-- The node that stands for the dynamic tables of a data source. -/
def dynamic (dataSource : String) : DataNode :=
  ⟨dataSource, dynamicName⟩

/-- Whether the node stands for dynamic tables. -/
def isDynamic (node : DataNode) : Bool :=
  node.table == dynamicName

/-- The data source and the table of a written node; neither is blank. -/
def ofText? (text : String) : Option DataNode :=
  match text.splitOn "." with
  | [dataSource, table] =>
      let node : DataNode := ⟨Text.trim dataSource, Text.trim table⟩
      if node.dataSource.isEmpty || node.table.isEmpty then none else some node
  | _ => none

/-- Read a written node. -/
def read (text : String) : Except Error DataNode :=
  match ofText? text with
  | some node => .ok node
  | none => .error (.invalidDataNode text)

/-- The written form of a node. -/
def text (node : DataNode) : String :=
  node.dataSource ++ "." ++ node.table

/-- Whether the node is the given table on the given data source, in any letter case. -/
def isAt
    (node : DataNode)
    (dataSource table : String) : Bool :=
  Text.sameName node.dataSource dataSource && Text.sameName node.table table

end DataNode

end ShardedSql
