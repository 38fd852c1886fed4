import ShardedSql.Json.Basic
import ShardedSql.Statement.Basic

/-!
# Records of statements

A statement and its parts as JSON values, for those who want to see what parsing found.
-/

namespace ShardedSql

/-- A record of one kind among several. -/
def Json.tagged
    (kind : String)
    (fields : List (String × Json)) : Json :=
  .object (("type", .text kind) :: fields)

/-- The record of an expression. -/
def Expression.toJson : Expression → Json
  | .placeholder index => .tagged "placeholder" [("value", .ofNat index)]
  | .text content => .tagged "text" [("value", .text content)]
  | .number value => .tagged "number" [("value", value.toJson)]
  | .identifier name => .tagged "identifier" [("value", .text name)]
  | .property owner name =>
      .tagged "property" [("value", .object [("owner", .text owner), ("name", .text name)])]
  | .ignored => .tagged "ignore" []

/-- The values of a choice under the name of its form. -/
def ValueChoice.toJson : ValueChoice → Json
  | .single value => .object [("single", value.toJson)]
  | .list values => .object [("list", .list (values.map Value.toJson))]
  | .range lower upper => .object [("range", .list [lower.toJson, upper.toJson])]

/-- The record of a sharding value. -/
def ShardingValue.toJson (value : ShardingValue) : Json :=
  .object
    [("table", .text value.table), ("column", .text value.column),
      ("operator", .text value.operator.text), ("kind", value.choice.toJson),
      ("text", .text value.display)]

/-- The record of a condition. -/
def Condition.toJson (condition : Condition) : Json :=
  .object
    [("column", .text condition.column.name), ("table", .text condition.column.table),
      ("operator", .text condition.operator.text),
      ("expressions", .list (condition.operands.map Expression.toJson))]

/-- The records of conditions. -/
def Conditions.toJson (conditions : Conditions) : Json :=
  .list (conditions.toList.map Condition.toJson)

/-- The record of a marker. -/
def Marker.toJson : Marker → Json
  | .table position literals =>
      .tagged "table" [("begin_position", .ofNat position), ("original_literals", .text literals)]
  | .items position added =>
      .tagged "items" [("begin_position", .ofNat position), ("items", .ofTexts added)]
  | .orderBy position => .tagged "order_by" [("begin_position", .ofNat position)]
  | .rowCount position length value =>
      .tagged "row_count"
        [("begin_position", .ofNat position), ("length", .ofNat length),
          ("row_count", .integer value.toInt)]
  | .offset position length value =>
      .tagged "offset"
        [("begin_position", .ofNat position), ("length", .ofNat length),
          ("offset", .integer value.toInt)]

/-- The record of an item of a select list. -/
def SelectItem.toJson : SelectItem → Json
  | .star owner => .tagged "star" [("owner", .ofText? owner)]
  | .common expression aliasName =>
      .tagged "common" [("expression", .text expression), ("alias", .ofText? aliasName)]
  | .aggregation function argument aliasName =>
      .tagged "aggregation"
        [("aggregation_type", .text function.name), ("inner_expression", .text argument),
          ("alias", .ofText? aliasName)]

/-- The record of a column to sort or group by. -/
def OrderItem.toJson (item : OrderItem) : Json :=
  .object
    [("owner", .ofText? item.owner), ("name", .ofText? item.name),
      ("index", .ofOption .ofNat item.index), ("order_type", .text item.direction.text),
      ("alias", .ofText? item.aliasName)]

/-- The value that an operand of a row limit shows and the number of its placeholder; a placeholder
shows minus one. -/
def LimitOperand.toFields : LimitOperand → Json × Json
  | .literal value => (.integer value.toInt, .null)
  | .placeholder index => (.integer (-1), .ofNat index)

/-- The record of an operand of a row limit. -/
def LimitOperand.toJson (operand : LimitOperand) : Json :=
  .object [("value", operand.toFields.1), ("parameter_index", operand.toFields.2)]

/-- The record of a row limit. -/
def Limit.toJson (limit : Limit) : Json :=
  .object
    [("offset", .ofOption LimitOperand.toJson limit.offset),
      ("row_count", .ofOption LimitOperand.toJson limit.rowCount),
      ("row_count_rewrite", .boolean limit.countsFromOffset)]

/-- The record of a generated key. -/
def GeneratedKey.toJson (key : GeneratedKey) : Json :=
  let (index, value, isDeferred) :=
    match key.source with
    | .placeholder index => (Json.ofNat index, Json.null, false)
    | .literal value => (.null, .integer value.toInt, false)
    | .deferred index => (.ofNat index, .null, true)
    | .unknown => (.null, .null, false)
  .object
    [("column", .text key.column), ("parameter_index", index), ("value", value),
      ("deferred", .boolean isDeferred)]

/-- The record of a table. -/
def Table.toJson (table : Table) : Json :=
  .object [("name", .text table.name), ("alias", .ofText? table.aliasName)]

/-- The record of a column that an INSERT names. -/
def Column.toJson (column : Column) : Json :=
  .object [("name", .text column.name), ("table_name", .text column.table)]

/-- The record of a statement with what follows from its parts. -/
def Statement.toJson (statement : Statement) : Json :=
  .object
    [("kind", .text statement.kind.text),
      ("sql_type", .text statement.kind.category.text),
      ("tables", .list (statement.tables.toList.map Table.toJson)),
      ("conditions", statement.conditions.toJson),
      ("sql_tokens", .list (statement.markers.map Marker.toJson)),
      ("items", .list (statement.items.map SelectItem.toJson)),
      ("expressions", .ofTexts (statement.items.map SelectItem.expression)),
      ("contains_star", .boolean statement.containsStar),
      ("distinct", .boolean statement.distinct),
      ("group_by_items", .list (statement.groupByItems.map OrderItem.toJson)),
      ("order_by_items", .list (statement.orderByItems.map OrderItem.toJson)),
      ("limit", .ofOption Limit.toJson statement.limit),
      ("insert_columns", .list (statement.insertColumns.map Column.toJson)),
      ("generated_key", .ofOption GeneratedKey.toJson statement.generatedKey),
      ("same_group_order", .boolean statement.groupsAsSorted),
      ("fetch_all", .boolean statement.needsAllRows)]

end ShardedSql
