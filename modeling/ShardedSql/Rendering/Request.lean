import ShardedSql.Rendering.Template
import ShardedSql.Routing.Outcome
import ShardedSql.Rule.Basic
import ShardedSql.Statement.Basic
import ShardedSql.Text.Span

/-!
# Rendering

A statement is rendered for the places it runs at by changing its text at its markers: names of
tables become places to fill in, missing items and orders are added, and literal row limits are
widened when the statement runs more than once.  Every other byte of the text stays as it is.
-/

namespace ShardedSql

/-- A statement with what rendering needs. -/
structure RenderRequest where
  rule : Rule
  sql : String
  statement : Statement
  parameters : List Value

namespace RenderRequest

/-- Drop each marker that equals the one before it. -/
def dropRepeats : List Marker → List Marker
  | [] => []
  | [marker] => [marker]
  | first :: second :: rest =>
      if first = second then dropRepeats (second :: rest)
      else first :: dropRepeats (second :: rest)

/-- The markers in the order of their positions, without repetition. -/
def orderedMarkers (statement : Statement) : List Marker :=
  dropRepeats (statement.markers.mergeSort fun first second =>
    decide (first.position ≤ second.position))

/-- What an item of the order is called. -/
def orderLabel (item : OrderItem) : String :=
  match item.label?, item.index with
  | some label, _ => label
  | none, some index => toString index
  | none, none => ""

/-- The clause that sorts by the order of the statement. -/
def orderClause (statement : Statement) : String :=
  " ORDER BY " ++ ", ".intercalate (statement.orderByItems.map fun item =>
    orderLabel item ++ " " ++ item.direction.text)

/-- The row count that takes the place of a literal one. -/
def widenedCount
    (request : RenderRequest)
    (isWidened : Bool)
    (count : Int64) : Except Error Int64 := do
  match request.statement.limit with
  | none => .ok count
  | some limit =>
      if !isWidened then
        .ok count
      else if request.statement.needsAllRows then
        .ok Limit.allRows
      else if limit.countsFromOffset then
        .ok (Integer.saturatingAdd count (← limit.offsetValue request.parameters))
      else
        .ok count

/-- A rendered part of the text and the place behind what it replaces. -/
structure Progress where
  template : Template
  position : Nat

/-- Render up to a marker and what stands there.  A marker in front of what is already rendered
changes nothing. -/
def renderMarker
    (request : RenderRequest)
    (isWidened : Bool)
    (progress : Progress)
    (marker : Marker) : Except Error Progress := do
  if marker.position < progress.position then
    .ok progress
  else
    let template :=
      progress.template.addText (Text.slice request.sql progress.position marker.position)
    match marker with
    | .table position literals =>
        .ok ⟨template.addTable (unquoteName literals) literals, position + literals.utf8ByteSize⟩
    | .items position items =>
        .ok ⟨items.foldl (fun built item => (built.addText ", ").addText item) template, position⟩
    | .orderBy position => .ok ⟨template.addText (orderClause request.statement), position⟩
    | .rowCount position length count =>
        let rowCount ← request.widenedCount isWidened count
        let text :=
          if rowCount = count then Text.slice request.sql position (position + length)
          else toString rowCount.toInt
        .ok ⟨template.addText text, position + length⟩
    | .offset position length _ =>
        let text :=
          if isWidened then "0" else Text.slice request.sql position (position + length)
        .ok ⟨template.addText text, position + length⟩

/-- Render the statement.  Row limits are widened when it runs more than once. -/
def template
    (request : RenderRequest)
    (isWidened : Bool) : Except Error Template := do
  let progress ←
    (orderedMarkers request.statement).foldlM (request.renderMarker isWidened) ⟨{}, 0⟩
  .ok (progress.template.addText
    (Text.slice request.sql progress.position request.sql.utf8ByteSize))

/-- The actual tables of routed units. -/
def routedNames (units : List TableUnit) : TableNames :=
  units.foldl
    (fun names unit => TableNames.insert (Text.lowerCase unit.logicTable) unit.actualTable names) []

/-- Add the partner of a unit's actual table for a table of the statement that is bound to it and
has no actual table yet. -/
def addPartner
    (group : BindingGroup)
    (unit : TableUnit)
    (names : TableNames)
    (table : String) : Except Error TableNames :=
  let key := Text.lowerCase table
  if (names.find? key).isSome || !group.contains table then
    .ok names
  else
    (group.partner unit.dataSource table unit.actualTable).map fun actualTable =>
      TableNames.insert key actualTable names

/-- Add the partners of a unit's actual table. -/
def addPartners
    (request : RenderRequest)
    (names : TableNames)
    (unit : TableUnit) : Except Error TableNames :=
  match request.rule.findGroup? unit.logicTable with
  | some group => request.statement.tables.names.foldlM (addPartner group unit) names
  | none => .ok names

/-- The actual tables of the units that a statement runs on, and of the tables bound to them. -/
def tableNames
    (request : RenderRequest)
    (units : List TableUnit) : Except Error TableNames :=
  let routed := units.filter fun unit => !unit.logicTable.isEmpty
  routed.foldlM request.addPartners (routedNames routed)

/-- The statement for the units that it runs on. -/
def fill
    (request : RenderRequest)
    (template : Template)
    (units : List TableUnit) : Except Error String :=
  (request.tableNames units).map template.fill

end RenderRequest

end ShardedSql
