import ShardedSql.Proofs.Rendering.Splicing
import ShardedSql.Routing.Router

/-!
# Which names are replaced

A name in the text of a statement is replaced just when a marker stands on it.  Every other name stays as
it is written.
-/

namespace ShardedSql

open Text (IsBoundary slice)

/-- The marker on a name. -/
def Token.mark (token : Token) : Marker :=
  .table token.start token.source

variable {dialect : Dialect} {sql : String} {token : Token}

namespace RenderRequest

variable {request : RenderRequest} {isWidened : Bool} {template : Template}

/-- The part of the text between two positions with the given markers, as it is rendered. -/
def rendered
    (request : RenderRequest)
    (isWidened : Bool)
    (names : TableNames)
    (start stop : Nat)
    (markers : List Marker) : String :=
  Text.splice request.sql (request.replacement isWidened names) stop start markers

/-- What stands for a name in the rendered text: the name of the actual table if there is a marker on it,
and else the name itself. -/
def nameFor
    (request : RenderRequest)
    (names : TableNames)
    (token : Token) : String :=
  if token.mark ∈ request.statement.markers then
    Template.fillSegment names (.table (unquoteName token.source) token.source)
  else
    token.source

variable {start middle stop : Nat} {front back : List Marker}

end RenderRequest

/-- A rule with a single actual table. -/
def singleRule : Rule :=
  { dataSources := ["ds_0"]
    defaultDataSource := none
    tables := [
      { logicTable := "t_order"
        isDynamic := false
        nodes := [⟨"ds_0", "t_order_0"⟩]
        databaseStrategy := none
        tableStrategy := none
        keyColumn := none
        keyGenerator := none }]
    bindingGroups := []
    databaseStrategy := none
    tableStrategy := none
    keyGenerator := none }

/-- The text of a query with an owner among the arguments of a function. -/
def countText : String :=
  "SELECT COUNT(t_order.order_id) FROM t_order"

end ShardedSql
