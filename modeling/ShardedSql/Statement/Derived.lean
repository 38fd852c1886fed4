import ShardedSql.Statement.Basic

/-!
# Derived columns

Results of several tables are merged by what their rows show.  An average needs the count and the
sum behind it, and a column to sort or group by has to be in the select list; what is missing is
added under an alias of its own.
-/

namespace ShardedSql

namespace Statement

/-- The part of a text behind its last point. -/
def behindLastPoint (text : String) : String :=
  String.ofList (text.toList.reverse.takeWhile (· != '.')).reverse

/-- Whether an item of the select list shows the column with a name. -/
def shows
    (item : SelectItem)
    (order : OrderItem)
    (name : String) : Bool :=
  match item with
  | .star none => true
  | .star (some owner) => order.owner.any fun present => Text.sameName present owner
  | _ =>
      item.alias?.any (fun aliasName => Text.sameName aliasName name) ||
        Text.sameName item.expression (order.qualifiedName?.getD "") ||
        Text.sameName item.expression name ||
        (order.owner.isNone && Text.sameName (behindLastPoint item.expression) name)

/-- Whether the select list shows a column to sort or group by; one that is given by its position
is always shown. -/
def isProjected
    (items : List SelectItem)
    (order : OrderItem) : Bool :=
  match order.name with
  | none => true
  | some name => items.any fun item => shows item order name

/-- The alias for the next column that the select list does not show; `count` are there already. -/
def missingAlias
    (stem : String)
    (count : Nat) : String :=
  stem ++ toString count

/-- The columns to sort or group by with aliases for those that the select list does not show, and
the items to add for these. -/
def aliasMissing
    (stem : String)
    (items : List SelectItem) :
    (count : Nat) → List OrderItem → List OrderItem × List String
  | _, [] => ([], [])
  | count, order :: rest =>
      match order.qualifiedName? with
      | some qualified =>
          if order.index.isNone && !isProjected items order then
            let aliasName := missingAlias stem count
            let (aliased, added) := aliasMissing stem items (count + 1) rest
            ({ order with aliasName := some aliasName } :: aliased,
              (qualified ++ " AS " ++ aliasName) :: added)
          else
            let (aliased, added) := aliasMissing stem items count rest
            (order :: aliased, added)
      | none =>
          let (aliased, added) := aliasMissing stem items count rest
          (order :: aliased, added)

/-- The arguments of the averages of a select list. -/
def averageArguments (items : List SelectItem) : List String :=
  items.filterMap fun item =>
    match item with
    | .aggregation .avg argument _ => some argument
    | _ => none

/-- The count and the sum behind an average, under aliases with its number. -/
def averageParts
    (argument : String)
    (number : Nat) : List SelectItem :=
  [.aggregation .count argument (some ("AVG_DERIVED_COUNT_" ++ toString number)),
    .aggregation .sum argument (some ("AVG_DERIVED_SUM_" ++ toString number))]

/-- The text of an added item. -/
def addedText (item : SelectItem) : String :=
  item.expression ++ " AS " ++ item.alias?.getD ""

/-- Add what merging needs at the end of the select list. -/
def deriveColumns
    (statement : Statement)
    (listStop : Nat) : Statement :=
  let parts := (averageArguments statement.items).zipIdx.flatMap fun (argument, number) =>
    averageParts argument number
  let (orders, addedOrders) :=
    aliasMissing "ORDER_BY_DERIVED_" statement.items 0 statement.orderByItems
  let (groups, addedGroups) :=
    aliasMissing "GROUP_BY_DERIVED_" statement.items 0 statement.groupByItems
  let added := parts.map addedText ++ addedOrders ++ addedGroups
  let extended :=
    { statement with
      orderByItems := orders
      groupByItems := groups
      items := statement.items ++ parts }
  if added.isEmpty then extended else extended.mark (.items listStop added)

/-- Sort by the columns of GROUP BY when nothing else is asked for. -/
def deriveOrder
    (statement : Statement)
    (groupByStop : Option Nat) : Statement :=
  if statement.groupByItems.isEmpty || !statement.orderByItems.isEmpty then
    statement
  else
    let sorted := { statement with orderByItems := statement.groupByItems }
    match groupByStop with
    | some stop => sorted.mark (.orderBy stop)
    | none => sorted

end Statement

end ShardedSql
