import ShardedSql.Proofs.Parser.Nesting
import ShardedSql.Routing.Tables

/-!
# Conditions of several queries of one table

A statement has one condition for each column of a table, whichever of its queries it comes from.  So a
join of two queries of one table is routed like a single query with the restrictions of both, of which
the last one on a column counts.  What one of the two queries needs may be left out because of the other.
-/

namespace ShardedSql

namespace RoutingRequest

/-- Whether two statements look the same to routing: they are of one kind, name the same tables and have
the same conditions on every column. -/
structure LookAlike (first second : Statement) : Prop where
  kind : first.kind = second.kind
  names : first.tables.names = second.tables.names
  conditions : ∀ column, first.conditions.find? column = second.conditions.find? column

section LookAlike

variable {first second : Statement} (alike : LookAlike first second)
variable (rule : Rule) (parameters : List Value) (hint : Hint)

include alike

theorem LookAlike.shardingValues_eq
    (strategy : Strategy)
    (hinted : String → String → Option ShardingValue)
    (table : String) :
    shardingValues ⟨rule, parameters, first, hint⟩ strategy hinted table =
      shardingValues ⟨rule, parameters, second, hint⟩ strategy hinted table := by
  have values : columnValue ⟨rule, parameters, first, hint⟩ hinted table =
      columnValue ⟨rule, parameters, second, hint⟩ hinted table := by
    funext column
    simp only [columnValue, alike.conditions]
  simp only [shardingValues, values]

theorem LookAlike.routeTable_eq (table : String) :
    routeTable ⟨rule, parameters, first, hint⟩ table =
      routeTable ⟨rule, parameters, second, hint⟩ table := by
  have units : ∀ tableRule, unitsOn ⟨rule, parameters, first, hint⟩ table tableRule =
      unitsOn ⟨rule, parameters, second, hint⟩ table tableRule := by
    intro tableRule
    funext dataSource
    simp only [unitsOn, tablesFor, alike.shardingValues_eq, alike.kind]
  simp only [routeTable, dataSourcesFor, alike.shardingValues_eq, alike.kind, units]

theorem LookAlike.routeEach_eq
    (bound tables : List String) :
    routeEach ⟨rule, parameters, first, hint⟩ bound tables =
      routeEach ⟨rule, parameters, second, hint⟩ bound tables := by
  induction tables generalizing bound with
  | nil => rfl
  | cons table rest ih => simp only [routeEach, alike.routeTable_eq, ih]

/-- Statements that look the same are routed to the same places. -/
theorem LookAlike.route_eq :
    route ⟨rule, parameters, first, hint⟩ = route ⟨rule, parameters, second, hint⟩ := by
  simp only [route, routeUnbound, alike.names, alike.routeTable_eq, alike.routeEach_eq]

end LookAlike

end RoutingRequest

/-- Whether two conjunctions leave the same restriction of every column that some strategy may choose by:
the last one on the column. -/
def Conjunction.RestrictsLike
    {dialect : Dialect}
    (rule : Rule)
    (table : String)
    (first second : Conjunction dialect) : Prop :=
  ∀ column, rule.isShardingColumn column = true →
    Condition.lastOn? (first.conditions table 0) column =
      Condition.lastOn? (second.conditions table 0) column

section Restrictions

variable {dialect : Dialect} (rule : Rule) (table : String)

/-- What is recorded on a column is its last restriction, if some strategy may choose by it. -/
theorem Conjunction.find?_recorded
    (conjunction : Conjunction dialect)
    (column : Column) :
    ((conjunction.recorded rule table 0).foldl Conditions.add {}).find? column =
      if rule.isShardingColumn column then
        Condition.lastOn? (conjunction.conditions table 0) column
      else
        none := by
  rw [Conditions.find?_foldl_add, Conjunction.recorded]
  change (Condition.lastOn? _ column).or none = _
  rw [Option.or_none]
  split
  next isSharding => exact Condition.lastOn?_filter _ isSharding
  next notSharding =>
    cases isLast : Condition.lastOn? _ column with
    | none => rfl
    | some condition =>
        have member := List.mem_reverse.mp (List.mem_of_find?_eq_some isLast)
        have isSharding : rule.isShardingColumn condition.column = true := by
          simpa using (List.mem_filter.mp member).2
        rw [rule.isShardingColumn_congr (Condition.same_of_lastOn? isLast)] at isSharding
        exact absurd isSharding notSharding

/-- A conjunction that restricts every column that another one restricts leaves no restriction of the
other one in front of it. -/
theorem Conjunction.restrictsLike_both
    {left right : Conjunction dialect}
    (noPlaceholder : left.placeholders = 0)
    (restricts : ∀ column, rule.isShardingColumn column = true →
      (Condition.lastOn? (left.conditions table 0) column).isSome = true →
        (Condition.lastOn? (right.conditions table 0) column).isSome = true) :
    right.RestrictsLike rule table (left.both right) := by
  intro column isSharding
  rw [Conjunction.conditions, Condition.lastOn?_append, noPlaceholder]
  cases isLast : Condition.lastOn? (right.conditions table 0) column with
  | some condition => rfl
  | none =>
      have covered := restricts column isSharding
      rw [isLast] at covered
      cases isLeft : Condition.lastOn? (left.conditions table 0) column with
      | none => rfl
      | some condition => cases covered (by rw [isLeft]; rfl)

end Restrictions

namespace QueryJoin

/-- **A join of two queries of one table is routed like one query with the restrictions of both.**  The join
is accepted, the table is its only one, and for each column that some strategy may choose by its condition
is the last restriction of the column in the two queries.  So it runs at the same places as every query of
the table whose conjunction leaves the same restrictions, such as the conjunction of both, whatever each of
the two queries needs by itself. -/
theorem routes_as_conjunction
    {dialect : Dialect}
    (rule : Rule)
    (keys : Keys)
    (join : QueryJoin dialect)
    {sql : String}
    (faces : (Cursor.ofText dialect sql).place.Faces join.words)
    (parameterCount : Nat) :
    ∃ joined,
      (Statement.parse dialect rule keys sql parameterCount).1 = .ok joined ∧
      joined.kind = .select ∧
      joined.tables.names = [join.table.text] ∧
      (∀ column, joined.conditions.find? column =
        if rule.isShardingColumn column then
          Condition.lastOn? ((join.left.both join.right).conditions join.table.text 0) column
        else
          none) ∧
      ∀ (conjunction : Conjunction dialect) (text : String),
        (Cursor.ofText dialect text).place.Faces (conjunction.queryWords join.table) →
        conjunction.RestrictsLike rule join.table.text (join.left.both join.right) →
        ∃ alone,
          (Statement.parse dialect rule keys text parameterCount).1 = .ok alone ∧
          ∀ parameters hint,
            RoutingRequest.route ⟨rule, parameters, joined, hint⟩ =
              RoutingRequest.route ⟨rule, parameters, alone, hint⟩ := by
  obtain ⟨joined, parsed, isSelect, tables, conditions⟩ :=
    Statement.exists_parse_of_join rule keys parameterCount faces
  have found := (join.left.both join.right).find?_recorded rule join.table.text
  rw [← QueryJoin.recorded, ← conditions] at found
  refine ⟨joined, parsed, isSelect, congrArg Tables.names tables, found, ?_⟩
  intro conjunction text facesQuery alike
  obtain ⟨alone, parsedAlone, isSelectAlone, tablesAlone, conditionsAlone⟩ :=
    Statement.exists_parse_of_query rule keys parameterCount facesQuery
  refine ⟨alone, parsedAlone, fun parameters hint => RoutingRequest.LookAlike.route_eq ?_ _ _ _⟩
  refine ⟨isSelect.trans isSelectAlone.symm, by rw [tables, tablesAlone], ?_⟩
  intro column
  rw [found, conditionsAlone, conjunction.find?_recorded]
  split
  next isSharding => exact (alike column isSharding).symm
  next => rfl

section Samples

/-- The table `t_order` in two data sources, divided by the column `user_id`. -/
def pairTable : TableRule :=
  { logicTable := "t_order"
    isDynamic := false
    nodes := [⟨"ds_0", "t_order"⟩, ⟨"ds_1", "t_order"⟩]
    databaseStrategy := some ⟨["user_id"], .modulo none⟩
    tableStrategy := none
    keyColumn := none
    keyGenerator := none }

/-- A rule with this table only. -/
def pairRule : Rule :=
  { dataSources := ["ds_0", "ds_1"]
    defaultDataSource := none
    tables := [pairTable]
    bindingGroups := []
    databaseStrategy := none
    tableStrategy := none
    keyGenerator := none }

theorem decimalFrom_digit_le
    {digit : Char}
    (isDigit : digit.isDigit = true) :
    decimalFrom 0 [digit] ≤ Integer.greatest.toNat := by
  have isBelow : digit.toNat ≤ 57 := (Char.isDigit_iff_toNat.mp isDigit).2
  rw [Integer.greatest]
  simp only [decimalFrom, List.foldl_cons, List.foldl_nil, Integer.digitValue]
  omega

/-- The number that a single digit writes. -/
def digitLiteral
    (digit : Char)
    (isDigit : digit.isDigit = true) : IntegerLiteral :=
  { isNegative := false
    digits := [digit]
    notEmpty := List.cons_ne_nil digit []
    allDigits := List.forall_mem_singleton.mpr isDigit
    inRange := decimalFrom_digit_le isDigit }

/-- The restriction of the column `user_id` to a number. -/
def userIs (literal : IntegerLiteral) : Conjunction .mysql :=
  .single Statement.userColumn (.equal (.integer literal))

/-- Two such restrictions restrict the same columns. -/
theorem isSome_lastOn?_userIs
    (first second : IntegerLiteral)
    (table : String)
    (column : Column) :
    (Condition.lastOn? ((userIs first).conditions table 0) column).isSome =
      (Condition.lastOn? ((userIs second).conditions table 0) column).isSome := by
  rw [Bool.eq_iff_iff]
  simp [userIs, Conjunction.conditions, Condition.lastOn?, Restriction.condition]

/-- A join of the orders of the first user with those of the second one. -/
def userJoin : QueryJoin .mysql :=
  { table := Statement.orderTable
    left := userIs (digitLiteral '1' rfl)
    right := userIs (digitLiteral '2' rfl)
    leftName := ⟨"a", by decide, by decide⟩
    rightName := ⟨"b", by decide, by decide⟩
    column := ⟨"x", by decide, by decide⟩ }

/-- The text of the join. -/
def userJoinText : String :=
  "SELECT * FROM (SELECT * FROM t_order WHERE user_id = 1) a " ++
    "JOIN (SELECT * FROM t_order WHERE user_id = 2) b ON a.x = b.x"

/-- This join runs where the query of the second user runs. -/
theorem userJoin_routes_as_second :
    (Cursor.ofText .mysql userJoinText).place.Faces userJoin.words ∧
      ∃ joined alone,
        (Statement.parse .mysql pairRule (Keys.ofRule pairRule 0) userJoinText 0).1 = .ok joined ∧
        (Statement.parse .mysql pairRule (Keys.ofRule pairRule 0)
          "SELECT * FROM t_order WHERE user_id = 2" 0).1 = .ok alone ∧
        ∀ parameters hint,
          RoutingRequest.route ⟨pairRule, parameters, joined, hint⟩ =
            RoutingRequest.route ⟨pairRule, parameters, alone, hint⟩ := by
  have faces : (Cursor.ofText .mysql userJoinText).place.Faces userJoin.words := by
    unfold Place.Faces
    decide +kernel
  have facesSecond : (Cursor.ofText .mysql "SELECT * FROM t_order WHERE user_id = 2").place.Faces
      (userJoin.right.queryWords userJoin.table) := by
    unfold Place.Faces
    decide +kernel
  obtain ⟨joined, parsed, -, -, -, agrees⟩ :=
    routes_as_conjunction pairRule (Keys.ofRule pairRule 0) userJoin faces 0
  obtain ⟨alone, parsedAlone, routes⟩ := agrees _ _ facesSecond
    (Conjunction.restrictsLike_both pairRule _ rfl fun _ _ restricted =>
      (isSome_lastOn?_userIs _ _ _ _).trans restricted)
  exact ⟨faces, joined, alone, parsed, parsedAlone, routes⟩

/-- Where a text runs under this rule. -/
def pairUnits? (text : String) : Option (List TableUnit) :=
  ((Statement.parse .mysql pairRule (Keys.ofRule pairRule 0) text 0).1.toOption.bind fun statement =>
    (RoutingRequest.route ⟨pairRule, [], statement, {}⟩).toOption).map fun outcome =>
      outcome.tableUnits.toList

theorem exists_route_of_pairUnits?
    {text : String}
    {units : List TableUnit}
    (found : pairUnits? text = some units) :
    ∃ statement outcome,
      (Statement.parse .mysql pairRule (Keys.ofRule pairRule 0) text 0).1 = .ok statement ∧
      RoutingRequest.route ⟨pairRule, [], statement, {}⟩ = .ok outcome ∧
      outcome.tableUnits.toList = units := by
  obtain ⟨outcome, isRouted, isUnits⟩ := Option.map_eq_some_iff.mp found
  obtain ⟨statement, isParsed, isOutcome⟩ := Option.bind_eq_some_iff.mp isRouted
  exact ⟨statement, outcome, Success.toOption_eq_some.mp isParsed,
    Success.toOption_eq_some.mp isOutcome, isUnits⟩

/-- This join does not run where the query of the first user runs. -/
theorem exists_unit_missed_by_userJoin :
    ∃ joined alone outcome outcomeAlone unit,
      (Statement.parse .mysql pairRule (Keys.ofRule pairRule 0) userJoinText 0).1 = .ok joined ∧
      (Statement.parse .mysql pairRule (Keys.ofRule pairRule 0)
        "SELECT * FROM t_order WHERE user_id = 1" 0).1 = .ok alone ∧
      RoutingRequest.route ⟨pairRule, [], joined, {}⟩ = .ok outcome ∧
      RoutingRequest.route ⟨pairRule, [], alone, {}⟩ = .ok outcomeAlone ∧
      unit ∈ outcomeAlone.tableUnits.toList ∧
      unit ∉ outcome.tableUnits.toList := by
  obtain ⟨joined, outcome, parsed, routed, units⟩ :=
    @exists_route_of_pairUnits? userJoinText [⟨"ds_0", "t_order", "t_order"⟩] (by decide +kernel)
  obtain ⟨alone, outcomeAlone, parsedAlone, routedAlone, unitsAlone⟩ :=
    @exists_route_of_pairUnits? "SELECT * FROM t_order WHERE user_id = 1"
      [⟨"ds_1", "t_order", "t_order"⟩] (by decide +kernel)
  refine ⟨joined, alone, outcome, outcomeAlone, ⟨"ds_1", "t_order", "t_order"⟩, parsed, parsedAlone,
    routed, routedAlone, ?_, ?_⟩
  · simp [unitsAlone]
  · simp [units]

end Samples

end QueryJoin

end ShardedSql
