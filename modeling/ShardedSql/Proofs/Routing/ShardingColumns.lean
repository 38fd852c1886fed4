import ShardedSql.Proofs.Routing.Keying
import ShardedSql.Proofs.Statement.LatestConditions

/-!
# Conditions that routing can do without

While a statement is parsed, a condition is dropped unless some strategy may choose by its column.  Two
functions must agree for this to be harmless: the one that tells which columns to keep, and the one that
finds the strategies of a table, whose columns are looked up.
-/

namespace ShardedSql

/-- The conditions on some of the columns. -/
def Conditions.restrictTo
    (conditions : Conditions)
    (isKept : Column → Bool) : Conditions :=
  ⟨conditions.toList.filter fun condition => isKept condition.column⟩

/-- The same request with other conditions. -/
def RoutingRequest.withConditions
    (request : RoutingRequest)
    (conditions : Conditions) : RoutingRequest :=
  { request with statement := { request.statement with conditions := conditions } }

/-- The condition on a column is kept by a restriction that keeps the column. -/
theorem Conditions.find?_restrictTo
    (conditions : Conditions)
    {rule : Rule}
    {column : Column}
    (isSharding : rule.isShardingColumn column = true) :
    (conditions.restrictTo rule.isShardingColumn).find? column = conditions.find? column := by
  unfold Conditions.find? restrictTo
  rw [List.find?_filter]
  congr 1
  funext condition
  cases same : condition.column.same column with
  | true => rw [rule.isShardingColumn_congr same, isSharding]; rfl
  | false => simp

namespace Rule

variable {rule : Rule} {table : String} {tableRule : TableRule}

/-- A table that is not sharded chooses by no column. -/
theorem columns_unsharded
    {dataSource : String}
    (isBuilt : (unshardedTable dataSource table).build = .ok tableRule)
    {strategy : Strategy}
    (isStrategy : strategy ∈ [rule.databaseStrategyOf tableRule, rule.tableStrategyOf tableRule]) :
    strategy.columns = [] := by
  obtain ⟨nodes, -, rfl⟩ := Success.map_eq_ok.mp isBuilt
  rcases List.mem_pair.mp isStrategy with rfl | rfl
  · exact Strategy.columns_none
  · exact Strategy.columns_none

/-- A column that a strategy of a table asks for is one to choose by, also for a table without a rule. -/
theorem isShardingColumn_of_tableRule
    (ruled : rule.tableRule table = .ok tableRule)
    {strategy : Strategy}
    (isStrategy : strategy ∈ [rule.databaseStrategyOf tableRule, rule.tableStrategyOf tableRule])
    {column : String}
    (isColumn : column ∈ strategy.columns) :
    rule.isShardingColumn ⟨column, table⟩ = true := by
  unfold Rule.tableRule at ruled
  cases found : rule.findTable? table with
  | some present =>
      rw [found] at ruled
      cases ruled
      exact isShardingColumn_of_mem found isStrategy isColumn (Text.sameName_refl _)
  | none =>
      rw [found] at ruled
      cases default : rule.defaultDataSource with
      | none =>
          rw [default] at ruled
          cases ruled
      | some dataSource =>
          rw [default] at ruled
          rw [columns_unsharded ruled isStrategy] at isColumn
          cases isColumn

end Rule

namespace RoutingRequest

variable {request : RoutingRequest} {table : String}

/-- Whether conditions say the same about every column of a table that some strategy may choose by. -/
def AgreeOn
    (rule : Rule)
    (table : String)
    (first second : Conditions) : Prop :=
  ∀ column, rule.isShardingColumn ⟨column, table⟩ = true →
    first.find? ⟨column, table⟩ = second.find? ⟨column, table⟩

theorem columnValue_withConditions
    (conditions : Conditions)
    (hinted : String → String → Option ShardingValue)
    (column : String) :
    (request.withConditions conditions).columnValue hinted table column =
      if request.hint.isActive then
        .ok (hinted table column)
      else
        match conditions.find? ⟨column, table⟩ with
        | some condition => (condition.shardingValue request.parameters).map some
        | none => .ok none :=
  rfl

section Agreement

variable {first second : Conditions} {tableRule : TableRule}
variable (agree : AgreeOn request.rule table first second)
variable (ruled : request.rule.tableRule table = .ok tableRule)

include agree ruled

/-- What is known about the columns of a strategy of the table. -/
theorem shardingValues_of_agreeOn
    {strategy : Strategy}
    (isStrategy : strategy ∈
      [request.rule.databaseStrategyOf tableRule, request.rule.tableStrategyOf tableRule])
    (hinted : String → String → Option ShardingValue) :
    (request.withConditions first).shardingValues strategy hinted table =
      (request.withConditions second).shardingValues strategy hinted table := by
  have known : ∀ column ∈ strategy.columns,
      (request.withConditions first).columnValue hinted table column =
        (request.withConditions second).columnValue hinted table column := by
    intro column isColumn
    have sameCondition :=
      agree column (Rule.isShardingColumn_of_tableRule ruled isStrategy isColumn)
    rw [columnValue_withConditions, columnValue_withConditions, sameCondition]
  unfold shardingValues
  rw [Success.mapM_congr known]

theorem dataSourcesFor_of_agreeOn :
    (request.withConditions first).dataSourcesFor table tableRule =
      (request.withConditions second).dataSourcesFor table tableRule := by
  have sameValues := shardingValues_of_agreeOn agree ruled List.mem_cons_self
    request.hint.databaseValue?
  unfold dataSourcesFor
  exact congrArg (· >>= _) sameValues

theorem unitsOn_of_agreeOn (dataSource : String) :
    (request.withConditions first).unitsOn table tableRule dataSource =
      (request.withConditions second).unitsOn table tableRule dataSource := by
  have sameValues := shardingValues_of_agreeOn agree ruled
    (List.mem_cons_of_mem _ List.mem_cons_self) request.hint.tableValue?
  have sameTables : (request.withConditions first).tablesFor table tableRule dataSource =
      (request.withConditions second).tablesFor table tableRule dataSource := by
    unfold tablesFor
    exact congrArg (· >>= _) sameValues
  rw [unitsOn, unitsOn, sameTables]

end Agreement

/-- Conditions that agree on the columns to choose by lead to the same places. -/
theorem routeTable_of_agreeOn
    {first second : Conditions}
    (agree : AgreeOn request.rule table first second) :
    (request.withConditions first).routeTable table =
      (request.withConditions second).routeTable table := by
  have sameRule : ∀ conditions,
      (request.withConditions conditions).rule.tableRule table = request.rule.tableRule table :=
    fun _ => rfl
  unfold routeTable
  rw [sameRule, sameRule]
  cases ruled : request.rule.tableRule table with
  | error error => rfl
  | ok tableRule =>
      have sameUnits : (request.withConditions first).unitsOn table tableRule =
          (request.withConditions second).unitsOn table tableRule :=
        funext (unitsOn_of_agreeOn agree ruled)
      simp only [bind, Except.bind, dataSourcesFor_of_agreeOn agree ruled, sameUnits]

/-- **Dropping the conditions on all other columns never changes where a statement runs.**  A table is
routed alike by all conditions and by those on the columns that some strategy may choose by, whether they
are dropped at the end or never added to the statement.  And a column that a strategy of the table asks for
is among those that are kept, in whatever letter case it and the table are written. -/
theorem routeTable_restricted
    (request : RoutingRequest)
    (table : String) :
    (∀ conditions : Conditions,
      (request.withConditions (conditions.restrictTo request.rule.isShardingColumn)).routeTable table =
        (request.withConditions conditions).routeTable table) ∧
    (∀ added : List Condition,
      (request.withConditions ((added.filter fun condition =>
          request.rule.isShardingColumn condition.column).foldl Conditions.add {})).routeTable table =
        (request.withConditions (added.foldl Conditions.add {})).routeTable table) ∧
    ∀ tableRule, request.rule.tableRule table = .ok tableRule →
      ∀ strategy ∈ [request.rule.databaseStrategyOf tableRule, request.rule.tableStrategyOf tableRule],
        ∀ column ∈ strategy.columns, ∀ name spelling, Text.sameName name column = true →
          Text.sameName spelling table = true →
            request.rule.isShardingColumn ⟨name, spelling⟩ = true := by
  refine ⟨fun conditions => ?_, fun added => ?_, ?_⟩
  · exact routeTable_of_agreeOn fun column isSharding => conditions.find?_restrictTo isSharding
  · refine routeTable_of_agreeOn fun column isSharding => ?_
    rw [Conditions.find?_foldl_add, Conditions.find?_foldl_add,
      Condition.lastOn?_filter added isSharding]
  · intro tableRule ruled strategy isStrategy column isColumn name spelling sameColumn sameTable
    have same : Column.same ⟨name, spelling⟩ ⟨column, table⟩ = true := by
      rw [Column.same, sameColumn, sameTable]
      rfl
    rw [request.rule.isShardingColumn_congr same]
    exact Rule.isShardingColumn_of_tableRule ruled isStrategy isColumn

end RoutingRequest

/-- The rule of a table with a strategy of its own for data sources only. -/
def halfRuledTable : TableRule :=
  { logicTable := "t_order"
    isDynamic := false
    nodes := [⟨"ds_0", "t_order_0"⟩, ⟨"ds_0", "t_order_1"⟩, ⟨"ds_1", "t_order_0"⟩,
      ⟨"ds_1", "t_order_1"⟩]
    databaseStrategy := some ⟨["user_id"], .modulo none⟩
    tableStrategy := none
    keyColumn := none
    keyGenerator := none }

/-- The rule for this table, whose actual tables are chosen by the common strategy. -/
def halfRule : Rule :=
  { dataSources := ["ds_0", "ds_1"]
    defaultDataSource := some "ds_0"
    tables := [halfRuledTable]
    bindingGroups := []
    databaseStrategy := none
    tableStrategy := some ⟨["order_id"], .modulo none⟩
    keyGenerator := none }

/-- Conditions on a sharding column, on a column of no strategy, and on another sharding column. -/
def mixedConditions : List Condition :=
  [⟨⟨"USER_ID", "t_order"⟩, .equal, [.number (.integer 1)]⟩,
    ⟨⟨"status", "t_order"⟩, .equal, [.text "PAID"]⟩,
    ⟨⟨"Order_Id", "t_order"⟩, .equal, [.number (.integer 2)]⟩]

/-- The condition on the status is dropped, and the table is routed as by all three of them. -/
theorem routeTable_mixedConditions :
    (mixedConditions.filter fun condition => halfRule.isShardingColumn condition.column) ≠
        mixedConditions ∧
      (RoutingRequest.withConditions ⟨halfRule, [], { kind := .select }, {}⟩
          (Conditions.restrictTo ⟨mixedConditions⟩ halfRule.isShardingColumn)).routeTable "t_order" =
        (RoutingRequest.withConditions ⟨halfRule, [], { kind := .select }, {}⟩
          ⟨mixedConditions⟩).routeTable "t_order" ∧
      halfRule.isShardingColumn ⟨"Order_Id", "T_ORDER"⟩ = true := by
  obtain ⟨restricted, -, wanted⟩ :=
    RoutingRequest.routeTable_restricted ⟨halfRule, [], { kind := .select }, {}⟩ "t_order"
  refine ⟨by decide +kernel, restricted ⟨mixedConditions⟩, ?_⟩
  exact wanted halfRuledTable rfl ⟨["order_id"], .modulo none⟩
    (List.mem_cons_of_mem _ List.mem_cons_self) "order_id" List.mem_cons_self _ _ (by decide +kernel)
    (by decide +kernel)

end ShardedSql
