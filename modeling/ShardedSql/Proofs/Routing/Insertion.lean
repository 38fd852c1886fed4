import ShardedSql.Proofs.Routing.DataNodes
import ShardedSql.Proofs.Routing.Stages
import ShardedSql.Proofs.Statement.Kind

/-!
# Rows are stored once

A row is stored at one place: a statement that adds a row sets columns equal to single values, and a
built-in algorithm chooses one target for a single value.  Only a hint that gives several values or a
range for a column leads such a statement to several places.
-/

namespace ShardedSql

/-- Whether a choice is a single value. -/
def ValueChoice.IsSingle (choice : ValueChoice) : Prop :=
  ∃ value, choice = .single value

/-- One operand of an equation is a single value. -/
theorem ValueChoice.isSingle_of_equal
    {values : List Value}
    {choice : ValueChoice}
    (made : ofOperands? .equal values = some choice) :
    choice.IsSingle := by
  match values with
  | [value] => exact ⟨value, (Option.some.inj made).symm⟩
  | [] => cases made
  | _ :: _ :: _ => cases made

namespace Algorithm

variable {targets names : List String}

theorem onlyValue_eq_ok
    {arity : String}
    {values : List ShardingValue}
    {value : ShardingValue}
    (only : onlyValue arity values = .ok value) :
    values = [value] := by
  unfold onlyValue at only
  split at only
  next => rw [Except.ok.inj only]
  next => cases only

theorem exists_target_of_chooseSingle
    {choice : SingleKeyChoice}
    {value : ShardingValue}
    (single : value.choice.IsSingle)
    (chosen : chooseSingle choice targets value = .ok names) :
    ∃ target, names = [target] := by
  obtain ⟨only, isOnly⟩ := single
  unfold chooseSingle at chosen
  rw [isOnly] at chosen
  obtain ⟨target, _, rfl⟩ := Success.map_eq_ok.mp chosen
  exact ⟨target, rfl⟩

/-- A built-in algorithm chooses one target by single values. -/
theorem exists_target_of_choose
    {algorithm : Algorithm}
    (builtIn : algorithm.isBuiltIn = true)
    {values : List ShardingValue}
    (single : ∀ value ∈ values, value.choice.IsSingle)
    (chosen : algorithm.choose targets values = .ok names) :
    ∃ target, names = [target] := by
  unfold choose at chosen
  cases algorithm with
  | firstTarget =>
      obtain ⟨_, _, chosen⟩ := Success.bind_eq_ok.mp chosen
      obtain ⟨target, _, chosen⟩ := Success.bind_eq_ok.mp chosen
      exact ⟨target, (Except.ok.inj chosen).symm⟩
  | modulo modulus =>
      obtain ⟨value, only, chosen⟩ := Success.bind_eq_ok.mp chosen
      have member : value ∈ values := by simp [onlyValue_eq_ok only]
      exact exists_target_of_chooseSingle (single value member) chosen
  | dynamicModulo stem modulus =>
      obtain ⟨value, only, chosen⟩ := Success.bind_eq_ok.mp chosen
      have member : value ∈ values := by simp [onlyValue_eq_ok only]
      exact exists_target_of_chooseSingle (single value member) chosen
  | _ => cases builtIn

end Algorithm

namespace Strategy

variable {strategy : Strategy} {targets names : List String} {values : List ShardingValue}

/-- An INSERT gets one of the listed targets. -/
theorem exists_target_of_chooseAmong
    (builtIn : strategy.algorithm.isBuiltIn = true)
    (single : ∀ value ∈ values, value.choice.IsSingle)
    (chosen : strategy.chooseAmong .insert targets values = .ok names)
    (reached : names ≠ []) :
    ∃ target, names = [target] := by
  unfold chooseAmong at chosen
  split at chosen
  next =>
    -- Without values, the guard leaves at most one target to keep.
    split at chosen
    next => cases chosen
    next few =>
      cases Except.ok.inj chosen
      match targets, few, reached with
      | [], _, none => exact absurd NameSet.ofList_nil none
      | [target], _, _ => exact ⟨target, NameSet.ofList_singleton target⟩
      | _ :: _ :: _, few, _ => simp at few
  next =>
    obtain ⟨found, foundOk, rfl⟩ := Success.map_eq_ok.mp chosen
    obtain ⟨target, rfl⟩ := Algorithm.exists_target_of_choose builtIn single foundOk
    exact ⟨target, NameSet.ofList_singleton target⟩

theorem exists_target_of_chooseDynamic
    (builtIn : strategy.algorithm.isBuiltIn = true)
    (single : ∀ value ∈ values, value.choice.IsSingle)
    (chosen : strategy.chooseDynamic values = .ok names) :
    ∃ target, names = [target] := by
  unfold chooseDynamic at chosen
  split at chosen
  next => cases chosen
  next =>
    obtain ⟨found, foundOk, rfl⟩ := Success.map_eq_ok.mp chosen
    obtain ⟨target, rfl⟩ := Algorithm.exists_target_of_choose builtIn single foundOk
    exact ⟨target, NameSet.ofList_singleton target⟩

end Strategy

namespace Rule

/-- The strategies that a rule declares, for all tables and for single ones. -/
def strategies (rule : Rule) : List Strategy :=
  ([rule.databaseStrategy, rule.tableStrategy] ++ rule.tables.flatMap fun tableRule =>
    [tableRule.databaseStrategy, tableRule.tableStrategy]).filterMap id

/-- Whether the strategies of a rule choose by built-in algorithms. -/
def UsesBuiltIn (rule : Rule) : Prop :=
  ∀ strategy ∈ rule.strategies, strategy.algorithm.isBuiltIn = true

/-- A strategy that applies to a table is its own one, the common one, or the one without columns. -/
theorem isBuiltIn_getD
    {own common : Option Strategy}
    (ownBuiltIn : ∀ strategy ∈ own, strategy.algorithm.isBuiltIn = true)
    (commonBuiltIn : ∀ strategy ∈ common, strategy.algorithm.isBuiltIn = true) :
    (own.getD (common.getD Strategy.none)).algorithm.isBuiltIn = true := by
  cases own with
  | some strategy => exact ownBuiltIn strategy rfl
  | none =>
      cases common with
      | some strategy => exact commonBuiltIn strategy rfl
      | none => rfl

section BuiltIn

variable {rule : Rule} (builtIn : rule.UsesBuiltIn)

include builtIn

theorem UsesBuiltIn.common :
    rule.commonDatabaseStrategy.algorithm.isBuiltIn = true ∧
      rule.commonTableStrategy.algorithm.isBuiltIn = true := by
  constructor
  · exact @isBuiltIn_getD none rule.databaseStrategy nofun
      fun strategy isCommon => builtIn strategy (by simp_all [strategies])
  · exact @isBuiltIn_getD none rule.tableStrategy nofun
      fun strategy isCommon => builtIn strategy (by simp_all [strategies])

theorem UsesBuiltIn.ofTable
    {table : String}
    {tableRule : TableRule}
    (ruled : rule.tableRule table = .ok tableRule) :
    (rule.databaseStrategyOf tableRule).algorithm.isBuiltIn = true ∧
      (rule.tableStrategyOf tableRule).algorithm.isBuiltIn = true := by
  unfold Rule.tableRule at ruled
  split at ruled
  next found isFound =>
    cases Except.ok.inj ruled
    have member := mem_of_findTable? isFound
    have own : ∀ strategy, tableRule.databaseStrategy = some strategy ∨
        tableRule.tableStrategy = some strategy → strategy ∈ rule.strategies := by
      intro strategy isOwn
      simp only [strategies, List.mem_filterMap, id, exists_eq_right, List.mem_append,
        List.mem_flatMap]
      refine .inr ⟨tableRule, member, ?_⟩
      simpa [eq_comm] using isOwn
    constructor
    · exact isBuiltIn_getD (fun strategy isOwn => builtIn strategy (own strategy (.inl isOwn)))
        fun strategy isCommon => builtIn strategy (by simp_all [strategies])
    · exact isBuiltIn_getD (fun strategy isOwn => builtIn strategy (own strategy (.inr isOwn)))
        fun strategy isCommon => builtIn strategy (by simp_all [strategies])
  next =>
    split at ruled
    next dataSource _ =>
      obtain ⟨nodes, _, rfl⟩ := Success.map_eq_ok.mp ruled
      exact ⟨rfl, rfl⟩
    next => cases ruled

end BuiltIn

end Rule

/-- Whether an active hint gives several values or a range where a statement is routed by them: for
the data source alone, or for a column of a strategy of a table. -/
inductive Hint.Spreads (hint : Hint) (rule : Rule) : Prop where
  | whole
      {value : ShardingValue}
      (isDatabaseOnly : hint.isDatabaseOnly = true)
      (isHinted : hint.databaseValue? wholeTable wholeColumn = some value)
      (isWide : ¬ value.choice.IsSingle)
  | database
      {table column : String}
      {tableRule : TableRule}
      {value : ShardingValue}
      (isActive : hint.isActive = true)
      (ruled : rule.tableRule table = .ok tableRule)
      (isColumn : column ∈ (rule.databaseStrategyOf tableRule).columns)
      (isHinted : hint.databaseValue? table column = some value)
      (isWide : ¬ value.choice.IsSingle)
  | table
      {table column : String}
      {tableRule : TableRule}
      {value : ShardingValue}
      (isActive : hint.isActive = true)
      (ruled : rule.tableRule table = .ok tableRule)
      (isColumn : column ∈ (rule.tableStrategyOf tableRule).columns)
      (isHinted : hint.tableValue? table column = some value)
      (isWide : ¬ value.choice.IsSingle)

namespace RoutingRequest

variable {request : RoutingRequest} {table : String} {tableRule : TableRule}

/-- The values of a statement that places a row are single, unless the hint gives others. -/
theorem isSingle_of_columnValue
    (placesRow : request.statement.PlacesRow)
    {hinted : String → String → Option ShardingValue}
    {column : String}
    {value : ShardingValue}
    (known : request.columnValue hinted table column = .ok (some value)) :
    value.choice.IsSingle ∨ request.hint.isActive = true ∧ hinted table column = some value := by
  unfold columnValue at known
  split at known
  next isActive => exact .inr ⟨isActive, Except.ok.inj known⟩
  next =>
    left
    split at known
    next condition found =>
      obtain ⟨_, valued, isValue⟩ := Success.map_eq_ok.mp known
      cases isValue
      unfold Condition.shardingValue at valued
      rw [placesRow.equations condition (List.mem_of_find?_eq_some found)] at valued
      obtain ⟨values, _, valued⟩ := Success.bind_eq_ok.mp valued
      split at valued
      next choice made =>
        cases Except.ok.inj valued
        exact ValueChoice.isSingle_of_equal made
      next => cases valued
    next => cases Except.ok.inj known

theorem isSingle_of_shardingValues
    (placesRow : request.statement.PlacesRow)
    {hinted : String → String → Option ShardingValue}
    {strategy : Strategy}
    (narrow : request.hint.isActive = true → ∀ column ∈ strategy.columns, ∀ value,
      hinted table column = some value → value.choice.IsSingle)
    {values : List ShardingValue}
    (known : request.shardingValues strategy hinted table = .ok values) :
    ∀ value ∈ values, value.choice.IsSingle := by
  intro value member
  obtain ⟨found, foundOk, rfl⟩ := Success.map_eq_ok.mp known
  obtain ⟨entry, entryMem, isValue⟩ := List.mem_filterMap.mp member
  cases isValue
  obtain ⟨column, isColumn, columnOk⟩ := Success.exists_input_of_mem foundOk entryMem
  rcases isSingle_of_columnValue placesRow columnOk with single | ⟨isActive, isHinted⟩
  · exact single
  · exact narrow isActive column isColumn value isHinted

section Insertion

variable (builtIn : request.rule.UsesBuiltIn) (narrow : ¬ request.hint.Spreads request.rule)
variable (placesRow : request.statement.PlacesRow) (isInsert : request.statement.kind = .insert)
variable (ruled : request.rule.tableRule table = .ok tableRule)

include builtIn narrow placesRow isInsert ruled

theorem exists_source_of_insert
    {names : List String}
    (succeeded : request.dataSourcesFor table tableRule = .ok names) :
    ∃ dataSource, names = [dataSource] := by
  have reached := dataSourcesFor_ne_nil succeeded
  obtain ⟨values, known, chosen⟩ := dataSourcesFor_eq_ok succeeded
  rw [isInsert] at chosen
  apply Strategy.exists_target_of_chooseAmong (builtIn.ofTable ruled).1 _ chosen reached
  apply isSingle_of_shardingValues placesRow _ known
  intro isActive column isColumn value isHinted
  by_contra isWide
  exact narrow (.database isActive ruled isColumn isHinted isWide)

theorem exists_table_of_insert
    {dataSource : String}
    {names : List String}
    (succeeded : request.tablesFor table tableRule dataSource = .ok names) :
    ∃ actualTable, names = [actualTable] := by
  obtain ⟨reached, values, known, chosen⟩ := tablesFor_eq_ok succeeded
  have single : ∀ value ∈ values, value.choice.IsSingle := by
    apply isSingle_of_shardingValues placesRow _ known
    intro isActive column isColumn value isHinted
    by_contra isWide
    exact narrow (.table isActive ruled isColumn isHinted isWide)
  split at chosen
  next => exact Strategy.exists_target_of_chooseDynamic (builtIn.ofTable ruled).2 single chosen
  next =>
    rw [isInsert] at chosen
    exact Strategy.exists_target_of_chooseAmong (builtIn.ofTable ruled).2 single chosen reached

omit ruled in
/-- A row is routed to one unit. -/
theorem exists_unit_of_routeTable
    {units : TableUnits}
    (routed : request.routeTable table = .ok units) :
    ∃ unit, units.toList = [unit] := by
  unfold routeTable at routed
  obtain ⟨tableRule, ruled, routed⟩ := Success.bind_eq_ok.mp routed
  obtain ⟨dataSources, sourcesOk, routed⟩ := Success.bind_eq_ok.mp routed
  obtain ⟨groups, groupsOk, routed⟩ := Success.bind_eq_ok.mp routed
  cases Except.ok.inj routed
  obtain ⟨dataSource, rfl⟩ := exists_source_of_insert builtIn narrow placesRow isInsert ruled sourcesOk
  cases Success.mapM_eq_ok.mp groupsOk with
  | cons groupOk rest =>
      cases rest
      obtain ⟨tables, tablesOk, rfl⟩ := Success.map_eq_ok.mp groupOk
      obtain ⟨actualTable, rfl⟩ :=
        exists_table_of_insert builtIn narrow placesRow isInsert ruled tablesOk
      exact ⟨_, rfl⟩

end Insertion

end RoutingRequest

namespace Router

variable {router : Router} {keys : Keys} {hint : Hint} {sql : String} {parameters : List Value}
variable {result : RouteResult}

theorem exists_unit_of_routeHinted
    (builtIn : router.rule.UsesBuiltIn)
    (narrow : ¬ hint.Spreads router.rule)
    (isDatabaseOnly : hint.isDatabaseOnly = true)
    (routed : router.routeHinted hint sql parameters = .ok result)
    (isInsert : result.kind = .insert) :
    ∃ unit, result.units = [unit] := by
  obtain ⟨kind, _, routed⟩ := Success.bind_eq_ok.mp routed
  obtain ⟨outcome, outcomeOk, routed⟩ := Success.bind_eq_ok.mp routed
  cases Except.ok.inj routed
  obtain rfl : kind = .insert := isInsert
  unfold Hint.route at outcomeOk
  split at outcomeOk
  next => cases outcomeOk
  next value isHinted =>
    obtain ⟨chosen, chosenOk, outcomeOk⟩ := Success.bind_eq_ok.mp outcomeOk
    obtain ⟨dataSources, refused, outcomeOk⟩ := Success.bind_eq_ok.mp outcomeOk
    cases Except.ok.inj outcomeOk
    obtain ⟨rfl, reached⟩ := RoutingRequest.refuseEmpty_eq_ok refused
    have single : value.choice.IsSingle := by
      by_contra isWide
      exact narrow (.whole isDatabaseOnly isHinted isWide)
    obtain ⟨dataSource, rfl⟩ := Strategy.exists_target_of_chooseAmong builtIn.common.1
      (by simpa using single) chosenOk reached
    exact ⟨_, rfl⟩

theorem exists_unit_of_routeKeyed
    (builtIn : router.rule.UsesBuiltIn)
    (narrow : ¬ hint.Spreads router.rule)
    {statement : Statement}
    (placesRow : statement.PlacesRow)
    (isInsert : statement.kind = .insert)
    {keyed : KeyedParameters}
    (routed : router.routeKeyed hint sql statement keyed = .ok result) :
    ∃ unit, result.units = [unit] := by
  obtain ⟨outcome, template, stages⟩ := exists_runsAt routed
  have outcomeOk := stages.routed
  obtain ⟨table, isNamed⟩ := placesRow.names
  unfold RoutingRequest.route at outcomeOk
  rw [isNamed] at outcomeOk
  obtain ⟨found, foundOk, rfl⟩ := Success.map_eq_ok.mp outcomeOk
  obtain ⟨unit, isUnit⟩ :=
    RoutingRequest.exists_unit_of_routeTable builtIn narrow placesRow isInsert foundOk
  rw [← List.length_eq_one_iff, length_executionUnits stages.filled, Outcome.runs, isUnit]
  rfl

/-- **A row is stored once.**  Where the strategies of a rule choose by built-in algorithms, an INSERT
that is routed runs exactly once, unless the hint gives several values or a range for the columns it
is routed by. -/
theorem exists_unit_of_insert
    (builtIn : router.rule.UsesBuiltIn)
    (narrow : ¬ hint.Spreads router.rule)
    (routed : (router.route keys hint sql parameters).1 = .ok result)
    (isInsert : result.kind = .insert) :
    ∃ unit, result.units = [unit] := by
  cases byHint : hint.isDatabaseOnly with
  | true =>
      rw [route, byHint, if_pos rfl] at routed
      exact exists_unit_of_routeHinted builtIn narrow byHint routed isInsert
  | false =>
      obtain ⟨statement, left, keyed, parsed, _, runs, -⟩ := exists_statement_of_route byHint routed
      obtain ⟨_, _, stages⟩ := exists_runsAt runs
      rw [stages.kind] at isInsert
      have placesRow := Statement.placesRow_of_parse (congrArg Prod.fst parsed) isInsert
      exact exists_unit_of_routeKeyed builtIn narrow placesRow isInsert runs

end Router

/-- The declaration of a table whose rows are placed by `user_id` and `order_id`. -/
def rowDeclaration : TableDeclaration :=
  { logicTable := "t_order"
    actualTables := ["t_order_0", "t_order_1"]
    dataSources := ["ds_0", "ds_1"]
    databaseStrategy := some ⟨["user_id"], .modulo none⟩
    tableStrategy := some ⟨["order_id"], .modulo none⟩ }

/-- The rule of this table. -/
def rowTable : TableRule :=
  { logicTable := "t_order"
    isDynamic := false
    nodes := [⟨"ds_0", "t_order_0"⟩, ⟨"ds_1", "t_order_0"⟩, ⟨"ds_0", "t_order_1"⟩,
      ⟨"ds_1", "t_order_1"⟩]
    databaseStrategy := some ⟨["user_id"], .modulo none⟩
    tableStrategy := some ⟨["order_id"], .modulo none⟩
    keyColumn := none
    keyGenerator := none }

/-- The rule for this table alone. -/
def rowRule : Rule :=
  { dataSources := ["ds_0", "ds_1"]
    defaultDataSource := none
    tables := [rowTable]
    bindingGroups := []
    databaseStrategy := none
    tableStrategy := none
    keyGenerator := none }

theorem rowRule_isBuilt : rowRule.IsBuilt := by
  refine ⟨{ dataSources := ["ds_0", "ds_1"], tables := [rowTable] }, rfl, ?_⟩
  intro tableRule member
  rw [List.mem_singleton.mp member]
  refine ⟨rowDeclaration, ?_⟩
  have trimmed : Text.trim "t_order" = "t_order" := by decide +kernel
  have firstTrimmed : Text.trim "t_order_0" = "t_order_0" := by decide +kernel
  have secondTrimmed : Text.trim "t_order_1" = "t_order_1" := by decide +kernel
  simp [TableDeclaration.build, TableDeclaration.nodes, TableDeclaration.fixedNodes,
    TableDeclaration.nodesOf, rowDeclaration, rowTable, trimmed, firstTrimmed, secondTrimmed,
    Except.map, bind, Except.bind, pure, Except.pure]

theorem rowRule_usesBuiltIn : rowRule.UsesBuiltIn := by
  intro strategy member
  have listed : strategy ∈ [(⟨["user_id"], .modulo none⟩ : Strategy), ⟨["order_id"], .modulo none⟩] :=
    member
  rcases List.mem_pair.mp listed with rfl | rfl
  · rfl
  · rfl

/-- The text of a statement that adds a row. -/
def rowText : String :=
  "INSERT INTO t_order (user_id, order_id) VALUES (0, 1)"

namespace Router

/-- Without a hint, the row is stored once. -/
theorem exists_unit_rowText :
    rowRule.UsesBuiltIn ∧ ¬ ({} : Hint).Spreads rowRule ∧ ∃ result,
      (route ⟨.mysql, rowRule⟩ (Keys.ofRule rowRule 0) {} rowText []).1 = .ok result ∧
      result.kind = .insert ∧ ∃ unit, result.units = [unit] := by
  have narrow : ¬ ({} : Hint).Spreads rowRule := by
    rintro (⟨noHint⟩ | ⟨noHint⟩ | ⟨noHint⟩)
    all_goals cases noHint
  have routed : (route ⟨.mysql, rowRule⟩ (Keys.ofRule rowRule 0) {} rowText []
      ).1.toOption.map (·.kind) = some .insert := by
    decide +kernel
  obtain ⟨result, isResult, isInsert⟩ := Option.map_eq_some_iff.mp routed
  have resultOk := Success.toOption_eq_some.mp isResult
  exact ⟨rowRule_usesBuiltIn, narrow, result, resultOk, isInsert,
    exists_unit_of_insert rowRule_usesBuiltIn narrow resultOk isInsert⟩

/-- What the text of the row is parsed to. -/
def rowStatement : Statement :=
  { kind := .insert
    tables := ⟨[⟨"t_order", none⟩]⟩
    conditions := ⟨[⟨⟨"user_id", "t_order"⟩, .equal, [.number (.integer 0)]⟩,
      ⟨⟨"order_id", "t_order"⟩, .equal, [.number (.integer 1)]⟩]⟩
    markers := [.table 12 "t_order"]
    insertColumns := [⟨"user_id", "t_order"⟩, ⟨"order_id", "t_order"⟩] }

/-- A hint that places the row on one data source, and gives two values for its table. -/
def spreadHint : Hint :=
  { databaseValues := [(("t_order", "user_id"), ⟨"t_order", "user_id", .single (.integer 0)⟩)]
    tableValues :=
      [(("t_order", "order_id"), ⟨"t_order", "order_id", .list [.integer 0, .integer 1]⟩)]
    isActive := true }

/-- The places that the row is routed to. -/
def spreadUnits : TableUnits :=
  ⟨[⟨"ds_0", "t_order", "t_order_0"⟩, ⟨"ds_0", "t_order", "t_order_1"⟩]⟩

theorem spread_routeTable :
    RoutingRequest.routeTable ⟨rowRule, [], rowStatement, spreadHint⟩ "t_order" =
      .ok spreadUnits := by
  have ruled : rowRule.tableRule "t_order" = .ok rowTable := rfl
  have sourcesOk : RoutingRequest.dataSourcesFor ⟨rowRule, [], rowStatement, spreadHint⟩ "t_order"
      rowTable = .ok ["ds_0"] :=
    Success.toOption_eq_some.mp (by decide +kernel)
  have known : RoutingRequest.shardingValues ⟨rowRule, [], rowStatement, spreadHint⟩
      ⟨["order_id"], .modulo none⟩ spreadHint.tableValue? "t_order" =
        .ok [⟨"t_order", "order_id", .list [.integer 0, .integer 1]⟩] :=
    Success.toOption_eq_some.mp (by decide +kernel)
  have chosen : (Algorithm.modulo none).choose (rowTable.tablesOn "ds_0")
      [⟨"t_order", "order_id", .list [.integer 0, .integer 1]⟩] = .ok ["t_order_0", "t_order_1"] :=
    Success.toOption_eq_some.mp (by decide +kernel)
  have sorted : NameSet.ofList ["t_order_0", "t_order_1"] = ["t_order_0", "t_order_1"] :=
    NameSet.ofList_of_sorted (by decide +kernel) (by decide +kernel)
  have tablesOk : RoutingRequest.tablesFor ⟨rowRule, [], rowStatement, spreadHint⟩ "t_order"
      rowTable "ds_0" = .ok ["t_order_0", "t_order_1"] := by
    have isStatic : rowTable.isDynamic = false := rfl
    have isStrategy : rowRule.tableStrategyOf rowTable = ⟨["order_id"], .modulo none⟩ := rfl
    simp [RoutingRequest.tablesFor, isStatic, isStrategy, known, Strategy.chooseAmong, chosen, sorted,
      Except.map, RoutingRequest.refuseEmpty, bind, Except.bind]
  have unitsOk : RoutingRequest.unitsOn ⟨rowRule, [], rowStatement, spreadHint⟩ "t_order" rowTable
      "ds_0" = .ok spreadUnits.toList :=
    Success.map_eq_ok.mpr ⟨_, tablesOk, rfl⟩
  have groupsOk : ["ds_0"].mapM (RoutingRequest.unitsOn ⟨rowRule, [], rowStatement, spreadHint⟩
      "t_order" rowTable) = .ok [spreadUnits.toList] :=
    Success.mapM_eq_ok.mpr (.cons unitsOk .nil)
  simp only [RoutingRequest.routeTable, ruled, sourcesOk, groupsOk, bind, Except.bind]
  rfl

/-- A hint that its operations can make lets the row be stored twice. -/
theorem exists_units_of_spread :
    rowRule.IsBuilt ∧ rowRule.UsesBuiltIn ∧
      (({} : Hint).addDatabase "t_order" "user_id" .equal [.integer 0]).bind (fun placed =>
        placed.addTable "t_order" "order_id" .among [.integer 0, .integer 1]) = .ok spreadHint ∧
      ∃ result, (route ⟨.mysql, rowRule⟩ (Keys.ofRule rowRule 0) spreadHint rowText []).1 =
          .ok result ∧
        result.kind = .insert ∧
        result.units =
          [⟨"ds_0", "INSERT INTO t_order_0 (user_id, order_id) VALUES (0, 1)"⟩,
            ⟨"ds_0", "INSERT INTO t_order_1 (user_id, order_id) VALUES (0, 1)"⟩] := by
  have hinted : (({} : Hint).addDatabase "t_order" "user_id" .equal [.integer 0]).bind (fun placed =>
      placed.addTable "t_order" "order_id" .among [.integer 0, .integer 1]) = .ok spreadHint :=
    Success.toOption_eq_some.mp (by decide +kernel)
  obtain ⟨left, parsed⟩ : ∃ left, Statement.parse .mysql rowRule (Keys.ofRule rowRule 0) rowText 0 =
      (.ok rowStatement, left) := by
    have isParsed : (Statement.parse .mysql rowRule (Keys.ofRule rowRule 0) rowText 0).1 =
        .ok rowStatement :=
      Success.toOption_eq_some.mp (by decide +kernel)
    exact ⟨_, Prod.ext isParsed rfl⟩
  have routed : RoutingRequest.route ⟨rowRule, [], rowStatement, spreadHint⟩ =
      .ok (.units spreadUnits) := by
    have isNamed : rowStatement.tables.names = ["t_order"] := rfl
    simp only [RoutingRequest.route, isNamed, spread_routeTable, Except.map]
  have rendered : (RenderRequest.template ⟨rowRule, rowText, rowStatement, []⟩ true >>= fun template =>
      executionUnits ⟨rowRule, rowText, rowStatement, []⟩ template (.units spreadUnits)) =
        .ok [⟨"ds_0", "INSERT INTO t_order_0 (user_id, order_id) VALUES (0, 1)"⟩,
          ⟨"ds_0", "INSERT INTO t_order_1 (user_id, order_id) VALUES (0, 1)"⟩] :=
    Success.toOption_eq_some.mp (by decide +kernel)
  obtain ⟨template, templateOk, unitsOk⟩ := Success.bind_eq_ok.mp rendered
  refine ⟨rowRule_isBuilt, rowRule_usesBuiltIn, hinted,
    ⟨.insert, [⟨"ds_0", "INSERT INTO t_order_0 (user_id, order_id) VALUES (0, 1)"⟩,
      ⟨"ds_0", "INSERT INTO t_order_1 (user_id, order_id) VALUES (0, 1)"⟩], [], []⟩, ?_, rfl, rfl⟩
  have byText : spreadHint.isDatabaseOnly = false := rfl
  have filled : fillKey ⟨.mysql, rowRule⟩ left rowStatement [] = .ok ⟨[], [], left⟩ := rfl
  simp only [route, byText, Bool.false_eq_true, if_false, routeParsed, List.length_nil, parsed, filled]
  exact Success.bind_eq_ok.mpr ⟨_, routed, Success.bind_eq_ok.mpr ⟨template, templateOk,
    Success.bind_eq_ok.mpr ⟨_, unitsOk, rfl⟩⟩⟩

end Router

end ShardedSql
