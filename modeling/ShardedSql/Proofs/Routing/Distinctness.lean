import ShardedSql.Proofs.Parser.Naming
import ShardedSql.Proofs.Rendering.Filling
import ShardedSql.Proofs.Routing.ActualNames
import ShardedSql.Proofs.Routing.Stages

/-!
# No text is sent twice

A table is routed to each of its places once, whatever its algorithms choose and its data nodes repeat.  The
text for a place tells the actual table.  So a statement over one table is sent to no data source twice with
the same text, and no row is written twice.
-/

namespace ShardedSql

namespace TableUnits

theorem nodup_add
    {units : TableUnits}
    (distinct : units.toList.Nodup)
    (unit : TableUnit) :
    (units.add unit).toList.Nodup := by
  unfold add
  split
  next => exact distinct
  next isNew =>
    rw [List.contains_iff_mem] at isNew
    rw [List.nodup_append]
    refine ⟨distinct, List.nodup_singleton unit, ?_⟩
    rintro present isPresent _ isUnit rfl
    exact isNew (List.mem_singleton.mp isUnit ▸ isPresent)

/-- Units are collected without repetition. -/
theorem nodup_ofList (added : List TableUnit) :
    (ofList added).toList.Nodup := by
  have distinct : ∀ units : TableUnits, units.toList.Nodup → (added.foldl add units).toList.Nodup := by
    induction added with
    | nil => exact fun _ => id
    | cons unit added ih => exact fun units distinct => ih _ (nodup_add distinct unit)
  exact distinct {} List.nodup_nil

end TableUnits

theorem TableDeclaration.logicTable_of_build
    {declaration : TableDeclaration}
    {tableRule : TableRule}
    (built : declaration.build = .ok tableRule) :
    tableRule.logicTable = declaration.logicTable ∧ tableRule.logicTable.isEmpty = false := by
  obtain ⟨nodes, nodesOk, rfl⟩ := Success.map_eq_ok.mp built
  refine ⟨rfl, Bool.eq_false_iff.mpr fun isEmpty => ?_⟩
  have isBlank : declaration.logicTable = "" := String.isEmpty_iff.mp isEmpty
  unfold TableDeclaration.nodes at nodesOk
  rw [isBlank, if_pos (by decide)] at nodesOk
  cases nodesOk

/-- The rule that applies to a table under a built rule has a name, which is that of the table. -/
theorem Rule.IsBuilt.isFor_of_tableRule
    {rule : Rule}
    (isBuilt : rule.IsBuilt)
    {table : String}
    {tableRule : TableRule}
    (ruled : rule.tableRule table = .ok tableRule) :
    Text.sameName tableRule.logicTable table = true ∧ tableRule.logicTable.isEmpty = false := by
  unfold Rule.tableRule at ruled
  split at ruled
  next found isFound =>
    cases Except.ok.inj ruled
    obtain ⟨declaration, ruleBuilt, tablesBuilt⟩ := isBuilt
    have member := mem_of_findTable? isFound
    rw [RuleDeclaration.tables_of_build ruleBuilt] at member
    obtain ⟨_, tableBuilt⟩ := tablesBuilt tableRule member
    exact ⟨List.find?_some (p := fun rule : TableRule => rule.isFor table) isFound,
      (TableDeclaration.logicTable_of_build tableBuilt).2⟩
  next =>
    split at ruled
    next =>
      obtain ⟨sameTable, isNamed⟩ := TableDeclaration.logicTable_of_build ruled
      exact ⟨by rw [sameTable]; exact Text.sameName_refl _, isNamed⟩
    next => cases ruled

namespace RoutingRequest

/-- The places of a table are different, and all of them are places of its rule. -/
theorem nodup_routeTable
    {request : RoutingRequest}
    {table : String}
    {units : TableUnits}
    (routed : request.routeTable table = .ok units) :
    units.toList.Nodup ∧ ∃ tableRule, request.rule.tableRule table = .ok tableRule ∧
      ∀ unit ∈ units.toList, unit.logicTable = tableRule.logicTable := by
  have result := routed
  obtain ⟨tableRule, ruled, routed⟩ := Success.bind_eq_ok.mp routed
  obtain ⟨dataSources, _, routed⟩ := Success.bind_eq_ok.mp routed
  obtain ⟨groups, _, routed⟩ := Success.bind_eq_ok.mp routed
  cases Except.ok.inj routed
  exact ⟨TableUnits.nodup_ofList _, tableRule, ruled,
    fun _ isUnit => (mayUse_of_mem_routeTable ruled result isUnit).1⟩

end RoutingRequest

namespace Router

/-- The texts for two places of a table are equal only if the places are. -/
theorem eq_of_unitStatement
    {request : RenderRequest}
    {markers : List Marker}
    (splices : request.Splices markers)
    {isWidened : Bool}
    {template : Template}
    (ran : request.template isWidened = .ok template)
    {table : String}
    (onlyTable : request.statement.tables.names = [table])
    (isMarked : request.statement.NamesTable table)
    {first second : TableUnit}
    {output : ExecutionUnit}
    (sameTable : first.logicTable = second.logicTable)
    (isFor : Text.sameName first.logicTable table = true)
    (isNamed : first.logicTable.isEmpty = false)
    (firstOk : unitStatement request template first = .ok output)
    (secondOk : unitStatement request template second = .ok output) :
    first = second := by
  have filled : ∀ unit : TableUnit, unit.logicTable = first.logicTable →
      unitStatement request template unit =
        .ok ⟨unit.dataSource, template.fill [(Text.lowerCase table, unit.actualTable)]⟩ := by
    intro unit isThat
    rw [unitStatement, RenderRequest.fill, RenderRequest.tableNames_of_single onlyTable
      (isThat ▸ isFor) (isThat ▸ isNamed)]
    rfl
  rw [filled first rfl] at firstOk
  rw [filled second sameTable.symm, ← firstOk] at secondOk
  obtain ⟨sameSource, sameText⟩ := ExecutionUnit.mk.inj (Except.ok.inj secondOk)
  obtain ⟨position, literals, isMarker, unquoted⟩ := isMarked
  have sameName : second.actualTable = first.actualTable :=
    splices.fill_injective ran isMarker (congrArg Text.lowerCase unquoted) sameText
  cases first
  cases second
  cases sameSource
  cases sameTable
  cases sameName
  rfl

/-- **No text is sent twice.**  Under a built rule, whatever its algorithms are, a statement over one table
that is routed by its text is sent to no data source twice with the same text. -/
theorem nodup_units_of_single
    {router : Router}
    {keys : Keys}
    {hint : Hint}
    {sql : String}
    {parameters : List Value}
    {statement : Statement}
    {result : RouteResult}
    (isBuilt : router.rule.IsBuilt)
    (byText : hint.isDatabaseOnly = false)
    (parsed : (Statement.parse router.dialect router.rule keys sql parameters.length).1 =
      .ok statement)
    (isSingle : statement.tables.isSingle = true)
    (routed : (router.route keys hint sql parameters).1 = .ok result) :
    result.units.Nodup := by
  obtain ⟨table, isTable⟩ : ∃ table, statement.tables.toList = [table] :=
    List.length_eq_one_iff.mp (by simpa [Tables.isSingle] using isSingle)
  have onlyTable : statement.tables.names = [table.name] := by rw [Tables.names, isTable]; rfl
  have isMarked : statement.NamesTable table.name :=
    Statement.namesTables_of_parse parsed table (by rw [isTable]; exact List.mem_cons_self)
  obtain ⟨other, left, keyed, parsedOther, -, runs, -⟩ := exists_statement_of_route byText routed
  obtain rfl : other = statement := by
    rw [parsedOther] at parsed
    exact Except.ok.inj parsed
  obtain ⟨outcome, template, stages⟩ := exists_runsAt runs
  have placed := stages.routed
  unfold RoutingRequest.route at placed
  rw [onlyTable] at placed
  obtain ⟨found, foundOk, rfl⟩ := Success.map_eq_ok.mp placed
  obtain ⟨distinct, tableRule, ruled, areOfRule⟩ := RoutingRequest.nodup_routeTable foundOk
  obtain ⟨isFor, isNamed⟩ := isBuilt.isFor_of_tableRule ruled
  have splices := (RenderRequest.splices_of_parse
    ⟨router.rule, sql, other, keyed.parameters⟩ parsed).2
  have apart : found.toList.Pairwise fun first second =>
      first ≠ second ∧ first.logicTable = tableRule.logicTable ∧
        second.logicTable = tableRule.logicTable :=
    distinct.imp_of_mem fun isFirst isSecond differ =>
      ⟨differ, areOfRule _ isFirst, areOfRule _ isSecond⟩
  refine Success.pairwise_of_mapM stages.filled apart ?_
  rintro first second output _ ⟨differ, ofFirst, ofSecond⟩ firstOk secondOk rfl
  exact differ (eq_of_unitStatement splices stages.rendered onlyTable isMarked
    (ofFirst.trans ofSecond.symm) (ofFirst ▸ isFor) (ofFirst ▸ isNamed) firstOk secondOk)

section Samples

/-- The declaration of a table that lists a data node twice, and whose algorithm gives every target twice. -/
def repeatedDeclaration : TableDeclaration :=
  { logicTable := "t_order"
    actualTables := ["t_order_0", "t_order_1", "t_order_0"]
    dataSources := ["ds_0"]
    tableStrategy := some ⟨["id"], .ofKeys fun targets _ => .ok (targets ++ targets)⟩ }

/-- The rule of this table. -/
def repeatedTable : TableRule :=
  { logicTable := "t_order"
    isDynamic := false
    nodes := [⟨"ds_0", "t_order_0"⟩, ⟨"ds_0", "t_order_1"⟩, ⟨"ds_0", "t_order_0"⟩]
    databaseStrategy := none
    tableStrategy := some ⟨["id"], .ofKeys fun targets _ => .ok (targets ++ targets)⟩
    keyColumn := none
    keyGenerator := none }

/-- The rule for this table alone. -/
def repeatedRule : Rule :=
  { dataSources := ["ds_0"]
    defaultDataSource := some "ds_0"
    tables := [repeatedTable]
    bindingGroups := []
    databaseStrategy := none
    tableStrategy := none
    keyGenerator := none }

theorem repeatedRule_isBuilt : repeatedRule.IsBuilt := by
  refine ⟨{ dataSources := ["ds_0"], tables := [repeatedTable] }, rfl, ?_⟩
  intro tableRule member
  rw [List.mem_singleton.mp member]
  refine ⟨repeatedDeclaration, ?_⟩
  have trimmed : Text.trim "t_order" = "t_order" := by decide +kernel
  have firstTrimmed : Text.trim "t_order_0" = "t_order_0" := by decide +kernel
  have secondTrimmed : Text.trim "t_order_1" = "t_order_1" := by decide +kernel
  simp [TableDeclaration.build, TableDeclaration.nodes, TableDeclaration.fixedNodes,
    TableDeclaration.nodesOf, repeatedDeclaration, repeatedTable, trimmed, firstTrimmed, secondTrimmed,
    Except.map, bind, Except.bind, pure, Except.pure]

/-- The text of an update that names the table in several ways. -/
def repeatedText : String :=
  "UPDATE `T_Order` SET n = 2 WHERE t_order.id = 1"

/-- What this text is parsed to. -/
def repeatedStatement : Statement :=
  { kind := .update
    tables := ⟨[⟨"T_Order", none⟩]⟩
    conditions := ⟨[⟨⟨"id", "T_Order"⟩, .equal, [.number (.integer 1)]⟩]⟩
    markers := [.table 7 "`T_Order`", .table 33 "t_order"] }

/-- The places of the update. -/
def repeatedUnits : TableUnits :=
  ⟨[⟨"ds_0", "t_order", "t_order_0"⟩, ⟨"ds_0", "t_order", "t_order_1"⟩]⟩

theorem repeated_routeTable :
    RoutingRequest.routeTable ⟨repeatedRule, [], repeatedStatement, {}⟩ "T_Order" =
      .ok repeatedUnits := by
  have ruled : repeatedRule.tableRule "T_Order" = .ok repeatedTable := rfl
  have sourcesOk : RoutingRequest.dataSourcesFor ⟨repeatedRule, [], repeatedStatement, {}⟩ "T_Order"
      repeatedTable = .ok ["ds_0"] :=
    Success.toOption_eq_some.mp (by decide +kernel)
  have known : RoutingRequest.shardingValues ⟨repeatedRule, [], repeatedStatement, {}⟩
      (repeatedRule.tableStrategyOf repeatedTable) ({} : Hint).tableValue? "T_Order" =
        .ok [⟨"T_Order", "id", .single (.integer 1)⟩] :=
    Success.toOption_eq_some.mp (by decide +kernel)
  have chosen : (repeatedRule.tableStrategyOf repeatedTable).algorithm.choose
      (repeatedTable.tablesOn "ds_0") [⟨"T_Order", "id", .single (.integer 1)⟩] =
        .ok (repeatedTable.tablesOn "ds_0" ++ repeatedTable.tablesOn "ds_0") :=
    rfl
  have distinct : NameSet.distinct (repeatedTable.tablesOn "ds_0" ++ repeatedTable.tablesOn "ds_0") =
      ["t_order_0", "t_order_1"] := by
    decide +kernel
  have sorted : NameSet.ofList (repeatedTable.tablesOn "ds_0" ++ repeatedTable.tablesOn "ds_0") =
      ["t_order_0", "t_order_1"] := by
    rw [NameSet.ofList, distinct]
    exact List.mergeSort_of_pairwise (by decide +kernel)
  have tablesOk : RoutingRequest.tablesFor ⟨repeatedRule, [], repeatedStatement, {}⟩ "T_Order"
      repeatedTable "ds_0" = .ok ["t_order_0", "t_order_1"] := by
    have isStatic : repeatedTable.isDynamic = false := rfl
    simp [RoutingRequest.tablesFor, isStatic, known, Strategy.chooseAmong, chosen, sorted,
      Except.map, RoutingRequest.refuseEmpty, bind, Except.bind]
  have unitsOk : RoutingRequest.unitsOn ⟨repeatedRule, [], repeatedStatement, {}⟩ "T_Order"
      repeatedTable "ds_0" = .ok repeatedUnits.toList :=
    Success.map_eq_ok.mpr ⟨_, tablesOk, rfl⟩
  have groupsOk : ["ds_0"].mapM (RoutingRequest.unitsOn ⟨repeatedRule, [], repeatedStatement, {}⟩
      "T_Order" repeatedTable) = .ok [repeatedUnits.toList] :=
    Success.mapM_eq_ok.mpr (.cons unitsOk .nil)
  simp only [RoutingRequest.routeTable, ruled, sourcesOk, groupsOk, bind, Except.bind]
  rfl

/-- The update runs on each of the two tables once. -/
theorem nodup_units_repeatedText :
    repeatedRule.IsBuilt ∧ ({} : Hint).isDatabaseOnly = false ∧ repeatedStatement.tables.isSingle = true ∧
      (Statement.parse .mysql repeatedRule (Keys.ofRule repeatedRule 0) repeatedText 0).1 =
        .ok repeatedStatement ∧
      ∃ result,
        (route ⟨.mysql, repeatedRule⟩ (Keys.ofRule repeatedRule 0) {} repeatedText []).1 = .ok result ∧
        result.units =
          [⟨"ds_0", "UPDATE `t_order_0` SET n = 2 WHERE t_order_0.id = 1"⟩,
            ⟨"ds_0", "UPDATE `t_order_1` SET n = 2 WHERE t_order_1.id = 1"⟩] ∧
        result.units.Nodup := by
  have parsed : (Statement.parse .mysql repeatedRule (Keys.ofRule repeatedRule 0) repeatedText 0).1 =
      .ok repeatedStatement :=
    Success.toOption_eq_some.mp (by decide +kernel)
  have routed : RoutingRequest.route ⟨repeatedRule, [], repeatedStatement, {}⟩ =
      .ok (.units repeatedUnits) := by
    have isNamed : repeatedStatement.tables.names = ["T_Order"] := rfl
    simp only [RoutingRequest.route, isNamed, repeated_routeTable, Except.map]
  have rendered : (do
      let progress ← repeatedStatement.markers.foldlM
        (RenderRequest.renderMarker ⟨repeatedRule, repeatedText, repeatedStatement, []⟩ true) ⟨{}, 0⟩
      executionUnits ⟨repeatedRule, repeatedText, repeatedStatement, []⟩
        (progress.template.addText
          (Text.slice repeatedText progress.position repeatedText.utf8ByteSize))
        (.units repeatedUnits)) =
          .ok [⟨"ds_0", "UPDATE `t_order_0` SET n = 2 WHERE t_order_0.id = 1"⟩,
            ⟨"ds_0", "UPDATE `t_order_1` SET n = 2 WHERE t_order_1.id = 1"⟩] :=
    Success.toOption_eq_some.mp (by decide +kernel)
  have ordered : repeatedStatement.markers.Pairwise Marker.IsBefore :=
    List.pairwise_pair.mpr (by unfold Marker.IsBefore; decide +kernel)
  obtain ⟨left, parsedPair⟩ : ∃ left, Statement.parse .mysql repeatedRule (Keys.ofRule repeatedRule 0)
      repeatedText 0 = (.ok repeatedStatement, left) :=
    ⟨_, Prod.ext parsed rfl⟩
  have ran := @route_of_ordered ⟨.mysql, repeatedRule⟩ _ {} _ [] _ ⟨[], [], left⟩ _ _ _ _ rfl parsedPair
    rfl routed ordered rendered rfl
  have routedOk := congrArg Prod.fst ran
  have distinct := @nodup_units_of_single ⟨.mysql, repeatedRule⟩ _ _ _ [] _ _ repeatedRule_isBuilt rfl
    parsed rfl routedOk
  exact ⟨repeatedRule_isBuilt, rfl, rfl, parsed, _, routedOk, rfl, distinct⟩

end Samples

end Router

end ShardedSql
