import ShardedSql.Proofs.Routing.Placement
import ShardedSql.Proofs.Rule.Building

/-!
# Routes and declared data nodes

A table with listed data nodes runs at some of them and nowhere else, at each of them once.  Without
a sharding value, a statement that may run at several places runs at all of them.
-/

namespace ShardedSql

namespace TableUnit

/-- Whether two units are the same actual table on the same data source, in any letter case. -/
def IsSamePlace (first second : TableUnit) : Prop :=
  Text.sameName first.dataSource second.dataSource = true ∧
    Text.sameName first.actualTable second.actualTable = true

/-- Whether a unit is a data node, in any letter case. -/
def IsNode
    (unit : TableUnit)
    (node : DataNode) : Prop :=
  node.isAt unit.dataSource unit.actualTable = true

theorem isNode_iff
    {unit : TableUnit}
    {node : DataNode} :
    unit.IsNode node ↔
      Text.sameName node.dataSource unit.dataSource = true ∧
        Text.sameName node.table unit.actualTable = true := by
  simp [IsNode, DataNode.isAt]

theorem IsNode.isSamePlace
    {first second : TableUnit}
    {node : DataNode}
    (firstIs : first.IsNode node)
    (secondIs : second.IsNode node) :
    first.IsSamePlace second := by
  obtain ⟨firstSource, firstTable⟩ := isNode_iff.mp firstIs
  obtain ⟨secondSource, secondTable⟩ := isNode_iff.mp secondIs
  rw [Text.sameName_comm] at firstSource firstTable
  exact ⟨Text.sameName_trans firstSource secondSource,
    Text.sameName_trans firstTable secondTable⟩

end TableUnit

namespace TableUnits

theorem sublist_foldl_add
    (added : List TableUnit)
    (units : TableUnits) :
    (added.foldl add units).toList.Sublist (units.toList ++ added) := by
  induction added generalizing units with
  | nil => simp
  | cons unit added ih =>
      refine (ih (units.add unit)).trans ?_
      unfold add
      split
      next => exact (List.sublist_cons_self unit added).append_left units.toList
      next => simp

theorem sublist_ofList (added : List TableUnit) :
    (ofList added).toList.Sublist added :=
  sublist_foldl_add added {}

end TableUnits

namespace TableRule

theorem mem_foldl_dataSources
    {nodes : List DataNode}
    {names : List String}
    {name : String} :
    name ∈ nodes.foldl
        (fun names node =>
          if names.contains node.dataSource then names else names ++ [node.dataSource]) names ↔
      name ∈ names ∨ ∃ node ∈ nodes, node.dataSource = name := by
  induction nodes generalizing names with
  | nil => simp
  | cons node nodes ih =>
      rw [List.foldl_cons, ih]
      split
      next present =>
        rw [List.contains_iff_mem] at present
        constructor
        · rintro (early | ⟨other, member, rfl⟩)
          · exact Or.inl early
          · exact Or.inr ⟨other, List.mem_cons_of_mem node member, rfl⟩
        · rintro (early | ⟨other, member, rfl⟩)
          · exact Or.inl early
          · rcases List.mem_cons.mp member with rfl | later
            · exact Or.inl present
            · exact Or.inr ⟨other, later, rfl⟩
      next =>
        rw [List.mem_append, List.mem_singleton, or_assoc]
        simp [eq_comm]

/-- The data sources of a table are those of its nodes. -/
theorem mem_dataSources
    {tableRule : TableRule}
    {name : String} :
    name ∈ tableRule.dataSources ↔ ∃ node ∈ tableRule.nodes, node.dataSource = name := by
  unfold dataSources
  rw [mem_foldl_dataSources]
  simp

theorem mem_tablesOn
    {tableRule : TableRule}
    {dataSource name : String} :
    name ∈ tableRule.tablesOn dataSource ↔
      ∃ node ∈ tableRule.nodes,
        Text.sameName node.dataSource dataSource = true ∧ node.table = name := by
  simp [tablesOn, and_assoc]

end TableRule

namespace Algorithm

/-- Whether an algorithm takes its targets from the listed ones: the first of them, or the one that
a remainder leads to. -/
def TakesListed (algorithm : Algorithm) : Prop :=
  algorithm = .firstTarget ∨ ∃ modulus, algorithm = .modulo modulus

theorem mem_of_chooseFirst
    {targets : List String}
    {target : String}
    (chosen : chooseFirst targets = .ok target) :
    target ∈ targets := by
  cases targets with
  | nil => simp [chooseFirst] at chosen
  | cons first targets =>
      cases Except.ok.inj chosen
      exact List.mem_cons_self

theorem TakesListed.mem
    {algorithm : Algorithm}
    (listed : algorithm.TakesListed)
    {targets names : List String}
    {values : List ShardingValue}
    (chosen : algorithm.choose targets values = .ok names)
    {name : String}
    (member : name ∈ names) :
    name ∈ targets := by
  unfold choose at chosen
  rcases listed with rfl | ⟨modulus, rfl⟩
  · obtain ⟨_, _, chosen⟩ := Success.bind_eq_ok.mp chosen
    obtain ⟨target, targetOk, chosen⟩ := Success.bind_eq_ok.mp chosen
    cases Except.ok.inj chosen
    rw [List.mem_singleton.mp member]
    exact mem_of_chooseFirst targetOk
  · obtain ⟨value, _, chosen⟩ := Success.bind_eq_ok.mp chosen
    exact (chooseSingle_moduloChoice_chosen chosen member).mem

end Algorithm

namespace Strategy

theorem mem_of_chooseAmong
    {strategy : Strategy}
    (listed : strategy.algorithm.TakesListed)
    {kind : StatementKind}
    {targets names : List String}
    {values : List ShardingValue}
    (chosen : strategy.chooseAmong kind targets values = .ok names)
    {name : String}
    (member : name ∈ names) :
    name ∈ targets := by
  unfold chooseAmong at chosen
  split at chosen
  next =>
    split at chosen
    next => simp at chosen
    next =>
      cases Except.ok.inj chosen
      exact NameSet.mem_of_mem_ofList member
  next =>
    obtain ⟨found, foundOk, rfl⟩ := Success.map_eq_ok.mp chosen
    exact listed.mem foundOk (NameSet.mem_of_mem_ofList member)

theorem exists_ofList_of_chooseAmong
    {strategy : Strategy}
    {kind : StatementKind}
    {targets names : List String}
    {values : List ShardingValue}
    (chosen : strategy.chooseAmong kind targets values = .ok names) :
    ∃ found, names = NameSet.ofList found := by
  unfold chooseAmong at chosen
  split at chosen
  next =>
    split at chosen
    next => simp at chosen
    next => exact ⟨targets, (Except.ok.inj chosen).symm⟩
  next =>
    obtain ⟨found, _, rfl⟩ := Success.map_eq_ok.mp chosen
    exact ⟨found, rfl⟩

/-- A choice of targets has no two spellings of one name. -/
theorem pairwise_of_chooseAmong
    {strategy : Strategy}
    {kind : StatementKind}
    {targets names : List String}
    {values : List ShardingValue}
    (chosen : strategy.chooseAmong kind targets values = .ok names) :
    names.Pairwise fun first second => Text.sameName first second = false := by
  obtain ⟨found, rfl⟩ := exists_ofList_of_chooseAmong chosen
  exact NameSet.pairwise_ofList found

theorem chooseAmong_nil_eq
    {strategy : Strategy}
    {kind : StatementKind}
    (notInsert : kind ≠ .insert)
    (targets : List String) :
    strategy.chooseAmong kind targets [] = .ok (NameSet.ofList targets) := by
  simp [chooseAmong, notInsert]

end Strategy

namespace RoutingRequest

variable {request : RoutingRequest} {table : String} {tableRule : TableRule}

/-- Whether there is no sharding value for any column of a strategy: neither a condition, nor, when
the hint is active, a hinted value. -/
def KnowsNothing
    (request : RoutingRequest)
    (hinted : String → String → Option ShardingValue)
    (table : String)
    (strategy : Strategy) : Prop :=
  ∀ column ∈ strategy.columns, request.columnValue hinted table column = .ok none

theorem KnowsNothing.shardingValues_eq
    {hinted : String → String → Option ShardingValue}
    {strategy : Strategy}
    (unknown : request.KnowsNothing hinted table strategy) :
    request.shardingValues strategy hinted table = .ok [] := by
  unfold shardingValues
  rw [Success.mapM_eq_ok_map unknown]
  simp [Except.map]

theorem knowsNothing_none (hinted : String → String → Option ShardingValue) :
    request.KnowsNothing hinted table Strategy.none := by
  simp [KnowsNothing, Strategy.columns_none]

theorem dataSourcesFor_ne_nil
    {names : List String}
    (succeeded : request.dataSourcesFor table tableRule = .ok names) :
    names ≠ [] := by
  unfold dataSourcesFor at succeeded
  obtain ⟨_, _, succeeded⟩ := Success.bind_eq_ok.mp succeeded
  obtain ⟨_, _, succeeded⟩ := Success.bind_eq_ok.mp succeeded
  obtain ⟨rfl, nonempty⟩ := refuseEmpty_eq_ok succeeded
  exact nonempty

theorem tablesFor_static
    (static : tableRule.isDynamic = false)
    {dataSource : String}
    {names : List String}
    (succeeded : request.tablesFor table tableRule dataSource = .ok names) :
    ∃ values, (request.rule.tableStrategyOf tableRule).chooseAmong request.statement.kind
      (tableRule.tablesOn dataSource) values = .ok names := by
  obtain ⟨_, values, _, chosen⟩ := tablesFor_eq_ok succeeded
  rw [static] at chosen
  exact ⟨values, chosen⟩

/-- The rule that is found for a table is the one that applies to it. -/
theorem tableRule_of_findTable?
    {rule : Rule}
    (found : rule.findTable? table = some tableRule) :
    rule.tableRule table = .ok tableRule := by
  unfold Rule.tableRule
  rw [found]

section Static

variable (ruled : request.rule.tableRule table = .ok tableRule)
variable (static : tableRule.isDynamic = false)
variable {units : TableUnits} (routed : request.routeTable table = .ok units)

include ruled routed in
theorem routeTable_ne_nil :
    units.toList ≠ [] := by
  obtain ⟨dataSources, dataSourcesOk, tablesOk, mem_units⟩ := mem_routeTable ruled routed
  obtain ⟨dataSource, dataSourceMem⟩ :=
    List.exists_mem_of_ne_nil dataSources (dataSourcesFor_ne_nil dataSourcesOk)
  obtain ⟨tables, tablesOk⟩ := tablesOk dataSource dataSourceMem
  obtain ⟨actualTable, tableMem⟩ :=
    List.exists_mem_of_ne_nil tables (tablesFor_eq_ok tablesOk).1
  exact List.ne_nil_of_mem
    ((mem_units _).mpr ⟨dataSource, dataSourceMem, tables, tablesOk, actualTable, tableMem, rfl⟩)

include static in
theorem pairwise_unitsOn
    {dataSource : String}
    {group : List TableUnit}
    (groupOk : request.unitsOn table tableRule dataSource = .ok group) :
    group.Pairwise fun first second => ¬ first.IsSamePlace second := by
  obtain ⟨tables, tablesOk, rfl⟩ := Success.map_eq_ok.mp groupOk
  obtain ⟨values, chosen⟩ := tablesFor_static static tablesOk
  rw [List.pairwise_map]
  apply (Strategy.pairwise_of_chooseAmong chosen).imp
  rintro first second differ ⟨_, same⟩
  simp [differ] at same

/-- Units on data sources of different names are at different places. -/
theorem apart_of_unitsOn
    {first second : String}
    (differ : Text.sameName first second = false)
    {firstGroup secondGroup : List TableUnit}
    (firstOk : request.unitsOn table tableRule first = .ok firstGroup)
    (secondOk : request.unitsOn table tableRule second = .ok secondGroup) :
    ∀ unit ∈ firstGroup, ∀ other ∈ secondGroup, ¬ unit.IsSamePlace other := by
  obtain ⟨_, _, rfl⟩ := Success.map_eq_ok.mp firstOk
  obtain ⟨_, _, rfl⟩ := Success.map_eq_ok.mp secondOk
  intro unit member other otherMem
  obtain ⟨_, _, rfl⟩ := List.mem_map.mp member
  obtain ⟨_, _, rfl⟩ := List.mem_map.mp otherMem
  rintro ⟨same, _⟩
  simp [differ] at same

include ruled static routed in
theorem pairwise_routeTable :
    units.toList.Pairwise fun first second => ¬ first.IsSamePlace second := by
  unfold routeTable at routed
  obtain ⟨other, otherOk, routed⟩ := Success.bind_eq_ok.mp routed
  cases Except.ok.inj (ruled.symm.trans otherOk)
  obtain ⟨dataSources, dataSourcesOk, routed⟩ := Success.bind_eq_ok.mp routed
  obtain ⟨groups, groupsOk, routed⟩ := Success.bind_eq_ok.mp routed
  cases Except.ok.inj routed
  refine List.Pairwise.sublist (TableUnits.sublist_ofList groups.flatten) ?_
  obtain ⟨_, _, chosen⟩ := dataSourcesFor_eq_ok dataSourcesOk
  refine List.pairwise_flatten.mpr ⟨fun group member => ?_, ?_⟩
  · obtain ⟨dataSource, _, groupOk⟩ := Success.exists_input_of_mem groupsOk member
    exact pairwise_unitsOn static groupOk
  · apply Success.pairwise_of_mapM groupsOk (Strategy.pairwise_of_chooseAmong chosen)
    intro first second firstGroup secondGroup differ firstOk secondOk
    exact apart_of_unitsOn differ firstOk secondOk

include ruled static routed in
theorem isNode_of_mem_routeTable
    (tableListed : (request.rule.tableStrategyOf tableRule).algorithm.TakesListed)
    {unit : TableUnit}
    (member : unit ∈ units.toList) :
    ∃ node ∈ tableRule.nodes, unit.IsNode node := by
  obtain ⟨dataSources, _, _, mem_units⟩ := mem_routeTable ruled routed
  obtain ⟨dataSource, _, tables, tablesOk, actualTable, tableMem, rfl⟩ := (mem_units unit).mp member
  obtain ⟨values, chosen⟩ := tablesFor_static static tablesOk
  have listed := Strategy.mem_of_chooseAmong tableListed chosen tableMem
  obtain ⟨node, nodeMem, same, rfl⟩ := TableRule.mem_tablesOn.mp listed
  exact ⟨node, nodeMem, TableUnit.isNode_iff.mpr ⟨same, Text.sameName_refl _⟩⟩

end Static

section Unrestricted

variable (static : tableRule.isDynamic = false)
variable (notInsert : request.statement.kind ≠ .insert)

include notInsert in
theorem dataSourcesFor_of_knowsNothing
    (nonempty : tableRule.nodes ≠ [])
    (unknown : request.KnowsNothing request.hint.databaseValue? table
      (request.rule.databaseStrategyOf tableRule)) :
    request.dataSourcesFor table tableRule = .ok (NameSet.ofList tableRule.dataSources) := by
  obtain ⟨node, member⟩ := List.exists_mem_of_ne_nil tableRule.nodes nonempty
  have listed : node.dataSource ∈ tableRule.dataSources :=
    TableRule.mem_dataSources.mpr ⟨node, member, rfl⟩
  have reached := NameSet.ofList_ne_nil (List.ne_nil_of_mem listed)
  simp [dataSourcesFor, unknown.shardingValues_eq, Strategy.chooseAmong_nil_eq notInsert,
    refuseEmpty, reached, bind, Except.bind]

include static notInsert in
theorem tablesFor_of_knowsNothing
    (unknown : request.KnowsNothing request.hint.tableValue? table
      (request.rule.tableStrategyOf tableRule))
    {dataSource : String}
    (listed : dataSource ∈ tableRule.dataSources) :
    request.tablesFor table tableRule dataSource =
      .ok (NameSet.ofList (tableRule.tablesOn dataSource)) := by
  obtain ⟨node, member, rfl⟩ := TableRule.mem_dataSources.mp listed
  have tableMem : node.table ∈ tableRule.tablesOn node.dataSource :=
    TableRule.mem_tablesOn.mpr ⟨node, member, Text.sameName_refl _, rfl⟩
  have reached := NameSet.ofList_ne_nil (List.ne_nil_of_mem tableMem)
  simp [tablesFor, unknown.shardingValues_eq, static, Strategy.chooseAmong_nil_eq notInsert,
    refuseEmpty, reached, bind, Except.bind]

include static notInsert in
/-- The units of a statement that knows nothing: all tables that are listed on each data source. -/
theorem routeTable_of_knowsNothing
    (ruled : request.rule.tableRule table = .ok tableRule)
    (nonempty : tableRule.nodes ≠ [])
    (databaseUnknown : request.KnowsNothing request.hint.databaseValue? table
      (request.rule.databaseStrategyOf tableRule))
    (tableUnknown : request.KnowsNothing request.hint.tableValue? table
      (request.rule.tableStrategyOf tableRule)) :
    request.routeTable table =
      .ok (TableUnits.ofList ((NameSet.ofList tableRule.dataSources).map fun dataSource =>
        (NameSet.ofList (tableRule.tablesOn dataSource)).map fun actualTable =>
          ⟨dataSource, tableRule.logicTable, actualTable⟩).flatten) := by
  have sourcesOk := dataSourcesFor_of_knowsNothing notInsert nonempty databaseUnknown
  have groupsOk : (NameSet.ofList tableRule.dataSources).mapM (request.unitsOn table tableRule) =
      .ok ((NameSet.ofList tableRule.dataSources).map fun dataSource =>
        (NameSet.ofList (tableRule.tablesOn dataSource)).map fun actualTable =>
          ⟨dataSource, tableRule.logicTable, actualTable⟩) := by
    apply Success.mapM_eq_ok_map
    intro dataSource kept
    have tablesOk := tablesFor_of_knowsNothing static notInsert tableUnknown (NameSet.mem_of_mem_ofList kept)
    simp [unitsOn, tablesOk, Except.map]
  simp only [routeTable, ruled, sourcesOk, groupsOk, bind, Except.bind]

include static notInsert in
/-- A statement that knows nothing runs at every data node. -/
theorem exists_routeTable_of_knowsNothing
    (ruled : request.rule.tableRule table = .ok tableRule)
    (nonempty : tableRule.nodes ≠ [])
    (databaseUnknown : request.KnowsNothing request.hint.databaseValue? table
      (request.rule.databaseStrategyOf tableRule))
    (tableUnknown : request.KnowsNothing request.hint.tableValue? table
      (request.rule.tableStrategyOf tableRule)) :
    ∃ units, request.routeTable table = .ok units ∧
      ∀ node ∈ tableRule.nodes, ∃ unit ∈ units.toList, unit.IsNode node := by
  have routed := routeTable_of_knowsNothing static notInsert ruled nonempty databaseUnknown tableUnknown
  have sourcesOk := dataSourcesFor_of_knowsNothing notInsert nonempty databaseUnknown
  refine ⟨_, routed, fun node member => ?_⟩
  have listed : node.dataSource ∈ tableRule.dataSources :=
    TableRule.mem_dataSources.mpr ⟨node, member, rfl⟩
  obtain ⟨dataSource, kept, sameSource⟩ := NameSet.exists_mem_ofList listed
  rw [Text.sameName_comm] at sameSource
  have tableMem : node.table ∈ tableRule.tablesOn dataSource :=
    TableRule.mem_tablesOn.mpr ⟨node, member, sameSource, rfl⟩
  obtain ⟨actualTable, tableKept, sameTable⟩ := NameSet.exists_mem_ofList tableMem
  rw [Text.sameName_comm] at sameTable
  refine ⟨⟨dataSource, tableRule.logicTable, actualTable⟩, ?_,
    TableUnit.isNode_iff.mpr ⟨sameSource, sameTable⟩⟩
  obtain ⟨sources, sourcesFound, _, mem_units⟩ := mem_routeTable ruled routed
  cases Except.ok.inj (sourcesOk.symm.trans sourcesFound)
  have tablesOk := tablesFor_of_knowsNothing static notInsert tableUnknown (NameSet.mem_of_mem_ofList kept)
  exact (mem_units _).mpr ⟨dataSource, kept, _, tablesOk, actualTable, tableKept, rfl⟩

end Unrestricted

/-- **A static route stays inside the declared data nodes and misses none.**  Let a table of a built
rule have listed nodes, and let its table strategy take targets from the listed ones.  A route of the
table is not empty, runs at no place twice, and only at data nodes of the table.  A statement other
than an INSERT for which no sharding value is known has a route, and it runs at every data node
exactly once. -/
theorem routeTable_static
    (built : request.rule.IsBuilt)
    (found : request.rule.findTable? table = some tableRule)
    (static : tableRule.isDynamic = false)
    (tableListed : (request.rule.tableStrategyOf tableRule).algorithm.TakesListed) :
    (∀ units, request.routeTable table = .ok units →
      units.toList ≠ [] ∧
        units.toList.Pairwise (fun first second => ¬ first.IsSamePlace second) ∧
        ∀ unit ∈ units.toList, ∃ node ∈ tableRule.nodes, unit.IsNode node) ∧
      (request.statement.kind ≠ .insert →
        request.KnowsNothing request.hint.databaseValue? table
          (request.rule.databaseStrategyOf tableRule) →
        request.KnowsNothing request.hint.tableValue? table
          (request.rule.tableStrategyOf tableRule) →
        ∃ units, request.routeTable table = .ok units ∧
          ∀ node ∈ tableRule.nodes, ∃! unit, unit ∈ units.toList ∧ unit.IsNode node) := by
  have ruled := tableRule_of_findTable? found
  refine ⟨fun units routed => ⟨routeTable_ne_nil ruled routed,
    pairwise_routeTable ruled static routed,
    fun unit member => isNode_of_mem_routeTable ruled static routed tableListed member⟩, ?_⟩
  intro notInsert databaseUnknown tableUnknown
  have nonempty := built.nodes_ne_nil (Rule.mem_of_findTable? found)
  obtain ⟨units, routed, reached⟩ :=
    exists_routeTable_of_knowsNothing static notInsert ruled nonempty databaseUnknown tableUnknown
  refine ⟨units, routed, fun node member => ?_⟩
  obtain ⟨unit, unitMem, isNode⟩ := reached node member
  refine ⟨unit, ⟨unitMem, isNode⟩, ?_⟩
  -- Two units of one node would be at one place.
  rintro other ⟨otherMem, otherIs⟩
  by_contra differ
  have symmetric : Std.Symm fun first second : TableUnit => ¬ first.IsSamePlace second :=
    ⟨fun first second apart same => apart
      ⟨by rw [Text.sameName_comm]; exact same.1, by rw [Text.sameName_comm]; exact same.2⟩⟩
  exact (pairwise_routeTable ruled static routed).forall otherMem unitMem differ
    (otherIs.isSamePlace isNode)

/-- The declaration of a table whose nodes are written in several letter cases. -/
def spelledDeclaration : TableDeclaration :=
  { logicTable := "t_log"
    actualTables := ["t_log_0", "T_LOG_0"]
    dataSources := ["ds_0", "DS_0"]
    tableStrategy := some ⟨["id"], .modulo none⟩ }

/-- The rule of this table. -/
def spelledTable : TableRule :=
  { logicTable := "t_log"
    isDynamic := false
    nodes :=
      [⟨"ds_0", "t_log_0"⟩, ⟨"DS_0", "t_log_0"⟩, ⟨"ds_0", "T_LOG_0"⟩, ⟨"DS_0", "T_LOG_0"⟩]
    databaseStrategy := none
    tableStrategy := some ⟨["id"], .modulo none⟩
    keyColumn := none
    keyGenerator := none }

/-- The rule for this table alone. -/
def spelledRule : Rule :=
  { dataSources := ["ds_0", "DS_0"]
    defaultDataSource := none
    tables := [spelledTable]
    bindingGroups := []
    databaseStrategy := none
    tableStrategy := none
    keyGenerator := none }

theorem spelledDeclaration_build : spelledDeclaration.build = .ok spelledTable := by
  have logicTrimmed : Text.trim "t_log" = "t_log" := by cbv
  have firstTrimmed : Text.trim "t_log_0" = "t_log_0" := by cbv
  have secondTrimmed : Text.trim "T_LOG_0" = "T_LOG_0" := by cbv
  simp [TableDeclaration.build, TableDeclaration.nodes, TableDeclaration.fixedNodes,
    TableDeclaration.nodesOf, spelledDeclaration, spelledTable, logicTrimmed, firstTrimmed,
    secondTrimmed, Except.map, bind, Except.bind, pure, Except.pure]

theorem spelledRule_isBuilt : spelledRule.IsBuilt := by
  refine ⟨{ dataSources := ["ds_0", "DS_0"], tables := [spelledTable] }, rfl, ?_⟩
  intro tableRule member
  rw [List.mem_singleton.mp member]
  exact ⟨spelledDeclaration, spelledDeclaration_build⟩

/-- The spellings of the table's node are read as one. -/
theorem spelled_routeTable_static :
    spelledRule.IsBuilt ∧ spelledRule.findTable? "T_LOG" = some spelledTable ∧
      spelledTable.isDynamic = false ∧
      routeTable ⟨spelledRule, [], { kind := .select }, {}⟩ "T_LOG" =
        .ok ⟨[⟨"ds_0", "t_log", "t_log_0"⟩]⟩ ∧
      ∀ node ∈ spelledTable.nodes, ∃! unit,
        unit ∈ [(⟨"ds_0", "t_log", "t_log_0"⟩ : TableUnit)] ∧ unit.IsNode node := by
  have found : spelledRule.findTable? "T_LOG" = some spelledTable := by
    have isFor : spelledTable.isFor "T_LOG" = true := by cbv
    simp [Rule.findTable?, spelledRule, isFor]
  have unknown (hinted : String → String → Option ShardingValue) (strategy : Strategy) :
      KnowsNothing ⟨spelledRule, [], { kind := .select }, {}⟩ hinted "T_LOG" strategy :=
    fun _ _ => rfl
  obtain ⟨_, reaches⟩ := @routeTable_static ⟨spelledRule, [], { kind := .select }, {}⟩ "T_LOG"
    spelledTable spelledRule_isBuilt found rfl (Or.inr ⟨none, rfl⟩)
  obtain ⟨units, routed, exactly⟩ := reaches (by decide) (unknown _ _) (unknown _ _)
  have listed : routeTable ⟨spelledRule, [], { kind := .select }, {}⟩ "T_LOG" =
      .ok ⟨[⟨"ds_0", "t_log", "t_log_0"⟩]⟩ := by cbv
  cases Except.ok.inj (routed.symm.trans listed)
  exact ⟨spelledRule_isBuilt, found, rfl, listed, exactly⟩

end RoutingRequest

end ShardedSql
