import ShardedSql.Proofs.Rule.Building
import ShardedSql.Proofs.Strategy.NameSet
import ShardedSql.Routing.Tables

/-!
# Bound tables

Tables that are bound to each other run where the first of them runs.  Whether a list of tables is bound is
decided at once, from the first group that one of them belongs to.  Routing the tables one by one gathers
the tables that are bound to those routed before, and comes to the same result.
-/

namespace ShardedSql

/-- Rules are found by their tables in any letter case. -/
theorem TableRule.find?_isFor_congr
    (tables : List TableRule)
    {first second : String}
    (same : Text.sameName first second = true) :
    tables.find? (fun rule => rule.isFor first) = tables.find? fun rule => rule.isFor second := by
  simp only [isFor, Text.sameName_congr_right same]

namespace Rule

variable (rule : Rule) {first second : String} (same : Text.sameName first second = true)

include same

theorem findTable?_congr : rule.findTable? first = rule.findTable? second :=
  TableRule.find?_isFor_congr rule.tables same

theorem findGroup?_congr : rule.findGroup? first = rule.findGroup? second := by
  simp only [findGroup?, BindingGroup.contains, TableRule.isFor, Text.sameName_congr_right same]

end Rule

namespace RuleDeclaration

theorem bindingGroups_of_build
    {declaration : RuleDeclaration}
    {rule : Rule}
    (built : declaration.build = .ok rule) :
    declaration.bindingGroups.mapM (bindTables declaration.tables) = .ok rule.bindingGroups := by
  unfold build at built
  split at built
  next => simp at built
  obtain ⟨_, _, built⟩ := Success.bind_eq_ok.mp built
  obtain ⟨_, _, built⟩ := Success.bind_eq_ok.mp built
  obtain ⟨groups, groupsOk, built⟩ := Success.bind_eq_ok.mp built
  cases Except.ok.inj built
  exact groupsOk

theorem boundTable_eq_ok_iff
    {tables : List TableRule}
    {logicTable : String}
    {tableRule : TableRule} :
    boundTable tables logicTable = .ok tableRule ↔
      tables.find? (fun rule => rule.isFor logicTable) = some tableRule := by
  unfold boundTable
  split
  next found => rw [found, Except.ok.injEq, Option.some.injEq]
  next isMissing => rw [isMissing]; simp

/-- The rule that is found for a name has this name. -/
theorem isFor_of_boundTable
    {tables : List TableRule}
    {logicTable : String}
    {tableRule : TableRule}
    (found : boundTable tables logicTable = .ok tableRule) :
    tableRule.isFor logicTable = true :=
  List.find?_some (p := fun rule : TableRule => rule.isFor logicTable) (boundTable_eq_ok_iff.mp found)

/-- A rule of a group is the one that is found for its table. -/
theorem find?_of_mem_bindTables
    {tables : List TableRule}
    {logicTables : List String}
    {group : BindingGroup}
    (bound : bindTables tables logicTables = .ok group)
    {tableRule : TableRule}
    (member : tableRule ∈ group.tables) :
    tables.find? (fun rule => rule.isFor tableRule.logicTable) = some tableRule := by
  obtain ⟨rules, rulesOk, rfl⟩ := Success.map_eq_ok.mp bound
  obtain ⟨logicTable, -, found⟩ := Success.exists_input_of_mem rulesOk member
  rw [TableRule.find?_isFor_congr tables (isFor_of_boundTable found)]
  exact boundTable_eq_ok_iff.mp found

theorem mem_of_bindTables
    {tables : List TableRule}
    {logicTables : List String}
    {group : BindingGroup}
    (bound : bindTables tables logicTables = .ok group)
    {tableRule : TableRule}
    (member : tableRule ∈ group.tables) :
    tableRule ∈ tables :=
  List.mem_of_find?_eq_some (find?_of_mem_bindTables bound member)

end RuleDeclaration

/-- The logic tables of a group are the names of the tables it contains. -/
theorem BindingGroup.holdsName_logicTables
    (group : BindingGroup)
    (table : String) :
    Text.holdsName group.logicTables table = group.contains table := by
  simp [Text.holdsName, logicTables, contains, TableRule.isFor, Function.comp_def]

namespace Rule

theorem mem_of_findGroup?
    {rule : Rule}
    {table : String}
    {group : BindingGroup}
    (found : rule.findGroup? table = some group) :
    group ∈ rule.bindingGroups ∧ group.contains table = true :=
  ⟨List.mem_of_find?_eq_some found,
    List.find?_some (p := fun group : BindingGroup => group.contains table) found⟩

/-- The binding groups of a built rule consist of rules of its tables. -/
theorem IsBuilt.mem_tables_of_group
    {rule : Rule}
    (built : rule.IsBuilt)
    {group : BindingGroup}
    (groupMem : group ∈ rule.bindingGroups)
    {tableRule : TableRule}
    (member : tableRule ∈ group.tables) :
    tableRule ∈ rule.tables := by
  obtain ⟨declaration, ruleBuilt, -⟩ := built
  obtain ⟨_, _, bound⟩ :=
    Success.exists_input_of_mem (RuleDeclaration.bindingGroups_of_build ruleBuilt) groupMem
  rw [RuleDeclaration.tables_of_build ruleBuilt]
  exact RuleDeclaration.mem_of_bindTables bound member

/-- A table of a binding group has a rule. -/
theorem IsBuilt.isSome_findTable?_of_findGroup?
    {rule : Rule}
    (built : rule.IsBuilt)
    {table : String}
    {group : BindingGroup}
    (found : rule.findGroup? table = some group) :
    (rule.findTable? table).isSome = true := by
  obtain ⟨groupMem, contained⟩ := mem_of_findGroup? found
  obtain ⟨tableRule, member, isFor⟩ := List.any_eq_true.mp contained
  exact List.find?_isSome.mpr ⟨tableRule, built.mem_tables_of_group groupMem member, isFor⟩

theorem boundAmong_eq_of_mem
    {rule : Rule}
    {tables : List String}
    {table : String}
    (member : table ∈ rule.boundAmong tables) :
    ∃ group, tables.findSome? rule.findGroup? = some group ∧ table ∈ group.logicTables := by
  unfold boundAmong at member
  split at member
  next group found => exact ⟨group, found, List.mem_of_mem_filter member⟩
  next => simp at member

/-- Bound tables all belong to the first group of the first one of them. -/
theorem exists_group_of_areBound
    {rule : Rule}
    {tables : List String}
    (areBound : rule.areBound tables = true) :
    ∃ first others group, tables = first :: others ∧ rule.findGroup? first = some group ∧
      ∀ table ∈ tables, group.contains table = true := by
  obtain ⟨nonempty, covered⟩ := Bool.and_eq_true_iff.mp areBound
  obtain ⟨bound, boundMem⟩ := List.exists_mem_of_ne_nil (rule.boundAmong tables) (by simpa using nonempty)
  obtain ⟨group, found, -⟩ := boundAmong_eq_of_mem boundMem
  have contained : ∀ table ∈ tables, group.contains table = true := by
    intro table member
    obtain ⟨other, otherMem, same⟩ :=
      (NameSet.holdsName_iff _ _).mp (List.all_eq_true.mp covered table member)
    obtain ⟨others, foundOthers, listed⟩ := boundAmong_eq_of_mem otherMem
    cases Option.some.inj (found.symm.trans foundOthers)
    rw [← group.holdsName_logicTables]
    exact (NameSet.holdsName_iff _ _).mpr ⟨other, listed, same⟩
  cases tables with
  | nil => simp at found
  | cons first others =>
      refine ⟨first, others, group, rfl, ?_, contained⟩
      -- The group of the list is that of its first table, which belongs to some group.
      cases isFirst : rule.findGroup? first with
      | some _ => simpa [List.findSome?_cons, isFirst] using found
      | none =>
          obtain ⟨_, _, foundLater⟩ := List.exists_of_findSome?_eq_some found
          have apart := List.find?_eq_none.mp isFirst group (mem_of_findGroup? foundLater).1
          exact absurd (contained first List.mem_cons_self) apart

end Rule

namespace RoutingRequest

/-- Tables that are bound to one routed before are passed over. -/
theorem routeEach_of_bound
    (request : RoutingRequest)
    {bound tables : List String}
    (covered : ∀ table ∈ tables, Text.holdsName bound table = true) :
    request.routeEach bound tables = .ok [] := by
  induction tables with
  | nil => rfl
  | cons table rest ih =>
      rw [List.forall_mem_cons] at covered
      unfold routeEach
      split
      next => exact ih covered.2
      next => rw [if_pos covered.1, ih covered.2]

/-- Where the first table has a rule and its first group holds the others, all run where it runs. -/
theorem routeUnbound_cons
    (request : RoutingRequest)
    {first : String}
    {others : List String}
    (ruled : (request.rule.findTable? first).isSome = true)
    (covered : ∀ table ∈ others,
      ∃ group, request.rule.findGroup? first = some group ∧ group.contains table = true) :
    request.routeUnbound (first :: others) = (request.routeTable first).map Outcome.units := by
  obtain ⟨tableRule, found⟩ := Option.isSome_iff_exists.mp ruled
  have passed : request.routeEach
      ((request.rule.findGroup? first).elim [] BindingGroup.logicTables) others = .ok [] := by
    refine request.routeEach_of_bound fun table member => ?_
    obtain ⟨group, isGroup, contained⟩ := covered table member
    rw [isGroup]
    exact (group.holdsName_logicTables table).trans contained
  have unheld : Text.holdsName [] first = false := rfl
  simp only [routeUnbound, routeEach, found, unheld, Bool.false_eq_true, if_false, List.nil_append]
  cases request.routeTable first with
  | error failure => rfl
  | ok units =>
      cases isGroup : request.rule.findGroup? first with
      | none =>
          rw [isGroup] at passed
          simp only [bind, Except.bind, Option.elim_none] at passed ⊢
          rw [passed]
          rfl
      | some group =>
          rw [isGroup] at passed
          simp only [bind, Except.bind, Option.elim_some] at passed ⊢
          rw [passed]
          rfl

/-- **The general way to route comes to what the short one comes to.**  Under a built rule, for tables that
are bound to each other and for a single table with a rule, routing the tables one by one has the result of
routing the first of them alone, whether that succeeds or fails.  So it makes no difference to a statement
over such tables that it is routed by its first table. -/
theorem routeUnbound_eq_routeTable
    (request : RoutingRequest)
    (isBuilt : request.rule.IsBuilt)
    {tables : List String}
    (isShort : request.rule.areBound tables = true ∨
      ∃ table, tables = [table] ∧ (request.rule.findTable? table).isSome = true) :
    ∃ first, tables.head? = some first ∧
      request.routeUnbound tables = (request.routeTable first).map Outcome.units ∧
      (request.statement.tables.names = tables →
        request.route = request.routeUnbound tables) := by
  rcases isShort with areBound | ⟨table, rfl, ruled⟩
  · obtain ⟨first, others, group, rfl, isGroup, contained⟩ := Rule.exists_group_of_areBound areBound
    have agrees := request.routeUnbound_cons (isBuilt.isSome_findTable?_of_findGroup? isGroup)
      fun table member => ⟨group, isGroup, contained table (List.mem_cons_of_mem first member)⟩
    refine ⟨first, rfl, agrees, fun isNamed => ?_⟩
    unfold route
    rw [isNamed, agrees]
    split
    next => contradiction
    next isSingle => rw [(List.cons.inj isSingle).1]
    next isSeveral =>
      obtain ⟨rfl, rfl⟩ := List.cons.inj isSeveral
      rw [if_pos areBound]
  · have agrees : request.routeUnbound [table] = (request.routeTable table).map Outcome.units :=
      request.routeUnbound_cons ruled nofun
    refine ⟨table, rfl, agrees, fun isNamed => ?_⟩
    unfold route
    rw [isNamed, agrees]

end RoutingRequest

section Samples

/-- The rule of a table that lies as it is on two data sources, divided by `user_id`. -/
def sharedTable (logicTable : String) : TableRule :=
  { logicTable := logicTable
    isDynamic := false
    nodes := [⟨"ds_0", logicTable⟩, ⟨"ds_1", logicTable⟩]
    databaseStrategy := some ⟨["user_id"], .modulo none⟩
    tableStrategy := none
    keyColumn := none
    keyGenerator := none }

/-- The declaration of this table. -/
def sharedDeclaration (logicTable : String) : TableDeclaration :=
  { logicTable := logicTable
    dataSources := ["ds_0", "ds_1"]
    databaseStrategy := some ⟨["user_id"], .modulo none⟩ }

theorem sharedDeclaration_build
    {logicTable : String}
    (isNamed : (Text.trim logicTable).isEmpty = false) :
    (sharedDeclaration logicTable).build = .ok (sharedTable logicTable) := by
  simp [TableDeclaration.build, TableDeclaration.nodes, TableDeclaration.fixedNodes,
    sharedDeclaration, sharedTable, isNamed, Except.map]

/-- The declaration of a rule with two binding groups that have a table in common. -/
def overlapDeclaration : RuleDeclaration :=
  { dataSources := ["ds_0", "ds_1"]
    tables := [sharedTable "t_order", sharedTable "t_item", sharedTable "t_user"]
    bindingGroups := [["t_order", "T_ITEM"], ["t_item", "t_user"]] }

/-- This rule. -/
def overlapRule : Rule :=
  { dataSources := ["ds_0", "ds_1"]
    defaultDataSource := none
    tables := [sharedTable "t_order", sharedTable "t_item", sharedTable "t_user"]
    bindingGroups :=
      [⟨[sharedTable "t_order", sharedTable "t_item"]⟩, ⟨[sharedTable "t_item", sharedTable "t_user"]⟩]
    databaseStrategy := none
    tableStrategy := none
    keyGenerator := none }

theorem overlapRule_isBuilt : overlapRule.IsBuilt := by
  refine ⟨overlapDeclaration, rfl, ?_⟩
  intro tableRule member
  have listed : tableRule ∈ ["t_order", "t_item", "t_user"].map sharedTable := member
  obtain ⟨logicTable, nameMem, rfl⟩ := List.mem_map.mp listed
  have isNamed : ∀ name ∈ ["t_order", "t_item", "t_user"], (Text.trim name).isEmpty = false := by
    decide +kernel
  exact ⟨_, sharedDeclaration_build (isNamed logicTable nameMem)⟩

/-- The two tables of the first group are routed as the first of them is, in any letter case. -/
theorem overlapRule_routeUnbound :
    overlapRule.IsBuilt ∧ overlapRule.areBound ["T_ITEM", "t_order"] = true ∧
      RoutingRequest.routeUnbound ⟨overlapRule, [], { kind := .select }, {}⟩ ["T_ITEM", "t_order"] =
        (RoutingRequest.routeTable ⟨overlapRule, [], { kind := .select }, {}⟩ "T_ITEM").map
          Outcome.units := by
  have areBound : overlapRule.areBound ["T_ITEM", "t_order"] = true := by decide
  obtain ⟨first, isFirst, agrees, -⟩ := RoutingRequest.routeUnbound_eq_routeTable
    ⟨overlapRule, [], { kind := .select }, {}⟩ overlapRule_isBuilt (Or.inl areBound)
  cases Option.some.inj isFirst
  exact ⟨overlapRule_isBuilt, areBound, agrees⟩

/-- Only the first group of a table counts. -/
example : overlapRule.areBound ["t_item", "t_user"] = false := by decide

end Samples

end ShardedSql
