import ShardedSql.Proofs.Routing.Binding

/-!
# Partners of actual tables

The actual tables of bound tables belong together by their positions.  The position of an actual table is that
in the first rule of the group that lists it, and what is taken of the partner at this position is the name of
its table alone.  The main statement says for which layouts the partner lies on the data source in question.
-/

namespace ShardedSql

/-- Whether a table has an actual table on a data source, in any letter case. -/
def TableRule.Lists
    (rule : TableRule)
    (dataSource actualTable : String) : Prop :=
  ∃ node ∈ rule.nodes, node.isAt dataSource actualTable = true

instance
    (rule : TableRule)
    (dataSource actualTable : String) :
    Decidable (rule.Lists dataSource actualTable) :=
  inferInstanceAs (Decidable (∃ node ∈ rule.nodes, node.isAt dataSource actualTable = true))

namespace BindingGroup

/-- Whether the first rule that lists an actual table does so at a position, with no dynamic rule up to it. -/
def IsHeldAt
    (tables : List TableRule)
    (dataSource actualTable : String)
    (position : Nat) : Prop :=
  ∃ earlier holder later, tables = earlier ++ holder :: later ∧
    (∀ member ∈ earlier, member.isDynamic = false ∧ ¬ member.Lists dataSource actualTable) ∧
    holder.isDynamic = false ∧ holder.nodeIndex? dataSource actualTable = some position

/-- Whether no table of the group is dynamic and all have their nodes on the same data sources, position by
position. -/
structure IsAligned (group : BindingGroup) : Prop where
  isFixed : ∀ member ∈ group.tables, member.isDynamic = false
  sameSources : ∀ member ∈ group.tables, ∀ other ∈ group.tables,
    List.Forall₂ (fun node otherNode => Text.sameName node.dataSource otherNode.dataSource = true)
      member.nodes other.nodes

end BindingGroup

theorem DataNode.isAt_self (node : DataNode) :
    node.isAt node.dataSource node.table = true := by
  simp [isAt]

namespace TableRule

variable {rule : TableRule} {dataSource actualTable : String}

theorem lists_of_mem
    {node : DataNode}
    (nodeMem : node ∈ rule.nodes) :
    rule.Lists node.dataSource node.table :=
  ⟨node, nodeMem, node.isAt_self⟩

theorem nodeIndex?_eq_none_iff :
    rule.nodeIndex? dataSource actualTable = none ↔ ¬ rule.Lists dataSource actualTable := by
  simp [nodeIndex?, Lists]

theorem exists_node_of_nodeIndex?
    {position : Nat}
    (found : rule.nodeIndex? dataSource actualTable = some position) :
    ∃ node, rule.nodes[position]? = some node ∧ node.isAt dataSource actualTable = true := by
  obtain ⟨isWithin, isAt, -⟩ := List.findIdx?_eq_some_iff_getElem.mp found
  exact ⟨rule.nodes[position], List.getElem?_eq_getElem isWithin, isAt⟩

end TableRule

namespace BindingGroup

section Positions

variable {tables : List TableRule} {dataSource actualTable : String} {position : Nat}

theorem isHeldAt_cons_iff
    {rule : TableRule} :
    IsHeldAt (rule :: tables) dataSource actualTable position ↔
      rule.isDynamic = false ∧
        (rule.nodeIndex? dataSource actualTable = some position ∨
          rule.nodeIndex? dataSource actualTable = none ∧
            IsHeldAt tables dataSource actualTable position) := by
  constructor
  · rintro ⟨earlier, holder, later, split, passed, isFixed, found⟩
    cases earlier with
    | nil =>
        obtain ⟨rfl, -⟩ := List.cons.inj split
        exact ⟨isFixed, Or.inl found⟩
    | cons first earlier =>
        obtain ⟨rfl, rfl⟩ := List.cons.inj split
        rw [List.forall_mem_cons] at passed
        exact ⟨passed.1.1, Or.inr ⟨TableRule.nodeIndex?_eq_none_iff.mpr passed.1.2,
          earlier, holder, later, rfl, passed.2, isFixed, found⟩⟩
  · rintro ⟨isFixed, found | ⟨isMissing, earlier, holder, later, rfl, passed, holderFixed, found⟩⟩
    · exact ⟨[], rule, tables, rfl, by simp, isFixed, found⟩
    · exact ⟨rule :: earlier, holder, later, rfl, List.forall_mem_cons.mpr
        ⟨⟨isFixed, TableRule.nodeIndex?_eq_none_iff.mp isMissing⟩, passed⟩, holderFixed, found⟩

theorem nodeIndex?_eq_some_iff :
    nodeIndex? dataSource actualTable tables = .ok (some position) ↔
      IsHeldAt tables dataSource actualTable position := by
  induction tables with
  | nil => simp [nodeIndex?, IsHeldAt]
  | cons rule tables ih =>
      rw [isHeldAt_cons_iff, ← ih, nodeIndex?]
      cases isDynamic : rule.isDynamic with
      | true => simp
      | false => cases found : rule.nodeIndex? dataSource actualTable with
        | none => simp
        | some index => simp

/-- What a rule of a list without dynamic ones lists is held at some position. -/
theorem exists_isHeldAt
    (areFixed : ∀ member ∈ tables, member.isDynamic = false)
    (isListed : ∃ member ∈ tables, member.Lists dataSource actualTable) :
    ∃ position, IsHeldAt tables dataSource actualTable position := by
  induction tables with
  | nil => simp at isListed
  | cons rule tables ih =>
      rw [List.forall_mem_cons] at areFixed
      simp only [isHeldAt_cons_iff]
      cases found : rule.nodeIndex? dataSource actualTable with
      | some index => exact ⟨index, areFixed.1, Or.inl rfl⟩
      | none =>
          obtain ⟨member, memberMem, lists⟩ := isListed
          have isOther : member ∈ tables := by
            refine (List.mem_cons.mp memberMem).resolve_left fun isFirst => ?_
            exact TableRule.nodeIndex?_eq_none_iff.mp found (isFirst ▸ lists)
          obtain ⟨position, held⟩ := ih areFixed.2 ⟨member, isOther, lists⟩
          exact ⟨position, areFixed.1, Or.inr ⟨rfl, held⟩⟩

end Positions

/-- The partner of an actual table is what a table of the group has at the position where the table is held. -/
theorem partner_eq_ok_iff
    {group : BindingGroup}
    {second : TableRule}
    (isFound : group.tables.find? (fun rule => rule.isFor second.logicTable) = some second)
    {dataSource actualTable partner : String} :
    group.partner dataSource second.logicTable actualTable = .ok partner ↔
      ∃ position node, IsHeldAt group.tables dataSource actualTable position ∧
        second.nodes[position]? = some node ∧ node.table = partner := by
  rw [BindingGroup.partner, Success.bind_eq_ok]
  constructor
  · rintro ⟨index, found, taken⟩
    cases index with
    | none => simp at taken
    | some position =>
        simp only [isFound, Option.bind_some] at taken
        cases isNode : second.nodes[position]? with
        | none => simp [isNode] at taken
        | some node =>
            rw [isNode] at taken
            exact ⟨position, node, nodeIndex?_eq_some_iff.mp found, isNode, Except.ok.inj taken⟩
  · rintro ⟨position, node, held, isNode, rfl⟩
    exact ⟨some position, nodeIndex?_eq_some_iff.mpr held, by simp [isFound, isNode]⟩

/-- Aligned tables have the partner of an actual table on its data source. -/
theorem IsAligned.exists_partner_node
    {group : BindingGroup}
    (isAligned : group.IsAligned)
    {dataSource actualTable : String}
    {position : Nat}
    (held : IsHeldAt group.tables dataSource actualTable position)
    {second : TableRule}
    (secondMem : second ∈ group.tables) :
    ∃ partner, second.nodes[position]? = some partner ∧ second.Lists dataSource partner.table := by
  obtain ⟨earlier, holder, later, split, -, -, found⟩ := held
  obtain ⟨node, isNode, isAt⟩ := TableRule.exists_node_of_nodeIndex? found
  have sameSources := isAligned.sameSources holder (by simp [split]) second secondMem
  obtain ⟨isWithin, rfl⟩ := List.getElem?_eq_some_iff.mp isNode
  have isWithinSecond : position < second.nodes.length := sameSources.length_eq ▸ isWithin
  have sameSource := sameSources.get isWithin isWithinSecond
  refine ⟨second.nodes[position], List.getElem?_eq_getElem isWithinSecond,
    second.nodes[position], List.getElem_mem isWithinSecond, ?_⟩
  have isThere : Text.sameName second.nodes[position].dataSource dataSource = true :=
    Text.sameName_trans (Text.sameName_comm _ _ ▸ sameSource) (Bool.and_eq_true_iff.mp isAt).1
  simp [DataNode.isAt, isThere]

end BindingGroup

namespace RuleDeclaration

/-- The rules of a group are found in the group as they are among all rules. -/
theorem find?_of_bindTables
    {tables : List TableRule}
    {logicTables : List String}
    {group : BindingGroup}
    (bound : bindTables tables logicTables = .ok group)
    {tableRule : TableRule}
    (member : tableRule ∈ group.tables) :
    group.tables.find? (fun rule => rule.isFor tableRule.logicTable) = some tableRule := by
  cases isFound : group.tables.find? fun rule => rule.isFor tableRule.logicTable with
  | none =>
      have differs := List.find?_eq_none.mp isFound tableRule member
      exact absurd (Text.sameName_refl tableRule.logicTable) differs
  | some found =>
      have same : Text.sameName found.logicTable tableRule.logicTable = true :=
        List.find?_some (p := fun rule : TableRule => rule.isFor tableRule.logicTable) isFound
      have isFirst := find?_of_mem_bindTables bound (List.mem_of_find?_eq_some isFound)
      rw [TableRule.find?_isFor_congr tables same, find?_of_mem_bindTables bound member] at isFirst
      rw [Option.some.inj isFirst]

end RuleDeclaration

namespace Rule

theorem IsBuilt.find?_of_group
    {rule : Rule}
    (isBuilt : rule.IsBuilt)
    {group : BindingGroup}
    (groupMem : group ∈ rule.bindingGroups)
    {tableRule : TableRule}
    (member : tableRule ∈ group.tables) :
    group.tables.find? (fun candidate => candidate.isFor tableRule.logicTable) = some tableRule := by
  obtain ⟨declaration, ruleBuilt, -⟩ := isBuilt
  obtain ⟨_, _, bound⟩ :=
    Success.exists_input_of_mem (RuleDeclaration.bindingGroups_of_build ruleBuilt) groupMem
  exact RuleDeclaration.find?_of_bindTables bound member

/-- **The partner of an actual table lies on its data source where the positions agree.**  Take two tables of a
binding group and a node of the first one.  The second one has a partner for it on the same data source if and
only if no dynamic rule comes up to the first rule of the group that lists the node's table, and the second
table has at the position there a node whose table it lists on this data source.  So it is for all tables and
nodes of a group that has no dynamic tables and whose nodes lie on the same data sources position by
position. -/
theorem exists_partner_on_dataSource_iff
    {rule : Rule}
    (isBuilt : rule.IsBuilt)
    {group : BindingGroup}
    (groupMem : group ∈ rule.bindingGroups)
    {first second : TableRule}
    (firstMem : first ∈ group.tables)
    (secondMem : second ∈ group.tables)
    {node : DataNode}
    (nodeMem : node ∈ first.nodes) :
    ((∃ actualTable, group.partner node.dataSource second.logicTable node.table = .ok actualTable ∧
        second.Lists node.dataSource actualTable) ↔
      ∃ position partner,
        BindingGroup.IsHeldAt group.tables node.dataSource node.table position ∧
          second.nodes[position]? = some partner ∧ second.Lists node.dataSource partner.table) ∧
    (group.IsAligned →
      ∃ actualTable, group.partner node.dataSource second.logicTable node.table = .ok actualTable ∧
        second.Lists node.dataSource actualTable) := by
  have paired (actualTable : String) :
      group.partner node.dataSource second.logicTable node.table = .ok actualTable ↔
        ∃ position partner,
          BindingGroup.IsHeldAt group.tables node.dataSource node.table position ∧
            second.nodes[position]? = some partner ∧ partner.table = actualTable :=
    BindingGroup.partner_eq_ok_iff (isBuilt.find?_of_group groupMem secondMem)
  refine ⟨⟨?_, ?_⟩, fun isAligned => ?_⟩
  · rintro ⟨actualTable, isPartner, lists⟩
    obtain ⟨position, partner, held, isNode, rfl⟩ := (paired actualTable).mp isPartner
    exact ⟨position, partner, held, isNode, lists⟩
  · rintro ⟨position, partner, held, isNode, lists⟩
    exact ⟨partner.table, (paired _).mpr ⟨position, partner, held, isNode, rfl⟩, lists⟩
  · obtain ⟨position, held⟩ := BindingGroup.exists_isHeldAt isAligned.isFixed
      ⟨first, firstMem, TableRule.lists_of_mem nodeMem⟩
    obtain ⟨partner, isNode, lists⟩ := isAligned.exists_partner_node held secondMem
    exact ⟨partner.table, (paired _).mpr ⟨position, partner, held, isNode, rfl⟩, lists⟩

end Rule

section Samples

/-- Whether a node is what its written form is read as. -/
def IsWritten (node : DataNode) : Prop :=
  DataNode.ofText? node.text = some node

theorem isWritten_of_splitOn
    {node : DataNode}
    (isSplit : node.text.splitOn "." = [node.dataSource, node.table])
    (isTrimmed : ∀ name ∈ [node.dataSource, node.table], Text.trim name = name ∧ name.isEmpty = false) :
    IsWritten node := by
  simp only [List.forall_mem_cons] at isTrimmed
  obtain ⟨⟨sourceTrimmed, sourceNamed⟩, ⟨tableTrimmed, tableNamed⟩, -⟩ := isTrimmed
  simp [IsWritten, DataNode.ofText?, isSplit, sourceTrimmed, sourceNamed, tableTrimmed, tableNamed]

/-- The declaration of a table with two actual tables. -/
def pairDeclaration (logicTable : String) (first second : DataNode) : TableDeclaration :=
  { logicTable := logicTable
    actualTables := [first.text, second.text] }

/-- The rule of such a table. -/
def pairTable (logicTable : String) (first second : DataNode) : TableRule :=
  { logicTable := logicTable
    isDynamic := false
    nodes := [first, second]
    databaseStrategy := none
    tableStrategy := none
    keyColumn := none
    keyGenerator := none }

theorem pairDeclaration_build
    {logicTable : String}
    {first second : DataNode}
    (isNamed : (Text.trim logicTable).isEmpty = false)
    (firstWritten : IsWritten first)
    (secondWritten : IsWritten second) :
    (pairDeclaration logicTable first second).build = .ok (pairTable logicTable first second) := by
  have readNode (declaration : TableDeclaration) {node : DataNode} (isWritten : IsWritten node) :
      declaration.nodesOf node.text = .ok [node] := by
    have isPointed : node.text.toList.contains '.' = true := by simp [DataNode.text]
    rw [TableDeclaration.nodesOf, if_pos isPointed, DataNode.read, isWritten]
    rfl
  simp [TableDeclaration.build, TableDeclaration.nodes, TableDeclaration.fixedNodes, pairDeclaration,
    pairTable, isNamed, readNode, firstWritten, secondWritten, Except.map, bind, Except.bind, pure,
    Except.pure]

def pairedOrders : TableRule :=
  pairTable "t_order" ⟨"ds_0", "t_order_0"⟩ ⟨"ds_1", "t_order_1"⟩

def pairedItems : TableRule :=
  pairTable "t_item" ⟨"ds_0", "t_item_0"⟩ ⟨"ds_1", "t_item_1"⟩

/-- This table lists its nodes in the opposite order of the data sources. -/
def crossedUsers : TableRule :=
  pairTable "t_user" ⟨"ds_1", "t_user_1"⟩ ⟨"ds_0", "t_user_0"⟩

/-- The declaration of a rule that binds the orders to tables in the same order and to tables in the opposite
order. -/
def crossedDeclaration : RuleDeclaration :=
  { dataSources := ["ds_0", "ds_1"]
    tables := [pairedOrders, pairedItems, crossedUsers]
    bindingGroups := [["t_order", "t_item"], ["t_order", "t_user"]] }

/-- This rule. -/
def crossedRule : Rule :=
  { dataSources := ["ds_0", "ds_1"]
    defaultDataSource := none
    tables := [pairedOrders, pairedItems, crossedUsers]
    bindingGroups := [⟨[pairedOrders, pairedItems]⟩, ⟨[pairedOrders, crossedUsers]⟩]
    databaseStrategy := none
    tableStrategy := none
    keyGenerator := none }

theorem crossedRule_isBuilt : crossedRule.IsBuilt := by
  have isWritten : ∀ node ∈ pairedOrders.nodes ++ pairedItems.nodes ++ crossedUsers.nodes,
      IsWritten node := by
    intro node member
    apply isWritten_of_splitOn
    · revert node
      simp only [pairedOrders, pairedItems, crossedUsers, pairTable, List.cons_append, List.nil_append,
        List.forall_mem_cons, DataNode.text, String.reduceAppend]
      simp +decide [String.splitOn, String.splitOnAux]
    · revert node
      decide +kernel
  have builds {logicTable : String} {first second : DataNode}
      (isNamed : (Text.trim logicTable).isEmpty = false)
      (listed : [first, second].Sublist
        (pairedOrders.nodes ++ pairedItems.nodes ++ crossedUsers.nodes)) :
      ∃ table : TableDeclaration, table.build = .ok (pairTable logicTable first second) :=
    ⟨_, pairDeclaration_build isNamed (isWritten _ (listed.subset (by simp)))
      (isWritten _ (listed.subset (by simp)))⟩
  refine ⟨crossedDeclaration, rfl, ?_⟩
  simp only [crossedDeclaration, List.forall_mem_cons]
  refine ⟨builds ?_ ?_, builds ?_ ?_, builds ?_ ?_, List.forall_mem_nil _⟩ <;> decide +kernel

/-- The group of the tables in the same order. -/
def pairedGroup : BindingGroup :=
  ⟨[pairedOrders, pairedItems]⟩

/-- The group of the tables in the opposite order. -/
def crossedGroup : BindingGroup :=
  ⟨[pairedOrders, crossedUsers]⟩

theorem pairedGroup_isAligned : pairedGroup.IsAligned where
  isFixed := by decide
  sameSources := by decide

/-- In the first group, each table has a partner on the same data source. -/
theorem pairedGroup_partner :
    crossedRule.IsBuilt ∧ pairedGroup ∈ crossedRule.bindingGroups ∧ pairedGroup.IsAligned ∧
      pairedOrders ∈ pairedGroup.tables ∧ pairedItems ∈ pairedGroup.tables ∧
      ⟨"ds_1", "t_item_1"⟩ ∈ pairedItems.nodes ∧
      ∃ actualTable, pairedGroup.partner "ds_1" "t_order" "t_item_1" = .ok actualTable ∧
        pairedOrders.Lists "ds_1" actualTable := by
  have groupMem : pairedGroup ∈ crossedRule.bindingGroups := List.mem_cons_self
  have ordersMem : pairedOrders ∈ pairedGroup.tables := List.mem_cons_self
  have itemsMem : pairedItems ∈ pairedGroup.tables := List.mem_cons_of_mem _ List.mem_cons_self
  have nodeMem : ⟨"ds_1", "t_item_1"⟩ ∈ pairedItems.nodes := by decide
  exact ⟨crossedRule_isBuilt, groupMem, pairedGroup_isAligned, ordersMem, itemsMem, nodeMem,
    (Rule.exists_partner_on_dataSource_iff crossedRule_isBuilt groupMem itemsMem ordersMem nodeMem).2
      pairedGroup_isAligned⟩

/-- In the second group, the partner of a table on the first data source is one that lies on the second. -/
theorem crossedGroup_partner :
    crossedRule.IsBuilt ∧ crossedGroup ∈ crossedRule.bindingGroups ∧
      pairedOrders ∈ crossedGroup.tables ∧ crossedUsers ∈ crossedGroup.tables ∧
      ⟨"ds_0", "t_order_0"⟩ ∈ pairedOrders.nodes ∧
      crossedGroup.partner "ds_0" "t_user" "t_order_0" = .ok "t_user_1" ∧
      ¬ crossedUsers.Lists "ds_0" "t_user_1" := by
  have isFound : crossedGroup.tables.find? (fun rule => rule.isFor crossedUsers.logicTable) =
      some crossedUsers := rfl
  have isHeld : BindingGroup.IsHeldAt crossedGroup.tables "ds_0" "t_order_0" 0 :=
    ⟨[], pairedOrders, [crossedUsers], rfl, List.forall_mem_nil _, rfl, by decide⟩
  refine ⟨crossedRule_isBuilt, List.mem_cons_of_mem _ List.mem_cons_self, List.mem_cons_self,
    List.mem_cons_of_mem _ List.mem_cons_self, List.mem_cons_self, ?_, by decide⟩
  exact (BindingGroup.partner_eq_ok_iff isFound).mpr ⟨0, ⟨"ds_1", "t_user_1"⟩, isHeld, rfl, rfl⟩

end Samples

end ShardedSql
