import ShardedSql.Proofs.Success
import ShardedSql.Rule.Config

/-!
# Built rules

A built rule comes from declarations that were checked.  Whatever is declared about a table, its
rule has a data node, since a declaration without one is refused.
-/

namespace ShardedSql

namespace TableDeclaration

theorem nodesOf_ne_nil
    {declaration : TableDeclaration}
    {actualTable : String}
    {nodes : List DataNode}
    (succeeded : declaration.nodesOf actualTable = .ok nodes) :
    nodes ≠ [] := by
  unfold nodesOf at succeeded
  split at succeeded
  next =>
    obtain ⟨node, _, rfl⟩ := Success.map_eq_ok.mp succeeded
    exact List.cons_ne_nil _ _
  next =>
    split at succeeded
    next => simp at succeeded
    next nonempty =>
      cases Except.ok.inj succeeded
      simpa using nonempty

theorem fixedNodes_ne_nil
    {declaration : TableDeclaration}
    {nodes : List DataNode}
    (succeeded : declaration.fixedNodes = .ok nodes) :
    nodes ≠ [] := by
  unfold fixedNodes at succeeded
  split at succeeded
  next =>
    split at succeeded
    next => simp at succeeded
    next nonempty =>
      cases Except.ok.inj succeeded
      simpa using nonempty
  next listed =>
    obtain ⟨groups, groupsOk, rfl⟩ := Success.map_eq_ok.mp succeeded
    obtain ⟨actualTable, member⟩ :=
      List.exists_mem_of_ne_nil declaration.actualTables (by simpa using listed)
    obtain ⟨group, groupMem, groupOk⟩ := Success.exists_output_of_mem groupsOk member
    obtain ⟨node, nodeMem⟩ := List.exists_mem_of_ne_nil group (nodesOf_ne_nil groupOk)
    exact List.ne_nil_of_mem (List.mem_flatten.mpr ⟨group, groupMem, nodeMem⟩)

theorem nodes_ne_nil
    {declaration : TableDeclaration}
    {nodes : List DataNode}
    (succeeded : declaration.nodes = .ok nodes) :
    nodes ≠ [] := by
  unfold TableDeclaration.nodes at succeeded
  split at succeeded
  next => simp at succeeded
  split at succeeded
  next => simp at succeeded
  split at succeeded
  next =>
    unfold dynamicNodes at succeeded
    split at succeeded
    next => simp at succeeded
    next nonempty =>
      cases Except.ok.inj succeeded
      simpa using nonempty
  next => exact fixedNodes_ne_nil succeeded

theorem nodes_ne_nil_of_build
    {declaration : TableDeclaration}
    {tableRule : TableRule}
    (built : declaration.build = .ok tableRule) :
    tableRule.nodes ≠ [] := by
  obtain ⟨nodes, nodesOk, rfl⟩ := Success.map_eq_ok.mp built
  exact nodes_ne_nil nodesOk

end TableDeclaration

namespace RuleDeclaration

theorem tables_of_build
    {declaration : RuleDeclaration}
    {rule : Rule}
    (built : declaration.build = .ok rule) :
    rule.tables = declaration.tables := by
  unfold build at built
  split at built
  next => simp at built
  obtain ⟨_, _, built⟩ := Success.bind_eq_ok.mp built
  obtain ⟨_, _, built⟩ := Success.bind_eq_ok.mp built
  obtain ⟨_, _, built⟩ := Success.bind_eq_ok.mp built
  cases Except.ok.inj built
  rfl

end RuleDeclaration

/-- Whether a rule is what some declaration describes, with the rule of each table being what some
declaration of that table describes. -/
def Rule.IsBuilt (rule : Rule) : Prop :=
  ∃ declaration : RuleDeclaration, declaration.build = .ok rule ∧
    ∀ tableRule ∈ declaration.tables, ∃ table : TableDeclaration, table.build = .ok tableRule

theorem Rule.IsBuilt.nodes_ne_nil
    {rule : Rule}
    (built : rule.IsBuilt)
    {tableRule : TableRule}
    (member : tableRule ∈ rule.tables) :
    tableRule.nodes ≠ [] := by
  obtain ⟨declaration, ruleBuilt, tablesBuilt⟩ := built
  rw [RuleDeclaration.tables_of_build ruleBuilt] at member
  obtain ⟨table, tableBuilt⟩ := tablesBuilt tableRule member
  exact TableDeclaration.nodes_ne_nil_of_build tableBuilt

theorem Rule.mem_of_findTable?
    {rule : Rule}
    {logicTable : String}
    {tableRule : TableRule}
    (found : rule.findTable? logicTable = some tableRule) :
    tableRule ∈ rule.tables :=
  List.mem_of_find?_eq_some found

/-- The rule that a rule file declares is a built one. -/
theorem RuleConfig.isBuilt_of_build
    {config : RuleConfig}
    {rule : Rule}
    (built : config.build = .ok rule) :
    rule.IsBuilt := by
  unfold RuleConfig.build at built
  obtain ⟨tables, tablesOk, built⟩ := Success.bind_eq_ok.mp built
  obtain ⟨_, _, built⟩ := Success.bind_eq_ok.mp built
  obtain ⟨_, _, built⟩ := Success.bind_eq_ok.mp built
  obtain ⟨_, _, built⟩ := Success.bind_eq_ok.mp built
  refine ⟨_, built, fun tableRule member => ?_⟩
  obtain ⟨table, _, tableOk⟩ := Success.exists_input_of_mem tablesOk member
  unfold TableConfig.build at tableOk
  obtain ⟨_, _, tableOk⟩ := Success.bind_eq_ok.mp tableOk
  obtain ⟨_, _, tableOk⟩ := Success.bind_eq_ok.mp tableOk
  obtain ⟨_, _, tableOk⟩ := Success.bind_eq_ok.mp tableOk
  exact ⟨_, tableOk⟩

end ShardedSql
