import ShardedSql.Proofs.Routing.Binding

/-!
# Declared binding groups

Whether tables are bound to each other is asked of a built rule, which answers from one group only: the first
one that the first table belongs to.  The main statement compares the answer with the declared groups.  Where
no table is declared in two groups, the tables are bound if and only if some group names them all.
-/

namespace ShardedSql

namespace RuleDeclaration

/-- Whether no table is named in two of the declared binding groups. -/
def HasSeparateGroups (declaration : RuleDeclaration) : Prop :=
  declaration.bindingGroups.Pairwise fun group other =>
    ∀ table, Text.holdsName group table = true → Text.holdsName other table = false

/-- A group contains the tables that its declaration names. -/
theorem contains_of_bindTables
    {tables : List TableRule}
    {logicTables : List String}
    {group : BindingGroup}
    (bound : bindTables tables logicTables = .ok group) :
    group.contains = Text.holdsName logicTables := by
  obtain ⟨rules, rulesOk, rfl⟩ := Success.map_eq_ok.mp bound
  funext table
  have aligned := Success.mapM_eq_ok.mp rulesOk
  clear rulesOk bound
  induction aligned with
  | nil => rfl
  | @cons logicTable tableRule _ _ found _ ih =>
      have sameFirst : tableRule.isFor table = Text.sameName logicTable table :=
        Text.sameName_congr_left (isFor_of_boundTable found) table
      simp only [BindingGroup.contains, Text.holdsName, List.any_cons] at ih ⊢
      rw [ih, sameFirst]

theorem map_contains_of_build
    {declaration : RuleDeclaration}
    {rule : Rule}
    (built : declaration.build = .ok rule) :
    rule.bindingGroups.map BindingGroup.contains = declaration.bindingGroups.map Text.holdsName := by
  rw [← List.forall₂_eq_eq_eq, List.forall₂_map_left_iff, List.forall₂_map_right_iff]
  exact (Success.mapM_eq_ok.mp (bindingGroups_of_build built)).flip.imp fun _ _ bound =>
    contains_of_bindTables bound

end RuleDeclaration

namespace Rule

/-- The first of some tables has a group that holds them all if and only if they are bound. -/
theorem areBound_cons_iff
    {rule : Rule}
    {first : String}
    {others : List String} :
    rule.areBound (first :: others) = true ↔
      ∃ group, rule.findGroup? first = some group ∧
        ∀ table ∈ first :: others, group.contains table = true := by
  constructor
  · intro areBound
    obtain ⟨_, _, group, listed, found, contained⟩ := exists_group_of_areBound areBound
    cases listed
    exact ⟨group, found, contained⟩
  · rintro ⟨group, found, contained⟩
    have among : rule.boundAmong (first :: others) =
        group.logicTables.filter fun bound => Text.holdsName (first :: others) bound := by
      simp only [boundAmong, List.findSome?_cons, found]
    have covered : ∀ table ∈ first :: others,
        ∃ bound ∈ rule.boundAmong (first :: others), Text.sameName bound table = true := by
      intro table member
      have listed := contained table member
      rw [← group.holdsName_logicTables] at listed
      obtain ⟨bound, boundMem, same⟩ := (NameSet.holdsName_iff _ _).mp listed
      refine ⟨bound, ?_, same⟩
      rw [among, List.mem_filter]
      exact ⟨boundMem, (NameSet.holdsName_iff _ _).mpr ⟨table, member, Text.sameName_comm _ _ ▸ same⟩⟩
    obtain ⟨bound, boundMem, -⟩ := covered first List.mem_cons_self
    refine Bool.and_eq_true_iff.mpr ⟨?_, List.all_eq_true.mpr fun table member => ?_⟩
    · simpa using List.ne_nil_of_mem boundMem
    · exact (NameSet.holdsName_iff _ _).mpr (covered table member)

end Rule

namespace RuleDeclaration

/-- The first group of a table is the first declared one that names it. -/
theorem exists_findGroup?_iff
    {declaration : RuleDeclaration}
    {rule : Rule}
    (built : declaration.build = .ok rule)
    (first : String)
    (property : (String → Bool) → Prop) :
    (∃ group, rule.findGroup? first = some group ∧ property group.contains) ↔
      ∃ group, declaration.bindingGroups.find? (Text.holdsName · first) = some group ∧
        property (Text.holdsName group) := by
  have sameFirst : (rule.findGroup? first).map BindingGroup.contains =
      (declaration.bindingGroups.find? (Text.holdsName · first)).map Text.holdsName := by
    have found := congrArg (List.find? fun holds => holds first) (map_contains_of_build built)
    rwa [List.find?_map, List.find?_map] at found
  constructor
  · rintro ⟨group, found, held⟩
    rw [found, Option.map_some, eq_comm, Option.map_eq_some_iff] at sameFirst
    obtain ⟨declared, isFirst, same⟩ := sameFirst
    exact ⟨declared, isFirst, same ▸ held⟩
  · rintro ⟨declared, isFirst, held⟩
    rw [isFirst, Option.map_some, Option.map_eq_some_iff] at sameFirst
    obtain ⟨group, found, same⟩ := sameFirst
    exact ⟨group, found, same ▸ held⟩

/-- **Tables are bound by the first group of the first of them.**  Tables are bound to each other if and only if
a declared binding group names them all and no group in front of it names the first one.  So tables that are
bound are named in one group; the converse, and with it that neither the order of the tables nor that of the
groups counts, holds if no table is named in two groups. -/
theorem areBound_iff_of_build
    {declaration : RuleDeclaration}
    {rule : Rule}
    (built : declaration.build = .ok rule)
    (first : String)
    (others : List String) :
    (rule.areBound (first :: others) = true ↔
      ∃ earlier group later, declaration.bindingGroups = earlier ++ group :: later ∧
        (∀ table ∈ first :: others, Text.holdsName group table = true) ∧
        ∀ other ∈ earlier, Text.holdsName other first = false) ∧
    (declaration.HasSeparateGroups →
      (rule.areBound (first :: others) = true ↔
        ∃ group ∈ declaration.bindingGroups,
          ∀ table ∈ first :: others, Text.holdsName group table = true)) := by
  have byFirst : rule.areBound (first :: others) = true ↔
      ∃ earlier group later, declaration.bindingGroups = earlier ++ group :: later ∧
        (∀ table ∈ first :: others, Text.holdsName group table = true) ∧
        ∀ other ∈ earlier, Text.holdsName other first = false := by
    rw [Rule.areBound_cons_iff, exists_findGroup?_iff built first fun holds =>
      ∀ table ∈ first :: others, holds table = true]
    constructor
    · rintro ⟨group, found, held⟩
      obtain ⟨-, earlier, later, split, passed⟩ := List.find?_eq_some_iff_append.mp found
      exact ⟨earlier, group, later, split, held, by simpa using passed⟩
    · rintro ⟨earlier, group, later, split, held, passed⟩
      refine ⟨group, List.find?_eq_some_iff_append.mpr ⟨held first List.mem_cons_self, earlier, later,
        split, by simpa using passed⟩, held⟩
  refine ⟨byFirst, fun separate => byFirst.trans ⟨?_, ?_⟩⟩
  · rintro ⟨earlier, group, later, split, held, -⟩
    exact ⟨group, by simp [split], held⟩
  · rintro ⟨group, groupMem, held⟩
    obtain ⟨earlier, later, split⟩ := List.append_of_mem groupMem
    refine ⟨earlier, group, later, split, held, fun other otherMem => ?_⟩
    -- The first table would be named in two groups.
    rw [HasSeparateGroups, split] at separate
    have apart := (List.pairwise_append.mp separate).2.2 other otherMem group List.mem_cons_self first
    by_contra isNamed
    rw [Bool.not_eq_false] at isNamed
    exact Bool.false_ne_true ((apart isNamed).symm.trans (held first List.mem_cons_self))

section Samples

/-- A declaration of the same tables with one group. -/
def singleDeclaration : RuleDeclaration :=
  { overlapDeclaration with bindingGroups := [["t_order", "T_ITEM"]] }

/-- Its rule. -/
def singleRule : Rule :=
  { overlapRule with bindingGroups := [⟨[sharedTable "t_order", sharedTable "t_item"]⟩] }

/-- With two groups that have a table in common, tables of the second one are bound if the one that only this
group names comes first; with one group, its tables are bound in any order. -/
theorem areBound_user_item :
    overlapDeclaration.build = .ok overlapRule ∧ overlapRule.areBound ["t_user", "t_item"] = true ∧
      singleDeclaration.build = .ok singleRule ∧ singleDeclaration.HasSeparateGroups ∧
      singleRule.areBound ["t_item", "t_order"] = true := by
  have built : overlapDeclaration.build = .ok overlapRule := rfl
  have builtSingle : singleDeclaration.build = .ok singleRule := rfl
  have separate : singleDeclaration.HasSeparateGroups := List.pairwise_singleton _ _
  refine ⟨built, ?_, builtSingle, separate, ?_⟩
  · exact (areBound_iff_of_build built "t_user" ["t_item"]).1.mpr
      ⟨[["t_order", "T_ITEM"]], ["t_item", "t_user"], [], rfl, by decide, by decide⟩
  · exact ((areBound_iff_of_build builtSingle "t_item" ["t_order"]).2 separate).mpr
      ⟨["t_order", "T_ITEM"], by decide, by decide⟩

/-- The other way round, tables of the second group are not bound, although this group names them both. -/
theorem not_areBound_item_user :
    overlapDeclaration.build = .ok overlapRule ∧
      (∃ group ∈ overlapDeclaration.bindingGroups,
        ∀ table ∈ ["t_item", "t_user"], Text.holdsName group table = true) ∧
      overlapRule.areBound ["t_item", "t_user"] = false :=
  ⟨rfl, ⟨["t_item", "t_user"], by decide, by decide⟩, by decide⟩

end Samples

end RuleDeclaration

end ShardedSql
