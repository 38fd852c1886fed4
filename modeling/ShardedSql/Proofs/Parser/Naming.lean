import ShardedSql.Proofs.Parser.Extending

/-!
# The names of tables are marked

A table is added to a statement by its name, and the name is marked where it stands.  So every table of a
parsed statement has a marked place, whatever else is marked.
-/

namespace ShardedSql

theorem Statement.NamesTable.mono
    {before after : Statement}
    {name : String}
    (isNamed : before.NamesTable name)
    (keeps : before.markers ⊆ after.markers) :
    after.NamesTable name := by
  obtain ⟨position, literals, member, unquoted⟩ := isNamed
  exact ⟨position, literals, keeps member, unquoted⟩

/-- Keeping what is marked, and adding tables whose names are marked. -/
def Conduct.naming : Conduct where
  relates before after :=
    before.statement.markers ⊆ after.statement.markers ∧
      ∀ table ∈ after.statement.tables.toList,
        table ∈ before.statement.tables.toList ∨ after.statement.NamesTable table.name
  fails _ := True
  refl _ := ⟨List.Subset.refl _, fun _ member => .inl member⟩
  trans first second := by
    refine ⟨List.Subset.trans first.1 second.1, fun table member => ?_⟩
    rcases second.2 table member with isBetween | isNamed
    · exact (first.2 table isBetween).imp id fun isNamed => isNamed.mono second.1
    · exact .inr isNamed

namespace Parse

open Conduct (naming)

/-- The name of a table that is added is marked already. -/
theorem addTable_names
    {name : String}
    {aliasName : Option String}
    {state : ParseState}
    (isNamed : state.statement.NamesTable name) :
    (addTable name aliasName).ObeysFrom naming state := by
  refine ⟨List.Subset.refl _, fun table member => ?_⟩
  change table ∈ (state.statement.tables.add ⟨name, aliasName⟩).toList at member
  unfold Tables.add at member
  split at member
  next => exact .inl member
  next =>
    rcases List.mem_append.mp member with isEarlier | isNew
    · exact .inl isEarlier
    · rw [List.mem_singleton.mp isNew]
      exact .inr isNamed

/-- The tables that a statement names are marked, if it adds no row. -/
theorem statementOf_names
    {kind : StatementKind}
    (noRow : kind ≠ .insert)
    (parameterCount : Nat) :
    (statementOf kind parameterCount).Obeys naming := by
  have allows : naming.AllowsExtension := by
    refine ⟨fun _ => trivial, fun _ kept => ⟨kept.markers, fun table member => .inl ?_⟩⟩
    exact kept.tables ▸ member
  have admits := allows.admits fun _ _ _ isNamed => addTable_names isNamed
  have admitsWhere := allows.admitsWhere admits
    (addCondition_obeys fun _ _ => ⟨List.Subset.refl _, fun _ member => .inl member⟩)
  exact allows.statementOf_obeys admits (whereClause_obeys admitsWhere) noRow parameterCount

end Parse

namespace Statement

/-- Whether the names of all tables of a statement are marked. -/
def NamesTables (statement : Statement) : Prop :=
  ∀ table ∈ statement.tables.toList, statement.NamesTable table.name

theorem namesTables_of_reading
    (reading : InsertReading)
    (rule : Rule) :
    (reading.statement rule).NamesTables := by
  intro table member
  rw [List.mem_singleton.mp member]
  exact ⟨_, _, List.mem_cons_self, rfl⟩

/-- Noting or adding the key of a row leaves its table and what is marked. -/
theorem namesTables_of_leavesKey
    {before after : ParseState}
    {table : String}
    {listStop : Option Nat}
    {row : Parse.InsertRow}
    {parameterCount : Nat}
    (keyed : Parse.LeavesKey table listStop row parameterCount before after)
    (named : before.statement.NamesTables) :
    after.statement.NamesTables := by
  cases keyed with
  | unkeyed => exact named
  | placeless => exact named
  | given => exact named
  | added _ _ _ _ isAdded =>
      have keeps : ∀ first second : Marker,
          before.statement.markers ⊆ before.statement.markers ++ [first] ++ [second] := fun _ _ =>
        List.Subset.trans (List.subset_append_left _ _) (List.subset_append_left _ _)
      rcases Parse.keyAddition_eq_ok isAdded with ⟨-, rfl, rfl⟩ | ⟨-, key, keys, -, rfl, rfl⟩
      · exact fun table member => (named table member).mono (keeps _ _)
      · exact fun table member => (named table member).mono (keeps _ _)

/-- The names of the tables of a parsed statement are marked. -/
theorem namesTables_of_parse
    {dialect : Dialect}
    {rule : Rule}
    {keys : Keys}
    {sql : String}
    {parameterCount : Nat}
    {statement : Statement}
    (parsed : (Statement.parse dialect rule keys sql parameterCount).1 = .ok statement) :
    statement.NamesTables := by
  obtain ⟨kind, front, last, led, read, rfl, -⟩ := exists_statementOf parsed
  obtain ⟨-, -, isFront⟩ := Parse.leading_eq_ok led
  have fresh : front.statement = { kind := kind } := congrArg ParseState.statement isFront
  by_cases isInsert : kind = .insert
  · subst isInsert
    obtain ⟨reading, -, keyed⟩ := Parse.insertStatement_eq_ok fresh read
    exact namesTables_of_leavesKey keyed (namesTables_of_reading reading front.rule)
  · have names := (Parse.statementOf_names isInsert parameterCount).relates read
    intro table member
    refine (names.2 table member).resolve_left fun isEarlier => ?_
    rw [fresh] at isEarlier
    cases isEarlier

end Statement

end ShardedSql
