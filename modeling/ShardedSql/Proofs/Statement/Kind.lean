import ShardedSql.Proofs.Parser.Extending

/-!
# The kind of a statement

A statement has the kind of the keyword that leads it, whatever is read behind this keyword.  A
statement that adds a row names one table and sets the columns of the row equal to its values.
-/

namespace ShardedSql

/-- Leaving the kind of the statement as it is. -/
def Conduct.keepingKind : Conduct where
  relates before after := after.statement.kind = before.statement.kind
  fails _ := True
  refl _ := rfl
  trans first second := second.trans first

/-- A statement that adds no row has the kind that it begins with. -/
theorem Parse.statementOf_keepsKind
    {kind : StatementKind}
    (noRow : kind ≠ .insert)
    (parameterCount : Nat) :
    (statementOf kind parameterCount).Obeys Conduct.keepingKind := by
  have allows : Conduct.keepingKind.AllowsExtension := ⟨fun _ => trivial, fun _ kept => kept.kind⟩
  have admits := allows.admits fun _ _ _ _ => rfl
  have admitsWhere := allows.admitsWhere admits (addCondition_obeys fun _ _ => rfl)
  exact allows.statementOf_obeys admits (whereClause_obeys admitsWhere) noRow parameterCount

namespace Statement

/-- Whether a statement names one table, and all its conditions are equations. -/
structure PlacesRow (statement : Statement) : Prop where
  names : ∃ table, statement.tables.names = [table]
  equations : ∀ condition ∈ statement.conditions.toList, condition.operator = .equal

section Rows

variable {before after : ParseState} {reading : InsertReading} {parameterCount : Nat}

theorem rowConditions_equations
    {rule : Rule}
    {conditions : Conditions}
    {columns : List Column}
    {values : List Expression}
    (equations : ∀ condition ∈ conditions.toList, condition.operator = .equal) :
    ∀ condition ∈ (Parse.rowConditions rule conditions columns values).toList,
      condition.operator = .equal := by
  intro condition member
  rcases Parse.mem_rowConditions member with ⟨_, _, _, rfl⟩ | isEarlier
  · rfl
  · exact equations condition isEarlier

theorem placesRow_of_reading (rule : Rule) : (reading.statement rule).PlacesRow :=
  ⟨⟨_, rfl⟩, rowConditions_equations nofun⟩

/-- Noting or adding the key of a row leaves its table, and adds at most an equation. -/
theorem placesRow_of_leavesKey
    {table : String}
    {listStop : Option Nat}
    {row : Parse.InsertRow}
    (keyed : Parse.LeavesKey table listStop row parameterCount before after)
    (placesRow : before.statement.PlacesRow) :
    after.statement.kind = before.statement.kind ∧ after.statement.PlacesRow := by
  cases keyed with
  | unkeyed => exact ⟨rfl, placesRow⟩
  | placeless => exact ⟨rfl, placesRow⟩
  | given => exact ⟨rfl, placesRow.names, placesRow.equations⟩
  | added _ _ _ _ isAdded =>
      rcases Parse.keyAddition_eq_ok isAdded with ⟨-, rfl, rfl⟩ | ⟨-, key, keys, -, rfl, rfl⟩
      · exact ⟨rfl, placesRow.names, rowConditions_equations placesRow.equations⟩
      · exact ⟨rfl, placesRow.names, rowConditions_equations placesRow.equations⟩

end Rows

variable {dialect : Dialect} {rule : Rule} {keys : Keys} {sql : String} {parameterCount : Nat}
variable {statement : Statement}

/-- The kind of a parsed statement is that of its leading keyword, and a statement that adds a row
places it by equations. -/
theorem exists_leading_of_parse
    (parsed : (Statement.parse dialect rule keys sql parameterCount).1 = .ok statement) :
    ∃ kind front,
      Parse.leading.outcome (ParseState.start dialect rule keys sql { kind := .select }) =
        (.ok kind, front) ∧
      statement.kind = kind ∧ (kind = .insert → statement.PlacesRow) := by
  obtain ⟨kind, front, last, led, read, rfl, -⟩ := exists_statementOf parsed
  obtain ⟨-, -, isFront⟩ := Parse.leading_eq_ok led
  have fresh : front.statement = { kind := kind } := congrArg ParseState.statement isFront
  refine ⟨kind, front, led, ?_⟩
  by_cases isInsert : kind = .insert
  · subst isInsert
    obtain ⟨reading, -, keyed⟩ := Parse.insertStatement_eq_ok fresh read
    obtain ⟨sameKind, placesRow⟩ := placesRow_of_leavesKey keyed (placesRow_of_reading front.rule)
    exact ⟨sameKind, fun _ => placesRow⟩
  · refine ⟨?_, fun other => absurd other isInsert⟩
    have kept : last.statement.kind = front.statement.kind :=
      (Parse.statementOf_keepsKind isInsert parameterCount).relates read
    rw [kept, fresh]

theorem placesRow_of_parse
    (parsed : (Statement.parse dialect rule keys sql parameterCount).1 = .ok statement)
    (isInsert : statement.kind = .insert) :
    statement.PlacesRow := by
  obtain ⟨kind, _, _, sameKind, placesRow⟩ := exists_leading_of_parse parsed
  exact placesRow (sameKind.symm.trans isInsert)

end Statement

end ShardedSql
