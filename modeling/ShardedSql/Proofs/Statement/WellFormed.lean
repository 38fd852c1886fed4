import ShardedSql.Proofs.Parser.Extending
import ShardedSql.Proofs.Statement.LatestConditions

/-!
# Conditions are well formed

A condition comes from a comparison of a WHERE clause, from a value of a row, or from a key that is made for
a row.  Each of them adds a well-formed condition: it is on a sharding column of one of the tables, and its
operands are as many as its operator takes and have values of their own.  Hence a condition has values under
all parameters that bind its placeholders.
-/

namespace ShardedSql

section Operands

variable {parameters : List Value}

/-- An operand with a value of its own, once the parameters are bound. -/
inductive Expression.IsOperand : Expression → Prop where
  | placeholder (index : Nat) : IsOperand (.placeholder index)
  | text (content : String) : IsOperand (.text content)
  | number (value : Value) : IsOperand (.number value)

theorem Expression.isOperand_of_isValue
    {expression : Expression}
    (isValue : expression.isValue = true) :
    expression.IsOperand := by
  cases expression with
  | placeholder index => exact .placeholder index
  | text content => exact .text content
  | number value => exact .number value
  | _ => cases isValue

theorem Expression.bound_of_value
    {index : Nat}
    {value : Value}
    (known : (placeholder index).value parameters = .ok value) :
    index < parameters.length := by
  unfold Expression.value at known
  dsimp only at known
  split at known
  next found => exact (List.getElem?_eq_some_iff.mp found).1
  next => cases known

/-- An operand has no value only if it is a placeholder that is not bound. -/
theorem Expression.IsOperand.unbound_of_error
    {operand : Expression}
    (isOperand : operand.IsOperand)
    {error : Error}
    (failed : operand.value parameters = .error error) :
    ∃ index, operand = .placeholder index ∧ parameters.length ≤ index ∧
      error = .parameterOutOfRange index parameters.length := by
  cases isOperand with
  | placeholder index =>
      unfold Expression.value at failed
      dsimp only at failed
      split at failed
      next => cases failed
      next unbound =>
        cases failed
        exact ⟨index, rfl, List.getElem?_eq_none_iff.mp unbound, rfl⟩
  | text => cases failed
  | number => cases failed

/-- Whether an operator takes a number of operands. -/
def ConditionOperator.Takes
    (count : Nat) : ConditionOperator → Prop
  | .equal => count = 1
  | .among => 1 ≤ count
  | .between => count = 2

theorem ValueChoice.exists_of_takes
    {operator : ConditionOperator}
    {values : List Value}
    (takes : operator.Takes values.length) :
    ∃ choice, ofOperands? operator values = some choice := by
  cases operator with
  | equal =>
      obtain ⟨value, rfl⟩ := List.length_eq_one_iff.mp takes
      exact ⟨_, rfl⟩
  | among =>
      obtain ⟨value, others, rfl⟩ := List.exists_cons_of_length_pos takes
      exact ⟨_, rfl⟩
  | between =>
      obtain ⟨lower, upper, rfl⟩ := List.length_eq_two.mp takes
      exact ⟨_, rfl⟩

end Operands

namespace Condition

/-- Whether a condition is on a sharding column of one of some tables, and its operands are as many as its
operator takes and have values of their own. -/
structure IsWellFormed
    (rule : Rule)
    (tables : Tables)
    (condition : Condition) : Prop where
  table : ∃ table ∈ tables.toList, condition.column.table = table.name
  sharding : rule.isShardingColumn condition.column = true
  operands : ∀ operand ∈ condition.operands, operand.IsOperand
  arity : condition.operator.Takes condition.operands.length

variable {rule : Rule} {tables later : Tables} {condition : Condition} {parameters : List Value}

theorem IsWellFormed.mono
    (isWellFormed : condition.IsWellFormed rule tables)
    (keeps : tables.toList ⊆ later.toList) :
    condition.IsWellFormed rule later := by
  obtain ⟨table, member, isTable⟩ := isWellFormed.table
  exact { isWellFormed with table := ⟨table, keeps member, isTable⟩ }

/-- The parameters of a condition with known values bind its placeholders. -/
theorem bound_of_shardingValue
    {value : ShardingValue}
    (known : condition.shardingValue parameters = .ok value)
    {index : Nat}
    (member : .placeholder index ∈ condition.operands) :
    index < parameters.length := by
  obtain ⟨values, valued, -⟩ := Success.bind_eq_ok.mp known
  obtain ⟨only, -, isOnly⟩ := Success.exists_output_of_mem valued member
  exact Expression.bound_of_value isOnly

/-- The values of a well-formed condition are unknown only if one of its placeholders is not bound. -/
theorem IsWellFormed.unbound_of_error
    (isWellFormed : condition.IsWellFormed rule tables)
    {error : Error}
    (failed : condition.shardingValue parameters = .error error) :
    ∃ index, .placeholder index ∈ condition.operands ∧ parameters.length ≤ index ∧
      error = .parameterOutOfRange index parameters.length := by
  cases valued : condition.operands.mapM fun operand => operand.value parameters with
  | error other =>
      obtain rfl : other = error := by
        unfold shardingValue at failed
        rw [valued] at failed
        exact Except.error.inj failed
      obtain ⟨operand, member, fails⟩ := Success.exists_failure_of_mapM valued
      obtain ⟨index, rfl, unbound, isError⟩ :=
        (isWellFormed.operands operand member).unbound_of_error fails
      exact ⟨index, member, unbound, isError⟩
  | ok values =>
      have sameLength := (Success.mapM_eq_ok.mp valued).length_eq
      obtain ⟨choice, made⟩ := ValueChoice.exists_of_takes (sameLength ▸ isWellFormed.arity)
      have known : condition.shardingValue parameters =
          .ok ⟨condition.column.table, condition.column.name, choice⟩ :=
        Success.bind_eq_ok.mpr ⟨values, valued, by rw [made]⟩
      cases known.symm.trans failed

theorem IsWellFormed.exists_shardingValue_iff
    (isWellFormed : condition.IsWellFormed rule tables) :
    (∃ value, condition.shardingValue parameters = .ok value) ↔
      ∀ index, .placeholder index ∈ condition.operands → index < parameters.length := by
  constructor
  · rintro ⟨value, known⟩ index member
    exact bound_of_shardingValue known member
  · intro bound
    cases ran : condition.shardingValue parameters with
    | ok value => exact ⟨value, rfl⟩
    | error error =>
        obtain ⟨index, member, unbound, -⟩ := isWellFormed.unbound_of_error ran
        exact absurd (bound index member) (Nat.not_lt.mpr unbound)

end Condition

theorem Tables.mem_of_find?
    {tables : Tables}
    {name : String}
    {table : Table}
    (found : tables.find? name = some table) :
    table ∈ tables.toList := by
  rcases Option.or_eq_some_iff.mp found with byName | ⟨-, byAlias⟩
  · exact List.mem_of_find?_eq_some byName
  · exact List.mem_of_find?_eq_some byAlias

theorem Tables.subset_add
    (tables : Tables)
    (table : Table) :
    tables.toList ⊆ (tables.add table).toList := by
  unfold Tables.add
  split
  · exact List.Subset.refl _
  · exact List.subset_append_left _ _

/-- A column that an expression names is one of a table that is there. -/
theorem Parse.exists_table_of_columnOf?
    {tables : Tables}
    {expression : Expression}
    {column : Column}
    (named : columnOf? tables expression = some column) :
    ∃ table ∈ tables.toList, column.table = table.name := by
  cases expression with
  | property owner name =>
      obtain ⟨table, found, rfl⟩ := Option.map_eq_some_iff.mp named
      exact ⟨table, Tables.mem_of_find? found, rfl⟩
  | identifier name =>
      obtain ⟨table, isOnly, rfl⟩ := Option.map_eq_some_iff.mp named
      unfold Tables.singleName? at isOnly
      split at isOnly
      next only single =>
        cases isOnly
        exact ⟨only, single ▸ List.mem_singleton_self only, rfl⟩
      next => cases isOnly
  | _ => cases named

section Clauses

variable {rule : Rule} {condition : Condition}

theorem Place.Compares.takes
    {place : Place}
    {comparison : Comparison}
    (compares : place.Compares comparison)
    (some : comparison.starts ≠ []) :
    comparison.operator.Takes comparison.starts.length := by
  cases compares with
  | equal => rfl
  | among => exact List.length_pos_of_ne_nil some
  | between => rfl

/-- A comparison that a clause meets states a well-formed condition, if it states any. -/
theorem Encounter.isWellFormed
    {encounter : Encounter}
    (compares : encounter.place.Compares encounter.comparison)
    (states : encounter.condition? rule = some condition) :
    condition.IsWellFormed rule encounter.tables := by
  unfold condition? Comparison.condition? at states
  split at states
  next valued =>
    obtain ⟨column, isColumn, rfl⟩ := Option.map_eq_some_iff.mp states
    obtain ⟨named, isSharding⟩ := Option.filter_eq_some_iff.mp isColumn
    refine ⟨Parse.exists_table_of_columnOf? named, isSharding, ?_, ?_⟩
    · intro operand member
      obtain ⟨start, isStart, rfl⟩ := List.mem_map.mp member
      exact Expression.isOperand_of_isValue (List.all_eq_true.mp valued.2 start isStart)
    · rw [Comparison.operands, List.length_map]
      exact compares.takes valued.1
  next => cases states

/-- The conditions of the clause ahead are well formed for the tables that are known in front of it. -/
theorem ParseState.isWellFormed_of_clauseAhead
    {state : ParseState}
    (member : condition ∈ ClauseStart.conditions rule state.clauseAhead) :
    condition.IsWellFormed rule state.statement.tables := by
  obtain ⟨encounter, isEncounter, states⟩ := List.mem_filterMap.mp member
  obtain ⟨start, isStart, met⟩ := List.mem_flatMap.mp isEncounter
  have isTables : start.tables = state.statement.tables := by
    unfold clauseAhead at isStart
    split at isStart
    · rw [List.mem_singleton.mp isStart]
    · cases isStart
  obtain ⟨-, compares⟩ := Place.isFound_of_mem_encounters met
  obtain ⟨predicate, -, isPredicate⟩ := List.mem_filterMap.mp met
  obtain ⟨comparison, -, rfl⟩ := Option.map_eq_some_iff.mp isPredicate
  exact isTables ▸ Encounter.isWellFormed compares states

end Clauses

namespace Parse

variable {rule : Rule} {tables : Tables} {columns : List Column} {values : List Expression}

theorem isWellFormed_of_mem_rowEquations
    (listed : ∀ column ∈ columns, ∃ table ∈ tables.toList, column.table = table.name)
    {condition : Condition}
    (member : condition ∈ rowEquations rule columns values) :
    condition.IsWellFormed rule tables := by
  obtain ⟨⟨column, value⟩, isPair, rfl⟩ := List.mem_map.mp member
  obtain ⟨isZipped, both⟩ := List.mem_filter.mp isPair
  obtain ⟨isValue, isSharding⟩ := Bool.and_eq_true_iff.mp both
  refine ⟨listed column (List.of_mem_zip isZipped).1, isSharding, ?_, rfl⟩
  rw [List.forall_mem_singleton]
  exact Expression.isOperand_of_isValue isValue

end Parse

/-- Whether the conditions of a statement are on different columns, and all of them are well formed. -/
structure Statement.IsFormed
    (rule : Rule)
    (statement : Statement) : Prop where
  apart : Conditions.AreApart statement.conditions.toList
  wellFormed : ∀ condition ∈ statement.conditions.toList,
    condition.IsWellFormed rule statement.tables

namespace Statement.IsFormed

variable {rule : Rule} {before after : Statement}

/-- Tables may be added, and well-formed conditions. -/
theorem withAdded
    (isFormed : before.IsFormed rule)
    (keeps : before.tables.toList ⊆ after.tables.toList)
    {added : List Condition}
    (wellFormed : ∀ condition ∈ added, condition.IsWellFormed rule after.tables)
    (isAdded : after.conditions = added.foldl Conditions.add before.conditions) :
    after.IsFormed rule := by
  constructor
  · rw [isAdded]
    exact Conditions.areApart_foldl_add isFormed.apart added
  · intro condition member
    rw [isAdded] at member
    rcases Conditions.mem_foldl_add member with isNew | isEarlier
    · exact wellFormed condition isNew
    · exact (isFormed.wellFormed condition isEarlier).mono keeps

theorem mono
    (isFormed : before.IsFormed rule)
    (keeps : before.tables.toList ⊆ after.tables.toList)
    (sameConditions : after.conditions = before.conditions) :
    after.IsFormed rule :=
  isFormed.withAdded keeps (List.forall_mem_nil _) sameConditions

end Statement.IsFormed

/-- Keeping the conditions of the statement well formed. -/
def Conduct.forming : Conduct where
  relates before after :=
    after.rule = before.rule ∧
      (before.statement.IsFormed before.rule → after.statement.IsFormed before.rule)
  fails _ := True
  refl _ := ⟨rfl, id⟩
  trans := by
    rintro before between after ⟨sameRule, forms⟩ ⟨sameRuleLater, formsLater⟩
    rw [sameRule] at sameRuleLater formsLater
    exact ⟨sameRuleLater, formsLater ∘ forms⟩

namespace Parse

open Conduct (forming)

theorem addTable_forms
    (name : String)
    (aliasName : Option String) :
    (addTable name aliasName).Obeys forming :=
  fun _ => ⟨rfl, fun isFormed => isFormed.mono (Tables.subset_add _ _) rfl⟩

theorem forming_allowsExtension : forming.AllowsExtension where
  fails _ := trivial
  relates sameRule kept :=
    ⟨sameRule, fun isFormed => isFormed.mono (kept.tables ▸ List.Subset.refl _) kept.conditions⟩

/-- A WHERE clause adds well-formed conditions. -/
theorem whereClause_forms : whereClause.Obeys forming := by
  apply obeys_of_ok forming_allowsExtension.isLenient
  intro before after _ ran
  obtain ⟨-, sameRule, -, added⟩ := whereClause_adds ran
  have sameTables := whereClause_tables ran
  refine ⟨sameRule, fun isFormed => isFormed.withAdded ?_ (fun condition member => ?_) added⟩
  · exact sameTables ▸ List.Subset.refl _
  · exact sameTables ▸ before.isWellFormed_of_clauseAhead member

theorem statementOf_forms
    {kind : StatementKind}
    (noRow : kind ≠ .insert)
    (parameterCount : Nat) :
    (statementOf kind parameterCount).Obeys forming := by
  have allows := forming_allowsExtension
  have admits := allows.admits fun name aliasName state _ => addTable_forms name aliasName state
  exact allows.statementOf_obeys admits whereClause_forms noRow parameterCount

end Parse

namespace Statement

variable {before after : ParseState} {parameterCount : Nat}

theorem isFormed_of_reading
    (reading : InsertReading)
    (rule : Rule) :
    (reading.statement rule).IsFormed rule := by
  have fresh : IsFormed rule { kind := .insert } := ⟨List.Pairwise.nil, nofun⟩
  have isAdded := Parse.rowConditions_eq rule {} reading.columns reading.values
  refine fresh.withAdded (List.nil_subset _) (fun condition member => ?_) isAdded
  apply Parse.isWellFormed_of_mem_rowEquations _ member
  intro column isColumn
  obtain ⟨name, -, rfl⟩ := List.mem_map.mp isColumn
  exact ⟨⟨reading.table, reading.aliasName⟩, List.mem_singleton_self _, rfl⟩

/-- An added key has a condition of its own, if its column is a sharding column. -/
theorem IsFormed.withKey
    {rule : Rule}
    {statement : Statement}
    (isFormed : statement.IsFormed rule)
    {column : Column}
    (isListed : ∃ table ∈ statement.tables.toList, column.table = table.name)
    (listStop valuesStop : Nat)
    (addition : Parse.KeyAddition) :
    (Parse.withKey statement rule column listStop valuesStop addition).IsFormed rule := by
  have isAdded : (Parse.withKey statement rule column listStop valuesStop addition).conditions =
      (Parse.rowEquations rule [column] [addition.expression]).foldl Conditions.add
        statement.conditions :=
    Parse.rowConditions_eq rule statement.conditions [column] [addition.expression]
  refine isFormed.withAdded (List.Subset.refl _) (fun condition member => ?_) isAdded
  apply Parse.isWellFormed_of_mem_rowEquations _ member
  rw [List.forall_mem_singleton]
  exact isListed

theorem isFormed_of_leavesKey
    {table : String}
    {listStop : Option Nat}
    {row : Parse.InsertRow}
    (keyed : Parse.LeavesKey table listStop row parameterCount before after)
    (isListed : ∃ present ∈ before.statement.tables.toList, table = present.name)
    (isFormed : before.statement.IsFormed before.rule) :
    after.statement.IsFormed before.rule := by
  cases keyed with
  | unkeyed => exact isFormed
  | placeless => exact isFormed
  | given => exact isFormed.mono (List.Subset.refl _) rfl
  | added _ _ _ _ isAdded =>
      rcases Parse.keyAddition_eq_ok isAdded with ⟨-, rfl, rfl⟩ | ⟨-, key, keys, -, rfl, rfl⟩
      · exact isFormed.withKey isListed _ _ _
      · exact isFormed.withKey isListed _ _ _

variable {dialect : Dialect} {rule : Rule} {keys : Keys} {sql : String} {statement : Statement}

/-- The conditions of a parsed statement are on different columns, and all of them are well formed. -/
theorem isFormed_of_parse
    (parsed : (Statement.parse dialect rule keys sql parameterCount).1 = .ok statement) :
    statement.IsFormed rule := by
  obtain ⟨kind, front, last, led, read, rfl, -⟩ := exists_statementOf parsed
  obtain ⟨-, -, isFront⟩ := Parse.leading_eq_ok led
  have fresh : front.statement = { kind := kind } := congrArg ParseState.statement isFront
  have isRule : front.rule = rule := congrArg ParseState.rule isFront
  subst isRule
  by_cases isInsert : kind = .insert
  · subst isInsert
    obtain ⟨reading, -, keyed⟩ := Parse.insertStatement_eq_ok fresh read
    have isFormed := isFormed_of_leavesKey keyed ⟨_, List.mem_singleton_self _, rfl⟩
      (isFormed_of_reading reading front.rule)
    exact isFormed
  · apply ((Parse.statementOf_forms isInsert parameterCount).relates read).2
    rw [fresh]
    exact ⟨List.Pairwise.nil, nofun⟩

/-- **Conditions are well formed.**  The conditions of a parsed statement are on different columns, each of
them a sharding column of one of its tables, and each has as many operands as its operator takes, all of them
placeholders, texts or numbers.  Hence its values are known just under those parameters that bind its
placeholders, and they are never unknown for another reason. -/
theorem conditions_wellFormed_of_parse
    (parsed : (Statement.parse dialect rule keys sql parameterCount).1 = .ok statement) :
    statement.IsFormed rule ∧
      ∀ condition ∈ statement.conditions.toList, ∀ parameters : List Value,
        ((∃ value, condition.shardingValue parameters = .ok value) ↔
          ∀ index, .placeholder index ∈ condition.operands → index < parameters.length) ∧
        ∀ error, condition.shardingValue parameters = .error error →
          ∃ index, .placeholder index ∈ condition.operands ∧ parameters.length ≤ index ∧
            error = .parameterOutOfRange index parameters.length := by
  have isFormed := isFormed_of_parse parsed
  refine ⟨isFormed, fun condition member parameters => ?_⟩
  have isWellFormed := isFormed.wellFormed condition member
  exact ⟨isWellFormed.exists_shardingValue_iff, fun error failed =>
    isWellFormed.unbound_of_error failed⟩

/-- The text of a query that restricts one column twice. -/
def restrictedText : String :=
  "SELECT * FROM t_order WHERE user_id = 1 AND USER_ID IN (?, 'x')"

/-- The later restriction of this query is kept, and its values are known as soon as there is a
parameter. -/
theorem conditions_wellFormed_of_restriction :
    ∃ statement condition,
      (Statement.parse .mysql userRule (Keys.ofRule userRule 0) restrictedText 1).1 = .ok statement ∧
      condition = ⟨⟨"USER_ID", "t_order"⟩, .among, [.placeholder 0, .text "x"]⟩ ∧
      statement.conditions.toList = [condition] ∧
      statement.IsFormed userRule ∧
      (∃ value, condition.shardingValue [.integer 7] = .ok value) ∧
      ∀ error, condition.shardingValue [] = .error error → error = .parameterOutOfRange 0 0 := by
  have recorded :
      (Statement.parse .mysql userRule (Keys.ofRule userRule 0) restrictedText 1).1.toOption.map
        (·.conditions.toList) =
      some [⟨⟨"USER_ID", "t_order"⟩, .among, [.placeholder 0, .text "x"]⟩] := by
    decide +kernel
  obtain ⟨statement, isParsed, conditions⟩ := Option.map_eq_some_iff.mp recorded
  have parsed := Success.toOption_eq_some.mp isParsed
  obtain ⟨isFormed, known⟩ := conditions_wellFormed_of_parse parsed
  have member := conditions ▸ List.mem_singleton_self
    (⟨⟨"USER_ID", "t_order"⟩, .among, [.placeholder 0, .text "x"]⟩ : Condition)
  refine ⟨statement, _, parsed, rfl, conditions, isFormed, ?_, fun error failed => ?_⟩
  · apply (known _ member [.integer 7]).1.mpr
    intro index isOperand
    obtain rfl : index = 0 := by simpa using isOperand
    exact Nat.zero_lt_one
  · obtain ⟨index, isOperand, -, rfl⟩ := (known _ member []).2 error failed
    obtain rfl : index = 0 := by simpa using isOperand
    rfl

end Statement

end ShardedSql
