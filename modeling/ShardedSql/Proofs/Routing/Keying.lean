import ShardedSql.Proofs.Rendering.Splicing
import ShardedSql.Proofs.Routing.Placement
import ShardedSql.Proofs.Statement.Binding
import ShardedSql.Routing.Router

/-!
# Generated keys

An INSERT that leaves out the key column of its table gets a key.  The same key is reported, is bound or
written in the text, and decides where the row is stored.
-/

namespace ShardedSql

/-- Whether a text is an INSERT with a column list and a row in parentheses, and its table has a key column
that is not in the list. -/
structure InsertReading.IsKeyless
    (router : Router)
    (keys : Keys)
    (sql : String)
    (reading : InsertReading)
    (listEnd rowEnd : Cursor)
    (name : String) : Prop where
  isRead : ∃ front : ParseState,
    Parse.leading.outcome (ParseState.start router.dialect router.rule keys sql { kind := .select }) =
      (.ok .insert, front) ∧ reading.IsRead front.cursor
  isList : reading.listClosing = some listEnd
  isRow : reading.row.closing = some rowEnd
  isKey : router.rule.keyColumn? reading.table = some name
  isAbsent : ∀ listed ∈ reading.listed, Text.sameName listed name = false

namespace InsertReading

variable {router : Router} {keys left : Keys} {sql : String} {parameterCount : Nat}
variable {reading : InsertReading} {listEnd rowEnd : Cursor} {name : String}

/-- What stands for the key in the row, in the conditions and in the statement: a placeholder where
parameters are bound, and otherwise a key that is taken by the parse. -/
inductive AddsKey
    (router : Router)
    (keys : Keys)
    (table : String)
    (index : Nat) : Nat → Parse.KeyAddition → Keys → Prop where
  | bound
      {parameterCount : Nat}
      (isBound : 0 < parameterCount) :
      AddsKey router keys table index parameterCount ⟨"?", .placeholder index, .deferred index⟩ keys
  | literal
      {key : Int64}
      {left : Keys}
      (isTaken : keys.generate router.rule table = .ok (key, left)) :
      AddsKey router keys table index 0
        ⟨toString key.toInt, .number (.integer key), .literal key⟩ left

/-- The statement with a key in its row. -/
def keyedStatement
    (reading : InsertReading)
    (rule : Rule)
    (listEnd rowEnd : Cursor)
    (name : String)
    (addition : Parse.KeyAddition) : Statement :=
  Parse.withKey (reading.statement rule) rule ⟨name, reading.table⟩ listEnd.current.start
    rowEnd.current.start addition

theorem IsKeyless.assigned_eq_nil
    (keyless : reading.IsKeyless router keys sql listEnd rowEnd name) :
    reading.row.assigned = [] := by
  obtain ⟨front, -, isRead⟩ := keyless.isRead
  have isRow := isRead.row
  have isClosed := keyless.isRow
  generalize reading.row = row at isRow isClosed
  cases isRow with
  | values => rfl
  | assignments => cases isClosed

/-- A text without its key is parsed to a statement with one. -/
theorem IsKeyless.exists_addition
    (keyless : reading.IsKeyless router keys sql listEnd rowEnd name)
    {statement : Statement}
    (parsed : Statement.parse router.dialect router.rule keys sql parameterCount =
      (.ok statement, left)) :
    ∃ addition, AddsKey router keys reading.table rowEnd.placeholders parameterCount addition left ∧
      statement = reading.keyedStatement router.rule listEnd rowEnd name addition := by
  obtain ⟨front, led, isRead⟩ := keyless.isRead
  obtain ⟨kind, start, last, starts, read, rfl, isLeft⟩ :=
    Statement.exists_statementOf (congrArg Prod.fst parsed)
  rw [parsed] at isLeft
  have isKeys : last.keys = left := isLeft
  rw [led] at starts
  cases starts
  obtain ⟨-, -, isFront⟩ := Parse.leading_eq_ok led
  have isRule : front.rule = router.rule := congrArg ParseState.rule isFront
  have sameKeys : front.keys = keys := congrArg ParseState.keys isFront
  obtain ⟨found, isFound, keyed⟩ :=
    Parse.insertStatement_eq_ok (congrArg ParseState.statement isFront) read
  obtain rfl := isRead.unique isFound keyless.isRow
  have isAbsent : (reading.columns.findIdx? fun column => Text.sameName column.name name) = none := by
    rw [List.findIdx?_eq_none_iff, InsertReading.columns, keyless.assigned_eq_nil, List.append_nil]
    intro column isColumn
    obtain ⟨listed, isListed, rfl⟩ := List.mem_map.mp isColumn
    exact keyless.isAbsent listed isListed
  have isPlace : reading.listStop = some listEnd.current.start := by
    rw [InsertReading.listStop, keyless.isList]
    rfl
  have isEnd : reading.insertRow.place = some (rowEnd.current.start, rowEnd.placeholders) := by
    rw [InsertReading.insertRow, keyless.isRow]
    rfl
  cases keyed with
  | unkeyed noKey =>
      rw [isRule, keyless.isKey] at noKey
      cases noKey
  | given isKey isListed =>
      rw [isRule, keyless.isKey] at isKey
      cases isKey
      cases isAbsent.symm.trans isListed
  | placeless _ _ noPlace =>
      rcases noPlace with noList | noRow
      · cases isPlace.symm.trans noList
      · cases isEnd.symm.trans noRow
  | @added found place valuesStop placeholders addition between isKey _ isList isRow isAdded =>
      rw [isRule, keyless.isKey] at isKey
      cases isKey
      cases isPlace.symm.trans isList
      cases isEnd.symm.trans isRow
      rcases Parse.keyAddition_eq_ok isAdded with ⟨isBound, rfl, rfl⟩ |
        ⟨rfl, key, following, isTaken, rfl, rfl⟩
      · refine ⟨_, ?_, by rw [← isRule]; rfl⟩
        rw [← isKeys, sameKeys]
        exact .bound isBound
      · refine ⟨_, ?_, by rw [← isRule]; rfl⟩
        rw [← isKeys]
        apply AddsKey.literal
        rw [← sameKeys, ← isRule]
        exact isTaken

section Filling

variable {parameters : List Value} {addition : Parse.KeyAddition} {keyed : Router.KeyedParameters}

/-- The key of a statement is taken once: by the parse, or when the parameters are filled in. -/
theorem AddsKey.fillKey_eq_ok
    {index : Nat}
    (adds : AddsKey router keys reading.table index parameters.length addition left)
    (filled : router.fillKey left (reading.keyedStatement router.rule listEnd rowEnd name addition)
      parameters = .ok keyed) :
    ∃ key following, keys.generate router.rule reading.table = .ok (key, following) ∧
      keyed = ⟨withKeyValue parameters index key, [key], following⟩ ∧
      addition.text = (if parameters = [] then toString key.toInt else "?") ∧
      addition.expression.value keyed.parameters = .ok (.integer key) := by
  have sameTable :
      (reading.keyedStatement router.rule listEnd rowEnd name addition).tables.singleName? =
        some reading.table := rfl
  unfold Router.fillKey at filled
  rw [sameTable] at filled
  generalize isCount : parameters.length = parameterCount at adds
  cases adds with
  | bound isBound =>
      have notEmpty : parameters ≠ [] := List.ne_nil_of_length_pos (isCount ▸ isBound)
      change (if parameters.length < index then _ else _) = _ at filled
      split at filled
      next => cases filled
      next inside =>
        obtain ⟨⟨key, following⟩, isTaken, isKeyed⟩ := Success.bind_eq_ok.mp filled
        cases isKeyed
        refine ⟨key, following, isTaken, ?_, (if_neg notEmpty).symm, ?_⟩
        · rw [withKeyValue, if_neg notEmpty]
        · simp [Expression.value, List.getElem?_insertIdx_self, Nat.le_of_not_lt inside]
  | literal isTaken =>
      have isEmpty : parameters = [] := List.eq_nil_of_length_eq_zero isCount
      cases filled
      refine ⟨_, _, isTaken, ?_, (if_pos isEmpty).symm, rfl⟩
      rw [withKeyValue, if_pos isEmpty, isEmpty]

end Filling

section Routing

variable {parameters : List Value} {addition : Parse.KeyAddition} {key : Int64} {hint : Hint}

/-- What the statement knows of its key column is the key, wherever a strategy may choose by it. -/
theorem knows_key
    {column : String}
    (isSharding : router.rule.isShardingColumn ⟨name, reading.table⟩ = true)
    (sameColumn : Text.sameName name column = true)
    (isValue : addition.expression.isValue = true)
    (hasValue : addition.expression.value parameters = .ok (.integer key)) :
    RoutingRequest.Knows
      ⟨router.rule, parameters, reading.keyedStatement router.rule listEnd rowEnd name addition, hint⟩
      reading.table column ⟨reading.table, name, .single (.integer key)⟩ := by
  have added : (reading.keyedStatement router.rule listEnd rowEnd name addition).conditions =
      (reading.statement router.rule).conditions.add
        ⟨⟨name, reading.table⟩, .equal, [addition.expression]⟩ := by
    change (if addition.expression.isValue && router.rule.isShardingColumn ⟨name, reading.table⟩ then
      _ else _) = _
    rw [isValue, isSharding]
    rfl
  refine ⟨⟨⟨name, reading.table⟩, .equal, [addition.expression]⟩, ?_, ?_⟩
  · change (reading.keyedStatement router.rule listEnd rowEnd name addition).conditions.find?
      ⟨column, reading.table⟩ = _
    rw [added, Conditions.find?_add, if_pos]
    simp [Column.same, sameColumn, Text.sameName_refl]
  · simp [Condition.shardingValue, hasValue, ValueChoice.ofOperands?, bind, Except.bind, pure,
      Except.pure]

end Routing

end InsertReading

/-- A column that a strategy of a table chooses by is a sharding column. -/
theorem Rule.isShardingColumn_of_mem
    {rule : Rule}
    {table : String}
    {tableRule : TableRule}
    (isRule : rule.findTable? table = some tableRule)
    {strategy : Strategy}
    (isStrategy : strategy ∈ [rule.databaseStrategyOf tableRule, rule.tableStrategyOf tableRule])
    {name column : String}
    (isColumn : column ∈ strategy.columns)
    (sameColumn : Text.sameName name column = true) :
    rule.isShardingColumn ⟨name, table⟩ = true := by
  have isThere := List.mem_of_find?_eq_some isRule
  have isFor := List.find?_some isRule
  have holds : strategy.containsColumn name = true := by
    simp only [Strategy.containsColumn, Text.holdsName, List.any_eq_true]
    exact ⟨column, isColumn, by rwa [Text.sameName_comm]⟩
  have chooses : ∀ own common : Option Strategy, strategy = own.getD (common.getD Strategy.none) →
      Rule.choosesBy own name = true ∨ Rule.choosesBy common name = true := by
    intro own common isChosen
    subst isChosen
    cases own with
    | some present => exact .inl holds
    | none =>
        cases common with
        | some present => exact .inr holds
        | none =>
            rw [Option.getD_none, Option.getD_none, Strategy.columns_none] at isColumn
            cases isColumn
  have ofTable : ∀ own ∈ [tableRule.databaseStrategy, tableRule.tableStrategy],
      Rule.choosesBy own name = true → rule.isShardingColumn ⟨name, table⟩ = true := by
    intro own isOwn chosen
    have isAmong : tableRule ∈ rule.tables.filter fun tableRule => tableRule.isFor table :=
      List.mem_filter.mpr ⟨isThere, isFor⟩
    rw [Rule.isShardingColumn, Bool.or_eq_true]
    apply Or.inr
    rw [List.any_eq_true]
    refine ⟨tableRule, isAmong, ?_⟩
    rcases List.mem_pair.mp isOwn with rfl | rfl
    · rw [chosen, Bool.true_or]
    · rw [chosen, Bool.or_true]
  rcases List.mem_pair.mp isStrategy with isDatabase | isTable
  · rcases chooses _ _ isDatabase with isOwn | isCommon
    · exact ofTable _ List.mem_cons_self isOwn
    · simp [Rule.isShardingColumn, isCommon]
  · rcases chooses _ _ isTable with isOwn | isCommon
    · exact ofTable _ (List.mem_cons_of_mem _ List.mem_cons_self) isOwn
    · simp [Rule.isShardingColumn, isCommon]

end ShardedSql
