import ShardedSql.Proofs.Parser.Counting
import ShardedSql.Proofs.Parser.Recording
import ShardedSql.Proofs.Success

/-!
# Placeholders are numbered from the left

The number of a placeholder is its place among all placeholders of the text.  The main statement says so
for the conditions, the row limit and the key of a statement, wherever in the text they were read.
-/

namespace ShardedSql

/-- A rule that places the rows of `t_order` by `user_id` and `order_id`, and generates the latter. -/
def keyedRule : Rule :=
  { dataSources := ["ds_0", "ds_1"]
    defaultDataSource := none
    tables := [
      { logicTable := "t_order"
        isDynamic := false
        nodes := [⟨"ds_0", "t_order_0"⟩, ⟨"ds_0", "t_order_1"⟩, ⟨"ds_1", "t_order_0"⟩,
          ⟨"ds_1", "t_order_1"⟩]
        databaseStrategy := some ⟨["user_id"], .modulo none⟩
        tableStrategy := some ⟨["order_id"], .modulo none⟩
        keyColumn := some "order_id"
        keyGenerator := some (.sequence 1000) }]
    bindingGroups := []
    databaseStrategy := none
    tableStrategy := none
    keyGenerator := none }

/-- Passing tokens without a change of anything but the cursor. -/
def Conduct.passing : Conduct where
  relates before after :=
    before.cursor.Counts after.cursor ∧ after = { before with cursor := after.cursor }
  fails _ := True
  refl _ := ⟨.refl _, rfl⟩
  trans := by
    rintro before between after ⟨counts, same⟩ ⟨countsLater, sameLater⟩
    refine ⟨counts.trans countsLater, ?_⟩
    rw [same] at sameLater
    exact sameLater

namespace Parse

open Conduct (passing)

theorem passing_isLenient : passing.IsLenient where
  fails _ := trivial
  moves counts := ⟨counts, rfl⟩

/-- In front of a statement, tokens are passed and nothing else changes; then the statement begins
anew. -/
theorem leading_eq_ok
    {before after : ParseState}
    {kind : StatementKind}
    (led : leading.outcome before = (.ok kind, after)) :
    before.cursor.Counts after.cursor ∧
      StatementKind.ofToken? after.cursor.current = some kind ∧
      after = { before with cursor := after.cursor, statement := { kind := kind } } := by
  have front : Obeys (do
      repeatStep (skipSign .semi)
      withClause) passing :=
    (obeys_repeatStep (skipSign_obeys (passing_moves passing_isLenient) .semi nofun)).bind fun _ =>
      withClause_obeys (passing_moves passing_isLenient)
  have split : leading =
      (repeatStep (skipSign .semi) >>= fun _ => withClause) >>= fun _ => startKind := by
    rw [bind_assoc]
    rfl
  rw [split, outcome_bind_eq_ok] at led
  obtain ⟨_, between, passed, found⟩ := led
  obtain ⟨counts, same⟩ := front.relates passed
  rw [startKind, outcome_bind_of_ok (outcome_current between)] at found
  split at found
  next => cases found
  next kind isKind =>
    cases found
    refine ⟨counts, isKind, ?_⟩
    rw [same]

end Parse

/-- Passing tokens with each placeholder counted, and adding the conditions of WHERE clauses that stand
among these tokens. -/
def Conduct.numbering : Conduct where
  relates before after :=
    Conduct.counting.relates before after ∧ after.rule = before.rule ∧
      ∃ starts : List ClauseStart,
        (∀ start ∈ starts, start.IsFound before.cursor.tokens ∧
          before.cursor.place.Reaches start.place) ∧
        after.statement.conditions =
          (ClauseStart.conditions before.rule starts).foldl Conditions.add
            before.statement.conditions
  fails _ := True
  refl state := ⟨Conduct.counting.refl state, rfl, [], nofun, rfl⟩
  trans := by
    rintro before between after ⟨counts, ruled, front, found, added⟩
      ⟨countsLater, ruledLater, others, foundLater, addedLater⟩
    refine ⟨Conduct.counting.trans counts countsLater, ruledLater.trans ruled, front ++ others, ?_, ?_⟩
    · intro start member
      rcases List.mem_append.mp member with isFront | isOther
      · exact found start isFront
      · obtain ⟨isFound, reaches⟩ := foundLater start isOther
        exact ⟨isFound.behind counts.1.suffix, counts.1.place.trans reaches⟩
    · rw [addedLater, added, ruled, ClauseStart.conditions_append, List.foldl_append]

namespace Parse

open Conduct (counting numbering readingOver)

variable {α : Type}

/-- A step that counts what it passes, and otherwise reads over it, numbers it. -/
theorem Obeys.numbers
    {step : Parse α}
    (counts : step.Obeys counting)
    (reads : step.Obeys readingOver) :
    step.Obeys numbering := by
  intro before
  have counted := counts before
  have read := reads before
  split at counted
  next ran =>
    rw [ran] at read
    exact ⟨counted, read.2.1, [], nofun, read.2.2⟩
  next => trivial

theorem numbering_isLenient : numbering.IsLenient where
  fails _ := trivial
  moves counts := ⟨counting_isLenient.moves counts, rfl, [], nofun, rfl⟩

theorem note_numbers
    {change : Statement → Statement}
    (isNote : Statement.IsNote change) :
    (modifyStatement change).Obeys numbering :=
  (modifyStatement_counts isNote.limit isNote.generatedKey).numbers
    (modifyStatement_readsOver isNote.conditions)

theorem numbering_admits : numbering.Admits where
  passing := passing_moves numbering_isLenient
  note _ isNote := note_numbers isNote.toIsNote
  noteRowNumber text aliasName :=
    (noteRowNumber_counts text aliasName).numbers (noteRowNumber_readsOver text aliasName)
  aliasName := alias?_moves numbering_isLenient
  expression := expression_counts.numbers expression_readsOver
  tableName := tableName_counts.numbers tableName_readsOver
  addTable _ _ state _ :=
    ((modifyStatement_counts (fun _ => rfl) fun _ => rfl).numbers
      (modifyStatement_readsOver fun _ => rfl)).from state
  itemHead depth := (itemHead_counts depth).numbers (itemHead_readsOver depth)
  skipItem := skipItem_moves numbering_isLenient
  assignmentRest := passMeasured_moves numbering_isLenient _
  skipTop := skipTop_moves numbering_isLenient
  topClause := topClause_counts.numbers topClause_readsOver
  limitClauses := limitClauses_counts.numbers limitClauses_readsOver
  lockClause := lockClause_moves fun reaches =>
    ⟨relates_of_reaches reaches rfl rfl, rfl, [], nofun, rfl⟩

theorem whereClause_numbers : whereClause.Obeys numbering := by
  intro before
  split
  next ran =>
    have counted := (whereClause_obeys counting_admitsWhere).relates ran
    obtain ⟨-, sameRule, found, added⟩ := whereClause_adds ran
    refine ⟨counted, sameRule, before.clauseAhead, fun start isStart => ⟨found start isStart, ?_⟩, added⟩
    unfold ParseState.clauseAhead at isStart
    split at isStart
    next isWhere =>
      rw [List.mem_singleton.mp isStart]
      exact Place.advance_reaches isWhere nofun
    next => cases isStart
  next => trivial

theorem modifyNotes_numbers (change : SelectNotes → SelectNotes) :
    (modifyNotes change).Obeys numbering :=
  fun before => numbering.refl before

theorem markOwners_counts : markOwners.Obeys counting := by
  intro before
  rw [outcome_markOwners]
  exact relates_of_reaches (.refl _) rfl rfl

theorem deriveColumns_counts (listStop : Nat) :
    (modifyStatement fun statement => statement.deriveColumns listStop).Obeys counting := by
  apply modifyStatement_counts
  all_goals
    intro statement
    unfold Statement.deriveColumns
    dsimp only
    split
    · rfl
    · rfl

theorem deriveOrder_counts (groupByStop : Option Nat) :
    (modifyStatement fun statement => statement.deriveOrder groupByStop).Obeys counting := by
  apply modifyStatement_counts
  all_goals
    intro statement
    unfold Statement.deriveOrder
    split
    · rfl
    · dsimp only
      split
      · rfl
      · rfl

theorem finishSelect_counts : finishSelect.Obeys counting := by
  unfold finishSelect
  apply markOwners_counts.bind
  intro _
  apply obeys_get_bind
  intro state
  dsimp only
  split
  next stop _ => exact (deriveColumns_counts stop).bind fun _ => deriveOrder_counts _
  next => exact deriveOrder_counts _

theorem selectStatement_eq :
    selectStatement = (get >>= fun state => query (state.cursor.tokens.length + 1) 0) >>=
      fun _ => finishSelect := by
  rw [selectStatement, bind_assoc]
  rfl

theorem selectStatement_numbers : selectStatement.Obeys numbering := by
  rw [selectStatement_eq]
  have outer : ∀ fuel, (query (fuel + 1) 0).Obeys numbering :=
    outerQuery_obeys numbering_admits whereClause_numbers
      (fun _ change _ => modifyNotes_numbers change) fun _ _ => note_numbers
  apply (obeys_get_bind fun state => outer _).bind
  intro _
  exact finishSelect_counts.numbers finishSelect_readsOver

/-- A statement that adds no row is numbered. -/
theorem statementOf_numbers
    {kind : StatementKind}
    (noRow : kind ≠ .insert)
    (parameterCount : Nat) :
    (statementOf kind parameterCount).Obeys numbering := by
  by_cases isQuery : kind = .select
  · subst isQuery
    exact selectStatement_numbers
  · exact statementOf_obeys numbering_isLenient numbering_admits whereClause_numbers isQuery noRow _

end Parse

/-- The conditions that the values of a row give. -/
def Parse.rowEquations
    (rule : Rule)
    (columns : List Column)
    (values : List Expression) : List Condition :=
  ((columns.zip values).filter fun (column, value) =>
    value.isValue && rule.isShardingColumn column).map fun (column, value) =>
      ⟨column, .equal, [value]⟩

theorem Parse.rowConditions_eq
    (rule : Rule)
    (conditions : Conditions)
    (columns : List Column)
    (values : List Expression) :
    rowConditions rule conditions columns values =
      (rowEquations rule columns values).foldl Conditions.add conditions := by
  rw [rowEquations, List.foldl_map, List.foldl_filter]
  rfl

theorem Parse.mem_rowConditions
    {rule : Rule}
    {conditions : Conditions}
    {columns : List Column}
    {values : List Expression}
    {condition : Condition}
    (member : condition ∈ (rowConditions rule conditions columns values).toList) :
    (∃ column value, (column, value) ∈ columns.zip values ∧
      condition = ⟨column, .equal, [value]⟩) ∨ condition ∈ conditions.toList := by
  rw [rowConditions_eq] at member
  rcases Conditions.mem_foldl_add member with isRow | isEarlier
  · obtain ⟨⟨column, value⟩, isPair, rfl⟩ := List.mem_map.mp isRow
    exact .inl ⟨column, value, (List.mem_filter.mp isPair).1, rfl⟩
  · exact .inr isEarlier

/-- Whether the placeholder with a number among some tokens stands ahead of a place. -/
def Place.IsPlaceholder
    (tokens : List Token)
    (index : Nat)
    (place : Place) : Prop :=
  ∃ front question rest, tokens = front ++ question :: rest ∧ place.tokens = question :: rest ∧
    question.kind = .symbol .question ∧ front.countP Token.isPlaceholder = index

namespace Place

variable {tokens : List Token} {place : Place}

/-- The number of placeholders in front of a place that a parse comes to. -/
theorem exists_front
    (suffix : place.tokens <:+ tokens)
    (total : place.total = Place.total ⟨tokens, 0⟩) :
    ∃ front, tokens = front ++ place.tokens ∧
      front.countP Token.isPlaceholder = place.placeholders := by
  obtain ⟨front, split⟩ := suffix
  have counted : tokens.countP Token.isPlaceholder =
      front.countP Token.isPlaceholder + place.tokens.countP Token.isPlaceholder := by
    rw [← List.countP_append, split]
  simp only [Place.total] at total
  exact ⟨front, split.symm, by omega⟩

theorem isPlaceholder_of_operand
    (countable : AreCountable tokens)
    (reaches : Reaches ⟨tokens, 0⟩ place)
    {index : Nat}
    (isOperand : place.operand.1 = .placeholder index) :
    place.IsPlaceholder tokens index := by
  obtain ⟨isQuestion, isIndex⟩ := ahead_of_operand isOperand
  obtain ⟨front, split, counted⟩ := exists_front reaches.suffix (reaches.total countable)
  obtain ⟨ahead, placeholders⟩ := place
  cases ahead with
  | nil => cases isQuestion
  | cons question rest => exact ⟨front, question, rest, split, rfl, isQuestion, counted.trans isIndex⟩

end Place

/-- Whether a condition is read from a text, with its operands at some places: as a comparison of a WHERE
clause, or as a value of a row. -/
inductive Condition.IsReadAt
    (rule : Rule)
    (tokens : List Token) : Condition → List Place → Prop where
  | compared
      {encounter : Encounter}
      {condition : Condition}
      (isFound : encounter.IsFound tokens)
      (states : encounter.condition? rule = some condition) :
      IsReadAt rule tokens condition encounter.comparison.starts
  | inserted
      {cursor start : Cursor}
      {reading : InsertReading}
      {column : Column}
      (suffix : cursor.tokens <:+ tokens)
      (isRead : reading.IsRead cursor)
      (isValue : (column, start) ∈ reading.columns.zip reading.row.starts) :
      IsReadAt rule tokens ⟨column, .equal, [start.place.operand.1]⟩ [start.place]

theorem Condition.IsReadAt.operands_eq
    {rule : Rule}
    {tokens : List Token}
    {condition : Condition}
    {starts : List Place}
    (isRead : condition.IsReadAt rule tokens starts) :
    condition.operands = starts.map fun start => start.operand.1 := by
  cases isRead with
  | compared isFound states =>
      unfold Encounter.condition? Comparison.condition? at states
      split at states
      · obtain ⟨column, -, rfl⟩ := Option.map_eq_some_iff.mp states
        rfl
      · cases states
  | inserted => rfl

/-- Whether a condition is on the key that is generated for a row. -/
inductive Statement.IsKeyCondition (statement : Statement) : Condition → Prop where
  | deferred
      {name table : String}
      {index : Nat}
      (isKey : statement.generatedKey = some ⟨name, .deferred index⟩) :
      IsKeyCondition statement ⟨⟨name, table⟩, .equal, [.placeholder index]⟩
  | literal
      {name table : String}
      {key : Int64}
      (isKey : statement.generatedKey = some ⟨name, .literal key⟩) :
      IsKeyCondition statement ⟨⟨name, table⟩, .equal, [.number (.integer key)]⟩

/-- Whether the placeholders that a statement keeps have the numbers of their places among some
tokens. -/
structure Statement.IsNumbered
    (rule : Rule)
    (tokens : List Token)
    (statement : Statement) : Prop where
  /-- A condition, unless it is that of a generated key, is read from the text, and a placeholder in it
  is the one that stands where its operand is read. -/
  conditions : ∀ condition ∈ statement.conditions.toList,
    statement.IsKeyCondition condition ∨ ∃ starts, condition.IsReadAt rule tokens starts ∧
      condition.operands = starts.map (fun start => start.operand.1) ∧
      ∀ start ∈ starts, ∀ index, start.operand.1 = .placeholder index →
        start.IsPlaceholder tokens index
  /-- A bound of the row limit is the placeholder with its number, right behind the words or signs that
  lead to such a bound. -/
  limit : ∀ limit isRowCount index, statement.limit = some limit →
    limit.bound? isRowCount = some (.placeholder index) →
    ∃ front lead question rest, tokens = front ++ lead ++ question :: rest ∧
      lead.map Token.kind ∈ TokenKind.boundLeads isRowCount ∧
      question.kind = .symbol .question ∧ (front ++ lead).countP Token.isPlaceholder = index
  /-- A key that the row gives is the placeholder with its number, in the place of the value of the key
  column. -/
  key : ∀ name index, statement.generatedKey = some ⟨name, .placeholder index⟩ →
    ∃ (cursor : Cursor) (reading : InsertReading) (position : Nat) (column : Column) (start : Cursor),
      cursor.tokens <:+ tokens ∧ reading.IsRead cursor ∧
      reading.columns[position]? = some column ∧ Text.sameName column.name name = true ∧
      reading.row.starts[position]? = some start ∧ start.place.IsPlaceholder tokens index
  /-- A key that is still to be generated has the number of placeholders in front of the parenthesis
  that closes the row. -/
  deferred : ∀ name index, statement.generatedKey = some ⟨name, .deferred index⟩ →
    ∃ (cursor : Cursor) (reading : InsertReading) (closing : Cursor) (front : List Token),
      cursor.tokens <:+ tokens ∧ reading.IsRead cursor ∧ reading.row.closing = some closing ∧
      closing.current.kind = .symbol .rightParen ∧
      tokens = front ++ closing.tokens ∧ front.countP Token.isPlaceholder = index

namespace Encounter

/-- The operands of a comparison that a clause meets are read from the place of the clause. -/
theorem reaches_of_mem
    {opened : Nat}
    {place : Place}
    {tables : Tables}
    {encounter : Encounter}
    (member : encounter ∈ (place.clause opened).encounters tables) :
    ∀ start ∈ encounter.comparison.starts, place.Reaches start := by
  obtain ⟨reading, isReading, isEncounter⟩ := List.mem_filterMap.mp member
  obtain ⟨comparison, compared, rfl⟩ := Option.map_eq_some_iff.mp isEncounter
  obtain ⟨left, start, reaches, read⟩ := Place.exists_of_mem_clause isReading
  intro operand isOperand
  exact reaches.trans ((Place.predicate?_reaches read).1 comparison compared operand isOperand)

end Encounter

namespace Place

/-- The placeholder behind the tokens that lead to it. -/
theorem AsksBehind.exists_front
    {tokens : List Token}
    {leads : List (List TokenKind)}
    {index : Nat}
    (countable : AreCountable tokens)
    (asks : AsksBehind leads index ⟨tokens, 0⟩) :
    ∃ front lead question rest, tokens = front ++ lead ++ question :: rest ∧
      lead.map Token.kind ∈ leads ∧ question.kind = .symbol .question ∧
      (front ++ lead).countP Token.isPlaceholder = index := by
  obtain ⟨lead, question, rest, isLead, isQuestion, ⟨front, split⟩, reaches⟩ := asks
  have whole : tokens = (front ++ lead) ++ question :: rest := by
    rw [List.append_assoc]
    exact split.symm
  obtain ⟨passed, isPassed, counted⟩ :=
    Place.exists_front reaches.suffix (reaches.total countable)
  have same : passed = front ++ lead := List.append_cancel_right (isPassed.symm.trans whole)
  rw [same] at counted
  exact ⟨front, lead, question, rest, whole, isLead, isQuestion, counted⟩

end Place

namespace Statement

variable {rule : Rule} {tokens : List Token} {statement : Statement}

/-- A statement of WHERE clauses whose operands are read from the text. -/
theorem isNumbered_of_clauses
    (countable : AreCountable tokens)
    {starts : List ClauseStart}
    (found : ∀ start ∈ starts, start.IsFound tokens ∧ Place.Reaches ⟨tokens, 0⟩ start.place)
    (added : statement.conditions = (ClauseStart.conditions rule starts).foldl Conditions.add {})
    (limited : Limit.GrowsFrom ⟨tokens, 0⟩ { countsFromOffset := false } statement.window)
    (noKey : statement.generatedKey = none) :
    statement.IsNumbered rule tokens where
  conditions condition isCondition := by
    rw [added] at isCondition
    rcases Conditions.mem_foldl_add isCondition with isAdded | isNone
    · obtain ⟨encounter, isMet, states⟩ := List.mem_filterMap.mp isAdded
      obtain ⟨start, isStart, isEncounter⟩ := List.mem_flatMap.mp isMet
      obtain ⟨isFound, reaches⟩ := found start isStart
      obtain ⟨keyword, -, behindKeyword⟩ := isFound.behindKeyword
      have suffix : start.place.tokens <:+ tokens := (List.suffix_cons _ _).trans behindKeyword
      obtain ⟨inClause, compares⟩ := Place.isFound_of_mem_encounters isEncounter
      have isRead : condition.IsReadAt rule tokens encounter.comparison.starts :=
        .compared ⟨inClause.trans suffix, compares⟩ states
      refine .inr ⟨_, isRead, isRead.operands_eq, fun operand isOperand index isPlaceholder => ?_⟩
      have reached := reaches.trans (Encounter.reaches_of_mem isEncounter operand isOperand)
      exact Place.isPlaceholder_of_operand countable reached isPlaceholder
    · cases isNone
  limit limit isRowCount index isLimit bounded := by
    rw [window, isLimit] at limited
    rcases limited isRowCount index bounded with isEarlier | asks
    · cases isRowCount <;> cases isEarlier
    · exact asks.exists_front countable
  key := by
    intro name index isKey
    cases noKey.symm.trans isKey
  deferred := by
    intro name index isKey
    cases noKey.symm.trans isKey

section Rows

variable {cursor : Cursor} {reading : InsertReading}

/-- A condition of the row is read where its value stands. -/
theorem isReadAt_of_row
    (countable : AreCountable tokens)
    (counts : Place.Counts ⟨tokens, 0⟩ cursor.place)
    (isRead : reading.IsRead cursor)
    {condition : Condition}
    (isCondition : condition ∈
      (Parse.rowConditions rule {} reading.columns reading.values).toList) :
    ∃ starts, condition.IsReadAt rule tokens starts ∧
      condition.operands = starts.map (fun start => start.operand.1) ∧
      ∀ start ∈ starts, ∀ index, start.operand.1 = .placeholder index →
        start.IsPlaceholder tokens index := by
  rcases Parse.mem_rowConditions isCondition with ⟨column, value, isPair, rfl⟩ | isNone
  · rw [InsertReading.values, Cursor.valuesAt, List.zip_map_right] at isPair
    obtain ⟨⟨found, start⟩, isValue, equal⟩ := List.mem_map.mp isPair
    obtain ⟨rfl, rfl⟩ := Prod.mk.inj equal
    refine ⟨[start.place], .inserted counts.suffix isRead isValue, rfl, ?_⟩
    intro operand isOperand index isPlaceholder
    rw [List.mem_singleton.mp isOperand] at isPlaceholder ⊢
    have isStart := (List.of_mem_zip isValue).2
    have reached := (counts.trans (isRead.counts.1 start isStart).place).reaches
    exact Place.isPlaceholder_of_operand countable reached isPlaceholder
  · cases isNone

/-- The closing parenthesis of the row has the number of the placeholders in front of it. -/
theorem exists_front_of_closing
    (pointed : ArePointed tokens)
    (counts : Place.Counts ⟨tokens, 0⟩ cursor.place)
    (isRead : reading.IsRead cursor)
    {closing : Cursor}
    (isClosing : reading.row.closing = some closing) :
    closing.current.kind = .symbol .rightParen ∧
      ∃ front, tokens = front ++ closing.tokens ∧
        front.countP Token.isPlaceholder = closing.placeholders := by
  constructor
  · exact isRead.row.closes isClosing
  · have reached := counts.trans (isRead.counts.2.1 closing isClosing).place
    exact Place.exists_front reached.suffix (reached.total pointed)

theorem isNumbered_of_unkeyed
    (countable : AreCountable tokens)
    (counts : Place.Counts ⟨tokens, 0⟩ cursor.place)
    (isRead : reading.IsRead cursor) :
    (reading.statement rule).IsNumbered rule tokens where
  conditions _ isCondition := .inr (isReadAt_of_row countable counts isRead isCondition)
  limit := nofun
  key := nofun
  deferred := nofun

theorem keySourceOf_eq_placeholder
    {value : Option Expression}
    {index : Nat}
    (isSource : Parse.keySourceOf value = .placeholder index) :
    value = some (.placeholder index) := by
  unfold Parse.keySourceOf at isSource
  split at isSource
  · cases isSource
    rfl
  · split at isSource <;> cases isSource
  · cases isSource

theorem keySourceOf_ne_deferred
    (value : Option Expression)
    (index : Nat) :
    Parse.keySourceOf value ≠ .deferred index := by
  intro isSource
  unfold Parse.keySourceOf at isSource
  split at isSource
  · cases isSource
  · split at isSource <;> cases isSource
  · cases isSource

/-- A key that the row gives is read in the place of the value of its column. -/
theorem isNumbered_of_given
    (countable : AreCountable tokens)
    (counts : Place.Counts ⟨tokens, 0⟩ cursor.place)
    (isRead : reading.IsRead cursor)
    {name : String}
    {position : Nat}
    (isListed : (reading.columns.findIdx? fun column => Text.sameName column.name name) =
      some position) :
    IsNumbered rule tokens
      { reading.statement rule with
        generatedKey := some ⟨name, Parse.keySourceOf reading.values[position]?⟩ } where
  conditions _ isCondition := .inr (isReadAt_of_row countable counts isRead isCondition)
  limit := nofun
  key found index isKey := by
    obtain ⟨rfl, isSource⟩ := GeneratedKey.mk.inj (Option.some.inj isKey)
    have isValue := keySourceOf_eq_placeholder isSource
    rw [InsertReading.values, Cursor.valuesAt, List.getElem?_map] at isValue
    obtain ⟨start, isStart, isPlaceholder⟩ := Option.map_eq_some_iff.mp isValue
    obtain ⟨inside, isColumn, -⟩ := List.findIdx?_eq_some_iff_getElem.mp isListed
    have reached := (counts.trans (isRead.counts.1 start (List.mem_of_getElem? isStart)).place).reaches
    exact ⟨cursor, reading, position, _, start, counts.suffix, isRead,
      List.getElem?_eq_getElem inside, isColumn, isStart,
      Place.isPlaceholder_of_operand countable reached isPlaceholder⟩
  deferred found index isKey :=
    absurd (GeneratedKey.mk.inj (Option.some.inj isKey)).2 (keySourceOf_ne_deferred _ _)

/-- A key that is added to the row has a condition of its own. -/
theorem isNumbered_of_added
    (countable : AreCountable tokens)
    (counts : Place.Counts ⟨tokens, 0⟩ cursor.place)
    (isRead : reading.IsRead cursor)
    {name table : String}
    {listStop valuesStop : Nat}
    {addition : Parse.KeyAddition}
    (isKey : (∃ closing, reading.row.closing = some closing ∧
        addition = ⟨"?", .placeholder closing.placeholders, .deferred closing.placeholders⟩) ∨
      ∃ key : Int64, addition = ⟨toString key.toInt, .number (.integer key), .literal key⟩) :
    IsNumbered rule tokens
      (Parse.withKey (reading.statement rule) rule ⟨name, table⟩ listStop valuesStop addition) where
  conditions condition isCondition := by
    rcases Parse.mem_rowConditions isCondition with ⟨column, value, isPair, rfl⟩ | isRow
    · have isAdded : (column, value) = (⟨name, table⟩, addition.expression) := by
        simpa using isPair
      cases isAdded
      rcases isKey with ⟨closing, -, rfl⟩ | ⟨key, rfl⟩
      · exact .inl (.deferred rfl)
      · exact .inl (.literal rfl)
    · exact .inr (isReadAt_of_row countable counts isRead isRow)
  limit := nofun
  key found index isFound := by
    have isSource := (GeneratedKey.mk.inj (Option.some.inj isFound)).2
    rcases isKey with ⟨closing, -, rfl⟩ | ⟨key, rfl⟩ <;> cases isSource
  deferred found index isFound := by
    have isSource := (GeneratedKey.mk.inj (Option.some.inj isFound)).2
    rcases isKey with ⟨closing, isClosing, rfl⟩ | ⟨key, rfl⟩
    · cases isSource
      obtain ⟨closes, front, split, counted⟩ :=
        exists_front_of_closing countable.pointed counts isRead isClosing
      exact ⟨cursor, reading, closing, front, counts.suffix, isRead, isClosing, closes, split, counted⟩
    · cases isSource

theorem isNumbered_of_row
    (countable : AreCountable tokens)
    {before after : ParseState}
    {parameterCount : Nat}
    (isRule : before.rule = rule)
    (counts : Place.Counts ⟨tokens, 0⟩ cursor.place)
    (isRead : reading.IsRead cursor)
    (isRow : before.statement = reading.statement rule)
    (keyed : Parse.LeavesKey reading.table reading.listStop reading.insertRow parameterCount
      before after) :
    after.statement.IsNumbered rule tokens := by
  subst isRule
  cases keyed with
  | unkeyed =>
      rw [isRow]
      exact isNumbered_of_unkeyed countable counts isRead
  | placeless =>
      rw [isRow]
      exact isNumbered_of_unkeyed countable counts isRead
  | given isKey isListed =>
      rw [isRow] at isListed ⊢
      exact isNumbered_of_given countable counts isRead isListed
  | @added name place valuesStop placeholders addition between isKey isAbsent isList isPlace isAdded =>
      obtain ⟨closing, isClosing, equal⟩ := Option.map_eq_some_iff.mp isPlace
      cases equal
      rcases Parse.keyAddition_eq_ok isAdded with ⟨-, rfl, rfl⟩ | ⟨-, key, keys, -, rfl, rfl⟩
      · rw [isRow]
        exact isNumbered_of_added countable counts isRead (.inl ⟨closing, isClosing, rfl⟩)
      · dsimp only
        rw [isRow]
        exact isNumbered_of_added countable counts isRead (.inr ⟨key, rfl⟩)

end Rows

/-- A parse reads what leads a statement, and then the statement. -/
theorem exists_statementOf
    {dialect : Dialect}
    {keys : Keys}
    {sql : String}
    {parameterCount : Nat}
    (parsed : (Statement.parse dialect rule keys sql parameterCount).1 = .ok statement) :
    ∃ kind front last,
      Parse.leading.outcome (ParseState.start dialect rule keys sql { kind := .select }) =
        (.ok kind, front) ∧
      (Parse.statementOf kind parameterCount).outcome front = (.ok (), last) ∧
      last.statement = statement ∧
      last.keys = (Statement.parse dialect rule keys sql parameterCount).2 := by
  obtain ⟨final, ran⟩ := outcome_of_parse parsed
  have left : final.keys = (Statement.parse dialect rule keys sql parameterCount).2 :=
    (congrArg (fun outcome => outcome.2.keys) ran).symm
  rw [Parse.wholeStatement_eq] at ran
  obtain ⟨kind, front, led, behind⟩ := Parse.outcome_bind_eq_ok.mp ran
  obtain ⟨_, last, read, finished⟩ := Parse.outcome_bind_eq_ok.mp behind
  cases finished
  exact ⟨kind, front, _, led, read, rfl, left⟩

/-- **Placeholders have the numbers of their places.**  The text has no placeholder behind a point and
no word that begins a clause of locks; then each number of a placeholder in a condition, in the row
limit or in the key of a statement is the number of placeholders in front of it, whatever the parse
only reads over in between. -/
theorem isNumbered_of_parse
    {dialect : Dialect}
    {keys : Keys}
    {sql : String}
    {parameterCount : Nat}
    (countable : AreCountable (Cursor.ofText dialect sql).tokens)
    (parsed : (Statement.parse dialect rule keys sql parameterCount).1 = .ok statement) :
    statement.IsNumbered rule (Cursor.ofText dialect sql).tokens := by
  obtain ⟨kind, front, last, led, read, rfl, -⟩ := exists_statementOf parsed
  obtain ⟨counts, -, isFront⟩ := Parse.leading_eq_ok led
  have noStatement : front.statement = { kind := kind } := congrArg ParseState.statement isFront
  have isRule : front.rule = rule := congrArg ParseState.rule isFront
  by_cases isInsert : kind = .insert
  · subst isInsert
    obtain ⟨reading, isRead, keyed⟩ := Parse.insertStatement_eq_ok noStatement read
    rw [isRule] at keyed
    apply isNumbered_of_row countable _ counts.place isRead _ keyed
    · rfl
    · rfl
  · obtain ⟨⟨-, limited, sameKey⟩, -, starts, found, added⟩ :=
      (Parse.statementOf_numbers isInsert parameterCount).relates read
    rw [isRule] at added
    apply isNumbered_of_clauses countable
    · intro start isStart
      obtain ⟨isFound, reached⟩ := found start isStart
      exact ⟨isFound.behind counts.place.suffix, counts.place.reaches.trans reached⟩
    · rw [added, noStatement]
    · rw [noStatement] at limited
      exact limited.behind counts.place.reaches
    · rw [sameKey, noStatement]

/-- The text of a query with a placeholder in a part that is only read over. -/
def pagedText : String :=
  "SELECT f(?) FROM t_order WHERE user_id = ? LIMIT ?"

theorem areCountable_pagedText : AreCountable (Cursor.ofText .mysql pagedText).tokens :=
  ⟨by decide +kernel, by decide +kernel⟩

/-- The first placeholder of this query is counted although nothing is read from it. -/
theorem isNumbered_pagedText :
    AreCountable (Cursor.ofText .mysql pagedText).tokens ∧ ∃ statement,
      (Statement.parse .mysql keyedRule (Keys.ofRule keyedRule 0) pagedText 3).1 = .ok statement ∧
      statement.conditions.toList = [⟨⟨"user_id", "t_order"⟩, .equal, [.placeholder 1]⟩] ∧
      statement.limit.map (·.bound? true) = some (some (.placeholder 2)) ∧
      statement.IsNumbered keyedRule (Cursor.ofText .mysql pagedText).tokens := by
  have read :
      (Statement.parse .mysql keyedRule (Keys.ofRule keyedRule 0) pagedText 3).1.toOption.map
        (fun statement => (statement.conditions.toList, statement.limit.map (·.bound? true))) =
      some ([⟨⟨"user_id", "t_order"⟩, .equal, [.placeholder 1]⟩], some (some (.placeholder 2))) := by
    decide +kernel
  obtain ⟨statement, isParsed, recorded⟩ := Option.map_eq_some_iff.mp read
  obtain ⟨conditions, limit⟩ := Prod.mk.inj recorded
  have parsed := Success.toOption_eq_some.mp isParsed
  exact ⟨areCountable_pagedText, statement, parsed, conditions, limit,
    isNumbered_of_parse areCountable_pagedText parsed⟩

/-- The text of a row without a placeholder and without its key. -/
def unkeyedText : String :=
  "INSERT INTO t_order (user_id) VALUES (1)"

/-- The key that is generated for a row has a condition of its own, whose placeholder stands nowhere in the
text. -/
theorem exists_condition_without_placeholder :
    AreCountable (Cursor.ofText .mysql unkeyedText).tokens ∧
    (Cursor.ofText .mysql unkeyedText).tokens.countP Token.isPlaceholder = 0 ∧
    ∃ statement,
      (Statement.parse .mysql keyedRule (Keys.ofRule keyedRule 0) unkeyedText 1).1 = .ok statement ∧
      ⟨⟨"order_id", "t_order"⟩, .equal, [.placeholder 0]⟩ ∈ statement.conditions.toList := by
  have recorded :
      (Statement.parse .mysql keyedRule (Keys.ofRule keyedRule 0) unkeyedText 1).1.toOption.map
        (·.conditions.toList) =
      some [⟨⟨"user_id", "t_order"⟩, .equal, [.number (.integer 1)]⟩,
        ⟨⟨"order_id", "t_order"⟩, .equal, [.placeholder 0]⟩] := by
    decide +kernel
  obtain ⟨statement, isParsed, conditions⟩ := Option.map_eq_some_iff.mp recorded
  apply And.intro ⟨by decide +kernel, by decide +kernel⟩
  apply And.intro (by decide +kernel)
  refine ⟨statement, Success.toOption_eq_some.mp isParsed, ?_⟩
  rw [conditions]
  decide

end Statement

end ShardedSql
