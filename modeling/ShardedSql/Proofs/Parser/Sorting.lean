import ShardedSql.Proofs.Parser.Seams
import ShardedSql.Proofs.Statement.QueryEnd

/-!
# Groups and order of a query

The columns that a query groups and sorts by are noted by two of its clauses, and every other step of the
parse leaves them alone.  So what is true of these columns as they are read is true of them when the query
has been read, and a clause that is not there leaves none.
-/

namespace ShardedSql

/-- Whether an item of an order is a column without a position, or a position only. -/
inductive OrderItem.IsGiven : OrderItem → Prop where
  | column
      (owner : Option String)
      (name : String)
      (direction : OrderDirection)
      (aliasName : Option String) :
      IsGiven ⟨owner, some name, none, direction, aliasName⟩
  | position
      (index : Nat)
      (direction : OrderDirection) :
      IsGiven ⟨none, none, some index, direction, none⟩

/-- Leaving the groups and the order of a statement alone, and the place behind its select list. -/
def Conduct.keepingSorts : Conduct where
  relates before after :=
    after.statement.groupByItems = before.statement.groupByItems ∧
      after.statement.orderByItems = before.statement.orderByItems ∧
      after.notes.listStop = before.notes.listStop
  fails _ := True
  refl _ := ⟨rfl, rfl, rfl⟩
  trans first second :=
    ⟨second.1.trans first.1, second.2.1.trans first.2.1, second.2.2.trans first.2.2⟩

namespace Parse

open Conduct (keepingSorts)

theorem keepingSorts_isLenient : keepingSorts.IsLenient where
  fails _ := trivial
  moves _ := ⟨rfl, rfl, rfl⟩

theorem expression_keepsSorts : expression.Obeys keepingSorts := by
  intro before
  rw [outcome_expression]
  exact ⟨rfl, rfl, rfl⟩

theorem noteRowNumber_keepsSorts
    (text : String)
    (aliasName : Option String) :
    (noteRowNumber text aliasName).Obeys keepingSorts := by
  intro before
  obtain ⟨found, noted⟩ := exists_outcome_noteRowNumber text aliasName before
  rw [noted]
  exact ⟨rfl, rfl, rfl⟩

theorem tableName_keepsSorts : tableName.Obeys keepingSorts := by
  apply obeys_of_ok keepingSorts_isLenient
  intro before after name ran
  obtain ⟨token, cursor, -, -, rfl⟩ := tableName_eq_ok ran
  exact ⟨rfl, rfl, rfl⟩

theorem itemHead_keepsSorts (depth : Nat) : (itemHead depth).Obeys keepingSorts := by
  apply obeys_of_ok keepingSorts_isLenient
  intro before after head ran
  cases itemHead_eq_ok ran with
  | star =>
      have isNote :=
        Statement.isListNote_withStar depth (some (unquoteName before.cursor.current.source))
      exact ⟨isNote.groupByItems _, isNote.orderByItems _, rfl⟩
  | _ => exact ⟨rfl, rfl, rfl⟩

theorem topClause_keepsSorts : topClause.Obeys keepingSorts := by
  apply obeys_of_ok keepingSorts_isLenient
  intro before after _ ran
  rcases topClause_eq_ok ran with rfl | ⟨bound, cursor, -, -, rfl⟩
  · exact keepingSorts.refl _
  · exact ⟨rfl, rfl, rfl⟩

theorem limitClauses_keepsSorts : limitClauses.Obeys keepingSorts := by
  apply obeys_of_ok keepingSorts_isLenient
  intro before after _ ran
  rcases limitClauses_eq_ok ran with rfl | ⟨limit, cursor, markers, -, rfl⟩
  · exact keepingSorts.refl _
  · exact ⟨rfl, rfl, rfl⟩

theorem lockClause_keepsSorts : lockClause.Obeys keepingSorts :=
  lockClause_moves fun _ => ⟨rfl, rfl, rfl⟩

theorem rowNumberCondition_keepsSorts : rowNumberCondition.Obeys keepingSorts := by
  intro before
  rw [outcome_rowNumberCondition]
  dsimp only
  split
  · exact ⟨rfl, rfl, rfl⟩
  · exact ⟨rfl, rfl, rfl⟩

theorem keepingSorts_admits : keepingSorts.Admits where
  passing := passing_moves keepingSorts_isLenient
  note _ isNote before :=
    ⟨isNote.groupByItems before.statement, isNote.orderByItems before.statement, rfl⟩
  noteRowNumber := noteRowNumber_keepsSorts
  aliasName := alias?_moves keepingSorts_isLenient
  expression := expression_keepsSorts
  tableName := tableName_keepsSorts
  addTable _ _ _ _ := ⟨rfl, rfl, rfl⟩
  itemHead := itemHead_keepsSorts
  skipItem := skipItem_moves keepingSorts_isLenient
  assignmentRest := passMeasured_moves keepingSorts_isLenient _
  skipTop := skipTop_moves keepingSorts_isLenient
  topClause := topClause_keepsSorts
  limitClauses := limitClauses_keepsSorts
  lockClause := lockClause_keepsSorts

theorem keepingSorts_admitsWhere : keepingSorts.AdmitsWhere where
  toAdmits := keepingSorts_admits
  advance _ := advance_moves keepingSorts_isLenient
  condition := addCondition_obeys fun _ _ => ⟨rfl, rfl, rfl⟩
  rowNumber state _ := rowNumberCondition_keepsSorts state
  openGroups := passMeasured_moves keepingSorts_isLenient _
  closeGroups _ := passMeasured_moves keepingSorts_isLenient _
  skipPredicate := skipPredicate_moves keepingSorts_isLenient

section Items

variable {before after : ParseState}

/-- What an expression stands for in an order is a column or a position. -/
theorem isGiven_of_orderItem?
    {items : List SelectItem}
    {direction : OrderDirection}
    {expression : Expression}
    {item : OrderItem}
    (isItem : orderItem? items direction expression = some item) :
    item.IsGiven := by
  unfold orderItem? at isItem
  split at isItem
  next value =>
    obtain ⟨index, -, positive⟩ := Option.bind_eq_some_iff.mp isItem
    split at positive
    · cases positive
      exact .position _ _
    · cases positive
  next =>
    cases isItem
    exact .column _ _ _ _
  next =>
    cases isItem
    exact .column _ _ _ _
  next => cases isItem

theorem isGiven_of_orderItem
    {found : Option OrderItem}
    (ran : orderItem.outcome before = (.ok found, after))
    {item : OrderItem}
    (isItem : item ∈ found) :
    item.IsGiven := by
  have last : ∀ {isDescending : Bool} {ordered : Expression} {between : ParseState},
      outcome (do
        if ← skipWord .NULLS then
          let _ ← skipAnyWord [.FIRST, .LAST]
        let direction := if isDescending then OrderDirection.descending else .ascending
        return orderItem? (← statement).items direction ordered) between = (.ok found, after) →
      item.IsGiven := by
    intro isDescending ordered between finished
    obtain ⟨isNulls, _, -, finished⟩ := outcome_bind_eq_ok.mp finished
    cases isNulls with
    | true =>
        obtain ⟨_, _, -, finished⟩ := outcome_bind_eq_ok.mp finished
        cases finished
        exact isGiven_of_orderItem? isItem
    | false =>
        cases finished
        exact isGiven_of_orderItem? isItem
  unfold orderItem at ran
  obtain ⟨ordered, _, -, ran⟩ := outcome_bind_eq_ok.mp ran
  obtain ⟨isDescending, _, -, ran⟩ := outcome_bind_eq_ok.mp ran
  cases isDescending with
  | true => exact last ran
  | false =>
      obtain ⟨_, _, -, ran⟩ := outcome_bind_eq_ok.mp ran
      exact last ran

/-- The items of an order are columns and positions. -/
theorem isGiven_of_orderItems
    {items : List OrderItem}
    (ran : orderItems.outcome before = (.ok items, after)) :
    ∀ item ∈ items, item.IsGiven := by
  let given (items : List OrderItem) (_ : ParseState) : Prop := ∀ item ∈ items, item.IsGiven
  have kept : given items after := by
    apply repeatFrom_holds given _ (fun _ member => by cases member) ran
    intro items following again before after areGiven turn item member
    obtain ⟨found, between, read, turn⟩ := outcome_bind_eq_ok.mp turn
    obtain ⟨_, _, -, finished⟩ := outcome_bind_eq_ok.mp turn
    cases finished
    rcases List.mem_append.mp member with isEarlier | isFound
    · exact areGiven item isEarlier
    · exact isGiven_of_orderItem read (Option.mem_toList.mp isFound)
  exact kept

/-- GROUP BY adds columns and positions to the groups, and nothing to the order. -/
theorem groupByClause_sorts (ran : (groupByClause 0).outcome before = (.ok (), after)) :
    ∃ items, (∀ item ∈ items, OrderItem.IsGiven item) ∧
      after.statement.groupByItems = before.statement.groupByItems ++ items ∧
      after.statement.orderByItems = before.statement.orderByItems ∧
      after.notes.listStop = before.notes.listStop := by
  have passing := keepingSorts_admits.passing
  unfold groupByClause at ran
  obtain ⟨isGroup, first, isPassed, ran⟩ := outcome_bind_eq_ok.mp ran
  have front := (skipWord_obeys passing .GROUP).relates isPassed
  cases isGroup with
  | false =>
      cases ran
      exact ⟨[], nofun, by rw [List.append_nil]; exact front.1, front.2⟩
  | true =>
      obtain ⟨_, second, accepted, ran⟩ := outcome_bind_eq_ok.mp ran
      obtain ⟨items, third, read, ran⟩ := outcome_bind_eq_ok.mp ran
      have behindItems := keepingSorts.trans front (keepingSorts.trans
        ((acceptWord_obeys passing .BY).relates accepted)
        ((orderItems_obeys keepingSorts_admits).relates read))
      have noted : ∀ {between : ParseState}, keepingSorts.relates before between →
          (noteGroups items).outcome between = (.ok (), after) →
          after.statement.groupByItems = before.statement.groupByItems ++ items ∧
            after.statement.orderByItems = before.statement.orderByItems ∧
            after.notes.listStop = before.notes.listStop := by
        rintro between ⟨groups, kept⟩ finished
        cases finished
        exact ⟨congrArg (· ++ items) groups, kept⟩
      refine ⟨items, isGiven_of_orderItems read, ?_⟩
      obtain ⟨isWith, fourth, skipped, ran⟩ := outcome_bind_eq_ok.mp ran
      have behindWith :=
        keepingSorts.trans behindItems ((skipWord_obeys passing .WITH).relates skipped)
      cases isWith with
      | false => exact noted behindWith ran
      | true =>
          obtain ⟨_, last, rolled, ran⟩ := outcome_bind_eq_ok.mp ran
          have behindRollup := (skipWord_obeys passing .ROLLUP).relates rolled
          exact noted (keepingSorts.trans behindWith behindRollup) ran

/-- ORDER BY adds columns and positions to the order, and nothing to the groups. -/
theorem orderByClause_sorts (ran : (orderByClause 0).outcome before = (.ok (), after)) :
    ∃ items, (∀ item ∈ items, OrderItem.IsGiven item) ∧
      after.statement.groupByItems = before.statement.groupByItems ∧
      after.statement.orderByItems = before.statement.orderByItems ++ items ∧
      after.notes.listStop = before.notes.listStop := by
  have passing := keepingSorts_admits.passing
  unfold orderByClause at ran
  obtain ⟨isOrdered, first, isPassed, ran⟩ := outcome_bind_eq_ok.mp ran
  have front := (skipWord_obeys passing .ORDER).relates isPassed
  cases isOrdered with
  | false =>
      cases ran
      exact ⟨[], nofun, front.1, by rw [List.append_nil]; exact front.2.1, front.2.2⟩
  | true =>
      obtain ⟨_, second, accepted, ran⟩ := outcome_bind_eq_ok.mp ran
      obtain ⟨items, third, read, ran⟩ := outcome_bind_eq_ok.mp ran
      obtain ⟨groups, order, listed⟩ := keepingSorts.trans front (keepingSorts.trans
        ((acceptWord_obeys passing .BY).relates accepted)
        ((orderItems_obeys keepingSorts_admits).relates read))
      cases ran
      exact ⟨items, isGiven_of_orderItems read, groups, congrArg (· ++ items) order, listed⟩

/-- A select list adds nothing to the groups and to the order, and its end is noted. -/
theorem list_sorts
    {nested : Parse Unit}
    (ran : (QueryPart.list.read nested).outcome before = (.ok (), after)) :
    after.statement.groupByItems = before.statement.groupByItems ∧
      after.statement.orderByItems = before.statement.orderByItems ∧
      ∃ stop, after.notes.listStop = some stop := by
  have opening : listOpening.Obeys keepingSorts := by
    unfold listOpening
    apply (acceptWord_obeys keepingSorts_admits.passing _).bind
    intro _
    apply (distinctClause_obeys keepingSorts_admits 0).bind
    intro _
    exact topClause_keepsSorts.bind fun _ => selectItems_obeys keepingSorts_admits 0
  have split : QueryPart.list.read nested = listOpening >>= fun _ => noteListStop := by
    have listed : selectList 0 = (repeatStep do
        selectItem 0
        skipSign .comma) >>= fun _ => noteListStop := rfl
    simp only [QueryPart.read, listOpening, listed, bind_assoc]
  rw [split] at ran
  obtain ⟨_, between, opened, finished⟩ := outcome_bind_eq_ok.mp ran
  obtain ⟨groups, order, -⟩ := opening.relates opened
  cases finished
  exact ⟨groups, order, _, rfl⟩

end Items

end Parse

section Reading

open Conduct (keepingSorts)

variable {fuel : Nat} {start : ParseState} {behind : QueryPart → ParseState}

/-- The columns that a query groups and sorts by are given by name or by position, and it has an order
only behind ORDER.  The end of its select list is noted. -/
structure QueryReading.GivesSorts
    (behind : QueryPart → ParseState) : Prop where
  listed : ∃ stop, (behind .lock).notes.listStop = some stop
  groups : ∀ item ∈ (behind .lock).statement.groupByItems, item.IsGiven
  order : ∀ item ∈ (behind .lock).statement.orderByItems, item.IsGiven
  ordered : (behind .groups).cursor.current.kind ≠ .keyword .ORDER →
    (behind .lock).statement.orderByItems = []

/-- A part that is neither the select list, nor the groups, nor the order adds nothing to these. -/
theorem QueryReading.keepsSorts
    (reading : QueryReading (Parse.query fuel 1) start behind)
    (part : QueryPart)
    (other : part ∉ [.list, .groups, .order]) :
    keepingSorts.relates (part.front start behind) (behind part) := by
  have nested : (Parse.query fuel 1).Obeys keepingSorts :=
    Parse.query_obeys Parse.keepingSorts_admits
      (Parse.whereClause_obeys Parse.keepingSorts_admitsWhere) fuel 0
  have obeys : (part.read (Parse.query fuel 1)).Obeys keepingSorts := by
    cases part with
    | tables => exact Parse.fromClause_obeys Parse.keepingSorts_admits nested
    | conditions => exact Parse.whereClause_obeys Parse.keepingSorts_admitsWhere
    | limit => exact Parse.limitClauses_keepsSorts
    | lock => exact Parse.lockClause_keepsSorts
    | list | groups | order => simp at other
  exact obeys.relates (reading.reads part)

theorem QueryReading.givesSorts
    (reading : QueryReading (Parse.query fuel 1) start behind)
    (noGroups : start.statement.groupByItems = [])
    (noOrder : start.statement.orderByItems = []) :
    QueryReading.GivesSorts behind := by
  obtain ⟨listGroups, listOrder, stop, isStop⟩ := Parse.list_sorts (reading.reads .list)
  have front := keepingSorts.trans (reading.keepsSorts .tables (by decide))
    (reading.keepsSorts .conditions (by decide))
  obtain ⟨groups, areGiven, groupsThen, orderThen, stopThen⟩ :=
    Parse.groupByClause_sorts (reading.reads .groups)
  obtain ⟨order, areGivenToo, groupsLater, orderLater, stopLater⟩ :=
    Parse.orderByClause_sorts (reading.reads .order)
  have rest := keepingSorts.trans (reading.keepsSorts .limit (by decide))
    (reading.keepsSorts .lock (by decide))
  have noGroupsYet : (behind .conditions).statement.groupByItems = [] :=
    front.1.trans (listGroups.trans noGroups)
  have noOrderYet : (behind .groups).statement.orderByItems = [] :=
    orderThen.trans (front.2.1.trans (listOrder.trans noOrder))
  have isGroups : (behind .lock).statement.groupByItems = groups :=
    calc (behind .lock).statement.groupByItems
      _ = (behind .groups).statement.groupByItems := rest.1.trans groupsLater
      _ = (behind .conditions).statement.groupByItems ++ groups := groupsThen
      _ = groups := by rw [noGroupsYet, List.nil_append]
  have isOrder : (behind .lock).statement.orderByItems = order :=
    calc (behind .lock).statement.orderByItems
      _ = (behind .groups).statement.orderByItems ++ order := rest.2.1.trans orderLater
      _ = order := by rw [noOrderYet, List.nil_append]
  have isListed : (behind .lock).notes.listStop = some stop :=
    calc (behind .lock).notes.listStop
      _ = (behind .groups).notes.listStop := rest.2.2.trans stopLater
      _ = (behind .list).notes.listStop := stopThen.trans front.2.2
      _ = some stop := isStop
  refine ⟨⟨stop, isListed⟩, isGroups ▸ areGiven, isOrder ▸ areGivenToo, fun noWord => ?_⟩
  have unread : behind .order = behind .groups :=
    @QueryReading.behind_eq_front _ _ _ reading .order (by decide)
      fun isHead => noWord (List.mem_singleton.mp isHead)
  calc (behind .lock).statement.orderByItems
    _ = (behind .order).statement.orderByItems := rest.2.1
    _ = [] := by rw [unread, noOrderYet]

end Reading

/-- A query as it has been read, with the owners in its select list marked. -/
def ParseState.asRead (state : ParseState) : Statement :=
  (state.marked (Parse.tableOwners state.statement.tables state.notes.owners)).statement

/-- What is left of a query that is finished. -/
theorem Parse.finishSelect_statement
    {before after : ParseState}
    {stop : Nat}
    (isStop : before.notes.listStop = some stop)
    (ran : finishSelect.outcome before = (.ok (), after)) :
    after.statement = (before.asRead.deriveColumns stop).deriveOrder before.notes.groupByStop := by
  unfold finishSelect at ran
  rw [outcome_bind_of_ok (outcome_markOwners before), outcome_bind_of_ok (outcome_get _)] at ran
  have sameNotes : (before.marked (tableOwners before.statement.tables
      before.notes.owners)).notes.listStop = some stop := isStop
  dsimp only at ran
  rw [sameNotes] at ran
  cases ran
  rfl

/-- Before a query is finished, its markers stand on tokens. -/
theorem Parse.LeavesSeams.items_notMem
    {before query : ParseState}
    {markers : List Marker}
    (leaves : LeavesSeams before query markers)
    (noneYet : before.pending = [])
    (position : Nat)
    (items : List String) :
    .items position items ∉ query.asRead.markers := by
  intro isMarker
  rcases List.mem_append.mp isMarker with isRead | isOwner
  · have isPending : .items position items ∈ query.pending := List.mem_append_left _ isRead
    have isThere := leaves.added.mem_iff.mp isPending
    rw [noneYet, List.nil_append] at isThere
    obtain ⟨-, passed, carriers, -, -, carried⟩ := leaves.marks
    obtain ⟨token, -, carries⟩ := Token.exists_carrier carried isThere
    generalize isItems : Marker.items position items = marker at carries
    cases carries with
    | table => cases isItems
    | bound isRowCount => cases isRowCount <;> cases isItems
  · obtain ⟨owner, -, isTable⟩ := List.mem_map.mp isOwner
    cases isTable

namespace Statement

/-- Where an accepted SELECT comes from: a query that is read part by part, to which the columns and the
order are added that merging needs. -/
structure DerivesFrom
    (statement : Statement)
    (front : ParseState)
    (behind : QueryPart → ParseState) : Prop where
  reading : QueryReading (Parse.query front.cursor.tokens.length 1) front behind
  sorts : QueryReading.GivesSorts behind
  unlisted : ∀ position items, .items position items ∉ (behind .lock).asRead.markers
  derived : ∃ stop, statement =
    ((behind .lock).asRead.deriveColumns stop).deriveOrder (behind .lock).notes.groupByStop

theorem exists_derivesFrom
    {dialect : Dialect}
    {rule : Rule}
    {keys : Keys}
    {sql : String}
    {parameterCount : Nat}
    {statement : Statement}
    (parsed : (Statement.parse dialect rule keys sql parameterCount).1 = .ok statement)
    (isSelect : statement.kind = .select) :
    ∃ front behind,
      Parse.leading.outcome (ParseState.start dialect rule keys sql { kind := .select }) =
        (.ok .select, front) ∧
      statement.DerivesFrom front behind := by
  obtain ⟨kind, front, last, led, read, rfl, -⟩ := exists_statementOf parsed
  obtain ⟨found, other, ledAlike, sameKind, -⟩ := exists_leading_of_parse parsed
  rw [led] at ledAlike
  cases ledAlike
  rw [isSelect] at sameKind
  cases sameKind
  obtain ⟨-, -, isFront⟩ := Parse.leading_eq_ok led
  have isStatement : front.statement = { kind := .select } := congrArg ParseState.statement isFront
  have selected : Parse.selectStatement.outcome front = (.ok (), last) := read
  obtain ⟨_, query, queried, finished⟩ :=
    Parse.outcome_bind_eq_ok.mp (Parse.selectStatement_eq ▸ selected)
  rw [Parse.outcome_bind_of_ok (Parse.outcome_get front)] at queried
  have noNotes : front.notes = {} := congrArg ParseState.notes isFront
  have noneYet : front.pending = [] := by
    rw [ParseState.pending, isStatement, noNotes]
    rfl
  have nested := Parse.query_obeys Parse.marking_admits
    (Parse.whereClause_obeys Parse.marking_admitsWhere) front.cursor.tokens.length 0
  obtain ⟨markers, leaves⟩ := Parse.exists_seams_of_query nested noNotes queried
  obtain ⟨behind, reading, rfl⟩ := exists_queryReading queried
  have sorts := reading.givesSorts (by rw [isStatement]) (by rw [isStatement])
  obtain ⟨stop, isStop⟩ := sorts.listed
  exact ⟨front, behind, led, reading, sorts, leaves.items_notMem noneYet, stop,
    Parse.finishSelect_statement isStop finished⟩

end Statement

end ShardedSql
