import ShardedSql.Proofs.Parser.Conduct
import ShardedSql.Proofs.Parser.Steps

/-!
# Compound steps of a parse

A parse is made of few elementary steps: it passes a token of some kind, an alias, an expression, a
table, or a stretch that it reads over, and it takes a note in the statement.  A conduct that the
elementary steps obey is obeyed by every clause that is made of them.
-/

namespace ShardedSql

/-- Whether a change of the statement concerns neither its kind, its tables, its conditions, its markers,
its row limit, nor its key. -/
structure Statement.IsNote (change : Statement → Statement) : Prop where
  kind : ∀ statement, (change statement).kind = statement.kind
  tables : ∀ statement, (change statement).tables = statement.tables
  conditions : ∀ statement, (change statement).conditions = statement.conditions
  markers : ∀ statement, (change statement).markers = statement.markers
  limit : ∀ statement, (change statement).limit = statement.limit
  generatedKey : ∀ statement, (change statement).generatedKey = statement.generatedKey

/-- Whether such a change concerns the select list, and neither the groups nor the order. -/
structure Statement.IsListNote (change : Statement → Statement) : Prop extends IsNote change where
  groupByItems : ∀ statement, (change statement).groupByItems = statement.groupByItems
  orderByItems : ∀ statement, (change statement).orderByItems = statement.orderByItems

theorem Statement.isListNote_withStar
    (depth : Nat)
    (owner : Option String) :
    IsListNote fun statement => statement.withStar depth owner := by
  refine ⟨⟨?_, ?_, ?_, ?_, ?_, ?_⟩, ?_, ?_⟩
  all_goals
    intro statement
    unfold withStar
    split
    · rfl
    · rfl

/-- Whether a name of a table that is marked reads as a name. -/
def Statement.NamesTable
    (statement : Statement)
    (name : String) : Prop :=
  ∃ position literals, .table position literals ∈ statement.markers ∧ unquoteName literals = name

/-- Read the order and the row limit of a query, and pass what may follow them. -/
def Parse.queryTail (depth : Nat) : Parse Unit := do
  if ← isWord .HAVING then
    throw .having
  orderByClause depth
  limitClauses
  if ← isAnyKind [.keyword .UNION, .keyword .INTERSECT, .keyword .EXCEPT, .keyword .MINUS] then
    throw (.setOperator (Text.upperAscii (← current).literals))
  lockClause

open Parse in
/-- Whether the steps that pass words, signs and groups obey a conduct. -/
structure Conduct.AdmitsPassing (conduct : Conduct) : Prop where
  fails : ∀ error : Error, ¬ error.RefusesToken → conduct.fails error
  skip : ∀ kinds : List TokenKind, .symbol .question ∉ kinds → (skipAnyKind kinds).Obeys conduct
  group : group.Obeys conduct
  passName : ∀ state : ParseState, state.cursor.current.kind.isName = true →
    conduct.relates state { state with cursor := state.cursor.advance }

open Parse in
/-- Whether the elementary steps of a parse obey a conduct. -/
structure Conduct.Admits (conduct : Conduct) : Prop where
  passing : conduct.AdmitsPassing
  note : ∀ change : Statement → Statement, Statement.IsListNote change →
    (modifyStatement change).Obeys conduct
  noteRowNumber : ∀ (text : String) (aliasName : Option String),
    (noteRowNumber text aliasName).Obeys conduct
  aliasName : alias?.Obeys conduct
  expression : expression.Obeys conduct
  tableName : tableName.Obeys conduct
  addTable : ∀ (name : String) (aliasName : Option String) (state : ParseState),
    state.statement.NamesTable name → (addTable name aliasName).ObeysFrom conduct state
  itemHead : ∀ depth : Nat, (itemHead depth).Obeys conduct
  skipItem : ∀ afterOperand : Bool, (skipItem afterOperand).Obeys conduct
  assignmentRest : (passMeasured Extent.assignmentWidth).Obeys conduct
  skipTop : skipTop.Obeys conduct
  topClause : topClause.Obeys conduct
  limitClauses : limitClauses.Obeys conduct
  lockClause : lockClause.Obeys conduct

namespace Parse

variable {α β : Type} {conduct : Conduct}

theorem obeys_current_bind
    {next : Token → Parse β}
    (obeys : ∀ token, (next token).Obeys conduct) :
    (current >>= next).Obeys conduct :=
  fun before => obeys before.cursor.current before

theorem obeys_statement_bind
    {next : Statement → Parse β}
    (obeys : ∀ statement, (next statement).Obeys conduct) :
    (statement >>= next).Obeys conduct :=
  fun before => obeys before.statement before

theorem obeys_lastStop_bind
    {next : Nat → Parse β}
    (obeys : ∀ stop, (next stop).Obeys conduct) :
    (lastStop >>= next).Obeys conduct :=
  fun before => obeys before.cursor.lastStop before

theorem obeys_isAnyKind_bind
    {kinds : List TokenKind}
    {next : Bool → Parse β}
    (obeys : ∀ isThere, (next isThere).Obeys conduct) :
    (isAnyKind kinds >>= next).Obeys conduct :=
  fun before => obeys (kinds.contains before.cursor.current.kind) before

theorem obeys_isKind_bind
    {kind : TokenKind}
    {next : Bool → Parse β}
    (obeys : ∀ isThere, (next isThere).Obeys conduct) :
    (isKind kind >>= next).Obeys conduct :=
  fun before => obeys (before.cursor.current.kind == kind) before

theorem current_bind_obeysFrom
    {next : Token → Parse β}
    {before : ParseState}
    (obeys : (next before.cursor.current).ObeysFrom conduct before) :
    (current >>= next).ObeysFrom conduct before :=
  obeys

end Parse

/-- The comparisons that bound a number. -/
def TokenKind.inequalities : List TokenKind :=
  [.symbol .lt, .symbol .gt, .symbol .ltEq, .symbol .gtEq]

open Parse in
/-- Whether the elementary steps of a WHERE clause obey a conduct as well. -/
structure Conduct.AdmitsWhere (conduct : Conduct) : Prop extends conduct.Admits where
  advance : ∀ state : ParseState, state.cursor.current.isPlaceholder = false →
    advance.ObeysFrom conduct state
  condition : ∀ (left : Expression) (operator : ConditionOperator) (operands : List Expression),
    (addCondition left operator operands).Obeys conduct
  rowNumber : ∀ state : ParseState, state.cursor.current.kind ∈ TokenKind.inequalities →
    rowNumberCondition.ObeysFrom conduct state
  openGroups : (passMeasured fun tokens =>
    (tokens.takeWhile Token.opensGroup).length).Obeys conduct
  closeGroups : ∀ opened : Nat, (passMeasured fun tokens =>
    min opened (tokens.takeWhile Token.closesGroup).length).Obeys conduct
  skipPredicate : ∀ opened : Nat, (skipPredicate opened).Obeys conduct

namespace Parse

variable {α β : Type} {conduct : Conduct}

section Passing

variable (admits : conduct.AdmitsPassing)

include admits

theorem throw_obeys
    {error : Error}
    (other : ¬ error.RefusesToken) :
    (throw error : Parse α).Obeys conduct :=
  fun _ => admits.fails error other

theorem failUnexpected_obeys (expected : String) :
    (failUnexpected expected : Parse α).Obeys conduct :=
  fun before => admits.fails _ (before.not_refusesToken_unexpected expected)

theorem skipWord_obeys (word : Keyword) : (skipWord word).Obeys conduct :=
  admits.skip _ (by simp)

theorem skipAnyWord_obeys (words : List Keyword) : (skipAnyWord words).Obeys conduct :=
  admits.skip _ (by simp)

theorem skipSign_obeys
    (sign : Symbol)
    (other : sign ≠ .question) :
    (skipSign sign).Obeys conduct :=
  admits.skip _ (by simpa using other.symm)

theorem accept_obeys
    (kind : TokenKind)
    (other : kind ≠ .symbol .question) :
    (accept kind).Obeys conduct := by
  unfold accept
  apply (admits.skip [kind] (by simpa using other.symm)).bind
  intro isThere
  exact .ite (failUnexpected_obeys admits _) (obeys_pure ())

theorem acceptWord_obeys (word : Keyword) : (acceptWord word).Obeys conduct :=
  accept_obeys admits _ nofun

theorem acceptSign_obeys
    (sign : Symbol)
    (other : sign ≠ .question) :
    (acceptSign sign).Obeys conduct :=
  accept_obeys admits _ (by simpa using other)

theorem opening_obeys : (skipSign .leftParen).Obeys conduct :=
  skipSign_obeys admits .leftParen nofun

theorem closing_obeys : (acceptSign .rightParen).Obeys conduct :=
  acceptSign_obeys admits .rightParen nofun

theorem skipJoin_obeys : skipJoin.Obeys conduct := by
  have joined : ∀ word : Keyword, Obeys (do
      acceptWord word
      return true) conduct :=
    fun word => (acceptWord_obeys admits word).bind fun _ => obeys_pure true
  have outer : Obeys (do
      if ← skipWord .OUTER then
        acceptWord .APPLY
        return true
      return false) conduct :=
    (skipWord_obeys admits _).bind fun _ => .ite (joined _) (obeys_pure false)
  unfold skipJoin
  apply (skipAnyWord_obeys admits _).bind
  intro isSided
  apply Obeys.ite
  · exact (skipWord_obeys admits _).bind fun _ => joined _
  apply (skipWord_obeys admits _).bind
  intro isInner
  apply Obeys.ite (joined _)
  apply (skipWord_obeys admits _).bind
  intro isNatural
  apply Obeys.ite
  · apply (skipAnyWord_obeys admits _).bind
    intro isSided
    exact (skipWord_obeys admits _).bind fun _ => joined _
  apply (admits.skip _ (by decide)).bind
  intro isPlain
  apply Obeys.ite (obeys_pure true)
  apply (skipWord_obeys admits _).bind
  intro isCross
  apply Obeys.ite _ outer
  apply (skipAnyWord_obeys admits _).bind
  intro isThere
  exact .ite (obeys_pure true) ((failUnexpected_obeys admits _).bind fun _ => outer)

/-- A name that has to be there, and what is read behind it. -/
theorem queryName_obeys
    {next : Parse Bool}
    (obeys : next.Obeys conduct) :
    Obeys (do
      if !(← isName) then
        failUnexpected "CTE name"
      advance
      next) conduct := by
  intro before
  change ObeysFrom (if !before.cursor.current.kind.isName then
    failUnexpected "CTE name" >>= fun _ => advance >>= fun _ => next
    else advance >>= fun _ => next) conduct before
  cases isName : before.cursor.current.kind.isName with
  | false => exact admits.fails _ (before.not_refusesToken_unexpected _)
  | true =>
      have passed : advance.ObeysFrom conduct before := admits.passName before isName
      exact passed.bind fun _ after _ => obeys after

theorem namedQuery_obeys : namedQuery.Obeys conduct := by
  have last : Obeys (do
      let _ ← group
      skipSign .comma) conduct :=
    admits.group.bind fun _ => skipSign_obeys admits .comma nofun
  have behindName : Obeys (do
      let _ ← group
      acceptWord .AS
      if !(← isSign .leftParen) then
        failUnexpected "'('"
      let _ ← group
      skipSign .comma) conduct := by
    apply admits.group.bind
    intro _
    apply (acceptWord_obeys admits _).bind
    intro _
    apply obeys_isKind_bind
    intro isOpened
    exact .ite ((failUnexpected_obeys admits _).bind fun _ => last) last
  exact queryName_obeys admits behindName

theorem withClause_obeys : withClause.Obeys conduct := by
  unfold withClause
  apply (skipWord_obeys admits _).bind
  intro isWith
  exact .ite (obeys_repeatStep (namedQuery_obeys admits)) (obeys_pure ())

end Passing

end Parse

/-- Leaving the statement as it is. -/
def Conduct.keepingStatement : Conduct where
  relates before after := after.statement = before.statement
  fails _ := True
  refl _ := rfl
  trans first second := second.trans first

open Parse in
theorem Conduct.keepingStatement_admits : keepingStatement.AdmitsPassing where
  fails _ _ := trivial
  skip kinds _ before := by
    rw [outcome_skipAny]
    rfl
  group before := by
    obtain ⟨text, passed⟩ := exists_outcome_group before
    rw [passed]
    rfl
  passName _ _ := rfl

namespace Parse

variable {α β : Type} {conduct : Conduct}

section Compound

variable (admits : conduct.Admits)

include admits

/-- A table that is named is added, with the alias behind its name. -/
theorem aliasedTable_obeysFrom
    {name : String}
    {state : ParseState}
    (isNamed : state.statement.NamesTable name) :
    ObeysFrom (do
      addTable name (← alias?)) conduct state := by
  apply ObeysFrom.bind (admits.aliasName state)
  intro aliasName after ran
  rw [outcome_alias?] at ran
  cases ran
  exact admits.addTable name _ _ isNamed

/-- What is done with a table obeys a conduct if it does so where the name of the table is marked. -/
theorem tableName_bind_obeys
    {next : String → Parse β}
    (obeys : ∀ name state, state.statement.NamesTable name → (next name).ObeysFrom conduct state) :
    (tableName >>= next).Obeys conduct := by
  intro before
  apply ObeysFrom.bind (admits.tableName before)
  intro name after ran
  obtain ⟨token, cursor, -, rfl, rfl⟩ := tableName_eq_ok ran
  exact obeys _ _ ⟨token.start, token.source, List.mem_append_right _ List.mem_cons_self, rfl⟩

theorem singleTable_obeys : singleTable.Obeys conduct := by
  have added : ∀ name state, state.statement.NamesTable name → ObeysFrom (do
      let aliasName ← alias?
      if ← skipJoin then
        throw .multipleTables
      addTable name aliasName) conduct state := by
    intro name state isNamed
    apply ObeysFrom.bind (admits.aliasName state)
    intro aliasName between ran
    rw [outcome_alias?] at ran
    cases ran
    apply ObeysFrom.bind (skipJoin_obeys admits.passing _)
    intro isJoined after skipped
    have related := (skipJoin_obeys Conduct.keepingStatement_admits).relates skipped
    have kept : after.statement = state.statement := related
    split
    next =>
      have refused : (throw .multipleTables : Parse Unit).Obeys conduct :=
        throw_obeys admits.passing (by simp [Error.RefusesToken])
      apply (refused.from after).bind
      intro _ _ thrown
      cases thrown
    next => exact admits.addTable name _ after (kept ▸ isNamed)
  have named : ∀ inParentheses : Bool, Obeys (do
      let name ← tableName
      if inParentheses then
        acceptSign .rightParen
      let aliasName ← alias?
      if ← skipJoin then
        throw .multipleTables
      addTable name aliasName) conduct := by
    intro inParentheses
    apply tableName_bind_obeys admits
    intro name state isNamed
    split
    next =>
      apply ObeysFrom.bind (closing_obeys admits.passing state)
      intro _ after accepted
      have kept : after.statement = state.statement :=
        (closing_obeys Conduct.keepingStatement_admits).relates accepted
      exact added name after (kept ▸ isNamed)
    next => exact added name state isNamed
  unfold singleTable
  apply (opening_obeys admits.passing).bind
  intro inParentheses
  apply Obeys.ite _ (named inParentheses)
  apply obeys_isKind_bind
  intro isQuery
  exact .ite ((throw_obeys admits.passing (by simp [Error.RefusesToken])).bind fun _ =>
    named inParentheses) (named inParentheses)

theorem addItem_obeys
    (depth : Nat)
    (item : SelectItem) :
    (addItem depth item).Obeys conduct :=
  .ite
    (admits.note _ ⟨⟨fun _ => rfl, fun _ => rfl, fun _ => rfl, fun _ => rfl, fun _ => rfl, fun _ => rfl⟩,
      fun _ => rfl, fun _ => rfl⟩)
    (obeys_pure ())

theorem addStar_obeys
    (depth : Nat)
    (owner : Option String) :
    (addStar depth owner).Obeys conduct := by
  have added := addItem_obeys admits depth (.star owner)
  apply Obeys.ite _ added
  refine (admits.note _ ?_).bind fun _ => added
  exact ⟨⟨fun _ => rfl, fun _ => rfl, fun _ => rfl, fun _ => rfl, fun _ => rfl, fun _ => rfl⟩,
    fun _ => rfl, fun _ => rfl⟩

theorem finishItem_obeys
    (depth start : Nat)
    (head : ItemHead) :
    (finishItem depth start head).Obeys conduct := by
  unfold finishItem
  apply obeys_lastStop_bind
  intro headStop
  apply (admits.skipItem _).bind
  intro _
  apply obeys_lastStop_bind
  intro stop
  apply obeys_get_bind
  intro state
  apply admits.aliasName.bind
  intro aliasName
  exact (admits.noteRowNumber _ _).bind fun _ => addItem_obeys admits _ _

theorem selectItem_obeys (depth : Nat) : (selectItem depth).Obeys conduct := by
  unfold selectItem
  apply obeys_current_bind
  intro token
  apply (skipSign_obeys admits.passing .star nofun).bind
  intro isStar
  apply Obeys.ite (addStar_obeys admits _ _)
  apply (admits.itemHead depth).bind
  intro head
  cases head with
  | ownedStar => exact obeys_pure ()
  | other => exact finishItem_obeys admits _ _ _
  | name => exact finishItem_obeys admits _ _ _
  | call aggregation arguments => exact finishItem_obeys admits _ _ _

/-- The items of a select list. -/
theorem selectItems_obeys (depth : Nat) :
    (repeatStep do
      selectItem depth
      skipSign .comma).Obeys conduct :=
  obeys_repeatStep ((selectItem_obeys admits depth).bind fun _ => skipSign_obeys admits.passing .comma nofun)

theorem distinctClause_obeys (depth : Nat) : (distinctClause depth).Obeys conduct := by
  unfold distinctClause
  apply (skipAnyWord_obeys admits.passing _).bind
  intro isDistinct
  apply Obeys.ite
  · refine .ite (admits.note _ ?_) (obeys_pure ())
    exact ⟨⟨fun _ => rfl, fun _ => rfl, fun _ => rfl, fun _ => rfl, fun _ => rfl, fun _ => rfl⟩,
      fun _ => rfl, fun _ => rfl⟩
  · exact (skipWord_obeys admits.passing _).bind fun _ => obeys_pure ()

theorem tableReference_obeys
    {nested : Parse Unit}
    (obeys : nested.Obeys conduct) :
    (tableReference nested).Obeys conduct := by
  unfold tableReference
  apply (opening_obeys admits.passing).bind
  intro inParentheses
  apply Obeys.ite _
    (tableName_bind_obeys admits fun _ _ isNamed => aliasedTable_obeysFrom admits isNamed)
  apply obeys_isKind_bind
  intro isQuery
  apply Obeys.ite
  · apply obeys.bind
    intro _
    apply (closing_obeys admits.passing).bind
    intro _
    exact admits.aliasName.bind fun _ => obeys_pure ()
  · apply tableName_bind_obeys admits
    intro name state isNamed
    apply ObeysFrom.bind (admits.aliasName state)
    intro inner between ran
    rw [outcome_alias?] at ran
    cases ran
    apply ObeysFrom.bind (closing_obeys admits.passing _)
    intro _ after accepted
    have related := (closing_obeys Conduct.keepingStatement_admits).relates accepted
    have kept : after.statement = state.statement := related
    split
    next => exact admits.addTable name _ after (kept ▸ isNamed)
    next => exact aliasedTable_obeysFrom admits (kept ▸ isNamed)

theorem joinCondition_obeys : joinCondition.Obeys conduct := by
  have last : (skipWord .AND).Obeys conduct := skipWord_obeys admits.passing _
  unfold joinCondition
  apply (skipWord_obeys admits.passing _).bind
  intro isOn
  apply Obeys.ite
  · apply obeys_repeatStep
    apply admits.expression.bind
    intro _
    apply (admits.passing.skip _ (by decide)).bind
    intro isCompared
    exact .ite (admits.expression.bind fun _ => last) last
  · apply (skipWord_obeys admits.passing _).bind
    intro isUsing
    exact .ite (admits.passing.group.bind fun _ => obeys_pure ()) (obeys_pure ())

theorem fromClause_obeys
    {nested : Parse Unit}
    (obeys : nested.Obeys conduct) :
    (fromClause nested).Obeys conduct := by
  have table := tableReference_obeys admits obeys
  unfold fromClause
  apply (skipWord_obeys admits.passing _).bind
  intro isFrom
  apply Obeys.ite _ (obeys_pure ())
  apply table.bind
  intro _
  apply obeys_repeatStep
  apply (skipJoin_obeys admits.passing).bind
  intro joined
  apply Obeys.ite _ (obeys_pure joined)
  exact table.bind fun _ => (joinCondition_obeys admits).bind fun _ => obeys_pure joined

theorem orderItem_obeys : orderItem.Obeys conduct := by
  unfold orderItem
  apply admits.expression.bind
  intro ordered
  apply (skipWord_obeys admits.passing _).bind
  intro isDescending
  have direction : Obeys (do
      if ← skipWord .NULLS then
        let _ ← skipAnyWord [.FIRST, .LAST]
      let direction := if isDescending then OrderDirection.descending else .ascending
      return orderItem? (← statement).items direction ordered) conduct := by
    have item := @obeys_statement_bind _ conduct
      (fun statement => pure (orderItem? statement.items
        (if isDescending then .descending else .ascending) ordered)) fun _ => obeys_pure _
    apply (skipWord_obeys admits.passing _).bind
    intro isNulls
    exact .ite ((skipAnyWord_obeys admits.passing _).bind fun _ => item) item
  exact .ite ((skipWord_obeys admits.passing _).bind fun _ => direction) direction

theorem orderItems_obeys : orderItems.Obeys conduct := by
  apply obeys_repeatFrom
  intro items
  apply (orderItem_obeys admits).bind
  intro item
  exact (skipSign_obeys admits.passing .comma nofun).bind fun _ => obeys_pure _

theorem assignment_obeys : assignment.Obeys conduct := by
  unfold assignment
  apply admits.expression.bind
  intro _
  apply (acceptSign_obeys admits.passing .eq nofun).bind
  intro _
  apply admits.expression.bind
  intro _
  exact admits.assignmentRest.bind fun _ => skipSign_obeys admits.passing .comma nofun

section Queries

variable (behavesWhere : whereClause.Obeys conduct) {nested : Parse Unit} {depth : Nat}
variable (notes : depth = 0 → ∀ change : SelectNotes → SelectNotes,
  (∀ notes, (change notes).owners = notes.owners) → (modifyNotes change).Obeys conduct)
variable (sorts : depth = 0 → ∀ change : Statement → Statement,
  Statement.IsNote change → (modifyStatement change).Obeys conduct)

include notes in
theorem selectList_obeys : (selectList depth).Obeys conduct := by
  unfold selectList
  apply (selectItems_obeys admits depth).bind
  intro _
  split
  next isOuter =>
    apply obeys_lastStop_bind
    intro stop
    exact notes isOuter _ fun _ => rfl
  next => exact obeys_pure ()

include notes sorts in
theorem groupByClause_obeys : (groupByClause depth).Obeys conduct := by
  unfold groupByClause
  apply (skipWord_obeys admits.passing _).bind
  intro isGrouped
  apply Obeys.ite _ (obeys_pure ())
  apply (acceptWord_obeys admits.passing _).bind
  intro _
  apply (orderItems_obeys admits).bind
  intro items
  have noted : Obeys (do
      if depth = 0 then
        let stop ← lastStop
        modifyStatement fun statement =>
          { statement with groupByItems := statement.groupByItems ++ items }
        modifyNotes fun notes => { notes with groupByStop := some stop }) conduct := by
    split
    next isOuter =>
      apply obeys_lastStop_bind
      intro stop
      refine (sorts isOuter _ ?_).bind fun _ => notes isOuter _ fun _ => rfl
      exact ⟨fun _ => rfl, fun _ => rfl, fun _ => rfl, fun _ => rfl, fun _ => rfl, fun _ => rfl⟩
    next => exact obeys_pure ()
  apply (skipWord_obeys admits.passing _).bind
  intro isRolledUp
  exact .ite ((skipWord_obeys admits.passing _).bind fun _ => noted) noted

include sorts in
theorem orderByClause_obeys : (orderByClause depth).Obeys conduct := by
  unfold orderByClause
  apply (skipWord_obeys admits.passing _).bind
  intro isOrdered
  apply Obeys.ite _ (obeys_pure ())
  apply (acceptWord_obeys admits.passing _).bind
  intro _
  apply (orderItems_obeys admits).bind
  intro items
  split
  next isOuter =>
    apply sorts isOuter
    exact ⟨fun _ => rfl, fun _ => rfl, fun _ => rfl, fun _ => rfl, fun _ => rfl, fun _ => rfl⟩
  next => exact obeys_pure ()

include sorts in
theorem queryTail_obeys : (queryTail depth).Obeys conduct := by
  have locked : Obeys (do
      if ← isAnyKind [.keyword .UNION, .keyword .INTERSECT, .keyword .EXCEPT, .keyword .MINUS] then
        throw (.setOperator (Text.upperAscii (← current).literals))
      lockClause) conduct := by
    apply obeys_isAnyKind_bind
    intro isCombined
    apply Obeys.ite _ admits.lockClause
    apply obeys_current_bind
    intro token
    exact (throw_obeys admits.passing (by simp [Error.RefusesToken])).bind fun _ => admits.lockClause
  have ordered : Obeys (do
      orderByClause depth
      limitClauses
      if ← isAnyKind [.keyword .UNION, .keyword .INTERSECT, .keyword .EXCEPT, .keyword .MINUS] then
        throw (.setOperator (Text.upperAscii (← current).literals))
      lockClause) conduct :=
    (orderByClause_obeys admits sorts).bind fun _ => admits.limitClauses.bind fun _ => locked
  unfold queryTail
  apply obeys_isKind_bind
  intro isHaving
  exact .ite ((throw_obeys admits.passing (by simp [Error.RefusesToken])).bind fun _ => ordered) ordered

include behavesWhere notes sorts in
theorem queryWith_obeys (obeys : nested.Obeys conduct) : (queryWith nested depth).Obeys conduct := by
  unfold queryWith
  apply (acceptWord_obeys admits.passing _).bind
  intro _
  apply (distinctClause_obeys admits depth).bind
  intro _
  apply admits.topClause.bind
  intro _
  apply (selectList_obeys admits notes).bind
  intro _
  apply (fromClause_obeys admits obeys).bind
  intro _
  apply behavesWhere.bind
  intro _
  apply (groupByClause_obeys admits notes sorts).bind
  intro _
  exact queryTail_obeys admits sorts

include behavesWhere in
/-- The queries in place of a table obey what their clauses obey. -/
theorem query_obeys (fuel depth : Nat) : (query fuel (depth + 1)).Obeys conduct := by
  induction fuel generalizing depth with
  | zero => exact failUnexpected_obeys admits.passing _
  | succ fuel ih => exact queryWith_obeys admits behavesWhere nofun nofun (ih (depth + 1))

include behavesWhere notes sorts in
/-- A query with those in place of its tables obeys what its clauses obey. -/
theorem outerQuery_obeys (fuel : Nat) : (query (fuel + 1) depth).Obeys conduct :=
  queryWith_obeys admits behavesWhere notes sorts (query_obeys admits behavesWhere fuel depth)

include behavesWhere in
theorem updateStatement_obeys : updateStatement.Obeys conduct := by
  unfold updateStatement
  apply (acceptWord_obeys admits.passing _).bind
  intro _
  apply (skipAnyWord_obeys admits.passing _).bind
  intro _
  apply admits.skipTop.bind
  intro _
  apply (singleTable_obeys admits).bind
  intro _
  apply (acceptWord_obeys admits.passing _).bind
  intro _
  apply (obeys_repeatStep (assignment_obeys admits)).bind
  intro _
  apply obeys_isKind_bind
  intro isJoined
  apply Obeys.ite _ behavesWhere
  exact (throw_obeys admits.passing (by simp [Error.RefusesToken])).bind fun _ => behavesWhere

include behavesWhere in
theorem deleteStatement_obeys : deleteStatement.Obeys conduct := by
  unfold deleteStatement
  apply (acceptWord_obeys admits.passing _).bind
  intro _
  apply (skipAnyWord_obeys admits.passing _).bind
  intro _
  apply admits.skipTop.bind
  intro _
  apply (skipWord_obeys admits.passing _).bind
  intro _
  apply (skipWord_obeys admits.passing _).bind
  intro _
  apply (singleTable_obeys admits).bind
  intro _
  apply obeys_isAnyKind_bind
  intro isJoined
  apply Obeys.ite _ behavesWhere
  exact (throw_obeys admits.passing (by simp [Error.RefusesToken])).bind fun _ => behavesWhere

end Queries

end Compound

section Definitions

variable (admits : conduct.Admits) (anyFailure : ∀ error, conduct.fails error)
variable (rest : (passMeasured (Extent.widthUntil [.symbol .semi])).Obeys conduct)

include admits

theorem definedTable_obeys : definedTable.Obeys conduct :=
  tableName_bind_obeys admits fun name state isNamed => admits.addTable name none state isNamed

include anyFailure in
theorem acceptTable_obeys : acceptTable.Obeys conduct := by
  unfold acceptTable
  apply (skipWord_obeys admits.passing _).bind
  intro isTable
  exact .ite (fun _ => anyFailure _) (obeys_pure ())

omit admits in
include rest in
theorem skipRest_obeys : skipRest.Obeys conduct :=
  rest.bind fun _ => obeys_pure ()

include rest in
theorem behindTable_obeys :
    Obeys (do
      definedTable
      skipRest) conduct := by
  apply (definedTable_obeys admits).bind
  intro _
  exact skipRest_obeys rest

include anyFailure rest in
theorem createStatement_obeys : createStatement.Obeys conduct := by
  have last := behindTable_obeys admits rest
  unfold createStatement
  apply (acceptWord_obeys admits.passing _).bind
  intro _
  apply (skipWord_obeys admits.passing _).bind
  intro _
  apply (acceptTable_obeys admits anyFailure).bind
  intro _
  apply (skipWord_obeys admits.passing _).bind
  intro isGuarded
  apply Obeys.ite _ last
  apply (acceptWord_obeys admits.passing _).bind
  intro _
  exact (acceptWord_obeys admits.passing _).bind fun _ => last

include anyFailure rest in
theorem alterStatement_obeys : alterStatement.Obeys conduct := by
  unfold alterStatement
  apply (acceptWord_obeys admits.passing _).bind
  intro _
  apply (acceptTable_obeys admits anyFailure).bind
  intro _
  apply (skipWord_obeys admits.passing _).bind
  intro _
  exact behindTable_obeys admits rest

include anyFailure rest in
theorem dropStatement_obeys : dropStatement.Obeys conduct := by
  have tables : Obeys (repeatStep do
      definedTable
      skipSign .comma) conduct := by
    apply obeys_repeatStep
    apply (definedTable_obeys admits).bind
    intro _
    exact skipSign_obeys admits.passing .comma nofun
  have last : Obeys (do
      repeatStep do
        definedTable
        skipSign .comma
      skipRest) conduct :=
    tables.bind fun _ => skipRest_obeys rest
  unfold dropStatement
  apply (acceptWord_obeys admits.passing _).bind
  intro _
  apply (skipWord_obeys admits.passing _).bind
  intro _
  apply (acceptTable_obeys admits anyFailure).bind
  intro _
  apply (skipWord_obeys admits.passing _).bind
  intro isGuarded
  exact .ite ((acceptWord_obeys admits.passing _).bind fun _ => last) last

include rest in
theorem truncateStatement_obeys : truncateStatement.Obeys conduct := by
  unfold truncateStatement
  apply (acceptWord_obeys admits.passing _).bind
  intro _
  apply (skipWord_obeys admits.passing _).bind
  intro _
  exact behindTable_obeys admits rest

end Definitions

section Where

variable (admits : conduct.AdmitsWhere)

include admits

theorem advance_bind_obeysFrom
    {next : Parse α}
    {state : ParseState}
    {kind : TokenKind}
    (isKind : state.cursor.current.kind = kind)
    (other : kind ≠ .symbol .question)
    (obeys : next.Obeys conduct) :
    (advance >>= fun _ => next).ObeysFrom conduct state := by
  apply (admits.advance state _).bind
  · intro _ after _
    exact obeys after
  · simpa [Token.isPlaceholder, isKind] using other

theorem equality_obeysFrom
    (left : Expression)
    {state : ParseState}
    (isSign : state.cursor.current.kind = .symbol .eq) :
    (equalCondition left).ObeysFrom conduct state := by
  apply advance_bind_obeysFrom admits isSign nofun
  apply admits.expression.bind
  intro right
  apply obeys_statement_bind
  intro statement
  exact .ite (admits.condition _ _ _) (obeys_pure ())

theorem membership_obeysFrom
    (left : Expression)
    {state : ParseState}
    (isWord : state.cursor.current.kind = .keyword .IN) :
    (membershipCondition left).ObeysFrom conduct state := by
  have turn : ∀ members : List Expression, Obeys (do
      if ← skipSign .rightParen then
        return (members, false)
      if ← isKind .finish then
        failUnexpected "')'"
      if ← skipSign .comma then
        return (members, true)
      let member ← expression
      return (members ++ [member], true)) conduct := by
    intro members
    have listed : Obeys (do
        if ← skipSign .comma then
          return (members, true)
        let member ← expression
        return (members ++ [member], true)) conduct := by
      apply (skipSign_obeys admits.passing .comma nofun).bind
      intro isComma
      exact .ite (obeys_pure _) (admits.expression.bind fun _ => obeys_pure _)
    apply (skipSign_obeys admits.passing .rightParen nofun).bind
    intro isClosed
    apply Obeys.ite (obeys_pure _)
    apply obeys_isKind_bind
    intro isFinished
    exact .ite ((failUnexpected_obeys admits.passing _).bind fun _ => listed) listed
  have behindParenthesis : Obeys (do
      let members ← repeatFrom [] fun members => do
        if ← skipSign .rightParen then
          return (members, false)
        if ← isKind .finish then
          failUnexpected "')'"
        if ← skipSign .comma then
          return (members, true)
        let member ← expression
        return (members ++ [member], true)
      if !members.isEmpty && members.all Expression.isValue then
        addCondition left .among members) conduct := by
    apply (obeys_repeatFrom turn []).bind
    intro members
    exact .ite (admits.condition _ _ _) (obeys_pure ())
  apply advance_bind_obeysFrom admits isWord nofun
  apply (acceptSign_obeys admits.passing .leftParen nofun).bind
  intro _
  apply obeys_isKind_bind
  intro isQuery
  apply Obeys.ite _ behindParenthesis
  exact (throw_obeys admits.passing (by simp [Error.RefusesToken])).bind fun _ =>
    behindParenthesis

theorem range_obeysFrom
    (left : Expression)
    {state : ParseState}
    (isWord : state.cursor.current.kind = .keyword .BETWEEN) :
    (rangeCondition left).ObeysFrom conduct state := by
  apply advance_bind_obeysFrom admits isWord nofun
  apply admits.expression.bind
  intro lower
  apply (acceptWord_obeys admits.passing _).bind
  intro _
  apply admits.expression.bind
  intro upper
  exact .ite (admits.condition _ _ _) (obeys_pure ())

theorem passOperand_obeysFrom
    {state : ParseState}
    {kind : TokenKind}
    (isKind : state.cursor.current.kind = kind)
    (other : kind ≠ .symbol .question) :
    comparison.passOperand.ObeysFrom conduct state :=
  advance_bind_obeysFrom admits isKind other (admits.expression.bind fun _ => obeys_pure ())

theorem inequality_obeysFrom
    (left : Expression)
    {state : ParseState}
    (bounds : state.cursor.current.kind ∈ TokenKind.inequalities) :
    (comparison.inequality left).ObeysFrom conduct state := by
  change (if _ then rowNumberCondition else comparison.passOperand : Parse Unit).ObeysFrom conduct state
  split
  · exact admits.rowNumber state bounds
  · apply passOperand_obeysFrom admits rfl
    intro isPlaceholder
    rw [isPlaceholder] at bounds
    exact absurd bounds (by decide)

theorem comparison_obeys : comparison.Obeys conduct := by
  intro before
  apply ObeysFrom.bind (admits.expression before)
  intro left state _
  apply current_bind_obeysFrom
  split
  next isSign => exact equality_obeysFrom admits left isSign
  next isWord => exact membership_obeysFrom admits left isWord
  next isWord => exact range_obeysFrom admits left isWord
  next isSign => exact inequality_obeysFrom admits left (by rw [isSign]; decide)
  next isSign => exact inequality_obeysFrom admits left (by rw [isSign]; decide)
  next isSign => exact inequality_obeysFrom admits left (by rw [isSign]; decide)
  next isSign => exact inequality_obeysFrom admits left (by rw [isSign]; decide)
  next isSign => exact passOperand_obeysFrom admits isSign (by decide)
  next isSign => exact passOperand_obeysFrom admits isSign (by decide)
  next isWord => exact passOperand_obeysFrom admits isWord (by decide)
  next => exact conduct.refl state

theorem predicate_obeys (opened : Nat) : (predicate opened).Obeys conduct := by
  have rest : ∀ further : Nat, Obeys (do
      let closed ← passMeasured fun tokens =>
        min (opened + further) (tokens.takeWhile Token.closesGroup).length
      let left ← skipPredicate (opened + further - closed)
      return (left, ← skipWord .AND)) conduct := by
    intro further
    apply (admits.closeGroups _).bind
    intro closed
    apply (admits.skipPredicate _).bind
    intro left
    exact (skipWord_obeys admits.passing _).bind fun _ => obeys_pure _
  unfold predicate
  apply admits.openGroups.bind
  intro further
  have start : isOperandStart.Obeys conduct := fun before => conduct.refl before
  apply start.bind
  intro isOperand
  exact .ite ((comparison_obeys admits).bind fun _ => rest further) (rest further)

theorem whereClause_obeys : whereClause.Obeys conduct := by
  unfold whereClause
  apply (skipWord_obeys admits.passing _).bind
  intro isWhere
  apply Obeys.ite _ (obeys_pure ())
  exact (obeys_repeatFrom (predicate_obeys admits) 0).bind fun _ => obeys_pure ()

end Where

end Parse

end ShardedSql
