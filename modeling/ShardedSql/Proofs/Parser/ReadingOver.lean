import ShardedSql.Proofs.Parser.Conduct
import ShardedSql.Proofs.Parser.Reading

/-!
# Steps that read over tokens

Outside of WHERE clauses, a parse passes tokens and never touches the conditions.  This holds for the
parts in front of a WHERE clause and for those behind it.
-/

namespace ShardedSql

namespace Parse

open Conduct (readingOver)

variable {α β : Type}

theorem Obeys.not_unsupported
    {step : Parse α}
    (obeys : step.Obeys readingOver)
    (before : ParseState) :
    ¬ ∃ literals, (step.outcome before).1 = .error (.unsupportedToken literals) := by
  rintro ⟨literals, failed⟩
  have obeyed := obeys before
  cases ran : step.outcome before with
  | mk result after =>
      rw [ran] at failed obeyed
      dsimp only at failed
      rw [failed] at obeyed
      exact obeyed ⟨literals, rfl⟩

section Primitives

theorem current_readsOver : current.Obeys readingOver :=
  fun before => readingOver.refl before

theorem statement_readsOver : statement.Obeys readingOver :=
  fun before => readingOver.refl before

theorem lastStop_readsOver : lastStop.Obeys readingOver :=
  fun before => readingOver.refl before

theorem modifyStatement_readsOver
    {change : Statement → Statement}
    (keeps : ∀ statement, (change statement).conditions = statement.conditions) :
    (modifyStatement change).Obeys readingOver :=
  fun before => ⟨List.suffix_refl _, rfl, keeps before.statement⟩

theorem modifyNotes_readsOver (change : SelectNotes → SelectNotes) :
    (modifyNotes change).Obeys readingOver :=
  fun _ => ⟨List.suffix_refl _, rfl, rfl⟩

theorem advance_readsOver : advance.Obeys readingOver :=
  fun before => ⟨List.tail_suffix before.cursor.tokens, rfl, rfl⟩

theorem passBy_readsOver (count : Nat) :
    (modifyCursor (Cursor.passBy count)).Obeys readingOver := by
  intro before
  rw [outcome_modifyCursor]
  refine ⟨?_, rfl, rfl⟩
  have place := before.cursor.place_passBy count
  have suffix := Place.passBy_suffix count before.cursor.place
  rw [← place] at suffix
  exact suffix

theorem pass_readsOver : (modifyCursor Cursor.pass).Obeys readingOver :=
  passBy_readsOver 1

theorem passMeasured_readsOver (width : List Token → Nat) :
    (passMeasured width).Obeys readingOver :=
  obeys_get_bind fun _ => (passBy_readsOver _).bind fun _ => obeys_pure _

theorem throw_readsOver
    {error : Error}
    (other : ¬ error.RefusesToken) :
    (throw error : Parse α).Obeys readingOver :=
  fun _ => other

theorem failUnexpected_readsOver (expected : String) :
    (failUnexpected expected : Parse α).Obeys readingOver :=
  fun before => before.not_refusesToken_unexpected expected

theorem isAnyKind_readsOver (kinds : List TokenKind) :
    (isAnyKind kinds).Obeys readingOver :=
  fun before => readingOver.refl before

theorem isKind_readsOver (kind : TokenKind) :
    (isKind kind).Obeys readingOver :=
  fun before => readingOver.refl before

theorem skipAnyKind_readsOver (kinds : List TokenKind) :
    (skipAnyKind kinds).Obeys readingOver := by
  unfold skipAnyKind
  refine (isAnyKind_readsOver kinds).bind fun _ => ?_
  exact .ite (advance_readsOver.bind fun _ => obeys_pure _) (obeys_pure _)

theorem skipKind_readsOver (kind : TokenKind) :
    (skipKind kind).Obeys readingOver :=
  skipAnyKind_readsOver [kind]

theorem accept_readsOver (kind : TokenKind) :
    (accept kind).Obeys readingOver := by
  unfold accept
  refine (skipKind_readsOver kind).bind fun _ => ?_
  exact .ite (failUnexpected_readsOver _) (obeys_pure _)

theorem isName_readsOver : isName.Obeys readingOver :=
  fun before => readingOver.refl before

end Primitives

section Expressions

theorem expression_readsOver : expression.Obeys readingOver := by
  intro before
  obtain ⟨after, succeeded, sees⟩ := expression_reads before.view before rfl
  rw [succeeded]
  have place : after.cursor.place = before.view.place.operand.2 :=
    congrArg ParseView.place sees
  have sameRule : after.rule = before.rule := congrArg ParseView.rule sees
  have conditions : after.statement.conditions = before.statement.conditions :=
    congrArg ParseView.conditions sees
  have suffix := before.view.place.operand_suffix.trans (List.tail_suffix _)
  rw [← place] at suffix
  exact ⟨suffix, sameRule, conditions⟩

theorem group_readsOver : group.Obeys readingOver := by
  unfold group
  refine obeys_get_bind fun state => ?_
  refine .ite ?_ (obeys_pure _)
  refine (passBy_readsOver _).bind fun _ => ?_
  exact lastStop_readsOver.bind fun _ => obeys_pure _

theorem alias?_readsOver : alias?.Obeys readingOver := by
  unfold alias?
  refine (skipKind_readsOver _).bind fun _ => current_readsOver.bind fun token => ?_
  exact .ite (advance_readsOver.bind fun _ => obeys_pure _) (obeys_pure _)

theorem mark_readsOver (marker : Marker) :
    (modifyStatement fun statement => statement.mark marker).Obeys readingOver :=
  modifyStatement_readsOver fun _ => rfl

/-- Pass a name that has to be there. -/
theorem needName_readsOver
    {next : Parse β}
    (obeys : next.Obeys readingOver)
    (expected : String) :
    Obeys (do
      if !(← isName) then
        failUnexpected expected
      next) readingOver := by
  refine isName_readsOver.bind fun _ => ?_
  exact .ite ((failUnexpected_readsOver _).bind fun _ => obeys) obeys

theorem tableName_readsOver : tableName.Obeys readingOver := by
  unfold tableName
  have named : ∀ token : Token, Obeys (do
      modifyStatement fun statement => statement.mark (.table token.start token.source)
      return unquoteName token.source) readingOver :=
    fun token => (mark_readsOver _).bind fun _ => obeys_pure _
  refine needName_readsOver (current_readsOver.bind fun first => ?_) _
  refine advance_readsOver.bind fun _ => (skipKind_readsOver _).bind fun _ => ?_
  refine .ite (needName_readsOver ?_ _) ((obeys_pure _).bind named)
  refine current_readsOver.bind fun second => advance_readsOver.bind fun _ => ?_
  exact (obeys_pure _).bind named

theorem addTable_readsOver
    (name : String)
    (aliasName : Option String) :
    (addTable name aliasName).Obeys readingOver :=
  modifyStatement_readsOver fun _ => rfl

/-- Pass a word that has to be there, and go on. -/
theorem acceptThen_readsOver
    {next : Parse β}
    (kind : TokenKind)
    (obeys : next.Obeys readingOver) :
    (accept kind >>= fun _ => next).Obeys readingOver :=
  (accept_readsOver kind).bind fun _ => obeys

theorem skipJoin_readsOver : skipJoin.Obeys readingOver := by
  have joined : ∀ isJoin : Bool, (pure isJoin : Parse Bool).Obeys readingOver := obeys_pure
  unfold skipJoin
  refine (skipAnyKind_readsOver _).bind fun _ => .ite ?_ ?_
  · exact (skipKind_readsOver _).bind fun _ => acceptThen_readsOver _ (joined true)
  refine (skipKind_readsOver _).bind fun _ => .ite (acceptThen_readsOver _ (joined true)) ?_
  refine (skipKind_readsOver _).bind fun _ => .ite ?_ ?_
  · refine (skipAnyKind_readsOver _).bind fun _ => (skipKind_readsOver _).bind fun _ => ?_
    exact acceptThen_readsOver _ (joined true)
  refine (skipAnyKind_readsOver _).bind fun _ => .ite (joined true) ?_
  have last : Obeys (do
      if ← skipWord .OUTER then
        acceptWord .APPLY
        return true
      return false) readingOver :=
    (skipKind_readsOver _).bind fun _ => .ite (acceptThen_readsOver _ (joined true)) (joined false)
  refine (skipKind_readsOver _).bind fun _ => .ite ?_ last
  refine (skipAnyKind_readsOver _).bind fun _ => .ite (joined true) ?_
  exact (failUnexpected_readsOver _).bind fun _ => last

theorem singleTable_readsOver : singleTable.Obeys readingOver := by
  have behindName : ∀ name : String, Obeys (do
      let aliasName ← alias?
      if ← skipJoin then
        throw .multipleTables
      addTable name aliasName) readingOver := by
    intro name
    refine alias?_readsOver.bind fun aliasName => skipJoin_readsOver.bind fun _ => ?_
    refine .ite ((throw_readsOver ?_).bind fun _ => addTable_readsOver _ _)
      (addTable_readsOver _ _)
    simp [Error.RefusesToken]
  unfold singleTable
  refine (skipKind_readsOver _).bind fun inParentheses => ?_
  have table : Obeys (do
      let name ← tableName
      if inParentheses then
        acceptSign .rightParen
      let aliasName ← alias?
      if ← skipJoin then
        throw .multipleTables
      addTable name aliasName) readingOver :=
    tableName_readsOver.bind fun name =>
      .ite (acceptThen_readsOver _ (behindName name)) (behindName name)
  refine .ite ((isKind_readsOver _).bind fun _ => .ite ?_ table) table
  exact (throw_readsOver (by simp [Error.RefusesToken])).bind fun _ => table

theorem limitOperand_readsOver : limitOperand.Obeys readingOver := by
  unfold limitOperand
  refine current_readsOver.bind fun token => ?_
  split
  next =>
    split
    next => exact throw_readsOver (by simp [Error.RefusesToken])
    next value _ =>
      have taken : Obeys (do
          advance
          return LimitSpan.mk (.literal value) token.start token.stop) readingOver :=
        advance_readsOver.bind fun _ => obeys_pure _
      refine .ite ((throw_readsOver ?_).bind fun _ => taken) taken
      simp [Error.RefusesToken]
  next =>
    exact obeys_get_bind fun state => pass_readsOver.bind fun _ => obeys_pure _
  next => exact failUnexpected_readsOver _

end Expressions

section Queries

theorem addItem_readsOver
    (depth : Nat)
    (item : SelectItem) :
    (addItem depth item).Obeys readingOver :=
  .ite (modifyStatement_readsOver fun _ => rfl) (obeys_pure _)

theorem addStar_readsOver
    (depth : Nat)
    (owner : Option String) :
    (addStar depth owner).Obeys readingOver := by
  have added := addItem_readsOver depth (.star owner)
  exact .ite ((modifyStatement_readsOver (by exact fun _ => rfl)).bind fun _ => added) added

theorem itemHead_readsOver (depth : Nat) :
    (itemHead depth).Obeys readingOver := by
  unfold itemHead
  refine current_readsOver.bind fun token => .ite (obeys_pure _) ?_
  refine advance_readsOver.bind fun _ => (isKind_readsOver _).bind fun _ => ?_
  refine .ite (group_readsOver.bind fun _ => obeys_pure _) ?_
  refine (skipKind_readsOver _).bind fun _ => .ite ?_ (obeys_pure _)
  refine (modifyNotes_readsOver _).bind fun _ => (skipKind_readsOver _).bind fun _ => ?_
  refine .ite ((addStar_readsOver _ _).bind fun _ => obeys_pure _) ?_
  exact advance_readsOver.bind fun _ => obeys_pure _

theorem skipItem_readsOver (afterOperand : Bool) :
    (skipItem afterOperand).Obeys readingOver := by
  unfold skipItem
  refine obeys_get_bind fun state => (passBy_readsOver _).bind fun _ => ?_
  exact .ite (failUnexpected_readsOver _) (obeys_pure _)

theorem noteRowNumber_readsOver
    (expression : String)
    (aliasName : Option String) :
    (noteRowNumber expression aliasName).Obeys readingOver := by
  intro before
  unfold noteRowNumber
  rw [outcome_bind_of_ok (outcome_get before)]
  generalize (before.dialect.rowNumberColumn?.any fun column =>
    Text.sameName column expression) = isRowNumber
  cases isRowNumber with
  | false => exact readingOver.refl before
  | true =>
      cases aliasName with
      | none => exact readingOver.refl before
      | some name => exact ⟨List.suffix_refl _, rfl, rfl⟩

theorem finishItem_readsOver
    (depth start : Nat)
    (head : ItemHead) :
    (finishItem depth start head).Obeys readingOver := by
  unfold finishItem
  refine lastStop_readsOver.bind fun _ => (skipItem_readsOver _).bind fun _ => ?_
  refine lastStop_readsOver.bind fun _ => obeys_get_bind fun state => ?_
  refine alias?_readsOver.bind fun _ => (noteRowNumber_readsOver _ _).bind fun _ => ?_
  exact addItem_readsOver _ _

theorem selectItem_readsOver (depth : Nat) :
    (selectItem depth).Obeys readingOver := by
  unfold selectItem
  refine current_readsOver.bind fun token => (skipKind_readsOver _).bind fun _ => ?_
  refine .ite (addStar_readsOver _ _) ((itemHead_readsOver depth).bind fun head => ?_)
  cases head with
  | ownedStar => exact obeys_pure ()
  | other => exact finishItem_readsOver _ _ _
  | name => exact finishItem_readsOver _ _ _
  | call aggregation arguments => exact finishItem_readsOver _ _ _

theorem selectList_readsOver (depth : Nat) :
    (selectList depth).Obeys readingOver := by
  unfold selectList
  refine (obeys_repeatStep ((selectItem_readsOver depth).bind fun _ => ?_)).bind fun _ => ?_
  · exact skipKind_readsOver _
  · refine .ite (lastStop_readsOver.bind fun _ => modifyNotes_readsOver _) (obeys_pure _)

theorem markRowCount_readsOver (bound : LimitSpan) :
    (markRowCount bound).Obeys readingOver := by
  unfold markRowCount
  split
  next => exact mark_readsOver _
  next => exact obeys_pure ()

theorem markOffset_readsOver (bound : LimitSpan) :
    (markOffset bound).Obeys readingOver := by
  unfold markOffset
  split
  next => exact mark_readsOver _
  next => exact obeys_pure ()

theorem topOperand_readsOver : topOperand.Obeys readingOver := by
  unfold topOperand
  refine (skipKind_readsOver _).bind fun _ => limitOperand_readsOver.bind fun bound => ?_
  exact .ite (acceptThen_readsOver _ (obeys_pure bound)) (obeys_pure bound)

theorem topClause_readsOver : topClause.Obeys readingOver := by
  unfold topClause
  refine (skipKind_readsOver _).bind fun _ => .ite ?_ (obeys_pure _)
  refine topOperand_readsOver.bind fun bound => ?_
  exact (modifyStatement_readsOver (by exact fun _ => rfl)).bind fun _ =>
    markRowCount_readsOver bound

theorem joinCondition_readsOver : joinCondition.Obeys readingOver := by
  unfold joinCondition
  refine (skipKind_readsOver _).bind fun _ => .ite ?_ ?_
  · refine obeys_repeatStep (expression_readsOver.bind fun _ => ?_)
    refine (skipAnyKind_readsOver _).bind fun _ => .ite ?_ (skipKind_readsOver _)
    exact expression_readsOver.bind fun _ => skipKind_readsOver _
  · refine (skipKind_readsOver _).bind fun _ => .ite ?_ (obeys_pure _)
    exact group_readsOver.bind fun _ => obeys_pure _

theorem orderItem_readsOver : orderItem.Obeys readingOver := by
  unfold orderItem
  refine expression_readsOver.bind fun ordered => (skipKind_readsOver _).bind fun isDescending => ?_
  have direction : Obeys (do
      if ← skipWord .NULLS then
        let _ ← skipAnyWord [.FIRST, .LAST]
      let direction := if isDescending then OrderDirection.descending else .ascending
      return orderItem? (← statement).items direction ordered) readingOver := by
    have item := statement_readsOver.bind fun statement : Statement => obeys_pure
      (orderItem? statement.items (if isDescending then .descending else .ascending) ordered)
    refine (skipKind_readsOver _).bind fun _ => .ite ?_ item
    exact (skipAnyKind_readsOver _).bind fun _ => item
  exact .ite ((skipKind_readsOver _).bind fun _ => direction) direction

theorem orderItems_readsOver : orderItems.Obeys readingOver :=
  obeys_repeatFrom (fun _ => orderItem_readsOver.bind fun _ =>
    (skipKind_readsOver _).bind fun _ => obeys_pure _) []

theorem groupByClause_readsOver (depth : Nat) :
    (groupByClause depth).Obeys readingOver := by
  unfold groupByClause
  refine (skipKind_readsOver _).bind fun _ => .ite ?_ (obeys_pure _)
  refine acceptThen_readsOver _ (orderItems_readsOver.bind fun items => ?_)
  have grouped : Obeys (do
      if depth = 0 then
        let stop ← lastStop
        modifyStatement fun statement =>
          { statement with groupByItems := statement.groupByItems ++ items }
        modifyNotes fun notes => { notes with groupByStop := some stop }) readingOver := by
    refine .ite (lastStop_readsOver.bind fun stop => ?_) (obeys_pure _)
    exact (modifyStatement_readsOver (by exact fun _ => rfl)).bind fun _ => modifyNotes_readsOver _
  refine (skipKind_readsOver _).bind fun _ => .ite ?_ grouped
  exact (skipKind_readsOver _).bind fun _ => grouped

theorem orderByClause_readsOver (depth : Nat) :
    (orderByClause depth).Obeys readingOver := by
  unfold orderByClause
  refine (skipKind_readsOver _).bind fun _ => .ite ?_ (obeys_pure _)
  refine acceptThen_readsOver _ (orderItems_readsOver.bind fun items => ?_)
  exact .ite (modifyStatement_readsOver (by exact fun _ => rfl)) (obeys_pure _)

theorem limitClause_readsOver (limit : Limit) :
    (limitClause limit).Obeys readingOver := by
  have given : ∀ limit : Limit, (pure (limit, true) : Parse (Limit × Bool)).Obeys readingOver :=
    fun limit => obeys_pure (limit, true)
  unfold limitClause
  refine (skipKind_readsOver _).bind fun _ => .ite ?_ ?_
  · refine (skipKind_readsOver _).bind fun _ => .ite (given limit) ?_
    refine limitOperand_readsOver.bind fun first => (skipKind_readsOver _).bind fun _ => ?_
    refine .ite (limitOperand_readsOver.bind fun second => ?_) ?_
    · refine (markOffset_readsOver first).bind fun _ => ?_
      exact (markRowCount_readsOver second).bind fun _ => given _
    · exact (markRowCount_readsOver first).bind fun _ => given _
  refine (skipKind_readsOver _).bind fun _ => .ite ?_ ?_
  · refine limitOperand_readsOver.bind fun bound => (markOffset_readsOver bound).bind fun _ => ?_
    exact (skipAnyKind_readsOver _).bind fun _ => given _
  refine (skipKind_readsOver _).bind fun _ => .ite ?_ (obeys_pure _)
  have fetched : ∀ rowCount : LimitOperand, Obeys (do
      let _ ← skipAnyWord [.ROW, .ROWS]
      let _ ← skipWord .ONLY
      return ({ limit with rowCount := some rowCount }, true)) readingOver := fun rowCount =>
    (skipAnyKind_readsOver _).bind fun _ => (skipKind_readsOver _).bind fun _ => given _
  refine (skipAnyKind_readsOver _).bind fun _ => (isAnyKind_readsOver _).bind fun _ => ?_
  refine .ite (limitOperand_readsOver.bind fun bound => ?_) ((obeys_pure _).bind fetched)
  exact (markRowCount_readsOver bound).bind fun _ => (obeys_pure _).bind fetched

theorem limitClauses_readsOver : limitClauses.Obeys readingOver := by
  unfold limitClauses
  refine (isAnyKind_readsOver _).bind fun _ => .ite ?_ (obeys_pure _)
  refine (obeys_repeatFrom limitClause_readsOver _).bind fun limit => ?_
  exact modifyStatement_readsOver (by exact fun _ => rfl)

theorem advanceBy_readsOver (count : Nat) :
    (modifyCursor (Cursor.advanceBy count)).Obeys readingOver := by
  intro before
  rw [outcome_modifyCursor]
  refine ⟨?_, rfl, rfl⟩
  change (before.cursor.advanceBy count).tokens <:+ before.cursor.tokens
  generalize before.cursor = cursor
  induction count generalizing cursor with
  | zero => exact List.suffix_refl _
  | succ count ih => exact (ih cursor.advance).trans (List.tail_suffix cursor.tokens)

theorem lockClause_readsOver : lockClause.Obeys readingOver := by
  unfold lockClause
  refine (isAnyKind_readsOver _).bind fun _ => .ite ?_ (obeys_pure _)
  exact obeys_get_bind fun state => advanceBy_readsOver _

theorem distinctClause_readsOver (depth : Nat) :
    (distinctClause depth).Obeys readingOver := by
  unfold distinctClause
  refine (skipAnyKind_readsOver _).bind fun _ => .ite ?_ ?_
  · exact .ite (modifyStatement_readsOver (by exact fun _ => rfl)) (obeys_pure _)
  · exact (skipKind_readsOver _).bind fun _ => obeys_pure _

theorem markOwners_readsOver : markOwners.Obeys readingOver := by
  unfold markOwners
  refine obeys_get_bind fun state => ?_
  refine (obeys_forIn (fun owner _ => ?_) _ _).bind fun _ => obeys_pure _
  refine statement_readsOver.bind fun statement => ?_
  exact .ite ((mark_readsOver _).bind fun _ => obeys_pure _) (obeys_pure _)

end Queries

section Changes

theorem skipTop_readsOver : skipTop.Obeys readingOver := by
  unfold skipTop
  refine (skipKind_readsOver _).bind fun _ => .ite ?_ (obeys_pure _)
  exact topOperand_readsOver.bind fun _ => obeys_pure _

theorem assignment_readsOver : assignment.Obeys readingOver := by
  unfold assignment
  refine expression_readsOver.bind fun _ => acceptThen_readsOver _ ?_
  refine expression_readsOver.bind fun _ => (passMeasured_readsOver _).bind fun _ => ?_
  exact skipKind_readsOver _

theorem namedQuery_readsOver : namedQuery.Obeys readingOver := by
  unfold namedQuery
  refine needName_readsOver (advance_readsOver.bind fun _ => ?_) _
  refine group_readsOver.bind fun _ => acceptThen_readsOver _ ?_
  have last : Obeys (do
      let _ ← group
      skipSign .comma) readingOver := group_readsOver.bind fun _ => skipKind_readsOver _
  refine (isKind_readsOver _).bind fun _ => .ite ?_ last
  exact (failUnexpected_readsOver _).bind fun _ => last

theorem withClause_readsOver : withClause.Obeys readingOver := by
  unfold withClause
  refine (skipKind_readsOver _).bind fun _ => .ite ?_ (obeys_pure _)
  exact obeys_repeatStep namedQuery_readsOver

end Changes

end Parse

end ShardedSql
