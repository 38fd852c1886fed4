import ShardedSql.Proofs.Parser.Recording
import ShardedSql.Proofs.Parser.Walking

/-!
# The target of an UPDATE or a DELETE

An UPDATE or a DELETE names its target in front of everything else.  A second table directly behind the
target is always refused.  What stands behind an assigned value is passed over up to a comma or a clause
that ends the assignments, whatever it is: a FROM clause that stands there is never seen.
-/

namespace ShardedSql

/-- The words and the sign that bring another table where they stand directly behind a target. -/
def TokenKind.tableSigns : List TokenKind :=
  [.keyword .FROM, .keyword .USING] ++ joinSigns

/-- Whether statements of a kind change exactly one table and may have a WHERE clause. -/
def StatementKind.hasTarget : StatementKind → Bool
  | .update => true
  | .delete => true
  | _ => false

theorem StatementKind.hasWhere_of_hasTarget
    (kind : StatementKind)
    (hasTarget : kind.hasTarget = true) :
    kind.hasWhere = true := by
  cases kind with
  | update => rfl
  | delete => rfl
  | _ => cases hasTarget

namespace Cursor

/-- The cursor directly behind the value of the assignment ahead. -/
def behindValue (cursor : Cursor) : Cursor :=
  cursor.behindOperand.advance.behindOperand

/-- The cursor behind the assignment ahead and what is passed over behind its value. -/
def behindAssignment (cursor : Cursor) : Cursor :=
  cursor.behindValue.passBy (Extent.assignmentWidth cursor.behindValue.tokens)

/-- The marks on the owners in the assignment ahead that are tables. -/
def assignmentMarks
    (tables : Tables)
    (cursor : Cursor) : List Marker :=
  cursor.ownerMarks tables ++ cursor.behindOperand.advance.ownerMarks tables

/-- The places of assignments, and the cursor behind the last one. -/
inductive ReadsChanges : Cursor → List Cursor → Cursor → Prop where
  | last
      {cursor : Cursor}
      (isSign : cursor.behindOperand.current.kind = .symbol .eq)
      (noComma : cursor.behindAssignment.current.kind ≠ .symbol .comma) :
      ReadsChanges cursor [cursor] cursor.behindAssignment
  | next
      {cursor last : Cursor}
      {starts : List Cursor}
      (isSign : cursor.behindOperand.current.kind = .symbol .eq)
      (isComma : cursor.behindAssignment.current.kind = .symbol .comma)
      (others : cursor.behindAssignment.advance.ReadsChanges starts last) :
      ReadsChanges cursor (cursor :: starts) last

/-- What stands between the target of a statement and its WHERE clause: assignments behind that of an
UPDATE, nothing behind that of a DELETE. -/
inductive ReadsChange (behind : Cursor) : StatementKind → List Cursor → Cursor → Prop where
  | update
      {starts : List Cursor}
      {last : Cursor}
      (isSet : behind.current.kind = .keyword .SET)
      (changes : behind.advance.ReadsChanges starts last) :
      ReadsChange behind .update starts last
  | delete (alone : behind.current.kind ∉ TokenKind.tableSigns) :
      ReadsChange behind .delete [] behind

theorem ReadsChange.alone
    {behind last : Cursor}
    {kind : StatementKind}
    {starts : List Cursor}
    (change : behind.ReadsChange kind starts last) :
    behind.current.kind ∉ TokenKind.tableSigns := by
  cases change with
  | update isSet => rw [isSet]; decide
  | delete alone => exact alone

section Assignments

variable {cursor : Cursor}

theorem length_behindAssignment_lt (isSign : cursor.behindOperand.current.kind = .symbol .eq) :
    cursor.behindAssignment.tokens.length < cursor.tokens.length := by
  have first := cursor.length_behindOperand_le
  have second := length_advance_lt isSign nofun
  have third := cursor.behindOperand.advance.length_behindOperand_le
  have fourth := (cursor.behindValue.reaches_passBy
    (Extent.assignmentWidth cursor.behindValue.tokens)).suffix.length_le
  unfold behindAssignment
  unfold behindValue at fourth ⊢
  omega

/-- Behind an assignment stands the end of the statement, a comma, or a word that ends assignments. -/
theorem ends_drop_assignmentWidth (tokens : List Token) :
    ∀ token ∈ (tokens.drop (Extent.assignmentWidth tokens)).head?,
      token.endsStatement = true ∨ token.kind.endsAssignment = true := by
  induction tokens using Extent.assignmentWidth.induct with
  | case1 => rw [Extent.assignmentWidth]; nofun
  | case2 first rest ends =>
      rw [Extent.assignmentWidth, if_pos ends]
      intro token isFirst
      obtain rfl := Option.some.inj isFirst
      simpa using ends
  | case3 first rest goesOn group ih =>
      rw [Extent.assignmentWidth, if_neg goesOn]
      have positive : 1 ≤ group := Nat.le_max_left 1 _
      have split : (first :: rest).drop group = rest.drop (group - 1) := by
        rw [← Nat.sub_add_cancel positive, List.drop_succ_cons, Nat.add_sub_cancel]
      change ∀ token ∈ ((first :: rest).drop
        (group + Extent.assignmentWidth (rest.drop (group - 1)))).head?, _
      rw [← List.drop_drop, split]
      exact ih

end Assignments

theorem behindAssignment_alone
    {cursor : Cursor}
    (noComma : cursor.behindAssignment.current.kind ≠ .symbol .comma) :
    cursor.behindAssignment.current.kind ∉ TokenKind.tableSigns := by
  have tokens : cursor.behindAssignment.tokens =
      cursor.behindValue.tokens.drop (Extent.assignmentWidth cursor.behindValue.tokens) :=
    congrArg Place.tokens (place_passBy _ _)
  have ends := ends_drop_assignmentWidth cursor.behindValue.tokens
  rw [← tokens] at ends
  unfold current at noComma ⊢
  cases ahead : cursor.behindAssignment.tokens.head? with
  | none => exact (by decide : TokenKind.finish ∉ TokenKind.tableSigns)
  | some token =>
      rw [ahead] at noComma
      have isEnd := ends token ahead
      change token.kind ≠ _ at noComma
      change token.kind ∉ TokenKind.tableSigns
      simp only [Token.endsStatement, Bool.or_eq_true, beq_iff_eq] at isEnd
      obtain (isFinish | isSemi) | endsAssignment := isEnd
      · rw [isFinish]; decide
      · rw [isSemi]; decide
      · unfold TokenKind.endsAssignment at endsAssignment
        split at endsAssignment
        next isComma => exact absurd isComma noComma
        next isWhere => rw [isWhere]; decide
        next isOrder => rw [isOrder]; decide
        next isLimit => rw [isLimit]; decide
        next => cases endsAssignment

/-- The token behind all assignments is none that brings another table. -/
theorem ReadsChanges.alone
    {cursor last : Cursor}
    {starts : List Cursor}
    (changes : cursor.ReadsChanges starts last) :
    last.current.kind ∉ TokenKind.tableSigns := by
  induction changes with
  | last _ noComma => exact behindAssignment_alone noComma
  | next _ _ _ ih => exact ih

theorem ReadsChange.alone_last
    {behind last : Cursor}
    {kind : StatementKind}
    {starts : List Cursor}
    (change : behind.ReadsChange kind starts last) :
    last.current.kind ∉ TokenKind.tableSigns := by
  cases change with
  | update _ changes => exact changes.alone
  | delete alone => exact alone

end Cursor

namespace ParseState

/-- The state behind the assignments at some places. -/
def changed
    (state : ParseState)
    (starts : List Cursor)
    (last : Cursor) : ParseState :=
  { state with cursor := last }.marked
    (starts.flatMap (Cursor.assignmentMarks state.statement.tables))

theorem changed_nil (state : ParseState) :
    state.changed [] state.cursor = state := by
  simp [changed]

/-- The state behind the only table of a statement. -/
def targeted
    (state : ParseState)
    (token : Token)
    (aliasName : Option String)
    (behind : Cursor) : ParseState :=
  ({ state with cursor := behind }.marked [.table token.start token.source]).withTable
    ⟨unquoteName token.source, aliasName⟩

end ParseState

namespace Parse

variable {before after : ParseState}

theorem accept_eq_ok
    {kind : TokenKind}
    (accepted : (accept kind).outcome before = (.ok (), after)) :
    before.cursor.current.kind = kind ∧ after = { before with cursor := before.cursor.advance } := by
  rw [outcome_accept] at accepted
  split at accepted
  next isThere =>
    cases accepted
    exact ⟨isThere, rfl⟩
  next => cases accepted

theorem outcome_accept_of_kind
    {kind : TokenKind}
    (isThere : before.cursor.current.kind = kind) :
    (accept kind).outcome before = (.ok (), { before with cursor := before.cursor.advance }) := by
  rw [outcome_accept, if_pos isThere]

theorem outcome_assignment (isSign : before.cursor.behindOperand.current.kind = .symbol .eq) :
    assignment.outcome before =
      if before.cursor.behindAssignment.current.kind = .symbol .comma then
        (.ok true, before.changed [before.cursor] before.cursor.behindAssignment.advance)
      else
        (.ok false, before.changed [before.cursor] before.cursor.behindAssignment) := by
  unfold assignment
  rw [outcome_bind_of_ok (outcome_expression _), acceptSign,
    outcome_bind_of_ok (outcome_accept_of_kind isSign),
    outcome_bind_of_ok (outcome_expression _), outcome_bind_of_ok (outcome_passMeasured _ _),
    skipSign, outcome_skipKind]
  simp only [ParseState.changed, ParseState.marked, Cursor.behindAssignment, Cursor.behindValue,
    Cursor.assignmentMarks, List.flatMap_cons, List.flatMap_nil, List.append_nil, List.append_assoc]

theorem assignment_eq_ok
    {again : Bool}
    (ran : assignment.outcome before = (.ok again, after)) :
    before.cursor.behindOperand.current.kind = .symbol .eq := by
  unfold assignment at ran
  rw [outcome_bind_of_ok (outcome_expression _)] at ran
  obtain ⟨_, between, accepted, -⟩ := outcome_bind_eq_ok.mp ran
  exact (accept_eq_ok accepted).1

/-- Assignments that are read stand ahead. -/
theorem exists_readsChanges (ran : (repeatStep assignment).outcome before = (.ok (), after)) :
    ∃ starts last, before.cursor.ReadsChanges starts last ∧ after = before.changed starts last := by
  apply repeatStep_finishes (fun before after => ∃ starts last,
    before.cursor.ReadsChanges starts last ∧ after = before.changed starts last) _ _ ran
  · intro before after stepped
    have isSign := assignment_eq_ok stepped
    rw [outcome_assignment isSign] at stepped
    split at stepped
    next => cases stepped
    next noComma =>
      cases stepped
      exact ⟨[before.cursor], _, .last isSign noComma, rfl⟩
  · intro before between stepped
    have isSign := assignment_eq_ok stepped
    rw [outcome_assignment isSign] at stepped
    split at stepped
    next isComma =>
      cases stepped
      constructor
      · have shorter := Cursor.length_behindAssignment_lt isSign
        exact Nat.lt_of_le_of_lt before.cursor.behindAssignment.length_advance_le shorter
      · rintro after ⟨starts, last, others, rfl⟩
        refine ⟨before.cursor :: starts, last, .next isSign isComma others, ?_⟩
        simp [ParseState.changed, ParseState.marked]
    next => cases stepped

theorem iterate_assignment
    {starts : List Cursor}
    {cursor last : Cursor}
    (changes : cursor.ReadsChanges starts last)
    {fuel : Nat}
    (isAhead : before.cursor = cursor)
    (enough : cursor.tokens.length < fuel) :
    (iterate (fun _ => return ((), ← assignment)) fuel ()).outcome before =
      (.ok (), before.changed starts last) := by
  induction changes generalizing before fuel with
  | last isSign noComma =>
      cases fuel with
      | zero => omega
      | succ fuel =>
          subst isAhead
          have turn := outcome_assignment isSign
          rw [if_neg noComma] at turn
          rw [iterate, bind_assoc, outcome_bind_of_ok turn]
          rfl
  | next isSign isComma _ ih =>
      cases fuel with
      | zero => omega
      | succ fuel =>
          subst isAhead
          have turn := outcome_assignment isSign
          rw [if_pos isComma] at turn
          have shorter := Cursor.length_behindAssignment_lt isSign
          have passed := before.cursor.behindAssignment.length_advance_le
          rw [iterate, bind_assoc, outcome_bind_of_ok turn]
          refine (ih rfl (by omega)).trans ?_
          simp [ParseState.changed, ParseState.marked]

/-- Assignments that stand ahead are read. -/
theorem outcome_assignments
    {starts : List Cursor}
    {last : Cursor}
    (changes : before.cursor.ReadsChanges starts last) :
    (repeatStep assignment).outcome before = (.ok (), before.changed starts last) :=
  iterate_assignment changes rfl (Nat.lt_succ_self _)

theorem tableName_of_target
    {token : Token}
    {behind : Cursor}
    (table : before.cursor.TableName token behind) :
    tableName.outcome before = (.ok (unquoteName token.source),
      { before with cursor := behind }.marked [.table token.start token.source]) := by
  have named (next : Parse String) : outcome (do
      if !(← isName) then
        failUnexpected "table name"
      next) before = next.outcome before := by
    change outcome (if !before.cursor.current.kind.isName then _ else next) before = _
    rw [table.isName]
    rfl
  unfold tableName
  rw [named, outcome_bind_of_ok (outcome_current _), outcome_bind_of_ok (outcome_advance _),
    outcome_bind, skipSign, outcome_skipKind]
  cases table with
  | bare _ noOwner => rw [if_neg noOwner]; rfl
  | owned _ isPoint isSecond =>
      rw [if_pos isPoint]
      change outcome (if !before.cursor.advance.advance.current.kind.isName then _ else _) _ = _
      rw [isSecond]
      rfl

/-- The only table of a statement is added, unless the word of a join follows it. -/
theorem singleTable_of_target
    {token : Token}
    {aliasName : Option String}
    {behind : Cursor}
    (target : before.cursor.SingleTable token aliasName behind) :
    singleTable.outcome before = outcome (do
      if ← skipJoin then
        throw .multipleTables
      addTable (unquoteName token.source) aliasName)
        ({ before with cursor := behind }.marked [.table token.start token.source]) := by
  unfold singleTable
  rw [outcome_bind, skipSign, outcome_skipKind]
  cases target with
  | plain table =>
      have opensNothing : before.cursor.current.kind ≠ .symbol .leftParen := by
        intro opens
        have isName := table.isName
        rw [opens] at isName
        cases isName
      rw [if_neg opensNothing]
      refine (outcome_bind_of_ok (tableName_of_target table)).trans ?_
      exact outcome_bind_of_ok (outcome_alias? _)
  | grouped opens table closes =>
      rw [if_pos opens]
      change outcome (isKind (.keyword .SELECT) >>= fun _ => _) _ = _
      rw [outcome_bind_of_ok (outcome_isKind _ _), if_neg]
      · refine (outcome_bind_of_ok (tableName_of_target table)).trans ?_
        refine (outcome_bind_of_ok (outcome_accept_of_kind closes)).trans ?_
        exact outcome_bind_of_ok (outcome_alias? _)
      · intro isSelect
        have isName := table.isName
        rw [beq_iff_eq.mp isSelect] at isName
        cases isName

/-- Read what stands in front of the target of a statement. -/
def targetHead : StatementKind → Parse Unit
  | .update => do
      acceptWord .UPDATE
      let _ ← skipAnyWord [.LOW_PRIORITY, .IGNORE, .ONLY]
      skipTop
  | .delete => do
      acceptWord .DELETE
      let _ ← skipAnyWord [.LOW_PRIORITY, .QUICK, .IGNORE]
      skipTop
      let _ ← skipWord .FROM
      let _ ← skipWord .ONLY
  | _ => pure ()

/-- Read what stands between the target of a statement and its WHERE clause. -/
def change : StatementKind → Parse Unit
  | .update => do
      acceptWord .SET
      repeatStep assignment
      if ← isWord .FROM then
        throw .multipleTables
  | .delete => do
      if ← isAnyKind [.keyword .FROM, .keyword .USING] then
        throw .multipleTables
  | _ => pure ()

theorem opening_eq
    {kind : StatementKind}
    (hasTarget : kind.hasTarget = true) :
    opening kind = targetHead kind >>= fun _ => singleTable >>= fun _ => change kind := by
  cases kind with
  | update => simp only [opening, updateOpening, targetHead, change, bind_assoc]
  | delete => simp only [opening, deleteOpening, targetHead, change, bind_assoc, pure_bind]
  | _ => cases hasTarget

theorem ending_of_hasTarget
    {kind : StatementKind}
    (hasTarget : kind.hasTarget = true) :
    ending kind = pure () := by
  cases kind with
  | update => rfl
  | delete => rfl
  | _ => cases hasTarget

theorem targetHead_keeps
    {kind : StatementKind}
    (ran : (targetHead kind).outcome before = (.ok (), after)) :
    after.statement = before.statement := by
  have passing := Conduct.keepingStatement_admits
  have lenient : Conduct.keepingStatement.IsLenient := ⟨fun _ => trivial, fun _ => rfl⟩
  have obeys : (targetHead kind).Obeys Conduct.keepingStatement := by
    cases kind with
    | update =>
        refine (acceptWord_obeys passing _).bind fun _ => ?_
        exact (skipAnyWord_obeys passing _).bind fun _ => skipTop_moves lenient
    | delete =>
        refine (acceptWord_obeys passing _).bind fun _ => ?_
        refine (skipAnyWord_obeys passing _).bind fun _ => (skipTop_moves lenient).bind fun _ => ?_
        refine (skipWord_obeys passing _).bind fun _ => (skipWord_obeys passing _).bind fun _ => ?_
        exact obeys_pure ()
    | _ => exact obeys_pure ()
  exact obeys.relates ran

section Change

variable {kind : StatementKind}

/-- What stands ahead between a target and a WHERE clause is read. -/
theorem outcome_change
    {starts : List Cursor}
    {last : Cursor}
    (changes : before.cursor.ReadsChange kind starts last) :
    (change kind).outcome before = (.ok (), before.changed starts last) := by
  cases changes with
  | update isSet changes =>
      refine (outcome_bind_of_ok (outcome_accept_of_kind isSet)).trans ?_
      refine (outcome_bind_of_ok (outcome_assignments changes)).trans ?_
      have noFrom : last.current.kind ≠ .keyword .FROM := by
        intro isFrom
        have alone := changes.alone
        rw [isFrom] at alone
        exact alone (by decide)
      change outcome (if last.current.kind == .keyword .FROM then _ else _) _ = _
      rw [if_neg (by simpa using noFrom)]
      rfl
  | delete alone =>
      rw [ParseState.changed_nil]
      apply outcome_isAnyKind_of_absent
      exact fun isThere => alone (List.mem_append_left _ isThere)

/-- What is read between a target and a WHERE clause stands ahead. -/
theorem exists_readsChange
    (hasTarget : kind.hasTarget = true)
    (unjoined : before.cursor.current.kind ∉ TokenKind.joinSigns)
    (ran : (change kind).outcome before = (.ok (), after)) :
    ∃ starts last, before.cursor.ReadsChange kind starts last ∧
      after = before.changed starts last := by
  cases kind with
  | update =>
      obtain ⟨_, between, accepted, rest⟩ := outcome_bind_eq_ok.mp ran
      obtain ⟨isSet, rfl⟩ := accept_eq_ok accepted
      obtain ⟨_, last, changed, finished⟩ := outcome_bind_eq_ok.mp rest
      obtain ⟨starts, cursor, changes, rfl⟩ := exists_readsChanges changed
      change outcome (if cursor.current.kind == .keyword .FROM then _ else _) _ = _ at finished
      split at finished
      next => cases finished
      next =>
        cases finished
        exact ⟨starts, cursor, .update isSet changes, rfl⟩
  | delete =>
      change outcome (if [TokenKind.keyword .FROM, .keyword .USING].contains
        before.cursor.current.kind then _ else _) _ = _ at ran
      split at ran
      next => cases ran
      next absent =>
        cases ran
        refine ⟨[], _, .delete ?_, (ParseState.changed_nil _).symm⟩
        rw [TokenKind.tableSigns, List.mem_append, not_or]
        exact ⟨fun isThere => absent (List.contains_iff_mem.mpr isThere), unjoined⟩
  | _ => cases hasTarget

/-- **A target and what stands between it and a WHERE clause are read exactly where they stand ahead.** -/
theorem target_eq_ok_iff (hasTarget : kind.hasTarget = true) :
    (singleTable >>= fun _ => change kind).outcome before = (.ok (), after) ↔
      ∃ token aliasName behind starts last,
        before.cursor.SingleTable token aliasName behind ∧
        behind.ReadsChange kind starts last ∧
        after = (before.targeted token aliasName behind).changed starts last := by
  constructor
  · intro ran
    obtain ⟨_, between, named, changed⟩ := outcome_bind_eq_ok.mp ran
    obtain ⟨token, aliasName, behind, target, rfl⟩ := singleTable_eq_ok named
    rw [singleTable_of_target target] at named
    obtain ⟨isJoined, middle, skipped, added⟩ := outcome_bind_eq_ok.mp named
    cases isJoined with
    | true => cases added
    | false =>
        have unjoined : (before.targeted token aliasName behind).cursor.current.kind ∉
            TokenKind.joinSigns := (skipJoin_eq_false skipped).1
        obtain ⟨starts, last, changes, rfl⟩ := exists_readsChange hasTarget unjoined changed
        exact ⟨token, aliasName, behind, starts, last, target, changes, rfl⟩
  · rintro ⟨token, aliasName, behind, starts, last, target, changes, rfl⟩
    have unjoined : behind.current.kind ∉ TokenKind.joinSigns :=
      fun joins => changes.alone (List.mem_append_right _ joins)
    have named : singleTable.outcome before =
        (.ok (), before.targeted token aliasName behind) := by
      rw [singleTable_of_target target]
      exact outcome_bind_of_ok (outcome_skipJoin_of_absent unjoined)
    exact (outcome_bind_of_ok named).trans (outcome_change changes)

end Change

end Parse

namespace Statement

/-- Whether the parse of a text comes to the place of the target of a statement. -/
def ReachesTarget
    (dialect : Dialect)
    (rule : Rule)
    (keys : Keys)
    (sql : String)
    (kind : StatementKind)
    (state : ParseState) : Prop :=
  ∃ front, Parse.leading.outcome (ParseState.start dialect rule keys sql { kind := .select }) =
      (.ok kind, front) ∧
    (Parse.targetHead kind).outcome front = (.ok (), state)

variable {dialect : Dialect} {rule : Rule} {keys : Keys} {sql : String} {kind : StatementKind}
variable {state : ParseState}

theorem ReachesTarget.statement_eq (reaches : ReachesTarget dialect rule keys sql kind state) :
    state.statement = { kind := kind } := by
  obtain ⟨front, led, headed⟩ := reaches
  rw [Parse.targetHead_keeps headed, Parse.leading_begins led]

theorem ReachesTarget.unique
    {other : ParseState}
    (first : ReachesTarget dialect rule keys sql kind state)
    (second : ReachesTarget dialect rule keys sql kind other) :
    state = other := by
  obtain ⟨front, led, headed⟩ := first
  obtain ⟨otherFront, otherLed, otherHeaded⟩ := second
  obtain rfl : front = otherFront := congrArg Prod.snd (led.symm.trans otherLed)
  exact congrArg Prod.snd (headed.symm.trans otherHeaded)

/-- The parse comes to the WHERE clause of a statement with a target exactly behind what it changes. -/
theorem opensWith_iff_of_hasTarget (hasTarget : kind.hasTarget = true) :
    OpensWith dialect rule keys sql kind state ↔
      ∃ before token aliasName behind starts last,
        ReachesTarget dialect rule keys sql kind before ∧
        before.cursor.SingleTable token aliasName behind ∧
        behind.ReadsChange kind starts last ∧
        state = (before.targeted token aliasName behind).changed starts last := by
  constructor
  · rintro ⟨front, led, opened⟩
    rw [Parse.opening_eq hasTarget] at opened
    obtain ⟨_, before, headed, changed⟩ := Parse.outcome_bind_eq_ok.mp opened
    obtain ⟨token, aliasName, behind, starts, last, reads⟩ :=
      (Parse.target_eq_ok_iff hasTarget).mp changed
    exact ⟨before, token, aliasName, behind, starts, last, ⟨front, led, headed⟩, reads⟩
  · rintro ⟨before, token, aliasName, behind, starts, last, ⟨front, led, headed⟩, reads⟩
    refine ⟨front, led, ?_⟩
    rw [Parse.opening_eq hasTarget, Parse.outcome_bind_of_ok headed]
    exact (Parse.target_eq_ok_iff hasTarget).mpr ⟨token, aliasName, behind, starts, last, reads⟩

/-- **An UPDATE or a DELETE has its target as its only table, and refuses a second one directly behind
it.**  A text is read as far as its WHERE clause exactly if its target is followed by assignments or by
nothing, none of the signs of a second table standing in front of them or behind them; and then only the
WHERE clause decides.  What is passed over behind an assigned value is no part of this, so that a FROM
clause that stands there is executed but never seen. -/
theorem second_table_refused_or_passed
    {parameterCount : Nat}
    (hasTarget : kind.hasTarget = true)
    (leads : (Parse.leading.outcome
      (ParseState.start dialect rule keys sql { kind := .select })).1 = .ok kind) :
    (∀ state token aliasName behind,
      ReachesTarget dialect rule keys sql kind state →
      state.cursor.SingleTable token aliasName behind →
      behind.current.kind ∈ TokenKind.tableSigns →
        ∃ error, (Statement.parse dialect rule keys sql parameterCount).1 = .error error) ∧
    (∀ state token aliasName behind starts last,
      ReachesTarget dialect rule keys sql kind state →
      state.cursor.SingleTable token aliasName behind →
      behind.ReadsChange kind starts last →
        (Statement.parse dialect rule keys sql parameterCount).1 =
          ((Parse.whereClause >>= fun _ => Parse.statement).outcome
            ((state.targeted token aliasName behind).changed starts last)).1) ∧
    ∀ statement, (Statement.parse dialect rule keys sql parameterCount).1 = .ok statement →
      ∃ state token aliasName behind starts last,
        ReachesTarget dialect rule keys sql kind state ∧
        state.cursor.SingleTable token aliasName behind ∧
        behind.ReadsChange kind starts last ∧
        last.current.kind ∉ TokenKind.tableSigns ∧
        statement.tables = ⟨[⟨unquoteName token.source, aliasName⟩]⟩ := by
  have hasWhere := kind.hasWhere_of_hasTarget hasTarget
  have accepted : ∀ statement,
      (Statement.parse dialect rule keys sql parameterCount).1 = .ok statement →
        ∃ state token aliasName behind starts last,
          ReachesTarget dialect rule keys sql kind state ∧
          state.cursor.SingleTable token aliasName behind ∧
          behind.ReadsChange kind starts last ∧
          last.current.kind ∉ TokenKind.tableSigns ∧
          statement.tables = ⟨[⟨unquoteName token.source, aliasName⟩]⟩ := by
    intro statement parsed
    obtain ⟨state, between, final, opens, passed, ended, rfl⟩ :=
      exists_phases leads hasWhere parsed
    obtain ⟨before, token, aliasName, behind, starts, last, reaches, target, changes, rfl⟩ :=
      (opensWith_iff_of_hasTarget hasTarget).mp opens
    refine ⟨before, token, aliasName, behind, starts, last, reaches, target, changes,
      changes.alone_last, ?_⟩
    rw [Parse.ending_of_hasTarget hasTarget] at ended
    cases ended
    rw [Parse.whereClause_tables passed]
    change before.statement.tables.add _ = _
    rw [reaches.statement_eq]
    rfl
  refine ⟨?_, ?_, accepted⟩
  · intro state token aliasName behind reaches target brings
    cases parsed : (Statement.parse dialect rule keys sql parameterCount).1 with
    | error error => exact ⟨error, rfl⟩
    | ok statement =>
        obtain ⟨other, otherToken, otherAlias, otherBehind, starts, last, otherReaches, otherTarget,
          changes, -⟩ := accepted statement parsed
        obtain rfl := reaches.unique otherReaches
        obtain ⟨-, -, rfl⟩ := target.unique otherTarget
        exact absurd brings changes.alone
  · intro state token aliasName behind starts last reaches target changes
    have opens := (opensWith_iff_of_hasTarget hasTarget).mpr
      ⟨state, token, aliasName, behind, starts, last, reaches, target, changes, rfl⟩
    rw [parse_of_opensWith opens hasWhere, Parse.ending_of_hasTarget hasTarget]
    rfl

section Samples

/-- An UPDATE of orders by the rows of users, which a FROM clause adds behind the assigned value. -/
def joinedUpdateText : String :=
  "UPDATE t_order SET status = 'x' FROM t_user WHERE t_order.user_id = 1"

theorem parse_joinedUpdateText :
    ∃ statement,
      (Statement.parse .mysql userRule (Keys.ofRule userRule 0) joinedUpdateText 0).1 =
        .ok statement ∧
      statement.tables = ⟨[⟨"t_order", none⟩]⟩ ∧
      statement.conditions.toList =
        [⟨⟨"user_id", "t_order"⟩, .equal, [.number (.integer 1)]⟩] := by
  have read : (Statement.parse .mysql userRule (Keys.ofRule userRule 0)
      joinedUpdateText 0).1.toOption.map
        (fun statement => (statement.tables, statement.conditions.toList)) =
      some (⟨[⟨"t_order", none⟩]⟩,
        [⟨⟨"user_id", "t_order"⟩, .equal, [.number (.integer 1)]⟩]) := by
    decide +kernel
  obtain ⟨statement, isStatement, same⟩ := Option.map_eq_some_iff.mp read
  obtain ⟨tables, conditions⟩ := Prod.ext_iff.mp same
  exact ⟨statement, Success.toOption_eq_some.mp isStatement, tables, conditions⟩

/-- The UPDATE with the rows of users is read with orders as its only table, up to its WHERE clause. -/
theorem exists_target_joinedUpdateText :
    StatementKind.hasTarget .update = true ∧
      (Parse.leading.outcome (ParseState.start .mysql userRule (Keys.ofRule userRule 0)
        joinedUpdateText { kind := .select })).1 = .ok .update ∧
      ∃ state token aliasName behind starts last,
        ReachesTarget .mysql userRule (Keys.ofRule userRule 0) joinedUpdateText .update state ∧
        state.cursor.SingleTable token aliasName behind ∧
        behind.ReadsChange .update starts last ∧
        last.current.kind ∉ TokenKind.tableSigns ∧
        unquoteName token.source = "t_order" ∧ aliasName = none := by
  have leads : (Parse.leading.outcome (ParseState.start .mysql userRule (Keys.ofRule userRule 0)
      joinedUpdateText { kind := .select })).1 = .ok .update :=
    Success.toOption_eq_some.mp (by decide +kernel)
  obtain ⟨statement, parsed, tables, -⟩ := parse_joinedUpdateText
  obtain ⟨state, token, aliasName, behind, starts, last, reaches, target, changes, alone, named⟩ :=
    (second_table_refused_or_passed rfl leads).2.2 statement parsed
  simp only [tables, Tables.mk.injEq, List.cons.injEq, Table.mk.injEq, and_true] at named
  exact ⟨rfl, leads, state, token, aliasName, behind, starts, last, reaches, target, changes, alone,
    named.1.symm, named.2.symm⟩

/-- A FROM clause with a second table is accepted behind an assigned value. -/
theorem parse_accepts_from_behind_assignment :
    ((Cursor.ofText .mysql joinedUpdateText).tokens.map fun token => (token.kind, token.source)) =
      [(.keyword .UPDATE, "UPDATE"), (.literal .identifier, "t_order"), (.keyword .SET, "SET"),
        (.literal .identifier, "status"), (.symbol .eq, "="), (.literal .chars, "'x'"),
        (.keyword .FROM, "FROM"), (.literal .identifier, "t_user"), (.keyword .WHERE, "WHERE"),
        (.literal .identifier, "t_order"), (.symbol .dot, "."), (.literal .identifier, "user_id"),
        (.symbol .eq, "="), (.literal .int, "1")] ∧
      ∃ statement,
        (Statement.parse .mysql userRule (Keys.ofRule userRule 0) joinedUpdateText 0).1 =
          .ok statement ∧
        statement.tables = ⟨[⟨"t_order", none⟩]⟩ := by
  obtain ⟨statement, parsed, tables, -⟩ := parse_joinedUpdateText
  exact ⟨by decide +kernel, statement, parsed, tables⟩

end Samples

end Statement

end ShardedSql
