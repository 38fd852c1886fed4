import ShardedSql.Proofs.Parser.Bounds
import ShardedSql.Proofs.Parser.Row

/-!
# Walking over tokens

Wherever a parse goes, it counts the placeholders that it passes, and the end of the token passed last
stays between the tokens passed and those ahead.
-/

namespace ShardedSql

theorem TokenKind.ne_question_of_isName
    {kind : TokenKind}
    (isName : kind.isName = true) :
    kind ≠ .symbol .question := by
  rintro rfl
  cases isName

theorem TokenKind.ne_question_of_isIdentifier
    {kind : TokenKind}
    (isIdentifier : kind.isIdentifier = true) :
    kind ≠ .symbol .question := by
  rintro rfl
  cases isIdentifier

namespace Cursor

variable {cursor : Cursor}

/-- Whether a cursor stands between tokens: those ahead follow one another from the end of the token
passed last up to the end of the text, and their ends are valid places. -/
structure IsCut
    (valid : Nat → Prop)
    (cursor : Cursor) : Prop where
  ordered : cursor.tokens.Pairwise fun first second => first.stop ≤ second.start
  ahead : ∀ token ∈ cursor.tokens, cursor.lastStop ≤ token.start
  filled : ∀ token ∈ cursor.tokens, token.start < token.stop
  inside : ∀ token ∈ cursor.tokens, valid token.stop ∧ token.stop ≤ cursor.textLength
  stop : valid cursor.lastStop ∧ cursor.lastStop ≤ cursor.textLength
  whole : valid cursor.textLength

/-- Whether a cursor that stands between tokens may pass some of them and stand between tokens again, with
no fewer placeholders counted. -/
structure Steps (start last : Cursor) : Prop where
  isCut : ∀ {valid : Nat → Prop}, start.IsCut valid → last.IsCut valid
  grows : ∀ {valid : Nat → Prop}, start.IsCut valid → start.lastStop ≤ last.lastStop
  passed : ∀ {valid : Nat → Prop}, start.IsCut valid → ∀ token ∈ start.tokens,
    token ∈ last.tokens ∨ token.stop ≤ last.lastStop
  placeholders : start.placeholders ≤ last.placeholders

/-- Whether a cursor passes tokens, and counts the placeholders among them that stand behind no point. -/
structure Counts (start last : Cursor) : Prop where
  place : start.place.Counts last.place
  steps : start.Steps last

/-- Whether a parse may go from one cursor to another: it passes tokens, and counts the placeholders
among them. -/
structure Reaches (start last : Cursor) : Prop where
  place : start.place.Reaches last.place
  steps : start.Steps last

theorem Steps.refl (cursor : Cursor) : cursor.Steps cursor :=
  ⟨id, fun _ => Nat.le_refl _, fun _ _ isAhead => .inl isAhead, Nat.le_refl _⟩

theorem Steps.trans
    {start between last : Cursor}
    (first : start.Steps between)
    (second : between.Steps last) :
    start.Steps last := by
  constructor
  · exact fun cut => second.isCut (first.isCut cut)
  · exact fun cut => Nat.le_trans (first.grows cut) (second.grows (first.isCut cut))
  · intro valid cut token isAhead
    rcases first.passed cut token isAhead with isBetween | isPassed
    · exact second.passed (first.isCut cut) token isBetween
    · exact .inr (Nat.le_trans isPassed (second.grows (first.isCut cut)))
  · exact Nat.le_trans first.placeholders second.placeholders

theorem Reaches.refl (cursor : Cursor) : cursor.Reaches cursor :=
  ⟨.refl _, .refl _⟩

theorem Reaches.trans
    {start between last : Cursor}
    (first : start.Reaches between)
    (second : between.Reaches last) :
    start.Reaches last :=
  ⟨first.place.trans second.place, first.steps.trans second.steps⟩

theorem Counts.refl (cursor : Cursor) : cursor.Counts cursor :=
  ⟨.refl _, .refl _⟩

theorem Counts.trans
    {start between last : Cursor}
    (first : start.Counts between)
    (second : between.Counts last) :
    start.Counts last :=
  ⟨first.place.trans second.place, first.steps.trans second.steps⟩

theorem Counts.reaches
    {start last : Cursor}
    (counts : start.Counts last) :
    start.Reaches last :=
  ⟨counts.place.reaches, counts.steps⟩

theorem Reaches.suffix
    {start last : Cursor}
    (reaches : start.Reaches last) :
    last.tokens <:+ start.tokens :=
  reaches.place.suffix

/-- A cursor passes the current token, or the end of the text. -/
theorem steps_of_tail
    {start last : Cursor}
    (tokens : last.tokens = start.tokens.tail)
    (stop : last.lastStop = start.current.stop)
    (textLength : last.textLength = start.textLength)
    (counted : start.placeholders ≤ last.placeholders) :
    start.Steps last := by
  obtain ⟨ahead, length, placeholders, lastStop⟩ := start
  obtain ⟨others, sameLength, count, behind⟩ := last
  dsimp only at tokens stop textLength
  subst tokens stop textLength
  cases ahead with
  | nil =>
      constructor
      · exact fun cut => ⟨.nil, nofun, nofun, nofun, ⟨cut.whole, Nat.le_refl _⟩, cut.whole⟩
      · exact fun cut => cut.stop.2
      · nofun
      · exact counted
  | cons token rest =>
      have isHead : token ∈ token :: rest := List.mem_cons_self
      have isLater : ∀ {later : Token}, later ∈ rest → later ∈ token :: rest :=
        List.mem_cons_of_mem token
      constructor
      · intro valid cut
        obtain ⟨behindHead, ordered⟩ := List.pairwise_cons.mp cut.ordered
        constructor
        · exact ordered
        · exact behindHead
        · exact fun later isRest => cut.filled later (isLater isRest)
        · exact fun later isRest => cut.inside later (isLater isRest)
        · exact cut.inside token isHead
        · exact cut.whole
      · intro valid cut
        exact Nat.le_trans (cut.ahead token isHead) (Nat.le_of_lt (cut.filled token isHead))
      · intro valid cut found isFound
        rcases List.mem_cons.mp isFound with rfl | isRest
        · exact .inr (Nat.le_refl _)
        · exact .inl isRest
      · exact counted

theorem steps_advance : cursor.Steps cursor.advance :=
  steps_of_tail rfl rfl rfl (Nat.le_refl _)

theorem steps_pass : cursor.Steps cursor.pass :=
  steps_of_tail rfl rfl rfl (Nat.le_add_right _ _)

/-- The current token unless it is the end of the text. -/
theorem exists_token
    {kind : TokenKind}
    (isKind : cursor.current.kind = kind)
    (notLast : kind ≠ .finish) :
    ∃ token, token.kind = kind ∧ cursor.tokens = token :: cursor.advance.tokens := by
  obtain ⟨tokens, textLength, placeholders, lastStop⟩ := cursor
  cases tokens with
  | nil => exact absurd isKind.symm notLast
  | cons token rest => exact ⟨token, isKind, rfl⟩

section Passing

theorem counts_advance (other : cursor.current.kind ≠ .symbol .question) :
    cursor.Counts cursor.advance :=
  ⟨Place.advance_counts cursor.current_kind.symm other, steps_advance⟩

theorem counts_advance_of_kind
    {kind : TokenKind}
    (isKind : cursor.current.kind = kind)
    (other : kind ≠ .symbol .question) :
    cursor.Counts cursor.advance :=
  counts_advance (by rwa [isKind])

theorem counts_advance_of_isName (isName : cursor.current.kind.isName = true) :
    cursor.Counts cursor.advance :=
  counts_advance (TokenKind.ne_question_of_isName isName)

/-- The cursor behind a point and the name that follows it. -/
theorem counts_behindPoint (isPoint : cursor.current.kind = .symbol .dot) :
    cursor.Counts cursor.advance.advance :=
  ⟨Place.advance_advance_counts (cursor.current_kind.symm.trans isPoint),
    steps_advance.trans steps_advance⟩

theorem counts_pass : cursor.Counts cursor.pass := by
  constructor
  · rw [place_pass]
    exact cursor.place.passBy_counts 1
  · exact steps_pass

theorem counts_passBy (count : Nat) : cursor.Counts (cursor.passBy count) := by
  induction count generalizing cursor with
  | zero => exact .refl cursor
  | succ count ih => exact counts_pass.trans ih

theorem counts_behindOperand : cursor.Counts cursor.behindOperand := by
  have simple : cursor.Counts cursor.behindSimple := by
    unfold behindSimple
    split
    next isOwned =>
      apply counts_pass.trans
      exact counts_behindPoint (by simpa using (Bool.and_eq_true_iff.mp isOwned).2)
    next => exact counts_pass
  exact simple.trans (counts_passBy _)

theorem counts_skipAny
    {kinds : List TokenKind}
    (other : .symbol .question ∉ kinds) :
    cursor.Counts (cursor.skipAny kinds) := by
  unfold skipAny
  split
  next isThere =>
    apply counts_advance
    intro isPlaceholder
    rw [isPlaceholder] at isThere
    exact other (by simpa using isThere)
  next => exact .refl _

theorem counts_behindAlias : cursor.Counts cursor.behindAlias := by
  have behindAs : cursor.Counts (cursor.skipAny [.keyword .AS]) :=
    counts_skipAny (by simp)
  unfold behindAlias
  split
  next isAlias =>
    apply behindAs.trans
    apply counts_advance
    intro isPlaceholder
    rw [hasAlias, isPlaceholder] at isAlias
    cases isAlias
  next => exact behindAs

theorem TableName.counts
    {token : Token}
    {behind : Cursor}
    (table : cursor.TableName token behind) :
    cursor.Counts behind := by
  cases table with
  | bare isName => exact counts_advance_of_isName isName
  | owned isName isPoint => exact (counts_advance_of_isName isName).trans (counts_behindPoint isPoint)

theorem SingleTable.counts
    {token : Token}
    {aliasName : Option String}
    {behind : Cursor}
    (table : cursor.SingleTable token aliasName behind) :
    cursor.Counts behind := by
  cases table with
  | plain table => exact table.counts.trans counts_behindAlias
  | grouped opens table closes =>
      have front := (counts_advance_of_kind opens nofun).trans table.counts
      have behindGroup := front.trans (counts_advance_of_kind closes nofun)
      exact behindGroup.trans counts_behindAlias

theorem ReadsColumn.counts
    {name : String}
    {behind : Cursor}
    (column : cursor.ReadsColumn name behind) :
    cursor.Counts behind := by
  cases column with
  | bare isName => exact counts_advance_of_isName isName
  | owned isName isPoint => exact (counts_advance_of_isName isName).trans (counts_behindPoint isPoint)

theorem ReadsColumns.counts
    {names : List String}
    {closing : Cursor}
    (columns : cursor.ReadsColumns names closing) :
    cursor.Counts closing := by
  induction columns with
  | last column => exact column.counts
  | next column isComma _ ih =>
      exact (column.counts.trans (counts_advance_of_kind isComma nofun)).trans ih

theorem ReadsColumns.closes
    {names : List String}
    {closing : Cursor}
    (columns : cursor.ReadsColumns names closing) :
    closing.current.kind = .symbol .rightParen := by
  induction columns with
  | last _ closes => exact closes
  | next _ _ _ ih => exact ih

theorem ColumnList.counts
    {names : List String}
    {closing : Option Cursor}
    {behind : Cursor}
    (list : cursor.ColumnList names closing behind) :
    cursor.Counts behind := by
  cases list with
  | absent => exact .refl _
  | listed opens columns =>
      have front := (counts_advance_of_kind opens nofun).trans columns.counts
      exact front.trans (counts_advance_of_kind columns.closes nofun)

theorem ReadsValues.closes
    {starts : List Cursor}
    {closing : Cursor}
    (values : cursor.ReadsValues starts closing) :
    closing.current.kind = .symbol .rightParen := by
  induction values with
  | last closes => exact closes
  | next _ _ ih => exact ih

/-- The places of the values of a row, and of the parenthesis that closes it. -/
theorem ReadsValues.counts
    {starts : List Cursor}
    {closing : Cursor}
    (values : cursor.ReadsValues starts closing) :
    (∀ start ∈ starts, cursor.Counts start) ∧ cursor.Counts closing := by
  induction values with
  | last => exact ⟨by simpa using Counts.refl _, counts_behindOperand⟩
  | next isComma _ ih =>
      have passed := counts_behindOperand.trans (counts_advance_of_kind isComma nofun)
      constructor
      · intro start isStart
        rcases List.mem_cons.mp isStart with rfl | isOther
        · exact .refl _
        · exact passed.trans (ih.1 start isOther)
      · exact passed.trans ih.2

/-- The places of the values of assignments, and the place behind them. -/
theorem ReadsAssignments.counts
    {assignments : List (String × Cursor)}
    {last : Cursor}
    (row : cursor.ReadsAssignments assignments last) :
    (∀ start ∈ assignments.map Prod.snd, cursor.Counts start) ∧
      cursor.Counts last := by
  induction row with
  | last column isSign =>
      have start := column.counts.trans (counts_advance_of_kind isSign nofun)
      exact ⟨by simpa using start, start.trans counts_behindOperand⟩
  | next column isSign isComma _ ih =>
      have start := column.counts.trans (counts_advance_of_kind isSign nofun)
      have passed := (start.trans counts_behindOperand).trans (counts_advance_of_kind isComma nofun)
      constructor
      · intro place isPlace
        rcases List.mem_cons.mp isPlace with rfl | isOther
        · exact start
        · exact passed.trans (ih.1 place isOther)
      · exact passed.trans ih.2

/-- The places of the values of a row, of the parenthesis that closes it, and of its end. -/
theorem RowReading.IsRow.counts
    {columnCount : Nat}
    {row : RowReading}
    (isRow : row.IsRow cursor columnCount) :
    (∀ start ∈ row.starts, cursor.Counts start) ∧
      (∀ closing ∈ row.closing, cursor.Counts closing) ∧
      cursor.Counts row.last := by
  cases isRow with
  | values isValues opens values =>
      have front : cursor.Counts cursor.advance.advance := by
        apply Counts.trans (counts_advance _) (counts_advance_of_kind opens nofun)
        intro isPlaceholder
        rw [isPlaceholder] at isValues
        simp at isValues
      obtain ⟨starts, closing⟩ := values.counts
      refine ⟨fun start isStart => front.trans (starts start isStart), ?_, ?_⟩
      · rintro last ⟨rfl⟩
        exact front.trans closing
      · exact (front.trans closing).trans (counts_advance_of_kind values.closes nofun)
  | assignments isSet assignments =>
      have front := counts_advance_of_kind isSet nofun
      obtain ⟨starts, last⟩ := assignments.counts
      exact ⟨fun start isStart => front.trans (starts start isStart), nofun, front.trans last⟩

theorem TopOperand.counts
    {bound : Parse.LimitSpan}
    {behind : Cursor}
    (top : cursor.TopOperand bound behind) :
    cursor.Counts behind := by
  cases top with
  | plain => exact counts_pass
  | grouped opens _ closes =>
      have inside := (counts_advance_of_kind opens nofun).trans counts_pass
      exact inside.trans (counts_advance_of_kind closes nofun)

end Passing

section Reaching

theorem reaches_advance (other : cursor.current.kind ≠ .symbol .question) :
    cursor.Reaches cursor.advance :=
  (counts_advance other).reaches

theorem reaches_advance_of_kind
    {kind : TokenKind}
    (isKind : cursor.current.kind = kind)
    (other : kind ≠ .symbol .question) :
    cursor.Reaches cursor.advance :=
  (counts_advance_of_kind isKind other).reaches

theorem reaches_advance_of_isName (isName : cursor.current.kind.isName = true) :
    cursor.Reaches cursor.advance :=
  (counts_advance_of_isName isName).reaches

theorem reaches_behindPoint (isPoint : cursor.current.kind = .symbol .dot) :
    cursor.Reaches cursor.advance.advance :=
  (counts_behindPoint isPoint).reaches

theorem reaches_pass : cursor.Reaches cursor.pass :=
  counts_pass.reaches

theorem reaches_passBy (count : Nat) : cursor.Reaches (cursor.passBy count) :=
  (counts_passBy count).reaches

theorem reaches_behindOperand : cursor.Reaches cursor.behindOperand :=
  counts_behindOperand.reaches

theorem reaches_skipAny
    {kinds : List TokenKind}
    (other : .symbol .question ∉ kinds) :
    cursor.Reaches (cursor.skipAny kinds) :=
  (counts_skipAny other).reaches

theorem reaches_behindAlias : cursor.Reaches cursor.behindAlias :=
  counts_behindAlias.reaches

/-- A column list that is there ends with its closing parenthesis. -/
theorem ColumnList.reaches_closing
    {names : List String}
    {closing behind : Cursor}
    (list : cursor.ColumnList names (some closing) behind) :
    cursor.Reaches closing ∧ closing.current.kind = .symbol .rightParen ∧
      behind = closing.advance := by
  cases list with
  | listed opens columns =>
      have counts := (counts_advance_of_kind opens nofun).trans columns.counts
      exact ⟨counts.reaches, columns.closes, rfl⟩

/-- A clause that locks rows passes its tokens without counting them. -/
theorem reaches_of_locks
    (locks : [TokenKind.keyword .FOR, .keyword .LOCK].contains cursor.current.kind = true)
    (count : Nat) :
    cursor.Reaches (cursor.advanceBy count) := by
  have steps : ∀ cursor : Cursor, cursor.Steps (cursor.advanceBy count) := by
    induction count with
    | zero => exact fun cursor => .refl cursor
    | succ count ih => exact fun cursor => steps_advance.trans (ih cursor.advance)
  have suffix : ∀ cursor : Cursor, (cursor.advanceBy count).tokens <:+ cursor.tokens := by
    clear steps
    induction count with
    | zero => exact fun cursor => List.suffix_refl _
    | succ count ih => exact fun cursor => (ih cursor.advance).trans (List.tail_suffix _)
  refine ⟨⟨suffix cursor, fun countable => ?_⟩, steps cursor⟩
  rw [List.contains_iff_mem, List.mem_cons, List.mem_singleton] at locks
  rcases locks with isFor | isLock
  · obtain ⟨token, isKind, tokens⟩ := exists_token isFor nofun
    exact absurd isKind (countable.unlocked token (by simp [place, tokens])).1
  · obtain ⟨token, isKind, tokens⟩ := exists_token isLock nofun
    exact absurd isKind (countable.unlocked token (by simp [place, tokens])).2

theorem LimitClause.reaches
    {limit result : Limit}
    {behind : Cursor}
    {markers : List Marker}
    (clause : cursor.LimitClause limit result behind markers) :
    cursor.Reaches behind := by
  have rows : ∀ {last : Cursor}, last.Reaches (last.skipAny [.keyword .ROW, .keyword .ROWS]) :=
    reaches_skipAny (by simp)
  have only : ∀ {last : Cursor}, last.Reaches (last.skipAny [.keyword .ONLY]) :=
    reaches_skipAny (by simp)
  have first : ∀ {last : Cursor}, last.Reaches (last.skipAny [.keyword .FIRST, .keyword .NEXT]) :=
    reaches_skipAny (by simp)
  cases clause with
  | all isLimit isAll =>
      have front := reaches_advance_of_kind isLimit nofun
      exact front.trans (reaches_advance_of_kind isAll nofun)
  | rowCount isLimit => exact (reaches_advance_of_kind isLimit nofun).trans reaches_pass
  | window isLimit _ isComma =>
      have front := (reaches_advance_of_kind isLimit nofun).trans reaches_pass
      exact (front.trans (reaches_advance_of_kind isComma nofun)).trans reaches_pass
  | offset isOffset => exact ((reaches_advance_of_kind isOffset nofun).trans reaches_pass).trans rows
  | fetch isFetch =>
      have front := (reaches_advance_of_kind isFetch nofun).trans first
      exact ((front.trans reaches_pass).trans rows).trans only
  | fetchOne isFetch =>
      have front := (reaches_advance_of_kind isFetch nofun).trans first
      exact (front.trans rows).trans only

theorem LimitClauses.reaches
    {limit result : Limit}
    {behind : Cursor}
    {markers : List Marker}
    (clauses : cursor.LimitClauses limit result behind markers) :
    cursor.Reaches behind := by
  induction clauses with
  | none => exact .refl cursor
  | further _ clause ih => exact ih.trans clause.reaches

theorem RowReading.IsRow.closes
    {columnCount : Nat}
    {row : RowReading}
    (isRow : row.IsRow cursor columnCount)
    {closing : Cursor}
    (isClosing : row.closing = some closing) :
    closing.current.kind = .symbol .rightParen := by
  cases isRow with
  | values _ _ values =>
      cases isClosing
      exact values.closes
  | assignments => cases isClosing

end Reaching

end Cursor

namespace InsertReading

variable {cursor : Cursor} {reading : InsertReading}

theorem IsRead.countsTable (isRead : reading.IsRead cursor) :
    cursor.Counts ((cursor.advance.skipAny [.keyword .LOW_PRIORITY, .keyword .IGNORE]).skipAny
      [.keyword .INTO]) := by
  apply Cursor.Counts.trans (Cursor.counts_advance_of_kind isRead.isInsert nofun)
  exact (Cursor.counts_skipAny (by simp)).trans (Cursor.counts_skipAny (by simp))

/-- The places of the values of an INSERT, of the parenthesis that closes its row, and of its end. -/
theorem IsRead.counts (isRead : reading.IsRead cursor) :
    (∀ start ∈ reading.row.starts, cursor.Counts start) ∧
      (∀ closing ∈ reading.row.closing, cursor.Counts closing) ∧
      cursor.Counts reading.last := by
  have front := (isRead.countsTable.trans isRead.table.counts).trans isRead.list.counts
  obtain ⟨starts, closing, last⟩ := isRead.row.counts
  refine ⟨fun start isStart => front.trans (starts start isStart), ?_, ?_⟩
  · exact fun found isClosing => front.trans (closing found isClosing)
  · exact (front.trans last).trans (Cursor.counts_passBy _)

end InsertReading

/-- Whether a conduct lets any step fail, and lets a step move the cursor over tokens when nothing else
changes. -/
structure Conduct.IsLenient (conduct : Conduct) : Prop where
  fails : ∀ error, conduct.fails error
  moves : ∀ {before : ParseState} {cursor : Cursor}, before.cursor.Counts cursor →
    conduct.relates before { before with cursor := cursor }

namespace Parse

variable {α : Type} {conduct : Conduct}

/-- A step obeys a lenient conduct if each of its successes does. -/
theorem obeys_of_ok
    (lenient : conduct.IsLenient)
    {step : Parse α}
    (relates : ∀ {before after : ParseState} {value : α},
      step.outcome before = (.ok value, after) → conduct.relates before after) :
    step.Obeys conduct := by
  intro before
  split
  next ran => exact relates ran
  next => exact lenient.fails _

/-- Adding a condition obeys a conduct that allows any change of the conditions. -/
theorem addCondition_obeys
    (changes : ∀ (state : ParseState) (conditions : Conditions),
      conduct.relates state
        { state with statement := { state.statement with conditions := conditions } })
    (left : Expression)
    (operator : ConditionOperator)
    (operands : List Expression) :
    (addCondition left operator operands).Obeys conduct := by
  have named : (shardingColumn? left).Obeys conduct := fun before => conduct.refl before
  apply named.bind
  intro column
  cases column with
  | none => exact obeys_pure ()
  | some column => exact fun before => changes before _

section Moves

variable (lenient : conduct.IsLenient)

include lenient

theorem passMeasured_moves (width : List Token → Nat) : (passMeasured width).Obeys conduct :=
  fun _ => lenient.moves (Cursor.counts_passBy _)

theorem skipAnyKind_moves
    {kinds : List TokenKind}
    (other : .symbol .question ∉ kinds) :
    (skipAnyKind kinds).Obeys conduct := by
  intro before
  rw [outcome_skipAny]
  exact lenient.moves (Cursor.counts_skipAny other)

theorem group_moves : group.Obeys conduct := by
  intro before
  obtain ⟨text, passed⟩ := exists_outcome_group before
  rw [passed]
  exact lenient.moves (Cursor.counts_passBy _)

theorem passing_moves : conduct.AdmitsPassing where
  fails error _ := lenient.fails error
  skip _ := skipAnyKind_moves lenient
  group := group_moves lenient
  passName _ isName := lenient.moves (Cursor.counts_advance_of_isName isName)

theorem alias?_moves : alias?.Obeys conduct := by
  intro before
  rw [outcome_alias?]
  exact lenient.moves Cursor.counts_behindAlias

theorem skipItem_moves (afterOperand : Bool) : (skipItem afterOperand).Obeys conduct := by
  apply obeys_of_ok lenient
  intro before after _ ran
  rw [skipItem_eq_ok ran]
  exact lenient.moves (Cursor.counts_passBy _)

theorem skipTop_moves : skipTop.Obeys conduct := by
  apply obeys_of_ok lenient
  intro before after _ ran
  rcases skipTop_eq_ok ran with rfl | ⟨bound, cursor, isTop, top, rfl⟩
  · exact conduct.refl _
  · exact lenient.moves ((Cursor.counts_advance_of_kind isTop nofun).trans top.counts)

omit lenient in
theorem lockClause_moves
    (moves : ∀ {before : ParseState} {cursor : Cursor}, before.cursor.Reaches cursor →
      conduct.relates before { before with cursor := cursor }) :
    lockClause.Obeys conduct := by
  intro before
  unfold lockClause
  rw [outcome_bind_of_ok (outcome_isAnyKind _ _)]
  cases locks : [TokenKind.keyword .FOR, .keyword .LOCK].contains before.cursor.current.kind with
  | true => exact moves (Cursor.reaches_of_locks locks _)
  | false => exact conduct.refl before

theorem advance_moves
    {state : ParseState}
    (other : state.cursor.current.isPlaceholder = false) :
    advance.ObeysFrom conduct state :=
  lenient.moves (Cursor.counts_advance (by simpa [Token.isPlaceholder] using other))

theorem skipPredicate_moves (opened : Nat) : (skipPredicate opened).Obeys conduct := by
  apply obeys_get_bind
  intro state
  have passes : (modifyCursor (Cursor.passBy
      (Extent.ofPredicate false opened state.cursor.tokens).width)).Obeys conduct :=
    fun _ => lenient.moves (Cursor.counts_passBy _)
  apply passes.bind
  intro _
  apply Obeys.ite _ (obeys_pure _)
  have refuses : (failUnsupported : Parse PUnit).Obeys conduct := fun _ => lenient.fails _
  exact refuses.bind fun _ => obeys_pure _

/-- A statement that is neither a query nor adds a row obeys what its steps obey. -/
theorem statementOf_obeys
    (admits : conduct.Admits)
    (behavesWhere : whereClause.Obeys conduct)
    {kind : StatementKind}
    (noQuery : kind ≠ .select)
    (noRow : kind ≠ .insert)
    (parameterCount : Nat) :
    (statementOf kind parameterCount).Obeys conduct := by
  have rest := passMeasured_moves lenient (Extent.widthUntil [.symbol .semi])
  cases kind with
  | select => exact absurd rfl noQuery
  | insert => exact absurd rfl noRow
  | update => exact updateStatement_obeys admits behavesWhere
  | delete => exact deleteStatement_obeys admits behavesWhere
  | create => exact createStatement_obeys admits lenient.fails rest
  | alter => exact alterStatement_obeys admits lenient.fails rest
  | drop => exact dropStatement_obeys admits lenient.fails rest
  | truncate => exact truncateStatement_obeys admits rest

end Moves

end Parse

end ShardedSql
