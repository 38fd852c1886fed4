import ShardedSql.Proofs.Parser.Seams
import ShardedSql.Proofs.Statement.Kind

/-!
# Bounds are stated in the text

Each bound of a row limit is read from the text: a literal leaves a marker where it stands, and a placeholder
is one of its own.  Only a FETCH without a number has a row count that stands nowhere.
-/

namespace ShardedSql

namespace Limit

/-- Whether a literal bound has a marker with its value, or is the row count of a FETCH without a number. -/
def IsCarried
    (markers : List Marker)
    (isRowCount : Bool)
    (value : Int64) : Prop :=
  (∃ marker ∈ markers, marker.bound? = some (isRowCount, value)) ∨ isRowCount = true ∧ value = 1

/-- Whether the bounds of a row limit are stated by some markers and by placeholders that are counted, no
two of them by one placeholder. -/
structure IsStated
    (markers : List Marker)
    (placeholders : Nat)
    (limit : Limit) : Prop where
  carried : ∀ isRowCount value, limit.bound? isRowCount = some (.literal value) →
    IsCarried markers isRowCount value
  counted : ∀ isRowCount index, limit.bound? isRowCount = some (.placeholder index) →
    index < placeholders
  distinct : ∀ index, limit.offset = some (.placeholder index) →
    limit.rowCount ≠ some (.placeholder index)

variable {limit : Limit} {markers others : List Marker} {count later : Nat}

theorem isStated_of_unbound
    (noBound : ∀ isRowCount, limit.bound? isRowCount = none) :
    limit.IsStated markers count := by
  constructor
  · intro isRowCount value isBound
    cases (noBound isRowCount).symm.trans isBound
  · intro isRowCount index isBound
    cases (noBound isRowCount).symm.trans isBound
  · intro index isBound
    cases (noBound false).symm.trans isBound

namespace IsStated

theorem mono
    (isStated : limit.IsStated markers count)
    (keeps : markers ⊆ others)
    (counts : count ≤ later) :
    limit.IsStated others later := by
  constructor
  · intro isRowCount value isBound
    apply (isStated.carried isRowCount value isBound).imp_left
    rintro ⟨marker, isMarker, marks⟩
    exact ⟨marker, keeps isMarker, marks⟩
  · intro isRowCount index isBound
    exact (isStated.counted isRowCount index isBound).trans_le counts
  · exact isStated.distinct

/-- A bound that is set is stated if it has a marker or is the next placeholder. -/
theorem withBound
    {isRowCount : Bool}
    {operand : LimitOperand}
    (isStated : limit.IsStated markers count)
    (keeps : markers ⊆ others)
    (counts : count ≤ later)
    (carried : ∀ value, operand = .literal value → IsCarried others isRowCount value)
    (counted : ∀ index, operand = .placeholder index → count ≤ index ∧ index < later) :
    (limit.withBound isRowCount operand).IsStated others later := by
  have mono := isStated.mono keeps counts
  constructor
  · intro isAsked value isBound
    rcases Limit.bound?_withBound isBound with ⟨rfl, isOperand⟩ | isEarlier
    · exact carried value isOperand.symm
    · exact mono.carried isAsked value isEarlier
  · intro isAsked index isBound
    rcases Limit.bound?_withBound isBound with ⟨rfl, isOperand⟩ | isEarlier
    · exact (counted index isOperand.symm).2
    · exact mono.counted isAsked index isEarlier
  · -- One of the bounds is set anew, and its placeholder is later than that of the other one.
    have apart : ∀ index, operand = .placeholder index → ∀ isOther,
        limit.bound? isOther ≠ some (.placeholder index) := by
      intro index isOperand isOther isBound
      have isEarlier := isStated.counted isOther index isBound
      have isLater := (counted index isOperand).1
      omega
    intro index isOffset isCount
    cases isRowCount with
    | true => exact apart index (Option.some.inj isCount) false isOffset
    | false => exact apart index (Option.some.inj isOffset) true isCount

end IsStated

end Limit

namespace Cursor

variable {cursor behind : Cursor} {bound : Parse.LimitSpan} {limit result : Limit}
variable {markers others : List Marker} {isRowCount : Bool}

theorem placeholders_pass (isPlaceholder : cursor.current.kind = .symbol .question) :
    cursor.pass.placeholders = cursor.placeholders + 1 := by
  rw [pass, Token.isPlaceholder, isPlaceholder]
  rfl

theorem placeholders_lt_behindOperand (isPlaceholder : cursor.current.kind = .symbol .question) :
    cursor.placeholders < cursor.behindOperand.placeholders := by
  have isSimple : cursor.behindSimple = cursor.pass := by
    rw [behindSimple, if_neg]
    intro isColumn
    have isIdentifier := (Bool.and_eq_true_iff.mp isColumn).1
    rw [isPlaceholder] at isIdentifier
    cases isIdentifier
  have counts := (@counts_passBy cursor.pass
    (Extent.compositeWidth cursor.pass.tokens)).steps.placeholders
  rw [placeholders_pass isPlaceholder] at counts
  rw [behindOperand, isSimple]
  exact counts

theorem isCarried_of_marks
    {value : Int64}
    (isLiteral : bound.operand = .literal value) :
    Limit.IsCarried (markers ++ bound.marks isRowCount) isRowCount value := by
  refine .inl ⟨if isRowCount then .rowCount bound.start (bound.stop - bound.start) value
    else .offset bound.start (bound.stop - bound.start) value, ?_, ?_⟩
  · simp [Parse.LimitSpan.marks, isLiteral]
  · cases isRowCount <;> rfl

/-- A bound that is read is stated by the token that it is read from. -/
theorem HasBound.states
    (isBound : cursor.HasBound bound)
    (isRowCount : Bool)
    (isStated : limit.IsStated markers cursor.placeholders) :
    (limit.withBound isRowCount bound.operand).IsStated (markers ++ bound.marks isRowCount)
      cursor.pass.placeholders := by
  apply isStated.withBound (List.subset_append_left _ _) reaches_pass.steps.placeholders
  · exact fun value isLiteral => isCarried_of_marks isLiteral
  · intro index isIndex
    cases isBound with
    | literal => cases isIndex
    | placeholder isPlaceholder =>
        cases isIndex
        rw [placeholders_pass isPlaceholder]
        exact ⟨Nat.le_refl _, Nat.lt_succ_self _⟩

theorem TopOperand.states
    (top : cursor.TopOperand bound behind)
    (isStated : limit.IsStated markers cursor.placeholders) :
    (limit.withBound true bound.operand).IsStated (markers ++ bound.marks true)
      behind.placeholders := by
  cases top with
  | plain isBound => exact isBound.states true isStated
  | grouped _ isBound => exact isBound.states true isStated

theorem LimitClause.states
    (clause : cursor.LimitClause limit result behind others)
    (isStated : limit.IsStated markers cursor.placeholders) :
    result.IsStated (markers ++ others) behind.placeholders := by
  have reaches := clause.reaches
  have skipped : ∀ {last : Cursor} {kinds : List TokenKind},
      (last.skipAny kinds).placeholders = last.placeholders := by
    intro last kinds
    unfold skipAny
    split
    · rfl
    · rfl
  cases clause with
  | all => exact isStated.mono (List.subset_append_left _ _) (Nat.le_refl _)
  | rowCount _ isBound => exact isBound.states true isStated
  | window _ isFirst _ isSecond =>
      rw [← List.append_assoc]
      exact isSecond.states true (isFirst.states false isStated)
  | offset _ isBound =>
      rw [skipped]
      exact isBound.states false isStated
  | fetch _ isBound =>
      rw [skipped, skipped]
      exact isBound.states true (by rwa [skipped])
  | fetchOne =>
      rw [skipped, skipped, skipped]
      apply isStated.withBound (List.subset_append_left _ _) (Nat.le_refl _)
      · rintro _ ⟨⟩
        exact .inr ⟨rfl, rfl⟩
      · nofun

theorem LimitClauses.states
    (clauses : cursor.LimitClauses limit result behind others)
    (isStated : limit.IsStated markers cursor.placeholders) :
    result.IsStated (markers ++ others) behind.placeholders := by
  induction clauses with
  | none => exact isStated.mono (List.subset_append_left _ _) (Nat.le_refl _)
  | further _ clause ih =>
      rw [← List.append_assoc]
      exact clause.states ih

end Cursor

/-- Whether the row limit of a state is stated in the text, as far as it is read. -/
def ParseState.IsStated (state : ParseState) : Prop :=
  ∀ limit, state.statement.limit = some limit →
    limit.IsStated state.statement.markers state.cursor.placeholders

/-- Keeping the row limit stated. -/
def Conduct.stating : Conduct where
  relates before after := before.IsStated → after.IsStated
  fails _ := True
  refl _ := id
  trans first second := second ∘ first

namespace Parse

open Conduct (stating)

variable {before after : ParseState}

theorem stating_of_kept
    (sameLimit : after.statement.limit = before.statement.limit)
    (keeps : before.statement.markers ⊆ after.statement.markers)
    (counts : before.cursor.placeholders ≤ after.cursor.placeholders) :
    stating.relates before after := by
  intro isStated limit isLimit
  exact (isStated limit (sameLimit.symm.trans isLimit)).mono keeps counts

/-- Passing tokens and adding markers keeps the row limit. -/
theorem stating_of_reaches
    {markers : List Marker}
    (sameLimit : after.statement.limit = before.statement.limit)
    (added : after.statement.markers = before.statement.markers ++ markers)
    (reaches : before.cursor.Reaches after.cursor) :
    stating.relates before after := by
  apply stating_of_kept sameLimit _ reaches.steps.placeholders
  rw [added]
  exact List.subset_append_left _ _

theorem stating_isLenient : stating.IsLenient where
  fails _ := trivial
  moves counts := stating_of_kept rfl (List.Subset.refl _) counts.steps.placeholders

theorem modifyStatement_states
    {change : Statement → Statement}
    (sameLimit : ∀ statement, (change statement).limit = statement.limit)
    (keeps : ∀ statement, statement.markers ⊆ (change statement).markers) :
    (modifyStatement change).Obeys stating :=
  fun before => stating_of_kept (sameLimit before.statement) (keeps before.statement) (Nat.le_refl _)

theorem noteRowNumber_states
    (text : String)
    (aliasName : Option String) :
    (noteRowNumber text aliasName).Obeys stating := by
  intro before
  obtain ⟨found, noted⟩ := exists_outcome_noteRowNumber text aliasName before
  rw [noted]
  exact stating.refl before

theorem expression_states : expression.Obeys stating := by
  intro before
  rw [outcome_expression]
  exact stating_of_reaches rfl rfl Cursor.reaches_behindOperand

theorem tableName_states : tableName.Obeys stating := by
  apply obeys_of_ok stating_isLenient
  intro before after name ran
  obtain ⟨token, cursor, table, -, rfl⟩ := tableName_eq_ok ran
  exact stating_of_reaches rfl rfl table.counts.reaches

theorem itemHead_states (depth : Nat) : (itemHead depth).Obeys stating := by
  apply obeys_of_ok stating_isLenient
  intro before after head ran
  have relates := (itemHead_counts depth).relates ran
  have counts := relates.1.steps.placeholders
  cases itemHead_eq_ok ran with
  | other => exact stating.refl before
  | star =>
      have isNote :=
        Statement.isListNote_withStar depth (some (unquoteName before.cursor.current.source))
      exact stating_of_kept (isNote.limit _) (isNote.markers _ ▸ List.Subset.refl _) counts
  | call | column | name => exact stating_of_kept rfl (List.Subset.refl _) counts

theorem topClause_states : topClause.Obeys stating := by
  apply obeys_of_ok stating_isLenient
  intro before after _ ran
  rcases topClause_eq_ok ran with rfl | ⟨bound, cursor, isTop, top, rfl⟩
  · exact stating.refl _
  · rintro isStated _ ⟨⟩
    apply top.states
    cases isLimit : before.statement.limit with
    | none => exact Limit.isStated_of_unbound fun isRowCount => by cases isRowCount <;> rfl
    | some limit => exact isStated limit isLimit

theorem limitClauses_states : limitClauses.Obeys stating := by
  apply obeys_of_ok stating_isLenient
  intro before after _ ran
  rcases limitClauses_eq_ok ran with rfl | ⟨limit, cursor, markers, clauses, rfl⟩
  · exact stating.refl _
  · rintro - _ ⟨⟩
    exact clauses.states (Limit.isStated_of_unbound fun isRowCount => by cases isRowCount <;> rfl)

theorem note_states
    {change : Statement → Statement}
    (isNote : Statement.IsNote change) :
    (modifyStatement change).Obeys stating :=
  modifyStatement_states isNote.limit fun statement =>
    isNote.markers statement ▸ List.Subset.refl _

theorem stating_admits : stating.Admits where
  passing := passing_moves stating_isLenient
  note _ isNote := note_states isNote.toIsNote
  noteRowNumber := noteRowNumber_states
  aliasName := alias?_moves stating_isLenient
  expression := expression_states
  tableName := tableName_states
  addTable _ _ state _ :=
    (modifyStatement_states (fun _ => rfl) fun _ => List.Subset.refl _).from state
  itemHead := itemHead_states
  skipItem := skipItem_moves stating_isLenient
  assignmentRest := passMeasured_moves stating_isLenient _
  skipTop := skipTop_moves stating_isLenient
  topClause := topClause_states
  limitClauses := limitClauses_states
  lockClause := lockClause_moves fun reaches =>
    stating_of_kept rfl (List.Subset.refl _) reaches.steps.placeholders

/-- The bound that is compared with the number of the row is stated where it stands. -/
theorem rowNumberCondition_states : rowNumberCondition.Obeys stating := by
  intro state
  rw [outcome_rowNumberCondition]
  dsimp only
  have steps : state.cursor.Steps state.cursor.advance.behindOperand :=
    Cursor.steps_advance.trans Cursor.reaches_behindOperand.steps
  split
  next operand isBound =>
    rintro isStated _ ⟨⟩
    have before : (state.statement.limit.getD { countsFromOffset := false }).IsStated
        state.statement.markers state.cursor.placeholders := by
      cases isLimit : state.statement.limit with
      | none => exact Limit.isStated_of_unbound fun isRowCount => by cases isRowCount <;> rfl
      | some limit => exact isStated limit isLimit
    apply before.withBound _ steps.placeholders
    · intro value isLiteral
      exact Cursor.isCarried_of_marks isLiteral
    · rintro index rfl
      obtain ⟨isQuestion, rfl⟩ := Place.ahead_of_operand (rowNumberBound_placeholder isBound)
      rw [← Cursor.current_kind] at isQuestion
      exact ⟨Nat.le_refl _, Cursor.placeholders_lt_behindOperand isQuestion⟩
    · exact List.Subset.trans (List.subset_append_left _ _) (List.subset_append_left _ _)
  next =>
    exact stating_of_kept rfl (List.subset_append_left _ _) steps.placeholders

theorem stating_admitsWhere : stating.AdmitsWhere where
  toAdmits := stating_admits
  advance _ := advance_moves stating_isLenient
  condition := addCondition_obeys fun _ _ => stating_of_kept rfl (List.Subset.refl _) (Nat.le_refl _)
  rowNumber state _ := rowNumberCondition_states state
  openGroups := passMeasured_moves stating_isLenient _
  closeGroups _ := passMeasured_moves stating_isLenient _
  skipPredicate := skipPredicate_moves stating_isLenient

theorem deriveColumns_limit
    (statement : Statement)
    (listStop : Nat) :
    (statement.deriveColumns listStop).limit = statement.limit := by
  unfold Statement.deriveColumns
  dsimp only
  split
  · rfl
  · rfl

theorem deriveOrder_limit
    (statement : Statement)
    (groupByStop : Option Nat) :
    (statement.deriveOrder groupByStop).limit = statement.limit := by
  unfold Statement.deriveOrder
  split
  · rfl
  · dsimp only
    split
    · rfl
    · rfl

theorem finishSelect_states : finishSelect.Obeys stating := by
  have marked : markOwners.Obeys stating := by
    intro before
    rw [outcome_markOwners]
    exact stating_of_reaches rfl rfl (.refl _)
  have listed : ∀ stop,
      (modifyStatement fun statement => statement.deriveColumns stop).Obeys stating := by
    intro stop
    apply modifyStatement_states (fun statement => deriveColumns_limit statement stop)
    intro statement
    obtain ⟨added, markers, -⟩ := statement.markers_deriveColumns stop
    rw [markers]
    exact List.subset_append_left _ _
  have ordered : ∀ stop,
      (modifyStatement fun statement => statement.deriveOrder stop).Obeys stating := by
    intro stop
    apply modifyStatement_states (fun statement => deriveOrder_limit statement stop)
    intro statement
    obtain ⟨added, markers, -⟩ := statement.markers_deriveOrder stop
    rw [markers]
    exact List.subset_append_left _ _
  unfold finishSelect
  refine marked.bind fun _ => obeys_get_bind fun state => ?_
  dsimp only
  split
  next stop _ => exact (listed stop).bind fun _ => ordered _
  next => exact ordered _

theorem selectStatement_states : selectStatement.Obeys stating := by
  rw [selectStatement_eq]
  have outer : ∀ fuel, (query (fuel + 1) 0).Obeys stating :=
    outerQuery_obeys stating_admits (whereClause_obeys stating_admitsWhere)
      (fun _ _ _ before => stating.refl before) fun _ _ => note_states
  exact (obeys_get_bind fun _ => outer _).bind fun _ => finishSelect_states

end Parse

namespace Statement

variable {dialect : Dialect} {rule : Rule} {keys : Keys} {sql : String} {parameterCount : Nat}
variable {statement : Statement}

/-- The bounds of a parsed query are stated in its text, and a query has no generated key. -/
theorem isStated_of_parse
    (parsed : (Statement.parse dialect rule keys sql parameterCount).1 = .ok statement)
    (isQuery : statement.kind = .select) :
    (∀ limit, statement.limit = some limit → ∃ count, limit.IsStated statement.markers count) ∧
      statement.generatedKey = none := by
  obtain ⟨kind, front, last, led, read, rfl, -⟩ := exists_statementOf parsed
  obtain ⟨-, -, isFront⟩ := Parse.leading_eq_ok led
  have fresh : front.statement = { kind := kind } := congrArg ParseState.statement isFront
  obtain ⟨leads, _, ledToo, sameKind, -⟩ := exists_leading_of_parse parsed
  have isKind : kind = .select := by
    cases led.symm.trans ledToo
    exact sameKind.symm.trans isQuery
  subst isKind
  obtain ⟨⟨-, -, sameKey⟩, -⟩ :=
    (@Parse.statementOf_numbers .select nofun parameterCount).relates read
  constructor
  · intro limit isLimit
    refine ⟨last.cursor.placeholders, Parse.selectStatement_states.relates read ?_ limit isLimit⟩
    intro other isOther
    rw [fresh] at isOther
    cases isOther
  · rw [sameKey, fresh]

end Statement

end ShardedSql
