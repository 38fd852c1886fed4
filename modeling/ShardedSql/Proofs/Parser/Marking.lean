import ShardedSql.Proofs.Number.Literal
import ShardedSql.Proofs.Parser.Numbering

/-!
# Markers stand on tokens

Each marker that a parse adds stands on a token that it passes: on the name of a table, or on the number
that bounds a row limit.  No token gets two of them.
-/

namespace ShardedSql

/-- Whether a token is a number that equals an integer. -/
def Token.ReadsAs
    (token : Token)
    (value : Int64) : Prop :=
  ∃ number, Parse.expressionOf token 0 = .number number ∧ number.toInteger? = some value

/-- Whether a marker stands on a token: on a name, or on a number with its value. -/
inductive Token.Carries (token : Token) : Marker → Prop where
  | table (isName : token.kind.isName = true) :
      Carries token (.table token.start token.source)
  | bound
      {value : Int64}
      (isRowCount : Bool)
      (reads : token.ReadsAs value) :
      Carries token
        (if isRowCount then .rowCount token.start (token.stop - token.start) value
          else .offset token.start (token.stop - token.start) value)

namespace Parse

theorem numberText_of_read
    {text : String}
    {value : Int64}
    (isRead : Integer.read text = .ok value) :
    numberText text = text := by
  obtain ⟨others, last, split, isDigit⟩ := Integer.exists_last_of_read isRead
  have noSuffix : (last == 'f' || last == 'F' || last == 'd' || last == 'D') = false := by
    simpa [and_assoc] using test_of_isDigit
      (fun digit => digit != 'f' && digit != 'F' && digit != 'd' && digit != 'D')
      (by decide) isDigit
  rw [numberText, split, List.reverse_append, List.reverse_singleton, List.singleton_append,
    List.dropWhile_cons_of_neg (by simp [noSuffix]), List.reverse_cons, List.reverse_reverse, ← split,
    String.ofList_toList]

/-- A bound of a row limit has the value that it has as an expression. -/
theorem readsAs_of_read
    {token : Token}
    {value : Int64}
    (isNumber : token.kind = .literal .int)
    (isRead : Integer.read token.literals = .ok value) :
    token.ReadsAs value := by
  have isRead? : Integer.read? token.literals = some value := by
    rw [Integer.read?, isRead]
    rfl
  refine ⟨.integer value, ?_, rfl⟩
  unfold expressionOf
  rw [isNumber]
  change expressionOf.ofNumber token.literals = _
  rw [expressionOf.ofNumber, numberText_of_read isRead, Value.ofLiteral, isRead?]

/-- The class of a token does not depend on the placeholders in front of it, unless it is one. -/
theorem expressionOf_number
    {token : Token}
    {placeholders : Nat}
    {value : Value}
    (isNumber : expressionOf token placeholders = .number value) :
    expressionOf token 0 = .number value ∧ ∃ kind, token.kind = .literal kind := by
  unfold expressionOf at *
  split at isNumber
  next => cases isNumber
  next => cases isNumber
  next isLiteral => exact ⟨isNumber, _, isLiteral⟩
  next isLiteral => exact ⟨isNumber, _, isLiteral⟩
  next isLiteral => exact ⟨isNumber, _, isLiteral⟩
  next =>
    split at isNumber
    next => cases isNumber
    next => cases isNumber

end Parse

namespace Cursor

variable {cursor start between last behind : Cursor} {markers others : List Marker}

/-- Whether markers stand on some of the tokens between two cursors, in their order. -/
structure Marks (start last : Cursor) (markers : List Marker) : Prop where
  reaches : start.Reaches last
  carried : ∃ passed carriers, start.tokens = passed ++ last.tokens ∧ carriers.Sublist passed ∧
    List.Forall₂ Token.Carries carriers markers

theorem Reaches.marks (reaches : start.Reaches last) : start.Marks last [] := by
  obtain ⟨passed, split⟩ := reaches.suffix
  exact ⟨reaches, passed, [], split.symm, List.nil_sublist _, .nil⟩

theorem Marks.trans
    (first : start.Marks between markers)
    (second : between.Marks last others) :
    start.Marks last (markers ++ others) := by
  obtain ⟨reaches, passed, carriers, split, among, carried⟩ := first
  obtain ⟨reachesLater, passedLater, carriersLater, splitLater, amongLater, carriedLater⟩ := second
  refine ⟨reaches.trans reachesLater, passed ++ passedLater, carriers ++ carriersLater, ?_, ?_, ?_⟩
  · rw [split, splitLater, List.append_assoc]
  · exact among.append amongLater
  · exact List.rel_append carried carriedLater

/-- Tokens without markers in front of others change nothing. -/
theorem Marks.after
    (reaches : start.Reaches between)
    (marks : between.Marks last markers) :
    start.Marks last markers :=
  reaches.marks.trans marks

theorem Marks.reaching
    (marks : start.Marks between markers)
    (reaches : between.Reaches last) :
    start.Marks last markers := by
  simpa using marks.trans reaches.marks

theorem tokens_of_current (notLast : cursor.current.kind ≠ .finish) :
    cursor.tokens = cursor.current :: cursor.advance.tokens := by
  obtain ⟨tokens, textLength, placeholders, lastStop⟩ := cursor
  cases tokens with
  | nil => exact absurd rfl notLast
  | cons token rest => rfl

theorem finish_not_carries
    {marker : Marker}
    {token : Token}
    (carries : token.Carries marker) :
    token.kind ≠ .finish := by
  intro isLast
  cases carries with
  | table isName =>
      rw [isLast] at isName
      cases isName
  | bound isRowCount reads =>
      obtain ⟨number, isNumber, -⟩ := reads
      obtain ⟨-, kind, isLiteral⟩ := Parse.expressionOf_number isNumber
      cases isLast.symm.trans isLiteral

/-- A marker on the current token. -/
theorem marks_current
    {marker : Marker}
    (reaches : cursor.Reaches last)
    (suffix : last.tokens <:+ cursor.advance.tokens)
    (carries : cursor.current.Carries marker) :
    cursor.Marks last [marker] := by
  obtain ⟨passed, split⟩ := suffix
  refine ⟨reaches, cursor.current :: passed, [cursor.current], ?_, ?_, ?_⟩
  · rw [tokens_of_current (finish_not_carries carries), ← split, List.cons_append]
  · exact (List.nil_sublist passed).cons_cons _
  · exact .cons carries .nil

theorem TableName.marks
    {token : Token}
    (table : cursor.TableName token behind) :
    cursor.Marks behind [.table token.start token.source] := by
  cases table with
  | bare isName =>
      exact marks_current (reaches_advance_of_isName isName) (List.suffix_refl _) (.table isName)
  | owned isName isPoint isSecond =>
      have front := (reaches_advance_of_isName isName).trans (reaches_advance_of_kind isPoint nofun)
      apply Marks.after front
      exact marks_current (reaches_advance_of_isName isSecond) (List.suffix_refl _) (.table isSecond)

theorem SingleTable.marks
    {token : Token}
    {aliasName : Option String}
    (table : cursor.SingleTable token aliasName behind) :
    cursor.Marks behind [.table token.start token.source] := by
  cases table with
  | plain named => exact named.marks.reaching reaches_behindAlias
  | grouped opens named closes =>
      apply Marks.after (reaches_advance_of_kind opens nofun)
      apply named.marks.reaching
      exact (reaches_advance_of_kind closes nofun).trans reaches_behindAlias

/-- An expression begins with the current token, and passes at least this. -/
theorem suffix_behindOperand : cursor.behindOperand.tokens <:+ cursor.advance.tokens := by
  have suffix := cursor.place.operand_suffix
  rw [← place_behindOperand] at suffix
  exact suffix

end Cursor

/-- A column with an owner begins with a name. -/
theorem Place.isIdentifier_of_property
    {place : Place}
    {owner name : String}
    (isOperand : place.operand.1 = .property owner name) :
    place.ahead.kind.isIdentifier = true := by
  by_contra other
  rw [Place.operand, simpleOperand_of_noOwner fun owned => other owned.1] at isOperand
  dsimp only at isOperand
  split at isOperand
  next => cases isOperand
  next =>
    unfold Parse.expressionOf at isOperand
    split at isOperand
    next => cases isOperand
    next => cases isOperand
    next => unfold Parse.expressionOf.ofNumber at isOperand; split at isOperand <;> cases isOperand
    next => unfold Parse.expressionOf.ofNumber at isOperand; split at isOperand <;> cases isOperand
    next => split at isOperand <;> cases isOperand
    next => split at isOperand <;> cases isOperand

/-- A number is a literal by itself, and the expression ends behind it. -/
theorem Cursor.behindOperand_of_number
    {cursor : Cursor}
    {value : Value}
    (isNumber : cursor.place.operand.1 = .number value) :
    cursor.behindOperand = cursor.pass ∧
      Parse.expressionOf cursor.current 0 = .number value := by
  have isLone := (Place.operand_isValue_iff cursor.place).mp (by rw [isNumber]; rfl)
  rw [isLone.operand_eq] at isNumber
  obtain ⟨isAhead, kind, isLiteral⟩ := Parse.expressionOf_number isNumber
  have isCurrent : cursor.current = cursor.place.ahead := by
    obtain ⟨tokens, textLength, placeholders, lastStop⟩ := cursor
    cases tokens with
    | nil => cases isLiteral
    | cons => rfl
  rw [isCurrent]
  refine ⟨?_, isAhead⟩
  have isSimple : cursor.behindSimple = cursor.pass := by
    rw [behindSimple, if_neg]
    intro isColumn
    have isIdentifier := (Bool.and_eq_true_iff.mp isColumn).1
    rw [← isCurrent] at isAhead
    rw [Place.expressionOf_of_isIdentifier isIdentifier] at isAhead
    cases isAhead
  have noWidth := (Place.compositeWidth_eq_zero_iff cursor.pass.place).mpr (by
    rw [place_pass]
    exact isLone.isAlone)
  have sameTokens : cursor.pass.place.tokens = cursor.pass.tokens := rfl
  rw [behindOperand, isSimple, ← sameTokens, noWidth]
  rfl

namespace Cursor

variable {cursor start between last behind : Cursor} {markers others : List Marker}

theorem marks_behindOperand (tables : Tables) :
    cursor.Marks cursor.behindOperand (cursor.ownerMarks tables) := by
  unfold ownerMarks
  split
  next owner name isOperand =>
    split
    next =>
      have isIdentifier := Place.isIdentifier_of_property isOperand
      rw [← current_kind] at isIdentifier
      apply marks_current reaches_behindOperand suffix_behindOperand
      exact .table (by simp [TokenKind.isName, isIdentifier])
    next => exact reaches_behindOperand.marks
  next => exact reaches_behindOperand.marks

theorem HasBound.marks
    {bound : Parse.LimitSpan}
    (isBound : cursor.HasBound bound)
    (isRowCount : Bool) :
    cursor.Marks cursor.pass (bound.marks isRowCount) := by
  cases isBound with
  | literal isNumber read =>
      exact marks_current reaches_pass (List.suffix_refl _)
        (.bound isRowCount (Parse.readsAs_of_read isNumber read))
  | placeholder => exact reaches_pass.marks

theorem TopOperand.marks
    {bound : Parse.LimitSpan}
    (top : cursor.TopOperand bound behind)
    (isRowCount : Bool) :
    cursor.Marks behind (bound.marks isRowCount) := by
  cases top with
  | plain isBound => exact isBound.marks isRowCount
  | grouped opens isBound closes =>
      apply Marks.after (reaches_advance_of_kind opens nofun)
      exact (isBound.marks isRowCount).reaching (reaches_advance_of_kind closes nofun)

theorem LimitClause.marks
    {limit result : Limit}
    (clause : cursor.LimitClause limit result behind markers) :
    cursor.Marks behind markers := by
  have rows : ∀ {last : Cursor}, last.Reaches (last.skipAny [.keyword .ROW, .keyword .ROWS]) :=
    reaches_skipAny (by simp)
  have only : ∀ {last : Cursor}, last.Reaches (last.skipAny [.keyword .ONLY]) :=
    reaches_skipAny (by simp)
  have first : ∀ {last : Cursor}, last.Reaches (last.skipAny [.keyword .FIRST, .keyword .NEXT]) :=
    reaches_skipAny (by simp)
  cases clause with
  | all isLimit isAll =>
      exact ((reaches_advance_of_kind isLimit nofun).trans
        (reaches_advance_of_kind isAll nofun)).marks
  | rowCount isLimit isBound =>
      exact .after (reaches_advance_of_kind isLimit nofun) (isBound.marks true)
  | window isLimit isFirst isComma isSecond =>
      apply Marks.after (reaches_advance_of_kind isLimit nofun)
      apply (isFirst.marks false).trans
      exact .after (reaches_advance_of_kind isComma nofun) (isSecond.marks true)
  | offset isOffset isBound =>
      apply Marks.after (reaches_advance_of_kind isOffset nofun)
      exact (isBound.marks false).reaching rows
  | fetch isFetch isBound =>
      apply Marks.after ((reaches_advance_of_kind isFetch nofun).trans first)
      exact (isBound.marks true).reaching (rows.trans only)
  | fetchOne isFetch =>
      exact (((reaches_advance_of_kind isFetch nofun).trans first).trans (rows.trans only)).marks

theorem LimitClauses.marks
    {limit result : Limit}
    (clauses : cursor.LimitClauses limit result behind markers) :
    cursor.Marks behind markers := by
  induction clauses with
  | none => exact (Reaches.refl cursor).marks
  | further _ clause ih => exact ih.trans clause.marks

theorem ReadsValues.marks
    {starts : List Cursor}
    {closing : Cursor}
    (tables : Tables)
    (values : cursor.ReadsValues starts closing) :
    cursor.Marks closing (valueMarks tables starts) := by
  induction values with
  | last =>
      rw [valueMarks, List.flatMap_singleton]
      exact marks_behindOperand tables
  | next isComma _ ih =>
      apply (marks_behindOperand tables).trans
      exact .after (reaches_advance_of_kind isComma (by decide)) ih

theorem ReadsAssignments.marks
    {assignments : List (String × Cursor)}
    (tables : Tables)
    (row : cursor.ReadsAssignments assignments last) :
    cursor.Marks last (valueMarks tables (assignments.map Prod.snd)) := by
  induction row with
  | last column isSign =>
      rw [List.map_singleton, valueMarks, List.flatMap_singleton]
      exact .after (column.counts.reaches.trans (reaches_advance_of_kind isSign (by decide)))
        (marks_behindOperand tables)
  | next column isSign isComma _ ih =>
      apply Marks.after (column.counts.reaches.trans (reaches_advance_of_kind isSign (by decide)))
      apply (marks_behindOperand tables).trans
      exact .after (reaches_advance_of_kind isComma (by decide)) ih

/-- The markers of a row in parentheses stand in front of the one that closes it. -/
theorem RowReading.IsRow.marks_closing
    {columnCount : Nat}
    {row : RowReading}
    (tables : Tables)
    (isRow : row.IsRow cursor columnCount)
    {closing : Cursor}
    (isClosing : row.closing = some closing) :
    cursor.Marks closing (valueMarks tables row.starts) ∧ row.last = closing.advance := by
  cases isRow with
  | values isValues opens values =>
      cases isClosing
      have front : cursor.Reaches cursor.advance.advance := by
        apply Reaches.trans (reaches_advance _) (reaches_advance_of_kind opens nofun)
        intro isPlaceholder
        rw [isPlaceholder] at isValues
        simp at isValues
      exact ⟨.after front (values.marks tables), rfl⟩
  | assignments => cases isClosing

theorem RowReading.IsRow.marks
    {columnCount : Nat}
    {row : RowReading}
    (tables : Tables)
    (isRow : row.IsRow cursor columnCount) :
    cursor.Marks row.last (valueMarks tables row.starts) := by
  cases isClosing : row.closing with
  | some closing =>
      obtain ⟨marks, isLast⟩ := isRow.marks_closing tables isClosing
      rw [isLast]
      exact marks.reaching (reaches_advance_of_kind (isRow.closes isClosing) nofun)
  | none =>
      cases isRow with
      | values => cases isClosing
      | assignments isSet assignments =>
          exact .after (reaches_advance_of_kind isSet nofun) (assignments.marks tables)

end Cursor

/-- The markers of a state, with those that stand for owners of select items. -/
def ParseState.pending (state : ParseState) : List Marker :=
  state.statement.markers ++ state.notes.owners.map fun owner => .table owner.1 owner.2

/-- Passing tokens and adding markers that stand on some of them. -/
def Conduct.marking : Conduct where
  relates before after :=
    (∃ markers, before.cursor.Marks after.cursor markers ∧
      after.pending.Perm (before.pending ++ markers)) ∧
    after.notes.listStop = before.notes.listStop ∧
    after.notes.groupByStop = before.notes.groupByStop
  fails _ := True
  refl state := by
    refine ⟨⟨[], (Cursor.Reaches.refl _).marks, ?_⟩, rfl, rfl⟩
    rw [List.append_nil]
  trans := by
    rintro before between after ⟨⟨markers, marks, added⟩, listed, grouped⟩
      ⟨⟨others, marksLater, addedLater⟩, listedLater, groupedLater⟩
    refine ⟨⟨markers ++ others, marks.trans marksLater, ?_⟩, listedLater.trans listed,
      groupedLater.trans grouped⟩
    rw [← List.append_assoc]
    exact addedLater.trans (added.append_right others)

namespace Parse

open Conduct (marking)

variable {α : Type} {before after : ParseState}

theorem marking_of_marks
    {markers : List Marker}
    (marks : before.cursor.Marks after.cursor markers)
    (added : after.statement.markers = before.statement.markers ++ markers)
    (sameNotes : after.notes = before.notes) :
    marking.relates before after := by
  refine ⟨⟨markers, marks, ?_⟩, congrArg _ sameNotes, congrArg _ sameNotes⟩
  rw [ParseState.pending, ParseState.pending, added, sameNotes, List.append_assoc, List.append_assoc]
  exact List.perm_append_comm.append_left _

theorem marking_of_reaches
    (reaches : before.cursor.Reaches after.cursor)
    (sameMarkers : after.statement.markers = before.statement.markers)
    (sameNotes : after.notes = before.notes) :
    marking.relates before after :=
  marking_of_marks reaches.marks (by rw [sameMarkers, List.append_nil]) sameNotes

theorem marking_isLenient : marking.IsLenient where
  fails _ := trivial
  moves counts := marking_of_reaches counts.reaches rfl rfl

theorem marking_of_owner
    {token : Token}
    (marks : before.cursor.Marks after.cursor [.table token.start token.source])
    (sameMarkers : after.statement.markers = before.statement.markers)
    (noted : after.notes =
      { before.notes with owners := before.notes.owners ++ [(token.start, token.source)] }) :
    marking.relates before after := by
  refine ⟨⟨_, marks, ?_⟩, by rw [noted], by rw [noted]⟩
  rw [ParseState.pending, ParseState.pending, sameMarkers, noted, List.map_append, List.append_assoc]
  exact .refl _

theorem noteRowNumber_marks
    (text : String)
    (aliasName : Option String) :
    (noteRowNumber text aliasName).Obeys marking := by
  intro before
  obtain ⟨found, noted⟩ := exists_outcome_noteRowNumber text aliasName before
  rw [noted]
  exact marking.refl before

theorem expression_marks : expression.Obeys marking := by
  intro before
  rw [outcome_expression]
  exact marking_of_marks (Cursor.marks_behindOperand _) rfl rfl

theorem tableName_marks : tableName.Obeys marking := by
  apply obeys_of_ok marking_isLenient
  intro before after name ran
  obtain ⟨token, cursor, table, -, rfl⟩ := tableName_eq_ok ran
  exact marking_of_marks table.marks rfl rfl

theorem itemHead_marks (depth : Nat) : (itemHead depth).Obeys marking := by
  apply obeys_of_ok marking_isLenient
  intro before after head ran
  have identifier := @TokenKind.ne_question_of_isIdentifier before.cursor.current.kind
  have owner : ∀ isIdentifier : before.cursor.current.kind.isIdentifier = true,
      before.cursor.advance.current.kind = .symbol .dot →
        before.cursor.Marks before.cursor.advance.advance.advance
          [.table before.cursor.current.start before.cursor.current.source] := by
    intro isIdentifier isPoint
    have reaches := (Cursor.reaches_advance (identifier isIdentifier)).trans
      (Cursor.reaches_behindPoint isPoint)
    apply Cursor.marks_current reaches ((List.tail_suffix _).trans (List.tail_suffix _))
    exact .table (by simp [TokenKind.isName, isIdentifier])
  cases itemHead_eq_ok ran with
  | other => exact marking.refl before
  | call isName =>
      have front := Cursor.reaches_advance (identifier isName)
      exact marking_of_reaches (front.trans (Cursor.reaches_passBy _)) rfl rfl
  | star isName isPoint =>
      have isNote :=
        Statement.isListNote_withStar depth (some (unquoteName before.cursor.current.source))
      exact marking_of_owner (owner isName isPoint) (isNote.markers _) rfl
  | column isName isPoint => exact marking_of_owner (owner isName isPoint) rfl rfl
  | name isName => exact marking_of_reaches (Cursor.reaches_advance (identifier isName)) rfl rfl

theorem topClause_marks : topClause.Obeys marking := by
  apply obeys_of_ok marking_isLenient
  intro before after _ ran
  rcases topClause_eq_ok ran with rfl | ⟨bound, cursor, isTop, top, rfl⟩
  · exact marking.refl _
  · have marks := Cursor.Marks.after (Cursor.reaches_advance_of_kind isTop nofun) (top.marks true)
    exact marking_of_marks marks rfl rfl

theorem limitClauses_marks : limitClauses.Obeys marking := by
  apply obeys_of_ok marking_isLenient
  intro before after _ ran
  rcases limitClauses_eq_ok ran with rfl | ⟨limit, cursor, markers, clauses, rfl⟩
  · exact marking.refl _
  · exact marking_of_marks clauses.marks rfl rfl

theorem modifyStatement_marks
    {change : Statement → Statement}
    (sameMarkers : ∀ statement, (change statement).markers = statement.markers) :
    (modifyStatement change).Obeys marking :=
  fun before => marking_of_reaches (.refl _) (sameMarkers before.statement) rfl

theorem marking_admits : marking.Admits where
  passing := passing_moves marking_isLenient
  note _ isNote := modifyStatement_marks isNote.markers
  noteRowNumber := noteRowNumber_marks
  aliasName := alias?_moves marking_isLenient
  expression := expression_marks
  tableName := tableName_marks
  addTable _ _ state _ := (modifyStatement_marks fun _ => rfl).from state
  itemHead := itemHead_marks
  skipItem := skipItem_moves marking_isLenient
  assignmentRest := passMeasured_moves marking_isLenient _
  skipTop := skipTop_moves marking_isLenient
  topClause := topClause_marks
  limitClauses := limitClauses_marks
  lockClause := lockClause_moves fun reaches => marking_of_reaches reaches rfl rfl

theorem rowNumberBound_literal
    {expression : Expression}
    {value : Int64}
    (isBound : rowNumberBound? expression = some (.literal value)) :
    ∃ number, expression = .number number ∧ number.toInteger? = some value := by
  unfold rowNumberBound? at isBound
  split at isBound
  next number =>
    obtain ⟨found, isInteger, isLiteral⟩ := Option.map_eq_some_iff.mp isBound
    cases isLiteral
    exact ⟨number, rfl, isInteger⟩
  next => cases isBound
  next => cases isBound

/-- The literal that is compared with the number of the row is the whole operand. -/
theorem marks_rowNumber
    {cursor : Cursor}
    {operand : LimitOperand}
    (tables : Tables)
    (isRowCount : Bool)
    (isBound : rowNumberBound? cursor.place.operand.1 = some operand) :
    cursor.Marks cursor.behindOperand
      (cursor.ownerMarks tables ++ LimitSpan.marks isRowCount
        ⟨operand, cursor.current.start, cursor.behindOperand.lastStop⟩) := by
  cases operand with
  | placeholder index =>
      rw [LimitSpan.marks, List.append_nil]
      exact Cursor.marks_behindOperand tables
  | literal value =>
      obtain ⟨number, isNumber, isInteger⟩ := rowNumberBound_literal isBound
      obtain ⟨isPass, isCurrent⟩ := Cursor.behindOperand_of_number isNumber
      rw [Cursor.ownerMarks, isNumber, isPass]
      exact Cursor.marks_current Cursor.reaches_pass (List.suffix_refl _)
        (.bound isRowCount ⟨number, isCurrent, isInteger⟩)

theorem rowNumberCondition_marks
    {state : ParseState}
    (isSign : state.cursor.current.kind ∈ TokenKind.inequalities) :
    rowNumberCondition.ObeysFrom marking state := by
  have others : ∀ kind ∈ TokenKind.inequalities, kind ≠ .symbol .question := by
    decide
  have front := Cursor.reaches_advance (others _ isSign)
  unfold ObeysFrom
  rw [outcome_rowNumberCondition]
  dsimp only
  split
  next operand isBound =>
    have marks := Cursor.Marks.after front (marks_rowNumber state.statement.tables
      ([TokenKind.symbol .lt, .symbol .ltEq].contains state.cursor.current.kind) isBound)
    exact marking_of_marks marks (List.append_assoc _ _ _) rfl
  next => exact marking_of_marks (.after front (Cursor.marks_behindOperand _)) rfl rfl

theorem marking_admitsWhere : marking.AdmitsWhere where
  toAdmits := marking_admits
  advance _ := advance_moves marking_isLenient
  condition := addCondition_obeys fun _ _ => marking_of_reaches (.refl _) rfl rfl
  rowNumber _ := rowNumberCondition_marks
  openGroups := passMeasured_moves marking_isLenient _
  closeGroups _ := passMeasured_moves marking_isLenient _
  skipPredicate := skipPredicate_moves marking_isLenient

end Parse

end ShardedSql
