import ShardedSql.Proofs.Parser.Operand
import ShardedSql.Proofs.Parser.Walking

/-!
# Placeholders are counted

Every step of a parse keeps the number of all placeholders of the text: those it has counted and those
ahead.  Hence the number that a placeholder gets is the number of placeholders in front of it.
-/

namespace ShardedSql

/-- The kinds of the tokens that lead to a row count or to an offset. -/
def TokenKind.boundLeads (isRowCount : Bool) : List (List TokenKind) :=
  if isRowCount then
    [[.keyword .TOP], [.keyword .TOP, .symbol .leftParen],
      [.keyword .LIMIT], [.keyword .LIMIT, .literal .int, .symbol .comma],
      [.keyword .LIMIT, .symbol .question, .symbol .comma],
      [.keyword .FETCH], [.keyword .FETCH, .keyword .FIRST], [.keyword .FETCH, .keyword .NEXT],
      [.symbol .lt], [.symbol .ltEq]]
  else
    [[.keyword .LIMIT], [.keyword .OFFSET], [.symbol .gt], [.symbol .gtEq]]

/-- Whether the placeholder with a number stands among the tokens from a place on, right behind tokens
of certain kinds. -/
def Place.AsksBehind
    (leads : List (List TokenKind))
    (index : Nat)
    (start : Place) : Prop :=
  ∃ lead question rest, lead.map Token.kind ∈ leads ∧ question.kind = .symbol .question ∧
    lead ++ question :: rest <:+ start.tokens ∧ start.Reaches ⟨question :: rest, index⟩

theorem Place.AsksBehind.behind
    {leads : List (List TokenKind)}
    {index : Nat}
    {start between : Place}
    (asks : between.AsksBehind leads index)
    (reaches : start.Reaches between) :
    start.AsksBehind leads index := by
  obtain ⟨lead, question, rest, isLead, isQuestion, suffix, reached⟩ := asks
  exact ⟨lead, question, rest, isLead, isQuestion, suffix.trans reaches.suffix,
    reaches.trans reached⟩

/-- A placeholder that is passed as a bound stands behind the tokens in front of it. -/
theorem Place.asksBehind_of_current
    {start : Place}
    {leads : List (List TokenKind)}
    {lead : List Token}
    {cursor : Cursor}
    (isLead : lead.map Token.kind ∈ leads)
    (isPlaceholder : cursor.current.kind = .symbol .question)
    (split : lead ++ cursor.tokens <:+ start.tokens)
    (reaches : start.Reaches cursor.place) :
    start.AsksBehind leads cursor.placeholders := by
  obtain ⟨question, isQuestion, tokens⟩ := Cursor.exists_token isPlaceholder nofun
  have place : cursor.place = ⟨question :: cursor.advance.tokens, cursor.placeholders⟩ := by
    rw [Cursor.place, tokens]
  rw [tokens] at split
  rw [place] at reaches
  exact ⟨lead, question, _, isLead, isQuestion, split, reaches⟩

namespace Limit

/-- Whether each placeholder that bounds the second limit bounds the first one as well, or stands among
the tokens from a place on. -/
def GrowsFrom
    (start : Place)
    (limit result : Limit) : Prop :=
  ∀ isRowCount index, result.bound? isRowCount = some (.placeholder index) →
    limit.bound? isRowCount = some (.placeholder index) ∨
      start.AsksBehind (TokenKind.boundLeads isRowCount) index

namespace GrowsFrom

variable {start : Place} {limit between result : Limit}

theorem refl : limit.GrowsFrom start limit :=
  fun _ _ bounded => .inl bounded

theorem trans
    (first : limit.GrowsFrom start between)
    (second : between.GrowsFrom start result) :
    limit.GrowsFrom start result := by
  intro isRowCount index bounded
  rcases second isRowCount index bounded with isEarlier | asks
  · exact first isRowCount index isEarlier
  · exact .inr asks

theorem behind
    {first : Place}
    (grows : limit.GrowsFrom start result)
    (reaches : first.Reaches start) :
    limit.GrowsFrom first result :=
  fun isRowCount index bounded =>
    (grows isRowCount index bounded).imp_right fun asks => asks.behind reaches

theorem bound
    {isRowCount : Bool}
    {operand : LimitOperand}
    (asks : ∀ index, operand = .placeholder index →
      start.AsksBehind (TokenKind.boundLeads isRowCount) index) :
    limit.GrowsFrom start (limit.withBound isRowCount operand) := by
  intro isAsked index bounded
  rcases Limit.bound?_withBound bounded with ⟨rfl, isOperand⟩ | isEarlier
  · exact .inr (asks index isOperand.symm)
  · exact .inl isEarlier

end GrowsFrom

end Limit

namespace Cursor

section Bounds

variable {start : Place} {cursor behind : Cursor} {bound : Parse.LimitSpan} {isRowCount : Bool}
variable {index : Nat}

theorem HasBound.asksBehind
    {lead : List Token}
    {kinds : List TokenKind}
    (isBound : cursor.HasBound bound)
    (split : lead ++ cursor.tokens = start.tokens)
    (sameKinds : lead.map Token.kind = kinds)
    (isLead : kinds ∈ TokenKind.boundLeads isRowCount)
    (reaches : start.Reaches cursor.place)
    (asked : bound.operand = .placeholder index) :
    start.AsksBehind (TokenKind.boundLeads isRowCount) index := by
  cases isBound with
  | literal => cases asked
  | placeholder isPlaceholder =>
      cases asked
      rw [← sameKinds] at isLead
      exact Place.asksBehind_of_current isLead isPlaceholder ⟨[], split⟩ reaches

/-- The bound right behind a word. -/
theorem HasBound.asksBehind_word
    {word : Keyword}
    (isBound : cursor.advance.HasBound bound)
    (isWord : cursor.current.kind = .keyword word)
    (isLead : [.keyword word] ∈ TokenKind.boundLeads isRowCount)
    (asked : bound.operand = .placeholder index) :
    cursor.place.AsksBehind (TokenKind.boundLeads isRowCount) index := by
  obtain ⟨token, isKind, tokens⟩ := exists_token isWord nofun
  have sameKinds : [token].map Token.kind = [.keyword word] := congrArg (fun kind => [kind]) isKind
  exact isBound.asksBehind tokens.symm sameKinds isLead (reaches_advance_of_kind isWord nofun).place asked

/-- The bound behind a word and a token that is passed behind it. -/
theorem HasBound.asksBehind_pair
    {word : Keyword}
    {second : TokenKind}
    (isBound : cursor.advance.advance.HasBound bound)
    (isWord : cursor.current.kind = .keyword word)
    (isSecond : cursor.advance.current.kind = second)
    (isLead : [.keyword word, second] ∈ TokenKind.boundLeads isRowCount)
    (other : second ≠ .symbol .question ∧ second ≠ .finish)
    (asked : bound.operand = .placeholder index) :
    cursor.place.AsksBehind (TokenKind.boundLeads isRowCount) index := by
  obtain ⟨token, isKind, tokens⟩ := exists_token isWord nofun
  obtain ⟨next, isNext, others⟩ := exists_token isSecond other.2
  have split : [token, next] ++ cursor.advance.advance.tokens = cursor.tokens := by
    rw [tokens, others]
    rfl
  have sameKinds : [token, next].map Token.kind = [.keyword word, second] := by
    rw [← isKind, ← isNext]
    rfl
  have reaches := (reaches_advance_of_kind isWord nofun).trans
    (reaches_advance_of_kind isSecond other.1)
  exact isBound.asksBehind split sameKinds isLead reaches.place asked

/-- The second bound behind LIMIT. -/
theorem HasBound.asksBehind_comma
    {first : Parse.LimitSpan}
    (isBound : cursor.advance.pass.advance.HasBound bound)
    (isLimit : cursor.current.kind = .keyword .LIMIT)
    (isFirst : cursor.advance.HasBound first)
    (isComma : cursor.advance.pass.current.kind = .symbol .comma)
    (asked : bound.operand = .placeholder index) :
    cursor.place.AsksBehind (TokenKind.boundLeads true) index := by
  obtain ⟨kind, isKind, isLead, notLast⟩ : ∃ kind, cursor.advance.current.kind = kind ∧
      [.keyword .LIMIT, kind, .symbol .comma] ∈ TokenKind.boundLeads true ∧ kind ≠ .finish := by
    cases isFirst with
    | literal isNumber => exact ⟨_, isNumber, by decide, nofun⟩
    | placeholder isPlaceholder => exact ⟨_, isPlaceholder, by decide, nofun⟩
  obtain ⟨word, isWord, tokens⟩ := exists_token isLimit nofun
  obtain ⟨number, isNumber, others⟩ := exists_token isKind notLast
  obtain ⟨comma, isSign, rest⟩ := exists_token isComma nofun
  have split : [word, number, comma] ++ cursor.advance.pass.advance.tokens = cursor.tokens := by
    rw [tokens, others]
    exact congrArg (fun rest => word :: number :: rest) rest.symm
  have sameKinds : [word, number, comma].map Token.kind =
      [.keyword .LIMIT, kind, .symbol .comma] := by
    rw [← isWord, ← isNumber, ← isSign]
    rfl
  have reaches := ((reaches_advance_of_kind isLimit nofun).trans reaches_pass).trans
    (reaches_advance_of_kind isComma nofun)
  exact isBound.asksBehind split sameKinds isLead reaches.place asked

/-- The bound behind FETCH and the words that may follow it. -/
theorem HasBound.asksBehind_fetch
    (isBound : (cursor.advance.skipAny [.keyword .FIRST, .keyword .NEXT]).HasBound bound)
    (isFetch : cursor.current.kind = .keyword .FETCH)
    (asked : bound.operand = .placeholder index) :
    cursor.place.AsksBehind (TokenKind.boundLeads true) index := by
  unfold skipAny at isBound
  split at isBound
  next isThere =>
    rw [List.contains_iff_mem, List.mem_cons, List.mem_singleton] at isThere
    rcases isThere with isFirst | isNext
    · exact isBound.asksBehind_pair isFetch isFirst (by decide) ⟨nofun, nofun⟩ asked
    · exact isBound.asksBehind_pair isFetch isNext (by decide) ⟨nofun, nofun⟩ asked
  next => exact isBound.asksBehind_word isFetch (by decide) asked

theorem TopOperand.asksBehind
    (top : cursor.advance.TopOperand bound behind)
    (isTop : cursor.current.kind = .keyword .TOP)
    (asked : bound.operand = .placeholder index) :
    cursor.place.AsksBehind (TokenKind.boundLeads true) index := by
  cases top with
  | plain isBound => exact isBound.asksBehind_word isTop (by decide) asked
  | grouped opens isBound =>
      exact isBound.asksBehind_pair isTop opens (by decide) ⟨nofun, nofun⟩ asked

/-- A further clause of a row limit takes its bounds from among its tokens. -/
theorem LimitClause.grows
    {limit result : Limit}
    {markers : List Marker}
    (clause : cursor.LimitClause limit result behind markers) :
    limit.GrowsFrom cursor.place result := by
  cases clause with
  | all => exact .refl
  | rowCount isLimit isBound =>
      exact .bound fun _ => isBound.asksBehind_word isLimit (by decide)
  | window isLimit isFirst isComma isSecond =>
      exact .trans (.bound fun _ => isFirst.asksBehind_word isLimit (by decide))
        (.bound fun _ => isSecond.asksBehind_comma isLimit isFirst isComma)
  | offset isOffset isBound =>
      exact .bound fun _ => isBound.asksBehind_word isOffset (by decide)
  | fetch isFetch isBound => exact .bound fun _ => isBound.asksBehind_fetch isFetch
  | fetchOne => exact .bound nofun

theorem LimitClauses.grows
    {limit result : Limit}
    {markers : List Marker}
    (clauses : cursor.LimitClauses limit result behind markers) :
    limit.GrowsFrom cursor.place result := by
  induction clauses with
  | none => exact .refl
  | further clauses clause ih => exact ih.trans (clause.grows.behind clauses.reaches.place)

end Bounds

end Cursor

/-- The row limit of a statement; without one, it has no bounds. -/
def Statement.window (statement : Statement) : Limit :=
  statement.limit.getD { countsFromOffset := false }

/-- Passing tokens with each placeholder counted, and taking placeholders among them as bounds of the
row limit.  The key of a row is noted by none of these steps. -/
def Conduct.counting : Conduct where
  relates before after :=
    before.cursor.Reaches after.cursor ∧
      before.statement.window.GrowsFrom before.cursor.place after.statement.window ∧
      after.statement.generatedKey = before.statement.generatedKey
  fails _ := True
  refl _ := ⟨.refl _, .refl, rfl⟩
  trans first second :=
    ⟨first.1.trans second.1, first.2.1.trans (second.2.1.behind first.1.place),
      second.2.2.trans first.2.2⟩

namespace Parse

open Conduct (counting)

variable {α : Type}

theorem relates_of_reaches
    {before after : ParseState}
    (reaches : before.cursor.Reaches after.cursor)
    (sameLimit : after.statement.limit = before.statement.limit)
    (sameKey : after.statement.generatedKey = before.statement.generatedKey) :
    counting.relates before after := by
  refine ⟨reaches, ?_, sameKey⟩
  rw [Statement.window, Statement.window, sameLimit]
  exact .refl

theorem counting_isLenient : counting.IsLenient where
  fails _ := trivial
  moves counts := relates_of_reaches counts.reaches rfl rfl

theorem modifyStatement_counts
    {change : Statement → Statement}
    (keepsLimit : ∀ statement, (change statement).limit = statement.limit)
    (keepsKey : ∀ statement, (change statement).generatedKey = statement.generatedKey) :
    (modifyStatement change).Obeys counting :=
  fun before => relates_of_reaches (.refl _) (keepsLimit before.statement) (keepsKey before.statement)

theorem expression_counts : expression.Obeys counting := by
  intro before
  rw [outcome_expression]
  exact relates_of_reaches Cursor.reaches_behindOperand rfl rfl

theorem tableName_counts : tableName.Obeys counting := by
  apply obeys_of_ok counting_isLenient
  intro before after name ran
  obtain ⟨token, cursor, table, -, rfl⟩ := tableName_eq_ok ran
  exact relates_of_reaches table.counts.reaches rfl rfl

theorem topClause_counts : topClause.Obeys counting := by
  apply obeys_of_ok counting_isLenient
  intro before after _ ran
  rcases topClause_eq_ok ran with rfl | ⟨bound, cursor, isTop, top, rfl⟩
  · exact counting.refl _
  · have reaches := (Cursor.reaches_advance_of_kind isTop nofun).trans top.counts.reaches
    exact ⟨reaches, .bound fun _ => top.asksBehind isTop, rfl⟩

theorem limitClauses_counts : limitClauses.Obeys counting := by
  apply obeys_of_ok counting_isLenient
  intro before after _ ran
  rcases limitClauses_eq_ok ran with rfl | ⟨limit, cursor, markers, clauses, rfl⟩
  · exact counting.refl _
  · refine ⟨clauses.reaches, fun isRowCount index bounded => ?_, rfl⟩
    rcases clauses.grows isRowCount index bounded with isEarlier | asks
    · cases isRowCount <;> cases isEarlier
    · exact .inr asks

theorem noteRowNumber_counts
    (text : String)
    (aliasName : Option String) :
    (noteRowNumber text aliasName).Obeys counting := by
  intro before
  obtain ⟨found, noted⟩ := exists_outcome_noteRowNumber text aliasName before
  rw [noted]
  exact counting.refl before

theorem itemHead_counts (depth : Nat) : (itemHead depth).Obeys counting := by
  apply obeys_of_ok counting_isLenient
  intro before after head ran
  have identifier := @TokenKind.ne_question_of_isIdentifier before.cursor.current.kind
  cases itemHead_eq_ok ran with
  | other => exact counting.refl before
  | call isName =>
      have front := Cursor.reaches_advance (identifier isName)
      exact relates_of_reaches (front.trans (Cursor.reaches_passBy _)) rfl rfl
  | star isName isPoint isStar =>
      have front := (Cursor.reaches_advance (identifier isName)).trans
        (Cursor.reaches_behindPoint isPoint)
      have isNote :=
        Statement.isListNote_withStar depth (some (unquoteName before.cursor.current.source))
      exact relates_of_reaches front (isNote.limit _) (isNote.generatedKey _)
  | column isName isPoint =>
      have front := (Cursor.reaches_advance (identifier isName)).trans
        (Cursor.reaches_behindPoint isPoint)
      exact relates_of_reaches front rfl rfl
  | name isName => exact relates_of_reaches (Cursor.reaches_advance (identifier isName)) rfl rfl

theorem counting_admits : counting.Admits where
  passing := passing_moves counting_isLenient
  note _ isNote := modifyStatement_counts isNote.limit isNote.generatedKey
  noteRowNumber := noteRowNumber_counts
  aliasName := alias?_moves counting_isLenient
  expression := expression_counts
  tableName := tableName_counts
  addTable _ _ state _ := (modifyStatement_counts (fun _ => rfl) fun _ => rfl).from state
  itemHead := itemHead_counts
  skipItem := skipItem_moves counting_isLenient
  assignmentRest := passMeasured_moves counting_isLenient _
  skipTop := skipTop_moves counting_isLenient
  topClause := topClause_counts
  limitClauses := limitClauses_counts
  lockClause := lockClause_moves fun reaches => relates_of_reaches reaches rfl rfl

section Where

theorem rowNumberBound_placeholder
    {expression : Expression}
    {index : Nat}
    (isBound : rowNumberBound? expression = some (.placeholder index)) :
    expression = .placeholder index := by
  unfold rowNumberBound? at isBound
  split at isBound
  next =>
    obtain ⟨_, -, isLiteral⟩ := Option.map_eq_some_iff.mp isBound
    cases isLiteral
  next => exact congrArg Expression.placeholder (LimitOperand.placeholder.inj (Option.some.inj isBound))
  next => cases isBound

/-- The bound of a comparison with the number of the row stands right behind its sign. -/
theorem rowNumberCondition_counts
    {state : ParseState}
    (isSign : state.cursor.current.kind ∈ TokenKind.inequalities) :
    rowNumberCondition.ObeysFrom counting state := by
  have leads : ∀ kind ∈ TokenKind.inequalities, [kind] ∈ TokenKind.boundLeads
      ([TokenKind.symbol .lt, .symbol .ltEq].contains kind) := by
    decide
  have others : ∀ kind ∈ TokenKind.inequalities, kind ≠ .symbol .question ∧ kind ≠ .finish := by
    decide
  obtain ⟨other, notLast⟩ := others _ isSign
  have reaches := (Cursor.reaches_advance other).trans Cursor.reaches_behindOperand
  unfold ObeysFrom
  rw [outcome_rowNumberCondition]
  dsimp only
  split
  next operand isBound =>
    refine ⟨reaches, .bound ?_, rfl⟩
    rintro index rfl
    obtain ⟨isQuestion, rfl⟩ := Place.ahead_of_operand (rowNumberBound_placeholder isBound)
    obtain ⟨sign, isKind, tokens⟩ := Cursor.exists_token (Eq.refl state.cursor.current.kind) notLast
    have isLead : [sign].map Token.kind ∈ TokenKind.boundLeads
        ([TokenKind.symbol .lt, .symbol .ltEq].contains state.cursor.current.kind) := by
      rw [List.map_singleton, isKind]
      exact leads _ isSign
    rw [← Cursor.current_kind] at isQuestion
    exact Place.asksBehind_of_current isLead isQuestion ⟨[], tokens.symm⟩
      (Cursor.reaches_advance other).place
  next => exact relates_of_reaches reaches rfl rfl

theorem counting_admitsWhere : counting.AdmitsWhere where
  toAdmits := counting_admits
  advance _ := advance_moves counting_isLenient
  condition := addCondition_obeys fun _ _ => relates_of_reaches (.refl _) rfl rfl
  rowNumber _ := rowNumberCondition_counts
  openGroups := passMeasured_moves counting_isLenient _
  closeGroups _ := passMeasured_moves counting_isLenient _
  skipPredicate := skipPredicate_moves counting_isLenient

end Where

end Parse

end ShardedSql
