import ShardedSql.Parser.Select
import ShardedSql.Proofs.Parser.Reading

/-!
# Exact outcomes of single steps

A step over an optional token and a step over an expression always succeed.  This file gives the state
behind them in full, with the cursor and the markers.
-/

namespace ShardedSql

namespace Cursor

variable (cursor : Cursor)

/-- The cursor behind the current token if it is of one of several kinds. -/
def skipAny (kinds : List TokenKind) : Cursor :=
  if kinds.contains cursor.current.kind then cursor.advance else cursor

/-- The cursor behind a literal, a name or a column with its owner. -/
def behindSimple : Cursor :=
  if cursor.current.kind.isIdentifier && cursor.pass.current.kind == .symbol .dot then
    cursor.pass.advance.advance
  else
    cursor.pass

/-- The cursor behind an expression. -/
def behindOperand : Cursor :=
  cursor.behindSimple.passBy (Extent.compositeWidth cursor.behindSimple.tokens)

theorem pass_of_not
    {cursor : Cursor}
    (other : cursor.current.isPlaceholder = false) :
    cursor.pass = cursor.advance := by
  simp [pass, advance, other]

theorem pass_of_kind
    {cursor : Cursor}
    {kind : TokenKind}
    (isKind : cursor.current.kind = kind)
    (other : kind ≠ .symbol .question) :
    cursor.pass = cursor.advance :=
  pass_of_not (by simpa [Token.isPlaceholder, isKind] using other)

theorem place_behindSimple :
    cursor.behindSimple.place = cursor.place.simpleOperand.2 := by
  unfold behindSimple Place.simpleOperand
  rw [current_kind, current_kind, place_pass]
  dsimp only
  split
  next => exact congrArg (fun place => place.advance.advance) cursor.place_pass
  next => exact cursor.place_pass

theorem place_behindOperand :
    cursor.behindOperand.place = cursor.place.operand.2 := by
  unfold behindOperand Place.operand
  rw [place_passBy, place_behindSimple]
  have tokens : cursor.behindSimple.tokens = cursor.place.simpleOperand.2.tokens :=
    congrArg Place.tokens cursor.place_behindSimple
  rw [tokens]

end Cursor

namespace Cursor

/-- The name of a table, possibly behind a schema, and the cursor behind it. -/
inductive TableName (cursor : Cursor) : Token → Cursor → Prop where
  | bare
      (isName : cursor.current.kind.isName = true)
      (noOwner : cursor.advance.current.kind ≠ .symbol .dot) :
      TableName cursor cursor.current cursor.advance
  | owned
      (isName : cursor.current.kind.isName = true)
      (isPoint : cursor.advance.current.kind = .symbol .dot)
      (isSecond : cursor.advance.advance.current.kind.isName = true) :
      TableName cursor cursor.advance.advance.current cursor.advance.advance.advance

/-- Whether an alias stands ahead, behind AS if there is one. -/
def hasAlias (cursor : Cursor) : Bool :=
  match (cursor.skipAny [.keyword .AS]).current.kind with
  | .symbol _ => false
  | .finish => false
  | kind => [TokenKind.keyword .AS].contains cursor.current.kind || kind.isName

/-- The alias ahead. -/
def aliasAhead? (cursor : Cursor) : Option String :=
  if cursor.hasAlias then
    some (unquoteName (cursor.skipAny [.keyword .AS]).current.literals)
  else
    none

/-- The cursor behind an alias, if there is one. -/
def behindAlias (cursor : Cursor) : Cursor :=
  if cursor.hasAlias then (cursor.skipAny [.keyword .AS]).advance
  else cursor.skipAny [.keyword .AS]

end Cursor

/-- The mark on the owner of an expression ahead, if it is a table. -/
def Cursor.ownerMarks
    (cursor : Cursor)
    (tables : Tables) : List Marker :=
  match cursor.place.operand.1 with
  | .property owner _ =>
      if tables.containsName owner then [.table cursor.current.start cursor.current.source] else []
  | _ => []

/-- A state behind some further markers. -/
def ParseState.marked
    (state : ParseState)
    (markers : List Marker) : ParseState :=
  { state with
    statement := { state.statement with markers := state.statement.markers ++ markers } }

@[simp]
theorem ParseState.marked_nil (state : ParseState) :
    state.marked [] = state := by
  simp [marked]

@[simp]
theorem ParseState.marked_marked
    (state : ParseState)
    (first second : List Marker) :
    (state.marked first).marked second = state.marked (first ++ second) := by
  simp [marked]

namespace Parse

variable (state : ParseState)

theorem outcome_skipAny (kinds : List TokenKind) :
    (skipAnyKind kinds).outcome state =
      (.ok (kinds.contains state.cursor.current.kind),
        { state with cursor := state.cursor.skipAny kinds }) := by
  rw [outcome_skipAnyKind, Cursor.skipAny]
  split
  next isThere => rw [isThere]
  next isOther => rw [eq_false_of_ne_true isOther]

/-- The cursor behind an expression, whatever the expression is. -/
theorem outcome_bareExpression_cursor :
    (bareExpression.outcome state).2 = { state with cursor := state.cursor.behindOperand } := by
  unfold bareExpression Cursor.behindOperand Cursor.behindSimple
  cases isIdentifier : state.cursor.current.kind.isIdentifier with
  | false =>
      simp only [outcome_bind, outcome_current, outcome_get, outcome_modifyCursor, isIdentifier,
        Bool.false_eq_true, if_false, outcome_pure, skipComposite, outcome_passMeasured,
        Bool.false_and]
  | true =>
      simp only [outcome_bind, outcome_current, outcome_get, outcome_modifyCursor, isIdentifier,
        if_true, skipSign, outcome_skipKind, Bool.true_and, beq_iff_eq]
      by_cases isPoint : state.cursor.pass.current.kind = .symbol .dot
      · simp only [isPoint, if_true]
        rfl
      · simp only [isPoint, if_false, Bool.false_eq_true]
        rfl

theorem outcome_bareExpression :
    bareExpression.outcome state =
      (.ok state.cursor.place.operand.1,
        { state with cursor := state.cursor.behindOperand }) := by
  obtain ⟨after, ran, -⟩ := bareExpression_reads state.view state rfl
  rw [← outcome_bareExpression_cursor, ran]
  rfl

theorem outcome_expression :
    expression.outcome state =
      (.ok state.cursor.place.operand.1,
        { state with cursor := state.cursor.behindOperand }.marked
          (state.cursor.ownerMarks state.statement.tables)) := by
  unfold expression
  rw [outcome_bind_of_ok (outcome_current state),
    outcome_bind_of_ok (outcome_bareExpression state), Cursor.ownerMarks]
  cases state.cursor.place.operand.1 with
  | property owner name =>
      simp only [outcome_bind, outcome_statement]
      cases state.statement.tables.containsName owner with
      | true => rfl
      | false => simp
  | _ => simp

theorem groupWidth_of_current
    {cursor : Cursor}
    (opens : cursor.current.opensGroup = true) :
    Extent.groupWidth cursor.tokens = (Extent.ofGroup 0 cursor.tokens).width := by
  obtain ⟨tokens, textLength, placeholders, lastStop⟩ := cursor
  cases tokens with
  | nil => cases opens
  | cons token rest =>
      have opensGroup : token.opensGroup = true := opens
      simp [Extent.groupWidth, opensGroup]

theorem groupWidth_of_other
    {cursor : Cursor}
    (opens : cursor.current.opensGroup = false) :
    Extent.groupWidth cursor.tokens = 0 := by
  obtain ⟨tokens, textLength, placeholders, lastStop⟩ := cursor
  cases tokens with
  | nil => rfl
  | cons token rest =>
      have opensNothing : token.opensGroup = false := opens
      simp [Extent.groupWidth, opensNothing]

/-- A group is passed with its parentheses. -/
theorem exists_outcome_group :
    ∃ text, group.outcome state = (.ok text,
      { state with cursor := state.cursor.passBy (Extent.groupWidth state.cursor.tokens) }) := by
  unfold group
  rw [outcome_bind_of_ok (outcome_get state)]
  cases opens : state.cursor.current.opensGroup with
  | true =>
      rw [groupWidth_of_current opens]
      dsimp only
      rw [if_pos opens]
      exact ⟨_, rfl⟩
  | false =>
      rw [groupWidth_of_other opens]
      dsimp only
      rw [if_neg (by simp [opens])]
      exact ⟨_, rfl⟩

theorem needName_eq_ok
    {α : Type}
    {next : Parse α}
    {expected : String}
    {value : α}
    {before after : ParseState}
    (ran : outcome (do
      if !(← isName) then
        failUnexpected expected
      next) before = (.ok value, after)) :
    before.cursor.current.kind.isName = true ∧ next.outcome before = (.ok value, after) := by
  change outcome (if !before.cursor.current.kind.isName then
    failUnexpected expected >>= fun _ => next else next) before = _ at ran
  split at ran
  next => cases ran
  next isName => exact ⟨by simpa using isName, ran⟩

theorem tableName_eq_ok
    {name : String}
    {before after : ParseState}
    (ran : tableName.outcome before = (.ok name, after)) :
    ∃ token cursor, before.cursor.TableName token cursor ∧ name = unquoteName token.source ∧
      after = { before with cursor := cursor }.marked [.table token.start token.source] := by
  obtain ⟨isName, passed⟩ := needName_eq_ok ran
  rw [outcome_bind_of_ok (outcome_current before), outcome_bind_of_ok (outcome_advance before),
    outcome_bind, skipSign, outcome_skipKind] at passed
  by_cases isPoint : before.cursor.advance.current.kind = .symbol .dot
  · rw [if_pos isPoint] at passed
    obtain ⟨isSecond, named⟩ := needName_eq_ok passed
    cases named
    exact ⟨_, _, .owned isName isPoint isSecond, rfl, rfl⟩
  · rw [if_neg isPoint] at passed
    cases passed
    exact ⟨_, _, .bare isName isPoint, rfl, rfl⟩

theorem outcome_alias? :
    alias?.outcome state =
      (.ok state.cursor.aliasAhead?, { state with cursor := state.cursor.behindAlias }) := by
  unfold alias? Cursor.aliasAhead? Cursor.behindAlias
  rw [skipWord, skipKind, outcome_bind_of_ok (outcome_skipAny _ _),
    outcome_bind_of_ok (outcome_current _)]
  change outcome (if state.cursor.hasAlias then _ else _) _ = _
  cases state.cursor.hasAlias with
  | true => rfl
  | false => rfl

end Parse

/-- A statement with a further star in the select list of the outermost query. -/
def Statement.withStar
    (statement : Statement)
    (depth : Nat)
    (owner : Option String) : Statement :=
  if depth = 0 then
    { statement with containsStar := true, items := statement.items ++ [.star owner] }
  else
    statement

/-- A state with a further owner in front of a select item. -/
def ParseState.withOwner
    (state : ParseState)
    (token : Token) : ParseState :=
  { state with
    notes := { state.notes with owners := state.notes.owners ++ [(token.start, token.source)] } }

namespace Parse

/-- The beginning of a select item and the state behind it. -/
inductive HeadsItem (depth : Nat) (before : ParseState) : ItemHead → ParseState → Prop where
  | other (isOther : before.cursor.current.kind.isIdentifier = false) :
      HeadsItem depth before .other before
  | call
      {aggregation : Option Aggregation}
      {arguments : String}
      (isName : before.cursor.current.kind.isIdentifier = true) :
      HeadsItem depth before (.call aggregation arguments)
        { before with
          cursor := before.cursor.advance.passBy
            (Extent.groupWidth before.cursor.advance.tokens) }
  | star
      (isName : before.cursor.current.kind.isIdentifier = true)
      (isPoint : before.cursor.advance.current.kind = .symbol .dot)
      (isStar : before.cursor.advance.advance.current.kind = .symbol .star) :
      HeadsItem depth before .ownedStar
        ({ before with
          cursor := before.cursor.advance.advance.advance
          statement := before.statement.withStar depth
            (some (unquoteName before.cursor.current.source)) }.withOwner before.cursor.current)
  | column
      (isName : before.cursor.current.kind.isIdentifier = true)
      (isPoint : before.cursor.advance.current.kind = .symbol .dot) :
      HeadsItem depth before .name
        ({ before with cursor := before.cursor.advance.advance.advance }.withOwner
          before.cursor.current)
  | name (isName : before.cursor.current.kind.isIdentifier = true) :
      HeadsItem depth before .name { before with cursor := before.cursor.advance }

theorem outcome_addStar
    (depth : Nat)
    (owner : Option String)
    (state : ParseState) :
    (addStar depth owner).outcome state =
      (.ok (), { state with statement := state.statement.withStar depth owner }) := by
  unfold addStar addItem Statement.withStar
  split
  · rfl
  · rfl

theorem itemHead_eq_ok
    {depth : Nat}
    {head : ItemHead}
    {before after : ParseState}
    (ran : (itemHead depth).outcome before = (.ok head, after)) :
    HeadsItem depth before head after := by
  unfold itemHead at ran
  rw [outcome_bind_of_ok (outcome_current before)] at ran
  dsimp only at ran
  cases isName : before.cursor.current.kind.isIdentifier with
  | false =>
      rw [isName] at ran
      cases ran
      exact .other isName
  | true =>
      rw [isName] at ran
      change outcome (advance >>= fun _ => isKind (.symbol .leftParen) >>= fun _ => _) before = _ at ran
      rw [outcome_bind_of_ok (outcome_advance before), outcome_bind_of_ok (outcome_isKind _ _)] at ran
      split at ran
      · obtain ⟨text, passed⟩ := exists_outcome_group { before with cursor := before.cursor.advance }
        rw [outcome_bind_of_ok passed] at ran
        cases ran
        exact .call isName
      · rw [outcome_bind, skipSign, outcome_skipKind] at ran
        by_cases isPoint : before.cursor.advance.current.kind = .symbol .dot
        · rw [if_pos isPoint] at ran
          dsimp only at ran
          rw [if_pos rfl, modifyNotes, outcome_bind_of_ok (outcome_modify _ _), outcome_bind,
            skipSign, outcome_skipKind] at ran
          by_cases isStar : before.cursor.advance.advance.current.kind = .symbol .star
          · rw [if_pos isStar] at ran
            dsimp only at ran
            rw [if_pos rfl, outcome_bind_of_ok (outcome_addStar _ _ _)] at ran
            cases ran
            exact .star isName isPoint isStar
          · rw [if_neg isStar] at ran
            cases ran
            exact .column isName isPoint
        · rw [if_neg isPoint] at ran
          cases ran
          exact .name isName

/-- The rest of a select item is passed, if no token without a class is met. -/
theorem skipItem_eq_ok
    {afterOperand : Bool}
    {before after : ParseState}
    (ran : (skipItem afterOperand).outcome before = (.ok (), after)) :
    after = { before with
      cursor := before.cursor.passBy
        (Extent.ofItem afterOperand before.cursor.tokens).width } := by
  unfold skipItem at ran
  rw [outcome_bind_of_ok (outcome_get before)] at ran
  dsimp only at ran
  rw [outcome_bind_of_ok (outcome_modifyCursor _ _)] at ran
  split at ran
  · cases ran
  · cases ran
    rfl

/-- The alias of the pseudo column is all that is noted of it. -/
theorem exists_outcome_noteRowNumber
    (expression : String)
    (aliasName : Option String)
    (state : ParseState) :
    ∃ found, (noteRowNumber expression aliasName).outcome state =
      (.ok (), { state with rowNumberAlias := found }) := by
  unfold noteRowNumber
  rw [outcome_bind_of_ok (outcome_get state)]
  split
  · cases aliasName with
    | some name => exact ⟨some name, rfl⟩
    | none => exact ⟨state.rowNumberAlias, rfl⟩
  · exact ⟨state.rowNumberAlias, rfl⟩

/-- The markers on owners of select items that are tables of the statement. -/
def tableOwners
    (tables : Tables)
    (owners : List (Nat × String)) : List Marker :=
  (owners.filter fun owner => tables.containsName (unquoteName owner.2)).map fun owner =>
    .table owner.1 owner.2

theorem tableOwners_append
    (tables : Tables)
    (first second : List (Nat × String)) :
    tableOwners tables (first ++ second) =
      tableOwners tables first ++ tableOwners tables second := by
  rw [tableOwners, List.filter_append, List.map_append]
  rfl

/-- Mark an owner if it is a table of the statement, and go on. -/
def ownerTurn (owner : Nat × String) : Parse (ForInStep PUnit) := do
  if (← statement).tables.containsName (unquoteName owner.2) then
    modifyStatement fun statement => statement.mark (.table owner.1 owner.2)
  return .yield PUnit.unit

theorem outcome_ownerTurn
    (owner : Nat × String)
    (state : ParseState) :
    (ownerTurn owner).outcome state =
      (.ok (.yield PUnit.unit), state.marked (tableOwners state.statement.tables [owner])) := by
  unfold ownerTurn
  rw [outcome_bind_of_ok (outcome_statement state), tableOwners, List.filter_singleton]
  cases state.statement.tables.containsName (unquoteName owner.2) with
  | true => rfl
  | false => simp

theorem outcome_markOwners (state : ParseState) :
    markOwners.outcome state =
      (.ok (), state.marked (tableOwners state.statement.tables state.notes.owners)) := by
  have marked : ∀ (owners : List (Nat × String)) (state : ParseState),
      (forIn owners PUnit.unit fun owner _ => ownerTurn owner : Parse PUnit).outcome state =
        (.ok PUnit.unit, state.marked (tableOwners state.statement.tables owners)) := by
    intro owners
    induction owners with
    | nil => exact fun state => congrArg _ state.marked_nil.symm
    | cons owner owners ih =>
        intro state
        rw [List.forIn_cons, outcome_bind_of_ok (outcome_ownerTurn owner state)]
        dsimp only
        rw [ih, ParseState.marked_marked]
        exact congrArg (fun markers => (Except.ok PUnit.unit, state.marked markers))
          (tableOwners_append state.statement.tables [owner] owners).symm
  unfold markOwners
  rw [outcome_bind_of_ok (outcome_get state)]
  exact outcome_bind_of_ok (marked state.notes.owners state)

end Parse

end ShardedSql
