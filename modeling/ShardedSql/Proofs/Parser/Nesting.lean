import ShardedSql.Proofs.Parser.Conjunction
import ShardedSql.Proofs.Statement.Kind

/-!
# Queries in place of tables

A query in parentheses may stand in place of a table.  It is read like the outermost one, into the same
tables and the same conditions.  This file follows the reading of a join of two such queries of one
table, each with a conjunction of restrictions as its WHERE clause.
-/

namespace ShardedSql

/-- A join of two queries of one table, each with restrictions of its own. -/
structure QueryJoin (dialect : Dialect) where
  table : PlainName dialect
  left : Conjunction dialect
  right : Conjunction dialect
  leftName : PlainName dialect
  rightName : PlainName dialect
  column : PlainName dialect

/-- The words of a query of all columns of a table with restrictions. -/
def Conjunction.queryWords
    {dialect : Dialect}
    (table : PlainName dialect)
    (conjunction : Conjunction dialect) : List Word :=
  TableAccess.query.withClause table.text conjunction.words

namespace QueryJoin

variable {dialect : Dialect} (join : QueryJoin dialect)

/-- The words of the condition of the join. -/
def conditionWords : List Word :=
  [.ofKeyword .ON, .ofName join.leftName.text, .ofSymbol .dot, .ofName join.column.text,
    .ofSymbol .eq, .ofName join.rightName.text, .ofSymbol .dot, .ofName join.column.text]

/-- The words of the second query with its name and the condition. -/
def rightWords : List Word :=
  .ofSymbol .leftParen :: (join.right.queryWords join.table ++
    .ofSymbol .rightParen :: .ofName join.rightName.text :: join.conditionWords)

/-- The words of the tables of the join. -/
def tableWords : List Word :=
  .ofSymbol .leftParen :: (join.left.queryWords join.table ++
    .ofSymbol .rightParen :: .ofName join.leftName.text :: .ofKeyword .JOIN :: join.rightWords)

/-- The words of the join. -/
def words : List Word :=
  .ofKeyword .SELECT :: .ofSymbol .star :: .ofKeyword .FROM :: join.tableWords

end QueryJoin

/-- The restrictions of a conjunction on columns that some strategy may choose by, as conditions on the
columns of a table, behind a number of placeholders. -/
def Conjunction.recorded
    {dialect : Dialect}
    (conjunction : Conjunction dialect)
    (rule : Rule)
    (table : String)
    (placeholders : Nat) : List Condition :=
  (conjunction.conditions table placeholders).filter fun condition =>
    rule.isShardingColumn condition.column

/-- The view behind a query of a table: the table is the only one, and the restrictions of the query are
recorded behind the conditions so far. -/
def ParseView.behindQuery
    {dialect : Dialect}
    (view : ParseView)
    (table : PlainName dialect)
    (conjunction : Conjunction dialect)
    (last : Place) : ParseView :=
  ({ view with
      place := last
      tables := ⟨[⟨table.text, none⟩]⟩ } : ParseView).record
    (conjunction.recorded view.rule table.text view.place.placeholders)

/-- The conditions that both queries of a join record, from the left. -/
def QueryJoin.recorded
    {dialect : Dialect}
    (join : QueryJoin dialect)
    (rule : Rule) : List Condition :=
  (join.left.both join.right).recorded rule join.table.text 0

/-- A table that is there already is not added again. -/
theorem Tables.add_self (table : Table) :
    Tables.add ⟨[table]⟩ table = ⟨[table]⟩ := by
  simp [Tables.add, Tables.containsName]

namespace Parse

variable {view : ParseView}

section Clauses

variable {dialect : Dialect} {table : String} {rest : List Word}

/-- A WHERE clause with a conjunction is read up to the end of the text or of the group around it. -/
theorem whereClause_reads_conjunction
    (conjunction : Conjunction dialect)
    (isTable : view.tables = ⟨[⟨table, none⟩]⟩)
    (faces : view.place.Faces (.ofKeyword .WHERE :: (conjunction.words ++ rest)))
    (ends : Word.kindAhead rest = .finish ∨ Word.kindAhead rest = .symbol .rightParen) :
    ∃ last : Place,
      whereClause.Reads view () ((view.move last).record
        (conjunction.recorded view.rule table view.place.placeholders)) ∧
      last.Faces rest ∧
      last.placeholders = view.place.placeholders + conjunction.placeholders := by
  have facesClause : view.place.advance.Faces (List.replicate 0 (.ofSymbol .leftParen) ++
      (conjunction.words ++ (List.replicate 0 (.ofSymbol .rightParen) ++ rest))) := by
    simpa using faces.advance
  have endsPredicate : (Word.kindAhead rest).EndsPredicate 0 :=
    ends.imp id fun isParen => .inr ⟨isParen, rfl⟩
  obtain ⟨readings, last, passes⟩ :=
    Place.exists_passes conjunction facesClause (Nat.zero_le 0) endsPredicate
  have noFurther : last.further 0 = ⟨[], .stops last⟩ := by
    have notAnd : last.ahead.kind ≠ .keyword .AND := by
      rw [passes.faces.ahead_kind]
      rcases ends with isFinish | isParen
      · simp [isFinish]
      · simp [isParen]
    rw [Place.further, if_neg notAnd]
  have clause : view.place.advance.clause 0 = ⟨readings, .stops last⟩ :=
    passes.clause.trans (by rw [noFurther, List.append_nil])
  have follows := whereClause_follows faces.kind
  unfold FollowsClause at follows
  rw [clause] at follows
  obtain ⟨⟨⟩, reads⟩ := follows
  refine ⟨last, ?_, passes.faces, passes.placeholders⟩
  have stated : ClauseReading.conditions view.rule view.tables ⟨readings, .stops last⟩ =
      conjunction.recorded view.rule table view.place.placeholders := by
    rw [isTable]
    exact passes.conditions view.rule table
  rw [stated] at reads
  exact reads

end Clauses

section Tables

variable {dialect : Dialect} {table : PlainName dialect} {rest : List Word}

/-- A query of a table in parentheses is read up to the parenthesis that closes it. -/
theorem queryWith_reads
    (conjunction : Conjunction dialect)
    (nested : Parse Unit)
    (depth : Nat)
    (onlyTable : view.tables.add ⟨table.text, none⟩ = ⟨[⟨table.text, none⟩]⟩)
    (faces : view.place.Faces
      (conjunction.queryWords table ++ .ofSymbol .rightParen :: rest)) :
    ∃ last : Place,
      (queryWith nested depth).Reads view () (view.behindQuery table conjunction last) ∧
      last.Faces (.ofSymbol .rightParen :: rest) ∧
      last.placeholders = view.place.placeholders + conjunction.placeholders := by
  have facesQuery : view.place.Faces (.ofKeyword .SELECT :: .ofSymbol .star :: .ofKeyword .FROM ::
      .ofName table.text :: .ofKeyword .WHERE ::
        (conjunction.words ++ .ofSymbol .rightParen :: rest)) := by
    simpa [Conjunction.queryWords, TableAccess.withClause, TableAccess.words] using faces
  have opened := queryOpening_reads nested depth table.isPlain.unquoteName_eq facesQuery
  obtain ⟨last, reads, facesLast, counted⟩ := @whereClause_reads_conjunction
    ((view.move view.place.advance.advance.advance.advance).withTable table.text) _ table.text
    (.ofSymbol .rightParen :: rest) conjunction onlyTable
    facesQuery.advance.advance.advance.advance (.inr rfl)
  have noKeyword : ∀ word, (view.behindQuery table conjunction last).place.ahead.kind ≠
      .keyword word := by
    intro word
    change last.ahead.kind ≠ _
    rw [facesLast.kind]
    exact TokenKind.noConfusion
  have clause : whereClause.Reads
      ((view.move view.place.advance.advance.advance.advance).withTable table.text) ()
      (view.behindQuery table conjunction last) := by
    unfold ParseView.behindQuery
    rw [← onlyTable]
    exact reads
  refine ⟨last, ?_, facesLast, counted⟩
  rw [queryWith_eq]
  exact opened.bind (clause.bind (queryEnding_reads noKeyword depth))

theorem skipAnyKind_reads_true
    {kinds : List TokenKind}
    (isThere : kinds.contains view.place.ahead.kind = true) :
    (skipAnyKind kinds).Reads view true (view.move view.place.advance) := by
  rintro state rfl
  refine ⟨{ state with cursor := state.cursor.advance }, ?_, rfl⟩
  rw [outcome_skipAnyKind, ParseState.current_kind, isThere, if_pos rfl]

/-- A name behind a table is its alias. -/
theorem alias?_reads_name
    {name : PlainName dialect}
    (faces : view.place.Faces (.ofName name.text :: rest)) :
    alias?.Reads view (some (unquoteName view.place.ahead.literals))
      (view.move view.place.advance) := by
  have notAs : view.place.ahead.kind ≠ .keyword .AS := by
    rw [faces.kind]
    nofun
  unfold alias?
  refine (skipKind_reads_false notAs).bind (reads_current_bind fun token kind _ literals => ?_)
  rw [kind, faces.kind, literals]
  exact (advance_reads view).bind (reads_pure _ _)

/-- A query in parentheses in place of a table, with its alias. -/
theorem tableReference_reads_query
    {conjunction : Conjunction dialect}
    {name : PlainName dialect}
    (fuel depth : Nat)
    (onlyTable : view.tables.add ⟨table.text, none⟩ = ⟨[⟨table.text, none⟩]⟩)
    (faces : view.place.Faces (.ofSymbol .leftParen :: (conjunction.queryWords table ++
      .ofSymbol .rightParen :: .ofName name.text :: rest))) :
    ∃ last : Place,
      (tableReference (query (fuel + 1) depth)).Reads view ()
        (view.behindQuery table conjunction last) ∧
      last.Faces rest ∧
      last.placeholders = view.place.placeholders + conjunction.placeholders := by
  have isSelect : (view.move view.place.advance).place.ahead.kind = .keyword .SELECT :=
    faces.advance.kind
  obtain ⟨last, reads, facesLast, counted⟩ := @queryWith_reads (view.move view.place.advance) _ _ _
    conjunction (query fuel (depth + 1)) depth onlyTable faces.advance
  have closes : (view.behindQuery table conjunction last).place.ahead.kind =
      .symbol .rightParen := facesLast.kind
  have opens := isKind_reads (view.move view.place.advance) (.keyword .SELECT)
  rw [isSelect] at opens
  refine ⟨last.advance.advance, ?_, facesLast.advance.advance, counted⟩
  unfold tableReference
  refine (skipKind_reads_true faces.kind).bind (Reads.bind opens ?_)
  refine Reads.bind reads (Reads.bind (accept_reads closes) ?_)
  have named := @alias?_reads_name
    ((view.behindQuery table conjunction last).move last.advance) _ _ name facesLast.advance
  exact named.bind (reads_pure _ _)

end Tables

section Conditions

variable {dialect : Dialect} {owner name : PlainName dialect} {rest : List Word}

/-- A column with its owner is passed as one operand. -/
theorem expression_reads_column
    (faces : view.place.Faces
      (.ofName owner.text :: .ofSymbol .dot :: .ofName name.text :: rest))
    (ends : (Word.kindAhead rest).continuesOperand = false) :
    ∃ value last, expression.Reads view value (view.move last) ∧ last.Faces rest ∧
      last.placeholders = view.place.placeholders := by
  have behindOwner := faces.passBy
  have facesRest : (view.place.passBy 1).advance.advance.Faces rest := behindOwner.advance.advance
  have isIdentifier : view.place.ahead.kind.isIdentifier = true := by
    rw [faces.kind]
    rfl
  have alone : Extent.compositeWidth (view.place.passBy 1).advance.advance.tokens = 0 := by
    rw [Place.compositeWidth_eq_zero_iff, facesRest.ahead_kind]
    exact ends
  have isColumn := Place.simpleOperand_of_owner isIdentifier behindOwner.kind
  have behind : view.place.operand.2 = (view.place.passBy 1).advance.advance := by
    unfold Place.operand
    rw [isColumn]
    dsimp only
    rw [alone, Place.passBy_zero]
  have read := expression_reads view
  rw [behind] at read
  refine ⟨_, _, read, facesRest, ?_⟩
  exact faces.placeholders_passBy

end Conditions

section Joins

variable {dialect : Dialect} (join : QueryJoin dialect)

/-- The condition of the join is passed up to the end of the text. -/
theorem joinCondition_reads (faces : view.place.Faces join.conditionWords) :
    ∃ last : Place, joinCondition.Reads view () (view.move last) ∧ last.Faces [] ∧
      last.placeholders = view.place.placeholders := by
  obtain ⟨_, first, readFirst, facesEq, countedFirst⟩ :=
    @expression_reads_column (view.move view.place.advance) _ _ _ _ faces.advance rfl
  have isEq : ([.symbol .eq, .symbol .lt, .symbol .gt, .symbol .ltEq, .symbol .gtEq,
      .symbol .ltGt, .symbol .bangEq] : List TokenKind).contains
        (view.move first).place.ahead.kind = true := by
    rw [ParseView.place_move, facesEq.kind]
    decide
  obtain ⟨_, last, readLast, facesNothing, countedLast⟩ :=
    @expression_reads_column (view.move first.advance) _ _ _ _ facesEq.advance rfl
  have notAnd : (view.move last).place.ahead.kind ≠ .keyword .AND := by
    rw [ParseView.place_move, facesNothing.ahead_kind]
    nofun
  refine ⟨last, ?_, facesNothing, countedLast.trans countedFirst⟩
  unfold joinCondition
  refine (skipKind_reads_true faces.kind).bind (Reads.repeatStep ?_)
  refine Reads.bind readFirst (Reads.bind (skipAnyKind_reads_true isEq) ?_)
  exact Reads.bind readLast (skipKind_reads_false notAnd)

/-- The word JOIN joins another table. -/
theorem skipJoin_reads_true (isJoin : view.place.ahead.kind = .keyword .JOIN) :
    skipJoin.Reads view true (view.move view.place.advance) := by
  have absent : ∀ {kinds : List TokenKind}, .keyword .JOIN ∉ kinds →
      (skipAnyKind kinds).Reads view false view := by
    intro kinds isOther
    apply skipAnyKind_reads_false
    rw [isJoin, Bool.eq_false_iff]
    exact fun isThere => isOther (List.contains_iff_mem.mp isThere)
  have joins : ([.keyword .JOIN, .symbol .comma, .keyword .STRAIGHT_JOIN] :
      List TokenKind).contains view.place.ahead.kind = true := by
    rw [isJoin]
    decide
  unfold skipJoin
  refine (absent (by decide)).bind ((absent (by decide)).bind ((absent (by decide)).bind ?_))
  exact (skipAnyKind_reads_true joins).bind (reads_pure _ _)

/-- Read a further table of a join, if there is one. -/
def furtherTable (nested : Parse Unit) : Parse Bool := do
  let joined ← skipJoin
  if joined then
    tableReference nested
    joinCondition
  return joined

/-- A step that is run twice. -/
theorem Reads.repeatStep_again
    {step : Parse Bool}
    {between after : ParseView}
    (first : step.Reads view true between)
    (second : step.Reads between false after)
    (isThere : view.place.tokens ≠ []) :
    (Parse.repeatStep step).Reads view () after := by
  apply Reads.repeatFrom
  obtain ⟨token, others, tokens⟩ := List.exists_cons_of_ne_nil isThere
  rw [tokens]
  exact Reads.iterate_again (first.bind (reads_pure ((), true) between))
    (Reads.iterate_stop (second.bind (reads_pure ((), false) after)))

/-- The tables of the join are one table, and the restrictions of both queries are recorded. -/
theorem fromClause_reads_join
    {rule : Rule}
    {place : Place}
    (fuel : Nat)
    (noneBefore : place.placeholders = 0)
    (faces : place.Faces (.ofKeyword .FROM :: join.tableWords)) :
    ∃ last : Place,
      (fromClause (query (fuel + 1) 1)).Reads (.fresh rule place) ()
        ((ParseView.ofTable rule join.table.text last).record (join.recorded rule)) ∧
      last.Faces [] := by
  obtain ⟨first, readLeft, facesJoin, countedLeft⟩ :=
    @tableReference_reads_query (.fresh rule place.advance) _ join.table _ join.left join.leftName
      fuel 1 rfl faces.advance
  let behindLeft := (ParseView.fresh rule place.advance).behindQuery join.table join.left first
  obtain ⟨second, readRight, facesOn, countedRight⟩ :=
    @tableReference_reads_query (behindLeft.move first.advance) _ join.table _ join.right
      join.rightName fuel 1 (Tables.add_self _) facesJoin.advance
  let behindRight := (behindLeft.move first.advance).behindQuery join.table join.right second
  obtain ⟨last, readCondition, facesNothing, -⟩ := @joinCondition_reads behindRight _ join facesOn
  refine ⟨last, ?_, facesNothing⟩
  have counted : first.advance.placeholders = join.left.placeholders := by
    change first.placeholders = _
    rw [countedLeft]
    change place.placeholders + _ = _
    rw [noneBefore, Nat.zero_add]
  have isLast : behindRight.move last =
      (ParseView.ofTable rule join.table.text last).record (join.recorded rule) := by
    have both : join.recorded rule = join.left.recorded rule join.table.text place.placeholders ++
        join.right.recorded rule join.table.text first.advance.placeholders := by
      rw [counted, noneBefore, QueryJoin.recorded, Conjunction.recorded, Conjunction.conditions,
        List.filter_append, Nat.zero_add]
      rfl
    rw [both, ← ParseView.record_record]
    rfl
  have joined : (furtherTable (query (fuel + 1) 1)).Reads behindLeft true
      (behindRight.move last) := by
    refine (skipJoin_reads_true facesJoin.kind).bind ?_
    exact readRight.bind (Reads.bind readCondition (reads_pure true _))
  have finished : (furtherTable (query (fuel + 1) 1)).Reads (behindRight.move last) false
      (behindRight.move last) := by
    have noJoin : (behindRight.move last).place.ahead.kind ∉ TokenKind.joinHeads := by
      rw [ParseView.place_move, facesNothing.ahead_kind]
      decide
    exact (skipJoin_reads noJoin).bind (reads_pure false _)
  obtain ⟨token, others, isThere, -⟩ := facesJoin.exists_cons
  rw [← isLast]
  refine (@skipKind_reads_true (.fresh rule place) _ faces.kind).bind (readLeft.bind ?_)
  apply joined.repeatStep_again finished
  change first.tokens ≠ []
  rw [isThere]
  exact List.cons_ne_nil token others

end Joins

end Parse

namespace Statement

/-- A query whose tables and WHERE clause are read up to a place without a keyword is accepted as it is
seen there. -/
theorem exists_parse_of_reads
    {dialect : Dialect}
    {rule : Rule}
    {sql : String}
    {last : ParseView}
    (keys : Keys)
    (isSelect : (Cursor.ofText dialect sql).place.ahead.kind = .keyword .SELECT)
    (reads : (Parse.opening .select >>= fun _ => Parse.whereClause).Reads
      (.fresh rule (Cursor.ofText dialect sql).place) () last)
    (noKeyword : ∀ word, last.place.ahead.kind ≠ .keyword word)
    (parameterCount : Nat) :
    ∃ statement,
      (Statement.parse dialect rule keys sql parameterCount).1 = .ok statement ∧
      statement.kind = .select ∧ statement.tables = last.tables ∧
      statement.conditions = last.conditions := by
  obtain ⟨front, led, seesFront⟩ :=
    @Parse.leading_reads (.fresh rule (Cursor.ofText dialect sql).place) _ _ isSelect rfl
      (ParseState.start dialect rule keys sql { kind := .select }) rfl
  obtain ⟨between, opened, seesBetween⟩ := reads front seesFront
  obtain ⟨final, ended, seesFinal⟩ := Parse.ending_reads noKeyword .select between seesBetween
  have read : (Parse.statementOf .select parameterCount).outcome front = (.ok (), final) := by
    rw [Parse.statementOf_eq rfl, ← bind_assoc, Parse.outcome_bind_of_ok opened]
    exact ended
  have parsed : (Statement.parse dialect rule keys sql parameterCount).1 =
      .ok final.statement := by
    change ((Parse.wholeStatement parameterCount).outcome _).1 = _
    rw [Parse.wholeStatement_eq, Parse.outcome_bind_of_ok led, Parse.outcome_bind_of_ok read]
    rfl
  obtain ⟨kind, _, ledAlike, isKind, -⟩ := exists_leading_of_parse parsed
  rw [led] at ledAlike
  cases ledAlike
  exact ⟨final.statement, parsed, isKind, congrArg ParseView.tables seesFinal,
    congrArg ParseView.conditions seesFinal⟩

section Queries

variable {dialect : Dialect} {sql : String} (rule : Rule) (keys : Keys) (parameterCount : Nat)

/-- A query of a table with restrictions is accepted, and its restrictions are recorded. -/
theorem exists_parse_of_query
    {table : PlainName dialect}
    {conjunction : Conjunction dialect}
    (faces : (Cursor.ofText dialect sql).place.Faces (conjunction.queryWords table)) :
    ∃ statement,
      (Statement.parse dialect rule keys sql parameterCount).1 = .ok statement ∧
      statement.kind = .select ∧ statement.tables = ⟨[⟨table.text, none⟩]⟩ ∧
      statement.conditions = (conjunction.recorded rule table.text 0).foldl Conditions.add {} := by
  let place := (Cursor.ofText dialect sql).place
  have facesWords : place.Faces (.ofKeyword .SELECT :: .ofSymbol .star :: .ofKeyword .FROM ::
      .ofName table.text :: .ofKeyword .WHERE :: (conjunction.words ++ [])) := by
    simpa [Conjunction.queryWords, TableAccess.withClause, TableAccess.words] using faces
  obtain ⟨last, reads, facesNothing, -⟩ := @Parse.whereClause_reads_conjunction
    ((ParseView.fresh rule place.advance.advance.advance.advance).withTable table.text) _ table.text
    [] conjunction rfl facesWords.advance.advance.advance.advance (.inl rfl)
  have opened : (Parse.opening .select).Reads (.fresh rule place) ()
      ((ParseView.fresh rule place.advance.advance.advance.advance).withTable table.text) :=
    Parse.reads_get_bind fun _ _ =>
      @Parse.queryOpening_reads (.fresh rule place) _ _ _ 0 table.isPlain.unquoteName_eq facesWords
  refine exists_parse_of_reads keys facesWords.kind (opened.bind reads) ?_ parameterCount
  intro word
  change last.ahead.kind ≠ _
  rw [facesNothing.ahead_kind]
  exact TokenKind.noConfusion

/-- A join of two queries of a table is accepted, and the restrictions of both are recorded. -/
theorem exists_parse_of_join
    {join : QueryJoin dialect}
    (faces : (Cursor.ofText dialect sql).place.Faces join.words) :
    ∃ statement,
      (Statement.parse dialect rule keys sql parameterCount).1 = .ok statement ∧
      statement.kind = .select ∧ statement.tables = ⟨[⟨join.table.text, none⟩]⟩ ∧
      statement.conditions = (join.recorded rule).foldl Conditions.add {} := by
  let place := (Cursor.ofText dialect sql).place
  obtain ⟨token, others, tokens, -⟩ := faces.exists_cons
  obtain ⟨last, reads, facesNothing⟩ := @Parse.fromClause_reads_join dialect join rule
    place.advance.advance others.length rfl faces.advance.advance
  have opened : (Parse.opening .select).Reads (.fresh rule place) ()
      ((ParseView.ofTable rule join.table.text last).record (join.recorded rule)) := by
    apply Parse.reads_get_bind
    intro state sees
    have count : state.cursor.tokens.length = others.length + 1 := by
      have isPlace : state.cursor.place = place := congrArg ParseView.place sees
      change state.cursor.place.tokens.length = _
      rw [isPlace, tokens]
      rfl
    rw [count, Parse.queryOpening_eq]
    exact (@Parse.queryList_reads (.fresh rule place) _ 0 faces).bind reads
  have notWhere : ((ParseView.ofTable rule join.table.text last).record
      (join.recorded rule)).place.ahead.kind ≠ .keyword .WHERE := by
    change last.ahead.kind ≠ _
    rw [facesNothing.ahead_kind]
    nofun
  have unrestricted := Parse.whereClause_reads_of_other notWhere
  refine exists_parse_of_reads keys faces.kind (opened.bind unrestricted) ?_ parameterCount
  intro word
  change last.ahead.kind ≠ _
  rw [facesNothing.ahead_kind]
  nofun

end Queries

end Statement

end ShardedSql
