import ShardedSql.Proofs.Parser.Restriction
import ShardedSql.Proofs.Statement.LatestConditions

/-!
# Conjunctions of restrictions

Restrictions of columns may be joined by AND and put in parentheses in any way.  The main statement
says that a statement with such a clause is accepted, and that its conditions are the latest ones on
its sharding columns.
-/

namespace ShardedSql

/-- Restrictions of columns joined by AND, with parentheses around parts of them. -/
inductive Conjunction (dialect : Dialect) where
  | single (column : PlainName dialect) (restriction : Restriction)
  | group (inner : Conjunction dialect)
  | both (first second : Conjunction dialect)

namespace Conjunction

variable {dialect : Dialect}

/-- The words of the conjunction. -/
def words : Conjunction dialect → List Word
  | .single column restriction => .ofName column.text :: restriction.words
  | .group inner => .ofSymbol .leftParen :: (inner.words ++ [.ofSymbol .rightParen])
  | .both first second => first.words ++ .ofKeyword .AND :: second.words

/-- The number of placeholders in the conjunction. -/
def placeholders : Conjunction dialect → Nat
  | .single _ restriction => restriction.placeholders
  | .group inner => inner.placeholders
  | .both first second => first.placeholders + second.placeholders

/-- The conditions that the restrictions put on the columns of a table, from the left, behind a number
of placeholders. -/
def conditions
    (table : String)
    (placeholders : Nat) : Conjunction dialect → List Condition
  | .single column restriction => [restriction.condition ⟨column.text, table⟩ placeholders]
  | .group inner => inner.conditions table placeholders
  | .both first second =>
      first.conditions table placeholders ++
        second.conditions table (placeholders + first.placeholders)

theorem isSpelled_words (conjunction : Conjunction dialect) :
    ∀ word ∈ conjunction.words, word.IsSpelled dialect := by
  induction conjunction with
  | single column restriction =>
      rw [words, List.forall_mem_cons]
      exact ⟨Word.isSpelled_ofName column.isPlain, restriction.isSpelled_words dialect⟩
  | group inner ih =>
      rw [words, List.forall_mem_cons, List.forall_mem_append, List.forall_mem_singleton]
      exact ⟨@Word.isSpelled_ofSymbol dialect .leftParen '(' (by decide), ih,
        @Word.isSpelled_ofSymbol dialect .rightParen ')' (by decide)⟩
  | both first second ihFirst ihSecond =>
      rw [words, List.forall_mem_append, List.forall_mem_cons]
      exact ⟨ihFirst, Word.isSpelled_ofKeyword (by decide), ihSecond⟩

end Conjunction

/-- Whether a token ends a predicate inside `opened` groups at once: it is the end of the text, an AND,
or a parenthesis that closes none of the groups. -/
def TokenKind.EndsPredicate
    (opened : Nat)
    (kind : TokenKind) : Prop :=
  kind = .finish ∨ kind = .keyword .AND ∨ kind = .symbol .rightParen ∧ opened = 0

namespace Place

variable {place : Place} {opened : Nat}

/-- The clause that goes on at a place inside `opened` groups, if an AND stands there. -/
def further
    (opened : Nat)
    (place : Place) : ClauseReading :=
  if place.ahead.kind = .keyword .AND then place.advance.clause opened else ⟨[], .stops place⟩

theorem ofPredicate_of_ends (ends : place.ahead.kind.EndsPredicate opened) :
    Extent.ofPredicate false opened place.tokens = ⟨0, opened, false⟩ := by
  obtain ⟨tokens, placeholders⟩ := place
  cases tokens with
  | nil => rw [Extent.ofPredicate]
  | cons token rest =>
      rw [Extent.ofPredicate]
      rcases ends with isFinish | isAnd | ⟨isParen, rfl⟩
      · have kind : token.kind = .finish := isFinish
        simp [Token.endsStatement, kind]
      · have kind : token.kind = .keyword .AND := isAnd
        simp [Token.endsStatement, TokenKind.endsWhere, kind]
      · have kind : token.kind = .symbol .rightParen := isParen
        simp [Token.endsStatement, TokenKind.endsWhere, Token.closesGroup, kind]

/-- An operand in the rest of a predicate is read over. -/
theorem ofPredicate_of_operand
    {operand : PlainOperand}
    {rest : List Word}
    (faces : place.Faces (operand.word :: rest)) :
    Extent.ofPredicate false opened place.tokens =
      ⟨(Extent.ofPredicate false opened (place.passBy 1).tokens).width + 1,
        (Extent.ofPredicate false opened (place.passBy 1).tokens).opened,
        (Extent.ofPredicate false opened (place.passBy 1).tokens).meetsOr⟩ := by
  obtain ⟨token, behind, tokens, isOperand, -⟩ := faces.exists_cons
  have isValue : token.kind ∈ TokenKind.valueKinds := by
    have kind : token.kind = operand.word.kind := congrArg Word.kind isOperand
    rw [kind]
    exact operand.kind_mem_valueKinds
  have passed : (place.passBy 1).tokens = behind := by simp [passBy, tokens]
  rw [passed, tokens, Extent.ofPredicate]
  simp only [TokenKind.valueKinds, List.mem_cons, List.not_mem_nil, or_false] at isValue
  rcases isValue with isKind | isKind | isKind | isKind | isKind <;>
    simp [Token.endsStatement, TokenKind.endsWhere, Token.closesGroup, Token.opensGroup, isKind]

/-- A predicate with nothing to be read over is followed by the rest of its clause. -/
theorem clause_of_ends
    {reading : PredicateReading}
    (read : place.predicate? opened = some reading)
    (ends : reading.inside.ahead.kind.EndsPredicate reading.groups) :
    place.clause opened =
      ⟨reading :: (reading.inside.further reading.groups).predicates,
        (reading.inside.further reading.groups).ending⟩ := by
  have extent : reading.extent = ⟨0, reading.groups, false⟩ := ofPredicate_of_ends ends
  have behind : reading.behind = reading.inside := by
    rw [PredicateReading.behind, extent]
    exact passBy_zero _
  rw [clause_of_some read, extent, behind, if_neg Bool.false_ne_true, further]
  split
  next => rfl
  next => rfl

/-- Whether the reading of a clause begins with predicates that state the conditions of a conjunction,
and goes on behind it inside `left` groups. -/
structure Passes
    {dialect : Dialect}
    (place : Place)
    (opened : Nat)
    (conjunction : Conjunction dialect)
    (rest : List Word)
    (left : Nat)
    (readings : List PredicateReading)
    (behind : Place) : Prop where
  clause : place.clause opened =
    ⟨readings ++ (behind.further left).predicates, (behind.further left).ending⟩
  faces : behind.Faces rest
  placeholders : behind.placeholders = place.placeholders + conjunction.placeholders
  conditions : ∀ (rule : Rule) (table : String),
    (readings.filterMap fun reading =>
        reading.compared.bind (Comparison.condition? rule ⟨[⟨table, none⟩]⟩)) =
      (conjunction.conditions table place.placeholders).filter fun condition =>
        rule.isShardingColumn condition.column

/-- The parentheses of a group are some of those around its conjunction. -/
theorem replicate_words_group
    {dialect : Dialect}
    (inner : Conjunction dialect)
    (leading trailing : Nat)
    (rest : List Word) :
    List.replicate leading (.ofSymbol .leftParen) ++ (inner.group.words ++
        (List.replicate trailing (.ofSymbol .rightParen) ++ rest)) =
      List.replicate (leading + 1) (.ofSymbol .leftParen) ++ (inner.words ++
        (List.replicate (trailing + 1) (.ofSymbol .rightParen) ++ rest)) := by
  rw [List.replicate_succ', List.replicate_succ]
  simp [Conjunction.words]

/-- A single restriction is one predicate. -/
theorem exists_passes_single
    {dialect : Dialect}
    {column : PlainName dialect}
    {restriction : Restriction}
    {leading trailing : Nat}
    {rest : List Word}
    (faces : place.Faces (List.replicate leading (.ofSymbol .leftParen) ++ (.ofName column.text ::
      (restriction.words ++ (List.replicate trailing (.ofSymbol .rightParen) ++ rest)))))
    (enough : trailing ≤ opened + leading)
    (ends : (Word.kindAhead rest).EndsPredicate (opened + leading - trailing)) :
    ∃ readings behind, place.Passes opened (.single column restriction) rest
      (opened + leading - trailing) readings behind := by
  have closes : Word.kindAhead rest = .symbol .rightParen → trailing = opened + leading := by
    intro isParen
    rcases ends with isFinish | isAnd | ⟨-, noneLeft⟩
    · simp [isParen] at isFinish
    · simp [isParen] at isAnd
    · omega
  have endsOperand : (Word.kindAhead rest).continuesOperand = false := by
    rcases ends with isFinish | isAnd | ⟨isParen, -⟩
    · rw [isFinish]
      rfl
    · rw [isAnd]
      rfl
    · rw [isParen]
      rfl
  obtain ⟨reading, read, groups, facesRest, placeholders, restricts⟩ :=
    exists_predicate? column.isPlain.unquoteName_eq faces enough closes endsOperand
  have clause := clause_of_ends read (by rwa [facesRest.ahead_kind, groups])
  rw [groups] at clause
  refine ⟨[reading], reading.inside, clause, facesRest, placeholders, fun rule table => ?_⟩
  rw [List.filterMap_cons, restricts rule table, Conjunction.conditions, List.filter_singleton,
    Option.filter]
  cases rule.isShardingColumn (restriction.condition ⟨column.text, table⟩
    place.placeholders).column with
  | true => rfl
  | false => rfl

/-- A conjunction is passed with the parentheses around it.  The number of open groups is all that
tells which of them are closed. -/
theorem exists_passes
    {dialect : Dialect}
    (conjunction : Conjunction dialect)
    {leading trailing : Nat}
    {rest : List Word}
    (faces : place.Faces (List.replicate leading (.ofSymbol .leftParen) ++ (conjunction.words ++
      (List.replicate trailing (.ofSymbol .rightParen) ++ rest))))
    (enough : trailing ≤ opened + leading)
    (ends : (Word.kindAhead rest).EndsPredicate (opened + leading - trailing)) :
    ∃ readings behind, place.Passes opened conjunction rest (opened + leading - trailing)
      readings behind := by
  induction conjunction generalizing place opened leading trailing rest with
  | single column restriction => exact exists_passes_single faces enough ends
  | group inner ih =>
      -- Its own parentheses join the ones around it, and the count of open groups stays the same.
      have more : trailing + 1 ≤ opened + (leading + 1) := Nat.succ_le_succ enough
      have left : opened + (leading + 1) - (trailing + 1) = opened + leading - trailing := by omega
      rw [replicate_words_group] at faces
      obtain ⟨readings, behind, passes⟩ := ih faces more (left ▸ ends)
      rw [left] at passes
      exact ⟨readings, behind, passes.clause, passes.faces, passes.placeholders, passes.conditions⟩
  | both first second ihFirst ihSecond =>
      -- What opens in front is passed with the first part, what closes behind with the second.
      have facesFirst : place.Faces (List.replicate leading (.ofSymbol .leftParen) ++ (first.words ++
          (List.replicate 0 (.ofSymbol .rightParen) ++ .ofKeyword .AND :: (second.words ++
            (List.replicate trailing (.ofSymbol .rightParen) ++ rest))))) := by
        simpa [Conjunction.words] using faces
      obtain ⟨front, between, passesFirst⟩ :=
        ihFirst facesFirst (Nat.zero_le (opened + leading)) (.inr (.inl rfl))
      have isAnd : between.ahead.kind = .keyword .AND := passesFirst.faces.kind
      have facesSecond : between.advance.Faces (List.replicate 0 (.ofSymbol .leftParen) ++
          (second.words ++ (List.replicate trailing (.ofSymbol .rightParen) ++ rest))) :=
        passesFirst.faces.advance
      have enoughSecond : trailing ≤ opened + leading + 0 := enough
      obtain ⟨others, behind, passesSecond⟩ := ihSecond facesSecond enoughSecond ends
      have counted : between.advance.placeholders = place.placeholders + first.placeholders :=
        passesFirst.placeholders
      refine ⟨front ++ others, behind, ?_, passesSecond.faces, ?_, fun rule table => ?_⟩
      · rw [passesFirst.clause, further, if_pos isAnd, Nat.sub_zero, passesSecond.clause,
          List.append_assoc]
        rfl
      · rw [passesSecond.placeholders, counted, Nat.add_assoc]
        rfl
      · rw [List.filterMap_append, passesFirst.conditions, passesSecond.conditions, counted,
          Conjunction.conditions, List.filter_append]

end Place

namespace Statement

/-- **A conjunction of restrictions is parsed exactly.**  A query or a DELETE with it is accepted.  For
each column that some strategy may choose by, its last restriction is the condition on it, in the
order in which the columns occur first, and placeholders are numbered from the left. -/
theorem exists_parse_conjunction
    (dialect : Dialect)
    (rule : Rule)
    (keys : Keys)
    (access : TableAccess)
    (table : PlainName dialect)
    (conjunction : Conjunction dialect)
    (parameterCount : Nat) :
    ∃ statement,
      (Statement.parse dialect rule keys
        (Word.text (access.withClause table.text conjunction.words)) parameterCount).1 =
          .ok statement ∧
      statement.conditions.toList =
        ((Condition.firstColumns (conjunction.conditions table.text 0)).filter
          rule.isShardingColumn).filterMap
            (Condition.lastOn? (conjunction.conditions table.text 0)) := by
  obtain ⟨state, place, opens, sees, faces, noneBefore⟩ :=
    opensWith_withClause rule keys table.isPlain conjunction.isSpelled_words access
  have hasWhere : access.kind.hasWhere = true := by
    cases access with
    | query => rfl
    | deletion => rfl
  have isWhere : state.view.place.ahead.kind = .keyword .WHERE := by
    rw [sees]
    exact faces.kind
  have facesClause : place.advance.Faces (List.replicate 0 (.ofSymbol .leftParen) ++
      (conjunction.words ++ (List.replicate 0 (.ofSymbol .rightParen) ++ []))) := by
    simpa using faces.advance
  obtain ⟨readings, last, passes⟩ := Place.exists_passes conjunction facesClause
    (Nat.zero_le 0) (.inl rfl)
  have isFinish : last.ahead.kind = .finish := passes.faces.ahead_kind
  have noFurther : last.further 0 = ⟨[], .stops last⟩ := by
    rw [Place.further, if_neg (by simp [isFinish])]
  have clause : state.view.place.advance.clause 0 = ⟨readings, .stops last⟩ := by
    rw [sees]
    exact passes.clause.trans (by rw [noFurther, List.append_nil])
  obtain ⟨statement, parsed, conditions⟩ := parse_of_stops opens hasWhere isWhere
    (congrArg ClauseReading.ending clause) (by simp [isFinish]) parameterCount
  refine ⟨statement, parsed, ?_⟩
  have counted : place.advance.placeholders = 0 := noneBefore
  have stated := passes.conditions rule table.text
  rw [counted] at stated
  have recorded : statement.conditions = ((conjunction.conditions table.text 0).filter
      fun condition => rule.isShardingColumn condition.column).foldl Conditions.add {} := by
    rw [conditions, clause, sees, ← stated]
    rfl
  rw [recorded, Condition.foldl_add_eq_latest]
  exact Condition.latest_filter _

/-- A rule whose only strategy chooses by the column `user_id`. -/
def userRule : Rule :=
  { dataSources := ["ds_0"]
    defaultDataSource := none
    tables := []
    bindingGroups := []
    databaseStrategy := some ⟨["user_id"], .firstTarget⟩
    tableStrategy := none
    keyGenerator := none }

/-- The name `user_id` in a statement. -/
def userColumn : PlainName .mysql :=
  ⟨"user_id", by decide, by decide⟩

/-- The name `status` in a statement. -/
def statusColumn : PlainName .mysql :=
  ⟨"status", by decide, by decide⟩

/-- The name `t_order` in a statement. -/
def orderTable : PlainName .mysql :=
  ⟨"t_order", by decide, by decide⟩

example :
    Word.text (TableAccess.query.withClause "t_order"
      (Conjunction.both (.single userColumn (.equal .placeholder))
        (.group (.single statusColumn (.between .placeholder .placeholder)))).words) =
      "SELECT * FROM t_order WHERE user_id = ? AND ( status BETWEEN ? AND ? )" := by
  decide

end Statement

end ShardedSql
