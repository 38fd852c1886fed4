import ShardedSql.Proofs.Parser.View

/-!
# A WHERE clause is read from its tokens

The steps that parse a WHERE clause find what the tokens ahead say.  Each step is matched with the
reading of its part of the clause, from operands to the whole.
-/

namespace ShardedSql

namespace Parse

variable {α : Type}

theorem expressionOf_congr
    {first second : Token}
    (sameKind : first.kind = second.kind)
    (sameLiterals : first.literals = second.literals)
    (placeholders : Nat) :
    expressionOf first placeholders = expressionOf second placeholders := by
  unfold expressionOf
  rw [sameKind, sameLiterals]

section Operands

variable (view : ParseView)

theorem skipComposite_reads :
    skipComposite.Reads view (Extent.compositeWidth view.place.tokens != 0)
      (view.move (view.place.passBy (Extent.compositeWidth view.place.tokens))) :=
  (passMeasured_reads view _).bind (reads_pure _ _)

theorem wholeOperand_reads
    (simple : Expression) :
    Reads (return if ← skipComposite then Expression.ignored else simple) view
      (if Extent.compositeWidth view.place.tokens ≠ 0 then .ignored else simple)
      (view.move (view.place.passBy (Extent.compositeWidth view.place.tokens))) := by
  refine (skipComposite_reads view).bind ?_
  simp only [bne_iff_ne]
  exact reads_pure _ _

theorem bareExpression_reads :
    bareExpression.Reads view view.place.operand.1 (view.move view.place.operand.2) := by
  unfold bareExpression
  refine reads_current_bind fun token kind source literals => reads_get_bind fun state sees => ?_
  refine (pass_reads view).bind ?_
  have placeholders : state.cursor.placeholders = view.place.placeholders := by
    rw [← sees]
    rfl
  have simple : expressionOf token state.cursor.placeholders =
      expressionOf view.place.ahead view.place.placeholders := by
    rw [expressionOf_congr kind literals, placeholders]
  rw [kind, source, simple]
  unfold Place.operand
  by_cases identifier : view.place.ahead.kind.isIdentifier = true
  · rw [if_pos identifier]
    by_cases dot : (view.place.passBy 1).ahead.kind = .symbol .dot
    · rw [Place.simpleOperand_of_owner identifier dot]
      refine (skipKind_reads_true dot).bind ?_
      rw [if_pos rfl]
      refine reads_current_bind fun name _ nameSource _ => ?_
      rw [nameSource]
      exact (advance_reads _).bind ((reads_pure _ _).bind (wholeOperand_reads _ _))
    · rw [Place.simpleOperand_of_noOwner fun owner => dot owner.2]
      refine (skipKind_reads_false dot).bind ?_
      exact (reads_pure _ _).bind (wholeOperand_reads _ _)
  · rw [if_neg identifier, Place.simpleOperand_of_noOwner fun owner => identifier owner.1]
    exact (reads_pure _ _).bind (wholeOperand_reads _ _)

theorem expression_reads :
    expression.Reads view view.place.operand.1 (view.move view.place.operand.2) := by
  unfold expression
  refine reads_current_bind fun token _ _ _ => (bareExpression_reads view).bind ?_
  cases view.place.operand.1 with
  | property owner name =>
      refine reads_statement_bind fun statement _ => .ite (fun _ => ?_) fun _ => reads_pure _ _
      exact (mark_reads _ _).bind (reads_pure _ _)
  | _ => exact reads_pure _ _

/-- Pass a comma or a member of a list, and tell whether the list goes on. -/
def memberTurn (members : List Expression) : Parse (List Expression × Bool) := do
  if ← skipSign .rightParen then
    return (members, false)
  if ← isKind .finish then
    failUnexpected "')'"
  if ← skipSign .comma then
    return (members, true)
  let member ← expression
  return (members ++ [member], true)

section Members

variable {view : ParseView} (collected : List Expression)

theorem memberTurn_closes (closes : view.place.ahead.kind = .symbol .rightParen) :
    (memberTurn collected).Reads view (collected, false) (view.move view.place.advance) :=
  (skipKind_reads_true closes).bind (reads_pure _ _)

theorem memberTurn_breaks (isLast : view.place.ahead.kind = .finish) :
    (memberTurn collected).Refuses view fun error => ¬ error.RefusesToken := by
  have notClosing : view.place.ahead.kind ≠ .symbol .rightParen := by simp [isLast]
  refine (skipKind_reads_false notClosing).bind_refuses ?_
  refine (isKind_reads view .finish).bind_refuses ?_
  rw [isLast]
  exact (failUnexpected_refuses view _).bind

theorem memberTurn_comma (comma : view.place.ahead.kind = .symbol .comma) :
    (memberTurn collected).Reads view (collected, true) (view.move view.place.advance) := by
  have notClosing : view.place.ahead.kind ≠ .symbol .rightParen := by simp [comma]
  refine (skipKind_reads_false notClosing).bind ?_
  refine (isKind_reads view .finish).bind ?_
  rw [comma]
  exact (skipKind_reads_true comma).bind (reads_pure _ _)

theorem memberTurn_member
    (notClosing : view.place.ahead.kind ≠ .symbol .rightParen)
    (notLast : view.place.ahead.kind ≠ .finish)
    (notComma : view.place.ahead.kind ≠ .symbol .comma) :
    (memberTurn collected).Reads view (collected ++ [view.place.operand.1], true)
      (view.move view.place.operand.2) := by
  refine (skipKind_reads_false notClosing).bind ?_
  refine (isKind_reads view .finish).bind ?_
  rw [beq_false_of_ne notLast]
  refine (skipKind_reads_false notComma).bind ?_
  exact (expression_reads view).bind (reads_pure _ _)

end Members

/-- Turns over the tokens of a list collect its members. -/
theorem memberTurns_follow
    {fuel : Nat}
    {view : ParseView}
    (enough : view.place.tokens.length < fuel)
    (collected : List Expression) :
    (iterate memberTurn fuel collected).Follows view
      (view.place.members?.map fun (members, behind) =>
        (collected ++ members.map fun member => member.operand.1, view.move behind)) := by
  induction fuel generalizing view collected with
  | zero => omega
  | succ fuel ih =>
      rw [Place.members?_eq]
      split
      next closes =>
        simp only [Option.map_some, List.map_nil, List.append_nil]
        exact (memberTurn_closes collected closes).iterate_stop
      next notClosing =>
        split
        next isLast => exact (memberTurn_breaks collected isLast).iterate
        next notLast =>
          have positive := Place.length_pos_of_ahead notLast
          split
          next comma =>
            have shorter : (view.move view.place.advance).place.tokens.length < fuel := by
              rw [ParseView.place_move, Place.advance, List.length_tail]
              omega
            refine (memberTurn_comma collected comma).iterate_follows ?_
            exact ih shorter collected
          next notComma =>
            have shorter := Place.length_operand_lt (List.length_pos_iff.mp positive)
            refine (memberTurn_member collected notClosing notLast notComma).iterate_follows ?_
            have fewer : (view.move view.place.operand.2).place.tokens.length < fuel :=
              Nat.lt_of_lt_of_le shorter (Nat.le_of_lt_succ enough)
            have others := ih fewer (collected ++ [view.place.operand.1])
            simpa [Option.map_map, Function.comp_def] using others

end Operands

section Comparisons

variable (view : ParseView)

theorem addCondition_reads
    (left : Expression)
    (operator : ConditionOperator)
    (operands : List Expression) :
    (addCondition left operator operands).Reads view ()
      (view.record (((columnOf? view.tables left).filter view.rule.isShardingColumn).map
        fun column => ⟨column, operator, operands⟩).toList) := by
  rintro state rfl
  unfold addCondition shardingColumn?
  simp only [outcome_bind, outcome_get, outcome_pure]
  cases found : (columnOf? state.statement.tables left).filter state.rule.isShardingColumn with
  | none => exact ⟨state, rfl, by simp [ParseState.view, ParseView.record, found]⟩
  | some column => exact ⟨_, rfl, by simp [ParseState.view, ParseView.record, found]⟩

/-- A condition is added when its operands have values and its column is one to choose by. -/
theorem note_reads
    (compared : Comparison)
    {admitted : Bool}
    (admits : admitted = true →
      compared.starts ≠ [] ∧ (compared.starts.all fun start => start.operand.1.isValue) = true)
    (rejects : admitted = false → compared.condition? view.rule view.tables = none) :
    Reads (if admitted then addCondition compared.left compared.operator compared.operands
      else pure ()) view () (view.note (some compared)) := by
  cases admitted with
  | true =>
      have added := addCondition_reads view compared.left compared.operator compared.operands
      simpa [ParseView.note, Comparison.condition?, admits rfl] using added
  | false =>
      simpa [ParseView.note, rejects rfl, ParseView.record] using reads_pure () view

theorem columnOf?_eq_none
    {tables : Tables}
    {left : Expression}
    (several : tables.isSingle = false)
    (bare : isQualified left = false) :
    columnOf? tables left = none := by
  unfold columnOf?
  split
  next => simp [isQualified] at bare
  next =>
    unfold Tables.isSingle at several
    unfold Tables.singleName?
    split
    next table isOnly => simp [isOnly] at several
    next => rfl
  next => rfl

/-- An equality between a bare name and a value counts for a single table only, which is also what
makes the name a column. -/
theorem equality_condition?_eq_none
    {rule : Rule}
    {tables : Tables}
    {left : Expression}
    {right : Place}
    (rejected : ((tables.isSingle || isQualified left) && right.operand.1.isValue) = false) :
    Comparison.condition? rule tables ⟨left, .equal, [right]⟩ = none := by
  unfold Comparison.condition?
  split
  next valued =>
    have isValue : right.operand.1.isValue = true := by simpa using valued.2
    rw [isValue, Bool.and_true, Bool.or_eq_false_iff] at rejected
    simp [columnOf?_eq_none rejected.1 rejected.2]
  next => rfl

theorem equalCondition_reads (left : Expression) :
    (equalCondition left).Reads view ()
      ((view.move view.place.advance.operand.2).note
        (some ⟨left, .equal, [view.place.advance]⟩)) := by
  unfold equalCondition
  refine (advance_reads view).bind ((expression_reads _).bind ?_)
  refine reads_statement_bind fun statement tables => ?_
  rw [tables]
  refine note_reads _ ⟨left, .equal, [_]⟩ (fun admitted => ?_) equality_condition?_eq_none
  have both := (Bool.and_eq_true_iff.mp admitted).2
  simpa using both

theorem rangeCondition_follows (left : Expression) :
    (rangeCondition left).Follows view
      ((view.place.advance.range? left).map fun (compared, behind) =>
        ((), (view.move behind).note compared)) := by
  unfold rangeCondition Place.range?
  refine (advance_reads view).bind_follows ((expression_reads _).bind_follows ?_)
  dsimp only
  split
  next isAnd =>
    refine (accept_reads isAnd).bind ((expression_reads _).bind ?_)
    refine note_reads _ ⟨left, .between, [_, _]⟩ (fun admitted => ?_) fun rejected => ?_
    · simpa using admitted
    · refine if_neg fun valued => Bool.false_ne_true (rejected.symm.trans ?_)
      simpa using valued
  next isOther => exact (accept_refuses isOther).bind

theorem membership_reads
    (left : Expression)
    (members : List Place) :
    Reads (if !(members.map fun member => member.operand.1).isEmpty &&
          (members.map fun member => member.operand.1).all Expression.isValue then
        addCondition left .among (members.map fun member => member.operand.1) else pure ()) view ()
      (view.note (some ⟨left, .among, members⟩)) := by
  refine note_reads view ⟨left, .among, members⟩ (fun admitted => ?_) fun rejected => ?_
  · simpa using admitted
  · refine if_neg fun valued => Bool.false_ne_true (rejected.symm.trans ?_)
    simpa using valued

theorem membershipCondition_follows (left : Expression) :
    (membershipCondition left).Follows view
      ((view.place.advance.membership? left).map fun (compared, behind) =>
        ((), (view.move behind).note compared)) := by
  unfold membershipCondition Place.membership?
  refine (advance_reads view).bind_follows ?_
  by_cases opens : view.place.advance.ahead.kind = .symbol .leftParen
  · refine (accept_reads opens).bind_follows ?_
    refine (isKind_reads _ _).bind_follows ?_
    by_cases nested : view.place.advance.advance.ahead.kind = .keyword .SELECT
    · simp only [ParseView.place_move, nested, beq_self_eq_true, if_true, ne_eq,
        not_true_eq_false, and_false, if_false, Option.map_none]
      exact (throw_refuses _ (by simp [Error.RefusesToken])).bind
    · simp only [ParseView.place_move, beq_false_of_ne nested, Bool.false_eq_true, if_false, opens,
        ne_eq, nested, not_false_eq_true, and_self, if_true]
      have turns : (repeatFrom [] memberTurn).Follows (view.move view.place.advance.advance) _ :=
        (memberTurns_follow (Nat.lt_succ_self _) []).repeatFrom
      cases listed : view.place.advance.advance.members? with
      | none =>
          rw [ParseView.place_move, listed] at turns
          exact Refuses.bind turns
      | some found =>
          rw [ParseView.place_move, listed] at turns
          exact Reads.bind turns (membership_reads _ left found.1)
  · rw [if_neg fun both => opens both.1]
    exact (accept_refuses opens).bind

theorem boundRowNumber_reads
    (isRowCount : Bool)
    (operand : LimitOperand)
    (position length : Nat) :
    (boundRowNumber isRowCount operand position length).Reads view () view := by
  unfold boundRowNumber
  refine reads_statement_bind fun statement _ => ?_
  dsimp only
  refine (modifyStatement_reads view (by exact fun _ => ⟨rfl, rfl⟩)).bind ?_
  cases operand with
  | literal value => exact mark_reads view _
  | placeholder index => exact reads_pure () view

theorem rowNumberCondition_reads :
    rowNumberCondition.Reads view () (view.move view.place.advance.operand.2) := by
  unfold rowNumberCondition
  refine (isAnyKind_reads view _).bind ((advance_reads view).bind ?_)
  refine reads_current_bind fun token _ _ _ => (expression_reads _).bind ?_
  split
  next => exact reads_lastStop_bind fun stop => boundRowNumber_reads _ _ _ _ _
  next => exact reads_pure _ _

theorem passOperand_reads :
    comparison.passOperand.Reads view () (view.move view.place.advance.operand.2) :=
  (advance_reads view).bind ((expression_reads _).bind (reads_pure _ _))

theorem inequality_reads (left : Expression) :
    (comparison.inequality left).Reads view () (view.move view.place.advance.operand.2) :=
  reads_get_bind fun _ _ =>
    .ite (fun _ => rowNumberCondition_reads view) fun _ => passOperand_reads view

/-- A predicate that begins with an operand is read as its tokens say. -/
theorem comparison_follows :
    comparison.Follows view
      (view.place.comparison?.map fun (compared, behind) =>
        ((), (view.move behind).note compared)) := by
  unfold comparison Place.comparison?
  refine (expression_reads view).bind_follows (follows_current_bind fun token kind => ?_)
  rw [kind]
  dsimp only [ParseView.place_move]
  cases view.place.operand.2.ahead.kind with
  | symbol sign =>
      cases sign with
      | eq => exact equalCondition_reads (view.move view.place.operand.2) view.place.operand.1
      | lt => exact inequality_reads (view.move view.place.operand.2) view.place.operand.1
      | gt => exact inequality_reads (view.move view.place.operand.2) view.place.operand.1
      | ltEq => exact inequality_reads (view.move view.place.operand.2) view.place.operand.1
      | gtEq => exact inequality_reads (view.move view.place.operand.2) view.place.operand.1
      | ltGt => exact passOperand_reads (view.move view.place.operand.2)
      | bangEq => exact passOperand_reads (view.move view.place.operand.2)
      | _ => exact reads_pure () _
  | keyword word =>
      cases word with
      | IN => exact membershipCondition_follows (view.move view.place.operand.2) view.place.operand.1
      | BETWEEN => exact rangeCondition_follows (view.move view.place.operand.2) view.place.operand.1
      | LIKE => exact passOperand_reads (view.move view.place.operand.2)
      | _ => exact reads_pure () _
  | _ => exact reads_pure () _

end Comparisons

section Clauses

variable {view : ParseView}

theorem isOperandStart_reads (view : ParseView) :
    isOperandStart.Reads view view.place.startsOperand view := by
  unfold isOperandStart
  refine reads_current_bind fun token kind _ _ => ?_
  simp only [kind]
  exact reads_pure _ _

theorem skipPredicate_reads
    {opened : Nat}
    (noOr : (Extent.ofPredicate false opened view.place.tokens).meetsOr = false) :
    (skipPredicate opened).Reads view (Extent.ofPredicate false opened view.place.tokens).opened
      (view.move
        (view.place.passBy (Extent.ofPredicate false opened view.place.tokens).width)) := by
  refine reads_get_bind fun state sees => ?_
  have tokens : state.cursor.tokens = view.place.tokens := by rw [← sees]; rfl
  rw [tokens]
  refine (passBy_reads view _).bind ?_
  rw [noOr]
  exact reads_pure _ _

theorem skipPredicate_refuses
    {opened : Nat}
    (meetsOr : (Extent.ofPredicate false opened view.place.tokens).meetsOr = true) :
    (skipPredicate opened).Refuses view Error.RefusesToken := by
  refine refuses_get_bind fun state sees => ?_
  have tokens : state.cursor.tokens = view.place.tokens := by rw [← sees]; rfl
  rw [tokens]
  refine (passBy_reads view _).bind_refuses ?_
  rw [meetsOr]
  exact (failUnsupported_refuses _).bind

theorem skipAnd_reads (view : ParseView) :
    (skipWord .AND).Reads view (view.place.ahead.kind == .keyword .AND)
      (view.move (if view.place.ahead.kind = .keyword .AND then view.place.advance
        else view.place)) := by
  by_cases isAnd : view.place.ahead.kind = .keyword .AND
  · rw [if_pos isAnd, beq_iff_eq.mpr isAnd]
    exact skipKind_reads_true isAnd
  · rw [if_neg isAnd, beq_false_of_ne isAnd]
    exact skipKind_reads_false isAnd

/-- The part of a predicate behind its comparison. -/
def predicateRest (opened : Nat) : Parse (Nat × Bool) := do
  let closed ← passMeasured fun tokens => min opened (tokens.takeWhile Token.closesGroup).length
  let left ← skipPredicate (opened - closed)
  return (left, ← skipWord .AND)

theorem predicateRest_reads
    {start : Place}
    {opened : Nat}
    {compared : Option Comparison}
    (noOr : (view.place.predicateRest opened compared start).extent.meetsOr = false) :
    (predicateRest opened).Reads view
      ((view.place.predicateRest opened compared start).extent.opened,
        (view.place.predicateRest opened compared start).behind.ahead.kind == .keyword .AND)
      (view.move (view.place.predicateRest opened compared start).last) := by
  refine (passMeasured_reads view _).bind ?_
  refine Reads.bind (skipPredicate_reads noOr) ?_
  exact (skipAnd_reads _).bind (reads_pure _ _)

theorem predicateRest_refuses
    {start : Place}
    {opened : Nat}
    {compared : Option Comparison}
    (meetsOr : (view.place.predicateRest opened compared start).extent.meetsOr = true) :
    (predicateRest opened).Refuses view Error.RefusesToken := by
  refine (passMeasured_reads view _).bind_refuses ?_
  exact Refuses.bind (skipPredicate_refuses meetsOr)

/-- The part of a predicate up to the end of its comparison, which gives the number of groups that
open there. -/
def predicateFront : Parse Nat := do
  let further ← passMeasured fun tokens => (tokens.takeWhile Token.opensGroup).length
  if ← isOperandStart then
    comparison
  return further

theorem predicateFront_follows (view : ParseView) :
    predicateFront.Follows view
      ((view.place.passBy (view.place.tokens.takeWhile Token.opensGroup).length).compared?.map
        fun (compared, behind) =>
          ((view.place.tokens.takeWhile Token.opensGroup).length,
            (view.move behind).note compared)) := by
  unfold predicateFront Place.compared?
  refine (passMeasured_reads view _).bind_follows ?_
  refine (isOperandStart_reads _).bind_follows ?_
  rw [ParseView.place_move]
  split
  next =>
    have found := comparison_follows
      (view.move (view.place.passBy (view.place.tokens.takeWhile Token.opensGroup).length))
    have finished := found.bind
      (fun (_, after) => ((view.place.tokens.takeWhile Token.opensGroup).length, after))
      fun _ _ => reads_pure _ _
    rw [Option.map_map] at finished
    exact finished
  next => exact reads_pure _ _

theorem predicate_eq (opened : Nat) :
    predicate opened =
      predicateFront >>= fun further => predicateRest (opened + further) := by
  simp only [predicateFront, bind_assoc]
  refine bind_congr fun further => bind_congr fun starts => ?_
  cases starts with
  | false => rfl
  | true =>
      simp only [if_true, bind_assoc, pure_bind]
      rfl

theorem predicate_reads
    {opened : Nat}
    {reading : PredicateReading}
    (read : view.place.predicate? opened = some reading)
    (noOr : reading.extent.meetsOr = false) :
    (predicate opened).Reads view
      (reading.extent.opened, reading.behind.ahead.kind == .keyword .AND)
      ((view.move reading.last).note reading.compared) := by
  obtain ⟨⟨compared, behind⟩, isCompared, rfl⟩ := Option.map_eq_some_iff.mp read
  have front := predicateFront_follows view
  rw [isCompared] at front
  rw [predicate_eq]
  exact Reads.bind front (predicateRest_reads noOr)

theorem predicate_refuses
    {opened : Nat}
    {reading : PredicateReading}
    (read : view.place.predicate? opened = some reading)
    (meetsOr : reading.extent.meetsOr = true) :
    (predicate opened).Refuses view Error.RefusesToken := by
  obtain ⟨⟨compared, behind⟩, isCompared, rfl⟩ := Option.map_eq_some_iff.mp read
  have front := predicateFront_follows view
  rw [isCompared] at front
  rw [predicate_eq]
  exact Reads.bind_refuses front (predicateRest_refuses meetsOr)

theorem predicate_breaks
    {opened : Nat}
    (broken : view.place.predicate? opened = none) :
    (predicate opened).Refuses view fun error => ¬ error.RefusesToken := by
  have front := predicateFront_follows view
  rw [Option.map_eq_none_iff.mp broken] at front
  rw [predicate_eq]
  exact Refuses.bind front

/-- Whether a step does what the reading of a clause finds: it passes the clause and keeps its
conditions, it refuses an OR, or it fails for another reason. -/
def FollowsClause
    (step : Parse α)
    (view : ParseView)
    (clause : ClauseReading) : Prop :=
  match clause.ending with
  | .stops place =>
      ∃ value, step.Reads view value
        ((view.move place).record (clause.conditions view.rule view.tables))
  | .meetsOr => step.Refuses view Error.RefusesToken
  | .breaks => step.Refuses view fun error => ¬ error.RefusesToken

theorem Reads.iterate_followsClause
    {step : α → Parse (α × Bool)}
    {value following : α}
    {fuel : Nat}
    {reading : PredicateReading}
    {place : Place}
    {clause : ClauseReading}
    (turn : (step value).Reads view (following, true)
      ((view.move place).note reading.compared))
    (others : (iterate step fuel following).FollowsClause
      ((view.move place).note reading.compared) clause) :
    (iterate step (fuel + 1) value).FollowsClause view
      ⟨reading :: clause.predicates, clause.ending⟩ := by
  unfold FollowsClause at others ⊢
  dsimp only
  split at others
  next last ending =>
    obtain ⟨result, reads⟩ := others
    refine ⟨result, turn.iterate_again ?_⟩
    rw [ParseView.note, ParseView.move_record, ParseView.record_record] at reads
    rw [ClauseReading.conditions_cons]
    exact reads
  next => exact turn.bind_refuses others
  next => exact turn.bind_refuses others

theorem predicates_follow
    {fuel : Nat}
    {view : ParseView}
    (enough : view.place.tokens.length < fuel)
    (opened : Nat) :
    (iterate predicate fuel opened).FollowsClause view (view.place.clause opened) := by
  induction fuel generalizing view opened with
  | zero => omega
  | succ fuel ih =>
      cases read : view.place.predicate? opened with
      | none =>
          rw [Place.clause_of_none read]
          exact (predicate_breaks read).iterate
      | some reading =>
          rw [Place.clause_of_some read]
          cases meetsOr : reading.extent.meetsOr with
          | true => exact (predicate_refuses read meetsOr).iterate
          | false =>
              have turn := predicate_reads read meetsOr
              unfold PredicateReading.last at turn
              rw [if_neg Bool.false_ne_true]
              by_cases isAnd : reading.behind.ahead.kind = .keyword .AND
              · -- Another predicate follows, with fewer tokens left than there is fuel.
                have shorter := Place.length_advance_lt read isAnd
                rw [if_pos isAnd, beq_iff_eq.mpr isAnd] at turn
                rw [if_pos isAnd]
                have enoughLeft := Nat.lt_of_lt_of_le shorter (Nat.le_of_lt_succ enough)
                exact turn.iterate_followsClause (ih enoughLeft _)
              · rw [if_neg isAnd, beq_false_of_ne isAnd] at turn
                rw [if_neg isAnd]
                refine ⟨_, turn.iterate_stop⟩

/-- **A WHERE clause is read as its tokens say.**  The parse passes the clause and keeps the conditions
of its predicates, unless an OR is met or a comparison is not complete. -/
theorem whereClause_follows (isWhere : view.place.ahead.kind = .keyword .WHERE) :
    whereClause.FollowsClause view (view.place.advance.clause 0) := by
  have clause : (iterate predicate _ 0).FollowsClause (view.move view.place.advance)
      (view.place.advance.clause 0) := predicates_follow (Nat.lt_succ_self _) 0
  have skips := skipKind_reads_true isWhere
  unfold FollowsClause at clause ⊢
  split at clause
  next =>
    obtain ⟨left, reads⟩ := clause
    exact ⟨(), skips.bind (reads.repeatFrom.bind (reads_pure () _))⟩
  next => exact skips.bind_refuses clause.repeatFrom.bind
  next => exact skips.bind_refuses clause.repeatFrom.bind

theorem whereClause_reads_of_other (isOther : view.place.ahead.kind ≠ .keyword .WHERE) :
    whereClause.Reads view () view :=
  (skipKind_reads_false isOther).bind (reads_pure () view)

end Clauses

end Parse

end ShardedSql
