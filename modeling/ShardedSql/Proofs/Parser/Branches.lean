import ShardedSql.Proofs.Parser.Recording
import Mathlib.Data.List.Infix
import Mathlib.Data.List.TakeWhile

/-!
# Comparisons inside CASE

The rest of a predicate is read over up to the next AND outside parentheses that belongs to no BETWEEN.  The
reading keeps no count of CASE and END, so that an AND between them joins predicates like any other one.
The main statement follows each comparison that a clause meets to the AND in front of it: the comparison
stands inside a CASE exactly if this AND does.
-/

namespace ShardedSql

/-- Whether every CASE among some tokens, and `opened` more in front of them, are closed by an END each. -/
def closesCases : Nat → List Token → Bool
  | opened, [] => opened == 0
  | opened, token :: rest =>
      if token.kind = .keyword .CASE then
        closesCases (opened + 1) rest
      else if token.kind = .keyword .END then
        opened != 0 && closesCases (opened - 1) rest
      else
        closesCases opened rest

/-- Whether the place between the passed tokens and the rest stands between a CASE and the END that closes
it. -/
def InCase (passed rest : List Token) : Prop :=
  ∃ front opening middle inner closing behind,
    passed = front ++ opening :: middle ∧ rest = inner ++ closing :: behind ∧
      opening.kind = .keyword .CASE ∧ closing.kind = .keyword .END ∧
      closesCases 0 (middle ++ inner) = true

/-- Whether a token neither opens a CASE nor closes one. -/
def Token.IsPlain (token : Token) : Prop :=
  token.kind ≠ .keyword .CASE ∧ token.kind ≠ .keyword .END

theorem not_inCase_of_plain
    {passed : List Token}
    (plain : ∀ token ∈ passed, token.IsPlain)
    (rest : List Token) :
    ¬ InCase passed rest := by
  rintro ⟨front, opening, middle, inner, closing, behind, rfl, -, isCase, -⟩
  exact (plain opening (by simp)).1 isCase

theorem inCase_cons
    {token : Token}
    (plain : token.IsPlain)
    (passed rest : List Token) :
    InCase passed (token :: rest) ↔ InCase (passed ++ [token]) rest := by
  constructor
  · rintro ⟨front, opening, middle, inner, closing, behind, rfl, split, isCase, isEnd, closes⟩
    cases inner with
    | nil =>
        obtain ⟨rfl, -⟩ := List.cons.inj split
        exact absurd isEnd plain.2
    | cons first inner =>
        obtain ⟨rfl, rfl⟩ := List.cons.inj split
        refine ⟨front, opening, middle ++ [token], inner, closing, behind, by simp, rfl, isCase, isEnd,
          ?_⟩
        simpa using closes
  · rintro ⟨front, opening, middle, inner, closing, behind, split, rfl, isCase, isEnd, closes⟩
    rcases List.eq_nil_or_concat middle with rfl | ⟨middle, last, rfl⟩
    · obtain ⟨-, same⟩ := List.append_inj' split rfl
      obtain rfl := List.head_eq_of_cons_eq same
      exact absurd isCase plain.1
    · rw [List.concat_eq_append, ← List.cons_append, ← List.append_assoc] at split
      obtain ⟨rfl, same⟩ := List.append_inj' split rfl
      obtain rfl := List.head_eq_of_cons_eq same
      refine ⟨front, opening, middle, token :: inner, closing, behind, rfl, rfl, isCase, isEnd, ?_⟩
      simpa [List.concat_eq_append] using closes

/-- Passing tokens that neither open nor close a CASE leads into none and out of none. -/
theorem inCase_append
    {between : List Token}
    (plain : ∀ token ∈ between, token.IsPlain)
    (passed rest : List Token) :
    InCase passed (between ++ rest) ↔ InCase (passed ++ between) rest := by
  induction between generalizing passed with
  | nil => rw [List.append_nil, List.nil_append]
  | cons token between ih =>
      rw [List.cons_append, inCase_cons (plain token List.mem_cons_self),
        ih fun other otherMem => plain other (List.mem_cons_of_mem token otherMem),
        List.append_assoc, List.singleton_append]

namespace Place

/-- Whether another place stands between a CASE behind this place and the END that closes it. -/
def HasInCase (start place : Place) : Prop :=
  ∃ passed, start.tokens = passed ++ place.tokens ∧ InCase passed place.tokens

/-- The place behind the parentheses that open groups here. -/
def behindGroups (place : Place) : Place :=
  place.passBy (place.tokens.takeWhile Token.opensGroup).length

theorem hasInCase_iff
    {start place other : Place}
    {between : List Token}
    (plain : ∀ token ∈ between, token.IsPlain)
    (split : place.tokens = between ++ other.tokens)
    (suffix : place.tokens <:+ start.tokens) :
    start.HasInCase place ↔ start.HasInCase other := by
  obtain ⟨front, whole⟩ := suffix
  have isPassed (passed : List Token) :
      start.tokens = passed ++ place.tokens ↔ passed = front := by
    rw [← whole, List.append_left_inj]
    exact eq_comm
  have isPassedOther (passed : List Token) :
      start.tokens = passed ++ other.tokens ↔ passed = front ++ between := by
    rw [← whole, split, ← List.append_assoc, List.append_left_inj]
    exact eq_comm
  simp only [HasInCase, isPassed, isPassedOther, exists_eq_left]
  rw [split]
  exact inCase_append plain front other.tokens

theorem tokens_behindGroups (place : Place) :
    place.tokens = place.tokens.takeWhile Token.opensGroup ++ place.behindGroups.tokens :=
  List.prefix_append_drop (List.takeWhile_prefix _)

theorem isPlain_of_opensGroup
    {token : Token}
    (opens : token.opensGroup = true) :
    token.IsPlain := by
  have isSign : token.kind = .symbol .leftParen := by simpa [Token.opensGroup] using opens
  constructor <;> simp [isSign]

/-- The parentheses in front of a predicate do not matter. -/
theorem hasInCase_behindGroups
    {start place : Place}
    (suffix : place.tokens <:+ start.tokens) :
    start.HasInCase place.behindGroups ↔ start.HasInCase place := by
  symm
  apply hasInCase_iff _ place.tokens_behindGroups suffix
  intro token member
  exact isPlain_of_opensGroup (List.mem_takeWhile_imp member)

/-- An AND stands inside a CASE just when what follows it does. -/
theorem hasInCase_advance
    {start place : Place}
    (isAnd : place.ahead.kind = .keyword .AND)
    (suffix : place.tokens <:+ start.tokens) :
    start.HasInCase place.advance ↔ start.HasInCase place := by
  obtain ⟨token, split, isWord⟩ := exists_cons_of_ahead isAnd
  symm
  refine @hasInCase_iff start place place.advance [token] ?_ split suffix
  rw [List.forall_mem_singleton]
  constructor <;> simp [isWord]

theorem not_hasInCase_self (place : Place) :
    ¬ place.HasInCase place := by
  rintro ⟨passed, whole, inside⟩
  obtain rfl : passed = [] := List.append_left_eq_self.mp whole.symm
  exact not_inCase_of_plain (by simp) _ inside

end Place

/-- The places of the ANDs by which the predicates of a clause are joined. -/
def ClauseReading.joints (reading : ClauseReading) : List Place :=
  (reading.predicates.map PredicateReading.behind).filter fun place =>
    place.ahead.kind = .keyword .AND

theorem ClauseReading.joints_cons
    {reading : PredicateReading}
    (isAnd : reading.behind.ahead.kind = .keyword .AND)
    (others : List PredicateReading)
    (ending : ClauseEnd) :
    joints ⟨reading :: others, ending⟩ = reading.behind :: joints ⟨others, ending⟩ := by
  rw [joints, List.map_cons, List.filter_cons_of_pos (by simpa using isAnd)]
  rfl

namespace Place

variable {opened : Nat} {place last : Place}

/-- Each predicate of a clause begins with the clause or behind an AND that joins it. -/
theorem ReadsClause.map_start
    {readings : List PredicateReading}
    (reads : ReadsClause opened place readings last)
    (ending : ClauseEnd) :
    readings.map PredicateReading.start =
      place :: (ClauseReading.joints ⟨readings, ending⟩).map advance := by
  induction reads with
  | ends read _ notAnd => simp [ClauseReading.joints, predicate?_start read, notAnd]
  | joins read _ isAnd _ ih =>
      rw [List.map_cons, ih, predicate?_start read, ClauseReading.joints_cons isAnd, List.map_cons]

theorem map_start_predicates (stops : (place.clause opened).ending = .stops last) :
    (place.clause opened).predicates.map PredicateReading.start =
      place :: (place.clause opened).joints.map advance :=
  (readsClause_of_stops stops).map_start _

theorem joint_suffix
    {joint : Place}
    (member : joint ∈ (place.clause opened).joints) :
    joint.tokens <:+ place.tokens ∧ joint.ahead.kind = .keyword .AND := by
  obtain ⟨isBehind, isAnd⟩ := List.mem_filter.mp member
  obtain ⟨reading, isReading, rfl⟩ := List.mem_map.mp isBehind
  obtain ⟨left, start, reaches, read⟩ := exists_of_mem_clause isReading
  exact ⟨(reaches.trans (predicate?_reaches read).2).suffix, by simpa using isAnd⟩

/-- A joined predicate stands inside a CASE just when the AND in front of it does. -/
theorem hasInCase_joined
    {joint : Place}
    (member : joint ∈ (place.clause opened).joints) :
    place.HasInCase joint.advance.behindGroups ↔ place.HasInCase joint := by
  obtain ⟨suffix, isAnd⟩ := joint_suffix member
  rw [hasInCase_behindGroups (joint.advance_suffix.trans suffix), hasInCase_advance isAnd suffix]

/-- A comparison that a clause meets stands inside a CASE just when it follows an AND there by which the
clause joins its predicates. -/
theorem hasInCase_iff_joined
    {tables : Tables}
    {encounter : Encounter}
    (stops : (place.clause opened).ending = .stops last)
    (met : encounter ∈ (place.clause opened).encounters tables) :
    place.HasInCase encounter.place ↔
      ∃ joint ∈ (place.clause opened).joints,
        place.HasInCase joint ∧ joint.advance.behindGroups = encounter.place := by
  constructor
  · intro inside
    obtain ⟨reading, isReading, isEncounter⟩ := List.mem_filterMap.mp met
    obtain ⟨comparison, -, rfl⟩ := Option.map_eq_some_iff.mp isEncounter
    have isStart := List.mem_map_of_mem (f := PredicateReading.start) isReading
    rw [map_start_predicates stops] at isStart
    have inside : place.HasInCase reading.start.behindGroups := inside
    rcases List.mem_cons.mp isStart with isFirst | isJoined
    · rw [isFirst, hasInCase_behindGroups (List.suffix_refl _)] at inside
      exact absurd inside place.not_hasInCase_self
    · obtain ⟨joint, isJoint, isAdvance⟩ := List.mem_map.mp isJoined
      rw [← isAdvance, hasInCase_joined isJoint] at inside
      exact ⟨joint, isJoint, inside, congrArg behindGroups isAdvance⟩
  · rintro ⟨joint, isJoint, inside, isPlace⟩
    rw [← isPlace]
    exact (hasInCase_joined isJoint).mpr inside

/-- Each comparison behind an AND by which a clause joins its predicates is met. -/
theorem encounter_of_joint
    {joint behind : Place}
    {comparison : Comparison}
    (stops : (place.clause opened).ending = .stops last)
    (isJoint : joint ∈ (place.clause opened).joints)
    (compared : joint.advance.behindGroups.compared? = some (some comparison, behind))
    (tables : Tables) :
    ⟨joint.advance.behindGroups, tables, comparison⟩ ∈
      (place.clause opened).encounters tables := by
  have isStart : joint.advance ∈ (place.clause opened).predicates.map PredicateReading.start := by
    rw [map_start_predicates stops]
    exact List.mem_cons_of_mem _ (List.mem_map_of_mem isJoint)
  obtain ⟨reading, isReading, starts⟩ := List.mem_map.mp isStart
  obtain ⟨left, start, -, read⟩ := exists_of_mem_clause isReading
  obtain rfl : start = joint.advance := (predicate?_start read).symm.trans starts
  refine List.mem_filterMap.mpr ⟨reading, isReading, ?_⟩
  obtain ⟨⟨found, final⟩, isFound, rfl⟩ := Option.map_eq_some_iff.mp read
  obtain rfl : found = some comparison :=
    congrArg Prod.fst (Option.some.inj (isFound.symm.trans compared))
  rfl

end Place

namespace Statement

/-- **A condition comes from inside a CASE exactly where an AND that joins predicates stands there.**  The
conditions of an accepted statement are those of the comparisons in its WHERE clauses that are on a
sharding column and whose operands are lone values.  Such a comparison stands between a CASE and its END
just when the AND in front of it does; and behind such an AND each comparison is met. -/
theorem conditions_follow_joints
    {dialect : Dialect}
    {rule : Rule}
    {keys : Keys}
    {sql : String}
    {kind : StatementKind}
    {parameterCount : Nat}
    {statement : Statement}
    (leads : (Parse.leading.outcome
      (ParseState.start dialect rule keys sql { kind := .select })).1 = .ok kind)
    (hasWhere : kind.hasWhere = true)
    (parsed : (Statement.parse dialect rule keys sql parameterCount).1 = .ok statement) :
    ∃ state inner, OpensWith dialect rule keys sql kind state ∧
      statement.conditions =
        (ClauseStart.conditions rule (inner ++ state.clauseAhead)).foldl Conditions.add {} ∧
      ∀ start ∈ inner ++ state.clauseAhead,
        start.IsFound (Cursor.ofText dialect sql).tokens ∧
        (∀ encounter ∈ start.encounters,
          ((encounter.condition? rule).isSome = true ↔
            encounter.IsOnShardingColumn rule ∧ encounter.comparison.IsWhole) ∧
          (start.place.HasInCase encounter.place ↔
            ∃ joint ∈ (start.place.clause 0).joints,
              start.place.HasInCase joint ∧ joint.advance.behindGroups = encounter.place)) ∧
        ∀ joint ∈ (start.place.clause 0).joints, ∀ comparison behind,
          joint.advance.behindGroups.compared? = some (some comparison, behind) →
            ⟨joint.advance.behindGroups, start.tables, comparison⟩ ∈ start.encounters := by
  obtain ⟨state, inner, opens, conditions, found⟩ := conditions_of_parse leads hasWhere parsed
  refine ⟨state, inner, opens, conditions, fun start member => ?_⟩
  obtain ⟨last, stops⟩ := (found start member).isRead
  refine ⟨found start member, fun encounter met => ?_, fun joint isJoint comparison behind compared => ?_⟩
  · exact ⟨encounter.condition?_isSome_iff rule, Place.hasInCase_iff_joined stops met⟩
  · exact Place.encounter_of_joint stops isJoint compared start.tables

section Samples

/-- A query whose only comparison with a user stands in a branch of a CASE. -/
def branchText : String :=
  "SELECT * FROM t_order WHERE CASE WHEN status = 1 AND user_id = 5 THEN 1 ELSE 0 END = 1"

theorem parse_branchText :
    ∃ statement,
      (Statement.parse .mysql userRule (Keys.ofRule userRule 0) branchText 0).1 = .ok statement ∧
      statement.conditions.toList =
        [⟨⟨"user_id", "t_order"⟩, .equal, [.number (.integer 5)]⟩] := by
  have read : (Statement.parse .mysql userRule (Keys.ofRule userRule 0)
      branchText 0).1.toOption.map (fun statement => statement.conditions.toList) =
        some [⟨⟨"user_id", "t_order"⟩, .equal, [.number (.integer 5)]⟩] := by
    decide +kernel
  obtain ⟨statement, isStatement, conditions⟩ := Option.map_eq_some_iff.mp read
  exact ⟨statement, Success.toOption_eq_some.mp isStatement, conditions⟩

/-- The query with a branch has the condition that follows the AND of the branch. -/
theorem conditions_follow_joints_branchText :
    (Parse.leading.outcome (ParseState.start .mysql userRule (Keys.ofRule userRule 0) branchText
        { kind := .select })).1 = .ok .select ∧
      StatementKind.hasWhere .select = true ∧
      ∃ statement,
        (Statement.parse .mysql userRule (Keys.ofRule userRule 0) branchText 0).1 = .ok statement ∧
        ∃ state inner,
          OpensWith .mysql userRule (Keys.ofRule userRule 0) branchText .select state ∧
          statement.conditions =
            (ClauseStart.conditions userRule (inner ++ state.clauseAhead)).foldl Conditions.add {} ∧
          ∀ start ∈ inner ++ state.clauseAhead, ∀ encounter ∈ start.encounters,
            ((encounter.condition? userRule).isSome = true ↔
              encounter.IsOnShardingColumn userRule ∧ encounter.comparison.IsWhole) ∧
            (start.place.HasInCase encounter.place ↔
              ∃ joint ∈ (start.place.clause 0).joints,
                start.place.HasInCase joint ∧ joint.advance.behindGroups = encounter.place) := by
  have leads : (Parse.leading.outcome (ParseState.start .mysql userRule (Keys.ofRule userRule 0)
      branchText { kind := .select })).1 = .ok .select :=
    Success.toOption_eq_some.mp (by decide +kernel)
  obtain ⟨statement, parsed, -⟩ := parse_branchText
  obtain ⟨state, inner, opens, conditions, follow⟩ := conditions_follow_joints leads rfl parsed
  exact ⟨leads, rfl, statement, parsed, state, inner, opens, conditions,
    fun start member => (follow start member).2.1⟩

/-- A condition is recorded although its comparison stands between a CASE and the END that closes it. -/
theorem parse_records_branch :
    ∃ statement,
      (Statement.parse .mysql userRule (Keys.ofRule userRule 0) branchText 0).1 = .ok statement ∧
      statement.conditions.toList =
        [⟨⟨"user_id", "t_order"⟩, .equal, [.number (.integer 5)]⟩] ∧
      ∃ passed rest,
        (Cursor.ofText .mysql branchText).tokens = passed ++ rest ∧
        rest.map Token.source = ["user_id", "=", "5", "THEN", "1", "ELSE", "0", "END", "=", "1"] ∧
        InCase passed rest := by
  obtain ⟨statement, parsed, conditions⟩ := parse_branchText
  let tokens := (Cursor.ofText .mysql branchText).tokens
  refine ⟨statement, parsed, conditions, tokens.take 11, tokens.drop 11,
    (List.take_append_drop 11 tokens).symm, by decide +kernel, ?_⟩
  -- The CASE is the sixth token, and the END that closes it the nineteenth.
  refine ⟨tokens.take 5, tokens.getD 5 (Token.finish 0), (tokens.drop 6).take 5,
    (tokens.drop 11).take 7, tokens.getD 18 (Token.finish 0), tokens.drop 19, ?_⟩
  decide +kernel

end Samples

end Statement

end ShardedSql
