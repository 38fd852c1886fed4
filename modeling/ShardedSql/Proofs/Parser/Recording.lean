import ShardedSql.Proofs.Parser.Conjunction

/-!
# What is recorded as a condition

A WHERE clause meets comparisons, and some of them state conditions.  The main statement follows the
conditions of a whole statement back to the WHERE clauses in its text, and says which of their
comparisons count: those whose operands are lone values.
-/

namespace ShardedSql

/-- A comparison that a WHERE clause meets, with the place where it begins and the tables of the
statement at that time. -/
structure Encounter where
  place : Place
  tables : Tables
  comparison : Comparison

/-- The condition that is recorded for the comparison. -/
def Encounter.condition?
    (rule : Rule)
    (encounter : Encounter) : Option Condition :=
  encounter.comparison.condition? rule encounter.tables

/-- Whether the comparison has operands on the right, each of them a lone value. -/
def Comparison.IsWhole (comparison : Comparison) : Prop :=
  comparison.starts ≠ [] ∧ ∀ start ∈ comparison.starts, start.IsLoneValue

/-- Whether the left operand of the comparison is a column that some strategy may choose by. -/
def Encounter.IsOnShardingColumn
    (rule : Rule)
    (encounter : Encounter) : Prop :=
  ∃ column, Parse.columnOf? encounter.tables encounter.comparison.left = some column ∧
    rule.isShardingColumn column = true

/-- **A comparison is recorded just when it is on a sharding column and its operands are lone
values.** -/
theorem Encounter.condition?_isSome_iff
    (rule : Rule)
    (encounter : Encounter) :
    (encounter.condition? rule).isSome = true ↔
      encounter.IsOnShardingColumn rule ∧ encounter.comparison.IsWhole := by
  have whole : (encounter.comparison.starts ≠ [] ∧
      (encounter.comparison.starts.all fun start => start.operand.1.isValue) = true) ↔
        encounter.comparison.IsWhole := by
    rw [List.all_eq_true]
    simp only [Place.operand_isValue_iff, Comparison.IsWhole]
  have column : ((Parse.columnOf? encounter.tables encounter.comparison.left).filter
      rule.isShardingColumn).isSome = true ↔ encounter.IsOnShardingColumn rule := by
    rw [Option.isSome_iff_exists]
    simp only [Option.filter_eq_some_iff, Encounter.IsOnShardingColumn]
  unfold condition? Comparison.condition?
  by_cases isWhole : encounter.comparison.IsWhole
  · rw [if_pos (whole.mpr isWhole), Option.isSome_map, column]
    exact (and_iff_left isWhole).symm
  · rw [if_neg fun both => isWhole (whole.mp both)]
    exact iff_of_false (by simp) fun both => isWhole both.2

namespace Place

/-- The tokens of a comparison, by its operator: the operand on the left, and the places where those on
the right begin. -/
inductive Compares (place : Place) : Comparison → Prop where
  | equal
      (isSign : place.operand.2.ahead.kind = .symbol .eq) :
      Compares place ⟨place.operand.1, .equal, [place.operand.2.advance]⟩
  | among
      {members : List Place}
      {behind : Place}
      (isWord : place.operand.2.ahead.kind = .keyword .IN)
      (opens : place.operand.2.advance.ahead.kind = .symbol .leftParen)
      (listed : place.operand.2.advance.advance.members? = some (members, behind)) :
      Compares place ⟨place.operand.1, .among, members⟩
  | between
      (isWord : place.operand.2.ahead.kind = .keyword .BETWEEN)
      (isAnd : place.operand.2.advance.operand.2.ahead.kind = .keyword .AND) :
      Compares place ⟨place.operand.1, .between,
        [place.operand.2.advance, place.operand.2.advance.operand.2.advance]⟩

theorem compares_of_comparison?
    {place behind : Place}
    {comparison : Comparison}
    (read : place.comparison? = some (some comparison, behind)) :
    place.Compares comparison := by
  unfold comparison? at read
  dsimp only at read
  split at read
  case h_1 isSign =>
    cases read
    exact .equal isSign
  case h_2 isWord =>
    unfold membership? at read
    split at read
    next listed =>
      obtain ⟨found, isFound, equal⟩ := Option.map_eq_some_iff.mp read
      cases equal
      exact .among isWord listed.1 isFound
    next => cases read
  case h_3 isWord =>
    unfold range? at read
    dsimp only at read
    split at read
    next isAnd =>
      cases read
      exact .between isWord isAnd
    next => cases read
  all_goals cases read

end Place

/-- The place where the comparison of a predicate begins, behind the parentheses in front of it. -/
def PredicateReading.first (reading : PredicateReading) : Place :=
  reading.start.passBy (reading.start.tokens.takeWhile Token.opensGroup).length

theorem PredicateReading.compares
    {opened : Nat}
    {place : Place}
    {reading : PredicateReading}
    (read : place.predicate? opened = some reading)
    {comparison : Comparison}
    (compared : reading.compared = some comparison) :
    place.Reaches reading.first ∧ reading.first.Compares comparison := by
  have start := Place.predicate?_start read
  obtain ⟨⟨found, behind⟩, isCompared, rfl⟩ := Option.map_eq_some_iff.mp read
  refine ⟨Place.passBy_reaches _ place, ?_⟩
  have isFound : found = some comparison := compared
  rw [isFound, Place.compared?] at isCompared
  split at isCompared
  next => exact Place.compares_of_comparison? isCompared
  next => cases isCompared

namespace Place

theorem exists_of_mem_clause
    {opened : Nat}
    {place : Place}
    {reading : PredicateReading}
    (member : reading ∈ (place.clause opened).predicates) :
    ∃ (left : Nat) (start : Place), place.Reaches start ∧
      start.predicate? left = some reading := by
  induction opened, place using clause.induct with
  | case1 opened place broken =>
      rw [clause_of_none broken] at member
      cases member
  | case2 opened place found read meetsOr =>
      rw [clause_of_some read, if_pos meetsOr] at member
      rw [List.mem_singleton.mp member]
      exact ⟨opened, place, .refl place, read⟩
  | case3 opened place found read noOr isAnd ih =>
      rw [clause_of_some read, if_neg noOr, if_pos isAnd] at member
      rcases List.mem_cons.mp member with rfl | isLater
      · exact ⟨opened, place, .refl place, read⟩
      · obtain ⟨left, start, reaches, readLater⟩ := ih isLater
        exact ⟨left, start, (reaches_joined read isAnd).trans reaches, readLater⟩
  | case4 opened place found read noOr stops =>
      rw [clause_of_some read, if_neg noOr, if_neg stops] at member
      rw [List.mem_singleton.mp member]
      exact ⟨opened, place, .refl place, read⟩

theorem ReadsClause.reaches
    {opened : Nat}
    {place last : Place}
    {readings : List PredicateReading}
    (reads : ReadsClause opened place readings last) :
    place.Reaches last := by
  induction reads with
  | ends read => exact (predicate?_reaches read).2
  | joins read _ isAnd _ ih => exact (reaches_joined read isAnd).trans ih

end Place

/-- The comparisons that the predicates of a clause make. -/
def ClauseReading.encounters
    (tables : Tables)
    (reading : ClauseReading) : List Encounter :=
  reading.predicates.filterMap fun predicate =>
    predicate.compared.map fun comparison => ⟨predicate.first, tables, comparison⟩

theorem ClauseReading.conditions_eq
    (rule : Rule)
    (tables : Tables)
    (reading : ClauseReading) :
    reading.conditions rule tables =
      (reading.encounters tables).filterMap (Encounter.condition? rule) := by
  unfold conditions encounters
  rw [List.filterMap_filterMap]
  congr 1
  funext predicate
  cases predicate.compared with
  | none => rfl
  | some comparison => rfl

/-- Whether a comparison is found among the given tokens. -/
def Encounter.IsFound
    (tokens : List Token)
    (encounter : Encounter) : Prop :=
  encounter.place.tokens <:+ tokens ∧ encounter.place.Compares encounter.comparison

theorem Place.isFound_of_mem_encounters
    {opened : Nat}
    {place : Place}
    {tables : Tables}
    {encounter : Encounter}
    (member : encounter ∈ (place.clause opened).encounters tables) :
    encounter.IsFound place.tokens := by
  obtain ⟨reading, isReading, isEncounter⟩ := List.mem_filterMap.mp member
  obtain ⟨comparison, compared, rfl⟩ := Option.map_eq_some_iff.mp isEncounter
  obtain ⟨left, start, reaches, read⟩ := Place.exists_of_mem_clause isReading
  obtain ⟨reachesFirst, compares⟩ := PredicateReading.compares read compared
  exact ⟨(reaches.trans reachesFirst).suffix, compares⟩

/-- A WHERE clause that a parse comes to: the place behind its keyword, and the tables of the statement
at that time. -/
structure ClauseStart where
  place : Place
  tables : Tables

namespace ClauseStart

/-- The comparisons that the clause meets. -/
def encounters (start : ClauseStart) : List Encounter :=
  (start.place.clause 0).encounters start.tables

/-- Whether the clause stands behind its keyword among the given tokens and is read to an end. -/
structure IsFound
    (tokens : List Token)
    (start : ClauseStart) : Prop where
  behindKeyword : ∃ keyword, keyword.kind = .keyword .WHERE ∧
    keyword :: start.place.tokens <:+ tokens
  isRead : ∃ last, (start.place.clause 0).ending = .stops last

theorem IsFound.behind
    {passed tokens : List Token}
    {start : ClauseStart}
    (found : start.IsFound passed)
    (suffix : passed <:+ tokens) :
    start.IsFound tokens := by
  obtain ⟨keyword, isWhere, behind⟩ := found.behindKeyword
  exact ⟨⟨keyword, isWhere, behind.trans suffix⟩, found.isRead⟩

/-- The conditions that the comparisons of some clauses state. -/
def conditions
    (rule : Rule)
    (starts : List ClauseStart) : List Condition :=
  (starts.flatMap encounters).filterMap (Encounter.condition? rule)

theorem conditions_append
    (rule : Rule)
    (first second : List ClauseStart) :
    conditions rule (first ++ second) = conditions rule first ++ conditions rule second := by
  rw [conditions, List.flatMap_append, List.filterMap_append, conditions, conditions]

end ClauseStart

/-- The WHERE clause ahead, if there is one. -/
def ParseState.clauseAhead (state : ParseState) : List ClauseStart :=
  if state.cursor.place.ahead.kind = .keyword .WHERE then
    [⟨state.cursor.place.advance, state.statement.tables⟩]
  else
    []

/-- Passing tokens and adding the conditions of WHERE clauses that stand among these tokens. -/
def Conduct.recording : Conduct where
  relates before after :=
    after.cursor.tokens <:+ before.cursor.tokens ∧ after.rule = before.rule ∧
      ∃ starts : List ClauseStart,
        (∀ start ∈ starts, start.IsFound before.cursor.tokens) ∧
        after.statement.conditions =
          (ClauseStart.conditions before.rule starts).foldl Conditions.add
            before.statement.conditions
  fails _ := True
  refl _ := ⟨List.suffix_refl _, rfl, [], nofun, rfl⟩
  trans := by
    rintro before between after ⟨passed, ruled, front, found, added⟩
      ⟨passedLater, ruledLater, others, foundLater, addedLater⟩
    refine ⟨passedLater.trans passed, ruledLater.trans ruled, front ++ others, ?_, ?_⟩
    · intro start member
      rcases List.mem_append.mp member with isFront | isOther
      · exact found start isFront
      · exact (foundLater start isOther).behind passed
    · rw [addedLater, added, ruled, ClauseStart.conditions_append, List.foldl_append]

namespace Parse

open Conduct (recording)

variable {α : Type} {nested : Parse Unit}

/-- A step that reads over tokens records nothing. -/
theorem Obeys.records
    {step : Parse α}
    (obeys : step.Obeys Conduct.readingOver) :
    step.Obeys recording :=
  obeys.weaken (fun _ _ passed => ⟨passed.1, passed.2.1, [], nofun, passed.2.2⟩) fun _ _ => trivial

/-- What a WHERE clause that is read changes in the view of a parse. -/
inductive PassesClause (before after : ParseView) : Prop where
  | clause
      {last : Place}
      (isWhere : before.place.ahead.kind = .keyword .WHERE)
      (stops : (before.place.advance.clause 0).ending = .stops last)
      (sees : after = (before.move last).record
        ((before.place.advance.clause 0).conditions before.rule before.tables))
  | absent
      (isOther : before.place.ahead.kind ≠ .keyword .WHERE)
      (sees : after = before)

theorem passesClause
    {before after : ParseState}
    (passed : whereClause.outcome before = (.ok (), after)) :
    PassesClause before.view after.view := by
  by_cases isWhere : before.cursor.place.ahead.kind = .keyword .WHERE
  · have follows := @whereClause_follows before.view isWhere
    unfold FollowsClause at follows
    split at follows
    next last stops =>
      obtain ⟨value, reads⟩ := follows
      obtain ⟨final, finished, sees⟩ := reads before rfl
      obtain rfl : final = after := congrArg Prod.snd (finished.symm.trans passed)
      exact .clause isWhere stops sees
    next =>
      obtain ⟨error, final, failed, -⟩ := follows before rfl
      cases failed.symm.trans passed
    next =>
      obtain ⟨error, final, failed, -⟩ := follows before rfl
      cases failed.symm.trans passed
  · obtain ⟨final, finished, sees⟩ := @whereClause_reads_of_other before.view isWhere before rfl
    obtain rfl : final = after := congrArg Prod.snd (finished.symm.trans passed)
    exact .absent isWhere sees

/-- A WHERE clause adds no table. -/
theorem whereClause_tables
    {before after : ParseState}
    (passed : whereClause.outcome before = (.ok (), after)) :
    after.statement.tables = before.statement.tables := by
  cases passesClause passed with
  | clause _ _ sees => exact congrArg ParseView.tables sees
  | absent _ sees => exact congrArg ParseView.tables sees

/-- A WHERE clause that is read adds the conditions of its comparisons. -/
theorem whereClause_adds
    {before after : ParseState}
    (passed : whereClause.outcome before = (.ok (), after)) :
    after.cursor.tokens <:+ before.cursor.tokens ∧ after.rule = before.rule ∧
      (∀ start ∈ before.clauseAhead, start.IsFound before.cursor.tokens) ∧
      after.statement.conditions =
        (ClauseStart.conditions before.rule before.clauseAhead).foldl Conditions.add
          before.statement.conditions := by
  unfold ParseState.clauseAhead
  cases passesClause passed with
  | @clause last isWhere stops sees =>
      have place : after.cursor.place = last := congrArg ParseView.place sees
      have sameRule : after.rule = before.rule := congrArg ParseView.rule sees
      have added : after.statement.conditions =
          ((before.view.place.advance.clause 0).conditions before.rule
            before.statement.tables).foldl Conditions.add before.statement.conditions :=
        congrArg ParseView.conditions sees
      have suffix := (Place.readsClause_of_stops stops).reaches.suffix.trans before.view.place.advance_suffix
      rw [← place] at suffix
      rw [if_pos (show before.cursor.place.ahead.kind = .keyword .WHERE from isWhere)]
      refine ⟨suffix, sameRule, ?_, ?_⟩
      · obtain ⟨keyword, tokens, isKeyword⟩ := Place.exists_cons_of_ahead isWhere
        rw [List.forall_mem_singleton]
        exact ⟨⟨keyword, isKeyword, ⟨[], tokens.symm⟩⟩, last, stops⟩
      · rw [added, ClauseReading.conditions_eq, ClauseStart.conditions, List.flatMap_singleton]
        rfl
  | absent isOther sees =>
      rw [if_neg (show before.cursor.place.ahead.kind ≠ .keyword .WHERE from isOther)]
      have tokens : after.cursor.tokens <:+ before.cursor.tokens :=
        ⟨[], congrArg (fun view => view.place.tokens) sees⟩
      have sameRule : after.rule = before.rule := congrArg ParseView.rule sees
      have conditions : after.statement.conditions = before.statement.conditions :=
        congrArg ParseView.conditions sees
      exact ⟨tokens, sameRule, nofun, conditions⟩

theorem whereClause_records : whereClause.Obeys recording := by
  intro before
  rcases ran : whereClause.outcome before with ⟨error | ⟨⟩, after⟩
  · trivial
  · obtain ⟨suffix, sameRule, found, added⟩ := whereClause_adds ran
    exact ⟨suffix, sameRule, before.clauseAhead, found, added⟩

theorem tableReference_records (records : nested.Obeys recording) :
    (tableReference nested).Obeys recording := by
  have aliased : ∀ name : String, Obeys (do
      addTable name (← alias?)) recording := fun name =>
    (alias?_readsOver.bind fun _ => addTable_readsOver name _).records
  unfold tableReference
  refine (skipKind_readsOver _).records.bind fun _ => .ite ?_ ?_
  · refine (isKind_readsOver _).records.bind fun _ => .ite ?_ ?_
    · refine records.bind fun _ => (accept_readsOver _).records.bind fun _ => ?_
      exact alias?_readsOver.records.bind fun _ => obeys_pure ()
    · refine tableName_readsOver.records.bind fun name => ?_
      refine alias?_readsOver.records.bind fun inner => (accept_readsOver _).records.bind fun _ => ?_
      cases inner with
      | some aliasName => exact (addTable_readsOver name (some aliasName)).records
      | none => exact aliased name
  · exact tableName_readsOver.records.bind aliased

theorem fromClause_records (records : nested.Obeys recording) :
    (fromClause nested).Obeys recording := by
  have tables := tableReference_records records
  unfold fromClause
  refine (skipKind_readsOver _).records.bind fun _ => .ite ?_ (obeys_pure ())
  refine tables.bind fun _ => obeys_repeatStep ?_
  refine skipJoin_readsOver.records.bind fun joined => .ite ?_ (obeys_pure joined)
  exact tables.bind fun _ => joinCondition_readsOver.records.bind fun _ => obeys_pure joined

theorem queryOpening_records
    (records : nested.Obeys recording)
    (depth : Nat) :
    (queryOpening nested depth).Obeys recording := by
  unfold queryOpening
  refine (accept_readsOver _).records.bind fun _ => ?_
  refine (distinctClause_readsOver depth).records.bind fun _ => ?_
  refine topClause_readsOver.records.bind fun _ => ?_
  exact (selectList_readsOver depth).records.bind fun _ => fromClause_records records

/-- A query records the conditions of the queries in place of its tables, and its own. -/
theorem query_records
    (fuel depth : Nat) :
    (query fuel depth).Obeys recording := by
  induction fuel generalizing depth with
  | zero => exact (failUnexpected_readsOver _).records
  | succ fuel ih =>
      rw [query, queryWith_eq]
      refine (queryOpening_records (ih (depth + 1)) depth).bind fun _ => ?_
      exact whereClause_records.bind fun _ => (queryEnding_readsOver depth).records

theorem updateOpening_readsOver : updateOpening.Obeys Conduct.readingOver := by
  unfold updateOpening
  refine acceptThen_readsOver _ ((skipAnyKind_readsOver _).bind fun _ => ?_)
  refine skipTop_readsOver.bind fun _ => singleTable_readsOver.bind fun _ => ?_
  refine acceptThen_readsOver _ ((obeys_repeatStep assignment_readsOver).bind fun _ => ?_)
  refine (isKind_readsOver _).bind fun _ => .ite (throw_readsOver ?_) (obeys_pure ())
  simp [Error.RefusesToken]

theorem deleteOpening_readsOver : deleteOpening.Obeys Conduct.readingOver := by
  unfold deleteOpening
  refine acceptThen_readsOver _ ((skipAnyKind_readsOver _).bind fun _ => ?_)
  refine skipTop_readsOver.bind fun _ => (skipKind_readsOver _).bind fun _ => ?_
  refine (skipKind_readsOver _).bind fun _ => singleTable_readsOver.bind fun _ => ?_
  refine (isAnyKind_readsOver _).bind fun _ => .ite (throw_readsOver ?_) (obeys_pure ())
  simp [Error.RefusesToken]

theorem opening_records (kind : StatementKind) :
    (opening kind).Obeys recording := by
  cases kind with
  | select => exact obeys_get_bind fun _ => queryOpening_records (query_records _ 1) 0
  | update => exact updateOpening_readsOver.records
  | delete => exact deleteOpening_readsOver.records
  | _ => exact obeys_pure ()

theorem leading_eq :
    leading = (repeatStep (skipSign .semi) >>= fun _ => withClause) >>= fun _ => startKind := by
  rw [bind_assoc]
  rfl

/-- A statement begins with nothing but its kind. -/
theorem leading_begins
    {before after : ParseState}
    {kind : StatementKind}
    (led : leading.outcome before = (.ok kind, after)) :
    after.statement = { kind := kind } := by
  rw [leading_eq, outcome_bind_eq_ok] at led
  obtain ⟨_, between, -, found⟩ := led
  rw [startKind, outcome_bind_of_ok (outcome_current between)] at found
  split at found
  next => cases found
  next =>
    cases found
    rfl

/-- What leads a statement is passed, and the statement begins without conditions. -/
theorem leading_clears
    {before after : ParseState}
    {kind : StatementKind}
    (led : leading.outcome before = (.ok kind, after)) :
    after.cursor.tokens <:+ before.cursor.tokens ∧ after.rule = before.rule ∧
      after.statement.conditions = {} := by
  have front : Obeys (do
      repeatStep (skipSign .semi)
      withClause) Conduct.readingOver :=
    (obeys_repeatStep (skipKind_readsOver _)).bind fun _ => withClause_readsOver
  have begins := leading_begins led
  rw [leading_eq, outcome_bind_eq_ok] at led
  obtain ⟨_, between, passed, found⟩ := led
  obtain ⟨suffix, sameRule, -⟩ := front.relates passed
  rw [startKind, outcome_bind_of_ok (outcome_current between)] at found
  split at found
  next => cases found
  next =>
    cases found
    exact ⟨suffix, sameRule, by rw [begins]⟩

end Parse

namespace Statement

theorem outcome_of_parse
    {dialect : Dialect}
    {rule : Rule}
    {keys : Keys}
    {sql : String}
    {parameterCount : Nat}
    {statement : Statement}
    (parsed : (Statement.parse dialect rule keys sql parameterCount).1 = .ok statement) :
    ∃ final, (Parse.wholeStatement parameterCount).outcome
        (ParseState.start dialect rule keys sql { kind := .select }) = (.ok statement, final) := by
  refine ⟨_, Prod.ext_iff.mpr ⟨?_, rfl⟩⟩
  exact parsed

/-- An accepted statement is read in three phases. -/
theorem exists_phases
    {dialect : Dialect}
    {rule : Rule}
    {keys : Keys}
    {sql : String}
    {kind : StatementKind}
    {parameterCount : Nat}
    {statement : Statement}
    (leads : (Parse.leading.outcome
      (ParseState.start dialect rule keys sql { kind := .select })).1 = .ok kind)
    (hasWhere : kind.hasWhere = true)
    (parsed : (Statement.parse dialect rule keys sql parameterCount).1 = .ok statement) :
    ∃ state between last, OpensWith dialect rule keys sql kind state ∧
      Parse.whereClause.outcome state = (.ok (), between) ∧
      (Parse.ending kind).outcome between = (.ok (), last) ∧
      last.statement = statement := by
  obtain ⟨final, ran⟩ := outcome_of_parse parsed
  rw [Parse.wholeStatement_eq, Parse.outcome_bind_eq_ok] at ran
  obtain ⟨found, front, led, behind⟩ := ran
  obtain rfl : found = kind := by
    rw [led] at leads
    exact Except.ok.inj leads
  obtain ⟨_, last, read, finished⟩ := Parse.outcome_bind_eq_ok.mp behind
  rw [Parse.statementOf_eq hasWhere] at read
  obtain ⟨_, state, opened, others⟩ := Parse.outcome_bind_eq_ok.mp read
  obtain ⟨_, between, clausePassed, ended⟩ := Parse.outcome_bind_eq_ok.mp others
  exact ⟨state, between, last, ⟨front, led, opened⟩, clausePassed, ended,
    Except.ok.inj (congrArg Prod.fst finished)⟩

/-- The conditions of an accepted statement are those of the WHERE clauses in its text. -/
theorem conditions_of_parse
    {dialect : Dialect}
    {rule : Rule}
    {keys : Keys}
    {sql : String}
    {kind : StatementKind}
    {parameterCount : Nat}
    {statement : Statement}
    (leads : (Parse.leading.outcome
      (ParseState.start dialect rule keys sql { kind := .select })).1 = .ok kind)
    (hasWhere : kind.hasWhere = true)
    (parsed : (Statement.parse dialect rule keys sql parameterCount).1 = .ok statement) :
    ∃ state inner, OpensWith dialect rule keys sql kind state ∧
      statement.conditions =
        (ClauseStart.conditions rule (inner ++ state.clauseAhead)).foldl Conditions.add {} ∧
      ∀ start ∈ inner ++ state.clauseAhead, start.IsFound (Cursor.ofText dialect sql).tokens := by
  obtain ⟨state, between, last, ⟨front, led, opened⟩, clausePassed, ended, isLast⟩ :=
    exists_phases leads hasWhere parsed
  obtain ⟨frontSuffix, frontRule, noConditions⟩ := Parse.leading_clears led
  obtain ⟨suffix, sameRule, inner, innerFound, innerAdded⟩ :=
    (Parse.opening_records kind).relates opened
  obtain ⟨-, -, outerFound, outerAdded⟩ := Parse.whereClause_adds clausePassed
  obtain ⟨-, -, kept⟩ := (Parse.ending_readsOver kind).relates ended
  have startRule : front.rule = rule := frontRule
  refine ⟨state, inner, ⟨front, led, opened⟩, ?_, fun start member => ?_⟩
  · rw [← isLast, kept, outerAdded, innerAdded, noConditions, sameRule, startRule,
      ClauseStart.conditions_append, List.foldl_append]
  · rcases List.mem_append.mp member with isInner | isOuter
    · exact (innerFound start isInner).behind frontSuffix
    · exact (outerFound start isOuter).behind (suffix.trans frontSuffix)

/-- **The conditions of a statement are those of the comparisons in its WHERE clauses that are on a
sharding column and whose operands are lone values.**  An operand is a lone value when it is one
literal or placeholder and the token behind it is neither an opening parenthesis nor one of a list of
operators.  Any other token may follow it.  The clauses are those of the queries in place of tables,
and the one behind the opening of the statement. -/
theorem exists_clauses
    {dialect : Dialect}
    {rule : Rule}
    {keys : Keys}
    {sql : String}
    {kind : StatementKind}
    {parameterCount : Nat}
    {statement : Statement}
    (leads : (Parse.leading.outcome
      (ParseState.start dialect rule keys sql { kind := .select })).1 = .ok kind)
    (hasWhere : kind.hasWhere = true)
    (parsed : (Statement.parse dialect rule keys sql parameterCount).1 = .ok statement) :
    ∃ state inner, OpensWith dialect rule keys sql kind state ∧
      statement.conditions =
        (ClauseStart.conditions rule (inner ++ state.clauseAhead)).foldl Conditions.add {} ∧
      ∀ start ∈ inner ++ state.clauseAhead,
        start.IsFound (Cursor.ofText dialect sql).tokens ∧
          ∀ encounter ∈ start.encounters,
            encounter.IsFound start.place.tokens ∧
              ((encounter.condition? rule).isSome = true ↔
                encounter.IsOnShardingColumn rule ∧ encounter.comparison.IsWhole) := by
  obtain ⟨final, ran⟩ := outcome_of_parse parsed
  rw [Parse.wholeStatement_eq, Parse.outcome_bind_eq_ok] at ran
  obtain ⟨found, front, led, behind⟩ := ran
  obtain rfl : found = kind := by
    rw [led] at leads
    exact Except.ok.inj leads
  rw [Parse.outcome_bind_eq_ok] at behind
  obtain ⟨_, last, read, finished⟩ := behind
  rw [Parse.statementOf_eq hasWhere, Parse.outcome_bind_eq_ok] at read
  obtain ⟨_, state, opened, others⟩ := read
  rw [Parse.outcome_bind_eq_ok] at others
  obtain ⟨_, between, clausePassed, ended⟩ := others
  obtain ⟨frontSuffix, frontRule, noConditions⟩ := Parse.leading_clears led
  obtain ⟨suffix, sameRule, inner, innerFound, innerAdded⟩ :=
    (Parse.opening_records found).relates opened
  obtain ⟨-, -, outerFound, outerAdded⟩ := Parse.whereClause_adds clausePassed
  obtain ⟨-, -, kept⟩ := (Parse.ending_readsOver found).relates ended
  have isLast : last.statement = statement := Except.ok.inj (congrArg Prod.fst finished)
  have startRule : front.rule = rule := frontRule
  refine ⟨state, inner, ⟨front, led, opened⟩, ?_, fun start member => ⟨?_, fun encounter met => ?_⟩⟩
  · rw [← isLast, kept, outerAdded, innerAdded, noConditions, sameRule, startRule,
      ClauseStart.conditions_append, List.foldl_append]
  · rcases List.mem_append.mp member with isInner | isOuter
    · exact (innerFound start isInner).behind frontSuffix
    · exact (outerFound start isOuter).behind (suffix.trans frontSuffix)
  · exact ⟨Place.isFound_of_mem_encounters met, encounter.condition?_isSome_iff rule⟩

section Samples

/-- The number 5 as it is written. -/
def fiveLiteral : IntegerLiteral :=
  ⟨false, ['5'], by decide, by simp [AllDigits], by decide⟩

/-- The number -1 as it is written. -/
def minusOneLiteral : IntegerLiteral :=
  ⟨true, ['1'], by decide, by simp [AllDigits], by decide⟩

/-- The words of an equality with a number and the one that is subtracted from it. -/
def subtractionWords : List Word :=
  Conjunction.words (.single userColumn (.equal (.integer fiveLiteral))) ++
    [.ofInteger minusOneLiteral]

theorem isSpelled_subtractionWords :
    ∀ word ∈ subtractionWords, word.IsSpelled .mysql := by
  rw [subtractionWords, List.forall_mem_append, List.forall_mem_singleton]
  exact ⟨Conjunction.isSpelled_words _, Word.isSpelled_ofInteger minusOneLiteral⟩

theorem text_subtractionWords :
    Word.text (TableAccess.query.withClause orderTable.text subtractionWords) =
      "SELECT * FROM t_order WHERE user_id = 5 -1" := by
  decide

/-- The number behind the operand is read over, and the condition is kept. -/
theorem clause_subtractionWords
    {place : Place}
    (faces : place.Faces subtractionWords) :
    ∃ last, (place.clause 0).ending = .stops last ∧ last.Faces [] ∧
      (place.clause 0).conditions userRule ⟨[⟨"t_order", none⟩]⟩ =
        [⟨⟨"user_id", "t_order"⟩, .equal, [.number (.integer 5)]⟩] := by
  obtain ⟨reading, read, groups, facesRest, -, restricts⟩ :=
    @Place.exists_predicate? place _ userColumn.text (.equal (.integer fiveLiteral)) 0 0 0
      userColumn.isPlain.unquoteName_eq faces (Nat.le_refl 0) nofun rfl
  have facesNumber : reading.inside.Faces [(PlainOperand.integer minusOneLiteral).word] := facesRest
  have extent : reading.extent = ⟨1, 0, false⟩ := by
    rw [PredicateReading.extent, groups, Place.ofPredicate_of_operand facesNumber,
      Place.ofPredicate_of_ends (.inl facesNumber.passBy.ahead_kind)]
  have facesNothing : reading.behind.Faces [] := by
    rw [PredicateReading.behind, extent]
    exact facesNumber.passBy
  have clause : place.clause 0 = ⟨[reading], .stops reading.behind⟩ := by
    have notAnd : reading.behind.ahead.kind ≠ .keyword .AND := by
      simp [facesNothing.ahead_kind, Word.kindAhead]
    rw [Place.clause_of_some read, extent, if_neg Bool.false_ne_true, if_neg notAnd]
  refine ⟨reading.behind, by rw [clause], facesNothing, ?_⟩
  rw [clause, ClauseReading.conditions, List.filterMap_cons, restricts userRule "t_order"]
  have isSharding : userRule.isShardingColumn ⟨"user_id", "t_order"⟩ = true := by decide
  have five : Int64.ofInt fiveLiteral.value = 5 := by decide
  simp [Restriction.condition, Restriction.operator, Restriction.operands,
    PlainOperand.expressions, PlainOperand.expression, five, userColumn, Option.filter, isSharding]

theorem parse_subtraction :
    ∃ statement,
      (Statement.parse .mysql userRule (Keys.ofRule userRule 0)
        "SELECT * FROM t_order WHERE user_id = 5 -1" 0).1 = .ok statement ∧
      statement.conditions.toList =
        [⟨⟨"user_id", "t_order"⟩, .equal, [.number (.integer 5)]⟩] := by
  rw [← text_subtractionWords]
  obtain ⟨state, place, opens, sees, faces, -⟩ :=
    opensWith_withClause userRule (Keys.ofRule userRule 0) orderTable.isPlain
      isSpelled_subtractionWords .query
  obtain ⟨last, stops, facesNothing, conditions⟩ := clause_subtractionWords faces.advance
  obtain ⟨statement, parsed, recorded⟩ := parse_of_stops opens rfl
    (by rw [sees]; exact faces.kind) (by rw [sees]; exact stops)
    (by rw [facesNothing.ahead_kind]; nofun) 0
  rw [sees] at recorded
  change statement.conditions =
    ((place.advance.clause 0).conditions userRule ⟨[⟨"t_order", none⟩]⟩).foldl _ {} at recorded
  rw [conditions] at recorded
  exact ⟨statement, parsed, by rw [recorded]; rfl⟩

theorem leads_subtraction :
    (Parse.leading.outcome (ParseState.start .mysql userRule (Keys.ofRule userRule 0)
      "SELECT * FROM t_order WHERE user_id = 5 -1" { kind := .select })).1 = .ok .select := by
  rw [← text_subtractionWords]
  obtain ⟨state, place, ⟨front, led, -⟩, -⟩ :=
    opensWith_withClause userRule (Keys.ofRule userRule 0) orderTable.isPlain
      isSpelled_subtractionWords .query
  rw [led]
  rfl

/-- The only condition of this query is that of its comparison, whose operand is a lone value. -/
theorem exists_clauses_of_subtraction :
    ∃ statement,
      (Statement.parse .mysql userRule (Keys.ofRule userRule 0)
        "SELECT * FROM t_order WHERE user_id = 5 -1" 0).1 = .ok statement ∧
      ∃ state inner,
        OpensWith .mysql userRule (Keys.ofRule userRule 0)
          "SELECT * FROM t_order WHERE user_id = 5 -1" .select state ∧
        statement.conditions =
          (ClauseStart.conditions userRule (inner ++ state.clauseAhead)).foldl Conditions.add {} ∧
        ∀ start ∈ inner ++ state.clauseAhead,
          start.IsFound
              (Cursor.ofText .mysql "SELECT * FROM t_order WHERE user_id = 5 -1").tokens ∧
            ∀ encounter ∈ start.encounters,
              encounter.IsFound start.place.tokens ∧
                ((encounter.condition? userRule).isSome = true ↔
                  encounter.IsOnShardingColumn userRule ∧ encounter.comparison.IsWhole) := by
  obtain ⟨statement, parsed, -⟩ := parse_subtraction
  exact ⟨statement, parsed, exists_clauses leads_subtraction rfl parsed⟩

/-- A condition is recorded although a number with a sign follows its value. -/
theorem parse_records_minuend :
    ∃ statement,
      (Statement.parse .mysql userRule (Keys.ofRule userRule 0)
        "SELECT * FROM t_order WHERE user_id = 5 -1" 0).1 = .ok statement ∧
      statement.conditions.toList =
        [⟨⟨"user_id", "t_order"⟩, .equal, [.number (.integer 5)]⟩] ∧
      ∃ front five minusOne,
        (Cursor.ofText .mysql "SELECT * FROM t_order WHERE user_id = 5 -1").tokens =
          front ++ [five, minusOne] ∧
        five.word = ⟨.literal .int, "5", "5"⟩ ∧ minusOne.word = ⟨.literal .int, "-1", "-1"⟩ := by
  obtain ⟨statement, parsed, conditions⟩ := parse_subtraction
  refine ⟨statement, parsed, conditions, ?_⟩
  obtain ⟨place, faces, -, isPlace⟩ := start_faces userRule (Keys.ofRule userRule 0)
    (isSpelled_withClause orderTable.isPlain isSpelled_subtractionWords .query) { kind := .select }
  rw [text_subtractionWords] at isPlace
  have tokens : (Cursor.ofText .mysql "SELECT * FROM t_order WHERE user_id = 5 -1").tokens =
      place.tokens := congrArg Place.tokens isPlace
  have words : TableAccess.query.withClause orderTable.text subtractionWords =
      [.ofKeyword .SELECT, .ofSymbol .star, .ofKeyword .FROM, .ofName orderTable.text,
        .ofKeyword .WHERE, .ofName userColumn.text, .ofSymbol .eq] ++
          [.ofInteger fiveLiteral, .ofInteger minusOneLiteral] := rfl
  rw [words] at faces
  obtain ⟨front, behind, split, -, areNumbers⟩ := List.map_eq_append_iff.mp faces
  obtain ⟨five, rest, rfl, isFive, isRest⟩ := List.map_eq_cons_iff.mp areNumbers
  obtain ⟨minusOne, none, rfl, isMinusOne, isNone⟩ := List.map_eq_cons_iff.mp isRest
  rw [List.map_eq_nil_iff.mp isNone] at split
  refine ⟨front, five, minusOne, tokens.trans split, ?_, ?_⟩
  · rw [isFive]
    decide
  · rw [isMinusOne]
    decide

end Samples

end Statement

end ShardedSql
