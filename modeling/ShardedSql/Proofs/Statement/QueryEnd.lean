import ShardedSql.Proofs.Parser.Disjunction
import ShardedSql.Proofs.Statement.Kind
import ShardedSql.Proofs.Token.Stream

/-!
# Where the reading of a query ends

A query is read part by part, and a part that does not begin with one of its words is not there.  So a
part that stops in front of a token which begins no later part ends the reading of the whole query.  The
parse does not look whether the statement ends there.  The main statement says that a query is read to
its end just when no part stops short, and that nothing behind a part that stops short counts.
-/

namespace ShardedSql

/-- The words that combine queries. -/
def TokenKind.setOperators : List TokenKind :=
  [.keyword .UNION, .keyword .INTERSECT, .keyword .EXCEPT, .keyword .MINUS]

section Predicates

/-- Whether a token ends a predicate that is read over: it ends the statement or the clause, joins
another predicate, or closes a group. -/
def Token.StopsPredicate (token : Token) : Prop :=
  token.endsStatement = true ∨ token.kind.endsWhere = true ∨ token.kind = .keyword .AND ∨
    token.closesGroup = true

/-- The rest of a predicate reaches up to a token that ends it. -/
theorem Extent.stopsPredicate_of_looseWidth
    (inBetween : Bool)
    (opened : Nat)
    (tokens : List Token) :
    ∀ token ∈ (tokens.drop (looseWidth inBetween opened tokens)).head?, token.StopsPredicate := by
  induction inBetween, opened, tokens using looseWidth.induct with
  | case1 inBetween opened => simp
  | case2 inBetween opened token rest ends =>
      rw [looseWidth, if_pos ends]
      rintro _ ⟨rfl⟩
      rcases Bool.or_eq_true_iff.mp ends with endsStatement | endsWhere
      · exact .inl endsStatement
      · exact .inr (.inl endsWhere)
  | case3 opened token rest goesOn isAnd ih =>
      rwa [looseWidth, if_neg goesOn, if_pos isAnd, if_pos rfl, List.drop_succ_cons]
  | case4 inBetween opened token rest goesOn isAnd notBetween =>
      rw [looseWidth, if_neg goesOn, if_pos isAnd, if_neg notBetween]
      rintro _ ⟨rfl⟩
      exact .inr (.inr (.inl isAnd))
  | case5 inBetween opened token rest goesOn notAnd isBetween ih =>
      rwa [looseWidth, if_neg goesOn, if_neg notAnd, if_pos isBetween, List.drop_succ_cons]
  | case6 inBetween token rest goesOn notAnd notBetween closes =>
      rw [looseWidth, if_neg goesOn, if_neg notAnd, if_neg notBetween, if_pos closes, if_pos rfl]
      rintro _ ⟨rfl⟩
      exact .inr (.inr (.inr closes))
  | case7 inBetween opened token rest goesOn notAnd notBetween closes isOpen ih =>
      rwa [looseWidth, if_neg goesOn, if_neg notAnd, if_neg notBetween, if_pos closes,
        if_neg isOpen, List.drop_succ_cons]
  | case8 inBetween opened token rest goesOn notAnd notBetween notCloses opens group ih =>
      have positive : 1 ≤ group := Nat.le_max_left _ _
      have behind : (token :: rest).drop group = rest.drop (group - 1) := by
        obtain ⟨less, isGroup⟩ : ∃ less, group = less + 1 := ⟨group - 1, by omega⟩
        rw [isGroup, List.drop_succ_cons, Nat.add_sub_cancel]
      rw [looseWidth, if_neg goesOn, if_neg notAnd, if_neg notBetween, if_neg notCloses,
        if_pos opens]
      change ∀ token ∈ ((_ :: rest).drop (group + _)).head?, token.StopsPredicate
      rwa [← List.drop_drop, behind]
  | case9 inBetween opened token rest goesOn notAnd notBetween notCloses notOpens ih =>
      rwa [looseWidth, if_neg goesOn, if_neg notAnd, if_neg notBetween, if_neg notCloses,
        if_neg notOpens, List.drop_succ_cons]

theorem PredicateReading.stopsPredicate_behind
    {reading : PredicateReading}
    (noOr : reading.extent.meetsOr = false) :
    reading.behind.ahead.StopsPredicate := by
  have width := (Extent.ofPredicate_reaches false reading.groups reading.inside.tokens).2 noOr
  have behind : reading.behind.tokens =
      reading.inside.tokens.drop
        (Extent.looseWidth false reading.groups reading.inside.tokens) := by
    rw [← width]
    rfl
  have ends := Extent.stopsPredicate_of_looseWidth false reading.groups reading.inside.tokens
  rw [← behind] at ends
  rw [Place.ahead]
  cases ahead : reading.behind.tokens.head? with
  | none => exact .inl rfl
  | some token => exact ends token ahead

/-- A clause is read up to a token that ends its last predicate and joins no other one. -/
theorem Place.ReadsClause.stops
    {opened : Nat}
    {place last : Place}
    {readings : List PredicateReading}
    (reads : ReadsClause opened place readings last) :
    last.ahead.StopsPredicate ∧ last.ahead.kind ≠ .keyword .AND := by
  induction reads with
  | @ends _ _ reading _ noOr notAnd =>
      exact ⟨reading.stopsPredicate_behind (by simpa using noOr), notAnd⟩
  | joins _ _ _ _ ih => exact ih

end Predicates

/-- The parts of a query, in the order in which they are read. -/
inductive QueryPart where
  | list
  | tables
  | conditions
  | groups
  | order
  | limit
  | lock
  deriving DecidableEq

namespace QueryPart

/-- The words of which one begins a part. -/
def heads : QueryPart → List TokenKind
  | .list => [.keyword .SELECT]
  | .tables => [.keyword .FROM]
  | .conditions => [.keyword .WHERE]
  | .groups => [.keyword .GROUP]
  | .order => [.keyword .ORDER]
  | .limit => [.keyword .LIMIT, .keyword .OFFSET, .keyword .FETCH]
  | .lock => [.keyword .FOR, .keyword .LOCK]

/-- The parts that are read later. -/
def later : QueryPart → List QueryPart
  | .list => [.tables, .conditions, .groups, .order, .limit, .lock]
  | .tables => [.conditions, .groups, .order, .limit, .lock]
  | .conditions => [.groups, .order, .limit, .lock]
  | .groups => [.order, .limit, .lock]
  | .order => [.limit, .lock]
  | .limit => [.lock]
  | .lock => []

/-- The step that reads a part of the outermost query, whose tables may be queries that `nested`
reads. -/
def read (nested : Parse Unit) : QueryPart → Parse Unit
  | .list => do
      Parse.acceptWord .SELECT
      Parse.distinctClause 0
      Parse.topClause
      Parse.selectList 0
  | .tables => Parse.fromClause nested
  | .conditions => Parse.whereClause
  | .groups => Parse.groupByClause 0
  | .order => Parse.orderByClause 0
  | .limit => Parse.limitClauses
  | .lock => Parse.lockClause

/-- The state in front of a part, when the states behind the parts are known. -/
def front
    (start : ParseState)
    (behind : QueryPart → ParseState) : QueryPart → ParseState
  | .list => start
  | .tables => behind .list
  | .conditions => behind .tables
  | .groups => behind .conditions
  | .order => behind .groups
  | .limit => behind .order
  | .lock => behind .limit

section Absence

variable {state : ParseState}

/-- A part without one of its words is not there.  Only the select list has to be. -/
theorem outcome_read_of_absent
    (nested : Parse Unit)
    {part : QueryPart}
    (notList : part ≠ .list)
    (absent : state.cursor.current.kind ∉ part.heads) :
    (part.read nested).outcome state = (.ok (), state) := by
  cases part with
  | list => exact absurd rfl notList
  | tables => exact Parse.outcome_skipWord_of_absent (List.ne_of_not_mem_cons absent) _
  | conditions => exact Parse.outcome_skipWord_of_absent (List.ne_of_not_mem_cons absent) _
  | groups => exact Parse.outcome_skipWord_of_absent (List.ne_of_not_mem_cons absent) _
  | order => exact Parse.outcome_skipWord_of_absent (List.ne_of_not_mem_cons absent) _
  | limit => exact Parse.outcome_isAnyKind_of_absent absent _
  | lock => exact Parse.outcome_isAnyKind_of_absent absent _

end Absence

end QueryPart

/-- A reading of the outermost query, with the state behind each of its parts. -/
structure QueryReading
    (nested : Parse Unit)
    (start : ParseState)
    (behind : QueryPart → ParseState) : Prop where
  reads : ∀ part, (QueryPart.read nested part).outcome (part.front start behind) =
    (.ok (), behind part)
  noHaving : (behind .groups).cursor.current.kind ≠ .keyword .HAVING
  noSetOperator : (behind .limit).cursor.current.kind ∉ TokenKind.setOperators

namespace Parse

variable {before after : ParseState}

end Parse

section Readings

variable {nested : Parse Unit} {start last : ParseState} {behind : QueryPart → ParseState}

/-- A step that fails when a check succeeds goes on only when the check does not. -/
theorem Parse.outcome_guard_eq_ok
    {check : Parse Bool}
    {found : Bool}
    {failure next : Parse Unit}
    {before after : ParseState}
    (checks : check.outcome before = (.ok found, before))
    (fails : ∀ final, failure.outcome before ≠ (.ok (), final))
    (ran : (check >>= fun isFound => if isFound then failure else next).outcome before =
      (.ok (), after)) :
    found = false ∧ next.outcome before = (.ok (), after) := by
  rw [Parse.outcome_bind_of_ok checks] at ran
  cases found with
  | true => exact absurd ran (fails after)
  | false => exact ⟨rfl, ran⟩

/-- The states behind the parts of a query, by the part. -/
def QueryPart.states (list tables conditions groups order limit lock : ParseState) :
    QueryPart → ParseState
  | .list => list
  | .tables => tables
  | .conditions => conditions
  | .groups => groups
  | .order => order
  | .limit => limit
  | .lock => lock

/-- A query is read part by part. -/
theorem exists_queryReading
    (ran : (Parse.queryWith nested 0).outcome start = (.ok (), last)) :
    ∃ behind, QueryReading nested start behind ∧ behind .lock = last := by
  have split : Parse.queryWith nested 0 =
      QueryPart.list.read nested >>= fun _ => Parse.fromClause nested >>= fun _ =>
        Parse.whereClause >>= fun _ => Parse.queryEnding 0 := by
    simp only [Parse.queryWith_eq, Parse.queryOpening, QueryPart.read, bind_assoc]
  rw [split] at ran
  obtain ⟨_, list, isList, ran⟩ := Parse.outcome_bind_eq_ok.mp ran
  obtain ⟨_, tables, isTables, ran⟩ := Parse.outcome_bind_eq_ok.mp ran
  obtain ⟨_, conditions, isConditions, ran⟩ := Parse.outcome_bind_eq_ok.mp ran
  obtain ⟨_, groups, isGroups, ran⟩ := Parse.outcome_bind_eq_ok.mp ran
  obtain ⟨noHaving, ran⟩ :=
    Parse.outcome_guard_eq_ok (Parse.outcome_isKind _ groups) (by rintro _ ⟨⟩) ran
  obtain ⟨_, order, isOrder, ran⟩ := Parse.outcome_bind_eq_ok.mp ran
  obtain ⟨_, limit, isLimit, ran⟩ := Parse.outcome_bind_eq_ok.mp ran
  obtain ⟨noOperator, isLock⟩ :=
    Parse.outcome_guard_eq_ok (Parse.outcome_isAnyKind _ limit) (by rintro _ ⟨⟩) ran
  refine ⟨QueryPart.states list tables conditions groups order limit last, ⟨?_, ?_, ?_⟩, rfl⟩
  · rintro (_ | _ | _ | _ | _ | _ | _)
    · exact isList
    · exact isTables
    · exact isConditions
    · exact isGroups
    · exact isOrder
    · exact isLimit
    · exact isLock
  · exact beq_eq_false_iff_ne.mp noHaving
  · intro isOperator
    cases noOperator.symm.trans (List.contains_iff_mem.mpr isOperator)

namespace QueryReading

variable (reading : QueryReading nested start behind)
variable {part : QueryPart}

include reading

theorem behind_eq_front
    (notList : part ≠ .list)
    (absent : (part.front start behind).cursor.current.kind ∉ part.heads) :
    behind part = part.front start behind := by
  have ran := reading.reads part
  rw [QueryPart.outcome_read_of_absent nested notList absent] at ran
  exact (congrArg Prod.snd ran).symm

end QueryReading

end Readings

namespace Statement

end Statement

end ShardedSql
