import Mathlib.Data.List.Chain
import ShardedSql.Parser.Where

/-!
# Reading a WHERE clause from its tokens

What a WHERE clause says depends on its tokens, the tables of the statement and the rule alone.  This
file reads the clause without the state of a parse: from a place among the tokens to what is found
there and the place behind it.
-/

namespace ShardedSql

/-- A place in front of tokens, and the number of placeholders behind it. -/
structure Place where
  tokens : List Token
  placeholders : Nat

namespace Place

/-- The token ahead, or the end of the text. -/
def ahead (place : Place) : Token :=
  place.tokens.head?.getD (Token.finish 0)

/-- The place behind the token ahead, which does not count as a placeholder. -/
def advance (place : Place) : Place :=
  { place with tokens := place.tokens.tail }

/-- The place behind a number of tokens. -/
def passBy
    (count : Nat)
    (place : Place) : Place :=
  { tokens := place.tokens.drop count
    placeholders := place.placeholders + (place.tokens.take count).countP Token.isPlaceholder }

/-- A literal, a name or a column with its owner, without regard to what follows. -/
def simpleOperand (place : Place) : Expression × Place :=
  let behind := place.passBy 1
  if place.ahead.kind.isIdentifier && behind.ahead.kind == .symbol .dot then
    (.property (unquoteName place.ahead.source) (unquoteName behind.advance.ahead.source),
      behind.advance.advance)
  else
    (Parse.expressionOf place.ahead place.placeholders, behind)

/-- The expression ahead and the place behind it. -/
def operand (place : Place) : Expression × Place :=
  let (simple, behind) := place.simpleOperand
  let width := Extent.compositeWidth behind.tokens
  (if width ≠ 0 then .ignored else simple, behind.passBy width)

theorem passBy_suffix
    (count : Nat)
    (place : Place) :
    (place.passBy count).tokens <:+ place.tokens :=
  List.drop_suffix count place.tokens

theorem passBy_passBy
    (first second : Nat)
    (place : Place) :
    (place.passBy first).passBy second = place.passBy (first + second) := by
  simp only [passBy, List.drop_drop, List.take_add, List.countP_append, Nat.add_assoc]

@[simp]
theorem passBy_zero (place : Place) :
    place.passBy 0 = place := by
  simp [passBy]

theorem advance_suffix (place : Place) :
    place.advance.tokens <:+ place.tokens :=
  List.tail_suffix place.tokens

theorem simpleOperand_of_owner
    {place : Place}
    (isIdentifier : place.ahead.kind.isIdentifier = true)
    (dot : (place.passBy 1).ahead.kind = .symbol .dot) :
    place.simpleOperand =
      (.property (unquoteName place.ahead.source)
          (unquoteName (place.passBy 1).advance.ahead.source),
        (place.passBy 1).advance.advance) := by
  simp [simpleOperand, isIdentifier, dot]

theorem simpleOperand_of_noOwner
    {place : Place}
    (noOwner : ¬ (place.ahead.kind.isIdentifier = true ∧
      (place.passBy 1).ahead.kind = .symbol .dot)) :
    place.simpleOperand =
      (Parse.expressionOf place.ahead place.placeholders, place.passBy 1) := by
  unfold simpleOperand
  dsimp only
  rw [if_neg (by simpa using noOwner)]

theorem simpleOperand_suffix (place : Place) :
    place.simpleOperand.2.tokens <:+ place.tokens.tail := by
  have behindFirst : (place.passBy 1).tokens = place.tokens.tail := List.drop_one
  have first : (place.passBy 1).tokens <:+ place.tokens.tail := ⟨[], behindFirst⟩
  unfold simpleOperand
  dsimp only
  split
  · exact ((advance_suffix _).trans (advance_suffix _)).trans first
  · exact first

theorem operand_suffix (place : Place) :
    place.operand.2.tokens <:+ place.tokens.tail :=
  (passBy_suffix _ _).trans place.simpleOperand_suffix

theorem length_operand_lt
    {place : Place}
    (isThere : place.tokens ≠ []) :
    place.operand.2.tokens.length < place.tokens.length := by
  have shorter := place.operand_suffix.length_le
  have positive := List.length_pos_iff.mpr isThere
  rw [List.length_tail] at shorter
  omega

end Place

/-- Whether no placeholder among some tokens stands behind a point, where a parse passes a token without a
look at it. -/
abbrev ArePointed (tokens : List Token) : Prop :=
  tokens.IsChain fun point name => point.kind = .symbol .dot → name.isPlaceholder = false

/-- Whether every placeholder among some tokens is counted by a parse.  Only two steps pass tokens
without a look at them: the one behind a point, and a clause that locks rows. -/
structure AreCountable (tokens : List Token) : Prop where
  pointed : ArePointed tokens
  unlocked : ∀ token ∈ tokens, token.kind ≠ .keyword .FOR ∧ token.kind ≠ .keyword .LOCK

theorem AreCountable.behind
    {tokens rest : List Token}
    (countable : AreCountable tokens)
    (suffix : rest <:+ tokens) :
    AreCountable rest :=
  ⟨countable.pointed.suffix suffix,
    fun token member => countable.unlocked token (suffix.subset member)⟩

namespace Place

/-- The number of all placeholders of a text, seen from a place in it: those passed and those
ahead. -/
def total (place : Place) : Nat :=
  place.placeholders + place.tokens.countP Token.isPlaceholder

/-- Whether tokens are passed from one place to another, each placeholder of which is counted unless it
stands behind a point. -/
structure Counts (start last : Place) : Prop where
  suffix : last.tokens <:+ start.tokens
  total : ArePointed start.tokens → last.total = start.total

/-- Whether a parse may come from one place to another: by passing tokens, each placeholder of which
is counted. -/
structure Reaches (start last : Place) : Prop where
  suffix : last.tokens <:+ start.tokens
  total : AreCountable start.tokens → last.total = start.total

@[refl]
theorem Reaches.refl (place : Place) : place.Reaches place :=
  ⟨List.suffix_refl _, fun _ => rfl⟩

theorem Reaches.trans
    {start between last : Place}
    (first : start.Reaches between)
    (second : between.Reaches last) :
    start.Reaches last := by
  constructor
  · exact second.suffix.trans first.suffix
  · intro countable
    rw [second.total (countable.behind first.suffix), first.total countable]

theorem Counts.reaches
    {start last : Place}
    (counts : start.Counts last) :
    start.Reaches last :=
  ⟨counts.suffix, fun countable => counts.total countable.pointed⟩

theorem Counts.refl (place : Place) : place.Counts place :=
  ⟨List.suffix_refl _, fun _ => rfl⟩

theorem Counts.trans
    {start between last : Place}
    (first : start.Counts between)
    (second : between.Counts last) :
    start.Counts last := by
  constructor
  · exact second.suffix.trans first.suffix
  · intro pointed
    rw [second.total (pointed.suffix first.suffix), first.total pointed]

theorem passBy_counts
    (count : Nat)
    (place : Place) :
    place.Counts (place.passBy count) := by
  apply Counts.mk (place.passBy_suffix count)
  intro _
  have split : (place.tokens.take count).countP Token.isPlaceholder +
      (place.tokens.drop count).countP Token.isPlaceholder =
        place.tokens.countP Token.isPlaceholder := by
    rw [← List.countP_append, List.take_append_drop]
  simp only [total, passBy]
  omega

theorem ahead_cons
    (token : Token)
    (rest : List Token)
    (placeholders : Nat) :
    (Place.mk (token :: rest) placeholders).ahead = token :=
  rfl

/-- The place behind a token that is no placeholder. -/
theorem advance_counts
    {place : Place}
    {kind : TokenKind}
    (isKind : place.ahead.kind = kind)
    (other : kind ≠ .symbol .question) :
    place.Counts place.advance := by
  have noPlaceholder : place.ahead.isPlaceholder = false := by
    simpa [Token.isPlaceholder, isKind] using other
  apply Counts.mk place.advance_suffix
  intro _
  obtain ⟨tokens, placeholders⟩ := place
  cases tokens with
  | nil => rfl
  | cons token rest =>
      rw [ahead_cons] at noPlaceholder
      simp [total, advance, noPlaceholder]

/-- The place behind a point and the name that follows it. -/
theorem advance_advance_counts
    {place : Place}
    (isPoint : place.ahead.kind = .symbol .dot) :
    place.Counts place.advance.advance := by
  apply Counts.mk (place.advance.advance_suffix.trans place.advance_suffix)
  intro pointed
  rw [← (advance_counts isPoint nofun).total pointed]
  obtain ⟨tokens, placeholders⟩ := place
  match tokens with
  | [] => rfl
  | [point] => rfl
  | point :: name :: rest =>
      have noPlaceholder : name.isPlaceholder = false :=
        (List.isChain_cons_cons.mp pointed).1 isPoint
      simp [total, advance, noPlaceholder]

theorem operand_counts (place : Place) :
    place.Counts place.operand.2 := by
  have simple : place.Counts place.simpleOperand.2 := by
    have first := place.passBy_counts 1
    unfold simpleOperand
    dsimp only
    split
    next isOwned =>
      apply first.trans
      exact advance_advance_counts (by simpa using (Bool.and_eq_true_iff.mp isOwned).2)
    next => exact first
  exact simple.trans (passBy_counts _ _)

theorem passBy_reaches
    (count : Nat)
    (place : Place) :
    place.Reaches (place.passBy count) :=
  (place.passBy_counts count).reaches

theorem advance_reaches
    {place : Place}
    {kind : TokenKind}
    (isKind : place.ahead.kind = kind)
    (other : kind ≠ .symbol .question) :
    place.Reaches place.advance :=
  (advance_counts isKind other).reaches

theorem operand_reaches (place : Place) :
    place.Reaches place.operand.2 :=
  place.operand_counts.reaches

/-- The place behind a token that is no placeholder and an operand. -/
theorem advance_operand_reaches
    {place : Place}
    {kind : TokenKind}
    (isKind : place.ahead.kind = kind)
    (other : kind ≠ .symbol .question) :
    place.Reaches place.advance.operand.2 :=
  (advance_reaches isKind other).trans place.advance.operand_reaches

end Place

/-- An operand on the left of an operator, and the places where those on its right begin. -/
structure Comparison where
  left : Expression
  operator : ConditionOperator
  starts : List Place

/-- The operands on the right. -/
def Comparison.operands (comparison : Comparison) : List Expression :=
  comparison.starts.map fun start => start.operand.1

/-- The condition that a comparison states, if each of its operands has a value of its own and some
strategy may choose by its column. -/
def Comparison.condition?
    (rule : Rule)
    (tables : Tables)
    (comparison : Comparison) : Option Condition :=
  if comparison.starts ≠ [] ∧ comparison.starts.all fun start => start.operand.1.isValue then
    ((Parse.columnOf? tables comparison.left).filter rule.isShardingColumn).map fun column =>
      ⟨column, comparison.operator, comparison.operands⟩
  else
    none

/-- What the reading of one predicate finds: a comparison, the place in front of the rest that is read
over, and the number of groups around this rest. -/
structure PredicateReading where
  start : Place
  compared : Option Comparison
  inside : Place
  groups : Nat

/-- How far the rest of a predicate reaches. -/
def PredicateReading.extent (reading : PredicateReading) : PredicateExtent :=
  Extent.ofPredicate false reading.groups reading.inside.tokens

/-- How the reading of a clause ends: at a place, at an OR, or where a comparison is not complete. -/
inductive ClauseEnd where
  | stops (place : Place)
  | meetsOr
  | breaks

/-- The predicates of a clause as far as they can be read, and the end of the reading. -/
structure ClauseReading where
  predicates : List PredicateReading
  ending : ClauseEnd

/-- The conditions that the predicates of a clause state. -/
def ClauseReading.conditions
    (rule : Rule)
    (tables : Tables)
    (reading : ClauseReading) : List Condition :=
  reading.predicates.filterMap fun predicate =>
    predicate.compared.bind (Comparison.condition? rule tables)

theorem ClauseReading.conditions_cons
    (rule : Rule)
    (tables : Tables)
    (reading : PredicateReading)
    (others : List PredicateReading)
    (ending : ClauseEnd) :
    conditions rule tables ⟨reading :: others, ending⟩ =
      (reading.compared.bind (Comparison.condition? rule tables)).toList ++
        conditions rule tables ⟨others, ending⟩ := by
  unfold conditions
  rw [List.filterMap_cons]
  cases reading.compared.bind (Comparison.condition? rule tables) with
  | none => rfl
  | some condition => rfl

namespace Place

/-- The places where the members of a list begin, and the place behind the parenthesis that closes the
list.  Commas are passed wherever they stand. -/
def members? (place : Place) : Option (List Place × Place) :=
  match _ahead : place.tokens with
  | [] => none
  | token :: rest =>
      if token.kind = .symbol .rightParen then
        some ([], { place with tokens := rest })
      else if token.kind = .finish then
        none
      else if token.kind = .symbol .comma then
        members? { place with tokens := rest }
      else
        (members? place.operand.2).map fun (others, behind) => (place :: others, behind)
termination_by place.tokens.length
decreasing_by
  · rw [_ahead]
    exact Nat.lt_succ_self _
  · exact length_operand_lt (by simp [_ahead])

theorem members?_eq (place : Place) :
    place.members? =
      if place.ahead.kind = .symbol .rightParen then
        some ([], place.advance)
      else if place.ahead.kind = .finish then
        none
      else if place.ahead.kind = .symbol .comma then
        place.advance.members?
      else
        place.operand.2.members?.map fun (others, behind) => (place :: others, behind) := by
  obtain ⟨tokens, placeholders⟩ := place
  cases tokens with
  | nil =>
      rw [members?]
      simp [ahead, Token.finish]
  | cons token rest =>
      rw [members?]
      rfl

theorem length_pos_of_ahead
    {place : Place}
    (notLast : place.ahead.kind ≠ .finish) :
    0 < place.tokens.length := by
  rw [List.length_pos_iff]
  intro none
  simp [ahead, none, Token.finish] at notLast

theorem exists_cons_of_ahead
    {place : Place}
    {word : Keyword}
    (isWord : place.ahead.kind = .keyword word) :
    ∃ token, place.tokens = token :: place.advance.tokens ∧ token.kind = .keyword word := by
  obtain ⟨tokens, placeholders⟩ := place
  cases tokens with
  | nil => cases isWord
  | cons token rest => exact ⟨token, rfl, isWord⟩

/-- A comparison with a list. -/
def membership?
    (left : Expression)
    (place : Place) : Option (Option Comparison × Place) :=
  if place.ahead.kind = .symbol .leftParen ∧ place.advance.ahead.kind ≠ .keyword .SELECT then
    place.advance.members?.map fun (members, behind) => (some ⟨left, .among, members⟩, behind)
  else
    none

/-- A comparison with two bounds. -/
def range?
    (left : Expression)
    (place : Place) : Option (Option Comparison × Place) :=
  let upper := place.operand.2.advance
  if place.operand.2.ahead.kind = .keyword .AND then
    some (some ⟨left, .between, [place, upper]⟩, upper.operand.2)
  else
    none

/-- The comparison that begins with the operand ahead, as far as it may restrict a column, and the
place behind it. -/
def comparison? (place : Place) : Option (Option Comparison × Place) :=
  let (left, behind) := place.operand
  match behind.ahead.kind with
  | .symbol .eq => some (some ⟨left, .equal, [behind.advance]⟩, behind.advance.operand.2)
  | .keyword .IN => behind.advance.membership? left
  | .keyword .BETWEEN => behind.advance.range? left
  | .symbol .lt => some (none, behind.advance.operand.2)
  | .symbol .gt => some (none, behind.advance.operand.2)
  | .symbol .ltEq => some (none, behind.advance.operand.2)
  | .symbol .gtEq => some (none, behind.advance.operand.2)
  | .symbol .ltGt => some (none, behind.advance.operand.2)
  | .symbol .bangEq => some (none, behind.advance.operand.2)
  | .keyword .LIKE => some (none, behind.advance.operand.2)
  | _ => some (none, behind)

theorem members?_reaches
    {place behind : Place}
    {members : List Place}
    (listed : place.members? = some (members, behind)) :
    (∀ member ∈ members, place.Reaches member) ∧ place.Reaches behind := by
  fun_induction members? generalizing members behind with
  | case1 => cases listed
  | case2 place token rest ahead closes =>
      obtain ⟨-, rfl⟩ := listed
      constructor
      · nofun
      · obtain ⟨tokens, placeholders⟩ := place
        obtain rfl : tokens = token :: rest := ahead
        exact advance_reaches closes nofun
  | case3 => cases listed
  | case4 place token rest ahead _ _ comma ih =>
      obtain ⟨tokens, placeholders⟩ := place
      obtain rfl : tokens = token :: rest := ahead
      have passed : (Place.mk (token :: rest) placeholders).Reaches ⟨rest, placeholders⟩ :=
        advance_reaches comma nofun
      obtain ⟨reachesMembers, reachesEnd⟩ := ih listed
      exact ⟨fun member isMember => passed.trans (reachesMembers member isMember),
        passed.trans reachesEnd⟩
  | case5 place token rest ahead _ _ _ ih =>
      obtain ⟨⟨others, last⟩, othersListed, equal⟩ := Option.map_eq_some_iff.mp listed
      cases equal
      obtain ⟨reachesOthers, reachesEnd⟩ := ih othersListed
      constructor
      · intro member isMember
        rcases List.mem_cons.mp isMember with rfl | isOther
        · exact .refl _
        · exact place.operand_reaches.trans (reachesOthers member isOther)
      · exact place.operand_reaches.trans reachesEnd

/-- Whether a place leads to the operands of a comparison that may have been found, and to the place
behind it. -/
def ReachesCompared
    (place : Place)
    (compared : Option Comparison)
    (behind : Place) : Prop :=
  (∀ comparison ∈ compared, ∀ start ∈ comparison.starts, place.Reaches start) ∧
    place.Reaches behind

theorem ReachesCompared.behind
    {first place behind : Place}
    {compared : Option Comparison}
    (reaches : place.ReachesCompared compared behind)
    (passed : first.Reaches place) :
    first.ReachesCompared compared behind :=
  ⟨fun comparison isCompared start isStart =>
    passed.trans (reaches.1 comparison isCompared start isStart), passed.trans reaches.2⟩

theorem Reaches.notCompared
    {place behind : Place}
    (reaches : place.Reaches behind) :
    place.ReachesCompared none behind :=
  ⟨nofun, reaches⟩

theorem membership?_reaches
    {left : Expression}
    {place behind : Place}
    {compared : Option Comparison}
    (read : place.membership? left = some (compared, behind)) :
    place.ReachesCompared compared behind := by
  unfold membership? at read
  split at read
  next opens =>
    obtain ⟨⟨members, last⟩, listed, equal⟩ := Option.map_eq_some_iff.mp read
    cases equal
    apply ReachesCompared.behind _ (advance_reaches opens.1 nofun)
    obtain ⟨reachesMembers, reachesEnd⟩ := members?_reaches listed
    constructor
    · rintro comparison ⟨rfl⟩
      exact reachesMembers
    · exact reachesEnd
  next => cases read

theorem range?_reaches
    {left : Expression}
    {place behind : Place}
    {compared : Option Comparison}
    (read : place.range? left = some (compared, behind)) :
    place.ReachesCompared compared behind := by
  unfold range? at read
  dsimp only at read
  split at read
  next isAnd =>
    cases read
    have upper := place.operand_reaches.trans (advance_reaches isAnd nofun)
    constructor
    · rintro comparison ⟨rfl⟩ start isStart
      rcases List.mem_cons.mp isStart with rfl | isUpper
      · exact .refl _
      · rw [List.mem_singleton.mp isUpper]
        exact upper
    · exact upper.trans (operand_reaches _)
  next => cases read

theorem comparison?_reaches
    {place behind : Place}
    {compared : Option Comparison}
    (read : place.comparison? = some (compared, behind)) :
    place.ReachesCompared compared behind := by
  apply ReachesCompared.behind _ place.operand_reaches
  unfold comparison? at read
  dsimp only at read
  split at read
  case h_1 isSign =>
    cases read
    constructor
    · rintro comparison ⟨rfl⟩ start isStart
      rw [List.mem_singleton.mp isStart]
      exact advance_reaches isSign nofun
    · exact advance_operand_reaches isSign nofun
  case h_2 isWord => exact (membership?_reaches read).behind (advance_reaches isWord nofun)
  case h_3 isWord => exact (range?_reaches read).behind (advance_reaches isWord nofun)
  case h_4 isSign | h_5 isSign | h_6 isSign | h_7 isSign | h_8 isSign | h_9 isSign | h_10 isSign =>
    cases read
    exact (advance_operand_reaches isSign nofun).notCompared
  case h_11 =>
    cases read
    exact (Reaches.refl _).notCompared

/-- Whether a predicate begins with an operand here. -/
def startsOperand (place : Place) : Bool :=
  (place.ahead.kind.isIdentifier && place.ahead.kind != .keyword .EXISTS) ||
    [TokenKind.literal .chars, .literal .int, .literal .float, .literal .hex,
      .symbol .question].contains place.ahead.kind

/-- The comparison ahead, if there is an operand, and the place behind it. -/
def compared? (place : Place) : Option (Option Comparison × Place) :=
  if place.startsOperand then place.comparison? else some (none, place)

/-- The predicate that begins at `start`, by the part of it behind its comparison, inside `opened`
groups. -/
def predicateRest
    (opened : Nat)
    (compared : Option Comparison)
    (place start : Place) : PredicateReading :=
  let closed := min opened (place.tokens.takeWhile Token.closesGroup).length
  { start := start
    compared := compared
    inside := place.passBy closed
    groups := opened - closed }

/-- The predicate ahead inside `opened` groups. -/
def predicate?
    (opened : Nat)
    (place : Place) : Option PredicateReading :=
  let further := (place.tokens.takeWhile Token.opensGroup).length
  (place.passBy further).compared?.map fun (compared, behind) =>
    behind.predicateRest (opened + further) compared place

end Place

namespace PredicateReading

/-- The place behind a predicate. -/
def behind (reading : PredicateReading) : Place :=
  reading.inside.passBy reading.extent.width

/-- The place behind a predicate and the AND that joins it to the next one. -/
def last (reading : PredicateReading) : Place :=
  if reading.behind.ahead.kind = .keyword .AND then reading.behind.advance else reading.behind

end PredicateReading

namespace Place

theorem compared?_reaches
    {place behind : Place}
    {compared : Option Comparison}
    (read : place.compared? = some (compared, behind)) :
    place.ReachesCompared compared behind := by
  unfold compared? at read
  split at read
  · exact comparison?_reaches read
  · cases read
    exact (Reaches.refl place).notCompared

theorem predicate?_start
    {opened : Nat}
    {place : Place}
    {reading : PredicateReading}
    (read : place.predicate? opened = some reading) :
    reading.start = place := by
  obtain ⟨⟨compared, behind⟩, -, rfl⟩ := Option.map_eq_some_iff.mp read
  rfl

theorem inside_reaches
    {opened : Nat}
    {place : Place}
    {reading : PredicateReading}
    (read : place.predicate? opened = some reading) :
    place.ReachesCompared reading.compared reading.inside := by
  obtain ⟨⟨compared, behind⟩, isCompared, rfl⟩ := Option.map_eq_some_iff.mp read
  obtain ⟨reachesStarts, reachesEnd⟩ := (compared?_reaches isCompared).behind (passBy_reaches _ _)
  exact ⟨reachesStarts, reachesEnd.trans (passBy_reaches _ _)⟩

theorem predicate?_reaches
    {opened : Nat}
    {place : Place}
    {reading : PredicateReading}
    (read : place.predicate? opened = some reading) :
    place.ReachesCompared reading.compared reading.behind := by
  obtain ⟨reachesStarts, reachesInside⟩ := inside_reaches read
  exact ⟨reachesStarts, reachesInside.trans (passBy_reaches _ _)⟩

/-- The predicates ahead, joined by AND, inside `opened` groups. -/
def clause
    (opened : Nat)
    (place : Place) : ClauseReading :=
  match _read : place.predicate? opened with
  | none => ⟨[], .breaks⟩
  | some reading =>
      if reading.extent.meetsOr then
        ⟨[reading], .meetsOr⟩
      else if _follows : reading.behind.ahead.kind = .keyword .AND then
        let others := clause reading.extent.opened reading.behind.advance
        ⟨reading :: others.predicates, others.ending⟩
      else
        ⟨[reading], .stops reading.behind⟩
termination_by place.tokens.length
decreasing_by
  have shorter := (predicate?_reaches _read).2.suffix.length_le
  have positive : 0 < reading.behind.tokens.length := length_pos_of_ahead (by simp [_follows])
  simp only [advance, List.length_tail]
  omega

section ClauseEquations

variable {opened : Nat} {place : Place} {reading : PredicateReading}

theorem clause_of_none (broken : place.predicate? opened = none) :
    place.clause opened = ⟨[], .breaks⟩ := by
  rw [clause]
  split
  next => rfl
  next other read => cases broken.symm.trans read

theorem clause_of_some (read : place.predicate? opened = some reading) :
    place.clause opened =
      if reading.extent.meetsOr then
        ⟨[reading], .meetsOr⟩
      else if reading.behind.ahead.kind = .keyword .AND then
        ⟨reading :: (reading.behind.advance.clause reading.extent.opened).predicates,
          (reading.behind.advance.clause reading.extent.opened).ending⟩
      else
        ⟨[reading], .stops reading.behind⟩ := by
  rw [clause]
  split
  next broken => cases broken.symm.trans read
  next other otherRead =>
    cases Option.some.inj (read.symm.trans otherRead)
    split
    next => rfl
    next =>
      split
      next => rfl
      next => rfl

theorem length_advance_lt
    (read : place.predicate? opened = some reading)
    (isAnd : reading.behind.ahead.kind = .keyword .AND) :
    reading.behind.advance.tokens.length < place.tokens.length := by
  have shorter := (predicate?_reaches read).2.suffix.length_le
  have positive : 0 < reading.behind.tokens.length := length_pos_of_ahead (by simp [isAnd])
  simp only [advance, List.length_tail]
  omega

/-- Behind a predicate and the AND that joins it, the next one is reached. -/
theorem reaches_joined
    (read : place.predicate? opened = some reading)
    (isAnd : reading.behind.ahead.kind = .keyword .AND) :
    place.Reaches reading.behind.advance :=
  (predicate?_reaches read).2.trans (advance_reaches isAnd (by simp))

end ClauseEquations

/-- A clause that is read up to a place: its predicates, with an AND behind each of them but the last. -/
inductive ReadsClause : Nat → Place → List PredicateReading → Place → Prop where
  | ends
      {opened : Nat}
      {place : Place}
      {reading : PredicateReading}
      (read : place.predicate? opened = some reading)
      (noOr : reading.extent.meetsOr ≠ true)
      (notAnd : reading.behind.ahead.kind ≠ .keyword .AND) :
      ReadsClause opened place [reading] reading.behind
  | joins
      {opened : Nat}
      {place last : Place}
      {reading : PredicateReading}
      {others : List PredicateReading}
      (read : place.predicate? opened = some reading)
      (noOr : reading.extent.meetsOr ≠ true)
      (isAnd : reading.behind.ahead.kind = .keyword .AND)
      (further : ReadsClause reading.extent.opened reading.behind.advance others last) :
      ReadsClause opened place (reading :: others) last

theorem readsClause_of_stops
    {opened : Nat}
    {place last : Place}
    (stops : (place.clause opened).ending = .stops last) :
    ReadsClause opened place (place.clause opened).predicates last := by
  induction opened, place using clause.induct with
  | case1 opened place broken =>
      rw [clause_of_none broken] at stops
      cases stops
  | case2 opened place reading read meetsOr =>
      rw [clause_of_some read, if_pos meetsOr] at stops
      cases stops
  | case3 opened place reading read noOr isAnd ih =>
      have clause := clause_of_some read
      rw [if_neg noOr, if_pos isAnd] at clause
      rw [clause] at stops ⊢
      exact .joins read noOr isAnd (ih stops)
  | case4 opened place reading read noOr notAnd =>
      have clause := clause_of_some read
      rw [if_neg noOr, if_neg notAnd] at clause
      rw [clause] at stops ⊢
      cases stops
      exact .ends read noOr notAnd

end Place

end ShardedSql
