import ShardedSql.Proofs.Parser.Marking
import ShardedSql.Proofs.Token.Tiling

/-!
# Markers keep apart

The markers of a statement stand on different tokens, and the places where text is added lie between
them.  Hence no two markers of a statement overlap, and no two begin at the same place.
-/

namespace ShardedSql

namespace Marker

/-- The number of bytes that a marker takes the place of. -/
def length : Marker → Nat
  | .table _ literals => literals.utf8ByteSize
  | .items _ _ => 0
  | .orderBy _ => 0
  | .rowCount _ length _ => length
  | .offset _ length _ => length

/-- The byte position behind what a marker takes the place of. -/
def stop (marker : Marker) : Nat :=
  marker.position + marker.length

/-- Whether a marker ends in front of another one, and begins in front of it. -/
def IsBefore (first second : Marker) : Prop :=
  first.stop ≤ second.position ∧ first.position < second.position

/-- Whether neither of two markers overlaps the other. -/
def Apart (first second : Marker) : Prop :=
  first.IsBefore second ∨ second.IsBefore first

theorem Apart.symm
    {first second : Marker}
    (apart : first.Apart second) :
    second.Apart first :=
  Or.symm apart

end Marker

theorem Token.Carries.spans
    {characters : List Char}
    {token : Token}
    {marker : Marker}
    (carries : token.Carries marker)
    (stands : token.StandsIn characters) :
    marker.position = token.start ∧ marker.stop = token.stop := by
  cases carries with
  | table =>
      refine ⟨rfl, ?_⟩
      rw [stands.stop, Text.byteLength_toList]
      rfl
  | bound isRowCount =>
      have ordered : token.start ≤ token.stop := by
        rw [stands.stop]
        omega
      have total : token.start + (token.stop - token.start) = token.stop := by omega
      cases isRowCount with
      | true => exact ⟨rfl, total⟩
      | false => exact ⟨rfl, total⟩

/-- Each of the markers stands on one of the tokens. -/
theorem Token.exists_carrier
    {tokens : List Token}
    {markers : List Marker}
    (carried : List.Forall₂ Carries tokens markers)
    {marker : Marker}
    (isMarker : marker ∈ markers) :
    ∃ token ∈ tokens, token.Carries marker := by
  induction carried with
  | nil => cases isMarker
  | @cons token first tokens others carries _ ih =>
      rcases List.mem_cons.mp isMarker with rfl | isOther
      · exact ⟨token, List.mem_cons_self, carries⟩
      · obtain ⟨found, isToken, carriesMarker⟩ := ih isOther
        exact ⟨found, List.mem_cons_of_mem _ isToken, carriesMarker⟩

/-- Markers on tokens that follow one another follow one another. -/
theorem Token.markers_ordered
    {characters : List Char}
    {tokens : List Token}
    {markers : List Marker}
    (carried : List.Forall₂ Carries tokens markers)
    (stands : ∀ token ∈ tokens, token.StandsIn characters)
    (filled : ∀ token ∈ tokens, token.start < token.stop)
    (ordered : tokens.Pairwise fun first second => first.stop ≤ second.start) :
    markers.Pairwise Marker.IsBefore := by
  induction carried with
  | nil => exact .nil
  | @cons token first tokens others carries areCarried ih =>
      obtain ⟨isFirst, areOrdered⟩ := List.pairwise_cons.mp ordered
      have areOthers : ∀ {other : Token}, other ∈ tokens → other ∈ token :: tokens :=
        List.mem_cons_of_mem token
      apply List.Pairwise.cons
      · intro second isSecond
        obtain ⟨other, isOther, carriesSecond⟩ := exists_carrier areCarried isSecond
        obtain ⟨position, stop⟩ := carries.spans (stands token List.mem_cons_self)
        obtain ⟨otherPosition, -⟩ := carriesSecond.spans (stands other (areOthers isOther))
        have follows := isFirst other isOther
        have isFilled := filled token List.mem_cons_self
        constructor
        · omega
        · omega
      · apply ih _ _ areOrdered
        · exact fun other isOther => stands other (areOthers isOther)
        · exact fun other isOther => filled other (areOthers isOther)

namespace Cursor

variable {characters : List Char} {start between last : Cursor} {markers : List Marker}
variable {valid : Nat → Prop}

section Standing

variable (stands : ∀ token ∈ start.tokens, token.StandsIn characters)
variable (cut : start.IsCut valid)

include cut in
/-- The tokens that a parse has passed end in front of the place that it has come to. -/
theorem stop_le_of_passed
    (reaches : start.Reaches last)
    {passed : List Token}
    (split : start.tokens = passed ++ last.tokens)
    {token : Token}
    (isPassed : token ∈ passed) :
    token.stop ≤ last.lastStop := by
  have isThere : token ∈ start.tokens := by
    rw [split]
    exact List.mem_append_left _ isPassed
  rcases reaches.steps.passed cut token isThere with isAhead | isBehind
  · have ordered := cut.ordered
    rw [split] at ordered
    have overlap := (List.pairwise_append.mp ordered).2.2 token isPassed token isAhead
    have filled := cut.filled token isThere
    omega
  · exact isBehind

include cut in
theorem Marks.exists_token
    (marks : start.Marks last markers)
    {marker : Marker}
    (isMarker : marker ∈ markers) :
    ∃ token ∈ start.tokens, token.Carries marker ∧ token.stop ≤ last.lastStop := by
  obtain ⟨reaches, passed, carriers, split, among, carried⟩ := marks
  obtain ⟨token, isCarrier, carries⟩ := Token.exists_carrier carried isMarker
  have isPassed := among.subset isCarrier
  refine ⟨token, ?_, carries, stop_le_of_passed cut reaches split isPassed⟩
  rw [split]
  exact List.mem_append_left _ isPassed

include stands cut in
/-- Markers on tokens one after the other keep apart. -/
theorem Marks.ordered (marks : start.Marks last markers) :
    markers.Pairwise Marker.IsBefore := by
  obtain ⟨reaches, passed, carriers, split, among, carried⟩ := marks
  have areTokens : carriers.Sublist start.tokens := by
    rw [split]
    exact among.trans (List.sublist_append_left _ _)
  have areStanding : ∀ token ∈ carriers, token.StandsIn characters :=
    fun token isCarrier => stands token (areTokens.subset isCarrier)
  have areFilled : ∀ token ∈ carriers, token.start < token.stop :=
    fun token isCarrier => cut.filled token (areTokens.subset isCarrier)
  exact Token.markers_ordered carried areStanding areFilled (cut.ordered.sublist areTokens)

/-- Whether a position lies between markers: behind a token that was passed last, or in front of the next
one, which has no marker. -/
inductive HasSeam (start last : Cursor) : List Marker → Nat → Prop where
  | mk
      {between : Cursor}
      {front back : List Marker}
      {position : Nat}
      (isFront : start.Marks between front)
      (isBack : between.Marks last back)
      (isBetween : position = between.lastStop ∨ position = between.current.start)
      (isFree : back = [] ∨ ∀ marker, ¬ between.current.Carries marker) :
      HasSeam start last (front ++ back) position

include cut in
/-- The token passed last ends in front of the next one. -/
theorem lastStop_le_current : start.lastStop ≤ start.current.start := by
  obtain ⟨tokens, textLength, placeholders, lastStop⟩ := start
  cases tokens with
  | nil => exact cut.stop.2
  | cons token rest => exact cut.ahead token List.mem_cons_self

include cut in
/-- The tokens that a token without a marker is followed by begin behind its beginning. -/
theorem current_lt_of_carries
    (isFree : ∀ marker, ¬ start.current.Carries marker)
    {token : Token}
    {marker : Marker}
    (isToken : token ∈ start.tokens)
    (carries : token.Carries marker) :
    start.current.start < token.start := by
  obtain ⟨tokens, textLength, placeholders, lastStop⟩ := start
  cases tokens with
  | nil => cases isToken
  | cons first rest =>
      rcases List.mem_cons.mp isToken with rfl | isLater
      · exact absurd carries (isFree marker)
      · have follows := (List.pairwise_cons.mp cut.ordered).1 token isLater
        have filled := cut.filled first List.mem_cons_self
        exact Nat.lt_of_lt_of_le filled follows

include stands cut in
/-- A position between markers is a place between tokens, and no marker reaches over it. -/
theorem HasSeam.apart
    (begins : ∀ token ∈ start.tokens, valid token.start)
    {position : Nat}
    (seam : start.HasSeam last markers position) :
    valid position ∧ ∀ marker ∈ markers,
      marker.stop ≤ position ∧ marker.position < position ∨ position < marker.position := by
  obtain ⟨isFront, isBack, isBetween, isFree⟩ := seam
  rename_i middle front back
  have suffix := isFront.reaches.suffix
  have middleCut := isFront.reaches.steps.isCut cut
  have middleStands : ∀ token ∈ middle.tokens, token.StandsIn characters :=
    fun token isToken => stands token (suffix.subset isToken)
  have current := lastStop_le_current middleCut
  constructor
  · rcases isBetween with rfl | rfl
    · exact middleCut.stop.1
    · obtain ⟨tokens, textLength, placeholders, lastStop⟩ := middle
      cases tokens with
      | nil => exact middleCut.whole
      | cons token rest => exact begins token (suffix.subset List.mem_cons_self)
  · intro marker isMarker
    rcases List.mem_append.mp isMarker with isEarlier | isLater
    · obtain ⟨token, isToken, carries, isPassed⟩ := isFront.exists_token cut isEarlier
      obtain ⟨begins, ends⟩ := carries.spans (stands token isToken)
      have filled := cut.filled token isToken
      left
      omega
    · obtain ⟨token, isToken, carries, -⟩ := isBack.exists_token middleCut isLater
      obtain ⟨begins, -⟩ := carries.spans (middleStands token isToken)
      have notEmpty : back ≠ [] := List.ne_nil_of_mem isLater
      have follows := current_lt_of_carries middleCut (isFree.resolve_left notEmpty) isToken carries
      right
      omega

end Standing

end Cursor

/-- The words that begin the clauses behind a select list. -/
def TokenKind.clauseHeads : List TokenKind :=
  [.keyword .FROM, .keyword .WHERE, .keyword .GROUP, .keyword .ORDER, .keyword .LIMIT,
    .keyword .OFFSET, .keyword .FETCH, .keyword .FOR, .keyword .LOCK]

/-- A marker stands on a name or on a literal only. -/
theorem Token.not_carries_of_kind
    {token : Token}
    (notName : token.kind.isName = false)
    (notLiteral : ∀ literal, token.kind ≠ .literal literal)
    (marker : Marker) :
    ¬ token.Carries marker := by
  intro carries
  cases carries with
  | table isName => simp [notName] at isName
  | bound isRowCount reads =>
      obtain ⟨number, isNumber, -⟩ := reads
      obtain ⟨-, literal, isLiteral⟩ := Parse.expressionOf_number isNumber
      exact notLiteral literal isLiteral

theorem Token.not_carries_of_head
    {token : Token}
    (isHead : token.kind ∈ TokenKind.clauseHeads)
    (marker : Marker) :
    ¬ token.Carries marker := by
  have notNames : ∀ kind ∈ TokenKind.clauseHeads, kind.isName = false ∧
      ∀ literal, kind ≠ .literal literal := by
    intro kind isHead
    simp only [TokenKind.clauseHeads, List.mem_cons, List.not_mem_nil, or_false] at isHead
    rcases isHead with rfl | rfl | rfl | rfl | rfl | rfl | rfl | rfl | rfl <;>
      exact ⟨by decide, nofun⟩
  obtain ⟨notName, notLiteral⟩ := notNames _ isHead
  exact not_carries_of_kind notName notLiteral marker

/-- Doing nothing unless a word stands ahead that begins a clause. -/
def Conduct.heading : Conduct where
  relates before after :=
    before.cursor.current.kind ∈ TokenKind.clauseHeads ∨
      after.cursor = before.cursor ∧ after.pending = before.pending
  fails _ := True
  refl _ := .inr ⟨rfl, rfl⟩
  trans := by
    rintro before between after (isHead | ⟨sameCursor, samePending⟩) second
    · exact .inl isHead
    · rcases second with isHead | ⟨sameCursorLater, samePendingLater⟩
      · rw [sameCursor] at isHead
        exact .inl isHead
      · exact .inr ⟨sameCursorLater.trans sameCursor, samePendingLater.trans samePending⟩

namespace Parse

open Conduct (marking heading)

variable {α : Type} {before after : ParseState}

section Heading

/-- A clause that begins with one of several words. -/
theorem isAnyKind_heads
    {kinds : List TokenKind}
    (areHeads : kinds ⊆ TokenKind.clauseHeads)
    (body : Parse Unit) :
    Obeys (do
      if ← isAnyKind kinds then
        body) heading := by
  intro before
  by_cases isThere : before.cursor.current.kind ∈ kinds
  · split
    next => exact .inl (areHeads isThere)
    next => trivial
  · rw [outcome_isAnyKind_of_absent isThere]
    exact heading.refl before

/-- A clause that begins with a word. -/
theorem skipWord_heads
    {word : Keyword}
    (isHead : .keyword word ∈ TokenKind.clauseHeads)
    (body : Parse Unit) :
    Obeys (do
      if ← skipWord word then
        body) heading := by
  intro before
  by_cases isThere : before.cursor.current.kind = .keyword word
  · split
    next => exact .inl (by rwa [isThere])
    next => trivial
  · rw [outcome_skipWord_of_absent isThere]
    exact heading.refl before

theorem fromClause_heads (nested : Parse Unit) : (fromClause nested).Obeys heading :=
  skipWord_heads (by decide) _

theorem whereClause_heads : whereClause.Obeys heading :=
  skipWord_heads (by decide) _

theorem groupByClause_heads (depth : Nat) : (groupByClause depth).Obeys heading :=
  skipWord_heads (by decide) _

theorem queryTail_heads (depth : Nat) : (queryTail depth).Obeys heading := by
  have locked : Obeys (do
      if ← isAnyKind [.keyword .UNION, .keyword .INTERSECT, .keyword .EXCEPT, .keyword .MINUS] then
        throw (.setOperator (Text.upperAscii (← current).literals))
      lockClause) heading := by
    have last : lockClause.Obeys heading := isAnyKind_heads (by decide) _
    apply obeys_isAnyKind_bind
    intro isCombined
    apply Obeys.ite _ last
    apply obeys_current_bind
    intro token _
    trivial
  have ordered : Obeys (do
      orderByClause depth
      limitClauses
      if ← isAnyKind [.keyword .UNION, .keyword .INTERSECT, .keyword .EXCEPT, .keyword .MINUS] then
        throw (.setOperator (Text.upperAscii (← current).literals))
      lockClause) heading := by
    have sorts : (orderByClause depth).Obeys heading := skipWord_heads (by decide) _
    have limits : limitClauses.Obeys heading := isAnyKind_heads (by decide) _
    exact sorts.bind fun _ => limits.bind fun _ => locked
  unfold queryTail
  apply obeys_isKind_bind
  intro isHaving
  apply Obeys.ite _ ordered
  intro _
  trivial

end Heading

/-- Note where the select list ends. -/
def noteListStop : Parse Unit := do
  let stop ← lastStop
  modifyNotes fun notes => { notes with listStop := some stop }

/-- Read a query up to the end of its select list. -/
def listOpening : Parse Unit := do
  acceptWord .SELECT
  distinctClause 0
  topClause
  repeatStep do
    selectItem 0
    skipSign .comma

/-- Note the columns of GROUP BY, and where they end. -/
def noteGroups (items : List OrderItem) : Parse Unit := do
  let stop ← lastStop
  modifyStatement fun statement =>
    { statement with groupByItems := statement.groupByItems ++ items }
  modifyNotes fun notes => { notes with groupByStop := some stop }

theorem queryWith_zero (nested : Parse Unit) :
    queryWith nested 0 = listOpening >>= fun _ => noteListStop >>= fun _ =>
      (fromClause nested >>= fun _ => whereClause) >>= fun _ =>
        groupByClause 0 >>= fun _ => queryTail 0 := by
  have listed : selectList 0 = (repeatStep do
      selectItem 0
      skipSign .comma) >>= fun _ => noteListStop := rfl
  simp only [queryWith, listOpening, listed, bind_assoc]
  rfl

theorem listOpening_marks : listOpening.Obeys marking := by
  unfold listOpening
  apply (acceptWord_obeys marking_admits.passing _).bind
  intro _
  apply (distinctClause_obeys marking_admits 0).bind
  intro _
  apply marking_admits.topClause.bind
  intro _
  exact selectItems_obeys marking_admits 0

/-- The words WITH ROLLUP may stand in front of the rest. -/
theorem rollup_eq_ok
    {next : Parse α}
    {value : α}
    (ran : outcome (do
      if ← skipWord .WITH then
        let _ ← skipWord .ROLLUP
      next) before = (.ok value, after)) :
    ∃ between, marking.relates before between ∧ next.outcome between = (.ok value, after) := by
  obtain ⟨isWith, between, passed, rest⟩ := outcome_bind_eq_ok.mp ran
  have first := (skipWord_obeys marking_admits.passing .WITH).relates passed
  cases isWith with
  | true =>
      obtain ⟨_, last, passedLater, finished⟩ := outcome_bind_eq_ok.mp rest
      have second := (skipWord_obeys marking_admits.passing .ROLLUP).relates passedLater
      exact ⟨last, marking.trans first second, finished⟩
  | false => exact ⟨between, first, rest⟩

/-- GROUP BY is not there, or it is read and its end is noted. -/
theorem groupByClause_eq_ok (ran : (groupByClause 0).outcome before = (.ok (), after)) :
    after = before ∨
      before.cursor.current.kind = .keyword .GROUP ∧ ∃ between items,
        marking.relates { before with cursor := before.cursor.advance } between ∧
          (noteGroups items).outcome between = (.ok (), after) := by
  unfold groupByClause at ran
  rw [outcome_bind, skipWord, outcome_skipKind] at ran
  by_cases isGroup : before.cursor.current.kind = .keyword .GROUP
  · rw [if_pos isGroup] at ran
    obtain ⟨_, first, accepted, sorted⟩ := outcome_bind_eq_ok.mp ran
    obtain ⟨items, second, read, rolled⟩ := outcome_bind_eq_ok.mp sorted
    obtain ⟨between, third, noted⟩ := rollup_eq_ok rolled
    refine .inr ⟨isGroup, between, items, ?_, noted⟩
    apply marking.trans ((acceptWord_obeys marking_admits.passing .BY).relates accepted)
    exact marking.trans ((orderItems_obeys marking_admits).relates read) third
  · rw [if_neg isGroup] at ran
    cases ran
    exact .inl rfl

/-- Steps that do nothing without a word ahead have no marker on the token ahead. -/
theorem free_of_heads
    {markers : List Marker}
    (added : after.pending.Perm (before.pending ++ markers))
    (heads : heading.relates before after) :
    markers = [] ∨ ∀ marker, ¬ before.cursor.current.Carries marker := by
  rcases heads with isHead | ⟨-, samePending⟩
  · exact .inr (Token.not_carries_of_head isHead)
  · left
    have counted := added.length_eq
    rw [samePending, List.length_append] at counted
    apply List.eq_nil_of_length_eq_zero
    omega

/-- What a query leaves: its markers, and the places behind its select list and behind its groups, which
lie between these markers. -/
structure LeavesSeams
    (before after : ParseState)
    (markers : List Marker) : Prop where
  marks : before.cursor.Marks after.cursor markers
  added : after.pending.Perm (before.pending ++ markers)
  list : ∀ stop ∈ after.notes.listStop, before.cursor.HasSeam after.cursor markers stop
  groups : ∀ stop ∈ after.notes.groupByStop, before.cursor.HasSeam after.cursor markers stop
  follows : ∀ first ∈ after.notes.listStop, ∀ second ∈ after.notes.groupByStop,
    ∀ {valid : Nat → Prop}, before.cursor.IsCut valid → first < second

/-- The end of a word lies behind the token in front of it. -/
theorem lastStop_lt
    {start last : Cursor}
    {word : Keyword}
    (isWord : start.current.kind = .keyword word)
    (reaches : start.advance.Reaches last)
    {valid : Nat → Prop}
    (cut : start.IsCut valid) :
    start.lastStop < last.lastStop := by
  obtain ⟨tokens, textLength, placeholders, lastStop⟩ := start
  cases tokens with
  | nil => cases isWord
  | cons token rest =>
      have isAhead := cut.ahead token List.mem_cons_self
      have isFilled := cut.filled token List.mem_cons_self
      have grows := reaches.steps.grows (Cursor.steps_advance.isCut cut)
      change token.stop ≤ last.lastStop at grows
      change lastStop ≤ token.start at isAhead
      change lastStop < last.lastStop
      omega

/-- Behind the select list, a query reads its tables, its conditions, its groups, its order and its
limit. -/
theorem exists_seams_behindList
    {nested : Parse Unit}
    (obeys : nested.Obeys marking)
    {first after : ParseState}
    (noGroups : first.notes.groupByStop = none)
    (ran : ((fromClause nested >>= fun _ => whereClause) >>= fun _ =>
      groupByClause 0 >>= fun _ => queryTail 0).outcome first = (.ok (), after)) :
    ∃ markers, first.cursor.Marks after.cursor markers ∧
      after.pending.Perm (first.pending ++ markers) ∧
      after.notes.listStop = first.notes.listStop ∧
      ∀ stop ∈ after.notes.groupByStop,
        first.cursor.HasSeam after.cursor markers stop ∧
          ∀ {valid : Nat → Prop}, first.cursor.IsCut valid → first.cursor.lastStop < stop := by
  obtain ⟨_, second, conditioned, behindWhere⟩ := outcome_bind_eq_ok.mp ran
  obtain ⟨_, third, grouped, tailed⟩ := outcome_bind_eq_ok.mp behindWhere
  have front : (fromClause nested >>= fun _ => whereClause).Obeys marking :=
    (fromClause_obeys marking_admits obeys).bind fun _ => whereClause_obeys marking_admitsWhere
  obtain ⟨⟨markers, marks, added⟩, listed, noGroupsYet⟩ := front.relates conditioned
  have marksTail : (queryTail 0).Obeys marking :=
    queryTail_obeys marking_admits fun _ _ isNote => modifyStatement_marks isNote.markers
  obtain ⟨⟨others, marksLater, addedLater⟩, listedLater, groupedLater⟩ := marksTail.relates tailed
  rcases groupByClause_eq_ok grouped with rfl | ⟨isGroup, between, items, read, noted⟩
  · refine ⟨markers ++ others, marks.trans marksLater, ?_, listedLater.trans listed, ?_⟩
    · rw [← List.append_assoc]
      exact addedLater.trans (added.append_right others)
    · rw [groupedLater, noGroupsYet, noGroups]
      nofun
  · cases noted
    obtain ⟨⟨inner, marksInner, addedInner⟩, listedInner, -⟩ := read
    have front := marks.trans (.after (Cursor.reaches_advance_of_kind isGroup nofun) marksInner)
    refine ⟨(markers ++ inner) ++ others, front.trans marksLater, ?_, ?_, ?_⟩
    · have addedFront := addedInner.trans (added.append_right inner)
      rw [List.append_assoc] at addedFront
      rw [← List.append_assoc]
      exact addedLater.trans (addedFront.append_right others)
    · exact listedLater.trans (listedInner.trans listed)
    · rw [groupedLater]
      rintro stop ⟨rfl⟩
      constructor
      · have isFree := free_of_heads addedLater ((queryTail_heads 0).relates tailed)
        exact .mk front marksLater (.inl rfl) isFree
      · intro valid cut
        have grows := marks.reaches.steps.grows cut
        have behindWord := lastStop_lt isGroup marksInner.reaches
          (marks.reaches.steps.isCut cut)
        exact Nat.lt_of_le_of_lt grows behindWord

theorem exists_seams_of_query
    {nested : Parse Unit}
    (obeys : nested.Obeys marking)
    (noNotes : before.notes = {})
    (ran : (queryWith nested 0).outcome before = (.ok (), after)) :
    ∃ markers, LeavesSeams before after markers := by
  rw [queryWith_zero] at ran
  obtain ⟨_, first, opened, listed⟩ := outcome_bind_eq_ok.mp ran
  obtain ⟨_, noted, isNoted, rest⟩ := outcome_bind_eq_ok.mp listed
  cases isNoted
  obtain ⟨⟨markers, marks, added⟩, -, noGroups⟩ := listOpening_marks.relates opened
  have noGroupsYet : ({ first with
      notes := { first.notes with
        listStop := some first.cursor.lastStop } } : ParseState).notes.groupByStop = none := by
    rw [noNotes] at noGroups
    exact noGroups
  obtain ⟨others, marksLater, addedLater, isList, groups⟩ :=
    exists_seams_behindList obeys noGroupsYet rest
  have heads : ((fromClause nested >>= fun _ => whereClause) >>= fun _ =>
      groupByClause 0 >>= fun _ => queryTail 0).Obeys heading :=
    ((fromClause_heads nested).bind fun _ => whereClause_heads).bind fun _ =>
      (groupByClause_heads 0).bind fun _ => queryTail_heads 0
  refine ⟨markers ++ others, marks.trans marksLater, ?_, ?_, ?_, ?_⟩
  · rw [← List.append_assoc]
    exact addedLater.trans (added.append_right others)
  · rw [isList]
    rintro stop ⟨rfl⟩
    have isFree := free_of_heads addedLater (heads.relates rest)
    exact .mk marks marksLater (.inl rfl) isFree
  · intro stop isStop
    obtain ⟨⟨isFront, isBack, isBetween, isFree⟩, -⟩ := groups stop isStop
    rw [← List.append_assoc]
    exact .mk (marks.trans isFront) isBack isBetween isFree
  · rw [isList]
    rintro stop ⟨rfl⟩ later isLater valid cut
    exact (groups later isLater).2 (marks.reaches.steps.isCut cut)

end Parse

namespace Statement

/-- The columns that are added to the select list, if any, stand behind it. -/
theorem markers_deriveColumns
    (statement : Statement)
    (listStop : Nat) :
    ∃ added, (statement.deriveColumns listStop).markers = statement.markers ++ added ∧
      (added = [] ∨ ∃ items, added = [.items listStop items]) := by
  unfold deriveColumns
  dsimp only
  split
  · exact ⟨[], (List.append_nil _).symm, .inl rfl⟩
  · exact ⟨_, rfl, .inr ⟨_, rfl⟩⟩

/-- The order that is added, if any, stands behind the groups. -/
theorem markers_deriveOrder
    (statement : Statement)
    (groupByStop : Option Nat) :
    ∃ added, (statement.deriveOrder groupByStop).markers = statement.markers ++ added ∧
      (added = [] ∨ ∃ stop, groupByStop = some stop ∧ added = [.orderBy stop]) := by
  unfold deriveOrder
  split
  · exact ⟨[], (List.append_nil _).symm, .inl rfl⟩
  · dsimp only
    split
    next stop => exact ⟨_, rfl, .inr ⟨stop, rfl, rfl⟩⟩
    next => exact ⟨[], (List.append_nil _).symm, .inl rfl⟩

end Statement

namespace Parse

variable {before after : ParseState}

/-- What finishing a SELECT adds to its markers. -/
theorem finishSelect_eq_ok (ran : finishSelect.outcome before = (.ok (), after)) :
    ∃ columns order,
      after.statement.markers = before.statement.markers ++
        tableOwners before.statement.tables before.notes.owners ++ columns ++ order ∧
      (columns = [] ∨ ∃ stop items, before.notes.listStop = some stop ∧
        columns = [.items stop items]) ∧
      (order = [] ∨ ∃ stop, before.notes.groupByStop = some stop ∧ order = [.orderBy stop]) := by
  unfold finishSelect at ran
  rw [outcome_bind_of_ok (outcome_markOwners before), outcome_bind_of_ok (outcome_get _)] at ran
  dsimp only at ran
  cases isStop : before.notes.listStop with
  | none =>
      have sameNotes : (before.marked (tableOwners before.statement.tables
        before.notes.owners)).notes.listStop = none := isStop
      rw [sameNotes] at ran
      cases ran
      obtain ⟨order, ordered, isOrder⟩ := (before.marked (tableOwners before.statement.tables
        before.notes.owners)).statement.markers_deriveOrder before.notes.groupByStop
      refine ⟨[], order, ?_, .inl rfl, isOrder⟩
      rw [List.append_nil]
      exact ordered
  | some stop =>
      have sameNotes : (before.marked (tableOwners before.statement.tables
        before.notes.owners)).notes.listStop = some stop := isStop
      rw [sameNotes] at ran
      cases ran
      have derived := (before.marked (tableOwners before.statement.tables
        before.notes.owners)).statement.markers_deriveColumns stop
      obtain ⟨columns, listed, isColumns⟩ := derived
      obtain ⟨order, ordered, isOrder⟩ := ((before.marked (tableOwners before.statement.tables
        before.notes.owners)).statement.deriveColumns stop).markers_deriveOrder
          before.notes.groupByStop
      refine ⟨columns, order, ?_, ?_, isOrder⟩
      · exact ordered.trans (congrArg (· ++ order) listed)
      · rcases isColumns with none | ⟨items, some⟩
        · exact .inl none
        · exact .inr ⟨stop, items, rfl, some⟩

end Parse

end ShardedSql
