import ShardedSql.Proofs.Parser.Conjunction

/-!
# Where OR is refused

A parse looks for OR in the parts of a WHERE clause that it reads over as the rest of a predicate.
The main statement says that it refuses a statement exactly when one of these parts holds an OR.
-/

namespace ShardedSql

namespace Extent

/-- The number of tokens up to the end of a predicate, where OR is like any other word: the AND
behind the predicate, the end of the clause, or a parenthesis that closes none of its groups. -/
def looseWidth
    (inBetween : Bool)
    (opened : Nat)
    (tokens : List Token) : Nat :=
  match tokens with
  | [] => 0
  | token :: rest =>
      if token.endsStatement || token.kind.endsWhere then
        0
      else if token.kind = .keyword .AND then
        if inBetween then looseWidth false opened rest + 1 else 0
      else if token.kind = .keyword .BETWEEN then
        looseWidth true opened rest + 1
      else if token.closesGroup then
        if opened = 0 then 0 else looseWidth inBetween (opened - 1) rest + 1
      else if token.opensGroup then
        let group := max 1 (groupWidth tokens)
        group + looseWidth inBetween opened (rest.drop (group - 1))
      else
        looseWidth inBetween opened rest + 1
termination_by tokens.length
decreasing_by
  all_goals simp only [List.length_drop, List.length_cons]
  all_goals omega

/-- Whether some token is an OR. -/
def HoldsOr (tokens : List Token) : Prop :=
  ∃ token ∈ tokens, token.kind = .keyword .OR

theorem holdsOr_cons_of_ne
    {token : Token}
    (notOr : token.kind ≠ .keyword .OR)
    (tokens : List Token) :
    HoldsOr (token :: tokens) ↔ HoldsOr tokens := by
  simp [HoldsOr, notOr]

theorem holdsOr_append
    (first second : List Token) :
    HoldsOr (first ++ second) ↔ HoldsOr first ∨ HoldsOr second := by
  simp [HoldsOr, or_and_right, exists_or]

theorem orInGroup?_isSome
    (tokens : List Token) :
    (orInGroup? tokens).isSome = true ↔ HoldsOr (tokens.take (groupWidth tokens)) := by
  rw [orInGroup?, List.findIdx?_isSome, List.any_eq_true]
  simp only [HoldsOr, beq_iff_eq]

/-- The tokens of a group and what follows it. -/
theorem take_group_add
    {token : Token}
    (opens : token.opensGroup = true)
    (rest : List Token)
    (width : Nat) :
    (token :: rest).take (max 1 (groupWidth (token :: rest)) + width) =
      (token :: rest).take (groupWidth (token :: rest)) ++
        (rest.drop (max 1 (groupWidth (token :: rest)) - 1)).take width := by
  have positive := groupWidth_pos opens rest
  have group : max 1 (groupWidth (token :: rest)) = groupWidth (token :: rest) := by omega
  rw [group, List.take_add]
  congr 2
  obtain ⟨width, isWidth⟩ : ∃ less, groupWidth (token :: rest) = less + 1 :=
    ⟨groupWidth (token :: rest) - 1, by omega⟩
  rw [isWidth, List.drop_succ_cons, Nat.add_sub_cancel]

/-- The rest of a predicate meets an OR just when one stands in it, and without an OR it reaches as
far as tokens are read over. -/
theorem ofPredicate_reaches
    (inBetween : Bool)
    (opened : Nat)
    (tokens : List Token) :
    ((ofPredicate inBetween opened tokens).meetsOr = true ↔
        HoldsOr (tokens.take (looseWidth inBetween opened tokens))) ∧
      ((ofPredicate inBetween opened tokens).meetsOr = false →
        (ofPredicate inBetween opened tokens).width = looseWidth inBetween opened tokens) := by
  induction inBetween, opened, tokens using looseWidth.induct with
  | case1 inBetween opened =>
      rw [ofPredicate, looseWidth]
      simp [HoldsOr]
  | case2 inBetween opened token rest ends =>
      rw [ofPredicate, looseWidth]
      simp [ends, HoldsOr]
  | case3 opened token rest goesOn isAnd ih =>
      have notOr : token.kind ≠ .keyword .OR := by simp [isAnd]
      rw [ofPredicate, looseWidth]
      simp only [if_neg goesOn, if_neg notOr, if_pos isAnd, if_true, List.take_succ_cons,
        holdsOr_cons_of_ne notOr]
      exact ⟨ih.1, fun noOr => congrArg Nat.succ (ih.2 noOr)⟩
  | case4 inBetween opened token rest goesOn isAnd notBetween =>
      have notOr : token.kind ≠ .keyword .OR := by simp [isAnd]
      rw [ofPredicate, looseWidth]
      simp [isAnd, notBetween, HoldsOr]
  | case5 inBetween opened token rest goesOn notAnd isBetween ih =>
      have notOr : token.kind ≠ .keyword .OR := by simp [isBetween]
      rw [ofPredicate, looseWidth]
      simp only [if_neg goesOn, if_neg notOr, if_neg notAnd, if_pos isBetween,
        List.take_succ_cons, holdsOr_cons_of_ne notOr]
      exact ⟨ih.1, fun noOr => congrArg Nat.succ (ih.2 noOr)⟩
  | case6 inBetween token rest goesOn notAnd notBetween closes =>
      have notOr : token.kind ≠ .keyword .OR := by
        intro isOr
        simp [Token.closesGroup, isOr] at closes
      rw [ofPredicate, looseWidth]
      simp [goesOn, notOr, notAnd, notBetween, closes, HoldsOr]
  | case7 inBetween opened token rest goesOn notAnd notBetween closes isOpen ih =>
      have notOr : token.kind ≠ .keyword .OR := by
        intro isOr
        simp [Token.closesGroup, isOr] at closes
      rw [ofPredicate, looseWidth]
      simp only [if_neg goesOn, if_neg notOr, if_neg notAnd, if_neg notBetween, if_pos closes,
        if_neg isOpen, List.take_succ_cons, holdsOr_cons_of_ne notOr]
      exact ⟨ih.1, fun noOr => congrArg Nat.succ (ih.2 noOr)⟩
  | case8 inBetween opened token rest goesOn notAnd notBetween notCloses opens group ih =>
      have notOr : token.kind ≠ .keyword .OR := by
        intro isOr
        simp [Token.opensGroup, isOr] at opens
      have inGroup := orInGroup?_isSome (token :: rest)
      rw [ofPredicate, looseWidth]
      simp only [if_neg goesOn, if_neg notOr, if_neg notAnd, if_neg notBetween, if_neg notCloses,
        if_pos opens, take_group_add opens, holdsOr_append, ← inGroup]
      cases orInGroup? (token :: rest) with
      | none => exact ⟨by simpa using ih.1, fun noOr => congrArg (group + ·) (ih.2 noOr)⟩
      | some place => simp
  | case9 inBetween opened token rest goesOn notAnd notBetween notCloses notOpens ih =>
      rw [ofPredicate, looseWidth]
      simp only [if_neg goesOn, if_neg notAnd, if_neg notBetween, if_neg notCloses,
        if_neg notOpens, List.take_succ_cons]
      by_cases isOr : token.kind = .keyword .OR
      · rw [if_pos isOr]
        exact ⟨iff_of_true rfl ⟨token, List.mem_cons_self, isOr⟩, fun noOr =>
          absurd noOr.symm Bool.false_ne_true⟩
      · rw [if_neg isOr, holdsOr_cons_of_ne isOr]
        exact ⟨ih.1, fun noOr => congrArg Nat.succ (ih.2 noOr)⟩

end Extent

namespace PredicateReading

/-- The tokens that are read over as the rest of a predicate. -/
def loose (reading : PredicateReading) : List Token :=
  reading.inside.tokens.take (Extent.looseWidth false reading.groups reading.inside.tokens)

theorem meetsOr_iff (reading : PredicateReading) :
    reading.extent.meetsOr = true ↔ Extent.HoldsOr reading.loose :=
  (Extent.ofPredicate_reaches false reading.groups reading.inside.tokens).1

theorem loose_append_behind
    {reading : PredicateReading}
    (noOr : reading.extent.meetsOr = false) :
    reading.loose ++ reading.behind.tokens = reading.inside.tokens := by
  have width := (Extent.ofPredicate_reaches false reading.groups reading.inside.tokens).2 noOr
  have behind : reading.behind.tokens = reading.inside.tokens.drop reading.extent.width := rfl
  rw [behind, loose, ← width]
  exact List.take_append_drop _ _

/-- The tokens of a predicate in front of the rest: groups, operands and lists. -/
def front (reading : PredicateReading) : List Token :=
  reading.start.tokens.take (reading.start.tokens.length - reading.inside.tokens.length)

theorem front_append_inside
    {opened : Nat}
    {place : Place}
    {reading : PredicateReading}
    (read : place.predicate? opened = some reading) :
    reading.front ++ reading.inside.tokens = place.tokens := by
  obtain ⟨skipped, split⟩ := (Place.inside_reaches read).2.suffix
  rw [front, Place.predicate?_start read, ← split, List.length_append, Nat.add_sub_cancel,
    List.take_left]

theorem mem_front_or_behind
    {opened : Nat}
    {place : Place}
    (reading : PredicateReading)
    (read : place.predicate? opened = some reading)
    (noOr : reading.extent.meetsOr = false)
    {token : Token}
    (member : token ∈ place.tokens)
    (isOr : token.kind = .keyword .OR) :
    token ∈ reading.front ∨ token ∈ reading.behind.tokens := by
  rw [← front_append_inside read, ← loose_append_behind noOr, List.mem_append,
    List.mem_append] at member
  rcases member with front | loose | behind
  · exact .inl front
  · have meetsOr := reading.meetsOr_iff.mpr ⟨token, loose, isOr⟩
    cases noOr.symm.trans meetsOr
  · exact .inr behind

end PredicateReading

namespace Place

theorem mem_advance
    {place : Place}
    {token : Token}
    (member : token ∈ place.tokens)
    (notAhead : place.ahead.kind ≠ token.kind) :
    token ∈ place.advance.tokens := by
  obtain ⟨tokens, placeholders⟩ := place
  cases tokens with
  | nil => cases member
  | cons first rest =>
      rcases List.mem_cons.mp member with rfl | isLater
      · exact absurd rfl notAhead
      · exact isLater

/-- The reading of a clause meets an OR just when one stands in the rest of a predicate. -/
theorem clause_meetsOr_iff
    (opened : Nat)
    (place : Place) :
    (place.clause opened).ending = .meetsOr ↔
      ∃ reading ∈ (place.clause opened).predicates, Extent.HoldsOr reading.loose := by
  induction opened, place using clause.induct with
  | case1 opened place broken =>
      rw [clause_of_none broken]
      simp
  | case2 opened place reading read meetsOr =>
      rw [clause_of_some read, if_pos meetsOr]
      exact iff_of_true rfl ⟨reading, List.mem_singleton_self _, reading.meetsOr_iff.mp meetsOr⟩
  | case3 opened place reading read noOr isAnd ih =>
      rw [reading.meetsOr_iff] at noOr
      rw [clause_of_some read, if_neg (by rwa [reading.meetsOr_iff]), if_pos isAnd]
      simp only [ih, List.mem_cons, or_and_right, exists_or, exists_eq_left, noOr, false_or]
  | case4 opened place reading read noOr stops =>
      rw [reading.meetsOr_iff] at noOr
      rw [clause_of_some read, if_neg (by rwa [reading.meetsOr_iff]), if_neg stops]
      simp [noOr]

/-- Every OR of a clause that is read to an end stands in an operand or a list of some predicate, or
behind the place where the reading stops. -/
theorem ReadsClause.or_unread
    {opened : Nat}
    {place last : Place}
    {readings : List PredicateReading}
    (reads : ReadsClause opened place readings last)
    {token : Token}
    (member : token ∈ place.tokens)
    (isOr : token.kind = .keyword .OR) :
    (∃ reading ∈ readings, token ∈ reading.front) ∨ token ∈ last.tokens := by
  induction reads with
  | @ends opened place reading read noOr _ =>
      rcases reading.mem_front_or_behind read (by simpa using noOr) member isOr with front | behind
      · exact .inl ⟨reading, List.mem_singleton_self _, front⟩
      · exact .inr behind
  | @joins opened place last reading others read noOr isAnd _ ih =>
      rcases reading.mem_front_or_behind read (by simpa using noOr) member isOr with front | behind
      · exact .inl ⟨reading, List.mem_cons_self, front⟩
      · -- The token ahead is the AND, so that the OR is behind it.
        have further : token ∈ reading.behind.advance.tokens :=
          mem_advance behind (by simp [isAnd, isOr])
        rcases ih further with ⟨other, otherMember, front⟩ | last
        · exact .inl ⟨other, List.mem_cons_of_mem _ otherMember, front⟩
        · exact .inr last

theorem mem_clause
    {opened : Nat}
    {place : Place}
    {reading : PredicateReading}
    (read : place.predicate? opened = some reading) :
    reading ∈ (place.clause opened).predicates := by
  rw [clause_of_some read]
  split
  · exact List.mem_singleton_self _
  · split
    · exact List.mem_cons_self
    · exact List.mem_singleton_self _

/-- An OR behind a restriction stands in the rest of its predicate. -/
theorem exists_holdsOr
    {dialect : Dialect}
    {column : PlainName dialect}
    {restriction : Restriction}
    {place : Place}
    {rest : List Word}
    (faces : place.Faces (.ofName column.text :: (restriction.words ++ .ofKeyword .OR :: rest))) :
    ∃ reading ∈ (place.clause 0).predicates, Extent.HoldsOr reading.loose := by
  obtain ⟨reading, read, -, facesOr, -, -⟩ :=
    @exists_predicate? place _ _ restriction 0 0 0 column.isPlain.unquoteName_eq faces
      (Nat.zero_le 0) nofun rfl
  obtain ⟨token, others, tokens, isOr, -⟩ := facesOr.exists_cons
  have kind : token.kind = .keyword .OR := congrArg Word.kind isOr
  refine ⟨reading, mem_clause read, token, ?_, kind⟩
  rw [PredicateReading.loose, tokens, Extent.looseWidth]
  simp [Token.endsStatement, TokenKind.endsWhere, Token.closesGroup, Token.opensGroup, kind]

/-- The parenthesis in front of an operand is an operand by itself, which is no value. -/
theorem operand_of_leftParen
    {place : Place}
    {operand : PlainOperand}
    {rest : List Word}
    (faces : place.Faces (.ofSymbol .leftParen :: operand.word :: rest)) :
    place.operand = (.ignored, place.passBy 1) := by
  have ahead : (place.passBy 1).ahead.kind = operand.word.kind := faces.passBy.kind
  have noOwner : (place.passBy 1).ahead.kind ≠ .symbol .dot := by
    rw [ahead]
    cases operand <;> simp [PlainOperand.word, Word.ofSymbol, Word.ofInteger, Word.ofString]
  have isAlone : (place.passBy 1).ahead.kind.continuesOperand = false := by
    rw [ahead]
    cases operand <;> rfl
  rw [operand_of_isAlone noOwner isAlone, Parse.expressionOf, faces.kind]
  rfl

/-- An equality with an operand in parentheses is passed without the parenthesis that closes it.
There the reading stops, and what follows is not read. -/
theorem clause_stops_at_parenthesis
    {dialect : Dialect}
    {column : PlainName dialect}
    {operand : PlainOperand}
    {place : Place}
    {rest : List Word}
    (faces : place.Faces (.ofName column.text :: .ofSymbol .eq :: .ofSymbol .leftParen ::
      operand.word :: .ofSymbol .rightParen :: rest)) :
    ∃ last, (place.clause 0).ending = .stops last ∧ last.Faces (.ofSymbol .rightParen :: rest) ∧
      ∀ rule tables, (place.clause 0).conditions rule tables = [] := by
  obtain ⟨left, -⟩ := operand_of_faces_name column.isPlain.unquoteName_eq faces rfl
  have facesSign := faces.passBy
  have isSign : (place.passBy 1).ahead.kind = .symbol .eq := facesSign.kind
  have facesParen := facesSign.advance
  have facesOperand := facesParen.passBy
  have right := operand_of_leftParen facesParen
  have compares : place.comparison? =
      some (some ⟨.identifier column.text, .equal, [(place.passBy 1).advance]⟩,
        (place.passBy 1).advance.passBy 1) := by
    unfold comparison?
    rw [left]
    dsimp only
    rw [isSign, right]
  have noGroup : (place.tokens.takeWhile Token.opensGroup).length = 0 :=
    (@Faces.passBy_replicate place (.ofSymbol .leftParen) _ 0 faces
      (by simp [Word.kindAhead, Word.ofName, Word.ofSymbol]) (by simp [Word.ofSymbol])).1
  have startsOperand : place.startsOperand = true := by
    rw [Place.startsOperand, faces.kind]
    rfl
  obtain ⟨reading, read, inside, groups, compared⟩ :
      ∃ reading, place.predicate? 0 = some reading ∧
        reading.inside = (place.passBy 1).advance.passBy 1 ∧ reading.groups = 0 ∧
        reading.compared =
          some ⟨.identifier column.text, .equal, [(place.passBy 1).advance]⟩ := by
    rw [predicate?, noGroup, passBy_zero, compared?, startsOperand, if_pos rfl, compares]
    exact ⟨_, rfl, by simp [predicateRest], by simp [predicateRest], rfl⟩
  -- The operand is in the rest, and the parenthesis behind it closes no group that is counted.
  have extent : reading.extent = ⟨1, 0, false⟩ := by
    rw [PredicateReading.extent, inside, groups, ofPredicate_of_operand facesOperand,
      ofPredicate_of_ends (.inr (.inr ⟨facesOperand.passBy.kind, rfl⟩))]
  have facesBehind : reading.behind.Faces (.ofSymbol .rightParen :: rest) := by
    rw [PredicateReading.behind, extent, inside]
    exact facesOperand.passBy
  have clause : place.clause 0 = ⟨[reading], .stops reading.behind⟩ := by
    rw [clause_of_some read, extent, if_neg Bool.false_ne_true,
      if_neg (by simp [facesBehind.kind, Word.ofSymbol])]
  rw [clause]
  refine ⟨reading.behind, rfl, facesBehind, fun rule tables => ?_⟩
  simp [ClauseReading.conditions, compared, Comparison.condition?, right, Expression.isValue]

end Place

namespace Statement

variable {dialect : Dialect} {rule : Rule} {keys : Keys} {sql : String} {kind : StatementKind}
variable {state : ParseState}

/-- A statement is refused for an OR just when one stands in the rest of a predicate. -/
theorem parse_refuses_iff
    (opens : OpensWith dialect rule keys sql kind state)
    (hasWhere : kind.hasWhere = true)
    (isWhere : state.cursor.current.kind = .keyword .WHERE)
    (parameterCount : Nat) :
    (∃ literals, (Statement.parse dialect rule keys sql parameterCount).1 =
        .error (.unsupportedToken literals)) ↔
      ∃ reading ∈ (state.cursor.place.advance.clause 0).predicates,
        Extent.HoldsOr reading.loose := by
  have behind : Parse.Obeys (Parse.ending kind >>= fun _ => Parse.statement) Conduct.readingOver :=
    (Parse.ending_readsOver kind).bind fun _ => Parse.statement_readsOver
  have follows := Parse.whereClause_follows (state.current_kind.symm.trans isWhere)
  unfold Parse.FollowsClause at follows
  change _ ↔ ∃ reading ∈ (state.view.place.advance.clause 0).predicates, _
  rw [parse_of_opensWith opens hasWhere, ← Place.clause_meetsOr_iff]
  split at follows
  next place stops =>
    obtain ⟨value, reads⟩ := follows
    obtain ⟨between, passed, -⟩ := reads state rfl
    rw [Parse.outcome_bind_of_ok passed, stops]
    exact iff_of_false (behind.not_unsupported between) nofun
  next isOr =>
    obtain ⟨error, final, failed, literals, rfl⟩ := follows state rfl
    rw [Parse.outcome_bind_of_error failed]
    exact iff_of_true ⟨literals, rfl⟩ isOr
  next breaks =>
    obtain ⟨error, final, failed, other⟩ := follows state rfl
    rw [Parse.outcome_bind_of_error failed, breaks]
    refine iff_of_false ?_ nofun
    rintro ⟨literals, equal⟩
    exact other ⟨literals, Except.error.inj equal⟩

/-- The clause of a statement that is accepted is read to an end. -/
theorem stops_of_parse
    (opens : OpensWith dialect rule keys sql kind state)
    (hasWhere : kind.hasWhere = true)
    (isWhere : state.cursor.current.kind = .keyword .WHERE)
    {parameterCount : Nat}
    {statement : Statement}
    (parsed : (Statement.parse dialect rule keys sql parameterCount).1 = .ok statement) :
    ∃ last, (state.cursor.place.advance.clause 0).ending = .stops last := by
  have follows := Parse.whereClause_follows (state.current_kind.symm.trans isWhere)
  unfold Parse.FollowsClause at follows
  rw [parse_of_opensWith opens hasWhere] at parsed
  split at follows
  next last stops => exact ⟨last, stops⟩
  next =>
    obtain ⟨error, final, failed, -⟩ := follows state rfl
    rw [Parse.outcome_bind_of_error failed] at parsed
    cases parsed
  next =>
    obtain ⟨error, final, failed, -⟩ := follows state rfl
    rw [Parse.outcome_bind_of_error failed] at parsed
    cases parsed

/-- **An OR in a WHERE clause is refused just when it stands in the rest of a predicate.**  The other
parts of the clause are the operands and lists in front of these rests, and what follows the place
where the reading stops.  An OR of a statement that is accepted stands there: it is read over, or not
read at all. -/
theorem or_refused_or_unread
    (opens : OpensWith dialect rule keys sql kind state)
    (hasWhere : kind.hasWhere = true)
    (isWhere : state.cursor.current.kind = .keyword .WHERE)
    (parameterCount : Nat) :
    ((∃ literals, (Statement.parse dialect rule keys sql parameterCount).1 =
        .error (.unsupportedToken literals)) ↔
      ∃ reading ∈ (state.cursor.place.advance.clause 0).predicates,
        ∃ token ∈ reading.loose, token.kind = .keyword .OR) ∧
    ∀ statement, (Statement.parse dialect rule keys sql parameterCount).1 = .ok statement →
      ∃ last, (state.cursor.place.advance.clause 0).ending = .stops last ∧
        ∀ token ∈ state.cursor.place.advance.tokens, token.kind = .keyword .OR →
          (∃ reading ∈ (state.cursor.place.advance.clause 0).predicates, token ∈ reading.front) ∨
            token ∈ last.tokens := by
  refine ⟨parse_refuses_iff opens hasWhere isWhere parameterCount, fun statement parsed => ?_⟩
  obtain ⟨last, stops⟩ := stops_of_parse opens hasWhere isWhere parsed
  exact ⟨last, stops, fun token member isOr => (Place.readsClause_of_stops stops).or_unread member isOr⟩

section Samples

theorem isSpelled_equality
    {dialect : Dialect}
    (column : PlainName dialect) :
    ∀ word ∈ Conjunction.words (.single column (.equal .placeholder)), word.IsSpelled dialect :=
  Conjunction.isSpelled_words _

/-- An OR between two equalities is refused. -/
theorem parse_refuses_or_between_equalities :
    ∃ literals,
      (Statement.parse .mysql userRule (Keys.ofRule userRule 0)
        "SELECT * FROM t_order WHERE user_id = ? OR status = ?" 0).1 =
          .error (.unsupportedToken literals) := by
  have spelled : ∀ word ∈ Conjunction.words (.single userColumn (.equal .placeholder)) ++
      .ofKeyword .OR :: Conjunction.words (.single statusColumn (.equal .placeholder)),
      word.IsSpelled .mysql := by
    rw [List.forall_mem_append, List.forall_mem_cons]
    exact ⟨isSpelled_equality _, Word.isSpelled_ofKeyword (by decide), isSpelled_equality _⟩
  have text : Word.text (TableAccess.query.withClause orderTable.text
      (Conjunction.words (.single userColumn (.equal .placeholder)) ++
        .ofKeyword .OR :: Conjunction.words (.single statusColumn (.equal .placeholder)))) =
      "SELECT * FROM t_order WHERE user_id = ? OR status = ?" := by decide
  obtain ⟨state, place, opens, sees, faces, -⟩ :=
    opensWith_withClause userRule (Keys.ofRule userRule 0) orderTable.isPlain spelled .query
  rw [text] at opens
  have seesPlace : state.cursor.place = place := congrArg ParseView.place sees
  have isWhere : state.cursor.current.kind = .keyword .WHERE := by
    rw [Cursor.current_kind, seesPlace]
    exact faces.kind
  refine (or_refused_or_unread opens rfl isWhere 0).1.mpr ?_
  rw [seesPlace]
  exact Place.exists_holdsOr faces.advance

/-- The words of a comparison with an operand in parentheses in front of an OR. -/
def parenthesizedWords : List Word :=
  .ofName statusColumn.text :: .ofSymbol .eq :: .ofSymbol .leftParen :: .ofSymbol .question ::
    .ofSymbol .rightParen :: .ofKeyword .OR ::
      Conjunction.words (.single userColumn (.equal .placeholder))

/-- The words of an equality joined with this comparison. -/
def unreadWords : List Word :=
  Conjunction.words (.single userColumn (.equal .placeholder)) ++
    .ofKeyword .AND :: parenthesizedWords

theorem isSpelled_unreadWords :
    ∀ word ∈ unreadWords, word.IsSpelled .mysql := by
  rw [unreadWords, List.forall_mem_append]
  simp only [parenthesizedWords, List.forall_mem_cons]
  exact ⟨isSpelled_equality userColumn, Word.isSpelled_ofKeyword (by decide),
    Word.isSpelled_ofName statusColumn.isPlain,
    @Word.isSpelled_ofSymbol _ .eq '=' (by decide),
    @Word.isSpelled_ofSymbol _ .leftParen '(' (by decide),
    @Word.isSpelled_ofSymbol _ .question '?' (by decide),
    @Word.isSpelled_ofSymbol _ .rightParen ')' (by decide),
    Word.isSpelled_ofKeyword (by decide), isSpelled_equality userColumn⟩

theorem text_unreadWords :
    Word.text (TableAccess.query.withClause orderTable.text unreadWords) =
      "SELECT * FROM t_order WHERE user_id = ? AND status = ( ? ) OR user_id = ?" := by
  decide

/-- The reading of these words stops in front of the OR, and has one condition. -/
theorem clause_unreadWords
    {place : Place}
    (faces : place.Faces unreadWords)
    (noneBefore : place.placeholders = 0) :
    ∃ last, (place.clause 0).ending = .stops last ∧
      (∀ word, last.ahead.kind ≠ .keyword word) ∧
      (place.clause 0).conditions userRule ⟨[⟨"t_order", none⟩]⟩ =
        [⟨⟨"user_id", "t_order"⟩, .equal, [.placeholder 0]⟩] := by
  obtain ⟨readings, between, passes⟩ :=
    @Place.exists_passes place 0 _ (.single userColumn (.equal .placeholder)) 0 0
      (.ofKeyword .AND :: parenthesizedWords) faces (Nat.le_refl 0) (.inr (.inl rfl))
  have isAnd : between.ahead.kind = .keyword .AND := passes.faces.kind
  obtain ⟨last, stops, facesLast, noConditions⟩ :=
    @Place.clause_stops_at_parenthesis _ statusColumn .placeholder _ _ passes.faces.advance
  have clause := passes.clause
  rw [Place.further, if_pos isAnd] at clause
  have stated := passes.conditions userRule "t_order"
  rw [noneBefore] at stated
  refine ⟨last, by rw [clause]; exact stops, ?_, ?_⟩
  · simp [facesLast.kind, Word.ofSymbol]
  · rw [clause, ClauseReading.conditions, List.filterMap_append, stated]
    change _ ++ (between.advance.clause 0).conditions userRule ⟨[⟨"t_order", none⟩]⟩ = _
    rw [noConditions]
    decide

/-- An OR behind an operand in parentheses is not read.  The condition beside it is kept. -/
theorem parse_accepts_or_behind_parentheses :
    ∃ statement,
      (Statement.parse .mysql userRule (Keys.ofRule userRule 0)
        "SELECT * FROM t_order WHERE user_id = ? AND status = ( ? ) OR user_id = ?" 0).1 =
          .ok statement ∧
      statement.conditions.toList = [⟨⟨"user_id", "t_order"⟩, .equal, [.placeholder 0]⟩] ∧
      ∃ token ∈ Lexer.tokens .mysql
          "SELECT * FROM t_order WHERE user_id = ? AND status = ( ? ) OR user_id = ?",
        token.kind = .keyword .OR := by
  rw [← text_unreadWords]
  obtain ⟨state, place, opens, sees, faces, noneBefore⟩ :=
    opensWith_withClause userRule (Keys.ofRule userRule 0) orderTable.isPlain
      isSpelled_unreadWords .query
  obtain ⟨last, stops, noKeyword, conditions⟩ := clause_unreadWords faces.advance noneBefore
  obtain ⟨statement, parsed, recorded⟩ := parse_of_stops opens rfl
    (by rw [sees]; exact faces.kind) (by rw [sees]; exact stops) noKeyword 0
  rw [sees] at recorded
  change statement.conditions =
    ((place.advance.clause 0).conditions userRule ⟨[⟨"t_order", none⟩]⟩).foldl _ {} at recorded
  rw [conditions] at recorded
  obtain ⟨token, member, isOr⟩ := Lexer.exists_token_of_word
    (isSpelled_withClause orderTable.isPlain isSpelled_unreadWords .query)
    (show Word.ofKeyword .OR ∈ TableAccess.query.withClause orderTable.text unreadWords by decide)
  exact ⟨statement, parsed, by rw [recorded]; rfl, token, member, congrArg Word.kind isOr⟩

end Samples

end Statement

end ShardedSql
