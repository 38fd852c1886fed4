import ShardedSql.Proofs.Statement.Kind
import ShardedSql.Proofs.Token.Division

/-!
# What leads a statement

A statement is led by a keyword, with semicolons and named queries in front of it.  The parse reads over
these, while a judgement by keywords alone looks into them: the two agree on a statement unless a word in
its named queries decides the judgement first.
-/

namespace ShardedSql

/-- Whether a token ends the search for the keyword of a statement: it is such a keyword, or it fits no
class. -/
def Token.endsSearch (token : Token) : Bool :=
  (StatementKind.ofToken? token).isSome || token.kind == .unknown

theorem Token.endsSearch_of_kind
    {token : Token}
    {kind : TokenKind}
    (isKind : token.kind = kind)
    (isOther : ∀ word, kind = .keyword word → StatementKind.ofKeyword? word = none)
    (isClassed : kind ≠ .unknown) :
    token.endsSearch = false := by
  have none : StatementKind.ofToken? token = none := by
    unfold StatementKind.ofToken?
    split
    next word isWord => exact isOther word (isKind.symm.trans isWord)
    next => rfl
  simp [endsSearch, none, isKind, isClassed]

/-- A name is no keyword of a statement. -/
theorem Token.endsSearch_of_isName
    {token : Token}
    (isName : token.kind.isName = true) :
    token.endsSearch = false := by
  apply endsSearch_of_kind rfl
  · intro word isWord
    rw [isWord] at isName
    cases word <;> first | rfl | exact absurd isName (by decide)
  · intro isUnknown
    rw [isUnknown] at isName
    cases isName

namespace Cursor

/-- The tokens of the group in parentheses ahead, if there is one. -/
def groupAhead (cursor : Cursor) : List Token :=
  cursor.tokens.take (Extent.groupWidth cursor.tokens)

/-- The cursor behind the group in parentheses ahead, if there is one. -/
def behindGroup (cursor : Cursor) : Cursor :=
  cursor.passBy (Extent.groupWidth cursor.tokens)

/-- A named query ahead, with the tokens that it has in parentheses: its columns, if they are listed, and
the query. -/
inductive NamedQuery (cursor : Cursor) : List Token → Cursor → Prop where
  | mk
      (isName : cursor.current.kind.isName = true)
      (isAs : cursor.advance.behindGroup.current.kind = .keyword .AS)
      (opens : cursor.advance.behindGroup.advance.current.kind = .symbol .leftParen) :
      NamedQuery cursor
        (cursor.advance.groupAhead ++ cursor.advance.behindGroup.advance.groupAhead)
        cursor.advance.behindGroup.advance.behindGroup

/-- Named queries ahead, with commas between them and with the tokens that they have in parentheses. -/
inductive NamedQueries : Cursor → List Token → Cursor → Prop where
  | last
      {cursor behind : Cursor}
      {enclosed : List Token}
      (query : cursor.NamedQuery enclosed behind)
      (ends : behind.current.kind ≠ .symbol .comma) :
      NamedQueries cursor enclosed behind
  | next
      {cursor between behind : Cursor}
      {enclosed others : List Token}
      (query : cursor.NamedQuery enclosed between)
      (isComma : between.current.kind = .symbol .comma)
      (queries : NamedQueries between.advance others behind) :
      NamedQueries cursor (enclosed ++ others) behind

/-- Semicolons and named queries in front of a statement, with the tokens that these have in
parentheses. -/
inductive LeadsIn : Cursor → List Token → Cursor → Prop where
  | statement
      {cursor : Cursor}
      (noSemicolon : cursor.current.kind ≠ .symbol .semi)
      (noQueries : cursor.current.kind ≠ .keyword .WITH) :
      LeadsIn cursor [] cursor
  | semicolon
      {cursor behind : Cursor}
      {enclosed : List Token}
      (isSemicolon : cursor.current.kind = .symbol .semi)
      (others : LeadsIn cursor.advance enclosed behind) :
      LeadsIn cursor enclosed behind
  | queries
      {cursor behind : Cursor}
      {enclosed : List Token}
      (isWith : cursor.current.kind = .keyword .WITH)
      (queries : cursor.advance.NamedQueries enclosed behind) :
      LeadsIn cursor enclosed behind

section Search

variable {cursor behind : Cursor} {enclosed : List Token}

theorem groupAhead_append (cursor : Cursor) :
    cursor.groupAhead ++ cursor.behindGroup.tokens = cursor.tokens := by
  rw [groupAhead, behindGroup, tokens_passBy, List.take_append_drop]

/-- A token that does not end the search is passed by it. -/
theorem find?_advance (goesOn : cursor.current.endsSearch = false) :
    cursor.tokens.find? Token.endsSearch = cursor.advance.tokens.find? Token.endsSearch := by
  obtain ⟨tokens, textLength, placeholders, lastStop⟩ := cursor
  cases tokens with
  | nil => rfl
  | cons token rest =>
      have skipped : token.endsSearch = false := goesOn
      exact List.find?_cons_of_neg (by simp [skipped])

theorem find?_advance_of_kind
    {kind : TokenKind}
    (isKind : cursor.current.kind = kind)
    (isOther : ∀ word, kind = .keyword word → StatementKind.ofKeyword? word = none)
    (isClassed : kind ≠ .unknown) :
    cursor.tokens.find? Token.endsSearch = cursor.advance.tokens.find? Token.endsSearch :=
  find?_advance (Token.endsSearch_of_kind isKind isOther isClassed)

theorem find?_group (cursor : Cursor) :
    cursor.tokens.find? Token.endsSearch =
      (cursor.groupAhead.find? Token.endsSearch).or
        (cursor.behindGroup.tokens.find? Token.endsSearch) := by
  rw [← List.find?_append, groupAhead_append]

theorem NamedQuery.length_le (query : cursor.NamedQuery enclosed behind) :
    behind.tokens.length ≤ cursor.tokens.length := by
  obtain ⟨-, -, -⟩ := query
  simp only [behindGroup, tokens_passBy, advance, List.length_drop, List.length_tail]
  omega

/-- The search goes through the parentheses of a named query first. -/
theorem NamedQuery.find?_eq (query : cursor.NamedQuery enclosed behind) :
    cursor.tokens.find? Token.endsSearch =
      (enclosed ++ behind.tokens).find? Token.endsSearch := by
  obtain ⟨isName, isAs, opens⟩ := query
  rw [find?_advance (Token.endsSearch_of_isName isName), find?_group,
    find?_advance_of_kind isAs (by rintro word ⟨rfl⟩; rfl) nofun, find?_group, List.find?_append,
    List.find?_append, Option.or_assoc]

theorem NamedQueries.find?_eq (queries : cursor.NamedQueries enclosed behind) :
    cursor.tokens.find? Token.endsSearch =
      (enclosed ++ behind.tokens).find? Token.endsSearch := by
  induction queries with
  | last query => exact query.find?_eq
  | next query isComma _ ih =>
      rw [query.find?_eq, List.find?_append, find?_advance_of_kind isComma nofun nofun, ih,
        ← List.find?_append, List.append_assoc]

/-- The keyword that leads a statement ends the search. -/
theorem find?_of_lead
    {kind : StatementKind}
    (isLead : StatementKind.ofToken? cursor.current = some kind) :
    cursor.tokens.find? Token.endsSearch = some cursor.current := by
  obtain ⟨tokens, textLength, placeholders, lastStop⟩ := cursor
  cases tokens with
  | nil => cases isLead
  | cons token rest =>
      have leads : StatementKind.ofToken? token = some kind := isLead
      exact List.find?_cons_of_pos (by simp [Token.endsSearch, leads])

theorem LeadsIn.find?_eq (leads : cursor.LeadsIn enclosed behind) :
    cursor.tokens.find? Token.endsSearch =
      (enclosed ++ behind.tokens).find? Token.endsSearch := by
  induction leads with
  | statement => rfl
  | semicolon isSemicolon _ ih => rw [find?_advance_of_kind isSemicolon nofun nofun, ih]
  | queries isWith queries =>
      rw [find?_advance_of_kind isWith (by rintro word ⟨rfl⟩; rfl) nofun, queries.find?_eq]

end Search

end Cursor

namespace Parse

variable {before after : ParseState}

theorem outcome_group_cursor (state : ParseState) :
    ∃ text, group.outcome state =
      (.ok text, { state with cursor := state.cursor.behindGroup }) :=
  exists_outcome_group state

theorem needSign_eq_ok
    {α : Type}
    {next : Parse α}
    {sign : Symbol}
    {expected : String}
    {value : α}
    (ran : outcome (do
      if !(← isSign sign) then
        failUnexpected expected
      next) before = (.ok value, after)) :
    before.cursor.current.kind = .symbol sign ∧ next.outcome before = (.ok value, after) := by
  rw [isSign, outcome_bind_of_ok (outcome_isKind _ before)] at ran
  by_cases isThere : before.cursor.current.kind = .symbol sign
  · simp only [isThere, beq_self_eq_true, Bool.not_true, Bool.false_eq_true, if_false] at ran
    exact ⟨isThere, ran⟩
  · rw [beq_false_of_ne isThere] at ran
    cases ran

theorem namedQuery_eq_ok
    {again : Bool}
    (ran : namedQuery.outcome before = (.ok again, after)) :
    ∃ enclosed behind, before.cursor.NamedQuery enclosed behind ∧
      (again = true ↔ behind.current.kind = .symbol .comma) ∧
      after = { before with cursor := if again then behind.advance else behind } := by
  obtain ⟨isName, ran⟩ := needName_eq_ok ran
  rw [outcome_bind_of_ok (outcome_advance before)] at ran
  obtain ⟨columns, passed⟩ := outcome_group_cursor { before with cursor := before.cursor.advance }
  rw [outcome_bind_of_ok passed] at ran
  obtain ⟨_, behindAs, accepted, ran⟩ := outcome_bind_eq_ok.mp ran
  rw [acceptWord, outcome_accept] at accepted
  split at accepted
  next isAs =>
    cases accepted
    obtain ⟨opens, ran⟩ := needSign_eq_ok ran
    obtain ⟨query, passedQuery⟩ := outcome_group_cursor
      { before with cursor := before.cursor.advance.behindGroup.advance }
    rw [outcome_bind_of_ok passedQuery, skipSign, outcome_skipKind] at ran
    refine ⟨_, _, .mk isName isAs opens, ?_⟩
    split at ran
    next isComma =>
      cases ran
      exact ⟨iff_of_true rfl isComma, rfl⟩
    next noComma =>
      cases ran
      exact ⟨iff_of_false Bool.false_ne_true noComma, rfl⟩
  next => cases accepted

theorem namedQueries_eq_ok
    (ran : (repeatStep namedQuery).outcome before = (.ok (), after)) :
    ∃ enclosed, before.cursor.NamedQueries enclosed after.cursor := by
  apply repeatStep_finishes
    (fun before after => ∃ enclosed, before.cursor.NamedQueries enclosed after.cursor) _ _ ran
  · intro before after turn
    obtain ⟨enclosed, behind, query, again, rfl⟩ := namedQuery_eq_ok turn
    exact ⟨enclosed, .last query fun isComma => Bool.noConfusion (again.mpr isComma)⟩
  · intro before between turn
    obtain ⟨enclosed, behind, query, again, rfl⟩ := namedQuery_eq_ok turn
    have isComma := again.mp rfl
    constructor
    · exact Nat.lt_of_lt_of_le (Cursor.length_advance_lt isComma (by decide)) query.length_le
    · rintro after ⟨others, queries⟩
      exact ⟨enclosed ++ others, .next query isComma queries⟩

/-- Everything in front of the keyword that leads a statement is read over. -/
theorem leading_leadsIn
    {kind : StatementKind}
    (led : leading.outcome before = (.ok kind, after)) :
    ∃ enclosed, before.cursor.LeadsIn enclosed after.cursor := by
  obtain ⟨_, between, skipped, behind⟩ := outcome_bind_eq_ok.mp led
  obtain ⟨_, last, passed, found⟩ := outcome_bind_eq_ok.mp behind
  have started : after.cursor = last.cursor := by
    rw [startKind, outcome_bind_of_ok (outcome_current last)] at found
    split at found
    next => cases found
    next => cases found; rfl
  have leads : between.cursor.current.kind ≠ .symbol .semi →
      ∃ enclosed, between.cursor.LeadsIn enclosed last.cursor := by
    intro noSemicolon
    rw [withClause, outcome_bind, skipWord, outcome_skipKind] at passed
    by_cases isWith : between.cursor.current.kind = .keyword .WITH
    · rw [if_pos isWith] at passed
      obtain ⟨enclosed, queries⟩ := namedQueries_eq_ok passed
      exact ⟨enclosed, .queries isWith queries⟩
    · rw [if_neg isWith] at passed
      cases passed
      exact ⟨[], .statement noSemicolon isWith⟩
  rw [started]
  refine repeatStep_finishes
    (fun before between => (between.cursor.current.kind ≠ .symbol .semi →
        ∃ enclosed, between.cursor.LeadsIn enclosed last.cursor) →
      ∃ enclosed, before.cursor.LeadsIn enclosed last.cursor) ?_ ?_ skipped leads
  · intro before between turn
    rw [skipSign, outcome_skipKind] at turn
    split at turn
    next => cases turn
    next noSemicolon =>
      cases turn
      exact fun others => others noSemicolon
  · intro before between turn
    rw [skipSign, outcome_skipKind] at turn
    split at turn
    next isSemicolon =>
      cases turn
      refine ⟨Cursor.length_advance_lt isSemicolon (by decide), fun after rest others => ?_⟩
      obtain ⟨enclosed, leads⟩ := rest others
      exact ⟨enclosed, .semicolon isSemicolon leads⟩
    next => cases turn

end Parse

namespace Statement

variable {dialect : Dialect} {sql : String}

/-- The search of a judgement ends at the first token that ends it. -/
theorem findSome?_takeWhile
    {tokens : List Token}
    (areFilled : ∀ token ∈ tokens, token.kind ≠ .finish)
    (finish : Nat) :
    ((tokens ++ [Token.finish finish]).takeWhile fun token =>
        token.kind != .finish && token.kind != .unknown).findSome? StatementKind.ofToken? =
      (tokens.find? Token.endsSearch).bind StatementKind.ofToken? := by
  induction tokens with
  | nil => rfl
  | cons token tokens ih =>
      have isFilled := areFilled token List.mem_cons_self
      have others := ih fun other isThere => areFilled other (List.mem_cons_of_mem _ isThere)
      rw [List.cons_append]
      by_cases isUnknown : token.kind = .unknown
      · have none : StatementKind.ofToken? token = none := by
          rw [StatementKind.ofToken?, isUnknown]
        rw [List.takeWhile_cons_of_neg (by simp [isUnknown]),
          List.find?_cons_of_pos (by simp [Token.endsSearch, isUnknown]), Option.bind_some, none]
        rfl
      · rw [List.takeWhile_cons_of_pos (by simp [isFilled, isUnknown]), List.findSome?_cons, others]
        cases isKind : StatementKind.ofToken? token with
        | none => rw [List.find?_cons_of_neg (by simp [Token.endsSearch, isKind, isUnknown])]
        | some kind =>
            rw [List.find?_cons_of_pos (by simp [Token.endsSearch, isKind]), Option.bind_some, isKind]

/-- A judgement goes by the first token that ends its search. -/
theorem judge_eq_ok
    {kind : StatementKind} :
    judge dialect sql = .ok kind ↔
      ((Cursor.ofText dialect sql).tokens.find? Token.endsSearch).bind StatementKind.ofToken? =
        some kind := by
  have areFilled : ∀ token ∈ (Cursor.ofText dialect sql).tokens, token.kind ≠ .finish := by
    intro token isToken
    simpa using (List.mem_filter.mp isToken).2
  obtain ⟨finish, isTokens⟩ := Lexer.exists_tokens_eq dialect sql
  rw [judge, isTokens, findSome?_takeWhile areFilled]
  cases ((Cursor.ofText dialect sql).tokens.find? Token.endsSearch).bind
    StatementKind.ofToken? with
  | none => simp
  | some found => simp

/-- **A judgement and a parse agree unless a named query decides the judgement.**  A statement that is
parsed has the kind of the keyword behind its named queries.  A judgement gives this kind just when no
token in the parentheses of these queries ends its search before, or the first one that does is a keyword
of the same kind. -/
theorem judge_eq_kind_iff
    {rule : Rule}
    {keys : Keys}
    {parameterCount : Nat}
    {statement : Statement}
    (parsed : (Statement.parse dialect rule keys sql parameterCount).1 = .ok statement) :
    ∃ enclosed lead,
      (Cursor.ofText dialect sql).LeadsIn enclosed lead ∧
      StatementKind.ofToken? lead.current = some statement.kind ∧
      (judge dialect sql = .ok statement.kind ↔
        ∀ token ∈ enclosed.find? Token.endsSearch,
          StatementKind.ofToken? token = some statement.kind) := by
  obtain ⟨kind, front, led, rfl, -⟩ := exists_leading_of_parse parsed
  obtain ⟨enclosed, leads⟩ := Parse.leading_leadsIn led
  have isLead := (Parse.leading_eq_ok led).2.1
  refine ⟨enclosed, front.cursor, leads, isLead, ?_⟩
  have searched := leads.find?_eq
  rw [List.find?_append, Cursor.find?_of_lead isLead] at searched
  rw [judge_eq_ok]
  change ((Cursor.ofText dialect sql).tokens.find? Token.endsSearch) = _ at searched
  rw [searched]
  cases enclosed.find? Token.endsSearch with
  | none => simpa using isLead
  | some token => simp

/-- The text of a query behind a named query. -/
def recentQueryText : String :=
  "WITH recent AS (SELECT 1) SELECT * FROM t_order"

/-- The named query of this query is of the same kind. -/
theorem judge_recentQueryText :
    ∃ statement,
      (Statement.parse .mysql userRule (Keys.ofRule userRule 0) recentQueryText 0).1 =
        .ok statement ∧
      judge .mysql recentQueryText = .ok statement.kind ∧
      ∃ enclosed lead,
        (Cursor.ofText .mysql recentQueryText).LeadsIn enclosed lead ∧
        StatementKind.ofToken? lead.current = some statement.kind ∧
        (judge .mysql recentQueryText = .ok statement.kind ↔
          ∀ token ∈ enclosed.find? Token.endsSearch,
            StatementKind.ofToken? token = some statement.kind) := by
  have read : (Statement.parse .mysql userRule (Keys.ofRule userRule 0)
      recentQueryText 0).1.toOption.map Statement.kind = some .select := by
    decide +kernel
  have judged : (judge .mysql recentQueryText).toOption = some .select := by
    decide +kernel
  obtain ⟨statement, isParsed, isSelect⟩ := Option.map_eq_some_iff.mp read
  have parsed := Success.toOption_eq_some.mp isParsed
  refine ⟨statement, parsed, ?_, judge_eq_kind_iff parsed⟩
  rw [isSelect]
  exact Success.toOption_eq_some.mp judged

/-- The text of an UPDATE behind a named query. -/
def recentUpdateText : String :=
  "WITH recent AS (SELECT 1) UPDATE t_order SET status = 'x' WHERE user_id = 1"

/-- This UPDATE is judged to be the query in front of it. -/
theorem exists_update_judged_select :
    ∃ statement,
      (Statement.parse .mysql userRule (Keys.ofRule userRule 0) recentUpdateText 0).1 =
        .ok statement ∧
      statement.kind = .update ∧ judge .mysql recentUpdateText = .ok .select := by
  have read : (Statement.parse .mysql userRule (Keys.ofRule userRule 0)
      recentUpdateText 0).1.toOption.map Statement.kind = some .update := by
    decide +kernel
  have judged : (judge .mysql recentUpdateText).toOption = some .select := by
    decide +kernel
  obtain ⟨statement, isParsed, isUpdate⟩ := Option.map_eq_some_iff.mp read
  exact ⟨statement, Success.toOption_eq_some.mp isParsed, isUpdate,
    Success.toOption_eq_some.mp judged⟩

end Statement

end ShardedSql
