import ShardedSql.Proofs.Rendering.Respelling
import ShardedSql.Proofs.Statement.Binding
import ShardedSql.Proofs.Token.Numeral

/-!
# The text of a row with a key

A key is added to the column list and to the row of an INSERT.  The rendered text has the tokens of the
statement with these two members added, and each of its placeholders takes the value that it took before.
-/

namespace ShardedSql

open Cursor (ofText)

namespace Cursor

variable {start cursor behind : Cursor} {token : Token}

/-- Whether a cursor stands directly behind a token that a name may follow. -/
def IsLed (start cursor : Cursor) : Prop :=
  ∃ leading : Token, leading.LeadsName ∧ leading :: cursor.tokens <:+ start.tokens

/-- Whether a token is a name directly behind a token that it may follow. -/
structure LeadsTo
    (start : Cursor)
    (token : Token) : Prop where
  isName : token.kind.isName = true
  follows : ∃ (leading : Token) (rest : List Token), leading.LeadsName ∧
    leading :: token :: rest <:+ start.tokens

theorem isLed_advance
    (suffix : cursor.tokens <:+ start.tokens)
    (leads : cursor.current.LeadsName) :
    start.IsLed cursor.advance := by
  have notLast : cursor.current.kind ≠ .finish := by
    rcases leads with ⟨keyword, isKeyword⟩ | ⟨sign, -, isSign⟩
    · rw [isKeyword]
      nofun
    · rw [isSign]
      nofun
  rw [tokens_of_current notLast] at suffix
  exact ⟨cursor.current, leads, suffix⟩

theorem IsLed.suffix (led : start.IsLed cursor) : cursor.tokens <:+ start.tokens := by
  obtain ⟨leading, -, suffix⟩ := led
  exact (List.suffix_cons _ _).trans suffix

theorem IsLed.skipAny
    {kinds : List TokenKind}
    (led : start.IsLed cursor)
    (areKeywords : ∀ kind ∈ kinds, ∃ keyword, kind = .keyword keyword) :
    start.IsLed (cursor.skipAny kinds) := by
  unfold Cursor.skipAny
  split
  next isThere =>
    obtain ⟨keyword, isKeyword⟩ := areKeywords _ (List.contains_iff_mem.mp isThere)
    exact isLed_advance led.suffix (.inl ⟨keyword, isKeyword⟩)
  next => exact led

theorem IsLed.leadsTo
    (led : start.IsLed cursor)
    (isName : cursor.current.kind.isName = true) :
    start.LeadsTo cursor.current := by
  obtain ⟨leading, leads, suffix⟩ := led
  have notLast : cursor.current.kind ≠ .finish := by
    intro isLast
    rw [isLast] at isName
    cases isName
  rw [tokens_of_current notLast] at suffix
  exact ⟨isName, leading, _, leads, suffix⟩

theorem TableName.leadsTo
    (led : start.IsLed cursor)
    (table : cursor.TableName token behind) :
    start.LeadsTo token := by
  cases table with
  | bare isName => exact led.leadsTo isName
  | owned isName isPoint isSecond =>
      have suffix : cursor.advance.tokens <:+ start.tokens := (List.tail_suffix _).trans led.suffix
      exact (isLed_advance suffix (.inr ⟨.dot, by decide, isPoint⟩)).leadsTo isSecond

theorem SingleTable.leadsTo
    {aliasName : Option String}
    (led : start.IsLed cursor)
    (table : cursor.SingleTable token aliasName behind) :
    start.LeadsTo token := by
  cases table with
  | plain named => exact named.leadsTo led
  | grouped opens named =>
      exact named.leadsTo (isLed_advance led.suffix (.inr ⟨.leftParen, by decide, opens⟩))

/-- Each value of a row stands behind a parenthesis or a comma. -/
theorem ReadsValues.areLed
    {starts : List Cursor}
    {closing : Cursor}
    (led : start.IsLed cursor)
    (values : cursor.ReadsValues starts closing) :
    ∀ value ∈ starts, start.IsLed value := by
  induction values with
  | last => exact List.forall_mem_singleton.mpr led
  | @next cursor closing starts isComma _ ih =>
      have suffix := (@reaches_behindOperand cursor).suffix.trans led.suffix
      exact List.forall_mem_cons.mpr ⟨led, ih (isLed_advance suffix (.inr ⟨.comma, by decide, isComma⟩))⟩

theorem IsLed.leadsTo_of_owner
    {tables : Tables}
    {marker : Marker}
    (led : start.IsLed cursor)
    (isMarker : marker ∈ cursor.ownerMarks tables) :
    marker = cursor.current.mark ∧ start.LeadsTo cursor.current := by
  unfold ownerMarks at isMarker
  split at isMarker
  next owner name isOperand =>
    split at isMarker
    next =>
      have isIdentifier := Place.isIdentifier_of_property isOperand
      rw [← current_kind] at isIdentifier
      exact ⟨List.mem_singleton.mp isMarker,
        led.leadsTo (by simp [TokenKind.isName, isIdentifier])⟩
    next => cases isMarker
  next => cases isMarker

end Cursor

namespace InsertReading

variable {reading : InsertReading} {cursor closing : Cursor}

/-- Each marker of a row in parentheses stands on a name behind a token that it may follow. -/
theorem IsRead.leadsTo
    (isRead : reading.IsRead cursor)
    (isClosing : reading.row.closing = some closing) :
    ∀ marker ∈ reading.markers, ∃ token, marker = token.mark ∧ cursor.LeadsTo token := by
  have front : cursor.IsLed cursor.advance :=
    Cursor.isLed_advance (List.suffix_refl _) (.inl ⟨_, isRead.isInsert⟩)
  have table := isRead.table.leadsTo ((front.skipAny (by simp)).skipAny (by simp))
  have row := isRead.row
  generalize isReading : reading.row = read at row isClosing
  cases row with
  | assignments => cases isClosing
  | @values starts last isValues opens values =>
      have counts := ((isRead.countsTable.trans isRead.table.counts).trans isRead.list.counts).reaches
      have suffix : reading.behindList.advance.tokens <:+ cursor.tokens :=
        (List.tail_suffix _).trans counts.suffix
      have led := values.areLed (Cursor.isLed_advance suffix (.inr ⟨.leftParen, by decide, opens⟩))
      intro marker isMarker
      rcases List.mem_append.mp isMarker with isTable | isOwner
      · exact ⟨reading.token, List.mem_singleton.mp isTable, table⟩
      · rw [isReading] at isOwner
        obtain ⟨value, isValue, isMark⟩ := List.mem_flatMap.mp isOwner
        obtain ⟨rfl, leads⟩ := (led value isValue).leadsTo_of_owner isMark
        exact ⟨_, rfl, leads⟩

end InsertReading

/-- Whether a marker stands on a name whose last character is a single quote. -/
def Marker.IsSingleQuoted : Marker → Prop
  | .table _ literals => literals.toList.getLast? = some '\''
  | .items _ _ | .orderBy _ | .rowCount _ _ _ | .offset _ _ _ => False

section Adjacent

variable {dialect : Dialect} {sql : String} {leading token other : Token} {front back : List Token}

/-- No token begins between two tokens next to each other. -/
theorem Cursor.start_le_of_adjacent
    (split : (ofText dialect sql).tokens = front ++ leading :: token :: back) :
    leading.start < token.start ∧
      ∀ other ∈ (ofText dialect sql).tokens, other.start < token.start → other.start ≤ leading.start := by
  obtain ⟨ordered, filled⟩ := tokens_ofText_ordered dialect sql
  rw [split] at ordered filled ⊢
  obtain ⟨-, ordered, areInFront⟩ := List.pairwise_append.mp ordered
  obtain ⟨areBehind, ordered⟩ := List.pairwise_cons.mp ordered
  have areLast := (List.pairwise_cons.mp ordered).1
  have isFilled := filled leading (by simp)
  have follows := areBehind token List.mem_cons_self
  refine ⟨by omega, fun other isOther isBefore => ?_⟩
  rcases List.mem_append.mp isOther with isFront | isThere
  · have before := areInFront other isFront leading List.mem_cons_self
    have otherFilled := filled other isOther
    omega
  · rcases List.mem_cons.mp isThere with rfl | isThere
    · exact Nat.le_refl _
    · rcases List.mem_cons.mp isThere with rfl | isBack
      · exact absurd isBefore (Nat.lt_irrefl _)
      · have behind := areLast other isBack
        have tokenFilled := filled token (by simp)
        omega

/-- Tokens begin one behind the other. -/
theorem Cursor.starts_ordered (dialect : Dialect) (sql : String) :
    (ofText dialect sql).tokens.Pairwise fun first second => first.start < second.start := by
  obtain ⟨ordered, filled⟩ := tokens_ofText_ordered dialect sql
  apply ordered.imp_of_mem
  intro first second isFirst _ follows
  exact Nat.lt_of_lt_of_le (filled first isFirst) follows

/-- A token is the only one that begins at its place. -/
theorem Cursor.eq_of_start
    (isToken : token ∈ (ofText dialect sql).tokens)
    (isOther : other ∈ (ofText dialect sql).tokens)
    (same : other.start = token.start) :
    other = token := by
  have filled := (tokens_ofText_ordered dialect sql).2
  have isFilled := filled token isToken
  have otherFilled := filled other isOther
  rcases apart_of_mem isToken other isOther with isFront | isSame | isBehind
  · omega
  · exact isSame
  · omega

/-- Tokens in front of the same place are the same. -/
theorem Cursor.eq_of_adjacent
    {leadingOther : Token}
    {frontOther backOther : List Token}
    (split : (ofText dialect sql).tokens = front ++ leading :: token :: back)
    (splitOther : (ofText dialect sql).tokens = frontOther ++ leadingOther :: other :: backOther)
    (same : other.start = token.start) :
    leadingOther = leading := by
  obtain ⟨isBefore, isClosest⟩ := start_le_of_adjacent split
  obtain ⟨otherBefore, otherClosest⟩ := start_le_of_adjacent splitOther
  have isLeading : leading ∈ (ofText dialect sql).tokens := by
    rw [split]
    exact List.mem_append_right _ List.mem_cons_self
  have isOther : leadingOther ∈ (ofText dialect sql).tokens := by
    rw [splitOther]
    exact List.mem_append_right _ List.mem_cons_self
  have first := isClosest leadingOther isOther (by omega)
  have second := otherClosest leading isLeading (by omega)
  exact eq_of_start isLeading isOther (by omega)

/-- In front of the first token of a text stands no token. -/
theorem Cursor.start_lt_of_first
    (split : (ofText dialect sql).tokens = front ++ leading :: token :: back)
    (isFirst : other ∈ (ofText dialect sql).tokens.head?) :
    other.start < token.start := by
  have isBefore := (start_le_of_adjacent split).1
  have isLeading : leading ∈ (ofText dialect sql).tokens := by
    rw [split]
    exact List.mem_append_right _ List.mem_cons_self
  have ordered := starts_ordered dialect sql
  obtain ⟨rest, isRest⟩ := List.head?_eq_some_iff.mp isFirst
  rw [isRest] at ordered isLeading
  rcases List.mem_cons.mp isLeading with rfl | isLater
  · exact isBefore
  · exact ((List.pairwise_cons.mp ordered).1 leading isLater).trans isBefore

end Adjacent

namespace InsertReading

variable {reading : InsertReading} {cursor listEnd rowEnd : Cursor} {request : RenderRequest}
variable {dialect : Dialect} {names : TableNames} {column value : String}

/-- The markers of a row with a key added to it. -/
def keyedMarkers
    (reading : InsertReading)
    (listEnd rowEnd : Cursor)
    (column value : String) : List Marker :=
  reading.markers ++ [.items listEnd.current.start [column]] ++ [.items rowEnd.current.start [value]]

/-- A row by itself adds no items. -/
theorem items_notMem_markers
    {position : Nat}
    {items : List String} :
    .items position items ∉ reading.markers := by
  intro isMarker
  rcases List.mem_append.mp isMarker with isTable | isOwner
  · cases List.mem_singleton.mp isTable
  · obtain ⟨start, -, isMark⟩ := List.mem_flatMap.mp isOwner
    unfold Cursor.ownerMarks at isMark
    split at isMark
    next =>
      split at isMark
      next => cases List.mem_singleton.mp isMark
      next => cases isMark
    next => cases isMark

/-- Items are added at the ends of the column list and of the row. -/
theorem items_mem_keyedMarkers
    {position : Nat}
    {item : String}
    (isMarker : .items position [item] ∈ reading.keyedMarkers listEnd rowEnd column value) :
    position = listEnd.current.start ∨ position = rowEnd.current.start := by
  rcases List.mem_append.mp isMarker with isEarlier | isLast
  · rcases List.mem_append.mp isEarlier with isName | isFirst
    · exact absurd isName items_notMem_markers
    · cases List.mem_singleton.mp isFirst
      exact .inl rfl
  · cases List.mem_singleton.mp isLast
    exact .inr rfl

theorem mark_mem_keyedMarkers
    {token : Token}
    (isMarked : token.mark ∈ reading.keyedMarkers listEnd rowEnd column value) :
    token.mark ∈ reading.markers := by
  simpa [keyedMarkers, Token.mark] using isMarked

/-- A row in parentheses with a key is rendered token by token. -/
theorem IsRead.respells
    (isRead : reading.IsRead cursor)
    (suffix : cursor.tokens <:+ (ofText dialect request.sql).tokens)
    (isList : reading.listClosing = some listEnd)
    (isRow : reading.row.closing = some rowEnd)
    (isMarked : request.statement.IsMarkedIn dialect request.sql)
    (markers : request.statement.markers = reading.keyedMarkers listEnd rowEnd column value)
    (noSingle : ∀ marker ∈ reading.markers, ¬ marker.IsSingleQuoted)
    (isColumn : Lexer.IsMemberText dialect column)
    (isValue : Lexer.IsMemberText dialect value)
    (areBare : ∀ entry ∈ names, IsBareName dialect entry.2) :
    request.Respells dialect names := by
  have leads := isRead.leadsTo isRow
  have named : ∀ {token : Token}, token.mark ∈ request.statement.markers →
      ∃ found front leading back, (ofText dialect request.sql).tokens = front ++ leading :: found :: back ∧
        found.start = token.start ∧ leading.LeadsName := by
    intro token isThere
    rw [markers] at isThere
    obtain ⟨found, isFound, -, leading, rest, isLeading, follows⟩ :=
      leads _ (mark_mem_keyedMarkers isThere)
    obtain ⟨front, split⟩ := follows.trans suffix
    exact ⟨found, front, leading, rest, split.symm,
      (congrArg Marker.position isFound).symm, isLeading⟩
  have place : ∀ {closing : Cursor} {item : String}, cursor.Reaches closing →
      closing.current.kind = .symbol .rightParen → Lexer.IsMemberText dialect item →
        ∃ token ∈ (ofText dialect request.sql).tokens,
          token.Takes dialect (.items closing.current.start [item]) := by
    intro closing item reaches closes isMember
    refine ⟨closing.current, ?_, .member closes isMember⟩
    apply (reaches.suffix.trans suffix).subset
    rw [Cursor.tokens_of_current (by rw [closes]; nofun)]
    exact List.mem_cons_self
  have list := isRead.list
  rw [isList] at list
  obtain ⟨reachesList, closesList, -⟩ := list.reaches_closing
  have front := (isRead.countsTable.trans isRead.table.counts).reaches
  constructor
  · exact isMarked
  · intro marker isMarker
    rw [markers] at isMarker
    rcases List.mem_append.mp isMarker with isEarlier | isLast
    · rcases List.mem_append.mp isEarlier with isName | isFirst
      · obtain ⟨token, rfl, isNamed, leading, rest, -, follows⟩ := leads marker isName
        refine ⟨token, (follows.trans suffix).subset ?_, .name isNamed (noSingle _ isName)⟩
        exact List.mem_cons_of_mem _ List.mem_cons_self
      · rw [List.mem_singleton.mp isFirst]
        exact place (front.trans reachesList) closesList isColumn
    · rw [List.mem_singleton.mp isLast]
      exact place (isRead.counts.2.1 rowEnd isRow).reaches (isRead.row.closes isRow) isValue
  · intro token isFirst isThere
    obtain ⟨found, before, leading, back, split, isFound, -⟩ := named isThere
    have isBefore := Cursor.start_lt_of_first split isFirst
    omega
  · rintro leading token ⟨before, behind, isPair⟩ isThere
    obtain ⟨found, front, other, back, split, isFound, leads⟩ := named isThere
    rw [List.append_assoc] at isPair
    rwa [← Cursor.eq_of_adjacent isPair.symm split isFound]
  · exact areBare

end InsertReading

namespace RenderRequest

variable {request : RenderRequest} {dialect : Dialect} {names : TableNames} {token : Token}

/-- What is written for a token takes a value just when the token does. -/
theorem Respells.nameFor_asks
    (respells : request.Respells dialect names)
    (isToken : token ∈ (ofText dialect request.sql).tokens) :
    (request.nameFor names token == "?") = token.isPlaceholder := by
  have isShaped := Cursor.isShaped_of_mem isToken
  by_cases isMarked : token.mark ∈ request.statement.markers
  · obtain ⟨found, isFound, takes⟩ := respells.taken _ isMarked
    obtain rfl := Cursor.eq_of_start isFound isToken takes.position_eq
    have isNamed : token.kind.isName = true ∧ token.source.toList.getLast? ≠ some '\'' := by
      generalize isMark : token.mark = marker at takes
      cases takes with
      | name isName noSingle => exact ⟨isName, noSingle⟩
      | member => cases isMark
    obtain ⟨isName, noSingle⟩ := isNamed
    obtain ⟨first, rest, source, -⟩ := isShaped.word_or_quoted isName noSingle
    obtain ⟨other, later, filled, isForm, -⟩ := @Lexer.exists_renamed dialect token names true [] rest
      first isShaped isName noSingle source respells.areBare fun _ => .inr rfl
    have noPlaceholder : token.isPlaceholder = false := by
      rw [Token.isPlaceholder, beq_eq_false_iff_ne]
      intro isQuestion
      rw [isQuestion] at isName
      cases isName
    rw [nameFor, if_pos isMarked, filled, noPlaceholder, beq_eq_false_iff_ne]
    intro isQuestion
    have isFirst : other = '?' :=
      (List.cons.inj (String.ofList_injective (isQuestion : _ = String.ofList ['?']))).1
    subst isFirst
    rcases isForm with isWord | ⟨isQuote | isQuote, -⟩
    · exact absurd isWord.starts (by decide)
    · cases isQuote
    · cases isQuote
  · rw [nameFor, if_neg isMarked, Bool.eq_iff_iff, beq_iff_eq, isShaped.isPlaceholder_iff]

/-- Without members to add, a name is written for each token, or the token itself. -/
theorem flatMap_written_of_plain
    {tokens : List Token}
    (plain : ∀ token ∈ tokens, ∀ item, .items token.start [item] ∉ request.statement.markers) :
    tokens.flatMap (request.written names) = tokens.map (request.nameFor names) := by
  induction tokens with
  | nil => rfl
  | cons token tokens ih =>
      obtain ⟨plainToken, others⟩ := List.forall_mem_cons.mp plain
      rw [List.flatMap_cons, written_of_plain plainToken, ih others]
      rfl

/-- What is written for a token with the value that it takes. -/
def spelled
    (request : RenderRequest)
    (names : TableNames) : Token × Option Value → String × Option Value :=
  Prod.map (request.nameFor names) id

/-- As many tokens take a value as what is written for them. -/
theorem Respells.countP_names
    (respells : request.Respells dialect names)
    {tokens : List Token}
    (areTokens : tokens ⊆ (ofText dialect request.sql).tokens) :
    (tokens.map (request.nameFor names)).countP (· == "?") = tokens.countP Token.isPlaceholder := by
  rw [List.countP_map]
  apply List.countP_congr
  intro token isToken
  rw [Function.comp_apply, respells.nameFor_asks (areTokens isToken)]

/-- What is written for tokens takes the values that the tokens take. -/
theorem Respells.bindings_names
    (respells : request.Respells dialect names)
    {tokens : List Token}
    (areTokens : tokens ⊆ (ofText dialect request.sql).tokens)
    (values : List Value) :
    bindings (· == "?") (tokens.map (request.nameFor names)) values =
      (bindings Token.isPlaceholder tokens values).map (request.spelled names) := by
  apply bindings_map
  intro token isToken
  exact respells.nameFor_asks (areTokens isToken)

/-- The sources of the tokens of a text take the values that the tokens take. -/
theorem bindings_sources
    (dialect : Dialect)
    (text : String)
    (values : List Value) :
    bindings (· == "?") ((ofText dialect text).tokens.map Token.source) values =
      (bindings Token.isPlaceholder (ofText dialect text).tokens values).map
        (Prod.map Token.source id) := by
  apply bindings_map
  intro token isToken
  rw [Bool.eq_iff_iff, beq_iff_eq, (Cursor.isShaped_of_mem isToken).isPlaceholder_iff]

/-- Whether a text is that of a statement with a member added to its column list and another one to its row:
its tokens are those of the statement, with names written anew, and the two members in front of the parentheses
that close the list and the row.  Each token takes the value that it takes in the statement, and the member of
the row takes its own. -/
structure KeyedText
    (request : RenderRequest)
    (dialect : Dialect)
    (names : TableNames)
    (listEnd rowEnd : Cursor)
    (column : String)
    (added : String × Option Value)
    (before after : List Value)
    (text : String)
    (front middle back : List (Token × Option Value)) : Prop where
  source : bindings Token.isPlaceholder (ofText dialect request.sql).tokens before =
    front ++ middle ++ back
  isList : (middle ++ back).map Prod.fst = listEnd.tokens
  isRow : back.map Prod.fst = rowEnd.tokens
  rendered : (bindings Token.isPlaceholder (ofText dialect text).tokens after).map
      (Prod.map Token.source id) =
    front.map (request.spelled names) ++ [(",", none), (column, none)] ++
      middle.map (request.spelled names) ++ [(",", none), added] ++ back.map (request.spelled names)

section Keyed

variable {reading : InsertReading} {listEnd rowEnd : Cursor} {column value : String}
variable {front middle back : List Token}

/-- The members are added in front of the parentheses, and nowhere else. -/
theorem Respells.flatMap_written
    (respells : request.Respells dialect names)
    (markers : request.statement.markers = reading.keyedMarkers listEnd rowEnd column value)
    (split : (ofText dialect request.sql).tokens =
      front ++ listEnd.current :: middle ++ rowEnd.current :: back) :
    (ofText dialect request.sql).tokens.flatMap (request.written names) =
      front.map (request.nameFor names) ++ [",", column] ++
        (listEnd.current :: middle).map (request.nameFor names) ++ [",", value] ++
          (rowEnd.current :: back).map (request.nameFor names) := by
  have isList : .items listEnd.current.start [column] ∈ request.statement.markers := by
    simp [markers, InsertReading.keyedMarkers]
  have isRow : .items rowEnd.current.start [value] ∈ request.statement.markers := by
    simp [markers, InsertReading.keyedMarkers]
  have ordered := Cursor.starts_ordered dialect request.sql
  rw [split, List.pairwise_append, List.pairwise_append, List.pairwise_cons, List.pairwise_cons] at ordered
  obtain ⟨⟨-, ⟨behindList, -⟩, inFront⟩, ⟨behindRow, -⟩, between⟩ := ordered
  have isBefore := between listEnd.current (by simp) rowEnd.current List.mem_cons_self
  have plain : ∀ token : Token, token.start ≠ listEnd.current.start →
      token.start ≠ rowEnd.current.start → ∀ item, .items token.start [item] ∉ request.statement.markers := by
    intro token notList notRow item isMarker
    rw [markers] at isMarker
    rcases InsertReading.items_mem_keyedMarkers isMarker with isStart | isStart
    · exact notList isStart
    · exact notRow isStart
  have plainFront : ∀ token ∈ front, ∀ item, .items token.start [item] ∉ request.statement.markers := by
    intro token isToken
    have first := inFront token isToken listEnd.current List.mem_cons_self
    exact plain token (by omega) (by omega)
  have plainMiddle : ∀ token ∈ middle, ∀ item, .items token.start [item] ∉ request.statement.markers := by
    intro token isToken
    have first := behindList token isToken
    have second := between token (by simp [isToken]) rowEnd.current List.mem_cons_self
    exact plain token (by omega) (by omega)
  have plainBack : ∀ token ∈ back, ∀ item, .items token.start [item] ∉ request.statement.markers := by
    intro token isToken
    have first := behindRow token isToken
    exact plain token (by omega) (by omega)
  rw [split, List.flatMap_append, List.flatMap_append, List.flatMap_cons, List.flatMap_cons,
    flatMap_written_of_plain plainFront, flatMap_written_of_plain plainMiddle,
    flatMap_written_of_plain plainBack, respells.written_of_member isList,
    respells.written_of_member isRow]
  simp

/-- **The text of a row with a key.**  The members are tokens of the rendered text, and each placeholder takes
the value that it takes in the statement. -/
theorem Respells.exists_keyedText
    (respells : request.Respells dialect names)
    (markers : request.statement.markers = reading.keyedMarkers listEnd rowEnd column value)
    (split : (ofText dialect request.sql).tokens =
      front ++ listEnd.current :: middle ++ rowEnd.current :: back)
    (isList : listEnd.tokens = listEnd.current :: middle ++ rowEnd.current :: back)
    (isRow : rowEnd.tokens = rowEnd.current :: back)
    {values : List Value}
    (key : Int64)
    (noColumn : column ≠ "?")
    (isAsking : value = "?" ↔ values ≠ [])
    (inside : values ≠ [] →
      (front ++ listEnd.current :: middle).countP Token.isPlaceholder ≤ values.length)
    {isWidened : Bool}
    {template : Template}
    (ran : request.template isWidened = .ok template) :
    ∃ first second third, request.KeyedText dialect names listEnd rowEnd column
      (value, if values = [] then none else some (.integer key)) values
      (withKeyValue values ((front ++ listEnd.current :: middle).countP Token.isPlaceholder) key)
      (template.fill names) first second third := by
  let inner := listEnd.current :: middle
  let outer := rowEnd.current :: back
  have areFront : front ⊆ (ofText dialect request.sql).tokens := by
    rw [split, List.append_assoc]
    exact List.subset_append_left _ _
  have areInner : inner ⊆ (ofText dialect request.sql).tokens := by
    rw [split]
    exact List.Subset.trans (List.subset_append_right front inner) (List.subset_append_left _ _)
  have areOuter : outer ⊆ (ofText dialect request.sql).tokens := by
    rw [split]
    exact List.subset_append_right _ _
  have counted : (front.map (request.nameFor names) ++ inner.map (request.nameFor names)).countP
      (· == "?") = (front ++ inner).countP Token.isPlaceholder := by
    rw [List.countP_append, List.countP_append, respells.countP_names areFront,
      respells.countP_names areInner]
  have rendered := @bindings_withKeyValue String (· == "?") values (front.map (request.nameFor names))
    (inner.map (request.nameFor names)) (outer.map (request.nameFor names)) "," column value key rfl
    (beq_eq_false_iff_ne.mpr noColumn) (by rw [beq_iff_eq, isAsking]) (by rwa [counted])
  refine ⟨bindings Token.isPlaceholder front values,
    bindings Token.isPlaceholder inner (values.drop (front.countP Token.isPlaceholder)),
    bindings Token.isPlaceholder outer (values.drop ((front ++ inner).countP Token.isPlaceholder)), ?_⟩
  constructor
  · rw [split, bindings_append, bindings_append]
  · rw [List.map_append, map_fst_bindings, map_fst_bindings, isList]
  · rw [map_fst_bindings, isRow]
  · rw [counted, respells.countP_names areFront, ← respells.flatMap_written markers split,
      ← respells.sources_eq ran, bindings_sources, respells.bindings_names areFront,
      respells.bindings_names areInner, respells.bindings_names areOuter] at rendered
    exact rendered

end Keyed

end RenderRequest

end ShardedSql
