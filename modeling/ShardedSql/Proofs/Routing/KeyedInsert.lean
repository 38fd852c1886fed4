import ShardedSql.Proofs.Rendering.KeyedText
import ShardedSql.Proofs.Routing.ActualNames
import ShardedSql.Proofs.Routing.Keying
import ShardedSql.Proofs.Routing.Stages

/-!
# Rows that are stored under a generated key

The key of a row that is inserted without one is taken once.  Here its four appearances are brought together:
it is reported, it stands in every text or among the parameters, and the row is routed by it.
-/

namespace ShardedSql

open Cursor (ofText)

namespace InsertReading

variable {router : Router} {keys left : Keys} {hint : Hint} {sql : String} {parameters : List Value}
variable {reading : InsertReading} {listEnd rowEnd : Cursor} {name : String}
variable {addition : Parse.KeyAddition} {key : Int64} {outcome : Outcome} {result : RouteResult}

/-- What stands for a key in the text of a row: a placeholder where values are bound, and otherwise the key. -/
def keyText
    (parameters : List Value)
    (key : Int64) : String :=
  if parameters = [] then toString key.toInt else "?"

/-- The value that is taken by what stands for a key: the key where values are bound. -/
def keyBinding
    (parameters : List Value)
    (key : Int64) : Option Value :=
  if parameters = [] then none else some (.integer key)

/-- Whether a row is stored under a key: the key is reported, it is bound where values are bound, it is what
the statement knows of the key column and what a strategy by this column chooses by, and every text has it in
the row. -/
structure StoresKey
    (router : Router)
    (hint : Hint)
    (sql : String)
    (parameters : List Value)
    (reading : InsertReading)
    (listEnd rowEnd : Cursor)
    (name : String)
    (key : Int64)
    (statement : Statement)
    (outcome : Outcome)
    (result : RouteResult) : Prop where
  reported : result.generatedKeys = [key]
  bound : result.parameters = withKeyValue parameters rowEnd.placeholders key
  routed : RoutingRequest.route ⟨router.rule, result.parameters, statement, hint⟩ = .ok outcome
  known : ∀ column, router.rule.isShardingColumn ⟨name, reading.table⟩ = true →
    Text.sameName name column = true →
      RoutingRequest.Knows ⟨router.rule, result.parameters, statement, hint⟩ reading.table column
        ⟨reading.table, name, .single (.integer key)⟩
  placed : hint.isActive = false →
    ∀ tableRule, router.rule.findTable? reading.table = some tableRule →
      ∀ strategy ∈ [router.rule.databaseStrategyOf tableRule, router.rule.tableStrategyOf tableRule],
        ∀ column, strategy.columns = [column] → Text.sameName name column = true → ∀ hinted values,
          RoutingRequest.shardingValues ⟨router.rule, result.parameters, statement, hint⟩ strategy hinted
            reading.table = .ok values → values = [⟨reading.table, name, .single (.integer key)⟩]
  texts : ∀ unit ∈ result.units, ∃ place ∈ outcome.tableUnits.toList, unit.dataSource = place.dataSource ∧
    ∃ names front middle back,
      RenderRequest.tableNames ⟨router.rule, sql, statement, result.parameters⟩ [place] = .ok names ∧
      RenderRequest.KeyedText ⟨router.rule, sql, statement, result.parameters⟩ router.dialect names
        listEnd rowEnd name (keyText parameters key, keyBinding parameters key) parameters
        result.parameters unit.sql front middle back

/-- A row with a key has the markers of the row, and those of the two members. -/
theorem markers_keyedStatement (rule : Rule) :
    (reading.keyedStatement rule listEnd rowEnd name addition).markers =
      reading.keyedMarkers listEnd rowEnd name addition.text := by
  rfl

/-- The row stands behind the column list. -/
theorem IsRead.exists_middle
    {cursor : Cursor}
    (isRead : reading.IsRead cursor)
    (isList : reading.listClosing = some listEnd)
    (isRow : reading.row.closing = some rowEnd) :
    rowEnd.tokens = rowEnd.current :: rowEnd.advance.tokens ∧
      ∃ middle, listEnd.tokens = listEnd.current :: middle ++ rowEnd.tokens := by
  have list := isRead.list
  rw [isList] at list
  obtain ⟨-, closesList, isBehind⟩ := list.reaches_closing
  have closesRow := isRead.row.closes isRow
  have isSuffix := (isRead.row.counts.2.1 rowEnd isRow).reaches.suffix
  rw [isBehind] at isSuffix
  obtain ⟨middle, isMiddle⟩ := isSuffix
  refine ⟨Cursor.tokens_of_current (by rw [closesRow]; nofun), middle, ?_⟩
  rw [Cursor.tokens_of_current (by rw [closesList]; nofun), ← isMiddle]
  rfl

/-- A row with a key runs where its table does. -/
theorem exists_units_of_keyed
    {statement : Statement}
    (onlyTable : statement.tables.names = [reading.table])
    (routed : RoutingRequest.route ⟨router.rule, parameters, statement, hint⟩ = .ok outcome) :
    ∃ units, RoutingRequest.routeTable ⟨router.rule, parameters, statement, hint⟩ reading.table = .ok units ∧
      outcome = .units units := by
  unfold RoutingRequest.route at routed
  rw [onlyTable] at routed
  obtain ⟨units, isRouted, rfl⟩ := Success.map_eq_ok.mp routed
  exact ⟨units, isRouted, rfl⟩

/-- A key is a value in the row. -/
theorem AddsKey.isValue
    {table : String}
    {index parameterCount : Nat}
    (adds : AddsKey router keys table index parameterCount addition left) :
    addition.expression.isValue = true := by
  cases adds with
  | bound => rfl
  | literal => rfl

/-- What stands for a key in a row is a token by itself. -/
theorem isMemberText_keyText
    (dialect : Dialect)
    (parameters : List Value)
    (key : Int64) :
    Lexer.IsMemberText dialect (keyText parameters key) := by
  unfold keyText
  split
  · exact Lexer.isMemberText_integer dialect key.toInt
  · exact Lexer.isMemberText_question dialect

theorem toString_ne_question (value : Int) :
    toString value ≠ "?" := by
  intro isQuestion
  obtain ⟨first, rest, isText, isNumeral⟩ := Lexer.exists_isNumeral value
  rw [isQuestion] at isText
  obtain ⟨rfl, rfl⟩ := List.cons.inj isText
  cases isNumeral with
  | digits isFirst => cases isFirst

/-- A key stands in the row as a placeholder just where values are bound. -/
theorem keyText_eq_question_iff :
    keyText parameters key = "?" ↔ parameters ≠ [] := by
  unfold keyText
  split
  next isEmpty => exact iff_of_false (toString_ne_question _) fun notEmpty => notEmpty isEmpty
  next notEmpty => exact iff_of_true rfl notEmpty

/-- The names that are written for a place of a row are those of its actual table. -/
theorem areBare_of_routeTable
    {dialect : Dialect}
    {statement : Statement}
    {units : TableUnits}
    {place : TableUnit}
    {names : TableNames}
    (isKey : router.rule.keyColumn? reading.table = some name)
    (bare : router.rule.NamesBarely dialect reading.table)
    (onlyTable : statement.tables.names = [reading.table])
    (routed : RoutingRequest.routeTable ⟨router.rule, parameters, statement, hint⟩ reading.table = .ok units)
    (isPlace : place ∈ units.toList)
    (named : RenderRequest.tableNames ⟨router.rule, sql, statement, parameters⟩ [place] = .ok names) :
    ∀ entry ∈ names, IsBareName dialect entry.2 := by
  obtain ⟨tableRule, isRule, -⟩ := Option.bind_eq_some_iff.mp isKey
  obtain ⟨isLogic, uses⟩ := RoutingRequest.mayUse_of_mem_routeTable
    (RoutingRequest.tableRule_of_findTable? isRule) routed isPlace
  have isFor := List.find?_some isRule
  intro entry isEntry
  rw [RenderRequest.names_of_single onlyTable (by rw [isLogic]; exact isFor) named entry isEntry]
  exact bare.tables tableRule isRule _ uses

/-- The texts for the places of a row have the key in it. -/
theorem IsRead.exists_keyedText
    {cursor : Cursor}
    (request : RenderRequest)
    {dialect : Dialect}
    {names : TableNames}
    {isWidened : Bool}
    {template : Template}
    (isRead : reading.IsRead cursor)
    (counts : (ofText dialect request.sql).Counts cursor)
    (isList : reading.listClosing = some listEnd)
    (isRow : reading.row.closing = some rowEnd)
    (isMarked : request.statement.IsMarkedIn dialect request.sql)
    (markers : request.statement.markers =
      reading.keyedMarkers listEnd rowEnd name (keyText parameters key))
    (pointed : ArePointed (ofText dialect request.sql).tokens)
    (noSingle : ∀ marker ∈ reading.markers, ¬ marker.IsSingleQuoted)
    (isColumn : Lexer.isPlainWord name.toList = true)
    (enough : (ofText dialect request.sql).tokens.countP Token.isPlaceholder ≤ parameters.length)
    (areBare : ∀ entry ∈ names, IsBareName dialect entry.2)
    (ran : request.template isWidened = .ok template) :
    ∃ front middle back, request.KeyedText dialect names listEnd rowEnd name
      (keyText parameters key, keyBinding parameters key) parameters
      (withKeyValue parameters rowEnd.placeholders key) (template.fill names) front middle back := by
  have respells := isRead.respells counts.place.suffix isList isRow isMarked markers noSingle
    (Lexer.isMemberText_of_isPlainWord isColumn) (isMemberText_keyText dialect parameters key) areBare
  obtain ⟨isRowEnd, middle, isListEnd⟩ := isRead.exists_middle isList isRow
  have reaches := (isRead.countsTable.trans isRead.table.counts).reaches
  have list := isRead.list
  rw [isList] at list
  obtain ⟨front, isFront⟩ : listEnd.tokens <:+ (ofText dialect request.sql).tokens :=
    (reaches.trans list.reaches_closing.1).suffix.trans counts.place.suffix
  have split : (ofText dialect request.sql).tokens =
      front ++ listEnd.current :: middle ++ rowEnd.current :: rowEnd.advance.tokens := by
    rw [← isFront, isListEnd, isRowEnd, List.append_assoc]
  obtain ⟨-, others, isOthers, counted⟩ :=
    Statement.exists_front_of_closing pointed counts.place isRead isRow
  have isSame : front ++ listEnd.current :: middle = others := by
    rw [split, ← isRowEnd] at isOthers
    exact List.append_cancel_right isOthers
  rw [← counted, ← isSame]
  apply respells.exists_keyedText markers split (by rw [isListEnd, isRowEnd]) isRowEnd key
  · rintro rfl
    exact absurd isColumn (by decide)
  · exact keyText_eq_question_iff
  · intro _
    rw [split, List.countP_append] at enough
    omega
  · exact ran

/-- **A row is stored under the key that is reported.**  An INSERT with a column list and a row, whose table has
a key column that is not in the list, takes one key.  This key is reported; it is what the statement knows of
the key column when it is routed; and each text for a place has the key column in its list and one member
more in its row: the key itself where no values are bound, and otherwise a placeholder that takes the key,
while every other placeholder takes the value that it took before.  The name of the table must not stand in
single quotes, which a new name does not keep. -/
theorem IsKeyless.exists_storesKey
    (keyless : reading.IsKeyless router keys sql listEnd rowEnd name)
    (bare : router.rule.NamesBarely router.dialect reading.table)
    (pointed : ArePointed (ofText router.dialect sql).tokens)
    (noSingle : ∀ marker ∈ reading.markers, ¬ marker.IsSingleQuoted)
    (noHint : hint.isDatabaseOnly = false)
    (enough : (ofText router.dialect sql).tokens.countP Token.isPlaceholder ≤ parameters.length)
    (routed : router.route keys hint sql parameters = (.ok result, left)) :
    ∃ key statement outcome between,
      keys.generate router.rule reading.table = .ok (key, left) ∧
      Statement.parse router.dialect router.rule keys sql parameters.length = (.ok statement, between) ∧
      StoresKey router hint sql parameters reading listEnd rowEnd name key statement outcome result := by
  obtain ⟨statement, between, keyed, parsed, filled, ran, isLeft⟩ :=
    Router.exists_statement_of_route noHint (congrArg Prod.fst routed)
  obtain ⟨addition, adds, rfl⟩ := keyless.exists_addition parsed
  obtain ⟨key, following, isTaken, rfl, isText, hasValue⟩ := adds.fillKey_eq_ok filled
  rw [routed] at isLeft
  obtain rfl : left = following := isLeft
  obtain ⟨outcome, template, runs⟩ := Router.exists_runsAt ran
  have isBound : withKeyValue parameters rowEnd.placeholders key = result.parameters :=
    Except.ok.inj runs.limited
  have isRouted := runs.routed
  have isFilled := runs.filled
  have isRendered := runs.rendered
  dsimp only at isRouted isFilled isRendered hasValue
  rw [isBound] at isRouted isFilled isRendered hasValue
  have knows : ∀ column, router.rule.isShardingColumn ⟨name, reading.table⟩ = true →
      Text.sameName name column = true →
        RoutingRequest.Knows ⟨router.rule, result.parameters,
          reading.keyedStatement router.rule listEnd rowEnd name addition, hint⟩ reading.table column
            ⟨reading.table, name, .single (.integer key)⟩ :=
    fun _ isSharding sameColumn => knows_key isSharding sameColumn adds.isValue hasValue
  refine ⟨key, _, outcome, between, isTaken, parsed, runs.generatedKeys, isBound.symm, isRouted, knows, ?_, ?_⟩
  · intro isInactive tableRule isRule strategy isStrategy column onlyColumn sameColumn hinted values known
    have isSharding := Rule.isShardingColumn_of_mem isRule isStrategy
      (by rw [onlyColumn]; exact List.mem_singleton_self column) sameColumn
    exact RoutingRequest.shardingValues_of_knows isInactive onlyColumn
      (knows column isSharding sameColumn) known
  · intro unit isUnit
    obtain ⟨units, inTable, rfl⟩ := exists_units_of_keyed rfl isRouted
    obtain ⟨place, isPlace, isUnitText⟩ := Success.exists_input_of_mem isFilled isUnit
    obtain ⟨text, isFill, rfl⟩ := Success.map_eq_ok.mp isUnitText
    obtain ⟨names, named, rfl⟩ := Success.map_eq_ok.mp isFill
    have areBare := areBare_of_routeTable keyless.isKey bare rfl inTable isPlace named
    obtain ⟨front, led, isRead⟩ := keyless.isRead
    obtain ⟨counts, -, -⟩ := Parse.leading_eq_ok led
    have isMarked := Statement.isMarkedIn_of_parse (congrArg Prod.fst parsed)
    have markers : (reading.keyedStatement router.rule listEnd rowEnd name addition).markers =
        reading.keyedMarkers listEnd rowEnd name (keyText parameters key) := by
      rw [markers_keyedStatement, isText]
      rfl
    obtain ⟨first, second, third, keyedText⟩ := isRead.exists_keyedText
      ⟨router.rule, sql, _, result.parameters⟩ counts keyless.isList keyless.isRow isMarked
      markers pointed noSingle (bare.column name keyless.isKey) enough areBare isRendered
    rw [isBound] at keyedText
    exact ⟨place, isPlace, rfl, names, first, second, third, named, keyedText⟩

/-- A key that is still to be taken is that of a row without its key. -/
theorem exists_keyless_of_deferred
    {statement : Statement}
    {parameterCount index : Nat}
    (parsed : (Statement.parse router.dialect router.rule keys sql parameterCount).1 = .ok statement)
    (isKey : statement.generatedKey = some ⟨name, .deferred index⟩) :
    ∃ reading listEnd rowEnd, IsKeyless router keys sql reading listEnd rowEnd name := by
  obtain ⟨kind, front, last, led, read, rfl, -⟩ := Statement.exists_statementOf parsed
  obtain ⟨-, -, isFront⟩ := Parse.leading_eq_ok led
  have fresh : front.statement = { kind := kind } := congrArg ParseState.statement isFront
  have isRule : front.rule = router.rule := congrArg ParseState.rule isFront
  by_cases isInsert : kind = .insert
  · subst isInsert
    obtain ⟨reading, isRead, keyed⟩ := Parse.insertStatement_eq_ok fresh read
    cases keyed with
    | unkeyed => cases isKey
    | placeless => cases isKey
    | given =>
        have isSource := (GeneratedKey.mk.inj (Option.some.inj isKey)).2
        exact absurd isSource (Statement.keySourceOf_ne_deferred _ _)
    | @added found place valuesStop placeholders addition between isColumn isAbsent isList isRow isAdded =>
        obtain rfl : found = name := (GeneratedKey.mk.inj (Option.some.inj isKey)).1
        obtain ⟨listEnd, isListEnd, -⟩ := Option.map_eq_some_iff.mp isList
        obtain ⟨rowEnd, isRowEnd, -⟩ := Option.map_eq_some_iff.mp isRow
        refine ⟨reading, listEnd, rowEnd, ⟨front, led, isRead⟩, isListEnd, isRowEnd, ?_, ?_⟩
        · rw [← isRule]
          exact isColumn
        · intro listed isListed
          rw [List.findIdx?_eq_none_iff] at isAbsent
          exact isAbsent ⟨listed, reading.table⟩ (by simp [statement, columns, isListed])
  · obtain ⟨⟨-, -, sameKey⟩, -⟩ := (Parse.statementOf_numbers isInsert parameterCount).relates read
    rw [sameKey, fresh] at isKey
    cases isKey

section Samples

/-- A router by this rule. -/
def keyedRouter : Router :=
  ⟨.mysql, keyedRule⟩

theorem namesBarely_keyedRule : keyedRule.NamesBarely .mysql "t_order" := by
  constructor
  · intro name isKey
    cases isKey
    decide
  · intro tableRule isRule name uses
    cases isRule
    apply uses.isBareName rfl rfl
    · intro node isNode
      refine ⟨?_, nofun⟩
      revert node
      decide
    · nofun

/-- The place of rows with an even user and an even key. -/
def evenUnits : TableUnits :=
  ⟨[⟨"ds_0", "t_order", "t_order_0"⟩]⟩

/-- The keys behind the first one. -/
def followingKeys : Keys :=
  (Keys.ofRule keyedRule 0).withOwn "t_order" (.sequence 1001)

/-- A row of which the key is still to be taken is stored under the first key. -/
theorem route_keyedRouter
    {statement : Statement}
    {units : List ExecutionUnit}
    {bound : List Value}
    (parsed : (Statement.parse .mysql keyedRule (Keys.ofRule keyedRule 0) sql parameters.length).1 =
      .ok statement)
    (left : (Statement.parse .mysql keyedRule (Keys.ofRule keyedRule 0) sql parameters.length).2 =
      Keys.ofRule keyedRule 0)
    (filled : keyedRouter.fillKey (Keys.ofRule keyedRule 0) statement parameters =
      .ok ⟨bound, [1000], followingKeys⟩)
    (routed : RoutingRequest.route ⟨keyedRule, bound, statement, {}⟩ = .ok (.units evenUnits))
    (ordered : statement.markers.Pairwise Marker.IsBefore)
    (rendered : (do
      let progress ← statement.markers.foldlM
        (RenderRequest.renderMarker ⟨keyedRule, sql, statement, bound⟩ false) ⟨{}, 0⟩
      Router.executionUnits ⟨keyedRule, sql, statement, bound⟩
        (progress.template.addText (Text.slice sql progress.position sql.utf8ByteSize))
        (.units evenUnits)) = .ok units)
    (noLimit : statement.limit = none) :
    keyedRouter.route (Keys.ofRule keyedRule 0) {} sql parameters =
      (.ok ⟨statement.kind, units, bound, [1000]⟩, followingKeys) := by
  have limited : Router.limitedParameters statement true bound = .ok bound := by
    rw [Router.limitedParameters, noLimit]
  exact @Router.route_of_ordered keyedRouter _ _ _ _ _ ⟨bound, [1000], followingKeys⟩ _ _ _ _ rfl
    (Prod.ext parsed left) filled routed ordered rendered limited

/-- The text of a row without its key and with a placeholder behind it. -/
def trailingText : String :=
  "INSERT INTO t_order (user_id, status) VALUES (?, ?) ON DUPLICATE KEY UPDATE status = ?"

/-- What this text is parsed to. -/
def trailingStatement : Statement :=
  { kind := .insert
    tables := ⟨[⟨"t_order", none⟩]⟩
    conditions := ⟨[⟨⟨"user_id", "t_order"⟩, .equal, [.placeholder 0]⟩,
      ⟨⟨"order_id", "t_order"⟩, .equal, [.placeholder 2]⟩]⟩
    markers := [.table 12 "t_order", .items 36 ["order_id"], .items 50 ["?"]]
    insertColumns := [⟨"user_id", "t_order"⟩, ⟨"status", "t_order"⟩, ⟨"order_id", "t_order"⟩]
    generatedKey := some ⟨"order_id", .deferred 2⟩ }

/-- The values of its placeholders. -/
def trailingValues : List Value :=
  [.integer 10, .text "A", .text "B"]

/-- What the route gives. -/
def trailingResult : RouteResult :=
  { kind := .insert
    units := [⟨"ds_0", "INSERT INTO t_order_0 (user_id, status, order_id) VALUES (?, ?, ?)" ++
      " ON DUPLICATE KEY UPDATE status = ?"⟩]
    parameters := [.integer 10, .text "A", .integer 1000, .text "B"]
    generatedKeys := [1000] }

/-- The key of this row is bound between the values of the row and the one behind it. -/
theorem storesKey_trailingText :
    ∃ reading listEnd rowEnd,
      IsKeyless keyedRouter (Keys.ofRule keyedRule 0) trailingText reading listEnd rowEnd "order_id" ∧
      keyedRouter.route (Keys.ofRule keyedRule 0) {} trailingText trailingValues =
        (.ok trailingResult, followingKeys) ∧
      ∃ key statement outcome,
        StoresKey keyedRouter {} trailingText trailingValues reading listEnd rowEnd "order_id" key
          statement outcome trailingResult := by
  have parsed : (Statement.parse .mysql keyedRule (Keys.ofRule keyedRule 0) trailingText
      trailingValues.length).1 = .ok trailingStatement :=
    Success.toOption_eq_some.mp (by decide +kernel)
  have ordered : trailingStatement.markers.Pairwise Marker.IsBefore := by
    unfold Marker.IsBefore
    decide +kernel
  have routed : keyedRouter.route (Keys.ofRule keyedRule 0) {} trailingText trailingValues =
      (.ok trailingResult, followingKeys) :=
    route_keyedRouter parsed (by decide +kernel) rfl (Success.toOption_eq_some.mp (by decide +kernel))
      ordered (Success.toOption_eq_some.mp (by decide +kernel)) rfl
  obtain ⟨reading, listEnd, rowEnd, keyless⟩ := @exists_keyless_of_deferred keyedRouter _ _ _ _ _ _ parsed rfl
  obtain ⟨addition, -, isStatement⟩ := keyless.exists_addition (Prod.ext parsed rfl)
  have isTable : reading.table = "t_order" :=
    (List.singleton_inj.mp (congrArg (·.tables.names) isStatement)).symm
  have noSingle : ∀ marker ∈ reading.markers, ¬ marker.IsSingleQuoted := by
    have areQuoted : ∀ marker ∈ trailingStatement.markers, ¬ marker.IsSingleQuoted := by
      simp [trailingStatement, Marker.IsSingleQuoted]
    intro marker isMarker
    apply areQuoted
    rw [isStatement]
    exact List.mem_append_left _ (List.mem_append_left _ isMarker)
  obtain ⟨key, statement, outcome, -, -, -, stores⟩ := keyless.exists_storesKey
    (by rw [isTable]; exact namesBarely_keyedRule) (by decide +kernel) noSingle rfl (by decide +kernel) routed
  exact ⟨reading, listEnd, rowEnd, keyless, routed, key, statement, outcome, stores⟩

/-- The text of a row whose table stands in single quotes in front of a comment. -/
def commentedText : String :=
  "INSERT INTO 't_order'# ?\n (user_id) VALUES (?)"

/-- What this text is parsed to. -/
def commentedStatement : Statement :=
  { kind := .insert
    tables := ⟨[⟨"t_order", none⟩]⟩
    conditions := ⟨[⟨⟨"user_id", "t_order"⟩, .equal, [.placeholder 0]⟩,
      ⟨⟨"order_id", "t_order"⟩, .equal, [.placeholder 1]⟩]⟩
    markers := [.table 12 "'t_order'", .items 34 ["order_id"], .items 45 ["?"]]
    insertColumns := [⟨"user_id", "t_order"⟩, ⟨"order_id", "t_order"⟩]
    generatedKey := some ⟨"order_id", .deferred 1⟩ }

/-- The text that it is rendered to. -/
def uncommentedText : String :=
  "INSERT INTO t_order_0# ?\n (user_id, order_id) VALUES (?, ?)"

/-- The values that the placeholders of a text take. -/
def taken
    (sql : String)
    (values : List Value) : List (Option Value) :=
  (bindings Token.isPlaceholder (ofText .mysql sql).tokens values).filterMap fun binding =>
    if binding.1.isPlaceholder then some binding.2 else none

/-- The comment of this text belongs to the name of its table in the rendered one.  The placeholder in it
takes the value of the row, the one of the row takes the key, and the one for the key takes nothing. -/
theorem exists_shifted_placeholders :
    taken commentedText [.integer 10] = [some (.integer 10)] ∧
    keyedRouter.route (Keys.ofRule keyedRule 0) {} commentedText [.integer 10] =
      (.ok ⟨.insert, [⟨"ds_0", uncommentedText⟩], [.integer 10, .integer 1000], [1000]⟩, followingKeys) ∧
    taken uncommentedText [.integer 10, .integer 1000] =
      [some (.integer 10), some (.integer 1000), none] := by
  have parsed : (Statement.parse .mysql keyedRule (Keys.ofRule keyedRule 0) commentedText
      [Value.integer 10].length).1 = .ok commentedStatement :=
    Success.toOption_eq_some.mp (by decide +kernel)
  have ordered : commentedStatement.markers.Pairwise Marker.IsBefore := by
    unfold Marker.IsBefore
    decide +kernel
  refine ⟨by decide +kernel, ?_, by decide +kernel⟩
  exact route_keyedRouter parsed (by decide +kernel) rfl (Success.toOption_eq_some.mp (by decide +kernel))
    ordered (Success.toOption_eq_some.mp (by decide +kernel)) rfl

end Samples

end InsertReading

end ShardedSql
