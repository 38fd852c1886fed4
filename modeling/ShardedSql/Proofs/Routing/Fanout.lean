import ShardedSql.Proofs.Parser.Stating
import ShardedSql.Proofs.Rendering.Paging
import ShardedSql.Proofs.Routing.DataNodes

/-!
# Windows of queries that run more than once

A query with a row limit that runs on several tables asks each of them for all rows up to the end of its
window, so that the window of the merged rows is complete.
-/

namespace ShardedSql

namespace Router

variable {router : Router} {keys left : Keys} {hint : Hint} {sql : String} {parameters : List Value}
variable {statement : Statement} {limit : Limit} {offset count : Int64} {result : RouteResult}

/-- A statement without a generated key is routed with the parameters that it is given. -/
theorem fillKey_of_none
    (noKey : statement.generatedKey = none)
    {keyed : KeyedParameters}
    (filled : router.fillKey left statement parameters = .ok keyed) :
    keyed = ⟨parameters, [], left⟩ := by
  unfold fillKey at filled
  rw [noKey] at filled
  cases filled
  rfl

/-- A query that runs more than once is rendered as a page for several runs. -/
theorem exists_page_of_route
    (byText : hint.isDatabaseOnly = false)
    (routed : (router.route keys hint sql parameters).1 = .ok result)
    (fansOut : 1 < result.units.length)
    (parsed : (Statement.parse router.dialect router.rule keys sql parameters.length).1 =
      .ok statement)
    (noKey : statement.generatedKey = none) :
    ∃ found, RenderRequest.page ⟨router.rule, sql, statement, parameters⟩ false = .ok found ∧
      result.parameters = found.parameters ∧
      ∀ unit ∈ result.units, ∃ names, unit.sql = found.template.fill names := by
  obtain ⟨other, left, keyed, parsedToo, filled, runs, -⟩ := exists_statement_of_route byText routed
  obtain rfl : other = statement := by
    rw [parsedToo] at parsed
    exact Except.ok.inj parsed
  obtain rfl := fillKey_of_none noKey filled
  obtain ⟨outcome, found, units, -, paged, rendered, rfl⟩ := RenderRequest.routeKeyed_eq_ok.mp runs
  have often : outcome.isSingle = false := by
    rw [Bool.eq_false_iff, Ne, Outcome.isSingle_iff, ← length_executionUnits rendered]
    exact Nat.ne_of_gt fansOut
  rw [often] at paged
  exact ⟨found, paged, rfl, exists_names_of_executionUnits rendered⟩

/-- **A window is filled by what several tables deliver.**  A query whose row limit is read from clauses, and
that runs more than once, asks every table for the rows from the first one up to the end of the window, as
far as 64 bits count, or for a fixed large number of rows if all of them are needed.  The row count of a
FETCH without a number is no part of the text; it fills a window that begins with the first row. -/
theorem asks_whole_window
    (byText : hint.isDatabaseOnly = false)
    (routed : (router.route keys hint sql parameters).1 = .ok result)
    (fansOut : 1 < result.units.length)
    (parsed : (Statement.parse router.dialect router.rule keys sql parameters.length).1 =
      .ok statement)
    (isQuery : statement.kind = .select)
    (isLimit : statement.limit = some limit)
    (fromClauses : limit.countsFromOffset = true)
    (spans : limit.Spans parameters offset (some count))
    (isWritten : limit.rowCount = some (.literal 1) → offset ≠ 0 →
      ∃ marker ∈ statement.markers, marker.bound? = some (true, 1)) :
    ∀ unit ∈ result.units, ∃ names,
      (∀ asked, RenderRequest.Asks ⟨router.rule, sql, statement, parameters⟩ limit true names unit.sql
        result.parameters false asked ↔ asked = limit.offset.map fun _ => 0) ∧
      ∃ rows, (∀ asked, RenderRequest.Asks ⟨router.rule, sql, statement, parameters⟩ limit true names
          unit.sql result.parameters true asked ↔ asked = some rows) ∧
        (min (offset.toInt + count.toInt) 9223372036854775807 ≤ rows.toInt ∨
          statement.needsAllRows = true ∧ rows.toInt = 2147483647) := by
  obtain ⟨stated, noKey⟩ := Statement.isStated_of_parse parsed isQuery
  obtain ⟨placeholders, isStated⟩ := stated limit isLimit
  obtain ⟨found, paged, sameParameters, named⟩ :=
    exists_page_of_route byText routed fansOut parsed noKey
  have isLimited : RenderRequest.IsLimited ⟨router.rule, sql, statement, parameters⟩ router.dialect
      limit :=
    ⟨isLimit, Statement.isMarkedIn_of_parse parsed, isStated.distinct⟩
  obtain ⟨rendered, _, _, spansToo, rebound⟩ := (RenderRequest.page_often_eq_ok isLimited).mp paged
  obtain ⟨rfl, rfl⟩ := spans.unique spansToo
  have carriesOffset : statement.Carries limit false := by
    intro value isBound
    rcases isStated.carried false value isBound with carried | ⟨isFalse, -⟩
    · exact carried
    · cases isFalse
  intro unit isUnit
  obtain ⟨names, isText⟩ := named unit isUnit
  rw [isText, sameParameters, rebound]
  refine ⟨names, fun asked =>
    RenderRequest.asks_offset_iff isLimited carriesOffset spans rendered, ?_⟩
  by_cases carries : statement.Carries limit true
  · obtain ⟨isOffset, isCount⟩ := spans.nonneg
    refine ⟨limit.widened statement.needsAllRows offset count, fun asked =>
      RenderRequest.asks_rowCount_iff isLimited carries spans rendered, ?_⟩
    rw [Limit.toInt_widened _ isOffset (isCount count rfl), Limit.reach, fromClauses]
    split
    next needed => exact .inr ⟨needed, rfl⟩
    next => exact .inl (Int.le_refl _)
  · -- The row count is that of a FETCH without a number.
    obtain ⟨value, isBound, noMarker⟩ : ∃ value, limit.bound? true = some (.literal value) ∧
        ∀ marker ∈ statement.markers, marker.bound? ≠ some (true, value) := by
      simpa [Statement.Carries] using carries
    have isOne : value = 1 := by
      rcases isStated.carried true value isBound with ⟨marker, isMarker, marks⟩ | ⟨-, isOne⟩
      · exact absurd marks (noMarker marker isMarker)
      · exact isOne
    subst isOne
    have fromStart : offset = 0 := by
      by_contra isBehind
      obtain ⟨marker, isMarker, marks⟩ := isWritten isBound isBehind
      exact noMarker marker isMarker marks
    have isCount : count = 1 := by
      cases (Limit.spans_iff.mp spans).2.1 with
      | number isOperand reads =>
          cases isBound.symm.trans isOperand
          exact (Option.some.inj reads).symm
    subst fromStart isCount
    exact ⟨1, fun asked => RenderRequest.asks_unmarked_iff isBound noMarker, .inl (by decide)⟩

end Router

/-- A table that is divided in two on one data source, and chosen by no column. -/
def dividedTable : TableRule :=
  { logicTable := "t_order"
    isDynamic := false
    nodes := [⟨"ds_0", "t_order_0"⟩, ⟨"ds_0", "t_order_1"⟩]
    databaseStrategy := none
    tableStrategy := none
    keyColumn := none
    keyGenerator := none }

/-- The rule for this table alone. -/
def dividedRule : Rule :=
  { dataSources := ["ds_0"]
    defaultDataSource := none
    tables := [dividedTable]
    bindingGroups := []
    databaseStrategy := none
    tableStrategy := none
    keyGenerator := none }

/-- The places of the divided table. -/
def dividedUnits : TableUnits :=
  ⟨[⟨"ds_0", "t_order", "t_order_0"⟩, ⟨"ds_0", "t_order", "t_order_1"⟩]⟩

/-- A query of the divided table runs on both its parts. -/
theorem divided_route
    {statement : Statement}
    {parameters : List Value}
    (isQuery : statement.kind = .select)
    (named : statement.tables.names = ["t_order"]) :
    RoutingRequest.route ⟨dividedRule, parameters, statement, {}⟩ = .ok (.units dividedUnits) := by
  have listed : dividedTable.dataSources = ["ds_0"] := by decide +kernel
  have onSource : dividedTable.tablesOn "ds_0" = ["t_order_0", "t_order_1"] := by decide +kernel
  have sorted : NameSet.ofList ["t_order_0", "t_order_1"] = ["t_order_0", "t_order_1"] :=
    NameSet.ofList_of_sorted (by decide +kernel) (by decide +kernel)
  have ruled : dividedRule.tableRule "t_order" = .ok dividedTable := rfl
  have tableOk : RoutingRequest.routeTable ⟨dividedRule, parameters, statement, {}⟩ "t_order" =
      .ok dividedUnits := by
    rw [RoutingRequest.routeTable_of_knowsNothing rfl (by simp [isQuery]) ruled
      (List.cons_ne_nil _ _) (RoutingRequest.knowsNothing_none _) (RoutingRequest.knowsNothing_none _),
      listed, NameSet.ofList_singleton, List.map_singleton, onSource, sorted]
    rfl
  simp only [RoutingRequest.route, named, tableOk, Except.map]

/-- What a query of the divided table gives without a hint. -/
theorem divided_result
    {sql : String}
    {statement : Statement}
    {parameters widened : List Value}
    {units : List ExecutionUnit}
    (parsed : (Statement.parse .mysql dividedRule (Keys.ofRule dividedRule 0) sql
      parameters.length).1 = .ok statement)
    (isQuery : statement.kind = .select)
    (named : statement.tables.names = ["t_order"])
    (noKey : statement.generatedKey = none)
    (ordered : statement.markers.Pairwise Marker.IsBefore)
    (rendered : (do
      let progress ← statement.markers.foldlM
        (RenderRequest.renderMarker ⟨dividedRule, sql, statement, parameters⟩ true) ⟨{}, 0⟩
      Router.executionUnits ⟨dividedRule, sql, statement, parameters⟩
        (progress.template.addText (Text.slice sql progress.position sql.utf8ByteSize))
        (.units dividedUnits)) = .ok units)
    (limited : Router.limitedParameters statement false parameters = .ok widened) :
    (Router.route ⟨.mysql, dividedRule⟩ (Keys.ofRule dividedRule 0) {} sql parameters).1 =
      .ok ⟨.select, units, widened, []⟩ := by
  obtain ⟨left, isParsed⟩ : ∃ left, Statement.parse .mysql dividedRule (Keys.ofRule dividedRule 0)
      sql parameters.length = (.ok statement, left) :=
    ⟨_, Prod.ext parsed rfl⟩
  have filled : Router.fillKey ⟨.mysql, dividedRule⟩ left statement parameters =
      .ok ⟨parameters, [], left⟩ := by
    unfold Router.fillKey
    rw [noKey]
  have isRouted : Router.route ⟨.mysql, dividedRule⟩ (Keys.ofRule dividedRule 0) {} sql parameters =
      (.ok ⟨statement.kind, units, widened, []⟩, left) :=
    @Router.route_of_ordered ⟨.mysql, dividedRule⟩ _ _ _ _ _ ⟨parameters, [], left⟩ _ _ _ _ rfl isParsed
      filled (divided_route isQuery named) ordered rendered limited
  rw [isRouted, isQuery]

namespace Router

/-- The text of a query with a window of rows. -/
def windowText : String :=
  "SELECT order_id FROM t_order LIMIT ?, ?"

/-- What this text is parsed to. -/
def windowStatement : Statement :=
  { kind := .select
    tables := ⟨[⟨"t_order", none⟩]⟩
    markers := [.table 21 "t_order"]
    items := [.common "order_id" none]
    limit := some ⟨some (.placeholder 0), some (.placeholder 1), true⟩ }

/-- What the query gives for the window of three rows behind the first two. -/
def windowResult : RouteResult :=
  ⟨.select, [⟨"ds_0", "SELECT order_id FROM t_order_0 LIMIT ?, ?"⟩,
    ⟨"ds_0", "SELECT order_id FROM t_order_1 LIMIT ?, ?"⟩], [.integer 0, .integer 5], []⟩

/-- Both parts of the table are asked for the rows up to the end of the window. -/
theorem asks_whole_windowText :
    (route ⟨.mysql, dividedRule⟩ (Keys.ofRule dividedRule 0) {} windowText [.integer 2, .integer 3]).1 =
      .ok windowResult ∧
    (Statement.parse .mysql dividedRule (Keys.ofRule dividedRule 0) windowText 2).1 =
      .ok windowStatement ∧
    ∀ unit ∈ windowResult.units, ∃ names,
      (∀ asked, RenderRequest.Asks ⟨dividedRule, windowText, windowStatement, [.integer 2, .integer 3]⟩
        ⟨some (.placeholder 0), some (.placeholder 1), true⟩ true names unit.sql
        [.integer 0, .integer 5] false asked ↔ asked = some 0) ∧
      ∃ rows, (∀ asked, RenderRequest.Asks
          ⟨dividedRule, windowText, windowStatement, [.integer 2, .integer 3]⟩
          ⟨some (.placeholder 0), some (.placeholder 1), true⟩ true names unit.sql
          [.integer 0, .integer 5] true asked ↔ asked = some rows) ∧
        (min ((2 : Int64).toInt + (3 : Int64).toInt) 9223372036854775807 ≤ rows.toInt ∨
          windowStatement.needsAllRows = true ∧ rows.toInt = 2147483647) := by
  have parsed : (Statement.parse .mysql dividedRule (Keys.ofRule dividedRule 0) windowText 2).1 =
      .ok windowStatement :=
    Success.toOption_eq_some.mp (by decide +kernel)
  have routed : (route ⟨.mysql, dividedRule⟩ (Keys.ofRule dividedRule 0) {} windowText
      [.integer 2, .integer 3]).1 = .ok windowResult :=
    divided_result parsed rfl rfl rfl (List.pairwise_singleton _ _)
      (Success.toOption_eq_some.mp (by decide +kernel))
      (Success.toOption_eq_some.mp (by decide +kernel))
  refine ⟨routed, parsed, ?_⟩
  exact asks_whole_window rfl routed (by decide) parsed rfl rfl rfl
    ⟨Success.toOption_eq_some.mp (by decide +kernel),
      Success.toOption_eq_some.mp (by decide +kernel)⟩ nofun

/-- The text of a query that counts the rows, with more result rows allowed than 31 bits count. -/
def countText : String :=
  "SELECT COUNT(*) FROM t_order LIMIT 3000000000"

/-- What this text is parsed to. -/
def countStatement : Statement :=
  { kind := .select
    tables := ⟨[⟨"t_order", none⟩]⟩
    markers := [.table 21 "t_order", .rowCount 35 10 3000000000]
    items := [.aggregation .count "(*)" none]
    limit := some ⟨none, some (.literal 3000000000), true⟩ }

/-- What the query gives. -/
def countResult : RouteResult :=
  ⟨.select, [⟨"ds_0", "SELECT COUNT(*) FROM t_order_0 LIMIT 2147483647"⟩,
    ⟨"ds_0", "SELECT COUNT(*) FROM t_order_1 LIMIT 2147483647"⟩], [], []⟩

/-- If all rows are needed, then more rows than the fixed number are not asked for. -/
theorem exists_units_below_window :
    (route ⟨.mysql, dividedRule⟩ (Keys.ofRule dividedRule 0) {} countText []).1 = .ok countResult ∧
    (Statement.parse .mysql dividedRule (Keys.ofRule dividedRule 0) countText 0).1 =
      .ok countStatement ∧
    Limit.Spans ⟨none, some (.literal 3000000000), true⟩ [] 0 (some 3000000000) ∧
    ∀ unit ∈ countResult.units, ∃ names rows,
      (∀ asked, RenderRequest.Asks ⟨dividedRule, countText, countStatement, []⟩
        ⟨none, some (.literal 3000000000), true⟩ true names unit.sql [] true asked ↔
          asked = some rows) ∧
      rows.toInt < min ((0 : Int64).toInt + (3000000000 : Int64).toInt) 9223372036854775807 := by
  have parsed : (Statement.parse .mysql dividedRule (Keys.ofRule dividedRule 0) countText 0).1 =
      .ok countStatement :=
    Success.toOption_eq_some.mp (by decide +kernel)
  have ordered : countStatement.markers.Pairwise Marker.IsBefore :=
    List.pairwise_pair.mpr (by unfold Marker.IsBefore; decide +kernel)
  have routed : (route ⟨.mysql, dividedRule⟩ (Keys.ofRule dividedRule 0) {} countText []).1 =
      .ok countResult :=
    divided_result parsed rfl rfl rfl ordered
      (Success.toOption_eq_some.mp (by decide +kernel))
      (Success.toOption_eq_some.mp (by decide +kernel))
  have spans : Limit.Spans ⟨none, some (.literal 3000000000), true⟩ [] 0 (some 3000000000) :=
    ⟨Success.toOption_eq_some.mp (by decide +kernel), Success.toOption_eq_some.mp (by decide +kernel)⟩
  refine ⟨routed, parsed, spans, ?_⟩
  have isLimited : RenderRequest.IsLimited ⟨dividedRule, countText, countStatement, []⟩ .mysql
      ⟨none, some (.literal 3000000000), true⟩ :=
    ⟨rfl, Statement.isMarkedIn_of_parse parsed, nofun⟩
  have carries : countStatement.Carries ⟨none, some (.literal 3000000000), true⟩ true := by
    rintro value ⟨⟩
    exact ⟨.rowCount 35 10 3000000000, by decide, rfl⟩
  obtain ⟨found, paged, -, named⟩ := exists_page_of_route rfl routed (by decide) parsed rfl
  obtain ⟨rendered, -⟩ := (RenderRequest.page_often_eq_ok isLimited).mp paged
  intro unit isUnit
  obtain ⟨names, isText⟩ := named unit isUnit
  rw [isText]
  exact ⟨names, 2147483647, fun asked =>
    RenderRequest.asks_rowCount_iff isLimited carries spans rendered, by decide⟩

end Router

end ShardedSql
