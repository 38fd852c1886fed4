import ShardedSql.Proofs.Rendering.Splicing
import ShardedSql.Routing.Router

/-!
# The stages of a route

A statement is parsed, its key is filled in, its tables are routed, its text is rendered, and the
parameters of its row limit are widened.  A route says that each of these stages succeeded.
-/

namespace ShardedSql

namespace Combinations

/-- The references on all data sources. -/
theorem count_eq (combinations : Combinations) :
    combinations.count = (combinations.dataSources.map (·.references.length)).sum := by
  simp [count, List.length_flatMap]

end Combinations

/-- How often a statement runs. -/
def Outcome.runs : Outcome → Nat
  | .units found => found.toList.length
  | .combined combinations => combinations.count

theorem Outcome.isSingle_iff (outcome : Outcome) :
    outcome.isSingle = true ↔ outcome.runs = 1 := by
  cases outcome <;> simp [isSingle, runs]

namespace Router

variable {router : Router} {keys : Keys} {hint : Hint} {sql : String} {parameters : List Value}
variable {statement : Statement} {keyed : KeyedParameters} {result : RouteResult}

/-- The stages behind the key of a statement. -/
structure RunsAt
    (router : Router)
    (hint : Hint)
    (sql : String)
    (statement : Statement)
    (keyed : KeyedParameters)
    (outcome : Outcome)
    (template : Template)
    (result : RouteResult) : Prop where
  routed : RoutingRequest.route ⟨router.rule, keyed.parameters, statement, hint⟩ = .ok outcome
  rendered : RenderRequest.template ⟨router.rule, sql, statement, keyed.parameters⟩
    (!outcome.isSingle) = .ok template
  filled : executionUnits ⟨router.rule, sql, statement, keyed.parameters⟩ template outcome =
    .ok result.units
  limited : limitedParameters statement outcome.isSingle keyed.parameters = .ok result.parameters
  kind : result.kind = statement.kind
  generatedKeys : result.generatedKeys = keyed.generatedKeys

theorem exists_runsAt
    (routed : router.routeKeyed hint sql statement keyed = .ok result) :
    ∃ outcome template, router.RunsAt hint sql statement keyed outcome template result := by
  obtain ⟨outcome, outcomeOk, routed⟩ := Success.bind_eq_ok.mp routed
  obtain ⟨template, templateOk, routed⟩ := Success.bind_eq_ok.mp routed
  obtain ⟨units, unitsOk, routed⟩ := Success.bind_eq_ok.mp routed
  obtain ⟨parameters, parametersOk, routed⟩ := Success.bind_eq_ok.mp routed
  cases Except.ok.inj routed
  exact ⟨outcome, template, outcomeOk, templateOk, unitsOk, parametersOk, rfl, rfl⟩

/-- A route by the text of a statement. -/
theorem exists_statement_of_route
    (byText : hint.isDatabaseOnly = false)
    (routed : (router.route keys hint sql parameters).1 = .ok result) :
    ∃ statement left keyed,
      Statement.parse router.dialect router.rule keys sql parameters.length = (.ok statement, left) ∧
      router.fillKey left statement parameters = .ok keyed ∧
      router.routeKeyed hint sql statement keyed = .ok result ∧
      (router.route keys hint sql parameters).2 = keyed.keys := by
  rw [route, byText, if_neg Bool.false_ne_true] at routed ⊢
  unfold routeParsed at routed ⊢
  split at routed
  next => cases routed
  next statement left parsed =>
    split at routed
    next => cases routed
    next keyed filled => exact ⟨statement, left, keyed, parsed, filled, routed, rfl⟩

/-- A route passes its stages one by one.  Markers that stand in order are rendered in this order. -/
theorem route_of_ordered
    {left : Keys}
    {outcome : Outcome}
    {units : List ExecutionUnit}
    {bound : List Value}
    (byText : hint.isDatabaseOnly = false)
    (parsed : Statement.parse router.dialect router.rule keys sql parameters.length =
      (.ok statement, left))
    (filled : router.fillKey left statement parameters = .ok keyed)
    (routed : RoutingRequest.route ⟨router.rule, keyed.parameters, statement, hint⟩ = .ok outcome)
    (ordered : statement.markers.Pairwise Marker.IsBefore)
    (rendered : (do
      let progress ← statement.markers.foldlM
        (RenderRequest.renderMarker ⟨router.rule, sql, statement, keyed.parameters⟩ (!outcome.isSingle))
        ⟨{}, 0⟩
      executionUnits ⟨router.rule, sql, statement, keyed.parameters⟩
        (progress.template.addText (Text.slice sql progress.position sql.utf8ByteSize)) outcome) =
          .ok units)
    (limited : limitedParameters statement outcome.isSingle keyed.parameters = .ok bound) :
    router.route keys hint sql parameters =
      (.ok ⟨statement.kind, units, bound, keyed.generatedKeys⟩, keyed.keys) := by
  obtain ⟨progress, progressOk, unitsOk⟩ := Success.bind_eq_ok.mp rendered
  have templateOk : RenderRequest.template ⟨router.rule, sql, statement, keyed.parameters⟩
      (!outcome.isSingle) =
        .ok (progress.template.addText (Text.slice sql progress.position sql.utf8ByteSize)) := by
    unfold RenderRequest.template
    rw [RenderRequest.orderedMarkers_of_before ordered]
    exact Success.bind_eq_ok.mpr ⟨progress, progressOk, rfl⟩
  have ran : router.routeKeyed hint sql statement keyed =
      .ok ⟨statement.kind, units, bound, keyed.generatedKeys⟩ :=
    Success.bind_eq_ok.mpr ⟨_, routed, Success.bind_eq_ok.mpr ⟨_, templateOk,
      Success.bind_eq_ok.mpr ⟨_, unitsOk, Success.bind_eq_ok.mpr ⟨_, limited, rfl⟩⟩⟩⟩
  simp only [route, byText, Bool.false_eq_true, if_false, routeParsed, parsed, filled, ran]

/-- A statement has one text for each of its runs. -/
theorem length_executionUnits
    {request : RenderRequest}
    {template : Template}
    {outcome : Outcome}
    {units : List ExecutionUnit}
    (filled : executionUnits request template outcome = .ok units) :
    units.length = outcome.runs := by
  unfold executionUnits at filled
  cases outcome with
  | units found => exact (Success.mapM_eq_ok.mp filled).length_eq.symm
  | combined combinations =>
      obtain ⟨groups, groupsOk, rfl⟩ := Success.map_eq_ok.mp filled
      have lengths : List.Forall₂ (· = ·) (combinations.dataSources.map (·.references.length))
          (groups.map List.length) := by
        rw [List.forall₂_map_left_iff, List.forall₂_map_right_iff]
        exact (Success.mapM_eq_ok.mp groupsOk).imp fun _ _ groupOk =>
          (Success.mapM_eq_ok.mp groupOk).length_eq
      rw [List.forall₂_eq_eq_eq] at lengths
      rw [Outcome.runs, Combinations.count_eq, lengths, List.length_flatten]

/-- The texts of a statement differ in the names that are filled in. -/
theorem exists_names_of_executionUnits
    {request : RenderRequest}
    {template : Template}
    {outcome : Outcome}
    {units : List ExecutionUnit}
    (filled : executionUnits request template outcome = .ok units) :
    ∀ unit ∈ units, ∃ names, unit.sql = template.fill names := by
  have names : ∀ {dataSource : String} {found : List TableUnit} {unit : ExecutionUnit},
      ((request.fill template found).map fun sql => ExecutionUnit.mk dataSource sql) = .ok unit →
        ∃ names, unit.sql = template.fill names := by
    intro dataSource found unit filled
    obtain ⟨sql, named, rfl⟩ := Success.map_eq_ok.mp filled
    obtain ⟨names, -, rfl⟩ := Success.map_eq_ok.mp named
    exact ⟨names, rfl⟩
  intro unit isUnit
  cases outcome with
  | units found =>
      obtain ⟨table, -, one⟩ := Success.exists_input_of_mem filled isUnit
      exact names one
  | combined combinations =>
      obtain ⟨groups, groupsOk, rfl⟩ := Success.map_eq_ok.mp filled
      obtain ⟨group, isGroup, isThere⟩ := List.mem_flatten.mp isUnit
      obtain ⟨source, -, sourceOk⟩ := Success.exists_input_of_mem groupsOk isGroup
      obtain ⟨reference, -, one⟩ := Success.exists_input_of_mem sourceOk isThere
      exact names one

end Router

end ShardedSql
