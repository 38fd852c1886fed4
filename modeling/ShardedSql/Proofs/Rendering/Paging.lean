import ShardedSql.Proofs.Number.Saturation
import ShardedSql.Proofs.Rendering.Renaming
import ShardedSql.Proofs.Routing.Stages
import ShardedSql.Proofs.Statement.Window
import ShardedSql.Proofs.Token.Numeral

/-!
# Row limits of rendered statements

A bound of a window is rendered in the text if it is a literal, and bound anew if it is a parameter.  The
text and the parameters together ask for the same window in both cases.
-/

namespace ShardedSql

open Text (slice number?)

/-- What takes the place of a marker stands behind what is rendered in front of it. -/
theorem Text.splice_around
    (text : String)
    (replace : Marker → String)
    (start stop : Nat)
    (marker : Marker)
    (front back : List Marker) :
    splice text replace stop start (front ++ marker :: back) =
      splice text replace marker.position start front ++ replace marker ++
        splice text replace stop marker.stop back := by
  induction front generalizing start with
  | nil => rfl
  | cons first front ih =>
      rw [List.cons_append, splice, splice, ih]
      simp only [String.append_assoc]

namespace Marker

variable {dialect : Dialect} {sql : String} {marker : Marker} {isRowCount : Bool} {value : Int64}

/-- The marker on a bound stands for a number with its value. -/
theorem StandsIn.number?_source
    (stands : marker.StandsIn dialect sql)
    (isBound : marker.bound? = some (isRowCount, value)) :
    number? (marker.source sql) = some value := by
  cases stands with
  | items => cases isBound
  | orderBy => cases isBound
  | @carried token _ isToken carries =>
      have standsThere := Cursor.standsIn_of_mem isToken
      obtain ⟨begins, ends⟩ := carries.spans standsThere
      rw [source, begins, ends, standsThere.slice_eq]
      apply Text.number?_source (Cursor.isShaped_of_mem isToken)
      cases carries with
      | table => cases isBound
      | bound isCount reads =>
          cases isCount with
          | true =>
              cases isBound
              exact reads
          | false =>
              cases isBound
              exact reads

end Marker

namespace Limit

variable {limit : Limit} {parameters : List Value} {offset : Int64} {rowCount : Option Int64}

theorem Spans.unique
    {other : Int64}
    {otherCount : Option Int64}
    (spans : limit.Spans parameters offset rowCount)
    (spansToo : limit.Spans parameters other otherCount) :
    offset = other ∧ rowCount = otherCount :=
  ⟨Except.ok.inj (spans.offset.symm.trans spansToo.offset),
    Except.ok.inj (spans.rowCount.symm.trans spansToo.rowCount)⟩

theorem Spans.nonneg
    (spans : limit.Spans parameters offset rowCount) :
    0 ≤ offset ∧ ∀ count, rowCount = some count → 0 ≤ count := by
  have both := spans_iff.mp spans
  exact ⟨both.1.2, both.2.2⟩

/-- The number of rows that each of several tables has to deliver for a window: a fixed number if all of
them are needed, and else the rows up to the end of the window, as far as 64 bits count. -/
def reach
    (limit : Limit)
    (fetchAll : Bool)
    (offset count : Int) : Int :=
  if fetchAll then 2147483647
  else if limit.countsFromOffset then min (offset + count) 9223372036854775807
  else count

theorem toInt_widened
    (fetchAll : Bool)
    {count : Int64}
    (isOffset : 0 ≤ offset)
    (isCount : 0 ≤ count) :
    (limit.widened fetchAll offset count).toInt = limit.reach fetchAll offset.toInt count.toInt := by
  unfold widened reach
  split
  · rfl
  · split
    · exact Integer.toInt_saturatingAdd isOffset isCount
    · rfl

theorem Spans.map_widened
    (spans : limit.Spans parameters offset rowCount)
    (fetchAll : Bool) :
    (rowCount.map fun count => limit.reach fetchAll offset.toInt count.toInt) =
      (rowCount.map (limit.widened fetchAll offset)).map Int64.toInt := by
  obtain ⟨isOffset, areCounts⟩ := spans.nonneg
  cases rowCount with
  | none => rfl
  | some count => exact congrArg some (toInt_widened fetchAll isOffset (areCounts count rfl)).symm

theorem widened_nonneg
    (fetchAll : Bool)
    {count : Int64}
    (isOffset : 0 ≤ offset)
    (isCount : 0 ≤ count) :
    0 ≤ (limit.widened fetchAll offset count).toInt := by
  have offsetNonneg : 0 ≤ offset.toInt := Int64.le_iff_toInt_le.mp isOffset
  have countNonneg : 0 ≤ count.toInt := Int64.le_iff_toInt_le.mp isCount
  rw [toInt_widened fetchAll isOffset isCount, reach]
  split
  · decide
  · split
    · exact le_min (Int.add_nonneg offsetNonneg countNonneg) (by decide)
    · exact countNonneg

end Limit

/-- Whether a bound of a row limit, if it is a literal, has a marker with its value. -/
def Statement.Carries
    (statement : Statement)
    (limit : Limit)
    (isRowCount : Bool) : Prop :=
  ∀ value, limit.bound? isRowCount = some (.literal value) →
    ∃ marker ∈ statement.markers, marker.bound? = some (isRowCount, value)

namespace RenderRequest

variable {request : RenderRequest} {dialect : Dialect} {limit : Limit}

/-- A literal row count is widened as a bound one is. -/
theorem widenedCount_eq
    {offset : Int64}
    (limited : request.statement.limit = some limit)
    (isOffset : limit.offsetValue request.parameters = .ok offset)
    (count : Int64) :
    request.widenedCount true count =
      .ok (limit.widened request.statement.needsAllRows offset count) := by
  unfold widenedCount Limit.widened
  rw [limited]
  dsimp only
  rw [if_neg nofun, isOffset]
  split
  · rfl
  · split
    · rw [Integer.saturatingAdd_comm]
      rfl
    · rfl

/-- A statement rendered for the places where it runs, and the parameters to bind to it. -/
structure Page where
  template : Template
  parameters : List Value

/-- Render a statement with a row limit, and widen what is bound. -/
def page
    (request : RenderRequest)
    (isSingle : Bool) : Except Error Page := do
  let template ← request.template (!isSingle)
  let parameters ← Router.limitedParameters request.statement isSingle request.parameters
  .ok ⟨template, parameters⟩

/-- Whether a statement has a row limit with a parameter for each bound that is a placeholder. -/
structure IsLimited
    (request : RenderRequest)
    (dialect : Dialect)
    (limit : Limit) : Prop where
  limited : request.statement.limit = some limit
  isMarked : request.statement.IsMarkedIn dialect request.sql
  distinct : ∀ index, limit.offset = some (.placeholder index) →
    limit.rowCount ≠ some (.placeholder index)

/-- Whether each bound of a statement's row limit is given in one way: by a marker on a literal of its text,
or by a parameter of its own. -/
structure IsPaged
    (request : RenderRequest)
    (dialect : Dialect)
    (limit : Limit) : Prop extends request.IsLimited dialect limit where
  carried : ∀ isRowCount, request.statement.Carries limit isRowCount

/-- Whether a rendered text has a number in the place of a marker. -/
def Writes
    (request : RenderRequest)
    (isWidened : Bool)
    (names : TableNames)
    (text : String)
    (marker : Marker)
    (number : Int64) : Prop :=
  ∃ front piece back, front ++ marker :: back = orderedMarkers request.statement ∧
    text = request.rendered isWidened names 0 marker.position front ++ piece ++
      request.rendered isWidened names marker.stop request.sql.utf8ByteSize back ∧
    number? piece = some number

/-- What a rendered text asks for at a bound, together with the parameters: nothing, the number in the place
of its marker, the number of its parameter, or a number that no marker changes. -/
inductive Asks
    (request : RenderRequest)
    (limit : Limit)
    (isWidened : Bool)
    (names : TableNames)
    (text : String)
    (parameters : List Value)
    (isRowCount : Bool) : Option Int64 → Prop where
  | nothing (noBound : limit.bound? isRowCount = none) :
      Asks request limit isWidened names text parameters isRowCount none
  | written
      {value number : Int64}
      {marker : Marker}
      (isBound : limit.bound? isRowCount = some (.literal value))
      (isMarker : marker ∈ request.statement.markers)
      (marks : marker.bound? = some (isRowCount, value))
      (writes : request.Writes isWidened names text marker number) :
      Asks request limit isWidened names text parameters isRowCount (some number)
  | unmarked
      {value : Int64}
      (isBound : limit.bound? isRowCount = some (.literal value))
      (noMarker : ∀ marker ∈ request.statement.markers, marker.bound? ≠ some (isRowCount, value)) :
      Asks request limit isWidened names text parameters isRowCount (some value)
  | bound
      {index : Nat}
      {number : Int64}
      (isBound : limit.bound? isRowCount = some (.placeholder index))
      (reads : (parameters[index]?).bind Value.nearestInteger? = some number) :
      Asks request limit isWidened names text parameters isRowCount (some number)

variable {isWidened : Bool} {names : TableNames} {template : Template} {marker : Marker}

/-- What stands in the place of a marker of a rendered text. -/
theorem writes_iff
    {number : Int64}
    (isMarked : request.statement.IsMarkedIn dialect request.sql)
    (ran : request.template isWidened = .ok template)
    (isMarker : marker ∈ request.statement.markers) :
    request.Writes isWidened names (template.fill names) marker number ↔
      number? (request.replacement isWidened names marker) = some number := by
  have splices := splices_of_marked isMarked
  have ordered := splices.ordered
  have rendered : ∀ front back, front ++ marker :: back = orderedMarkers request.statement →
      template.fill names = request.rendered isWidened names 0 marker.position front ++
        request.replacement isWidened names marker ++
          request.rendered isWidened names marker.stop request.sql.utf8ByteSize back := by
    intro front back split
    rw [splices.fills isWidened template names ran, ← split]
    exact Text.splice_around ..
  constructor
  · rintro ⟨front, piece, back, split, isText, isNumber⟩
    rw [rendered front back split, String.append_left_inj, String.append_right_inj] at isText
    rwa [isText]
  · intro isNumber
    obtain ⟨front, back, split⟩ := List.append_of_mem (splices.isPerm.mem_iff.mpr isMarker)
    exact ⟨front, _, back, split.symm, rendered front back split.symm, isNumber⟩

/-- Where a row limit has no bound, nothing is asked for. -/
theorem asks_unbound_iff
    {text : String}
    {parameters : List Value}
    {isRowCount : Bool}
    {asked : Option Int64}
    (noBound : limit.bound? isRowCount = none) :
    request.Asks limit isWidened names text parameters isRowCount asked ↔ asked = none := by
  constructor
  · intro asks
    cases asks with
    | nothing => rfl
    | written isBound => cases noBound.symm.trans isBound
    | unmarked isBound => cases noBound.symm.trans isBound
    | bound isBound => cases noBound.symm.trans isBound
  · rintro rfl
    exact .nothing noBound

/-- A number is asked for where it stands in the place of the literal, or is the parameter. -/
theorem asks_number_iff
    {parameters : List Value}
    {isRowCount : Bool}
    {operand : LimitOperand}
    {number : Int64}
    {asked : Option Int64}
    (isMarked : request.statement.IsMarkedIn dialect request.sql)
    (ran : request.template isWidened = .ok template)
    (carries : request.statement.Carries limit isRowCount)
    (isOperand : limit.bound? isRowCount = some operand)
    (replaced : ∀ value, operand = .literal value → ∀ marker ∈ request.statement.markers,
      marker.bound? = some (isRowCount, value) →
        number? (request.replacement isWidened names marker) = some number)
    (bound : ∀ index, operand = .placeholder index →
      (parameters[index]?).bind Value.nearestInteger? = some number) :
    request.Asks limit isWidened names (template.fill names) parameters isRowCount asked ↔
      asked = some number := by
  constructor
  · intro asks
    cases asks with
    | nothing noBound => cases noBound.symm.trans isOperand
    | written isBound isMarker marks writes =>
        cases isBound.symm.trans isOperand
        have isNumber := (writes_iff isMarked ran isMarker).mp writes
        rw [← isNumber]
        exact replaced _ rfl _ isMarker marks
    | unmarked isBound noMarker =>
        obtain ⟨marker, isMarker, marks⟩ := carries _ isBound
        exact absurd marks (noMarker marker isMarker)
    | bound isBound reads =>
        cases isBound.symm.trans isOperand
        rw [← reads]
        exact bound _ rfl
  · rintro rfl
    cases operand with
    | placeholder index => exact .bound isOperand (bound index rfl)
    | literal value =>
        obtain ⟨marker, isMarker, marks⟩ := carries value isOperand
        exact .written isOperand isMarker marks
          ((writes_iff isMarked ran isMarker).mpr (replaced value rfl marker isMarker marks))

/-- A literal without a marker is asked for as it is. -/
theorem asks_unmarked_iff
    {text : String}
    {parameters : List Value}
    {isRowCount : Bool}
    {value : Int64}
    {asked : Option Int64}
    (isBound : limit.bound? isRowCount = some (.literal value))
    (noMarker : ∀ marker ∈ request.statement.markers, marker.bound? ≠ some (isRowCount, value)) :
    request.Asks limit isWidened names text parameters isRowCount asked ↔ asked = some value := by
  constructor
  · intro asks
    cases asks with
    | nothing noBound => cases noBound.symm.trans isBound
    | written isThere isMarker marks =>
        cases isBound.symm.trans isThere
        exact absurd marks (noMarker _ isMarker)
    | unmarked isThere =>
        cases isBound.symm.trans isThere
        rfl
    | bound isThere => cases isBound.symm.trans isThere
  · rintro rfl
    exact .unmarked isBound noMarker

section Once

variable {isRowCount : Bool} {value : Int64} {asked : Option Int64}

/-- For one run only, a bound stays as it is written. -/
theorem replacement_of_bound
    (isBound : marker.bound? = some (isRowCount, value)) :
    request.replacement false names marker = marker.source request.sql := by
  cases marker with
  | table | items | orderBy => cases isBound
  | rowCount => simp only [replacement, widenedCount_of_single, if_true]
  | offset => rfl

theorem asks_once_iff
    (isPaged : request.IsPaged dialect limit)
    (ran : request.template false = .ok template) :
    request.Asks limit false names (template.fill names) request.parameters isRowCount asked ↔
      limit.Gives request.parameters isRowCount asked := by
  have isMarked := isPaged.isMarked
  constructor
  · intro asks
    cases asks with
    | nothing noBound => exact .nothing noBound
    | written isBound isMarker marks writes =>
        have isNumber := (writes_iff isMarked ran isMarker).mp writes
        rw [replacement_of_bound marks,
          (isMarked.stands _ isMarker).number?_source marks] at isNumber
        exact .number isBound isNumber
    | unmarked isBound => exact .number isBound rfl
    | bound isBound reads => exact .number isBound reads
  · intro gives
    cases gives with
    | nothing noBound => exact .nothing noBound
    | @number operand number isBound reads =>
        cases operand with
        | placeholder index => exact .bound isBound reads
        | literal given =>
            obtain ⟨marker, isMarker, marks⟩ := isPaged.carried _ given isBound
            refine .written isBound isMarker marks ((writes_iff isMarked ran isMarker).mpr ?_)
            rw [replacement_of_bound marks, (isMarked.stands _ isMarker).number?_source marks]
            exact reads

end Once

section Often

variable {offset : Int64} {rowCount : Option Int64} {value count : Int64} {asked : Option Int64}

theorem number?_offset
    (isBound : marker.bound? = some (false, value)) :
    number? (request.replacement true names marker) = some 0 := by
  cases marker with
  | table | items | orderBy | rowCount => cases isBound
  | offset => exact @Text.number?_toString 0 (by decide)

theorem number?_rowCount
    (isLimited : request.IsLimited dialect limit)
    (spans : limit.Spans request.parameters offset (some count))
    (isMarker : marker ∈ request.statement.markers)
    (isBound : marker.bound? = some (true, count)) :
    number? (request.replacement true names marker) =
      some (limit.widened request.statement.needsAllRows offset count) := by
  have reads := (isLimited.isMarked.stands _ isMarker).number?_source isBound
  cases marker with
  | table | items | orderBy | offset => cases isBound
  | rowCount position length written =>
      cases isBound
      simp only [replacement, widenedCount_eq isLimited.limited spans.offset]
      split
      next isSame => rw [isSame, reads]
      next =>
        obtain ⟨isOffset, isCount⟩ := spans.nonneg
        exact Text.number?_toString (Limit.widened_nonneg _ isOffset (isCount _ rfl))

/-- For several runs, the window begins with the first row. -/
theorem asks_offset_iff
    (isLimited : request.IsLimited dialect limit)
    (carries : request.statement.Carries limit false)
    (spans : limit.Spans request.parameters offset rowCount)
    (ran : request.template true = .ok template) :
    request.Asks limit true names (template.fill names)
        (limit.rebound request.statement.needsAllRows offset rowCount request.parameters) false asked ↔
      asked = limit.offset.map fun _ => 0 := by
  cases isOperand : limit.offset with
  | none => exact asks_unbound_iff isOperand
  | some operand =>
      apply asks_number_iff isLimited.isMarked ran carries isOperand
      · exact fun _ _ _ _ marks => number?_offset marks
      · rintro index rfl
        obtain ⟨⟨given, gives, -⟩, -⟩ := (Limit.spans_iff.mp spans).1
        rw [Limit.getElem?_rebound_offset isOperand (isLimited.distinct index isOperand)]
        · rfl
        · cases gives with
          | nothing noBound => cases isOperand.symm.trans noBound
          | number isBound reads =>
              cases isOperand.symm.trans isBound
              exact LimitOperand.lt_length_of_number? reads

/-- For several runs, the row count reaches from the first row to the end of the window. -/
theorem asks_rowCount_iff
    (isLimited : request.IsLimited dialect limit)
    (carries : request.statement.Carries limit true)
    (spans : limit.Spans request.parameters offset rowCount)
    (ran : request.template true = .ok template) :
    request.Asks limit true names (template.fill names)
        (limit.rebound request.statement.needsAllRows offset rowCount request.parameters) true asked ↔
      asked = rowCount.map (limit.widened request.statement.needsAllRows offset) := by
  have gives := (Limit.spans_iff.mp spans).2.1
  cases gives with
  | nothing noBound => exact asks_unbound_iff noBound
  | number isOperand reads =>
      apply asks_number_iff isLimited.isMarked ran carries isOperand
      · rintro value rfl marker isMarker marks
        cases reads
        exact number?_rowCount isLimited spans isMarker marks
      · rintro index rfl
        rw [Limit.getElem?_rebound_rowCount isOperand (LimitOperand.lt_length_of_number? reads)]
        rfl

end Often

section Pages

variable {isSingle : Bool} {result : Page}

theorem page_eq_ok :
    request.page isSingle = .ok result ↔
      request.template (!isSingle) = .ok result.template ∧
        Router.limitedParameters request.statement isSingle request.parameters =
          .ok result.parameters := by
  constructor
  · intro ran
    obtain ⟨template, rendered, ran⟩ := Success.bind_eq_ok.mp ran
    obtain ⟨parameters, limited, ran⟩ := Success.bind_eq_ok.mp ran
    cases ran
    exact ⟨rendered, limited⟩
  · rintro ⟨rendered, limited⟩
    unfold page
    rw [rendered, limited]
    rfl

theorem page_single_eq_ok (isLimited : request.IsLimited dialect limit) :
    request.page true = .ok result ↔
      request.template false = .ok result.template ∧ result.parameters = request.parameters := by
  rw [page_eq_ok, Router.limitedParameters, isLimited.limited]
  dsimp only
  rw [if_pos rfl, Except.ok.injEq]
  exact and_congr_right fun _ => eq_comm

theorem page_often_eq_ok (isLimited : request.IsLimited dialect limit) :
    request.page false = .ok result ↔
      request.template true = .ok result.template ∧
        ∃ offset rowCount, limit.Spans request.parameters offset rowCount ∧
          result.parameters =
            limit.rebound request.statement.needsAllRows offset rowCount request.parameters := by
  rw [page_eq_ok, Router.limitedParameters, isLimited.limited]
  dsimp only
  rw [if_neg Bool.false_ne_true, Limit.widenParameters_eq_ok]
  exact Iff.rfl

theorem exists_page_single (isLimited : request.IsLimited dialect limit) :
    ∃ result, request.page true = .ok result := by
  obtain ⟨template, ran⟩ : ∃ template, request.template false = .ok template := exists_template
    (fun _ _ count _ => ⟨count, widenedCount_of_single count⟩) isLimited.isMarked.apart
  exact ⟨⟨template, request.parameters⟩, (page_single_eq_ok isLimited).mpr ⟨ran, rfl⟩⟩

theorem exists_page_often_iff (isLimited : request.IsLimited dialect limit) :
    (∃ result, request.page false = .ok result) ↔
      ∃ offset rowCount, limit.Spans request.parameters offset rowCount := by
  constructor
  · rintro ⟨result, ran⟩
    obtain ⟨-, offset, rowCount, spans, -⟩ := (page_often_eq_ok isLimited).mp ran
    exact ⟨offset, rowCount, spans⟩
  · rintro ⟨offset, rowCount, spans⟩
    obtain ⟨template, ran⟩ : ∃ template, request.template true = .ok template := exists_template
      (fun _ _ count _ => ⟨_, widenedCount_eq isLimited.limited spans.offset count⟩)
      isLimited.isMarked.apart
    exact ⟨⟨template, _⟩, (page_often_eq_ok isLimited).mpr ⟨ran, offset, rowCount, spans, rfl⟩⟩

end Pages

/-- A statement is routed just when its tables are, its page is rendered, and the names of the tables are
filled in. -/
theorem routeKeyed_eq_ok
    {router : Router}
    {hint : Hint}
    {sql : String}
    {statement : Statement}
    {keyed : Router.KeyedParameters}
    {result : RouteResult} :
    router.routeKeyed hint sql statement keyed = .ok result ↔
      ∃ outcome found units,
        RoutingRequest.route ⟨router.rule, keyed.parameters, statement, hint⟩ = .ok outcome ∧
        page ⟨router.rule, sql, statement, keyed.parameters⟩ outcome.isSingle = .ok found ∧
        Router.executionUnits ⟨router.rule, sql, statement, keyed.parameters⟩ found.template outcome =
          .ok units ∧
        result = ⟨statement.kind, units, found.parameters, keyed.generatedKeys⟩ := by
  constructor
  · intro routed
    obtain ⟨outcome, template, runs⟩ := Router.exists_runsAt routed
    refine ⟨outcome, ⟨template, result.parameters⟩, result.units, runs.routed,
      page_eq_ok.mpr ⟨runs.rendered, runs.limited⟩, runs.filled, ?_⟩
    rw [← runs.kind, ← runs.generatedKeys]
  · rintro ⟨outcome, found, units, routed, paged, filled, rfl⟩
    obtain ⟨rendered, limited⟩ := page_eq_ok.mp paged
    exact Success.bind_eq_ok.mpr ⟨outcome, routed, Success.bind_eq_ok.mpr ⟨_, rendered,
      Success.bind_eq_ok.mpr ⟨units, filled, Success.bind_eq_ok.mpr ⟨_, limited, rfl⟩⟩⟩⟩

/-- How a statement with a row limit is rendered: as it is written for one run, and for several runs with a
window that begins with the first row and ends where it ended. -/
structure PagesBy
    (request : RenderRequest)
    (limit : Limit) : Prop where
  single : ∃ result, request.page true = .ok result
  often : (∃ result, request.page false = .ok result) ↔
    ∃ offset rowCount, limit.Spans request.parameters offset rowCount
  keepsText : ∀ names, ∀ marker ∈ request.statement.markers, marker.bound?.isSome →
    request.replacement false names marker = marker.source request.sql
  keepsParameters : ∀ result, request.page true = .ok result → result.parameters = request.parameters
  asksOnce : ∀ result, request.page true = .ok result → ∀ names isRowCount asked,
    request.Asks limit false names (result.template.fill names) result.parameters isRowCount asked ↔
      limit.Gives request.parameters isRowCount asked
  asksOffset : ∀ result, request.page false = .ok result → ∀ names asked,
    request.Asks limit true names (result.template.fill names) result.parameters false asked ↔
      asked = limit.offset.map fun _ => 0
  asksRowCount : ∀ result, request.page false = .ok result → ∀ offset rowCount,
    limit.Spans request.parameters offset rowCount → ∀ names asked,
      request.Asks limit true names (result.template.fill names) result.parameters true asked ↔
        asked.map Int64.toInt = rowCount.map fun count =>
          limit.reach request.statement.needsAllRows offset.toInt count.toInt
  leaves : ∀ fetchAll before, limit.Leaves before
    ((limit.widenInPlace fetchAll).run.run before).1 ((limit.widenInPlace fetchAll).run.run before).2
  routes : ∀ (router : Router) hint (keyed : Router.KeyedParameters),
    router.rule = request.rule → keyed.parameters = request.parameters →
    ((∃ result, router.routeKeyed hint request.sql request.statement keyed = .ok result) ↔
      ∃ outcome found units,
        RoutingRequest.route ⟨router.rule, keyed.parameters, request.statement, hint⟩ = .ok outcome ∧
        request.page outcome.isSingle = .ok found ∧
        Router.executionUnits request found.template outcome = .ok units) ∧
    ∀ result, router.routeKeyed hint request.sql request.statement keyed = .ok result →
      ∃ found, request.page (decide (result.units.length = 1)) = .ok found ∧
        result.parameters = found.parameters ∧
        ∀ unit ∈ result.units, ∃ names, unit.sql = found.template.fill names

theorem pagesBy_of_isPaged (isPaged : request.IsPaged dialect limit) : request.PagesBy limit := by
  constructor
  · exact exists_page_single isPaged.toIsLimited
  · exact exists_page_often_iff isPaged.toIsLimited
  · intro names marker _ isBound
    obtain ⟨⟨isRowCount, value⟩, isBound⟩ := Option.isSome_iff_exists.mp isBound
    exact replacement_of_bound isBound
  · intro result ran
    exact ((page_single_eq_ok isPaged.toIsLimited).mp ran).2
  · intro result ran names isRowCount asked
    obtain ⟨rendered, parameters⟩ := (page_single_eq_ok isPaged.toIsLimited).mp ran
    rw [parameters]
    exact asks_once_iff isPaged rendered
  · intro result ran names asked
    obtain ⟨rendered, offset, rowCount, spans, parameters⟩ := (page_often_eq_ok isPaged.toIsLimited).mp ran
    rw [parameters]
    exact asks_offset_iff isPaged.toIsLimited (isPaged.carried false) spans rendered
  · intro result ran offset rowCount spans names asked
    obtain ⟨rendered, _, _, found, parameters⟩ := (page_often_eq_ok isPaged.toIsLimited).mp ran
    obtain ⟨rfl, rfl⟩ := found.unique spans
    rw [parameters, asks_rowCount_iff isPaged.toIsLimited (isPaged.carried true) spans rendered,
      spans.map_widened,
      (Option.map_injective fun _ _ => Int64.toInt_inj.mp).eq_iff]
  · exact fun fetchAll before => limit.leaves_widenInPlace fetchAll before
  · intro router hint keyed sameRule sameParameters
    obtain ⟨rule, sql, statement, parameters⟩ := request
    obtain rfl : router.rule = rule := sameRule
    obtain rfl : keyed.parameters = parameters := sameParameters
    constructor
    · constructor
      · rintro ⟨result, routed⟩
        obtain ⟨outcome, found, units, routed, paged, filled, -⟩ := routeKeyed_eq_ok.mp routed
        exact ⟨outcome, found, units, routed, paged, filled⟩
      · rintro ⟨outcome, found, units, routed, paged, filled⟩
        exact ⟨_, routeKeyed_eq_ok.mpr ⟨outcome, found, units, routed, paged, filled, rfl⟩⟩
    · intro result routed
      obtain ⟨outcome, found, units, -, paged, filled, rfl⟩ := routeKeyed_eq_ok.mp routed
      have isSingle : decide (units.length = 1) = outcome.isSingle := by
        rw [Bool.eq_iff_iff, decide_eq_true_iff, Outcome.isSingle_iff,
          Router.length_executionUnits filled]
      refine ⟨found, ?_, rfl, Router.exists_names_of_executionUnits filled⟩
      rw [isSingle]
      exact paged

/-- Whether two statements with row limits are rendered in the same cases, and ask for the same window. -/
structure PagesAlike
    (first second : RenderRequest)
    (limit other : Limit) : Prop where
  succeeds : ∀ isSingle, (∃ result, first.page isSingle = .ok result) ↔
    ∃ result, second.page isSingle = .ok result
  asks : ∀ isSingle result found,
    first.page isSingle = .ok result → second.page isSingle = .ok found →
      ∀ names others isRowCount asked,
        first.Asks limit (!isSingle) names (result.template.fill names) result.parameters
            isRowCount asked ↔
          second.Asks other (!isSingle) others (found.template.fill others) found.parameters
            isRowCount asked

/-- **Literal and bound row limits agree.**  Two statements with the same window, whose bounds are literals
or parameters in any mixture, are rendered for one run and for several runs in the same cases, and ask for
the same window each time. -/
theorem pages_alike
    {first second : RenderRequest}
    {otherDialect : Dialect}
    {other : Limit}
    (isPaged : first.IsPaged dialect limit)
    (isPagedToo : second.IsPaged otherDialect other)
    (sameNeed : first.statement.needsAllRows = second.statement.needsAllRows)
    (alike : limit.Alike other first.parameters second.parameters) :
    first.PagesBy limit ∧ PagesAlike first second limit other := by
  have pages := pagesBy_of_isPaged isPaged
  have pagesToo := pagesBy_of_isPaged isPagedToo
  have spans : ∀ offset rowCount, limit.Spans first.parameters offset rowCount ↔
      other.Spans second.parameters offset rowCount :=
    fun _ _ => alike.spans_iff
  refine ⟨pages, fun isSingle => ?_, fun isSingle result found ran ranToo names others => ?_⟩
  · cases isSingle with
    | true => exact iff_of_true pages.single pagesToo.single
    | false =>
        rw [pages.often, pagesToo.often]
        exact exists_congr fun offset => exists_congr fun rowCount => spans offset rowCount
  · intro isRowCount asked
    cases isSingle with
    | true =>
        calc first.Asks limit false names (result.template.fill names) result.parameters
              isRowCount asked
            ↔ limit.Gives first.parameters isRowCount asked :=
              pages.asksOnce result ran names isRowCount asked
          _ ↔ other.Gives second.parameters isRowCount asked := alike.gives_iff
          _ ↔ _ := (pagesToo.asksOnce found ranToo others isRowCount asked).symm
    | false =>
        obtain ⟨offset, rowCount, isSpan⟩ := pages.often.mp ⟨result, ran⟩
        have isSpanToo := (spans offset rowCount).mp isSpan
        cases isRowCount with
        | false =>
            have sameOffset := alike.offset.map_const (0 : Int64)
            calc first.Asks limit true names (result.template.fill names) result.parameters false asked
                ↔ asked = limit.offset.map fun _ => 0 := pages.asksOffset result ran names asked
              _ ↔ asked = other.offset.map fun _ => 0 := by rw [sameOffset]
              _ ↔ _ := (pagesToo.asksOffset found ranToo others asked).symm
        | true =>
            have asksToo := pagesToo.asksRowCount found ranToo offset rowCount isSpanToo others asked
            rw [Bool.not_false, asksToo, pages.asksRowCount result ran offset rowCount isSpan names asked]
            simp only [Limit.reach, sameNeed, alike.counts]

/-- The query with bounds of parameters in the place of its literals. -/
def boundText : String :=
  "SELECT t_order.user_id FROM `t_order` LIMIT ?, ?"

/-- A query and the same query with its bounds in parameters are paged alike. -/
theorem pages_alike_boundText :
    ∃ statement other,
      (Statement.parse .mysql keyedRule (Keys.ofRule keyedRule 0) limitedText 0).1 = .ok statement ∧
      (Statement.parse .mysql keyedRule (Keys.ofRule keyedRule 0) boundText 2).1 = .ok other ∧
      PagesBy ⟨keyedRule, limitedText, statement, []⟩
        ⟨some (.literal 2), some (.literal 3), true⟩ ∧
      PagesAlike ⟨keyedRule, limitedText, statement, []⟩
        ⟨keyedRule, boundText, other, [.integer 2, .integer 3]⟩
        ⟨some (.literal 2), some (.literal 3), true⟩
        ⟨some (.placeholder 0), some (.placeholder 1), true⟩ := by
  have read :
      (Statement.parse .mysql keyedRule (Keys.ofRule keyedRule 0) limitedText 0).1.toOption.map
        (fun statement => (statement.limit, statement.markers, statement.needsAllRows)) =
      some (some ⟨some (.literal 2), some (.literal 3), true⟩,
        [.table 28 "`t_order`", .offset 44 1 2, .rowCount 47 1 3, .table 7 "t_order"], false) := by
    decide +kernel
  have readToo :
      (Statement.parse .mysql keyedRule (Keys.ofRule keyedRule 0) boundText 2).1.toOption.map
        (fun statement => (statement.limit, statement.needsAllRows)) =
      some (some ⟨some (.placeholder 0), some (.placeholder 1), true⟩, false) := by
    decide +kernel
  obtain ⟨statement, isParsed, found⟩ := Option.map_eq_some_iff.mp read
  obtain ⟨other, isParsedToo, foundToo⟩ := Option.map_eq_some_iff.mp readToo
  obtain ⟨limited, markers, needed⟩ : _ ∧ _ ∧ _ := by simpa only [Prod.mk.injEq] using found
  obtain ⟨limitedToo, neededToo⟩ : _ ∧ _ := by simpa only [Prod.mk.injEq] using foundToo
  have parsed := Success.toOption_eq_some.mp isParsed
  have parsedToo := Success.toOption_eq_some.mp isParsedToo
  refine ⟨statement, other, parsed, parsedToo, ?_⟩
  apply @pages_alike .mysql _ _ _ .mysql
  · refine ⟨⟨limited, Statement.isMarkedIn_of_parse parsed, nofun⟩, ?_⟩
    intro isRowCount value isBound
    cases isRowCount with
    | true =>
        cases isBound
        exact ⟨.rowCount 47 1 3, by simp [markers], rfl⟩
    | false =>
        cases isBound
        exact ⟨.offset 44 1 2, by simp [markers], rfl⟩
  · refine ⟨⟨limitedToo, Statement.isMarkedIn_of_parse parsedToo, ?_⟩, ?_⟩
    · rintro index ⟨⟩
      nofun
    · intro isRowCount value isBound
      cases isRowCount <;> cases isBound
  · exact needed.trans neededToo.symm
  · exact ⟨.bound rfl, .bound rfl, rfl⟩

end RenderRequest

end ShardedSql
