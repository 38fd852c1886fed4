import ShardedSql.Proofs.Statement.Markers
import ShardedSql.Proofs.Success
import ShardedSql.Rendering.Request

/-!
# Rendering changes a text at its markers only

The markers of a parsed statement stand apart, so that rendering passes over none of them.  What it gives
for some names of tables is the text with a replacement for what each marker stands for, and with every
other byte in its place.
-/

namespace ShardedSql

open Text (HasPiece IsBoundary slice)

namespace Text

variable {text : String} {start middle stop : Nat}

/-- Two slices next to each other are one slice. -/
theorem slice_append_slice
    (first : IsBoundary text.toList start)
    (second : IsBoundary text.toList middle)
    (third : IsBoundary text.toList stop)
    (begins : start ≤ middle)
    (ends : middle ≤ stop) :
    slice text start middle ++ slice text middle stop = slice text start stop := by
  obtain ⟨piece, isPiece, rfl⟩ := exists_piece first second begins
  obtain ⟨later, isLater, rfl⟩ := exists_piece second third ends
  have whole := (isPiece.append isLater).sliceBytes_eq
  rw [byteLength_append, ← Nat.add_assoc] at whole
  rw [slice, slice, slice, isPiece.sliceBytes_eq, isLater.sliceBytes_eq, whole, String.ofList_append]

theorem slice_whole (text : String) :
    slice text 0 text.utf8ByteSize = text := by
  have whole : HasPiece text.toList text.toList 0 := ⟨[], [], by simp, rfl⟩
  simpa using whole.slice_eq

end Text

namespace Template

variable (template : Template) (names : TableNames)

theorem fill_addText (content : String) :
    (template.addText content).fill names = template.fill names ++ content := by
  unfold addText
  split
  next isEmpty => simp [String.isEmpty_iff.mp isEmpty]
  next =>
    split
    next present isLast =>
      obtain ⟨front, split⟩ := List.getLast?_eq_some_iff.mp isLast
      simp [fill, split, fillSegment, String.join_append, String.append_assoc]
    next => simp [fill, fillSegment, String.join_append]

theorem fill_addTable (logicTable written : String) :
    (template.addTable logicTable written).fill names =
      template.fill names ++ fillSegment names (.table logicTable written) := by
  simp [addTable, fill, String.join_append]

theorem fill_addItems (items : List String) :
    (items.foldl (fun built item => (built.addText ", ").addText item) template).fill names =
      template.fill names ++ String.join (items.map fun item => ", " ++ item) := by
  induction items generalizing template with
  | nil => simp
  | cons item items ih =>
      rw [List.foldl_cons, ih, fill_addText, fill_addText]
      simp [String.append_assoc]

end Template

/-- What a marker stands for in a text. -/
def Marker.source
    (text : String)
    (marker : Marker) : String :=
  slice text marker.position marker.stop

/-- Whether a marker adds to a text without taking the place of any of it. -/
def Marker.IsAddition : Marker → Prop
  | .items _ _ | .orderBy _ => True
  | .table _ _ | .rowCount _ _ _ | .offset _ _ _ => False

/-- The part of a text between two positions, with a replacement for what each of some markers stands for. -/
def Text.splice
    (text : String)
    (replace : Marker → String)
    (stop : Nat) : Nat → List Marker → String
  | start, [] => slice text start stop
  | start, marker :: markers =>
      slice text start marker.position ++ replace marker ++
        splice text replace stop marker.stop markers

namespace Text

variable {text : String} {start middle stop : Nat} {front back markers : List Marker}

theorem splice_congr
    {first second : Marker → String}
    (same : ∀ marker ∈ markers, first marker = second marker)
    (start : Nat) :
    splice text first stop start markers = splice text second stop start markers := by
  induction markers generalizing start with
  | nil => rfl
  | cons marker markers ih =>
      rw [splice, splice, same marker List.mem_cons_self,
        ih fun other isOther => same other (List.mem_cons_of_mem _ isOther)]

/-- A text is changed in front of a place and behind it. -/
theorem splice_append
    (replace : Marker → String)
    (begins : IsBoundary text.toList start)
    (isPlace : IsBoundary text.toList middle)
    (ends : IsBoundary text.toList stop)
    (isBehind : start ≤ middle)
    (isAhead : middle ≤ stop)
    (arePlaces : ∀ marker ∈ front ++ back,
      IsBoundary text.toList marker.position ∧ IsBoundary text.toList marker.stop)
    (areInFront : ∀ marker ∈ front, marker.stop ≤ middle)
    (areBehind : ∀ marker ∈ back, middle ≤ marker.position) :
    splice text replace stop start (front ++ back) =
      splice text replace middle start front ++ splice text replace stop middle back := by
  induction front generalizing start with
  | nil =>
      cases back with
      | nil => exact (slice_append_slice begins isPlace ends isBehind isAhead).symm
      | cons marker back =>
          have isMarker := (arePlaces marker List.mem_cons_self).1
          have follows := areBehind marker List.mem_cons_self
          rw [List.nil_append, splice, splice, splice,
            ← slice_append_slice begins isPlace isMarker isBehind follows]
          simp only [String.append_assoc]
  | cons marker front ih =>
      have others : ∀ other ∈ front ++ back,
          IsBoundary text.toList other.position ∧ IsBoundary text.toList other.stop :=
        fun other isOther => arePlaces other (List.mem_cons_of_mem _ isOther)
      have isMarker := (arePlaces marker List.mem_cons_self).2
      rw [List.cons_append, splice, splice, ih isMarker (areInFront marker List.mem_cons_self) others
        fun other isOther => areInFront other (List.mem_cons_of_mem _ isOther)]
      simp only [String.append_assoc]

end Text

namespace RenderRequest

variable (request : RenderRequest) (isWidened : Bool) (names : TableNames)

/-- What takes the place of what a marker stands for. -/
def replacement (marker : Marker) : String :=
  match marker with
  | .table _ literals => Template.fillSegment names (.table (unquoteName literals) literals)
  | .items _ items => String.join (items.map fun item => ", " ++ item)
  | .orderBy _ => orderClause request.statement
  | .rowCount _ _ count =>
      match request.widenedCount isWidened count with
      | .ok rowCount =>
          if rowCount = count then marker.source request.sql else toString rowCount.toInt
      | .error _ => marker.source request.sql
  | .offset _ _ _ => if isWidened then "0" else marker.source request.sql

variable {request isWidened}

/-- A marker that is ahead is rendered, with the text in front of it. -/
theorem renderMarker_eq_ok
    {progress next : Progress}
    {marker : Marker}
    (isAhead : progress.position ≤ marker.position)
    (ran : request.renderMarker isWidened progress marker = .ok next) :
    next.position = marker.stop ∧
      next.template.fill names = progress.template.fill names ++
        (slice request.sql progress.position marker.position ++
          request.replacement isWidened names marker) := by
  unfold renderMarker at ran
  rw [if_neg (Nat.not_lt.mpr isAhead)] at ran
  cases marker with
  | table position literals =>
      cases ran
      refine ⟨rfl, ?_⟩
      rw [Template.fill_addTable, Template.fill_addText, String.append_assoc]
      rfl
  | items position items =>
      cases ran
      refine ⟨rfl, ?_⟩
      rw [Template.fill_addItems, Template.fill_addText, String.append_assoc]
      rfl
  | orderBy position =>
      cases ran
      refine ⟨rfl, ?_⟩
      rw [Template.fill_addText, Template.fill_addText, String.append_assoc]
      rfl
  | rowCount position length count =>
      cases counted : request.widenedCount isWidened count with
      | error error =>
          simp only [counted] at ran
          cases ran
      | ok rowCount =>
          simp only [counted] at ran
          cases ran
          refine ⟨rfl, ?_⟩
          rw [Template.fill_addText, Template.fill_addText, String.append_assoc]
          simp only [replacement, counted]
          rfl
  | offset position length value =>
      cases ran
      refine ⟨rfl, ?_⟩
      rw [Template.fill_addText, Template.fill_addText, String.append_assoc]
      rfl

/-- Markers one behind the other are rendered one after the other. -/
theorem fill_of_rendered
    {markers : List Marker}
    {progress last : Progress}
    (ordered : markers.Pairwise Marker.IsBefore)
    (areAhead : ∀ marker ∈ markers, progress.position ≤ marker.position)
    (ran : markers.foldlM (request.renderMarker isWidened) progress = .ok last) :
    last.template.fill names ++ slice request.sql last.position request.sql.utf8ByteSize =
      progress.template.fill names ++
        Text.splice request.sql (request.replacement isWidened names) request.sql.utf8ByteSize
          progress.position markers := by
  induction markers generalizing progress with
  | nil =>
      cases ran
      rfl
  | cons marker markers ih =>
      rw [List.foldlM_cons] at ran
      obtain ⟨next, rendered, rest⟩ := Success.bind_eq_ok.mp ran
      obtain ⟨areBehind, areOrdered⟩ := List.pairwise_cons.mp ordered
      obtain ⟨position, filled⟩ :=
        renderMarker_eq_ok names (areAhead marker List.mem_cons_self) rendered
      have stillAhead : ∀ other ∈ markers, next.position ≤ other.position := by
        intro other isOther
        rw [position]
        exact (areBehind other isOther).1
      rw [ih areOrdered stillAhead rest, filled, position, String.append_assoc]
      rfl

theorem fill_of_template
    {template : Template}
    (ordered : (orderedMarkers request.statement).Pairwise Marker.IsBefore)
    (ran : request.template isWidened = .ok template) :
    template.fill names = Text.splice request.sql (request.replacement isWidened names)
      request.sql.utf8ByteSize 0 (orderedMarkers request.statement) := by
  obtain ⟨last, rendered, finished⟩ := Success.bind_eq_ok.mp ran
  cases finished
  rw [Template.fill_addText, fill_of_rendered names ordered (fun _ _ => Nat.zero_le _) rendered]
  simp [Template.fill]

end RenderRequest

/-- A text is made of what its markers stand for and of what stands between them. -/
theorem Text.splice_source
    {text : String}
    {position : Nat}
    {markers : List Marker}
    (isPlace : IsBoundary text.toList position)
    (arePlaces : ∀ marker ∈ markers,
      IsBoundary text.toList marker.position ∧ IsBoundary text.toList marker.stop)
    (areAhead : ∀ marker ∈ markers, position ≤ marker.position)
    (ordered : markers.Pairwise Marker.IsBefore) :
    splice text (Marker.source text) text.utf8ByteSize position markers =
      slice text position text.utf8ByteSize := by
  have isEnd : IsBoundary text.toList text.utf8ByteSize := by
    rw [← byteLength_toList]
    exact isBoundary_end _
  induction markers generalizing position with
  | nil => rfl
  | cons marker markers ih =>
      obtain ⟨areBehind, areOrdered⟩ := List.pairwise_cons.mp ordered
      obtain ⟨begins, ends⟩ := arePlaces marker List.mem_cons_self
      have others : ∀ other ∈ markers,
          IsBoundary text.toList other.position ∧ IsBoundary text.toList other.stop :=
        fun other isOther => arePlaces other (List.mem_cons_of_mem _ isOther)
      have isBehind : marker.position ≤ marker.stop := Nat.le_add_right _ _
      have inside : marker.stop ≤ text.utf8ByteSize := by
        rw [← byteLength_toList]
        exact ends.le
      have isAhead := areAhead marker List.mem_cons_self
      rw [splice, ih ends others (fun other isOther => (areBehind other isOther).1) areOrdered,
        Marker.source, slice_append_slice isPlace begins ends isAhead isBehind,
        slice_append_slice isPlace ends isEnd (isAhead.trans isBehind) inside]

namespace Marker.StandsIn

variable {dialect : Dialect} {sql : String} {marker : Marker}

theorem isSeam (stands : marker.StandsIn dialect sql) :
    Cursor.IsSeam dialect sql marker.position ∧ Cursor.IsSeam dialect sql marker.stop := by
  cases stands with
  | carried isToken carries =>
      obtain ⟨begins, ends⟩ := carries.spans (Cursor.standsIn_of_mem isToken)
      rw [begins, ends]
      exact Cursor.isSeam_of_mem isToken
  | items isSeam => exact ⟨isSeam, isSeam⟩
  | orderBy isSeam => exact ⟨isSeam, isSeam⟩

/-- A marker on a name holds the name as it is written. -/
theorem source_table
    {position : Nat}
    {literals : String}
    (stands : (Marker.table position literals).StandsIn dialect sql) :
    slice sql position (position + literals.utf8ByteSize) = literals := by
  generalize isTable : Marker.table position literals = marker at stands
  cases stands with
  | carried isToken carries =>
      cases carries with
      | table =>
          cases isTable
          exact (Cursor.standsIn_of_mem isToken).piece.slice_eq
      | bound isRowCount =>
          cases isRowCount with
          | true => cases isTable
          | false => cases isTable
  | items => cases isTable
  | orderBy => cases isTable

end Marker.StandsIn

namespace RenderRequest

theorem dropRepeats_of_ordered
    {markers : List Marker}
    (ordered : markers.Pairwise Marker.IsBefore) :
    dropRepeats markers = markers := by
  fun_induction dropRepeats markers with
  | case1 => rfl
  | case2 => rfl
  | case3 marker rest ih =>
      have isBefore := (List.pairwise_cons.mp ordered).1 marker List.mem_cons_self
      exact absurd isBefore.2 (Nat.lt_irrefl _)
  | case4 first second rest _ ih => rw [ih (List.pairwise_cons.mp ordered).2]

/-- Markers that keep apart are rendered all, in the order of their places. -/
theorem orderedMarkers_of_apart
    {statement : Statement}
    (apart : statement.markers.Pairwise Marker.Apart) :
    (orderedMarkers statement).Perm statement.markers ∧
      (orderedMarkers statement).Pairwise Marker.IsBefore := by
  let comesFirst : Marker → Marker → Bool := fun first second =>
    decide (first.position ≤ second.position)
  let sorted := statement.markers.mergeSort comesFirst
  have isPerm : sorted.Perm statement.markers := List.mergeSort_perm _ _
  have isSorted : sorted.Pairwise fun first second => comesFirst first second := by
    apply List.pairwise_mergeSort
    · intro first second third begins ends
      simp only [comesFirst, decide_eq_true_eq] at begins ends ⊢
      exact begins.trans ends
    · intro first second
      simp only [comesFirst, Bool.or_eq_true, decide_eq_true_eq]
      exact Nat.le_total _ _
  have areApart : sorted.Pairwise Marker.Apart :=
    (isPerm.pairwise_iff Marker.Apart.symm).mpr apart
  have ordered : sorted.Pairwise Marker.IsBefore := by
    apply isSorted.imp₂ _ areApart
    rintro first second isFirst (isBefore | isBehind)
    · exact isBefore
    · have notBehind := of_decide_eq_true isFirst
      exact absurd isBehind.2 (Nat.not_lt.mpr notBehind)
  have noRepeats : orderedMarkers statement = sorted := dropRepeats_of_ordered ordered
  rw [noRepeats]
  exact ⟨isPerm, ordered⟩

/-- Markers that are noted in the order of their places are rendered in this order. -/
theorem orderedMarkers_of_before
    {statement : Statement}
    (ordered : statement.markers.Pairwise Marker.IsBefore) :
    orderedMarkers statement = statement.markers := by
  have isSorted : statement.markers.mergeSort (fun first second =>
      decide (first.position ≤ second.position)) = statement.markers := by
    apply List.mergeSort_of_pairwise
    exact ordered.imp fun isBefore => decide_eq_true (Nat.le_of_lt isBefore.2)
  rw [orderedMarkers, isSorted, dropRepeats_of_ordered ordered]

variable {request : RenderRequest} {isWidened : Bool}

/-- A statement is rendered if the row counts of its markers are known. -/
theorem exists_template
    (counted : ∀ position length count, .rowCount position length count ∈ request.statement.markers →
      ∃ rowCount, request.widenedCount isWidened count = .ok rowCount)
    (apart : request.statement.markers.Pairwise Marker.Apart) :
    ∃ template, request.template isWidened = .ok template := by
  have renders : ∀ marker ∈ request.statement.markers, ∀ progress,
      ∃ next, request.renderMarker isWidened progress marker = .ok next := by
    intro marker isMarker progress
    unfold renderMarker
    split
    · exact ⟨_, rfl⟩
    · cases marker with
      | rowCount position length count =>
          obtain ⟨rowCount, isCounted⟩ := counted position length count isMarker
          simp only [isCounted]
          exact ⟨_, rfl⟩
      | table | items | orderBy | offset => exact ⟨_, rfl⟩
  have rendersAll : ∀ markers : List Marker, markers ⊆ request.statement.markers → ∀ progress,
      ∃ last, markers.foldlM (request.renderMarker isWidened) progress = .ok last := by
    intro markers areMarkers
    induction markers with
    | nil => exact fun progress => ⟨progress, rfl⟩
    | cons marker markers ih =>
        intro progress
        obtain ⟨isMarker, areOthers⟩ := List.cons_subset.mp areMarkers
        obtain ⟨next, rendered⟩ := renders marker isMarker progress
        obtain ⟨last, rest⟩ := ih areOthers next
        exact ⟨last, by rw [List.foldlM_cons, rendered]; exact rest⟩
  obtain ⟨last, rendered⟩ :=
    rendersAll _ (orderedMarkers_of_apart apart).1.subset ⟨{}, 0⟩
  exact ⟨_, Success.bind_eq_ok.mpr ⟨last, rendered, rfl⟩⟩

theorem widenedCount_of_single (count : Int64) :
    request.widenedCount false count = .ok count := by
  unfold widenedCount
  split
  · rfl
  · rfl

/-- Without names of tables, and for one run only, a marker that adds nothing is rendered as what it stands
for. -/
theorem replacement_eq_source
    {dialect : Dialect}
    {marker : Marker}
    (stands : marker.StandsIn dialect request.sql)
    (addsNothing : ¬ marker.IsAddition) :
    request.replacement false [] marker = marker.source request.sql := by
  cases marker with
  | table => exact stands.source_table.symm
  | items => exact absurd trivial addsNothing
  | orderBy => exact absurd trivial addsNothing
  | rowCount => simp only [replacement, widenedCount_of_single, if_true]
  | offset => rfl

end RenderRequest

/-- Whether a statement is rendered by replacing what its markers stand for in a text: each of them, in the
order of their places, and no other byte. -/
structure RenderRequest.Splices
    (request : RenderRequest)
    (markers : List Marker) : Prop where
  isPerm : markers.Perm request.statement.markers
  ordered : markers.Pairwise Marker.IsBefore
  arePlaces : ∀ marker ∈ markers,
    IsBoundary request.sql.toList marker.position ∧ IsBoundary request.sql.toList marker.stop
  tables : ∀ position literals, .table position literals ∈ markers →
    slice request.sql position (position + literals.utf8ByteSize) = literals
  isWhole : Text.splice request.sql (Marker.source request.sql) request.sql.utf8ByteSize 0 markers =
    request.sql
  fills : ∀ isWidened template names, request.template isWidened = .ok template →
    template.fill names = Text.splice request.sql (request.replacement isWidened names)
      request.sql.utf8ByteSize 0 markers
  restores : (∀ marker ∈ markers, ¬ marker.IsAddition) →
    ∃ template, request.template false = .ok template ∧ template.fill [] = request.sql

/-- The ends of a marker lie between characters of the text. -/
theorem Statement.IsMarkedIn.areBoundaries
    {dialect : Dialect}
    {sql : String}
    {statement : Statement}
    (isMarked : statement.IsMarkedIn dialect sql)
    {marker : Marker}
    (isMarker : marker ∈ statement.markers) :
    IsBoundary sql.toList marker.position ∧ IsBoundary sql.toList marker.stop :=
  (isMarked.stands marker isMarker).isSeam.imp Cursor.IsSeam.isBoundary Cursor.IsSeam.isBoundary

/-- A statement whose markers keep apart in its text is rendered by replacing what they stand for. -/
theorem RenderRequest.splices_of_marked
    {request : RenderRequest}
    {dialect : Dialect}
    (isMarked : request.statement.IsMarkedIn dialect request.sql) :
    request.Splices (orderedMarkers request.statement) := by
  obtain ⟨isPerm, ordered⟩ := orderedMarkers_of_apart isMarked.apart
  have stands : ∀ marker ∈ orderedMarkers request.statement,
      marker.StandsIn dialect request.sql :=
    fun marker isMarker => isMarked.stands marker (isPerm.subset isMarker)
  have arePlaces : ∀ marker ∈ orderedMarkers request.statement,
      IsBoundary request.sql.toList marker.position ∧ IsBoundary request.sql.toList marker.stop :=
    fun marker isMarker => isMarked.areBoundaries (isPerm.subset isMarker)
  have isWhole : Text.splice request.sql (Marker.source request.sql) request.sql.utf8ByteSize 0
      (orderedMarkers request.statement) = request.sql := by
    rw [Text.splice_source (Text.isBoundary_zero _) arePlaces (fun _ _ => Nat.zero_le _) ordered,
      Text.slice_whole]
  constructor
  · exact isPerm
  · exact ordered
  · exact arePlaces
  · intro position literals isMarker
    exact (stands _ isMarker).source_table
  · exact isWhole
  · exact fun _ _ names ran => fill_of_template names ordered ran
  · intro addNothing
    have counted : ∀ position length count,
        .rowCount position length count ∈ request.statement.markers →
        ∃ rowCount, request.widenedCount false count = .ok rowCount :=
      fun _ _ count _ => ⟨count, widenedCount_of_single count⟩
    obtain ⟨template, ran⟩ := exists_template counted isMarked.apart
    have unchanged : template.fill [] = Text.splice request.sql (Marker.source request.sql)
        request.sql.utf8ByteSize 0 (orderedMarkers request.statement) := by
      rw [fill_of_template [] ordered ran]
      apply Text.splice_congr
      intro marker isMarker
      exact replacement_eq_source (stands marker isMarker) (addNothing marker isMarker)
    exact ⟨template, ran, unchanged.trans isWhole⟩

/-- **Rendering changes a text at its markers only.**  The markers of a parsed statement stand for pieces of
its text that keep apart.  Rendering replaces each of them, and what is left of the text stays as it is. -/
theorem RenderRequest.splices_of_parse
    (request : RenderRequest)
    {dialect : Dialect}
    {rule : Rule}
    {keys : Keys}
    {parameterCount : Nat}
    (parsed : (Statement.parse dialect rule keys request.sql parameterCount).1 =
      .ok request.statement) :
    request.statement.IsMarkedIn dialect request.sql ∧
      request.Splices (orderedMarkers request.statement) := by
  have isMarked := Statement.isMarkedIn_of_parse parsed
  exact ⟨isMarked, splices_of_marked isMarked⟩

/-- The text of a query with an owner, a table and two row limits to replace. -/
def limitedText : String :=
  "SELECT t_order.user_id FROM `t_order` LIMIT 2, 3"

/-- Each marker of this query is rendered, and rendering without names gives the text back. -/
theorem splices_limitedText :
    ∃ statement,
      (Statement.parse .mysql keyedRule (Keys.ofRule keyedRule 0) limitedText 0).1 = .ok statement ∧
      statement.markers = [.table 28 "`t_order`", .offset 44 1 2, .rowCount 47 1 3, .table 7 "t_order"] ∧
      statement.IsMarkedIn .mysql limitedText ∧
      RenderRequest.Splices ⟨keyedRule, limitedText, statement, []⟩
        (RenderRequest.orderedMarkers statement) := by
  have read :
      (Statement.parse .mysql keyedRule (Keys.ofRule keyedRule 0) limitedText 0).1.toOption.map
        (·.markers) =
      some [.table 28 "`t_order`", .offset 44 1 2, .rowCount 47 1 3, .table 7 "t_order"] := by
    decide +kernel
  obtain ⟨statement, isParsed, markers⟩ := Option.map_eq_some_iff.mp read
  have parsed := Success.toOption_eq_some.mp isParsed
  obtain ⟨isMarked, splices⟩ :=
    RenderRequest.splices_of_parse ⟨keyedRule, limitedText, statement, []⟩ parsed
  exact ⟨statement, parsed, markers, isMarked, splices⟩

end ShardedSql
