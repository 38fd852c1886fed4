import ShardedSql.Proofs.Parser.Seams

/-!
# The markers of a statement

Each marker of a parsed statement stands in the text for a name, for a number or for a place between
tokens, and no two of them overlap.
-/

namespace ShardedSql

open Cursor (ofText IsSeam)

/-- What a marker stands for in a text: one of its tokens, or a place between them. -/
inductive Marker.StandsIn
    (dialect : Dialect)
    (sql : String) : Marker → Prop where
  | carried
      {token : Token}
      {marker : Marker}
      (isToken : token ∈ (ofText dialect sql).tokens)
      (carries : token.Carries marker) :
      StandsIn dialect sql marker
  | items
      {position : Nat}
      {items : List String}
      (isSeam : IsSeam dialect sql position) :
      StandsIn dialect sql (.items position items)
  | orderBy
      {position : Nat}
      (isSeam : IsSeam dialect sql position) :
      StandsIn dialect sql (.orderBy position)

/-- Whether the markers of a statement stand in a text, each by itself. -/
structure Statement.IsMarkedIn
    (dialect : Dialect)
    (sql : String)
    (statement : Statement) : Prop where
  stands : ∀ marker ∈ statement.markers, marker.StandsIn dialect sql
  apart : statement.markers.Pairwise Marker.Apart

variable {dialect : Dialect} {sql : String}

/-- Whether markers stand in a text, each by itself. -/
structure Marker.StandApart
    (dialect : Dialect)
    (sql : String)
    (markers : List Marker) : Prop where
  stands : ∀ marker ∈ markers, marker.StandsIn dialect sql
  apart : markers.Pairwise Marker.Apart

/-- A marker that keeps apart from those in front of it stands by itself. -/
theorem Marker.StandApart.concat
    {markers : List Marker}
    {added : Marker}
    (standing : StandApart dialect sql markers)
    (stands : added.StandsIn dialect sql)
    (keepsApart : ∀ marker ∈ markers, marker.Apart added) :
    StandApart dialect sql (markers ++ [added]) where
  stands := List.forall_mem_append.mpr ⟨standing.stands, List.forall_mem_singleton.mpr stands⟩
  apart := by
    refine List.pairwise_append.mpr ⟨standing.apart, List.pairwise_singleton _ _, ?_⟩
    exact fun marker isMarker => List.forall_mem_singleton.mpr (keepsApart marker isMarker)

theorem Statement.isMarkedIn_iff {statement : Statement} :
    statement.IsMarkedIn dialect sql ↔ Marker.StandApart dialect sql statement.markers :=
  ⟨fun isMarked => ⟨isMarked.stands, isMarked.apart⟩,
    fun standing => ⟨standing.stands, standing.apart⟩⟩

namespace Cursor

variable {start last : Cursor} {markers others : List Marker}

section Reached

variable (reached : (ofText dialect sql).Reaches start)

include reached

theorem Reaches.stands : ∀ token ∈ start.tokens, token.StandsIn sql.toList :=
  fun _ isToken => standsIn_of_mem (reached.suffix.subset isToken)

theorem Reaches.isCut : start.IsCut (IsSeam dialect sql) :=
  reached.steps.isCut (isCut_ofText dialect sql)

/-- Markers that are found on the tokens of a text stand in it, each by itself. -/
theorem Marks.isMarked
    (marks : start.Marks last markers)
    (among : others.Subperm markers) :
    Marker.StandApart dialect sql others := by
  constructor
  · intro marker isMarker
    obtain ⟨token, isToken, carries, -⟩ := marks.exists_token reached.isCut (among.subset isMarker)
    exact .carried (reached.suffix.subset isToken) carries
  · have apart := (marks.ordered reached.stands reached.isCut).imp fun before =>
      (Or.inl before : Marker.Apart _ _)
    obtain ⟨sorted, isPerm, isSublist⟩ := among
    exact (isPerm.pairwise_iff Marker.Apart.symm).mp (apart.sublist isSublist)

/-- A place between the markers keeps apart from them. -/
theorem HasSeam.isMarked
    {added : Marker}
    (seam : start.HasSeam last markers added.position)
    (isEmpty : added.length = 0)
    (among : others ⊆ markers) :
    IsSeam dialect sql added.position ∧ ∀ marker ∈ others, marker.Apart added := by
  have begins : ∀ token ∈ start.tokens, IsSeam dialect sql token.start :=
    fun _ isToken => (isSeam_of_mem (reached.suffix.subset isToken)).1
  obtain ⟨isSeam, apart⟩ := seam.apart reached.stands reached.isCut begins
  refine ⟨isSeam, fun marker isMarker => ?_⟩
  have stop : added.stop = added.position := by
    rw [Marker.stop, isEmpty, Nat.add_zero]
  rcases apart marker (among isMarker) with ⟨isBefore, isLess⟩ | isBehind
  · exact .inl ⟨isBefore, isLess⟩
  · refine .inr ⟨?_, isBehind⟩
    rw [stop]
    exact Nat.le_of_lt isBehind

end Reached

end Cursor

namespace Statement

open Parse Cursor

variable {rule : Rule} {statement : Statement}

/-- The markers of a SELECT: those on its tokens, and the places behind its list and its groups. -/
theorem isMarkedIn_of_query
    {before query after : ParseState}
    {markers : List Marker}
    (reached : (ofText dialect sql).Reaches before.cursor)
    (noneYet : before.pending = [])
    (leaves : LeavesSeams before query markers)
    (finished : finishSelect.outcome query = (.ok (), after)) :
    after.statement.IsMarkedIn dialect sql := by
  obtain ⟨columns, order, found, isColumns, isOrder⟩ := finishSelect_eq_ok finished
  have added := leaves.added
  rw [noneYet, List.nil_append] at added
  have owned : (tableOwners query.statement.tables query.notes.owners).Sublist
      (query.notes.owners.map fun owner => .table owner.1 owner.2) :=
    List.filter_sublist.map _
  have among : (query.statement.markers ++
      tableOwners query.statement.tables query.notes.owners).Subperm markers :=
    ((List.Sublist.refl _).append owned).subperm.trans added.subperm
  have standing := leaves.marks.isMarked reached among
  -- The place behind the list keeps apart from the markers on tokens, that behind the groups from both.
  have listed : Marker.StandApart dialect sql (query.statement.markers ++
      tableOwners query.statement.tables query.notes.owners ++ columns) := by
    rcases isColumns with rfl | ⟨stop, items, isStop, rfl⟩
    · rwa [List.append_nil]
    · have seam : before.cursor.HasSeam query.cursor markers (Marker.items stop items).position :=
        leaves.list stop isStop
      obtain ⟨isPlace, keepsApart⟩ := seam.isMarked reached rfl among.subset
      exact standing.concat (.items isPlace) keepsApart
  rw [isMarkedIn_iff, found]
  rcases isOrder with rfl | ⟨stop, isStop, rfl⟩
  · rwa [List.append_nil]
  · have seam : before.cursor.HasSeam query.cursor markers (Marker.orderBy stop).position :=
      leaves.groups stop isStop
    obtain ⟨isPlace, keepsApart⟩ := seam.isMarked reached rfl among.subset
    apply listed.concat (.orderBy isPlace)
    rw [List.forall_mem_append]
    refine ⟨keepsApart, ?_⟩
    rcases isColumns with rfl | ⟨first, items, isFirst, rfl⟩
    · nofun
    · have follows := leaves.follows first isFirst stop isStop reached.isCut
      exact List.forall_mem_singleton.mpr (.inl ⟨Nat.le_of_lt follows, follows⟩)

end Statement

namespace InsertReading

open Cursor

variable {cursor : Cursor} {reading : InsertReading}

/-- The markers of an INSERT: one on its table, and those on the owners of its values. -/
def markers (reading : InsertReading) : List Marker :=
  [.table reading.token.start reading.token.source] ++ valueMarks reading.tables reading.row.starts

theorem IsRead.marks_table (isRead : reading.IsRead cursor) :
    cursor.Marks reading.behindTable [.table reading.token.start reading.token.source] :=
  .after isRead.countsTable.reaches isRead.table.marks

theorem IsRead.marks (isRead : reading.IsRead cursor) :
    cursor.Marks reading.last reading.markers := by
  apply isRead.marks_table.trans
  apply Marks.after isRead.list.counts.reaches
  exact (isRead.row.marks reading.tables).reaching (reaches_passBy _)

theorem not_carries_of_closing
    {closing : Cursor}
    (closes : closing.current.kind = .symbol .rightParen)
    (marker : Marker) :
    ¬ closing.current.Carries marker := by
  apply Token.not_carries_of_kind
  · rw [closes]
    rfl
  · rw [closes]
    nofun

/-- The parenthesis that closes the column list stands between the marker on the table and those on the
owners of values. -/
theorem IsRead.listSeam
    (isRead : reading.IsRead cursor)
    {closing : Cursor}
    (isClosing : reading.listClosing = some closing) :
    cursor.HasSeam reading.last reading.markers closing.current.start := by
  have list := isRead.list
  rw [isClosing] at list
  obtain ⟨front, closes, isBehind⟩ := list.reaches_closing
  have row := (isRead.row.marks reading.tables).reaching
    (reaches_passBy (Extent.widthUntil [.symbol .semi] reading.row.last.tokens))
  rw [isBehind] at row
  exact .mk (isRead.marks_table.reaching front)
    (.after (reaches_advance_of_kind closes nofun) row) (.inr rfl)
    (.inr (not_carries_of_closing closes))

/-- The parenthesis that closes the row stands behind all markers. -/
theorem IsRead.rowSeam
    (isRead : reading.IsRead cursor)
    {closing : Cursor}
    (isClosing : reading.row.closing = some closing) :
    cursor.HasSeam reading.last reading.markers closing.current.start := by
  obtain ⟨marks, isLast⟩ := isRead.row.marks_closing reading.tables isClosing
  have closes := isRead.row.closes isClosing
  have rest : closing.Marks reading.last [] := by
    apply Reaches.marks
    rw [InsertReading.last, isLast]
    exact (reaches_advance_of_kind closes (by decide)).trans (reaches_passBy _)
  have front := isRead.marks_table.trans (.after isRead.list.counts.reaches marks)
  have seam := HasSeam.mk front rest (.inr rfl) (.inl rfl)
  rwa [List.append_nil] at seam

end InsertReading

namespace InsertReading

open Cursor

variable {cursor : Cursor} {reading : InsertReading}

/-- The column list of an INSERT is closed in front of the end of its row. -/
theorem IsRead.list_lt_row
    (isRead : reading.IsRead cursor)
    {listClosing rowClosing : Cursor}
    (isList : reading.listClosing = some listClosing)
    (isRow : reading.row.closing = some rowClosing)
    {valid : Nat → Prop}
    (cut : cursor.IsCut valid) :
    listClosing.current.start < rowClosing.current.start := by
  have list := isRead.list
  rw [isList] at list
  obtain ⟨front, closes, isBehind⟩ := list.reaches_closing
  have reachesList := (isRead.countsTable.trans isRead.table.counts).reaches.trans front
  have reachesRow := (isRead.row.counts.2.1 rowClosing isRow).reaches
  rw [isBehind] at reachesRow
  have listCut := reachesList.steps.isCut cut
  have isToken : listClosing.current ∈ listClosing.tokens := by
    rw [tokens_of_current (by rw [closes]; nofun)]
    exact List.mem_cons_self
  have filled := listCut.filled _ isToken
  have grows := reachesRow.steps.grows (steps_advance.isCut listCut)
  have follows := lastStop_le_current (reachesRow.steps.isCut (steps_advance.isCut listCut))
  calc listClosing.current.start
      _ < listClosing.advance.lastStop := filled
      _ ≤ rowClosing.lastStop := grows
      _ ≤ rowClosing.current.start := follows

end InsertReading

namespace Statement

open Cursor Parse

variable {rule : Rule} {statement : Statement} {cursor : Cursor} {reading : InsertReading}

/-- The markers of an INSERT: those on its tokens, and the places at the ends of its list and its row. -/
theorem isMarkedIn_of_row
    {before after : ParseState}
    {parameterCount : Nat}
    (reached : (ofText dialect sql).Reaches cursor)
    (isRead : reading.IsRead cursor)
    (isRow : before.statement = reading.statement rule)
    (keyed : LeavesKey reading.table reading.listStop reading.insertRow parameterCount before after) :
    after.statement.IsMarkedIn dialect sql := by
  have standing := isRead.marks.isMarked reached (List.Subperm.refl _)
  have unkeyed : before.statement.IsMarkedIn dialect sql := by
    rw [isRow, isMarkedIn_iff]
    exact standing
  cases keyed with
  | unkeyed => exact unkeyed
  | given => exact ⟨unkeyed.stands, unkeyed.apart⟩
  | placeless => exact unkeyed
  | @added name place valuesStop placeholders addition between isKey isAbsent isList isPlace isAdded =>
      obtain ⟨listClosing, isListed, rfl⟩ := Option.map_eq_some_iff.mp isList
      obtain ⟨rowClosing, isClosing, equal⟩ := Option.map_eq_some_iff.mp isPlace
      cases equal
      have sameStatement : between.statement = reading.statement rule := by
        rcases keyAddition_eq_ok isAdded with ⟨-, -, rfl⟩ | ⟨-, key, keys, -, -, rfl⟩
        · exact isRow
        · exact isRow
      have listed : cursor.HasSeam reading.last reading.markers
        (Marker.items listClosing.current.start [name]).position := isRead.listSeam isListed
      have closed : cursor.HasSeam reading.last reading.markers
        (Marker.items rowClosing.current.start [addition.text]).position := isRead.rowSeam isClosing
      obtain ⟨isListEnd, listApart⟩ := listed.isMarked reached rfl (List.Subset.refl _)
      obtain ⟨isRowEnd, rowApart⟩ := closed.isMarked reached rfl (List.Subset.refl _)
      have follows := isRead.list_lt_row isListed isClosing reached.isCut
      have found : (withKey between.statement before.rule ⟨name, reading.table⟩
          listClosing.current.start rowClosing.current.start addition).markers =
          reading.markers ++ [.items listClosing.current.start [name]] ++
            [.items rowClosing.current.start [addition.text]] := by
        rw [sameStatement]
        rfl
      rw [isMarkedIn_iff, found]
      apply (standing.concat (.items isListEnd) listApart).concat (.items isRowEnd)
      rw [List.forall_mem_append]
      exact ⟨rowApart, List.forall_mem_singleton.mpr (.inl ⟨Nat.le_of_lt follows, follows⟩)⟩

/-- A statement that is neither a query nor adds a row has markers on its tokens only. -/
theorem isMarkedIn_of_clauses
    {kind : StatementKind}
    {parameterCount : Nat}
    {before after : ParseState}
    (noQuery : kind ≠ .select)
    (noRow : kind ≠ .insert)
    (reached : (ofText dialect sql).Reaches before.cursor)
    (noneYet : before.pending = [])
    (ran : (statementOf kind parameterCount).outcome before = (.ok (), after)) :
    after.statement.IsMarkedIn dialect sql := by
  have obeys := statementOf_obeys marking_isLenient marking_admits
    (whereClause_obeys marking_admitsWhere) noQuery noRow parameterCount
  obtain ⟨⟨markers, marks, added⟩, -, -⟩ := obeys.relates ran
  rw [noneYet, List.nil_append] at added
  have among : after.statement.markers.Subperm markers :=
    (List.sublist_append_left _ _).subperm.trans added.subperm
  exact isMarkedIn_iff.mpr (marks.isMarked reached among)

/-- **The markers of a statement stand apart.**  Each marker of a parsed statement stands for a name of
the text, for a number of the text with its value, or for a place between tokens; and no two of them
overlap. -/
theorem isMarkedIn_of_parse
    {keys : Keys}
    {parameterCount : Nat}
    (parsed : (Statement.parse dialect rule keys sql parameterCount).1 = .ok statement) :
    statement.IsMarkedIn dialect sql := by
  obtain ⟨kind, front, last, led, read, rfl, -⟩ := exists_statementOf parsed
  obtain ⟨counts, -, isFront⟩ := leading_eq_ok led
  have reached := counts.reaches
  have fresh : front.statement = { kind := kind } := congrArg ParseState.statement isFront
  have noNotes : front.notes = {} := congrArg ParseState.notes isFront
  have noneYet : front.pending = [] := by
    rw [ParseState.pending, fresh, noNotes]
    rfl
  by_cases isInsert : kind = .insert
  · subst isInsert
    obtain ⟨reading, isRead, keyed⟩ := insertStatement_eq_ok fresh read
    exact isMarkedIn_of_row reached isRead rfl keyed
  · by_cases isQuery : kind = .select
    · subst isQuery
      change selectStatement.outcome front = _ at read
      rw [selectStatement_eq] at read
      obtain ⟨_, query, queried, finished⟩ := outcome_bind_eq_ok.mp read
      rw [outcome_bind_of_ok (outcome_get front)] at queried
      have nested := query_obeys marking_admits (whereClause_obeys marking_admitsWhere)
        front.cursor.tokens.length 0
      obtain ⟨markers, leaves⟩ := exists_seams_of_query nested noNotes queried
      exact isMarkedIn_of_query reached noneYet leaves finished
    · exact isMarkedIn_of_clauses isQuery isInsert reached noneYet read

end Statement

end ShardedSql
