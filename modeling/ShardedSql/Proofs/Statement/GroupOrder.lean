import ShardedSql.Proofs.Statement.HiddenColumns
import ShardedSql.Proofs.Text.LetterCase

/-!
# Groups in the order of the result

A page of grouped rows may be asked of each table alone only if the rows are sorted as they are grouped.
The items of GROUP BY and of ORDER BY are compared place by place, by what the result calls them, by their
names with owners, or by their positions.  The main statement says when this is done, and which columns of
different tables are taken for one.
-/

namespace ShardedSql

namespace OrderItem

/-- Whether two items sort in the same direction by what is taken for the same column: by the name that it
has in the result, by its name with its owner, or by its position. -/
structure Coincides (first second : OrderItem) : Prop where
  direction : first.direction = second.direction
  column : sameText first.label? second.label? = true ∨
    sameText first.qualifiedName? second.qualifiedName? = true ∨
    first.index.isSome = true ∧ first.index = second.index

/-- Whether two columns have owners that are different tables. -/
structure AreApart
    (tables : Tables)
    (first second : OrderItem)
    (firstOwner secondOwner : String) : Prop where
  isFirst : first.owner = some firstOwner
  isSecond : second.owner = some secondOwner
  areDifferent : ∃ firstTable secondTable, tables.find? firstOwner = some firstTable ∧
    tables.find? secondOwner = some secondTable ∧ firstTable ≠ secondTable

theorem same_iff
    (first second : OrderItem) :
    first.same second = true ↔ first.Coincides second := by
  simp only [same, Bool.and_eq_true, Bool.or_eq_true, beq_iff_eq, or_assoc]
  exact ⟨fun ⟨direction, column⟩ => ⟨direction, column⟩,
    fun coincides => ⟨coincides.direction, coincides.column⟩⟩

/-- What is given by its name or by its position coincides with itself. -/
theorem IsGiven.coincides
    {item : OrderItem}
    (isGiven : item.IsGiven) :
    item.Coincides item := by
  cases isGiven with
  | column owner name direction aliasName =>
      refine ⟨rfl, .inl ?_⟩
      cases aliasName with
      | none => exact Text.sameName_refl name
      | some aliasName => exact Text.sameName_refl aliasName
  | position index direction => exact ⟨rfl, .inr (.inr ⟨rfl, rfl⟩)⟩

end OrderItem

/-- A table is found by its name or alias in any letter case. -/
theorem Tables.find?_congr
    (tables : Tables)
    {first second : String}
    (same : Text.sameName first second = true) :
    tables.find? first = tables.find? second := by
  simp only [find?, Text.sameName_congr_right same]

/-- Names with owners that are the same have the same owners, if these have no points. -/
theorem Text.sameName_owner
    {firstOwner firstName secondOwner secondName : String}
    (firstBare : '.' ∉ firstOwner.toList)
    (secondBare : '.' ∉ secondOwner.toList)
    (same : sameName (firstOwner ++ "." ++ firstName) (secondOwner ++ "." ++ secondName) = true) :
    sameName firstOwner secondOwner = true := by
  have folded := (sameName_iff _ _).mp same
  have front : ∀ {owner name : String}, '.' ∉ owner.toList →
      (foldAscii (owner ++ "." ++ name)).takeWhile (· != '.') = foldAscii owner := by
    intro owner name bare
    have differs : ∀ character ∈ foldAscii owner, (character != '.') = true := by
      intro character member
      obtain ⟨written, isThere, rfl⟩ := List.mem_map.mp member
      rw [bne_iff_ne]
      intro isPoint
      have isWritten : decide (written = '.') = decide ('.' = '.') :=
        eq_of_toLower_eq (fun other => decide (other = '.')) (by decide +kernel)
          (isPoint.trans (by decide))
      exact bare (of_decide_eq_true isWritten ▸ isThere)
    have split : foldAscii (owner ++ "." ++ name) = foldAscii owner ++ '.' :: foldAscii name := by
      simp [foldAscii]
    rw [split, List.takeWhile_append_of_pos differs]
    simp
  rw [sameName_iff, ← front firstBare, folded, front secondBare]

namespace OrderItem

variable {tables : Tables} {first second : OrderItem} {firstOwner secondOwner : String}

/-- Columns of different tables are taken for one just when the result calls them the same, as long as no
point in an owner makes their names with owners the same. -/
theorem AreApart.coincides_iff
    (apart : first.AreApart tables second firstOwner secondOwner)
    (firstGiven : first.IsGiven)
    (secondGiven : second.IsGiven)
    (firstBare : '.' ∉ firstOwner.toList)
    (secondBare : '.' ∉ secondOwner.toList) :
    first.Coincides second ↔
      first.direction = second.direction ∧ sameText first.label? second.label? = true := by
  obtain ⟨isFirst, isSecond, firstTable, secondTable, foundFirst, foundSecond, differ⟩ := apart
  cases firstGiven with
  | position => cases isFirst
  | column _ firstName firstDirection =>
      cases secondGiven with
      | position => cases isSecond
      | column _ secondName secondDirection =>
          cases isFirst
          cases isSecond
          constructor
          · rintro ⟨direction, same | same | ⟨isPosition, -⟩⟩
            · exact ⟨direction, same⟩
            · have sameOwner := Text.sameName_owner firstBare secondBare same
              have sameTable := tables.find?_congr sameOwner
              rw [foundFirst, foundSecond] at sameTable
              exact absurd (Option.some_inj.mp sameTable) differ
            · cases isPosition
          · rintro ⟨direction, same⟩
            exact ⟨direction, .inl same⟩

/-- No column is of two tables. -/
theorem not_areApart_self : ¬ first.AreApart tables first firstOwner secondOwner := by
  rintro ⟨isFirst, isSecond, firstTable, secondTable, foundFirst, foundSecond, differ⟩
  rw [← Option.some_inj.mp (isFirst.symm.trans isSecond), foundFirst] at foundSecond
  exact differ (Option.some_inj.mp foundSecond)

end OrderItem

namespace Statement

/-- Whether groups and order have the same number of items, with one direction at each place, and no columns
of different tables are taken for one there. -/
def KeepsTablesApart (statement : Statement) : Prop :=
  List.Forall₂
    (fun group order => group.direction = order.direction ∧ ∀ groupOwner orderOwner,
      group.AreApart statement.tables order groupOwner orderOwner → ¬ group.Coincides order)
    statement.groupByItems statement.orderByItems

/-- Rows are taken to be sorted as they are grouped if groups and order coincide place by place. -/
theorem groupsAsSorted_iff
    {statement : Statement}
    (grouped : statement.groupByItems ≠ []) :
    statement.groupsAsSorted = true ↔
      List.Forall₂ OrderItem.Coincides statement.groupByItems statement.orderByItems := by
  have isGrouped : statement.groupByItems.isEmpty = false := by simpa using grouped
  rw [groupsAsSorted, isGrouped, Bool.not_false, Bool.true_and, Bool.and_eq_true, beq_iff_eq,
    List.all_eq_true, List.forall₂_iff_zip]
  refine and_congr_right fun _ => ⟨fun same group order member => ?_, fun coincide pair member => ?_⟩
  · exact (OrderItem.same_iff _ _).mp (same (group, order) member)
  · exact (OrderItem.same_iff _ _).mpr (coincide member)

theorem needsAllRows_eq_false_iff
    {statement : Statement}
    (grouped : statement.groupByItems ≠ []) :
    statement.needsAllRows = false ↔
      List.Forall₂ OrderItem.Coincides statement.groupByItems statement.orderByItems := by
  have isGrouped : statement.groupByItems.isEmpty = false := by simpa using grouped
  rw [← groupsAsSorted_iff grouped, needsAllRows, isGrouped, Bool.not_false, Bool.true_or,
    Bool.true_and, Bool.not_eq_false']

namespace DerivesFrom

variable {statement : Statement} {front : ParseState} {behind : QueryPart → ParseState}
variable (derives : statement.DerivesFrom front behind)

include derives

theorem groupByItems_eq :
    statement.groupByItems = (behind .lock).asRead.aliasedGroups := by
  obtain ⟨stop, rfl⟩ := derives.derived
  obtain ⟨markers, -, derived⟩ := deriveOrder_eq ((behind .lock).asRead.deriveColumns stop)
    (behind .lock).notes.groupByStop
  rw [derived, deriveColumns_eq]

theorem orderByItems_eq :
    statement.orderByItems =
      if (behind .lock).asRead.aliasedOrder.isEmpty then (behind .lock).asRead.aliasedGroups
      else (behind .lock).asRead.aliasedOrder := by
  obtain ⟨stop, rfl⟩ := derives.derived
  obtain ⟨markers, -, derived⟩ := deriveOrder_eq ((behind .lock).asRead.deriveColumns stop)
    (behind .lock).notes.groupByStop
  rw [derived, deriveColumns_eq]

theorem isGiven_group :
    ∀ group ∈ statement.groupByItems, group.IsGiven := by
  rw [derives.groupByItems_eq]
  exact aliasMissing_isGiven _ _ _ derives.sorts.groups

theorem isGiven_order :
    ∀ order ∈ statement.orderByItems, order.IsGiven := by
  rw [derives.orderByItems_eq]
  split
  · exact aliasMissing_isGiven _ _ _ derives.sorts.groups
  · exact aliasMissing_isGiven _ _ _ derives.sorts.order

/-- Without ORDER BY, rows are sorted by what they are grouped by. -/
theorem orderByItems_of_unordered
    (unordered : (behind .groups).cursor.current.kind ≠ .keyword .ORDER) :
    statement.orderByItems = statement.groupByItems := by
  have noOrder : (behind .lock).asRead.aliasedOrder = [] := by
    apply List.eq_nil_of_length_eq_zero
    rw [aliasedOrder, aliasMissing_length]
    exact List.length_eq_zero_iff.mpr (derives.sorts.ordered unordered)
  rw [derives.orderByItems_eq, derives.groupByItems_eq, noOrder]
  rfl

end DerivesFrom

/-- **A page of groups is asked of each table alone just when groups and order coincide place by place.**
In an accepted SELECT that groups its rows, they then have the same number of items, and the items at one
place sort in the same direction by what is taken for the same column.  Columns of different tables are
taken for one exactly when the result calls them the same, by aliases or by names without owners, unless a
point in the name of an owner blurs where it ends.  Without ORDER BY the order is that of the groups: they
coincide, and no columns of different tables are taken for one. -/
theorem needsAllRows_eq_false_iff_coincide
    {dialect : Dialect}
    {rule : Rule}
    {keys : Keys}
    {sql : String}
    {parameterCount : Nat}
    {statement : Statement}
    (parsed : (Statement.parse dialect rule keys sql parameterCount).1 = .ok statement)
    (isSelect : statement.kind = .select)
    (grouped : statement.groupByItems ≠ []) :
    ∃ front behind,
      Parse.leading.outcome (ParseState.start dialect rule keys sql { kind := .select }) =
        (.ok .select, front) ∧
      QueryReading (Parse.query front.cursor.tokens.length 1) front behind ∧
      (statement.needsAllRows = false ↔
        List.Forall₂ OrderItem.Coincides statement.groupByItems statement.orderByItems) ∧
      (∀ group ∈ statement.groupByItems, ∀ order ∈ statement.orderByItems, ∀ groupOwner orderOwner,
        group.AreApart statement.tables order groupOwner orderOwner →
          '.' ∉ groupOwner.toList → '.' ∉ orderOwner.toList →
            (group.Coincides order ↔ group.direction = order.direction ∧
              OrderItem.sameText group.label? order.label? = true)) ∧
      ((behind .groups).cursor.current.kind ≠ .keyword .ORDER →
        statement.orderByItems = statement.groupByItems ∧ statement.needsAllRows = false ∧
          statement.KeepsTablesApart) := by
  obtain ⟨front, behind, led, derives⟩ := exists_derivesFrom parsed isSelect
  refine ⟨front, behind, led, derives.reading, needsAllRows_eq_false_iff grouped, ?_, ?_⟩
  · intro group isGroup order isOrder groupOwner orderOwner apart groupBare orderBare
    exact apart.coincides_iff (derives.isGiven_group group isGroup)
      (derives.isGiven_order order isOrder) groupBare orderBare
  · intro unordered
    have sameItems := derives.orderByItems_of_unordered unordered
    refine ⟨sameItems, (needsAllRows_eq_false_iff grouped).mpr ?_, ?_⟩
    · rw [sameItems, List.forall₂_same]
      exact fun group isGroup => (derives.isGiven_group group isGroup).coincides
    · rw [KeepsTablesApart, sameItems, List.forall₂_same]
      exact fun group _ => ⟨rfl, fun _ _ apart => absurd apart OrderItem.not_areApart_self⟩

/-- The text of a query that groups and sorts by one column, once with its owner and once without. -/
def groupedText : String :=
  "SELECT o.status, COUNT(*) FROM t_order o GROUP BY o.status ORDER BY status LIMIT 10"

/-- A page of the groups of this query is asked of each table alone. -/
theorem coincide_groupedText :
    ∃ statement,
      (Statement.parse .mysql userRule (Keys.ofRule userRule 0) groupedText 0).1 = .ok statement ∧
      statement.kind = .select ∧ statement.groupByItems ≠ [] ∧ statement.needsAllRows = false ∧
      List.Forall₂ OrderItem.Coincides statement.groupByItems statement.orderByItems := by
  have read : (Statement.parse .mysql userRule (Keys.ofRule userRule 0)
      groupedText 0).1.toOption.map (fun statement =>
        (statement.kind, statement.groupByItems.length, statement.needsAllRows)) =
          some (.select, 1, false) := by
    decide +kernel
  obtain ⟨statement, isParsed, recorded⟩ := Option.map_eq_some_iff.mp read
  simp only [Prod.mk.injEq] at recorded
  obtain ⟨isSelect, count, notAll⟩ := recorded
  have grouped : statement.groupByItems ≠ [] := List.ne_nil_of_length_pos (by omega)
  have parsed := Success.toOption_eq_some.mp isParsed
  obtain ⟨-, -, -, -, notAll_iff, -⟩ := needsAllRows_eq_false_iff_coincide parsed isSelect grouped
  exact ⟨statement, parsed, isSelect, grouped, notAll, notAll_iff.mp notAll⟩

/-- The text of a query that groups by a column of one table and sorts by a column of another one that has
the same name. -/
def mixedText : String :=
  "SELECT o.order_id, i.order_id FROM t_order o JOIN t_order_item i ON o.user_id = i.user_id " ++
    "GROUP BY o.order_id ORDER BY i.order_id LIMIT 10"

/-- The two columns have no aliases and are taken for one, and a page of the groups is asked of each table
alone. -/
theorem mixes_tables_mixedText :
    ∃ statement,
      (Statement.parse .mysql userRule (Keys.ofRule userRule 0) mixedText 0).1 = .ok statement ∧
      statement.kind = .select ∧ statement.groupByItems ≠ [] ∧ statement.needsAllRows = false ∧
      (∀ item ∈ statement.groupByItems ++ statement.orderByItems, item.aliasName = none) ∧
      ¬ statement.KeepsTablesApart := by
  have read : (Statement.parse .mysql userRule (Keys.ofRule userRule 0)
      mixedText 0).1.toOption.map (fun statement =>
        (statement.kind, statement.tables, statement.groupByItems, statement.orderByItems,
          statement.needsAllRows)) =
            some (.select, ⟨[⟨"t_order", some "o"⟩, ⟨"t_order_item", some "i"⟩]⟩,
              [⟨some "o", some "order_id", none, .ascending, none⟩],
              [⟨some "i", some "order_id", none, .ascending, none⟩], false) := by
    decide +kernel
  obtain ⟨statement, isParsed, recorded⟩ := Option.map_eq_some_iff.mp read
  simp only [Prod.mk.injEq] at recorded
  obtain ⟨isSelect, areTables, isGroup, isOrder, notAll⟩ := recorded
  refine ⟨statement, Success.toOption_eq_some.mp isParsed, isSelect, ?_, notAll, ?_, ?_⟩
  · rw [isGroup]
    exact List.cons_ne_nil _ _
  · rw [isGroup, isOrder]
    decide
  · rw [KeepsTablesApart, areTables, isGroup, isOrder, List.forall₂_cons]
    rintro ⟨⟨-, separates⟩, -⟩
    refine separates "o" "i" ⟨rfl, rfl, ?_⟩ ⟨rfl, .inl ?_⟩
    · exact ⟨⟨"t_order", some "o"⟩, ⟨"t_order_item", some "i"⟩, by decide, by decide, by decide⟩
    · decide

end Statement

end ShardedSql
