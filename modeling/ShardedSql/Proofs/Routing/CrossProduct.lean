import ShardedSql.Proofs.Routing.Choices
import ShardedSql.Proofs.Strategy.NameSet

/-!
# Combining tables is a cross product

Routed tables that each stand for one logic table are combined by a detour: the shared data sources, the
logic tables on each, the names of the actual tables, and a search for the unit of each name among all
routed tables.  The main statement says that nothing is lost, repeated or taken from another data source
on the way: on each shared data source the combinations are all choices of one unit of each table, in
lexicographic order.  Two of the routed tables may even stand for the same logic table.
-/

namespace ShardedSql

/-- The data source and the actual table of a unit up to the case of ASCII letters. -/
def TableUnit.place (unit : TableUnit) : List Char × List Char :=
  (Text.foldAscii unit.dataSource, Text.foldAscii unit.actualTable)

/-- The places of the units of a combination. -/
def TableReference.places (reference : TableReference) : List (List Char × List Char) :=
  reference.units.map TableUnit.place

namespace TableUnits

/-- The units on a data source. -/
def onSource
    (units : TableUnits)
    (dataSource : String) : List TableUnit :=
  units.toList.filter fun unit => unit.dataSource == dataSource

/-- Whether the units stand for one logic table up to letter case. -/
def HaveOneTable (units : TableUnits) : Prop :=
  ∀ first ∈ units.toList, ∀ second ∈ units.toList,
    Text.sameName first.logicTable second.logicTable = true

theorem mem_onSource
    {units : TableUnits}
    {dataSource : String}
    {unit : TableUnit} :
    unit ∈ units.onSource dataSource ↔ unit ∈ units.toList ∧ unit.dataSource = dataSource := by
  simp [onSource]

section DataSources

theorem mem_insertSource
    {names : List String}
    {added name : String} :
    name ∈ insertSource names added ↔ name ∈ names ∨ name = added := by
  unfold insertSource
  split
  next present =>
    have addedMem : added ∈ names := by simpa using present
    constructor
    · exact Or.inl
    · rintro (old | rfl)
      exacts [old, addedMem]
  next => simp

theorem nodup_insertSource
    {names : List String}
    (nodup : names.Nodup)
    (added : String) :
    (insertSource names added).Nodup := by
  unfold insertSource
  split
  next => exact nodup
  next absent =>
    have notMem : added ∉ names := by simpa using absent
    rw [List.nodup_append]
    refine ⟨nodup, List.pairwise_singleton _ _, ?_⟩
    rintro name nameMem other otherMem rfl
    exact notMem (List.mem_singleton.mp otherMem ▸ nameMem)

theorem mem_foldl_insertSource
    {names added : List String}
    {name : String} :
    name ∈ added.foldl insertSource names ↔ name ∈ names ∨ name ∈ added := by
  induction added generalizing names with
  | nil => simp
  | cons first rest ih => rw [List.foldl_cons, ih, mem_insertSource, List.mem_cons, or_assoc]

theorem nodup_foldl_insertSource
    {names : List String}
    (nodup : names.Nodup)
    (added : List String) :
    (added.foldl insertSource names).Nodup := by
  induction added generalizing names with
  | nil => exact nodup
  | cons first rest ih => exact ih (nodup_insertSource nodup first)

theorem mem_dataSources
    {units : TableUnits}
    {dataSource : String} :
    dataSource ∈ units.dataSources ↔ units.onSource dataSource ≠ [] := by
  rw [dataSources, mem_foldl_insertSource, onSource, Ne, List.filter_eq_nil_iff]
  simp

theorem nodup_dataSources (units : TableUnits) :
    units.dataSources.Nodup :=
  nodup_foldl_insertSource List.nodup_nil _

/-- Distinct names in ascending order ascend strictly. -/
theorem pairwise_ascending
    {names : List String}
    (nodup : names.Nodup) :
    (ascending names).Pairwise fun earlier later => earlier < later := by
  have ordered : (ascending names).Pairwise fun earlier later =>
      (!decide (later < earlier)) = true := by
    apply List.pairwise_mergeSort
    · intro first second third firstSecond secondThird
      simp only [Bool.not_eq_true', decide_eq_false_iff_not, String.not_lt]
        at firstSecond secondThird ⊢
      exact String.le_trans firstSecond secondThird
    · intro first second
      simpa only [Bool.or_eq_true, Bool.not_eq_true', decide_eq_false_iff_not, String.not_lt]
        using String.le_total first second
  have distinct : (ascending names).Nodup :=
    (List.mergeSort_perm names _).nodup_iff.mpr nodup
  refine (ordered.and distinct).imp ?_
  rintro earlier later ⟨notAfter, differ⟩
  by_contra notBefore
  simp only [Bool.not_eq_true', decide_eq_false_iff_not] at notAfter
  exact differ (String.le_antisymm (String.not_lt.mp notAfter) (String.not_lt.mp notBefore))

end DataSources

theorem filter_map_ite
    {α β : Type}
    (chosen : α → Bool)
    {group : List β}
    (nonempty : group ≠ [])
    (members : List α) :
    ((members.map fun member => if chosen member then group else []).filter
        fun group => !group.isEmpty) = (members.filter chosen).map fun _ => group := by
  induction members with
  | nil => rfl
  | cons member members ih =>
      by_cases isChosen : chosen member = true <;> simp [isChosen, nonempty, ih]

/-- Units of one logic table make one group, whichever names are asked for besides their own. -/
theorem actualTableGroups_eq
    {units : TableUnits}
    (oneTable : units.HaveOneTable)
    {dataSource : String}
    {unit : TableUnit}
    (member : unit ∈ units.onSource dataSource)
    {tables : List String}
    (apart : tables.Pairwise fun first second => Text.sameName first second = false)
    (held : Text.holdsName tables unit.logicTable = true) :
    units.actualTableGroups dataSource tables =
      [(units.onSource dataSource).map TableUnit.actualTable] := by
  have alike (table : String)
      (other : TableUnit)
      (otherMem : other ∈ units.toList) :
      Text.sameName other.logicTable table = Text.sameName table unit.logicTable := by
    rw [Text.sameName_comm table]
    exact Text.sameName_congr_left (oneTable other otherMem unit (mem_onSource.mp member).1) table
  have group (table : String) :
      ((units.toList.filter fun other =>
        other.dataSource == dataSource && Text.sameName other.logicTable table).map
          TableUnit.actualTable) =
        if Text.sameName table unit.logicTable then
          (units.onSource dataSource).map TableUnit.actualTable
        else
          [] := by
    rw [List.filter_congr fun other otherMem => by rw [alike table other otherMem]]
    split
    next same => simp only [same, Bool.and_true, onSource]
    next differ => simp [differ]
  obtain ⟨kept, once⟩ := NameSet.exists_filter_sameName apart held
  simp only [actualTableGroups, group]
  rw [filter_map_ite _ (by simpa using List.ne_nil_of_mem member), once]
  rfl

end TableUnits

/-- References on a new data source go to the end. -/
theorem Combinations.mergeSource_of_new
    {dataSource : String}
    {present : List CombinedSource}
    (isNew : dataSource ∉ present.map CombinedSource.dataSource)
    (added : List TableReference) :
    Combinations.mergeSource dataSource added present = present ++ [⟨dataSource, added⟩] := by
  induction present with
  | nil => rfl
  | cons first rest ih =>
      rw [List.map_cons, List.mem_cons, not_or] at isNew
      rw [Combinations.mergeSource, if_neg (Ne.symm isNew.1), ih isNew.2, List.cons_append]

namespace Cartesian

section SharedSources

theorem mem_sharedSources
    {results : List TableUnits}
    (nonempty : results ≠ [])
    {dataSource : String} :
    dataSource ∈ sharedSources results ↔ ∀ units ∈ results, units.onSource dataSource ≠ [] := by
  cases results with
  | nil => exact absurd rfl nonempty
  | cons first rest => simp [sharedSources, TableUnits.mem_dataSources]

theorem nodup_sharedSources (results : List TableUnits) :
    (sharedSources results).Nodup := by
  cases results with
  | nil => exact List.nodup_nil
  | cons first rest => exact (TableUnits.nodup_dataSources first).filter _

/-- The logic tables of all results on a data source. -/
def tablesOn
    (results : List TableUnits)
    (dataSource : String) : List String :=
  NameSet.distinct (results.flatMap fun units => units.logicTablesOn dataSource)

theorem pairwise_tablesOn
    (results : List TableUnits)
    (dataSource : String) :
    (tablesOn results dataSource).Pairwise fun first second => Text.sameName first second = false :=
  NameSet.pairwise_foldl_insertNew List.Pairwise.nil

end SharedSources

section Groups

variable {results : List TableUnits}
variable {units : TableUnits}
variable {dataSource : String}

/-- The search among all results ends at a unit in the same place. -/
theorem exists_findUnit?
    (unitsMem : units ∈ results)
    {unit : TableUnit}
    (member : unit ∈ units.onSource dataSource) :
    ∃ found, findUnit? results dataSource unit.actualTable = some found ∧
      found.place = unit.place := by
  obtain ⟨unitMem, rfl⟩ := TableUnits.mem_onSource.mp member
  have isFound : (findUnit? results unit.dataSource unit.actualTable).isSome = true := by
    rw [findUnit?, List.findSome?_isSome_iff]
    refine ⟨units, unitsMem, ?_⟩
    rw [TableUnits.find?, List.find?_isSome]
    exact ⟨unit, unitMem, by simp⟩
  obtain ⟨found, isSome⟩ := Option.isSome_iff_exists.mp isFound
  refine ⟨found, isSome, ?_⟩
  obtain ⟨holder, _, inHolder⟩ := List.exists_of_findSome?_eq_some isSome
  have same := List.find?_some inHolder
  rw [Bool.and_eq_true, Text.sameName_iff, Text.sameName_iff] at same
  exact Prod.ext same.1 same.2

/-- The search for the actual tables of units on a data source keeps their places. -/
theorem filterMap_findUnit?
    (unitsMem : units ∈ results)
    {members : List TableUnit}
    (onSource : ∀ unit ∈ members, unit ∈ units.onSource dataSource) :
    ((members.map TableUnit.actualTable).filterMap (findUnit? results dataSource)).map
        TableUnit.place = members.map TableUnit.place := by
  induction members with
  | nil => rfl
  | cons unit members ih =>
      obtain ⟨found, isFound, samePlace⟩ := exists_findUnit? unitsMem (onSource unit List.mem_cons_self)
      rw [List.map_cons, List.filterMap_cons_some isFound, List.map_cons, samePlace,
        ih fun other otherMem => onSource other (List.mem_cons_of_mem unit otherMem), List.map_cons]

/-- The table of a unit is among the tables on its data source. -/
theorem holdsName_tablesOn
    (unitsMem : units ∈ results)
    {unit : TableUnit}
    (member : unit ∈ units.onSource dataSource) :
    Text.holdsName (tablesOn results dataSource) unit.logicTable = true := by
  have own : Text.holdsName (units.logicTablesOn dataSource) unit.logicTable = true := by
    rw [TableUnits.logicTablesOn, NameSet.holdsName_distinct, NameSet.holdsName_iff]
    exact ⟨unit.logicTable, List.mem_map_of_mem member, Text.sameName_refl _⟩
  obtain ⟨kept, keptMem, same⟩ := (NameSet.holdsName_iff _ _).mp own
  rw [tablesOn, NameSet.holdsName_distinct, NameSet.holdsName_iff]
  exact ⟨kept, List.mem_flatMap.mpr ⟨units, unitsMem, keptMem⟩, same⟩

/-- On a shared data source each result makes one group: what is found for its units there. -/
theorem unitGroups_eq
    (oneTable : ∀ units ∈ results, units.HaveOneTable)
    (shared : ∀ units ∈ results, units.onSource dataSource ≠ []) :
    unitGroups results dataSource (tablesOn results dataSource) =
      results.map fun units => ((units.onSource dataSource).map TableUnit.actualTable).filterMap
        (findUnit? results dataSource) := by
  have group (units : TableUnits)
      (unitsMem : units ∈ results) :
      ((units.actualTableGroups dataSource (tablesOn results dataSource)).map fun actualTables =>
        actualTables.filterMap (findUnit? results dataSource)) =
          [((units.onSource dataSource).map TableUnit.actualTable).filterMap
            (findUnit? results dataSource)] := by
    obtain ⟨unit, member⟩ := List.exists_mem_of_ne_nil _ (shared units unitsMem)
    rw [TableUnits.actualTableGroups_eq (oneTable units unitsMem) member
      (pairwise_tablesOn results dataSource)
      (holdsName_tablesOn unitsMem member)]
    rfl
  rw [unitGroups, List.flatMap_congr group, ← List.map_eq_flatMap, List.filter_eq_self]
  intro found foundMem
  obtain ⟨units, unitsMem, rfl⟩ := List.mem_map.mp foundMem
  have samePlaces :=
    filterMap_findUnit? unitsMem fun unit (member : unit ∈ units.onSource dataSource) => member
  rw [Bool.not_eq_true', List.isEmpty_eq_false_iff]
  intro isEmpty
  rw [isEmpty] at samePlaces
  exact shared units unitsMem (List.map_eq_nil_iff.mp samePlaces.symm)

/-- These groups have the places of the units. -/
theorem map_place_unitGroups
    (oneTable : ∀ units ∈ results, units.HaveOneTable)
    (shared : ∀ units ∈ results, units.onSource dataSource ≠ []) :
    (unitGroups results dataSource (tablesOn results dataSource)).map (List.map TableUnit.place) =
      results.map fun units => (units.onSource dataSource).map TableUnit.place := by
  rw [unitGroups_eq oneTable shared, List.map_map]
  exact List.map_congr_left fun units unitsMem =>
    filterMap_findUnit? unitsMem fun unit (member : unit ∈ units.onSource dataSource) => member

/-- The references of non-empty groups are the choices. -/
theorem map_units_references
    {groups : List (List TableUnit)}
    (nonempty : groups ≠ []) :
    (references groups).map TableReference.units = choices groups := by
  rw [references, List.map_map, List.filter_eq_self.mpr]
  · exact List.map_id _
  · intro choice choiceMem
    simpa using ne_nil_of_mem_choices nonempty choiceMem

/-- On a shared data source the references stand for the choices of one unit of each result. -/
theorem map_places_references
    (nonempty : results ≠ [])
    (oneTable : ∀ units ∈ results, units.HaveOneTable)
    (shared : ∀ units ∈ results, units.onSource dataSource ≠ []) :
    (references (unitGroups results dataSource (tablesOn results dataSource))).map
        TableReference.places =
      choices (results.map fun units => (units.onSource dataSource).map TableUnit.place) := by
  have groups := map_place_unitGroups oneTable shared
  have groupsNonempty : unitGroups results dataSource (tablesOn results dataSource) ≠ [] := by
    intro none
    rw [none] at groups
    exact nonempty (List.map_eq_nil_iff.mp groups.symm)
  rw [← groups, choices_map, ← map_units_references groupsNonempty, List.map_map]
  rfl

end Groups

section Combine

/-- Merging new data sources appends them. -/
theorem dataSources_foldl_merge
    {added : List CombinedSource}
    (distinct : (added.map CombinedSource.dataSource).Nodup)
    (combinations : Combinations)
    (areNew : ∀ source ∈ added,
      source.dataSource ∉ combinations.dataSources.map CombinedSource.dataSource) :
    (added.foldl (fun combinations source =>
        combinations.merge source.dataSource source.references) combinations).dataSources =
      combinations.dataSources ++ added := by
  induction added generalizing combinations with
  | nil => exact (List.append_nil _).symm
  | cons first rest ih =>
      have merged : (combinations.merge first.dataSource first.references).dataSources =
          combinations.dataSources ++ [first] :=
        Combinations.mergeSource_of_new (areNew first List.mem_cons_self) first.references
      obtain ⟨firstNew, restDistinct⟩ := List.nodup_cons.mp distinct
      rw [List.foldl_cons, ih restDistinct, merged, List.append_assoc, List.singleton_append]
      intro source sourceMem
      rw [merged, List.map_append, List.mem_append, not_or]
      refine ⟨areNew source (List.mem_cons_of_mem first sourceMem), ?_⟩
      intro isFirst
      rw [List.map_singleton, List.mem_singleton] at isFirst
      exact firstNew (isFirst ▸ List.mem_map_of_mem sourceMem)

/-- The combinations are made on the shared data sources in ascending order, each by itself. -/
theorem dataSources_combine (results : List TableUnits) :
    (combine results).dataSources =
      (TableUnits.ascending (sharedSources results)).map fun dataSource =>
        ⟨dataSource, references (unitGroups results dataSource (tablesOn results dataSource))⟩ := by
  have distinct : (TableUnits.ascending (sharedSources results)).Nodup :=
    (List.mergeSort_perm _ _).nodup_iff.mpr (nodup_sharedSources results)
  have distinctSources : (((TableUnits.ascending (sharedSources results)).map fun dataSource =>
      CombinedSource.mk dataSource
        (references (unitGroups results dataSource (tablesOn results dataSource)))).map
          CombinedSource.dataSource).Nodup := by
    simpa [List.map_map, Function.comp_def] using distinct
  have merged := dataSources_foldl_merge distinctSources {} (by simp)
  rw [List.foldl_map] at merged
  rw [combine, logicTables, List.foldl_map]
  exact merged

/-- **Combining tables that each stand for one logic table is the exact cross product on each data source
that all of them have**: the data sources ascend, each occurs once, and the references on one of them
are, up to letter case, all choices of one unit of each table, in lexicographic order of the positions. -/
theorem combine_isCrossProduct
    (results : List TableUnits)
    (nonempty : results ≠ [])
    (oneTable : ∀ units ∈ results, units.HaveOneTable) :
    (((combine results).dataSources.map CombinedSource.dataSource).Pairwise
      fun earlier later => earlier < later) ∧
    (∀ dataSource, dataSource ∈ (combine results).dataSources.map CombinedSource.dataSource ↔
      ∀ units ∈ results, ∃ unit ∈ units.toList, unit.dataSource = dataSource) ∧
    ∀ source ∈ (combine results).dataSources,
      AreAllChoices
        (results.map fun units => (units.onSource source.dataSource).map TableUnit.place)
        (source.references.map TableReference.places) ∧
      source.references.length =
        (results.map fun units => (units.onSource source.dataSource).length).prod := by
  have names : (combine results).dataSources.map CombinedSource.dataSource =
      TableUnits.ascending (sharedSources results) := by
    rw [dataSources_combine, List.map_map]
    exact List.map_id _
  have isShared (dataSource : String) :
      dataSource ∈ TableUnits.ascending (sharedSources results) ↔
        ∀ units ∈ results, units.onSource dataSource ≠ [] := by
    rw [TableUnits.ascending, List.mem_mergeSort, mem_sharedSources nonempty]
  refine ⟨?_, ?_, ?_⟩
  · rw [names]
    exact TableUnits.pairwise_ascending (nodup_sharedSources results)
  · intro dataSource
    rw [names, isShared]
    simp [TableUnits.onSource]
  · intro source sourceMem
    rw [dataSources_combine] at sourceMem
    obtain ⟨dataSource, dataSourceMem, rfl⟩ := List.mem_map.mp sourceMem
    have places := map_places_references nonempty oneTable ((isShared dataSource).mp dataSourceMem)
    constructor
    · rw [places]
      exact areAllChoices_choices _
    · have count := congrArg List.length places
      rw [List.length_map, length_choices, List.map_map] at count
      simpa [Function.comp_def] using count

end Combine

section Samples

/-- Orders and users that share one data source, which one of the users' tables spells differently. -/
def crossedTables : List TableUnits :=
  [⟨[⟨"ds_0", "t_order", "t_order_0"⟩, ⟨"ds_0", "t_order", "t_order_1"⟩]⟩,
    ⟨[⟨"ds_0", "t_user", "t_user_0"⟩, ⟨"ds_1", "t_user", "t_user_0"⟩, ⟨"ds_0", "T_User", "t_user_1"⟩]⟩]

/-- The orders and users are combined on the data source that they share, in four ways. -/
theorem crossedTables_isCrossProduct :
    crossedTables ≠ [] ∧
      (∀ units ∈ crossedTables, units.HaveOneTable) ∧
      ∃ source ∈ (combine crossedTables).dataSources, source.dataSource = "ds_0" ∧
        AreAllChoices
          (crossedTables.map fun units => (units.onSource "ds_0").map TableUnit.place)
          (source.references.map TableReference.places) ∧
        source.references.length = 4 := by
  have nonempty : crossedTables ≠ [] := List.cons_ne_nil _ _
  have oneTable : ∀ units ∈ crossedTables, units.HaveOneTable := by
    unfold TableUnits.HaveOneTable
    decide +kernel
  obtain ⟨_, isShared, isProduct⟩ := combine_isCrossProduct crossedTables nonempty oneTable
  obtain ⟨source, sourceMem, isFirst⟩ :=
    List.mem_map.mp ((isShared "ds_0").mpr (by decide +kernel))
  obtain ⟨areAll, count⟩ := isProduct source sourceMem
  rw [isFirst] at areAll count
  exact ⟨nonempty, oneTable, source, sourceMem, isFirst, areAll, count.trans (by decide +kernel)⟩

end Samples

end Cartesian

end ShardedSql
