import ShardedSql.Proofs.Rendering.Lookup
import ShardedSql.Proofs.Routing.Binding
import ShardedSql.Proofs.Routing.CrossProduct
import ShardedSql.Proofs.Routing.Distinctness

/-!
# The tables that combined units stand for

Tables that are combined are put together again from the names of their actual tables, and a unit is found by
the name alone.  So it keeps the logic table that it stands for only if no other table has an actual table of
this name there.  The main statement says that the references name each routed table in its place just in this
case, and that each table is then filled in with a name that its own rule may use.
-/

namespace ShardedSql

/-- Whether the units of a reference stand for the given tables, one for each. -/
def TableReference.NamesEach
    (reference : TableReference)
    (tables : List String) : Prop :=
  List.Forall₂ (fun unit table => Text.sameName unit.logicTable table = true) reference.units tables

namespace TableUnits

/-- Whether all units stand for a table. -/
def StandFor
    (units : TableUnits)
    (table : String) : Prop :=
  ∀ unit ∈ units.toList, Text.sameName unit.logicTable table = true

/-- Whether no data source of the units has two spellings. -/
def HaveApartSources (units : TableUnits) : Prop :=
  ∀ unit ∈ units.toList, ∀ other ∈ units.toList,
    Text.sameName unit.dataSource other.dataSource = true → unit.dataSource = other.dataSource

theorem StandFor.haveOneTable
    {units : TableUnits}
    {table : String}
    (stand : units.StandFor table) :
    units.HaveOneTable := fun first isFirst second isSecond =>
  Text.sameName_trans (stand first isFirst) (Text.sameName_comm _ _ ▸ stand second isSecond)

end TableUnits

namespace Cartesian

/-- Whether units on a data source that have one actual table stand for one table. -/
def TellTables
    (results : List TableUnits)
    (dataSource : String) : Prop :=
  ∀ units ∈ results, ∀ unit ∈ units.onSource dataSource,
    ∀ others ∈ results, ∀ other ∈ others.onSource dataSource,
      Text.sameName unit.actualTable other.actualTable = true →
        Text.sameName unit.logicTable other.logicTable = true

instance
    (results : List TableUnits)
    (dataSource : String) :
    Decidable (TellTables results dataSource) :=
  inferInstanceAs (Decidable (∀ units ∈ results, ∀ unit ∈ units.onSource dataSource,
    ∀ others ∈ results, ∀ other ∈ others.onSource dataSource,
      Text.sameName unit.actualTable other.actualTable = true →
        Text.sameName unit.logicTable other.logicTable = true))

section Labels

variable {results : List TableUnits} {dataSource : String}

theorem findUnit?_congr
    {first second : String}
    (same : Text.sameName first second = true) :
    findUnit? results dataSource first = findUnit? results dataSource second := by
  simp only [findUnit?, TableUnits.find?, Text.sameName_congr_right same]

/-- On a shared data source, what is found is a unit on this data source. -/
theorem exists_onSource_of_findUnit?
    (shared : ∀ units ∈ results, units.onSource dataSource ≠ [])
    (apart : ∀ units ∈ results, units.HaveApartSources)
    {actualTable : String}
    {found : TableUnit}
    (isFound : findUnit? results dataSource actualTable = some found) :
    Text.sameName found.actualTable actualTable = true ∧
      ∃ units ∈ results, found ∈ units.onSource dataSource := by
  obtain ⟨units, unitsMem, inUnits⟩ := List.exists_of_findSome?_eq_some isFound
  have same := List.find?_some inUnits
  obtain ⟨sameSource, sameTable⟩ := Bool.and_eq_true_iff.mp same
  have foundMem := List.mem_of_find?_eq_some inUnits
  obtain ⟨other, otherMem⟩ := List.exists_mem_of_ne_nil _ (shared units unitsMem)
  obtain ⟨isOther, rfl⟩ := TableUnits.mem_onSource.mp otherMem
  exact ⟨sameTable, units, unitsMem,
    TableUnits.mem_onSource.mpr ⟨foundMem, apart units unitsMem found foundMem other isOther sameSource⟩⟩

/-- What is found for each unit stands for the table of this unit if and only if the actual tables tell the
tables. -/
theorem forall_findUnit?_iff_tellTables
    (shared : ∀ units ∈ results, units.onSource dataSource ≠ [])
    (apart : ∀ units ∈ results, units.HaveApartSources) :
    (∀ units ∈ results, ∀ unit ∈ units.onSource dataSource, ∀ found,
      findUnit? results dataSource unit.actualTable = some found →
        Text.sameName found.logicTable unit.logicTable = true) ↔
      TellTables results dataSource := by
  constructor
  · intro keep units unitsMem unit unitMem others othersMem other otherMem same
    -- The search for both ends at one unit.
    obtain ⟨found, isFound, -⟩ := exists_findUnit? unitsMem unitMem
    have forUnit := keep units unitsMem unit unitMem found isFound
    have forOther := keep others othersMem other otherMem found (findUnit?_congr same ▸ isFound)
    rw [Text.sameName_comm] at forUnit
    exact Text.sameName_trans forUnit forOther
  · intro tell units unitsMem unit unitMem found isFound
    obtain ⟨same, holder, holderMem, foundMem⟩ := exists_onSource_of_findUnit? shared apart isFound
    exact tell holder holderMem found foundMem units unitsMem unit unitMem same

/-- Every unit of a reference is one of the routed units. -/
theorem exists_of_mem_references
    {logicTables : List String}
    {reference : TableReference}
    (isReference : reference ∈ references (unitGroups results dataSource logicTables))
    {unit : TableUnit}
    (isUnit : unit ∈ reference.units) :
    ∃ units ∈ results, unit ∈ units.toList := by
  obtain ⟨choice, choiceMem, rfl⟩ := List.mem_map.mp isReference
  obtain ⟨group, groupMem, isMember⟩ :=
    exists_group_of_mem_choices (List.mem_filter.mp choiceMem).1 isUnit
  obtain ⟨units, -, isGroup⟩ := List.mem_flatMap.mp (List.mem_filter.mp groupMem).1
  obtain ⟨actualTables, -, rfl⟩ := List.mem_map.mp isGroup
  obtain ⟨actualTable, -, isFound⟩ := List.mem_filterMap.mp isMember
  obtain ⟨holder, holderMem, inHolder⟩ := List.exists_of_findSome?_eq_some isFound
  exact ⟨holder, holderMem, List.mem_of_find?_eq_some inHolder⟩

/-- The references on a shared data source name each table if and only if the actual tables tell the tables. -/
theorem forall_namesEach_iff_tellTables
    (nonempty : results ≠ [])
    (shared : ∀ units ∈ results, units.onSource dataSource ≠ [])
    (apart : ∀ units ∈ results, units.HaveApartSources)
    {tables : List String}
    (stand : List.Forall₂ TableUnits.StandFor results tables) :
    (∀ reference ∈ references (unitGroups results dataSource (tablesOn results dataSource)),
      reference.NamesEach tables) ↔ TellTables results dataSource := by
  have oneTable : ∀ units ∈ results, units.HaveOneTable := fun units unitsMem => by
    obtain ⟨table, -, forTable⟩ := Success.exists_of_forall₂ stand unitsMem
    exact forTable.haveOneTable
  have groupsNonempty : ∀ group ∈ unitGroups results dataSource (tablesOn results dataSource),
      group ≠ [] := fun group groupMem => by
    simpa using (List.mem_filter.mp groupMem).2
  have someGroup : unitGroups results dataSource (tablesOn results dataSource) ≠ [] := by
    rw [unitGroups_eq oneTable shared]
    simpa using nonempty
  have throughUnits : (∀ reference ∈ references (unitGroups results dataSource (tablesOn results dataSource)),
      reference.NamesEach tables) ↔
        ∀ choice ∈ choices (unitGroups results dataSource (tablesOn results dataSource)),
          List.Forall₂ (fun unit table => Text.sameName unit.logicTable table = true) choice tables := by
    rw [← map_units_references someGroup, List.forall_mem_map]
    rfl
  rw [throughUnits, forall_mem_choices_iff groupsNonempty, unitGroups_eq oneTable shared,
    List.forall₂_map_left_iff, ← forall_findUnit?_iff_tellTables shared apart]
  refine Success.forall₂_iff_forall_mem stand fun units table forTable => ?_
  constructor
  · intro keep unit unitMem found isFound
    have isThere : Text.sameName unit.logicTable table = true :=
      forTable unit (TableUnits.mem_onSource.mp unitMem).1
    rw [Text.sameName_comm] at isThere
    refine Text.sameName_trans (keep found ?_) isThere
    exact List.mem_filterMap.mpr ⟨unit.actualTable, List.mem_map_of_mem unitMem, isFound⟩
  · intro keep found foundMem
    obtain ⟨actualTable, isTable, isFound⟩ := List.mem_filterMap.mp foundMem
    obtain ⟨unit, unitMem, rfl⟩ := List.mem_map.mp isTable
    exact Text.sameName_trans (keep unit unitMem found isFound)
      (forTable unit (TableUnits.mem_onSource.mp unitMem).1)

end Labels

end Cartesian

/-- The tables that are routed by themselves: those with a rule that are not bound to one routed before. -/
def Rule.routedAlone
    (rule : Rule)
    (bound : List String) : List String → List String
  | [] => []
  | table :: rest =>
      if (rule.findTable? table).isNone || Text.holdsName bound table then
        rule.routedAlone bound rest
      else
        table :: rule.routedAlone
          (bound ++ (rule.findGroup? table).elim [] BindingGroup.logicTables) rest

/-- Whether each of some tables is filled in with a name that its own rule may use. -/
def Rule.FillsOwn
    (rule : Rule)
    (tables : List String)
    (names : TableNames) : Prop :=
  ∀ table ∈ tables, ∃ tableRule actualTable, rule.findTable? table = some tableRule ∧
    names.find? (Text.lowerCase table) = some actualTable ∧ rule.MayUse tableRule actualTable

namespace Rule

theorem isSome_findTable?_of_mem_routedAlone
    {rule : Rule}
    {bound tables : List String}
    {table : String}
    (member : table ∈ rule.routedAlone bound tables) :
    (rule.findTable? table).isSome = true := by
  induction tables generalizing bound with
  | nil => cases member
  | cons first rest ih =>
      unfold routedAlone at member
      split at member
      next => exact ih member
      next isRouted =>
        rcases List.mem_cons.mp member with rfl | isLater
        · rw [Bool.or_eq_true, not_or] at isRouted
          simpa [Option.isSome_iff_ne_none] using isRouted.1
        · exact ih isLater

end Rule

namespace RoutingRequest

variable {request : RoutingRequest}

/-- Routing tables one after another is routing those that are routed by themselves. -/
theorem routeEach_eq_mapM
    (request : RoutingRequest)
    (bound tables : List String) :
    request.routeEach bound tables = (request.rule.routedAlone bound tables).mapM request.routeTable := by
  induction tables generalizing bound with
  | nil => rfl
  | cons table rest ih =>
      unfold routeEach Rule.routedAlone
      cases found : request.rule.findTable? table with
      | none => simpa using ih bound
      | some tableRule =>
          cases isBound : Text.holdsName bound table with
          | true => simpa using ih bound
          | false =>
              simp only [ih, Bool.false_eq_true, if_false, Option.isNone_some, Bool.or_self, List.mapM_cons]
              cases request.rule.findGroup? table <;> rfl

/-- The units of a table stand for it, and no data source of theirs has two spellings. -/
theorem standFor_of_routeTable
    (isBuilt : request.rule.IsBuilt)
    {table : String}
    {units : TableUnits}
    (routed : request.routeTable table = .ok units) :
    units.StandFor table ∧ units.HaveApartSources := by
  obtain ⟨-, tableRule, ruled, ofRule⟩ := nodup_routeTable routed
  obtain ⟨dataSources, sourcesOk, -, mem_units⟩ := mem_routeTable ruled routed
  obtain ⟨_, -, chosen⟩ := dataSourcesFor_eq_ok sourcesOk
  have apart := Strategy.pairwise_of_chooseAmong chosen
  refine ⟨fun unit isUnit => ofRule unit isUnit ▸ (isBuilt.isFor_of_tableRule ruled).1, ?_⟩
  intro unit isUnit other isOther same
  obtain ⟨first, firstMem, _, _, _, _, rfl⟩ := (mem_units unit).mp isUnit
  obtain ⟨second, secondMem, _, _, _, _, rfl⟩ := (mem_units other).mp isOther
  by_contra differ
  have symmetric : Std.Symm fun first second => Text.sameName first second = false :=
    ⟨fun first second apart => (Text.sameName_comm second first).trans apart⟩
  exact Bool.false_ne_true ((apart.forall firstMem secondMem differ).symm.trans same)

/-- A unit of a routed table has a name that the rule of the table may use. -/
theorem exists_mayUse_of_routeTable
    (isBuilt : request.rule.IsBuilt)
    {table : String}
    (ruled : (request.rule.findTable? table).isSome = true)
    {units : TableUnits}
    (routed : request.routeTable table = .ok units)
    {unit : TableUnit}
    (isUnit : unit ∈ units.toList) :
    unit.logicTable.isEmpty = false ∧ ∃ tableRule, request.rule.findTable? unit.logicTable = some tableRule ∧
      request.rule.MayUse tableRule unit.actualTable := by
  obtain ⟨tableRule, found⟩ := Option.isSome_iff_exists.mp ruled
  have applies := tableRule_of_findTable? found
  obtain ⟨isFor, isNamed⟩ := isBuilt.isFor_of_tableRule applies
  obtain ⟨ofRule, mayUse⟩ := mayUse_of_mem_routeTable applies routed isUnit
  rw [ofRule]
  exact ⟨isNamed, tableRule, (request.rule.findTable?_congr isFor).trans found, mayUse⟩

/-- Units that are combined come from tables that are routed by themselves. -/
theorem exists_results_of_combined
    {tables : List String}
    {combinations : Combinations}
    (routed : request.routeUnbound tables = .ok (.combined combinations)) :
    ∃ results, combinations = Cartesian.combine results ∧ results ≠ [] ∧
      List.Forall₂ (fun table units => request.routeTable table = .ok units)
        (request.rule.routedAlone [] tables) results := by
  obtain ⟨results, resultsOk, isOutcome⟩ := Success.bind_eq_ok.mp routed
  rw [routeEach_eq_mapM] at resultsOk
  refine ⟨results, ?_, ?_, Success.mapM_eq_ok.mp resultsOk⟩
  · split at isOutcome
    next => cases isOutcome
    next => cases isOutcome
    next => cases isOutcome; rfl
  · rintro rfl
    cases isOutcome

end RoutingRequest

/-- Units that name each of some tables, and have names that the rules of their tables may use, fill in each of
these tables with a name of its own. -/
theorem RenderRequest.fillsOwn_of_namesEach
    {request : RenderRequest}
    {tables : List String}
    {reference : TableReference}
    (namesEach : reference.NamesEach tables)
    (ofOwn : ∀ unit ∈ reference.units, unit.logicTable.isEmpty = false ∧
      ∃ tableRule, request.rule.findTable? unit.logicTable = some tableRule ∧
        request.rule.MayUse tableRule unit.actualTable)
    (areTold : ∀ first ∈ tables, ∀ second ∈ tables,
      Text.lowerCase first = Text.lowerCase second → Text.sameName first second = true)
    {names : TableNames}
    (named : request.tableNames reference.units = .ok names) :
    request.rule.FillsOwn tables names := by
  intro table isTable
  obtain ⟨unit, isUnit, stands⟩ := Success.exists_of_forall₂ namesEach.flip isTable
  obtain ⟨other, isOther, same, found⟩ :=
    RenderRequest.exists_find?_tableNames (fun unit isUnit => (ofOwn unit isUnit).1) named isUnit
  rw [Text.lowerCase_eq_of_sameName stands] at same found
  -- The unit whose name is found stands for a table of the same spelling.
  obtain ⟨otherTable, isOtherTable, otherStands⟩ := Success.exists_of_forall₂ namesEach isOther
  rw [Text.lowerCase_eq_of_sameName otherStands] at same
  have isSame := Text.sameName_trans otherStands (areTold otherTable isOtherTable table isTable same)
  obtain ⟨-, tableRule, ruled, mayUse⟩ := ofOwn other isOther
  exact ⟨tableRule, other.actualTable, (request.rule.findTable?_congr isSame).symm.trans ruled, found, mayUse⟩

namespace RoutingRequest

/-- **Combined units name each table just where actual tables tell the tables.**  Under a built rule, let
tables be combined that are routed by themselves.  On a data source, the units of every reference stand for
these tables one by one if and only if no two of the tables are routed to one actual table there.  Then, as long
as lower case makes no two tables alike that are not, each of them is filled in with a name that its own rule
may use, whatever the statement is. -/
theorem forall_namesEach_iff_of_combined
    {request : RoutingRequest}
    (isBuilt : request.rule.IsBuilt)
    {tables : List String}
    {combinations : Combinations}
    (routed : request.routeUnbound tables = .ok (.combined combinations)) :
    ∃ results, List.Forall₂ (fun table units => request.routeTable table = .ok units)
        (request.rule.routedAlone [] tables) results ∧
      ∀ source ∈ combinations.dataSources,
        ((∀ reference ∈ source.references, reference.NamesEach (request.rule.routedAlone [] tables)) ↔
          Cartesian.TellTables results source.dataSource) ∧
        (Cartesian.TellTables results source.dataSource →
          (∀ first ∈ request.rule.routedAlone [] tables, ∀ second ∈ request.rule.routedAlone [] tables,
            Text.lowerCase first = Text.lowerCase second → Text.sameName first second = true) →
          ∀ reference ∈ source.references, ∀ sql statement parameters names,
            RenderRequest.tableNames ⟨request.rule, sql, statement, parameters⟩ reference.units = .ok names →
              request.rule.FillsOwn (request.rule.routedAlone [] tables) names) := by
  obtain ⟨results, rfl, nonempty, aligned⟩ := exists_results_of_combined routed
  refine ⟨results, aligned, fun source sourceMem => ?_⟩
  rw [Cartesian.dataSources_combine] at sourceMem
  obtain ⟨dataSource, dataSourceMem, rfl⟩ := List.mem_map.mp sourceMem
  rw [TableUnits.ascending, List.mem_mergeSort, Cartesian.mem_sharedSources nonempty] at dataSourceMem
  have apart : ∀ units ∈ results, units.HaveApartSources := fun units unitsMem => by
    obtain ⟨table, -, tableOk⟩ := Success.exists_of_forall₂ aligned.flip unitsMem
    exact (standFor_of_routeTable isBuilt tableOk).2
  have stand : List.Forall₂ TableUnits.StandFor results (request.rule.routedAlone [] tables) :=
    aligned.flip.imp fun _ _ tableOk => (standFor_of_routeTable isBuilt tableOk).1
  have labels := Cartesian.forall_namesEach_iff_tellTables nonempty dataSourceMem apart stand
  refine ⟨labels, fun tell areTold reference isReference sql statement parameters names named => ?_⟩
  refine RenderRequest.fillsOwn_of_namesEach (labels.mpr tell reference isReference) ?_ areTold named
  intro unit isUnit
  obtain ⟨units, unitsMem, isThere⟩ := Cartesian.exists_of_mem_references isReference isUnit
  obtain ⟨table, isTable, tableOk⟩ := Success.exists_of_forall₂ aligned.flip unitsMem
  exact exists_mayUse_of_routeTable isBuilt (Rule.isSome_findTable?_of_mem_routedAlone isTable) tableOk isThere

end RoutingRequest

section Samples

/-- The declaration of a table with one actual table on one data source. -/
def soleDeclaration (logicTable actualTable : String) : TableDeclaration :=
  { logicTable := logicTable
    actualTables := [actualTable]
    dataSources := ["ds_0"] }

/-- The rule of such a table. -/
def soleTable (logicTable actualTable : String) : TableRule :=
  { logicTable := logicTable
    isDynamic := false
    nodes := [⟨"ds_0", actualTable⟩]
    databaseStrategy := none
    tableStrategy := none
    keyColumn := none
    keyGenerator := none }

theorem soleDeclaration_build
    {logicTable actualTable : String}
    (isNamed : (Text.trim logicTable).isEmpty = false)
    (isPlain : actualTable.toList.contains '.' = false ∧ Text.trim actualTable = actualTable) :
    (soleDeclaration logicTable actualTable).build = .ok (soleTable logicTable actualTable) := by
  have nodesOk : (soleDeclaration logicTable actualTable).nodesOf actualTable =
      .ok [⟨"ds_0", actualTable⟩] := by
    rw [TableDeclaration.nodesOf, isPlain.1, isPlain.2]
    rfl
  simp only [TableDeclaration.build, TableDeclaration.nodes, TableDeclaration.fixedNodes, soleDeclaration,
    soleTable, isNamed] at nodesOk ⊢
  simp [nodesOk, Except.map, bind, Except.bind, pure, Except.pure]

/-- A rule for two such tables. -/
def soleRule (orders users : String) : Rule :=
  { dataSources := ["ds_0"]
    defaultDataSource := some "ds_0"
    tables := [soleTable "t_order" orders, soleTable "t_user" users]
    bindingGroups := []
    databaseStrategy := none
    tableStrategy := none
    keyGenerator := none }

theorem soleRule_isBuilt
    {orders users : String}
    (arePlain : ∀ name ∈ [orders, users], name.toList.contains '.' = false ∧ Text.trim name = name) :
    (soleRule orders users).IsBuilt := by
  have differ : Text.sameName "t_order" "t_user" = false := by decide +kernel
  simp only [List.forall_mem_cons] at arePlain
  refine ⟨{ dataSources := ["ds_0"], tables := (soleRule orders users).tables }, ?_, ?_⟩
  · simp [RuleDeclaration.build, RuleDeclaration.chosenDefault, RuleDeclaration.checkTables, soleRule,
      soleTable, TableRule.isFor, differ, bind, Except.bind, pure, Except.pure]
  simp only [soleRule, List.forall_mem_cons]
  exact ⟨⟨_, soleDeclaration_build (by decide +kernel) arePlain.1⟩,
    ⟨_, soleDeclaration_build (by decide +kernel) arePlain.2.1⟩, List.forall_mem_nil _⟩

/-- The text of a query over both tables. -/
def pairText : String :=
  "SELECT * FROM t_order, t_user"

/-- What this text is parsed to. -/
def pairStatement : Statement :=
  { kind := .select
    tables := ⟨[⟨"t_order", none⟩, ⟨"t_user", none⟩]⟩
    markers := [.table 14 "t_order", .table 23 "t_user"]
    items := [.star none]
    containsStar := true }

/-- The units of such a table. -/
def soleUnits (logicTable actualTable : String) : TableUnits :=
  ⟨[⟨"ds_0", logicTable, actualTable⟩]⟩

theorem soleRule_routeTable
    {orders users table actualTable : String}
    (found : (soleRule orders users).findTable? table = some (soleTable table actualTable)) :
    RoutingRequest.routeTable ⟨soleRule orders users, [], pairStatement, {}⟩ table =
      .ok (soleUnits table actualTable) := by
  have listed : (soleTable table actualTable).dataSources = ["ds_0"] := rfl
  have onSource : (soleTable table actualTable).tablesOn "ds_0" = [actualTable] := by
    simp [TableRule.tablesOn, soleTable]
  have ruled := RoutingRequest.tableRule_of_findTable? found
  rw [RoutingRequest.routeTable_of_knowsNothing rfl (by simp [pairStatement]) ruled
    (List.cons_ne_nil _ _) (RoutingRequest.knowsNothing_none _) (RoutingRequest.knowsNothing_none _),
    listed, NameSet.ofList_singleton, List.map_singleton, onSource, NameSet.ofList_singleton]
  rfl

/-- The combined units of both tables. -/
def pairCombinations (orders users : String) : Combinations :=
  Cartesian.combine [soleUnits "t_order" orders, soleUnits "t_user" users]

theorem soleRule_routed (orders users : String) :
    (soleRule orders users).routedAlone [] ["t_order", "t_user"] = ["t_order", "t_user"] ∧
      ["t_order", "t_user"].mapM (RoutingRequest.routeTable ⟨soleRule orders users, [], pairStatement, {}⟩) =
        .ok [soleUnits "t_order" orders, soleUnits "t_user" users] := by
  have differ : Text.sameName "t_order" "t_user" = false := by decide +kernel
  have isOrders : (soleRule orders users).findTable? "t_order" = some (soleTable "t_order" orders) := by
    simp [Rule.findTable?, soleRule, soleTable, TableRule.isFor]
  have isUsers : (soleRule orders users).findTable? "t_user" = some (soleTable "t_user" users) := by
    simp [Rule.findTable?, soleRule, soleTable, TableRule.isFor, differ]
  have noGroup : ∀ table, (soleRule orders users).findGroup? table = none := fun _ => rfl
  refine ⟨?_, Success.mapM_eq_ok.mpr
    (.cons (soleRule_routeTable isOrders) (.cons (soleRule_routeTable isUsers) .nil))⟩
  simp [Rule.routedAlone, isOrders, isUsers, noGroup, Text.holdsName]

theorem soleRule_routeUnbound (orders users : String) :
    RoutingRequest.routeUnbound ⟨soleRule orders users, [], pairStatement, {}⟩ ["t_order", "t_user"] =
      .ok (.combined (pairCombinations orders users)) := by
  obtain ⟨alone, routed⟩ := soleRule_routed orders users
  rw [RoutingRequest.routeUnbound, RoutingRequest.routeEach_eq_mapM, alone, routed]
  rfl

theorem pairCombinations_eq (orders users : String) :
    pairCombinations orders users =
      Combinations.merge {} "ds_0" (Cartesian.references (Cartesian.unitGroups
        [soleUnits "t_order" orders, soleUnits "t_user" users] "ds_0" ["t_order", "t_user"])) := by
  have differ : Text.sameName "t_order" "t_user" = false := by decide +kernel
  have isShared : Cartesian.sharedSources [soleUnits "t_order" orders, soleUnits "t_user" users] =
      ["ds_0"] := rfl
  have areThere : Cartesian.tablesOn [soleUnits "t_order" orders, soleUnits "t_user" users] "ds_0" =
      ["t_order", "t_user"] := by
    simp [Cartesian.tablesOn, TableUnits.logicTablesOn, soleUnits, NameSet.distinct, NameSet.insertNew,
      Text.holdsName, differ]
  unfold Cartesian.tablesOn at areThere
  rw [pairCombinations, Cartesian.combine, Cartesian.logicTables, isShared, TableUnits.ascending,
    List.mergeSort_singleton, List.map_singleton, areThere]
  rfl

/-- With actual tables of different names, each table is named and filled in with its own name. -/
theorem fillsOwn_pairText :
    (soleRule "t_order_0" "t_user_0").IsBuilt ∧
      RoutingRequest.routeUnbound ⟨soleRule "t_order_0" "t_user_0", [], pairStatement, {}⟩
        ["t_order", "t_user"] = .ok (.combined (pairCombinations "t_order_0" "t_user_0")) ∧
      ∃ source ∈ (pairCombinations "t_order_0" "t_user_0").dataSources,
        ∃ reference ∈ source.references, reference.NamesEach ["t_order", "t_user"] ∧
          ∃ names, RenderRequest.tableNames ⟨soleRule "t_order_0" "t_user_0", pairText, pairStatement, []⟩
            reference.units = .ok names ∧
              (soleRule "t_order_0" "t_user_0").FillsOwn ["t_order", "t_user"] names := by
  have isBuilt : (soleRule "t_order_0" "t_user_0").IsBuilt := soleRule_isBuilt (by decide +kernel)
  have routed := soleRule_routeUnbound "t_order_0" "t_user_0"
  obtain ⟨alone, tablesOk⟩ := soleRule_routed "t_order_0" "t_user_0"
  obtain ⟨results, aligned, areNamed⟩ := RoutingRequest.forall_namesEach_iff_of_combined isBuilt routed
  simp only [alone] at aligned areNamed
  cases Except.ok.inj (tablesOk.symm.trans (Success.mapM_eq_ok.mpr aligned))
  obtain ⟨source, sourceMem, isFirst, reference, isReference, isPair⟩ :
      ∃ source ∈ (pairCombinations "t_order_0" "t_user_0").dataSources, source.dataSource = "ds_0" ∧
        ∃ reference ∈ source.references, reference.units =
          [⟨"ds_0", "t_order", "t_order_0"⟩, ⟨"ds_0", "t_user", "t_user_0"⟩] := by
    rw [pairCombinations_eq]
    decide +kernel
  obtain ⟨named, fills⟩ := areNamed source sourceMem
  have tell : Cartesian.TellTables [soleUnits "t_order" "t_order_0", soleUnits "t_user" "t_user_0"]
      source.dataSource := by
    rw [isFirst]
    decide +kernel
  have namesOk : RenderRequest.tableNames ⟨soleRule "t_order_0" "t_user_0", pairText, pairStatement, []⟩
      reference.units = .ok [("t_order", "t_order_0"), ("t_user", "t_user_0")] := by
    rw [isPair]
    exact Success.toOption_eq_some.mp (by decide +kernel)
  exact ⟨isBuilt, routed, source, sourceMem, reference, isReference, named.mpr tell reference isReference, _,
    namesOk, fills tell (by decide +kernel) reference isReference _ _ _ _ namesOk⟩

/-- With one actual table for both, the only reference names the first table twice, and in the text that is sent
the other name stays as it is. -/
theorem unnamed_pairText :
    (soleRule "t_all" "t_all").IsBuilt ∧
      (soleRule "t_all" "t_all").routedAlone [] ["t_order", "t_user"] = ["t_order", "t_user"] ∧
      RoutingRequest.routeUnbound ⟨soleRule "t_all" "t_all", [], pairStatement, {}⟩ ["t_order", "t_user"] =
        .ok (.combined (pairCombinations "t_all" "t_all")) ∧
      (∃ source ∈ (pairCombinations "t_all" "t_all").dataSources, ∃ reference ∈ source.references,
        ¬ reference.NamesEach ["t_order", "t_user"]) ∧
      (Statement.parse .mysql (soleRule "t_all" "t_all") (Keys.ofRule (soleRule "t_all" "t_all") 0) pairText
        0).1 = .ok pairStatement ∧
      (Router.route ⟨.mysql, soleRule "t_all" "t_all"⟩ (Keys.ofRule (soleRule "t_all" "t_all") 0) {} pairText
        []).1 = .ok ⟨.select, [⟨"ds_0", "SELECT * FROM t_all, t_user"⟩], [], []⟩ := by
  have isBuilt : (soleRule "t_all" "t_all").IsBuilt := soleRule_isBuilt (by decide +kernel)
  have unbound := soleRule_routeUnbound "t_all" "t_all"
  have areTwice : (pairCombinations "t_all" "t_all").dataSources =
      [⟨"ds_0", [⟨[⟨"ds_0", "t_order", "t_all"⟩, ⟨"ds_0", "t_order", "t_all"⟩]⟩]⟩] := by
    rw [pairCombinations_eq]
    decide +kernel
  have parsed : (Statement.parse .mysql (soleRule "t_all" "t_all") (Keys.ofRule (soleRule "t_all" "t_all") 0)
      pairText 0).1 = .ok pairStatement :=
    Success.toOption_eq_some.mp (by decide +kernel)
  obtain ⟨left, isParsed⟩ : ∃ left, Statement.parse .mysql (soleRule "t_all" "t_all")
      (Keys.ofRule (soleRule "t_all" "t_all") 0) pairText 0 = (.ok pairStatement, left) :=
    ⟨_, Prod.ext parsed rfl⟩
  have routed : RoutingRequest.route ⟨soleRule "t_all" "t_all", [], pairStatement, {}⟩ =
      .ok (.combined (pairCombinations "t_all" "t_all")) := by
    have areTables : pairStatement.tables.names = ["t_order", "t_user"] := rfl
    have notBound : (soleRule "t_all" "t_all").areBound ["t_order", "t_user"] = false := rfl
    simp only [RoutingRequest.route, areTables, notBound, unbound, Bool.false_eq_true, if_false]
  have ordered : pairStatement.markers.Pairwise Marker.IsBefore :=
    List.pairwise_pair.mpr (by unfold Marker.IsBefore; decide +kernel)
  have rendered : (do
      let progress ← pairStatement.markers.foldlM
        (RenderRequest.renderMarker ⟨soleRule "t_all" "t_all", pairText, pairStatement, []⟩
          (!(Outcome.combined (pairCombinations "t_all" "t_all")).isSingle)) ⟨{}, 0⟩
      Router.executionUnits ⟨soleRule "t_all" "t_all", pairText, pairStatement, []⟩
        (progress.template.addText (Text.slice pairText progress.position pairText.utf8ByteSize))
        (.combined (pairCombinations "t_all" "t_all"))) =
          .ok [⟨"ds_0", "SELECT * FROM t_all, t_user"⟩] := by
    rw [pairCombinations_eq]
    exact Success.toOption_eq_some.mp (by decide +kernel)
  have ran := @Router.route_of_ordered ⟨.mysql, soleRule "t_all" "t_all"⟩ _ {} _ [] _ ⟨[], [], left⟩ _ _ _ []
    rfl isParsed rfl routed ordered rendered rfl
  refine ⟨isBuilt, (soleRule_routed _ _).1, unbound, ?_, parsed, congrArg Prod.fst ran⟩
  rw [areTwice]
  refine ⟨_, List.mem_cons_self, _, List.mem_cons_self, fun named => ?_⟩
  have isUsers := (List.forall₂_cons.mp (List.forall₂_cons.mp named).2).1
  exact absurd isUsers (by decide +kernel)

end Samples

end ShardedSql
