import Mathlib
import ShardedSql.Proofs.Strategy.Choice
import ShardedSql.Routing.Table
import ShardedSql.Rule.Config

/-!
# Rows are looked for where they are placed

A statement that fixes the sharding columns of a table places a row, and a statement whose
conditions admit the row looks for it.  Where strategies choose by remainders, the second statement
runs at the units of the first.  The main statement also names the only case in which it does not.
-/

namespace ShardedSql

namespace TableUnits

theorem mem_add
    {units : TableUnits}
    {added unit : TableUnit} :
    unit ∈ (units.add added).toList ↔ unit ∈ units.toList ∨ unit = added := by
  unfold add
  split
  next present =>
    rw [List.contains_iff_mem] at present
    constructor
    · exact Or.inl
    · rintro (old | rfl)
      · exact old
      · exact present
  next => simp

theorem mem_foldl_add
    {added : List TableUnit}
    {units : TableUnits}
    {unit : TableUnit} :
    unit ∈ (added.foldl add units).toList ↔ unit ∈ units.toList ∨ unit ∈ added := by
  induction added generalizing units with
  | nil => simp
  | cons first added ih =>
      rw [List.foldl_cons, ih, mem_add, List.mem_cons, or_assoc]

theorem mem_ofList
    {added : List TableUnit}
    {unit : TableUnit} :
    unit ∈ (ofList added).toList ↔ unit ∈ added := by
  rw [ofList, mem_foldl_add]
  simp

end TableUnits

namespace Strategy

theorem columns_none : none.columns = [] := by
  decide +kernel

/-- Whether a strategy has no column and keeps every listed target, or finds one of them by the
remainder of its only column. -/
def ChoosesListed (strategy : Strategy) : Prop :=
  strategy.columns = [] ∨
    ∃ column modulus, strategy.columns = [column] ∧ strategy.algorithm = .modulo modulus

/-- Whether a strategy makes up a target by the remainder of its only column, and its algorithm is
a valid one. -/
def MakesUp (strategy : Strategy) : Prop :=
  ∃ column stem modulus, strategy.columns = [column] ∧
    strategy.algorithm = .dynamicModulo stem modulus ∧
    strategy.algorithm.validate = .ok strategy.algorithm

end Strategy

namespace RoutingRequest

/-- Whether the conditions of a statement give a sharding value for a column of a table. -/
def Knows
    (request : RoutingRequest)
    (table column : String)
    (value : ShardingValue) : Prop :=
  ∃ condition, request.statement.conditions.find? ⟨column, table⟩ = some condition ∧
    condition.shardingValue request.parameters = .ok value

/-- Whether the conditions of a statement set every column of a strategy equal to a number. -/
def Fixes
    (request : RoutingRequest)
    (table : String)
    (strategy : Strategy)
    (number : Int64) : Prop :=
  ∀ column ∈ strategy.columns, ∃ value, request.Knows table column value ∧
    value.choice.IsExactly number

/-- Whether the conditions of a statement, as far as it has any, admit a number for every column of
a strategy. -/
def Admits
    (request : RoutingRequest)
    (table : String)
    (strategy : Strategy)
    (number : Int64) : Prop :=
  ∀ column ∈ strategy.columns, ∀ value, request.Knows table column value →
    value.choice.Admits number

/-- Whether the conditions of a statement make the targets of a strategy leave out a number. -/
def LeavesOut
    (request : RoutingRequest)
    (table : String)
    (strategy : Strategy)
    (number : Int64) : Prop :=
  ∃ stem modulus, strategy.algorithm = .dynamicModulo stem modulus ∧
    ∃ column ∈ strategy.columns, ∃ value, request.Knows table column value ∧
      value.choice.LeavesOut modulus number

theorem Knows.unique
    {request : RoutingRequest}
    {table column : String}
    {first second : ShardingValue}
    (knowsFirst : request.Knows table column first)
    (knowsSecond : request.Knows table column second) :
    first = second := by
  obtain ⟨condition, found, firstValue⟩ := knowsFirst
  obtain ⟨other, otherFound, secondValue⟩ := knowsSecond
  have same : condition = other := Option.some.inj (found.symm.trans otherFound)
  subst other
  exact Except.ok.inj (firstValue.symm.trans secondValue)

section ShardingValues

variable {request : RoutingRequest} {strategy : Strategy} {table : String}
variable {hinted : String → String → Option ShardingValue}
variable {values : List ShardingValue}

theorem shardingValues_eq_nil
    (noColumns : strategy.columns = [])
    (known : request.shardingValues strategy hinted table = .ok values) :
    values = [] := by
  unfold shardingValues at known
  rw [noColumns] at known
  exact (Except.ok.inj known).symm

/-- Without a hint, the only column of a strategy has the value of its condition, if there is
one. -/
theorem shardingValues_of_singleton
    (noHint : request.hint.isActive = false)
    {column : String}
    (onlyColumn : strategy.columns = [column])
    (known : request.shardingValues strategy hinted table = .ok values) :
    values = [] ∧ (∀ value, ¬ request.Knows table column value) ∨
      ∃ value, values = [value] ∧ request.Knows table column value := by
  unfold shardingValues at known
  rw [onlyColumn] at known
  obtain ⟨found, foundOk, rfl⟩ := Success.map_eq_ok.mp known
  obtain ⟨first, rfl, firstOk⟩ : ∃ first, found = [first] ∧
      request.columnValue hinted table column = .ok first := by
    cases Success.mapM_eq_ok.mp foundOk with
    | cons firstOk rest =>
        cases rest with
        | nil => exact ⟨_, rfl, firstOk⟩
  simp only [columnValue, noHint, Bool.false_eq_true, if_false] at firstOk
  split at firstOk
  next condition found =>
    obtain ⟨value, valueOk, rfl⟩ := Success.map_eq_ok.mp firstOk
    exact Or.inr ⟨value, rfl, condition, found, valueOk⟩
  next absent =>
    left
    cases Except.ok.inj firstOk
    refine ⟨rfl, ?_⟩
    rintro value ⟨condition, found, _⟩
    rw [absent] at found
    exact Option.some_ne_none condition found.symm

theorem shardingValues_of_knows
    (noHint : request.hint.isActive = false)
    {column : String}
    (onlyColumn : strategy.columns = [column])
    {value : ShardingValue}
    (knows : request.Knows table column value)
    (known : request.shardingValues strategy hinted table = .ok values) :
    values = [value] := by
  rcases shardingValues_of_singleton noHint onlyColumn known with ⟨_, unknown⟩ | ⟨_, rfl, other⟩
  · exact absurd knows (unknown value)
  · rw [other.unique knows]

end ShardingValues

/-- A number is left out by a statement when the value of the only column leaves it out. -/
theorem leavesOut_iff
    {request : RoutingRequest}
    {strategy : Strategy}
    {table column stem : String}
    {modulus : UInt64}
    (onlyColumn : strategy.columns = [column])
    (byModulo : strategy.algorithm = .dynamicModulo stem modulus)
    {value : ShardingValue}
    (knows : request.Knows table column value)
    (number : Int64) :
    request.LeavesOut table strategy number ↔ value.choice.LeavesOut modulus number := by
  constructor
  · rintro ⟨_, _, otherAlgorithm, otherColumn, otherMem, other, otherKnown, leavesOut⟩
    rw [byModulo] at otherAlgorithm
    cases otherAlgorithm
    rw [onlyColumn, List.mem_singleton] at otherMem
    subst otherColumn
    rw [knows.unique otherKnown]
    exact leavesOut
  · intro leavesOut
    exact ⟨stem, modulus, byModulo, column, by simp [onlyColumn], value, knows, leavesOut⟩

end RoutingRequest

namespace Strategy

theorem chooseAmong_nil
    {strategy : Strategy}
    {kind : StatementKind}
    {targets names : List String}
    (chosen : strategy.chooseAmong kind targets [] = .ok names) :
    names = NameSet.ofList targets := by
  unfold chooseAmong at chosen
  simp only [List.isEmpty_nil, if_true] at chosen
  split at chosen
  next => simp at chosen
  next => exact (Except.ok.inj chosen).symm

theorem chooseAmong_modulo
    {strategy : Strategy}
    {modulus : Option UInt64}
    (byModulo : strategy.algorithm = .modulo modulus)
    {kind : StatementKind}
    {targets names : List String}
    {value : ShardingValue}
    (chosen : strategy.chooseAmong kind targets [value] = .ok names) :
    ∃ found, Algorithm.chooseSingle (Algorithm.moduloChoice modulus) targets value = .ok found ∧
      names = NameSet.ofList found := by
  unfold chooseAmong at chosen
  simp only [List.isEmpty_cons, Bool.false_eq_true, if_false, byModulo] at chosen
  obtain ⟨found, foundOk, rfl⟩ := Success.map_eq_ok.mp chosen
  exact ⟨found, foundOk, rfl⟩

theorem chooseDynamic_dynamicModulo
    {strategy : Strategy}
    {stem : String}
    {modulus : UInt64}
    (byModulo : strategy.algorithm = .dynamicModulo stem modulus)
    {names : List String}
    {value : ShardingValue}
    (chosen : strategy.chooseDynamic [value] = .ok names) :
    ∃ found,
      Algorithm.chooseSingle (Algorithm.dynamicModuloChoice stem modulus) [] value = .ok found ∧
        names = NameSet.ofList found := by
  unfold chooseDynamic at chosen
  simp only [List.isEmpty_cons, Bool.false_eq_true, if_false, byModulo] at chosen
  obtain ⟨found, foundOk, rfl⟩ := Success.map_eq_ok.mp chosen
  exact ⟨found, foundOk, rfl⟩

end Strategy

section Rows

variable {insert query : RoutingRequest} {table : String} {number : Int64}
variable {insertHinted queryHinted : String → String → Option ShardingValue}
variable {strategy : Strategy}
variable {insertValues queryValues : List ShardingValue}

/-- A choice among listed targets keeps the one that a row was placed at. -/
theorem chooseAmong_keeps
    (listed : strategy.ChoosesListed)
    (insertNoHint : insert.hint.isActive = false)
    (queryNoHint : query.hint.isActive = false)
    (fixes : insert.Fixes table strategy number)
    (admits : query.Admits table strategy number)
    (insertKnown : insert.shardingValues strategy insertHinted table = .ok insertValues)
    (queryKnown : query.shardingValues strategy queryHinted table = .ok queryValues)
    {insertKind queryKind : StatementKind}
    {targets placed searched : List String}
    (placedOk : strategy.chooseAmong insertKind targets insertValues = .ok placed)
    (searchedOk : strategy.chooseAmong queryKind targets queryValues = .ok searched)
    {target : String}
    (member : target ∈ placed) :
    target ∈ searched := by
  rcases listed with noColumns | ⟨column, modulus, onlyColumn, byModulo⟩
  · rw [RoutingRequest.shardingValues_eq_nil noColumns insertKnown] at placedOk
    rw [RoutingRequest.shardingValues_eq_nil noColumns queryKnown] at searchedOk
    rw [Strategy.chooseAmong_nil placedOk] at member
    rw [Strategy.chooseAmong_nil searchedOk]
    exact member
  · have columnMem : column ∈ strategy.columns := by simp [onlyColumn]
    obtain ⟨fixed, fixedKnown, only, isSingle, standsFor⟩ := fixes column columnMem
    -- The fixed column leaves exactly one target for the row.
    have targetOk : Remainder.target modulus targets (.integer number) = .ok target := by
      rw [RoutingRequest.shardingValues_of_knows insertNoHint onlyColumn fixedKnown insertKnown]
        at placedOk
      obtain ⟨found, foundOk, rfl⟩ := Strategy.chooseAmong_modulo byModulo placedOk
      have member := NameSet.mem_of_mem_ofList member
      unfold Algorithm.chooseSingle at foundOk
      rw [isSingle] at foundOk
      obtain ⟨other, otherOk, rfl⟩ := Success.map_eq_ok.mp foundOk
      rw [List.mem_singleton.mp member]
      exact (Remainder.target_eq_ok_iff standsFor).mp otherOk
    rcases RoutingRequest.shardingValues_of_singleton queryNoHint onlyColumn queryKnown with
      ⟨rfl, _⟩ | ⟨value, rfl, known⟩
    · rw [Strategy.chooseAmong_nil searchedOk]
      exact NameSet.mem_ofList_of_first
        (Remainder.isChosen_of_target targetOk).find?_sameName
    · obtain ⟨found, foundOk, rfl⟩ := Strategy.chooseAmong_modulo byModulo searchedOk
      have reached := Algorithm.mem_chooseSingle_moduloChoice foundOk
        (admits column columnMem value known) targetOk
      apply NameSet.mem_ofList_of_unique reached
      intro other otherMem same
      exact (Algorithm.chooseSingle_moduloChoice_chosen foundOk otherMem).eq_of_sameName
        (Remainder.isChosen_of_target targetOk) same

/-- A choice of made-up targets keeps the one that a row was placed at, unless it leaves the row
out. -/
theorem chooseDynamic_keeps_iff
    (makesUp : strategy.MakesUp)
    (insertNoHint : insert.hint.isActive = false)
    (queryNoHint : query.hint.isActive = false)
    (fixes : insert.Fixes table strategy number)
    (admits : query.Admits table strategy number)
    (insertKnown : insert.shardingValues strategy insertHinted table = .ok insertValues)
    (queryKnown : query.shardingValues strategy queryHinted table = .ok queryValues)
    {placed searched : List String}
    (placedOk : strategy.chooseDynamic insertValues = .ok placed)
    (searchedOk : strategy.chooseDynamic queryValues = .ok searched)
    (reached : searched ≠ [])
    {target : String}
    (member : target ∈ placed) :
    target ∈ searched ↔ ¬ query.LeavesOut table strategy number := by
  obtain ⟨column, stem, modulus, onlyColumn, byModulo, valid⟩ := makesUp
  have columnMem : column ∈ strategy.columns := by simp [onlyColumn]
  have nonzero : modulus ≠ 0 := by
    rintro rfl
    rw [byModulo] at valid
    simp [Algorithm.validate] at valid
  obtain ⟨fixed, fixedKnown, only, isSingle, standsFor⟩ := fixes column columnMem
  have made : target = stem ++ toString (number.toInt % modulus.toInt64.toInt) := by
    rw [RoutingRequest.shardingValues_of_knows insertNoHint onlyColumn fixedKnown insertKnown]
      at placedOk
    obtain ⟨found, foundOk, rfl⟩ := Strategy.chooseDynamic_dynamicModulo byModulo placedOk
    have member := NameSet.mem_of_mem_ofList member
    unfold Algorithm.chooseSingle at foundOk
    rw [isSingle] at foundOk
    obtain ⟨other, otherOk, rfl⟩ := Success.map_eq_ok.mp foundOk
    obtain ⟨value, isValue, made⟩ := Remainder.dynamicTarget_eq_ok otherOk
    have equal : value = number := Option.some.inj (isValue.symm.trans standsFor)
    rw [List.mem_singleton.mp member, made, equal]
  rcases RoutingRequest.shardingValues_of_singleton queryNoHint onlyColumn queryKnown with
    ⟨rfl, _⟩ | ⟨value, rfl, known⟩
  · simp [Strategy.chooseDynamic] at searchedOk
  · obtain ⟨found, foundOk, rfl⟩ := Strategy.chooseDynamic_dynamicModulo byModulo searchedOk
    have someFound : found ≠ [] := by
      rintro rfl
      exact reached NameSet.ofList_nil
    have chosen := Algorithm.mem_chooseSingle_dynamicModuloChoice_iff nonzero foundOk someFound
      (admits column columnMem value known)
    -- All targets are made up from one stem, so that no other one has the same name.
    have kept : target ∈ NameSet.ofList found ↔ target ∈ found := by
      refine ⟨NameSet.mem_of_mem_ofList, fun foundMem => ?_⟩
      apply NameSet.mem_ofList_of_unique foundMem
      intro other otherMem same
      obtain ⟨otherNumber, otherMade⟩ :=
        Algorithm.chooseSingle_dynamicModuloChoice_made foundOk otherMem
      rw [made, otherMade] at same ⊢
      rw [Remainder.eq_of_sameName_remainder nonzero same]
    rw [kept, made, chosen, RoutingRequest.leavesOut_iff onlyColumn byModulo known]

end Rows

namespace RoutingRequest

theorem refuseEmpty_eq_ok
    {error : Error}
    {names found : List String}
    (succeeded : refuseEmpty error names = .ok found) :
    found = names ∧ names ≠ [] := by
  unfold refuseEmpty at succeeded
  split at succeeded
  next => simp at succeeded
  next nonempty =>
    refine ⟨(Except.ok.inj succeeded).symm, ?_⟩
    rintro rfl
    exact nonempty rfl

theorem dataSourcesFor_eq_ok
    {request : RoutingRequest}
    {table : String}
    {tableRule : TableRule}
    {names : List String}
    (succeeded : request.dataSourcesFor table tableRule = .ok names) :
    ∃ values,
      request.shardingValues (request.rule.databaseStrategyOf tableRule)
          request.hint.databaseValue? table = .ok values ∧
        (request.rule.databaseStrategyOf tableRule).chooseAmong request.statement.kind
          tableRule.dataSources values = .ok names := by
  unfold dataSourcesFor at succeeded
  obtain ⟨values, known, succeeded⟩ := Success.bind_eq_ok.mp succeeded
  obtain ⟨chosen, chosenOk, succeeded⟩ := Success.bind_eq_ok.mp succeeded
  obtain ⟨rfl, _⟩ := refuseEmpty_eq_ok succeeded
  exact ⟨values, known, chosenOk⟩

theorem tablesFor_eq_ok
    {request : RoutingRequest}
    {table dataSource : String}
    {tableRule : TableRule}
    {names : List String}
    (succeeded : request.tablesFor table tableRule dataSource = .ok names) :
    names ≠ [] ∧ ∃ values,
      request.shardingValues (request.rule.tableStrategyOf tableRule)
          request.hint.tableValue? table = .ok values ∧
        (if tableRule.isDynamic then
            (request.rule.tableStrategyOf tableRule).chooseDynamic values
          else
            (request.rule.tableStrategyOf tableRule).chooseAmong request.statement.kind
              (tableRule.tablesOn dataSource) values) = .ok names := by
  unfold tablesFor at succeeded
  obtain ⟨values, known, succeeded⟩ := Success.bind_eq_ok.mp succeeded
  cases dynamic : tableRule.isDynamic with
  | true =>
      simp only [dynamic, if_true] at succeeded
      obtain ⟨chosen, chosenOk, succeeded⟩ := Success.bind_eq_ok.mp succeeded
      obtain ⟨rfl, nonempty⟩ := refuseEmpty_eq_ok succeeded
      exact ⟨nonempty, values, known, chosenOk⟩
  | false =>
      simp only [dynamic, Bool.false_eq_true, if_false] at succeeded
      obtain ⟨chosen, chosenOk, succeeded⟩ := Success.bind_eq_ok.mp succeeded
      obtain ⟨rfl, nonempty⟩ := refuseEmpty_eq_ok succeeded
      exact ⟨nonempty, values, known, chosenOk⟩

/-- The units of a table are its tables on each of its data sources. -/
theorem mem_routeTable
    {request : RoutingRequest}
    {table : String}
    {tableRule : TableRule}
    (ruled : request.rule.tableRule table = .ok tableRule)
    {units : TableUnits}
    (routed : request.routeTable table = .ok units) :
    ∃ dataSources, request.dataSourcesFor table tableRule = .ok dataSources ∧
      (∀ dataSource ∈ dataSources, ∃ tables,
        request.tablesFor table tableRule dataSource = .ok tables) ∧
      ∀ unit, unit ∈ units.toList ↔
        ∃ dataSource ∈ dataSources, ∃ tables,
          request.tablesFor table tableRule dataSource = .ok tables ∧
            ∃ actualTable ∈ tables, unit = ⟨dataSource, tableRule.logicTable, actualTable⟩ := by
  unfold routeTable at routed
  obtain ⟨other, otherOk, routed⟩ := Success.bind_eq_ok.mp routed
  cases Except.ok.inj (ruled.symm.trans otherOk)
  obtain ⟨dataSources, dataSourcesOk, routed⟩ := Success.bind_eq_ok.mp routed
  obtain ⟨groups, groupsOk, routed⟩ := Success.bind_eq_ok.mp routed
  cases Except.ok.inj routed
  refine ⟨dataSources, dataSourcesOk, ?_, ?_⟩
  · intro dataSource member
    obtain ⟨group, _, groupOk⟩ := Success.exists_output_of_mem groupsOk member
    obtain ⟨tables, tablesOk, _⟩ := Success.map_eq_ok.mp groupOk
    exact ⟨tables, tablesOk⟩
  · intro unit
    rw [TableUnits.mem_ofList, List.mem_flatten]
    constructor
    · rintro ⟨group, groupMem, unitMem⟩
      obtain ⟨dataSource, dataSourceMem, groupOk⟩ :=
        Success.exists_input_of_mem groupsOk groupMem
      obtain ⟨tables, tablesOk, rfl⟩ := Success.map_eq_ok.mp groupOk
      obtain ⟨actualTable, tableMem, rfl⟩ := List.mem_map.mp unitMem
      exact ⟨dataSource, dataSourceMem, tables, tablesOk, actualTable, tableMem, rfl⟩
    · rintro ⟨dataSource, dataSourceMem, tables, tablesOk, actualTable, tableMem, rfl⟩
      obtain ⟨group, groupMem, groupOk⟩ :=
        Success.exists_output_of_mem groupsOk dataSourceMem
      obtain ⟨others, othersOk, rfl⟩ := Success.map_eq_ok.mp groupOk
      cases Except.ok.inj (tablesOk.symm.trans othersOk)
      exact ⟨_, groupMem, List.mem_map_of_mem tableMem⟩

/-- The tables of a data source keep the one that a row was placed at, unless they leave the row
out. -/
theorem mem_tablesFor_iff
    {insert query : RoutingRequest}
    (sameRule : query.rule = insert.rule)
    (insertNoHint : insert.hint.isActive = false)
    (queryNoHint : query.hint.isActive = false)
    {table dataSource : String}
    {tableRule : TableRule}
    (shape : if tableRule.isDynamic then (insert.rule.tableStrategyOf tableRule).MakesUp
      else (insert.rule.tableStrategyOf tableRule).ChoosesListed)
    {number : Int64}
    (fixes : insert.Fixes table (insert.rule.tableStrategyOf tableRule) number)
    (admits : query.Admits table (insert.rule.tableStrategyOf tableRule) number)
    {placed searched : List String}
    (placedOk : insert.tablesFor table tableRule dataSource = .ok placed)
    (searchedOk : query.tablesFor table tableRule dataSource = .ok searched)
    {target : String}
    (member : target ∈ placed) :
    target ∈ searched ↔
      ¬ query.LeavesOut table (insert.rule.tableStrategyOf tableRule) number := by
  obtain ⟨_, insertValues, insertKnown, placedOk⟩ := tablesFor_eq_ok placedOk
  obtain ⟨reached, queryValues, queryKnown, searchedOk⟩ := tablesFor_eq_ok searchedOk
  rw [sameRule] at queryKnown searchedOk
  cases dynamic : tableRule.isDynamic with
  | true =>
      simp only [dynamic, if_true] at shape placedOk searchedOk
      exact chooseDynamic_keeps_iff shape insertNoHint queryNoHint fixes admits insertKnown
        queryKnown placedOk searchedOk reached member
  | false =>
      simp only [dynamic, Bool.false_eq_true, if_false] at shape placedOk searchedOk
      refine iff_of_true ?_ ?_
      · exact chooseAmong_keeps shape insertNoHint queryNoHint fixes admits insertKnown
          queryKnown placedOk searchedOk member
      · rintro ⟨stem, modulus, byDynamic, column, columnMem, _⟩
        rcases shape with noColumns | ⟨_, _, _, byModulo⟩
        · simp [noColumns] at columnMem
        · rw [byModulo] at byDynamic
          cases byDynamic

/-- **A row is looked for where it was placed.**  Let the strategies of a table choose by
remainders.  A statement that fixes the row's numbers places it at some units, and a statement that
admits them runs at each of these units, except when its range of values leaves the row out. -/
theorem mem_routeTable_iff_not_leavesOut
    {insert query : RoutingRequest}
    (sameRule : query.rule = insert.rule)
    (insertNoHint : insert.hint.isActive = false)
    (queryNoHint : query.hint.isActive = false)
    {table : String}
    {tableRule : TableRule}
    (ruled : insert.rule.tableRule table = .ok tableRule)
    (databaseShape : (insert.rule.databaseStrategyOf tableRule).ChoosesListed)
    (tableShape : if tableRule.isDynamic then (insert.rule.tableStrategyOf tableRule).MakesUp
      else (insert.rule.tableStrategyOf tableRule).ChoosesListed)
    {databaseNumber tableNumber : Int64}
    (fixesDatabase :
      insert.Fixes table (insert.rule.databaseStrategyOf tableRule) databaseNumber)
    (fixesTable : insert.Fixes table (insert.rule.tableStrategyOf tableRule) tableNumber)
    (admitsDatabase :
      query.Admits table (insert.rule.databaseStrategyOf tableRule) databaseNumber)
    (admitsTable : query.Admits table (insert.rule.tableStrategyOf tableRule) tableNumber)
    {placed searched : TableUnits}
    (placedOk : insert.routeTable table = .ok placed)
    (searchedOk : query.routeTable table = .ok searched)
    {unit : TableUnit}
    (member : unit ∈ placed.toList) :
    unit ∈ searched.toList ↔
      ¬ query.LeavesOut table (insert.rule.tableStrategyOf tableRule) tableNumber := by
  have queryRuled : query.rule.tableRule table = .ok tableRule := by rw [sameRule, ruled]
  obtain ⟨placedSources, placedSourcesOk, _, mem_placed⟩ := mem_routeTable ruled placedOk
  obtain ⟨searchedSources, searchedSourcesOk, tablesOk, mem_searched⟩ :=
    mem_routeTable queryRuled searchedOk
  obtain ⟨dataSource, dataSourceMem, placedTables, placedTablesOk, actualTable, tableMem, rfl⟩ :=
    (mem_placed unit).mp member
  have dataSourceKept : dataSource ∈ searchedSources := by
    obtain ⟨insertValues, insertKnown, insertChosen⟩ := dataSourcesFor_eq_ok placedSourcesOk
    obtain ⟨queryValues, queryKnown, queryChosen⟩ := dataSourcesFor_eq_ok searchedSourcesOk
    rw [sameRule] at queryKnown queryChosen
    exact chooseAmong_keeps databaseShape insertNoHint queryNoHint fixesDatabase admitsDatabase
      insertKnown queryKnown insertChosen queryChosen dataSourceMem
  obtain ⟨searchedTables, searchedTablesOk⟩ := tablesOk dataSource dataSourceKept
  have kept := mem_tablesFor_iff sameRule insertNoHint queryNoHint tableShape fixesTable
    admitsTable placedTablesOk searchedTablesOk tableMem
  rw [← kept, mem_searched]
  constructor
  · rintro ⟨otherSource, _, tables, otherOk, otherTable, otherMem, equal⟩
    cases equal
    cases Except.ok.inj (searchedTablesOk.symm.trans otherOk)
    exact otherMem
  · intro tableKept
    exact ⟨dataSource, dataSourceKept, searchedTables, searchedTablesOk, actualTable, tableKept,
      rfl⟩

/-- The declared rule of a log whose rows are placed by user and, under a modulus that no signed
integer reaches, by number. -/
def logTableConfig : TableConfig :=
  { logicTable := "t_log"
    isDynamic := true
    actualTables := []
    dataSources := []
    databaseStrategy := some ⟨["user"], .modulo none⟩
    tableStrategy := some ⟨["id"], .dynamicModulo "t_log_" 18446744073709551606⟩
    keyColumn := none
    worker := none }

/-- The declared rule for the log alone. -/
def logConfig : RuleConfig :=
  { dataSources := ["ds_0", "ds_1"]
    defaultDataSource := none
    tables := [logTableConfig]
    bindingGroups := []
    databaseStrategy := none
    tableStrategy := none
    worker := none }

/-- The rule of the log's table. -/
def logTable : TableRule :=
  { logicTable := "t_log"
    isDynamic := true
    nodes := [.dynamic "ds_0", .dynamic "ds_1"]
    databaseStrategy := some ⟨["user"], .modulo none⟩
    tableStrategy := some ⟨["id"], .dynamicModulo "t_log_" 18446744073709551606⟩
    keyColumn := none
    keyGenerator := none }

/-- The rule for the log alone. -/
def logRule : Rule :=
  { dataSources := ["ds_0", "ds_1"]
    defaultDataSource := none
    tables := [logTable]
    bindingGroups := []
    databaseStrategy := none
    tableStrategy := none
    keyGenerator := none }

theorem logConfig_build : logConfig.build = .ok logRule := by
  have databaseStrategy : StrategyConfig.build ⟨["user"], .modulo none⟩ =
      .ok ⟨["user"], .modulo none⟩ := by
    simp [StrategyConfig.build, Algorithm.validate, Algorithm.arity, Strategy.ofColumns, bind,
      Except.bind]
  have tableStrategy : StrategyConfig.build ⟨["id"], .dynamicModulo "t_log_" 18446744073709551606⟩ =
      .ok ⟨["id"], .dynamicModulo "t_log_" 18446744073709551606⟩ := by
    simp [StrategyConfig.build, Algorithm.validate, Algorithm.arity, Strategy.ofColumns, bind,
      Except.bind]
  have named : (Text.trim "t_log").isEmpty = false := by cbv
  have tableRule : logTableConfig.build ["ds_0", "ds_1"] = .ok logTable := by
    simp [TableConfig.build, logTableConfig, StrategyConfig.buildOptional, databaseStrategy,
      tableStrategy, KeyGenerator.ofOptionalWorker, Except.map, bind, Except.bind,
      TableDeclaration.build, TableDeclaration.nodes, TableDeclaration.dynamicNodes, named,
      logTable]
  have checked : RuleDeclaration.checkTables ["ds_0", "ds_1"] [] [logTable] = .ok () := rfl
  simp [RuleConfig.build, logConfig, StrategyConfig.buildOptional, tableRule,
    KeyGenerator.ofOptionalWorker, bind, Except.bind, pure, Except.pure, RuleDeclaration.build,
    RuleDeclaration.chosenDefault, checked, logRule]

/-- The condition that restricts a column of the log by an operator and numbers. -/
def logCondition
    (column : String)
    (operator : ConditionOperator)
    (numbers : List Int64) : Condition :=
  ⟨⟨column, "t_log"⟩, operator, numbers.map fun number => .number (.integer number)⟩

/-- A statement on the log with conditions, without parameters and without a hint. -/
def logRequest
    (kind : StatementKind)
    (conditions : List Condition) : RoutingRequest :=
  { rule := logRule
    parameters := []
    statement := { kind := kind, conditions := ⟨conditions⟩ }
    hint := {} }

/-- The row of user 7 with a number. -/
def logInsert (number : Int64) : RoutingRequest :=
  logRequest .insert [logCondition "user" .equal [7], logCondition "id" .equal [number]]

/-- A query for two users and for all numbers up to 26. -/
def logQuery : RoutingRequest :=
  logRequest .select
    [logCondition "user" .among [3, 7], logCondition "id" .between [Int64.minValue, 26]]

theorem logInsert_fixes (number : Int64) :
    (logInsert number).Fixes "t_log" ⟨["user"], .modulo none⟩ 7 ∧
      (logInsert number).Fixes "t_log"
        ⟨["id"], .dynamicModulo "t_log_" 18446744073709551606⟩ number := by
  constructor
  · intro column member
    rw [List.mem_singleton.mp member]
    exact ⟨⟨"t_log", "user", .single (.integer 7)⟩, ⟨_, rfl, rfl⟩, _, rfl, rfl⟩
  · intro column member
    rw [List.mem_singleton.mp member]
    exact ⟨⟨"t_log", "id", .single (.integer number)⟩, ⟨_, by cbv, rfl⟩, _, rfl, rfl⟩

theorem logQuery_admits
    {number : Int64}
    (small : number.toInt ≤ 26) :
    logQuery.Admits "t_log" ⟨["user"], .modulo none⟩ 7 ∧
      logQuery.Admits "t_log"
        ⟨["id"], .dynamicModulo "t_log_" 18446744073709551606⟩ number := by
  constructor
  · intro column member value known
    rw [List.mem_singleton.mp member] at known
    have listed : logQuery.Knows "t_log" "user"
        ⟨"t_log", "user", .list [.integer 3, .integer 7]⟩ := ⟨_, rfl, rfl⟩
    rw [known.unique listed]
    exact ⟨.integer 7, by simp, rfl⟩
  · intro column member value known
    rw [List.mem_singleton.mp member] at known
    have ranged : logQuery.Knows "t_log" "id"
        ⟨"t_log", "id", .range (.integer Int64.minValue) (.integer 26)⟩ := ⟨_, by cbv, rfl⟩
    rw [known.unique ranged]
    exact ⟨Int64.minValue, 26, rfl, rfl, number.minValue_le_toInt, small⟩

/-- Number 12 leaves the remainder of the smallest integer, so that its row is found. -/
theorem row_found_beyond_signed_modulus :
    logConfig.build = .ok logRule ∧
      ∃ placed searched unit,
        (logInsert 12).routeTable "t_log" = .ok placed ∧
          logQuery.routeTable "t_log" = .ok searched ∧
          unit ∈ placed.toList ∧ unit ∈ searched.toList := by
  have placedOk : (logInsert 12).routeTable "t_log" =
      .ok ⟨[⟨"ds_1", "t_log", "t_log_2"⟩]⟩ := by cbv
  have searchedOk : logQuery.routeTable "t_log" =
      .ok ⟨[⟨"ds_1", "t_log", "t_log_2"⟩]⟩ := by cbv
  have ruled : logRule.tableRule "t_log" = .ok logTable := by cbv
  have fixes := logInsert_fixes 12
  have admits := logQuery_admits (show (12 : Int64).toInt ≤ 26 by decide)
  have makesUp : (logRule.tableStrategyOf logTable).MakesUp := by
    refine ⟨"id", "t_log_", 18446744073709551606, rfl, rfl, ?_⟩
    simp [Rule.tableStrategyOf, logTable, Algorithm.validate]
  refine ⟨logConfig_build, _, _, ⟨"ds_1", "t_log", "t_log_2"⟩, placedOk, searchedOk,
    List.mem_cons_self, ?_⟩
  have sameRule : logQuery.rule = (logInsert 12).rule := rfl
  have found := mem_routeTable_iff_not_leavesOut sameRule rfl rfl ruled
    (Or.inr ⟨"user", none, rfl, rfl⟩) makesUp fixes.1 fixes.2 admits.1 admits.2 placedOk
    searchedOk List.mem_cons_self
  rw [found]
  rintro ⟨stem, modulus, byDynamic, column, member, value, known, leavesOut⟩
  obtain ⟨rfl, rfl⟩ : "t_log_" = stem ∧ 18446744073709551606 = modulus := by
    simpa [Rule.tableStrategyOf, logTable] using byDynamic
  exact leavesOut.2.2 (by decide)

/-- Number 5 leaves another remainder than the smallest integer, so that its row is missed. -/
theorem row_missed_beyond_signed_modulus :
    logConfig.build = .ok logRule ∧
      (logInsert 5).Fixes "t_log" (logRule.databaseStrategyOf logTable) 7 ∧
      (logInsert 5).Fixes "t_log" (logRule.tableStrategyOf logTable) 5 ∧
      logQuery.Admits "t_log" (logRule.databaseStrategyOf logTable) 7 ∧
      logQuery.Admits "t_log" (logRule.tableStrategyOf logTable) 5 ∧
      ∃ placed searched unit,
        (logInsert 5).routeTable "t_log" = .ok placed ∧
          logQuery.routeTable "t_log" = .ok searched ∧
          unit ∈ placed.toList ∧ unit ∉ searched.toList := by
  have placedOk : (logInsert 5).routeTable "t_log" =
      .ok ⟨[⟨"ds_1", "t_log", "t_log_5"⟩]⟩ := by cbv
  have searchedOk : logQuery.routeTable "t_log" =
      .ok ⟨[⟨"ds_1", "t_log", "t_log_2"⟩]⟩ := by cbv
  have fixes := logInsert_fixes 5
  have admits := logQuery_admits (show (5 : Int64).toInt ≤ 26 by decide)
  refine ⟨logConfig_build, fixes.1, fixes.2, admits.1, admits.2, _, _,
    ⟨"ds_1", "t_log", "t_log_5"⟩, placedOk, searchedOk, List.mem_cons_self, ?_⟩
  simp

end RoutingRequest

end ShardedSql
