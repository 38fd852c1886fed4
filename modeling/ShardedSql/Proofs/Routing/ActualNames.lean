import ShardedSql.Proofs.Rendering.Respelling
import ShardedSql.Proofs.Routing.DataNodes
import ShardedSql.Proofs.Text.LetterCase

/-!
# Names of actual tables

An actual table of a logic table is one of its data nodes, or its strategy makes up the name.  The text for a
unit of a single table writes the name of this unit, and no other one.
-/

namespace ShardedSql

namespace Rule

variable {rule : Rule} {tableRule : TableRule} {dialect : Dialect} {name : String}

/-- Whether a name may be that of an actual table: the name of a data node, or one that the strategy of the
table chooses. -/
inductive MayUse (rule : Rule) (tableRule : TableRule) : String → Prop where
  | node
      {node : DataNode}
      (isNode : node ∈ tableRule.nodes)
      (static : tableRule.isDynamic = false) :
      MayUse rule tableRule node.table
  | chosen
      (dataSource : String)
      {name : String}
      {values : List ShardingValue}
      {names : List String}
      (isChosen : (rule.tableStrategyOf tableRule).algorithm.choose
        (if tableRule.isDynamic then [] else tableRule.tablesOn dataSource) values = .ok names)
      (isAmong : name ∈ names) :
      MayUse rule tableRule name

/-- Whether the names of a table in a rule may be written without quotes: that of its key column, and those of
its actual tables. -/
structure NamesBarely
    (rule : Rule)
    (dialect : Dialect)
    (table : String) : Prop where
  column : ∀ name, rule.keyColumn? table = some name → Lexer.isPlainWord name.toList = true
  tables : ∀ tableRule, rule.findTable? table = some tableRule →
    ∀ name, rule.MayUse tableRule name → IsBareName dialect name

/-- A name that is made up by a stem and a remainder is a word, and not a single letter. -/
theorem isBareName_append_remainder
    {stem : String}
    {modulus : UInt64}
    (isStem : Lexer.isPlainWord stem.toList = true)
    (nonzero : modulus ≠ 0)
    (number : Int64) :
    IsBareName dialect (stem ++ toString (number.toInt % modulus.toInt64.toInt)) := by
  have digits : AllDigits (toString (number.toInt % modulus.toInt64.toInt)).toList :=
    AllDigits.toString_of_nonneg (Int.emod_nonneg _ (Remainder.toInt64_toInt_ne_zero nonzero))
  obtain ⟨digit, others, isWritten, -⟩ := Lexer.exists_isNumeral (number.toInt % modulus.toInt64.toInt)
  obtain ⟨first, rest, split, starts, isBare, continues⟩ := Lexer.exists_of_isPlainWord isStem
  constructor
  · rw [String.toList_append, split, List.cons_append]
    simp only [Lexer.isPlainWord, starts, Bool.true_and, Bool.and_eq_true, bne_iff_ne, List.all_eq_true]
    refine ⟨isBare, fun character isThere => ?_⟩
    rcases List.mem_append.mp isThere with isRest | isDigit
    · exact continues character isRest
    · simp [Lexer.isNameCharacter, Char.isAlphanum, digits character isDigit]
  · intro _ isLetter
    have characters := congrArg String.toList isLetter
    rw [String.toList_append, split, isWritten] at characters
    simp at characters

/-- The names that a built-in strategy uses may be written without quotes, if those of the data nodes and its
stem may. -/
theorem MayUse.isBareName
    (uses : rule.MayUse tableRule name)
    (builtIn : (rule.tableStrategyOf tableRule).algorithm.isBuiltIn = true)
    (valid : (rule.tableStrategyOf tableRule).algorithm.validate =
      .ok (rule.tableStrategyOf tableRule).algorithm)
    (nodes : ∀ node ∈ tableRule.nodes, IsBareName dialect node.table)
    (stems : ∀ stem modulus, (rule.tableStrategyOf tableRule).algorithm = .dynamicModulo stem modulus →
      Lexer.isPlainWord stem.toList = true) :
    IsBareName dialect name := by
  cases uses with
  | node isNode => exact nodes _ isNode
  | @chosen dataSource name values names isChosen isAmong =>
      have listed : (rule.tableStrategyOf tableRule).algorithm.TakesListed → IsBareName dialect name := by
        intro takes
        have isTarget := takes.mem isChosen isAmong
        split at isTarget
        · cases isTarget
        · obtain ⟨node, isNode, -, rfl⟩ := TableRule.mem_tablesOn.mp isTarget
          exact nodes node isNode
      generalize (rule.tableStrategyOf tableRule).algorithm = algorithm at *
      cases algorithm with
      | firstTarget => exact listed (.inl rfl)
      | modulo modulus => exact listed (.inr ⟨modulus, rfl⟩)
      | dynamicModulo stem modulus =>
          have nonzero : modulus ≠ 0 := by
            rintro rfl
            simp [Algorithm.validate] at valid
          obtain ⟨value, -, isMade⟩ := Success.bind_eq_ok.mp isChosen
          obtain ⟨number, rfl⟩ := Algorithm.chooseSingle_dynamicModuloChoice_made isMade isAmong
          exact isBareName_append_remainder (stems stem modulus rfl) nonzero number
      | ofNoKey => cases builtIn
      | ofSingleKey => cases builtIn
      | ofKeys => cases builtIn

end Rule

namespace RoutingRequest

variable {request : RoutingRequest} {table : String} {tableRule : TableRule} {units : TableUnits}

/-- A table runs on actual tables that its rule may use. -/
theorem mayUse_of_mem_routeTable
    (ruled : request.rule.tableRule table = .ok tableRule)
    (routed : request.routeTable table = .ok units)
    {unit : TableUnit}
    (isUnit : unit ∈ units.toList) :
    unit.logicTable = tableRule.logicTable ∧ request.rule.MayUse tableRule unit.actualTable := by
  obtain ⟨dataSources, -, -, mem_units⟩ := mem_routeTable ruled routed
  obtain ⟨dataSource, -, tables, tablesOk, actualTable, isTable, rfl⟩ := (mem_units unit).mp isUnit
  refine ⟨rfl, ?_⟩
  obtain ⟨-, values, -, chosen⟩ := tablesFor_eq_ok tablesOk
  cases isDynamic : tableRule.isDynamic with
  | true =>
      rw [isDynamic, if_pos rfl, Strategy.chooseDynamic] at chosen
      split at chosen
      next => cases chosen
      next =>
        obtain ⟨names, isChosen, rfl⟩ := Success.map_eq_ok.mp chosen
        exact .chosen dataSource (by rwa [isDynamic, if_pos rfl]) (NameSet.mem_of_mem_ofList isTable)
  | false =>
      rw [isDynamic, if_neg Bool.false_ne_true, Strategy.chooseAmong] at chosen
      split at chosen
      next =>
        split at chosen
        next => cases chosen
        next =>
          cases Except.ok.inj chosen
          obtain ⟨node, isNode, -, rfl⟩ := TableRule.mem_tablesOn.mp (NameSet.mem_of_mem_ofList isTable)
          exact .node isNode isDynamic
      next =>
        obtain ⟨names, isChosen, rfl⟩ := Success.map_eq_ok.mp chosen
        exact .chosen dataSource (by rwa [isDynamic, if_neg Bool.false_ne_true]) (NameSet.mem_of_mem_ofList isTable)

end RoutingRequest

namespace RenderRequest

variable {request : RenderRequest} {table : String} {unit : TableUnit} {names : TableNames}

/-- For a unit of a single table, nothing but the name of its actual table is filled in. -/
theorem tableNames_of_single
    (onlyTable : request.statement.tables.names = [table])
    (isFor : Text.sameName unit.logicTable table = true)
    (isNamed : unit.logicTable.isEmpty = false) :
    request.tableNames [unit] = .ok [(Text.lowerCase table, unit.actualTable)] := by
  have isUnit : ([unit].filter fun unit => !unit.logicTable.isEmpty) = [unit] := by simp [isNamed]
  have routed : routedNames [unit] = [(Text.lowerCase table, unit.actualTable)] := by
    rw [← Text.lowerCase_eq_of_sameName isFor]
    rfl
  have isKnown : (TableNames.find? [(Text.lowerCase table, unit.actualTable)]
      (Text.lowerCase table)).isSome = true := by
    simp [TableNames.find?]
  have noPartner : request.addPartners [(Text.lowerCase table, unit.actualTable)] unit =
      .ok [(Text.lowerCase table, unit.actualTable)] := by
    unfold addPartners
    split
    next group _ => simp [onlyTable, addPartner, isKnown, pure, Except.pure, bind, Except.bind]
    next => rfl
  rw [tableNames, isUnit, routed, List.foldlM_cons, noPartner]
  rfl

/-- The only name for a unit of a single table is that of its actual table. -/
theorem names_of_single
    (onlyTable : request.statement.tables.names = [table])
    (isFor : Text.sameName unit.logicTable table = true)
    (named : request.tableNames [unit] = .ok names) :
    ∀ entry ∈ names, entry.2 = unit.actualTable := by
  cases isEmpty : unit.logicTable.isEmpty with
  | true =>
      have noUnit : ([unit].filter fun unit => !unit.logicTable.isEmpty) = [] := by simp [isEmpty]
      rw [tableNames, noUnit] at named
      cases named
      nofun
  | false =>
      rw [tableNames_of_single onlyTable isFor isEmpty] at named
      cases named
      exact List.forall_mem_singleton.mpr rfl

end RenderRequest

end ShardedSql
