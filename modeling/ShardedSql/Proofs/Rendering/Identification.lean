import ShardedSql.Proofs.Rendering.Splicing
import ShardedSql.Proofs.Routing.Labelling
import ShardedSql.Proofs.Routing.Partners
import ShardedSql.Proofs.Text.LetterCase

/-!
# Which table a marker is taken for

A rule compares the names of tables in any case of their ASCII letters.  What is filled in at a marker is
looked up by the name in lower case, which follows all of Unicode.  The main statement says what is filled
in, and that it is the table which the rule finds whenever lower case makes no two of the tables alike that
the rule tells apart.  Names of ASCII characters are never made alike; the names `é` and `É` are.
-/

namespace ShardedSql

namespace Text

theorem lowerCharacters_of_ascii
    {characters : List Char}
    (areAscii : ∀ character ∈ characters, character.toNat < 128)
    (before : List Char) :
    lowerCharacters before characters = characters.map Char.toLower := by
  induction characters generalizing before with
  | nil => rfl
  | cons character characters ih =>
      obtain ⟨isAscii, areOthers⟩ := List.forall_mem_cons.mp areAscii
      have isNoSigma : character ≠ 'Σ' := by rintro rfl; revert isAscii; decide
      have isNotDotted : character ≠ 'İ' := by rintro rfl; revert isAscii; decide
      have lowered : lowerCharacter character = character.toLower := if_pos isAscii
      rw [lowerCharacters, if_neg isNoSigma, if_neg isNotDotted, ih areOthers, lowered]
      rfl

/-- Lower case tells names of ASCII characters apart just as the comparison of names does. -/
theorem sameName_of_lowerCase_eq
    {first second : String}
    (firstAscii : (first.toList.all fun character => character.toNat < 128) = true)
    (secondAscii : (second.toList.all fun character => character.toNat < 128) = true)
    (equal : lowerCase first = lowerCase second) :
    sameName first second = true := by
  rw [List.all_iff_forall_prop] at firstAscii secondAscii
  rw [sameName_iff, foldAscii, foldAscii, ← lowerCharacters_of_ascii firstAscii [],
    ← lowerCharacters_of_ascii secondAscii []]
  exact String.ofList_injective equal

end Text

/-- The partner of an actual table is found for a table in any letter case. -/
theorem BindingGroup.partner_congr
    {group : BindingGroup}
    {dataSource otherActualTable actualTable first second : String}
    (same : Text.sameName first second = true)
    (isPartner : group.partner dataSource first otherActualTable = .ok actualTable) :
    group.partner dataSource second otherActualTable = .ok actualTable := by
  unfold partner at isPartner ⊢
  obtain ⟨index, found, taken⟩ := Success.bind_eq_ok.mp isPartner
  refine Success.bind_eq_ok.mpr ⟨index, found, ?_⟩
  cases index with
  | none => cases taken
  | some index =>
      dsimp only at taken ⊢
      rw [← TableRule.find?_isFor_congr group.tables same]
      split at taken
      next => exact taken
      next => cases taken

namespace RenderRequest

/-- The units that stand for a logic table. -/
def tableUnits (units : List TableUnit) : List TableUnit :=
  units.filter fun unit => !unit.logicTable.isEmpty

variable (request : RenderRequest)

/-- Whether a table is bound to the table of a unit. -/
def Binds (unit : TableUnit) (table : String) : Prop :=
  ∃ group, request.rule.findGroup? unit.logicTable = some group ∧ group.contains table = true

/-- Whether an actual table of some table is the partner of the actual table of a unit. -/
def IsPartner (unit : TableUnit) (table actualTable : String) : Prop :=
  ∃ group, request.rule.findGroup? unit.logicTable = some group ∧
    group.partner unit.dataSource table unit.actualTable = .ok actualTable

/-- What is looked up for a name in lower case: the actual table of the last unit whose table this is; for a
table of the statement that is bound to the table of a unit, the partner of the unit's actual table; or
nothing. -/
inductive Supplies (units : List TableUnit) (key : String) : Option String → Prop
  | routed
      {earlier later : List TableUnit}
      {unit : TableUnit}
      (split : units = earlier ++ unit :: later)
      (isAlike : Text.lowerCase unit.logicTable = key)
      (isLast : ∀ other ∈ later, Text.lowerCase other.logicTable ≠ key) :
      Supplies units key (some unit.actualTable)
  | bound
      {unit : TableUnit}
      {table actualTable : String}
      (isUnrouted : ∀ unit ∈ units, Text.lowerCase unit.logicTable ≠ key)
      (isUnit : unit ∈ units)
      (isTable : table ∈ request.statement.tables.names)
      (isAlike : Text.lowerCase table = key)
      (isBound : request.Binds unit table)
      (isPartner : request.IsPartner unit table actualTable) :
      Supplies units key (some actualTable)
  | nothing
      (isUnrouted : ∀ unit ∈ units, Text.lowerCase unit.logicTable ≠ key)
      (isUnbound : ∀ unit ∈ units, ∀ table ∈ request.statement.tables.names,
        Text.lowerCase table = key → ¬ request.Binds unit table) :
      Supplies units key none

/-- Whether what is filled in for a table is what the rule says.  A unit of this table fills in its actual
table; without one, a table of the statement that is bound to the table of a unit gets a partner of the actual
table of such a unit; and without either, the table stays as it is written. -/
structure Identifies (units : List TableUnit) (written filled : String) : Prop where
  routed : ∀ unit ∈ units, Text.sameName unit.logicTable (unquoteName written) = true →
    filled = Template.requote written unit.actualTable
  bound : (∀ unit ∈ units, Text.sameName unit.logicTable (unquoteName written) = false) →
    Text.holdsName request.statement.tables.names (unquoteName written) = true →
    (∃ unit ∈ units, request.Binds unit (unquoteName written)) →
    ∃ unit ∈ units, ∃ actualTable, request.IsPartner unit (unquoteName written) actualTable ∧
      filled = Template.requote written actualTable
  kept : (∀ unit ∈ units, Text.sameName unit.logicTable (unquoteName written) = false) →
    (Text.holdsName request.statement.tables.names (unquoteName written) = true →
      ∀ unit ∈ units, ¬ request.Binds unit (unquoteName written)) →
    filled = written

/-- Whether lower case makes no table of the statement or of a unit like a name that it is not. -/
def IsTold (units : List TableUnit) (name : String) : Prop :=
  ∀ table ∈ request.statement.tables.names ++ units.map TableUnit.logicTable,
    Text.lowerCase table = Text.lowerCase name → Text.sameName table name = true

variable {request} {units : List TableUnit}

theorem isTold_of_ascii
    {name : String}
    (areAscii : ∀ table ∈ name :: request.statement.tables.names ++ units.map TableUnit.logicTable,
      (table.toList.all fun character => character.toNat < 128) = true) :
    request.IsTold units name := by
  rw [List.cons_append, List.forall_mem_cons] at areAscii
  exact fun table isTable equal => Text.sameName_of_lowerCase_eq (areAscii.2 table isTable) areAscii.1 equal

section Bound

variable {names added : TableNames} {key : String}

theorem find?_addPartner
    {group : BindingGroup}
    {unit : TableUnit}
    {table : String}
    (isAdded : addPartner group unit names table = .ok added)
    (isMissing : names.find? key = none) :
    (added.find? key = none ∧ ¬ (Text.lowerCase table = key ∧ group.contains table = true)) ∨
      ∃ actualTable, added.find? key = some actualTable ∧ Text.lowerCase table = key ∧
        group.contains table = true ∧
          group.partner unit.dataSource table unit.actualTable = .ok actualTable := by
  unfold addPartner at isAdded
  dsimp only at isAdded
  split at isAdded
  next isSkipped =>
    cases Except.ok.inj isAdded
    refine .inl ⟨isMissing, ?_⟩
    rintro ⟨rfl, isContained⟩
    simp [isMissing, isContained] at isSkipped
  next isNew =>
    obtain ⟨actualTable, isPartner, rfl⟩ := Success.map_eq_ok.mp isAdded
    rw [TableNames.find?_insert]
    by_cases isAlike : Text.lowerCase table = key
    · have isContained : group.contains table = true := by
        by_contra isOutside
        simp [isOutside] at isNew
      exact .inr ⟨actualTable, if_pos isAlike, isAlike, isContained, isPartner⟩
    · rw [if_neg isAlike]
      exact .inl ⟨isMissing, fun asks => isAlike asks.1⟩

theorem find?_addPartners
    {unit : TableUnit}
    (isAdded : request.addPartners names unit = .ok added)
    (isMissing : names.find? key = none) :
    (added.find? key = none ∧
      ¬ ∃ table ∈ request.statement.tables.names, Text.lowerCase table = key ∧ request.Binds unit table) ∨
      ∃ actualTable, added.find? key = some actualTable ∧
        ∃ table ∈ request.statement.tables.names, Text.lowerCase table = key ∧ request.Binds unit table ∧
          request.IsPartner unit table actualTable := by
  unfold addPartners at isAdded
  split at isAdded
  next group isGroup =>
    rcases TableNames.find?_foldlM isAdded isMissing
      (fun _ _ _ _ stepOk known => find?_of_addPartner stepOk known)
      (fun _ _ _ stepOk missing => find?_addPartner stepOk missing) with
      ⟨notFound, areOutside⟩ | ⟨table, isTable, actualTable, found, isAlike, isContained, isPartner⟩
    · refine .inl ⟨notFound, ?_⟩
      rintro ⟨table, isTable, isAlike, other, isOther, isContained⟩
      cases Option.some.inj (isGroup.symm.trans isOther)
      exact areOutside table isTable ⟨isAlike, isContained⟩
    · exact .inr ⟨actualTable, found, table, isTable, isAlike, ⟨group, isGroup, isContained⟩,
        group, isGroup, isPartner⟩
  next isAlone =>
    cases Except.ok.inj isAdded
    refine .inl ⟨isMissing, ?_⟩
    rintro ⟨table, -, -, group, isGroup, -⟩
    rw [isAlone] at isGroup
    cases isGroup

end Bound

/-- What is looked up for a name in lower case. -/
theorem supplies_of_tableNames
    {names : TableNames}
    (named : request.tableNames units = .ok names)
    (key : String) :
    request.Supplies (tableUnits units) key (names.find? key) := by
  change (tableUnits units).foldlM request.addPartners (routedNames (tableUnits units)) = .ok names at named
  generalize tableUnits units = units at named
  have routed := find?_routedNames units key
  cases found : units.reverse.find? fun unit => Text.lowerCase unit.logicTable == key with
  | some unit =>
      rw [found] at routed
      have isKept := Success.foldlM_induction (fun _ _ _ known stepOk => find?_of_addPartners stepOk known)
        named routed
      obtain ⟨isAlike, later, earlier, split, areOthers⟩ := List.find?_eq_some_iff_append.mp found
      have unreversed : units = earlier.reverse ++ unit :: later.reverse := by
        rw [← List.reverse_reverse units, split]
        simp
      rw [isKept]
      refine .routed unreversed (by simpa using isAlike) fun other isLater => ?_
      simpa using areOthers other (List.mem_reverse.mp isLater)
  | none =>
      rw [found] at routed
      have isUnrouted : ∀ unit ∈ units, Text.lowerCase unit.logicTable ≠ key := fun unit isUnit => by
        simpa using List.find?_eq_none.mp found unit (List.mem_reverse.mpr isUnit)
      rcases TableNames.find?_foldlM named routed
        (fun _ _ _ _ stepOk known => find?_of_addPartners stepOk known)
        (fun _ _ _ stepOk missing => find?_addPartners stepOk missing) with
        ⟨notFound, areAlone⟩ |
        ⟨unit, isUnit, actualTable, isFound, table, isTable, isAlike, isBound, isPartner⟩
      · rw [notFound]
        exact .nothing isUnrouted fun unit isUnit table isTable isAlike isBound =>
          areAlone unit isUnit ⟨table, isTable, isAlike, isBound⟩
      · rw [isFound]
        exact .bound isUnrouted isUnit isTable isAlike isBound isPartner

section Told

variable {first second : String} {unit : TableUnit}

theorem Binds.congr
    (same : Text.sameName first second = true)
    (binds : request.Binds unit first) :
    request.Binds unit second := by
  obtain ⟨group, isGroup, isContained⟩ := binds
  refine ⟨group, isGroup, ?_⟩
  simpa only [BindingGroup.contains, TableRule.isFor, Text.sameName_congr_right same] using isContained

theorem IsPartner.congr
    {actualTable : String}
    (same : Text.sameName first second = true)
    (isPartner : request.IsPartner unit first actualTable) :
    request.IsPartner unit second actualTable := by
  obtain ⟨group, isGroup, found⟩ := isPartner
  exact ⟨group, isGroup, BindingGroup.partner_congr same found⟩

/-- Where lower case tells the name of a table apart from all others, what is looked up for it is what the
rule says. -/
theorem Supplies.identifies
    {written : String}
    {supplied : Option String}
    (supplies : request.Supplies units (Text.lowerCase (unquoteName written)) supplied)
    (areApart : units.Pairwise fun first second =>
      Text.sameName first.logicTable second.logicTable = false)
    (isTold : request.IsTold units (unquoteName written)) :
    request.Identifies units written (supplied.elim written (Template.requote written)) := by
  have ofUnit : ∀ unit ∈ units, Text.lowerCase unit.logicTable = Text.lowerCase (unquoteName written) →
      Text.sameName unit.logicTable (unquoteName written) = true := fun unit isUnit =>
    isTold _ (List.mem_append_right _ (List.mem_map_of_mem isUnit))
  have ofTable : ∀ table ∈ request.statement.tables.names,
      Text.lowerCase table = Text.lowerCase (unquoteName written) →
        Text.sameName table (unquoteName written) = true := fun table isTable =>
    isTold _ (List.mem_append_left _ isTable)
  cases supplies with
  | @routed earlier later unit split isAlike isLast =>
      have isUnit : unit ∈ units := split ▸ List.mem_append_right _ List.mem_cons_self
      have isNamed := ofUnit unit isUnit isAlike
      refine ⟨fun other isOther isSame => ?_, fun isUnrouted => ?_, fun isUnrouted => ?_⟩
      · -- Units with this table are one unit, since no two units have the same table.
        have sameUnit : other = unit := by
          by_contra differ
          have isSymmetric : Std.Symm fun first second : TableUnit =>
              Text.sameName first.logicTable second.logicTable = false :=
            ⟨fun first second unlike => (Text.sameName_comm _ _).trans unlike⟩
          have apart := areApart.forall isOther isUnit differ
          rw [Text.sameName_comm] at isNamed
          rw [Text.sameName_trans isSame isNamed] at apart
          cases apart
        rw [sameUnit]
        rfl
      · rw [isUnrouted unit isUnit] at isNamed
        cases isNamed
      · rw [isUnrouted unit isUnit] at isNamed
        cases isNamed
  | bound isUnrouted isUnit isTable isAlike isBound isPartner =>
      have isNamed := ofTable _ isTable isAlike
      refine ⟨fun other isOther isSame => ?_, fun _ _ _ => ?_, fun _ areUnbound => ?_⟩
      · exact absurd (Text.lowerCase_eq_of_sameName isSame) (isUnrouted other isOther)
      · exact ⟨_, isUnit, _, isPartner.congr isNamed, rfl⟩
      · have isHeld : Text.holdsName request.statement.tables.names (unquoteName written) = true :=
          List.any_eq_true.mpr ⟨_, isTable, isNamed⟩
        exact absurd (isBound.congr isNamed) (areUnbound isHeld _ isUnit)
  | nothing isUnrouted isUnbound =>
      refine ⟨fun other isOther isSame => ?_, fun _ isHeld isBound => ?_, fun _ _ => rfl⟩
      · exact absurd (Text.lowerCase_eq_of_sameName isSame) (isUnrouted other isOther)
      · obtain ⟨table, isTable, isNamed⟩ := List.any_eq_true.mp isHeld
        obtain ⟨unit, isUnit, binds⟩ := isBound
        rw [Text.sameName_comm] at isNamed
        refine absurd (binds.congr isNamed) (isUnbound unit isUnit table isTable ?_)
        exact (Text.lowerCase_eq_of_sameName isNamed).symm

end Told

/-- A statement that is changed at its tables only, in the order of their places, is rendered once and filled in
for all units. -/
theorem exists_template_fill
    {request : RenderRequest}
    {dialect : Dialect}
    {rule : Rule}
    {keys : Keys}
    {parameterCount : Nat}
    (parsed : (Statement.parse dialect rule keys request.sql parameterCount).1 = .ok request.statement)
    (ordered : request.statement.markers.Pairwise Marker.IsBefore)
    (addNothing : ∀ marker ∈ request.statement.markers, ¬ marker.IsAddition) :
    ∃ template, request.template false = .ok template ∧
      ∀ units names, request.tableNames units = .ok names →
        request.fill template units = .ok (Text.splice request.sql (request.replacement false names)
          request.sql.utf8ByteSize 0 request.statement.markers) := by
  have splices := splices_of_marked (Statement.isMarkedIn_of_parse parsed)
  rw [orderedMarkers_of_before ordered] at splices
  obtain ⟨template, ran, -⟩ := splices.restores addNothing
  refine ⟨template, ran, fun units names named => ?_⟩
  rw [fill, named, ← splices.fills false template names ran]
  rfl

/-- **A marker is filled in with the table that its name is in lower case.**  Let a parsed statement be
rendered for units of different tables.  The text has, at each marker on a table, the actual table of the last
unit whose table is this one in lower case, or of a table bound to that of a unit, or what is written.  It is
what the rule says, which compares names in any case of their ASCII letters, for every marker on a name that
lower case tells apart from the tables of the statement and of the units: the unit of this table fills in its
actual table and no other unit does, and what is neither the table of a unit nor bound to one stays as it is
written.  Units without a logic table stand for no table. -/
theorem fill_identifies_tables
    {request : RenderRequest}
    {dialect : Dialect}
    {rule : Rule}
    {keys : Keys}
    {parameterCount : Nat}
    {isWidened : Bool}
    {template : Template}
    {units : List TableUnit}
    {text : String}
    (parsed : (Statement.parse dialect rule keys request.sql parameterCount).1 = .ok request.statement)
    (ran : request.template isWidened = .ok template)
    (areApart : units.Pairwise fun first second =>
      Text.sameName first.logicTable second.logicTable = false)
    (filled : request.fill template units = .ok text) :
    ∃ names, request.tableNames units = .ok names ∧
      (orderedMarkers request.statement).Perm request.statement.markers ∧
      text = Text.splice request.sql (request.replacement isWidened names) request.sql.utf8ByteSize 0
        (orderedMarkers request.statement) ∧
      ∀ position literals, .table position literals ∈ request.statement.markers →
        (∃ supplied, request.Supplies (tableUnits units) (Text.lowerCase (unquoteName literals)) supplied ∧
          request.replacement isWidened names (.table position literals) =
            supplied.elim literals (Template.requote literals)) ∧
        (request.IsTold (tableUnits units) (unquoteName literals) →
          request.Identifies (tableUnits units) literals
            (request.replacement isWidened names (.table position literals))) := by
  obtain ⟨names, named, rfl⟩ := Success.map_eq_ok.mp filled
  have splices := splices_of_marked (Statement.isMarkedIn_of_parse parsed)
  refine ⟨names, named, splices.isPerm, splices.fills isWidened template names ran,
    fun position literals _ => ?_⟩
  have supplies := supplies_of_tableNames named (Text.lowerCase (unquoteName literals))
  have replaced : request.replacement isWidened names (.table position literals) =
      (names.find? (Text.lowerCase (unquoteName literals))).elim literals (Template.requote literals) := by
    rw [replacement, Template.fillSegment]
    cases names.find? (Text.lowerCase (unquoteName literals)) <;> rfl
  rw [replaced]
  exact ⟨⟨_, supplies, rfl⟩, supplies.identifies (areApart.filter _)⟩

end RenderRequest

section Samples

/-- The text of a query over two bound tables, a table of another group and a table without a rule. -/
def boundText : String :=
  "SELECT * FROM `T_Order`, t_item, T_User, t_log"

/-- Units of the orders and of the users. -/
def boundUnits : List TableUnit :=
  [⟨"ds_0", "t_order", "t_order_0"⟩, ⟨"ds_0", "t_user", "t_user_0"⟩]

/-- The orders and the users are filled in by their units, and the items by the partner of the orders; the table
without a rule stays. -/
theorem fill_boundText :
    ∃ request : RenderRequest, ∃ template names,
      request.rule = crossedRule ∧ request.sql = boundText ∧
      (Statement.parse .mysql crossedRule (Keys.ofRule crossedRule 0) request.sql 0).1 =
        .ok request.statement ∧
      request.statement.markers =
        [.table 14 "`T_Order`", .table 25 "t_item", .table 33 "T_User", .table 41 "t_log"] ∧
      request.template false = .ok template ∧
      boundUnits.Pairwise (fun first second =>
        Text.sameName first.logicTable second.logicTable = false) ∧
      request.fill template boundUnits = .ok "SELECT * FROM `t_order_0`, t_item_0, t_user_0, t_log" ∧
      request.tableNames boundUnits = .ok names ∧
      ∀ position literals, .table position literals ∈ request.statement.markers →
        request.Identifies boundUnits literals
          (request.replacement false names (.table position literals)) := by
  have read :
      (Statement.parse .mysql crossedRule (Keys.ofRule crossedRule 0) boundText 0).1.toOption.map
        (fun statement => (statement.tables.names, statement.markers,
          (RenderRequest.tableNames ⟨crossedRule, boundText, statement, []⟩ boundUnits).toOption)) =
      some (["T_Order", "t_item", "T_User", "t_log"],
        [.table 14 "`T_Order`", .table 25 "t_item", .table 33 "T_User", .table 41 "t_log"],
        some [("t_order", "t_order_0"), ("t_user", "t_user_0"), ("t_item", "t_item_0")]) := by
    decide +kernel
  obtain ⟨statement, isParsed, recorded⟩ := Option.map_eq_some_iff.mp read
  obtain ⟨tables, rest⟩ := Prod.mk.inj recorded
  obtain ⟨markers, isNamed⟩ := Prod.mk.inj rest
  have parsed := Success.toOption_eq_some.mp isParsed
  have named := Success.toOption_eq_some.mp isNamed
  have ordered : statement.markers.Pairwise Marker.IsBefore := by
    rw [markers]
    simp [Marker.IsBefore]
    decide
  obtain ⟨template, ran, fills⟩ := @RenderRequest.exists_template_fill
    ⟨crossedRule, boundText, statement, []⟩ .mysql crossedRule _ 0 parsed ordered
      (by simp [markers, Marker.IsAddition])
  have filled : RenderRequest.fill ⟨crossedRule, boundText, statement, []⟩ template boundUnits =
      .ok "SELECT * FROM `t_order_0`, t_item_0, t_user_0, t_log" := by
    rw [fills _ _ named, markers]
    simp only [Text.splice, RenderRequest.replacement]
    exact congrArg Except.ok (by decide +kernel)
  have areApart : boundUnits.Pairwise fun first second =>
      Text.sameName first.logicTable second.logicTable = false := by
    decide +kernel
  obtain ⟨names, isThat, -, -, identifies⟩ := @RenderRequest.fill_identifies_tables
    ⟨crossedRule, boundText, statement, []⟩ .mysql crossedRule _ 0 false template _ _
    parsed ran areApart filled
  cases Except.ok.inj (named.symm.trans isThat)
  refine ⟨⟨crossedRule, boundText, statement, []⟩, template, _, rfl, rfl, parsed, markers, ran, areApart,
    filled, named, fun position literals isMarker => ?_⟩
  refine (identifies position literals isMarker).2 (RenderRequest.isTold_of_ascii ?_)
  rw [markers] at isMarker
  rw [tables]
  simp only [List.mem_cons, Marker.table.injEq, List.not_mem_nil, or_false] at isMarker
  rcases isMarker with ⟨-, rfl⟩ | ⟨-, rfl⟩ | ⟨-, rfl⟩ | ⟨-, rfl⟩ <;> decide +kernel

/-- A rule for two tables whose names differ in the case of a letter beyond ASCII. -/
def accentRule : Rule :=
  { dataSources := ["ds_0"]
    defaultDataSource := some "ds_0"
    tables := [soleTable "é" "t_small", soleTable "É" "t_great"]
    bindingGroups := []
    databaseStrategy := none
    tableStrategy := none
    keyGenerator := none }

theorem accentRule_isBuilt : accentRule.IsBuilt := by
  have differ : Text.sameName "é" "É" = false := by decide +kernel
  refine ⟨{ dataSources := ["ds_0"], tables := accentRule.tables }, ?_, ?_⟩
  · simp [RuleDeclaration.build, RuleDeclaration.chosenDefault, RuleDeclaration.checkTables, accentRule,
      soleTable, TableRule.isFor, differ, bind, Except.bind, pure, Except.pure]
  simp only [accentRule, List.forall_mem_cons]
  exact ⟨⟨_, soleDeclaration_build (by decide +kernel) (by decide +kernel)⟩,
    ⟨_, soleDeclaration_build (by decide +kernel) (by decide +kernel)⟩, List.forall_mem_nil _⟩

/-- The text of a query over both tables. -/
def accentText : String :=
  "SELECT * FROM é, É"

/-- The unit of the first table. -/
def smallUnit : TableUnit :=
  ⟨"ds_0", "é", "t_small"⟩

/-- The unit of the second table. -/
def greatUnit : TableUnit :=
  ⟨"ds_0", "É", "t_great"⟩

/-- The rule tells these two tables apart, and lower case does not.  With units of both, the actual table of
the second one is filled in for the first one too; and with a unit of the first one alone, its actual table is
filled in for the second one, which is neither its table nor bound to it. -/
theorem fill_accentText :
    accentRule.IsBuilt ∧
      [smallUnit, greatUnit].Pairwise (fun first second =>
        Text.sameName first.logicTable second.logicTable = false) ∧
      ∃ request : RenderRequest, ∃ template,
        request.rule = accentRule ∧ request.sql = accentText ∧
        (Statement.parse .mysql accentRule (Keys.ofRule accentRule 0) request.sql 0).1 =
          .ok request.statement ∧
        request.statement.markers = [.table 14 "é", .table 18 "É"] ∧
        request.template false = .ok template ∧
        request.fill template [smallUnit, greatUnit] = .ok "SELECT * FROM t_great, t_great" ∧
        ¬ request.Identifies [smallUnit, greatUnit] "é" "t_great" ∧
        request.fill template [smallUnit] = .ok "SELECT * FROM t_small, t_small" ∧
        ¬ request.Identifies [smallUnit] "É" "t_small" := by
  have read :
      (Statement.parse .mysql accentRule (Keys.ofRule accentRule 0) accentText 0).1.toOption.map
        (fun statement => (statement.markers,
          (RenderRequest.tableNames ⟨accentRule, accentText, statement, []⟩ [smallUnit, greatUnit]).toOption,
          (RenderRequest.tableNames ⟨accentRule, accentText, statement, []⟩ [smallUnit]).toOption)) =
      some ([.table 14 "é", .table 18 "É"], some [("é", "t_great")], some [("é", "t_small")]) := by
    decide +kernel
  obtain ⟨statement, isParsed, recorded⟩ := Option.map_eq_some_iff.mp read
  obtain ⟨markers, rest⟩ := Prod.mk.inj recorded
  obtain ⟨bothNamed, smallNamed⟩ := Prod.mk.inj rest
  have parsed := Success.toOption_eq_some.mp isParsed
  have ordered : statement.markers.Pairwise Marker.IsBefore := by
    rw [markers]
    simp [Marker.IsBefore]
    decide
  obtain ⟨template, ran, fills⟩ := @RenderRequest.exists_template_fill
    ⟨accentRule, accentText, statement, []⟩ .mysql accentRule _ 0 parsed ordered
      (by simp [markers, Marker.IsAddition])
  refine ⟨accentRule_isBuilt, by decide +kernel, ⟨accentRule, accentText, statement, []⟩, template, rfl, rfl,
    parsed, markers, ran, ?_, ?_, ?_, ?_⟩
  · rw [fills _ _ (Success.toOption_eq_some.mp bothNamed), markers]
    simp only [Text.splice, RenderRequest.replacement]
    exact congrArg Except.ok (by decide +kernel)
  · intro identifies
    exact absurd (identifies.routed smallUnit List.mem_cons_self (by decide +kernel)) (by decide +kernel)
  · rw [fills _ _ (Success.toOption_eq_some.mp smallNamed), markers]
    simp only [Text.splice, RenderRequest.replacement]
    exact congrArg Except.ok (by decide +kernel)
  · intro identifies
    have isUnbound : ∀ unit, ¬ RenderRequest.Binds ⟨accentRule, accentText, statement, []⟩ unit "É" := by
      rintro unit ⟨group, isGroup, -⟩
      cases isGroup
    refine absurd (identifies.kept ?_ fun _ unit _ => ?_) (by decide +kernel)
    · decide +kernel
    · exact isUnbound unit

end Samples

end ShardedSql
