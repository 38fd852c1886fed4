import ShardedSql.Proofs.Routing.Binding
import ShardedSql.Proofs.Routing.Insertion
import ShardedSql.Proofs.Text.LetterCase

/-!
# Routing and letter case

Names are looked up in many ways while a statement is routed: the rules of its tables, binding groups, the
conditions on a column, hints.  None of them tells spellings apart that differ in the case of ASCII letters,
so statements that differ in nothing else are routed to the same places, or both fail.
-/

namespace ShardedSql

open Success (Agree)

namespace Text

theorem holdsName_congr
    {first second : String}
    (same : sameName first second = true)
    (names : List String) :
    holdsName names first = holdsName names second := by
  simp only [holdsName, sameName_congr_right same]

/-- Whether two lists hold the same names in the same order, each in some letter case. -/
def AreSameNames (firsts seconds : List String) : Prop :=
  List.Forall₂ (fun first second => sameName first second = true) firsts seconds

theorem AreSameNames.holdsName_eq
    {firsts seconds : List String}
    (areSame : AreSameNames firsts seconds)
    (name : String) :
    holdsName firsts name = holdsName seconds name := by
  induction areSame with
  | nil => rfl
  | cons same _ ih =>
      rw [holdsName] at ih
      rw [holdsName, List.any_cons, sameName_congr_left same, ih, holdsName, holdsName, List.any_cons]

theorem AreSameNames.all_holdsName_eq
    {firsts seconds : List String}
    (areSame : AreSameNames firsts seconds)
    (names : List String) :
    firsts.all (holdsName names) = seconds.all (holdsName names) := by
  induction areSame with
  | nil => rfl
  | cons same _ ih => rw [List.all_cons, List.all_cons, holdsName_congr same, ih]

end Text

/-- A table with a rule has the same rule in any letter case. -/
theorem Rule.tableRule_congr
    (rule : Rule)
    {first second : String}
    (same : Text.sameName first second = true)
    (isRuled : (rule.findTable? first).isSome = true) :
    rule.tableRule first = rule.tableRule second := by
  obtain ⟨tableRule, found⟩ := Option.isSome_iff_exists.mp isRuled
  simp only [Rule.tableRule, ← rule.findTable?_congr same, found]

/-- Whether the same tables are bound does not depend on letter case. -/
theorem Rule.areBound_congr
    (rule : Rule)
    {firsts seconds : List String}
    (areSame : Text.AreSameNames firsts seconds) :
    rule.areBound firsts = rule.areBound seconds := by
  have group : firsts.findSome? rule.findGroup? = seconds.findSome? rule.findGroup? := by
    induction areSame with
    | nil => rfl
    | cons same _ ih => rw [List.findSome?_cons, List.findSome?_cons, rule.findGroup?_congr same, ih]
  have bound : rule.boundAmong firsts = rule.boundAmong seconds := by
    simp only [boundAmong, group, areSame.holdsName_eq]
  simp only [areBound, bound, areSame.all_holdsName_eq]

/-- The hinted values of a column do not depend on the letter case of the table. -/
theorem HintedValues.find?_congr
    (values : HintedValues)
    {first second : String}
    (same : Text.sameName first second = true) :
    values.find? first = values.find? second := by
  funext column
  rw [find?, find?, key, key, Text.lowerCase_eq_of_sameName same]

/-- Whether two sharding values give their columns the same values. -/
def ShardingValue.ChooseAlike (first second : ShardingValue) : Prop :=
  first.choice = second.choice

namespace Condition

/-- Whether two conditions differ in the letter case of the table and the column only. -/
structure IsCaseVariant (first second : Condition) : Prop where
  column : first.column.same second.column = true
  operator : first.operator = second.operator
  operands : first.operands = second.operands

theorem IsCaseVariant.shardingValue
    {first second : Condition}
    (variant : first.IsCaseVariant second)
    (parameters : List Value) :
    Agree ShardingValue.ChooseAlike (first.shardingValue parameters)
      (second.shardingValue parameters) := by
  unfold Condition.shardingValue
  rw [variant.operands, variant.operator]
  refine (Agree.refl _).bind ?_
  rintro values _ rfl
  cases ValueChoice.ofOperands? second.operator values with
  | none => exact .error
  | some choice => exact .ok rfl

end Condition

/-- Whether two statements of one kind differ, as far as their tables and conditions go, in the letter case
of names only. -/
structure Statement.IsCaseVariant (first second : Statement) : Prop where
  kind : first.kind = second.kind
  names : Text.AreSameNames first.tables.names second.tables.names
  conditions :
    List.Forall₂ Condition.IsCaseVariant first.conditions.toList second.conditions.toList

/-- The conditions on a column are found at the same place. -/
theorem Statement.IsCaseVariant.find?_condition
    {first second : Statement}
    (variant : first.IsCaseVariant second)
    {column other : Column}
    (same : column.same other = true) :
    Option.Rel Condition.IsCaseVariant (first.conditions.find? column)
      (second.conditions.find? other) := by
  have variants := variant.conditions
  unfold Conditions.find?
  generalize first.conditions.toList = conditions at variants ⊢
  generalize second.conditions.toList = others at variants ⊢
  induction variants with
  | nil => exact .none
  | @cons condition _ _ _ isVariant _ ih =>
      rw [List.find?_cons, List.find?_cons, Column.same_congr isVariant.column column,
        Column.same_comm _ column, Column.same_congr same, Column.same_comm other]
      split
      next => exact .some isVariant
      next => exact ih

namespace Algorithm

variable {values others : List ShardingValue}
  (alike : List.Forall₂ ShardingValue.ChooseAlike values others)

include alike

theorem agree_onlyValue (arity : String) :
    Agree ShardingValue.ChooseAlike (onlyValue arity values) (onlyValue arity others) := by
  cases alike with
  | nil => exact .error
  | cons same rest =>
      cases rest with
      | nil => exact .ok same
      | cons => exact .error

theorem agree_chooseOnly
    (choice : SingleKeyChoice)
    (targets : List String)
    (arity : String) :
    Agree Eq (onlyValue arity values >>= chooseSingle choice targets)
      (onlyValue arity others >>= chooseSingle choice targets) :=
  (agree_onlyValue alike arity).bind fun value other same => .of_eq (by
    have sameChoice : value.choice = other.choice := same
    rw [chooseSingle, chooseSingle, sameChoice])

/-- The built-in algorithms do not read the names of the columns they choose by. -/
theorem agree_choose
    {algorithm : Algorithm}
    (builtIn : algorithm.isBuiltIn = true)
    (targets : List String) :
    Agree Eq (algorithm.choose targets values) (algorithm.choose targets others) := by
  unfold choose
  cases algorithm with
  | firstTarget => exact (agree_onlyValue alike _).bind fun _ _ _ => .refl _
  | modulo modulus => exact agree_chooseOnly alike _ _ _
  | dynamicModulo stem modulus => exact agree_chooseOnly alike _ _ _
  | _ => cases builtIn

end Algorithm

namespace Strategy

variable {strategy : Strategy} (builtIn : strategy.algorithm.isBuiltIn = true)
  {values others : List ShardingValue}
  (alike : List.Forall₂ ShardingValue.ChooseAlike values others)

include builtIn alike

theorem agree_chooseAmong
    (kind : StatementKind)
    (targets : List String) :
    Agree Eq (strategy.chooseAmong kind targets values)
      (strategy.chooseAmong kind targets others) := by
  have isEmpty : values.isEmpty = others.isEmpty := by cases alike <;> rfl
  unfold chooseAmong
  rw [isEmpty]
  split
  next => exact .refl _
  next => exact (Algorithm.agree_choose alike builtIn targets).map fun _ _ same => by rw [same]

theorem agree_chooseDynamic :
    Agree Eq (strategy.chooseDynamic values) (strategy.chooseDynamic others) := by
  have isEmpty : values.isEmpty = others.isEmpty := by cases alike <;> rfl
  unfold chooseDynamic
  rw [isEmpty]
  split
  next => exact .refl _
  next => exact (Algorithm.agree_choose alike builtIn []).map fun _ _ same => by rw [same]

end Strategy

namespace RoutingRequest

section Variants

variable {rule : Rule} {first second : Statement}
  (builtIn : rule.UsesBuiltIn) (variant : first.IsCaseVariant second)
  (parameters : List Value) (hint : Hint)
  {table other : String} (same : Text.sameName table other = true)

include variant same

theorem agree_columnValue
    {hinted : String → String → Option ShardingValue}
    (hintedSame : hinted table = hinted other)
    (column : String) :
    Agree (Option.Rel ShardingValue.ChooseAlike)
      (columnValue ⟨rule, parameters, first, hint⟩ hinted table column)
      (columnValue ⟨rule, parameters, second, hint⟩ hinted other column) := by
  unfold columnValue
  dsimp only
  split
  next =>
    rw [hintedSame]
    refine .ok ?_
    cases hinted other column with
    | none => exact .none
    | some value => exact .some rfl
  next =>
    have sameColumn : Column.same ⟨column, table⟩ ⟨column, other⟩ = true := by
      simp [Column.same, same]
    have found := variant.find?_condition sameColumn
    generalize first.conditions.find? ⟨column, table⟩ = condition at found ⊢
    generalize second.conditions.find? ⟨column, other⟩ = otherCondition at found ⊢
    cases found with
    | none => exact .ok .none
    | some isVariant => exact (isVariant.shardingValue parameters).map fun _ _ alike => .some alike

theorem agree_shardingValues
    (strategy : Strategy)
    {hinted : String → String → Option ShardingValue}
    (hintedSame : hinted table = hinted other) :
    Agree (List.Forall₂ ShardingValue.ChooseAlike)
      (shardingValues ⟨rule, parameters, first, hint⟩ strategy hinted table)
      (shardingValues ⟨rule, parameters, second, hint⟩ strategy hinted other) :=
  (Agree.mapM (agree_columnValue variant parameters hint same hintedSame) strategy.columns).map
    fun _ _ alike => List.rel_filterMap (fun _ _ sameValue => sameValue) alike

include builtIn

theorem agree_dataSourcesFor
    {tableRule : TableRule}
    (ruled : rule.tableRule table = .ok tableRule) :
    Agree Eq (dataSourcesFor ⟨rule, parameters, first, hint⟩ table tableRule)
      (dataSourcesFor ⟨rule, parameters, second, hint⟩ other tableRule) := by
  have chosenBuiltIn := (builtIn.ofTable ruled).1
  refine (agree_shardingValues variant parameters hint same _
    (hint.databaseValues.find?_congr same)).bind fun values others alike => ?_
  rw [variant.kind]
  refine (Strategy.agree_chooseAmong chosenBuiltIn alike _ _).bind ?_
  rintro chosen _ rfl
  exact .refl _

theorem agree_tablesFor
    {tableRule : TableRule}
    (ruled : rule.tableRule table = .ok tableRule)
    (dataSource : String) :
    Agree Eq (tablesFor ⟨rule, parameters, first, hint⟩ table tableRule dataSource)
      (tablesFor ⟨rule, parameters, second, hint⟩ other tableRule dataSource) := by
  have chosenBuiltIn := (builtIn.ofTable ruled).2
  refine (agree_shardingValues variant parameters hint same _
    (hint.tableValues.find?_congr same)).bind fun values others alike => ?_
  dsimp only
  split
  next =>
    refine (Strategy.agree_chooseDynamic chosenBuiltIn alike).bind ?_
    rintro chosen _ rfl
    exact .refl _
  next =>
    rw [variant.kind]
    refine (Strategy.agree_chooseAmong chosenBuiltIn alike _ _).bind ?_
    rintro chosen _ rfl
    exact .refl _

/-- A table with a rule is routed to the same places in any letter case. -/
theorem agree_routeTable (isRuled : (rule.findTable? table).isSome = true) :
    Agree Eq (routeTable ⟨rule, parameters, first, hint⟩ table)
      (routeTable ⟨rule, parameters, second, hint⟩ other) := by
  unfold routeTable
  dsimp only
  rw [← rule.tableRule_congr same isRuled]
  cases ruled : rule.tableRule table with
  | error failure => exact .error
  | ok tableRule =>
      refine (agree_dataSourcesFor builtIn variant parameters hint same ruled).bind ?_
      rintro dataSources _ rfl
      have units : ∀ dataSource, Agree Eq
          (unitsOn ⟨rule, parameters, first, hint⟩ table tableRule dataSource)
          (unitsOn ⟨rule, parameters, second, hint⟩ other tableRule dataSource) := fun dataSource =>
        (agree_tablesFor builtIn variant parameters hint same ruled dataSource).map
          fun _ _ sameTables => by rw [sameTables]
      refine (Agree.mapM units dataSources).bind fun groups _ sameGroups => ?_
      rw [List.forall₂_eq_eq_eq] at sameGroups
      rw [sameGroups]
      exact .refl _

omit same

theorem agree_routeEach
    (bound : List String)
    {tables others : List String}
    (areSame : Text.AreSameNames tables others) :
    Agree Eq (routeEach ⟨rule, parameters, first, hint⟩ bound tables)
      (routeEach ⟨rule, parameters, second, hint⟩ bound others) := by
  induction areSame generalizing bound with
  | nil => exact .refl _
  | @cons table other _ _ same _ ih =>
      unfold routeEach
      dsimp only
      rw [← rule.findTable?_congr same, ← rule.findGroup?_congr same, Text.holdsName_congr same]
      split
      next => exact ih bound
      next _ found =>
        split
        next => exact ih bound
        next =>
          have isRuled : (rule.findTable? table).isSome = true := by rw [found]; rfl
          refine (agree_routeTable builtIn variant parameters hint same isRuled).bind ?_
          rintro units _ rfl
          refine (ih _).bind ?_
          rintro others _ rfl
          exact .refl _

theorem agree_routeUnbound
    {tables others : List String}
    (areSame : Text.AreSameNames tables others) :
    Agree Eq (routeUnbound ⟨rule, parameters, first, hint⟩ tables)
      (routeUnbound ⟨rule, parameters, second, hint⟩ others) := by
  refine (agree_routeEach builtIn variant parameters hint [] areSame).bind ?_
  rintro results _ rfl
  split
  next => exact .error
  next => exact .refl _
  next => exact .refl _

/-- **Routing ignores letter case.**  Where the strategies of a rule choose by built-in algorithms, two
statements of one kind whose tables and conditions differ in the case of ASCII letters only are routed to
the same places, or both fail, whatever the parameters and the hint are. -/
theorem route_eq_ok_iff_of_isCaseVariant
    (isRuled : ∀ table ∈ first.tables.names, (rule.findTable? table).isSome = true)
    (outcome : Outcome) :
    route ⟨rule, parameters, first, hint⟩ = .ok outcome ↔
      route ⟨rule, parameters, second, hint⟩ = .ok outcome := by
  apply Agree.eq_ok_iff
  have areSame := variant.names
  unfold route
  dsimp only
  generalize first.tables.names = tables at areSame isRuled ⊢
  generalize second.tables.names = others at areSame ⊢
  cases areSame with
  | nil => exact .refl _
  | cons same rest =>
      have agrees := (agree_routeTable builtIn variant parameters hint same
        (isRuled _ List.mem_cons_self)).map fun _ _ sameUnits => congrArg Outcome.units sameUnits
      cases rest with
      | nil => exact agrees
      | cons sameNext rest =>
          have areSame : Text.AreSameNames _ _ := .cons same (.cons sameNext rest)
          dsimp only
          rw [rule.areBound_congr areSame]
          split
          next => exact agrees
          next => exact agree_routeUnbound builtIn variant parameters hint areSame

end Variants

section Samples

/-- A statement over orders and users of one number, with a spelling of each name. -/
def ownersStatement (order user column : String) : Statement :=
  { kind := .select
    tables := ⟨[⟨order, none⟩, ⟨user, none⟩]⟩
    conditions :=
      ⟨[⟨⟨column, order⟩, .equal, [.placeholder 0]⟩, ⟨⟨column, user⟩, .equal, [.placeholder 0]⟩]⟩ }

theorem overlapRule_usesBuiltIn : overlapRule.UsesBuiltIn := by
  intro strategy member
  have listed : strategy ∈ List.replicate 3 (⟨["user_id"], .modulo none⟩ : Strategy) := member
  rw [List.eq_of_mem_replicate listed]
  rfl

/-- The orders and users of the first number are read on the data source of this number, in any spelling. -/
theorem ownersStatement_routes_alike :
    overlapRule.UsesBuiltIn ∧
      (ownersStatement "t_order" "t_user" "user_id").IsCaseVariant
        (ownersStatement "T_Order" "T_USER" "User_Id") ∧
      (∀ table ∈ ["t_order", "t_user"], (overlapRule.findTable? table).isSome = true) ∧
      ∃ outcome,
        route ⟨overlapRule, [.integer 1], ownersStatement "t_order" "t_user" "user_id", {}⟩ =
          .ok outcome ∧
        route ⟨overlapRule, [.integer 1], ownersStatement "T_Order" "T_USER" "User_Id", {}⟩ =
          .ok outcome ∧
        outcome.tableUnits.toList =
          [⟨"ds_1", "t_order", "t_order"⟩, ⟨"ds_1", "t_user", "t_user"⟩] := by
  have variant : (ownersStatement "t_order" "t_user" "user_id").IsCaseVariant
      (ownersStatement "T_Order" "T_USER" "User_Id") :=
    { kind := rfl
      names := .cons (by decide) (.cons (by decide) .nil)
      conditions := .cons ⟨by decide, rfl, rfl⟩ (.cons ⟨by decide, rfl, rfl⟩ .nil) }
  have isRuled : ∀ table ∈ ["t_order", "t_user"], (overlapRule.findTable? table).isSome = true := by
    decide
  have routed :
      (route ⟨overlapRule, [.integer 1], ownersStatement "t_order" "t_user" "user_id", {}⟩
        ).toOption.map (fun outcome => outcome.tableUnits.toList) =
          some [⟨"ds_1", "t_order", "t_order"⟩, ⟨"ds_1", "t_user", "t_user"⟩] := by
    decide +kernel
  obtain ⟨outcome, isOutcome, isUnits⟩ := Option.map_eq_some_iff.mp routed
  have outcomeOk := Success.toOption_eq_some.mp isOutcome
  exact ⟨overlapRule_usesBuiltIn, variant, isRuled, outcome, outcomeOk,
    (route_eq_ok_iff_of_isCaseVariant overlapRule_usesBuiltIn variant [.integer 1] {} isRuled
      outcome).mp outcomeOk, isUnits⟩

end Samples

end RoutingRequest

end ShardedSql
