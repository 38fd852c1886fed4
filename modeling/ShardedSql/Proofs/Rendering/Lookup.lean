import Mathlib.Data.List.Induction
import ShardedSql.Proofs.Success
import ShardedSql.Rendering.Request

/-!
# Looking up the names of actual tables

The names that are filled in are looked up by the logic tables in lower case.  Those of the routed units come
first, and the partners that are added for bound tables take the place of none of them.
-/

namespace ShardedSql

namespace TableNames

/-- An inserted name is found, and no other name is lost. -/
theorem find?_insert
    (key actualTable : String)
    (names : TableNames)
    (other : String) :
    (insert key actualTable names).find? other =
      if key = other then some actualTable else names.find? other := by
  induction names with
  | nil => by_cases same : key = other <;> simp [insert, find?, same]
  | cons present rest ih =>
      unfold find? at ih ⊢
      rw [insert]
      by_cases isPresent : present.1 = key
      · rw [if_pos isPresent]
        by_cases same : key = other <;> simp [isPresent, same]
      · rw [if_neg isPresent]
        by_cases isOther : present.1 = other
        · simp [isOther, Ne.symm (isOther ▸ isPresent)]
        · have passes : (present.1 == other) = false := beq_false_of_ne isOther
          simp only [List.find?_cons, passes]
          exact ih

/-- Names are added one after another for what is missing, each step keeping what is there.  Then a missing name
is given by one of the inputs, or stays missing because none of them asks for it. -/
theorem find?_foldlM
    {Input : Type}
    {step : TableNames → Input → Except Error TableNames}
    {key : String}
    {asks : Input → Prop}
    {gives : Input → String → Prop}
    {inputs : List Input}
    {names added : TableNames}
    (isAdded : inputs.foldlM step names = .ok added)
    (isMissing : names.find? key = none)
    (keeps : ∀ names input added actualTable, step names input = .ok added →
      names.find? key = some actualTable → added.find? key = some actualTable)
    (adds : ∀ names input added, step names input = .ok added → names.find? key = none →
      (added.find? key = none ∧ ¬ asks input) ∨
        ∃ actualTable, added.find? key = some actualTable ∧ gives input actualTable) :
    (added.find? key = none ∧ ∀ input ∈ inputs, ¬ asks input) ∨
      ∃ input ∈ inputs, ∃ actualTable, added.find? key = some actualTable ∧ gives input actualTable := by
  induction inputs generalizing names with
  | nil => exact .inl ⟨Except.ok.inj isAdded ▸ isMissing, List.forall_mem_nil _⟩
  | cons input inputs ih =>
      rw [List.foldlM_cons] at isAdded
      obtain ⟨next, stepOk, restOk⟩ := Success.bind_eq_ok.mp isAdded
      rcases adds names input next stepOk isMissing with
        ⟨stillMissing, asksNot⟩ | ⟨actualTable, found, given⟩
      · rcases ih restOk stillMissing with ⟨notFound, askNot⟩ | ⟨other, isInput, given⟩
        · exact .inl ⟨notFound, List.forall_mem_cons.mpr ⟨asksNot, askNot⟩⟩
        · exact .inr ⟨other, List.mem_cons_of_mem _ isInput, given⟩
      · have isKept := Success.foldlM_induction
          (fun names input added known stepOk => keeps names input added actualTable stepOk known) restOk found
        exact .inr ⟨input, List.mem_cons_self, actualTable, isKept, given⟩

end TableNames

namespace RenderRequest

/-- Of the routed units, the last one whose table is the name in lower case gives the name of its actual
table. -/
theorem find?_routedNames
    (units : List TableUnit)
    (key : String) :
    (routedNames units).find? key =
      (units.reverse.find? fun unit => Text.lowerCase unit.logicTable == key).map TableUnit.actualTable := by
  induction units using List.reverseRecOn with
  | nil => rfl
  | append_singleton units last ih =>
      have inserted : routedNames (units ++ [last]) =
          TableNames.insert (Text.lowerCase last.logicTable) last.actualTable (routedNames units) := by
        simp [routedNames]
      rw [inserted, TableNames.find?_insert, List.reverse_concat, List.find?_cons]
      by_cases isLast : Text.lowerCase last.logicTable = key
      · simp [isLast]
      · rw [if_neg isLast, ih, beq_false_of_ne isLast]

/-- For the table of a unit, the name of the last unit of this table is found. -/
theorem exists_find?_routedNames
    {units : List TableUnit}
    {unit : TableUnit}
    (isUnit : unit ∈ units) :
    ∃ other ∈ units, Text.lowerCase other.logicTable = Text.lowerCase unit.logicTable ∧
      (routedNames units).find? (Text.lowerCase unit.logicTable) = some other.actualTable := by
  rw [find?_routedNames]
  cases found : units.reverse.find? fun other =>
      Text.lowerCase other.logicTable == Text.lowerCase unit.logicTable with
  | none =>
      have isOther := List.find?_eq_none.mp found unit (List.mem_reverse.mpr isUnit)
      exact absurd (beq_self_eq_true _) isOther
  | some other =>
      exact ⟨other, List.mem_reverse.mp (List.mem_of_find?_eq_some found), by simpa using List.find?_some found,
        rfl⟩

section Kept

variable {request : RenderRequest} {names added : TableNames} {key actualTable : String}

/-- A partner is added for a table without a name only. -/
theorem find?_of_addPartner
    {group : BindingGroup}
    {unit : TableUnit}
    {table : String}
    (isAdded : addPartner group unit names table = .ok added)
    (isKnown : names.find? key = some actualTable) :
    added.find? key = some actualTable := by
  unfold addPartner at isAdded
  dsimp only at isAdded
  split at isAdded
  next => exact Except.ok.inj isAdded ▸ isKnown
  next isNew =>
    obtain ⟨partner, -, rfl⟩ := Success.map_eq_ok.mp isAdded
    rw [TableNames.find?_insert, if_neg, isKnown]
    rintro rfl
    simp [isKnown] at isNew

theorem find?_of_addPartners
    {unit : TableUnit}
    (isAdded : request.addPartners names unit = .ok added)
    (isKnown : names.find? key = some actualTable) :
    added.find? key = some actualTable := by
  unfold addPartners at isAdded
  split at isAdded
  next group _ =>
    exact Success.foldlM_induction (fun _ _ _ known step => find?_of_addPartner step known) isAdded isKnown
  next => exact Except.ok.inj isAdded ▸ isKnown

/-- For the table of a unit, the name of a unit of this table is filled in. -/
theorem exists_find?_tableNames
    {units : List TableUnit}
    (areNamed : ∀ unit ∈ units, unit.logicTable.isEmpty = false)
    (named : request.tableNames units = .ok names)
    {unit : TableUnit}
    (isUnit : unit ∈ units) :
    ∃ other ∈ units, Text.lowerCase other.logicTable = Text.lowerCase unit.logicTable ∧
      names.find? (Text.lowerCase unit.logicTable) = some other.actualTable := by
  have routed : (units.filter fun unit => !unit.logicTable.isEmpty) = units :=
    List.filter_eq_self.mpr fun unit isUnit => by rw [areNamed unit isUnit]; rfl
  rw [tableNames, routed] at named
  obtain ⟨other, isOther, same, found⟩ := exists_find?_routedNames isUnit
  exact ⟨other, isOther, same,
    Success.foldlM_induction (fun _ _ _ known step => find?_of_addPartners step known) named found⟩

end Kept

end RenderRequest

end ShardedSql
