import Mathlib.Data.List.Basic
import ShardedSql.Rule.Basic
import ShardedSql.Statement.Condition

/-!
# The latest condition on each column

Conditions that are added one after another leave one condition for each column.  It is the last one
on this column, and it stands where the column was restricted first.
-/

namespace ShardedSql

namespace Column

@[simp]
theorem same_refl (column : Column) :
    column.same column = true := by
  simp [same]

theorem same_comm
    (first second : Column) :
    first.same second = second.same first := by
  rw [same, same, Text.sameName_comm first.name, Text.sameName_comm first.table]

theorem same_trans
    {first second third : Column}
    (firstSecond : first.same second = true)
    (secondThird : second.same third = true) :
    first.same third = true := by
  rw [same, Bool.and_eq_true] at firstSecond secondThird ⊢
  exact ⟨Text.sameName_trans firstSecond.1 secondThird.1,
    Text.sameName_trans firstSecond.2 secondThird.2⟩

/-- Columns that are the same are the same as the same columns. -/
theorem same_congr
    {first second : Column}
    (same : first.same second = true)
    (other : Column) :
    first.same other = second.same other := by
  rw [Bool.eq_iff_iff]
  constructor
  · exact same_trans (by rwa [same_comm])
  · exact same_trans same

end Column

namespace Rule

theorem choosesBy_congr
    {first second : String}
    (same : Text.sameName first second = true)
    (strategy : Option Strategy) :
    choosesBy strategy first = choosesBy strategy second := by
  have folded := (Text.sameName_iff first second).mp same
  unfold choosesBy Strategy.containsColumn Text.holdsName Text.sameName
  rw [folded]

/-- Whether a column is one to choose by does not depend on the letter case of its name. -/
theorem isShardingColumn_congr
    (rule : Rule)
    {first second : Column}
    (same : first.same second = true) :
    rule.isShardingColumn first = rule.isShardingColumn second := by
  obtain ⟨sameName, sameTable⟩ := Bool.and_eq_true_iff.mp same
  have folded := (Text.sameName_iff first.table second.table).mp sameTable
  unfold isShardingColumn TableRule.isFor Text.sameName
  simp only [choosesBy_congr sameName, folded]

end Rule

namespace Condition

/-- The last of some conditions on a column. -/
def lastOn?
    (conditions : List Condition)
    (column : Column) : Option Condition :=
  conditions.reverse.find? fun condition => condition.column.same column

/-- The columns of some conditions, each once up to letter case, in the order in which they occur
first. -/
def firstColumns : List Condition → List Column
  | [] => []
  | condition :: rest =>
      condition.column :: (firstColumns rest).filter fun column => !condition.column.same column

/-- The last condition on each column, in the order in which the columns occur first. -/
def latest (conditions : List Condition) : List Condition :=
  (firstColumns conditions).filterMap (lastOn? conditions)

theorem lastOn?_append_singleton
    (conditions : List Condition)
    (condition : Condition)
    (column : Column) :
    lastOn? (conditions ++ [condition]) column =
      if condition.column.same column then some condition else lastOn? conditions column := by
  unfold lastOn?
  rw [List.reverse_append, List.reverse_singleton, List.singleton_append, List.find?_cons]
  cases condition.column.same column with
  | true => rfl
  | false => rfl

theorem lastOn?_append
    (front behind : List Condition)
    (column : Column) :
    lastOn? (front ++ behind) column = (lastOn? behind column).or (lastOn? front column) := by
  unfold lastOn?
  rw [List.reverse_append, List.find?_append]

theorem same_of_lastOn?
    {conditions : List Condition}
    {column : Column}
    {condition : Condition}
    (isLast : lastOn? conditions column = some condition) :
    condition.column.same column = true := by
  have holds := List.find?_some isLast
  exact holds

theorem exists_of_mem_firstColumns
    {conditions : List Condition}
    {column : Column}
    (member : column ∈ firstColumns conditions) :
    ∃ condition ∈ conditions, condition.column = column := by
  induction conditions with
  | nil => cases member
  | cons condition rest ih =>
      rcases List.mem_cons.mp member with rfl | isLater
      · exact ⟨condition, List.mem_cons_self, rfl⟩
      · obtain ⟨other, isThere, isColumn⟩ := ih (List.mem_filter.mp isLater).1
        exact ⟨other, List.mem_cons_of_mem _ isThere, isColumn⟩

theorem exists_lastOn?
    {conditions : List Condition}
    {column : Column}
    (member : column ∈ firstColumns conditions) :
    ∃ condition, lastOn? conditions column = some condition := by
  obtain ⟨condition, isThere, rfl⟩ := exists_of_mem_firstColumns member
  rw [← Option.isSome_iff_exists, lastOn?, List.find?_isSome]
  exact ⟨condition, List.mem_reverse.mpr isThere, Column.same_refl _⟩

/-- No two of the columns are the same. -/
theorem pairwise_firstColumns (conditions : List Condition) :
    (firstColumns conditions).Pairwise fun first second => first.same second = false := by
  induction conditions with
  | nil => exact List.Pairwise.nil
  | cons condition rest ih =>
      refine List.Pairwise.cons (fun column member => ?_) (ih.filter _)
      simpa using (List.mem_filter.mp member).2

theorem any_filter_or
    (columns : List Column)
    (first second : Column) :
    (first.same second || (columns.filter fun column => !first.same column).any
        fun column => column.same second) =
      (first.same second || columns.any fun column => column.same second) := by
  cases apart : first.same second with
  | true => rfl
  | false =>
      rw [Bool.false_or, Bool.false_or, List.any_filter]
      refine List.any_congr rfl fun column => ?_
      cases isSame : column.same second with
      | false => simp
      | true =>
          have notSame : first.same column = false := by
            rw [Column.same_comm, Column.same_congr isSame, Column.same_comm, apart]
          simp [notSame]

/-- One more condition adds its column, unless that occurs already. -/
theorem firstColumns_append_singleton
    (conditions : List Condition)
    (condition : Condition) :
    firstColumns (conditions ++ [condition]) =
      if (firstColumns conditions).any fun column => column.same condition.column then
        firstColumns conditions
      else
        firstColumns conditions ++ [condition.column] := by
  induction conditions with
  | nil => rfl
  | cons first rest ih =>
      rw [List.cons_append, firstColumns, firstColumns, ih, List.any_cons, any_filter_or]
      cases occurs : (firstColumns rest).any fun column => column.same condition.column with
      | true => simp
      | false =>
          cases same : first.column.same condition.column with
          | true => simp [same]
          | false => simp [same]

/-- The step from some conditions to one more, over the columns that occur. -/
theorem place_lastOn?
    {conditions : List Condition}
    (condition : Condition)
    {columns : List Column}
    (restricted : ∀ column ∈ columns, ∃ last, lastOn? conditions column = some last)
    (apart : columns.Pairwise fun first second => first.same second = false) :
    Conditions.place condition (columns.filterMap (lastOn? conditions)) =
      (if columns.any fun column => column.same condition.column then columns
        else columns ++ [condition.column]).filterMap
          (lastOn? (conditions ++ [condition])) := by
  induction columns with
  | nil => simp [Conditions.place, lastOn?_append_singleton]
  | cons column rest ih =>
      obtain ⟨notFirst, restApart⟩ := List.pairwise_cons.mp apart
      obtain ⟨last, isLast⟩ := restricted column List.mem_cons_self
      have lastSame := Column.same_congr (same_of_lastOn? isLast) condition.column
      rw [List.filterMap_cons_some isLast, Conditions.place, lastSame, List.any_cons]
      cases same : column.same condition.column with
      | true =>
          have isNew : lastOn? (conditions ++ [condition]) column = some condition := by
            rw [lastOn?_append_singleton, Column.same_comm, same, if_pos rfl]
          -- No other column is the same as this one, so that the rest keeps what it has.
          have kept : ∀ other ∈ rest,
              lastOn? (conditions ++ [condition]) other = lastOn? conditions other := by
            intro other member
            rw [lastOn?_append_singleton, ← Column.same_congr same, notFirst other member]
            rfl
          rw [if_pos rfl, Bool.true_or, if_pos rfl, List.filterMap_cons_some isNew,
            List.filterMap_congr kept]
      | false =>
          have isOld : lastOn? (conditions ++ [condition]) column = some last := by
            rw [lastOn?_append_singleton, Column.same_comm, same, if_neg Bool.false_ne_true, isLast]
          have others := ih (fun other member => restricted other (List.mem_cons_of_mem _ member))
            restApart
          rw [if_neg Bool.false_ne_true, Bool.false_or, others]
          split
          next => rw [List.filterMap_cons_some isOld]
          next => rw [List.cons_append, List.filterMap_cons_some isOld]

theorem add_latest
    (conditions : List Condition)
    (condition : Condition) :
    Conditions.add ⟨latest conditions⟩ condition = ⟨latest (conditions ++ [condition])⟩ := by
  have placed := place_lastOn? condition (fun column => exists_lastOn?)
    (pairwise_firstColumns conditions)
  rw [← firstColumns_append_singleton] at placed
  exact congrArg Conditions.mk placed

theorem foldl_add_latest
    (front behind : List Condition) :
    behind.foldl Conditions.add ⟨latest front⟩ = ⟨latest (front ++ behind)⟩ := by
  induction behind generalizing front with
  | nil => rw [List.append_nil]; rfl
  | cons condition rest ih =>
      rw [List.foldl_cons, add_latest, ih, List.append_assoc, List.singleton_append]

/-- **Conditions that are added one after another leave the latest one on each column.** -/
theorem foldl_add_eq_latest (conditions : List Condition) :
    conditions.foldl Conditions.add {} = ⟨latest conditions⟩ :=
  foldl_add_latest [] conditions

section Sharding

variable {rule : Rule} (conditions : List Condition)

theorem firstColumns_filter :
    firstColumns (conditions.filter fun condition => rule.isShardingColumn condition.column) =
      (firstColumns conditions).filter rule.isShardingColumn := by
  induction conditions with
  | nil => rfl
  | cons condition rest ih =>
      rw [List.filter_cons, firstColumns, List.filter_cons]
      cases isSharding : rule.isShardingColumn condition.column with
      | true =>
          rw [if_pos rfl, if_pos rfl, firstColumns, ih, List.filter_filter, List.filter_filter]
          simp only [Bool.and_comm]
      | false =>
          rw [if_neg Bool.false_ne_true, if_neg Bool.false_ne_true, ih, List.filter_filter]
          refine List.filter_congr fun column _ => ?_
          cases same : condition.column.same column with
          | true => rw [← rule.isShardingColumn_congr same, isSharding]; rfl
          | false => simp

theorem lastOn?_filter
    {column : Column}
    (isSharding : rule.isShardingColumn column = true) :
    lastOn? (conditions.filter fun condition => rule.isShardingColumn condition.column) column =
      lastOn? conditions column := by
  unfold lastOn?
  rw [← List.filter_reverse, List.find?_filter]
  congr 1
  funext condition
  cases same : condition.column.same column with
  | true => rw [rule.isShardingColumn_congr same, isSharding]; rfl
  | false => simp

/-- The latest conditions on the columns that some strategy may choose by. -/
theorem latest_filter :
    latest (conditions.filter fun condition => rule.isShardingColumn condition.column) =
      ((firstColumns conditions).filter rule.isShardingColumn).filterMap (lastOn? conditions) := by
  unfold latest
  rw [firstColumns_filter]
  exact List.filterMap_congr fun column member =>
    lastOn?_filter conditions (List.mem_filter.mp member).2

end Sharding

end Condition

namespace Conditions

/-- A condition that is put in its place is the one found on its column. -/
theorem find?_place
    (condition : Condition)
    (conditions : List Condition)
    (column : Column) :
    ((place condition conditions).find? fun present => present.column.same column) =
      if condition.column.same column then some condition
      else conditions.find? fun present => present.column.same column := by
  induction conditions with
  | nil =>
      rw [place, List.find?_singleton]
      rfl
  | cons present rest ih =>
      rw [place]
      cases same : present.column.same condition.column with
      | true =>
          rw [if_pos rfl, List.find?_cons, List.find?_cons, Column.same_congr same]
          cases condition.column.same column with
          | true => rfl
          | false => rfl
      | false =>
          rw [if_neg Bool.false_ne_true, List.find?_cons, List.find?_cons, ih]
          cases isThere : present.column.same column with
          | false => rfl
          | true =>
              -- The column is that of the present condition, so that it is not that of the new one.
              have differs : condition.column.same column = false := by
                rw [Column.same_comm, ← Column.same_congr isThere, same]
              rw [differs]
              rfl

theorem find?_add
    (conditions : Conditions)
    (condition : Condition)
    (column : Column) :
    (conditions.add condition).find? column =
      if condition.column.same column then some condition else conditions.find? column :=
  find?_place condition conditions.toList column

/-- The condition found on a column is the last one that was added on it. -/
theorem find?_foldl_add
    (added : List Condition)
    (conditions : Conditions)
    (column : Column) :
    (added.foldl Conditions.add conditions).find? column =
      (Condition.lastOn? added column).or (conditions.find? column) := by
  induction added generalizing conditions with
  | nil => rfl
  | cons condition rest ih =>
      have one : Condition.lastOn? [condition] column =
          if condition.column.same column then some condition else none :=
        Condition.lastOn?_append_singleton [] condition column
      rw [List.foldl_cons, ih, find?_add, ← List.singleton_append, Condition.lastOn?_append, one]
      cases Condition.lastOn? rest column with
      | some last => rfl
      | none =>
          cases condition.column.same column with
          | true => rfl
          | false => rfl

theorem mem_place
    {condition added : Condition}
    {conditions : List Condition}
    (member : condition ∈ place added conditions) :
    condition = added ∨ condition ∈ conditions := by
  induction conditions with
  | nil => exact .inl (List.mem_singleton.mp member)
  | cons present rest ih =>
      rw [place] at member
      split at member
      · rcases List.mem_cons.mp member with isAdded | isRest
        · exact .inl isAdded
        · exact .inr (List.mem_cons_of_mem _ isRest)
      · rcases List.mem_cons.mp member with isPresent | isLater
        · exact .inr (isPresent ▸ List.mem_cons_self)
        · exact (ih isLater).imp_right (List.mem_cons_of_mem _)

/-- Adding conditions leaves none but the added ones and those that were there. -/
theorem mem_foldl_add
    {condition : Condition}
    {added : List Condition}
    {conditions : Conditions}
    (member : condition ∈ (added.foldl Conditions.add conditions).toList) :
    condition ∈ added ∨ condition ∈ conditions.toList := by
  induction added generalizing conditions with
  | nil => exact .inr member
  | cons first rest ih =>
      rcases ih member with isRest | isEarlier
      · exact .inl (List.mem_cons_of_mem _ isRest)
      · rcases mem_place isEarlier with rfl | isThere
        · exact .inl List.mem_cons_self
        · exact .inr isThere

/-- Whether no two of some conditions are on the same column. -/
def AreApart (conditions : List Condition) : Prop :=
  conditions.Pairwise fun first second => first.column.same second.column = false

/-- A condition takes the place of the one on its column, so that columns are restricted once. -/
theorem areApart_place
    {conditions : List Condition}
    (apart : AreApart conditions)
    (condition : Condition) :
    AreApart (place condition conditions) := by
  induction apart with
  | nil => exact List.pairwise_singleton _ _
  | @cons present rest notPresent restApart ih =>
      rw [place]
      cases same : present.column.same condition.column with
      | true =>
          rw [if_pos rfl]
          refine List.Pairwise.cons (fun other member => ?_) restApart
          rw [← Column.same_congr same, notPresent other member]
      | false =>
          rw [if_neg Bool.false_ne_true]
          refine List.Pairwise.cons (fun other member => ?_) ih
          rcases mem_place member with rfl | isRest
          · exact same
          · exact notPresent other isRest

theorem areApart_foldl_add
    {conditions : Conditions}
    (apart : AreApart conditions.toList)
    (added : List Condition) :
    AreApart (added.foldl Conditions.add conditions).toList := by
  induction added generalizing conditions with
  | nil => exact apart
  | cons condition rest ih => exact ih (areApart_place apart condition)

end Conditions

end ShardedSql
