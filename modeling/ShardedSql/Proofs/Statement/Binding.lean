import ShardedSql.Value
import Mathlib.Data.List.Basic

/-!
# Values for placeholders

The placeholders of a statement take the values that are bound to it from the left.  A key that is bound in
the place of a further placeholder leaves the values of the others as they are.
-/

namespace ShardedSql

/-- Things with the values that they ask for: each one that asks takes the next value. -/
def bindings
    {α : Type}
    (asks : α → Bool) : List α → List Value → List (α × Option Value)
  | [], _ => []
  | first :: rest, values =>
      if asks first then
        (first, values.head?) :: bindings asks rest values.tail
      else
        (first, none) :: bindings asks rest values

section Bindings

variable {α β : Type} {asks : α → Bool} {values more : List Value} {first second : List α}

theorem map_fst_bindings (values : List Value) :
    (bindings asks first values).map Prod.fst = first := by
  induction first generalizing values with
  | nil => rfl
  | cons one rest ih =>
      unfold bindings
      split
      · rw [List.map_cons, ih]
      · rw [List.map_cons, ih]

theorem bindings_append :
    bindings asks (first ++ second) values =
      bindings asks first values ++ bindings asks second (values.drop (first.countP asks)) := by
  induction first generalizing values with
  | nil => rfl
  | cons one rest ih =>
      rw [List.cons_append, bindings, bindings]
      split
      next isAsking =>
        rw [ih, List.countP_cons_of_pos isAsking, List.cons_append, List.drop_tail]
      next isSilent => rw [ih, List.countP_cons_of_neg isSilent, List.cons_append]

/-- Values behind those that are asked for change nothing. -/
theorem bindings_of_enough (enough : first.countP asks ≤ values.length) :
    bindings asks first (values ++ more) = bindings asks first values := by
  induction first generalizing values with
  | nil => rfl
  | cons one rest ih =>
      rw [bindings, bindings]
      split
      next isAsking =>
        rw [List.countP_cons_of_pos isAsking] at enough
        obtain ⟨value, others, rfl⟩ := List.exists_cons_of_length_pos (by omega : 0 < values.length)
        rw [List.cons_append, List.tail_cons, List.tail_cons, List.head?_cons, List.head?_cons,
          ih (Nat.le_of_succ_le_succ enough)]
      next isSilent =>
        rw [List.countP_cons_of_neg isSilent] at enough
        rw [ih enough]

/-- Things that ask for all of some values leave the others to those behind them. -/
theorem bindings_append_of_length (exact : first.countP asks = values.length) :
    bindings asks (first ++ second) (values ++ more) =
      bindings asks first values ++ bindings asks second more := by
  rw [bindings_append, bindings_of_enough (Nat.le_of_eq exact), exact, List.drop_left]

theorem bindings_map
    {asksOther : β → Bool}
    {change : α → β}
    (same : ∀ one ∈ first, asksOther (change one) = asks one) :
    bindings asksOther (first.map change) values =
      (bindings asks first values).map (Prod.map change id) := by
  induction first generalizing values with
  | nil => rfl
  | cons one rest ih =>
      obtain ⟨sameOne, others⟩ := List.forall_mem_cons.mp same
      rw [List.map_cons, bindings, bindings, sameOne]
      split
      · rw [ih others, List.map_cons]
        rfl
      · rw [ih others, List.map_cons]
        rfl

theorem insertIdx_length_append
    (value : α) :
    (first ++ second).insertIdx first.length value = first ++ value :: second := by
  induction first with
  | nil => rfl
  | cons one rest ih => rw [List.cons_append, List.length_cons, List.insertIdx_succ_cons, ih, List.cons_append]

end Bindings

/-- The values with a key among them where values are bound. -/
def withKeyValue
    (values : List Value)
    (index : Nat)
    (key : Int64) : List Value :=
  if values = [] then [] else values.insertIdx index (.integer key)

/-- Two members are added, of which the second one asks for a key where values are bound.  The others take the
values that they took. -/
theorem bindings_withKeyValue
    {α : Type}
    {asks : α → Bool}
    {values : List Value}
    {front middle back : List α}
    {comma column added : α}
    (key : Int64)
    (noComma : asks comma = false)
    (noColumn : asks column = false)
    (isAsking : asks added = true ↔ values ≠ [])
    (inside : values ≠ [] → (front ++ middle).countP asks ≤ values.length) :
    bindings asks (front ++ [comma, column] ++ middle ++ [comma, added] ++ back)
        (withKeyValue values ((front ++ middle).countP asks) key) =
      bindings asks front values ++ [(comma, none), (column, none)] ++
        bindings asks middle (values.drop (front.countP asks)) ++
        [(comma, none), (added, if values = [] then none else some (.integer key))] ++
        bindings asks back (values.drop ((front ++ middle).countP asks)) := by
  by_cases isEmpty : values = []
  · subst isEmpty
    have noAdded : asks added = false := by simpa using isAsking
    simp [withKeyValue, bindings_append, bindings, noComma, noColumn, noAdded]
  · have isAdded := isAsking.mpr isEmpty
    have count : (front ++ [comma, column] ++ middle).countP asks = (front ++ middle).countP asks := by
      simp [noComma, noColumn]
    obtain ⟨taken, others, rfl, isTaken⟩ : ∃ taken others, values = taken ++ others ∧
        taken.length = (front ++ middle).countP asks :=
      ⟨_, _, (List.take_append_drop _ values).symm, List.length_take_of_le (inside isEmpty)⟩
    have enough : front.countP asks ≤ taken.length := by
      rw [isTaken, List.countP_append]
      exact Nat.le_add_right _ _
    have inMiddle : middle.countP asks ≤ (taken.drop (front.countP asks)).length := by
      rw [List.length_drop, isTaken, List.countP_append]
      omega
    rw [withKeyValue, if_neg isEmpty, if_neg isEmpty, ← isTaken, insertIdx_length_append, List.drop_left,
      List.append_assoc _ [comma, added], bindings_append_of_length (count.trans isTaken.symm),
      bindings_append, bindings_append, bindings_append, bindings_of_enough enough,
      List.drop_append_of_le_length enough, bindings_of_enough inMiddle]
    simp [bindings, noComma, noColumn, isAdded]

end ShardedSql
