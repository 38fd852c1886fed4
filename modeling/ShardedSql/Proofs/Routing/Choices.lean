import ShardedSql.Routing.Cartesian
import Mathlib.Algebra.BigOperators.Group.List.Basic

/-!
# Choices by position

A choice of one member of each group is told by the positions of the chosen members.  The main
statement says that the choices are listed with every vector of positions once, in lexicographic order.
-/

namespace ShardedSql

namespace Cartesian

section Choices

variable {α : Type}

/-- The members at the given positions, one of each group. -/
def pick? : List (List α) → List Nat → Option (List α)
  | [], [] => some []
  | group :: groups, position :: positions =>
      group[position]?.bind fun member => (pick? groups positions).map (member :: ·)
  | _, _ => none

/-- Whether lists are all the choices of one member of each group, each vector of positions once and
in lexicographic order. -/
def AreAllChoices (groups chosen : List (List α)) : Prop :=
  ∃ positions : List (List Nat),
    positions.Pairwise (fun earlier later => earlier < later) ∧
    (∀ choice, choice ∈ positions ↔ (pick? groups choice).isSome = true) ∧
    chosen.map some = positions.map (pick? groups)

/-- The vectors of positions within the groups. -/
def positions (groups : List (List α)) : List (List Nat) :=
  choices (groups.map fun group => List.range group.length)

theorem mem_choices_cons
    {group : List α}
    {groups : List (List α)}
    {choice : List α} :
    choice ∈ choices (group :: groups) ↔
      ∃ member ∈ group, ∃ others ∈ choices groups, member :: others = choice := by
  simp [choices]

theorem pick?_cons_isSome
    (group : List α)
    (groups : List (List α))
    (position : Nat)
    (others : List Nat) :
    (pick? (group :: groups) (position :: others)).isSome = true ↔
      position < group.length ∧ (pick? groups others).isSome = true := by
  rw [pick?]
  cases within : group[position]? with
  | none => simpa using fun inside => absurd inside (by simpa using within)
  | some member =>
      have inside : position < group.length := by
        rw [List.getElem?_eq_some_iff] at within
        exact within.choose
      simp [inside]

/-- The listed vectors are those that pick a member of each group. -/
theorem mem_positions
    (groups : List (List α))
    (choice : List Nat) :
    choice ∈ positions groups ↔ (pick? groups choice).isSome = true := by
  induction groups generalizing choice with
  | nil => cases choice <;> simp [positions, choices, pick?]
  | cons group groups ih =>
      rw [positions, List.map_cons, mem_choices_cons]
      cases choice with
      | nil => simp [pick?]
      | cons position others =>
          rw [pick?_cons_isSome, ← ih others]
          constructor
          · rintro ⟨member, memberMem, rest, restMem, whole⟩
            obtain ⟨rfl, rfl⟩ := List.cons.inj whole
            exact ⟨List.mem_range.mp memberMem, restMem⟩
          · rintro ⟨inside, restMem⟩
            exact ⟨position, List.mem_range.mpr inside, others, restMem, rfl⟩

/-- Choices from ascending groups ascend lexicographically. -/
theorem pairwise_choices
    {groups : List (List Nat)}
    (ascend : ∀ group ∈ groups, group.Pairwise fun earlier later => earlier < later) :
    (choices groups).Pairwise fun earlier later => earlier < later := by
  induction groups with
  | nil => exact List.pairwise_singleton _ _
  | cons group groups ih =>
      have rest := ih fun other otherMem => ascend other (List.mem_cons_of_mem group otherMem)
      rw [choices, List.pairwise_flatMap]
      constructor
      · intro member _
        rw [List.pairwise_map]
        refine rest.imp ?_
        intro earlier later before
        exact List.cons_lt_cons_iff.mpr (Or.inr ⟨rfl, before⟩)
      · refine (ascend group List.mem_cons_self).imp ?_
        intro earlier later before left leftMem right rightMem
        obtain ⟨leftRest, _, rfl⟩ := List.mem_map.mp leftMem
        obtain ⟨rightRest, _, rfl⟩ := List.mem_map.mp rightMem
        exact List.cons_lt_cons_iff.mpr (Or.inl before)

theorem pairwise_positions (groups : List (List α)) :
    (positions groups).Pairwise fun earlier later => earlier < later := by
  apply pairwise_choices
  intro group groupMem
  obtain ⟨members, _, rfl⟩ := List.mem_map.mp groupMem
  exact List.pairwise_lt_range

/-- The choices are what the vectors of positions pick. -/
theorem map_some_choices (groups : List (List α)) :
    (choices groups).map some = (positions groups).map (pick? groups) := by
  induction groups with
  | nil => rfl
  | cons group groups ih =>
      have perMember (position : Fin group.length) :
          ((choices groups).map (group.get position :: ·)).map some =
            ((positions groups).map (position.val :: ·)).map (pick? (group :: groups)) := by
        calc
          ((choices groups).map (group.get position :: ·)).map some =
              ((choices groups).map some).map (Option.map (group.get position :: ·)) := by
            simp [List.map_map, Function.comp_def]
          _ = ((positions groups).map (pick? groups)).map
                (Option.map (group.get position :: ·)) := by
            rw [ih]
          _ = ((positions groups).map (position.val :: ·)).map (pick? (group :: groups)) := by
            simp [List.map_map, Function.comp_def, pick?]
      -- Members and positions are read off one list of indices.
      calc
        (choices (group :: groups)).map some =
            ((List.finRange group.length).map group.get).flatMap fun member =>
              ((choices groups).map (member :: ·)).map some := by
          rw [List.map_get_finRange, choices, List.map_flatMap]
        _ = (List.finRange group.length).flatMap fun position =>
              ((positions groups).map (position.val :: ·)).map (pick? (group :: groups)) := by
          rw [List.flatMap_map]
          exact List.flatMap_congr fun position _ => perMember position
        _ = (positions (group :: groups)).map (pick? (group :: groups)) := by
          conv_rhs => rw [positions, List.map_cons, choices, List.map_flatMap,
            ← List.map_coe_finRange_eq_range, List.flatMap_map]
          rfl

theorem areAllChoices_choices (groups : List (List α)) :
    AreAllChoices groups (choices groups) :=
  ⟨positions groups, pairwise_positions groups, mem_positions groups, map_some_choices groups⟩

theorem length_choices (groups : List (List α)) :
    (choices groups).length = (groups.map List.length).prod := by
  induction groups with
  | nil => rfl
  | cons group groups ih => simp [choices, ih]

/-- Reading the members through a function reads the choices through it. -/
theorem choices_map
    {β : Type}
    (read : α → β)
    (groups : List (List α)) :
    choices (groups.map (List.map read)) = (choices groups).map (List.map read) := by
  induction groups with
  | nil => rfl
  | cons group groups ih =>
      simp [choices, ih, List.flatMap_map, List.map_flatMap, Function.comp_def]

theorem ne_nil_of_mem_choices
    {groups : List (List α)}
    (nonempty : groups ≠ [])
    {choice : List α}
    (member : choice ∈ choices groups) :
    choice ≠ [] := by
  cases groups with
  | nil => exact absurd rfl nonempty
  | cons group groups =>
      obtain ⟨first, _, others, _, rfl⟩ := mem_choices_cons.mp member
      exact List.cons_ne_nil first others

/-- The members of a choice are members of the groups. -/
theorem exists_group_of_mem_choices
    {groups : List (List α)}
    {choice : List α}
    (choiceMem : choice ∈ choices groups)
    {member : α}
    (isMember : member ∈ choice) :
    ∃ group ∈ groups, member ∈ group := by
  induction groups generalizing choice with
  | nil =>
      rw [List.mem_singleton.mp choiceMem] at isMember
      cases isMember
  | cons group groups ih =>
      obtain ⟨first, firstMem, others, othersMem, rfl⟩ := mem_choices_cons.mp choiceMem
      rcases List.mem_cons.mp isMember with rfl | isOther
      · exact ⟨group, List.mem_cons_self, firstMem⟩
      · obtain ⟨found, foundMem, held⟩ := ih othersMem isOther
        exact ⟨found, List.mem_cons_of_mem group foundMem, held⟩

theorem exists_mem_choices
    {groups : List (List α)}
    (nonempty : ∀ group ∈ groups, group ≠ []) :
    ∃ choice, choice ∈ choices groups := by
  induction groups with
  | nil => exact ⟨[], List.mem_cons_self⟩
  | cons group groups ih =>
      rw [List.forall_mem_cons] at nonempty
      obtain ⟨member, memberMem⟩ := List.exists_mem_of_ne_nil group nonempty.1
      obtain ⟨others, othersMem⟩ := ih nonempty.2
      exact ⟨member :: others, mem_choices_cons.mpr ⟨member, memberMem, others, othersMem, rfl⟩⟩

/-- All choices agree with a list place by place if and only if all members of each group do. -/
theorem forall_mem_choices_iff
    {β : Type}
    {related : α → β → Prop}
    {groups : List (List α)}
    {labels : List β}
    (nonempty : ∀ group ∈ groups, group ≠ []) :
    (∀ choice ∈ choices groups, List.Forall₂ related choice labels) ↔
      List.Forall₂ (fun group label => ∀ member ∈ group, related member label) groups labels := by
  induction groups generalizing labels with
  | nil => simp [choices]
  | cons group groups ih =>
      rw [List.forall_mem_cons] at nonempty
      constructor
      · intro agree
        have agrees : ∀ member ∈ group, ∀ others ∈ choices groups,
            List.Forall₂ related (member :: others) labels := fun member memberMem others othersMem =>
          agree _ (mem_choices_cons.mpr ⟨member, memberMem, others, othersMem, rfl⟩)
        obtain ⟨member, memberMem⟩ := List.exists_mem_of_ne_nil group nonempty.1
        obtain ⟨others, othersMem⟩ := exists_mem_choices nonempty.2
        cases labels with
        | nil => cases agrees member memberMem others othersMem
        | cons label labels =>
            refine .cons (fun other otherMem => ?_) ((ih nonempty.2).mp fun rest restMem => ?_)
            · exact (List.forall₂_cons.mp (agrees other otherMem others othersMem)).1
            · exact (List.forall₂_cons.mp (agrees member memberMem rest restMem)).2
      · rintro (_ | ⟨first, rest⟩) choice choiceMem
        obtain ⟨member, memberMem, others, othersMem, rfl⟩ := mem_choices_cons.mp choiceMem
        exact .cons (first member memberMem) ((ih nonempty.2).mpr rest others othersMem)

end Choices

end Cartesian

end ShardedSql
