import ShardedSql.Strategy.NameSet

/-!
# Members of name sets

A set of names holds the first spelling of each name and nothing else.
-/

namespace ShardedSql.NameSet

theorem holdsName_iff
    (names : List String)
    (name : String) :
    Text.holdsName names name = true ↔
      ∃ candidate ∈ names, Text.sameName candidate name = true := by
  simp [Text.holdsName]

/-- Two spellings of one name are found at the same place. -/
theorem find?_sameName_congr
    {first second : String}
    (same : Text.sameName first second = true)
    (names : List String) :
    (names.find? fun candidate => Text.sameName candidate first) =
      names.find? fun candidate => Text.sameName candidate second := by
  simp only [Text.sameName_congr_right same]

/-- Adding a name changes what is found only for a new name. -/
theorem find?_insertNew
    (names : List String)
    (added name : String) :
    ((insertNew names added).find? fun candidate => Text.sameName candidate name) =
      (names ++ [added]).find? fun candidate => Text.sameName candidate name := by
  unfold insertNew
  split
  next held =>
    obtain ⟨present, presentMem, presentSame⟩ := (holdsName_iff names added).mp held
    rw [List.find?_append]
    cases found : names.find? fun candidate => Text.sameName candidate name with
    | some first => simp
    | none =>
        have addedOther : Text.sameName added name = false := by
          rw [Bool.eq_false_iff]
          intro addedSame
          have presentOther := List.find?_eq_none.mp found present presentMem
          exact presentOther (Text.sameName_trans presentSame addedSame)
        simp [addedOther]
  next => rfl

theorem find?_foldl_insertNew
    (names kept : List String)
    (name : String) :
    ((names.foldl insertNew kept).find? fun candidate => Text.sameName candidate name) =
      (kept ++ names).find? fun candidate => Text.sameName candidate name := by
  induction names generalizing kept with
  | nil => simp
  | cons added names ih =>
      rw [List.foldl_cons, ih, List.find?_append, find?_insertNew, ← List.find?_append]
      simp

/-- The first spelling of each name survives. -/
theorem find?_distinct
    (names : List String)
    (name : String) :
    ((distinct names).find? fun candidate => Text.sameName candidate name) =
      names.find? fun candidate => Text.sameName candidate name := by
  simpa [distinct] using find?_foldl_insertNew names [] name

theorem holdsName_distinct
    (names : List String)
    (name : String) :
    Text.holdsName (distinct names) name = Text.holdsName names name := by
  rw [Bool.eq_iff_iff, holdsName_iff, holdsName_iff, ← List.find?_isSome, ← List.find?_isSome,
    find?_distinct]

theorem mem_ofList_iff_mem_distinct
    {names : List String}
    {name : String} :
    name ∈ ofList names ↔ name ∈ distinct names := by
  simp [ofList]

theorem mem_foldl_insertNew
    {names kept : List String}
    {name : String}
    (member : name ∈ names.foldl insertNew kept) :
    name ∈ kept ∨ name ∈ names := by
  induction names generalizing kept with
  | nil => exact Or.inl member
  | cons added names ih =>
      rcases ih member with early | late
      · unfold insertNew at early
        split at early
        · exact Or.inl early
        · rcases List.mem_append.mp early with old | new
          · exact Or.inl old
          · rw [List.mem_singleton.mp new]
            exact Or.inr List.mem_cons_self
      · exact Or.inr (List.mem_cons_of_mem added late)

theorem mem_of_mem_ofList
    {names : List String}
    {name : String}
    (member : name ∈ ofList names) :
    name ∈ names := by
  rw [mem_ofList_iff_mem_distinct] at member
  simpa using mem_foldl_insertNew member

/-- The first spelling of a name belongs to the set. -/
theorem mem_ofList_of_first
    {names : List String}
    {name : String}
    (first : (names.find? fun candidate => Text.sameName candidate name) = some name) :
    name ∈ ofList names := by
  rw [mem_ofList_iff_mem_distinct]
  rw [← find?_distinct] at first
  exact List.mem_of_find?_eq_some first

/-- A name that has one spelling belongs to the set. -/
theorem mem_ofList_of_unique
    {names : List String}
    {name : String}
    (member : name ∈ names)
    (unique : ∀ other ∈ names, Text.sameName other name = true → other = name) :
    name ∈ ofList names := by
  apply mem_ofList_of_first
  cases found : names.find? fun candidate => Text.sameName candidate name with
  | none =>
      have differs := List.find?_eq_none.mp found name member
      exact absurd (Text.sameName_refl name) differs
  | some first =>
      have same := List.find?_some found
      rw [unique first (List.mem_of_find?_eq_some found) same]

/-- Each name belongs to the set in some spelling. -/
theorem exists_mem_ofList
    {names : List String}
    {name : String}
    (member : name ∈ names) :
    ∃ kept ∈ ofList names, Text.sameName kept name = true := by
  cases found : names.find? fun candidate => Text.sameName candidate name with
  | none =>
      have differs := List.find?_eq_none.mp found name member
      exact absurd (Text.sameName_refl name) differs
  | some first =>
      have same := List.find?_some found
      refine ⟨first, mem_ofList_of_first ?_, same⟩
      rw [find?_sameName_congr same names]
      exact found

theorem pairwise_foldl_insertNew
    {names kept : List String}
    (apart : kept.Pairwise fun first second => Text.sameName first second = false) :
    (names.foldl insertNew kept).Pairwise
      fun first second => Text.sameName first second = false := by
  induction names generalizing kept with
  | nil => exact apart
  | cons added names ih =>
      apply ih
      unfold insertNew
      split
      next => exact apart
      next absent =>
        refine List.pairwise_append.mpr ⟨apart, List.pairwise_singleton _ _, ?_⟩
        intro present presentMem other otherMem
        rw [List.mem_singleton.mp otherMem, Bool.eq_false_iff]
        intro same
        exact absent ((holdsName_iff kept added).mpr ⟨present, presentMem, same⟩)

/-- No two members of a set are spellings of one name. -/
theorem pairwise_ofList (names : List String) :
    (ofList names).Pairwise fun first second => Text.sameName first second = false := by
  have apart : (distinct names).Pairwise
      fun first second => Text.sameName first second = false :=
    pairwise_foldl_insertNew List.Pairwise.nil
  have symmetric {first second : String}
      (differ : Text.sameName first second = false) : Text.sameName second first = false := by
    rw [Text.sameName_comm]
    exact differ
  exact (List.mergeSort_perm (distinct names) precedes).symm.pairwise apart symmetric

theorem ofList_ne_nil
    {names : List String}
    (nonempty : names ≠ []) :
    ofList names ≠ [] := by
  obtain ⟨name, member⟩ := List.exists_mem_of_ne_nil names nonempty
  obtain ⟨kept, keptMem, _⟩ := exists_mem_ofList member
  exact List.ne_nil_of_mem keptMem

/-- Names that are sorted and distinct are their own set. -/
theorem ofList_of_sorted
    {names : List String}
    (apart : distinct names = names)
    (sorted : names.Pairwise fun first second => precedes first second = true) :
    ofList names = names := by
  rw [ofList, apart]
  exact List.mergeSort_of_pairwise sorted

/-- Names that are all apart hold a name once. -/
theorem exists_filter_sameName
    {names : List String}
    (apart : names.Pairwise fun first second => Text.sameName first second = false)
    {name : String}
    (held : Text.holdsName names name = true) :
    ∃ kept, (names.filter fun candidate => Text.sameName candidate name) = [kept] := by
  induction names with
  | nil => exact absurd held Bool.false_ne_true
  | cons first rest ih =>
      obtain ⟨firstApart, restApart⟩ := List.pairwise_cons.mp apart
      by_cases same : Text.sameName first name = true
      · refine ⟨first, ?_⟩
        rw [List.filter_cons, if_pos same, List.filter_eq_nil_iff.mpr]
        intro other otherMem otherSame
        rw [Text.sameName_comm] at otherSame
        have both := Text.sameName_trans same otherSame
        rw [firstApart other otherMem] at both
        exact Bool.false_ne_true both
      · rw [List.filter_cons, if_neg same]
        apply ih restApart
        simpa [Text.holdsName, same] using held

@[simp]
theorem ofList_nil : ofList [] = [] := by
  simp [ofList, distinct]

@[simp]
theorem ofList_singleton (name : String) :
    ofList [name] = [name] := by
  simp [ofList, distinct, insertNew, Text.holdsName]

end ShardedSql.NameSet
