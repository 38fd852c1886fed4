import ShardedSql.Proofs.Strategy.NameSet

/-!
# Sets of names are canonical

Names are told apart up to the case of their ASCII letters, but a set of them is sorted by lower
case in all of Unicode, and names of one lower-case form stay in the order of their first mention.
The main statement says that the set of some names keeps the first spelling of each of them, that it
is its own set, and that another order of the names changes neither which names it holds nor how
many.
-/

namespace ShardedSql.NameSet

/-- Whether a list is the set of some names: it holds each of them in one spelling, which is the
first one, and it is sorted by lower case, where names of one lower-case form keep their order. -/
structure IsSetOf (names set : List String) : Prop where
  covers : ∀ name ∈ names, ∃ kept ∈ set, Text.sameName kept name = true
  isFirst : ∀ kept ∈ set, (names.find? fun candidate => Text.sameName candidate kept) = some kept
  apart : set.Pairwise fun first second => Text.sameName first second = false
  sorted : set.Pairwise fun first second => precedes first second = true
  stable : ∀ form, (set.filter fun name => Text.lowerCase name = form).Sublist names

/-- The first spellings of a set are spellings of its names. -/
theorem IsSetOf.subset
    {names set : List String}
    (isSet : IsSetOf names set) :
    set ⊆ names :=
  fun kept isKept => List.mem_of_find?_eq_some (isSet.isFirst kept isKept)

section Order

theorem precedes_trans
    (first second third : String)
    (firstSecond : precedes first second = true)
    (secondThird : precedes second third = true) :
    precedes first third = true := by
  simp only [precedes, Bool.not_eq_true', decide_eq_false_iff_not, Std.not_lt]
    at firstSecond secondThird ⊢
  exact Std.le_trans firstSecond secondThird

theorem precedes_total
    (first second : String) :
    (precedes first second || precedes second first) = true := by
  simp only [precedes, Bool.or_eq_true, Bool.not_eq_true', decide_eq_false_iff_not, Std.not_lt]
  exact Std.le_total

theorem precedes_of_eq
    {first second : String}
    (sameForm : Text.lowerCase first = Text.lowerCase second) :
    precedes first second = true := by
  simp only [precedes, sameForm, Bool.not_eq_true', decide_eq_false_iff_not, Std.not_lt]
  exact Std.le_refl _

theorem sorted_ofList (names : List String) :
    (ofList names).Pairwise fun first second => precedes first second = true :=
  List.pairwise_mergeSort precedes_trans precedes_total (distinct names)

end Order

section Spellings

variable {names : List String}

/-- Among names that are apart, each one is the first of its spellings. -/
theorem find?_of_apart
    (apart : names.Pairwise fun first second => Text.sameName first second = false)
    {name : String}
    (member : name ∈ names) :
    (names.find? fun candidate => Text.sameName candidate name) = some name := by
  induction names with
  | nil => cases member
  | cons first rest ih =>
      obtain ⟨firstApart, restApart⟩ := List.pairwise_cons.mp apart
      rcases List.mem_cons.mp member with rfl | isLater
      · simp
      · rw [List.find?_cons_of_neg (by simp [firstApart name isLater])]
        exact ih restApart isLater

/-- Names that are apart from each other and from those kept before are all kept. -/
theorem foldl_insertNew_of_apart
    {kept : List String}
    (apart : (kept ++ names).Pairwise fun first second => Text.sameName first second = false) :
    names.foldl insertNew kept = kept ++ names := by
  induction names generalizing kept with
  | nil => simp
  | cons added rest ih =>
      have isNew : Text.holdsName kept added = false := by
        simpa [Text.holdsName] using fun present isPresent =>
          (List.pairwise_append.mp apart).2.2 present isPresent added List.mem_cons_self
      rw [List.foldl_cons, insertNew, isNew, if_neg Bool.false_ne_true, ih (by simpa using apart)]
      simp

theorem distinct_of_apart
    (apart : names.Pairwise fun first second => Text.sameName first second = false) :
    distinct names = names :=
  foldl_insertNew_of_apart apart

/-- A name of the set is the first spelling of its name. -/
theorem find?_of_mem_ofList
    {kept : String}
    (member : kept ∈ ofList names) :
    (names.find? fun candidate => Text.sameName candidate kept) = some kept := by
  rw [← find?_distinct]
  exact find?_of_apart (pairwise_foldl_insertNew List.Pairwise.nil)
    (mem_ofList_iff_mem_distinct.mp member)

theorem foldl_insertNew_sublist (names kept : List String) :
    (names.foldl insertNew kept).Sublist (kept ++ names) := by
  induction names generalizing kept with
  | nil => simp
  | cons added rest ih =>
      have inserted : (insertNew kept added).Sublist (kept ++ [added]) := by
        unfold insertNew
        split
        · exact List.sublist_append_left kept [added]
        · exact List.Sublist.refl _
      simpa using (ih (insertNew kept added)).trans (inserted.append_right rest)

/-- Names of one lower-case form are not moved past each other. -/
theorem filter_ofList (names : List String) (form : String) :
    ((ofList names).filter fun name => Text.lowerCase name = form) =
      (distinct names).filter fun name => Text.lowerCase name = form := by
  have alike : ((distinct names).filter fun name => Text.lowerCase name = form).Pairwise
      fun first second => precedes first second = true := by
    apply List.pairwise_of_forall_mem_list
    intro first isFirst second isSecond
    simp only [List.mem_filter, decide_eq_true_eq] at isFirst isSecond
    exact precedes_of_eq (isFirst.2.trans isSecond.2.symm)
  have sorted := (List.sublist_mergeSort precedes_trans precedes_total alike
    List.filter_sublist).filter fun name => Text.lowerCase name = form
  have length := ((List.mergeSort_perm (distinct names) precedes).filter
    fun name => Text.lowerCase name = form).length_eq
  rw [List.filter_filter] at sorted
  simp only [Bool.and_self] at sorted
  exact (sorted.eq_of_length length.symm).symm

theorem isSetOf_ofList (names : List String) : IsSetOf names (ofList names) := by
  constructor
  · exact fun name isName => exists_mem_ofList isName
  · exact fun kept isKept => find?_of_mem_ofList isKept
  · exact pairwise_ofList names
  · exact sorted_ofList names
  · intro form
    rw [filter_ofList]
    exact List.filter_sublist.trans (foldl_insertNew_sublist names [])

theorem ofList_ofList (names : List String) : ofList (ofList names) = ofList names :=
  ofList_of_sorted (distinct_of_apart (pairwise_ofList names)) (sorted_ofList names)

end Spellings

section Classes

variable {names others : List String}

theorem mem_map_foldAscii_ofList (folded : List Char) :
    folded ∈ (ofList names).map Text.foldAscii ↔ folded ∈ names.map Text.foldAscii := by
  simp only [List.mem_map]
  constructor
  · rintro ⟨kept, isKept, rfl⟩
    exact ⟨kept, mem_of_mem_ofList isKept, rfl⟩
  · rintro ⟨name, isName, rfl⟩
    obtain ⟨kept, isKept, same⟩ := exists_mem_ofList isName
    exact ⟨kept, isKept, (Text.sameName_iff kept name).mp same⟩

theorem nodup_map_foldAscii_ofList (names : List String) :
    ((ofList names).map Text.foldAscii).Nodup := by
  rw [List.Nodup, List.pairwise_map]
  apply (pairwise_ofList names).imp
  intro first second differ same
  rw [(Text.sameName_iff first second).mpr same] at differ
  cases differ

/-- Names in another order are the same ones, up to the case of their ASCII letters. -/
theorem map_foldAscii_ofList_perm (reordered : others.Perm names) :
    ((ofList others).map Text.foldAscii).Perm ((ofList names).map Text.foldAscii) := by
  rw [List.perm_ext_iff_of_nodup (nodup_map_foldAscii_ofList others)
    (nodup_map_foldAscii_ofList names)]
  intro folded
  rw [mem_map_foldAscii_ofList, mem_map_foldAscii_ofList]
  exact (reordered.map Text.foldAscii).mem_iff

theorem holdsName_iff_mem_foldAscii
    (names : List String)
    (name : String) :
    Text.holdsName names name = true ↔ Text.foldAscii name ∈ names.map Text.foldAscii := by
  simp [holdsName_iff, Text.sameName_iff]

theorem holdsName_ofList_of_perm
    (reordered : others.Perm names)
    (name : String) :
    Text.holdsName (ofList others) name = Text.holdsName (ofList names) name := by
  rw [Bool.eq_iff_iff, holdsName_iff_mem_foldAscii, holdsName_iff_mem_foldAscii]
  exact (map_foldAscii_ofList_perm reordered).mem_iff

theorem length_ofList_of_perm (reordered : others.Perm names) :
    (ofList others).length = (ofList names).length := by
  simpa using (map_foldAscii_ofList_perm reordered).length_eq

end Classes

/-- **The set of some names is canonical.**  It holds the first spelling of each of them and nothing
else, sorted by lower case.  It is its own set, and names in another order have a set of as many
names, which are the same up to the case of their ASCII letters. -/
theorem ofList_isCanonical (names : List String) :
    IsSetOf names (ofList names) ∧
      ofList names ⊆ names ∧
      ofList (ofList names) = ofList names ∧
      ∀ others, others.Perm names →
        (∀ name, Text.holdsName (ofList others) name = Text.holdsName (ofList names) name) ∧
          (ofList others).length = (ofList names).length := by
  refine ⟨isSetOf_ofList names, (isSetOf_ofList names).subset, ofList_ofList names, ?_⟩
  intro others reordered
  exact ⟨holdsName_ofList_of_perm reordered, length_ofList_of_perm reordered⟩

/-- Names in two spellings, two of which have one lower-case form. -/
def mixedNames : List String :=
  ["order", "É", "ID", "é", "Order"]

/-- The same names in alphabetical order. -/
def alphabeticalNames : List String :=
  ["ID", "Order", "order", "É", "é"]

/-- In alphabetical order another spelling of one name comes first, and is kept. -/
theorem ofList_alphabeticalNames :
    alphabeticalNames.Perm mixedNames ∧
      ofList alphabeticalNames = ["ID", "Order", "É", "é"] ∧
      (∀ name, Text.holdsName (ofList alphabeticalNames) name =
        Text.holdsName (ofList mixedNames) name) ∧
      (ofList alphabeticalNames).length = (ofList mixedNames).length := by
  have reordered : alphabeticalNames.Perm mixedNames := by decide
  have kept : distinct alphabeticalNames = ["ID", "Order", "É", "é"] := by decide +kernel
  obtain ⟨-, -, -, alike⟩ := ofList_isCanonical mixedNames
  refine ⟨reordered, ?_, alike alphabeticalNames reordered⟩
  rw [ofList, kept]
  exact List.mergeSort_of_pairwise (by decide +kernel)

end ShardedSql.NameSet
