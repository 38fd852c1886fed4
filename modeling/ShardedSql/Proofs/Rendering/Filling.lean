import Mathlib.Algebra.Order.BigOperators.Group.List
import ShardedSql.Proofs.Rendering.Splicing

/-!
# The text of a statement tells the actual table

The name of an actual table is written in the quotes of the name that it replaces, and nothing else of the
text depends on it.  So the texts of a statement for two names of one table are different, wherever and
however often the table is named.
-/

namespace ShardedSql

namespace Text

/-- Whether a text is a given name between two fixed texts. -/
def HoldsName (write : String → String) : Prop :=
  ∃ opening closing, ∀ name, write name = opening ++ name ++ closing

theorem HoldsName.injective
    {write : String → String}
    (holds : HoldsName write) :
    Function.Injective write := by
  obtain ⟨opening, closing, written⟩ := holds
  intro first second equal
  rwa [written, written, String.append_left_inj, String.append_right_inj] at equal

theorem HoldsName.length_lt
    {write : String → String}
    (holds : HoldsName write)
    {first second : String}
    (shorter : first.length < second.length) :
    (write first).length < (write second).length := by
  obtain ⟨opening, closing, written⟩ := holds
  simp only [written, String.length_append]
  omega

theorem HoldsName.length_eq
    {write : String → String}
    (holds : HoldsName write)
    {first second : String}
    (sameLength : first.length = second.length) :
    (write first).length = (write second).length := by
  obtain ⟨opening, closing, written⟩ := holds
  simp only [written, String.length_append, sameLength]

/-- Texts of one length that begin two equal texts are equal, and so is what follows them. -/
theorem append_inj
    {first second rest otherRest : String}
    (equal : first ++ rest = second ++ otherRest)
    (sameLength : first.length = second.length) :
    first = second ∧ rest = otherRest := by
  have characters := congrArg String.toList equal
  rw [String.toList_append, String.toList_append] at characters
  obtain ⟨fronts, backs⟩ := List.append_inj characters (by simpa only [String.length_toList] using sameLength)
  exact ⟨String.toList_inj.mp fronts, String.toList_inj.mp backs⟩

section Splices

variable {text : String} {start stop : Nat} {markers : List Marker} {first second : Marker → String}

theorem length_splice (replace : Marker → String) :
    (splice text replace stop start markers).length =
      (splice text (fun _ => "") stop start markers).length +
        (markers.map fun marker => (replace marker).length).sum := by
  induction markers generalizing start with
  | nil => rfl
  | cons marker markers ih =>
      rw [splice, splice, List.map_cons, List.sum_cons]
      simp only [String.length_append, ih, String.length_empty]
      omega

/-- Two texts with replacements of the same lengths are equal only if the replacements are. -/
theorem eq_of_splice_eq
    (sameLengths : ∀ marker ∈ markers, (first marker).length = (second marker).length)
    (equal : splice text first stop start markers = splice text second stop start markers) :
    ∀ marker ∈ markers, first marker = second marker := by
  induction markers generalizing start with
  | nil => nofun
  | cons marker markers ih =>
      obtain ⟨sameLength, others⟩ := List.forall_mem_cons.mp sameLengths
      rw [splice, splice, String.append_assoc, String.append_assoc] at equal
      obtain ⟨-, replaced⟩ := append_inj equal rfl
      obtain ⟨same, rest⟩ := append_inj replaced sameLength
      exact List.forall_mem_cons.mpr ⟨same, ih others rest⟩

end Splices

/-- **A text in which a name is replaced tells the name.**  Each replacement is fixed or holds the name, and
some replacement holds it. -/
theorem splice_injective
    {text : String}
    {start stop : Nat}
    {markers : List Marker}
    {replace : String → Marker → String}
    (areShaped : ∀ marker ∈ markers,
      (∀ first second, replace first marker = replace second marker) ∨
        HoldsName fun name => replace name marker)
    (isHeld : ∃ marker ∈ markers, HoldsName fun name => replace name marker) :
    Function.Injective fun name => splice text (replace name) stop start markers := by
  -- A longer name makes a longer text.
  have longer : ∀ {first second : String}, first.length < second.length →
      (splice text (replace first) stop start markers).length <
        (splice text (replace second) stop start markers).length := by
    intro first second shorter
    rw [length_splice, length_splice (replace second)]
    refine Nat.add_lt_add_left (List.sum_lt_sum _ _ (fun marker member => ?_) ?_) _
    · rcases areShaped marker member with isFixed | holds
      · rw [isFixed first second]
      · exact (holds.length_lt shorter).le
    · obtain ⟨marker, member, holds⟩ := isHeld
      exact ⟨marker, member, holds.length_lt shorter⟩
  intro first second equal
  have sameLength : first.length = second.length := by
    have sameTexts := congrArg String.length equal
    rcases Nat.lt_trichotomy first.length second.length with shorter | same | shorter
    · exact absurd sameTexts (longer shorter).ne
    · exact same
    · exact absurd sameTexts (longer shorter).ne'
  obtain ⟨marker, member, holds⟩ := isHeld
  refine holds.injective (eq_of_splice_eq (fun other isOther => ?_) equal marker member)
  rcases areShaped other isOther with isFixed | otherHolds
  · rw [isFixed first second]
  · exact otherHolds.length_eq sameLength

end Text

/-- A name is written in the quotes of the name that it replaces. -/
theorem Template.holdsName_requote (written : String) :
    Text.HoldsName (requote written) := by
  unfold requote
  dsimp only
  split
  next opening closing _ _ =>
    split
    next => exact ⟨String.singleton opening, String.singleton closing, fun _ => rfl⟩
    next =>
      split
      next => exact ⟨"[", "]", fun _ => rfl⟩
      next => exact ⟨"", "", by simp⟩
  next => exact ⟨"", "", by simp⟩

namespace RenderRequest

variable {request : RenderRequest} {isWidened : Bool} {key : String}

theorem holdsName_of_table
    {position : Nat}
    {literals : String}
    (isTable : Text.lowerCase (unquoteName literals) = key) :
    Text.HoldsName fun name =>
      request.replacement isWidened [(key, name)] (.table position literals) := by
  simpa [replacement, Template.fillSegment, TableNames.find?, isTable] using
    Template.holdsName_requote literals

/-- What takes the place of a marker is fixed, or holds the name that is filled in. -/
theorem replacement_shaped (marker : Marker) :
    (∀ first second, request.replacement isWidened [(key, first)] marker =
      request.replacement isWidened [(key, second)] marker) ∨
      Text.HoldsName fun name => request.replacement isWidened [(key, name)] marker := by
  cases marker with
  | table position literals =>
      by_cases isTable : Text.lowerCase (unquoteName literals) = key
      · exact .inr (holdsName_of_table isTable)
      · refine .inl fun first second => ?_
        have isOther : (key == Text.lowerCase (unquoteName literals)) = false :=
          beq_false_of_ne (Ne.symm isTable)
        simp [replacement, Template.fillSegment, TableNames.find?, isOther]
  | items => exact .inl fun _ _ => rfl
  | orderBy => exact .inl fun _ _ => rfl
  | rowCount => exact .inl fun _ _ => rfl
  | offset => exact .inl fun _ _ => rfl

/-- The text for one table tells its name, if the table is marked somewhere. -/
theorem Splices.fill_injective
    {markers : List Marker}
    (splices : request.Splices markers)
    {template : Template}
    (ran : request.template isWidened = .ok template)
    {position : Nat}
    {literals : String}
    (isMarked : .table position literals ∈ request.statement.markers)
    (isTable : Text.lowerCase (unquoteName literals) = key) :
    Function.Injective fun name => template.fill [(key, name)] := by
  have filled : (fun name => template.fill [(key, name)]) = fun name =>
      Text.splice request.sql (request.replacement isWidened [(key, name)])
        request.sql.utf8ByteSize 0 markers :=
    funext fun name => splices.fills isWidened template [(key, name)] ran
  rw [filled]
  exact Text.splice_injective (fun marker _ => replacement_shaped marker)
    ⟨_, splices.isPerm.symm.subset isMarked, holdsName_of_table isTable⟩

end RenderRequest

end ShardedSql
