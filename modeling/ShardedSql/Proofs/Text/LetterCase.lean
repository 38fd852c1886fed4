import ShardedSql.Text.AsciiCase
import ShardedSql.Text.LowerCase
import Mathlib.Data.List.Basic

/-!
# Names that differ in the case of ASCII letters

Lower-casing follows all of Unicode, and a capital sigma is lower-cased by its neighbours.  Names that are
equal up to the case of their ASCII letters are nevertheless equal in lower case.
-/

namespace ShardedSql.Text

section Folding

variable {α : Type} {first second : Char}

/-- Beyond ASCII, a character has no other case. -/
theorem toLower_eq_self_of_le
    {character : Char}
    (isBeyond : 128 ≤ character.toNat) :
    character.toLower = character := by
  unfold Char.toLower
  rw [dif_neg]
  rintro ⟨-, isSmall⟩
  have bound : character.toNat ≤ 90 := isSmall
  omega

/-- What depends on no ASCII letter's case is the same for characters that differ in it only. -/
theorem eq_of_toLower_eq
    (property : Char → α)
    (folds : ∀ code < 128, property (Char.ofNat code) = property (Char.ofNat code).toLower)
    (same : first.toLower = second.toLower) :
    property first = property second := by
  have foldsAll : ∀ character, property character = property character.toLower := by
    intro character
    by_cases isAscii : character.toNat < 128
    · have folded := folds character.toNat isAscii
      rwa [Char.ofNat_toNat] at folded
    · rw [toLower_eq_self_of_le (Nat.le_of_not_lt isAscii)]
  rw [foldsAll first, foldsAll second, same]

theorem isCased_eq (same : first.toLower = second.toLower) :
    isCased first = isCased second :=
  eq_of_toLower_eq isCased (by decide +kernel) same

theorem isCaseIgnorable_eq (same : first.toLower = second.toLower) :
    isCaseIgnorable first = isCaseIgnorable second :=
  eq_of_toLower_eq isCaseIgnorable (by decide +kernel) same

theorem lowerCharacter_eq (same : first.toLower = second.toLower) :
    lowerCharacter first = lowerCharacter second :=
  eq_of_toLower_eq lowerCharacter (by decide +kernel) same

/-- A character beyond ASCII is told apart from every character whose case matters. -/
theorem eq_iff_eq_of_toLower_eq
    (other : Char)
    (isBeyond : 128 ≤ other.toNat)
    (same : first.toLower = second.toLower) :
    first = other ↔ second = other := by
  have folds : ∀ code < 128,
      decide (Char.ofNat code = other) = decide ((Char.ofNat code).toLower = other) := by
    have isAscii : ∀ code < 128, (Char.ofNat code).toNat < 128 ∧ (Char.ofNat code).toLower.toNat < 128 := by
      decide +kernel
    intro code isSmall
    have differs : Char.ofNat code ≠ other := fun isOther => by
      have isAsciiOther := (isAscii code isSmall).1
      rw [isOther] at isAsciiOther
      omega
    have differsLower : (Char.ofNat code).toLower ≠ other := fun isOther => by
      have isAsciiOther := (isAscii code isSmall).2
      rw [isOther] at isAsciiOther
      omega
    rw [decide_eq_false differs, decide_eq_false differsLower]
  simpa using eq_of_toLower_eq (fun character => decide (character = other)) folds same

end Folding

section Words

variable {first second : List Char}

theorem reachesCased_eq (same : first.map Char.toLower = second.map Char.toLower) :
    reachesCased first = reachesCased second := by
  induction first generalizing second with
  | nil =>
      rw [List.map_nil, eq_comm, List.map_eq_nil_iff] at same
      rw [same]
  | cons one rest ih =>
      obtain ⟨other, others, rfl, sameHead, sameRest⟩ := List.map_eq_cons_iff.mp same.symm
      have heads := isCaseIgnorable_eq sameHead
      unfold reachesCased at ih ⊢
      rw [List.find?_cons, List.find?_cons, heads]
      cases isCaseIgnorable one with
      | true => exact ih sameRest.symm
      | false => exact isCased_eq sameHead.symm

theorem lowerCharacters_eq
    {before after : List Char}
    (sameBefore : before.map Char.toLower = after.map Char.toLower)
    (same : first.map Char.toLower = second.map Char.toLower) :
    lowerCharacters before first = lowerCharacters after second := by
  induction first generalizing before after second with
  | nil =>
      rw [List.map_nil, eq_comm, List.map_eq_nil_iff] at same
      rw [same]
      rfl
  | cons one rest ih =>
      obtain ⟨other, others, rfl, sameHead, sameRest⟩ := List.map_eq_cons_iff.mp same.symm
      have isSigma := eq_iff_eq_of_toLower_eq 'Σ' (by decide) sameHead
      have isDotted := eq_iff_eq_of_toLower_eq 'İ' (by decide) sameHead
      have later := @ih others (one :: before) (other :: after)
        (by rw [List.map_cons, List.map_cons, sameBefore, sameHead]) sameRest.symm
      simp only [lowerCharacters, isSigma, isDotted, lowerCharacter_eq sameHead,
        reachesCased_eq sameBefore, reachesCased_eq sameRest, later]

end Words

/-- Names that are equal up to the case of their ASCII letters are equal in lower case. -/
theorem lowerCase_eq_of_sameName
    {first second : String}
    (same : sameName first second = true) :
    lowerCase first = lowerCase second := by
  rw [sameName_iff] at same
  rw [lowerCase, lowerCase, lowerCharacters_eq rfl same]

end ShardedSql.Text
