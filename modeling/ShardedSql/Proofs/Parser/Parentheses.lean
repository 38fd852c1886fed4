import Mathlib.Data.List.Basic
import ShardedSql.Proofs.Parser.Disjunction

/-!
# Groups in parentheses

A parse passes a group by counting the parentheses that are open.  This file says what the count is
at each token of the group, and that the group ends with the one parenthesis that closes it, or with
the text when there is none.
-/

namespace ShardedSql

namespace Parentheses

/-- The number of tokens that open a group. -/
def openings (tokens : List Token) : Nat :=
  tokens.countP Token.opensGroup

/-- The number of tokens that close a group. -/
def closings (tokens : List Token) : Nat :=
  tokens.countP Token.closesGroup

/-- Whether some tokens never close more groups than are open: those that are open in front of them
and those that they open themselves. -/
def Covers (opened : Nat) (tokens : List Token) : Prop :=
  ∀ front, front <+: tokens → closings front ≤ opened + openings front

/-- Whether some tokens close all the groups that they open, and no others. -/
structure IsBalanced (tokens : List Token) : Prop where
  covers : Covers 0 tokens
  level : closings tokens = openings tokens

end Parentheses

open Parentheses

namespace Token

variable {token : Token}

theorem opensGroup_iff : token.opensGroup = true ↔ token.kind = .symbol .leftParen := by
  simp [opensGroup]

theorem closesGroup_iff : token.closesGroup = true ↔ token.kind = .symbol .rightParen := by
  simp [closesGroup]

theorem closesGroup_of_opensGroup (opens : token.opensGroup = true) : token.closesGroup = false := by
  simp [closesGroup, opensGroup_iff.mp opens]

theorem opensGroup_of_closesGroup (closes : token.closesGroup = true) : token.opensGroup = false := by
  simp [opensGroup, closesGroup_iff.mp closes]

end Token

namespace Parentheses

section Counting

variable {opened : Nat} {token : Token} {first second tokens : List Token}

@[simp]
theorem openings_nil : openings [] = 0 :=
  rfl

@[simp]
theorem closings_nil : closings [] = 0 :=
  rfl

@[simp]
theorem openings_append (first second : List Token) :
    openings (first ++ second) = openings first + openings second :=
  List.countP_append

@[simp]
theorem closings_append (first second : List Token) :
    closings (first ++ second) = closings first + closings second :=
  List.countP_append

@[simp]
theorem openings_cons (token : Token) (tokens : List Token) :
    openings (token :: tokens) = token.opensGroup.toNat + openings tokens := by
  cases opens : token.opensGroup <;> simp [openings, opens, Nat.add_comm]

@[simp]
theorem closings_cons (token : Token) (tokens : List Token) :
    closings (token :: tokens) = token.closesGroup.toNat + closings tokens := by
  cases closes : token.closesGroup <;> simp [closings, closes, Nat.add_comm]

@[simp]
theorem covers_nil (opened : Nat) : Covers opened [] := by
  intro front isFront
  rw [List.prefix_nil.mp isFront]
  exact Nat.zero_le _

theorem covers_cons_iff :
    Covers opened (token :: tokens) ↔
      token.closesGroup.toNat ≤ opened + token.opensGroup.toNat ∧
        Covers (opened + token.opensGroup.toNat - token.closesGroup.toNat) tokens := by
  constructor
  · intro covers
    have atFirst := covers [token] ⟨tokens, rfl⟩
    simp only [openings_cons, closings_cons, openings_nil, closings_nil, Nat.add_zero] at atFirst
    refine ⟨atFirst, fun front isFront => ?_⟩
    have later := covers (token :: front) (List.cons_prefix_cons.mpr ⟨rfl, isFront⟩)
    rw [openings_cons, closings_cons] at later
    omega
  · rintro ⟨atFirst, covers⟩ front isFront
    rcases List.prefix_cons_iff.mp isFront with rfl | ⟨rest, rfl, isRest⟩
    · exact Nat.zero_le _
    · have later := covers rest isRest
      rw [openings_cons, closings_cons]
      omega

theorem covers_append_iff :
    Covers opened (first ++ second) ↔
      Covers opened first ∧ Covers (opened + openings first - closings first) second := by
  induction first generalizing opened with
  | nil => simp
  | cons token first ih =>
      rw [List.cons_append, covers_cons_iff, ih, covers_cons_iff, and_assoc, and_congr_right_iff,
        openings_cons, closings_cons]
      intro atFirst
      have behind : opened + token.opensGroup.toNat - token.closesGroup.toNat + openings first -
          closings first = opened + (token.opensGroup.toNat + openings first) -
            (token.closesGroup.toNat + closings first) := by
        omega
      rw [behind]

theorem Covers.mono
    {more : Nat}
    (covers : Covers opened tokens)
    (isMore : opened ≤ more) :
    Covers more tokens := by
  intro front isFront
  have covered := covers front isFront
  omega

theorem Covers.closings_le (covers : Covers opened tokens) :
    closings tokens ≤ opened + openings tokens :=
  covers tokens (List.prefix_refl tokens)

/-- Either no group in front of some tokens is closed by them that is not open, or the first
parenthesis that closes one stands behind tokens that close all that are. -/
theorem covers_or_exists_closing (opened : Nat) (tokens : List Token) :
    Covers opened tokens ∨
      ∃ inside closing behind,
        tokens = inside ++ closing :: behind ∧ closing.closesGroup = true ∧
          Covers opened inside ∧ closings inside = opened + openings inside := by
  induction tokens generalizing opened with
  | nil => exact .inl (covers_nil opened)
  | cons token rest ih =>
      by_cases isCovered : token.closesGroup.toNat ≤ opened + token.opensGroup.toNat
      · rcases ih (opened + token.opensGroup.toNat - token.closesGroup.toNat) with
          covers | ⟨inside, closing, behind, rfl, closes, covers, level⟩
        · exact .inl (covers_cons_iff.mpr ⟨isCovered, covers⟩)
        · refine .inr ⟨token :: inside, closing, behind, rfl, closes,
            covers_cons_iff.mpr ⟨isCovered, covers⟩, ?_⟩
          rw [openings_cons, closings_cons]
          omega
      · have isFirst : token.closesGroup = true ∧ opened = 0 := by
          cases closes : token.closesGroup <;> simp [closes] at isCovered ⊢
          omega
        exact .inr ⟨[], token, rest, rfl, isFirst.1, covers_nil opened, by simp [isFirst.2]⟩

end Counting

section Balance

variable {inside front back : List Token}

theorem isBalanced_nil : IsBalanced [] :=
  ⟨covers_nil 0, rfl⟩

/-- Balanced tokens leave as many groups open as were open in front of them. -/
theorem IsBalanced.covers_iff
    (balanced : IsBalanced inside)
    (opened : Nat)
    (back : List Token) :
    Covers opened (inside ++ back) ↔ Covers opened back := by
  have covers : Covers opened inside := balanced.covers.mono (Nat.zero_le opened)
  rw [covers_append_iff, balanced.level, Nat.add_sub_cancel]
  exact and_iff_right covers

/-- Balanced tokens among others do not matter for their balance. -/
theorem isBalanced_append_iff
    (balanced : IsBalanced inside)
    (front back : List Token) :
    IsBalanced (front ++ (inside ++ back)) ↔ IsBalanced (front ++ back) := by
  have covers : Covers 0 (front ++ (inside ++ back)) ↔ Covers 0 (front ++ back) := by
    rw [covers_append_iff, balanced.covers_iff, ← covers_append_iff]
  have level : closings (front ++ (inside ++ back)) = openings (front ++ (inside ++ back)) ↔
      closings (front ++ back) = openings (front ++ back) := by
    simp only [openings_append, closings_append, balanced.level]
    omega
  exact ⟨fun whole => ⟨covers.mp whole.covers, level.mp whole.level⟩,
    fun rest => ⟨covers.mpr rest.covers, level.mpr rest.level⟩⟩

end Balance

/-- How a group ends whose opening parenthesis stands in front of some tokens: with the parenthesis
that closes it, behind balanced tokens, or with the text if no parenthesis closes it. -/
inductive EndsGroup (tokens : List Token) : List Token → Option Token → List Token → Prop where
  | closed
      {inside behind : List Token}
      {closing : Token}
      (split : tokens = inside ++ closing :: behind)
      (isBalanced : IsBalanced inside)
      (closes : closing.closesGroup = true) :
      EndsGroup tokens inside (some closing) behind
  | unclosed
      (isOpen : ∀ inside closing behind, tokens = inside ++ closing :: behind →
        closing.closesGroup = true → ¬ IsBalanced inside) :
      EndsGroup tokens tokens none []

theorem exists_endsGroup (tokens : List Token) :
    ∃ inside closing behind, EndsGroup tokens inside closing behind := by
  by_cases isClosed : ∃ inside closing behind,
      tokens = inside ++ closing :: behind ∧ closing.closesGroup = true ∧ IsBalanced inside
  · obtain ⟨inside, closing, behind, split, closes, isBalanced⟩ := isClosed
    exact ⟨inside, some closing, behind, .closed split isBalanced closes⟩
  · refine ⟨tokens, none, [], .unclosed ?_⟩
    intro inside closing behind split closes isBalanced
    exact isClosed ⟨inside, closing, behind, split, closes, isBalanced⟩

namespace EndsGroup

variable {tokens inside behind : List Token} {closing : Option Token}

theorem split (ends : EndsGroup tokens inside closing behind) :
    tokens = inside ++ (closing.toList ++ behind) := by
  cases ends with
  | closed split => exact split
  | unclosed => simp

/-- The tokens of a group close none that is open in front of them. -/
theorem covers (ends : EndsGroup tokens inside closing behind) : Covers 0 inside := by
  cases ends with
  | closed _ isBalanced => exact isBalanced.covers
  | unclosed isOpen =>
      rcases covers_or_exists_closing 0 tokens with
        covers | ⟨inside, closing, behind, split, closes, covers, level⟩
      · exact covers
      · exact absurd ⟨covers, by simpa using level⟩ (isOpen inside closing behind split closes)

end EndsGroup

end Parentheses

/-- The extent of a group as it is seen from some tokens further in front. -/
def GroupExtent.extendedBy
    (count : Nat)
    (extent : GroupExtent) : GroupExtent :=
  { extent with width := count + extent.width }

namespace Extent

open Parentheses

variable {opened : Nat}

theorem ofGroup_opening
    {opening : Token}
    (opens : opening.opensGroup = true)
    (opened : Nat)
    (tokens : List Token) :
    ofGroup opened (opening :: tokens) = (ofGroup (opened + 1) tokens).extendedBy 1 := by
  simp [ofGroup, opens, GroupExtent.extendedBy, Nat.add_comm]

theorem ofGroup_closing
    {closing : Token}
    (closes : closing.closesGroup = true)
    (tokens : List Token) :
    ofGroup 1 (closing :: tokens) = ⟨1, true⟩ := by
  simp [ofGroup, Token.opensGroup_of_closesGroup closes, closes]

/-- A token that leaves a group open is passed, and the groups that are open behind it are
counted. -/
theorem ofGroup_cons
    {token : Token}
    (isCovered : token.closesGroup.toNat ≤ opened + token.opensGroup.toNat)
    (tokens : List Token) :
    ofGroup (opened + 1) (token :: tokens) =
      (ofGroup (opened + 1 + token.opensGroup.toNat - token.closesGroup.toNat) tokens).extendedBy
        1 := by
  cases opens : token.opensGroup with
  | true => simp [ofGroup_opening opens, Token.closesGroup_of_opensGroup opens]
  | false =>
      cases closes : token.closesGroup with
      | true =>
          have isInner : ¬ opened + 1 ≤ 1 := by simp [opens, closes] at isCovered; omega
          simp [ofGroup, opens, closes, isInner, GroupExtent.extendedBy, Nat.add_comm]
      | false => simp [ofGroup, opens, closes, GroupExtent.extendedBy, Nat.add_comm]

/-- Tokens that leave a group open are passed, and the groups that are open behind them are
counted. -/
theorem ofGroup_append
    {front : List Token}
    (covers : Covers opened front)
    (tokens : List Token) :
    ofGroup (opened + 1) (front ++ tokens) =
      (ofGroup (opened + 1 + openings front - closings front) tokens).extendedBy front.length := by
  induction front generalizing opened with
  | nil => simp [GroupExtent.extendedBy]
  | cons token front ih =>
      obtain ⟨isCovered, covers⟩ := covers_cons_iff.mp covers
      have isPositive : opened + 1 + token.opensGroup.toNat - token.closesGroup.toNat =
          opened + token.opensGroup.toNat - token.closesGroup.toNat + 1 := by
        omega
      have isBehind : opened + token.opensGroup.toNat - token.closesGroup.toNat + 1 + openings front -
          closings front = opened + 1 + openings (token :: front) - closings (token :: front) := by
        have atEnd := covers.closings_le
        rw [openings_cons, closings_cons]
        omega
      rw [List.cons_append, ofGroup_cons isCovered, isPositive, ih covers, isBehind]
      simp only [GroupExtent.extendedBy, List.length_cons, Nat.add_assoc, Nat.add_comm 1]

/-- The extent of a group, with the parentheses around it. -/
theorem ofGroup_of_endsGroup
    {opening : Token}
    {tokens inside behind : List Token}
    {closing : Option Token}
    (opens : opening.opensGroup = true)
    (ends : EndsGroup tokens inside closing behind) :
    ofGroup 0 (opening :: tokens) =
      ⟨1 + (inside.length + closing.toList.length), closing.isSome⟩ := by
  rw [ofGroup_opening opens]
  cases ends with
  | closed split isBalanced closes =>
      rw [split, ofGroup_append isBalanced.covers, isBalanced.level, Nat.add_sub_cancel,
        ofGroup_closing closes]
      simp [GroupExtent.extendedBy]
  | unclosed isOpen =>
      have whole := ofGroup_append (EndsGroup.unclosed isOpen).covers []
      rw [List.append_nil] at whole
      rw [whole]
      simp [ofGroup, GroupExtent.extendedBy]

end Extent

end ShardedSql
