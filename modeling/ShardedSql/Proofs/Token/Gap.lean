import Mathlib.Data.List.Basic
import ShardedSql.Token.Lexer

/-!
# Gaps between tokens

A gap consists of white space and comments.  It stays the same whatever token stands behind it.
-/

namespace ShardedSql

namespace Lexer

/-- Whether a character with what follows it begins no gap. -/
structure NoGap
    (dialect : Dialect)
    (first : Char)
    (rest : List Char) : Prop where
  notBlank : Text.isAsciiBlank first = false
  notHash : first = '#' → dialect.hasHashComments = false
  noBlock : first = '/' → rest.head? ≠ some '*'
  noLine : first = '/' → rest.head? ≠ some '/'
  noDashes : first = '-' → rest.head? ≠ some '-'

/-- Whether a scan of white space and comments passes over a gap and stops in front of what is behind. -/
inductive IsGap (dialect : Dialect) : Gap → List Char → List Char → Prop where
  | finish (state : Gap) : IsGap dialect state [] []
  | token
      {first : Char}
      {rest : List Char}
      (noGap : NoGap dialect first rest) :
      IsGap dialect .blank [] (first :: rest)
  | line
      {character : Char}
      {gap behind : List Char}
      (others : IsGap dialect (if character = '\n' then .blank else .lineComment) gap behind) :
      IsGap dialect .lineComment (character :: gap) behind
  | closing
      {gap behind : List Char}
      (others : IsGap dialect .blank gap behind) :
      IsGap dialect .blockComment ('*' :: '/' :: gap) behind
  | block
      {character : Char}
      {gap behind : List Char}
      (goesOn : character = '*' → (gap ++ behind).head? ≠ some '/')
      (others : IsGap dialect .blockComment gap behind) :
      IsGap dialect .blockComment (character :: gap) behind
  | opening
      {gap behind : List Char}
      (others : IsGap dialect .blockComment gap behind) :
      IsGap dialect .blank ('/' :: '*' :: gap) behind
  | slashes
      {gap behind : List Char}
      (others : IsGap dialect .lineComment gap behind) :
      IsGap dialect .blank ('/' :: '/' :: gap) behind
  | dashes
      {gap behind : List Char}
      (others : IsGap dialect .lineComment gap behind) :
      IsGap dialect .blank ('-' :: '-' :: gap) behind
  | blank
      {character : Char}
      {gap behind : List Char}
      (isBlank : Text.isAsciiBlank character = true)
      (others : IsGap dialect .blank gap behind) :
      IsGap dialect .blank (character :: gap) behind
  | hash
      {gap behind : List Char}
      (isComment : dialect.hasHashComments = true)
      (others : IsGap dialect .lineComment gap behind) :
      IsGap dialect .blank ('#' :: gap) behind

/-- The gap that is split off is the one that the scan passes over. -/
theorem isGap_splitGap
    (dialect : Dialect)
    (state : Gap)
    (characters : List Char) :
    IsGap dialect state (splitGap dialect state characters).1
      (splitGap dialect state characters).2 := by
  fun_induction splitGap dialect state characters with
  | case1 => exact .finish _
  | case2 character rest gap skipped remaining equal ih => exact .line (by rwa [equal] at ih)
  | case3 rest skipped remaining equal ih => exact .closing (by rwa [equal] at ih)
  | case4 character rest goesOn skipped remaining equal ih =>
      have whole := splitGap_append dialect .blockComment rest
      rw [equal] at whole ih
      apply IsGap.block _ ih
      intro isStar isSlash
      rw [whole] at isSlash
      obtain ⟨others, isOthers⟩ := List.head?_eq_some_iff.mp isSlash
      exact goesOn others isStar isOthers
  | case5 rest skipped remaining equal ih => exact .opening (by rwa [equal] at ih)
  | case6 rest skipped remaining equal ih => exact .slashes (by rwa [equal] at ih)
  | case7 rest skipped remaining equal ih => exact .dashes (by rwa [equal] at ih)
  | case8 character rest noBlock noLine noDashes isBlank skipped remaining equal ih =>
      exact .blank isBlank (by rwa [equal] at ih)
  | case9 character rest noBlock noLine noDashes notBlank isHash skipped remaining equal ih =>
      obtain ⟨rfl, isComment⟩ := isHash
      exact .hash isComment (by rwa [equal] at ih)
  | case10 first rest noBlock noLine noDashes notBlank notHash =>
      apply IsGap.token
      constructor
      · simpa using notBlank
      · simpa using notHash
      · intro isSlash isStar
        obtain ⟨others, isOthers⟩ := List.head?_eq_some_iff.mp isStar
        exact noBlock others isSlash isOthers
      · intro isSlash isSecond
        obtain ⟨others, isOthers⟩ := List.head?_eq_some_iff.mp isSecond
        exact noLine others isSlash isOthers
      · intro isDash isSecond
        obtain ⟨others, isOthers⟩ := List.head?_eq_some_iff.mp isSecond
        exact noDashes others isDash isOthers

namespace IsGap

variable {dialect : Dialect} {state : Gap} {gap behind after : List Char}

/-- What the scan passes over is split off. -/
theorem splitGap_eq (isGap : IsGap dialect state gap behind) :
    splitGap dialect state (gap ++ behind) = (gap, behind) := by
  induction isGap with
  | finish state => cases state <;> rfl
  | @token first rest noGap =>
      rw [List.nil_append, splitGap]
      · have notHash : ¬ (first = '#' ∧ dialect.hasHashComments = true) := by
          rintro ⟨isHash, isComment⟩
          rw [noGap.notHash isHash] at isComment
          cases isComment
        rw [if_neg (by simp [noGap.notBlank]), if_neg notHash]
      · rintro tail isSlash rfl
        exact noGap.noBlock isSlash rfl
      · rintro tail isSlash rfl
        exact noGap.noLine isSlash rfl
      · rintro tail isDash rfl
        exact noGap.noDashes isDash rfl
  | line others ih => rw [List.cons_append, splitGap, ih]
  | closing others ih => rw [List.cons_append, List.cons_append, splitGap, ih]
  | block goesOn others ih =>
      rw [List.cons_append, splitGap, ih]
      rintro tail isStar isSlash
      exact goesOn isStar (by rw [isSlash]; rfl)
  | opening others ih => rw [List.cons_append, List.cons_append, splitGap, ih]
  | slashes others ih => rw [List.cons_append, List.cons_append, splitGap, ih]
  | dashes others ih => rw [List.cons_append, List.cons_append, splitGap, ih]
  | blank isBlank others ih =>
      rw [List.cons_append, splitGap, if_pos isBlank, ih]
      all_goals
        rintro tail rfl
        exact absurd isBlank (by decide)
  | hash isComment others ih =>
      rw [List.cons_append, splitGap, if_neg (by decide), if_pos ⟨rfl, isComment⟩, ih]
      all_goals
        intro tail isOther
        exact absurd isOther (by decide)

/-- In front of a token, a comment has been closed. -/
theorem ne_nil_of_block
    (isGap : IsGap dialect .blockComment gap behind)
    (isThere : behind ≠ []) :
    gap ≠ [] := by
  rintro rfl
  cases isGap
  exact isThere rfl

/-- A gap stays as it is when the token behind it changes. -/
theorem of_token
    (isGap : IsGap dialect state gap behind)
    (isThere : behind ≠ [])
    (isToken : IsGap dialect .blank [] after) :
    IsGap dialect state gap after := by
  induction isGap with
  | finish => exact absurd rfl isThere
  | token => exact isToken
  | line others ih => exact .line (ih isThere)
  | closing others ih => exact .closing (ih isThere)
  | @block character gap behind goesOn others ih =>
      apply IsGap.block _ (ih isThere)
      obtain ⟨first, rest, rfl⟩ := List.exists_cons_of_ne_nil (ne_nil_of_block others isThere)
      exact goesOn
  | opening others ih => exact .opening (ih isThere)
  | slashes others ih => exact .slashes (ih isThere)
  | dashes others ih => exact .dashes (ih isThere)
  | blank isBlank others ih => exact .blank isBlank (ih isThere)
  | hash isComment others ih => exact .hash isComment (ih isThere)

/-- Where a gap ends, a token begins. -/
theorem token_of_cons
    {first : Char}
    {rest : List Char}
    (isGap : IsGap dialect state gap (first :: rest)) :
    NoGap dialect first rest := by
  generalize isBehind : first :: rest = behind at isGap
  induction isGap with
  | finish => cases isBehind
  | token noGap =>
      cases isBehind
      exact noGap
  | line others ih | closing others ih | block goesOn others ih | opening others ih
  | slashes others ih | dashes others ih | blank isBlank others ih | hash isComment others ih =>
      exact ih isBehind

/-- What a gap begins with, if it is not empty. -/
theorem exists_head
    (isGap : IsGap dialect .blank gap behind)
    (isThere : gap ≠ []) :
    ∃ first rest, gap = first :: rest ∧
      (Text.isAsciiBlank first = true ∨ first = '/' ∨ first = '-' ∨ first = '#') := by
  generalize isState : Gap.blank = state at isGap
  cases isGap with
  | finish => exact absurd rfl isThere
  | token => exact absurd rfl isThere
  | line => cases isState
  | closing => cases isState
  | block => cases isState
  | opening => exact ⟨_, _, rfl, .inr (.inl rfl)⟩
  | slashes => exact ⟨_, _, rfl, .inr (.inl rfl)⟩
  | dashes => exact ⟨_, _, rfl, .inr (.inr (.inl rfl))⟩
  | blank isBlank => exact ⟨_, _, rfl, .inl isBlank⟩
  | hash => exact ⟨_, _, rfl, .inr (.inr (.inr rfl))⟩

/-- Behind white space stands the rest of a gap, or the token. -/
theorem dropWhile_blank (isGap : IsGap dialect .blank gap behind) :
    IsGap dialect .blank (gap.dropWhile Text.isAsciiBlank) behind := by
  generalize isState : Gap.blank = state at isGap
  induction isGap with
  | finish => exact .finish _
  | token noGap => exact .token noGap
  | line | closing | block => cases isState
  | opening others => exact .opening others
  | slashes others => exact .slashes others
  | dashes others => exact .dashes others
  | blank isBlank others ih =>
      rw [List.dropWhile_cons_of_pos isBlank]
      exact ih rfl
  | hash isComment others => exact .hash isComment others

/-- Whether a gap without blanks, from a state of the scan on, is as long as a comment that is closed. -/
def IsLong : Gap → List Char → Prop
  | .blank, gap => gap ≠ [] → 3 ≤ gap.length
  | .lineComment, _ => False
  | .blockComment, gap => 2 ≤ gap.length

/-- A gap has a blank, or it is as long as a comment that is closed. -/
theorem exists_blank_or_isLong
    (isGap : IsGap dialect state gap behind)
    (isThere : behind ≠ []) :
    (∃ blank ∈ gap, Text.isAsciiBlank blank = true) ∨ IsLong state gap := by
  have within : ∀ {front others : List Char}, (∃ blank ∈ others, Text.isAsciiBlank blank = true) →
      ∃ blank ∈ front ++ others, Text.isAsciiBlank blank = true :=
    fun ⟨character, isThere, isBlank⟩ => ⟨character, List.mem_append_right _ isThere, isBlank⟩
  induction isGap with
  | finish => exact absurd rfl isThere
  | token => exact .inr fun isGap => absurd rfl isGap
  | @line character gap behind others ih =>
      left
      by_cases isBreak : character = '\n'
      · exact ⟨character, List.mem_cons_self, by rw [isBreak]; rfl⟩
      · rw [if_neg isBreak] at ih
        exact @within [character] _ ((ih isThere).resolve_right id)
  | closing => exact .inr (Nat.le_add_left _ _)
  | @block character gap behind goesOn others ih =>
      rcases ih isThere with hasBlank | isLong
      · exact .inl (@within [character] _ hasBlank)
      · exact .inr (Nat.le_succ_of_le isLong)
  | @opening gap behind others ih =>
      rcases ih isThere with hasBlank | isLong
      · exact .inl (@within ['/', '*'] _ hasBlank)
      · right
        intro _
        exact Nat.le_of_succ_le (Nat.add_le_add_right isLong 2)
  | slashes others ih => exact .inl (@within ['/', '/'] _ ((ih isThere).resolve_right id))
  | dashes others ih => exact .inl (@within ['-', '-'] _ ((ih isThere).resolve_right id))
  | blank isBlank => exact .inl ⟨_, List.mem_cons_self, isBlank⟩
  | hash isComment others ih => exact .inl (@within ['#'] _ ((ih isThere).resolve_right id))

end IsGap

end Lexer

end ShardedSql
