import ShardedSql.Proofs.Parser.Place

/-!
# Operands that have a value

An operand has a value of its own when it is a single literal or placeholder, and the token behind it
is neither an opening parenthesis nor one of the operators that make it composite.
-/

namespace ShardedSql

/-- Whether a token makes the operand in front of it composite. -/
def TokenKind.continuesOperand (kind : TokenKind) : Bool :=
  kind == .symbol .leftParen || kind.isCompositeOperator

/-- The classes of the tokens that may have a value by themselves. -/
def TokenKind.valueKinds : List TokenKind :=
  [.symbol .question, .literal .chars, .literal .int, .literal .float, .literal .hex]

namespace Extent

theorem groupWidth_pos
    {token : Token}
    (opens : token.opensGroup = true)
    (rest : List Token) :
    0 < groupWidth (token :: rest) := by
  simp [groupWidth, ofGroup, opens]

theorem operatorsWidth_eq_zero_iff
    (token : Token)
    (rest : List Token) :
    operatorsWidth (token :: rest) = 0 ↔ token.kind.isCompositeOperator = false := by
  cases rest with
  | nil => cases isOperator : token.kind.isCompositeOperator <;> simp [operatorsWidth, isOperator]
  | cons next rest =>
      cases isOperator : token.kind.isCompositeOperator <;> simp [operatorsWidth, isOperator]

end Extent

namespace Place

theorem compositeWidth_eq_zero_iff (place : Place) :
    Extent.compositeWidth place.tokens = 0 ↔ place.ahead.kind.continuesOperand = false := by
  obtain ⟨tokens, placeholders⟩ := place
  cases tokens with
  | nil => exact iff_of_true (by simp [Extent.compositeWidth, Extent.groupWidth,
      Extent.operatorsWidth]) rfl
  | cons token rest =>
      change Extent.compositeWidth (token :: rest) = 0 ↔
        (token.opensGroup || token.kind.isCompositeOperator) = false
      unfold Extent.compositeWidth
      cases opens : token.opensGroup with
      | true =>
          have positive := Extent.groupWidth_pos opens rest
          exact iff_of_false (by omega) (by simp)
      | false =>
          have noGroup : Extent.groupWidth (token :: rest) = 0 := by
            simp [Extent.groupWidth, opens]
          rw [noGroup, List.drop_zero, Nat.zero_add, Bool.false_or]
          exact Extent.operatorsWidth_eq_zero_iff token rest

/-- Whether a single literal or placeholder stands ahead, and nothing behind it that makes it
composite. -/
structure IsLoneValue (place : Place) : Prop where
  isValue : (Parse.expressionOf place.ahead place.placeholders).isValue = true
  isAlone : (place.passBy 1).ahead.kind.continuesOperand = false

theorem expressionOf_of_isIdentifier
    {token : Token}
    (isIdentifier : token.kind.isIdentifier = true)
    (placeholders : Nat) :
    Parse.expressionOf token placeholders = .identifier (unquoteName token.literals) := by
  unfold Parse.expressionOf
  split
  all_goals simp_all [TokenKind.isIdentifier]

/-- The operand ahead when nothing behind it makes it composite. -/
theorem operand_of_isAlone
    {place : Place}
    (noOwner : (place.passBy 1).ahead.kind ≠ .symbol .dot)
    (isAlone : (place.passBy 1).ahead.kind.continuesOperand = false) :
    place.operand = (Parse.expressionOf place.ahead place.placeholders, place.passBy 1) := by
  have noWidth := (compositeWidth_eq_zero_iff _).mpr isAlone
  unfold operand
  rw [simpleOperand_of_noOwner fun owner => noOwner owner.2]
  dsimp only
  rw [noWidth, if_neg fun composite => composite rfl, passBy_zero]

theorem IsLoneValue.operand_eq
    {place : Place}
    (isLone : place.IsLoneValue) :
    place.operand = (Parse.expressionOf place.ahead place.placeholders, place.passBy 1) := by
  refine operand_of_isAlone (fun isDot => ?_) isLone.isAlone
  have continues := isLone.isAlone
  simp [TokenKind.continuesOperand, isDot, TokenKind.isCompositeOperator] at continues

/-- An operand has a value just when it is a single literal or placeholder by itself. -/
theorem operand_isValue_iff (place : Place) :
    place.operand.1.isValue = true ↔ place.IsLoneValue := by
  constructor
  · intro isValue
    unfold operand at isValue
    dsimp only at isValue
    split at isValue
    next => cases isValue
    next isAlone =>
      rw [Decidable.not_not, compositeWidth_eq_zero_iff] at isAlone
      by_cases owner : place.ahead.kind.isIdentifier = true ∧
          (place.passBy 1).ahead.kind = .symbol .dot
      · rw [simpleOperand_of_owner owner.1 owner.2] at isValue
        cases isValue
      · rw [simpleOperand_of_noOwner owner] at isValue isAlone
        exact ⟨isValue, isAlone⟩
  · intro isLone
    rw [isLone.operand_eq]
    exact isLone.isValue

theorem kind_of_expressionOf
    {token : Token}
    {placeholders index : Nat}
    (isPlaceholder : Parse.expressionOf token placeholders = .placeholder index) :
    token.kind = .symbol .question ∧ placeholders = index := by
  unfold Parse.expressionOf at isPlaceholder
  split at isPlaceholder
  next isQuestion =>
    cases isPlaceholder
    exact ⟨isQuestion, rfl⟩
  next => cases isPlaceholder
  next =>
    unfold Parse.expressionOf.ofNumber at isPlaceholder
    split at isPlaceholder <;> cases isPlaceholder
  next =>
    unfold Parse.expressionOf.ofNumber at isPlaceholder
    split at isPlaceholder <;> cases isPlaceholder
  next => split at isPlaceholder <;> cases isPlaceholder
  next => split at isPlaceholder <;> cases isPlaceholder

/-- An operand is a placeholder just when one stands ahead by itself; it has the number of the
placeholders in front of it. -/
theorem ahead_of_operand
    {place : Place}
    {index : Nat}
    (isPlaceholder : place.operand.1 = .placeholder index) :
    place.ahead.kind = .symbol .question ∧ place.placeholders = index := by
  have isLone := (operand_isValue_iff place).mp (by rw [isPlaceholder]; rfl)
  rw [isLone.operand_eq] at isPlaceholder
  exact kind_of_expressionOf isPlaceholder

end Place

end ShardedSql
