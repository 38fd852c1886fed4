import ShardedSql.Proofs.Parser.Group

/-!
# Expressions among parentheses

An expression is passed as operands with operators between them.  An operand is one token, with a
group in parentheses behind it if there is one.  The main statement says that an expression leaves
the groups around it as they are just when the tokens that it takes for operands do.  They do not
when it takes a parenthesis for one of them.
-/

namespace ShardedSql

open Parentheses ParseState

namespace Parentheses

instance (opened : Nat) (tokens : List Token) : Decidable (Covers opened tokens) :=
  decidable_of_iff (∀ front ∈ tokens.inits, closings front ≤ opened + openings front)
    (by simp only [List.mem_inits, Covers])

instance (tokens : List Token) : Decidable (IsBalanced tokens) :=
  decidable_of_iff (Covers 0 tokens ∧ closings tokens = openings tokens)
    ⟨fun both => ⟨both.1, both.2⟩, fun balanced => ⟨balanced.covers, balanced.level⟩⟩

/-- In balanced tokens every parenthesis that opens a group has one that closes it. -/
theorem IsBalanced.exists_closing
    {front tokens : List Token}
    {opening : Token}
    (balanced : IsBalanced (front ++ opening :: tokens))
    (opens : opening.opensGroup = true) :
    ∃ inside closing behind, tokens = inside ++ closing :: behind ∧
      closing.closesGroup = true ∧ IsBalanced inside := by
  rcases covers_or_exists_closing 0 tokens with
    covers | ⟨inside, closing, behind, split, closes, covers, level⟩
  · -- Without such a parenthesis the group would be open at the end.
    have inFront := (covers_append_iff.mp balanced.covers).1.closings_le
    have noMore := covers.closings_le
    have level := balanced.level
    simp only [openings_append, closings_append, openings_cons, closings_cons, opens,
      Token.closesGroup_of_opensGroup opens, Bool.toNat_true, Bool.toNat_false] at level
    omega
  · exact ⟨inside, closing, behind, split, closes, covers, by simpa using level⟩

/-- An operator is no parenthesis. -/
theorem noParenthesis_of_isCompositeOperator
    {operator : Token}
    (isOperator : operator.kind.isCompositeOperator = true) :
    operator.opensGroup = false ∧ operator.closesGroup = false := by
  constructor
  · refine Bool.eq_false_iff.mpr fun opens => ?_
    simp [Token.opensGroup_iff.mp opens, TokenKind.isCompositeOperator] at isOperator
  · refine Bool.eq_false_iff.mpr fun closes => ?_
    simp [Token.closesGroup_iff.mp closes, TokenKind.isCompositeOperator] at isOperator

theorem isBalanced_of_isCompositeOperator
    {operator : Token}
    (isOperator : operator.kind.isCompositeOperator = true) :
    IsBalanced [operator] := by
  obtain ⟨opensNothing, closesNothing⟩ := noParenthesis_of_isCompositeOperator isOperator
  constructor
  · simp [covers_cons_iff, closesNothing]
  · simp [opensNothing, closesNothing]

/-- A group in parentheses, or none. -/
inductive IsGroup : List Token → Prop where
  | absent : IsGroup []
  | closed
      {opening closing : Token}
      {inside : List Token}
      (opens : opening.opensGroup = true)
      (isBalanced : IsBalanced inside)
      (closes : closing.closesGroup = true) :
      IsGroup (opening :: (inside ++ [closing]))

theorem IsGroup.isBalanced
    {group : List Token}
    (isGroup : IsGroup group) :
    IsBalanced group := by
  cases isGroup with
  | absent => exact isBalanced_nil
  | @closed opening closing inside opens balanced closes =>
      have closesNothing := Token.closesGroup_of_opensGroup opens
      have opensNothing := Token.opensGroup_of_closesGroup closes
      constructor
      · rw [covers_cons_iff, balanced.covers_iff, covers_cons_iff]
        simp [opens, closesNothing, opensNothing, closes]
      · simp [opens, closesNothing, opensNothing, closes, balanced.level, Nat.add_comm]

end Parentheses

/-- The tokens of operators with their operands, and those of them that are operands.  Behind the
last operator the text may end. -/
inductive Operators : List Token → List Token → Prop where
  | absent : Operators [] []
  | missing
      {operator : Token}
      (isOperator : operator.kind.isCompositeOperator = true) :
      Operators [operator] []
  | applied
      {operator operand : Token}
      {group rest operands : List Token}
      (isOperator : operator.kind.isCompositeOperator = true)
      (isGroup : IsGroup group)
      (others : Operators rest operands) :
      Operators (operator :: operand :: (group ++ rest)) (operand :: operands)

/-- The tokens of an expression, and those of them that are operands. -/
inductive Operation : List Token → List Token → Prop where
  | absent : Operation [] []
  | applied
      {operand : Token}
      {group rest operands : List Token}
      (isGroup : IsGroup group)
      (operators : Operators rest operands) :
      Operation (operand :: (group ++ rest)) (operand :: operands)

section Balance

variable {passed operands : List Token}

/-- The balance of a text with operators in it is that of its other tokens and the operands. -/
theorem Operators.isBalanced_iff
    (operators : Operators passed operands)
    (front back : List Token) :
    IsBalanced (front ++ (passed ++ back)) ↔ IsBalanced (front ++ (operands ++ back)) := by
  induction operators generalizing front with
  | absent => exact Iff.rfl
  | missing isOperator =>
      exact isBalanced_append_iff (isBalanced_of_isCompositeOperator isOperator) front back
  | @applied operator operand group rest operands isOperator isGroup _ ih =>
      calc IsBalanced (front ++ (operator :: operand :: (group ++ rest) ++ back))
        _ ↔ IsBalanced (front ++ ([operator] ++ (operand :: (group ++ rest) ++ back))) := Iff.rfl
        _ ↔ IsBalanced (front ++ (operand :: (group ++ rest) ++ back)) :=
          isBalanced_append_iff (isBalanced_of_isCompositeOperator isOperator) _ _
        _ ↔ IsBalanced (front ++ [operand] ++ (group ++ (rest ++ back))) := by simp
        _ ↔ IsBalanced (front ++ [operand] ++ (rest ++ back)) :=
          isBalanced_append_iff isGroup.isBalanced _ _
        _ ↔ IsBalanced (front ++ [operand] ++ (operands ++ back)) := ih _
        _ ↔ IsBalanced (front ++ (operand :: operands ++ back)) := by simp

/-- An expression is balanced just when its operands are. -/
theorem Operation.isBalanced_iff (operation : Operation passed operands) :
    IsBalanced passed ↔ IsBalanced operands := by
  cases operation with
  | absent => exact Iff.rfl
  | @applied operand group rest operands isGroup operators =>
      calc IsBalanced (operand :: (group ++ rest))
        _ ↔ IsBalanced ([operand] ++ rest) :=
          isBalanced_append_iff isGroup.isBalanced [operand] rest
        _ ↔ IsBalanced ([operand] ++ operands) := by
          simpa using operators.isBalanced_iff [operand] []

end Balance

namespace Extent

section Widths

variable {front tokens : List Token}

/-- Among balanced tokens a group is passed up to the parenthesis that closes it. -/
theorem isGroup_take_groupWidth (balanced : IsBalanced (front ++ tokens)) :
    IsGroup (tokens.take (groupWidth tokens)) := by
  cases tokens with
  | nil => exact .absent
  | cons token rest =>
      cases opens : token.opensGroup with
      | false => simpa [groupWidth, opens] using IsGroup.absent
      | true =>
          obtain ⟨inside, closing, behind, split, closes, isInside⟩ := balanced.exists_closing opens
          rw [take_groupWidth opens (.closed split isInside closes)]
          exact .closed opens isInside closes

/-- Among balanced tokens operators are passed with their operands. -/
theorem exists_operators (balanced : IsBalanced (front ++ tokens)) :
    ∃ operands, Operators (tokens.take (operatorsWidth tokens)) operands := by
  induction tokens using operatorsWidth.induct generalizing front with
  | case1 => exact ⟨[], by simpa using Operators.absent⟩
  | case2 operator isOperator =>
      refine ⟨[], ?_⟩
      simpa [operatorsWidth, isOperator] using Operators.missing isOperator
  | case3 operator notOperator =>
      refine ⟨[], ?_⟩
      simpa [operatorsWidth, notOperator] using Operators.absent
  | case4 operator operand rest isOperator ih =>
      have inFront : IsBalanced (front ++ [operator, operand] ++ rest) := by simpa using balanced
      have isGroup := isGroup_take_groupWidth inFront
      have behindGroup : IsBalanced (front ++ [operator, operand] ++ rest.take (groupWidth rest) ++
          rest.drop (groupWidth rest)) := by
        rwa [List.append_assoc, List.take_append_drop]
      obtain ⟨operands, others⟩ := ih behindGroup
      refine ⟨operand :: operands, ?_⟩
      have width : operatorsWidth (operator :: operand :: rest) =
          groupWidth rest + operatorsWidth (rest.drop (groupWidth rest)) + 2 := by
        rw [operatorsWidth, if_pos isOperator, Nat.add_assoc, Nat.add_comm 2]
      rw [width, List.take_succ_cons, List.take_succ_cons, List.take_add]
      exact .applied isOperator isGroup others
  | case5 operator operand rest notOperator =>
      refine ⟨[], ?_⟩
      simpa [operatorsWidth, notOperator] using Operators.absent

/-- Among balanced tokens an expression is passed operand by operand. -/
theorem exists_operation
    {operand : Token}
    (balanced : IsBalanced (front ++ operand :: tokens)) :
    ∃ operands, Operation (operand :: tokens.take (compositeWidth tokens)) operands := by
  have inFront : IsBalanced (front ++ [operand] ++ tokens) := by simpa using balanced
  have isGroup := isGroup_take_groupWidth inFront
  have behindGroup : IsBalanced (front ++ [operand] ++ tokens.take (groupWidth tokens) ++
      tokens.drop (groupWidth tokens)) := by
    rwa [List.append_assoc, List.take_append_drop]
  obtain ⟨operands, operators⟩ := exists_operators behindGroup
  refine ⟨operand :: operands, ?_⟩
  rw [compositeWidth, List.take_add]
  exact .applied isGroup operators

end Widths

/-- An operator with its operand is passed like an operand alone, from the operand on. -/
theorem drop_compositeWidth_of_isCompositeOperator
    {operator : Token}
    (isOperator : operator.kind.isCompositeOperator = true)
    (rest : List Token) :
    (operator :: rest).drop (compositeWidth (operator :: rest)) =
      rest.tail.drop (compositeWidth rest.tail) := by
  have noGroup : groupWidth (operator :: rest) = 0 := by
    simp [groupWidth, (noParenthesis_of_isCompositeOperator isOperator).1]
  rw [compositeWidth, noGroup, List.drop_zero, Nat.zero_add]
  cases rest with
  | nil => simp [operatorsWidth, isOperator]
  | cons operand rest =>
      have width : operatorsWidth (operator :: operand :: rest) = compositeWidth rest + 2 := by
        rw [operatorsWidth, if_pos isOperator, compositeWidth, Nat.add_assoc, Nat.add_comm 2]
      rw [width, List.drop_succ_cons, List.drop_succ_cons, List.tail_cons]

end Extent

namespace Cursor

variable (cursor : Cursor)

/-- A name behind an owner is passed like an operand behind an operator. -/
theorem tokens_behindOperand :
    cursor.behindOperand.tokens =
      cursor.tokens.tail.drop (Extent.compositeWidth cursor.tokens.tail) := by
  unfold behindOperand
  rw [tokens_passBy]
  unfold behindSimple
  split
  next owner =>
    rw [Bool.and_eq_true, beq_iff_eq] at owner
    have isOperator : cursor.pass.current.kind.isCompositeOperator = true := by
      rw [owner.2]
      rfl
    have notLast : cursor.pass.current.kind ≠ .finish := by simp [owner.2]
    have split : cursor.tokens.tail = cursor.pass.current :: cursor.pass.advance.tokens :=
      tokens_of_current notLast
    rw [split, Extent.drop_compositeWidth_of_isCompositeOperator isOperator]
    rfl
  next => rfl

end Cursor

namespace Parse

/-- **An expression leaves parentheses balanced just when its operands do.**  Among balanced tokens
it is passed as operands, operators and whole groups.  When the operands are balanced, as they are
if none is a parenthesis, the groups around the expression end behind it where they ended before. -/
theorem expression_balance
    {before : List Token}
    {state : ParseState}
    (balanced : IsBalanced (before ++ state.cursor.tokens)) :
    ∃ result after passed operands,
      expression.outcome state = (.ok result, after) ∧
      state.cursor.tokens = passed ++ after.cursor.tokens ∧
      Operation passed operands ∧
      (IsBalanced passed ↔ IsBalanced operands) ∧
      (IsBalanced operands → ∀ opened,
        Extent.ofGroup (opened + 1) state.cursor.tokens =
          (Extent.ofGroup (opened + 1) after.cursor.tokens).extendedBy passed.length) := by
  obtain ⟨passed, operands, split, operation⟩ : ∃ passed operands,
      state.cursor.tokens = passed ++ state.cursor.behindOperand.tokens ∧
        Operation passed operands := by
    rw [Cursor.tokens_behindOperand]
    cases isAhead : state.cursor.tokens with
    | nil => exact ⟨[], [], by simp, .absent⟩
    | cons operand rest =>
        rw [isAhead] at balanced
        obtain ⟨operands, operation⟩ := Extent.exists_operation balanced
        exact ⟨_, operands, by simp, operation⟩
  refine ⟨_, _, passed, operands, outcome_expression state, split, operation,
    operation.isBalanced_iff, fun areBalanced opened => ?_⟩
  have isPassed := operation.isBalanced_iff.mpr areBalanced
  rw [split, Extent.ofGroup_append (isPassed.covers.mono (Nat.zero_le opened)), isPassed.level,
    Nat.add_sub_cancel]
  rfl

/-- An expression with a call and a sum in it, in front of another one. -/
theorem expression_balance_of_sum :
    IsBalanced (atText "abs(a - (b)) + c.d x").cursor.tokens ∧
    ∃ result after passed operands,
      expression.outcome (atText "abs(a - (b)) + c.d x") = (.ok result, after) ∧
      (atText "abs(a - (b)) + c.d x").cursor.tokens = passed ++ after.cursor.tokens ∧
      Operation passed operands ∧
      (IsBalanced passed ↔ IsBalanced operands) ∧
      (IsBalanced operands → ∀ opened,
        Extent.ofGroup (opened + 1) (atText "abs(a - (b)) + c.d x").cursor.tokens =
          (Extent.ofGroup (opened + 1) after.cursor.tokens).extendedBy passed.length) := by
  have balanced : IsBalanced (atText "abs(a - (b)) + c.d x").cursor.tokens := by decide +kernel
  exact ⟨balanced, @expression_balance [] _ balanced⟩

/-- An operand in parentheses is not passed to its end: the first parenthesis is taken for the
operand. -/
theorem exists_unbalanced_expression :
    IsBalanced (atText "1 + (2) x").cursor.tokens ∧
    (atText "1 + (2) x").cursor.current.closesGroup = false ∧
    ∃ result after passed,
      expression.outcome (atText "1 + (2) x") = (.ok result, after) ∧
      (atText "1 + (2) x").cursor.tokens = passed ++ after.cursor.tokens ∧
      ¬ IsBalanced passed := by
  refine ⟨by decide +kernel, by decide +kernel, _, _,
    (atText "1 + (2) x").cursor.tokens.take 3, outcome_expression _, ?_, by decide +kernel⟩
  change _ = _ ++ (atText "1 + (2) x").cursor.behindOperand.tokens
  rw [Cursor.tokens_behindOperand]
  decide +kernel

end Parse

end ShardedSql
