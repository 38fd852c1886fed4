import ShardedSql.Proofs.Parser.Marking
import ShardedSql.Proofs.Token.Shape

/-!
# Numbers of a text

A piece of a text is a number by its characters alone: hexadecimal digits behind `0x`, or what is read as a
decimal number.  A number token has the number that its source is, and an integer is read from what it is
written as.
-/

namespace ShardedSql

namespace Text

/-- Whether a number is written with hexadecimal digits. -/
def isHexadecimal (characters : List Char) : Bool :=
  characters.head? == some '0' &&
    Lexer.startsWith (fun mark => mark == 'x' || mark == 'X') characters.tail

/-- The integer that a piece of a text stands for. -/
def number? (piece : String) : Option Int64 :=
  if isHexadecimal piece.toList then
    Integer.readHex? (piece.toList.drop 2)
  else
    match Parse.expressionOf.ofNumber piece with
    | .number value => value.toInteger?
    | _ => none

theorem isHexadecimal_take
    (first : Char)
    (rest : List Char)
    (width : Nat) :
    isHexadecimal (first :: rest.take width) =
      (isHexadecimal (first :: rest) && decide (0 < width)) := by
  cases rest with
  | nil => simp [isHexadecimal, Lexer.startsWith]
  | cons second rest => cases width <;> simp [isHexadecimal, Lexer.startsWith]

end Text

namespace Lexer

variable {dialect : Dialect} {afterName : Bool} {first : Char} {rest : List Char}

/-- The rule for hexadecimal digits is that for numbers that are written with them. -/
theorem isHexadecimal_of_tokenClass
    (isNumber : tokenClass dialect afterName first rest = .hex ∨
      tokenClass dialect afterName first rest = .number) :
    Text.isHexadecimal (first :: rest) =
      decide (tokenClass dialect afterName first rest = .hex) := by
  unfold tokenClass at *
  simp only [Text.isHexadecimal, List.head?_cons, List.tail_cons]
  split_ifs at * <;> simp_all

/-- The source of a number token says how it is read. -/
theorem IsShaped.isHexadecimal
    {token : Token}
    {kind : LiteralKind}
    (isShaped : IsShaped dialect token)
    (isNumber : kind = .hex ∨ kind = .int ∨ kind = .float)
    (isKind : token.kind = .literal kind) :
    Text.isHexadecimal token.source.toList = decide (kind = .hex) ∧
      token.literals = token.source := by
  obtain ⟨afterName, first, rest, shaped, source, literals⟩ := isShaped
  have isShape := shaped.symm.trans isKind
  have isClass := tokenClass_of_number isNumber isShape
  have begins : Text.isHexadecimal (first :: rest) =
      decide (tokenClass dialect afterName first rest = .hex) :=
    isHexadecimal_of_tokenClass (by rw [isClass]; split <;> simp)
  constructor
  · rw [source, String.toList_ofList, Text.isHexadecimal_take, begins, isClass]
    by_cases isHex : kind = .hex
    · have width : 0 < (shape dialect afterName first rest).width := by
        rw [shape_eq_shapeBy, isClass, if_pos isHex, shapeBy, hexShape]
        exact Nat.add_pos_left Nat.one_pos _
      simp [isHex, width]
    · simp [isHex]
  · rw [literals, source, isShape]
    have others : kind ≠ .chars := by
      rcases isNumber with rfl | rfl | rfl <;> decide
    simp [literalsOf, others]

end Lexer

namespace Text

/-- The source of a number token is its number. -/
theorem number?_source
    {dialect : Dialect}
    {token : Token}
    {value : Int64}
    (isShaped : Lexer.IsShaped dialect token)
    (reads : token.ReadsAs value) :
    number? token.source = some value := by
  obtain ⟨number, isNumber, isInteger⟩ := reads
  obtain ⟨-, kind, isKind⟩ := Parse.expressionOf_number isNumber
  unfold Parse.expressionOf at isNumber
  rw [isKind] at isNumber
  cases kind with
  | identifier | «variable» | chars => cases isNumber
  | hex =>
      obtain ⟨isHexadecimal, literals⟩ := isShaped.isHexadecimal (.inl rfl) isKind
      dsimp only at isNumber
      rw [literals] at isNumber
      rw [number?, if_pos (isHexadecimal.trans (decide_eq_true rfl))]
      split at isNumber
      next found isFound =>
        cases isNumber
        exact isFound.trans isInteger
      next => cases isNumber
  | int =>
      obtain ⟨isDecimal, literals⟩ := isShaped.isHexadecimal (.inr (.inl rfl)) isKind
      dsimp only at isNumber
      rw [literals] at isNumber
      rw [number?, if_neg (by rw [isDecimal]; nofun), isNumber]
      exact isInteger
  | float =>
      obtain ⟨isDecimal, literals⟩ := isShaped.isHexadecimal (.inr (.inr rfl)) isKind
      dsimp only at isNumber
      rw [literals] at isNumber
      rw [number?, if_neg (by rw [isDecimal]; nofun), isNumber]
      exact isInteger

/-- An integer that is not negative stands for itself where it is written. -/
theorem number?_toString
    {value : Int64}
    (nonneg : 0 ≤ value.toInt) :
    number? (toString value.toInt) = some value := by
  have isRead := Integer.read_toString nonneg
  have allDigits := AllDigits.toString_of_nonneg nonneg
  have isDecimal : isHexadecimal (toString value.toInt).toList = false := by
    generalize (toString value.toInt).toList = digits at allDigits
    rcases digits with _ | ⟨first, _ | ⟨mark, others⟩⟩
    · rfl
    · exact Bool.and_false _
    · have noMark := test_of_isDigit (fun digit => !(digit == 'x' || digit == 'X')) (by decide)
        (allDigits mark (by simp))
      rw [Bool.not_eq_true'] at noMark
      exact (Bool.and_eq_false_iff).mpr (.inr noMark)
  have isNumber : Parse.expressionOf.ofNumber (toString value.toInt) = .number (.integer value) := by
    rw [Parse.expressionOf.ofNumber, Parse.numberText_of_read isRead, Value.ofLiteral, Integer.read?,
      isRead]
    rfl
  rw [number?, if_neg (by rw [isDecimal]; exact Bool.false_ne_true), isNumber]
  rfl

end Text

end ShardedSql
