import Mathlib.Logic.Basic
import ShardedSql.Parser.Cursor

/-!
# The rules of tokens

A token is read by the rule for its first characters.  Every token of a text has the class and the width
that the rule gives at its place.
-/

namespace ShardedSql

namespace Lexer

/-- The rule by which a token is read. -/
inductive TokenClass where
  | mark | national | quotedName | word | hex | number | symbol | string | other
  deriving DecidableEq

/-- The rule for the token that begins with a character. -/
def tokenClass
    (dialect : Dialect)
    (afterName : Bool)
    (first : Char)
    (rest : List Char) : TokenClass :=
  if dialect.hasVariables && first == '@' then .mark
  else if dialect.hasNationalStrings && first == 'N' && rest.head? == some '\'' then .national
  else if first == '`' then .quotedName
  else if isNameStart first then .word
  else if first == '0' && startsWith (fun next => next == 'x' || next == 'X') rest then .hex
  else if isNumberStart afterName first rest then .number
  else if Symbol.startsWith first then .symbol
  else if first == '\'' || first == '"' then .string
  else .other

/-- The class and the width of a token by its rule. -/
def shapeBy
    (dialect : Dialect)
    (first : Char)
    (rest : List Char) : TokenClass → Shape
  | .mark => variableShape rest
  | .national => stringShape dialect '\'' 1 (rest.drop 1)
  | .quotedName => quotedNameShape rest
  | .word => wordShape dialect first rest
  | .hex => hexShape rest
  | .number => numberShape first rest
  | .symbol => symbolShape (first :: rest)
  | .string => stringShape dialect first 0 rest
  | .other => ⟨.unknown, 0⟩

theorem shape_eq_shapeBy
    (dialect : Dialect)
    (afterName : Bool)
    (first : Char)
    (rest : List Char) :
    shape dialect afterName first rest =
      shapeBy dialect first rest (tokenClass dialect afterName first rest) := by
  simp only [tokenClass, apply_ite (shapeBy dialect first rest)]
  rfl

section Kinds

variable (dialect : Dialect) (first : Char) (rest : List Char)

theorem symbolShape_kind (characters : List Char) :
    (symbolShape characters).kind = .unknown ∨
      ∃ sign, (symbolShape characters).kind = .symbol sign := by
  unfold symbolShape
  split
  next sign _ => exact .inr ⟨sign, rfl⟩
  next => exact .inl rfl

theorem stringShape_kind
    (quote : Char)
    (marks : Nat) :
    (stringShape dialect quote marks rest).kind = .unknown ∨
      (stringShape dialect quote marks rest).kind = .literal .chars := by
  unfold stringShape
  split
  next => exact .inr rfl
  next => exact .inl rfl

theorem quotedNameShape_kind :
    (quotedNameShape rest).kind = .unknown ∨
      (quotedNameShape rest).kind = .literal .identifier := by
  unfold quotedNameShape
  dsimp only
  split
  next => exact .inr rfl
  next => exact .inl rfl

theorem wordShape_kind :
    (wordShape dialect first rest).kind = .literal .identifier ∨
      ∃ word, (wordShape dialect first rest).kind = .keyword word := by
  unfold wordShape wordKind
  dsimp only
  split
  next => exact .inl rfl
  next =>
    split
    next word _ => exact .inr ⟨word, rfl⟩
    next => exact .inl rfl

theorem numberShape_kind :
    (numberShape first rest).kind = .literal .int ∨
      (numberShape first rest).kind = .literal .float :=
  (ite_eq_or_eq _ _ _).imp (congrArg TokenKind.literal) (congrArg TokenKind.literal)

variable {dialect first rest}

/-- Numbers are read by two rules: one for hexadecimal digits, and one for all other numbers. -/
theorem tokenClass_of_number
    {afterName : Bool}
    {kind : LiteralKind}
    (isNumber : kind = .hex ∨ kind = .int ∨ kind = .float)
    (isShape : (shape dialect afterName first rest).kind = .literal kind) :
    tokenClass dialect afterName first rest = if kind = .hex then .hex else .number := by
  rw [shape_eq_shapeBy] at isShape
  generalize tokenClass dialect afterName first rest = rule at isShape
  have strings := stringShape_kind dialect
  have quoted := quotedNameShape_kind rest
  have words := wordShape_kind dialect first rest
  have numbers := numberShape_kind first rest
  have symbols := symbolShape_kind (first :: rest)
  rcases isNumber with rfl | rfl | rfl <;> cases rule <;>
    grind [shapeBy, variableShape, hexShape]

end Kinds

/-- Whether a token is what the rule at some characters gives. -/
def IsShaped
    (dialect : Dialect)
    (token : Token) : Prop :=
  ∃ afterName first rest,
    let shaped := shape dialect afterName first rest
    let source := first :: rest.take shaped.width
    token.kind = shaped.kind ∧ token.source = String.ofList source ∧
      token.literals = String.ofList (literalsOf dialect shaped.kind source)

/-- Every token but the last one is shaped by a rule. -/
theorem isShaped_of_mem
    {dialect : Dialect}
    {afterName : Bool}
    {position : Nat}
    {characters : List Char}
    {token : Token}
    (isToken : token ∈ tokensFrom dialect afterName position characters)
    (notLast : token.kind ≠ .finish) :
    IsShaped dialect token := by
  fun_induction tokensFrom dialect afterName position characters with
  | case1 afterName position characters =>
      rw [List.mem_singleton.mp isToken] at notLast
      exact absurd rfl notLast
  | case2 afterName position characters gap start first rest following shaped source stop ih =>
      rcases List.mem_cons.mp isToken with rfl | isLater
      · exact ⟨_, first, rest, rfl, rfl, rfl⟩
      · exact ih isLater

end Lexer

theorem Cursor.isShaped_of_mem
    {dialect : Dialect}
    {text : String}
    {token : Token}
    (isToken : token ∈ (ofText dialect text).tokens) :
    Lexer.IsShaped dialect token := by
  obtain ⟨isThere, notLast⟩ := List.mem_filter.mp isToken
  exact Lexer.isShaped_of_mem isThere (by simpa using notLast)

end ShardedSql
