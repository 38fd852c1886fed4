import ShardedSql.Token.Keyword
import ShardedSql.Token.Symbol

/-!
# Tokens

A token is a piece of a statement with its class, the characters it consists of and its place.
-/

namespace ShardedSql

/-- The classes of names, variables, strings and numbers. -/
inductive LiteralKind where
  | identifier
  | variable
  | chars
  | hex
  | int
  | float
  deriving DecidableEq

/-- The name of a class of literals. -/
def LiteralKind.name : LiteralKind → String
  | .identifier => "Identifier"
  | .variable => "Variable"
  | .chars => "Chars"
  | .hex => "Hex"
  | .int => "Int"
  | .float => "Float"

/-- What a token is; `finish` stands after the last one, and `unknown` is input that fits no
class. -/
inductive TokenKind where
  | keyword (keyword : Keyword)
  | symbol (symbol : Symbol)
  | literal (kind : LiteralKind)
  | finish
  | unknown
  deriving DecidableEq

/-- How messages name a class of tokens. -/
def TokenKind.display : TokenKind → String
  | .keyword word => word.text
  | .symbol sign => "'" ++ sign.text ++ "'"
  | .literal kind => kind.name
  | .finish => "End"
  | .unknown => "Error"

/-- A token from byte `start` up to byte `stop`.  Its `source` is the text of this span; its
`literals` differ from that in strings only, where they are what stands between the quotes. -/
structure Token where
  kind : TokenKind
  source : String
  literals : String
  start : Nat
  stop : Nat
  deriving DecidableEq

/-- The token that stands at the end of a text of the given length. -/
def Token.finish (length : Nat) : Token :=
  ⟨.finish, "", "", length, length⟩

end ShardedSql
