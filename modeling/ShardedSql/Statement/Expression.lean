import ShardedSql.Text.Quoted
import ShardedSql.Value

/-!
# Expressions

Routing understands placeholders, literals and columns.  Whatever is composed of several operands is
read over and kept as an ignored expression.
-/

namespace ShardedSql

/-- An expression as far as routing understands it; placeholders are numbered from the left. -/
inductive Expression where
  | placeholder (index : Nat)
  | text (content : String)
  | number (value : Value)
  | identifier (name : String)
  | property (owner name : String)
  | ignored
  deriving DecidableEq

namespace Expression

/-- Whether the expression has a value of its own once the parameters are bound. -/
def isValue : Expression → Bool
  | .placeholder _ => true
  | .text _ => true
  | .number _ => true
  | _ => false

/-- How messages show an expression. -/
def display : Expression → String
  | .placeholder index => "Placeholder(" ++ toString index ++ ")"
  | .text content => "Text(" ++ Text.quoted content ++ ")"
  | .number value => "Number(" ++ value.display ++ ")"
  | .identifier name => "Identifier(" ++ Text.quoted name ++ ")"
  | .property owner name =>
      "Property \x7b owner: " ++ Text.quoted owner ++ ", name: " ++ Text.quoted name ++ " \x7d"
  | .ignored => "Ignore"

end Expression

end ShardedSql
