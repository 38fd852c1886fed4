/-!
# Powers of two and ten

The two bases that floating-point numbers and decimal text are made of.
-/

namespace ShardedSql

/-- The power of two with an exponent. -/
def twoTo (exponent : Nat) : Nat :=
  Nat.pow 2 exponent

/-- The power of ten with an exponent. -/
def tenTo (exponent : Nat) : Nat :=
  Nat.pow 10 exponent

end ShardedSql
