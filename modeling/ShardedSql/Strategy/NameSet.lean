import ShardedSql.Text.AsciiCase
import ShardedSql.Text.LowerCase

/-!
# Sets of names

Targets and sharding columns are kept as sets: each name once up to the case of its ASCII letters,
in the spelling of its first mention, sorted by lower case.
-/

namespace ShardedSql

namespace NameSet

/-- Add a name at the end, unless it is there in some letter case. -/
def insertNew
    (names : List String)
    (name : String) : List String :=
  if Text.holdsName names name then names else names ++ [name]

/-- The first spelling of each name in the order of first mention. -/
def distinct (names : List String) : List String :=
  names.foldl insertNew []

/-- Whether the lower-case form of one name does not come after that of another. -/
def precedes (first second : String) : Bool :=
  !decide (Text.lowerCase second < Text.lowerCase first)

/-- The set of the given names as a sorted list. -/
def ofList (names : List String) : List String :=
  (distinct names).mergeSort precedes

end NameSet

end ShardedSql
