import ShardedSql.Routing.TableUnit

/-!
# Outcomes of routing

A statement runs once for each table unit, or once for each combination of units of several tables
on one data source.
-/

namespace ShardedSql

/-- Units of several tables that one statement runs on. -/
structure TableReference where
  units : List TableUnit
  deriving DecidableEq

/-- The combinations on a data source. -/
structure CombinedSource where
  dataSource : String
  references : List TableReference
  deriving DecidableEq

/-- The combinations on all data sources, with every unit that they use. -/
structure Combinations where
  units : TableUnits := {}
  dataSources : List CombinedSource := []
  deriving DecidableEq

namespace Combinations

/-- Put references behind those of their data source, or the data source at the end. -/
def mergeSource
    (dataSource : String)
    (references : List TableReference) : List CombinedSource → List CombinedSource
  | [] => [⟨dataSource, references⟩]
  | present :: rest =>
      if present.dataSource = dataSource then
        { present with references := present.references ++ references } :: rest
      else
        present :: mergeSource dataSource references rest

/-- Add combinations on a data source. -/
def merge
    (combinations : Combinations)
    (dataSource : String)
    (references : List TableReference) : Combinations :=
  { units := (references.flatMap TableReference.units).foldl TableUnits.add combinations.units
    dataSources := mergeSource dataSource references combinations.dataSources }

/-- The number of combinations. -/
def count (combinations : Combinations) : Nat :=
  (combinations.dataSources.flatMap CombinedSource.references).length

end Combinations

/-- Where a statement runs. -/
inductive Outcome where
  /-- Once for each unit. -/
  | units (units : TableUnits)
  /-- Once for each combination of units. -/
  | combined (combinations : Combinations)
  deriving DecidableEq

namespace Outcome

/-- Every unit that is used. -/
def tableUnits : Outcome → TableUnits
  | .units found => found
  | .combined combinations => combinations.units

/-- Whether the statement runs exactly once. -/
def isSingle : Outcome → Bool
  | .units found => found.toList.length == 1
  | .combined combinations => combinations.count == 1

end Outcome

end ShardedSql
