import ShardedSql.Rule.Basic

/-!
# Keys of a rule

The generators of a sharding rule with the keys they have handed out so far.  A table takes its keys
from its own generator or else from the common one.
-/

namespace ShardedSql

/-- The present state of the generators of a rule and the time in milliseconds since 1970. -/
structure Keys where
  now : Int
  ofTables : List (String × KeyGenerator)
  common : KeyGenerator
  deriving DecidableEq

namespace Keys

/-- The generators of a rule before any key is taken. -/
def ofRule
    (rule : Rule)
    (now : Int) : Keys :=
  { now := now
    ofTables := rule.tables.filterMap fun tableRule =>
      tableRule.keyGenerator.map fun generator => (tableRule.logicTable, generator)
    common := rule.keyGenerator.getD KeyGenerator.standard }

/-- The generator of a table's own. -/
def findOwn?
    (keys : Keys)
    (logicTable : String) : Option KeyGenerator :=
  (keys.ofTables.find? fun entry => Text.sameName entry.1 logicTable).map Prod.snd

/-- The keys with another state of a table's own generator. -/
def withOwn
    (keys : Keys)
    (logicTable : String)
    (generator : KeyGenerator) : Keys :=
  { keys with
    now := generator.timeAfter keys.now
    ofTables := keys.ofTables.map fun entry =>
      if Text.sameName entry.1 logicTable then (entry.1, generator) else entry }

/-- The keys with another state of the common generator. -/
def withCommon
    (keys : Keys)
    (generator : KeyGenerator) : Keys :=
  { keys with
    now := generator.timeAfter keys.now
    common := generator }

/-- Take a key for a logic table that has a rule. -/
def generate
    (keys : Keys)
    (rule : Rule)
    (logicTable : String) : Except Error (Int64 × Keys) :=
  match rule.findTable? logicTable with
  | none => .error (.noKeyGenerator logicTable)
  | some _ =>
      match keys.findOwn? logicTable with
      | some generator =>
          (generator.next keys.now).map fun (key, following) =>
            (key, keys.withOwn logicTable following)
      | none =>
          (keys.common.next keys.now).map fun (key, following) => (key, keys.withCommon following)

end Keys

end ShardedSql
