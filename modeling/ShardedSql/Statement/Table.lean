import ShardedSql.Text.AsciiCase

/-!
# Tables of a statement

The logic tables a statement names, each once up to letter case, in the order of their first
mention.
-/

namespace ShardedSql

/-- The characters that quote a name in some dialect. -/
def isNameQuote (character : Char) : Bool :=
  character == '`' || character == '"' || character == '\'' || character == '[' || character == ']'

/-- A name without the characters that quote it. -/
def unquoteName (name : String) : String :=
  String.ofList (name.toList.filter fun character => !isNameQuote character)

/-- A table with the alias the statement gives it. -/
structure Table where
  name : String
  aliasName : Option String
  deriving DecidableEq

/-- The tables of a statement in the order of their first mention. -/
structure Tables where
  toList : List Table := []
  deriving DecidableEq

namespace Tables

/-- Whether a table has the name. -/
def containsName
    (tables : Tables)
    (name : String) : Bool :=
  tables.toList.any fun table => Text.sameName table.name name

/-- Add a table, unless one of that name is there. -/
def add
    (tables : Tables)
    (table : Table) : Tables :=
  if tables.containsName table.name then tables else ⟨tables.toList ++ [table]⟩

/-- The names of the tables. -/
def names (tables : Tables) : List String :=
  tables.toList.map Table.name

/-- The name of the table of a statement with a single one. -/
def singleName? (tables : Tables) : Option String :=
  match tables.toList with
  | [table] => some table.name
  | _ => none

/-- Whether there is exactly one table. -/
def isSingle (tables : Tables) : Bool :=
  tables.toList.length == 1

/-- The table with a name or, when none has that name, with that alias. -/
def find?
    (tables : Tables)
    (nameOrAlias : String) : Option Table :=
  (tables.toList.find? fun table => Text.sameName table.name nameOrAlias).or
    (tables.toList.find? fun table =>
      table.aliasName.any fun aliasName => Text.sameName aliasName nameOrAlias)

end Tables

/-- A column of a logic table. -/
structure Column where
  name : String
  table : String
  deriving DecidableEq

/-- Whether two columns are the same up to letter case. -/
def Column.same (first second : Column) : Bool :=
  Text.sameName first.name second.name && Text.sameName first.table second.table

end ShardedSql
