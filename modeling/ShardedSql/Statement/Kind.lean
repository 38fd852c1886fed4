/-!
# Kinds of statements

The leading keyword decides the kind of a statement, and its kind decides whether it reads data,
changes data or changes tables.
-/

namespace ShardedSql

/-- Whether statements read data, change data or change tables. -/
inductive StatementCategory where
  | query
  | manipulation
  | definition
  deriving DecidableEq

/-- The usual abbreviation of a category. -/
def StatementCategory.text : StatementCategory → String
  | .query => "DQL"
  | .manipulation => "DML"
  | .definition => "DDL"

/-- The category with an abbreviation. -/
def StatementCategory.ofText? (text : String) : Option StatementCategory :=
  [.query, .manipulation, .definition].find? fun category => category.text == text

/-- The kind of a statement. -/
inductive StatementKind where
  | select
  | insert
  | update
  | delete
  | create
  | alter
  | drop
  | truncate
  deriving DecidableEq

namespace StatementKind

/-- The leading keyword of the statements of a kind. -/
def text : StatementKind → String
  | .select => "SELECT"
  | .insert => "INSERT"
  | .update => "UPDATE"
  | .delete => "DELETE"
  | .create => "CREATE"
  | .alter => "ALTER"
  | .drop => "DROP"
  | .truncate => "TRUNCATE"

/-- Every kind. -/
def all : List StatementKind :=
  [.select, .insert, .update, .delete, .create, .alter, .drop, .truncate]

/-- The kind with a leading keyword. -/
def ofText? (text : String) : Option StatementKind :=
  all.find? fun kind => kind.text == text

/-- The category of the statements of a kind. -/
def category : StatementKind → StatementCategory
  | .select => .query
  | .insert => .manipulation
  | .update => .manipulation
  | .delete => .manipulation
  | .create => .definition
  | .alter => .definition
  | .drop => .definition
  | .truncate => .definition

end StatementKind

end ShardedSql
