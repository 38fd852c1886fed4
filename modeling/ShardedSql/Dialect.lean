import ShardedSql.Text.LowerCase
import ShardedSql.Token.Keyword

/-!
# Dialects

A dialect decides which words are keywords and which forms of tokens exist beside the common ones.
-/

namespace ShardedSql

/-- The database whose SQL a statement is written in. -/
inductive Dialect where
  | mysql
  | postgresql
  | oracle
  | sqlserver
  | h2
  deriving DecidableEq

namespace Dialect

/-- The name of a dialect. -/
def name : Dialect → String
  | .mysql => "mysql"
  | .postgresql => "postgresql"
  | .oracle => "oracle"
  | .sqlserver => "sqlserver"
  | .h2 => "h2"

/-- The dialect with a name, in any letter case; two dialects have a second name. -/
def ofName? (name : String) : Option Dialect :=
  match Text.lowerCase name with
  | "mysql" => some .mysql
  | "postgresql" => some .postgresql
  | "postgres" => some .postgresql
  | "oracle" => some .oracle
  | "sqlserver" => some .sqlserver
  | "mssql" => some .sqlserver
  | "h2" => some .h2
  | _ => none

/-- The dialects that escape by a backslash in strings and comment from `#`. -/
def isMysqlFamily : Dialect → Bool
  | .mysql => true
  | .h2 => true
  | _ => false

/-- Whether a word after `@` is a variable. -/
def hasVariables (dialect : Dialect) : Bool :=
  dialect.isMysqlFamily || dialect == .sqlserver

/-- Whether a string may have the mark `N` in front. -/
def hasNationalStrings (dialect : Dialect) : Bool :=
  dialect == .sqlserver

/-- Whether `#` begins a comment. -/
def hasHashComments (dialect : Dialect) : Bool :=
  dialect.isMysqlFamily

/-- How a hint to the database begins; a hint is also a comment. -/
def hintOpening? : Dialect → Option String
  | .mysql => some "/*!"
  | .h2 => some "/*!"
  | .oracle => some "/*+"
  | _ => none

/-- The pseudo column that numbers the rows of a result. -/
def rowNumberColumn? : Dialect → Option String
  | .oracle => some "ROWNUM"
  | _ => none

/-- The keywords that a dialect has beside the shared ones. -/
def ownKeywords : Dialect → List Keyword
  | .postgresql =>
      [.LIMIT, .OFFSET, .FETCH, .NEXT, .FIRST, .LAST, .ROWS, .ROW, .ONLY, .NULLS]
  | .oracle =>
      [.MINUS, .NULLS, .FIRST, .LAST, .SIBLINGS, .ONLY]
  | .sqlserver =>
      [.TOP, .OFFSET, .FETCH, .NEXT, .FIRST, .ROWS, .ROW, .ONLY, .APPLY]
  | _ =>
      [.LIMIT, .OFFSET, .DISTINCTROW, .STRAIGHT_JOIN, .LOW_PRIORITY, .QUICK, .IGNORE, .LOCK,
        .SHARE, .MODE, .VALUE, .ROLLUP]

/-- The keyword that a word in capital letters is. -/
def keyword?
    (dialect : Dialect)
    (word : String) : Option Keyword :=
  (Keyword.shared ++ dialect.ownKeywords).find? fun keyword => keyword.text == word

end Dialect

end ShardedSql
