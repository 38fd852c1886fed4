/-!
# Keywords

The words that decide how a statement is read.  Which of them a dialect knows is a matter of the
dialect; a keyword that is not reserved may also name a table, a column or an alias.
-/

namespace ShardedSql

/-- A word with a meaning of its own in statements. -/
inductive Keyword where
  | SELECT | DISTINCT | DISTINCTROW | ALL | FROM | WHERE | AND | OR | NOT | IN | BETWEEN | IS
  | NULL | LIKE | AS | ON | USING | JOIN | INNER | LEFT | RIGHT | FULL | OUTER | CROSS | NATURAL
  | STRAIGHT_JOIN | APPLY | GROUP | ORDER | BY | ASC | DESC | HAVING | UNION | INTERSECT | EXCEPT
  | MINUS | INSERT | INTO | VALUES | VALUE | SET | UPDATE | DELETE | CREATE | ALTER | DROP
  | TRUNCATE | TABLE | TEMPORARY | IF | EXISTS | WITH | ROLLUP | LIMIT | OFFSET | TOP | FETCH
  | NEXT | FIRST | LAST | ROWS | ROW | ONLY | NULLS | SIBLINGS | FOR | LOCK | SHARE | MODE
  | LOW_PRIORITY | QUICK | IGNORE | CASE | WHEN | THEN | ELSE | END
  deriving DecidableEq

namespace Keyword

/-- The word in capital letters. -/
def text : Keyword → String
  | .SELECT => "SELECT"
  | .DISTINCT => "DISTINCT"
  | .DISTINCTROW => "DISTINCTROW"
  | .ALL => "ALL"
  | .FROM => "FROM"
  | .WHERE => "WHERE"
  | .AND => "AND"
  | .OR => "OR"
  | .NOT => "NOT"
  | .IN => "IN"
  | .BETWEEN => "BETWEEN"
  | .IS => "IS"
  | .NULL => "NULL"
  | .LIKE => "LIKE"
  | .AS => "AS"
  | .ON => "ON"
  | .USING => "USING"
  | .JOIN => "JOIN"
  | .INNER => "INNER"
  | .LEFT => "LEFT"
  | .RIGHT => "RIGHT"
  | .FULL => "FULL"
  | .OUTER => "OUTER"
  | .CROSS => "CROSS"
  | .NATURAL => "NATURAL"
  | .STRAIGHT_JOIN => "STRAIGHT_JOIN"
  | .APPLY => "APPLY"
  | .GROUP => "GROUP"
  | .ORDER => "ORDER"
  | .BY => "BY"
  | .ASC => "ASC"
  | .DESC => "DESC"
  | .HAVING => "HAVING"
  | .UNION => "UNION"
  | .INTERSECT => "INTERSECT"
  | .EXCEPT => "EXCEPT"
  | .MINUS => "MINUS"
  | .INSERT => "INSERT"
  | .INTO => "INTO"
  | .VALUES => "VALUES"
  | .VALUE => "VALUE"
  | .SET => "SET"
  | .UPDATE => "UPDATE"
  | .DELETE => "DELETE"
  | .CREATE => "CREATE"
  | .ALTER => "ALTER"
  | .DROP => "DROP"
  | .TRUNCATE => "TRUNCATE"
  | .TABLE => "TABLE"
  | .TEMPORARY => "TEMPORARY"
  | .IF => "IF"
  | .EXISTS => "EXISTS"
  | .WITH => "WITH"
  | .ROLLUP => "ROLLUP"
  | .LIMIT => "LIMIT"
  | .OFFSET => "OFFSET"
  | .TOP => "TOP"
  | .FETCH => "FETCH"
  | .NEXT => "NEXT"
  | .FIRST => "FIRST"
  | .LAST => "LAST"
  | .ROWS => "ROWS"
  | .ROW => "ROW"
  | .ONLY => "ONLY"
  | .NULLS => "NULLS"
  | .SIBLINGS => "SIBLINGS"
  | .FOR => "FOR"
  | .LOCK => "LOCK"
  | .SHARE => "SHARE"
  | .MODE => "MODE"
  | .LOW_PRIORITY => "LOW_PRIORITY"
  | .QUICK => "QUICK"
  | .IGNORE => "IGNORE"
  | .CASE => "CASE"
  | .WHEN => "WHEN"
  | .THEN => "THEN"
  | .ELSE => "ELSE"
  | .END => "END"

/-- The keywords that may also be names. -/
def nameable : List Keyword :=
  [.TEMPORARY, .IF, .EXISTS, .ROLLUP, .NEXT, .FIRST, .LAST, .ROWS, .ROW, .ONLY, .NULLS,
    .SIBLINGS, .SHARE, .MODE, .LOW_PRIORITY, .QUICK, .IGNORE, .APPLY]

/-- Whether a keyword can not be a name. -/
def isReserved (keyword : Keyword) : Bool :=
  !nameable.contains keyword

/-- The keywords of every dialect. -/
def shared : List Keyword :=
  [.SELECT, .DISTINCT, .ALL, .FROM, .WHERE, .AND, .OR, .NOT, .IN, .BETWEEN, .IS, .NULL, .LIKE,
    .AS, .ON, .USING, .JOIN, .INNER, .LEFT, .RIGHT, .FULL, .OUTER, .CROSS, .NATURAL, .GROUP,
    .ORDER, .BY, .ASC, .DESC, .HAVING, .UNION, .INTERSECT, .EXCEPT, .INSERT, .INTO, .VALUES, .SET,
    .UPDATE, .DELETE, .CREATE, .ALTER, .DROP, .TRUNCATE, .TABLE, .TEMPORARY, .IF, .EXISTS, .WITH,
    .FOR, .CASE, .WHEN, .THEN, .ELSE, .END]

end Keyword

end ShardedSql
