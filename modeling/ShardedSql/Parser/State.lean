import ShardedSql.Key.Keys
import ShardedSql.Parser.Cursor
import ShardedSql.Statement.Basic

/-!
# Parsing

A parse walks a cursor over the tokens of a text and collects the statement.  A failure keeps the
cursor and the statement as they were when it arose.
-/

namespace ShardedSql

/-- What a SELECT notes for the time when all of it is read: owners in front of select items, the
end of the select list and the end of GROUP BY. -/
structure SelectNotes where
  owners : List (Nat × String) := []
  listStop : Option Nat := none
  groupByStop : Option Nat := none
  deriving DecidableEq

/-- The state of a parse. -/
structure ParseState where
  text : String
  dialect : Dialect
  rule : Rule
  cursor : Cursor
  statement : Statement
  keys : Keys
  rowNumberAlias : Option String := none
  notes : SelectNotes := {}

/-- A step of a parse. -/
abbrev Parse := ExceptT Error (StateM ParseState)

namespace ParseState

/-- The state in front of the first token of a text. -/
def start
    (dialect : Dialect)
    (rule : Rule)
    (keys : Keys)
    (text : String)
    (statement : Statement) : ParseState :=
  { text := text
    dialect := dialect
    rule := rule
    cursor := Cursor.ofText dialect text
    statement := statement
    keys := keys }

/-- Whether a name is the pseudo column that numbers rows, or the alias it was given. -/
def isRowNumber
    (state : ParseState)
    (label : String) : Bool :=
  state.dialect.rowNumberColumn?.any (fun column => Text.sameName column label) ||
    state.rowNumberAlias.any fun aliasName => Text.sameName aliasName label

/-- The failure when something else is expected than the current token. -/
def unexpected
    (state : ParseState)
    (expected : String) : Error :=
  let token := state.cursor.current
  if token.kind = .unknown then
    .unrecognizedInput token.literals token.start
  else
    .unexpectedToken expected token.kind token.literals

/-- The failure when the current token is not supported. -/
def unsupported (state : ParseState) : Error :=
  .unsupportedToken state.cursor.current.literals

end ParseState

namespace Parse

variable {α : Type}

/-- The current token. -/
def current : Parse Token :=
  return (← get).cursor.current

/-- Change the statement. -/
def modifyStatement (change : Statement → Statement) : Parse Unit :=
  modify fun state => { state with statement := change state.statement }

/-- Change the cursor. -/
def modifyCursor (change : Cursor → Cursor) : Parse Unit :=
  modify fun state => { state with cursor := change state.cursor }

/-- The statement so far. -/
def statement : Parse Statement :=
  return (← get).statement

/-- The end of the token passed last. -/
def lastStop : Parse Nat :=
  return (← get).cursor.lastStop

/-- Pass the current token without counting it as a placeholder. -/
def advance : Parse Unit :=
  modifyCursor Cursor.advance

/-- Pass the tokens that a measure gives for the ones ahead, and count the placeholders among
them. -/
def passMeasured (width : List Token → Nat) : Parse Nat := do
  let count := width (← get).cursor.tokens
  modifyCursor (Cursor.passBy count)
  return count

/-- Fail because something else is expected than the current token. -/
def failUnexpected (expected : String) : Parse α := do
  throw ((← get).unexpected expected)

/-- Fail because the current token is not supported. -/
def failUnsupported : Parse α := do
  throw (← get).unsupported

/-- Whether the current token is of a kind. -/
def isKind (kind : TokenKind) : Parse Bool :=
  return (← current).kind == kind

/-- Whether the current token is of one of several kinds. -/
def isAnyKind (kinds : List TokenKind) : Parse Bool :=
  return kinds.contains (← current).kind

/-- Whether the current token is a keyword. -/
def isWord (word : Keyword) : Parse Bool :=
  isKind (.keyword word)

/-- Whether the current token is a symbol. -/
def isSign (sign : Symbol) : Parse Bool :=
  isKind (.symbol sign)

/-- Pass the current token if it is of one of several kinds. -/
def skipAnyKind (kinds : List TokenKind) : Parse Bool := do
  let isThere ← isAnyKind kinds
  if isThere then
    advance
  return isThere

/-- Pass the current token if it is of a kind. -/
def skipKind (kind : TokenKind) : Parse Bool :=
  skipAnyKind [kind]

/-- Pass the current token if it is a keyword. -/
def skipWord (word : Keyword) : Parse Bool :=
  skipKind (.keyword word)

/-- Pass the current token if it is one of several keywords. -/
def skipAnyWord (words : List Keyword) : Parse Bool :=
  skipAnyKind (words.map TokenKind.keyword)

/-- Pass the current token if it is a symbol. -/
def skipSign (sign : Symbol) : Parse Bool :=
  skipKind (.symbol sign)

/-- Pass the current token, which has to be of a kind. -/
def accept (kind : TokenKind) : Parse Unit := do
  let isThere ← skipKind kind
  if !isThere then
    failUnexpected kind.display

/-- Pass a keyword that has to be there. -/
def acceptWord (word : Keyword) : Parse Unit :=
  accept (.keyword word)

/-- Pass a symbol that has to be there. -/
def acceptSign (sign : Symbol) : Parse Unit :=
  accept (.symbol sign)

/-- Whether the current token can name something. -/
def isName : Parse Bool :=
  return (← current).kind.isName

/-- Run a step again and again, at most `fuel` times, as long as it asks for it; each turn hands a
value to the next one. -/
def iterate (step : α → Parse (α × Bool)) : (fuel : Nat) → α → Parse α
  | 0, value => pure value
  | fuel + 1, value => do
      let (following, again) ← step value
      if again then iterate step fuel following else pure following

/-- Run a step that asks for another turn only after it has passed a token, until it asks for no
more. -/
def repeatFrom
    (start : α)
    (step : α → Parse (α × Bool)) : Parse α := do
  iterate step ((← get).cursor.tokens.length + 1) start

/-- Run a step that asks for another turn only after it has passed a token, until it asks for no
more. -/
def repeatStep (step : Parse Bool) : Parse Unit :=
  repeatFrom () fun _ => return ((), ← step)

end Parse

end ShardedSql
