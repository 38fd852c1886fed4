/-!
# Symbols

The operators and delimiters of statements, of one to three characters each.
-/

namespace ShardedSql

/-- An operator or a delimiter. -/
inductive Symbol where
  | leftParen | rightParen | leftBrace | rightBrace | leftBracket | rightBracket | semi | comma
  | dot | doubleDot | plus | sub | star | slash | question | eq | gt | lt | bang | tilde | caret
  | percent | colon | doubleColon | colonEq | ltEq | gtEq | ltEqGt | ltGt | bangEq | bangGt
  | bangLt | amp | bar | doubleAmp | doubleBar | doubleLt | doubleGt | at | pound
  deriving DecidableEq

namespace Symbol

/-- The characters of a symbol. -/
def text : Symbol → String
  | .leftParen => "("
  | .rightParen => ")"
  | .leftBrace => "\x7b"
  | .rightBrace => "\x7d"
  | .leftBracket => "["
  | .rightBracket => "]"
  | .semi => ";"
  | .comma => ","
  | .dot => "."
  | .doubleDot => ".."
  | .plus => "+"
  | .sub => "-"
  | .star => "*"
  | .slash => "/"
  | .question => "?"
  | .eq => "="
  | .gt => ">"
  | .lt => "<"
  | .bang => "!"
  | .tilde => "~"
  | .caret => "^"
  | .percent => "%"
  | .colon => ":"
  | .doubleColon => "::"
  | .colonEq => ":="
  | .ltEq => "<="
  | .gtEq => ">="
  | .ltEqGt => "<=>"
  | .ltGt => "<>"
  | .bangEq => "!="
  | .bangGt => "!>"
  | .bangLt => "!<"
  | .amp => "&"
  | .bar => "|"
  | .doubleAmp => "&&"
  | .doubleBar => "||"
  | .doubleLt => "<<"
  | .doubleGt => ">>"
  | .at => "@"
  | .pound => "#"

/-- Every symbol. -/
def all : List Symbol :=
  [.leftParen, .rightParen, .leftBrace, .rightBrace, .leftBracket, .rightBracket, .semi, .comma,
    .dot, .doubleDot, .plus, .sub, .star, .slash, .question, .eq, .gt, .lt, .bang, .tilde, .caret,
    .percent, .colon, .doubleColon, .colonEq, .ltEq, .gtEq, .ltEqGt, .ltGt, .bangEq, .bangGt,
    .bangLt, .amp, .bar, .doubleAmp, .doubleBar, .doubleLt, .doubleGt, .at, .pound]

/-- The symbol with the given characters. -/
def ofText? (text : String) : Option Symbol :=
  all.find? fun symbol => symbol.text == text

/-- Whether a character begins a symbol; each of these characters is also a symbol by itself. -/
def startsWith (character : Char) : Bool :=
  (ofText? (String.singleton character)).isSome

theorem text_of_ofText?
    {text : String}
    {symbol : Symbol}
    (found : ofText? text = some symbol) :
    symbol.text = text := by
  have holds := List.find?_some found
  simpa using holds

end Symbol

end ShardedSql
