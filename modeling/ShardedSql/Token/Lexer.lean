import ShardedSql.Dialect
import ShardedSql.Text.AsciiCase
import ShardedSql.Text.Blank
import ShardedSql.Text.Span
import ShardedSql.Token.Basic

/-!
# From text to tokens

A text is a sequence of gaps and tokens.  A gap consists of white space and comments; a token takes
at least one character, so the division always reaches the end of the text.  Nothing is refused
here: a character or an unclosed string that fits no class becomes a token of its own.
-/

namespace ShardedSql

namespace Lexer

/-- Where a scan of white space and comments stands. -/
inductive Gap where
  | blank
  | lineComment
  | blockComment

/-- Split off the white space and the comments in front of the next token.  A comment runs from
`//` or `--`, in some dialects also from `#`, to the end of its line, or from `/*` to `*/`; a
comment that is not closed runs to the end. -/
def splitGap
    (dialect : Dialect) :
    Gap → List Char → List Char × List Char
  | _, [] => ([], [])
  | .lineComment, character :: rest =>
      let gap := if character = '\n' then Gap.blank else Gap.lineComment
      let (skipped, remaining) := splitGap dialect gap rest
      (character :: skipped, remaining)
  | .blockComment, '*' :: '/' :: rest =>
      let (skipped, remaining) := splitGap dialect .blank rest
      ('*' :: '/' :: skipped, remaining)
  | .blockComment, character :: rest =>
      let (skipped, remaining) := splitGap dialect .blockComment rest
      (character :: skipped, remaining)
  | .blank, '/' :: '*' :: rest =>
      let (skipped, remaining) := splitGap dialect .blockComment rest
      ('/' :: '*' :: skipped, remaining)
  | .blank, '/' :: '/' :: rest =>
      let (skipped, remaining) := splitGap dialect .lineComment rest
      ('/' :: '/' :: skipped, remaining)
  | .blank, '-' :: '-' :: rest =>
      let (skipped, remaining) := splitGap dialect .lineComment rest
      ('-' :: '-' :: skipped, remaining)
  | .blank, character :: rest =>
      if Text.isAsciiBlank character then
        let (skipped, remaining) := splitGap dialect .blank rest
        (character :: skipped, remaining)
      else if character = '#' ∧ dialect.hasHashComments then
        let (skipped, remaining) := splitGap dialect .lineComment rest
        (character :: skipped, remaining)
      else
        ([], character :: rest)

/-- The two parts of a split are the text. -/
theorem splitGap_append
    (dialect : Dialect)
    (gap : Gap)
    (characters : List Char) :
    (splitGap dialect gap characters).1 ++ (splitGap dialect gap characters).2 = characters := by
  fun_induction splitGap dialect gap characters <;> simp_all

theorem length_splitGap_le
    (dialect : Dialect)
    (gap : Gap)
    (characters : List Char) :
    (splitGap dialect gap characters).2.length ≤ characters.length := by
  have total := congrArg List.length (splitGap_append dialect gap characters)
  rw [List.length_append] at total
  omega

/-- Whether a character is beyond ASCII; every such character may stand in a name. -/
def isBeyondAscii (character : Char) : Bool :=
  0x80 ≤ character.toNat

/-- Whether a character begins a name; a back quote begins a quoted one. -/
def isNameStart (character : Char) : Bool :=
  character.isAlpha || character == '`' || character == '_' || character == '$' ||
    isBeyondAscii character

/-- Whether a character continues a name. -/
def isNameCharacter (character : Char) : Bool :=
  character.isAlphanum || character == '_' || character == '$' || character == '#' ||
    isBeyondAscii character

/-- Whether the character in front satisfies a test. -/
def startsWith
    (test : Char → Bool)
    (characters : List Char) : Bool :=
  match characters with
  | character :: _ => test character
  | [] => false

/-- A class of tokens with the number of characters that follow the first one. -/
structure Shape where
  kind : TokenKind
  width : Nat

/-- A variable: `@` or `@@` and name characters. -/
def variableShape (rest : List Char) : Shape :=
  let marks := if rest.head? == some '@' then 1 else 0
  ⟨.literal .variable, marks + ((rest.drop marks).takeWhile isNameCharacter).length⟩

/-- A name in back quotes, which runs up to the next back quote. -/
def quotedNameShape (rest : List Char) : Shape :=
  let name := rest.takeWhile (· != '`')
  if name.length < rest.length then
    ⟨.literal .identifier, name.length + 1⟩
  else
    ⟨.unknown, rest.length⟩

/-- Whether the word `BY` follows after white space. -/
def isFollowedByBy (characters : List Char) : Bool :=
  match characters.dropWhile Text.isAsciiBlank with
  | first :: second :: rest =>
      first.toLower == 'b' && second.toLower == 'y' && !startsWith isNameCharacter rest
  | _ => false

/-- The class of a word: a keyword of the dialect, or a name.  `ORDER` and `GROUP` are keywords
only in front of `BY`. -/
def wordKind
    (dialect : Dialect)
    (word : String)
    (rest : List Char) : TokenKind :=
  let upper := Text.upperAscii word
  if (upper == "ORDER" || upper == "GROUP") && !isFollowedByBy rest then
    .literal .identifier
  else
    match dialect.keyword? upper with
    | some keyword => .keyword keyword
    | none => .literal .identifier

/-- A word from its first character. -/
def wordShape
    (dialect : Dialect)
    (first : Char)
    (rest : List Char) : Shape :=
  let name := rest.takeWhile isNameCharacter
  ⟨wordKind dialect (String.ofList (first :: name)) (rest.dropWhile isNameCharacter), name.length⟩

/-- Whether a character is a hexadecimal digit. -/
def isHexDigit (character : Char) : Bool :=
  character.isDigit || ('a' ≤ character && character ≤ 'f') ||
    ('A' ≤ character && character ≤ 'F')

/-- A hexadecimal number: `0x` and digits. -/
def hexShape (rest : List Char) : Shape :=
  ⟨.literal .hex, 1 + ((rest.drop 1).takeWhile isHexDigit).length⟩

/-- The number of characters of a point with digits behind it. -/
def fractionWidth (characters : List Char) : Nat :=
  match characters with
  | '.' :: rest =>
      let digits := (rest.takeWhile Char.isDigit).length
      if digits = 0 then 0 else digits + 1
  | _ => 0

/-- The number of characters of an exponent: `e`, an optional sign and digits. -/
def exponentWidth (characters : List Char) : Nat :=
  match characters with
  | marker :: rest =>
      let sign := if startsWith (fun mark => mark == '+' || mark == '-') rest then 1 else 0
      let digits := ((rest.drop sign).takeWhile Char.isDigit).length
      if (marker == 'e' || marker == 'E') && digits != 0 then 1 + sign + digits else 0
  | [] => 0

/-- The number of characters of a suffix that marks a floating-point number and ends the word. -/
def suffixWidth (characters : List Char) : Nat :=
  match characters with
  | mark :: rest =>
      if (mark == 'f' || mark == 'F' || mark == 'd' || mark == 'D') &&
          !startsWith isNameCharacter rest then
        1
      else
        0
  | [] => 0

/-- A number from its first character: digits, a fraction, an exponent and a suffix. -/
def numberShape
    (first : Char)
    (rest : List Char) : Shape :=
  let characters := first :: rest
  let sign := if first = '-' then 1 else 0
  let whole := sign + ((characters.drop sign).takeWhile Char.isDigit).length
  let fraction := fractionWidth (characters.drop whole)
  let exponent := exponentWidth (characters.drop (whole + fraction))
  let suffix := suffixWidth (characters.drop (whole + fraction + exponent))
  let kind := if fraction + exponent + suffix = 0 then LiteralKind.int else LiteralKind.float
  ⟨.literal kind, whole + fraction + exponent + suffix - 1⟩

/-- The longest symbol that the characters begin with. -/
def symbolShape (characters : List Char) : Shape :=
  match [3, 2, 1].findSome? fun width => Symbol.ofText? (String.ofList (characters.take width)) with
  | some symbol => ⟨.symbol symbol, symbol.text.length - 1⟩
  | none => ⟨.unknown, 0⟩

/-- The number of characters up to and with the quote that closes a string.  A doubled quote and,
in some dialects, a character behind a backslash do not close it. -/
def closingWidth?
    (dialect : Dialect)
    (quote : Char) : List Char → Option Nat
  | [] => none
  | [character] => if character = quote then some 1 else none
  | first :: second :: rest =>
      if first = '\\' ∧ dialect.isMysqlFamily then
        (closingWidth? dialect quote rest).map (· + 2)
      else if first = quote then
        if second = quote then (closingWidth? dialect quote rest).map (· + 2) else some 1
      else
        (closingWidth? dialect quote (second :: rest)).map (· + 1)

/-- A string whose opening quote is followed by `rest`, with `marks` characters between the first
character of the token and `rest`. -/
def stringShape
    (dialect : Dialect)
    (quote : Char)
    (marks : Nat)
    (rest : List Char) : Shape :=
  match closingWidth? dialect quote rest with
  | some width => ⟨.literal .chars, marks + width⟩
  | none => ⟨.unknown, marks + rest.length⟩

/-- Whether a number begins here.  A sign or a leading point belongs to a number only when it does
not directly follow a name or a number. -/
def isNumberStart
    (afterName : Bool)
    (first : Char)
    (rest : List Char) : Bool :=
  first.isDigit ||
    (first == '.' && startsWith Char.isDigit rest && !afterName) ||
    (first == '-' && startsWith (fun next => next == '.' || next.isDigit) rest && !afterName)

/-- The class and the width of the token that begins with `first`. -/
def shape
    (dialect : Dialect)
    (afterName : Bool)
    (first : Char)
    (rest : List Char) : Shape :=
  if dialect.hasVariables && first == '@' then
    variableShape rest
  else if dialect.hasNationalStrings && first == 'N' && rest.head? == some '\'' then
    stringShape dialect '\'' 1 (rest.drop 1)
  else if first == '`' then
    quotedNameShape rest
  else if isNameStart first then
    wordShape dialect first rest
  else if first == '0' && startsWith (fun next => next == 'x' || next == 'X') rest then
    hexShape rest
  else if isNumberStart afterName first rest then
    numberShape first rest
  else if Symbol.startsWith first then
    symbolShape (first :: rest)
  else if first == '\'' || first == '"' then
    stringShape dialect first 0 rest
  else
    ⟨.unknown, 0⟩

/-- What stands between the quotes of a string, with doubled quotes made single. -/
def stringContents
    (dialect : Dialect)
    (quote : Char) : List Char → List Char
  | [] => []
  | [character] => if character = quote then [] else [character]
  | first :: second :: rest =>
      if first = '\\' ∧ dialect.isMysqlFamily then
        first :: second :: stringContents dialect quote rest
      else if first = quote then
        if second = quote then first :: stringContents dialect quote rest else []
      else
        first :: stringContents dialect quote (second :: rest)

/-- The literals of a token with the given source characters. -/
def literalsOf
    (dialect : Dialect)
    (kind : TokenKind)
    (source : List Char) : List Char :=
  if kind = .literal .chars then
    match source with
    | 'N' :: quote :: rest => stringContents dialect quote rest
    | quote :: rest => stringContents dialect quote rest
    | [] => []
  else
    source

/-- Divide the characters that follow byte `position` into tokens; the last one is the end of the
text.  `afterName` tells whether a name or a number ends at this position. -/
def tokensFrom
    (dialect : Dialect)
    (afterName : Bool)
    (position : Nat)
    (characters : List Char) : List Token :=
  let gap := splitGap dialect .blank characters
  let start := position + Text.byteLength gap.1
  match _following : gap.2 with
  | [] => [Token.finish start]
  | first :: rest =>
      let shape := shape dialect (afterName && gap.1.isEmpty) first rest
      let source := first :: rest.take shape.width
      let stop := start + Text.byteLength source
      ⟨shape.kind, String.ofList source, String.ofList (literalsOf dialect shape.kind source), start,
          stop⟩ ::
        tokensFrom dialect (source.getLast?.any isNameCharacter) stop (rest.drop shape.width)
termination_by characters.length
decreasing_by
  have shorter := length_splitGap_le dialect .blank characters
  rw [_following] at shorter
  simp only [List.length_cons] at shorter
  simp only [List.length_drop]
  omega

/-- The tokens of a text; the last one is the end of the text. -/
def tokens
    (dialect : Dialect)
    (text : String) : List Token :=
  tokensFrom dialect false 0 text.toList

end Lexer

end ShardedSql
