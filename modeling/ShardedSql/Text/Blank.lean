/-!
# White space

Two classes of white space are in use: the five ASCII blanks between tokens, and the Unicode class
that is trimmed from names and numbers.
-/

namespace ShardedSql.Text

/-- The blanks that separate tokens: blank, tab, line feed, form feed and carriage return. -/
def isAsciiBlank (character : Char) : Bool :=
  character == ' ' || character == '\t' || character == '\n' || character == '\x0c' ||
    character == '\r'

/-- The characters with the Unicode property `White_Space`. -/
def isBlank (character : Char) : Bool :=
  let code := character.toNat
  (9 ≤ code && code ≤ 13) || code == 0x20 || code == 0x85 || code == 0xA0 || code == 0x1680 ||
    (0x2000 ≤ code && code ≤ 0x200A) || code == 0x2028 || code == 0x2029 || code == 0x202F ||
    code == 0x205F || code == 0x3000

/-- The characters between the leading and the trailing white space. -/
def trimCharacters (characters : List Char) : List Char :=
  ((characters.dropWhile isBlank).reverse.dropWhile isBlank).reverse

/-- The text without leading and trailing white space. -/
def trim (text : String) : String :=
  String.ofList (trimCharacters text.toList)

end ShardedSql.Text
