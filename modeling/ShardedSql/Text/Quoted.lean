import ShardedSql.Text.CharacterSets

/-!
# Quoted text

Messages show names between double quotes.  A quote, a backslash and the common controls are
escaped by a backslash, and a character that cannot be shown is given by its code point.
-/

namespace ShardedSql.Text

/-- The code point of a character in lower-case hexadecimal digits between braces. -/
def escapedCodePoint (character : Char) : List Char :=
  ['\\', 'u', '\x7b'] ++ Nat.toDigits 16 character.toNat ++ ['\x7d']

/-- A character as it stands between double quotes. -/
def quotedCharacter (character : Char) : List Char :=
  match character with
  | '"' => ['\\', '"']
  | '\\' => ['\\', '\\']
  | '\n' => ['\\', 'n']
  | '\r' => ['\\', 'r']
  | '\t' => ['\\', 't']
  | '\x00' => ['\\', '0']
  | _ => if isPrintable character then [character] else escapedCodePoint character

/-- A text between double quotes. -/
def quoted (text : String) : String :=
  String.ofList (['"'] ++ text.toList.flatMap quotedCharacter ++ ['"'])

/-- Quoted texts between brackets, separated by commas. -/
def quotedList (texts : List String) : String :=
  "[" ++ ", ".intercalate (texts.map quoted) ++ "]"

end ShardedSql.Text
