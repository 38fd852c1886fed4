/-!
# Byte spans

Positions in a text count the bytes of its UTF-8 form.  This file cuts lists of characters at such
positions; a position inside a character or past the end cuts nothing.
-/

namespace ShardedSql.Text

/-- The number of UTF-8 bytes of the characters. -/
def byteLength : List Char → Nat
  | [] => 0
  | character :: rest => character.utf8Size + byteLength rest

@[simp]
theorem byteLength_append
    (first second : List Char) :
    byteLength (first ++ second) = byteLength first + byteLength second := by
  induction first with
  | nil => simp [byteLength]
  | cons character rest ih => simp [byteLength, ih, Nat.add_assoc]

/-- The characters after the first `count` bytes, if these end at a character. -/
def dropBytes? : List Char → Nat → Option (List Char)
  | characters, 0 => some characters
  | [], _ + 1 => none
  | character :: rest, count + 1 =>
      if character.utf8Size ≤ count + 1 then
        dropBytes? rest (count + 1 - character.utf8Size)
      else
        none

/-- The characters of the first `count` bytes, if these end at a character. -/
def takeBytes? : List Char → Nat → Option (List Char)
  | _, 0 => some []
  | [], _ + 1 => none
  | character :: rest, count + 1 =>
      if character.utf8Size ≤ count + 1 then
        (takeBytes? rest (count + 1 - character.utf8Size)).map (character :: ·)
      else
        none

/-- The characters from byte `start` up to byte `stop`; nothing when these are no positions of the
text in this order. -/
def sliceBytes
    (characters : List Char)
    (start stop : Nat) : List Char :=
  if start ≤ stop then
    ((dropBytes? characters start).bind (takeBytes? · (stop - start))).getD []
  else
    []

/-- The text from byte `start` up to byte `stop`. -/
def slice
    (text : String)
    (start stop : Nat) : String :=
  String.ofList (sliceBytes text.toList start stop)

end ShardedSql.Text
