import ShardedSql.Number.Binary64

/-!
# JSON values

A value keeps integers and floating-point numbers apart, because a rule file may only give an
integer where it counts something, and a parameter keeps the kind of number it was written as.
-/

namespace ShardedSql

/-- A JSON value; an integer lies between the least signed and the greatest unsigned integer of 64
bits. -/
inductive Json where
  | null
  | boolean (value : Bool)
  | integer (value : Int)
  | number (value : Binary64)
  | text (value : String)
  | list (items : List Json)
  | object (fields : List (String × Json))

namespace Json

/-- The last value that the object gives a field; nothing for a missing field and for a value that
is no object. -/
def field?
    (json : Json)
    (name : String) : Option Json :=
  match json with
  | .object fields => (fields.reverse.find? fun entry => entry.1 == name).map Prod.snd
  | _ => none

/-- An integer that is not negative. -/
def ofNat (value : Nat) : Json :=
  .integer value

/-- A list of texts. -/
def ofTexts (values : List String) : Json :=
  .list (values.map .text)

/-- A value that may be missing, which is null then. -/
def ofOption
    {α : Type}
    (encode : α → Json) : Option α → Json
  | some value => encode value
  | none => .null

/-- A text that may be missing, which is null then. -/
def ofText? : Option String → Json :=
  ofOption .text

end Json

end ShardedSql
