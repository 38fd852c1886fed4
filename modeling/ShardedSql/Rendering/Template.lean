import ShardedSql.Text.LowerCase

/-!
# Templates

A template is the fixed text of a statement with places for the names of actual tables.  It is
filled in once for each unit that the statement runs on.
-/

namespace ShardedSql

/-- A piece of a template: text, or a logic table as the statement writes it. -/
inductive Segment where
  | text (content : String)
  | table (logicTable written : String)
  deriving DecidableEq

/-- Actual tables by logic tables in lower case. -/
abbrev TableNames := List (String × String)

namespace TableNames

/-- Put an actual table in the place of the one for its logic table, or at the end. -/
def insert
    (key actualTable : String) : TableNames → TableNames
  | [] => [(key, actualTable)]
  | present :: rest =>
      if present.1 = key then (key, actualTable) :: rest else present :: insert key actualTable rest

/-- The actual table for a logic table in lower case. -/
def find?
    (names : TableNames)
    (key : String) : Option String :=
  (List.find? (fun entry => entry.1 == key) names).map Prod.snd

end TableNames

/-- A statement with places for actual tables. -/
structure Template where
  segments : List Segment := []
  deriving DecidableEq

namespace Template

/-- Add text at the end; it joins the text that is there. -/
def addText
    (template : Template)
    (content : String) : Template :=
  if content.isEmpty then
    template
  else
    match template.segments.getLast? with
    | some (.text present) =>
        ⟨template.segments.dropLast ++ [.text (present ++ content)]⟩
    | _ => ⟨template.segments ++ [.text content]⟩

/-- Add a place for the actual table of a logic table. -/
def addTable
    (template : Template)
    (logicTable written : String) : Template :=
  ⟨template.segments ++ [.table logicTable written]⟩

/-- A name in the quotes of the name that it replaces. -/
def requote (written name : String) : String :=
  let characters := written.toList
  match characters.head?, characters.tail.getLast? with
  | some opening, some closing =>
      if (opening = '`' ∨ opening = '"') ∧ closing = opening then
        String.singleton opening ++ name ++ String.singleton closing
      else if opening = '[' ∧ closing = ']' then
        "[" ++ name ++ "]"
      else
        name
  | _, _ => name

/-- The text of a segment; a logic table without an actual one stays as it is written. -/
def fillSegment
    (names : TableNames) : Segment → String
  | .text content => content
  | .table logicTable written =>
      match names.find? (Text.lowerCase logicTable) with
      | some actualTable => requote written actualTable
      | none => written

/-- The statement with the names of actual tables filled in. -/
def fill
    (template : Template)
    (names : TableNames) : String :=
  String.join (template.segments.map (fillSegment names))

end Template

end ShardedSql
