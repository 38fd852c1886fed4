/-!
# Names that differ in letter case

Tables, columns and data sources are told apart up to the case of their ASCII letters.  The main
statements say that this comparison is an equivalence.
-/

namespace ShardedSql.Text

/-- The characters of a text with its ASCII letters in lower case. -/
def foldAscii (text : String) : List Char :=
  text.toList.map Char.toLower

/-- Whether two names are equal up to the case of their ASCII letters. -/
def sameName (first second : String) : Bool :=
  foldAscii first == foldAscii second

theorem sameName_iff
    (first second : String) :
    sameName first second = true ↔ foldAscii first = foldAscii second := by
  simp [sameName]

@[simp]
theorem sameName_refl (name : String) :
    sameName name name = true := by
  simp [sameName]

theorem sameName_comm
    (first second : String) :
    sameName first second = sameName second first := by
  rw [Bool.eq_iff_iff, sameName_iff, sameName_iff]
  exact eq_comm

theorem sameName_trans
    {first second third : String}
    (firstSecond : sameName first second = true)
    (secondThird : sameName second third = true) :
    sameName first third = true := by
  rw [sameName_iff] at firstSecond secondThird ⊢
  exact firstSecond.trans secondThird

theorem sameName_congr_left
    {first second : String}
    (same : sameName first second = true)
    (other : String) :
    sameName first other = sameName second other := by
  rw [sameName, sameName, (sameName_iff _ _).mp same]

theorem sameName_congr_right
    {first second : String}
    (same : sameName first second = true)
    (other : String) :
    sameName other first = sameName other second := by
  rw [sameName, sameName, (sameName_iff _ _).mp same]

/-- Whether one of the names equals `name` up to letter case. -/
def holdsName
    (names : List String)
    (name : String) : Bool :=
  names.any fun candidate => sameName candidate name

/-- The upper-case form of a character where that form is ASCII, which it also is for the long `s`,
the dotless `i`, the sharp `s` and the Latin ligatures; any other character stays as it is. -/
def upperAsciiForm (character : Char) : List Char :=
  match character with
  | 'ß' => ['S', 'S']
  | 'ı' => ['I']
  | 'ſ' => ['S']
  | 'ﬀ' => ['F', 'F']
  | 'ﬁ' => ['F', 'I']
  | 'ﬂ' => ['F', 'L']
  | 'ﬃ' => ['F', 'F', 'I']
  | 'ﬄ' => ['F', 'F', 'L']
  | 'ﬅ' => ['S', 'T']
  | 'ﬆ' => ['S', 'T']
  | _ => [character.toUpper]

/-- The upper-case form of a word as far as it is ASCII, which decides whether the word is one of a
list of ASCII words. -/
def upperAscii (text : String) : String :=
  String.ofList (text.toList.flatMap upperAsciiForm)

end ShardedSql.Text
