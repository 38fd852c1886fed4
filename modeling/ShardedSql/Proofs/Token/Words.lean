import ShardedSql.Proofs.Text.Digits
import ShardedSql.Proofs.Token.Division

/-!
# Words, quoted names, numbers and signs

What is written for a name, a number or a sign is divided from what stands behind it, so that it is one token
wherever it is put.
-/

namespace ShardedSql

namespace Lexer

theorem symbol_text_ne_nil : ∀ symbol ∈ Symbol.all, symbol.text.toList ≠ [] := by
  decide

/-- Every symbol is among all of them. -/
theorem mem_symbols (sign : Symbol) : sign ∈ Symbol.all := by
  cases sign <;> decide

/-- A sign that begins no longer symbol is a token by itself. -/
theorem symbolShape_width_of_alone
    {sign : Char}
    {rest : List Char}
    (alone : ∀ symbol ∈ Symbol.all, ∀ width, symbol.text.toList = (sign :: rest).take width →
      symbol.text.length = 1) :
    (symbolShape (sign :: rest)).width = 0 := by
  unfold symbolShape
  split
  next symbol found =>
    obtain ⟨width, -, isSymbol⟩ := List.exists_of_findSome?_eq_some found
    have isText := Symbol.text_of_ofText? isSymbol
    have single := alone symbol (mem_symbols symbol) width (by rw [isText, String.toList_ofList])
    simp [single]
  next => rfl

/-- A sign with which only symbols of one character begin is a token by itself. -/
theorem symbolShape_width_of_head
    {sign : Char}
    (alone : ∀ symbol ∈ Symbol.all, symbol.text.toList.head? = some sign → symbol.text.length = 1)
    (rest : List Char) :
    (symbolShape (sign :: rest)).width = 0 := by
  apply symbolShape_width_of_alone
  intro symbol isThere width isText
  apply alone symbol isThere
  cases width with
  | zero => exact absurd isText (symbol_text_ne_nil symbol isThere)
  | succ => rw [isText, List.take_succ_cons, List.head?_cons]

/-- A point in front of anything but another point is a token by itself. -/
theorem symbolShape_width_of_point
    {second : Char}
    (isOther : second ≠ '.')
    (rest : List Char) :
    (symbolShape ('.' :: second :: rest)).width = 0 := by
  have others : ∀ symbol ∈ Symbol.all, symbol.text.length ≠ 1 →
      symbol.text.toList.head? = some '.' → symbol.text.toList[1]? = some '.' := by
    decide
  apply symbolShape_width_of_alone
  intro symbol isThere width isText
  by_contra isLonger
  rcases width with _ | _ | width
  · exact absurd isText (symbol_text_ne_nil symbol isThere)
  · exact isLonger (by rw [← String.length_toList, isText]; rfl)
  · have isSecond := others symbol isThere isLonger (by rw [isText]; rfl)
    rw [isText, List.take_succ_cons, List.take_succ_cons] at isSecond
    exact isOther (Option.some.inj isSecond)

/-- A parenthesis, a comma or a placeholder is a token by itself. -/
theorem shape_width_of_sign
    (dialect : Dialect)
    (afterName : Bool)
    {sign : Char}
    (isSign : sign = '(' ∨ sign = ')' ∨ sign = ',' ∨ sign = '?')
    (rest : List Char) :
    (shape dialect afterName sign rest).width = 0 := by
  have isSymbol : tokenClass dialect afterName sign rest = .symbol := by
    have starts : Symbol.startsWith sign = true := by
      rcases isSign with rfl | rfl | rfl | rfl <;> decide
    have noStart : isNameStart sign = false := by
      rcases isSign with rfl | rfl | rfl | rfl <;> decide
    have others : sign ≠ '@' ∧ sign ≠ 'N' ∧ sign ≠ '`' ∧ sign ≠ '0' ∧ sign ≠ '.' ∧ sign ≠ '-' ∧
        sign.isDigit = false := by
      rcases isSign with rfl | rfl | rfl | rfl <;> decide
    simp [tokenClass, isNumberStart, starts, noStart, others]
  have alone : ∀ symbol ∈ Symbol.all, symbol.text.toList.head? = some sign →
      symbol.text.length = 1 := by
    rcases isSign with rfl | rfl | rfl | rfl <;> decide
  rw [shape_eq_shapeBy, isSymbol]
  exact symbolShape_width_of_head alone rest

/-- A point in front of a word is a token by itself. -/
theorem shape_width_of_point
    (dialect : Dialect)
    (afterName : Bool)
    {first : Char}
    (starts : isNameStart first = true)
    (rest : List Char) :
    (shape dialect afterName '.' (first :: rest)).width = 0 := by
  have isDigit := isDigit_of_isNameStart starts
  have isSymbol : tokenClass dialect afterName '.' (first :: rest) = .symbol := by
    have isSign : Symbol.startsWith '.' = true := by decide
    have noStart : isNameStart '.' = false := by decide
    have noDigit : Char.isDigit '.' = false := by decide
    simp [tokenClass, isNumberStart, startsWith, isSign, noStart, noDigit, isDigit]
  have isOther : first ≠ '.' := by
    rintro rfl
    exact absurd starts (by decide)
  rw [shape_eq_shapeBy, isSymbol]
  exact symbolShape_width_of_point isOther rest

/-- Whether characters are a word without quotes. -/
structure IsWord
    (first : Char)
    (rest : List Char) : Prop where
  starts : isNameStart first = true
  isBare : first ≠ '`'
  continues : ∀ character ∈ rest, isNameCharacter character = true

theorem isNameCharacter_of_isNameStart
    {character : Char}
    (starts : isNameStart character = true)
    (isBare : character ≠ '`') :
    isNameCharacter character = true := by
  simp only [isNameStart, Bool.or_eq_true, beq_iff_eq] at starts
  simp only [isNameCharacter, Char.isAlphanum, Bool.or_eq_true, beq_iff_eq]
  tauto

/-- The next character of a text ends a word. -/
def EndsWord (behind : List Char) : Prop :=
  startsWith isNameCharacter behind = false

/-- Whether a word does not begin a string that stands behind it. -/
def BeginsNoString
    (dialect : Dialect)
    (first : Char)
    (rest behind : List Char) : Prop :=
  dialect.hasNationalStrings = true → first = 'N' → rest = [] → behind.head? ≠ some '\''

namespace IsWord

variable {first : Char} {rest behind : List Char}

theorem takeWhile_eq
    (isWord : IsWord first rest)
    (ends : EndsWord behind) :
    (rest ++ behind).takeWhile isNameCharacter = rest := by
  have none : behind.takeWhile isNameCharacter = [] := by
    cases behind with
    | nil => rfl
    | cons character behind =>
        rw [List.takeWhile_cons_of_neg]
        simpa [EndsWord, startsWith] using ends
  rw [List.takeWhile_append_of_pos isWord.continues, none, List.append_nil]

/-- A word is read as such where it begins no string. -/
theorem tokenClass_eq
    {dialect : Dialect}
    {afterName : Bool}
    (isWord : IsWord first rest)
    (noString : BeginsNoString dialect first rest behind) :
    tokenClass dialect afterName first (rest ++ behind) = .word := by
  have noMark : first ≠ '@' := by
    rintro rfl
    exact absurd isWord.starts (by decide)
  have noNational : (dialect.hasNationalStrings && first == 'N' &&
      (rest ++ behind).head? == some '\'') = false := by
    rw [Bool.eq_false_iff]
    intro isNational
    simp only [Bool.and_eq_true, beq_iff_eq] at isNational
    obtain ⟨⟨hasStrings, isN⟩, isQuote⟩ := isNational
    cases rest with
    | nil => exact noString hasStrings isN rfl isQuote
    | cons second rest =>
        cases isQuote
        exact absurd (isWord.continues '\'' List.mem_cons_self) (by decide)
  rw [tokenClass, noNational]
  simp [noMark, isWord.isBare, isWord.starts]

theorem endsName
    (isWord : IsWord first rest)
    (gap : List Char) :
    Piece.endsName ⟨gap, first, rest⟩ = true := by
  have all : ∀ character ∈ first :: rest, isNameCharacter character = true := by
    intro character isThere
    rcases List.mem_cons.mp isThere with rfl | isLater
    · exact isNameCharacter_of_isNameStart isWord.starts isWord.isBare
    · exact isWord.continues character isLater
  rw [Piece.endsName, Piece.source, List.getLast?_eq_some_getLast (List.cons_ne_nil first rest)]
  exact all _ (List.getLast_mem _)

/-- A word is divided from what ends it. -/
theorem stands
    {dialect : Dialect}
    {afterName : Bool}
    {gap : List Char}
    (isWord : IsWord first rest)
    (noString : BeginsNoString dialect first rest behind)
    (ends : EndsWord behind)
    (isGap : ∀ after, IsGap dialect .blank [] after → IsGap dialect .blank gap after) :
    Piece.Stands dialect afterName behind ⟨gap, first, rest⟩ := by
  constructor
  · apply isGap
    have differs : ∀ character, isNameStart character = false → first ≠ character := by
      rintro character notStart rfl
      rw [isWord.starts] at notStart
      cases notStart
    apply IsGap.token
    constructor
    · rw [Bool.eq_false_iff]
      intro isBlank
      rw [isAsciiBlank_iff] at isBlank
      have notStart : isNameStart first = false := by
        rcases isBlank with rfl | rfl | rfl | rfl | rfl <;> decide
      exact differs first notStart rfl
    · exact fun isHash => absurd isHash (differs '#' (by decide))
    · exact fun isSlash => absurd isSlash (differs '/' (by decide))
    · exact fun isSlash => absurd isSlash (differs '/' (by decide))
    · exact fun isDash => absurd isDash (differs '-' (by decide))
  · rw [shape_eq_shapeBy, isWord.tokenClass_eq noString, shapeBy, wordShape]
    dsimp only
    rw [isWord.takeWhile_eq ends, List.take_left]

end IsWord

/-- Behind the quote that closes a string stands no other one. -/
theorem head?_ne_of_closingWidth?
    {dialect : Dialect}
    {quote : Char}
    {characters : List Char}
    {width : Nat}
    (closes : closingWidth? dialect quote characters = some width) :
    (characters.drop width).head? ≠ some quote := by
  fun_induction closingWidth? dialect quote characters generalizing width with
  | case1 => cases closes
  | case2 =>
      cases closes
      simp
  | case3 => cases closes
  | case4 first second rest escapes ih =>
      obtain ⟨inner, isInner, rfl⟩ := Option.map_eq_some_iff.mp closes
      exact ih isInner
  | case5 rest noEscape ih =>
      obtain ⟨inner, isInner, rfl⟩ := Option.map_eq_some_iff.mp closes
      exact ih isInner
  | case6 second rest isSingle noEscape =>
      cases closes
      intro isDoubled
      exact isSingle (Option.some.inj isDoubled)
  | case7 first second rest noEscape isOther ih =>
      obtain ⟨inner, isInner, rfl⟩ := Option.map_eq_some_iff.mp closes
      exact ih isInner

theorem getLast?_append_of_some
    {front back : List Char}
    {last : Char}
    (isLast : back.getLast? = some last) :
    (front ++ back).getLast? = some last := by
  rw [List.getLast?_append, isLast]
  rfl

/-- The quote that closes a string ends it. -/
theorem getLast?_of_closingWidth?
    {dialect : Dialect}
    {quote : Char}
    {characters : List Char}
    {width : Nat}
    (closes : closingWidth? dialect quote characters = some width) :
    (characters.take width).getLast? = some quote := by
  fun_induction closingWidth? dialect quote characters generalizing width with
  | case1 => cases closes
  | case2 =>
      cases closes
      rfl
  | case3 => cases closes
  | case4 first second rest escapes ih =>
      obtain ⟨inner, isInner, rfl⟩ := Option.map_eq_some_iff.mp closes
      exact @getLast?_append_of_some [first, second] _ _ (ih isInner)
  | case5 rest noEscape ih =>
      obtain ⟨inner, isInner, rfl⟩ := Option.map_eq_some_iff.mp closes
      exact @getLast?_append_of_some [quote, quote] _ _ (ih isInner)
  | case6 second rest isSingle noEscape =>
      cases closes
      rfl
  | case7 first second rest noEscape isOther ih =>
      obtain ⟨inner, isInner, rfl⟩ := Option.map_eq_some_iff.mp closes
      exact @getLast?_append_of_some [first] _ _ (ih isInner)

theorem closingWidth?_of_plain
    {dialect : Dialect}
    {quote : Char}
    {name behind : List Char}
    (isPlain : ∀ character ∈ name, character ≠ quote ∧ character ≠ '\\')
    (notBackslash : quote ≠ '\\')
    (notDoubled : behind.head? ≠ some quote) :
    closingWidth? dialect quote (name ++ quote :: behind) = some (name.length + 1) := by
  induction name with
  | nil =>
      exact (closingWidth?_eq_one notBackslash _ _).mpr ⟨rfl, notDoubled⟩
  | cons character name ih =>
      obtain ⟨isOther, noEscape⟩ := isPlain character List.mem_cons_self
      have closes := ih fun other isLater => isPlain other (List.mem_cons_of_mem _ isLater)
      obtain ⟨second, others, isNext⟩ : ∃ second others, name ++ quote :: behind = second :: others :=
        List.exists_cons_of_ne_nil (by simp)
      rw [isNext] at closes
      rw [List.cons_append, isNext, closingWidth?, if_neg (fun escapes => noEscape escapes.1),
        if_neg isOther, closes]
      rfl

/-- Whether characters are a name between two quotes that a new name keeps. -/
structure IsQuoted
    (first : Char)
    (rest : List Char) : Prop where
  isQuote : first = '`' ∨ first = '"'
  isClosed : ∃ inner, rest = inner ++ [first]

/-- A quote is no character that a gap begins with. -/
theorem isGap_of_quote
    {dialect : Dialect}
    {first : Char}
    {rest : List Char}
    (isQuote : first = '`' ∨ first = '"') :
    IsGap dialect .blank [] (first :: rest) := by
  apply IsGap.token
  rcases isQuote with rfl | rfl
  all_goals exact ⟨by decide, nofun, nofun, nofun, nofun⟩

theorem tokenClass_of_quote
    (dialect : Dialect)
    (afterName : Bool)
    {first : Char}
    (isQuote : first = '`' ∨ first = '"')
    (rest : List Char) :
    tokenClass dialect afterName first rest = if first = '`' then .quotedName else .string := by
  have isStart : isNameStart '"' = false := by decide
  have isSign : Symbol.startsWith '"' = false := by decide
  have isDigit : Char.isDigit '"' = false := by decide
  rcases isQuote with rfl | rfl
  · simp [tokenClass]
  · simp [tokenClass, isNumberStart, isStart, isSign, isDigit]

/-- Behind a name between double quotes stands no other one. -/
theorem Piece.Stands.notDoubled
    {dialect : Dialect}
    {afterName : Bool}
    {gap rest behind : List Char}
    (stands : Piece.Stands dialect afterName behind ⟨gap, '"', rest⟩) :
    behind.head? ≠ some '"' := by
  by_cases isThere : behind = []
  · rw [isThere]
    nofun
  · have width := stands.width_eq isThere
    rw [shape_eq_shapeBy, tokenClass_of_quote _ _ (.inr rfl), if_neg (by decide), shapeBy,
      stringShape] at width
    cases closes : closingWidth? dialect '"' (rest ++ behind) with
    | none =>
        rw [closes] at width
        have positive := List.length_pos_of_ne_nil isThere
        simp only [List.length_append] at width
        omega
    | some found =>
        rw [closes] at width
        simp only [Nat.zero_add] at width
        have notDoubled := head?_ne_of_closingWidth? closes
        rwa [width, List.drop_left] at notDoubled

/-- A name in quotes is divided from what stands behind it. -/
theorem stands_of_quoted
    {dialect : Dialect}
    {afterName : Bool}
    {gap name behind : List Char}
    {mark : Char}
    (isQuote : mark = '`' ∨ mark = '"')
    (isName : ∀ character ∈ name, isNameCharacter character = true)
    (notDoubled : mark = '"' → behind.head? ≠ some '"')
    (isGap : ∀ after, IsGap dialect .blank [] after → IsGap dialect .blank gap after) :
    Piece.Stands dialect afterName behind ⟨gap, mark, name ++ [mark]⟩ := by
  constructor
  · exact isGap _ (isGap_of_quote isQuote)
  · have differs : ∀ other, isNameCharacter other = false → ∀ character ∈ name, character ≠ other := by
      rintro other noName character isThere rfl
      rw [isName _ isThere] at noName
      cases noName
    rw [shape_eq_shapeBy, tokenClass_of_quote _ _ isQuote, List.append_assoc, List.singleton_append]
    have width : ∀ {count}, count = name.length + 1 →
        (name ++ mark :: behind).take count = name ++ [mark] := by
      rintro _ rfl
      rw [List.take_length_add_append]
      rfl
    rcases isQuote with rfl | rfl
    · have noQuote : ∀ character ∈ name, (character != '`') = true :=
        fun character isThere => by simpa using differs '`' (by decide) character isThere
      rw [if_pos rfl, shapeBy, quotedNameShape, List.takeWhile_append_of_pos noQuote]
      have ends : ('`' :: behind).takeWhile (· != '`') = [] := by simp
      rw [ends, List.append_nil]
      dsimp only
      rw [if_pos (by simp)]
      exact width rfl
    · have isPlain : ∀ character ∈ name, character ≠ '"' ∧ character ≠ '\\' :=
        fun character isThere => ⟨differs '"' (by decide) character isThere,
          differs '\\' (by decide) character isThere⟩
      rw [if_neg (by decide), shapeBy, stringShape,
        closingWidth?_of_plain isPlain (by decide) (notDoubled rfl)]
      exact width (Nat.zero_add _)

/-- Whether characters are a whole number in digits, possibly with a sign. -/
inductive IsNumeral : Char → List Char → Prop where
  | digits
      {first : Char}
      {rest : List Char}
      (isFirst : first.isDigit = true)
      (areDigits : ∀ digit ∈ rest, digit.isDigit = true) :
      IsNumeral first rest
  | negative
      {first : Char}
      {rest : List Char}
      (isFirst : first.isDigit = true)
      (areDigits : ∀ digit ∈ rest, digit.isDigit = true) :
      IsNumeral '-' (first :: rest)

/-- An integer is written as a whole number. -/
theorem exists_isNumeral (value : Int) :
    ∃ first rest, (toString value).toList = first :: rest ∧ IsNumeral first rest := by
  have ofNat : ∀ number : Nat, ∃ first rest, (toString (number : Int)).toList = first :: rest ∧
      first.isDigit = true ∧ ∀ digit ∈ rest, digit.isDigit = true := by
    intro number
    have areDigits := AllDigits.toString_of_nonneg (Int.natCast_nonneg number)
    have digits : (toString (number : Int)).toList = Nat.toDigits 10 number := by
      change number.repr.toList = _
      exact Nat.toList_repr
    obtain ⟨first, rest, split⟩ := List.exists_cons_of_ne_nil (Nat.toDigits_ne_nil (b := 10) (n := number))
    rw [digits, split] at areDigits
    exact ⟨first, rest, digits.trans split, areDigits first List.mem_cons_self,
      fun digit isThere => areDigits digit (List.mem_cons_of_mem _ isThere)⟩
  cases value with
  | ofNat number =>
      obtain ⟨first, rest, isText, isFirst, areDigits⟩ := ofNat number
      exact ⟨first, rest, isText, .digits isFirst areDigits⟩
  | negSucc number =>
      obtain ⟨first, rest, isText, isFirst, areDigits⟩ := ofNat (number + 1)
      refine ⟨'-', first :: rest, ?_, .negative isFirst areDigits⟩
      have signed : toString (Int.negSucc number) = "-" ++ toString ((number + 1 : Nat) : Int) := rfl
      rw [signed, String.toList_append, isText]
      rfl

/-- In front of a parenthesis, a number has no further part. -/
theorem restWidth_of_paren (behind : List Char) : restWidth (')' :: behind) = 0 := by
  have noFraction : fractionWidth (')' :: behind) = 0 := fractionWidth_of_ne (by decide) behind
  have noExponent : exponentWidth (')' :: behind) = 0 := by
    rw [exponentWidth_cons]
    rfl
  have noSuffix : suffixWidth (')' :: behind) = 0 := rfl
  unfold restWidth
  dsimp only
  rw [noFraction, List.drop_zero, noExponent, Nat.add_zero, List.drop_zero, noSuffix]

/-- A digit begins a number. -/
theorem tokenClass_of_digit
    (dialect : Dialect)
    (afterName : Bool)
    {first : Char}
    {rest behind : List Char}
    (isFirst : first.isDigit = true)
    (areDigits : ∀ digit ∈ rest, digit.isDigit = true) :
    tokenClass dialect afterName first (rest ++ ')' :: behind) = .number := by
  have others := test_of_isDigit
    (fun digit => digit != '@' && digit != 'N' && digit != '`' && !isNameStart digit) (by decide) isFirst
  simp only [Bool.and_eq_true, bne_iff_ne, Bool.not_eq_true'] at others
  obtain ⟨⟨⟨noMark, noNational⟩, noQuote⟩, noStart⟩ := others
  have noHex : startsWith (fun next => next == 'x' || next == 'X') (rest ++ ')' :: behind) = false := by
    cases rest with
    | nil => rfl
    | cons digit rest =>
        have noMark := test_of_isDigit (fun digit => !(digit == 'x' || digit == 'X')) (by decide)
          (areDigits digit List.mem_cons_self)
        simpa [startsWith] using noMark
  simp [tokenClass, isNumberStart, noMark, noNational, noQuote, noStart, noHex, isFirst]

/-- A number in front of a parenthesis is divided from it. -/
theorem IsNumeral.stands
    {dialect : Dialect}
    {afterName : Bool}
    {first : Char}
    {rest : List Char}
    (isNumeral : IsNumeral first rest)
    (behind : List Char) :
    Piece.Stands dialect afterName (')' :: behind) ⟨[' '], first, rest⟩ := by
  have blank : ∀ {after}, IsGap dialect .blank [] after → IsGap dialect .blank [' '] after :=
    fun isToken => .blank rfl isToken
  have digits : ∀ {digits : List Char}, (∀ digit ∈ digits, digit.isDigit = true) →
      (digits ++ ')' :: behind).takeWhile Char.isDigit = digits := by
    intro digits areDigits
    rw [List.takeWhile_append_of_pos areDigits]
    simp
  constructor
  · apply blank
    apply IsGap.token
    cases isNumeral with
    | digits isFirst areDigits =>
        have others := test_of_isDigit (fun digit => digit != '#' && digit != '/' && digit != '-' &&
          !Text.isAsciiBlank digit) (by decide) isFirst
        simp only [Bool.and_eq_true, bne_iff_ne, Bool.not_eq_true'] at others
        obtain ⟨⟨⟨noHash, noSlash⟩, noDash⟩, notBlank⟩ := others
        exact ⟨notBlank, fun isHash => absurd isHash noHash, fun isSlash => absurd isSlash noSlash,
          fun isSlash => absurd isSlash noSlash, fun isDash => absurd isDash noDash⟩
    | negative isFirst =>
        refine ⟨rfl, nofun, nofun, nofun, fun _ isDash => ?_⟩
        cases isDash
        exact absurd isFirst (by decide)
  · rw [show (afterName && [' '].isEmpty) = false from Bool.and_false _, shape_eq_shapeBy]
    cases isNumeral with
    | digits isFirst areDigits =>
        have noMinus : first ≠ '-' := by
          rintro rfl
          exact absurd isFirst (by decide)
        have allDigits : ∀ digit ∈ first :: rest, digit.isDigit = true := by
          simpa using And.intro isFirst areDigits
        have whole : wholeWidth first (rest ++ ')' :: behind) = rest.length + 1 := by
          rw [wholeWidth, if_neg noMinus, ← List.cons_append, digits allDigits, List.length_cons]
        rw [tokenClass_of_digit _ _ isFirst areDigits, shapeBy, numberShape_width, whole,
          List.drop_succ_cons, List.drop_left, restWidth_of_paren]
        exact List.take_left
    | @negative first rest isFirst areDigits =>
        have allDigits : ∀ digit ∈ first :: rest, digit.isDigit = true := by
          simpa using And.intro isFirst areDigits
        have isNumber : tokenClass dialect false '-' (first :: rest ++ ')' :: behind) = .number := by
          have noStart : isNameStart '-' = false := by decide
          have noDigit : Char.isDigit '-' = false := by decide
          simp [tokenClass, isNumberStart, startsWith, noStart, noDigit, isFirst]
        have whole : wholeWidth '-' (first :: rest ++ ')' :: behind) = (first :: rest).length + 1 := by
          rw [wholeWidth, if_pos rfl, digits allDigits, Nat.add_comm]
        rw [isNumber, shapeBy, numberShape_width, whole, List.drop_succ_cons, List.drop_left,
          restWidth_of_paren]
        exact List.take_left

/-- A character that is no name character stands alone behind what alike texts begin with. -/
theorem EndsWord.of_alike
    {before after : List Char}
    (ends : EndsWord before)
    (alike : Alike before after) :
    EndsWord after := by
  rcases alike.heads with same | ⟨first, second, rest, others, rfl, rfl, isFirst, isSecond⟩
  · cases before with
    | nil =>
        rw [alike.eq_of_nil]
        rfl
    | cons character before =>
        obtain ⟨others, rfl⟩ := List.head?_eq_some_iff.mp same.symm
        exact ends
  · exact ends_isNameCharacter second (.inl isSecond)

/-- A word begins as one. -/
theorem starts_of_word
    {dialect : Dialect}
    {afterName : Bool}
    {first : Char}
    {rest : List Char}
    (isClass : tokenClass dialect afterName first rest = .word) :
    isNameStart first = true ∧ first ≠ '`' := by
  unfold tokenClass at isClass
  split_ifs at isClass with _ _ noQuote starts
  exact ⟨starts, by simpa using noQuote⟩

/-- What is read by the rule for words is a word. -/
theorem isWord_of_class
    {dialect : Dialect}
    {afterName : Bool}
    {first : Char}
    {rest : List Char}
    (isClass : tokenClass dialect afterName first rest = .word) :
    IsWord first (rest.take (shape dialect afterName first rest).width) := by
  obtain ⟨starts, isBare⟩ := starts_of_word isClass
  refine ⟨starts, isBare, ?_⟩
  rw [shape_eq_shapeBy, isClass, shapeBy, wordShape]
  dsimp only
  rw [← List.prefix_iff_eq_take.mp (List.takeWhile_prefix isNameCharacter)]
  exact fun character => List.mem_takeWhile_imp

theorem takeWhile_eq_nil_iff
    (test : Char → Bool)
    (characters : List Char) :
    characters.takeWhile test = [] ↔ startsWith test characters = false := by
  cases characters with
  | nil => simp [startsWith]
  | cons first rest => cases holds : test first <;> simp [startsWith, holds]

/-- A word ends where a character stands that is none of a name. -/
theorem endsWord_of_class
    {dialect : Dialect}
    {afterName : Bool}
    {first : Char}
    {front before : List Char}
    (isClass : tokenClass dialect afterName first (front ++ before) = .word)
    (isWhole : (shape dialect afterName first (front ++ before)).width = front.length) :
    EndsWord before := by
  have isWord := isWord_of_class isClass
  rw [isWhole, List.take_left] at isWord
  rw [shape_eq_shapeBy, isClass, shapeBy, wordShape, List.takeWhile_append_of_pos isWord.continues,
    List.length_append] at isWhole
  rw [EndsWord, ← takeWhile_eq_nil_iff]
  exact List.eq_nil_of_length_eq_zero (Nat.add_eq_left.mp isWhole)

/-- Behind a word stands a character that ends it. -/
theorem IsWord.endsWord_of_stands
    {dialect : Dialect}
    {afterName : Bool}
    {gap rest behind : List Char}
    {first : Char}
    (isWord : IsWord first rest)
    (stands : Piece.Stands dialect afterName behind ⟨gap, first, rest⟩) :
    EndsWord behind := by
  by_cases isThere : behind = []
  · rw [isThere]
    rfl
  · have width := stands.width_eq isThere
    have isClass : tokenClass dialect (afterName && gap.isEmpty) first (rest ++ behind) = .word := by
      by_cases isNational :
          tokenClass dialect (afterName && gap.isEmpty) first (rest ++ behind) = .national
      · -- Such a string takes more than its mark, but its mark would be the whole word.
        have isQuote := head?_of_national isNational
        rw [shape_eq_shapeBy, isNational, shapeBy] at width
        cases rest with
        | cons second rest =>
            cases isQuote
            exact absurd (isWord.continues '\'' List.mem_cons_self) (by decide)
        | nil =>
            unfold stringShape at width
            split at width
            all_goals
              simp only [List.length_nil] at width
              omega
      · unfold tokenClass at isNational ⊢
        have noMark : first ≠ '@' := by
          rintro rfl
          exact absurd isWord.starts (by decide)
        simp only [beq_iff_eq, Bool.and_false, Bool.false_eq_true, if_false,
          beq_eq_false_iff_ne.mpr noMark] at isNational ⊢
        split at isNational
        next => exact absurd rfl isNational
        next others => rw [if_neg others, if_neg isWord.isBare, if_pos isWord.starts]
    exact endsWord_of_class isClass width

/-- A name in back quotes begins with one. -/
theorem first_of_quotedName
    {dialect : Dialect}
    {afterName : Bool}
    {first : Char}
    {rest : List Char}
    (isClass : tokenClass dialect afterName first rest = .quotedName) :
    first = '`' := by
  unfold tokenClass at isClass
  split_ifs at isClass with _ _ isQuote
  exact beq_iff_eq.mp isQuote

/-- A name in back quotes ends with one. -/
theorem isClosed_of_name
    {rest : List Char}
    (isName : (quotedNameShape rest).kind.isName = true) :
    ∃ inner, rest.take (quotedNameShape rest).width = inner ++ ['`'] := by
  unfold quotedNameShape at isName ⊢
  dsimp only at isName ⊢
  split at isName
  next isShorter =>
    have split := List.takeWhile_append_dropWhile (p := (· != '`')) (l := rest)
    cases isRest : rest.dropWhile (· != '`') with
    | nil =>
        rw [isRest, List.append_nil] at split
        rw [split] at isShorter
        exact absurd isShorter (Nat.lt_irrefl _)
    | cons quote behind =>
        rw [isRest] at split
        have isQuote : quote = '`' := by
          have fails := List.head_dropWhile_not (· != '`') (isRest ▸ List.cons_ne_nil quote behind)
          simpa [isRest] using fails
        refine ⟨rest.takeWhile (· != '`'), ?_⟩
        rw [if_pos isShorter]
        calc rest.take ((rest.takeWhile (· != '`')).length + 1)
            _ = (rest.takeWhile (· != '`') ++ quote :: behind).take
                ((rest.takeWhile (· != '`')).length + 1) := by rw [split]
            _ = rest.takeWhile (· != '`') ++ (quote :: behind).take 1 := List.take_length_add_append 1
            _ = rest.takeWhile (· != '`') ++ ['`'] := by rw [isQuote]; rfl
  next => cases isName

/-- The rules by which names and strings are read. -/
theorem tokenClass_of_name
    {dialect : Dialect}
    {afterName : Bool}
    {first : Char}
    {rest : List Char}
    (isName : (shape dialect afterName first rest).kind.isName = true) :
    tokenClass dialect afterName first rest ∈
      [TokenClass.word, .quotedName, .national, .string] := by
  rw [shape_eq_shapeBy] at isName
  generalize tokenClass dialect afterName first rest = rule at isName
  have numbers := numberShape_kind first rest
  have symbols := symbolShape_kind (first :: rest)
  cases rule <;> grind [shapeBy, variableShape, hexShape, TokenKind.isName, TokenKind.isIdentifier]

namespace IsShaped

variable {dialect : Dialect} {token : Token}

/-- A keyword is a word. -/
theorem isWord_of_keyword
    (isShaped : IsShaped dialect token)
    {keyword : Keyword}
    (isKeyword : token.kind = .keyword keyword) :
    ∃ first rest, token.source = String.ofList (first :: rest) ∧ IsWord first rest := by
  obtain ⟨afterName, first, rest, kind, source, -⟩ := isShaped
  refine ⟨first, _, source, isWord_of_class ?_⟩
  rw [kind, shape_eq_shapeBy] at isKeyword
  generalize tokenClass dialect afterName first rest = rule at isKeyword
  have strings := stringShape_kind dialect
  have quoted := quotedNameShape_kind rest
  have numbers := numberShape_kind first rest
  have symbols := symbolShape_kind (first :: rest)
  cases rule <;> grind [shapeBy, variableShape, hexShape]

/-- A name that is not in single quotes is a word, or stands in quotes that a new name keeps. -/
theorem word_or_quoted
    (isShaped : IsShaped dialect token)
    (isName : token.kind.isName = true)
    (noSingle : token.source.toList.getLast? ≠ some '\'') :
    ∃ first rest, token.source = String.ofList (first :: rest) ∧
      (IsWord first rest ∨ IsQuoted first rest) := by
  obtain ⟨afterName, first, rest, kind, source, -⟩ := isShaped
  refine ⟨first, _, source, ?_⟩
  rw [source, String.toList_ofList] at noSingle
  rw [kind] at isName
  have closes : ∀ {quote : Char} {marks : Nat} {characters : List Char},
      (stringShape dialect quote marks characters).kind.isName = true →
      ∃ width, (stringShape dialect quote marks characters).width = marks + width ∧
        (characters.take width).getLast? = some quote := by
    intro quote marks characters isString
    unfold stringShape at isString ⊢
    split at isString
    next width isClosed => exact ⟨width, rfl, getLast?_of_closingWidth? isClosed⟩
    next => cases isString
  have rules := tokenClass_of_name isName
  simp only [List.mem_cons, List.not_mem_nil, or_false] at rules
  rcases rules with isClass | isClass | isClass | isClass
  · exact .inl (isWord_of_class isClass)
  · right
    rw [shape_eq_shapeBy, isClass, shapeBy] at isName ⊢
    exact ⟨.inl (first_of_quotedName isClass), first_of_quotedName isClass ▸ isClosed_of_name isName⟩
  · exfalso
    obtain ⟨characters, rfl⟩ := List.head?_eq_some_iff.mp (head?_of_national isClass)
    rw [shape_eq_shapeBy, isClass, shapeBy] at isName noSingle
    obtain ⟨width, isWidth, isLast⟩ := closes isName
    rw [isWidth, Nat.add_comm, List.take_succ_cons] at noSingle
    exact noSingle (@getLast?_append_of_some [first, '\''] _ _ isLast)
  · rw [shape_eq_shapeBy, isClass, shapeBy] at isName noSingle ⊢
    obtain ⟨width, isWidth, isLast⟩ := closes isName
    rw [isWidth, Nat.zero_add] at noSingle ⊢
    rcases isQuote_of_string isClass with rfl | rfl
    · exact absurd (@getLast?_append_of_some ['\''] _ _ isLast) noSingle
    · exact .inr ⟨.inr rfl, List.getLast?_eq_some_iff.mp isLast⟩

/-- A symbol is written as its text. -/
theorem source_of_symbol
    (isShaped : IsShaped dialect token)
    {sign : Symbol}
    (isSign : token.kind = .symbol sign) :
    token.source = sign.text := by
  obtain ⟨afterName, first, rest, kind, source, -⟩ := isShaped
  rw [isSign] at kind
  have isClass : tokenClass dialect afterName first rest = .symbol := by
    rw [shape_eq_shapeBy] at kind
    generalize tokenClass dialect afterName first rest = rule at kind
    have strings := stringShape_kind dialect
    have quoted := quotedNameShape_kind rest
    have words := wordShape_kind dialect first rest
    have numbers := numberShape_kind first rest
    cases rule <;> grind [shapeBy, variableShape, hexShape]
  rw [shape_eq_shapeBy, isClass, shapeBy] at kind source
  unfold symbolShape at kind source
  cases isFound : [3, 2, 1].findSome? fun width =>
      Symbol.ofText? (String.ofList ((first :: rest).take width)) with
  | none =>
      rw [isFound] at kind
      cases kind
  | some found =>
      rw [isFound] at kind source
      cases kind
      obtain ⟨width, -, isSymbol⟩ := List.exists_of_findSome?_eq_some isFound
      have isText : sign.text.toList = (first :: rest).take width := by
        rw [Symbol.text_of_ofText? isSymbol, String.toList_ofList]
      have isPrefix : sign.text.toList = (first :: rest).take sign.text.toList.length :=
        List.prefix_iff_eq_take.mp (isText ▸ List.take_prefix _ _)
      obtain ⟨length, isLength⟩ := Nat.exists_eq_succ_of_ne_zero
        (Nat.ne_of_gt (List.length_pos_of_ne_nil (symbol_text_ne_nil sign (mem_symbols sign))))
      rw [isLength, List.take_succ_cons] at isPrefix
      dsimp only at source
      rw [source, ← String.length_toList, isLength, Nat.succ_sub_one, ← isPrefix, String.ofList_toList]

/-- A placeholder is a question mark. -/
theorem isPlaceholder_iff (isShaped : IsShaped dialect token) :
    token.isPlaceholder = true ↔ token.source = "?" := by
  rw [Token.isPlaceholder, beq_iff_eq]
  constructor
  · exact fun isSign => isShaped.source_of_symbol isSign
  · intro isMark
    obtain ⟨afterName, first, rest, kind, source, -⟩ := isShaped
    rw [isMark] at source
    have isFirst : '?' = first := by
      have same := congrArg String.toList source
      simp only [String.toList_ofList] at same
      exact (List.cons.inj same).1
    subst isFirst
    have isClass : tokenClass dialect afterName '?' rest = .symbol := by
      have isStart : isNameStart '?' = false := by decide
      have isDigit : Char.isDigit '?' = false := by decide
      have isSign : Symbol.startsWith '?' = true := by decide
      simp [tokenClass, isNumberStart, isStart, isDigit, isSign]
    have only : ∀ sign ∈ Symbol.all, sign.text.toList.head? = some '?' → sign = .question := by
      decide
    rw [kind, shape_eq_shapeBy, isClass, shapeBy, symbolShape]
    cases isFound : [3, 2, 1].findSome? fun width =>
        Symbol.ofText? (String.ofList (('?' :: rest).take width)) with
    | none =>
        have noSymbol := List.findSome?_eq_none_iff.mp isFound 1 (by decide)
        rw [List.take_succ_cons, List.take_zero] at noSymbol
        exact absurd noSymbol (by decide)
    | some sign =>
        obtain ⟨width, isWidth, isSymbol⟩ := List.exists_of_findSome?_eq_some isFound
        have isText : sign.text.toList = ('?' :: rest).take width := by
          rw [Symbol.text_of_ofText? isSymbol, String.toList_ofList]
        have isQuestion := only sign (mem_symbols sign) (by
          rw [isText]
          cases width with
          | zero => exact absurd isWidth (by decide)
          | succ => rfl)
        rw [isQuestion]

end IsShaped

end Lexer

end ShardedSql
