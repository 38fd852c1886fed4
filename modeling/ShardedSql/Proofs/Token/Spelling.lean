import ShardedSql.Proofs.Number.Literal
import ShardedSql.Statement.Table
import ShardedSql.Token.Lexer

/-!
# Words separated by blanks

A text that is spelled from words with single blanks between them has these words as its tokens.
This file says what a word needs for that, and shows it for the words that statements are made of.
-/

namespace ShardedSql

/-- A token without its place. -/
structure Word where
  kind : TokenKind
  source : String
  literals : String
  deriving DecidableEq

/-- The word that a token is at its place. -/
def Token.word (token : Token) : Word :=
  ⟨token.kind, token.source, token.literals⟩

/-- The text of words with single blanks between them. -/
def Word.text (words : List Word) : String :=
  " ".intercalate (words.map Word.source)

namespace Lexer

/-- Whether a text ends here or goes on with a blank. -/
def IsBreak (behind : List Char) : Prop :=
  behind = [] ∨ ∃ rest, behind = ' ' :: rest

/-- Whether characters are a token of a class in front of every break. -/
structure Spells
    (dialect : Dialect)
    (kind : TokenKind)
    (first : Char)
    (rest : List Char) : Prop where
  noGap : ∀ behind, IsBreak behind →
    splitGap dialect .blank (first :: rest ++ behind) = ([], first :: rest ++ behind)
  shaped : ∀ behind, IsBreak behind →
    shape dialect false first (rest ++ behind) = ⟨kind, rest.length⟩

end Lexer

namespace Word

/-- Whether a word is read as it is meant in front of every break. -/
structure IsSpelled
    (dialect : Dialect)
    (word : Word) : Prop where
  notFinish : word.kind ≠ .finish
  spells : ∃ first rest, word.source.toList = first :: rest ∧
    Lexer.Spells dialect word.kind first rest
  literals : word.literals = String.ofList (Lexer.literalsOf dialect word.kind word.source.toList)

end Word

namespace Lexer

variable {dialect : Dialect}

theorem splitGap_blank
    (dialect : Dialect)
    (characters : List Char) :
    splitGap dialect .blank (' ' :: characters) =
      (' ' :: (splitGap dialect .blank characters).1, (splitGap dialect .blank characters).2) := by
  rw [splitGap]
  · simp [Text.isAsciiBlank]
  all_goals simp

/-- The token of a word in front of a break. -/
theorem tokensFrom_of_gap
    {word : Word}
    (spelled : word.IsSpelled dialect)
    (afterName : Bool)
    (position : Nat)
    {gap behind : List Char}
    (isBreak : IsBreak behind)
    {characters : List Char}
    (split : splitGap dialect .blank characters = (gap, word.source.toList ++ behind))
    (isApart : (afterName && gap.isEmpty) = false) :
    ∃ token after stop, token.word = word ∧
      tokensFrom dialect afterName position characters =
        token :: tokensFrom dialect after stop behind := by
  obtain ⟨first, rest, source, spells⟩ := spelled.spells
  have shaped := spells.shaped behind isBreak
  have literals := spelled.literals
  rw [source] at split literals
  rw [tokensFrom]
  split
  next none => simp [split] at none
  next head tail following =>
    rw [split] at following
    obtain ⟨rfl, rfl⟩ := List.cons.inj following
    simp only [split, isApart, List.append_eq, shaped, List.take_left, List.drop_left]
    refine ⟨_, _, _, ?_, rfl⟩
    rw [Token.word, ← literals, ← source, String.ofList_toList]

/-- Words with a blank in front of each. -/
def spaced (words : List Word) : List Char :=
  words.flatMap fun word => ' ' :: word.source.toList

theorem isBreak_spaced (words : List Word) :
    IsBreak (spaced words) := by
  cases words with
  | nil => exact Or.inl rfl
  | cons word words => exact Or.inr ⟨word.source.toList ++ spaced words, rfl⟩

theorem splitGap_word
    {word : Word}
    (spelled : word.IsSpelled dialect)
    {behind : List Char}
    (isBreak : IsBreak behind) :
    splitGap dialect .blank (word.source.toList ++ behind) =
      ([], word.source.toList ++ behind) := by
  obtain ⟨first, rest, source, spells⟩ := spelled.spells
  rw [source]
  exact spells.noGap behind isBreak

theorem tokensFrom_spaced
    {words : List Word}
    (spelled : ∀ word ∈ words, word.IsSpelled dialect)
    (afterName : Bool)
    (position : Nat) :
    ∃ tokens last, tokens.map Token.word = words ∧
      tokensFrom dialect afterName position (spaced words) = tokens ++ [Token.finish last] := by
  induction words generalizing afterName position with
  | nil =>
      refine ⟨[], position, rfl, ?_⟩
      rw [tokensFrom]
      rfl
  | cons word words ih =>
      have wordSpelled := spelled word List.mem_cons_self
      have split : splitGap dialect .blank (spaced (word :: words)) =
          ([' '], word.source.toList ++ spaced words) := by
        change splitGap dialect .blank (' ' :: (word.source.toList ++ spaced words)) = _
        rw [splitGap_blank, splitGap_word wordSpelled (isBreak_spaced words)]
      obtain ⟨token, after, stop, isWord, tokenFirst⟩ :=
        tokensFrom_of_gap wordSpelled afterName position (isBreak_spaced words) split (by simp)
      obtain ⟨tokens, last, areWords, others⟩ :=
        ih (fun other member => spelled other (List.mem_cons_of_mem _ member)) after stop
      refine ⟨token :: tokens, last, by rw [List.map_cons, isWord, areWords], ?_⟩
      rw [tokenFirst, others, List.cons_append]

theorem toList_text
    (word : Word)
    (words : List Word) :
    (Word.text (word :: words)).toList = word.source.toList ++ spaced words := by
  induction words generalizing word with
  | nil => simp [Word.text, spaced]
  | cons next words ih =>
      have unfolded : Word.text (word :: next :: words) =
          word.source ++ " " ++ Word.text (next :: words) :=
        String.intercalate_cons_cons
      rw [unfolded, String.toList_append, String.toList_append, ih]
      simp [spaced]

/-- **A text of words separated by single blanks has these words as its tokens.** -/
theorem exists_tokens_text
    {words : List Word}
    (spelled : ∀ word ∈ words, word.IsSpelled dialect) :
    ∃ tokens last, tokens.map Token.word = words ∧
      Lexer.tokens dialect (Word.text words) = tokens ++ [Token.finish last] := by
  unfold Lexer.tokens
  cases words with
  | nil => exact tokensFrom_spaced spelled false 0
  | cons word words =>
      have wordSpelled := spelled word List.mem_cons_self
      have isBreak := isBreak_spaced words
      obtain ⟨token, after, stop, isWord, tokenFirst⟩ :=
        tokensFrom_of_gap wordSpelled false 0 isBreak (splitGap_word wordSpelled isBreak) rfl
      obtain ⟨tokens, last, areWords, others⟩ := tokensFrom_spaced
        (fun other member => spelled other (List.mem_cons_of_mem _ member)) after stop
      refine ⟨token :: tokens, last, by rw [List.map_cons, isWord, areWords], ?_⟩
      rw [toList_text, tokenFirst, others, List.cons_append]

theorem exists_token_of_word
    {words : List Word}
    (spelled : ∀ word ∈ words, word.IsSpelled dialect)
    {word : Word}
    (member : word ∈ words) :
    ∃ token ∈ Lexer.tokens dialect (Word.text words), token.word = word := by
  obtain ⟨tokens, last, areWords, split⟩ := exists_tokens_text spelled
  rw [← areWords] at member
  obtain ⟨token, isThere, isWord⟩ := List.mem_map.mp member
  exact ⟨token, by rw [split]; exact List.mem_append_left _ isThere, isWord⟩

section Words

theorem takeWhile_break
    {test : Char → Bool}
    (blank : test ' ' = false)
    {characters : List Char}
    (all : ∀ character ∈ characters, test character = true)
    {behind : List Char}
    (isBreak : IsBreak behind) :
    (characters ++ behind).takeWhile test = characters := by
  rw [List.takeWhile_append_of_pos all]
  rcases isBreak with rfl | ⟨rest, rfl⟩
  · simp
  · simp [blank]

theorem not_startsWith_break
    {test : Char → Bool}
    (blank : test ' ' = false)
    {behind : List Char}
    (isBreak : IsBreak behind) :
    startsWith test behind = false := by
  rcases isBreak with rfl | ⟨rest, rfl⟩
  · rfl
  · exact blank

theorem isAsciiBlank_iff (character : Char) :
    Text.isAsciiBlank character = true ↔
      character = ' ' ∨ character = '\t' ∨ character = '\n' ∨ character = '\x0c' ∨
        character = '\r' := by
  simp [Text.isAsciiBlank, or_assoc]

/-- No white space and no comment stands in front of a character that begins none. -/
theorem splitGap_of_start
    {first : Char}
    (notBlank : Text.isAsciiBlank first = false)
    (notSlash : first ≠ '/')
    (notHash : first ≠ '#')
    {rest : List Char}
    (notDashes : first = '-' → rest.head? ≠ some '-') :
    splitGap dialect .blank (first :: rest) = ([], first :: rest) := by
  rw [splitGap]
  · simp [notBlank, notHash]
  · intro tail isSlash
    exact absurd isSlash notSlash
  · intro tail isSlash
    exact absurd isSlash notSlash
  · rintro tail isDash rfl
    exact absurd rfl (notDashes isDash)

theorem isNameStart_blank
    {first : Char}
    (starts : isNameStart first = true) :
    Text.isAsciiBlank first = false := by
  rw [Bool.eq_false_iff, ne_eq, isAsciiBlank_iff]
  rintro (rfl | rfl | rfl | rfl | rfl) <;> exact absurd starts (by decide)

theorem spells_word
    {kind : TokenKind}
    {first : Char}
    {rest : List Char}
    (starts : isNameStart first = true)
    (notQuoted : first ≠ '`')
    (continues : ∀ character ∈ rest, isNameCharacter character = true)
    (isKind : ∀ behind, wordKind dialect (String.ofList (first :: rest)) behind = kind) :
    Spells dialect kind first rest where
  noGap behind _ := by
    refine splitGap_of_start (isNameStart_blank starts) ?_ ?_ ?_
    · rintro rfl
      exact absurd starts (by decide)
    · rintro rfl
      exact absurd starts (by decide)
    · rintro rfl
      exact absurd starts (by decide)
  shaped behind isBreak := by
    have notVariable : (first == '@') = false := by
      rw [beq_eq_false_iff_ne]
      rintro rfl
      exact absurd starts (by decide)
    have notNational : ((rest ++ behind).head? == some '\'') = false := by
      cases rest with
      | nil => rcases isBreak with rfl | ⟨more, rfl⟩ <;> rfl
      | cons next more =>
          rw [List.cons_append, List.head?_cons, beq_eq_false_iff_ne]
          rintro equal
          cases equal
          exact absurd (continues _ List.mem_cons_self) (by decide)
    unfold shape
    simp only [notVariable, notNational, Bool.and_false, Bool.false_eq_true, if_false,
      beq_false_of_ne notQuoted, starts, if_true, wordShape,
      takeWhile_break (by decide) continues isBreak, isKind]

theorem fractionWidth_break
    {behind : List Char}
    (isBreak : IsBreak behind) :
    fractionWidth behind = 0 := by
  rcases isBreak with rfl | ⟨rest, rfl⟩
  · rfl
  · simp [fractionWidth]

theorem exponentWidth_break
    {behind : List Char}
    (isBreak : IsBreak behind) :
    exponentWidth behind = 0 := by
  rcases isBreak with rfl | ⟨rest, rfl⟩
  · rfl
  · simp [exponentWidth]

theorem suffixWidth_break
    {behind : List Char}
    (isBreak : IsBreak behind) :
    suffixWidth behind = 0 := by
  rcases isBreak with rfl | ⟨rest, rfl⟩
  · rfl
  · simp [suffixWidth]

theorem numberShape_break
    {first : Char}
    {rest : List Char}
    (starts : first.isDigit = true ∨ first = '-')
    (continues : ∀ character ∈ rest, character.isDigit = true)
    {behind : List Char}
    (isBreak : IsBreak behind) :
    numberShape first (rest ++ behind) = ⟨.literal .int, rest.length⟩ := by
  have digits := takeWhile_break (by decide) continues isBreak
  have whole : (if first = '-' then 1 else 0) +
      (((first :: (rest ++ behind)).drop (if first = '-' then 1 else 0)).takeWhile
        Char.isDigit).length = rest.length + 1 := by
    split
    next => rw [List.drop_one, List.tail_cons, digits, Nat.add_comm]
    next notMinus =>
      have isDigit := starts.resolve_right notMinus
      rw [List.drop_zero, List.takeWhile_cons_of_pos isDigit, digits, List.length_cons, Nat.zero_add]
  have rests : (first :: (rest ++ behind)).drop (rest.length + 1) = behind := by
    rw [List.drop_succ_cons, List.drop_left]
  unfold numberShape
  simp only [whole, rests, fractionWidth_break isBreak, exponentWidth_break isBreak,
    suffixWidth_break isBreak, Nat.add_zero, if_true, Nat.add_sub_cancel]

/-- A number in front of a break: digits, possibly behind a minus sign. -/
theorem spells_number
    {first : Char}
    {rest : List Char}
    (starts : first.isDigit = true ∨ first = '-' ∧ startsWith Char.isDigit rest = true)
    (continues : ∀ character ∈ rest, character.isDigit = true) :
    Spells dialect (.literal .int) first rest where
  noGap behind _ := by
    have plain : Text.isAsciiBlank first = false ∧ first ≠ '/' ∧ first ≠ '#' := by
      rcases starts with isDigit | ⟨rfl, _⟩
      · simpa [and_assoc] using test_of_isDigit
          (fun digit => !Text.isAsciiBlank digit && digit != '/' && digit != '#') (by decide) isDigit
      · decide
    refine splitGap_of_start plain.1 plain.2.1 plain.2.2 ?_
    rintro rfl
    obtain ⟨-, isDigit⟩ := starts.resolve_left (by decide)
    cases rest with
    | nil => cases isDigit
    | cons digit rest =>
        rintro equal
        cases equal
        have minusIsDigit : '-'.isDigit = true := isDigit
        exact absurd minusIsDigit (by decide)
  shaped behind isBreak := by
    have number := numberShape_break (starts.imp_right And.left) continues isBreak
    have plain : (first == '@') = false ∧ (first == 'N') = false ∧ (first == '`') = false ∧
        isNameStart first = false := by
      rcases starts with isDigit | ⟨rfl, _⟩
      · simpa [and_assoc] using test_of_isDigit
          (fun digit => digit != '@' && digit != 'N' && digit != '`' && !isNameStart digit)
          (by decide) isDigit
      · decide
    have notHex : startsWith (fun next => next == 'x' || next == 'X') (rest ++ behind) = false := by
      cases rest with
      | nil => exact not_startsWith_break (by decide) isBreak
      | cons digit rest =>
          have isDigit := continues digit List.mem_cons_self
          change (digit == 'x' || digit == 'X') = false
          simpa using test_of_isDigit (fun digit => digit != 'x' && digit != 'X') (by decide) isDigit
    have isNumber : isNumberStart false first (rest ++ behind) = true := by
      rcases starts with isDigit | ⟨rfl, isDigit⟩
      · simp [isNumberStart, isDigit]
      · cases rest with
        | nil => cases isDigit
        | cons digit rest =>
            have digitFollows : digit.isDigit = true := isDigit
            simp [isNumberStart, startsWith, digitFollows]
    unfold shape
    simp only [plain, notHex, isNumber, Bool.and_false, Bool.false_and, Bool.false_eq_true, if_false,
      if_true, number]

theorem closingWidth?_content
    {content : List Char}
    (noQuote : '\'' ∉ content)
    (noBackslash : '\\' ∉ content)
    {behind : List Char}
    (isBreak : IsBreak behind) :
    closingWidth? dialect '\'' (content ++ '\'' :: behind) = some (content.length + 1) := by
  induction content with
  | nil =>
      rcases isBreak with rfl | ⟨rest, rfl⟩
      · simp [closingWidth?]
      · simp [closingWidth?]
  | cons first content ih =>
      rw [List.mem_cons, not_or] at noQuote noBackslash
      obtain ⟨second, more, split⟩ : ∃ second more,
          content ++ '\'' :: behind = second :: more := by
        cases content with
        | nil => exact ⟨_, _, rfl⟩
        | cons second content => exact ⟨_, _, rfl⟩
      have others := ih noQuote.2 noBackslash.2
      rw [split] at others
      rw [List.cons_append, split, closingWidth?, if_neg fun escape => noBackslash.1 escape.1.symm,
        if_neg fun isQuote => noQuote.1 isQuote.symm, others]
      rfl

theorem stringContents_content
    {content : List Char}
    (noQuote : '\'' ∉ content)
    (noBackslash : '\\' ∉ content) :
    stringContents dialect '\'' (content ++ ['\'']) = content := by
  induction content with
  | nil => simp [stringContents]
  | cons first content ih =>
      rw [List.mem_cons, not_or] at noQuote noBackslash
      obtain ⟨second, more, split⟩ : ∃ second more, content ++ ['\''] = second :: more := by
        cases content with
        | nil => exact ⟨_, _, rfl⟩
        | cons second content => exact ⟨_, _, rfl⟩
      have others := ih noQuote.2 noBackslash.2
      rw [split] at others
      rw [List.cons_append, split, stringContents,
        if_neg fun escape => noBackslash.1 escape.1.symm,
        if_neg fun isQuote => noQuote.1 isQuote.symm, others]

/-- A string in front of a break, whose content needs no escape. -/
theorem spells_string
    {content : List Char}
    (noQuote : '\'' ∉ content)
    (noBackslash : '\\' ∉ content) :
    Spells dialect (.literal .chars) '\'' (content ++ ['\'']) where
  noGap behind _ :=
    splitGap_of_start (by decide) (by decide) (by decide) fun isDash => absurd isDash (by decide)
  shaped behind isBreak := by
    have closes : closingWidth? dialect '\'' (content ++ '\'' :: behind) =
        some (content.length + 1) := closingWidth?_content noQuote noBackslash isBreak
    have isNumber : isNumberStart false '\'' (content ++ '\'' :: behind) = false := by
      simp [isNumberStart]
    have isSymbol : Symbol.startsWith '\'' = false := by decide
    have isName : isNameStart '\'' = false := by decide
    unfold shape
    simp [isNumber, isSymbol, isName, stringShape, closes]

/-- No symbol has a blank as its second character. -/
theorem ofText?_eq_none_of_blank
    (first : Char)
    (rest : List Char) :
    Symbol.ofText? (String.ofList (first :: ' ' :: rest)) = none := by
  have noBlank : ∀ sign ∈ Symbol.all, sign.text.toList[1]? ≠ some ' ' := by decide
  rw [Symbol.ofText?, List.find?_eq_none]
  intro sign member isText
  rw [beq_iff_eq] at isText
  exact noBlank sign member (by simp [isText])

/-- A symbol of one character in front of a break. -/
theorem symbolShape_break
    {sign : Symbol}
    {first : Char}
    (isSign : Symbol.ofText? (String.ofList [first]) = some sign)
    {behind : List Char}
    (isBreak : IsBreak behind) :
    symbolShape (first :: behind) = ⟨.symbol sign, 0⟩ := by
  have text : sign.text.length = 1 := by simp [Symbol.text_of_ofText? isSign]
  have found : ([3, 2, 1].findSome? fun width =>
      Symbol.ofText? (String.ofList ((first :: behind).take width))) = some sign := by
    rcases isBreak with rfl | ⟨rest, rfl⟩
    · simp only [List.findSome?_cons, List.take_succ_cons, List.take_nil, isSign]
    · simp only [List.findSome?_cons, List.take_succ_cons, List.take_zero,
        ofText?_eq_none_of_blank, isSign]
  unfold symbolShape
  rw [found]
  simp [text]

/-- Symbols of one character that begin neither a comment nor a variable. -/
def plainSymbols : List (Symbol × Char) :=
  [(.leftParen, '('), (.rightParen, ')'), (.comma, ','), (.eq, '='), (.star, '*'),
    (.question, '?')]

theorem spells_symbol
    {sign : Symbol}
    {first : Char}
    (isPlain : (sign, first) ∈ plainSymbols) :
    Spells dialect (.symbol sign) first [] where
  noGap behind _ := by
    have plain : ∀ pair ∈ plainSymbols, Text.isAsciiBlank pair.2 = false ∧ pair.2 ≠ '/' ∧
        pair.2 ≠ '#' ∧ pair.2 ≠ '-' := by decide
    obtain ⟨notBlank, notSlash, notHash, notDash⟩ := plain _ isPlain
    exact splitGap_of_start notBlank notSlash notHash fun isDash => absurd isDash notDash
  shaped behind isBreak := by
    have plain : ∀ pair ∈ plainSymbols, (pair.2 == '@') = false ∧ (pair.2 == 'N') = false ∧
        (pair.2 == '`') = false ∧ isNameStart pair.2 = false ∧ (pair.2 == '0') = false ∧
        pair.2.isDigit = false ∧ (pair.2 == '.') = false ∧ (pair.2 == '-') = false := by decide
    have isSign : ∀ pair ∈ plainSymbols,
        Symbol.ofText? (String.ofList [pair.2]) = some pair.1 := by decide
    have starts : Symbol.startsWith first = true := by
      have found := isSign _ isPlain
      rw [Symbol.startsWith, String.singleton_eq_ofList, found]
      rfl
    have notNumber : isNumberStart false first behind = false := by
      simp [isNumberStart, plain _ isPlain]
    unfold shape
    simp only [plain _ isPlain, starts, Bool.and_false, Bool.false_and, Bool.false_eq_true,
      if_false, if_true, List.nil_append]
    rw [notNumber]
    exact symbolShape_break (isSign _ isPlain) isBreak

end Words

end Lexer

/-- Whether characters make up a word that needs no quotes. -/
def Lexer.isPlainWord : List Char → Bool
  | first :: rest => isNameStart first && first != '`' && rest.all isNameCharacter
  | [] => false

theorem Lexer.exists_of_isPlainWord
    {characters : List Char}
    (isPlain : isPlainWord characters = true) :
    ∃ first rest, characters = first :: rest ∧ isNameStart first = true ∧ first ≠ '`' ∧
      ∀ character ∈ rest, isNameCharacter character = true := by
  cases characters with
  | nil => cases isPlain
  | cons first rest =>
      simp only [isPlainWord, Bool.and_eq_true, bne_iff_ne, List.all_eq_true] at isPlain
      exact ⟨first, rest, rfl, isPlain.1.1, isPlain.1.2, isPlain.2⟩

/-- Whether a name needs no quotes and is no keyword of a dialect. -/
structure IsPlainName
    (dialect : Dialect)
    (name : String) : Prop where
  isWord : Lexer.isPlainWord name.toList = true
  notKeyword : dialect.keyword? (Text.upperAscii name) = none

theorem IsPlainName.unquoteName_eq
    {dialect : Dialect}
    {name : String}
    (isPlain : IsPlainName dialect name) :
    unquoteName name = name := by
  obtain ⟨first, rest, split, starts, notQuoted, continues⟩ :=
    Lexer.exists_of_isPlainWord isPlain.isWord
  have unquoted : ∀ character ∈ name.toList, (!isNameQuote character) = true := by
    intro character member
    rw [split, List.mem_cons] at member
    rw [Bool.not_eq_true', Bool.eq_false_iff]
    intro isQuote
    have quotes : character = '`' ∨ character = '"' ∨ character = '\'' ∨ character = '[' ∨
        character = ']' := by simpa [isNameQuote, or_assoc] using isQuote
    rcases member with rfl | member
    · rcases quotes.resolve_left notQuoted with rfl | rfl | rfl | rfl <;>
        exact absurd starts (by decide)
    · have continued := continues character member
      rcases quotes with rfl | rfl | rfl | rfl | rfl <;> exact absurd continued (by decide)
  rw [unquoteName, List.filter_eq_self.mpr unquoted, String.ofList_toList]

namespace Word

variable {dialect : Dialect}

/-- The word that a keyword in capital letters is. -/
def ofKeyword (keyword : Keyword) : Word :=
  ⟨.keyword keyword, keyword.text, keyword.text⟩

/-- The word that a symbol is. -/
def ofSymbol (sign : Symbol) : Word :=
  ⟨.symbol sign, sign.text, sign.text⟩

/-- The word that a name is. -/
def ofName (name : String) : Word :=
  ⟨.literal .identifier, name, name⟩

/-- The word that an integer is. -/
def ofInteger (literal : IntegerLiteral) : Word :=
  ⟨.literal .int, literal.source, literal.source⟩

/-- The word that a string is. -/
def ofString (content : String) : Word :=
  ⟨.literal .chars, String.ofList ('\'' :: (content.toList ++ ['\''])), content⟩

/-- The keywords that statements with a WHERE clause are spelled with. -/
def clauseKeywords : List Keyword :=
  [.SELECT, .DELETE, .FROM, .WHERE, .AND, .OR, .IN, .BETWEEN]

theorem isSpelled_ofKeyword
    {keyword : Keyword}
    (member : keyword ∈ clauseKeywords) :
    (ofKeyword keyword).IsSpelled dialect where
  notFinish := nofun
  spells := by
    have isWord : ∀ keyword ∈ clauseKeywords, Lexer.isPlainWord keyword.text.toList = true := by
      decide
    have known : ∀ keyword ∈ clauseKeywords,
        dialect.keyword? (Text.upperAscii keyword.text) = some keyword ∧
          Text.upperAscii keyword.text ≠ "ORDER" ∧ Text.upperAscii keyword.text ≠ "GROUP" := by
      cases dialect <;> decide
    obtain ⟨first, rest, split, starts, notQuoted, continues⟩ :=
      Lexer.exists_of_isPlainWord (isWord keyword member)
    obtain ⟨isKnown, notOrder, notGroup⟩ := known keyword member
    refine ⟨first, rest, split, Lexer.spells_word starts notQuoted continues fun behind => ?_⟩
    have text : String.ofList (first :: rest) = keyword.text := by
      rw [← split, String.ofList_toList]
    simp [Lexer.wordKind, text, isKnown, notOrder, notGroup, ofKeyword]
  literals := by simp [Lexer.literalsOf, ofKeyword]

theorem isSpelled_ofSymbol
    {sign : Symbol}
    {first : Char}
    (isPlain : (sign, first) ∈ Lexer.plainSymbols) :
    (ofSymbol sign).IsSpelled dialect where
  notFinish := nofun
  spells := by
    have text : ∀ pair ∈ Lexer.plainSymbols, pair.1.text.toList = [pair.2] := by decide
    exact ⟨first, [], text _ isPlain, Lexer.spells_symbol isPlain⟩
  literals := by simp [Lexer.literalsOf, ofSymbol]

theorem isSpelled_ofName
    {name : String}
    (isPlain : IsPlainName dialect name) :
    (ofName name).IsSpelled dialect where
  notFinish := nofun
  spells := by
    obtain ⟨first, rest, split, starts, notQuoted, continues⟩ :=
      Lexer.exists_of_isPlainWord isPlain.isWord
    refine ⟨first, rest, split, Lexer.spells_word starts notQuoted continues fun behind => ?_⟩
    have isName : String.ofList (first :: rest) = name := by rw [← split, String.ofList_toList]
    rw [Lexer.wordKind, isName, isPlain.notKeyword, ite_self]
    rfl
  literals := by simp [Lexer.literalsOf, ofName]

theorem isSpelled_ofInteger (literal : IntegerLiteral) :
    (ofInteger literal).IsSpelled dialect where
  notFinish := nofun
  spells := by
    obtain ⟨first, rest, split⟩ := List.exists_cons_of_ne_nil literal.notEmpty
    have firstIsDigit := literal.allDigits first (by simp [split])
    have source : (ofInteger literal).source.toList = literal.characters := String.toList_ofList
    rw [source]
    unfold IntegerLiteral.characters
    cases literal.isNegative with
    | true =>
        refine ⟨'-', literal.digits, if_pos rfl, ?_⟩
        refine Lexer.spells_number (Or.inr ⟨rfl, ?_⟩) literal.allDigits
        rw [split]
        exact firstIsDigit
    | false =>
        refine ⟨first, rest, split, Lexer.spells_number (Or.inl firstIsDigit) fun digit member => ?_⟩
        exact literal.allDigits digit (by simp [split, member])
  literals := by simp [Lexer.literalsOf, ofInteger]

theorem isSpelled_ofString
    {content : String}
    (noQuote : '\'' ∉ content.toList)
    (noBackslash : '\\' ∉ content.toList) :
    (ofString content).IsSpelled dialect where
  notFinish := nofun
  spells := ⟨'\'', content.toList ++ ['\''], String.toList_ofList,
    Lexer.spells_string noQuote noBackslash⟩
  literals := by
    simp [Lexer.literalsOf, ofString, Lexer.stringContents_content noQuote noBackslash]

end Word

end ShardedSql
