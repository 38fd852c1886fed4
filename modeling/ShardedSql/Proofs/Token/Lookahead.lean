import ShardedSql.Proofs.Token.Shape
import ShardedSql.Proofs.Token.Spelling

/-!
# How far a token looks ahead

The class of a token and its width depend on its own characters and on at most three more.  A blank, a
parenthesis or a comma ends every token that is not yet complete, and so do quotes and points in most
places.  Hence a token stays the same when the text is changed further behind, or at such a character.
-/

namespace ShardedSql

namespace Lexer

/-- Whether a character ends every word, number and operator in front of it. -/
def isStop (character : Char) : Bool :=
  Text.isAsciiBlank character || character == '(' || character == ')' || character == ','

/-- Whether a word without quotes stands ahead. -/
def StartsWord (characters : List Char) : Prop :=
  ∃ first rest, characters = first :: rest ∧ isNameStart first = true ∧ first ≠ '`'

/-- Whether a token that ends so many characters in front of one text looks the same in front of another
one. -/
inductive Parts : Nat → List Char → List Char → Prop where
  | far {before after : List Char} : Parts 3 before after
  | stop
      {first second : Char}
      {before after : List Char}
      (isFirst : isStop first = true)
      (isSecond : isStop second = true) :
      Parts 0 (first :: before) (second :: after)
  | quote
      {mark : Char}
      {before after : List Char}
      (isQuote : mark = '`' ∨ mark = '"') :
      Parts 0 (mark :: before) (mark :: after)
  | point
      {before after : List Char}
      (startsFirst : StartsWord before)
      (startsSecond : StartsWord after) :
      Parts 0 ('.' :: before) ('.' :: after)

theorem head?_of_national
    {dialect : Dialect}
    {afterName : Bool}
    {first : Char}
    {rest : List Char}
    (isNational : tokenClass dialect afterName first rest = .national) :
    rest.head? = some '\'' := by
  unfold tokenClass at isNational
  split at isNational
  next => cases isNational
  next =>
    split at isNational
    next found =>
      rw [Bool.and_eq_true, beq_iff_eq] at found
      exact found.2
    next => split_ifs at isNational

theorem isQuote_of_string
    {dialect : Dialect}
    {afterName : Bool}
    {first : Char}
    {rest : List Char}
    (isString : tokenClass dialect afterName first rest = .string) :
    first = '\'' ∨ first = '"' := by
  unfold tokenClass at isString
  split_ifs at isString with _ _ _ _ _ _ _ isQuote
  simpa using isQuote

/-- Whether a test fails on every character that ends what stands in front of it. -/
def Ends (test : Char → Bool) : Prop :=
  ∀ character, isStop character = true ∨ character = '`' ∨ character = '"' ∨ character = '.' →
    test character = false

theorem isStop_iff (character : Char) :
    isStop character = true ↔ character = ' ' ∨ character = '\t' ∨ character = '\n' ∨
      character = '\x0c' ∨ character = '\r' ∨ character = '(' ∨ character = ')' ∨ character = ',' := by
  simp [isStop, isAsciiBlank_iff, or_assoc]

theorem ends_of_decide
    {test : Char → Bool}
    (fails : [' ', '\t', '\n', '\x0c', '\r', '(', ')', ',', '`', '"', '.'].all
      (fun character => !test character) = true) :
    Ends test := by
  intro character isEnd
  rw [List.all_eq_true] at fails
  rw [isStop_iff] at isEnd
  have isListed : (!test character) = true := fails character (by simpa [or_assoc] using isEnd)
  simpa using isListed

theorem ends_isNameCharacter : Ends isNameCharacter :=
  ends_of_decide (by decide)

theorem ends_isDigit : Ends Char.isDigit :=
  ends_of_decide (by decide)

theorem ends_isHexDigit : Ends isHexDigit :=
  ends_of_decide (by decide)

theorem fractionWidth_point (rest : List Char) :
    fractionWidth ('.' :: rest) =
      if (rest.takeWhile Char.isDigit).length = 0 then 0
      else (rest.takeWhile Char.isDigit).length + 1 :=
  rfl

theorem fractionWidth_of_ne
    {first : Char}
    (notPoint : first ≠ '.')
    (rest : List Char) :
    fractionWidth (first :: rest) = 0 := by
  unfold fractionWidth
  split
  next equal =>
    cases equal
    exact absurd rfl notPoint
  next => rfl

/-- The number of characters of a mark, if one stands ahead. -/
def markWidth
    (isMark : Char → Bool)
    (characters : List Char) : Nat :=
  if startsWith isMark characters then 1 else 0

/-- The number of characters of a sign. -/
def signWidth (characters : List Char) : Nat :=
  markWidth (fun mark => mark == '+' || mark == '-') characters

/-- The number of digits of an exponent. -/
def exponentDigits (characters : List Char) : Nat :=
  ((characters.drop (signWidth characters)).takeWhile Char.isDigit).length

theorem exponentWidth_cons
    (marker : Char)
    (rest : List Char) :
    exponentWidth (marker :: rest) =
      if (marker == 'e' || marker == 'E') && exponentDigits rest != 0 then
        1 + signWidth rest + exponentDigits rest
      else 0 :=
  rfl

/-- The number of characters of a sign and the digits behind it. -/
def wholeWidth
    (first : Char)
    (rest : List Char) : Nat :=
  if first = '-' then 1 + (rest.takeWhile Char.isDigit).length
  else ((first :: rest).takeWhile Char.isDigit).length

/-- The number of characters behind the whole part of a number. -/
def restWidth (characters : List Char) : Nat :=
  let fraction := fractionWidth characters
  let exponent := exponentWidth (characters.drop fraction)
  fraction + exponent + suffixWidth (characters.drop (fraction + exponent))

theorem numberShape_width
    (first : Char)
    (rest : List Char) :
    (numberShape first rest).width =
      wholeWidth first rest + restWidth ((first :: rest).drop (wholeWidth first rest)) - 1 := by
  have whole : (if first = '-' then 1 else 0) +
      (((first :: rest).drop (if first = '-' then 1 else 0)).takeWhile Char.isDigit).length =
        wholeWidth first rest := by
    unfold wholeWidth
    split
    next => rfl
    next => rw [List.drop_zero, Nat.zero_add]
  unfold numberShape restWidth
  simp only [whole, List.drop_drop, Nat.add_assoc]

theorem variableShape_width (rest : List Char) :
    (variableShape rest).width = markWidth (fun mark => mark == '@') rest +
      ((rest.drop (markWidth (fun mark => mark == '@') rest)).takeWhile isNameCharacter).length := by
  cases rest with
  | nil => rfl
  | cons => rfl

theorem closingWidth?_pos
    {dialect : Dialect}
    {quote : Char}
    {characters : List Char}
    {width : Nat}
    (closes : closingWidth? dialect quote characters = some width) :
    0 < width := by
  fun_induction closingWidth? dialect quote characters generalizing width with
  | case1 => cases closes
  | case2 =>
      cases closes
      exact Nat.one_pos
  | case3 => cases closes
  | case4 =>
      obtain ⟨inner, -, rfl⟩ := Option.map_eq_some_iff.mp closes
      omega
  | case5 =>
      obtain ⟨inner, -, rfl⟩ := Option.map_eq_some_iff.mp closes
      omega
  | case6 =>
      cases closes
      exact Nat.one_pos
  | case7 =>
      obtain ⟨inner, -, rfl⟩ := Option.map_eq_some_iff.mp closes
      omega

theorem closingWidth?_eq_one
    {dialect : Dialect}
    {quote : Char}
    (notBackslash : quote ≠ '\\')
    (first : Char)
    (rest : List Char) :
    closingWidth? dialect quote (first :: rest) = some 1 ↔
      first = quote ∧ rest.head? ≠ some quote := by
  have longer : ∀ characters extra, 0 < extra →
      (closingWidth? dialect quote characters).map (· + extra) ≠ some 1 := by
    intro characters extra isMore found
    obtain ⟨inner, isInner, total⟩ := Option.map_eq_some_iff.mp found
    have positive := closingWidth?_pos isInner
    omega
  cases rest with
  | nil => simp [closingWidth?]
  | cons second rest =>
      rw [closingWidth?, List.head?_cons, ne_eq, Option.some_inj]
      split
      next escapes =>
        apply iff_of_false (longer rest 2 Nat.two_pos)
        rintro ⟨isQuote, -⟩
        exact notBackslash (isQuote.symm.trans escapes.1)
      next =>
        split
        next isQuote =>
          split
          next isDoubled => exact iff_of_false (longer rest 2 Nat.two_pos) fun found => found.2 isDoubled
          next isSingle => exact iff_of_true rfl ⟨isQuote, isSingle⟩
        next isOther =>
          exact iff_of_false (longer (second :: rest) 1 Nat.one_pos) fun found => isOther found.1

/-- A string is closed where it is, whatever stands behind it, unless its quote is doubled there. -/
theorem closingWidth?_of_le
    {dialect : Dialect}
    {quote : Char}
    {front before after : List Char}
    {width : Nat}
    (notBackslash : quote ≠ '\\')
    (closes : closingWidth? dialect quote (front ++ before) = some width)
    (short : width ≤ front.length)
    (apart : width = front.length → after.head? = some quote → before.head? = some quote) :
    closingWidth? dialect quote (front ++ after) = some width := by
  induction measured : front.length using Nat.strongRecOn generalizing front width with
  | _ length ih =>
    have positive := closingWidth?_pos closes
    match front with
    | [] =>
        rw [List.length_nil] at short
        omega
    | [last] =>
        obtain rfl : width = 1 := by
          rw [List.length_singleton] at short
          omega
        rw [List.singleton_append, closingWidth?_eq_one notBackslash] at closes ⊢
        exact ⟨closes.1, fun isDoubled => closes.2 (apart rfl isDoubled)⟩
    | first :: second :: front =>
        rw [List.length_cons, List.length_cons] at short apart measured
        have behind : ∀ {inner}, closingWidth? dialect quote (front ++ before) = some inner →
            inner + 2 = width → closingWidth? dialect quote (front ++ after) = some inner := by
          intro inner isInner total
          exact ih front.length (by omega) isInner (by omega) (fun whole => apart (by omega)) rfl
        have next : ∀ {inner}, closingWidth? dialect quote (second :: front ++ before) = some inner →
            inner + 1 = width → closingWidth? dialect quote (second :: front ++ after) = some inner := by
          intro inner isInner total
          refine ih (second :: front).length ?_ isInner ?_ (fun whole => apart ?_) rfl
          all_goals rw [List.length_cons] at *
          all_goals omega
        rw [List.cons_append, List.cons_append, closingWidth?] at closes ⊢
        split at closes
        next escapes =>
          obtain ⟨inner, isInner, total⟩ := Option.map_eq_some_iff.mp closes
          rw [if_pos escapes, behind isInner total]
          exact congrArg some total
        next noEscape =>
          rw [if_neg noEscape]
          split at closes
          next isQuote =>
            rw [if_pos isQuote]
            split at closes
            next isDoubled =>
              obtain ⟨inner, isInner, total⟩ := Option.map_eq_some_iff.mp closes
              rw [if_pos isDoubled, behind isInner total]
              exact congrArg some total
            next isSingle => rw [if_neg isSingle, closes]
          next isOther =>
            obtain ⟨inner, isInner, total⟩ := Option.map_eq_some_iff.mp closes
            rw [if_neg isOther, ← List.cons_append, next isInner total]
            exact congrArg some total

theorem ofText?_eq_none
    {characters : List Char}
    (differs : ∀ sign ∈ Symbol.all, sign.text.toList ≠ characters) :
    Symbol.ofText? (String.ofList characters) = none := by
  rw [Symbol.ofText?, List.find?_eq_none]
  intro sign isSign isText
  apply differs sign isSign
  rw [beq_iff_eq.mp isText, String.toList_ofList]

/-- No symbol goes on with a stop or a quote. -/
theorem ofText?_eq_none_of_mem_tail
    {characters : List Char}
    {character : Char}
    (isLater : character ∈ characters.tail)
    (isEnd : isStop character = true ∨ character = '`' ∨ character = '"') :
    Symbol.ofText? (String.ofList characters) = none := by
  have others : ∀ sign ∈ Symbol.all, sign.text.toList.tail.all (fun character =>
      !(isStop character || character == '`' || character == '"')) = true := by
    decide
  apply ofText?_eq_none
  rintro sign isSign rfl
  have isOther := List.all_eq_true.mp (others sign isSign) character isLater
  rcases isEnd with isEnd | rfl | rfl
  · simp [isEnd] at isOther
  · simp at isOther
  · simp at isOther

/-- No symbol goes on with a point and a further character. -/
theorem ofText?_eq_none_of_point
    {first second : Char}
    {rest : List Char} :
    Symbol.ofText? (String.ofList (first :: '.' :: second :: rest)) = none := by
  have others : ∀ sign ∈ Symbol.all, 2 < sign.text.toList.length → sign.text.toList[1]? ≠ some '.' := by
    decide
  apply ofText?_eq_none
  intro sign isSign isText
  have isOther := others sign isSign
  rw [isText] at isOther
  exact isOther (by simp) rfl

theorem isDigit_of_isNameStart
    {character : Char}
    (starts : isNameStart character = true) :
    character.isDigit = false := by
  rw [Bool.eq_false_iff]
  intro isDigit
  have differs := test_of_isDigit (fun digit => !isNameStart digit) (by decide) isDigit
  rw [starts] at differs
  cases differs

namespace Parts

variable {slack : Nat} {front before after : List Char} {test : Char → Bool}

/-- Where the text behind begins with a character that ends what stands in front, so does the other. -/
theorem exists_ends
    (parts : Parts 0 before after) :
    ∃ first second rest others, before = first :: rest ∧ after = second :: others ∧
      ∀ {test : Char → Bool}, Ends test → test first = false ∧ test second = false := by
  cases parts with
  | stop isFirst isSecond =>
      exact ⟨_, _, _, _, rfl, rfl, fun ends => ⟨ends _ (.inl isFirst), ends _ (.inl isSecond)⟩⟩
  | quote isQuote =>
      refine ⟨_, _, _, _, rfl, rfl, fun ends => ⟨ends _ ?_, ends _ ?_⟩⟩
      all_goals exact .inr (isQuote.imp_right .inl)
  | point =>
      refine ⟨_, _, _, _, rfl, rfl, fun ends => ⟨ends _ ?_, ends _ ?_⟩⟩
      all_goals exact .inr (.inr (.inr rfl))

theorem slack_eq (parts : Parts slack before after) : slack = 3 ∨ slack = 0 := by
  cases parts with
  | far => exact .inl rfl
  | stop => exact .inr rfl
  | quote => exact .inr rfl
  | point => exact .inr rfl

theorem takeWhile_of_lt
    (short : ((front ++ before).takeWhile test).length < front.length)
    (after : List Char) :
    (front ++ after).takeWhile test = (front ++ before).takeWhile test := by
  rw [List.takeWhile_append] at short
  rw [List.takeWhile_append, List.takeWhile_append]
  split at short
  next =>
    rw [List.length_append] at short
    omega
  next notAll => rw [if_neg notAll, if_neg notAll]

theorem takeWhile_eq
    (ends : Ends test)
    (parts : Parts slack before after)
    (inside : slack = 0 ∨ ((front ++ before).takeWhile test).length < front.length) :
    (front ++ after).takeWhile test = (front ++ before).takeWhile test := by
  rcases inside with rfl | short
  · obtain ⟨first, second, rest, others, rfl, rfl, fails⟩ := parts.exists_ends
    obtain ⟨isFirst, isSecond⟩ := fails ends
    simp [List.takeWhile_append, isFirst, isSecond]
  · exact takeWhile_of_lt short after

theorem startsWith_eq
    (ends : Ends test)
    (parts : Parts slack before after)
    (inside : slack = 0 ∨ 0 < front.length) :
    startsWith test (front ++ after) = startsWith test (front ++ before) := by
  cases front with
  | nil =>
      obtain rfl := inside.resolve_right (Nat.lt_irrefl _)
      obtain ⟨first, second, rest, others, rfl, rfl, fails⟩ := parts.exists_ends
      obtain ⟨isFirst, isSecond⟩ := fails ends
      simp [startsWith, isFirst, isSecond]
  | cons => rfl

theorem fractionWidth_eq
    (parts : Parts slack before after)
    (inside : fractionWidth (front ++ before) + slack ≤ front.length) :
    fractionWidth (front ++ after) = fractionWidth (front ++ before) := by
  cases front with
  | nil =>
      obtain rfl : slack = 0 := by
        rw [List.length_nil] at inside
        omega
      have notPoint : ∀ {character}, isStop character = true → character ≠ '.' := by
        rintro character isEnd rfl
        exact absurd isEnd (by decide)
      have ofWord : ∀ {characters}, StartsWord characters → fractionWidth ('.' :: characters) = 0 := by
        rintro characters ⟨first, rest, rfl, starts, -⟩
        simp [fractionWidth, isDigit_of_isNameStart starts]
      cases parts with
      | stop isFirst isSecond =>
          exact (fractionWidth_of_ne (notPoint isSecond) _).trans
            (fractionWidth_of_ne (notPoint isFirst) _).symm
      | quote isQuote => rcases isQuote with rfl | rfl <;> rfl
      | point startsFirst startsSecond => exact (ofWord startsSecond).trans (ofWord startsFirst).symm
  | cons character front =>
      rw [List.cons_append, List.length_cons] at inside
      rw [List.cons_append, List.cons_append]
      by_cases isPoint : character = '.'
      · subst isPoint
        rw [fractionWidth_point] at inside ⊢
        have shorter : slack = 0 ∨
            ((front ++ before).takeWhile Char.isDigit).length < front.length := by
          rcases parts.slack_eq with rfl | rfl
          · right
            split at inside
            next => omega
            next => omega
          · exact .inl rfl
        rw [fractionWidth_point, parts.takeWhile_eq ends_isDigit shorter]
      · rw [fractionWidth_of_ne isPoint, fractionWidth_of_ne isPoint]

theorem markWidth_eq
    (ends : Ends test)
    (parts : Parts slack before after)
    (inside : slack = 0 ∨ 0 < front.length) :
    markWidth test (front ++ after) = markWidth test (front ++ before) ∧
      markWidth test (front ++ before) ≤ front.length := by
  unfold markWidth
  rw [parts.startsWith_eq ends inside]
  apply And.intro rfl
  cases front with
  | nil =>
      obtain rfl := inside.resolve_right (Nat.lt_irrefl _)
      obtain ⟨first, second, rest, others, rfl, rfl, fails⟩ := parts.exists_ends
      have isFirst : startsWith test (first :: rest) = false := (fails ends).1
      rw [List.nil_append, isFirst]
      exact Nat.le_refl _
  | cons =>
      rw [List.length_cons]
      split
      next => omega
      next => omega

theorem signWidth_eq
    (parts : Parts slack before after)
    (inside : slack = 0 ∨ 0 < front.length) :
    signWidth (front ++ after) = signWidth (front ++ before) ∧
      signWidth (front ++ before) ≤ front.length :=
  parts.markWidth_eq (ends_of_decide (by decide)) inside

theorem exponentDigits_eq
    (parts : Parts slack before after)
    (inside : slack = 0 ∨
      signWidth (front ++ before) + exponentDigits (front ++ before) < front.length) :
    exponentDigits (front ++ after) = exponentDigits (front ++ before) := by
  obtain ⟨sameSign, signInside⟩ := parts.signWidth_eq (inside.imp_right Nat.zero_lt_of_lt)
  unfold exponentDigits at inside ⊢
  rw [sameSign, List.drop_append_of_le_length signInside, List.drop_append_of_le_length signInside]
  rw [List.drop_append_of_le_length signInside] at inside
  rw [parts.takeWhile_eq ends_isDigit]
  rw [List.length_drop]
  omega

theorem exponentWidth_eq
    (parts : Parts slack before after)
    (inside : exponentWidth (front ++ before) + slack ≤ front.length) :
    exponentWidth (front ++ after) = exponentWidth (front ++ before) := by
  cases front with
  | nil =>
      obtain rfl : slack = 0 := by
        rw [List.length_nil] at inside
        omega
      have ends : Ends fun marker => marker == 'e' || marker == 'E' := ends_of_decide (by decide)
      obtain ⟨first, second, rest, others, rfl, rfl, fails⟩ := parts.exists_ends
      obtain ⟨isFirst, isSecond⟩ := fails ends
      simp only [List.nil_append, exponentWidth_cons, isFirst, isSecond, Bool.false_and,
        Bool.false_eq_true, if_false]
  | cons marker front =>
      rw [List.cons_append, List.length_cons, exponentWidth_cons] at inside
      rw [List.cons_append, List.cons_append, exponentWidth_cons, exponentWidth_cons]
      by_cases isMarker : (marker == 'e' || marker == 'E') = true
      · rw [isMarker, Bool.true_and] at inside ⊢
        have shorter : slack = 0 ∨
            signWidth (front ++ before) + exponentDigits (front ++ before) < front.length := by
          rcases parts.slack_eq with rfl | rfl
          · right
            have sign : signWidth (front ++ before) ≤ 1 := by
              unfold signWidth markWidth
              split
              next => exact Nat.le_refl _
              next => exact Nat.zero_le _
            split at inside
            next => omega
            next isNone =>
              have none : exponentDigits (front ++ before) = 0 := by simpa using isNone
              omega
          · exact .inl rfl
        rw [parts.exponentDigits_eq shorter, (parts.signWidth_eq (shorter.imp_right Nat.zero_lt_of_lt)).1, Bool.true_and]
      · simp only [Bool.not_eq_true] at isMarker
        simp only [isMarker, Bool.false_and, Bool.false_eq_true, if_false]

theorem suffixWidth_eq
    (parts : Parts slack before after)
    (inside : suffixWidth (front ++ before) + slack ≤ front.length) :
    suffixWidth (front ++ after) = suffixWidth (front ++ before) := by
  cases front with
  | nil =>
      obtain rfl : slack = 0 := by
        rw [List.length_nil] at inside
        omega
      have ends : Ends fun mark => mark == 'f' || mark == 'F' || mark == 'd' || mark == 'D' :=
        ends_of_decide (by decide)
      obtain ⟨first, second, rest, others, rfl, rfl, fails⟩ := parts.exists_ends
      obtain ⟨isFirst, isSecond⟩ := fails ends
      simp only [List.nil_append, suffixWidth, isFirst, isSecond, Bool.false_and,
        Bool.false_eq_true, if_false]
  | cons mark front =>
      rw [List.cons_append, List.length_cons] at inside
      have shorter : slack = 0 ∨ 0 < front.length := by
        rcases parts.slack_eq with rfl | rfl
        · right
          omega
        · exact .inl rfl
      rw [List.cons_append, List.cons_append, suffixWidth, suffixWidth,
        parts.startsWith_eq ends_isNameCharacter shorter]

theorem wholeWidth_eq
    {first : Char}
    (parts : Parts slack before after)
    (inside : wholeWidth first (front ++ before) + slack ≤ front.length + 1) :
    wholeWidth first (front ++ after) = wholeWidth first (front ++ before) := by
  unfold wholeWidth at inside ⊢
  split
  next isMinus =>
    rw [if_pos isMinus] at inside
    rw [parts.takeWhile_eq ends_isDigit]
    rcases parts.slack_eq with rfl | rfl
    · omega
    · exact .inl rfl
  next notMinus =>
    rw [if_neg notMinus, ← List.cons_append] at inside
    rw [← List.cons_append, ← List.cons_append, parts.takeWhile_eq ends_isDigit]
    rcases parts.slack_eq with rfl | rfl
    · rw [List.length_cons]
      omega
    · exact .inl rfl

theorem restWidth_eq
    (parts : Parts slack before after)
    (inside : restWidth (front ++ before) + slack ≤ front.length) :
    restWidth (front ++ after) = restWidth (front ++ before) := by
  have dropped : ∀ {count}, count ≤ front.length → ∀ behind,
      (front ++ behind).drop count = front.drop count ++ behind :=
    fun short behind => List.drop_append_of_le_length short
  have shorter : ∀ count, (front.drop count).length = front.length - count :=
    fun count => List.length_drop
  unfold restWidth at inside ⊢
  dsimp only at inside ⊢
  rw [parts.fractionWidth_eq (by omega)]
  generalize fractionWidth (front ++ before) = fraction at inside ⊢
  have short : fraction ≤ front.length := by omega
  rw [dropped short] at inside
  rw [dropped short, dropped short]
  have sameExponent : exponentWidth (front.drop fraction ++ after) =
      exponentWidth (front.drop fraction ++ before) := by
    apply parts.exponentWidth_eq
    have total := shorter fraction
    omega
  rw [sameExponent]
  generalize exponentWidth (front.drop fraction ++ before) = exponent at inside ⊢
  have shortAgain : fraction + exponent ≤ front.length := by omega
  rw [dropped shortAgain] at inside
  rw [dropped shortAgain, dropped shortAgain]
  have sameSuffix : suffixWidth (front.drop (fraction + exponent) ++ after) =
      suffixWidth (front.drop (fraction + exponent) ++ before) := by
    apply parts.suffixWidth_eq
    have total := shorter (fraction + exponent)
    omega
  rw [sameSuffix]

/-- A number that ends in front of a text is the same in front of the other one. -/
theorem numberShape_width_eq
    {first : Char}
    (parts : Parts slack before after)
    (inside : (numberShape first (front ++ before)).width + slack ≤ front.length) :
    (numberShape first (front ++ after)).width = (numberShape first (front ++ before)).width := by
  rw [numberShape_width] at inside
  rw [numberShape_width, numberShape_width, parts.wholeWidth_eq (by omega)]
  generalize wholeWidth first (front ++ before) = whole at inside ⊢
  have short : whole ≤ (first :: front).length := by
    rw [List.length_cons]
    omega
  rw [← List.cons_append, List.drop_append_of_le_length short] at inside
  rw [← List.cons_append, ← List.cons_append, List.drop_append_of_le_length short,
    List.drop_append_of_le_length short, parts.restWidth_eq]
  rw [List.length_drop, List.length_cons]
  omega

theorem variableShape_width_eq
    (parts : Parts slack before after)
    (inside : (variableShape (front ++ before)).width + slack ≤ front.length) :
    (variableShape (front ++ after)).width = (variableShape (front ++ before)).width := by
  have ends : Ends fun mark => mark == '@' := ends_of_decide (by decide)
  have isThere : slack = 0 ∨ 0 < front.length := by
    rcases parts.slack_eq with rfl | rfl
    · right
      omega
    · exact .inl rfl
  obtain ⟨same, short⟩ := parts.markWidth_eq ends isThere
  rw [variableShape_width] at inside
  rw [variableShape_width, variableShape_width, same]
  generalize markWidth (fun mark => mark == '@') (front ++ before) = marks at inside short ⊢
  rw [List.drop_append_of_le_length short] at inside
  rw [List.drop_append_of_le_length short, List.drop_append_of_le_length short,
    parts.takeWhile_eq ends_isNameCharacter]
  rcases parts.slack_eq with rfl | rfl
  · rw [List.length_drop]
    omega
  · exact .inl rfl

/-- A token that is not closed runs to the end of the text, and so does not end in front of another. -/
theorem lt_length
    (parts : Parts slack before after)
    (front : List Char) :
    front.length < (front ++ before).length + slack := by
  rw [List.length_append]
  rcases parts.slack_eq with rfl | rfl
  · omega
  · obtain ⟨first, second, rest, others, rfl, rfl, -⟩ := parts.exists_ends
    rw [List.length_cons]
    omega

theorem quotedNameShape_width_eq
    (parts : Parts slack before after)
    (inside : (quotedNameShape (front ++ before)).width + slack ≤ front.length) :
    (quotedNameShape (front ++ after)).width = (quotedNameShape (front ++ before)).width := by
  have unclosed := parts.lt_length front
  unfold quotedNameShape at inside ⊢
  dsimp only at inside ⊢
  split at inside
  next closed =>
    dsimp only at inside
    have short : ((front ++ before).takeWhile (· != '`')).length < front.length := by omega
    rw [if_pos closed, takeWhile_of_lt short, if_pos]
    rw [List.length_append]
    omega
  next =>
    dsimp only at inside
    omega

theorem wordShape_width_eq
    {dialect : Dialect}
    {first : Char}
    (parts : Parts slack before after)
    (inside : (wordShape dialect first (front ++ before)).width + slack ≤ front.length) :
    (wordShape dialect first (front ++ after)).width =
      (wordShape dialect first (front ++ before)).width := by
  unfold wordShape at inside ⊢
  dsimp only at inside ⊢
  rw [parts.takeWhile_eq ends_isNameCharacter]
  rcases parts.slack_eq with rfl | rfl
  · omega
  · exact .inl rfl

theorem hexShape_width_eq
    (parts : Parts slack before after)
    (inside : (hexShape (front ++ before)).width + slack ≤ front.length) :
    (hexShape (front ++ after)).width = (hexShape (front ++ before)).width := by
  unfold hexShape at inside ⊢
  dsimp only at inside ⊢
  have short : 1 ≤ front.length := by omega
  rw [List.drop_append_of_le_length short] at inside
  rw [List.drop_append_of_le_length short, List.drop_append_of_le_length short,
    parts.takeWhile_eq ends_isHexDigit]
  rcases parts.slack_eq with rfl | rfl
  · rw [List.length_drop]
    omega
  · exact .inl rfl

/-- The characters that may make up a symbol are the same, or do so in neither text. -/
theorem ofText?_eq
    {first : Char}
    {width : Nat}
    (parts : Parts slack before after)
    (isSmall : width ≤ 3)
    (inside : slack ≤ front.length) :
    Symbol.ofText? (String.ofList ((first :: front ++ after).take width)) =
      Symbol.ofText? (String.ofList ((first :: front ++ before).take width)) := by
  by_cases short : width ≤ (first :: front).length
  · rw [List.take_append_of_le_length short, List.take_append_of_le_length short]
  · rw [List.length_cons] at short
    obtain ⟨more, rfl⟩ : ∃ more, width = (first :: front).length + (more + 1) :=
      ⟨width - front.length - 2, by rw [List.length_cons]; omega⟩
    have none : ∀ {character rest},
        isStop character = true ∨ character = '`' ∨ character = '"' →
        Symbol.ofText? (String.ofList ((first :: front ++ character :: rest).take
          ((first :: front).length + (more + 1)))) = none := by
      intro character rest isEnd
      rw [List.take_length_add_append, List.take_succ_cons]
      apply ofText?_eq_none_of_mem_tail _ isEnd
      simp
    cases parts with
    | far => omega
    | stop isFirst isSecond => rw [none (.inl isFirst), none (.inl isSecond)]
    | quote isQuote => rw [none (.inr isQuote), none (.inr isQuote)]
    | point startsFirst startsSecond =>
        obtain ⟨second, rest, rfl, -⟩ := startsFirst
        obtain ⟨other, others, rfl, -⟩ := startsSecond
        rw [List.take_length_add_append, List.take_length_add_append, List.take_succ_cons,
          List.take_succ_cons]
        cases more with
        | zero => rfl
        | succ more =>
            obtain rfl : front = [] := by
              apply List.eq_nil_of_length_eq_zero
              rw [List.length_cons] at isSmall
              omega
            rw [List.take_succ_cons, List.take_succ_cons]
            exact ofText?_eq_none_of_point.trans ofText?_eq_none_of_point.symm

theorem symbolShape_eq
    {first : Char}
    (parts : Parts slack before after)
    (inside : slack ≤ front.length) :
    symbolShape (first :: front ++ after) = symbolShape (first :: front ++ before) := by
  have same : ∀ width ∈ [3, 2, 1],
      Symbol.ofText? (String.ofList ((first :: front ++ after).take width)) =
        Symbol.ofText? (String.ofList ((first :: front ++ before).take width)) := by
    intro width isWidth
    apply parts.ofText?_eq _ inside
    simp only [List.mem_cons, List.not_mem_nil, or_false] at isWidth
    omega
  unfold symbolShape
  rw [List.findSome?_cons, List.findSome?_cons, List.findSome?_cons, same 3 (by decide),
    same 2 (by decide), same 1 (by decide)]
  rfl

theorem stringShape_width_eq
    {dialect : Dialect}
    {quote : Char}
    {marks : Nat}
    (parts : Parts slack before after)
    (isQuote : quote = '\'' ∨ quote = '"')
    (inside : (stringShape dialect quote marks (front ++ before)).width + slack ≤
      marks + front.length) :
    (stringShape dialect quote marks (front ++ after)).width =
      (stringShape dialect quote marks (front ++ before)).width := by
  have notBackslash : quote ≠ '\\' := by
    rintro rfl
    rcases isQuote with isOne | isOne <;> exact absurd isOne (by decide)
  have unclosed := parts.lt_length front
  unfold stringShape at inside ⊢
  cases closes : closingWidth? dialect quote (front ++ before) with
  | none =>
      rw [closes] at inside
      dsimp only at inside
      omega
  | some width =>
      rw [closes] at inside
      dsimp only at inside
      have same : closingWidth? dialect quote (front ++ after) = some width := by
        apply closingWidth?_of_le notBackslash closes (by omega)
        intro isWhole isDoubled
        obtain rfl : slack = 0 := by omega
        cases parts with
        | stop _ isSecond =>
            rw [List.head?_cons, Option.some_inj] at isDoubled
            rw [isDoubled] at isSecond
            rcases isQuote with rfl | rfl <;> exact absurd isSecond (by decide)
        | quote => exact isDoubled
        | point =>
            rw [List.head?_cons, Option.some_inj] at isDoubled
            rcases isQuote with rfl | rfl <;> exact absurd isDoubled (by decide)
      rw [same]

theorem isNumberStart_eq
    {afterName : Bool}
    {first : Char}
    (parts : Parts slack before after)
    (inside : slack ≤ front.length) :
    isNumberStart afterName first (front ++ after) = isNumberStart afterName first (front ++ before) := by
  have isThere : slack = 0 ∨ 0 < front.length := by
    rcases parts.slack_eq with rfl | rfl
    · right
      omega
    · exact .inl rfl
  have digits := parts.startsWith_eq ends_isDigit isThere
  have points : startsWith (fun next => next == '.' || next.isDigit) (front ++ after) =
      startsWith (fun next => next == '.' || next.isDigit) (front ++ before) := by
    cases front with
    | cons => rfl
    | nil =>
        obtain rfl : slack = 0 := isThere.resolve_right (Nat.lt_irrefl _)
        have noPoint : ∀ {character}, isStop character = true →
            (character == '.' || character.isDigit) = false := by
          intro character isEnd
          have isDigit := ends_isDigit character (.inl isEnd)
          rw [Bool.or_eq_false_iff, beq_eq_false_iff_ne]
          refine ⟨?_, isDigit⟩
          rintro rfl
          exact absurd isEnd (by decide)
        cases parts with
        | stop isFirst isSecond => exact (noPoint isSecond).trans (noPoint isFirst).symm
        | quote => rfl
        | point => rfl
  rw [isNumberStart, isNumberStart, digits, points]

theorem tokenClass_eq
    {dialect : Dialect}
    {afterName : Bool}
    {first : Char}
    (parts : Parts slack before after)
    (inside : slack ≤ front.length) :
    tokenClass dialect afterName first (front ++ after) =
      tokenClass dialect afterName first (front ++ before) := by
  have isThere : slack = 0 ∨ 0 < front.length := by
    rcases parts.slack_eq with rfl | rfl
    · right
      omega
    · exact .inl rfl
  have heads : ∀ characters : List Char, (characters.head? == some '\'') =
      startsWith (fun mark => mark == '\'') characters := by
    intro characters
    cases characters with
    | nil => rfl
    | cons => rfl
  have endsQuote : Ends fun mark => mark == '\'' := ends_of_decide (by decide)
  have endsHex : Ends fun next => next == 'x' || next == 'X' := ends_of_decide (by decide)
  unfold tokenClass
  rw [heads, heads, parts.startsWith_eq endsQuote isThere, parts.startsWith_eq endsHex isThere,
    parts.isNumberStart_eq inside]

/-- A token that ends in front of a text is the same in front of the other one. -/
theorem shape_width_eq
    {dialect : Dialect}
    {afterName : Bool}
    {first : Char}
    (parts : Parts slack before after)
    (inside : (shape dialect afterName first (front ++ before)).width + slack ≤ front.length) :
    (shape dialect afterName first (front ++ after)).width =
      (shape dialect afterName first (front ++ before)).width := by
  have short : slack ≤ front.length := by omega
  rw [shape_eq_shapeBy] at inside
  rw [shape_eq_shapeBy, shape_eq_shapeBy, parts.tokenClass_eq short]
  cases isClass : tokenClass dialect afterName first (front ++ before) with
  | mark =>
      rw [isClass] at inside
      exact parts.variableShape_width_eq inside
  | national =>
      rw [isClass] at inside
      have isOpened : 1 ≤ front.length := by
        have isQuote := head?_of_national isClass
        cases front with
        | cons => exact Nat.le_add_left _ _
        | nil =>
            obtain rfl : slack = 0 := Nat.le_zero.mp short
            obtain ⟨opening, second, rest, others, rfl, rfl, fails⟩ := parts.exists_ends
            have differs : Ends fun mark => mark == '\'' := ends_of_decide (by decide)
            cases isQuote
            exact absurd (fails differs).1 (by decide)
      simp only [shapeBy, List.drop_append_of_le_length isOpened] at inside ⊢
      apply parts.stringShape_width_eq (.inl rfl)
      rw [List.length_drop]
      omega
  | quotedName =>
      rw [isClass] at inside
      exact parts.quotedNameShape_width_eq inside
  | word =>
      rw [isClass] at inside
      exact parts.wordShape_width_eq inside
  | hex =>
      rw [isClass] at inside
      exact parts.hexShape_width_eq inside
  | number =>
      rw [isClass] at inside
      exact parts.numberShape_width_eq inside
  | symbol => exact congrArg Shape.width (parts.symbolShape_eq short)
  | string =>
      rw [isClass] at inside
      apply parts.stringShape_width_eq (isQuote_of_string isClass)
      rw [Nat.zero_add]
      exact inside
  | other => rfl

end Parts

/-- Whether every token that ends in front of one text looks the same in front of the other one. -/
inductive Alike : List Char → List Char → Prop where
  | same (text : List Char) : Alike text text
  | parted
      {slack : Nat}
      {common before after : List Char}
      (parts : Parts slack before after)
      (isLong : slack ≤ common.length) :
      Alike (common ++ before) (common ++ after)

namespace Alike

variable {before after : List Char}

theorem append
    (alike : Alike before after)
    (front : List Char) :
    Alike (front ++ before) (front ++ after) := by
  cases alike with
  | same => exact .same _
  | parted parts isLong =>
      rw [← List.append_assoc, ← List.append_assoc]
      apply Alike.parted parts
      rw [List.length_append]
      omega

/-- The next characters of such texts are the same, or both end what stands in front of them. -/
theorem heads (alike : Alike before after) :
    before.head? = after.head? ∨ ∃ first second rest others, before = first :: rest ∧
      after = second :: others ∧ isStop first = true ∧ isStop second = true := by
  cases alike with
  | same => exact .inl rfl
  | @parted slack common before after parts isLong =>
      cases common with
      | cons => exact .inl rfl
      | nil =>
          cases parts with
          | far => exact absurd isLong (by decide)
          | stop isFirst isSecond => exact .inr ⟨_, _, _, _, rfl, rfl, isFirst, isSecond⟩
          | quote => exact .inl rfl
          | point => exact .inl rfl

/-- A character that ends nothing stands ahead of both texts or of none. -/
theorem head?_eq_iff
    (alike : Alike before after)
    {character : Char}
    (noStop : isStop character = false) :
    before.head? = some character ↔ after.head? = some character := by
  rcases alike.heads with same | ⟨first, second, rest, others, rfl, rfl, isFirst, isSecond⟩
  · rw [same]
  · simp only [List.head?_cons, Option.some_inj]
    constructor
    · rintro rfl
      simp [noStop] at isFirst
    · rintro rfl
      simp [noStop] at isSecond

theorem eq_of_nil (alike : Alike [] after) : after = [] := by
  generalize isEmpty : ([] : List Char) = before at alike
  cases alike with
  | same => rfl
  | @parted slack common before after parts isLong =>
      obtain ⟨rfl, rfl⟩ := List.append_eq_nil_iff.mp isEmpty.symm
      cases parts with
      | far => exact absurd isLong (by decide)

theorem shape_width_eq
    {dialect : Dialect}
    {afterName : Bool}
    {first : Char}
    {front : List Char}
    (alike : Alike before after)
    (inside : (shape dialect afterName first (front ++ before)).width ≤ front.length) :
    (shape dialect afterName first (front ++ after)).width =
      (shape dialect afterName first (front ++ before)).width := by
  cases alike with
  | same => rfl
  | @parted slack common before after parts isLong =>
      rw [← List.append_assoc] at inside
      rw [← List.append_assoc, ← List.append_assoc]
      apply parts.shape_width_eq
      rw [List.length_append]
      omega

end Alike

end Lexer

end ShardedSql
