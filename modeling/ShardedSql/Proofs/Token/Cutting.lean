import ShardedSql.Proofs.Token.Words

/-!
# Tokens in front of a break

A text may be broken off behind one of its tokens, by a blank or by its end.  What makes a token longer has
to stand directly behind it, and nothing of that kind appears in front of a break: the token keeps its width
there, and it keeps its class unless its rule asks for what has been broken off.
-/

namespace ShardedSql

namespace Lexer

/-- Whether one text is another one that is broken off at some place. -/
inductive Cut : List Char → List Char → Prop where
  | here
      {before after : List Char}
      (isBreak : IsBreak after) :
      Cut before after
  | cons
      (first : Char)
      {before after : List Char}
      (others : Cut before after) :
      Cut (first :: before) (first :: after)

namespace Cut

variable {front before after : List Char} {test : Char → Bool}

theorem append
    (cut : Cut before after)
    (front : List Char) :
    Cut (front ++ before) (front ++ after) := by
  induction front with
  | nil => exact cut
  | cons first front ih => exact .cons first ih

/-- What the broken text begins with, the whole text begins with, up to the break. -/
theorem begins_of_begins
    (cut : Cut before after)
    {piece : List Char}
    (noBlank : ' ' ∉ piece)
    (begins : piece <+: after) :
    piece <+: before := by
  induction cut generalizing piece with
  | here isBreak =>
      cases piece with
      | nil => exact List.nil_prefix
      | cons first piece =>
          rcases isBreak with rfl | ⟨rest, rfl⟩
          · exact absurd (List.prefix_nil.mp begins) (List.cons_ne_nil _ _)
          · rw [(List.cons_prefix_cons.mp begins).1] at noBlank
            exact absurd List.mem_cons_self noBlank
  | cons first others ih =>
      cases piece with
      | nil => exact List.nil_prefix
      | cons character piece =>
          obtain ⟨rfl, others⟩ := List.cons_prefix_cons.mp begins
          exact List.cons_prefix_cons.mpr
            ⟨rfl, ih (fun isLater => noBlank (List.mem_cons_of_mem _ isLater)) others⟩

theorem head?_eq
    (cut : Cut before after)
    {character : Char}
    (notBlank : character ≠ ' ')
    (isHead : after.head? = some character) :
    before.head? = some character := by
  obtain ⟨rest, rfl⟩ := List.head?_eq_some_iff.mp isHead
  have noBlank : ' ' ∉ [character] := by simpa using notBlank.symm
  obtain ⟨others, rfl⟩ := cut.begins_of_begins noBlank ⟨rest, rfl⟩
  rfl

theorem startsWith_eq_false
    (cut : Cut before after)
    (noBlank : test ' ' = false)
    (fails : startsWith test before = false) :
    startsWith test after = false := by
  cases cut with
  | here isBreak => exact not_startsWith_break noBlank isBreak
  | cons first others => exact fails

end Cut

/-- Whether what a rule counts, once it ends within the front of a text, is the same before every break. -/
def Settled (width : List Char → Nat) : Prop :=
  ∀ ⦃front before after : List Char⦄, Cut before after → width (front ++ before) ≤ front.length →
    width (front ++ after) = width (front ++ before)

theorem settled_takeWhile
    {test : Char → Bool}
    (noBlank : test ' ' = false) :
    Settled fun characters => (characters.takeWhile test).length := by
  intro front before after cut inside
  dsimp only at inside ⊢
  rcases Nat.lt_or_eq_of_le inside with short | isWhole
  · rw [Parts.takeWhile_of_lt short]
  · have isFront : (front ++ before).takeWhile test = front :=
      (List.prefix_of_prefix_length_le (List.takeWhile_prefix test) (List.prefix_append front before)
        inside).eq_of_length isWhole
    have all : ∀ character ∈ front, test character = true := by
      rw [← isFront]
      exact fun character => List.mem_takeWhile_imp
    have fails : startsWith test before = false := by
      rw [List.takeWhile_append_of_pos all, List.append_right_eq_self] at isFront
      exact (takeWhile_eq_nil_iff test before).mp isFront
    have failsBehind := (takeWhile_eq_nil_iff test after).mpr (cut.startsWith_eq_false noBlank fails)
    rw [isFront, List.takeWhile_append_of_pos all, failsBehind, List.append_nil]

theorem settled_digits : Settled fun characters => (characters.takeWhile Char.isDigit).length :=
  settled_takeWhile (by decide)

theorem settled_markWidth
    {test : Char → Bool}
    (noBlank : test ' ' = false) :
    Settled (markWidth test) := by
  intro front before after cut inside
  cases front with
  | nil =>
      rw [List.nil_append, List.length_nil, Nat.le_zero, markWidth] at inside
      have fails : startsWith test before = false := by
        rw [Bool.eq_false_iff]
        intro holds
        rw [if_pos holds] at inside
        cases inside
      simp only [List.nil_append, markWidth, fails, cut.startsWith_eq_false noBlank fails]
  | cons => rfl

/-- Two parts one behind the other are settled when each of them is. -/
theorem Settled.add
    {width behind : List Char → Nat}
    (settled : Settled width)
    (settledBehind : Settled behind) :
    Settled fun characters => width characters + behind (characters.drop (width characters)) := by
  intro front before after cut inside
  dsimp only at inside ⊢
  have short : width (front ++ before) ≤ front.length := Nat.le_of_add_right_le inside
  rw [settled cut short]
  generalize width (front ++ before) = count at inside short ⊢
  rw [List.drop_append_of_le_length short] at inside ⊢
  rw [List.drop_append_of_le_length short, settledBehind cut]
  rw [List.length_drop]
  omega

theorem settled_fractionWidth : Settled fractionWidth := by
  -- The point stands in the front part, or it is the first character of both texts.
  have behindPoint : ∀ {front before after : List Char}, Cut before after →
      fractionWidth ('.' :: (front ++ before)) ≤ front.length + 1 →
      fractionWidth ('.' :: (front ++ after)) = fractionWidth ('.' :: (front ++ before)) := by
    intro front before after cut inside
    rw [fractionWidth_point] at inside
    have within : ((front ++ before).takeWhile Char.isDigit).length ≤ front.length := by
      split at inside
      next isNone => exact isNone ▸ Nat.zero_le _
      next => exact Nat.le_of_succ_le_succ inside
    have same : ((front ++ after).takeWhile Char.isDigit).length =
        ((front ++ before).takeWhile Char.isDigit).length := settled_digits cut within
    rw [fractionWidth_point, fractionWidth_point, same]
  intro front before after cut inside
  cases front with
  | nil =>
      cases cut with
      | here isBreak =>
          rw [List.nil_append, List.nil_append, fractionWidth_break isBreak]
          exact (Nat.le_zero.mp inside).symm
      | @cons first before after others =>
          by_cases isPoint : first = '.'
          · subst isPoint
            exact @behindPoint [] before after others (Nat.le_succ_of_le inside)
          · exact (fractionWidth_of_ne isPoint _).trans (fractionWidth_of_ne isPoint _).symm
  | cons first front =>
      by_cases isPoint : first = '.'
      · subst isPoint
        exact behindPoint cut inside
      · exact (fractionWidth_of_ne isPoint _).trans (fractionWidth_of_ne isPoint _).symm

/-- Where no digits of an exponent stand ahead, none stand ahead of a break. -/
theorem Cut.exponentDigits_eq_zero
    {before after : List Char}
    (cut : Cut before after)
    (none : exponentDigits before = 0) :
    exponentDigits after = 0 := by
  cases cut with
  | here isBreak =>
      rcases isBreak with rfl | ⟨rest, rfl⟩
      · rfl
      · rfl
  | @cons first before after others =>
      unfold exponentDigits at none ⊢
      have sameSign : signWidth (first :: after) = signWidth (first :: before) := rfl
      rw [sameSign]
      by_cases isSign : signWidth (first :: before) = 0
      · rw [isSign, List.drop_zero] at none ⊢
        exact (@settled_digits [] _ _ (.cons first others) (Nat.le_of_eq none)).trans none
      · have isOne : signWidth (first :: before) = 1 := by
          unfold signWidth markWidth at isSign ⊢
          split at isSign
          next isMark => rw [if_pos isMark]
          next => exact absurd rfl isSign
        rw [isOne, List.drop_one, List.tail_cons] at none ⊢
        exact (@settled_digits [] _ _ others (Nat.le_of_eq none)).trans none

theorem settled_exponentWidth : Settled exponentWidth := by
  have signs : Settled signWidth := settled_markWidth (by decide)
  have signed : Settled fun characters => signWidth characters + exponentDigits characters :=
    signs.add settled_digits
  -- The marker stands in the front part, or it is the first character of both texts.
  have behindMarker : ∀ {front before after : List Char} (marker : Char), Cut before after →
      exponentWidth (marker :: (front ++ before)) ≤ front.length + 1 →
      exponentWidth (marker :: (front ++ after)) = exponentWidth (marker :: (front ++ before)) := by
    intro front before after marker cut inside
    rw [exponentWidth_cons] at inside
    rw [exponentWidth_cons, exponentWidth_cons]
    by_cases isNone : exponentDigits (front ++ before) = 0
    · rw [isNone, (cut.append front).exponentDigits_eq_zero isNone]
      simp
    · by_cases isMarker : (marker == 'e' || marker == 'E') = true
      · have isThere : ((marker == 'e' || marker == 'E') &&
            exponentDigits (front ++ before) != 0) = true := by
          simp [isMarker, isNone]
        rw [if_pos isThere] at inside
        have sameSign := @signs front before after cut (by omega)
        have within : signWidth (front ++ before) + exponentDigits (front ++ before) ≤ front.length := by
          omega
        have sameBoth : signWidth (front ++ after) + exponentDigits (front ++ after) =
            signWidth (front ++ before) + exponentDigits (front ++ before) := signed cut within
        have sameDigits : exponentDigits (front ++ after) = exponentDigits (front ++ before) := by
          omega
        rw [sameSign, sameDigits]
      · simp only [isMarker, Bool.false_and, Bool.false_eq_true, if_false]
  intro front before after cut inside
  cases front with
  | nil =>
      cases cut with
      | here isBreak =>
          rw [List.nil_append, List.nil_append, exponentWidth_break isBreak]
          exact (Nat.le_zero.mp inside).symm
      | cons marker others => exact @behindMarker [] _ _ marker others (Nat.le_succ_of_le inside)
  | cons marker front => exact behindMarker marker cut inside

/-- The whole part of a number, which may be a sign, digits or nothing. -/
theorem settled_wholeWidth
    {first : Char}
    {front before after : List Char}
    (cut : Cut before after)
    (inside : wholeWidth first (front ++ before) ≤ front.length + 1) :
    wholeWidth first (front ++ after) = wholeWidth first (front ++ before) := by
  unfold wholeWidth at inside ⊢
  split
  next isMinus =>
    rw [if_pos isMinus] at inside
    have within : ((front ++ before).takeWhile Char.isDigit).length ≤ front.length := by omega
    have same : ((front ++ after).takeWhile Char.isDigit).length =
        ((front ++ before).takeWhile Char.isDigit).length := settled_digits cut within
    rw [same]
  next notMinus =>
    rw [if_neg notMinus] at inside
    exact @settled_digits (first :: front) before after cut inside

/-- A suffix that ends a number ends it in front of a break, where no other suffix appears. -/
theorem Cut.suffixWidth_eq
    {front before after : List Char}
    (cut : Cut before after)
    (noSuffix : suffixWidth before = 0 → suffixWidth after = 0)
    (isWhole : suffixWidth (front ++ before) = front.length) :
    suffixWidth (front ++ after) = front.length := by
  have short : ∀ characters, suffixWidth characters ≤ 1 := by
    intro characters
    unfold suffixWidth
    split
    next =>
      split
      next => exact Nat.le_refl _
      next => exact Nat.zero_le _
    next => exact Nat.zero_le _
  match front with
  | [] => exact noSuffix isWhole
  | [mark] =>
      simp only [List.singleton_append, List.length_singleton, suffixWidth, ite_eq_left_iff,
        Nat.zero_ne_one, imp_false, Decidable.not_not, Bool.and_eq_true, Bool.not_eq_true']
        at isWhole ⊢
      exact ⟨isWhole.1, cut.startsWith_eq_false (by decide) isWhole.2⟩
  | first :: second :: front =>
      have atMost := short (first :: second :: front ++ before)
      rw [isWhole, List.length_cons, List.length_cons] at atMost
      omega

theorem Cut.restWidth_eq
    {front before after : List Char}
    (cut : Cut before after)
    (noSuffix : suffixWidth before = 0 → suffixWidth after = 0)
    (isWhole : restWidth (front ++ before) = front.length) :
    restWidth (front ++ after) = front.length := by
  have settled := settled_fractionWidth.add settled_exponentWidth
  have split : ∀ characters, restWidth characters =
      (fractionWidth characters + exponentWidth (characters.drop (fractionWidth characters))) +
        suffixWidth (characters.drop
          (fractionWidth characters + exponentWidth (characters.drop (fractionWidth characters)))) :=
    fun _ => rfl
  have same : fractionWidth (front ++ after) +
        exponentWidth ((front ++ after).drop (fractionWidth (front ++ after))) =
      fractionWidth (front ++ before) +
        exponentWidth ((front ++ before).drop (fractionWidth (front ++ before))) := by
    apply settled cut
    rw [← isWhole, split]
    exact Nat.le_add_right _ _
  rw [split] at isWhole
  rw [split, same]
  generalize fractionWidth (front ++ before) +
    exponentWidth ((front ++ before).drop (fractionWidth (front ++ before))) = count at isWhole ⊢
  have within : count ≤ front.length := by omega
  rw [List.drop_append_of_le_length within] at isWhole ⊢
  have length := List.length_drop (i := count) (l := front)
  rw [cut.suffixWidth_eq noSuffix (by omega), length]
  omega

theorem numberShape_eq
    (first : Char)
    (rest : List Char) :
    numberShape first rest =
      ⟨.literal (if restWidth ((first :: rest).drop (wholeWidth first rest)) = 0 then .int else .float),
        wholeWidth first rest + restWidth ((first :: rest).drop (wholeWidth first rest)) - 1⟩ := by
  have width := numberShape_width first rest
  have whole : (if first = '-' then 1 else 0) +
      (((first :: rest).drop (if first = '-' then 1 else 0)).takeWhile Char.isDigit).length =
        wholeWidth first rest := by
    unfold wholeWidth
    split
    next => rfl
    next => rw [List.drop_zero, Nat.zero_add]
  have kind : (numberShape first rest).kind =
      .literal (if restWidth ((first :: rest).drop (wholeWidth first rest)) = 0 then .int else .float) := by
    unfold numberShape restWidth
    simp only [whole, List.drop_drop, Nat.add_assoc]
  rw [← kind, ← width]

/-- The width of a number, which has at least one character. -/
theorem Cut.numberShape_eq
    {first : Char}
    {front before after : List Char}
    (cut : Cut before after)
    (noSuffix : suffixWidth before = 0 → suffixWidth after = 0)
    (isWhole : wholeWidth first (front ++ before) +
      restWidth ((first :: (front ++ before)).drop (wholeWidth first (front ++ before))) =
        front.length + 1) :
    numberShape first (front ++ after) = numberShape first (front ++ before) := by
  have same := settled_wholeWidth cut (Nat.le.intro isWhole)
  rw [Lexer.numberShape_eq, Lexer.numberShape_eq, same]
  generalize wholeWidth first (front ++ before) = whole at isWhole ⊢
  have within : whole ≤ (first :: front).length := Nat.le.intro isWhole
  rw [← List.cons_append, List.drop_append_of_le_length within] at isWhole
  have length := List.length_drop (i := whole) (l := first :: front)
  rw [List.length_cons] at length
  have isRest : restWidth ((first :: front).drop whole ++ before) =
      ((first :: front).drop whole).length := by omega
  rw [← List.cons_append, ← List.cons_append, List.drop_append_of_le_length within,
    List.drop_append_of_le_length within, cut.restWidth_eq noSuffix isRest, isRest]

/-- Whether a symbol is the longest one that some characters begin with. -/
structure IsLongest
    (sign : Symbol)
    (characters : List Char) : Prop where
  begins : sign.text.toList <+: characters
  longest : ∀ other : Symbol, other.text.toList <+: characters →
    other.text.toList.length ≤ sign.text.toList.length

theorem ofText?_text : ∀ sign ∈ Symbol.all, Symbol.ofText? sign.text = some sign := by
  decide

theorem length_text_mem : ∀ sign ∈ Symbol.all, sign.text.toList.length ∈ [3, 2, 1] := by
  decide

theorem ofText?_take
    {sign : Symbol}
    {characters : List Char}
    (begins : sign.text.toList <+: characters) :
    Symbol.ofText? (String.ofList (characters.take sign.text.toList.length)) = some sign := by
  rw [← List.prefix_iff_eq_take.mp begins, String.ofList_toList]
  exact ofText?_text sign (mem_symbols sign)

/-- The symbol that is read is the longest one. -/
theorem isLongest_of_kind
    {sign : Symbol}
    {characters : List Char}
    (isSign : (symbolShape characters).kind = .symbol sign) :
    IsLongest sign characters ∧ (symbolShape characters).width = sign.text.toList.length - 1 := by
  unfold symbolShape at isSign ⊢
  split at isSign
  next symbol found =>
    obtain rfl : symbol = sign := TokenKind.symbol.inj isSign
    simp only [String.length_toList, and_true]
    obtain ⟨wider, width, narrower, split, isSymbol, others⟩ := List.findSome?_eq_some_iff.mp found
    have isText : symbol.text.toList = characters.take width := by
      rw [Symbol.text_of_ofText? isSymbol, String.toList_ofList]
    apply IsLongest.mk (isText ▸ List.take_prefix width characters)
    intro other begins
    have isWidth := length_text_mem other (mem_symbols other)
    have descends : [3, 2, 1].Pairwise (fun first second => second ≤ first) := by decide
    rw [split] at isWidth descends
    rw [List.pairwise_append, List.pairwise_cons] at descends
    rw [List.mem_append, List.mem_cons] at isWidth
    have atMost : other.text.toList.length ≤ width := by
      rcases isWidth with isWider | same | isNarrower
      · have isNone := others _ isWider
        rw [ofText?_take begins] at isNone
        cases isNone
      · exact Nat.le_of_eq same
      · exact descends.2.1.1 _ isNarrower
    rw [isText, List.length_take]
    exact Nat.le_min.mpr ⟨atMost, begins.length_le⟩
  next => cases isSign

theorem IsLongest.symbolShape_eq
    {sign : Symbol}
    {characters : List Char}
    (isLongest : IsLongest sign characters) :
    symbolShape characters = ⟨.symbol sign, sign.text.toList.length - 1⟩ := by
  obtain ⟨other, isOther⟩ : ∃ other, (symbolShape characters).kind = .symbol other := by
    unfold symbolShape
    split
    next other _ => exact ⟨other, rfl⟩
    next none =>
      have isNone := List.findSome?_eq_none_iff.mp none _ (length_text_mem sign (mem_symbols sign))
      rw [ofText?_take isLongest.begins] at isNone
      cases isNone
  obtain ⟨othersLongest, width⟩ := isLongest_of_kind isOther
  have sameLength : other.text.toList.length = sign.text.toList.length :=
    Nat.le_antisymm (isLongest.longest other othersLongest.begins)
      (othersLongest.longest sign isLongest.begins)
  have same : other = sign := by
    have found := ofText?_take othersLongest.begins
    rw [sameLength, ofText?_take isLongest.begins] at found
    exact (Option.some.inj found).symm
  rw [same] at isOther width
  rw [← isOther, ← width]

theorem noBlank_text : ∀ sign ∈ Symbol.all, ' ' ∉ sign.text.toList := by
  decide

/-- A symbol is the longest one in front of a break, since no symbol has a blank. -/
theorem Cut.symbolShape_eq
    {first : Char}
    {front before after : List Char}
    (cut : Cut before after)
    (isKnown : (symbolShape (first :: (front ++ before))).kind ≠ .unknown)
    (isWhole : (symbolShape (first :: (front ++ before))).width = front.length) :
    symbolShape (first :: (front ++ after)) = symbolShape (first :: (front ++ before)) := by
  obtain ⟨sign, isSign⟩ := (symbolShape_kind _).resolve_left isKnown
  obtain ⟨isLongest, width⟩ := isLongest_of_kind isSign
  have positive := List.length_pos_of_ne_nil (symbol_text_ne_nil sign (mem_symbols sign))
  have isText : sign.text.toList = first :: front := by
    apply (List.prefix_of_prefix_length_le isLongest.begins
      (List.prefix_append (first :: front) before) _).eq_of_length
    · rw [List.length_cons]
      omega
    · rw [List.length_cons]
      omega
  have isLongestBehind : IsLongest sign (first :: (front ++ after)) := by
    constructor
    · rw [isText]
      exact List.prefix_append (first :: front) after
    · intro other begins
      exact isLongest.longest other ((cut.append (first :: front)).begins_of_begins
        (noBlank_text other (mem_symbols other)) begins)
  rw [isLongestBehind.symbolShape_eq, isLongest.symbolShape_eq]

theorem Cut.stringShape_eq
    {dialect : Dialect}
    {quote : Char}
    {marks : Nat}
    {front before after : List Char}
    (cut : Cut before after)
    (isQuote : quote = '\'' ∨ quote = '"')
    (isKnown : (stringShape dialect quote marks (front ++ before)).kind ≠ .unknown)
    (isWhole : (stringShape dialect quote marks (front ++ before)).width = marks + front.length) :
    stringShape dialect quote marks (front ++ after) =
      stringShape dialect quote marks (front ++ before) := by
  have noEscape : quote ≠ '\\' ∧ quote ≠ ' ' := by
    rcases isQuote with rfl | rfl <;> decide
  unfold stringShape at isKnown isWhole ⊢
  cases closes : closingWidth? dialect quote (front ++ before) with
  | none =>
      rw [closes] at isKnown
      exact absurd rfl isKnown
  | some width =>
      rw [closes] at isWhole
      have isAll : width = front.length := Nat.add_left_cancel isWhole
      rw [closingWidth?_of_le noEscape.1 closes (Nat.le_of_eq isAll)
        fun _ isDoubled => cut.head?_eq noEscape.2 isDoubled]

theorem quotedNameShape_eq
    {front before : List Char}
    (isKnown : (quotedNameShape (front ++ before)).kind ≠ .unknown)
    (isWhole : (quotedNameShape (front ++ before)).width = front.length)
    (after : List Char) :
    quotedNameShape (front ++ after) = quotedNameShape (front ++ before) := by
  unfold quotedNameShape at isKnown isWhole ⊢
  dsimp only at isKnown isWhole ⊢
  split at isKnown
  next isClosed =>
    rw [if_pos isClosed] at isWhole ⊢
    dsimp only at isWhole
    have short : ((front ++ before).takeWhile (· != '`')).length < front.length := by omega
    rw [Parts.takeWhile_of_lt short, if_pos]
    rw [List.length_append]
    omega
  next => exact absurd rfl isKnown

theorem Cut.variableShape_eq
    {front before after : List Char}
    (cut : Cut before after)
    (isWhole : (variableShape (front ++ before)).width = front.length) :
    variableShape (front ++ after) = variableShape (front ++ before) := by
  have marks : Settled (markWidth fun mark => mark == '@') := settled_markWidth (by decide)
  have settled := marks.add (@settled_takeWhile isNameCharacter (by decide))
  have same : (variableShape (front ++ after)).width = (variableShape (front ++ before)).width := by
    rw [variableShape_width, variableShape_width]
    apply settled cut
    rw [variableShape_width] at isWhole
    exact Nat.le_of_eq isWhole
  have shaped : ∀ rest, variableShape rest = ⟨.literal .variable, (variableShape rest).width⟩ :=
    fun _ => rfl
  rw [shaped, same, ← shaped]

theorem Cut.hexShape_eq
    {front before after : List Char}
    (cut : Cut before after)
    (isWhole : (hexShape (front ++ before)).width = front.length) :
    hexShape (front ++ after) = hexShape (front ++ before) := by
  unfold hexShape at isWhole ⊢
  dsimp only at isWhole
  have isThere : 1 ≤ front.length := by omega
  rw [List.drop_append_of_le_length isThere] at isWhole ⊢
  have within : ((front.drop 1 ++ before).takeWhile isHexDigit).length ≤ (front.drop 1).length := by
    rw [List.length_drop]
    omega
  have same : ((front.drop 1 ++ after).takeWhile isHexDigit).length =
      ((front.drop 1 ++ before).takeWhile isHexDigit).length :=
    settled_takeWhile (by decide) cut within
  rw [List.drop_append_of_le_length isThere, same]

section Classes

variable {dialect : Dialect} {afterName later : Bool} {first : Char}
variable {front before after rest other : List Char}

/-- The rule for a token asks for one character behind the first one. -/
theorem tokenClass_congr (sameHead : rest.head? = other.head?) :
    tokenClass dialect afterName first rest = tokenClass dialect afterName first other := by
  cases rest with
  | nil =>
      cases other with
      | nil => rfl
      | cons => cases sameHead
  | cons second rest =>
      cases other with
      | nil => cases sameHead
      | cons third other =>
          cases sameHead
          rfl

theorem not_national_of_single (isSingle : (shape dialect afterName first rest).width = 0) :
    (dialect.hasNationalStrings && first == 'N' && rest.head? == some '\'') = false := by
  rw [Bool.eq_false_iff]
  intro isNational
  have isClass : tokenClass dialect afterName first rest = .national := by
    have isN : first = 'N' := by
      simp only [Bool.and_eq_true, beq_iff_eq] at isNational
      exact isNational.1.2
    subst isN
    rw [tokenClass, if_neg (by simp), if_pos isNational]
  rw [shape_eq_shapeBy, isClass, shapeBy, stringShape] at isSingle
  split at isSingle
  all_goals
    dsimp only at isSingle
    omega

theorem not_hex_of_single (isSingle : (shape dialect afterName first rest).width = 0) :
    (first == '0' && startsWith (fun next => next == 'x' || next == 'X') rest) = false := by
  rw [Bool.eq_false_iff]
  intro isHex
  have isClass : tokenClass dialect afterName first rest = .hex := by
    have isZero : first = '0' := by
      simp only [Bool.and_eq_true, beq_iff_eq] at isHex
      exact isHex.1
    subst isZero
    have noStart : isNameStart '0' = false := by decide
    rw [tokenClass, if_neg (by simp), if_neg (by simp), if_neg (by decide), noStart,
      if_neg Bool.false_ne_true, if_pos isHex]
  rw [shape_eq_shapeBy, isClass, shapeBy, hexShape] at isSingle
  dsimp only at isSingle
  omega

/-- What a number begins with: a digit, a point with a digit behind it, or a sign. -/
theorem isNumberStart_cases (starts : isNumberStart afterName first rest = true) :
    first.isDigit = true ∨
      first = '.' ∧ startsWith Char.isDigit rest = true ∧ afterName = false ∨
      first = '-' ∧ (rest.head? = some '.' ∨ startsWith Char.isDigit rest = true) ∧
        afterName = false := by
  simp only [isNumberStart, Bool.or_eq_true, Bool.and_eq_true, beq_iff_eq, Bool.not_eq_true'] at starts
  rcases starts with (isDigit | ⟨⟨isPoint, isNext⟩, notAfter⟩) | ⟨⟨isMinus, isNext⟩, notAfter⟩
  · exact .inl isDigit
  · exact .inr (.inl ⟨isPoint, isNext, notAfter⟩)
  · refine .inr (.inr ⟨isMinus, ?_, notAfter⟩)
    cases rest with
    | nil => cases isNext
    | cons next rest => simpa [startsWith] using isNext

theorem takeWhile_pos {test : Char → Bool} (starts : startsWith test rest = true) :
    0 < (rest.takeWhile test).length := by
  apply List.length_pos_of_ne_nil
  rw [ne_eq, takeWhile_eq_nil_iff, starts]
  nofun

/-- The point of a number stands behind no digit, and has digits behind it. -/
theorem width_of_point (isDigit : startsWith Char.isDigit rest = true) :
    wholeWidth '.' rest = 0 ∧ 2 ≤ restWidth ('.' :: rest) := by
  have positive := takeWhile_pos isDigit
  have fraction : fractionWidth ('.' :: rest) = (rest.takeWhile Char.isDigit).length + 1 := by
    rw [fractionWidth_point, if_neg (Nat.ne_of_gt positive)]
  have within : fractionWidth ('.' :: rest) ≤ restWidth ('.' :: rest) :=
    Nat.le_add_right_of_le (Nat.le_add_right _ _)
  have none : wholeWidth '.' rest = 0 := by
    have noDigit : Char.isDigit '.' = false := by decide
    rw [wholeWidth, if_neg (by decide), List.takeWhile_cons, noDigit]
    rfl
  exact ⟨none, by omega⟩

/-- A number has at least one character. -/
theorem width_pos_of_number (isNumber : isNumberStart afterName first rest = true) :
    0 < wholeWidth first rest + restWidth ((first :: rest).drop (wholeWidth first rest)) := by
  rcases isNumberStart_cases isNumber with isDigit | ⟨rfl, isDigit, -⟩ | ⟨rfl, -, -⟩
  · have noMinus : first ≠ '-' := by
      rintro rfl
      exact absurd isDigit (by decide)
    apply Nat.add_pos_left
    rw [wholeWidth, if_neg noMinus]
    exact @takeWhile_pos (first :: rest) Char.isDigit isDigit
  · obtain ⟨none, positive⟩ := width_of_point isDigit
    rw [none]
    exact Nat.add_pos_right _ (Nat.lt_of_succ_lt positive)
  · apply Nat.add_pos_left
    rw [wholeWidth, if_pos rfl]
    exact Nat.add_pos_left Nat.one_pos _

theorem isNumberStart_of_class (isClass : tokenClass dialect afterName first rest = .number) :
    isNumberStart afterName first rest = true := by
  unfold tokenClass at isClass
  split_ifs at isClass with _ _ _ _ _ isNumber
  exact isNumber

theorem tokenClass_of_sign
    (isSign : first = '.' ∨ first = '-')
    (rest : List Char) :
    tokenClass dialect afterName first rest =
      if isNumberStart afterName first rest then .number else .symbol := by
  have others : first ≠ '@' ∧ first ≠ 'N' ∧ first ≠ '`' ∧ first ≠ '0' ∧ isNameStart first = false ∧
      Symbol.startsWith first = true := by
    rcases isSign with rfl | rfl <;> decide
  simp [tokenClass, others]

/-- A number of one character is a digit, or a sign in front of a point. -/
theorem isNumberStart_of_single (isSingle : (shape dialect afterName first rest).width = 0) :
    isNumberStart afterName first rest = true ↔
      first.isDigit = true ∨ first = '-' ∧ rest.head? = some '.' ∧ afterName = false := by
  constructor
  · intro isNumber
    have width : (first = '.' ∨ first = '-') →
        wholeWidth first rest + restWidth ((first :: rest).drop (wholeWidth first rest)) ≤ 1 := by
      intro isSign
      rw [shape_eq_shapeBy, tokenClass_of_sign isSign, if_pos isNumber, shapeBy, numberShape_width]
        at isSingle
      omega
    rcases isNumberStart_cases isNumber with isDigit | ⟨rfl, isDigit, -⟩ | ⟨rfl, isNext, notAfter⟩
    · exact .inl isDigit
    · obtain ⟨none, isLong⟩ := width_of_point isDigit
      have short := width (.inl rfl)
      rw [none, List.drop_zero] at short
      omega
    · refine .inr ⟨rfl, isNext.resolve_right fun isDigit => ?_, notAfter⟩
      have short := width (.inr rfl)
      have positive := takeWhile_pos isDigit
      rw [wholeWidth, if_pos rfl] at short
      omega
  · rintro (isDigit | ⟨rfl, isNext, rfl⟩)
    · simp [isNumberStart, isDigit]
    · obtain ⟨others, rfl⟩ := List.head?_eq_some_iff.mp isNext
      rfl

/-- Where nothing but a break follows, only a digit begins a number. -/
theorem isNumberStart_break (isBreak : IsBreak after) :
    isNumberStart later first after = first.isDigit := by
  have noDigit : startsWith Char.isDigit after = false := not_startsWith_break (by decide) isBreak
  have noPoint : startsWith (fun next => next == '.' || next.isDigit) after = false :=
    not_startsWith_break (by decide) isBreak
  simp [isNumberStart, noDigit, noPoint]

/-- In front of a break, a token of one character is read by the rule by which it was read, unless it is the
sign of a number without digits. -/
theorem tokenClass_break
    (isBreak : IsBreak after)
    (isSingle : (shape dialect afterName first before).width = 0)
    (noMinus : first = '-' → before.head? = some '.' → afterName = true) :
    tokenClass dialect later first after = tokenClass dialect afterName first before := by
  have sameNumber : isNumberStart afterName first before = first.isDigit := by
    rw [Bool.eq_iff_iff, isNumberStart_of_single isSingle, or_iff_left_iff_imp]
    rintro ⟨isMinus, isPoint, notAfter⟩
    rw [noMinus isMinus isPoint] at notAfter
    cases notAfter
  have noQuote : (after.head? == some '\'') = false := by
    rcases isBreak with rfl | ⟨rest, rfl⟩
    · rfl
    · rfl
  have noHex : startsWith (fun next => next == 'x' || next == 'X') after = false :=
    not_startsWith_break (by decide) isBreak
  rw [tokenClass, tokenClass, not_national_of_single isSingle, not_hex_of_single isSingle, sameNumber,
    noQuote, noHex, isNumberStart_break isBreak, Bool.and_false, Bool.and_false]

/-- The sign of a number without digits becomes a symbol in front of a break. -/
theorem shape_of_minus (isBreak : IsBreak after) :
    shape dialect later '-' after = ⟨.symbol .sub, 0⟩ := by
  have noNumber : isNumberStart later '-' after = false := isNumberStart_break isBreak
  rw [shape_eq_shapeBy, tokenClass_of_sign (.inr rfl), noNumber, if_neg Bool.false_ne_true, shapeBy,
    @symbolShape_break .sub _ (by decide) _ isBreak]

/-- A sign or a point that begins a number is a token by itself when it stands behind a name. -/
theorem shape_width_behind_name
    (isNumber : isNumberStart false first rest = true)
    (noDigit : first.isDigit = false) :
    (shape dialect true first rest).width = 0 := by
  have noNumber : isNumberStart true first rest = false := by simp [isNumberStart, noDigit]
  have isSymbol (isSign : first = '.' ∨ first = '-') :
      shape dialect true first rest = symbolShape (first :: rest) := by
    rw [shape_eq_shapeBy, tokenClass_of_sign isSign, noNumber]
    rfl
  rcases isNumberStart_cases isNumber with isDigit | ⟨rfl, isNext, -⟩ | ⟨rfl, -, -⟩
  · rw [noDigit] at isDigit
    cases isDigit
  · rw [isSymbol (.inl rfl)]
    cases rest with
    | nil => cases isNext
    | cons second rest =>
        apply symbolShape_width_of_point
        rintro rfl
        have isDigit : Char.isDigit '.' = true := isNext
        exact absurd isDigit (by decide)
  · rw [isSymbol (.inr rfl)]
    exact symbolShape_width_of_head (by decide) rest

/-- A token of several characters does not depend on what stands in front of it. -/
theorem tokenClass_of_wide (isWide : 0 < (shape dialect true first rest).width) :
    tokenClass dialect false first rest = tokenClass dialect true first rest := by
  have same : isNumberStart false first rest = isNumberStart true first rest := by
    cases isDigit : first.isDigit with
    | true => simp [isNumberStart, isDigit]
    | false =>
        have noNumber : isNumberStart false first rest = false := by
          rw [← Bool.not_eq_true]
          exact fun isNumber => Nat.ne_of_gt isWide (shape_width_behind_name isNumber isDigit)
        rw [noNumber]
        simp [isNumberStart, isDigit]
  rw [tokenClass, tokenClass, same]

/-- A word in front of what ends it. -/
theorem IsWord.wordShape_eq
    (isWord : IsWord first front)
    (ends : EndsWord after) :
    wordShape dialect first (front ++ after) =
      ⟨wordKind dialect (String.ofList (first :: front)) after, front.length⟩ := by
  have behind : (front ++ after).dropWhile isNameCharacter = after := by
    rw [List.dropWhile_append_of_pos isWord.continues]
    cases after with
    | nil => rfl
    | cons second after =>
        apply List.dropWhile_cons_of_neg
        rw [Bool.not_eq_true]
        exact ends
  rw [wordShape, isWord.takeWhile_eq ends, behind]

/-- How a token stands in front of a text that is broken off.  What stands in front of the token may change
only when the break is directly behind it; no suffix of a number and no sign without digits is made by it. -/
structure IsCutOff
    (dialect : Dialect)
    (afterName later : Bool)
    (first : Char)
    (front before after : List Char) : Prop where
  cut : Cut before after
  isWhole : (shape dialect afterName first (front ++ before)).width = front.length
  isKnown : (shape dialect afterName first (front ++ before)).kind ≠ .unknown
  flags : later = afterName ∨ later = false ∧ IsBreak after
  noSuffix : suffixWidth before = 0 → suffixWidth after = 0
  noMinus : IsBreak after → front = [] → first = '-' → before.head? = some '.' → afterName = true

namespace IsCutOff

theorem tokenClass_eq (isCutOff : IsCutOff dialect afterName later first front before after) :
    tokenClass dialect later first (front ++ after) =
      tokenClass dialect afterName first (front ++ before) := by
  have isWhole := isCutOff.isWhole
  cases front with
  | nil =>
      by_cases isBreak : IsBreak after
      · exact tokenClass_break isBreak isWhole (isCutOff.noMinus isBreak rfl)
      · obtain rfl : later = afterName :=
          isCutOff.flags.resolve_right fun isBroken => isBreak isBroken.2
        cases isCutOff.cut with
        | here isHere => exact absurd isHere isBreak
        | cons => exact tokenClass_congr rfl
  | cons second front =>
      have sameHead : tokenClass dialect later first (second :: front ++ after) =
          tokenClass dialect later first (second :: front ++ before) :=
        tokenClass_congr rfl
      rw [sameHead]
      rcases isCutOff.flags with rfl | ⟨rfl, -⟩
      · rfl
      · cases afterName with
        | false => rfl
        | true =>
            apply tokenClass_of_wide
            rw [isWhole]
            exact Nat.succ_pos _

/-- **In front of a break, a token is the same.**  A word may become a keyword or a name there, since two words
are keywords only in front of another one. -/
theorem shape_eq
    (isCutOff : IsCutOff dialect afterName later first front before after)
    (notWord : tokenClass dialect afterName first (front ++ before) ≠ .word) :
    shape dialect later first (front ++ after) = shape dialect afterName first (front ++ before) := by
  have isWhole := isCutOff.isWhole
  have isKnown := isCutOff.isKnown
  have cut := isCutOff.cut
  rw [shape_eq_shapeBy] at isWhole isKnown
  rw [shape_eq_shapeBy, shape_eq_shapeBy, isCutOff.tokenClass_eq]
  cases isClass : tokenClass dialect afterName first (front ++ before) with
  | mark =>
      rw [isClass] at isWhole
      exact cut.variableShape_eq isWhole
  | national =>
      rw [isClass] at isWhole isKnown
      simp only [shapeBy] at isWhole isKnown ⊢
      have isThere : 1 ≤ front.length := by
        rw [← isWhole, stringShape]
        split
        all_goals exact Nat.le_add_right _ _
      rw [List.drop_append_of_le_length isThere] at isWhole isKnown ⊢
      rw [List.drop_append_of_le_length isThere]
      apply cut.stringShape_eq (.inl rfl) isKnown
      rw [isWhole, List.length_drop]
      omega
  | quotedName =>
      rw [isClass] at isWhole isKnown
      exact quotedNameShape_eq isKnown isWhole after
  | word => exact absurd isClass notWord
  | hex =>
      rw [isClass] at isWhole
      exact cut.hexShape_eq isWhole
  | number =>
      rw [isClass, shapeBy, numberShape_width] at isWhole
      have positive := width_pos_of_number (isNumberStart_of_class isClass)
      exact cut.numberShape_eq isCutOff.noSuffix (by omega)
  | symbol =>
      rw [isClass] at isWhole isKnown
      exact cut.symbolShape_eq isKnown isWhole
  | string =>
      rw [isClass] at isWhole isKnown
      exact cut.stringShape_eq (isQuote_of_string isClass) isKnown (by rw [Nat.zero_add]; exact isWhole)
  | other =>
      rw [isClass] at isKnown
      exact absurd rfl isKnown

/-- A word is a word in front of a break, and its class is the one that the rule gives there. -/
theorem shape_of_word
    (isCutOff : IsCutOff dialect afterName later first front before after)
    (isClass : tokenClass dialect afterName first (front ++ before) = .word) :
    shape dialect later first (front ++ after) =
      ⟨wordKind dialect (String.ofList (first :: front)) after, front.length⟩ := by
  have isWord := isWord_of_class isClass
  rw [isCutOff.isWhole, List.take_left] at isWord
  have ends := endsWord_of_class isClass isCutOff.isWhole
  have endsBehind : EndsWord after := isCutOff.cut.startsWith_eq_false (by decide) ends
  rw [shape_eq_shapeBy, isCutOff.tokenClass_eq, isClass, shapeBy, isWord.wordShape_eq endsBehind]

end IsCutOff

end Classes

end Lexer

end ShardedSql
