import ShardedSql.Proofs.Token.Respacing
import ShardedSql.Proofs.Token.Stream

/-!
# The space between two tokens

A comment or a run of white space between two tokens of a text may be replaced by a single blank.  The tokens
in front of it see the change only as a place where the text is broken off, and those behind it do not see it.
-/

namespace ShardedSql

namespace Lexer

open Text (byteLength byteLength_append)

/-- How the texts behind a token compare when a gap further behind is changed. -/
structure Loosens (before after : List Char) : Prop where
  cut : Cut before after
  noSuffix : suffixWidth before = 0 → suffixWidth after = 0
  noPoint : IsBreak after → before.head? ≠ some '.'

section Change

variable {dialect : Dialect} {afterName : Bool} {before after gap behind : List Char} {piece : Piece}

/-- No gap begins like a suffix or a point of a number. -/
theorem IsGap.not_number
    (isGap : IsGap dialect .blank gap behind)
    (isThere : gap ≠ []) :
    suffixWidth (gap ++ behind) = 0 ∧ (gap ++ behind).head? ≠ some '.' := by
  obtain ⟨first, rest, rfl, isOpening⟩ := isGap.exists_head isThere
  rw [isAsciiBlank_iff] at isOpening
  rcases isOpening with (rfl | rfl | rfl | rfl | rfl) | rfl | rfl | rfl
  all_goals exact ⟨by simp [suffixWidth], by simp⟩

/-- A token that is no suffix of a number in front of one text is none in front of another one. -/
theorem Piece.Stands.noSuffix
    (stands : piece.Stands dialect afterName before)
    (none : suffixWidth (piece.source ++ before) = 0)
    (after : List Char) :
    suffixWidth (piece.source ++ after) = 0 := by
  obtain ⟨gap, first, rest⟩ := piece
  cases rest with
  | cons second rest => exact none
  | nil =>
      rw [Piece.source, List.singleton_append, suffixWidth] at none ⊢
      by_cases isMark : (first == 'f' || first == 'F' || first == 'd' || first == 'D') = true
      · have isPlain : isNameStart first = true ∧ first ≠ '@' ∧ first ≠ 'N' ∧ first ≠ '`' := by
          simp only [Bool.or_eq_true, beq_iff_eq] at isMark
          rcases isMark with ((rfl | rfl) | rfl) | rfl <;> decide
        have isWord : IsWord first [] := stands.isWord isPlain.1 isPlain.2
        have ends : startsWith isNameCharacter before = false := isWord.endsWord_of_stands stands
        simp [isMark, ends] at none
      · rw [if_neg]
        simp [isMark]

/-- A token and its gap in front of such texts. -/
theorem Loosens.cons
    (loosens : Loosens before after)
    (stands : piece.Stands dialect afterName before)
    (standsBehind : piece.Stands dialect afterName after) :
    Loosens (piece.gap ++ (piece.source ++ before)) (piece.gap ++ (piece.source ++ after)) := by
  constructor
  · exact (loosens.cut.append _).append _
  · by_cases isThere : piece.gap = []
    · rw [isThere, List.nil_append, List.nil_append]
      exact fun none => stands.noSuffix none after
    · exact fun _ => (standsBehind.isGap.not_number isThere).1
  · obtain ⟨first, rest, isFront⟩ := List.exists_cons_of_ne_nil
      (List.append_ne_nil_of_right_ne_nil piece.gap (List.cons_ne_nil piece.first piece.rest))
    rw [← List.append_assoc, ← List.append_assoc, Piece.source, isFront]
    rintro (isEmpty | ⟨others, isBlank⟩)
    · cases isEmpty
    · rw [List.cons_append, List.head?_cons, (List.cons.inj isBlank).1]
      decide

/-- A token in front of such texts, which it stands directly behind in neither of them. -/
theorem Piece.Stands.loosened
    (stands : piece.Stands dialect afterName before)
    (isThere : before ≠ [])
    (isKnown : piece.kind dialect afterName before ≠ .unknown)
    (loosens : Loosens before after) :
    piece.Stands dialect afterName after ∧
      IsCutOff dialect (afterName && piece.gap.isEmpty) (afterName && piece.gap.isEmpty) piece.first
        piece.rest before after := by
  have isCutOff : IsCutOff dialect (afterName && piece.gap.isEmpty) (afterName && piece.gap.isEmpty)
      piece.first piece.rest before after :=
    ⟨loosens.cut, stands.width_eq isThere, isKnown, .inl rfl, loosens.noSuffix,
      fun isBreak _ _ isPoint => absurd isPoint (loosens.noPoint isBreak)⟩
  refine ⟨stands.of_cut loosens.cut (fun text isToken => stands.isGap.of_token
    (List.cons_ne_nil _ _) isToken) ?_, isCutOff⟩
  rw [isCutOff.width_eq, List.take_left]

/-- Whether one gap may be written for another one. -/
structure Regaps
    (dialect : Dialect)
    (gap other : List Char) : Prop where
  isThere : gap ≠ []
  isOther : other ≠ []
  isGap : ∀ text, IsGap dialect .blank [] text → IsGap dialect .blank other text
  cut : ∀ text, Cut (gap ++ text) (other ++ text)
  blanks : (∀ character ∈ gap, Text.isAsciiBlank character = true) →
    ∀ character ∈ other, Text.isAsciiBlank character = true

variable {tail other : List Char} {pieces behinds : List Piece} {left right : Piece}

/-- The tokens from a changed gap on. -/
theorem Divides.regapped
    (divides : Divides dialect tail afterName (right :: behinds))
    (regaps : Regaps dialect right.gap other) :
    Divides dialect tail afterName ({ right with gap := other } :: behinds) ∧
      wordsOf dialect tail afterName ({ right with gap := other } :: behinds) =
        wordsOf dialect tail afterName (right :: behinds) ∧
      Loosens (textOf tail (right :: behinds)) (textOf tail ({ right with gap := other } :: behinds)) := by
  cases divides with
  | cons stands others =>
      have isApart : ∀ {gap : List Char}, gap ≠ [] → (afterName && gap.isEmpty) = false := by
        intro gap isThere
        simp [isThere]
      have isGap := regaps.isGap _ (.token stands.isGap.token_of_cons)
      refine ⟨.cons ⟨isGap, ?_⟩ others, ?_, ⟨regaps.cut _, ?_, ?_⟩⟩
      · have isWhole := stands.isWhole
        rw [isApart regaps.isThere] at isWhole
        rw [isApart regaps.isOther, isWhole]
      · rw [wordsOf, wordsOf]
        simp only [Piece.kind, isApart regaps.isThere, isApart regaps.isOther]
        rfl
      · exact fun _ => (isGap.not_number regaps.isOther).1
      · exact fun _ => (stands.isGap.not_number regaps.isThere).2

/-- The tokens from the one in front of a changed gap on. -/
theorem Divides.rereads_left
    (divides : Divides dialect tail afterName (left :: right :: behinds))
    (areKnown : ∀ word ∈ wordsOf dialect tail afterName (left :: right :: behinds),
      word.kind ≠ .unknown)
    (regaps : Regaps dialect right.gap other) :
    let changed := left :: { right with gap := other } :: behinds
    Divides dialect tail afterName changed ∧
      Loosens (textOf tail (left :: right :: behinds)) (textOf tail changed) ∧
      ∀ {word next : Word} {rights : List Word},
        wordsOf dialect tail afterName (left :: right :: behinds) = word :: next :: rights →
        Rereads (wordsOf dialect tail afterName (left :: right :: behinds))
          (wordsOf dialect tail afterName changed)
          (¬ (word.HidesBy next ∧ ∀ character ∈ other, Text.isAsciiBlank character = true)) := by
  intro changed
  cases divides with
  | cons stands others =>
      obtain ⟨dividesOthers, sameWords, loosens⟩ := others.regapped regaps
      have isThere : textOf tail (right :: behinds) ≠ [] := textOf_ne_nil tail (List.cons_ne_nil _ _)
      rw [wordsOf] at areKnown
      obtain ⟨standsBehind, isCutOff⟩ := stands.loosened isThere (areKnown _ List.mem_cons_self) loosens
      refine ⟨.cons standsBehind dividesOthers, loosens.cons stands standsBehind, ?_⟩
      intro word next rights areWords
      have followed := others.isFollowedByBy_iff
      have followedBehind := dividesOthers.isFollowedByBy_iff
      simp only [List.head?_cons, Option.mem_some_iff, exists_eq_left', Piece.source]
        at followed followedBehind
      have stillFollowed : isFollowedByBy (textOf tail (right :: behinds)) = true →
          isFollowedByBy (textOf tail ({ right with gap := other } :: behinds)) = true := by
        rw [followed, followedBehind]
        exact fun isFollowed => ⟨regaps.blanks isFollowed.1, isFollowed.2⟩
      have kind := isCutOff.kind_eq_iff stillFollowed
      rw [wordsOf, wordsOf] at areWords
      obtain ⟨rfl, areNext⟩ := List.cons.inj areWords
      obtain ⟨rfl, -⟩ := List.cons.inj areNext
      have rereads : Rereads (wordsOf dialect tail left.endsName (right :: behinds))
          (wordsOf dialect tail left.endsName ({ right with gap := other } :: behinds)) True := by
        rw [sameWords]
        exact .refl _
      refine (rereads.cons_wordAs left left.gap isCutOff.literals_eq kind).congr ?_
      rw [and_true, followedBehind]
      constructor
      · rintro isOther ⟨⟨isName, isOrdering, isBy⟩, areBlank⟩
        exact isOther ⟨isName, isOrdering, areBlank, (map_toLower_iff _).mpr isBy⟩
      · rintro isOther ⟨isName, isOrdering, areBlank, isBy⟩
        exact isOther ⟨⟨isName, isOrdering, (map_toLower_iff _).mp isBy⟩, areBlank⟩

/-- **The tokens of a text in which one gap is changed.** -/
theorem Divides.rereads_regapped
    {fronts : List Piece}
    (divides : Divides dialect tail afterName (fronts ++ left :: right :: behinds))
    (areKnown : ∀ word ∈ wordsOf dialect tail afterName (fronts ++ left :: right :: behinds),
      word.kind ≠ .unknown)
    (regaps : Regaps dialect right.gap other) :
    let changed := fronts ++ left :: { right with gap := other } :: behinds
    Divides dialect tail afterName changed ∧
      Loosens (textOf tail (fronts ++ left :: right :: behinds)) (textOf tail changed) ∧
      ∀ {lefts : List Word} {word next : Word} {rights : List Word},
        wordsOf dialect tail afterName (fronts ++ left :: right :: behinds) =
          lefts ++ word :: next :: rights →
        lefts.length = fronts.length →
        Rereads (wordsOf dialect tail afterName (fronts ++ left :: right :: behinds))
          (wordsOf dialect tail afterName changed)
          (¬ (word.HidesBy next ∧ ∀ character ∈ other, Text.isAsciiBlank character = true)) := by
  induction fronts generalizing afterName with
  | nil =>
      obtain ⟨dividesChanged, loosens, rereads⟩ := divides.rereads_left areKnown regaps
      refine ⟨dividesChanged, loosens, ?_⟩
      intro lefts word next rights areWords sameLength
      obtain rfl := List.eq_nil_of_length_eq_zero sameLength
      exact rereads areWords
  | cons piece fronts ih =>
      rw [List.cons_append] at divides areKnown
      obtain - | ⟨stands, others⟩ := divides
      rw [wordsOf] at areKnown
      obtain ⟨dividesOthers, loosens, rereads⟩ :=
        ih others fun word isLater => areKnown word (List.mem_cons_of_mem _ isLater)
      have isThere : textOf tail (fronts ++ left :: right :: behinds) ≠ [] :=
        textOf_ne_nil tail (by simp)
      obtain ⟨standsBehind, isCutOff⟩ := stands.loosened isThere (areKnown _ List.mem_cons_self) loosens
      refine ⟨.cons standsBehind dividesOthers, loosens.cons stands standsBehind, ?_⟩
      intro lefts word next rights areWords sameLength
      obtain ⟨first, lefts, rfl⟩ := List.exists_cons_of_length_eq_add_one sameLength
      rw [List.cons_append, List.cons_append, wordsOf] at areWords
      have sameFollowed : isFollowedByBy (textOf tail (fronts ++ left :: right :: behinds)) =
          isFollowedByBy (textOf tail (fronts ++ left :: { right with gap := other } :: behinds)) := by
        have sameHead : (fronts ++ left :: right :: behinds).head? =
            (fronts ++ left :: { right with gap := other } :: behinds).head? := by
          cases fronts with
          | nil => rfl
          | cons => rfl
        rw [Bool.eq_iff_iff, others.isFollowedByBy_iff, dividesOthers.isFollowedByBy_iff, sameHead]
      have rereadsOthers := rereads (List.cons.inj areWords).2 (Nat.succ.inj sameLength)
      have isSame := iff_of_true (isCutOff.kind_eq sameFollowed) trivial
      exact (rereadsOthers.cons_wordAs piece piece.gap isCutOff.literals_eq isSame).congr
        (iff_of_eq (true_and _))

end Change

/-- Two tokens next to each other, where the text is divided. -/
theorem Matches.exists_neighbours
    {position : Nat}
    {pieces : List Piece}
    {lefts rights : List Token}
    {left right : Token}
    (matched : Matches position pieces (lefts ++ left :: right :: rights)) :
    ∃ fronts first second behinds, pieces = fronts ++ first :: second :: behinds ∧
      fronts.length = lefts.length ∧
      left.stop = position + byteLength (textOf [] (fronts ++ [first])) ∧
      right.start = left.stop + byteLength second.gap := by
  induction lefts generalizing position pieces with
  | nil =>
      obtain - | ⟨source, start, stop, others⟩ := matched
      obtain - | ⟨-, startNext, -, -⟩ := others
      refine ⟨[], _, _, _, rfl, rfl, ?_, startNext⟩
      rw [stop, start, List.nil_append, textOf, textOf, List.append_nil, byteLength_append,
        Nat.add_assoc]
  | cons token lefts ih =>
      obtain - | ⟨source, start, stop, others⟩ := matched
      obtain ⟨fronts, first, second, behinds, rfl, sameLength, isStop, isStart⟩ := ih others
      refine ⟨_ :: fronts, first, second, behinds, rfl, congrArg Nat.succ sameLength, ?_, isStart⟩
      rw [isStop, stop, start, List.cons_append, textOf, byteLength_append, byteLength_append,
        Nat.add_assoc, Nat.add_assoc]

theorem IsComment.ne_nil
    {dialect : Dialect}
    {characters : List Char}
    (isComment : IsComment dialect characters) :
    characters ≠ [] := by
  cases isComment with
  | line => simp
  | block => simp

/-- Whether characters are a comment, or a run of white space. -/
def IsSpace
    (dialect : Dialect)
    (characters : List Char) : Prop :=
  IsComment dialect characters ∨
    characters ≠ [] ∧ ∀ character ∈ characters, Text.isAsciiBlank character = true

/-- A comment or a run of white space between two tokens of a text, with white space and comments in front of
it and behind it. -/
structure Interspace
    (dialect : Dialect)
    (text : String) where
  front : List Char
  before : List Char
  space : List Char
  after : List Char
  back : List Char
  isText : text.toList = front ++ ((before ++ (space ++ after)) ++ back)
  isBefore : IsFiller dialect before
  isSpace : IsSpace dialect space
  isAfter : IsFiller dialect after
  lefts : List Token
  left : Token
  right : Token
  rights : List Token
  areTokens : (Cursor.ofText dialect text).tokens = lefts ++ left :: right :: rights
  leftStops : left.stop = byteLength front
  rightStarts : right.start = byteLength front + byteLength (before ++ (space ++ after))

namespace Interspace

variable {dialect : Dialect} {text : String}

/-- The text with a single blank in place of the comment or the white space. -/
def blanked (interspace : Interspace dialect text) : String :=
  String.ofList (interspace.front ++ ((interspace.before ++ ' ' :: interspace.after) ++ interspace.back))

/-- Whether nothing but white space stands between the two tokens, apart from what is replaced. -/
def IsBlankOtherwise (interspace : Interspace dialect text) : Prop :=
  ∀ character ∈ interspace.before ++ interspace.after, Text.isAsciiBlank character = true

theorem isBlankOtherwise_iff (interspace : Interspace dialect text) :
    interspace.IsBlankOtherwise ↔ ∀ character ∈ interspace.before ++ ' ' :: interspace.after,
      Text.isAsciiBlank character = true := by
  have isBlank : Text.isAsciiBlank ' ' = true := rfl
  simp only [IsBlankOtherwise, List.forall_mem_append, List.forall_mem_cons, isBlank, true_and]

theorem regaps (interspace : Interspace dialect text) :
    Regaps dialect (interspace.before ++ (interspace.space ++ interspace.after))
      (interspace.before ++ ' ' :: interspace.after) := by
  have isThere : interspace.space ≠ [] := by
    rcases interspace.isSpace with isComment | isBlank
    · exact isComment.ne_nil
    · exact isBlank.1
  constructor
  · simp [isThere]
  · simp
  · intro text isToken
    have isBehind := interspace.isAfter.isGap isToken
    rw [List.append_nil] at isBehind
    exact interspace.isBefore.isGap (.blank rfl isBehind)
  · intro text
    rw [List.append_assoc, List.append_assoc, List.append_assoc]
    exact (Cut.here (.inr ⟨_, rfl⟩)).append interspace.before
  · intro areBlank character isThere
    rcases List.mem_append.mp isThere with isBefore | isBehind
    · exact areBlank character (List.mem_append_left _ isBefore)
    · rcases List.mem_cons.mp isBehind with rfl | isAfter
      · rfl
      · exact areBlank character (List.mem_append_right _ (List.mem_append_right _ isAfter))

variable {tail : List Char} {pieces : List Piece}

/-- Where the replaced characters stand among the tokens. -/
theorem exists_pieces
    (interspace : Interspace dialect text)
    (divides : Divides dialect tail false pieces)
    (isText : textOf tail pieces = text.toList) :
    ∃ fronts first second behinds, pieces = fronts ++ first :: second :: behinds ∧
      fronts.length = interspace.lefts.length ∧
      textOf [] (fronts ++ [first]) = interspace.front ∧
      second.gap = interspace.before ++ (interspace.space ++ interspace.after) ∧
      second.source ++ textOf tail behinds = interspace.back := by
  have matched := divides.matches isText
  rw [interspace.areTokens] at matched
  obtain ⟨fronts, first, second, behinds, rfl, sameLength, isStop, isStart⟩ :=
    matched.exists_neighbours
  have isWhole : textOf [] (fronts ++ [first]) ++
        (second.gap ++ (second.source ++ textOf tail behinds)) =
      interspace.front ++
        ((interspace.before ++ (interspace.space ++ interspace.after)) ++ interspace.back) := by
    rw [← interspace.isText, ← isText, List.append_cons fronts first (second :: behinds),
      textOf_append tail, textOf]
  have sameStop : byteLength (textOf [] (fronts ++ [first])) = byteLength interspace.front := by
    rw [← interspace.leftStops, isStop, Nat.zero_add]
  obtain ⟨isFront, isBehind⟩ := Text.append_inj_of_byteLength isWhole sameStop
  have sameGap : byteLength second.gap =
      byteLength (interspace.before ++ (interspace.space ++ interspace.after)) := by
    have starts := interspace.rightStarts
    rw [isStart, interspace.leftStops] at starts
    exact Nat.add_left_cancel starts
  obtain ⟨isGap, isBack⟩ := Text.append_inj_of_byteLength isBehind sameGap
  exact ⟨fronts, first, second, behinds, rfl, sameLength, isFront, isGap, isBack⟩

/-- The words of the text with a blank in place of the comment or the white space. -/
theorem rereads
    (interspace : Interspace dialect text)
    (areKnown : ∀ word ∈ words dialect text, word.kind ≠ .unknown) :
    Rereads (words dialect text) (words dialect interspace.blanked)
      (¬ (interspace.left.word.HidesBy interspace.right.word ∧ interspace.IsBlankOtherwise)) := by
  obtain ⟨pieces, tail, divides, isText⟩ := Lexer.exists_pieces dialect false text.toList
  obtain ⟨fronts, first, second, behinds, rfl, sameLength, isFront, isGap, isBack⟩ :=
    interspace.exists_pieces divides isText
  have areWords := divides.words_eq isText
  have regaps := interspace.regaps
  rw [areWords] at areKnown
  rw [← isGap] at regaps
  obtain ⟨dividesChanged, -, rereads⟩ := divides.rereads_regapped areKnown regaps
  have isChanged : textOf tail (fronts ++ first ::
      { second with gap := interspace.before ++ ' ' :: interspace.after } :: behinds) =
        interspace.blanked.toList := by
    rw [blanked, String.toList_ofList, ← isFront, ← isBack, List.append_cons fronts first,
      textOf_append tail, textOf]
    rfl
  have areNeighbours : wordsOf dialect tail false (fronts ++ first :: second :: behinds) =
      interspace.lefts.map Token.word ++
        interspace.left.word :: interspace.right.word :: interspace.rights.map Token.word := by
    rw [← areWords, words, interspace.areTokens, List.map_append, List.map_cons, List.map_cons]
  rw [areWords, dividesChanged.words_eq isChanged]
  refine (rereads areNeighbours (by rw [List.length_map, sameLength])).congr ?_
  rw [interspace.isBlankOtherwise_iff]

end Interspace

/-- **White space and comments only keep tokens apart.**  When the words of a text are written with single
blanks between them, or one comment or run of white space between two of them becomes a blank, the words keep
their characters, and they keep their classes but for two exceptions: the sign of a number without digits
becomes a symbol, and `ORDER` or `GROUP` becomes a keyword when `BY` was hidden from it by a comment. -/
theorem space_keeps_words
    (dialect : Dialect)
    (text : String)
    (areKnown : ∀ word ∈ words dialect text, word.kind ≠ .unknown) :
    Rereads (words dialect text) (words dialect (Word.text (words dialect text)))
        (IsSteady (words dialect text)) ∧
      ∀ interspace : Interspace dialect text,
        Rereads (words dialect text) (words dialect interspace.blanked)
          (¬ (interspace.left.word.HidesBy interspace.right.word ∧ interspace.IsBlankOtherwise)) := by
  refine ⟨?_, fun interspace => interspace.rereads areKnown⟩
  obtain ⟨pieces, tail, divides, isText⟩ := exists_pieces dialect false text.toList
  have areWords := divides.words_eq isText
  rw [areWords] at areKnown
  obtain ⟨dividesBehind, rereads⟩ := divides.respaced areKnown
    (fun _ isToken => isToken) (Bool.false_and _)
  rw [areWords, dividesBehind.words_eq (toList_text_wordsOf pieces).symm]
  exact rereads

section Samples

/-- A query with a comment between two tokens, and with signs that stand directly behind names. -/
def commentedText : String :=
  "SELECT a-1/* one */FROM t ORDER BY a"

/-- The comment of this query. -/
def commentedInterspace : Interspace .mysql commentedText where
  front := "SELECT a-1".toList
  before := []
  space := "/* one */".toList
  after := []
  back := "FROM t ORDER BY a".toList
  isText := by decide +kernel
  isBefore := .nil
  isSpace := .inl (@IsComment.block .mysql " one ".toList (by decide))
  isAfter := .nil
  lefts := (Cursor.ofText .mysql commentedText).tokens.take 3
  left := ⟨.literal .int, "1", "1", 9, 10⟩
  right := ⟨.keyword .FROM, "FROM", "FROM", 19, 23⟩
  rights := (Cursor.ofText .mysql commentedText).tokens.drop 5
  areTokens := by decide +kernel
  leftStops := by decide +kernel
  rightStarts := by decide +kernel

/-- The words of this query stay what they are without the comment and with single blanks between them. -/
theorem space_keeps_words_commentedText :
    (∀ word ∈ words .mysql commentedText, word.kind ≠ .unknown) ∧
      words .mysql (Word.text (words .mysql commentedText)) = words .mysql commentedText ∧
      words .mysql commentedInterspace.blanked = words .mysql commentedText := by
  have areKnown : ∀ word ∈ words .mysql commentedText, word.kind ≠ .unknown := by decide +kernel
  have isSteady : IsSteady (words .mysql commentedText) := by decide +kernel
  have isOpen : ¬ (commentedInterspace.left.word.HidesBy commentedInterspace.right.word) := by
    decide +kernel
  obtain ⟨respaced, blanked⟩ := space_keeps_words .mysql commentedText areKnown
  exact ⟨areKnown, respaced.eq_iff.mpr isSteady,
    (blanked commentedInterspace).eq_iff.mpr fun hides => isOpen hides.1⟩

/-- A comment hides `BY` from the word in front of it, which a blank does not. -/
theorem comment_hides_by :
    (∀ word ∈ words .mysql "ORDER/**/BY x", word.kind ≠ .unknown) ∧
      (words .mysql "ORDER/**/BY x").map Word.kind =
        [.literal .identifier, .keyword .BY, .literal .identifier] ∧
      (words .mysql (Word.text (words .mysql "ORDER/**/BY x"))).map Word.kind =
        [.keyword .ORDER, .keyword .BY, .literal .identifier] := by
  decide +kernel

end Samples

end Lexer

end ShardedSql
