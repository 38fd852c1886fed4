import ShardedSql.Proofs.Text.LetterCase
import ShardedSql.Proofs.Token.Cutting

/-!
# Tokens and the space between them

White space and comments only keep tokens apart.  What is written between the tokens of a text may be replaced
by single blanks, all at once or at one place, and the tokens stay the same, but for two exceptions: the sign
of a number without digits becomes a symbol, and `ORDER` and `GROUP`, which are keywords in front of `BY`,
are looked at across white space only and not across a comment.
-/

namespace ShardedSql

namespace Lexer

section Lookahead

variable {dialect : Dialect} {afterName : Bool} {behind : List Char} {piece : Piece}

theorem isFollowedByBy_iff (characters : List Char) :
    isFollowedByBy characters = true ↔
      ∃ first second rest, characters.dropWhile Text.isAsciiBlank = first :: second :: rest ∧
        first.toLower = 'b' ∧ second.toLower = 'y' ∧ EndsWord rest := by
  unfold isFollowedByBy
  split
  next first second rest isRest =>
    simp [isRest, EndsWord, and_assoc]
  next others =>
    apply iff_of_false Bool.false_ne_true
    rintro ⟨first, second, rest, isRest, -⟩
    exact others first second rest isRest

/-- A comment stands in front of every word behind it. -/
theorem IsGap.not_followed
    {gap : List Char}
    (isGap : IsGap dialect .blank gap behind)
    (hasComment : ¬ ∀ character ∈ gap, Text.isAsciiBlank character = true) :
    isFollowedByBy (gap ++ behind) = false := by
  rw [Bool.eq_false_iff, ne_eq, isFollowedByBy_iff]
  rintro ⟨first, second, rest, isRest, isB, -, -⟩
  have isThere : gap.dropWhile Text.isAsciiBlank ≠ [] := by
    rw [ne_eq, List.dropWhile_eq_nil_iff]
    exact hasComment
  obtain ⟨head, others, isHead, isOpening⟩ := isGap.dropWhile_blank.exists_head isThere
  have notBlank := List.head_dropWhile_not Text.isAsciiBlank isThere
  simp only [isHead, List.head_cons] at notBlank
  rw [List.dropWhile_append, isHead, if_neg (by simp), List.cons_append] at isRest
  rw [← (List.cons.inj isRest).1] at isB
  rcases isOpening with isBlank | rfl | rfl | rfl
  · rw [notBlank] at isBlank
    cases isBlank
  all_goals exact absurd isB (by decide)

theorem isNameStart_eq
    {first second : Char}
    (same : first.toLower = second.toLower) :
    isNameStart first = isNameStart second :=
  Text.eq_of_toLower_eq isNameStart (by decide +kernel) same

theorem isNameCharacter_eq
    {first second : Char}
    (same : first.toLower = second.toLower) :
    isNameCharacter first = isNameCharacter second :=
  Text.eq_of_toLower_eq isNameCharacter (by decide +kernel) same

/-- A token that begins like a word is one, unless a mark or a string may begin so. -/
theorem Piece.Stands.isWord
    (stands : piece.Stands dialect afterName behind)
    (starts : isNameStart piece.first = true)
    (isPlain : piece.first ≠ '@' ∧ piece.first ≠ 'N' ∧ piece.first ≠ '`') :
    IsWord piece.first piece.rest := by
  have isClass : tokenClass dialect (afterName && piece.gap.isEmpty) piece.first
      (piece.rest ++ behind) = .word := by
    simp [tokenClass, isPlain, starts]
  have isWord := isWord_of_class isClass
  rwa [stands.isWhole] at isWord

theorem Piece.Stands.isWord_of_letter
    (stands : piece.Stands dialect afterName behind)
    (isLetter : piece.first.toLower = 'b') :
    IsWord piece.first piece.rest := by
  have differs : ∀ character : Char, character.toLower ≠ 'b' → piece.first ≠ character := by
    rintro character isOther rfl
    exact isOther isLetter
  apply stands.isWord
  · rw [@isNameStart_eq _ 'b' isLetter]
    decide
  · exact ⟨differs '@' (by decide), differs 'N' (by decide), differs '`' (by decide)⟩

/-- The word `BY` is ahead where only white space stands in front of it. -/
theorem Piece.Stands.isFollowedByBy_iff
    (stands : piece.Stands dialect afterName behind) :
    isFollowedByBy (piece.gap ++ (piece.source ++ behind)) = true ↔
      (∀ character ∈ piece.gap, Text.isAsciiBlank character = true) ∧
        piece.source.map Char.toLower = ['b', 'y'] := by
  rw [Lexer.isFollowedByBy_iff]
  have noGap := stands.isGap.token_of_cons
  by_cases allBlank : ∀ character ∈ piece.gap, Text.isAsciiBlank character = true
  · have isRest : (piece.gap ++ (piece.source ++ behind)).dropWhile Text.isAsciiBlank =
        piece.first :: (piece.rest ++ behind) := by
      rw [List.dropWhile_append_of_pos allBlank, Piece.source, List.cons_append,
        List.dropWhile_cons_of_neg]
      rw [noGap.notBlank]
      exact Bool.false_ne_true
    rw [isRest, and_iff_right allBlank]
    constructor
    · rintro ⟨first, second, rest, split, isB, isY, ends⟩
      obtain ⟨rfl, isBehind⟩ := List.cons.inj split
      have isWord := stands.isWord_of_letter isB
      have isBehindEnd := @IsWord.endsWord_of_stands _ _ piece.gap _ _ _ isWord stands
      have continues : isNameCharacter second = true := by
        rw [@isNameCharacter_eq _ 'y' isY]
        decide
      rw [Piece.source]
      rcases isText : piece.rest with _ | ⟨last, _ | ⟨third, others⟩⟩
      · rw [isText, List.nil_append] at isBehind
        rw [isBehind, EndsWord, startsWith, continues] at isBehindEnd
        cases isBehindEnd
      · rw [isText, List.singleton_append] at isBehind
        rw [List.map_cons, List.map_singleton, isB, (List.cons.inj isBehind).1, isY]
      · rw [isText, List.cons_append, List.cons_append] at isBehind
        rw [← (List.cons.inj isBehind).2, EndsWord, startsWith,
          isWord.continues third (by simp [isText])] at ends
        cases ends
    · intro isBy
      obtain ⟨isB, isRestY⟩ := List.cons.inj isBy
      obtain ⟨second, isText, isY⟩ := List.map_eq_singleton_iff.mp isRestY
      have isWord := stands.isWord_of_letter isB
      exact ⟨_, second, behind, by rw [isText]; rfl, isB, isY,
        @IsWord.endsWord_of_stands _ _ piece.gap _ _ _ isWord stands⟩
  · rw [← Lexer.isFollowedByBy_iff, stands.isGap.not_followed allBlank]
    exact iff_of_false Bool.false_ne_true fun isBy => allBlank isBy.1

/-- The word `BY` is ahead where it is the next token and only white space stands in front of it. -/
theorem Divides.isFollowedByBy_iff
    {tail : List Char}
    {pieces : List Piece}
    (divides : Divides dialect tail afterName pieces) :
    isFollowedByBy (textOf tail pieces) = true ↔
      ∃ next ∈ pieces.head?, (∀ character ∈ next.gap, Text.isAsciiBlank character = true) ∧
        next.source.map Char.toLower = ['b', 'y'] := by
  cases divides with
  | nil _ isGap =>
      apply iff_of_false
      · rw [textOf]
        by_cases allBlank : ∀ character ∈ tail, Text.isAsciiBlank character = true
        · rw [Lexer.isFollowedByBy_iff, List.dropWhile_eq_nil_iff.mpr allBlank]
          rintro ⟨first, second, rest, isRest, -⟩
          cases isRest
        · have none := isGap.not_followed allBlank
          rw [List.append_nil] at none
          rw [none]
          exact Bool.false_ne_true
      · rintro ⟨next, isHead, -⟩
        cases isHead
  | cons stands _ =>
      rw [textOf, stands.isFollowedByBy_iff]
      simp

end Lookahead

/-- Whether a word is a keyword in front of `BY` only. -/
def IsOrdering (word : String) : Prop :=
  Text.upperAscii word = "ORDER" ∨ Text.upperAscii word = "GROUP"

section Kinds

variable {dialect : Dialect} {word : String} {before after : List Char}

theorem wordKind_of_ordering
    (isOrdering : IsOrdering word)
    (rest : List Char) :
    wordKind dialect word rest = .literal .identifier ↔ isFollowedByBy rest = false := by
  have isKeyword : ∃ keyword, dialect.keyword? (Text.upperAscii word) = some keyword := by
    rcases isOrdering with isOrder | isGroup
    · rw [isOrder]
      exact ⟨.ORDER, by cases dialect <;> decide⟩
    · rw [isGroup]
      exact ⟨.GROUP, by cases dialect <;> decide⟩
  obtain ⟨keyword, isKnown⟩ := isKeyword
  have isOne : (Text.upperAscii word == "ORDER" || Text.upperAscii word == "GROUP") = true := by
    simpa [IsOrdering] using isOrdering
  cases followed : isFollowedByBy rest with
  | true => simp [wordKind, followed, isKnown]
  | false => simp [wordKind, followed, isOne]

/-- The class of a word depends on what follows for two words only, and there on the word `BY` ahead. -/
theorem wordKind_eq
    (same : IsOrdering word → isFollowedByBy before = isFollowedByBy after) :
    wordKind dialect word before = wordKind dialect word after := by
  unfold wordKind
  by_cases isOrdering : IsOrdering word
  · rw [same isOrdering]
  · have isOther : (Text.upperAscii word == "ORDER" || Text.upperAscii word == "GROUP") = false := by
      simpa [IsOrdering] using isOrdering
    simp only [isOther, Bool.false_and]

theorem wordKind_ne_chars (rest : List Char) :
    wordKind dialect word rest ≠ .literal .chars := by
  unfold wordKind
  dsimp only
  split
  next => nofun
  next =>
    split
    next => nofun
    next => nofun

theorem literalsOf_of_ne
    {kind : TokenKind}
    (noString : kind ≠ .literal .chars)
    (source : List Char) :
    literalsOf dialect kind source = source :=
  if_neg noString

/-- A name that is written like one of the two words has no quotes. -/
theorem tokenClass_of_ordering
    {afterName : Bool}
    {first : Char}
    {front rest : List Char}
    (isName : (shape dialect afterName first rest).kind = .literal .identifier)
    (isOrdering : IsOrdering (String.ofList (first :: front))) :
    tokenClass dialect afterName first rest = .word := by
  have rules : tokenClass dialect afterName first rest ∈
      [TokenClass.word, .quotedName, .national, .string] :=
    tokenClass_of_name (by rw [isName]; rfl)
  have noQuote : first ≠ '`' := by
    rintro rfl
    have begins : ∀ word : String, (Text.upperAscii word).toList =
        word.toList.flatMap Text.upperAsciiForm := fun _ => String.toList_ofList
    rcases isOrdering with isOrder | isGroup
    · have same := congrArg String.toList isOrder
      rw [begins, String.toList_ofList] at same
      exact absurd (congrArg List.head? same) (by simp [Text.upperAsciiForm])
    · have same := congrArg String.toList isGroup
      rw [begins, String.toList_ofList] at same
      exact absurd (congrArg List.head? same) (by simp [Text.upperAsciiForm])
  rw [shape_eq_shapeBy] at isName
  have strings := stringShape_kind dialect
  simp only [List.mem_cons, List.not_mem_nil, or_false] at rules
  rcases rules with isClass | isClass | isClass | isClass
  · exact isClass
  · exact absurd (first_of_quotedName isClass) noQuote
  all_goals
    rw [isClass] at isName
    grind [shapeBy]

end Kinds

namespace IsCutOff

variable {dialect : Dialect} {afterName later : Bool} {first : Char} {front before after : List Char}

theorem width_eq (isCutOff : IsCutOff dialect afterName later first front before after) :
    (shape dialect later first (front ++ after)).width = front.length := by
  by_cases isClass : tokenClass dialect afterName first (front ++ before) = .word
  · rw [isCutOff.shape_of_word isClass]
  · rw [isCutOff.shape_eq isClass, isCutOff.isWhole]

theorem kind_of_word
    (isCutOff : IsCutOff dialect afterName later first front before after)
    (isClass : tokenClass dialect afterName first (front ++ before) = .word) :
    (shape dialect afterName first (front ++ before)).kind =
        wordKind dialect (String.ofList (first :: front)) before ∧
      (shape dialect later first (front ++ after)).kind =
        wordKind dialect (String.ofList (first :: front)) after := by
  have isWord := isWord_of_class isClass
  rw [isCutOff.isWhole, List.take_left] at isWord
  constructor
  · rw [shape_eq_shapeBy, isClass, shapeBy,
      isWord.wordShape_eq (endsWord_of_class isClass isCutOff.isWhole)]
  · rw [isCutOff.shape_of_word isClass]

theorem kind_eq
    (isCutOff : IsCutOff dialect afterName later first front before after)
    (same : isFollowedByBy before = isFollowedByBy after) :
    (shape dialect later first (front ++ after)).kind =
      (shape dialect afterName first (front ++ before)).kind := by
  by_cases isClass : tokenClass dialect afterName first (front ++ before) = .word
  · obtain ⟨isKind, isKindBehind⟩ := isCutOff.kind_of_word isClass
    rw [isKind, isKindBehind, wordKind_eq fun _ => same]
  · rw [isCutOff.shape_eq isClass]

/-- The class of a token is kept in front of a break, but for a name that becomes a keyword there. -/
theorem kind_eq_iff
    (isCutOff : IsCutOff dialect afterName later first front before after)
    (stillFollowed : isFollowedByBy before = true → isFollowedByBy after = true) :
    (shape dialect later first (front ++ after)).kind =
        (shape dialect afterName first (front ++ before)).kind ↔
      ¬ ((shape dialect afterName first (front ++ before)).kind = .literal .identifier ∧
        IsOrdering (String.ofList (first :: front)) ∧ isFollowedByBy after = true) := by
  by_cases isClass : tokenClass dialect afterName first (front ++ before) = .word
  · obtain ⟨isKind, isKindBehind⟩ := isCutOff.kind_of_word isClass
    rw [isKind, isKindBehind]
    by_cases isOrdering : IsOrdering (String.ofList (first :: front))
    · rw [wordKind_of_ordering isOrdering]
      constructor
      · rintro same ⟨isName, -, isFollowed⟩
        rw [(wordKind_of_ordering isOrdering before).mpr isName,
          wordKind_of_ordering isOrdering, isFollowed] at same
        cases same
      · intro isOther
        apply wordKind_eq
        intro _
        cases followed : isFollowedByBy before with
        | true => exact stillFollowed followed
        | false =>
            rw [← Bool.not_eq_true]
            exact fun isFollowed => isOther ⟨followed, isOrdering, isFollowed⟩
    · exact iff_of_true (wordKind_eq fun isOne => absurd isOne isOrdering)
        fun isOne => isOrdering isOne.2.1
  · rw [isCutOff.shape_eq isClass]
    exact iff_of_true rfl fun isOne => isClass (tokenClass_of_ordering isOne.1 isOne.2.1)

theorem literals_eq
    (isCutOff : IsCutOff dialect afterName later first front before after) :
    literalsOf dialect (shape dialect later first (front ++ after)).kind (first :: front) =
      literalsOf dialect (shape dialect afterName first (front ++ before)).kind (first :: front) := by
  by_cases isClass : tokenClass dialect afterName first (front ++ before) = .word
  · obtain ⟨isKind, isKindBehind⟩ := isCutOff.kind_of_word isClass
    rw [isKind, isKindBehind, literalsOf_of_ne (wordKind_ne_chars _) _,
      literalsOf_of_ne (wordKind_ne_chars _) _]
  · rw [isCutOff.shape_eq isClass]

end IsCutOff

/-- The class of a token in front of what stands behind it. -/
def Piece.kind
    (dialect : Dialect)
    (afterName : Bool)
    (behind : List Char)
    (piece : Piece) : TokenKind :=
  (shape dialect (afterName && piece.gap.isEmpty) piece.first (piece.rest ++ behind)).kind

/-- The word that the characters of a token are, as a token of some class. -/
def Piece.wordAs
    (dialect : Dialect)
    (kind : TokenKind)
    (piece : Piece) : Word :=
  ⟨kind, String.ofList piece.source, String.ofList (literalsOf dialect kind piece.source)⟩

/-- The words that a text is divided into. -/
def wordsOf
    (dialect : Dialect)
    (tail : List Char) : Bool → List Piece → List Word
  | _, [] => []
  | afterName, piece :: pieces =>
      piece.wordAs dialect (piece.kind dialect afterName (textOf tail pieces)) ::
        wordsOf dialect tail piece.endsName pieces

/-- The words of a text. -/
def words
    (dialect : Dialect)
    (text : String) : List Word :=
  (Cursor.ofText dialect text).tokens.map Token.word

section Words

variable {dialect : Dialect} {afterName : Bool} {tail : List Char} {pieces : List Piece}

theorem Divides.map_word
    (divides : Divides dialect tail afterName pieces)
    (position : Nat) :
    ∃ finish, (tokensFrom dialect afterName position (textOf tail pieces)).map Token.word =
      wordsOf dialect tail afterName pieces ++ [(Token.finish finish).word] := by
  induction divides generalizing position with
  | nil afterName isGap =>
      have divided := isGap.splitGap_eq
      rw [List.append_nil] at divided
      rw [textOf, tokensFrom]
      split
      next => exact ⟨_, rfl⟩
      next following => simp [divided] at following
  | @cons afterName piece pieces stands others ih =>
      obtain ⟨finish, areWords⟩ :=
        ih (position + Text.byteLength piece.gap + Text.byteLength piece.source)
      refine ⟨finish, ?_⟩
      rw [textOf, stands.tokensFrom_eq, List.map_cons, areWords]
      rfl

/-- The words of a text are those that it is divided into. -/
theorem Divides.words_eq
    {text : String}
    (divides : Divides dialect tail false pieces)
    (isText : textOf tail pieces = text.toList) :
    words dialect text = wordsOf dialect tail false pieces := by
  obtain ⟨finish, areWords⟩ := divides.map_word 0
  obtain ⟨last, areTokens⟩ := exists_tokens_eq dialect text
  have areAll : (tokens dialect text).map Token.word =
      wordsOf dialect tail false pieces ++ [(Token.finish finish).word] := by
    rw [tokens, ← isText, areWords]
  rw [areTokens, List.map_append] at areAll
  exact (List.append_inj' areAll rfl).1

end Words

end Lexer

/-- Whether a word is `ORDER` or `GROUP`, read as a name although `BY` is the next word. -/
structure Word.HidesBy (word next : Word) : Prop where
  isName : word.kind = .literal .identifier
  isOrdering : Lexer.IsOrdering word.source
  isBy : Text.sameName next.source "BY" = true

/-- Whether a word is the sign of a number that has no digits. -/
structure Word.IsBareMinus (word : Word) : Prop where
  isNumber : word.kind = .literal .int
  isMinus : word.source = "-"

instance (word : Word) : Decidable word.IsBareMinus :=
  decidable_of_iff (word.kind = .literal .int ∧ word.source = "-")
    ⟨fun ⟨isNumber, isMinus⟩ => ⟨isNumber, isMinus⟩, fun isBare => ⟨isBare.isNumber, isBare.isMinus⟩⟩

instance (word next : Word) : Decidable (word.HidesBy next) :=
  decidable_of_iff (word.kind = .literal .identifier ∧
      (Text.upperAscii word.source = "ORDER" ∨ Text.upperAscii word.source = "GROUP") ∧
      Text.sameName next.source "BY" = true)
    ⟨fun ⟨isName, isOrdering, isBy⟩ => ⟨isName, isOrdering, isBy⟩,
      fun hides => ⟨hides.isName, hides.isOrdering, hides.isBy⟩⟩

namespace Lexer

/-- Whether some words stay what they are when nothing but single blanks stands between them. -/
structure IsSteady (words : List Word) : Prop where
  noMinus : ∀ word ∈ words, ¬ word.IsBareMinus
  noOrder : words.IsChain fun word next => ¬ word.HidesBy next

instance (words : List Word) : Decidable (IsSteady words) :=
  decidable_of_iff ((∀ word ∈ words, ¬ word.IsBareMinus) ∧
      words.IsChain fun word next => ¬ word.HidesBy next)
    ⟨fun ⟨noMinus, noOrder⟩ => ⟨noMinus, noOrder⟩,
      fun isSteady => ⟨isSteady.noMinus, isSteady.noOrder⟩⟩

/-- Whether words have the characters of others, and their classes just in some case. -/
structure Rereads
    (words others : List Word)
    (same : Prop) : Prop where
  sources : others.map Word.source = words.map Word.source
  literals : others.map Word.literals = words.map Word.literals
  kinds : others.map Word.kind = words.map Word.kind ↔ same

theorem Rereads.nil : Rereads [] [] True :=
  ⟨rfl, rfl, iff_of_true rfl trivial⟩

theorem Rereads.refl (words : List Word) : Rereads words words True :=
  ⟨rfl, rfl, iff_of_true rfl trivial⟩

theorem Rereads.congr
    {words others : List Word}
    {same other : Prop}
    (rereads : Rereads words others same)
    (equal : same ↔ other) :
    Rereads words others other :=
  ⟨rereads.sources, rereads.literals, rereads.kinds.trans equal⟩

/-- Words that keep their characters and their classes are the same. -/
theorem Rereads.eq_iff
    {words others : List Word}
    {same : Prop}
    (rereads : Rereads words others same) :
    others = words ↔ same := by
  rw [← rereads.kinds]
  constructor
  · rintro rfl
    rfl
  · obtain ⟨sources, literals, -⟩ := rereads
    intro kinds
    induction words generalizing others with
    | nil => exact List.map_eq_nil_iff.mp kinds
    | cons word words ih =>
        obtain ⟨other, others, rfl, kind, kinds⟩ := List.map_eq_cons_iff.mp kinds
        obtain ⟨source, sources⟩ := List.cons.inj sources
        obtain ⟨literal, literals⟩ := List.cons.inj literals
        have isWord : other = word := by
          obtain ⟨_, _, _⟩ := other
          obtain ⟨_, _, _⟩ := word
          rw [Word.mk.injEq]
          exact ⟨kind, source, literal⟩
        rw [isWord, ih sources literals kinds]

/-- A token in front of some words, whose gap may become another one. -/
theorem Rereads.cons_wordAs
    {dialect : Dialect}
    {words others : List Word}
    {kind kindBehind : TokenKind}
    {same sameOthers : Prop}
    (rereads : Rereads words others sameOthers)
    (piece : Piece)
    (gap : List Char)
    (literals : literalsOf dialect kindBehind piece.source = literalsOf dialect kind piece.source)
    (isSame : kindBehind = kind ↔ same) :
    Rereads (piece.wordAs dialect kind :: words)
      (Piece.wordAs dialect kindBehind { piece with gap := gap } :: others) (same ∧ sameOthers) := by
  constructor
  · rw [List.map_cons, List.map_cons, rereads.sources]
    rfl
  · rw [List.map_cons, List.map_cons, rereads.literals]
    exact congrArg (String.ofList · :: _) literals
  · rw [List.map_cons, List.map_cons, List.cons.injEq, rereads.kinds]
    exact and_congr_left' isSame

theorem isSteady_cons
    (word : Word)
    (words : List Word) :
    IsSteady (word :: words) ↔
      (¬ word.IsBareMinus ∧ ∀ next ∈ words.head?, ¬ word.HidesBy next) ∧ IsSteady words := by
  constructor
  · rintro ⟨noMinus, noOrder⟩
    rw [List.isChain_cons] at noOrder
    exact ⟨⟨noMinus word List.mem_cons_self, noOrder.1⟩,
      ⟨fun other isLater => noMinus other (List.mem_cons_of_mem _ isLater), noOrder.2⟩⟩
  · rintro ⟨⟨notMinus, notHidden⟩, ⟨noMinus, noOrder⟩⟩
    exact ⟨List.forall_mem_cons.mpr ⟨notMinus, noMinus⟩, List.isChain_cons.mpr ⟨notHidden, noOrder⟩⟩

section Step

variable {dialect : Dialect} {afterName later : Bool} {before after gap : List Char} {piece : Piece}

theorem NoGap.of_cut
    {first : Char}
    {front : List Char}
    (noGap : NoGap dialect first (front ++ before))
    (cut : Cut before after) :
    NoGap dialect first (front ++ after) := by
  have cutFront := cut.append front
  exact ⟨noGap.notBlank, noGap.notHash,
    fun isSlash isStar => noGap.noBlock isSlash (cutFront.head?_eq (by decide) isStar),
    fun isSlash isSecond => noGap.noLine isSlash (cutFront.head?_eq (by decide) isSecond),
    fun isDash isSecond => noGap.noDashes isDash (cutFront.head?_eq (by decide) isSecond)⟩

/-- A token stands in front of a break, behind any gap, when it has its characters there. -/
theorem Piece.Stands.of_cut
    (stands : piece.Stands dialect afterName before)
    (cut : Cut before after)
    (isGap : ∀ text, IsGap dialect .blank [] text → IsGap dialect .blank gap text)
    (isWhole : (piece.rest ++ after).take
      (shape dialect (later && gap.isEmpty) piece.first (piece.rest ++ after)).width = piece.rest) :
    Piece.Stands dialect later after { piece with gap := gap } :=
  ⟨isGap _ (.token (stands.isGap.token_of_cons.of_cut cut)), isWhole⟩

/-- The last token of a text is the same when nothing stands directly in front of it. -/
theorem shape_of_last
    {first : Char}
    {rest : List Char}
    (isWhole : rest.take (shape dialect afterName first rest).width = rest) :
    shape dialect false first rest = shape dialect afterName first rest := by
  cases afterName with
  | false => rfl
  | true =>
      rw [shape_eq_shapeBy, shape_eq_shapeBy]
      congr 1
      cases rest with
      | nil =>
          rw [tokenClass, tokenClass, isNumberStart_break (.inl rfl), isNumberStart_break (.inl rfl)]
      | cons second rest =>
          apply tokenClass_of_wide
          apply Nat.pos_of_ne_zero
          intro isZero
          rw [isZero] at isWhole
          cases isWhole

/-- The sign of a number without digits is a number of one character. -/
theorem kind_of_minus
    (isSingle : (shape dialect false '-' before).width = 0)
    (isPoint : before.head? = some '.') :
    (shape dialect false '-' before).kind = .literal .int := by
  have isNumber : isNumberStart false '-' before = true := by
    obtain ⟨rest, rfl⟩ := List.head?_eq_some_iff.mp isPoint
    rfl
  have isClass : tokenClass dialect false '-' before = .number := by
    rw [tokenClass_of_sign (.inr rfl), isNumber, if_pos rfl]
  have positive : 0 < wholeWidth '-' before := by
    rw [wholeWidth, if_pos rfl]
    exact Nat.add_pos_left Nat.one_pos _
  rw [shape_eq_shapeBy, isClass, shapeBy, numberShape_eq] at isSingle ⊢
  dsimp only at isSingle ⊢
  rw [if_pos (by omega)]

/-- Whether a token is the sign of a number without digits. -/
def Piece.IsBareMinus
    (kind : TokenKind)
    (piece : Piece) : Prop :=
  kind = .literal .int ∧ piece.first = '-' ∧ piece.rest = []

/-- A token is the same in front of a break, unless it is the sign of a number without digits. -/
theorem Piece.Stands.cutOff_respaced
    (stands : piece.Stands dialect afterName before)
    (isThere : before ≠ [])
    (isKnown : piece.kind dialect afterName before ≠ .unknown)
    (notBare : ¬ piece.IsBareMinus (piece.kind dialect afterName before))
    (isBreak : IsBreak after)
    (isApart : (later && gap.isEmpty) = false) :
    IsCutOff dialect (afterName && piece.gap.isEmpty) (later && gap.isEmpty) piece.first piece.rest
      before after := by
  have isWhole := stands.width_eq isThere
  refine ⟨.here isBreak, isWhole, isKnown, .inr ⟨isApart, isBreak⟩,
    fun _ => suffixWidth_break isBreak, ?_⟩
  intro _ isSingle isMinus isPoint
  rw [← Bool.not_eq_false]
  intro notAfter
  rw [notAfter, isSingle, isMinus] at isWhole
  refine notBare ⟨?_, isMinus, isSingle⟩
  rw [Piece.kind, notAfter, isMinus, isSingle]
  exact kind_of_minus isWhole isPoint

/-- **A token in front of a break.**  It stands there with the characters that it has, and its class is
another one just when it is the sign of a number without digits, or a name in front of `BY`. -/
theorem Piece.Stands.respaced
    (stands : piece.Stands dialect afterName before)
    (isKnown : piece.kind dialect afterName before ≠ .unknown)
    (isBreak : IsBreak after)
    (isLast : before = [] → after = [])
    (stillFollowed : isFollowedByBy before = true → isFollowedByBy after = true)
    (isGap : ∀ text, IsGap dialect .blank [] text → IsGap dialect .blank gap text)
    (isApart : (later && gap.isEmpty) = false) :
    let kind := piece.kind dialect afterName before
    let kindBehind := Piece.kind dialect later after { piece with gap := gap }
    Piece.Stands dialect later after { piece with gap := gap } ∧
      literalsOf dialect kindBehind piece.source = literalsOf dialect kind piece.source ∧
      (kindBehind = kind ↔ ¬ piece.IsBareMinus kind ∧
        ¬ (kind = .literal .identifier ∧ IsOrdering (String.ofList piece.source) ∧
          isFollowedByBy after = true)) := by
  intro kind kindBehind
  have cut : Cut before after := .here isBreak
  have isKindBehind : kindBehind =
      (shape dialect (later && gap.isEmpty) piece.first (piece.rest ++ after)).kind :=
    rfl
  by_cases isBare : piece.IsBareMinus kind
  · obtain ⟨isNumber, isMinus, isSingle⟩ := isBare
    have shaped : shape dialect (later && gap.isEmpty) '-' after = ⟨.symbol .sub, 0⟩ :=
      shape_of_minus isBreak
    have isSymbol : kindBehind = .symbol .sub := by
      rw [isKindBehind, isMinus, isSingle, List.nil_append, shaped]
    refine ⟨stands.of_cut cut isGap ?_, ?_, iff_of_false ?_ ?_⟩
    · rw [isMinus, isSingle, List.nil_append, shaped, List.take_zero]
    · rw [isSymbol, isNumber]
      rfl
    · rw [isSymbol, isNumber]
      nofun
    · exact fun isOther => isOther.1 ⟨isNumber, isMinus, isSingle⟩
  by_cases isThere : before = []
  · obtain rfl := isLast isThere
    subst isThere
    have isWhole := stands.isWhole
    rw [List.append_nil] at isWhole isKindBehind
    have same : kindBehind = kind := by
      rw [isKindBehind, isApart, shape_of_last isWhole]
      dsimp only [kind, Piece.kind]
      rw [List.append_nil]
    refine ⟨stands.of_cut cut isGap ?_, by rw [same], iff_of_true same ⟨isBare, ?_⟩⟩
    · rw [List.append_nil, isApart, shape_of_last isWhole, isWhole]
    · exact fun isOne => absurd isOne.2.2 (by decide)
  · have isCutOff := stands.cutOff_respaced isThere isKnown isBare isBreak isApart
    refine ⟨stands.of_cut cut isGap ?_, ?_, ?_⟩
    · rw [isCutOff.width_eq, List.take_left]
    · exact isCutOff.literals_eq
    · rw [and_iff_right isBare]
      exact isCutOff.kind_eq_iff stillFollowed

end Step

/-- The tokens with a single blank in front of each but the first one. -/
def respace (gap : List Char) : List Piece → List Piece
  | [] => []
  | piece :: pieces => { piece with gap := gap } :: respace [' '] pieces

section Respacing

variable {dialect : Dialect} {afterName later : Bool} {tail gap : List Char} {pieces : List Piece}

theorem spaced_wordsOf
    (dialect : Dialect)
    (tail : List Char)
    (afterName : Bool)
    (pieces : List Piece) :
    spaced (wordsOf dialect tail afterName pieces) = textOf [] (respace [' '] pieces) := by
  induction pieces generalizing afterName with
  | nil => rfl
  | cons piece pieces ih =>
      rw [wordsOf, spaced, List.flatMap_cons, respace, textOf, ← ih piece.endsName]
      simp [Piece.wordAs, spaced, Piece.source]

/-- The text of words is that of the tokens with single blanks between them. -/
theorem toList_text_wordsOf (pieces : List Piece) :
    (Word.text (wordsOf dialect tail afterName pieces)).toList = textOf [] (respace [] pieces) := by
  cases pieces with
  | nil => rfl
  | cons piece pieces =>
      rw [wordsOf, toList_text, spaced_wordsOf, respace, textOf]
      simp [Piece.wordAs, Piece.source]

theorem isBreak_respace (pieces : List Piece) :
    IsBreak (textOf [] (respace [' '] pieces)) := by
  cases pieces with
  | nil => exact .inl rfl
  | cons => exact .inr ⟨_, rfl⟩

theorem map_toLower_iff (characters : List Char) :
    characters.map Char.toLower = ['b', 'y'] ↔
      Text.sameName (String.ofList characters) "BY" = true := by
  rw [Text.sameName_iff, Text.foldAscii, String.toList_ofList]
  rfl

theorem isBareMinus_wordAs
    (kind : TokenKind)
    (piece : Piece) :
    (piece.wordAs dialect kind).IsBareMinus ↔ piece.IsBareMinus kind := by
  have same : String.ofList piece.source = "-" ↔ piece.first = '-' ∧ piece.rest = [] := by
    rw [← String.toList_inj, String.toList_ofList, Piece.source]
    exact List.cons.injEq _ _ _ _ ▸ Iff.rfl
  constructor
  · exact fun isBare => ⟨isBare.isNumber, same.mp isBare.isMinus⟩
  · exact fun isBare => ⟨isBare.1, same.mpr isBare.2⟩

theorem areBlank_single : ∀ character ∈ [' '], Text.isAsciiBlank character = true := by
  intro character isThere
  rw [List.mem_singleton.mp isThere]
  rfl

theorem exists_head_respace :
    (∃ next ∈ (respace [' '] pieces).head?,
      (∀ character ∈ next.gap, Text.isAsciiBlank character = true) ∧
        next.source.map Char.toLower = ['b', 'y']) ↔
      ∃ next ∈ (wordsOf dialect tail afterName pieces).head?,
        Text.sameName next.source "BY" = true := by
  cases pieces with
  | nil => simp [respace, wordsOf]
  | cons next pieces =>
      constructor
      · rintro ⟨other, isHead, -, isBy⟩
        cases isHead
        exact ⟨_, rfl, (map_toLower_iff _).mp isBy⟩
      · rintro ⟨other, isHead, isBy⟩
        cases isHead
        exact ⟨_, rfl, areBlank_single, (map_toLower_iff _).mpr isBy⟩

/-- The word `BY` that is ahead stays ahead when single blanks stand between the tokens. -/
theorem Divides.followed_respace
    (divides : Divides dialect tail afterName pieces)
    (respaced : Divides dialect [] later (respace [' '] pieces))
    (isFollowed : isFollowedByBy (textOf tail pieces) = true) :
    isFollowedByBy (textOf [] (respace [' '] pieces)) = true := by
  rw [divides.isFollowedByBy_iff] at isFollowed
  rw [respaced.isFollowedByBy_iff]
  obtain ⟨next, isHead, -, isNext⟩ := isFollowed
  cases pieces with
  | nil => cases isHead
  | cons =>
      cases isHead
      exact ⟨_, rfl, areBlank_single, isNext⟩

theorem textOf_respace_eq_nil (isEmpty : textOf tail pieces = []) :
    textOf [] (respace gap pieces) = [] := by
  cases pieces with
  | nil => rfl
  | cons => exact absurd isEmpty (textOf_ne_nil tail (List.cons_ne_nil _ _))

/-- A token hides `BY` from no word when it is no name that is `ORDER` or `GROUP`, or when `BY` is not ahead. -/
theorem not_hidesBy_wordAs_iff
    (kind : TokenKind)
    (piece : Piece)
    (words : List Word) :
    (∀ next ∈ words.head?, ¬ (piece.wordAs dialect kind).HidesBy next) ↔
      ¬ (kind = .literal .identifier ∧ IsOrdering (String.ofList piece.source) ∧
        ∃ next ∈ words.head?, Text.sameName next.source "BY" = true) := by
  constructor
  · rintro isOther ⟨isName, isOrdering, next, isHead, isNext⟩
    exact isOther next isHead ⟨isName, isOrdering, isNext⟩
  · exact fun isOther next isHead hides =>
      isOther ⟨hides.isName, hides.isOrdering, next, isHead, hides.isBy⟩

/-- **The tokens of a text with single blanks between them.** -/
theorem Divides.respaced
    (divides : Divides dialect tail afterName pieces)
    (areKnown : ∀ word ∈ wordsOf dialect tail afterName pieces, word.kind ≠ .unknown)
    (isGap : ∀ text, IsGap dialect .blank [] text → IsGap dialect .blank gap text)
    (isApart : (later && gap.isEmpty) = false) :
    Divides dialect [] later (respace gap pieces) ∧
      Rereads (wordsOf dialect tail afterName pieces) (wordsOf dialect [] later (respace gap pieces))
        (IsSteady (wordsOf dialect tail afterName pieces)) := by
  induction divides generalizing gap later with
  | nil afterName isGap =>
      exact ⟨.nil _ (.finish _), Rereads.nil.congr (iff_of_true trivial ⟨nofun, .nil⟩)⟩
  | @cons afterName piece pieces stands others ih =>
      rw [wordsOf] at areKnown
      obtain ⟨dividesOthers, rereads⟩ := @ih piece.endsName [' ']
        (fun word isLater => areKnown word (List.mem_cons_of_mem _ isLater))
        (fun text isToken => .blank rfl isToken) (Bool.and_false _)
      have isBy : isFollowedByBy (textOf [] (respace [' '] pieces)) = true ↔
          ∃ next ∈ (wordsOf dialect tail piece.endsName pieces).head?,
            Text.sameName next.source "BY" = true := by
        rw [dividesOthers.isFollowedByBy_iff, exists_head_respace]
      obtain ⟨standsBehind, literals, kind⟩ := stands.respaced (areKnown _ List.mem_cons_self)
        (isBreak_respace pieces) textOf_respace_eq_nil (others.followed_respace dividesOthers)
        isGap isApart
      refine ⟨.cons standsBehind dividesOthers, ?_⟩
      rw [wordsOf, respace, wordsOf]
      refine (rereads.cons_wordAs piece gap literals kind).congr ?_
      rw [isSteady_cons, isBareMinus_wordAs, isBy, not_hidesBy_wordAs_iff]

end Respacing

end Lexer

end ShardedSql
