import ShardedSql.Proofs.Token.Spelling
import ShardedSql.Proofs.Token.Words

/-!
# The tokens of an edited text

Names may be replaced in a text, and further members be added in front of a parenthesis: every other token
stays as it is.
-/

namespace ShardedSql

namespace Lexer

/-- Whether one word may be written for another one. -/
structure Rewords
    (dialect : Dialect)
    (first : Char)
    (rest : List Char)
    (other : Char)
    (later : List Char) : Prop where
  isWord : IsWord first rest
  isOther : IsWord other later
  noString : dialect.hasNationalStrings = true → other = 'N' → later ≠ []

/-- Whether characters are a token of their own between a blank and a parenthesis. -/
def IsMember
    (dialect : Dialect)
    (first : Char)
    (rest : List Char) : Prop :=
  ∀ afterName behind, Piece.Stands dialect afterName (')' :: behind) ⟨[' '], first, rest⟩

/-- Whether a token is a sign that a word may stand directly behind. -/
def Piece.isSign (piece : Piece) : Bool :=
  piece.rest.isEmpty && (piece.first == '(' || piece.first == ',' || piece.first == '.')

/-- Whether tokens come from others by writing names anew, and by adding members in front of parentheses.
A name without quotes stands behind a gap or behind a sign. -/
inductive Edits (dialect : Dialect) : Bool → List Piece → List Piece → Prop where
  | nil (behindSign : Bool) : Edits dialect behindSign [] []
  | keep
      {behindSign : Bool}
      {piece : Piece}
      {pieces edited : List Piece}
      (others : Edits dialect piece.isSign pieces edited) :
      Edits dialect behindSign (piece :: pieces) (piece :: edited)
  | word
      {behindSign : Bool}
      {gap rest later : List Char}
      {first other : Char}
      {pieces edited : List Piece}
      (isApart : gap ≠ [] ∨ behindSign = true)
      (rewords : Rewords dialect first rest other later)
      (others : Edits dialect false pieces edited) :
      Edits dialect behindSign (⟨gap, first, rest⟩ :: pieces) (⟨gap, other, later⟩ :: edited)
  | quoted
      {behindSign : Bool}
      {gap inner name : List Char}
      {mark : Char}
      {pieces edited : List Piece}
      (isQuote : mark = '`' ∨ mark = '"')
      (isName : ∀ character ∈ name, isNameCharacter character = true)
      (others : Edits dialect false pieces edited) :
      Edits dialect behindSign (⟨gap, mark, inner ++ [mark]⟩ :: pieces)
        (⟨gap, mark, name ++ [mark]⟩ :: edited)
  | member
      {behindSign : Bool}
      {gap rest : List Char}
      {first : Char}
      {pieces edited : List Piece}
      (isMember : IsMember dialect first rest)
      (others : Edits dialect false pieces edited) :
      Edits dialect behindSign (⟨gap, ')', []⟩ :: pieces)
        (⟨gap, ',', []⟩ :: ⟨[' '], first, rest⟩ :: ⟨[], ')', []⟩ :: edited)

namespace Edits

variable {dialect : Dialect} {pieces edited : List Piece} {tail : List Char}
variable {behindSign afterName : Bool}

theorem sign_cases
    {piece : Piece}
    (isSign : piece.isSign = true) :
    piece.rest = [] ∧ (piece.first = '(' ∨ piece.first = ',' ∨ piece.first = '.') := by
  simpa [Piece.isSign, or_assoc] using isSign

/-- A token in front of an edited text looks as it does in front of the text, or it is a sign in front of a
word. -/
theorem alike_or_words
    (edits : Edits dialect behindSign pieces edited)
    (divides : Divides dialect tail afterName pieces) :
    Alike (textOf tail pieces) (textOf tail edited) ∨
      behindSign = true ∧ StartsWord (textOf tail pieces) ∧ StartsWord (textOf tail edited) := by
  induction edits generalizing afterName with
  | nil => exact .inl (.same tail)
  | @keep behindSign piece pieces edited _ ih =>
      obtain - | ⟨stands, others⟩ := divides
      rcases ih others with alike | ⟨isSign, startsFirst, startsSecond⟩
      · exact .inl ((alike.append _).append _)
      · left
        obtain ⟨isSingle, isOne⟩ := sign_cases isSign
        obtain ⟨gap, sign, rest⟩ := piece
        obtain rfl : rest = [] := isSingle
        have parts : Parts 0 (sign :: textOf tail pieces) (sign :: textOf tail edited) := by
          rcases isOne with rfl | rfl | rfl
          · exact .stop rfl rfl
          · exact .stop rfl rfl
          · exact .point startsFirst startsSecond
        exact .parted parts (Nat.zero_le _)
  | @word behindSign gap rest later first other pieces edited isApart rewords _ _ =>
      obtain - | ⟨stands, -⟩ := divides
      by_cases isGap : gap = []
      · right
        subst isGap
        exact ⟨isApart.resolve_left fun noGap => noGap rfl,
          ⟨first, _, rfl, rewords.isWord.starts, rewords.isWord.isBare⟩,
          ⟨other, _, rfl, rewords.isOther.starts, rewords.isOther.isBare⟩⟩
      · left
        rcases stands.isGap.exists_blank_or_isLong (List.cons_ne_nil _ _) with
          ⟨character, isThere, isBlank⟩ | isLong
        · obtain ⟨front, back, rfl⟩ := List.append_of_mem isThere
          have isEnd : isStop character = true := by simp [isStop, isBlank]
          have parts : Alike
              (character :: (back ++ (Piece.source ⟨[], first, rest⟩ ++ textOf tail pieces)))
              (character :: (back ++ (Piece.source ⟨[], other, later⟩ ++ textOf tail edited))) :=
            @Alike.parted 0 [] _ _ (.stop isEnd isEnd) (Nat.le_refl _)
          rw [textOf, textOf, List.append_assoc, List.append_assoc]
          exact parts.append front
        · exact .parted .far (isLong isGap)
  | @quoted behindSign gap inner name mark pieces edited isQuote isName _ _ =>
      have parts : Parts 0 (mark :: (inner ++ [mark] ++ textOf tail pieces))
          (mark :: (name ++ [mark] ++ textOf tail edited)) :=
        .quote isQuote
      exact .inl (.parted parts (Nat.zero_le _))
  | @member behindSign gap rest first pieces edited isMember _ _ =>
      have parts : Parts 0 (')' :: textOf tail pieces)
          (',' :: textOf tail (⟨[' '], first, rest⟩ :: ⟨[], ')', []⟩ :: edited)) :=
        .stop rfl rfl
      exact .inl (.parted parts (Nat.zero_le _))

theorem alike
    (edits : Edits dialect false pieces edited)
    (divides : Divides dialect tail afterName pieces) :
    Alike (textOf tail pieces) (textOf tail edited) :=
  (edits.alike_or_words divides).resolve_right nofun

/-- A sign is divided from what stands behind it. -/
theorem stands_of_sign
    {gap behind : List Char}
    {sign : Char}
    (isGap : ∀ after, IsGap dialect .blank [] after → IsGap dialect .blank gap after)
    (isSign : sign = '(' ∨ sign = ')' ∨ sign = ',' ∨ sign = '.' ∨ sign = '?')
    (isSingle : ∀ afterName, (shape dialect afterName sign behind).width = 0) :
    Piece.Stands dialect afterName behind ⟨gap, sign, []⟩ := by
  constructor
  · apply isGap
    apply IsGap.token
    rcases isSign with rfl | rfl | rfl | rfl | rfl
    all_goals exact ⟨rfl, nofun, nofun, nofun, nofun⟩
  · rw [List.nil_append, isSingle]
    rfl

theorem endsName_of_mark
    {gap inner : List Char}
    {mark : Char}
    (isQuote : mark = '`' ∨ mark = '"') :
    Piece.endsName ⟨gap, mark, inner ++ [mark]⟩ = false := by
  rw [Piece.endsName, Piece.source, ← List.cons_append, List.getLast?_concat]
  rcases isQuote with rfl | rfl
  · rfl
  · rfl

/-- **The tokens of an edited text.**  A text that is edited in names and in front of parentheses is divided
into the edited tokens. -/
theorem divides
    (edits : Edits dialect behindSign pieces edited)
    (divides : Divides dialect tail afterName pieces) :
    Divides dialect tail afterName edited := by
  have ofGap : ∀ {gap behind : List Char}, IsGap dialect .blank gap behind → behind ≠ [] →
      ∀ after, IsGap dialect .blank [] after → IsGap dialect .blank gap after :=
    fun isGap isThere _ isToken => isGap.of_token isThere isToken
  induction edits generalizing afterName with
  | nil => exact divides
  | @keep behindSign piece pieces edited edits ih =>
      obtain - | ⟨stands, others⟩ := divides
      refine .cons ?_ (ih others)
      rcases edits.alike_or_words others with alike | ⟨isSign, -, ⟨first, rest, isText, starts, -⟩⟩
      · exact stands.of_alike alike
      · obtain ⟨isSingle, isOne⟩ := sign_cases isSign
        obtain ⟨gap, sign, rest⟩ := piece
        obtain rfl : rest = [] := isSingle
        apply stands_of_sign (ofGap stands.isGap (List.cons_ne_nil _ _)) (by tauto)
        intro afterName
        rw [isText]
        rcases isOne with rfl | rfl | rfl
        · exact shape_width_of_sign _ _ (.inl rfl) _
        · exact shape_width_of_sign _ _ (.inr (.inr (.inl rfl))) _
        · exact shape_width_of_point _ _ starts _
  | @word behindSign gap rest later first other pieces edited isApart rewords edits ih =>
      obtain - | ⟨stands, others⟩ := divides
      have ends := (rewords.isWord.endsWord_of_stands stands).of_alike (edits.alike others)
      have noString : BeginsNoString dialect other later (textOf tail edited) :=
        fun hasStrings isN isEmpty => absurd isEmpty (rewords.noString hasStrings isN)
      refine .cons (rewords.isOther.stands noString ends
        (ofGap stands.isGap (List.cons_ne_nil _ _))) (ih ?_)
      rwa [rewords.isOther.endsName, ← rewords.isWord.endsName]
  | @quoted behindSign gap inner name mark pieces edited isQuote isName edits ih =>
      obtain - | ⟨stands, others⟩ := divides
      refine .cons (stands_of_quoted isQuote isName ?_ (ofGap stands.isGap (List.cons_ne_nil _ _)))
        (ih ?_)
      · rintro rfl isDoubled
        exact stands.notDoubled (((edits.alike others).head?_eq_iff (by decide)).mpr isDoubled)
      · rwa [endsName_of_mark isQuote, ← endsName_of_mark isQuote]
  | @member behindSign gap rest first pieces edited isMember edits ih =>
      obtain - | ⟨stands, others⟩ := divides
      have single : ∀ {sign : Char}, sign = '(' ∨ sign = ')' ∨ sign = ',' ∨ sign = '?' →
          ∀ behind afterName, (shape dialect afterName sign behind).width = 0 :=
        fun isSign behind afterName => shape_width_of_sign dialect afterName isSign behind
      refine .cons (stands_of_sign (ofGap stands.isGap (List.cons_ne_nil _ _)) (by tauto)
        (single (by tauto) _)) (.cons (isMember _ _) (.cons (stands_of_sign (fun _ isToken => isToken)
          (by tauto) (single (by tauto) _)) (ih others)))

end Edits

/-- Whether a text is a token of its own between a blank and a parenthesis. -/
def IsMemberText
    (dialect : Dialect)
    (text : String) : Prop :=
  ∃ first rest, text = String.ofList (first :: rest) ∧ IsMember dialect first rest

theorem isMemberText_question (dialect : Dialect) : IsMemberText dialect "?" := by
  refine ⟨'?', [], rfl, fun afterName behind => ?_⟩
  apply Edits.stands_of_sign (fun after isToken => .blank rfl isToken) (by tauto)
  exact fun afterName => shape_width_of_sign dialect afterName (by tauto) _

theorem isMemberText_integer
    (dialect : Dialect)
    (value : Int) :
    IsMemberText dialect (toString value) := by
  obtain ⟨first, rest, isText, isNumeral⟩ := exists_isNumeral value
  refine ⟨first, rest, String.toList_inj.mp ?_, fun afterName behind => isNumeral.stands behind⟩
  rw [isText, String.toList_ofList]

theorem isMemberText_of_isPlainWord
    {dialect : Dialect}
    {name : String}
    (isPlain : isPlainWord name.toList = true) :
    IsMemberText dialect name := by
  obtain ⟨first, rest, isText, starts, isBare, continues⟩ := exists_of_isPlainWord isPlain
  have isWord : IsWord first rest := ⟨starts, isBare, continues⟩
  refine ⟨first, rest, String.toList_inj.mp (by rw [isText, String.toList_ofList]), ?_⟩
  exact fun afterName behind => isWord.stands (fun _ _ _ => nofun) rfl
    fun after isToken => .blank rfl isToken

end Lexer

end ShardedSql
