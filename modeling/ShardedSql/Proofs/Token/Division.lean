import ShardedSql.Proofs.Token.Gap
import ShardedSql.Proofs.Token.Lookahead
import ShardedSql.Proofs.Token.Tiling

/-!
# The division of a text

Every text is divided into tokens with gaps in front of them, and a gap behind the last one.  A token is
divided from what stands behind it wherever it looks alike.
-/

namespace ShardedSql

namespace Lexer

open Text (byteLength byteLength_append)

/-- A token of a text with the gap in front of it. -/
structure Piece where
  gap : List Char
  first : Char
  rest : List Char

namespace Piece

/-- The characters of the token. -/
def source (piece : Piece) : List Char :=
  piece.first :: piece.rest

/-- Whether the token ends with a character of a name. -/
def endsName (piece : Piece) : Bool :=
  piece.source.getLast?.any isNameCharacter

/-- Whether a token is divided from what stands behind it. -/
structure Stands
    (dialect : Dialect)
    (afterName : Bool)
    (behind : List Char)
    (piece : Piece) : Prop where
  isGap : IsGap dialect .blank piece.gap (piece.source ++ behind)
  isWhole : (piece.rest ++ behind).take
    (shape dialect (afterName && piece.gap.isEmpty) piece.first (piece.rest ++ behind)).width =
      piece.rest

variable {dialect : Dialect} {afterName : Bool} {behind after : List Char} {piece : Piece}

theorem Stands.width_eq
    (stands : piece.Stands dialect afterName behind)
    (isThere : behind ≠ []) :
    (shape dialect (afterName && piece.gap.isEmpty) piece.first (piece.rest ++ behind)).width =
      piece.rest.length := by
  have whole := congrArg List.length stands.isWhole
  rw [List.length_take, List.length_append] at whole
  have positive := List.length_pos_of_ne_nil isThere
  omega

theorem Stands.drop_eq (stands : piece.Stands dialect afterName behind) :
    (piece.rest ++ behind).drop
      (shape dialect (afterName && piece.gap.isEmpty) piece.first (piece.rest ++ behind)).width =
        behind := by
  have split := List.take_append_drop
    (shape dialect (afterName && piece.gap.isEmpty) piece.first (piece.rest ++ behind)).width
    (piece.rest ++ behind)
  rw [stands.isWhole] at split
  exact List.append_cancel_left split

/-- A token is divided from every text that looks alike. -/
theorem Stands.of_alike
    (stands : piece.Stands dialect afterName behind)
    (alike : Alike behind after) :
    piece.Stands dialect afterName after := by
  by_cases isThere : behind = []
  · subst isThere
    rwa [alike.eq_of_nil]
  · have width := stands.width_eq isThere
    constructor
    · have noGap : NoGap dialect piece.first (piece.rest ++ behind) := stands.isGap.token_of_cons
      apply stands.isGap.of_token (List.cons_ne_nil _ _)
      have sameHead : ∀ {character}, isStop character = false →
          (piece.rest ++ after).head? = some character →
            (piece.rest ++ behind).head? = some character := by
        intro character noStop isHead
        cases isRest : piece.rest with
        | nil =>
            rw [isRest, List.nil_append] at isHead
            exact (alike.head?_eq_iff noStop).mpr isHead
        | cons =>
            rw [isRest] at isHead
            exact isHead
      apply IsGap.token
      constructor
      · exact noGap.notBlank
      · exact noGap.notHash
      · exact fun isSlash isHead => noGap.noBlock isSlash (sameHead (by decide) isHead)
      · exact fun isSlash isHead => noGap.noLine isSlash (sameHead (by decide) isHead)
      · exact fun isDash isHead => noGap.noDashes isDash (sameHead (by decide) isHead)
    · rw [alike.shape_width_eq (Nat.le_of_eq width), width, List.take_left]

end Piece

/-- The text of some tokens with their gaps, and the gap behind the last one. -/
def textOf (tail : List Char) : List Piece → List Char
  | [] => tail
  | piece :: pieces => piece.gap ++ (piece.source ++ textOf tail pieces)

theorem textOf_ne_nil
    (tail : List Char)
    {pieces : List Piece}
    (isThere : pieces ≠ []) :
    textOf tail pieces ≠ [] := by
  cases pieces with
  | nil => exact absurd rfl isThere
  | cons piece pieces => exact List.append_ne_nil_of_right_ne_nil _ (List.cons_ne_nil _ _)

theorem textOf_append
    (tail : List Char)
    (fronts behinds : List Piece) :
    textOf tail (fronts ++ behinds) = textOf [] fronts ++ textOf tail behinds := by
  induction fronts with
  | nil => rfl
  | cons piece fronts ih =>
      rw [List.cons_append, textOf, textOf, ih, List.append_assoc, List.append_assoc]

/-- Whether a text is divided into some tokens. -/
inductive Divides (dialect : Dialect) (tail : List Char) : Bool → List Piece → Prop where
  | nil
      (afterName : Bool)
      (isGap : IsGap dialect .blank tail []) :
      Divides dialect tail afterName []
  | cons
      {afterName : Bool}
      {piece : Piece}
      {pieces : List Piece}
      (stands : piece.Stands dialect afterName (textOf tail pieces))
      (others : Divides dialect tail piece.endsName pieces) :
      Divides dialect tail afterName (piece :: pieces)

/-- Every text is divided into tokens. -/
theorem exists_pieces
    (dialect : Dialect)
    (afterName : Bool)
    (characters : List Char) :
    ∃ pieces tail, Divides dialect tail afterName pieces ∧ textOf tail pieces = characters := by
  generalize isPosition : 0 = position
  clear isPosition
  fun_induction tokensFrom dialect afterName position characters with
  | case1 afterName position characters gap start following =>
      have whole := splitGap_append dialect .blank characters
      have isGap := isGap_splitGap dialect .blank characters
      rw [following] at whole isGap
      rw [List.append_nil] at whole
      rw [whole] at isGap
      exact ⟨[], characters, .nil _ isGap, rfl⟩
  | case2 afterName position characters gap start first rest following shaped source stop ih =>
      obtain ⟨pieces, tail, divides, isText⟩ := ih
      have whole := splitGap_append dialect .blank characters
      have isGap := isGap_splitGap dialect .blank characters
      rw [following] at whole isGap
      let piece : Piece := ⟨gap.1, first, rest.take shaped.width⟩
      have isRest : piece.rest ++ textOf tail pieces = rest := by
        rw [isText, List.take_append_drop]
      have isSplit : piece.source ++ textOf tail pieces = first :: rest := by
        rw [Piece.source, List.cons_append, isRest]
      refine ⟨piece :: pieces, tail, .cons ?_ divides, ?_⟩
      · constructor
        · rw [isSplit]
          exact isGap
        · rw [isRest]
      · rw [textOf, isSplit]
        exact whole

/-- The token at a position that is divided from what stands behind it. -/
def Piece.token
    (dialect : Dialect)
    (afterName : Bool)
    (position : Nat)
    (behind : List Char)
    (piece : Piece) : Token :=
  let shaped := shape dialect (afterName && piece.gap.isEmpty) piece.first (piece.rest ++ behind)
  let start := position + byteLength piece.gap
  ⟨shaped.kind, String.ofList piece.source, String.ofList (literalsOf dialect shaped.kind piece.source),
    start, start + byteLength piece.source⟩

/-- A token that is divided from what stands behind it is the first one there. -/
theorem Piece.Stands.tokensFrom_eq
    {dialect : Dialect}
    {afterName : Bool}
    {behind : List Char}
    {piece : Piece}
    (stands : piece.Stands dialect afterName behind)
    (position : Nat) :
    tokensFrom dialect afterName position (piece.gap ++ (piece.source ++ behind)) =
      piece.token dialect afterName position behind ::
        tokensFrom dialect piece.endsName (position + byteLength piece.gap + byteLength piece.source)
          behind := by
  have divided := stands.isGap.splitGap_eq
  rw [tokensFrom]
  split
  next following =>
    rw [divided] at following
    cases following
  next first rest following =>
    rw [divided, Piece.source, List.cons_append, List.cons.injEq] at following
    obtain ⟨rfl, rfl⟩ := following
    simp only [divided, stands.isWhole, stands.drop_eq]
    rfl

theorem shape_kind_ne_finish
    (dialect : Dialect)
    (afterName : Bool)
    (first : Char)
    (rest : List Char) :
    (shape dialect afterName first rest).kind ≠ .finish := by
  rw [shape_eq_shapeBy]
  have strings := stringShape_kind dialect
  have quoted := quotedNameShape_kind rest
  have words := wordShape_kind dialect first rest
  have numbers := numberShape_kind first rest
  have symbols := symbolShape_kind (first :: rest)
  cases tokenClass dialect afterName first rest <;>
    grind [shapeBy, variableShape, hexShape]

/-- Whether tokens are what a text is divided into, from a position on. -/
inductive Matches : Nat → List Piece → List Token → Prop where
  | nil (position : Nat) : Matches position [] []
  | cons
      {position : Nat}
      {piece : Piece}
      {token : Token}
      {pieces : List Piece}
      {tokens : List Token}
      (source : token.source = String.ofList piece.source)
      (start : token.start = position + byteLength piece.gap)
      (stop : token.stop = token.start + byteLength piece.source)
      (others : Matches token.stop pieces tokens) :
      Matches position (piece :: pieces) (token :: tokens)

theorem Matches.sources_eq
    {position : Nat}
    {pieces : List Piece}
    {tokens : List Token}
    (matched : Matches position pieces tokens) :
    tokens.map Token.source = pieces.map fun piece => String.ofList piece.source := by
  induction matched with
  | nil => rfl
  | cons source _ _ _ ih => rw [List.map_cons, List.map_cons, source, ih]

/-- A divided text has the tokens that it is divided into. -/
theorem Divides.exists_tokens
    {dialect : Dialect}
    {tail : List Char}
    {afterName : Bool}
    {pieces : List Piece}
    (divides : Divides dialect tail afterName pieces)
    (position : Nat) :
    ∃ tokens finish, tokensFrom dialect afterName position (textOf tail pieces) =
        tokens ++ [Token.finish finish] ∧
      Matches position pieces tokens ∧ ∀ token ∈ tokens, token.kind ≠ .finish := by
  induction divides generalizing position with
  | nil afterName isGap =>
      have divided := isGap.splitGap_eq
      rw [List.append_nil] at divided
      refine ⟨[], position + byteLength tail, ?_, .nil _, nofun⟩
      rw [textOf, tokensFrom]
      split
      next => rw [divided]; rfl
      next following => simp [divided] at following
  | @cons afterName piece pieces stands others ih =>
      obtain ⟨tokens, finish, isTokens, isMatched, areFilled⟩ :=
        ih (position + byteLength piece.gap + byteLength piece.source)
      refine ⟨piece.token dialect afterName position (textOf tail pieces) :: tokens, finish, ?_,
        .cons rfl rfl rfl isMatched, ?_⟩
      · rw [textOf, stands.tokensFrom_eq, isTokens, List.cons_append]
      · intro other isThere
        rcases List.mem_cons.mp isThere with rfl | isLater
        · exact shape_kind_ne_finish _ _ _ _
        · exact areFilled other isLater

/-- The tokens of a text are those that it is divided into, and the end of the text stands behind them. -/
theorem Divides.exists_finish
    {dialect : Dialect}
    {text : String}
    {tail : List Char}
    {pieces : List Piece}
    (divides : Divides dialect tail false pieces)
    (isText : textOf tail pieces = text.toList) :
    ∃ finish, tokens dialect text = (Cursor.ofText dialect text).tokens ++ [Token.finish finish] ∧
      Matches 0 pieces (Cursor.ofText dialect text).tokens := by
  obtain ⟨filled, finish, isTokens, isMatched, areFilled⟩ := divides.exists_tokens 0
  have isAll : tokens dialect text = filled ++ [Token.finish finish] := by
    rw [tokens, ← isText, isTokens]
  have found : (Cursor.ofText dialect text).tokens = filled := by
    rw [Cursor.ofText, isAll, List.filter_append]
    have kept : filled.filter (fun token => token.kind != .finish) = filled :=
      List.filter_eq_self.mpr fun token isThere => by simpa using areFilled token isThere
    rw [kept]
    exact List.append_nil _
  rw [found]
  exact ⟨finish, isAll, isMatched⟩

theorem Divides.matches
    {dialect : Dialect}
    {text : String}
    {tail : List Char}
    {pieces : List Piece}
    (divides : Divides dialect tail false pieces)
    (isText : textOf tail pieces = text.toList) :
    Matches 0 pieces (Cursor.ofText dialect text).tokens := by
  obtain ⟨-, -, isMatched⟩ := divides.exists_finish isText
  exact isMatched

theorem exists_tokens_eq
    (dialect : Dialect)
    (text : String) :
    ∃ finish, tokens dialect text =
      (Cursor.ofText dialect text).tokens ++ [Token.finish finish] := by
  obtain ⟨pieces, tail, divides, isText⟩ := exists_pieces dialect false text.toList
  obtain ⟨finish, isAll, -⟩ := divides.exists_finish isText
  exact ⟨finish, isAll⟩

end Lexer

end ShardedSql
