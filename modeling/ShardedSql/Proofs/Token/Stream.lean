import ShardedSql.Proofs.Token.Division

/-!
# The stream of tokens

A cursor passes one token after the other.  The tokens that it meets tile the text: they stand in it one
behind the other, with white space and comments between them, until the end of the text is reached and
stays ahead.
-/

namespace ShardedSql

namespace Lexer

open Text (HasPiece IsBoundary byteLength byteLength_append byteLength_toList sliceBytes)

/-- Whether characters begin a comment that reaches to the end of its line. -/
inductive OpensLine (dialect : Dialect) : List Char → Prop where
  | slashes : OpensLine dialect ['/', '/']
  | dashes : OpensLine dialect ['-', '-']
  | hash (isComment : dialect.hasHashComments = true) : OpensLine dialect ['#']

/-- Whether characters are a comment, closed by the end of its line or by its mark. -/
inductive IsComment (dialect : Dialect) : List Char → Prop where
  | line
      {mark body : List Char}
      (opens : OpensLine dialect mark)
      (isLine : '\n' ∉ body) :
      IsComment dialect (mark ++ (body ++ ['\n']))
  | block
      {body : List Char}
      (isBody : ¬ ['*', '/'] <:+: body ++ ['*']) :
      IsComment dialect ('/' :: '*' :: (body ++ ['*', '/']))

/-- Whether characters are a comment that nothing closes. -/
inductive IsOpenComment (dialect : Dialect) : List Char → Prop where
  | line
      {mark body : List Char}
      (opens : OpensLine dialect mark)
      (isLine : '\n' ∉ body) :
      IsOpenComment dialect (mark ++ body)
  | block
      {body : List Char}
      (isBody : ¬ ['*', '/'] <:+: body) :
      IsOpenComment dialect ('/' :: '*' :: body)

/-- Whether characters consist of white space and comments. -/
inductive IsFiller (dialect : Dialect) : List Char → Prop where
  | nil : IsFiller dialect []
  | blank
      {character : Char}
      {rest : List Char}
      (isBlank : Text.isAsciiBlank character = true)
      (others : IsFiller dialect rest) :
      IsFiller dialect (character :: rest)
  | comment
      {comment rest : List Char}
      (isComment : IsComment dialect comment)
      (others : IsFiller dialect rest) :
      IsFiller dialect (comment ++ rest)

/-- Whether characters fill the place in front of a token, or the place behind the last token, where a
comment may be left open. -/
def Fills
    (dialect : Dialect)
    (isLast : Prop)
    (characters : List Char) : Prop :=
  ∃ closed opened, characters = closed ++ opened ∧ IsFiller dialect closed ∧
    (opened = [] ∨ isLast ∧ IsOpenComment dialect opened)

namespace Fills

variable {dialect : Dialect} {isLast : Prop} {rest : List Char}

theorem nil (dialect : Dialect) (isLast : Prop) : Fills dialect isLast [] :=
  ⟨[], [], rfl, .nil, .inl rfl⟩

theorem blank
    {character : Char}
    (isBlank : Text.isAsciiBlank character = true)
    (fills : Fills dialect isLast rest) :
    Fills dialect isLast (character :: rest) := by
  obtain ⟨closed, opened, rfl, isFiller, isOpened⟩ := fills
  exact ⟨character :: closed, opened, rfl, .blank isBlank isFiller, isOpened⟩

theorem comment
    {comment : List Char}
    (isComment : IsComment dialect comment)
    (fills : Fills dialect isLast rest) :
    Fills dialect isLast (comment ++ rest) := by
  obtain ⟨closed, opened, rfl, isFiller, isOpened⟩ := fills
  exact ⟨comment ++ closed, opened, (List.append_assoc _ _ _).symm, .comment isComment isFiller,
    isOpened⟩

theorem opened
    (holds : isLast)
    (isOpen : IsOpenComment dialect rest) :
    Fills dialect isLast rest :=
  ⟨[], rest, rfl, .nil, .inr ⟨holds, isOpen⟩⟩

end Fills

/-- What a scan passes over from each of its states: within a comment, the rest of this comment comes
first. -/
def FillsFrom
    (dialect : Dialect)
    (isLast : Prop) : Gap → List Char → Prop
  | .blank, gap => Fills dialect isLast gap
  | .lineComment, gap =>
      (∃ body rest, gap = body ++ '\n' :: rest ∧ '\n' ∉ body ∧ Fills dialect isLast rest) ∨
        isLast ∧ '\n' ∉ gap
  | .blockComment, gap =>
      (∃ body rest, gap = body ++ '*' :: '/' :: rest ∧ ¬ ['*', '/'] <:+: body ++ ['*'] ∧
        Fills dialect isLast rest) ∨
      isLast ∧ ¬ ['*', '/'] <:+: gap

section FillsFrom

variable {dialect : Dialect} {isLast : Prop} {gap : List Char}

/-- A comment that reaches to the end of its line, with what follows it. -/
theorem FillsFrom.ofLine
    {mark : List Char}
    (opens : OpensLine dialect mark)
    (fills : FillsFrom dialect isLast .lineComment gap) :
    Fills dialect isLast (mark ++ gap) := by
  rcases fills with ⟨body, rest, rfl, isLine, others⟩ | ⟨isLast, isLine⟩
  · have filled := others.comment (.line opens isLine)
    rwa [List.append_assoc, List.append_assoc] at filled
  · exact .opened isLast (.line opens isLine)

/-- A comment between its marks, with what follows it. -/
theorem FillsFrom.ofBlock (fills : FillsFrom dialect isLast .blockComment gap) :
    Fills dialect isLast ('/' :: '*' :: gap) := by
  rcases fills with ⟨body, rest, rfl, isBody, others⟩ | ⟨isLast, isBody⟩
  · have filled := others.comment (.block isBody)
    rwa [List.cons_append, List.cons_append, List.append_assoc] at filled
  · exact .opened isLast (.block isBody)

theorem FillsFrom.line
    {character : Char}
    (notBreak : character ≠ '\n')
    (fills : FillsFrom dialect isLast .lineComment gap) :
    FillsFrom dialect isLast .lineComment (character :: gap) := by
  rcases fills with ⟨body, rest, rfl, isLine, others⟩ | ⟨isLast, isLine⟩
  · exact .inl ⟨character :: body, rest, rfl, by simp [notBreak.symm, isLine], others⟩
  · exact .inr ⟨isLast, by simp [notBreak.symm, isLine]⟩

/-- A character in front does not close a comment unless it is the first half of its mark. -/
theorem not_infix_cons
    {character : Char}
    {body : List Char}
    (goesOn : character = '*' → body.head? ≠ some '/')
    (isBody : ¬ ['*', '/'] <:+: body) :
    ¬ ['*', '/'] <:+: character :: body := by
  rw [List.infix_cons_iff]
  rintro (isFront | isInner)
  · obtain ⟨isStar, isRest⟩ := List.cons_prefix_cons.mp isFront
    obtain ⟨rest, split⟩ := isRest
    exact goesOn isStar.symm (by rw [← split]; rfl)
  · exact isBody isInner

theorem FillsFrom.block
    {character : Char}
    (goesOn : character = '*' → gap.head? ≠ some '/')
    (fills : FillsFrom dialect isLast .blockComment gap) :
    FillsFrom dialect isLast .blockComment (character :: gap) := by
  rcases fills with ⟨body, rest, rfl, isBody, others⟩ | ⟨isLast, isBody⟩
  · refine .inl ⟨character :: body, rest, rfl, ?_, others⟩
    apply not_infix_cons _ isBody
    intro isStar
    have notSlash := goesOn isStar
    cases body with
    | nil => simp
    | cons => exact notSlash
  · exact .inr ⟨isLast, not_infix_cons goesOn isBody⟩

/-- A scan passes over white space and comments only. -/
theorem IsGap.fillsFrom
    {state : Gap}
    {behind : List Char}
    (isGap : IsGap dialect state gap behind) :
    FillsFrom dialect (behind = []) state gap := by
  induction isGap with
  | finish state =>
      cases state with
      | blank => exact .nil dialect _
      | lineComment => exact .inr ⟨rfl, List.not_mem_nil⟩
      | blockComment => exact .inr ⟨rfl, by simp⟩
  | token => exact .nil dialect _
  | @line character gap behind others ih =>
      by_cases isBreak : character = '\n'
      · subst isBreak
        exact .inl ⟨[], gap, rfl, List.not_mem_nil, ih⟩
      · rw [if_neg isBreak] at ih
        exact ih.line isBreak
  | @closing gap behind others ih => exact .inl ⟨[], gap, rfl, by decide, ih⟩
  | @block character gap behind goesOn others ih =>
      apply ih.block
      intro isStar isSlash
      obtain ⟨rest, rfl⟩ := List.head?_eq_some_iff.mp isSlash
      exact goesOn isStar rfl
  | opening others ih => exact ih.ofBlock
  | slashes others ih => exact ih.ofLine .slashes
  | dashes others ih => exact ih.ofLine .dashes
  | blank isBlank others ih => exact ih.blank isBlank
  | hash isComment others ih => exact ih.ofLine (.hash isComment)

end FillsFrom

section Filler

variable {dialect : Dialect}

theorem IsGap.of_line
    {body gap behind : List Char}
    (isLine : '\n' ∉ body)
    (others : IsGap dialect .blank gap behind) :
    IsGap dialect .lineComment (body ++ '\n' :: gap) behind := by
  induction body with
  | nil =>
      apply IsGap.line
      rwa [if_pos rfl]
  | cons character body ih =>
      rw [List.mem_cons, not_or] at isLine
      apply IsGap.line
      rw [if_neg (Ne.symm isLine.1)]
      exact ih isLine.2

theorem IsGap.of_block
    {body gap behind : List Char}
    (isBody : ¬ ['*', '/'] <:+: body ++ ['*'])
    (others : IsGap dialect .blank gap behind) :
    IsGap dialect .blockComment (body ++ '*' :: '/' :: gap) behind := by
  induction body with
  | nil => exact .closing others
  | cons character body ih =>
      rw [List.cons_append, List.infix_cons_iff, not_or] at isBody
      apply IsGap.block _ (ih isBody.2)
      rintro rfl isSlash
      cases body with
      | nil => cases isSlash
      | cons second body =>
          obtain rfl : second = '/' := Option.some.inj isSlash
          exact isBody.1 ⟨body ++ ['*'], rfl⟩

/-- A scan passes over white space and comments. -/
theorem IsFiller.isGap
    {filler gap behind : List Char}
    (isFiller : IsFiller dialect filler)
    (others : IsGap dialect .blank gap behind) :
    IsGap dialect .blank (filler ++ gap) behind := by
  induction isFiller with
  | nil => exact others
  | blank isBlank _ ih => exact .blank isBlank ih
  | comment isComment _ ih =>
      rw [List.append_assoc]
      cases isComment with
      | line opens isLine =>
          have isRest := IsGap.of_line isLine ih
          rw [List.append_assoc, List.append_assoc]
          cases opens with
          | slashes => exact .slashes isRest
          | dashes => exact .dashes isRest
          | hash isHash => exact .hash isHash isRest
      | block isBody =>
          rw [List.cons_append, List.cons_append, List.append_assoc]
          exact .opening (.of_block isBody ih)

end Filler

/-- Whether a token comes next behind a position of a text. -/
structure Follows
    (dialect : Dialect)
    (characters : List Char)
    (position : Nat)
    (token : Token) : Prop where
  ordered : position ≤ token.start
  fills : Fills dialect (token.kind = .finish) (sliceBytes characters position token.start)

theorem follows_of_gap
    {dialect : Dialect}
    {front gap behind : List Char}
    {token : Token}
    (isGap : IsGap dialect .blank gap behind)
    (isLast : behind = [] → token.kind = .finish)
    (start : token.start = byteLength front + byteLength gap) :
    Follows dialect (front ++ (gap ++ behind)) (byteLength front) token := by
  have isPiece : HasPiece (front ++ (gap ++ behind)) gap (byteLength front) :=
    ⟨front, behind, rfl, rfl⟩
  constructor
  · rw [start]
    exact Nat.le_add_right _ _
  · rw [start, isPiece.sliceBytes_eq]
    obtain ⟨closed, opened, split, isFiller, isOpened⟩ := isGap.fillsFrom
    exact ⟨closed, opened, split, isFiller, isOpened.imp_right (And.imp_left isLast)⟩

/-- Whether tokens follow one another from a position of a text on, up to its end. -/
inductive Tile (dialect : Dialect) (characters : List Char) : Nat → List Token → Prop where
  | nil
      {position : Nat}
      (follows : Follows dialect characters position (Token.finish (byteLength characters))) :
      Tile dialect characters position []
  | cons
      {position : Nat}
      {token : Token}
      {tokens : List Token}
      (follows : Follows dialect characters position token)
      (others : Tile dialect characters token.stop tokens) :
      Tile dialect characters position (token :: tokens)

/-- The tokens that a text is divided into follow one another. -/
theorem Divides.tile
    {dialect : Dialect}
    {front tail : List Char}
    {afterName : Bool}
    {pieces : List Piece}
    {tokens : List Token}
    (divides : Divides dialect tail afterName pieces)
    (matched : Matches (byteLength front) pieces tokens) :
    Tile dialect (front ++ textOf tail pieces) (byteLength front) tokens := by
  generalize isPosition : byteLength front = position at matched
  induction matched generalizing front afterName with
  | nil =>
      subst isPosition
      cases divides with
      | nil _ isGap =>
          apply Tile.nil
          have follows := @follows_of_gap dialect front tail []
            (Token.finish (byteLength (front ++ tail))) isGap (fun _ => rfl) (byteLength_append _ _)
          rwa [List.append_nil] at follows
  | @cons _ piece token pieces tokens _ start stop others ih =>
      subst isPosition
      cases divides with
      | cons stands dividesOthers =>
          have follows := @follows_of_gap dialect front piece.gap
            (piece.source ++ textOf tail pieces) token stands.isGap nofun start
          have tiled := @ih (front ++ (piece.gap ++ piece.source)) piece.endsName dividesOthers (by
            rw [stop, start, byteLength_append, byteLength_append, Nat.add_assoc])
          rw [List.append_assoc, List.append_assoc] at tiled
          exact .cons follows tiled

namespace Tile

variable {dialect : Dialect} {characters : List Char} {position : Nat} {tokens : List Token}

/-- The token at an index, which is the end of the text behind the last one. -/
def at? (characters : List Char) (tokens : List Token) (index : Nat) : Token :=
  tokens[index]?.getD (Token.finish (byteLength characters))

theorem follows_zero (tile : Tile dialect characters position tokens) :
    Follows dialect characters position (at? characters tokens 0) := by
  cases tile with
  | nil follows => exact follows
  | cons follows others => exact follows

/-- Behind the end of the text stands the end of the text. -/
theorem follows_finish :
    Follows dialect characters (byteLength characters) (Token.finish (byteLength characters)) := by
  have follows := @follows_of_gap dialect characters [] []
    (Token.finish (byteLength characters)) (.finish .blank) (fun _ => rfl) rfl
  rwa [List.append_nil, List.append_nil] at follows

theorem follows_succ
    (tile : Tile dialect characters position tokens)
    (index : Nat) :
    Follows dialect characters (at? characters tokens index).stop
      (at? characters tokens (index + 1)) := by
  induction tile generalizing index with
  | nil => exact follows_finish
  | @cons position token tokens follows others ih =>
      cases index with
      | zero => exact others.follows_zero
      | succ index => exact ih index

/-- There are no more tokens than bytes, since each token takes at least one. -/
theorem length_le
    (tile : Tile dialect characters position tokens)
    (filled : ∀ token ∈ tokens, token.start < token.stop) :
    position + tokens.length ≤ byteLength characters := by
  induction tile with
  | nil follows => exact follows.ordered
  | @cons position token tokens follows others ih =>
      have within := ih fun token isToken => filled token (List.mem_cons_of_mem _ isToken)
      have positive := filled token List.mem_cons_self
      have ordered := follows.ordered
      rw [List.length_cons]
      omega

end Tile

end Lexer

namespace Cursor

open Lexer (Fills Tile)
open Text (IsBoundary byteLength byteLength_toList slice sliceBytes)

/-- The token ahead when a number of tokens of a text has been passed. -/
def tokenAt
    (dialect : Dialect)
    (text : String)
    (index : Nat) : Token :=
  ((ofText dialect text).advanceBy index).current

theorem current_advanceBy
    (index : Nat)
    (cursor : Cursor) :
    (cursor.advanceBy index).current =
      cursor.tokens[index]?.getD (Token.finish cursor.textLength) := by
  induction index generalizing cursor with
  | zero => rw [advanceBy, current, List.head?_eq_getElem?]
  | succ index ih => rw [advanceBy, ih, advance, List.getElem?_tail]

variable (dialect : Dialect) (text : String)

theorem tile_ofText : Tile dialect text.toList 0 (ofText dialect text).tokens := by
  obtain ⟨pieces, tail, divides, isText⟩ := Lexer.exists_pieces dialect false text.toList
  have tiled := @Lexer.Divides.tile dialect [] tail false pieces _ divides (divides.matches isText)
  rwa [isText] at tiled

theorem tokenAt_eq (index : Nat) :
    tokenAt dialect text index = Tile.at? text.toList (ofText dialect text).tokens index := by
  rw [tokenAt, current_advanceBy, Tile.at?, byteLength_toList]
  rfl

/-- An index is that of a token, or the end of the text stands there. -/
theorem tokenAt_cases (index : Nat) :
    (index < (ofText dialect text).tokens.length ∧
      tokenAt dialect text index ∈ (ofText dialect text).tokens) ∨
    ((ofText dialect text).tokens.length ≤ index ∧
      tokenAt dialect text index = Token.finish text.utf8ByteSize) := by
  rw [tokenAt_eq, Tile.at?, byteLength_toList]
  rcases Nat.lt_or_ge index (ofText dialect text).tokens.length with isInside | isBehind
  · rw [List.getElem?_eq_getElem isInside]
    exact .inl ⟨isInside, List.getElem_mem isInside⟩
  · rw [List.getElem?_eq_none isBehind]
    exact .inr ⟨isBehind, rfl⟩

/-- What is written for a token differs from its source in a string only. -/
theorem literals_eq_source
    {dialect : Dialect}
    {text : String}
    {token : Token}
    (isToken : token ∈ (ofText dialect text).tokens)
    (noString : token.kind ≠ .literal .chars) :
    token.literals = token.source := by
  obtain ⟨afterName, first, rest, isKind, isSource, areLiterals⟩ := isShaped_of_mem isToken
  rw [isKind] at noString
  rw [areLiterals, isSource]
  simp only [Lexer.literalsOf, if_neg noString]

/-- How the tokens of a text lie in it. -/
structure TilesText (tokenAt : Nat → Token) : Prop where
  boundaries : ∀ index, IsBoundary text.toList (tokenAt index).start ∧
    IsBoundary text.toList (tokenAt index).stop
  ordered : ∀ index, (tokenAt index).start ≤ (tokenAt index).stop ∧
    (tokenAt index).stop ≤ (tokenAt (index + 1)).start
  filled : ∀ index, (tokenAt index).kind ≠ .finish → (tokenAt index).start < (tokenAt index).stop
  finishes : ∃ count ≤ text.utf8ByteSize,
    (∀ index < count, (tokenAt index).kind ≠ .finish) ∧
      ∀ index ≥ count, tokenAt index = Token.finish text.utf8ByteSize
  begins : Fills dialect ((tokenAt 0).kind = .finish) (sliceBytes text.toList 0 (tokenAt 0).start)
  between : ∀ index, Fills dialect ((tokenAt (index + 1)).kind = .finish)
    (sliceBytes text.toList (tokenAt index).stop (tokenAt (index + 1)).start)
  literals : ∀ index, (tokenAt index).kind ≠ .literal .chars →
    (tokenAt index).literals = slice text (tokenAt index).start (tokenAt index).stop

/-- **The tokens tile the text.**  They stand in it one behind the other, each of them on at least one
byte, with white space and comments between them, so that the end is reached after at most as many
tokens as there are bytes. -/
theorem tilesText_tokenAt : TilesText dialect text (tokenAt dialect text) := by
  have tile := tile_ofText dialect text
  obtain ⟨-, areFilled⟩ := tokens_ofText_ordered dialect text
  have follows : ∀ index, Lexer.Follows dialect text.toList (tokenAt dialect text index).stop
      (tokenAt dialect text (index + 1)) := by
    intro index
    rw [tokenAt_eq, tokenAt_eq]
    exact tile.follows_succ index
  have isLast := Text.isBoundary_end text.toList
  rw [byteLength_toList] at isLast
  constructor
  · intro index
    rcases tokenAt_cases dialect text index with ⟨-, isToken⟩ | ⟨-, isFinish⟩
    · obtain ⟨first, second⟩ := isSeam_of_mem isToken
      exact ⟨first.isBoundary, second.isBoundary⟩
    · rw [isFinish]
      exact ⟨isLast, isLast⟩
  · intro index
    apply And.intro _ (follows index).ordered
    rcases tokenAt_cases dialect text index with ⟨-, isToken⟩ | ⟨-, isFinish⟩
    · exact Nat.le_of_lt (areFilled _ isToken)
    · rw [isFinish]
      exact Nat.le_refl _
  · intro index notLast
    rcases tokenAt_cases dialect text index with ⟨-, isToken⟩ | ⟨-, isFinish⟩
    · exact areFilled _ isToken
    · rw [isFinish] at notLast
      exact absurd rfl notLast
  · have enough := tile.length_le areFilled
    rw [Nat.zero_add, byteLength_toList] at enough
    refine ⟨_, enough, fun index isInside => ?_, fun index isBehind => ?_⟩
    · rcases tokenAt_cases dialect text index with ⟨-, isToken⟩ | ⟨isBehind, -⟩
      · have kept := (List.mem_filter.mp isToken).2
        simpa using kept
      · omega
    · rcases tokenAt_cases dialect text index with ⟨isInside, -⟩ | ⟨-, isFinish⟩
      · omega
      · exact isFinish
  · have first := tile.follows_zero
    rw [← tokenAt_eq] at first
    exact first.fills
  · exact fun index => (follows index).fills
  · intro index noString
    rcases tokenAt_cases dialect text index with ⟨-, isToken⟩ | ⟨-, isFinish⟩
    · rw [literals_eq_source isToken noString, (standsIn_of_mem isToken).slice_eq]
    · rw [isFinish]
      exact (Text.slice_self isLast).symm

end Cursor

end ShardedSql
