import Mathlib
import ShardedSql.Proofs.Parser.Walking
import ShardedSql.Text.Span

/-!
# Tokens stand in the text

A token is the piece of the text between its two ends.  The tokens follow one another without overlap,
and their ends lie between characters, so that a cursor in front of them stands between tokens.
-/

namespace ShardedSql

namespace Text

variable {characters front piece back : List Char} {start stop : Nat}

/-- Whether a byte position lies between two characters, or at an end. -/
def IsBoundary
    (characters : List Char)
    (position : Nat) : Prop :=
  ∃ front back, characters = front ++ back ∧ byteLength front = position

/-- Whether a piece of a text begins at a byte position. -/
def HasPiece
    (characters piece : List Char)
    (start : Nat) : Prop :=
  ∃ front back, characters = front ++ (piece ++ back) ∧ byteLength front = start

theorem byteLength_toList (text : String) : byteLength text.toList = text.utf8ByteSize := by
  have counted : ∀ characters : List Char, byteLength characters = String.utf8Len characters := by
    intro characters
    induction characters with
    | nil => rfl
    | cons character rest ih => rw [byteLength, ih, String.utf8Len_cons, Nat.add_comm]
  rw [counted, ← String.utf8ByteSize_ofList, String.ofList_toList]

theorem byteLength_pos (nonempty : characters ≠ []) : 0 < byteLength characters := by
  cases characters with
  | nil => exact absurd rfl nonempty
  | cons character rest =>
      have positive := character.utf8Size_pos
      rw [byteLength]
      omega

theorem dropBytes?_append (front back : List Char) :
    dropBytes? (front ++ back) (byteLength front) = some back := by
  induction front with
  | nil =>
      cases back with
      | nil => rfl
      | cons => rfl
  | cons character front ih =>
      obtain ⟨count, total⟩ := Nat.exists_eq_add_one.mpr
        (byteLength_pos (List.cons_ne_nil character front))
      have split : character.utf8Size + byteLength front = count + 1 := total
      rw [total, List.cons_append, dropBytes?, if_pos (by omega), ← split, Nat.add_sub_cancel_left]
      exact ih

/-- Fronts of one text that are as long as each other are the same. -/
theorem append_inj_of_byteLength
    {back other rest : List Char}
    (same : front ++ back = other ++ rest)
    (sameLength : byteLength front = byteLength other) :
    front = other ∧ back = rest := by
  have dropped := dropBytes?_append front back
  rw [same, sameLength, dropBytes?_append, Option.some_inj] at dropped
  subst dropped
  exact ⟨List.append_cancel_right same, rfl⟩

theorem takeBytes?_append (front back : List Char) :
    takeBytes? (front ++ back) (byteLength front) = some front := by
  induction front with
  | nil =>
      cases back with
      | nil => rfl
      | cons => rfl
  | cons character front ih =>
      obtain ⟨count, total⟩ := Nat.exists_eq_add_one.mpr
        (byteLength_pos (List.cons_ne_nil character front))
      have split : character.utf8Size + byteLength front = count + 1 := total
      rw [total, List.cons_append, takeBytes?, if_pos (by omega), ← split, Nat.add_sub_cancel_left, ih]
      rfl

/-- A slice between the ends of a piece is the piece. -/
theorem HasPiece.sliceBytes_eq (holds : HasPiece characters piece start) :
    sliceBytes characters start (start + byteLength piece) = piece := by
  obtain ⟨front, back, split, rfl⟩ := holds
  rw [sliceBytes, if_pos (Nat.le_add_right _ _), split, dropBytes?_append, Option.bind_some,
    Nat.add_sub_cancel_left, takeBytes?_append, Option.getD_some]

theorem HasPiece.slice_eq
    {text written : String}
    (holds : HasPiece text.toList written.toList start) :
    slice text start (start + written.utf8ByteSize) = written := by
  rw [slice, ← byteLength_toList, holds.sliceBytes_eq, String.ofList_toList]

theorem slice_self
    {text : String}
    (isPlace : IsBoundary text.toList start) :
    slice text start start = "" := by
  obtain ⟨front, back, split, isStart⟩ := isPlace
  have isPiece : HasPiece text.toList [] start := ⟨front, back, split, isStart⟩
  have empty := isPiece.sliceBytes_eq
  rw [Text.byteLength, Nat.add_zero] at empty
  rw [slice, empty, String.ofList_nil]

/-- Two pieces next to each other are one piece. -/
theorem HasPiece.append
    {later : List Char}
    (first : HasPiece characters piece start)
    (second : HasPiece characters later (start + byteLength piece)) :
    HasPiece characters (piece ++ later) start := by
  obtain ⟨front, back, split, rfl⟩ := first
  obtain ⟨longer, behind, splitLater, sameLength⟩ := second
  have whole : (front ++ piece) ++ back = longer ++ (later ++ behind) := by
    rw [List.append_assoc, ← split, splitLater]
  obtain ⟨-, rfl⟩ := append_inj_of_byteLength whole (by rw [byteLength_append, sameLength])
  exact ⟨front, behind, by rw [split, List.append_assoc], rfl⟩

theorem isBoundary_zero (characters : List Char) : IsBoundary characters 0 :=
  ⟨[], characters, rfl, rfl⟩

theorem isBoundary_end (characters : List Char) : IsBoundary characters (byteLength characters) :=
  ⟨characters, [], (List.append_nil _).symm, rfl⟩

theorem HasPiece.isBoundary_start (holds : HasPiece characters piece start) :
    IsBoundary characters start := by
  obtain ⟨front, back, split, rfl⟩ := holds
  exact ⟨front, piece ++ back, split, rfl⟩

theorem HasPiece.isBoundary_stop (holds : HasPiece characters piece start) :
    IsBoundary characters (start + byteLength piece) := by
  obtain ⟨front, back, split, rfl⟩ := holds
  exact ⟨front ++ piece, back, by rw [split, List.append_assoc], byteLength_append _ _⟩

theorem IsBoundary.le (isBoundary : IsBoundary characters start) :
    start ≤ byteLength characters := by
  obtain ⟨front, back, rfl, rfl⟩ := isBoundary
  rw [byteLength_append]
  omega

/-- Between two positions stands a piece of the text. -/
theorem exists_piece
    (first : IsBoundary characters start)
    (second : IsBoundary characters stop)
    (ordered : start ≤ stop) :
    ∃ piece, HasPiece characters piece start ∧ start + byteLength piece = stop := by
  obtain ⟨front, behindFront, split, rfl⟩ := first
  obtain ⟨longer, back, otherSplit, rfl⟩ := second
  rw [split] at otherSplit
  rcases List.append_eq_append_iff.mp otherSplit with ⟨piece, rfl, rfl⟩ | ⟨surplus, rfl, rfl⟩
  · exact ⟨piece, ⟨front, back, split, rfl⟩, (byteLength_append _ _).symm⟩
  · rw [byteLength_append] at ordered
    have none : surplus = [] := by
      by_contra nonempty
      have positive := byteLength_pos nonempty
      omega
    subst none
    refine ⟨[], ⟨longer, behindFront, ?_, ?_⟩, ?_⟩
    · rw [split, List.append_nil]
      rfl
    · rw [List.append_nil]
    · rw [List.append_nil]
      rfl

end Text

open Text

/-- Whether a token is the piece of a text between its ends. -/
structure Token.StandsIn
    (characters : List Char)
    (token : Token) : Prop where
  piece : HasPiece characters token.source.toList token.start
  stop : token.stop = token.start + byteLength token.source.toList

theorem Token.StandsIn.slice_eq
    {text : String}
    {token : Token}
    (stands : token.StandsIn text.toList) :
    slice text token.start token.stop = token.source := by
  rw [stands.stop, byteLength_toList]
  exact stands.piece.slice_eq

namespace Lexer

/-- Whether tokens stand in a text from a position on, one behind the other. -/
structure StandFrom
    (whole : List Char)
    (position : Nat)
    (tokens : List Token) : Prop where
  ordered : tokens.Pairwise fun first second => first.stop ≤ second.start
  stands : ∀ token ∈ tokens, token.StandsIn whole
  isBehind : ∀ token ∈ tokens, position ≤ token.start
  filled : ∀ token ∈ tokens, token.kind ≠ .finish → token.start < token.stop

/-- A token stands in front of those that stand behind its end. -/
theorem StandFrom.cons
    {whole : List Char}
    {position : Nat}
    {token : Token}
    {tokens : List Token}
    (stands : token.StandsIn whole)
    (isBehind : position ≤ token.start)
    (filled : token.start < token.stop)
    (others : StandFrom whole token.stop tokens) :
    StandFrom whole position (token :: tokens) where
  ordered := .cons others.isBehind others.ordered
  stands := List.forall_mem_cons.mpr ⟨stands, others.stands⟩
  isBehind := by
    rw [List.forall_mem_cons]
    refine ⟨isBehind, fun other isLater => ?_⟩
    have follows := others.isBehind other isLater
    omega
  filled := List.forall_mem_cons.mpr ⟨fun _ => filled, others.filled⟩

/-- The end of a text stands in it. -/
theorem standFrom_finish
    {whole : List Char}
    {position : Nat}
    (isInside : position ≤ byteLength whole) :
    StandFrom whole position [Token.finish (byteLength whole)] where
  ordered := List.pairwise_singleton _ _
  stands := by
    rw [List.forall_mem_singleton]
    exact ⟨⟨whole, [], (List.append_nil whole).symm, rfl⟩, rfl⟩
  isBehind := List.forall_mem_singleton.mpr isInside
  filled := List.forall_mem_singleton.mpr fun notLast => absurd rfl notLast

/-- The tokens that are divided off behind a part of a text stand in it. -/
theorem standFrom_tokensFrom
    {dialect : Dialect}
    {afterName : Bool}
    {position : Nat}
    {whole front characters : List Char}
    (split : whole = front ++ characters)
    (isHere : byteLength front = position) :
    StandFrom whole position (tokensFrom dialect afterName position characters) := by
  fun_induction tokensFrom dialect afterName position characters generalizing front
  case case1 afterName position characters gap start following =>
    have isGap := splitGap_append dialect .blank characters
    rw [following, List.append_nil] at isGap
    have isEnd : start = byteLength whole := by
      rw [split, byteLength_append, isHere, ← isGap]
    rw [isEnd]
    apply standFrom_finish
    rw [← isEnd]
    exact Nat.le_add_right _ _
  case case2 afterName position characters gap start first rest following shaped source stop ih =>
    -- The gap and the source of the token lengthen the part in front of the other tokens.
    have isGap := splitGap_append dialect .blank characters
    rw [following] at isGap
    have isSource : first :: rest = source ++ rest.drop shaped.width := by
      rw [List.cons_append, List.take_append_drop]
    have splitToken : whole = (front ++ gap.1) ++ (source ++ rest.drop shaped.width) := by
      rw [split, ← isGap, isSource, List.append_assoc]
    have isStart : byteLength (front ++ gap.1) = start := by
      rw [byteLength_append, isHere]
    have isStop : byteLength ((front ++ gap.1) ++ source) = stop := by
      rw [byteLength_append, isStart]
    have positive : 0 < byteLength source := byteLength_pos (List.cons_ne_nil _ _)
    apply StandFrom.cons
    · refine ⟨⟨front ++ gap.1, rest.drop shaped.width, ?_, isStart⟩, ?_⟩
      · rw [String.toList_ofList, splitToken]
      · rw [String.toList_ofList]
    · exact Nat.le_add_right _ _
    · exact Nat.lt_add_of_pos_right positive
    · exact ih (splitToken.trans (List.append_assoc _ _ _).symm) isStop

end Lexer

namespace Cursor

variable (dialect : Dialect) (text : String)

/-- A token of a text stands in it. -/
theorem standsIn_of_mem
    {dialect : Dialect}
    {text : String}
    {token : Token}
    (isToken : token ∈ (ofText dialect text).tokens) :
    token.StandsIn text.toList := by
  have stand : Lexer.StandFrom text.toList 0 (Lexer.tokens dialect text) :=
    Lexer.standFrom_tokensFrom (List.nil_append text.toList).symm rfl
  exact stand.stands token (List.mem_of_mem_filter isToken)

/-- The tokens of a text follow one another, and none of them is empty. -/
theorem tokens_ofText_ordered :
    ((ofText dialect text).tokens.Pairwise fun first second => first.stop ≤ second.start) ∧
      ∀ token ∈ (ofText dialect text).tokens, token.start < token.stop := by
  have stand : Lexer.StandFrom text.toList 0 (Lexer.tokens dialect text) :=
    Lexer.standFrom_tokensFrom (List.nil_append text.toList).symm rfl
  apply And.intro (stand.ordered.filter _)
  intro token isToken
  obtain ⟨isThere, notLast⟩ := List.mem_filter.mp isToken
  exact stand.filled token isThere (by simpa using notLast)

/-- Whether a byte position lies between two characters of a text, and inside none of its tokens. -/
structure IsSeam (position : Nat) : Prop where
  isBoundary : IsBoundary text.toList position
  between : ∀ token ∈ (ofText dialect text).tokens, token.stop ≤ position ∨ position ≤ token.start

section Members

variable {dialect : Dialect} {text : String} {token : Token}
variable (isToken : token ∈ (ofText dialect text).tokens)

include isToken

theorem apart_of_mem : ∀ other ∈ (ofText dialect text).tokens,
    other.stop ≤ token.start ∨ other = token ∨ token.stop ≤ other.start := by
  obtain ⟨ordered, -⟩ := tokens_ofText_ordered dialect text
  obtain ⟨front, back, split⟩ := List.append_of_mem isToken
  rw [split, List.pairwise_append, List.pairwise_cons] at ordered
  obtain ⟨-, ⟨areBehind, -⟩, areInFront⟩ := ordered
  intro other isOther
  rw [split] at isOther
  rcases List.mem_append.mp isOther with isFront | isBack
  · exact .inl (areInFront other isFront token List.mem_cons_self)
  · rcases List.mem_cons.mp isBack with same | isBehind
    · exact .inr (.inl same)
    · exact .inr (.inr (areBehind other isBehind))

/-- A token begins and ends at seams. -/
theorem isSeam_of_mem :
    IsSeam dialect text token.start ∧ IsSeam dialect text token.stop := by
  have stands := standsIn_of_mem isToken
  have ends := stands.piece.isBoundary_stop
  rw [← stands.stop] at ends
  have filled := (tokens_ofText_ordered dialect text).2 token isToken
  constructor
  · apply IsSeam.mk stands.piece.isBoundary_start
    intro other isOther
    rcases apart_of_mem isToken other isOther with isFront | rfl | isBehind
    · exact .inl isFront
    · exact .inr (Nat.le_refl _)
    · exact .inr (by omega)
  · apply IsSeam.mk ends
    intro other isOther
    rcases apart_of_mem isToken other isOther with isFront | rfl | isBehind
    · exact .inl (by omega)
    · exact .inl (Nat.le_refl _)
    · exact .inr isBehind

end Members

/-- The two ends of a text are seams. -/
theorem isSeam_ends :
    IsSeam dialect text 0 ∧ IsSeam dialect text text.utf8ByteSize := by
  rw [← byteLength_toList]
  constructor
  · exact ⟨isBoundary_zero _, fun _ _ => .inr (Nat.zero_le _)⟩
  · apply IsSeam.mk (isBoundary_end _)
    intro token isToken
    exact .inl (isSeam_of_mem isToken).2.isBoundary.le

/-- The cursor in front of a text stands between tokens. -/
theorem isCut_ofText : (ofText dialect text).IsCut (IsSeam dialect text) := by
  obtain ⟨ordered, filled⟩ := tokens_ofText_ordered dialect text
  obtain ⟨begins, ends⟩ := isSeam_ends dialect text
  constructor
  · exact ordered
  · exact fun _ _ => Nat.zero_le _
  · exact filled
  · intro token isToken
    have isSeam := (isSeam_of_mem isToken).2
    have inside := isSeam.isBoundary.le
    rw [byteLength_toList] at inside
    exact ⟨isSeam, inside⟩
  · exact ⟨begins, Nat.zero_le _⟩
  · exact ends

end Cursor

end ShardedSql
