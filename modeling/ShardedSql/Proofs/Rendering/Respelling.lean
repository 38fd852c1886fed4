import ShardedSql.Proofs.Rendering.Renaming
import ShardedSql.Proofs.Token.Editing

/-!
# The tokens of a rendered text

A rendered text is divided into the tokens of the statement, where names of tables are written anew and
members are added in front of parentheses.  A new name takes the quotes of the old one, unless these are
single quotes: then it may run into what stands around it.
-/

namespace ShardedSql

open Text (byteLength byteLength_append byteLength_toList HasPiece IsBoundary slice splice)
open Lexer (Piece textOf Divides Matches Edits IsWord IsQuoted IsMemberText IsShaped)

/-- Whether a name may be written without quotes in the place of any other one. -/
structure IsBareName
    (dialect : Dialect)
    (name : String) : Prop where
  isWord : Lexer.isPlainWord name.toList = true
  noString : dialect.hasNationalStrings = true → name ≠ "N"

namespace Template

variable {first : Char} {rest : List Char} {name : String}

/-- A name without quotes is replaced as it is. -/
theorem requote_of_word (isWord : IsWord first rest) :
    requote (String.ofList (first :: rest)) name = name := by
  have noQuote : first ≠ '"' := by
    rintro rfl
    exact absurd isWord.starts (by decide)
  have noBracket : first ≠ '[' := by
    rintro rfl
    exact absurd isWord.starts (by decide)
  unfold requote
  rw [String.toList_ofList]
  dsimp only
  split
  next opening closing isFirst _ =>
    cases isFirst
    simp [isWord.isBare, noQuote, noBracket]
  next => rfl

/-- A name in quotes is replaced by one in the same quotes. -/
theorem requote_of_quoted (isQuoted : IsQuoted first rest) :
    requote (String.ofList (first :: rest)) name = String.ofList (first :: (name.toList ++ [first])) := by
  obtain ⟨isQuote, inner, rfl⟩ := isQuoted
  unfold requote
  rw [String.toList_ofList]
  dsimp only [List.head?_cons, List.tail_cons]
  rw [List.getLast?_concat]
  dsimp only
  rw [if_pos ⟨isQuote, rfl⟩]
  apply String.toList_inj.mp
  simp

end Template

/-- Whether a name may stand directly behind a token, or only behind a gap. -/
def Token.LeadsName (token : Token) : Prop :=
  (∃ keyword, token.kind = .keyword keyword) ∨
    ∃ sign ∈ [Symbol.leftParen, .comma, .dot], token.kind = .symbol sign

/-- Whether a marker stands on a name that may be written anew, or adds a member in front of a
parenthesis. -/
inductive Token.Takes (dialect : Dialect) (token : Token) : Marker → Prop where
  | name
      (isName : token.kind.isName = true)
      (noSingle : token.source.toList.getLast? ≠ some '\'') :
      Takes dialect token token.mark
  | member
      {item : String}
      (closes : token.kind = .symbol .rightParen)
      (isMember : IsMemberText dialect item) :
      Takes dialect token (.items token.start [item])

theorem Token.Takes.position_eq
    {dialect : Dialect}
    {token : Token}
    {marker : Marker}
    (takes : token.Takes dialect marker) :
    marker.position = token.start := by
  cases takes with
  | name => rfl
  | member => rfl

/-- The item that a marker adds at a position. -/
def Marker.addition? (position : Nat) : Marker → Option String
  | .items place [item] => if place = position then some item else none
  | _ => none

namespace RenderRequest

/-- What is written for a token: a name for the name of a table, or the token itself, behind the member that
is added in front of it. -/
def written
    (request : RenderRequest)
    (names : TableNames)
    (token : Token) : List String :=
  match request.statement.markers.findSome? (Marker.addition? token.start) with
  | some item => [",", item, request.nameFor names token]
  | none => [request.nameFor names token]

/-- Whether the tokens of a text stay apart where the statement is rendered: its markers stand on names that
may be written anew and on parentheses, and each of these names stands behind a token that leads it. -/
structure Respells
    (request : RenderRequest)
    (dialect : Dialect)
    (names : TableNames) : Prop where
  isMarked : request.statement.IsMarkedIn dialect request.sql
  taken : ∀ marker ∈ request.statement.markers,
    ∃ token ∈ (Cursor.ofText dialect request.sql).tokens, token.Takes dialect marker
  begins : ∀ token ∈ (Cursor.ofText dialect request.sql).tokens.head?,
    token.mark ∉ request.statement.markers
  led : ∀ leading token, [leading, token] <:+: (Cursor.ofText dialect request.sql).tokens →
    token.mark ∈ request.statement.markers → leading.LeadsName
  areBare : ∀ entry ∈ names, IsBareName dialect entry.2

end RenderRequest

namespace Lexer

variable {dialect : Dialect} {token : Token}

/-- A word behind a token that leads it stands behind a gap or behind a sign. -/
theorem apart_of_leads
    {afterName : Bool}
    {tail : List Char}
    {piece next : Piece}
    {pieces : List Piece}
    (isShaped : IsShaped dialect token)
    (source : token.source = String.ofList piece.source)
    (leads : token.LeadsName)
    (stands : piece.Stands dialect afterName (textOf tail (next :: pieces)))
    (isWord : IsWord next.first next.rest) :
    next.gap ≠ [] ∨ piece.isSign = true := by
  obtain ⟨gap, first, rest⟩ := piece
  rcases leads with ⟨keyword, isKeyword⟩ | ⟨sign, isSign, isKind⟩
  · left
    intro noGap
    obtain ⟨other, others, isSource, isLeading⟩ := isShaped.isWord_of_keyword isKeyword
    obtain ⟨rfl, rfl⟩ := List.cons.inj (String.ofList_injective (source.symm.trans isSource))
    have ends := isLeading.endsWord_of_stands stands
    rw [textOf, noGap] at ends
    have continues := isNameCharacter_of_isNameStart isWord.starts isWord.isBare
    cases ends.symm.trans continues
  · right
    have isText := congrArg String.toList (source.symm.trans (isShaped.source_of_symbol isKind))
    rw [String.toList_ofList, Piece.source] at isText
    simp only [List.mem_cons, List.not_mem_nil, or_false] at isSign
    rcases isSign with rfl | rfl | rfl
    all_goals
      obtain ⟨rfl, rfl⟩ := List.cons.inj isText
      rfl

theorem isSign_of_name
    {gap rest : List Char}
    {first : Char}
    (isForm : IsWord first rest ∨ IsQuoted first rest) :
    Piece.isSign ⟨gap, first, rest⟩ = false := by
  have differs : first ≠ '(' ∧ first ≠ ',' ∧ first ≠ '.' := by
    rcases isForm with isWord | ⟨rfl | rfl, -⟩
    · have starts := isWord.starts
      refine ⟨?_, ?_, ?_⟩
      all_goals
        rintro rfl
        cases starts
    · decide
    · decide
  simp [Piece.isSign, differs]

/-- A name that is written anew is a token in the place of the old one. -/
theorem exists_renamed
    {names : TableNames}
    {behindSign : Bool}
    {gap rest : List Char}
    {first : Char}
    (isShaped : IsShaped dialect token)
    (isName : token.kind.isName = true)
    (noSingle : token.source.toList.getLast? ≠ some '\'')
    (source : token.source = String.ofList (first :: rest))
    (areBare : ∀ entry ∈ names, IsBareName dialect entry.2)
    (isApart : IsWord first rest → gap ≠ [] ∨ behindSign = true) :
    ∃ other later,
      Template.fillSegment names (.table (unquoteName token.source) token.source) =
        String.ofList (other :: later) ∧ (IsWord other later ∨ IsQuoted other later) ∧
      ∀ pieces edited, Edits dialect (Piece.isSign ⟨gap, first, rest⟩) pieces edited →
        Edits dialect behindSign (⟨gap, first, rest⟩ :: pieces) (⟨gap, other, later⟩ :: edited) := by
  obtain ⟨other, others, isSource, isForm⟩ := isShaped.word_or_quoted isName noSingle
  obtain ⟨rfl, rfl⟩ := List.cons.inj (String.ofList_injective (source.symm.trans isSource))
  cases isFound : names.find? (Text.lowerCase (unquoteName token.source)) with
  | none =>
      refine ⟨first, rest, ?_, isForm, fun pieces edited edits => .keep edits⟩
      rw [← source]
      simp only [Template.fillSegment, isFound]
  | some name =>
      obtain ⟨entry, isEntry, rfl⟩ := Option.map_eq_some_iff.mp isFound
      obtain ⟨isPlain, noString⟩ := areBare entry (List.mem_of_find?_eq_some isEntry)
      obtain ⟨start, later, split, starts, isBare, continues⟩ := exists_of_isPlainWord isPlain
      have filled : Template.fillSegment names (.table (unquoteName token.source) token.source) =
          Template.requote (String.ofList (first :: rest)) entry.2 := by
        rw [← source]
        simp only [Template.fillSegment, isFound]
      rw [filled, isSign_of_name isForm]
      rcases isForm with isWord | isQuoted
      · have isOther : IsWord start later := ⟨starts, isBare, continues⟩
        refine ⟨start, later, ?_, .inl isOther,
          fun pieces edited edits => .word (isApart isWord) ?_ edits⟩
        · rw [Template.requote_of_word isWord, ← split, String.ofList_toList]
        · refine ⟨isWord, isOther, fun hasStrings isN isEmpty => ?_⟩
          rw [isN, isEmpty] at split
          exact noString hasStrings (String.toList_inj.mp split)
      · refine ⟨first, entry.2.toList ++ [first], Template.requote_of_quoted isQuoted,
          .inr ⟨isQuoted.isQuote, _, rfl⟩, fun pieces edited edits => ?_⟩
        obtain ⟨isQuote, inner, rfl⟩ := isQuoted
        apply Edits.quoted isQuote _ edits
        rw [split, List.forall_mem_cons]
        exact ⟨isNameCharacter_of_isNameStart starts isBare, continues⟩

end Lexer

/-- Text without markers in it stays as it is. -/
theorem Text.splice_skip
    {text : String}
    {replace : Marker → String}
    {start : Nat}
    {piece : List Char}
    {markers : List Marker}
    (isPiece : HasPiece text.toList piece start)
    (arePlaces : ∀ marker ∈ markers,
      IsBoundary text.toList marker.position ∧ IsBoundary text.toList marker.stop)
    (areBehind : ∀ marker ∈ markers, start + byteLength piece ≤ marker.position) :
    splice text replace text.utf8ByteSize start markers =
      String.ofList piece ++
        splice text replace text.utf8ByteSize (start + byteLength piece) markers := by
  have ends := Text.isBoundary_end text.toList
  have inside := isPiece.isBoundary_stop.le
  rw [byteLength_toList] at ends inside
  have split := @splice_append text start (start + byteLength piece) text.utf8ByteSize [] markers
    replace isPiece.isBoundary_start isPiece.isBoundary_stop ends (Nat.le_add_right _ _) inside
    arePlaces nofun areBehind
  rw [List.nil_append] at split
  rw [split, splice, slice, isPiece.sliceBytes_eq]

/-- Of ordered markers on some tokens, only the first one can stand on the first token. -/
theorem Token.takes_first_or_later
    {dialect : Dialect}
    {token : Token}
    {tokens : List Token}
    {markers : List Marker}
    (areBehind : ∀ other ∈ tokens, token.start < other.start)
    (taken : ∀ marker ∈ markers, ∃ other ∈ token :: tokens, other.Takes dialect marker)
    (ordered : markers.Pairwise Marker.IsBefore) :
    (∀ marker ∈ markers, ∃ other ∈ tokens, other.Takes dialect marker) ∨
      ∃ marker rest, markers = marker :: rest ∧ token.Takes dialect marker ∧
        ∀ marker ∈ rest, ∃ other ∈ tokens, other.Takes dialect marker := by
  cases markers with
  | nil => exact .inl nofun
  | cons marker rest =>
      obtain ⟨first, isFirst, takes⟩ := taken marker List.mem_cons_self
      have isAhead : token.start ≤ marker.position := by
        rw [takes.position_eq]
        rcases List.mem_cons.mp isFirst with rfl | isLater
        · exact Nat.le_refl _
        · exact Nat.le_of_lt (areBehind first isLater)
      have areLater : ∀ other ∈ rest, ∃ second ∈ tokens, second.Takes dialect other := by
        intro other isOther
        obtain ⟨second, isSecond, takesOther⟩ := taken other (List.mem_cons_of_mem _ isOther)
        have follows := ((List.pairwise_cons.mp ordered).1 other isOther).2
        rcases List.mem_cons.mp isSecond with rfl | isLater
        · rw [takesOther.position_eq] at follows
          omega
        · exact ⟨second, isLater, takesOther⟩
      rcases List.mem_cons.mp isFirst with rfl | isLater
      · exact .inr ⟨marker, rest, rfl, takes, areLater⟩
      · exact .inl (List.forall_mem_cons.mpr ⟨⟨first, isLater, takes⟩, areLater⟩)

namespace RenderRequest

/-- What is rendered of a statement from a position of its text on, with the markers that are ahead. -/
def renderedFrom
    (request : RenderRequest)
    (isWidened : Bool)
    (names : TableNames)
    (position : Nat)
    (markers : List Marker) : String :=
  splice request.sql (request.replacement isWidened names) request.sql.utf8ByteSize position markers

/-- What is ahead of a position of a statement's text: the tokens that stand there, the pieces of the text
that they are, and the markers on them in their order. -/
structure Remains
    (request : RenderRequest)
    (dialect : Dialect)
    (tail : List Char)
    (position : Nat)
    (pieces : List Piece)
    (tokens : List Token)
    (markers : List Marker) : Prop where
  isHere : ∃ front, request.sql.toList = front ++ textOf tail pieces ∧ byteLength front = position
  areTokens : tokens <:+ (Cursor.ofText dialect request.sql).tokens
  areMarkers : markers ⊆ request.statement.markers
  taken : ∀ marker ∈ markers, ∃ token ∈ tokens, token.Takes dialect marker
  isAll : ∀ marker ∈ request.statement.markers, marker ∈ markers ∨ marker.position < position
  ordered : markers.Pairwise Marker.IsBefore

/-- Whether the first of some tokens stands behind a gap or behind a sign if it is a word with a marker. -/
def IsApart
    (request : RenderRequest)
    (behindSign : Bool)
    (pieces : List Piece)
    (tokens : List Token) : Prop :=
  ∀ piece others token rest, pieces = piece :: others → tokens = token :: rest →
    token.mark ∈ request.statement.markers → IsWord piece.first piece.rest →
      piece.gap ≠ [] ∨ behindSign = true

/-- Whether edited pieces are what is rendered from a position on. -/
structure RendersAs
    (request : RenderRequest)
    (dialect : Dialect)
    (names : TableNames)
    (isWidened behindSign : Bool)
    (tail : List Char)
    (position : Nat)
    (pieces : List Piece)
    (tokens : List Token)
    (markers : List Marker)
    (edited : List Piece) : Prop where
  edits : Edits dialect behindSign pieces edited
  isText : request.renderedFrom isWidened names position markers = String.ofList (textOf tail edited)
  areWritten :
    edited.map (fun piece => String.ofList piece.source) = tokens.flatMap (request.written names)

namespace Remains

variable {request : RenderRequest} {dialect : Dialect} {names : TableNames} {isWidened : Bool}
variable {tail : List Char} {position : Nat}

/-- Behind the last token only the tail of the text is left. -/
theorem renderedFrom_tail
    {markers : List Marker}
    (remains : request.Remains dialect tail position [] [] markers) :
    request.renderedFrom isWidened names position markers = String.ofList tail := by
  have noMarkers : markers = [] := by
    rw [List.eq_nil_iff_forall_not_mem]
    intro marker isMarker
    obtain ⟨token, isToken, -⟩ := remains.taken marker isMarker
    cases isToken
  obtain ⟨front, split, rfl⟩ := remains.isHere
  have isPiece : HasPiece request.sql.toList tail (byteLength front) :=
    ⟨front, [], by rw [split, List.append_nil]; rfl, rfl⟩
  have ends : byteLength front + byteLength tail = request.sql.utf8ByteSize := by
    rw [← byteLength_toList, split, byteLength_append]
    rfl
  rw [renderedFrom, noMarkers, splice, slice, ← ends, isPiece.sliceBytes_eq]

variable {piece : Piece} {token : Token} {pieces : List Piece} {tokens : List Token}
variable {markers later : List Marker} {marker : Marker}
variable (remains : request.Remains dialect tail position (piece :: pieces) (token :: tokens) markers)

include remains

theorem isToken : token ∈ (Cursor.ofText dialect request.sql).tokens :=
  remains.areTokens.subset List.mem_cons_self

theorem follow : ∀ other ∈ tokens, token.stop ≤ other.start :=
  have inOrder := (Cursor.tokens_ofText_ordered dialect request.sql).1
  (List.pairwise_cons.mp (inOrder.sublist remains.areTokens.sublist)).1

theorem filled : token.start < token.stop :=
  (Cursor.tokens_ofText_ordered dialect request.sql).2 token remains.isToken

theorem areBehind : ∀ other ∈ tokens, token.start < other.start :=
  fun other isOther => Nat.lt_of_lt_of_le remains.filled (remains.follow other isOther)

/-- The markers ahead stand behind the gap of the first token. -/
theorem start_le : ∀ marker ∈ markers, token.start ≤ marker.position := by
  intro marker isMarker
  obtain ⟨other, isOther, takes⟩ := remains.taken marker isMarker
  rw [takes.position_eq]
  rcases List.mem_cons.mp isOther with rfl | isLater
  · exact Nat.le_refl _
  · exact Nat.le_of_lt (remains.areBehind other isLater)

/-- Markers on later tokens stand behind the first one. -/
theorem stop_le
    (areLater : ∀ marker ∈ later, ∃ other ∈ tokens, other.Takes dialect marker) :
    ∀ marker ∈ later, token.stop ≤ marker.position := by
  intro marker isMarker
  obtain ⟨other, isOther, takes⟩ := areLater marker isMarker
  rw [takes.position_eq]
  exact remains.follow other isOther

/-- A token has no marker on it if all markers ahead are on later ones. -/
theorem position_ne
    (areLater : ∀ marker ∈ markers, ∃ other ∈ tokens, other.Takes dialect marker)
    (start : token.start = position + byteLength piece.gap) :
    ∀ marker ∈ request.statement.markers, marker.position ≠ token.start := by
  intro marker isMarker
  have filled := remains.filled
  rcases remains.isAll marker isMarker with isThere | isBefore
  · have follows := remains.stop_le areLater marker isThere
    omega
  · omega

section Rendering

variable (isMarked : request.statement.IsMarkedIn dialect request.sql)
variable (start : token.start = position + byteLength piece.gap)

include isMarked start

/-- The gap in front of the first token is rendered as it is. -/
theorem renderedFrom_gap :
    request.renderedFrom isWidened names position markers =
      String.ofList piece.gap ++ request.renderedFrom isWidened names token.start markers := by
  obtain ⟨front, split, rfl⟩ := remains.isHere
  have isGap : HasPiece request.sql.toList piece.gap (byteLength front) := ⟨front, _, split, rfl⟩
  have areBehind := remains.start_le
  rw [start] at areBehind ⊢
  exact Text.splice_skip isGap
    (fun marker isMarker => isMarked.areBoundaries (remains.areMarkers isMarker)) areBehind

/-- The first token is rendered as it is in front of markers on later ones. -/
theorem renderedFrom_token
    (stop : token.stop = token.start + byteLength piece.source)
    (areMarkers : later ⊆ request.statement.markers)
    (areLater : ∀ marker ∈ later, ∃ other ∈ tokens, other.Takes dialect marker) :
    request.renderedFrom isWidened names token.start later =
      String.ofList piece.source ++ request.renderedFrom isWidened names token.stop later := by
  obtain ⟨front, split, rfl⟩ := remains.isHere
  have isSource : HasPiece request.sql.toList piece.source token.start :=
    ⟨front ++ piece.gap, textOf tail pieces, by rw [split, textOf, List.append_assoc],
      by rw [byteLength_append, start]⟩
  have areBehind := remains.stop_le areLater
  rw [stop] at areBehind ⊢
  exact Text.splice_skip isSource
    (fun marker isMarker => isMarked.areBoundaries (areMarkers isMarker)) areBehind

end Rendering

section Advance

variable (start : token.start = position + byteLength piece.gap)
variable (stop : token.stop = token.start + byteLength piece.source)

include start stop

theorem isNext :
    ∃ front, request.sql.toList = front ++ textOf tail pieces ∧ byteLength front = token.stop := by
  obtain ⟨front, split, rfl⟩ := remains.isHere
  refine ⟨front ++ (piece.gap ++ piece.source), ?_, ?_⟩
  · rw [split, textOf]
    simp only [List.append_assoc]
  · rw [byteLength_append, byteLength_append, stop, start, Nat.add_assoc]

/-- Behind a token without a marker the same markers are ahead. -/
theorem of_unmarked
    (areLater : ∀ marker ∈ markers, ∃ other ∈ tokens, other.Takes dialect marker) :
    request.Remains dialect tail token.stop pieces tokens markers where
  isHere := remains.isNext start stop
  areTokens := (List.suffix_cons token tokens).trans remains.areTokens
  areMarkers := remains.areMarkers
  taken := areLater
  isAll := fun marker isMarker => (remains.isAll marker isMarker).imp_right fun isBefore => by omega
  ordered := remains.ordered

end Advance

end Remains

/-- Behind a token with a marker the other markers are ahead. -/
theorem Remains.of_marked
    {request : RenderRequest}
    {dialect : Dialect}
    {tail : List Char}
    {position : Nat}
    {piece : Piece}
    {token : Token}
    {pieces : List Piece}
    {tokens : List Token}
    {marker : Marker}
    {later : List Marker}
    (remains :
      request.Remains dialect tail position (piece :: pieces) (token :: tokens) (marker :: later))
    (start : token.start = position + byteLength piece.gap)
    (stop : token.stop = token.start + byteLength piece.source)
    (takes : token.Takes dialect marker)
    (areLater : ∀ marker ∈ later, ∃ other ∈ tokens, other.Takes dialect marker) :
    request.Remains dialect tail token.stop pieces tokens later where
  isHere := remains.isNext start stop
  areTokens := (List.suffix_cons token tokens).trans remains.areTokens
  areMarkers := (List.cons_subset.mp remains.areMarkers).2
  taken := areLater
  isAll := by
    intro other isOther
    have position := takes.position_eq
    have filled := remains.filled
    rcases remains.isAll other isOther with isThere | isBefore
    · rcases List.mem_cons.mp isThere with rfl | isLater
      · exact .inr (by omega)
      · exact .inl isLater
    · exact .inr (by omega)
  ordered := (List.pairwise_cons.mp remains.ordered).2

variable {request : RenderRequest} {dialect : Dialect} {names : TableNames} {token : Token}

/-- Where no member is added, a name is written for a token, or the token itself. -/
theorem written_of_plain
    (plain : ∀ item, .items token.start [item] ∉ request.statement.markers) :
    request.written names token = [request.nameFor names token] := by
  have noItem : request.statement.markers.findSome? (Marker.addition? token.start) = none := by
    rw [List.findSome?_eq_none_iff]
    intro marker isMarker
    unfold Marker.addition?
    split
    next place item =>
      rw [if_neg]
      rintro rfl
      exact plain item isMarker
    next => rfl
  rw [written, noItem]

/-- Without a marker on it, a token stays as it is. -/
theorem written_of_unmarked
    (unmarked : ∀ marker ∈ request.statement.markers, marker.position ≠ token.start) :
    request.written names token = [token.source] := by
  have noName : token.mark ∉ request.statement.markers := fun isMarked => unmarked _ isMarked rfl
  rw [written_of_plain fun item isMarker => unmarked _ isMarker rfl, nameFor, if_neg noName]

namespace Respells

variable (respells : request.Respells dialect names)

include respells

/-- At most one marker stands at a place. -/
theorem marker_unique
    {first second : Marker}
    (isFirst : first ∈ request.statement.markers)
    (isSecond : second ∈ request.statement.markers)
    (same : first.position = second.position) :
    first = second := by
  by_contra differs
  have : Std.Symm Marker.Apart := ⟨fun _ _ => Marker.Apart.symm⟩
  have apart := respells.isMarked.apart.forall isFirst isSecond differs
  rcases apart with isBefore | isBefore
  · exact absurd isBefore.2 (by omega)
  · exact absurd isBefore.2 (by omega)

theorem written_of_name (isMarked : token.mark ∈ request.statement.markers) :
    request.written names token =
      [Template.fillSegment names (.table (unquoteName token.source) token.source)] := by
  rw [written_of_plain, nameFor, if_pos isMarked]
  intro item isMarker
  cases respells.marker_unique isMarked isMarker rfl

theorem nameFor_of_member
    {item : String}
    (isMarker : .items token.start [item] ∈ request.statement.markers) :
    request.nameFor names token = token.source := by
  rw [nameFor, if_neg]
  intro isMarked
  cases respells.marker_unique isMarked isMarker rfl

theorem written_of_member
    {item : String}
    (isMarker : .items token.start [item] ∈ request.statement.markers) :
    request.written names token = [",", item, request.nameFor names token] := by
  have isItem : request.statement.markers.findSome? (Marker.addition? token.start) = some item := by
    cases isFound : request.statement.markers.findSome? (Marker.addition? token.start) with
    | none =>
        have noItem := List.findSome?_eq_none_iff.mp isFound _ isMarker
        simp [Marker.addition?] at noItem
    | some found =>
        obtain ⟨marker, isOther, adds⟩ := List.exists_of_findSome?_eq_some isFound
        unfold Marker.addition? at adds
        split at adds
        next place other =>
          split at adds
          next isPlace =>
            cases adds
            cases respells.marker_unique isOther isMarker isPlace
            rfl
          next => cases adds
        next => cases adds
  rw [written, isItem]

section Remains

variable {isWidened behindSign : Bool} {tail : List Char} {position : Nat} {piece : Piece}
variable {pieces edited : List Piece} {tokens : List Token} {markers later : List Marker}

/-- Behind a token the next one stands apart, because the token leads it. -/
theorem isApart_next
    {afterName : Bool}
    (remains : request.Remains dialect tail position (piece :: pieces) (token :: tokens) markers)
    (source : token.source = String.ofList piece.source)
    (stands : piece.Stands dialect afterName (textOf tail pieces)) :
    request.IsApart piece.isSign pieces tokens := by
  rintro next rest other behind rfl rfl isMarked isWord
  have isPair : [token, other] <:+: token :: other :: behind := ⟨[], behind, rfl⟩
  have leads := respells.led token other (isPair.trans remains.areTokens.isInfix) isMarked
  exact Lexer.apart_of_leads (Cursor.isShaped_of_mem remains.isToken) source leads stands isWord

/-- A token without a marker is kept. -/
theorem rendersAs_unmarked
    (remains : request.Remains dialect tail position (piece :: pieces) (token :: tokens) markers)
    (source : token.source = String.ofList piece.source)
    (start : token.start = position + byteLength piece.gap)
    (stop : token.stop = token.start + byteLength piece.source)
    (areLater : ∀ marker ∈ markers, ∃ other ∈ tokens, other.Takes dialect marker)
    (renders : request.RendersAs dialect names isWidened piece.isSign tail token.stop pieces tokens
      markers edited) :
    request.RendersAs dialect names isWidened behindSign tail position (piece :: pieces)
      (token :: tokens) markers (piece :: edited) := by
  refine ⟨.keep renders.edits, ?_, ?_⟩
  · rw [remains.renderedFrom_gap respells.isMarked start,
      remains.renderedFrom_token respells.isMarked start stop remains.areMarkers areLater,
      renders.isText, textOf]
    simp only [String.ofList_append]
  · rw [List.map_cons, List.flatMap_cons, written_of_unmarked (remains.position_ne areLater start),
      source, renders.areWritten]
    rfl

variable {marker : Marker}

/-- The text in front of a marker on the first token is the gap of this token. -/
theorem renderedFrom_marker
    (remains :
      request.Remains dialect tail position (piece :: pieces) (token :: tokens) (marker :: later))
    (start : token.start = position + byteLength piece.gap)
    (takes : token.Takes dialect marker) :
    request.renderedFrom isWidened names position (marker :: later) =
      String.ofList piece.gap ++ (request.replacement isWidened names marker ++
        request.renderedFrom isWidened names marker.stop later) := by
  have begins := (Cursor.isSeam_of_mem remains.isToken).1.isBoundary
  rw [remains.renderedFrom_gap respells.isMarked start, renderedFrom, splice, takes.position_eq,
    Text.slice_self begins, String.empty_append]
  rfl

/-- A name with a marker is written anew. -/
theorem exists_rendersAs_name
    (remains :
      request.Remains dialect tail position (piece :: pieces) (token :: tokens) (token.mark :: later))
    (source : token.source = String.ofList piece.source)
    (start : token.start = position + byteLength piece.gap)
    (isApart : request.IsApart behindSign (piece :: pieces) (token :: tokens))
    (isName : token.kind.isName = true)
    (noSingle : token.source.toList.getLast? ≠ some '\'')
    (renders : request.RendersAs dialect names isWidened piece.isSign tail token.stop pieces tokens
      later edited) :
    ∃ renamed, request.RendersAs dialect names isWidened behindSign tail position (piece :: pieces)
      (token :: tokens) (token.mark :: later) renamed := by
  have isMarker : token.mark ∈ request.statement.markers := remains.areMarkers List.mem_cons_self
  have isToken := remains.isToken
  obtain ⟨first, rest, filled, -, renames⟩ := Lexer.exists_renamed (Cursor.isShaped_of_mem isToken)
    isName noSingle source respells.areBare (isApart piece pieces token tokens rfl rfl isMarker)
  have isStop : token.mark.stop = token.stop :=
    ((Token.Carries.table isName).spans (Cursor.standsIn_of_mem isToken)).2
  refine ⟨_, renames pieces edited renders.edits, ?_, ?_⟩
  · rw [respells.renderedFrom_marker remains start (.name isName noSingle), isStop, renders.isText,
      Token.mark, replacement, filled, textOf]
    simp only [String.ofList_append, Piece.source]
  · rw [List.map_cons, List.flatMap_cons, respells.written_of_name isMarker, renders.areWritten, filled]
    rfl

/-- A member is added in front of a parenthesis with a marker. -/
theorem exists_rendersAs_member
    {item : String}
    (remains : request.Remains dialect tail position (piece :: pieces) (token :: tokens)
      (.items token.start [item] :: later))
    (source : token.source = String.ofList piece.source)
    (start : token.start = position + byteLength piece.gap)
    (stop : token.stop = token.start + byteLength piece.source)
    (areLater : ∀ marker ∈ later, ∃ other ∈ tokens, other.Takes dialect marker)
    (closes : token.kind = .symbol .rightParen)
    (isMember : IsMemberText dialect item)
    (renders : request.RendersAs dialect names isWidened piece.isSign tail token.stop pieces tokens
      later edited) :
    ∃ extended, request.RendersAs dialect names isWidened behindSign tail position (piece :: pieces)
      (token :: tokens) (.items token.start [item] :: later) extended := by
  obtain ⟨isMarker, areMarkers⟩ := List.cons_subset.mp remains.areMarkers
  have isText : request.renderedFrom isWidened names position (.items token.start [item] :: later) =
      String.ofList piece.gap ++ (request.replacement isWidened names (.items token.start [item]) ++
        request.renderedFrom isWidened names token.start later) :=
    respells.renderedFrom_marker remains start (.member closes isMember)
  have isKept : request.renderedFrom isWidened names token.start later =
      String.ofList piece.source ++ request.renderedFrom isWidened names token.stop later :=
    remains.renderedFrom_token respells.isMarked start stop areMarkers areLater
  obtain ⟨first, rest, rfl, isMember⟩ := isMember
  obtain ⟨gap, sign, inner⟩ := piece
  have isSign : [')'] = sign :: inner := String.ofList_injective
    (((Cursor.isShaped_of_mem remains.isToken).source_of_symbol closes).symm.trans source)
  cases isSign
  have added : request.replacement isWidened names
      (.items token.start [String.ofList (first :: rest)]) =
        String.ofList (',' :: ' ' :: first :: rest) := by
    apply String.toList_inj.mp
    simp [replacement]
  refine ⟨_, .member isMember renders.edits, ?_, ?_⟩
  · rw [isText, isKept, renders.isText, added]
    simp only [← String.ofList_append, textOf, Piece.source]
    rfl
  · rw [List.flatMap_cons, respells.written_of_member isMarker, respells.nameFor_of_member isMarker,
      ← renders.areWritten, source]
    rfl

/-- What is ahead is rendered as its edited tokens. -/
theorem exists_rendersAs
    (isWidened behindSign : Bool)
    {afterName : Bool}
    (matched : Matches position pieces tokens)
    (divides : Divides dialect tail afterName pieces)
    (remains : request.Remains dialect tail position pieces tokens markers)
    (isApart : request.IsApart behindSign pieces tokens) :
    ∃ edited, request.RendersAs dialect names isWidened behindSign tail position pieces tokens markers
      edited := by
  induction matched generalizing behindSign afterName markers with
  | nil position => exact ⟨[], .nil _, remains.renderedFrom_tail, rfl⟩
  | @cons position piece token pieces tokens source start stop matched ih =>
      obtain - | ⟨stands, others⟩ := divides
      have isApartNext := respells.isApart_next remains source stands
      rcases Token.takes_first_or_later remains.areBehind remains.taken remains.ordered with
        areLater | ⟨marker, later, rfl, takes, areLater⟩
      · obtain ⟨edited, renders⟩ :=
          ih piece.isSign others (remains.of_unmarked start stop areLater) isApartNext
        exact ⟨_, respells.rendersAs_unmarked remains source start stop areLater renders⟩
      · obtain ⟨edited, renders⟩ :=
          ih piece.isSign others (remains.of_marked start stop takes areLater) isApartNext
        cases takes with
        | name isName noSingle =>
            exact respells.exists_rendersAs_name remains source start isApart isName noSingle renders
        | member closes isMember =>
            exact respells.exists_rendersAs_member remains source start stop areLater closes isMember
              renders

end Remains

/-- **The tokens of a rendered text.**  The text that is rendered for some names has the tokens of the statement,
with names written anew and with members added. -/
theorem sources_eq
    {isWidened : Bool}
    {template : Template}
    (ran : request.template isWidened = .ok template) :
    (Cursor.ofText dialect (template.fill names)).tokens.map Token.source =
      (Cursor.ofText dialect request.sql).tokens.flatMap (request.written names) := by
  obtain ⟨pieces, tail, divides, isText⟩ := Lexer.exists_pieces dialect false request.sql.toList
  have matched := divides.matches isText
  have splices := splices_of_marked respells.isMarked
  have remains : request.Remains dialect tail 0 pieces (Cursor.ofText dialect request.sql).tokens
      (orderedMarkers request.statement) :=
    { isHere := ⟨[], isText.symm, rfl⟩
      areTokens := List.suffix_refl _
      areMarkers := splices.isPerm.subset
      taken := fun marker isMarker => respells.taken marker (splices.isPerm.subset isMarker)
      isAll := fun _ isMarker => .inl (splices.isPerm.mem_iff.mpr isMarker)
      ordered := splices.ordered }
  have isApart : request.IsApart false pieces (Cursor.ofText dialect request.sql).tokens :=
    fun piece others token rest _ isFirst isMarked _ =>
      absurd isMarked (respells.begins token (by rw [isFirst]; rfl))
  obtain ⟨edited, renders⟩ := respells.exists_rendersAs isWidened false matched divides remains isApart
  have isFilled : textOf tail edited = (template.fill names).toList := by
    have isRendered : template.fill names = String.ofList (textOf tail edited) :=
      (splices.fills isWidened template names ran).trans renders.isText
    rw [isRendered, String.toList_ofList]
  rw [((renders.edits.divides divides).matches isFilled).sources_eq, renders.areWritten]

end Respells

end RenderRequest

end ShardedSql
