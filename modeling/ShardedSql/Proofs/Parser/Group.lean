import ShardedSql.Proofs.Parser.Marking
import ShardedSql.Proofs.Parser.Parentheses
import ShardedSql.Proofs.Token.Tiling

/-!
# Passing a group in parentheses

Arguments of functions, named queries and whatever else a parse does not look into are passed as
groups in parentheses.  The main statement says that such a group is passed exactly: up to the
parenthesis that closes it, or to the end of the text, with its text and with the placeholders
inside, and that an OR is refused wherever it stands inside.
-/

namespace ShardedSql

open Parentheses

/-- Between two places of a text stands the slice from the one to the other. -/
theorem Text.hasPiece_slice
    {text : String}
    {start stop : Nat}
    (first : IsBoundary text.toList start)
    (second : IsBoundary text.toList stop)
    (ordered : start ≤ stop) :
    HasPiece text.toList (slice text start stop).toList start ∧
      start + (slice text start stop).utf8ByteSize = stop := by
  obtain ⟨piece, isPiece, rfl⟩ := exists_piece first second ordered
  rw [← byteLength_toList, slice, isPiece.sliceBytes_eq, String.toList_ofList]
  exact ⟨isPiece, rfl⟩

namespace Cursor

variable {cursor : Cursor}

theorem pass_cons
    (first : Token)
    (ahead : List Token)
    (textLength placeholders lastStop : Nat) :
    pass ⟨first :: ahead, textLength, placeholders, lastStop⟩ =
      ⟨ahead, textLength, placeholders + first.isPlaceholder.toNat, first.stop⟩ := by
  cases isPlaceholder : first.isPlaceholder <;> simp [pass, advance, current, isPlaceholder]

/-- The cursor behind a token and some others. -/
theorem passBy_cons
    (first : Token)
    (later behind : List Token)
    (textLength placeholders lastStop : Nat) :
    passBy (1 + later.length) ⟨first :: (later ++ behind), textLength, placeholders, lastStop⟩ =
      ⟨behind, textLength,
        placeholders + (first.isPlaceholder.toNat + later.countP Token.isPlaceholder),
        (later.getLastD first).stop⟩ := by
  induction later generalizing first placeholders lastStop with
  | nil => exact pass_cons first behind textLength placeholders lastStop
  | cons token later ih =>
      have count : (token :: later).countP Token.isPlaceholder =
          token.isPlaceholder.toNat + later.countP Token.isPlaceholder := by
        cases isPlaceholder : token.isPlaceholder <;> simp [isPlaceholder, Nat.add_comm]
      rw [List.length_cons, ← Nat.add_assoc, passBy, pass_cons, List.cons_append, ih,
        count, List.getLastD_cons, Nat.add_assoc]

theorem passBy_add
    (first second : Nat)
    (cursor : Cursor) :
    cursor.passBy (first + second) = (cursor.passBy first).passBy second := by
  induction first generalizing cursor with
  | zero => rw [Nat.zero_add, passBy]
  | succ first ih => rw [Nat.add_right_comm, passBy, ih, passBy]

theorem tokens_of_opensGroup (opens : cursor.current.opensGroup = true) :
    cursor.tokens = cursor.current :: cursor.tokens.tail :=
  tokens_of_current fun isLast => by simp [Token.opensGroup, isLast] at opens

/-- The cursor behind a group. -/
theorem passBy_group
    {inside behind : List Token}
    {closing : Option Token}
    (opens : cursor.current.opensGroup = true)
    (ends : EndsGroup cursor.tokens.tail inside closing behind) :
    cursor.passBy (Extent.ofGroup 0 cursor.tokens).width =
      { cursor with
        tokens := behind
        placeholders := cursor.placeholders + inside.countP Token.isPlaceholder
        lastStop := ((inside ++ closing.toList).getLastD cursor.current).stop } := by
  have noPlaceholder : cursor.current.isPlaceholder = false := by
    simp [Token.isPlaceholder, Token.opensGroup_iff.mp opens]
  have isEnd : closing.toList.countP Token.isPlaceholder = 0 := by
    cases ends with
    | unclosed => rfl
    | closed _ _ closes => simp [Token.isPlaceholder, Token.closesGroup_iff.mp closes]
  have split := tokens_of_opensGroup opens
  rw [ends.split, ← List.append_assoc] at split
  have width := Extent.ofGroup_of_endsGroup opens ends
  rw [← tokens_of_opensGroup opens, ← List.length_append] at width
  rw [width]
  have passed := passBy_cons cursor.current (inside ++ closing.toList) behind cursor.textLength
    cursor.placeholders cursor.lastStop
  rw [← split, noPlaceholder, List.countP_append, isEnd] at passed
  simpa using passed

end Cursor

namespace Extent

section Groups

variable {opening : Token} {tokens inside behind : List Token} {closing : Option Token}
variable (opens : opening.opensGroup = true)

include opens

/-- The tokens of a group, with the parentheses around it. -/
theorem take_groupWidth (ends : EndsGroup tokens inside closing behind) :
    (opening :: tokens).take (groupWidth (opening :: tokens)) =
      opening :: (inside ++ closing.toList) := by
  have width : groupWidth (opening :: tokens) = (inside ++ closing.toList).length + 1 := by
    rw [groupWidth, if_pos opens, ofGroup_of_endsGroup opens ends, List.length_append, Nat.add_comm]
  rw [width, List.take_succ_cons, ends.split, ← List.append_assoc, List.take_left]

/-- The first OR in a group stands between its parentheses. -/
theorem orInGroup?_of_endsGroup (ends : EndsGroup tokens inside closing behind) :
    orInGroup? (opening :: tokens) =
      (inside.findIdx? fun token => token.kind == .keyword .OR).map (· + 1) := by
  have isOpening := Token.opensGroup_iff.mp opens
  have notClosing : (closing.toList.findIdx? fun token => token.kind == .keyword .OR) = none := by
    cases ends with
    | unclosed => rfl
    | closed _ _ closes => simp [Token.closesGroup_iff.mp closes]
  rw [orInGroup?, take_groupWidth opens ends, List.findIdx?_cons, List.findIdx?_append, notClosing]
  simp [isOpening]

/-- The rest of a predicate behind a group is that of the predicate in front of it, unless the group
holds an OR. -/
theorem ofPredicate_opening
    (inBetween : Bool)
    (opened : Nat) :
    ofPredicate inBetween opened (opening :: tokens) =
      match orInGroup? (opening :: tokens) with
      | some place => ⟨place, opened, true⟩
      | none =>
          let group := groupWidth (opening :: tokens)
          let behind := ofPredicate inBetween opened ((opening :: tokens).drop group)
          ⟨group + behind.width, behind.opened, behind.meetsOr⟩ := by
  have isOpening := Token.opensGroup_iff.mp opens
  obtain ⟨less, width⟩ : ∃ less, groupWidth (opening :: tokens) = less + 1 :=
    Nat.exists_eq_add_one.mpr (groupWidth_pos opens tokens)
  have isPositive : max 1 (less + 1) = less + 1 := by omega
  rw [ofPredicate, width, isPositive]
  cases orInGroup? (opening :: tokens) with
  | some place =>
      simp [Token.endsStatement, TokenKind.endsWhere, Token.closesGroup, Token.opensGroup, isOpening]
  | none =>
      simp [Token.endsStatement, TokenKind.endsWhere, Token.closesGroup, Token.opensGroup, isOpening]

end Groups

theorem exists_firstOr
    {tokens : List Token}
    (holdsOr : HoldsOr tokens) :
    ∃ front token back, tokens = front ++ token :: back ∧ token.kind = .keyword .OR ∧
      ¬ HoldsOr front := by
  induction tokens with
  | nil => simp [HoldsOr] at holdsOr
  | cons token rest ih =>
      by_cases isOr : token.kind = .keyword .OR
      · exact ⟨[], token, rest, rfl, isOr, by simp [HoldsOr]⟩
      · obtain ⟨front, later, back, rfl, isLaterOr, noOr⟩ :=
          ih ((holdsOr_cons_of_ne isOr rest).mp holdsOr)
        refine ⟨token :: front, later, back, rfl, isLaterOr, ?_⟩
        rwa [holdsOr_cons_of_ne isOr]

end Extent

namespace Parse

/-- Pass a group in parentheses in which no OR may stand. -/
def groupWithoutOr : Parse String := do
  match Extent.orInGroup? (← get).cursor.tokens with
  | some place =>
      modifyCursor (Cursor.passBy place)
      failUnsupported
  | none => group

/-- Pass the rest of a predicate, which may begin between a BETWEEN and its AND. -/
def restOfPredicate
    (inBetween : Bool)
    (opened : Nat) : Parse Nat := do
  let extent := Extent.ofPredicate inBetween opened (← get).cursor.tokens
  modifyCursor (Cursor.passBy extent.width)
  if extent.meetsOr then
    failUnsupported
  return extent.opened

theorem skipPredicate_eq (opened : Nat) : skipPredicate opened = restOfPredicate false opened :=
  rfl

theorem outcome_restOfPredicate
    (inBetween : Bool)
    (opened : Nat)
    (state : ParseState) :
    (restOfPredicate inBetween opened).outcome state =
      let extent := Extent.ofPredicate inBetween opened state.cursor.tokens
      let behind := { state with cursor := state.cursor.passBy extent.width }
      (if extent.meetsOr then .error behind.unsupported else .ok extent.opened, behind) := by
  unfold restOfPredicate
  rw [outcome_bind_of_ok (outcome_get state)]
  dsimp only
  rw [outcome_bind_of_ok (outcome_modifyCursor _ _)]
  split
  · rfl
  · rfl

end Parse

/-- The state behind a group whose opening parenthesis stands ahead. -/
def ParseState.behindGroup
    (state : ParseState)
    (inside : List Token)
    (closing : Option Token)
    (behind : List Token) : ParseState :=
  { state with
    cursor :=
      { state.cursor with
        tokens := behind
        placeholders := state.cursor.placeholders + inside.countP Token.isPlaceholder
        lastStop := ((inside ++ closing.toList).getLastD state.cursor.current).stop } }

namespace Parse

section Groups

variable {state : ParseState} {inside behind : List Token} {closing : Option Token}
variable (opens : state.cursor.current.opensGroup = true)

include opens

theorem outcome_group (ends : EndsGroup state.cursor.tokens.tail inside closing behind) :
    group.outcome state =
      (.ok (Text.slice state.text state.cursor.current.start
        ((closing.map Token.stop).getD state.text.utf8ByteSize)),
        state.behindGroup inside closing behind) := by
  have extent := Extent.ofGroup_of_endsGroup opens ends
  rw [← Cursor.tokens_of_opensGroup opens] at extent
  have stop : (if closing.isSome then ((inside ++ closing.toList).getLastD state.cursor.current).stop
      else state.text.utf8ByteSize) = (closing.map Token.stop).getD state.text.utf8ByteSize := by
    cases closing with
    | none => rfl
    | some last => simp
  unfold group
  rw [outcome_bind_of_ok (outcome_get state)]
  dsimp only
  rw [if_pos opens, outcome_bind_of_ok (outcome_modifyCursor _ _),
    outcome_bind_of_ok (outcome_lastStop _), Cursor.passBy_group opens ends]
  dsimp only
  rw [extent, stop]
  rfl

theorem outcome_groupWithoutOr_of_not_holdsOr
    (ends : EndsGroup state.cursor.tokens.tail inside closing behind)
    (noOr : ¬ Extent.HoldsOr inside) :
    groupWithoutOr.outcome state = group.outcome state := by
  have none : Extent.orInGroup? state.cursor.tokens = none := by
    rw [Cursor.tokens_of_opensGroup opens, Extent.orInGroup?_of_endsGroup opens ends,
      Option.map_eq_none_iff, List.findIdx?_eq_none_iff]
    intro token isInside
    simpa using fun isOr => noOr ⟨token, isInside, isOr⟩
  unfold groupWithoutOr
  rw [outcome_bind_of_ok (outcome_get state), none]

/-- The check for OR fails in front of the first one. -/
theorem outcome_groupWithoutOr_of_firstOr
    {front back : List Token}
    {token : Token}
    (ends : EndsGroup state.cursor.tokens.tail (front ++ token :: back) closing behind)
    (isOr : token.kind = .keyword .OR)
    (noOr : ¬ Extent.HoldsOr front) :
    groupWithoutOr.outcome state =
      (.error (.unsupportedToken token.literals),
        { state with cursor := state.cursor.passBy (1 + front.length) }) := by
  have notInFront : (front.findIdx? fun token => token.kind == .keyword .OR) = none := by
    rw [List.findIdx?_eq_none_iff]
    intro other isInFront
    simpa using fun isOtherOr => noOr ⟨other, isInFront, isOtherOr⟩
  have place : Extent.orInGroup? state.cursor.tokens = some (1 + front.length) := by
    rw [Cursor.tokens_of_opensGroup opens, Extent.orInGroup?_of_endsGroup opens ends,
      List.findIdx?_append, notInFront, List.findIdx?_cons, isOr]
    simp [Nat.add_comm]
  have behindFront : (state.cursor.passBy (1 + front.length)).tokens =
      token :: (back ++ (closing.toList ++ behind)) := by
    rw [Cursor.tokens_passBy, Cursor.tokens_of_opensGroup opens, Nat.add_comm, List.drop_succ_cons,
      ends.split]
    simp
  have ahead : (state.cursor.passBy (1 + front.length)).current = token := by
    rw [Cursor.current, behindFront]
    rfl
  unfold groupWithoutOr
  rw [outcome_bind_of_ok (outcome_get state), place]
  dsimp only
  rw [outcome_bind_of_ok (outcome_modifyCursor _ _), outcome_failUnsupported,
    ParseState.unsupported, ahead]

/-- A group in the rest of a predicate is passed with the check for OR. -/
theorem restOfPredicate_of_opensGroup
    (inBetween : Bool)
    (opened : Nat) :
    (restOfPredicate inBetween opened).outcome state =
      (groupWithoutOr >>= fun _ => restOfPredicate inBetween opened).outcome state := by
  have extent := @Extent.ofPredicate_opening _ state.cursor.tokens.tail opens inBetween opened
  rw [← Cursor.tokens_of_opensGroup opens] at extent
  rw [outcome_restOfPredicate, outcome_bind, extent]
  unfold groupWithoutOr
  rw [outcome_bind_of_ok (outcome_get state)]
  cases Extent.orInGroup? state.cursor.tokens with
  | some place => rfl
  | none =>
      obtain ⟨text, passed⟩ := exists_outcome_group state
      dsimp only
      rw [passed]
      dsimp only
      rw [outcome_restOfPredicate]
      dsimp only
      rw [Cursor.tokens_passBy, ← Cursor.passBy_add]

end Groups

end Parse

/-- How a group is passed whose opening parenthesis stands ahead.  No parenthesis inside closes a
group that is not open, so that the groups that are open can be counted up to the end. -/
structure ParseState.PassesGroup
    (state : ParseState)
    (inside : List Token)
    (closing : Option Token)
    (behind : List Token)
    (text : String) : Prop where
  ends : EndsGroup state.cursor.tokens.tail inside closing behind
  passes : Parse.group.outcome state = (.ok text, state.behindGroup inside closing behind)
  hasText : Text.HasPiece state.text.toList text.toList state.cursor.current.start
  stop : state.cursor.current.start + text.utf8ByteSize =
    (closing.map Token.stop).getD state.text.utf8ByteSize
  counts : ∀ front back, inside = front ++ back →
    closings front ≤ openings front ∧
      Extent.ofGroup 0 state.cursor.tokens =
        (Extent.ofGroup (1 + openings front - closings front)
          (back ++ (closing.toList ++ behind))).extendedBy (1 + front.length)
  refuses_iff : (∃ error, (Parse.groupWithoutOr.outcome state).1 = .error error) ↔
    Extent.HoldsOr inside
  refuses : ∀ front token back, inside = front ++ token :: back → token.kind = .keyword .OR →
    ¬ Extent.HoldsOr front →
      Parse.groupWithoutOr.outcome state =
        (.error (.unsupportedToken token.literals),
          { state with cursor := state.cursor.passBy (1 + front.length) })
  accepts : ¬ Extent.HoldsOr inside → Parse.groupWithoutOr.outcome state = Parse.group.outcome state
  checks : Parse.skipPredicate = Parse.restOfPredicate false ∧
    ∀ inBetween opened, (Parse.restOfPredicate inBetween opened).outcome state =
      (Parse.groupWithoutOr >>= fun _ => Parse.restOfPredicate inBetween opened).outcome state

namespace ParseState

section Groups

variable {state : ParseState} {inside behind : List Token} {closing : Option Token}
variable (opens : state.cursor.current.opensGroup = true)
variable (ends : EndsGroup state.cursor.tokens.tail inside closing behind)

include opens ends

/-- The ends of a group lie between characters of the text, one behind the other. -/
theorem isBoundary_of_endsGroup
    (areTokens : state.cursor.tokens <:+ (Cursor.ofText state.dialect state.text).tokens) :
    Text.IsBoundary state.text.toList state.cursor.current.start ∧
      Text.IsBoundary state.text.toList
        ((closing.map Token.stop).getD state.text.utf8ByteSize) ∧
      state.cursor.current.start ≤ (closing.map Token.stop).getD state.text.utf8ByteSize := by
  have split := Cursor.tokens_of_opensGroup opens
  rw [ends.split] at split
  obtain ⟨ordered, filled⟩ := Cursor.tokens_ofText_ordered state.dialect state.text
  have isFirst : state.cursor.current ∈ (Cursor.ofText state.dialect state.text).tokens :=
    areTokens.subset (by rw [split]; exact List.mem_cons_self)
  have begins := (Cursor.isSeam_of_mem isFirst).1.isBoundary
  refine ⟨begins, ?_⟩
  cases closing with
  | none =>
      have isEnd := Text.isBoundary_end state.text.toList
      have inText := begins.le
      rw [Text.byteLength_toList] at isEnd inText
      exact ⟨isEnd, inText⟩
  | some last =>
      have isMember : last ∈ inside ++ ([last] ++ behind) := by simp
      have isLast : last ∈ (Cursor.ofText state.dialect state.text).tokens :=
        areTokens.subset (by rw [split]; exact List.mem_cons_of_mem _ isMember)
      have inOrder := ordered.sublist areTokens.sublist
      rw [split, List.pairwise_cons] at inOrder
      have apart := inOrder.1 last isMember
      have firstFilled := filled _ isFirst
      have lastFilled := filled _ isLast
      refine ⟨(Cursor.isSeam_of_mem isLast).2.isBoundary, ?_⟩
      simp only [Option.map_some, Option.getD_some]
      omega

/-- The number of groups that are open at a token of a group. -/
theorem counts_of_endsGroup
    {front back : List Token}
    (split : inside = front ++ back) :
    closings front ≤ openings front ∧
      Extent.ofGroup 0 state.cursor.tokens =
        (Extent.ofGroup (1 + openings front - closings front)
          (back ++ (closing.toList ++ behind))).extendedBy (1 + front.length) := by
  have covers := ends.covers
  rw [split, covers_append_iff] at covers
  have noFewer := covers.1.closings_le
  rw [Nat.zero_add] at noFewer
  refine ⟨noFewer, ?_⟩
  rw [Cursor.tokens_of_opensGroup opens, Extent.ofGroup_opening opens, ends.split, split,
    List.append_assoc, Extent.ofGroup_append covers.1, Nat.zero_add]
  simp only [GroupExtent.extendedBy, Nat.add_assoc]

end Groups

/-- **A group in parentheses is passed exactly.**  The parse stands behind the parenthesis that
closes the group, or at the end of the text if there is none; it has the text in between and has
counted the placeholders inside.  The check for OR fails just when one stands inside, in front of the
first.  The tokens ahead are the last ones of the text, as they are wherever a parse stands. -/
theorem exists_passesGroup
    {state : ParseState}
    (areTokens : state.cursor.tokens <:+ (Cursor.ofText state.dialect state.text).tokens)
    (opens : state.cursor.current.opensGroup = true) :
    ∃ inside closing behind text, state.PassesGroup inside closing behind text := by
  obtain ⟨inside, closing, behind, ends⟩ := exists_endsGroup state.cursor.tokens.tail
  obtain ⟨begins, stops, ordered⟩ := isBoundary_of_endsGroup opens ends areTokens
  obtain ⟨hasText, stop⟩ := Text.hasPiece_slice begins stops ordered
  have passes := Parse.outcome_group opens ends
  have accepts := Parse.outcome_groupWithoutOr_of_not_holdsOr opens ends
  have refuses : ∀ front token back, inside = front ++ token :: back →
      token.kind = .keyword .OR → ¬ Extent.HoldsOr front →
        Parse.groupWithoutOr.outcome state =
          (.error (.unsupportedToken token.literals),
            { state with cursor := state.cursor.passBy (1 + front.length) }) := by
    rintro front token back rfl isOr noOr
    exact Parse.outcome_groupWithoutOr_of_firstOr opens ends isOr noOr
  refine ⟨inside, closing, behind, _,
    { ends, passes, hasText, stop, accepts, refuses
      counts := fun front back split => counts_of_endsGroup opens ends split
      refuses_iff := ?_
      checks := ⟨funext Parse.skipPredicate_eq,
        fun inBetween opened => Parse.restOfPredicate_of_opensGroup opens inBetween opened⟩ }⟩
  by_cases holdsOr : Extent.HoldsOr inside
  · obtain ⟨front, token, back, split, isOr, noOr⟩ := Extent.exists_firstOr holdsOr
    exact iff_of_true ⟨_, congrArg Prod.fst (refuses front token back split isOr noOr)⟩ holdsOr
  · refine iff_of_false ?_ holdsOr
    rw [accepts holdsOr, passes]
    rintro ⟨error, failed⟩
    cases failed

/-- The state in front of a text in MySQL. -/
def atText (text : String) : ParseState :=
  start .mysql Statement.userRule (Keys.ofRule Statement.userRule 0) text { kind := .select }

/-- A group with another one inside is passed exactly. -/
theorem exists_passesGroup_nested :
    (atText "(a, (?, ?)) x").cursor.current.opensGroup = true ∧
      ∃ inside closing behind text,
        (atText "(a, (?, ?)) x").PassesGroup inside closing behind text := by
  have opens : (atText "(a, (?, ?)) x").cursor.current.opensGroup = true := by decide +kernel
  exact ⟨opens, exists_passesGroup (List.suffix_refl _) opens⟩

end ParseState

end ShardedSql
