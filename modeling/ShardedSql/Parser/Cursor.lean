import ShardedSql.Token.Lexer

/-!
# Walking over tokens

A cursor stands in front of a token and knows how many placeholders lie behind it.  The parts of a
statement that are read over are measured first, as a number of tokens, and then skipped in one go.
-/

namespace ShardedSql

namespace TokenKind

/-- Whether a token is an identifier or a keyword that may be one. -/
def isIdentifier : TokenKind → Bool
  | .literal .identifier => true
  | .keyword word => !word.isReserved
  | _ => false

/-- Whether a token can name a table, a column or an alias. -/
def isName (kind : TokenKind) : Bool :=
  kind.isIdentifier || kind == .literal .chars

/-- The operators that make an expression composite. -/
def isCompositeOperator : TokenKind → Bool
  | .symbol .plus => true
  | .symbol .sub => true
  | .symbol .star => true
  | .symbol .slash => true
  | .symbol .percent => true
  | .symbol .amp => true
  | .symbol .bar => true
  | .symbol .doubleAmp => true
  | .symbol .doubleBar => true
  | .symbol .caret => true
  | .symbol .dot => true
  | _ => false

/-- The keywords that end a WHERE clause. -/
def endsWhere : TokenKind → Bool
  | .keyword .GROUP => true
  | .keyword .ORDER => true
  | .keyword .HAVING => true
  | .keyword .LIMIT => true
  | .keyword .OFFSET => true
  | .keyword .FETCH => true
  | .keyword .UNION => true
  | .keyword .INTERSECT => true
  | .keyword .EXCEPT => true
  | .keyword .MINUS => true
  | .keyword .FOR => true
  | .keyword .LOCK => true
  | _ => false

/-- The tokens that end an item of a select list. -/
def endsItem : TokenKind → Bool
  | .symbol .comma => true
  | .symbol .rightParen => true
  | .keyword .AS => true
  | .keyword .FROM => true
  | .keyword .INTO => true
  | .keyword .WHERE => true
  | .keyword .GROUP => true
  | .keyword .ORDER => true
  | .keyword .HAVING => true
  | .keyword .LIMIT => true
  | .keyword .OFFSET => true
  | .keyword .FETCH => true
  | .keyword .UNION => true
  | .keyword .INTERSECT => true
  | .keyword .EXCEPT => true
  | .keyword .MINUS => true
  | _ => false

/-- The tokens that end an assignment. -/
def endsAssignment : TokenKind → Bool
  | .symbol .comma => true
  | .keyword .WHERE => true
  | .keyword .ORDER => true
  | .keyword .LIMIT => true
  | _ => false

end TokenKind

namespace Token

/-- Whether the token is a placeholder. -/
def isPlaceholder (token : Token) : Bool :=
  token.kind == .symbol .question

/-- Whether the token opens a group. -/
def opensGroup (token : Token) : Bool :=
  token.kind == .symbol .leftParen

/-- Whether the token closes a group. -/
def closesGroup (token : Token) : Bool :=
  token.kind == .symbol .rightParen

/-- Whether the token ends a statement. -/
def endsStatement (token : Token) : Bool :=
  token.kind == .finish || token.kind == .symbol .semi

end Token

/-- A number of tokens at the front, and whether they end with the parenthesis that closes them. -/
structure GroupExtent where
  width : Nat
  isClosed : Bool
  deriving DecidableEq

/-- How far the rest of a predicate reaches, how many groups are open behind it, and whether an OR
stands there. -/
structure PredicateExtent where
  width : Nat
  opened : Nat
  meetsOr : Bool
  deriving DecidableEq

/-- How far the rest of a select item reaches, and whether it meets a token that fits no class. -/
structure ItemExtent where
  width : Nat
  meetsUnknown : Bool
  deriving DecidableEq

namespace Extent

/-- The extent of the tokens up to the parenthesis that closes `opened` groups, or of all tokens. -/
def ofGroup (opened : Nat) : List Token → GroupExtent
  | [] => ⟨0, false⟩
  | token :: rest =>
      if token.opensGroup then
        let inner := ofGroup (opened + 1) rest
        ⟨inner.width + 1, inner.isClosed⟩
      else if token.closesGroup && opened ≤ 1 then
        ⟨1, true⟩
      else
        let inner := ofGroup (if token.closesGroup then opened - 1 else opened) rest
        ⟨inner.width + 1, inner.isClosed⟩

/-- The number of tokens of the group in parentheses at the front; none without an opening
parenthesis. -/
def groupWidth (tokens : List Token) : Nat :=
  match tokens with
  | token :: _ => if token.opensGroup then (ofGroup 0 tokens).width else 0
  | [] => 0

/-- The number of tokens of the operators at the front with their operands.  An operand is one token
with a group behind it; it may be missing at the end of the text, which counts as a token. -/
def operatorsWidth (tokens : List Token) : Nat :=
  match tokens with
  | [] => 0
  | [operator] => if operator.kind.isCompositeOperator then 2 else 0
  | operator :: _ :: rest =>
      if operator.kind.isCompositeOperator then
        2 + groupWidth rest + operatorsWidth (rest.drop (groupWidth rest))
      else
        0
termination_by tokens.length
decreasing_by
  simp only [List.length_drop, List.length_cons]
  omega

/-- The number of tokens that make the operand in front of them composite: arguments in parentheses
and operators. -/
def compositeWidth (tokens : List Token) : Nat :=
  groupWidth tokens + operatorsWidth (tokens.drop (groupWidth tokens))

/-- The place of the first OR within the group at the front. -/
def orInGroup? (tokens : List Token) : Option Nat :=
  (tokens.take (groupWidth tokens)).findIdx? fun token => token.kind == .keyword .OR

/-- The extent of the rest of a predicate, up to the AND behind it, the end of the clause, or a
parenthesis that closes none of its groups.  The AND of a BETWEEN belongs to the predicate. -/
def ofPredicate
    (inBetween : Bool)
    (opened : Nat)
    (tokens : List Token) : PredicateExtent :=
  match tokens with
  | [] => ⟨0, opened, false⟩
  | token :: rest =>
      let continued := fun (inBetween : Bool) (opened : Nat) =>
        let inner := ofPredicate inBetween opened rest
        PredicateExtent.mk (inner.width + 1) inner.opened inner.meetsOr
      if token.endsStatement || token.kind.endsWhere then
        ⟨0, opened, false⟩
      else if token.kind = .keyword .OR then
        ⟨0, opened, true⟩
      else if token.kind = .keyword .AND then
        if inBetween then continued false opened else ⟨0, opened, false⟩
      else if token.kind = .keyword .BETWEEN then
        continued true opened
      else if token.closesGroup then
        if opened = 0 then ⟨0, opened, false⟩ else continued inBetween (opened - 1)
      else if token.opensGroup then
        match orInGroup? tokens with
        | some place => ⟨place, opened, true⟩
        | none =>
            let group := max 1 (groupWidth tokens)
            let inner := ofPredicate inBetween opened (rest.drop (group - 1))
            ⟨group + inner.width, inner.opened, inner.meetsOr⟩
      else
        continued inBetween opened
termination_by tokens.length
decreasing_by
  all_goals simp only [List.length_drop, List.length_cons]
  all_goals omega

/-- The extent of the rest of a select item, up to its end or a bare alias.  A name behind an operand
is an alias. -/
def ofItem
    (afterOperand : Bool)
    (tokens : List Token) : ItemExtent :=
  match tokens with
  | [] => ⟨0, false⟩
  | token :: rest =>
      let continued := fun (afterOperand : Bool) =>
        let inner := ofItem afterOperand rest
        ItemExtent.mk (inner.width + 1) inner.meetsUnknown
      if token.endsStatement || token.kind.endsItem then
        ⟨0, false⟩
      else if token.opensGroup then
        let group := max 1 (groupWidth tokens)
        let inner := ofItem true (rest.drop (group - 1))
        ⟨group + inner.width, inner.meetsUnknown⟩
      else if token.isPlaceholder then
        continued true
      else if token.kind.isName then
        if afterOperand then ⟨0, false⟩ else continued true
      else
        match token.kind with
        | .literal _ => continued true
        | .keyword .END => continued true
        | .keyword .NULL => continued true
        | .unknown => ⟨0, true⟩
        | _ => continued false
termination_by tokens.length
decreasing_by
  all_goals simp only [List.length_drop, List.length_cons]
  all_goals omega

/-- The number of tokens of the rest of an assignment. -/
def assignmentWidth (tokens : List Token) : Nat :=
  match tokens with
  | [] => 0
  | token :: rest =>
      if token.endsStatement || token.kind.endsAssignment then
        0
      else
        let group := max 1 (groupWidth tokens)
        group + assignmentWidth (rest.drop (group - 1))
termination_by tokens.length
decreasing_by
  simp only [List.length_drop, List.length_cons]
  omega

/-- The number of tokens in front of the first one of the given kinds. -/
def widthUntil
    (kinds : List TokenKind)
    (tokens : List Token) : Nat :=
  (tokens.takeWhile fun token => !kinds.contains token.kind).length

/-- The number of tokens of a clause that locks rows, which a query in parentheses closes. -/
def lockWidth (tokens : List Token) : Nat :=
  (tokens.takeWhile fun token => !(token.endsStatement || token.closesGroup)).length

end Extent

/-- A place among the tokens of a text: the tokens from here on without the end of the text, the
place of that end, the number of placeholders passed and the end of the token passed last. -/
structure Cursor where
  tokens : List Token
  textLength : Nat
  placeholders : Nat := 0
  lastStop : Nat := 0
  deriving DecidableEq

namespace Cursor

/-- The cursor in front of the first token of a text. -/
def ofText
    (dialect : Dialect)
    (text : String) : Cursor :=
  { tokens := (Lexer.tokens dialect text).filter fun token => token.kind != .finish
    textLength := text.utf8ByteSize }

/-- The token behind the cursor, which is the end of the text when no other is left. -/
def current (cursor : Cursor) : Token :=
  cursor.tokens.head?.getD (Token.finish cursor.textLength)

/-- Pass a token without counting it as a placeholder. -/
def advance (cursor : Cursor) : Cursor :=
  { cursor with
    tokens := cursor.tokens.tail
    lastStop := cursor.current.stop }

/-- Pass a token and count it if it is a placeholder. -/
def pass (cursor : Cursor) : Cursor :=
  let placeholders := cursor.placeholders + if cursor.current.isPlaceholder then 1 else 0
  { cursor.advance with placeholders := placeholders }

/-- Pass a number of tokens without counting placeholders. -/
def advanceBy : Nat → Cursor → Cursor
  | 0, cursor => cursor
  | count + 1, cursor => advanceBy count cursor.advance

/-- Pass a number of tokens and count the placeholders among them. -/
def passBy : Nat → Cursor → Cursor
  | 0, cursor => cursor
  | count + 1, cursor => passBy count cursor.pass

end Cursor

end ShardedSql
