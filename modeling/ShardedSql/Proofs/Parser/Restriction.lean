import ShardedSql.Proofs.Parser.Opening
import ShardedSql.Proofs.Parser.Operand

/-!
# Restrictions of a column

A restriction compares a column with operands that are a placeholder, an integer or a string each: it
is an equality, a membership in a list, or a range.  This file says how its words are read.
-/

namespace ShardedSql

/-- A name that needs no quotes and is no keyword of a dialect. -/
structure PlainName (dialect : Dialect) where
  text : String
  isPlain : IsPlainName dialect text

/-- The content of a string that is written without a quote or a backslash in it. -/
structure PlainString where
  content : String
  noQuote : '\'' ∉ content.toList
  noBackslash : '\\' ∉ content.toList

/-- An operand that is a single token. -/
inductive PlainOperand where
  | placeholder
  | integer (literal : IntegerLiteral)
  | text (literal : PlainString)

namespace PlainOperand

/-- The word of the operand. -/
def word : PlainOperand → Word
  | .placeholder => .ofSymbol .question
  | .integer literal => .ofInteger literal
  | .text literal => .ofString literal.content

/-- The expression that the operand is behind a number of placeholders. -/
def expression
    (placeholders : Nat) : PlainOperand → Expression
  | .placeholder => .placeholder placeholders
  | .integer literal => .number (.integer (Int64.ofInt literal.value))
  | .text literal => .text literal.content

/-- The number of placeholders that the operand is. -/
def placeholders : PlainOperand → Nat
  | .placeholder => 1
  | _ => 0

/-- The expressions of operands behind a number of placeholders, from the left. -/
def expressions
    (placeholders : Nat) : List PlainOperand → List Expression
  | [] => []
  | operand :: rest =>
      operand.expression placeholders :: expressions (placeholders + operand.placeholders) rest

/-- The number of placeholders among operands. -/
def countPlaceholders : List PlainOperand → Nat
  | [] => 0
  | operand :: rest => operand.placeholders + countPlaceholders rest

theorem isValue_expression
    (operand : PlainOperand)
    (placeholders : Nat) :
    (operand.expression placeholders).isValue = true := by
  cases operand with
  | placeholder => rfl
  | integer literal => rfl
  | text literal => rfl

theorem isValue_of_mem_expressions
    {placeholders : Nat}
    {operands : List PlainOperand}
    {expression : Expression}
    (member : expression ∈ expressions placeholders operands) :
    expression.isValue = true := by
  induction operands generalizing placeholders with
  | nil => cases member
  | cons operand rest ih =>
      rcases List.mem_cons.mp member with rfl | isLater
      · exact operand.isValue_expression placeholders
      · exact ih isLater

theorem isSpelled_word
    (dialect : Dialect)
    (operand : PlainOperand) :
    operand.word.IsSpelled dialect := by
  cases operand with
  | placeholder => exact @Word.isSpelled_ofSymbol dialect .question '?' (by decide)
  | integer literal => exact Word.isSpelled_ofInteger literal
  | text literal => exact Word.isSpelled_ofString literal.noQuote literal.noBackslash

theorem kind_mem_valueKinds (operand : PlainOperand) :
    operand.word.kind ∈ TokenKind.valueKinds := by
  cases operand with
  | placeholder => simp [word, Word.ofSymbol, TokenKind.valueKinds]
  | integer literal => simp [word, Word.ofInteger, TokenKind.valueKinds]
  | text literal => simp [word, Word.ofString, TokenKind.valueKinds]

theorem numberText_source (literal : IntegerLiteral) :
    Parse.numberText literal.source = literal.source := by
  have digitsHaveNone : ∀ digit ∈ literal.digits,
      (digit == 'f' || digit == 'F' || digit == 'd' || digit == 'D') = false := by
    intro digit member
    have isDigit := literal.allDigits digit member
    simpa [and_assoc] using test_of_isDigit
      (fun digit => digit != 'f' && digit != 'F' && digit != 'd' && digit != 'D')
      (by decide) isDigit
  have noSuffix : ∀ character ∈ literal.characters,
      (character == 'f' || character == 'F' || character == 'd' || character == 'D') = false := by
    intro character member
    unfold IntegerLiteral.characters at member
    split at member
    next =>
      rcases List.mem_cons.mp member with rfl | isThere
      · decide
      · exact digitsHaveNone character isThere
    next => exact digitsHaveNone character member
  have source : literal.source.toList = literal.characters := String.toList_ofList
  unfold Parse.numberText
  rw [source]
  cases reversed : literal.characters.reverse with
  | nil =>
      have empty := List.reverse_eq_nil_iff.mp reversed
      rw [IntegerLiteral.source, empty]
      rfl
  | cons last others =>
      have isLast : last ∈ literal.characters := by
        rw [← List.mem_reverse, reversed]
        exact List.mem_cons_self
      rw [List.dropWhile_cons_of_neg (by simp [noSuffix last isLast]), ← reversed,
        List.reverse_reverse]
      rfl

/-- The token of an operand is the expression of the operand. -/
theorem expressionOf_of_word
    {token : Token}
    {operand : PlainOperand}
    (isWord : token.word = operand.word)
    (placeholders : Nat) :
    Parse.expressionOf token placeholders = operand.expression placeholders := by
  have kind : token.kind = operand.word.kind := congrArg Word.kind isWord
  have literals : token.literals = operand.word.literals := congrArg Word.literals isWord
  unfold Parse.expressionOf
  cases operand with
  | placeholder =>
      rw [kind]
      rfl
  | integer literal =>
      rw [kind, literals]
      change Parse.expressionOf.ofNumber literal.source = _
      rw [Parse.expressionOf.ofNumber, numberText_source, Value.ofLiteral, literal.read?_source]
      rfl
  | text literal =>
      rw [kind, literals]
      rfl

end PlainOperand

/-- A restriction of a column; a list has at least one member. -/
inductive Restriction where
  | equal (operand : PlainOperand)
  | among (first : PlainOperand) (others : List PlainOperand)
  | between (lower upper : PlainOperand)

namespace Restriction

/-- The operator of the restriction. -/
def operator : Restriction → ConditionOperator
  | .equal _ => .equal
  | .among _ _ => .among
  | .between _ _ => .between

/-- The operands of the restriction from the left. -/
def operands : Restriction → List PlainOperand
  | .equal operand => [operand]
  | .among first others => first :: others
  | .between lower upper => [lower, upper]

/-- The words behind the first member of a list, up to the parenthesis that closes it. -/
def memberWords : List PlainOperand → List Word
  | [] => [.ofSymbol .rightParen]
  | operand :: rest => .ofSymbol .comma :: operand.word :: memberWords rest

/-- The words of the restriction behind the name of its column. -/
def words : Restriction → List Word
  | .equal operand => [.ofSymbol .eq, operand.word]
  | .among first others =>
      .ofKeyword .IN :: .ofSymbol .leftParen :: first.word :: memberWords others
  | .between lower upper => [.ofKeyword .BETWEEN, lower.word, .ofKeyword .AND, upper.word]

/-- The condition that the restriction puts on a column behind a number of placeholders. -/
def condition
    (restriction : Restriction)
    (column : Column)
    (placeholders : Nat) : Condition :=
  ⟨column, restriction.operator, PlainOperand.expressions placeholders restriction.operands⟩

/-- The number of placeholders in the restriction. -/
def placeholders (restriction : Restriction) : Nat :=
  PlainOperand.countPlaceholders restriction.operands

section Spelling

variable (dialect : Dialect)

theorem isSpelled_memberWords (operands : List PlainOperand) :
    ∀ word ∈ memberWords operands, word.IsSpelled dialect := by
  induction operands with
  | nil =>
      rw [memberWords, List.forall_mem_singleton]
      exact @Word.isSpelled_ofSymbol dialect .rightParen ')' (by decide)
  | cons operand rest ih =>
      rw [memberWords, List.forall_mem_cons, List.forall_mem_cons]
      exact ⟨@Word.isSpelled_ofSymbol dialect .comma ',' (by decide),
        operand.isSpelled_word dialect, ih⟩

theorem isSpelled_words (restriction : Restriction) :
    ∀ word ∈ restriction.words, word.IsSpelled dialect := by
  cases restriction with
  | equal operand =>
      rw [words, List.forall_mem_cons, List.forall_mem_singleton]
      exact ⟨@Word.isSpelled_ofSymbol dialect .eq '=' (by decide), operand.isSpelled_word dialect⟩
  | among first others =>
      rw [words, List.forall_mem_cons, List.forall_mem_cons, List.forall_mem_cons]
      exact ⟨Word.isSpelled_ofKeyword (by decide),
        @Word.isSpelled_ofSymbol dialect .leftParen '(' (by decide),
        first.isSpelled_word dialect, isSpelled_memberWords dialect others⟩
  | between lower upper =>
      rw [words, List.forall_mem_cons, List.forall_mem_cons, List.forall_mem_cons,
        List.forall_mem_singleton]
      exact ⟨Word.isSpelled_ofKeyword (by decide), lower.isSpelled_word dialect,
        Word.isSpelled_ofKeyword (by decide), upper.isSpelled_word dialect⟩

end Spelling

end Restriction

namespace Place

variable {place : Place} {rest : List Word}

/-- An operand in front of a word that does not go on with it. -/
theorem operand_of_faces
    {operand : PlainOperand}
    (faces : place.Faces (operand.word :: rest))
    (ends : (Word.kindAhead rest).continuesOperand = false) :
    place.operand = (operand.expression place.placeholders, place.passBy 1) := by
  have behind := faces.passBy.ahead_kind
  have isLone : place.IsLoneValue := by
    refine ⟨?_, by rwa [behind]⟩
    rw [PlainOperand.expressionOf_of_word faces.ahead_word]
    exact operand.isValue_expression _
  rw [isLone.operand_eq, PlainOperand.expressionOf_of_word faces.ahead_word]

theorem placeholders_of_faces
    {operand : PlainOperand}
    (faces : place.Faces (operand.word :: rest)) :
    (place.passBy 1).placeholders = place.placeholders + operand.placeholders := by
  rw [faces.placeholders_passBy]
  cases operand with
  | placeholder => rfl
  | integer literal => rfl
  | text literal => rfl

/-- The name of a column in front of an operator. -/
theorem operand_of_faces_name
    {name : String}
    (unquoted : unquoteName name = name)
    (faces : place.Faces (.ofName name :: rest))
    (ends : (Word.kindAhead rest).continuesOperand = false) :
    place.operand = (.identifier name, place.passBy 1) ∧
      (place.passBy 1).placeholders = place.placeholders := by
  have behind := faces.passBy.ahead_kind
  have isAlone : (place.passBy 1).ahead.kind.continuesOperand = false := by rwa [behind]
  have noOwner : (place.passBy 1).ahead.kind ≠ .symbol .dot := by
    intro isDot
    rw [isDot] at isAlone
    cases isAlone
  have isIdentifier : place.ahead.kind.isIdentifier = true := by
    rw [faces.kind]
    rfl
  refine ⟨?_, ?_⟩
  · rw [operand_of_isAlone noOwner isAlone, expressionOf_of_isIdentifier isIdentifier,
      faces.literals]
    change (Expression.identifier (unquoteName name), _) = _
    rw [unquoted]
  · rw [faces.placeholders_passBy]
    rfl

/-- A list that begins with an operand has it as its first member. -/
theorem members?_of_operand
    {operand : PlainOperand}
    (faces : place.Faces (operand.word :: rest))
    (ends : (Word.kindAhead rest).continuesOperand = false) :
    place.members? =
      (place.passBy 1).members?.map fun (others, behind) => (place :: others, behind) := by
  have notParen : place.ahead.kind ≠ .symbol .rightParen := by
    rw [faces.kind]
    cases operand <;> nofun
  have notFinish : place.ahead.kind ≠ .finish := by
    rw [faces.kind]
    cases operand <;> nofun
  have notComma : place.ahead.kind ≠ .symbol .comma := by
    rw [faces.kind]
    cases operand <;> nofun
  rw [members?_eq, if_neg notParen, if_neg notFinish, if_neg notComma, operand_of_faces faces ends]

theorem members?_of_comma (faces : place.Faces (.ofSymbol .comma :: rest)) :
    place.members? = place.advance.members? := by
  have comma : place.ahead.kind = .symbol .comma := faces.kind
  rw [members?_eq, comma]
  rfl

theorem continuesOperand_memberWords (operands : List PlainOperand) :
    (Word.kindAhead (Restriction.memberWords operands ++ rest)).continuesOperand = false := by
  cases operands with
  | nil => rfl
  | cons operand operands => rfl

/-- The members behind the first one of a list. -/
theorem members?_of_faces
    {operands : List PlainOperand}
    (faces : place.Faces (Restriction.memberWords operands ++ rest)) :
    ∃ starts behind, place.members? = some (starts, behind) ∧
      starts.map (fun start => start.operand.1) =
        PlainOperand.expressions place.placeholders operands ∧
      behind.Faces rest ∧
      behind.placeholders = place.placeholders + PlainOperand.countPlaceholders operands := by
  induction operands generalizing place with
  | nil =>
      have closes : place.ahead.kind = .symbol .rightParen := faces.kind
      refine ⟨[], place.advance, ?_, rfl, faces.advance, rfl⟩
      rw [members?_eq, if_pos closes]
  | cons operand operands ih =>
      have facesMember : place.advance.Faces
          (operand.word :: (Restriction.memberWords operands ++ rest)) := faces.advance
      have ends := @continuesOperand_memberWords rest operands
      have counted := placeholders_of_faces facesMember
      obtain ⟨starts, behind, listed, expressions, facesRest, placeholders⟩ :=
        ih facesMember.passBy
      refine ⟨place.advance :: starts, behind, ?_, ?_, facesRest, ?_⟩
      · rw [members?_of_comma faces, members?_of_operand facesMember ends, listed]
        rfl
      · rw [List.map_cons, operand_of_faces facesMember ends, expressions, counted]
        rfl
      · rw [placeholders, counted, PlainOperand.countPlaceholders, ← Nat.add_assoc]
        rfl

/-- What the reading of a restriction finds, from the name of its column to the words behind it. -/
structure Finds
    (place : Place)
    (name : String)
    (restriction : Restriction)
    (rest : List Word)
    (starts : List Place)
    (behind : Place) : Prop where
  compares : place.comparison? =
    some (some ⟨.identifier name, restriction.operator, starts⟩, behind)
  operands : starts.map (fun start => start.operand.1) =
    PlainOperand.expressions place.placeholders restriction.operands
  faces : behind.Faces rest
  placeholders : behind.placeholders = place.placeholders + restriction.placeholders

section Forms

variable {name : String}

theorem exists_finds_equal
    {operand : PlainOperand}
    (unquoted : unquoteName name = name)
    (faces : place.Faces (.ofName name :: .ofSymbol .eq :: operand.word :: rest))
    (ends : (Word.kindAhead rest).continuesOperand = false) :
    ∃ starts behind, place.Finds name (.equal operand) rest starts behind := by
  obtain ⟨left, before⟩ := operand_of_faces_name unquoted faces rfl
  have facesSign := faces.passBy
  have isSign : (place.passBy 1).ahead.kind = .symbol .eq := facesSign.kind
  have facesOperand := facesSign.advance
  have right := operand_of_faces facesOperand ends
  have atOperand : (place.passBy 1).advance.placeholders = place.placeholders := before
  refine ⟨[(place.passBy 1).advance], (place.passBy 1).advance.passBy 1, ?_, ?_,
    facesOperand.passBy, ?_⟩
  · unfold comparison?
    rw [left]
    dsimp only
    rw [isSign, right]
    rfl
  · rw [List.map_singleton, right, atOperand]
    rfl
  · rw [placeholders_of_faces facesOperand, atOperand]
    rfl

theorem exists_finds_among
    {first : PlainOperand}
    {others : List PlainOperand}
    (unquoted : unquoteName name = name)
    (faces : place.Faces (.ofName name :: .ofKeyword .IN :: .ofSymbol .leftParen :: first.word ::
      (Restriction.memberWords others ++ rest))) :
    ∃ starts behind, place.Finds name (.among first others) rest starts behind := by
  obtain ⟨left, before⟩ := operand_of_faces_name unquoted faces rfl
  have facesWord := faces.passBy
  have isWord : (place.passBy 1).ahead.kind = .keyword .IN := facesWord.kind
  have opens : (place.passBy 1).advance.ahead.kind = .symbol .leftParen := facesWord.advance.kind
  have facesFirst := facesWord.advance.advance
  have notNested : (place.passBy 1).advance.advance.ahead.kind ≠ .keyword .SELECT := by
    rw [facesFirst.kind]
    cases first <;> nofun
  have atFirst : (place.passBy 1).advance.advance.placeholders = place.placeholders := before
  have ends := @continuesOperand_memberWords rest others
  have counted := placeholders_of_faces facesFirst
  obtain ⟨starts, behind, listed, expressions, facesRest, placeholders⟩ :=
    members?_of_faces facesFirst.passBy
  refine ⟨(place.passBy 1).advance.advance :: starts, behind, ?_, ?_, facesRest, ?_⟩
  · unfold comparison?
    rw [left]
    dsimp only
    rw [isWord]
    dsimp only
    rw [membership?, if_pos ⟨opens, notNested⟩, members?_of_operand facesFirst ends, listed]
    rfl
  · rw [List.map_cons, operand_of_faces facesFirst ends, expressions, counted, atFirst]
    rfl
  · rw [placeholders, counted, atFirst, Nat.add_assoc]
    rfl

theorem exists_finds_between
    {lower upper : PlainOperand}
    (unquoted : unquoteName name = name)
    (faces : place.Faces (.ofName name :: .ofKeyword .BETWEEN :: lower.word :: .ofKeyword .AND ::
      upper.word :: rest))
    (ends : (Word.kindAhead rest).continuesOperand = false) :
    ∃ starts behind, place.Finds name (.between lower upper) rest starts behind := by
  obtain ⟨left, before⟩ := operand_of_faces_name unquoted faces rfl
  have facesWord := faces.passBy
  have isWord : (place.passBy 1).ahead.kind = .keyword .BETWEEN := facesWord.kind
  have facesLower := facesWord.advance
  have lowerRead := operand_of_faces facesLower rfl
  have atLower : (place.passBy 1).advance.placeholders = place.placeholders := before
  have facesAnd := facesLower.passBy
  have isAnd : ((place.passBy 1).advance.passBy 1).ahead.kind = .keyword .AND := facesAnd.kind
  have facesUpper := facesAnd.advance
  have upperRead := operand_of_faces facesUpper ends
  have atUpper : ((place.passBy 1).advance.passBy 1).advance.placeholders =
      place.placeholders + lower.placeholders := by
    rw [← atLower]
    exact placeholders_of_faces facesLower
  refine ⟨[(place.passBy 1).advance, ((place.passBy 1).advance.passBy 1).advance],
    ((place.passBy 1).advance.passBy 1).advance.passBy 1, ?_, ?_, facesUpper.passBy, ?_⟩
  · unfold comparison?
    rw [left]
    dsimp only
    rw [isWord]
    dsimp only
    rw [range?, lowerRead]
    dsimp only
    rw [if_pos isAnd, upperRead]
    rfl
  · rw [List.map_cons, List.map_singleton, lowerRead, upperRead, atLower, atUpper]
    rfl
  · rw [placeholders_of_faces facesUpper, atUpper, Nat.add_assoc]
    rfl

/-- A restriction is read as it is meant, in front of a word that does not go on with its last
operand. -/
theorem exists_finds
    {restriction : Restriction}
    (unquoted : unquoteName name = name)
    (faces : place.Faces (.ofName name :: (restriction.words ++ rest)))
    (ends : (Word.kindAhead rest).continuesOperand = false) :
    ∃ starts behind, place.Finds name restriction rest starts behind := by
  cases restriction with
  | equal operand => exact exists_finds_equal unquoted faces ends
  | among first others => exact exists_finds_among unquoted faces
  | between lower upper => exact exists_finds_between unquoted faces ends

end Forms

end Place

/-- Whether a predicate states the condition of a restriction on a column of the only table, if some
strategy may choose by the column. -/
def PredicateReading.Restricts
    (reading : PredicateReading)
    (name : String)
    (restriction : Restriction)
    (placeholders : Nat) : Prop :=
  ∀ (rule : Rule) (table : String),
    reading.compared.bind (Comparison.condition? rule ⟨[⟨table, none⟩]⟩) =
      (some (restriction.condition ⟨name, table⟩ placeholders)).filter fun condition =>
        rule.isShardingColumn condition.column

namespace Place

variable {place : Place} {rest : List Word} {name : String} {restriction : Restriction}

theorem Finds.condition?_eq
    {starts : List Place}
    {behind : Place}
    (finds : place.Finds name restriction rest starts behind)
    (rule : Rule)
    (table : String) :
    Comparison.condition? rule ⟨[⟨table, none⟩]⟩
        ⟨.identifier name, restriction.operator, starts⟩ =
      (some (restriction.condition ⟨name, table⟩ place.placeholders)).filter fun condition =>
        rule.isShardingColumn condition.column := by
  have operands := finds.operands
  have someOperand : starts ≠ [] := by
    rintro rfl
    cases restriction <;> cases operands
  have valued : (starts.all fun start => start.operand.1.isValue) = true := by
    rw [List.all_eq_true]
    intro start member
    have isOperand : start.operand.1 ∈ starts.map fun start => start.operand.1 :=
      List.mem_map_of_mem member
    rw [operands] at isOperand
    exact PlainOperand.isValue_of_mem_expressions isOperand
  unfold Comparison.condition? Comparison.operands
  rw [if_pos ⟨someOperand, valued⟩, operands]
  change ((some (Column.mk name table)).filter rule.isShardingColumn).map _ = _
  cases isSharding : rule.isShardingColumn ⟨name, table⟩ with
  | true => simp [Option.filter, isSharding, Restriction.condition]
  | false => simp [Option.filter, isSharding, Restriction.condition]

/-- A restriction in parentheses is read as one predicate.  A parenthesis behind those that are closed
with it closes none of the groups. -/
theorem exists_predicate?
    {opened leading trailing : Nat}
    (unquoted : unquoteName name = name)
    (faces : place.Faces (List.replicate leading (.ofSymbol .leftParen) ++ (.ofName name ::
      (restriction.words ++ (List.replicate trailing (.ofSymbol .rightParen) ++ rest)))))
    (enough : trailing ≤ opened + leading)
    (closes : Word.kindAhead rest = .symbol .rightParen → trailing = opened + leading)
    (ends : (Word.kindAhead rest).continuesOperand = false) :
    ∃ reading, place.predicate? opened = some reading ∧
      reading.groups = opened + leading - trailing ∧
      reading.inside.Faces rest ∧
      reading.inside.placeholders = place.placeholders + restriction.placeholders ∧
      reading.Restricts name restriction place.placeholders := by
  obtain ⟨further, facesName, notCounted⟩ := faces.passBy_replicate nofun nofun
  have endsBehind : (Word.kindAhead (List.replicate trailing (.ofSymbol .rightParen) ++
      rest)).continuesOperand = false := by
    cases trailing with
    | zero => exact ends
    | succ trailing => rfl
  obtain ⟨starts, behind, finds⟩ := exists_finds unquoted facesName endsBehind
  obtain ⟨-, facesRest, notCountedBehind⟩ := finds.faces.behind_replicate nofun
  have startsOperand : (place.passBy leading).startsOperand = true := by
    rw [Place.startsOperand, facesName.kind]
    rfl
  have read : place.predicate? opened = some (behind.predicateRest (opened + leading)
      (some ⟨.identifier name, restriction.operator, starts⟩) place) := by
    have opensGroup : (place.tokens.takeWhile Token.opensGroup).length = leading := further
    rw [predicate?, opensGroup, compared?, startsOperand, if_pos rfl, finds.compares]
    rfl
  have closesGroup : min (opened + leading)
      (behind.tokens.takeWhile Token.closesGroup).length = trailing := by
    by_cases isParen : Word.kindAhead rest = .symbol .rightParen
    · obtain ⟨counted, -, -⟩ := finds.faces.behind_replicate nofun
      have atLeast : trailing ≤ (behind.tokens.takeWhile Token.closesGroup).length :=
        counted ▸ Nat.le_add_right _ _
      have balanced := closes isParen
      omega
    · obtain ⟨counted, -, -⟩ := finds.faces.passBy_replicate isParen nofun
      have exactly : (behind.tokens.takeWhile Token.closesGroup).length = trailing := counted
      omega
  refine ⟨_, read, ?_, ?_, ?_, ?_⟩
  · rw [predicateRest, closesGroup]
  · rw [predicateRest, closesGroup]
    exact facesRest
  · rw [predicateRest, closesGroup]
    exact notCountedBehind.trans (finds.placeholders.trans (by rw [notCounted]))
  · intro rule table
    rw [← notCounted]
    exact finds.condition?_eq rule table

end Place

end ShardedSql
