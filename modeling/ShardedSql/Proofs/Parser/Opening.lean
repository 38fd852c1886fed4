import ShardedSql.Proofs.Parser.Phases
import ShardedSql.Proofs.Token.Spelling

/-!
# Statements on one table

A query of all columns of a table and a DELETE on it come to their WHERE clause without any condition,
and with this table only.  Behind the clause they end where no keyword stands.
-/

namespace ShardedSql

/-- The class of the first word, or the end of the text. -/
def Word.kindAhead (words : List Word) : TokenKind :=
  (words.head?.map Word.kind).getD .finish

namespace Place

/-- Whether the tokens ahead are the given words. -/
def Faces
    (place : Place)
    (words : List Word) : Prop :=
  place.tokens.map Token.word = words

section Faces

variable {place : Place} {word : Word} {words : List Word}

theorem Faces.exists_cons (faces : place.Faces (word :: words)) :
    ∃ token rest, place.tokens = token :: rest ∧ token.word = word ∧
      rest.map Token.word = words := by
  obtain ⟨token, rest, tokens, isWord, others⟩ := List.map_eq_cons_iff.mp faces
  exact ⟨token, rest, tokens, isWord, others⟩

theorem Faces.ahead_word (faces : place.Faces (word :: words)) :
    place.ahead.word = word := by
  obtain ⟨token, rest, tokens, isWord, -⟩ := faces.exists_cons
  simp [ahead, tokens, isWord]

theorem Faces.kind (faces : place.Faces (word :: words)) :
    place.ahead.kind = word.kind :=
  congrArg Word.kind faces.ahead_word

theorem Faces.source (faces : place.Faces (word :: words)) :
    place.ahead.source = word.source :=
  congrArg Word.source faces.ahead_word

theorem Faces.literals (faces : place.Faces (word :: words)) :
    place.ahead.literals = word.literals :=
  congrArg Word.literals faces.ahead_word

theorem Faces.advance (faces : place.Faces (word :: words)) :
    place.advance.Faces words := by
  obtain ⟨token, rest, tokens, -, others⟩ := faces.exists_cons
  simpa [Faces, Place.advance, tokens] using others

theorem Faces.passBy (faces : place.Faces (word :: words)) :
    (place.passBy 1).Faces words := by
  obtain ⟨token, rest, tokens, -, others⟩ := faces.exists_cons
  simpa [Faces, Place.passBy, tokens] using others

theorem Faces.placeholders_passBy (faces : place.Faces (word :: words)) :
    (place.passBy 1).placeholders =
      place.placeholders + if word.kind = .symbol .question then 1 else 0 := by
  obtain ⟨token, rest, tokens, rfl, -⟩ := faces.exists_cons
  by_cases isPlaceholder : token.kind = .symbol .question
  · simp [Place.passBy, tokens, Token.isPlaceholder, Token.word, isPlaceholder]
  · simp [Place.passBy, tokens, Token.isPlaceholder, Token.word, isPlaceholder]

theorem Faces.tokens_eq_nil (faces : place.Faces []) :
    place.tokens = [] :=
  List.map_eq_nil_iff.mp faces

/-- The class of the word ahead, or the end of the text. -/
theorem Faces.ahead_kind (faces : place.Faces words) :
    place.ahead.kind = Word.kindAhead words := by
  cases words with
  | nil => simp [ahead, faces.tokens_eq_nil, Token.finish, Word.kindAhead]
  | cons word words => exact faces.kind

/-- Words of one class that stand in a row, and what stands behind them. -/
theorem Faces.behind_replicate
    {count : Nat}
    (faces : place.Faces (List.replicate count word ++ words))
    (notPlaceholder : word.kind ≠ .symbol .question) :
    (place.tokens.takeWhile fun token => token.kind == word.kind).length =
        count + ((place.passBy count).tokens.takeWhile fun token =>
          token.kind == word.kind).length ∧
      (place.passBy count).Faces words ∧
        (place.passBy count).placeholders = place.placeholders := by
  obtain ⟨front, behind, tokens, areSame, others⟩ := List.map_eq_append_iff.mp faces
  have length : front.length = count := by
    rw [← List.length_map Token.word, areSame, List.length_replicate]
  have same : ∀ token ∈ front, token.kind = word.kind := by
    intro token member
    have isWord : token.word ∈ List.replicate count word := by
      rw [← areSame]
      exact List.mem_map_of_mem member
    exact congrArg Word.kind (List.eq_of_mem_replicate isWord)
  have passed : (place.passBy count).tokens = behind := by
    rw [Place.passBy, tokens, ← length, List.drop_left]
  refine ⟨?_, ?_, ?_⟩
  · rw [passed, tokens, List.takeWhile_append_of_pos (by simpa using same), List.length_append,
      length]
  · rw [Faces, passed, others]
  · have noneCounted : front.countP Token.isPlaceholder = 0 := by
      rw [List.countP_eq_zero]
      intro token member
      simpa [Token.isPlaceholder, same token member] using notPlaceholder
    simp only [Place.passBy, tokens, ← length, List.take_left, noneCounted, Nat.add_zero]

/-- Words of one class that stand in a row in front of another one. -/
theorem Faces.passBy_replicate
    {count : Nat}
    (faces : place.Faces (List.replicate count word ++ words))
    (isOther : Word.kindAhead words ≠ word.kind)
    (notPlaceholder : word.kind ≠ .symbol .question) :
    (place.tokens.takeWhile fun token => token.kind == word.kind).length = count ∧
      (place.passBy count).Faces words ∧
        (place.passBy count).placeholders = place.placeholders := by
  obtain ⟨counted, behind, placeholders⟩ := faces.behind_replicate notPlaceholder
  refine ⟨?_, behind, placeholders⟩
  have ahead := behind.ahead_kind
  rw [← ahead] at isOther
  have stops : (place.passBy count).tokens.takeWhile (fun token => token.kind == word.kind) =
      [] := by
    rw [Place.ahead] at isOther
    cases tokens : (place.passBy count).tokens with
    | nil => rfl
    | cons token rest =>
        rw [tokens] at isOther
        exact List.takeWhile_cons_of_neg (by simpa using isOther)
  rw [counted, stops]
  rfl

end Faces

end Place

/-- The words that join tables, and the comma between them. -/
def TokenKind.joinHeads : List TokenKind :=
  [.keyword .LEFT, .keyword .RIGHT, .keyword .FULL, .keyword .INNER, .keyword .NATURAL,
    .keyword .JOIN, .symbol .comma, .keyword .STRAIGHT_JOIN, .keyword .CROSS, .keyword .OUTER]

/-- The view of a statement that is not read yet. -/
def ParseView.fresh
    (rule : Rule)
    (place : Place) : ParseView :=
  { place := place
    rule := rule
    tables := {}
    conditions := {} }

/-- The view of a statement on one table in front of its WHERE clause. -/
def ParseView.ofTable
    (rule : Rule)
    (table : String)
    (place : Place) : ParseView :=
  { place := place
    rule := rule
    tables := ⟨[⟨table, none⟩]⟩
    conditions := {} }

/-- The view behind a table without an alias. -/
def ParseView.withTable
    (view : ParseView)
    (table : String) : ParseView :=
  { view with tables := view.tables.add ⟨table, none⟩ }

namespace Parse

section Steps

variable {α : Type} {view : ParseView}

theorem skipAnyKind_reads_false
    {kinds : List TokenKind}
    (isOther : kinds.contains view.place.ahead.kind = false) :
    (skipAnyKind kinds).Reads view false view := by
  rintro state rfl
  refine ⟨state, ?_, rfl⟩
  rw [outcome_skipAnyKind, ParseState.current_kind, isOther, if_neg Bool.false_ne_true]

theorem modifyNotes_reads
    (view : ParseView)
    (change : SelectNotes → SelectNotes) :
    (modifyNotes change).Reads view () view := by
  rintro state rfl
  exact ⟨_, outcome_modify _ state, rfl⟩

theorem isName_reads (view : ParseView) :
    isName.Reads view view.place.ahead.kind.isName view := by
  rintro state rfl
  refine ⟨state, ?_, rfl⟩
  rw [← ParseState.current_kind]
  rfl

theorem addTable_reads
    (view : ParseView)
    (name : String)
    (aliasName : Option String) :
    (addTable name aliasName).Reads view ()
      { view with tables := view.tables.add ⟨name, aliasName⟩ } := by
  rintro state rfl
  exact ⟨_, outcome_modifyStatement _ state, rfl⟩

theorem Reads.repeatStep
    {step : Parse Bool}
    {after : ParseView}
    (turn : step.Reads view false after) :
    (repeatStep step).Reads view () after :=
  Reads.repeatFrom (Reads.iterate_stop (turn.bind (reads_pure _ _)))

theorem reads_forIn
    {body : α → PUnit → Parse (ForInStep PUnit)}
    (keeps : ∀ value, (body value ⟨⟩).Reads view (.yield ⟨⟩) view)
    (values : List α) :
    (forIn values ⟨⟩ body).Reads view ⟨⟩ view := by
  induction values with
  | nil => exact reads_pure _ _
  | cons value values ih =>
      rw [List.forIn_cons]
      exact (keeps value).bind ih

end Steps

section Openings

variable {view : ParseView}

/-- A word that leads a statement is found in front of everything else. -/
theorem leading_reads
    {word : Keyword}
    {kind : StatementKind}
    (isWord : view.place.ahead.kind = .keyword word)
    (leads : StatementKind.ofKeyword? word = some kind) :
    leading.Reads view kind (.fresh view.rule view.place) := by
  have notSemi : view.place.ahead.kind ≠ .symbol .semi := by simp [isWord]
  have notWith : view.place.ahead.kind ≠ .keyword .WITH := by
    rw [isWord]
    rintro equal
    cases equal
    cases leads
  unfold leading withClause
  refine (skipKind_reads_false notSemi).repeatStep.bind ?_
  refine Reads.bind ((skipKind_reads_false notWith).bind (reads_pure () view)) ?_
  refine reads_current_bind fun token tokenKind _ _ => ?_
  have found : StatementKind.ofToken? token = some kind := by
    rw [StatementKind.ofToken?, tokenKind, isWord]
    exact leads
  rw [found]
  have cleared : (modifyStatement fun _ => { kind := kind }).Reads view ()
      (.fresh view.rule view.place) := by
    rintro state rfl
    exact ⟨_, outcome_modifyStatement _ state, rfl⟩
  exact cleared.bind (reads_pure _ _)

variable {table : String} {words : List Word}

/-- The name of a table in front of a WHERE clause. -/
theorem tableName_reads
    (faces : view.place.Faces (.ofName table :: .ofKeyword .WHERE :: words)) :
    tableName.Reads view (unquoteName table) (view.move view.place.advance) := by
  have isName : view.place.ahead.kind.isName = true := by
    rw [faces.kind]
    rfl
  have notDot : (view.move view.place.advance).place.ahead.kind ≠ .symbol .dot := by
    rw [ParseView.place_move, faces.advance.kind]
    nofun
  unfold tableName
  refine (isName_reads view).bind ?_
  rw [isName]
  refine reads_current_bind fun token _ source _ => (advance_reads view).bind ?_
  refine (skipKind_reads_false notDot).bind (Reads.bind (reads_pure token _) ?_)
  refine (mark_reads _ _).bind ?_
  rw [source, faces.source]
  exact reads_pure _ _

/-- Without a word AS or a name there is no alias. -/
theorem alias?_reads
    (notAs : view.place.ahead.kind ≠ .keyword .AS)
    (notName : view.place.ahead.kind.isName = false) :
    alias?.Reads view none view := by
  unfold alias?
  refine (skipKind_reads_false notAs).bind (reads_current_bind fun token kind _ _ => ?_)
  rw [kind]
  cases ahead : view.place.ahead.kind with
  | symbol sign => exact reads_pure none view
  | finish => exact reads_pure none view
  | _ =>
      rw [ahead] at notName
      simp only [Bool.false_or, notName]
      exact reads_pure none view

/-- Without a word that joins tables, or a comma between them, there is no join. -/
theorem skipJoin_reads (noJoin : view.place.ahead.kind ∉ TokenKind.joinHeads) :
    skipJoin.Reads view false view := by
  have absent : ∀ {kinds : List TokenKind}, kinds ⊆ TokenKind.joinHeads →
      (skipAnyKind kinds).Reads view false view := by
    intro kinds areHeads
    apply skipAnyKind_reads_false
    rw [Bool.eq_false_iff]
    exact fun isThere => noJoin (areHeads (List.contains_iff_mem.mp isThere))
  unfold skipJoin
  refine (absent (by decide)).bind ?_
  refine (absent (by decide)).bind ?_
  refine (absent (by decide)).bind ?_
  refine (absent (by decide)).bind ?_
  refine (absent (by decide)).bind ?_
  exact (absent (by decide)).bind (reads_pure _ _)

theorem plainName_reads
    (unquoted : unquoteName table = table)
    (faces : view.place.Faces (.ofName table :: .ofKeyword .WHERE :: words)) :
    tableName.Reads view table (view.move view.place.advance) := by
  have named := tableName_reads faces
  rw [unquoted] at named
  exact named

theorem tableReference_reads
    (nested : Parse Unit)
    (unquoted : unquoteName table = table)
    (faces : view.place.Faces (.ofName table :: .ofKeyword .WHERE :: words)) :
    (tableReference nested).Reads view () ((view.move view.place.advance).withTable table) := by
  have notParen : view.place.ahead.kind ≠ .symbol .leftParen := by
    rw [faces.kind]
    nofun
  have isWhere : (view.move view.place.advance).place.ahead.kind = .keyword .WHERE :=
    faces.advance.kind
  unfold tableReference
  refine (skipKind_reads_false notParen).bind ((plainName_reads unquoted faces).bind ?_)
  have unnamed : alias?.Reads (view.move view.place.advance) none _ :=
    alias?_reads (by rw [isWhere]; nofun) (by rw [isWhere]; rfl)
  exact unnamed.bind (addTable_reads _ table none)

/-- The tables of a query of one table. -/
theorem fromClause_reads
    (nested : Parse Unit)
    (unquoted : unquoteName table = table)
    (faces : view.place.Faces (.ofKeyword .FROM :: .ofName table :: .ofKeyword .WHERE :: words)) :
    (fromClause nested).Reads view ()
      ((view.move view.place.advance.advance).withTable table) := by
  have noJoin : ((view.move view.place.advance.advance).withTable table).place.ahead.kind ∉
      TokenKind.joinHeads := by
    change view.place.advance.advance.ahead.kind ∉ TokenKind.joinHeads
    rw [faces.advance.advance.kind]
    decide
  unfold fromClause
  refine (skipKind_reads_true faces.kind).bind ?_
  refine Reads.bind (@tableReference_reads (view.move view.place.advance) _ _ nested unquoted
    faces.advance) ?_
  exact Reads.repeatStep ((skipJoin_reads noJoin).bind (reads_pure false _))

theorem addStar_reads
    (view : ParseView)
    (depth : Nat) :
    (addStar depth none).Reads view () view := by
  have noted : (addItem depth (.star none)).Reads view () view := by
    unfold addItem
    refine .ite (fun _ => modifyStatement_reads view ?_) fun _ => reads_pure () view
    exact fun _ => ⟨rfl, rfl⟩
  unfold addStar
  by_cases isOuter : depth = 0
  · rw [if_pos isOuter]
    exact (modifyStatement_reads view (by exact fun _ => ⟨rfl, rfl⟩)).bind noted
  · rw [if_neg isOuter]
    exact noted

/-- The select list that is a star, in front of the tables. -/
theorem selectList_reads
    (depth : Nat)
    (faces : view.place.Faces (.ofSymbol .star :: .ofKeyword .FROM :: words)) :
    (selectList depth).Reads view () (view.move view.place.advance) := by
  have notComma : (view.move view.place.advance).place.ahead.kind ≠ .symbol .comma := by
    rw [ParseView.place_move, faces.advance.kind]
    nofun
  have star : (selectItem depth).Reads view () (view.move view.place.advance) := by
    unfold selectItem
    refine reads_current_bind fun token _ _ _ => ?_
    exact (skipKind_reads_true faces.kind).bind (addStar_reads _ depth)
  unfold selectList
  refine (star.bind (skipKind_reads_false notComma)).repeatStep.bind ?_
  exact .ite (fun _ => reads_lastStop_bind fun stop => modifyNotes_reads _ _)
    fun _ => reads_pure () _

/-- A query of all columns up to the end of its select list. -/
theorem queryList_reads
    (depth : Nat)
    (faces : view.place.Faces
      (.ofKeyword .SELECT :: .ofSymbol .star :: .ofKeyword .FROM :: words)) :
    (queryList depth).Reads view () (view.move view.place.advance.advance) := by
  have ahead : (view.move view.place.advance).place.ahead.kind = .symbol .star :=
    faces.advance.kind
  have notDistinct : [TokenKind.keyword .DISTINCT, .keyword .DISTINCTROW].contains
      (view.move view.place.advance).place.ahead.kind = false := by
    rw [ahead]
    decide
  have notAll : (view.move view.place.advance).place.ahead.kind ≠ .keyword .ALL := by
    rw [ahead]
    nofun
  have notTop : (view.move view.place.advance).place.ahead.kind ≠ .keyword .TOP := by
    rw [ahead]
    nofun
  have distinct : (distinctClause depth).Reads (view.move view.place.advance) ()
      (view.move view.place.advance) :=
    (skipAnyKind_reads_false notDistinct).bind ((skipKind_reads_false notAll).bind (reads_pure _ _))
  have top : topClause.Reads (view.move view.place.advance) () (view.move view.place.advance) :=
    (skipKind_reads_false notTop).bind (reads_pure _ _)
  unfold queryList
  refine (accept_reads faces.kind).bind (distinct.bind (top.bind ?_))
  exact @selectList_reads (view.move view.place.advance) _ depth faces.advance

/-- The parts of a query of all columns of a table in front of its WHERE clause. -/
theorem queryOpening_reads
    (nested : Parse Unit)
    (depth : Nat)
    (unquoted : unquoteName table = table)
    (faces : view.place.Faces (.ofKeyword .SELECT :: .ofSymbol .star :: .ofKeyword .FROM ::
      .ofName table :: .ofKeyword .WHERE :: words)) :
    (queryOpening nested depth).Reads view ()
      ((view.move view.place.advance.advance.advance.advance).withTable table) := by
  rw [queryOpening_eq]
  refine (queryList_reads depth faces).bind ?_
  exact @fromClause_reads (view.move view.place.advance.advance) _ _ nested unquoted
    faces.advance.advance

section Fresh

variable {rule : Rule} {place : Place}

theorem singleTable_reads
    (unquoted : unquoteName table = table)
    (faces : place.Faces (.ofName table :: .ofKeyword .WHERE :: words)) :
    singleTable.Reads (.fresh rule place) () (.ofTable rule table place.advance) := by
  have notParen : place.ahead.kind ≠ .symbol .leftParen := by
    rw [faces.kind]
    nofun
  have isWhere : place.advance.ahead.kind = .keyword .WHERE := faces.advance.kind
  unfold singleTable
  refine (@skipKind_reads_false (.fresh rule place) _ notParen).bind ?_
  refine (@plainName_reads (.fresh rule place) _ _ unquoted faces).bind ?_
  have unnamed : alias?.Reads (.fresh rule place.advance) none _ :=
    alias?_reads (by rw [ParseView.fresh, isWhere]; nofun) (by rw [ParseView.fresh, isWhere]; rfl)
  have unjoined : skipJoin.Reads (.fresh rule place.advance) false _ :=
    skipJoin_reads (by rw [ParseView.fresh, isWhere]; decide)
  exact unnamed.bind (unjoined.bind (addTable_reads (.fresh rule place.advance) table none))

/-- The parts of a DELETE on a table in front of its WHERE clause. -/
theorem deleteOpening_reads
    (unquoted : unquoteName table = table)
    (faces : place.Faces (.ofKeyword .DELETE :: .ofKeyword .FROM :: .ofName table ::
      .ofKeyword .WHERE :: words)) :
    deleteOpening.Reads (.fresh rule place) ()
      (.ofTable rule table place.advance.advance.advance) := by
  have notOption : ([Keyword.LOW_PRIORITY, .QUICK, .IGNORE].map TokenKind.keyword).contains
      place.advance.ahead.kind = false := by
    rw [faces.advance.kind]
    decide
  have notTop : place.advance.ahead.kind ≠ .keyword .TOP := by
    rw [faces.advance.kind]
    nofun
  have notOnly : place.advance.advance.ahead.kind ≠ .keyword .ONLY := by
    rw [faces.advance.advance.kind]
    nofun
  have top : skipTop.Reads (.fresh rule place.advance) () (.fresh rule place.advance) :=
    (skipKind_reads_false notTop).bind (reads_pure _ _)
  have another : (isAnyKind [.keyword .FROM, .keyword .USING]).Reads
      (.ofTable rule table place.advance.advance.advance) false
      (.ofTable rule table place.advance.advance.advance) := by
    have isOther := isAnyKind_reads (.ofTable rule table place.advance.advance.advance)
      [.keyword .FROM, .keyword .USING]
    have isWhere : (ParseView.ofTable rule table place.advance.advance.advance).place.ahead.kind =
        .keyword .WHERE := faces.advance.advance.advance.kind
    rw [isWhere] at isOther
    exact isOther
  unfold deleteOpening
  refine (@accept_reads (.fresh rule place) _ faces.kind).bind ?_
  refine (skipAnyKind_reads_false notOption).bind (top.bind ?_)
  refine (@skipKind_reads_true (.fresh rule place.advance) _ faces.advance.kind).bind ?_
  refine (skipKind_reads_false notOnly).bind ?_
  refine (singleTable_reads unquoted faces.advance.advance).bind ?_
  exact another.bind (reads_pure _ _)

end Fresh

end Openings

section Endings

variable {view : ParseView} (noKeyword : ∀ word, view.place.ahead.kind ≠ .keyword word)

theorem markOwners_reads (view : ParseView) :
    markOwners.Reads view () view := by
  unfold markOwners
  refine reads_get_bind fun state _ => ?_
  refine (reads_forIn ?_ _).bind (reads_pure () view)
  intro owner
  refine reads_statement_bind fun statement _ => .ite (fun _ => ?_) fun _ => reads_pure _ _
  exact (mark_reads view _).bind (reads_pure _ _)

theorem finishSelect_reads (view : ParseView) :
    finishSelect.Reads view () view := by
  have ordered : ∀ stop : Option Nat,
      (modifyStatement fun statement => statement.deriveOrder stop).Reads view () view :=
    fun stop => modifyStatement_reads view fun statement => deriveOrder_keeps statement stop
  unfold finishSelect
  refine (markOwners_reads view).bind (reads_get_bind fun state _ => ?_)
  dsimp only
  split
  next stop _ =>
    refine (modifyStatement_reads view fun statement => ?_).bind (ordered _)
    exact deriveColumns_keeps statement stop
  next => exact ordered _

include noKeyword

theorem skipKeyword_reads_false (word : Keyword) :
    (skipWord word).Reads view false view :=
  skipKind_reads_false (noKeyword word)

theorem isKeyword_reads_false (words : List Keyword) :
    (isAnyKind (words.map TokenKind.keyword)).Reads view false view := by
  have isOther : (words.map TokenKind.keyword).contains view.place.ahead.kind = false := by
    simpa using fun word _ => (noKeyword word).symm
  have reads := isAnyKind_reads view (words.map TokenKind.keyword)
  rw [isOther] at reads
  exact reads

/-- A query ends where no keyword stands. -/
theorem queryEnding_reads (depth : Nat) :
    (queryEnding depth).Reads view () view := by
  have noHaving : (isWord .HAVING).Reads view false view := by
    have isOther := isKind_reads view (.keyword .HAVING)
    rw [beq_false_of_ne (noKeyword .HAVING)] at isOther
    exact isOther
  unfold queryEnding
  refine ((skipKeyword_reads_false noKeyword .GROUP).bind (reads_pure () view)).bind ?_
  refine noHaving.bind ?_
  refine ((skipKeyword_reads_false noKeyword .ORDER).bind (reads_pure () view)).bind ?_
  refine ((isKeyword_reads_false noKeyword [.LIMIT, .OFFSET, .FETCH]).bind
    (reads_pure () view)).bind ?_
  refine (isKeyword_reads_false noKeyword [.UNION, .INTERSECT, .EXCEPT, .MINUS]).bind ?_
  exact (isKeyword_reads_false noKeyword [.FOR, .LOCK]).bind (reads_pure () view)

theorem ending_reads (kind : StatementKind) :
    (ending kind).Reads view () view := by
  cases kind with
  | select => exact (queryEnding_reads noKeyword 0).bind (finishSelect_reads view)
  | _ => exact reads_pure () view

end Endings

end Parse

/-- A statement on one table that may have a WHERE clause: a query of all its columns, or a DELETE. -/
inductive TableAccess where
  | query
  | deletion

namespace TableAccess

/-- The kind of the statement. -/
def kind : TableAccess → StatementKind
  | .query => .select
  | .deletion => .delete

/-- The words of the statement in front of its WHERE clause. -/
def words
    (table : String) : TableAccess → List Word
  | .query => [.ofKeyword .SELECT, .ofSymbol .star, .ofKeyword .FROM, .ofName table]
  | .deletion => [.ofKeyword .DELETE, .ofKeyword .FROM, .ofName table]

/-- The words of the statement with the words of its WHERE clause. -/
def withClause
    (access : TableAccess)
    (table : String)
    (clause : List Word) : List Word :=
  access.words table ++ .ofKeyword .WHERE :: clause

end TableAccess

namespace Statement

variable {dialect : Dialect} {rule : Rule} {keys : Keys} {sql : String} {kind : StatementKind}
variable {state : ParseState} {table : String} {clause : List Word}

/-- The state in front of a text of words faces these words. -/
theorem start_faces
    {words : List Word}
    (rule : Rule)
    (keys : Keys)
    (spelled : ∀ word ∈ words, word.IsSpelled dialect)
    (statement : Statement) :
    ∃ place : Place, place.Faces words ∧ place.placeholders = 0 ∧
      (ParseState.start dialect rule keys (Word.text words) statement).cursor.place = place := by
  obtain ⟨tokens, last, areWords, split⟩ := Lexer.exists_tokens_text spelled
  refine ⟨⟨tokens, 0⟩, areWords, rfl, ?_⟩
  have notFinish : ∀ token ∈ tokens, token.kind ≠ .finish := by
    intro token member
    have isWord : token.word ∈ words := by
      rw [← areWords]
      exact List.mem_map_of_mem member
    exact (spelled _ isWord).notFinish
  have kept : (tokens ++ [Token.finish last]).filter (fun token => token.kind != .finish) =
      tokens := by
    rw [List.filter_append, List.filter_eq_self.mpr (by simpa using notFinish)]
    simp [Token.finish]
  simp [ParseState.start, Cursor.ofText, Cursor.place, split, kept]

theorem isSpelled_withClause
    (plain : IsPlainName dialect table)
    (spelled : ∀ word ∈ clause, word.IsSpelled dialect)
    (access : TableAccess) :
    ∀ word ∈ access.withClause table clause, word.IsSpelled dialect := by
  have isKeyword : ∀ keyword ∈ Word.clauseKeywords, (Word.ofKeyword keyword).IsSpelled dialect :=
    fun keyword member => Word.isSpelled_ofKeyword member
  have star : (Word.ofSymbol .star).IsSpelled dialect :=
    @Word.isSpelled_ofSymbol dialect .star '*' (by decide)
  have name := Word.isSpelled_ofName plain
  have front : ∀ word ∈ access.words table, word.IsSpelled dialect := by
    cases access with
    | query =>
        simp only [TableAccess.words, List.forall_mem_cons]
        exact ⟨isKeyword _ (by decide), star, isKeyword _ (by decide), name, nofun⟩
    | deletion =>
        simp only [TableAccess.words, List.forall_mem_cons]
        exact ⟨isKeyword _ (by decide), isKeyword _ (by decide), name, nofun⟩
  intro word member
  rcases List.mem_append.mp member with isFront | isBehind
  · exact front word isFront
  · rcases List.mem_cons.mp isBehind with rfl | isClause
    · exact isKeyword _ (by decide)
    · exact spelled word isClause

/-- A statement on one table comes to its WHERE clause. -/
theorem opensWith_withClause
    (rule : Rule)
    (keys : Keys)
    (plain : IsPlainName dialect table)
    (spelled : ∀ word ∈ clause, word.IsSpelled dialect)
    (access : TableAccess) :
    ∃ state place,
      OpensWith dialect rule keys (Word.text (access.withClause table clause)) access.kind state ∧
        state.view = .ofTable rule table place ∧
        place.Faces (.ofKeyword .WHERE :: clause) ∧ place.placeholders = 0 := by
  have allSpelled := isSpelled_withClause plain spelled access
  obtain ⟨place, faces, noneBefore, isPlace⟩ :=
    start_faces rule keys allSpelled { kind := .select }
  have view : (ParseState.start dialect rule keys (Word.text (access.withClause table clause))
      { kind := .select }).view = .fresh rule place := by
    rw [ParseState.view, isPlace]
    rfl
  have unquoted := plain.unquoteName_eq
  cases access with
  | query =>
      obtain ⟨front, led, seesFront⟩ :=
        @Parse.leading_reads (.fresh rule place) _ _ faces.kind rfl _ view
      have opening : (Parse.opening .select).Reads (.fresh rule place) ()
          (.ofTable rule table place.advance.advance.advance.advance) :=
        Parse.reads_get_bind fun _ _ =>
          @Parse.queryOpening_reads (.fresh rule place) _ _ _ 0 unquoted faces
      obtain ⟨state, opened, sees⟩ := opening front seesFront
      exact ⟨state, _, ⟨front, led, opened⟩, sees,
        faces.advance.advance.advance.advance, noneBefore⟩
  | deletion =>
      obtain ⟨front, led, seesFront⟩ :=
        @Parse.leading_reads (.fresh rule place) _ _ faces.kind rfl _ view
      obtain ⟨state, opened, sees⟩ :=
        Parse.deleteOpening_reads unquoted faces front seesFront
      exact ⟨state, _, ⟨front, led, opened⟩, sees, faces.advance.advance.advance, noneBefore⟩

/-- A statement is accepted when its WHERE clause can be read to an end where no keyword stands. -/
theorem parse_of_stops
    (opens : OpensWith dialect rule keys sql kind state)
    (hasWhere : kind.hasWhere = true)
    (isWhere : state.view.place.ahead.kind = .keyword .WHERE)
    {last : Place}
    (stops : (state.view.place.advance.clause 0).ending = .stops last)
    (noKeyword : ∀ word, last.ahead.kind ≠ .keyword word)
    (parameterCount : Nat) :
    ∃ statement, (Statement.parse dialect rule keys sql parameterCount).1 = .ok statement ∧
      statement.conditions =
        ((state.view.place.advance.clause 0).conditions state.view.rule
          state.view.tables).foldl Conditions.add state.view.conditions := by
  have follows := Parse.whereClause_follows isWhere
  unfold Parse.FollowsClause at follows
  rw [stops] at follows
  obtain ⟨value, reads⟩ := follows
  have ends : (Parse.ending kind).Reads ((state.view.move last).record
      ((state.view.place.advance.clause 0).conditions state.view.rule state.view.tables)) () _ :=
    Parse.ending_reads noKeyword kind
  obtain ⟨between, passed, seesBetween⟩ := reads state rfl
  obtain ⟨final, ended, seesFinal⟩ := ends between seesBetween
  refine ⟨final.statement, ?_, congrArg ParseView.conditions seesFinal⟩
  rw [parse_of_opensWith opens hasWhere, Parse.outcome_bind_of_ok passed,
    Parse.outcome_bind_of_ok ended]
  rfl

end Statement

end ShardedSql
