import ShardedSql.Proofs.Parser.Numbering

/-!
# Steps that extend a statement

Most steps of a parse keep the rule, and the kind, the tables and the conditions of the statement; at most
they add markers.  Whatever allows such steps is obeyed by a whole statement as soon as the steps that add
tables and conditions obey it.
-/

namespace ShardedSql

/-- Whether a statement has the kind, the tables and the conditions of an earlier one, and its markers. -/
structure Statement.Extends (before after : Statement) : Prop where
  kind : after.kind = before.kind
  tables : after.tables = before.tables
  conditions : after.conditions = before.conditions
  markers : before.markers ⊆ after.markers

namespace Statement.Extends

variable {before between after : Statement}

theorem refl (statement : Statement) : statement.Extends statement :=
  ⟨rfl, rfl, rfl, List.Subset.refl _⟩

theorem trans
    (first : before.Extends between)
    (second : between.Extends after) :
    before.Extends after where
  kind := second.kind.trans first.kind
  tables := second.tables.trans first.tables
  conditions := second.conditions.trans first.conditions
  markers := List.Subset.trans first.markers second.markers

theorem of_note
    {change : Statement → Statement}
    (isNote : IsNote change)
    (statement : Statement) :
    statement.Extends (change statement) where
  kind := isNote.kind statement
  tables := isNote.tables statement
  conditions := isNote.conditions statement
  markers := isNote.markers statement ▸ List.Subset.refl _

/-- The columns that are added to a select list are marked. -/
theorem deriveColumns
    (statement : Statement)
    (listStop : Nat) :
    statement.Extends (statement.deriveColumns listStop) := by
  unfold Statement.deriveColumns
  dsimp only
  split
  · exact ⟨rfl, rfl, rfl, List.Subset.refl _⟩
  · exact ⟨rfl, rfl, rfl, List.subset_append_left _ _⟩

theorem deriveOrder
    (statement : Statement)
    (groupByStop : Option Nat) :
    statement.Extends (statement.deriveOrder groupByStop) := by
  unfold Statement.deriveOrder
  split
  · exact refl statement
  · dsimp only
    split
    · exact ⟨rfl, rfl, rfl, List.subset_append_left _ _⟩
    · exact ⟨rfl, rfl, rfl, List.Subset.refl _⟩

end Statement.Extends

/-- Keeping the rule, and extending the statement. -/
def Conduct.extending : Conduct where
  relates before after := after.rule = before.rule ∧ before.statement.Extends after.statement
  fails _ := True
  refl state := ⟨rfl, .refl state.statement⟩
  trans first second := ⟨second.1.trans first.1, first.2.trans second.2⟩

/-- Whether a conduct lets any step fail, and lets a step extend the statement. -/
structure Conduct.AllowsExtension (conduct : Conduct) : Prop where
  fails : ∀ error, conduct.fails error
  relates : ∀ {before after : ParseState}, after.rule = before.rule →
    before.statement.Extends after.statement → conduct.relates before after

namespace Parse

open Conduct (extending)

theorem extending_isLenient : extending.IsLenient where
  fails _ := trivial
  moves _ := ⟨rfl, .refl _⟩

theorem modifyStatement_extends
    {change : Statement → Statement}
    (extended : ∀ statement : Statement, statement.Extends (change statement)) :
    (modifyStatement change).Obeys extending :=
  fun before => ⟨rfl, extended before.statement⟩

theorem noteRowNumber_extends
    (text : String)
    (aliasName : Option String) :
    (noteRowNumber text aliasName).Obeys extending := by
  intro before
  obtain ⟨found, noted⟩ := exists_outcome_noteRowNumber text aliasName before
  rw [noted]
  exact ⟨rfl, .refl _⟩

theorem expression_extends : expression.Obeys extending := by
  intro before
  rw [outcome_expression]
  exact ⟨rfl, rfl, rfl, rfl, List.subset_append_left _ _⟩

theorem tableName_extends : tableName.Obeys extending := by
  apply obeys_of_ok extending_isLenient
  intro before after name ran
  obtain ⟨token, cursor, -, -, rfl⟩ := tableName_eq_ok ran
  exact ⟨rfl, rfl, rfl, rfl, List.subset_append_left _ _⟩

theorem itemHead_extends (depth : Nat) : (itemHead depth).Obeys extending := by
  apply obeys_of_ok extending_isLenient
  intro before after head ran
  cases itemHead_eq_ok ran with
  | star => exact ⟨rfl, .of_note (Statement.isListNote_withStar depth _).toIsNote before.statement⟩
  | _ => exact ⟨rfl, .refl _⟩

theorem topClause_extends : topClause.Obeys extending := by
  apply obeys_of_ok extending_isLenient
  intro before after _ ran
  rcases topClause_eq_ok ran with rfl | ⟨bound, cursor, -, -, rfl⟩
  · exact extending.refl _
  · exact ⟨rfl, rfl, rfl, rfl, List.subset_append_left _ _⟩

theorem limitClauses_extends : limitClauses.Obeys extending := by
  apply obeys_of_ok extending_isLenient
  intro before after _ ran
  rcases limitClauses_eq_ok ran with rfl | ⟨limit, cursor, markers, -, rfl⟩
  · exact extending.refl _
  · exact ⟨rfl, rfl, rfl, rfl, List.subset_append_left _ _⟩

theorem rowNumberCondition_extends : rowNumberCondition.Obeys extending := by
  intro before
  rw [outcome_rowNumberCondition]
  dsimp only
  split
  · exact ⟨rfl, rfl, rfl, rfl,
      List.Subset.trans (List.subset_append_left _ _) (List.subset_append_left _ _)⟩
  · exact ⟨rfl, rfl, rfl, rfl, List.subset_append_left _ _⟩

theorem finishSelect_extends : finishSelect.Obeys extending := by
  have marked : markOwners.Obeys extending := by
    intro before
    rw [outcome_markOwners]
    exact ⟨rfl, rfl, rfl, rfl, List.subset_append_left _ _⟩
  have ordered : ∀ stop : Option Nat,
      (modifyStatement fun statement => statement.deriveOrder stop).Obeys extending :=
    fun stop => modifyStatement_extends fun statement => .deriveOrder statement stop
  unfold finishSelect
  refine marked.bind fun _ => obeys_get_bind fun state => ?_
  dsimp only
  split
  next stop _ =>
    have listed := modifyStatement_extends fun statement => .deriveColumns statement stop
    exact listed.bind fun _ => ordered _
  next => exact ordered _

end Parse

namespace Conduct.AllowsExtension

open Parse

variable {conduct : Conduct} (allows : conduct.AllowsExtension)

include allows

theorem obeys
    {α : Type}
    {step : Parse α}
    (extended : step.Obeys extending) :
    step.Obeys conduct :=
  extended.weaken (fun _ _ related => allows.relates related.1 related.2) fun error _ =>
    allows.fails error

theorem isLenient : conduct.IsLenient where
  fails := allows.fails
  moves _ := allows.relates rfl (.refl _)

theorem admits
    (addTable : ∀ (name : String) (aliasName : Option String) (state : ParseState),
      state.statement.NamesTable name → (addTable name aliasName).ObeysFrom conduct state) :
    conduct.Admits where
  passing := passing_moves allows.isLenient
  note _ isNote := allows.obeys (modifyStatement_extends (.of_note isNote.toIsNote))
  noteRowNumber text aliasName := allows.obeys (noteRowNumber_extends text aliasName)
  aliasName := alias?_moves allows.isLenient
  expression := allows.obeys expression_extends
  tableName := allows.obeys tableName_extends
  addTable := addTable
  itemHead depth := allows.obeys (itemHead_extends depth)
  skipItem := skipItem_moves allows.isLenient
  assignmentRest := passMeasured_moves allows.isLenient _
  skipTop := skipTop_moves allows.isLenient
  topClause := allows.obeys topClause_extends
  limitClauses := allows.obeys limitClauses_extends
  lockClause := lockClause_moves fun _ => allows.relates rfl (.refl _)

theorem admitsWhere
    (admits : conduct.Admits)
    (condition : ∀ (left : Expression) (operator : ConditionOperator) (operands : List Expression),
      (addCondition left operator operands).Obeys conduct) :
    conduct.AdmitsWhere where
  toAdmits := admits
  advance _ := advance_moves allows.isLenient
  condition := condition
  rowNumber state _ := allows.obeys rowNumberCondition_extends state
  openGroups := passMeasured_moves allows.isLenient _
  closeGroups _ := passMeasured_moves allows.isLenient _
  skipPredicate := skipPredicate_moves allows.isLenient

/-- A statement that adds no row obeys what the steps that add tables and conditions obey. -/
theorem statementOf_obeys
    (admits : conduct.Admits)
    (behavesWhere : whereClause.Obeys conduct)
    {kind : StatementKind}
    (noRow : kind ≠ .insert)
    (parameterCount : Nat) :
    (statementOf kind parameterCount).Obeys conduct := by
  by_cases isQuery : kind = .select
  · subst isQuery
    have outer : ∀ fuel, (query (fuel + 1) 0).Obeys conduct :=
      outerQuery_obeys admits behavesWhere (fun _ _ _ _ => allows.relates rfl (.refl _))
        fun _ _ isNote => allows.obeys (modifyStatement_extends (.of_note isNote))
    change selectStatement.Obeys conduct
    rw [selectStatement_eq]
    exact (obeys_get_bind fun _ => outer _).bind fun _ => allows.obeys finishSelect_extends
  · exact Parse.statementOf_obeys allows.isLenient admits behavesWhere isQuery noRow parameterCount

end Conduct.AllowsExtension

end ShardedSql
