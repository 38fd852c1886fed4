import ShardedSql.Parser.Statement
import ShardedSql.Proofs.Parser.View

/-!
# What the steps of a statement may do

Most steps of a parse read over tokens: they pass some of them, leave the conditions alone and refuse
no token.  A conduct is such a rule for steps, and a sequence of steps that obey it obeys it as well.
-/

namespace ShardedSql

/-- A rule for steps of a parse: how a successful step may change the state, and how a step may
fail. -/
structure Conduct where
  relates : ParseState → ParseState → Prop
  fails : Error → Prop
  refl : ∀ state, relates state state
  trans : ∀ {before between after},
    relates before between → relates between after → relates before after

/-- Passing tokens without a change of the rule or the conditions, and without a refusal of a
token. -/
def Conduct.readingOver : Conduct where
  relates before after :=
    after.cursor.tokens <:+ before.cursor.tokens ∧ after.rule = before.rule ∧
      after.statement.conditions = before.statement.conditions
  fails error := ¬ error.RefusesToken
  refl _ := ⟨List.suffix_refl _, rfl, rfl⟩
  trans first second :=
    ⟨second.1.trans first.1, second.2.1.trans first.2.1, second.2.2.trans first.2.2⟩

namespace Parse

variable {α β : Type} {conduct : Conduct}

/-- Whether a step obeys a rule from every state. -/
def Obeys
    (step : Parse α)
    (conduct : Conduct) : Prop :=
  ∀ before, match step.outcome before with
    | (.ok _, after) => conduct.relates before after
    | (.error error, _) => conduct.fails error

section Sequences

variable {step : Parse α} {next : α → Parse β}

theorem Obeys.relates
    (obeys : step.Obeys conduct)
    {before after : ParseState}
    {value : α}
    (succeeded : step.outcome before = (.ok value, after)) :
    conduct.relates before after := by
  have obeyed := obeys before
  rw [succeeded] at obeyed
  exact obeyed

theorem Obeys.fails
    (obeys : step.Obeys conduct)
    {before after : ParseState}
    {error : Error}
    (failed : step.outcome before = (.error error, after)) :
    conduct.fails error := by
  have obeyed := obeys before
  rw [failed] at obeyed
  exact obeyed

theorem Obeys.bind
    (first : step.Obeys conduct)
    (second : ∀ value, (next value).Obeys conduct) :
    (step >>= next).Obeys conduct := by
  intro before
  rw [outcome_bind]
  cases ran : step.outcome before with
  | mk result between =>
      cases result with
      | error error => exact first.fails ran
      | ok value =>
          have reached := first.relates ran
          have obeyed := second value between
          dsimp only
          split at obeyed
          next finished => rw [finished]; exact conduct.trans reached obeyed
          next finished => rw [finished]; exact obeyed

theorem obeys_pure (value : α) :
    (pure value : Parse α).Obeys conduct :=
  fun before => conduct.refl before

theorem obeys_get_bind
    {next : ParseState → Parse β}
    (obeys : ∀ state, (next state).Obeys conduct) :
    (get >>= next).Obeys conduct :=
  fun before => obeys before before

theorem Obeys.ite
    {condition : Prop}
    [Decidable condition]
    {other : Parse α}
    (first : step.Obeys conduct)
    (second : other.Obeys conduct) :
    (if condition then step else other).Obeys conduct := by
  split
  next => exact first
  next => exact second

theorem obeys_iterate
    {step : α → Parse (α × Bool)}
    (obeys : ∀ value, (step value).Obeys conduct)
    (fuel : Nat)
    (value : α) :
    (iterate step fuel value).Obeys conduct := by
  induction fuel generalizing value with
  | zero => exact obeys_pure value
  | succ fuel ih =>
      refine (obeys value).bind fun turn => ?_
      exact .ite (ih turn.1) (obeys_pure turn.1)

theorem obeys_repeatFrom
    {step : α → Parse (α × Bool)}
    (obeys : ∀ value, (step value).Obeys conduct)
    (start : α) :
    (repeatFrom start step).Obeys conduct :=
  obeys_get_bind fun _ => obeys_iterate obeys _ start

theorem obeys_repeatStep
    {step : Parse Bool}
    (obeys : step.Obeys conduct) :
    (repeatStep step).Obeys conduct :=
  obeys_repeatFrom (fun _ => obeys.bind fun _ => obeys_pure _) ()

theorem obeys_forIn
    {body : α → β → Parse (ForInStep β)}
    (obeys : ∀ value result, (body value result).Obeys conduct)
    (values : List α)
    (start : β) :
    (forIn values start body).Obeys conduct := by
  induction values generalizing start with
  | nil => exact obeys_pure start
  | cons value values ih =>
      rw [List.forIn_cons]
      refine (obeys value start).bind fun turn => ?_
      cases turn with
      | done result => exact obeys_pure result
      | yield result => exact ih result

theorem Obeys.weaken
    {wider : Conduct}
    (obeys : step.Obeys conduct)
    (relates : ∀ before after, conduct.relates before after → wider.relates before after)
    (fails : ∀ error, conduct.fails error → wider.fails error) :
    step.Obeys wider := by
  intro before
  have obeyed := obeys before
  split at obeyed
  next => exact relates _ _ obeyed
  next => exact fails _ obeyed

end Sequences

section Single

/-- Whether a step obeys a rule from one state. -/
def ObeysFrom
    (step : Parse α)
    (conduct : Conduct)
    (before : ParseState) : Prop :=
  match step.outcome before with
  | (.ok _, after) => conduct.relates before after
  | (.error error, _) => conduct.fails error

theorem ObeysFrom.bind
    {step : Parse α}
    {next : α → Parse β}
    {before : ParseState}
    (first : step.ObeysFrom conduct before)
    (second : ∀ value after, step.outcome before = (.ok value, after) →
      (next value).ObeysFrom conduct after) :
    (step >>= next).ObeysFrom conduct before := by
  unfold ObeysFrom at *
  rw [outcome_bind]
  rcases ran : step.outcome before with ⟨error | value, between⟩
  · rw [ran] at first
    exact first
  · rw [ran] at first
    have later := second value between ran
    dsimp only at first ⊢
    split at later
    next finished => rw [finished]; exact conduct.trans first later
    next finished => rw [finished]; exact later

theorem Obeys.from
    {step : Parse α}
    (obeys : step.Obeys conduct)
    (before : ParseState) :
    step.ObeysFrom conduct before :=
  obeys before

/-- A successful step from a state of which the rule is obeyed leads to a related one. -/
theorem ObeysFrom.relates
    {step : Parse α}
    {before after : ParseState}
    {value : α}
    (obeys : step.ObeysFrom conduct before)
    (succeeded : step.outcome before = (.ok value, after)) :
    conduct.relates before after := by
  unfold ObeysFrom at obeys
  rw [succeeded] at obeys
  exact obeys

end Single

end Parse

end ShardedSql
