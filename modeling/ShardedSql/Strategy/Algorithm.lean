import ShardedSql.Error
import ShardedSql.Statement.ShardingValue

/-!
# Sharding algorithms

An algorithm chooses targets, which are data sources or actual tables, by what is known about the
sharding columns.  The built-in ones take the remainder of an integer; others are given as
functions.
-/

namespace ShardedSql

/-- Chooses targets by the values of a single column. -/
structure SingleKeyChoice where
  /-- The target of one value among the available ones. -/
  equal : (targets : List String) → (value : Value) → Except Error String
  /-- The targets of a range of values with integer bounds. -/
  between : (targets : List String) → (lower upper : Int64) → Except Error (List String)

/-- A way to choose targets.  The first three are built in. -/
inductive Algorithm where
  /-- The first available target. -/
  | firstTarget
  /-- The target whose name ends with the remainder of the value; without a modulus the number of
  targets is taken. -/
  | modulo (modulus : Option UInt64)
  /-- A name made of a stem and the remainder of the value. -/
  | dynamicModulo (stem : String) (modulus : UInt64)
  /-- A choice of one target. -/
  | ofNoKey (choose : List String → ShardingValue → Except Error String)
  /-- A choice by one column. -/
  | ofSingleKey (choice : SingleKeyChoice)
  /-- A choice by all columns at once. -/
  | ofKeys (choose : List String → List ShardingValue → Except Error (List String))

/-- How many columns an algorithm chooses by. -/
inductive Arity where
  | none
  | single
  | multiple
  deriving DecidableEq

/-- The name of an arity. -/
def Arity.text : Arity → String
  | .none => "none"
  | .single => "single_key"
  | .multiple => "multiple_keys"

namespace Remainder

/-- The remainder of a value, which is never negative.  The modulus counts as a signed integer of 64
bits, so that one beyond that range stands for its complement; the smallest value has no remainder
by minus one. -/
def ofValue
    (value : Int64)
    (modulus : UInt64) : Except Error Int :=
  if modulus.toInt64.toInt = -1 ∧ value.toInt = Integer.least then
    .error .remainderOverflow
  else
    .ok (value.toInt % modulus.toInt64.toInt)

/-- The integer that a value stands for. -/
def integerOf (value : Value) : Except Error Int64 :=
  match value.toInteger? with
  | some number => .ok number
  | none => .error (.notAnInteger value)

/-- The first target that ends with the remainder of a value. -/
def target
    (modulus : Option UInt64)
    (targets : List String)
    (value : Value) : Except Error String := do
  let number ← integerOf value
  let divisor := modulus.getD targets.length.toUInt64
  if divisor = 0 then
    .error .noTargets
  else
    let remainder ← ofValue number divisor
    let suffix := toString remainder
    match targets.find? fun target => suffix.toList.isSuffixOf target.toList with
    | some target => .ok target
    | none => .error (.noMatchingTarget targets suffix value)

/-- The stem with the remainder of a value. -/
def dynamicTarget
    (stem : String)
    (modulus : UInt64)
    (value : Value) : Except Error String := do
  let number ← integerOf value
  let remainder ← ofValue number modulus
  .ok (stem ++ toString remainder)

/-- Add a target at the end, unless it is there. -/
def insertTarget
    (targets : List String)
    (target : String) : List String :=
  if targets.contains target then targets else targets ++ [target]

/-- The targets of `count` consecutive values from `value` on, in the order of their first
occurrence after the ones already found; the rest of the values is passed over once `isComplete`
holds. -/
def collect
    (targetOf : Int64 → Except Error String)
    (isComplete : List String → Bool) :
    (count : Nat) → (value : Int) → (found : List String) → Except Error (List String)
  | 0, _, found => .ok found
  | count + 1, value, found =>
      match targetOf (Int64.ofInt value) with
      | .error error => .error error
      | .ok target =>
          let extended := insertTarget found target
          if isComplete extended then
            .ok extended
          else
            collect targetOf isComplete count (value + 1) extended

/-- The number of values from `lower` to `upper`. -/
def rangeCount (lower upper : Int) : Nat :=
  (upper - lower + 1).toNat

/-- The targets of every value of a range; no more values are tried once all targets are found. -/
def rangeTargets
    (modulus : Option UInt64)
    (targets : List String)
    (lower upper : Int64) : Except Error (List String) :=
  collect (fun number => target modulus targets (.integer number))
    (fun found => !targets.isEmpty && found.length == targets.length)
    (rangeCount lower.toInt upper.toInt) lower.toInt []

/-- The names of every value of a range.  No more values are tried than there are remainders; a
modulus that counts as the smallest integer has no number before it. -/
def dynamicRangeTargets
    (stem : String)
    (modulus : UInt64)
    (lower upper : Int64) : Except Error (List String) :=
  if modulus.toInt64.toInt = Integer.least then
    .error .remainderOverflow
  else
    let last := min upper.toInt (Integer.saturate (lower.toInt + (modulus.toInt64.toInt - 1))).toInt
    collect (fun number => dynamicTarget stem modulus (.integer number)) (fun _ => false)
      (rangeCount lower.toInt last) lower.toInt []

end Remainder

namespace Algorithm

/-- How many columns the algorithm chooses by. -/
def arity : Algorithm → Arity
  | .firstTarget => .none
  | .modulo _ => .single
  | .dynamicModulo _ _ => .single
  | .ofNoKey _ => .none
  | .ofSingleKey _ => .single
  | .ofKeys _ => .multiple

/-- Whether the algorithm is built in. -/
def isBuiltIn : Algorithm → Bool
  | .firstTarget => true
  | .modulo _ => true
  | .dynamicModulo _ _ => true
  | _ => false

/-- The only value of a list. -/
def onlyValue
    (arity : String) :
    List ShardingValue → Except Error ShardingValue
  | [value] => .ok value
  | values => .error (.algorithmArity arity values.length)

/-- Choose by the values of one column: by one value, by each of several, or by a range with integer
bounds. -/
def chooseSingle
    (choice : SingleKeyChoice)
    (targets : List String)
    (value : ShardingValue) : Except Error (List String) :=
  match value.choice with
  | .single only => (choice.equal targets only).map fun target => [target]
  | .list values => values.mapM fun member => choice.equal targets member
  | .range lower upper =>
      match lower.toInteger?, upper.toInteger? with
      | some first, some last => choice.between targets first last
      | _, _ => .error (.rangeBounds lower upper)

/-- The choice by remainder among the available targets. -/
def moduloChoice (modulus : Option UInt64) : SingleKeyChoice :=
  ⟨Remainder.target modulus, Remainder.rangeTargets modulus⟩

/-- The choice by remainder that makes up names. -/
def dynamicModuloChoice
    (stem : String)
    (modulus : UInt64) : SingleKeyChoice :=
  ⟨fun _ => Remainder.dynamicTarget stem modulus,
    fun _ => Remainder.dynamicRangeTargets stem modulus⟩

/-- The first available target. -/
def chooseFirst (targets : List String) : Except Error String :=
  match targets with
  | target :: _ => .ok target
  | [] => .error .noTargets

/-- Choose targets by the values of the sharding columns. -/
def choose
    (algorithm : Algorithm)
    (targets : List String)
    (values : List ShardingValue) : Except Error (List String) := do
  match algorithm with
  | .firstTarget =>
      let _ ← onlyValue "none-key" values
      return [← chooseFirst targets]
  | .modulo modulus => chooseSingle (moduloChoice modulus) targets (← onlyValue "single-key" values)
  | .dynamicModulo stem modulus =>
      chooseSingle (dynamicModuloChoice stem modulus) targets (← onlyValue "single-key" values)
  | .ofNoKey chooseOne => return [← chooseOne targets (← onlyValue "none-key" values)]
  | .ofSingleKey choice => chooseSingle choice targets (← onlyValue "single-key" values)
  | .ofKeys chooseAll => chooseAll targets values

/-- Refuse a modulus of zero. -/
def validate (algorithm : Algorithm) : Except Error Algorithm :=
  match algorithm with
  | .modulo (some modulus) => if modulus = 0 then .error .zeroModulus else .ok algorithm
  | .dynamicModulo _ modulus => if modulus = 0 then .error .dynamicModulus else .ok algorithm
  | _ => .ok algorithm

end Algorithm

end ShardedSql
