import Mathlib.Data.List.Forall2

/-!
# Computations that succeed

What the success of a composed computation says about its parts.  A computation stops at its first
failure, so that a result shows the success of every part before it.
-/

namespace ShardedSql.Success

variable {Failure Input Middle Output : Type}

theorem bind_eq_ok
    {first : Except Failure Middle}
    {next : Middle → Except Failure Output}
    {output : Output} :
    first >>= next = .ok output ↔ ∃ middle, first = .ok middle ∧ next middle = .ok output := by
  cases first with
  | error failure => simp [bind, Except.bind]
  | ok middle => simp [bind, Except.bind]

theorem map_eq_ok
    {first : Except Failure Middle}
    {function : Middle → Output}
    {output : Output} :
    first.map function = .ok output ↔ ∃ middle, first = .ok middle ∧ function middle = output := by
  cases first with
  | error failure => simp [Except.map]
  | ok middle => simp [Except.map]

theorem toOption_eq_some
    {result : Except Failure Output}
    {output : Output} :
    result.toOption = some output ↔ result = .ok output := by
  cases result with
  | error failure => simp [Except.toOption]
  | ok output => simp [Except.toOption]

/-- A list of computations succeeds exactly if each of them does. -/
theorem mapM_eq_ok
    {function : Input → Except Failure Output}
    {inputs : List Input}
    {outputs : List Output} :
    inputs.mapM function = .ok outputs ↔
      List.Forall₂ (fun input output => function input = .ok output) inputs outputs := by
  induction inputs generalizing outputs with
  | nil => simp [pure, Except.pure, eq_comm]
  | cons input inputs ih =>
      rw [List.mapM_cons, bind_eq_ok]
      constructor
      · rintro ⟨first, firstOk, restOk⟩
        obtain ⟨rest, restOk, equal⟩ := bind_eq_ok.mp restOk
        have listed : first :: rest = outputs := Except.ok.inj equal
        rw [← listed]
        exact .cons firstOk (ih.mp restOk)
      · rintro (_ | ⟨firstOk, restOk⟩)
        exact ⟨_, firstOk, bind_eq_ok.mpr ⟨_, ih.mpr restOk, rfl⟩⟩

/-- Functions that agree on the members of a list give the same computation over the list. -/
theorem mapM_congr
    {first second : Input → Except Failure Output}
    {inputs : List Input}
    (agree : ∀ input ∈ inputs, first input = second input) :
    inputs.mapM first = inputs.mapM second := by
  induction inputs with
  | nil => rfl
  | cons input inputs ih =>
      rw [List.mapM_cons, List.mapM_cons, agree input List.mem_cons_self,
        ih fun other member => agree other (List.mem_cons_of_mem _ member)]

/-- A list of computations that all succeed has the list of their results. -/
theorem mapM_eq_ok_map
    {function : Input → Except Failure Output}
    {result : Input → Output}
    {inputs : List Input}
    (succeeds : ∀ input ∈ inputs, function input = .ok (result input)) :
    inputs.mapM function = .ok (inputs.map result) := by
  rw [mapM_eq_ok, List.forall₂_map_right_iff, List.forall₂_same]
  exact succeeds

/-- What each step of a succeeding fold keeps holds in the end. -/
theorem foldlM_induction
    {State : Type}
    {step : State → Input → Except Failure State}
    {property : State → Prop}
    (keeps : ∀ state input next, property state → step state input = .ok next → property next)
    {inputs : List Input}
    {first last : State}
    (succeeded : inputs.foldlM step first = .ok last)
    (holds : property first) :
    property last := by
  induction inputs generalizing first with
  | nil => exact Except.ok.inj succeeded ▸ holds
  | cons input inputs ih =>
      rw [List.foldlM_cons] at succeeded
      obtain ⟨next, stepOk, restOk⟩ := bind_eq_ok.mp succeeded
      exact ih restOk (keeps first input next holds stepOk)

/-- What stands in one of two lists that agree place by place has a counterpart in the other one. -/
theorem exists_of_forall₂
    {related : Input → Output → Prop}
    {inputs : List Input}
    {outputs : List Output}
    (aligned : List.Forall₂ related inputs outputs)
    {input : Input}
    (member : input ∈ inputs) :
    ∃ output ∈ outputs, related input output := by
  induction aligned with
  | nil => cases member
  | cons agree _ ih =>
      rcases List.mem_cons.mp member with rfl | later
      · exact ⟨_, List.mem_cons_self, agree⟩
      · obtain ⟨output, outputMem, agree⟩ := ih later
        exact ⟨output, List.mem_cons_of_mem _ outputMem, agree⟩

/-- Where the counterpart decides nothing, a relation place by place is a property of each member. -/
theorem forall₂_iff_forall_mem
    {related other : Input → Output → Prop}
    {property : Input → Prop}
    {inputs : List Input}
    {outputs : List Output}
    (aligned : List.Forall₂ related inputs outputs)
    (agrees : ∀ input output, related input output → (other input output ↔ property input)) :
    List.Forall₂ other inputs outputs ↔ ∀ input ∈ inputs, property input := by
  induction aligned with
  | nil => simp
  | cons agree _ ih => rw [List.forall₂_cons, List.forall_mem_cons, ih, agrees _ _ agree]

theorem exists_output_of_mem
    {function : Input → Except Failure Output}
    {inputs : List Input}
    {outputs : List Output}
    (succeeded : inputs.mapM function = .ok outputs)
    {input : Input}
    (member : input ∈ inputs) :
    ∃ output ∈ outputs, function input = .ok output :=
  exists_of_forall₂ (mapM_eq_ok.mp succeeded) member

theorem exists_input_of_mem
    {function : Input → Except Failure Output}
    {inputs : List Input}
    {outputs : List Output}
    (succeeded : inputs.mapM function = .ok outputs)
    {output : Output}
    (member : output ∈ outputs) :
    ∃ input ∈ inputs, function input = .ok output :=
  exists_of_forall₂ (mapM_eq_ok.mp succeeded).flip member

/-- A relation between inputs carries over to the results of their computations. -/
theorem pairwise_of_mapM
    {function : Input → Except Failure Output}
    {inputs : List Input}
    {outputs : List Output}
    (succeeded : inputs.mapM function = .ok outputs)
    {before : Input → Input → Prop}
    {after : Output → Output → Prop}
    (pairwise : inputs.Pairwise before)
    (carries : ∀ {first second firstOutput secondOutput}, before first second →
      function first = .ok firstOutput → function second = .ok secondOutput →
        after firstOutput secondOutput) :
    outputs.Pairwise after := by
  induction inputs generalizing outputs with
  | nil =>
      cases mapM_eq_ok.mp succeeded
      exact List.Pairwise.nil
  | cons input inputs ih =>
      obtain ⟨apart, rest⟩ := List.pairwise_cons.mp pairwise
      cases mapM_eq_ok.mp succeeded with
      | cons outputOk othersOk =>
          have othersOk := mapM_eq_ok.mpr othersOk
          refine List.pairwise_cons.mpr ⟨fun other member => ?_, ih othersOk rest⟩
          obtain ⟨otherInput, otherMem, otherOk⟩ := exists_input_of_mem othersOk member
          exact carries (apart otherInput otherMem) outputOk otherOk

/-- A list of computations that fails has a member that fails in this way. -/
theorem exists_failure_of_mapM
    {function : Input → Except Failure Output}
    {inputs : List Input}
    {failure : Failure}
    (failed : inputs.mapM function = .error failure) :
    ∃ input ∈ inputs, function input = .error failure := by
  induction inputs with
  | nil => cases failed
  | cons input inputs ih =>
      rw [List.mapM_cons] at failed
      cases ran : function input with
      | error other =>
          rw [ran] at failed
          cases failed
          exact ⟨input, List.mem_cons_self, ran⟩
      | ok output =>
          cases rest : inputs.mapM function with
          | error other =>
              rw [ran, rest] at failed
              cases failed
              obtain ⟨later, member, fails⟩ := ih rest
              exact ⟨later, List.mem_cons_of_mem _ member, fails⟩
          | ok outputs =>
              rw [ran, rest] at failed
              cases failed

section Agreement

variable {Other Image : Type}

/-- Whether two computations both fail, or both succeed with related results. -/
inductive Agree
    (related : Output → Image → Prop) : Except Failure Output → Except Failure Image → Prop where
  | error {first second : Failure} : Agree related (.error first) (.error second)
  | ok {first : Output} {second : Image} (same : related first second) :
      Agree related (.ok first) (.ok second)

theorem Agree.refl (result : Except Failure Output) :
    Agree Eq result result := by
  cases result with
  | error failure => exact .error
  | ok output => exact .ok rfl

theorem Agree.of_eq
    {first second : Except Failure Output}
    (equal : first = second) :
    Agree Eq first second :=
  equal ▸ .refl first

theorem Agree.eq_ok_iff
    {first second : Except Failure Output}
    (agree : Agree Eq first second)
    (output : Output) :
    first = .ok output ↔ second = .ok output := by
  cases agree with
  | error => simp
  | ok same => rw [same]

theorem Agree.bind
    {related : Input → Other → Prop}
    {relatedAfter : Output → Image → Prop}
    {first : Except Failure Input}
    {second : Except Failure Other}
    {next : Input → Except Failure Output}
    {nextOther : Other → Except Failure Image}
    (agree : Agree related first second)
    (continues : ∀ input other, related input other →
      Agree relatedAfter (next input) (nextOther other)) :
    Agree relatedAfter (first >>= next) (second >>= nextOther) := by
  cases agree with
  | error => exact .error
  | ok same => exact continues _ _ same

theorem Agree.map
    {related : Input → Other → Prop}
    {relatedAfter : Output → Image → Prop}
    {first : Except Failure Input}
    {second : Except Failure Other}
    {function : Input → Output}
    {functionOther : Other → Image}
    (agree : Agree related first second)
    (maps : ∀ input other, related input other →
      relatedAfter (function input) (functionOther other)) :
    Agree relatedAfter (first.map function) (second.map functionOther) := by
  cases agree with
  | error => exact .error
  | ok same => exact .ok (maps _ _ same)

theorem Agree.mapM
    {related : Output → Image → Prop}
    {function : Input → Except Failure Output}
    {functionOther : Input → Except Failure Image}
    (agrees : ∀ input, Agree related (function input) (functionOther input))
    (inputs : List Input) :
    Agree (List.Forall₂ related) (inputs.mapM function) (inputs.mapM functionOther) := by
  induction inputs with
  | nil => exact .ok .nil
  | cons input inputs ih =>
      rw [List.mapM_cons, List.mapM_cons]
      exact (agrees input).bind fun _ _ same =>
        ih.bind fun _ _ sameRest => .ok (.cons same sameRest)

end Agreement

end ShardedSql.Success
