import Mathlib

/-!
# Runs of a state machine

A machine consumes a list of inputs.  The rules below carry a fact about one
step to a whole run: an invariant, an invariant of the steps that meet a
condition, and the step at which a property begins to hold.
-/

namespace BuyAnAnswer.Machine

variable {State Input : Type*}

/-- The state after consuming `inputs` in order. -/
def run (step : State → Input → State) (start : State) (inputs : List Input) :
    State :=
  inputs.foldl step start

@[simp]
theorem run_nil (step : State → Input → State) (start : State) :
    run step start [] = start := rfl

@[simp]
theorem run_cons (step : State → Input → State) (start : State) (input : Input)
    (inputs : List Input) :
    run step start (input :: inputs) = run step (step start input) inputs := rfl

theorem run_append (step : State → Input → State) (start : State)
    (first second : List Input) :
    run step start (first ++ second) = run step (run step start first) second :=
  List.foldl_append

/-- Invariant rule: what holds at the start and is kept by every step of the
run holds at its end. -/
theorem run_invariant {step : State → Input → State} {Invariant : State → Prop}
    {start : State} {inputs : List Input} (hstart : Invariant start)
    (hstep : ∀ state, ∀ input ∈ inputs,
      Invariant state → Invariant (step state input)) :
    Invariant (run step start inputs) := by
  induction inputs generalizing start with
  | nil => exact hstart
  | cons input inputs ih =>
      rw [run_cons]
      apply ih (hstep start input (by simp) hstart)
      intro state other hother
      exact hstep state other (by simp [hother])

/-- Every input of a run meets the condition in the state that consumes it. -/
def Meets (step : State → Input → State) (condition : State → Input → Prop) :
    State → List Input → Prop
  | _, [] => True
  | state, input :: inputs =>
    condition state input ∧ Meets step condition (step state input) inputs

instance decidableMeets {step : State → Input → State}
    {condition : State → Input → Prop} [∀ state input, Decidable (condition state input)] :
    (start : State) → (inputs : List Input) → Decidable (Meets step condition start inputs)
  | _, [] => isTrue trivial
  | start, input :: inputs =>
    have : Decidable (Meets step condition (step start input) inputs) :=
      decidableMeets (step start input) inputs
    inferInstanceAs (Decidable (condition start input ∧ _))

theorem meets_of_forall {step : State → Input → State}
    {condition : State → Input → Prop} {start : State} {inputs : List Input}
    (hinputs : ∀ input ∈ inputs, ∀ state, condition state input) :
    Meets step condition start inputs := by
  induction inputs generalizing start with
  | nil => exact trivial
  | cons input inputs ih =>
      refine ⟨hinputs input List.mem_cons_self start, ih ?_⟩
      intro other hother
      exact hinputs other (List.mem_cons_of_mem _ hother)

theorem meets_always {step : State → Input → State} {start : State}
    (inputs : List Input) : Meets step (fun _ _ => True) start inputs :=
  meets_of_forall fun _ _ _ => trivial

/-- A weaker condition is met as well. -/
theorem Meets.mono {step : State → Input → State} {condition weaker : State → Input → Prop}
    {start : State} {inputs : List Input} (hmeets : Meets step condition start inputs)
    (hweaker : ∀ {state input}, condition state input → weaker state input) :
    Meets step weaker start inputs := by
  induction inputs generalizing start with
  | nil => exact trivial
  | cons input inputs ih => exact ⟨hweaker hmeets.1, ih hmeets.2⟩

theorem meets_append {step : State → Input → State}
    {condition : State → Input → Prop} {start : State} {first second : List Input} :
    Meets step condition start (first ++ second) ↔
      Meets step condition start first ∧
        Meets step condition (run step start first) second := by
  induction first generalizing start with
  | nil => simp [Meets]
  | cons input first ih => simp [Meets, ih, and_assoc]

/-- Invariant rule for runs that meet a condition. -/
theorem run_invariant_of_meets {step : State → Input → State}
    {condition : State → Input → Prop} {Invariant : State → Prop}
    {start : State} {inputs : List Input}
    (hmeets : Meets step condition start inputs) (hstart : Invariant start)
    (hstep : ∀ {state input}, condition state input → Invariant state →
      Invariant (step state input)) :
    Invariant (run step start inputs) := by
  induction inputs generalizing start with
  | nil => exact hstart
  | cons input inputs ih => exact ih hmeets.2 (hstep hmeets.1 hstart)

/-- Where each step keeps a property exactly if it meets a condition, and loses it
for good otherwise, a run keeps the property iff it meets the condition. -/
theorem run_iff_meets {step : State → Input → State}
    {condition : State → Input → Prop} {Invariant Property : State → Prop}
    {allowed : Input → Prop} {start : State} {inputs : List Input}
    (hstart : Invariant start) (hallowed : ∀ input ∈ inputs, allowed input)
    (hkeeps : ∀ {state input}, allowed input → Invariant state →
      Invariant (step state input))
    (hstep : ∀ {state input}, allowed input → Invariant state →
      (Property (step state input) ↔ Property state ∧ condition state input)) :
    Property (run step start inputs) ↔
      Property start ∧ Meets step condition start inputs := by
  induction inputs generalizing start with
  | nil => simp [Meets]
  | cons input inputs ih =>
      have hinput := hallowed input List.mem_cons_self
      rw [run_cons, ih (hkeeps hinput hstart)
        fun other hother => hallowed other (List.mem_cons_of_mem _ hother),
        hstep hinput hstart, Meets, and_assoc]

end BuyAnAnswer.Machine
