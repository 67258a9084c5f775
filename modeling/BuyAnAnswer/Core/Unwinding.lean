import BuyAnAnswer.Core.Machine
import BuyAnAnswer.Core.Program

/-!
# Two runs that cannot be told apart

An observer sees what a system returns, and a relation says which states look
alike to it.  Where a step from states that look alike returns the same and leaves
states that look alike, so does every run.
-/

namespace BuyAnAnswer

variable {State Input Output A : Type*}

/-- Two results that return the same and leave states that look alike. -/
structure Coincide (Alike : State → State → Prop) (left right : A × State) : Prop where
  result : left.1 = right.1
  alike : Alike left.2 right.2

variable {Alike : State → State → Prop} {left right : State}

theorem coincide_same (halike : Alike left right) (value : A) :
    Coincide Alike (value, left) (value, right) := ⟨rfl, halike⟩

namespace Program

variable {I : Interface} {Failure A B State : Type} {Alike : State → State → Prop}
variable {left right : State}
variable {exec : (operation : I.Operation) → State → I.Reply operation × State}

/-- Sequences of programs: what comes after the first one may rely on its result. -/
theorem coincide_bind {program : Program I Failure A} {next : A → Program I Failure B}
    (hprogram : Coincide Alike (program.run exec left) (program.run exec right))
    (hnext : ∀ value before after, Alike before after →
      Coincide Alike ((next value).run exec before) ((next value).run exec after)) :
    Coincide Alike ((program >>= next).run exec left) ((program >>= next).run exec right) := by
  rw [run_bind, run_bind]
  obtain ⟨hresult, halike⟩ := hprogram
  generalize program.run exec left = first at hresult halike
  generalize program.run exec right = second at hresult halike
  obtain ⟨result, before⟩ := first
  obtain ⟨other, after⟩ := second
  obtain rfl : result = other := hresult
  cases result with
  | ok value => exact hnext value before after halike
  | error failure => exact coincide_same halike _

end Program

namespace Machine

/-- A run of a machine that returns something at each step. -/
def trace (step : State → Input → Output × State) :
    State → List Input → List Output × State
  | start, [] => ([], start)
  | start, input :: inputs =>
    let rest := trace step (step start input).2 inputs
    ((step start input).1 :: rest.1, rest.2)

/-- Unwinding: what coincides step by step coincides over whole runs. -/
theorem coincide_trace {step : State → Input → Output × State}
    {condition : State → Input → Prop} {inputs : List Input}
    (hstep : ∀ input ∈ inputs, ∀ before after, Alike before after →
      condition before input → condition after input →
      Coincide Alike (step before input) (step after input))
    (halike : Alike left right)
    (hleft : Meets (fun state input => (step state input).2) condition left inputs)
    (hright : Meets (fun state input => (step state input).2) condition right inputs) :
    Coincide Alike (trace step left inputs) (trace step right inputs) := by
  induction inputs generalizing left right with
  | nil => exact coincide_same halike []
  | cons input inputs ih =>
      have hhead := hstep input List.mem_cons_self left right halike hleft.1 hright.1
      have hrest : ∀ other ∈ inputs, ∀ before after, Alike before after →
          condition before other → condition after other →
          Coincide Alike (step before other) (step after other) :=
        fun other hother => hstep other (List.mem_cons_of_mem _ hother)
      have htail := ih hrest hhead.alike hleft.2 hright.2
      refine ⟨?_, htail.alike⟩
      rw [trace, trace, hhead.result, htail.result]

end Machine

end BuyAnAnswer
