import BuyAnAnswer.Core.Pool

/-!
# The conduct of a program

What a program may ask for and which failures it may end with, whatever it is told.
-/

namespace BuyAnAnswer

namespace Program

variable {I : Interface} {Failure Other A B : Type}
variable {Permitted Wider : I.Operation → Prop} {Failures More : Failure → Prop}

/-- Whatever the replies, the program keeps to permitted operations, and fails only as
stated. -/
def Obeys (Permitted : I.Operation → Prop) (Failures : Failure → Prop) :
    Program I Failure A → Prop
  | .ret _ => True
  | .fail failure => Failures failure
  | .await operation next =>
    Permitted operation ∧ ∀ reply, (next reply).Obeys Permitted Failures

theorem Obeys.uses {program : Program I Failure A}
    (hprogram : program.Obeys Permitted Failures) : program.Uses Permitted := by
  induction program with
  | ret value => exact trivial
  | fail failure => exact trivial
  | await operation next ih => exact ⟨hprogram.1, fun reply => ih reply (hprogram.2 reply)⟩

theorem Obeys.mono {program : Program I Failure A}
    (hprogram : program.Obeys Permitted Failures)
    (hwider : ∀ operation, Permitted operation → Wider operation)
    (hmore : ∀ failure, Failures failure → More failure) : program.Obeys Wider More := by
  induction program with
  | ret value => exact trivial
  | fail failure => exact hmore failure hprogram
  | await operation next ih =>
      exact ⟨hwider operation hprogram.1, fun reply => ih reply (hprogram.2 reply)⟩

theorem Obeys.bind {program : Program I Failure A} {next : A → Program I Failure B}
    (hprogram : program.Obeys Permitted Failures)
    (hnext : ∀ value, (next value).Obeys Permitted Failures) :
    (program >>= next).Obeys Permitted Failures := by
  induction program with
  | ret value => exact hnext value
  | fail failure => exact hprogram
  | await operation resume ih =>
      exact ⟨hprogram.1, fun reply => ih reply (hprogram.2 reply)⟩

theorem obeys_ofExcept {result : Except Failure A}
    (hfails : ∀ failure, result = .error failure → Failures failure) :
    (ofExcept result : Program I Failure A).Obeys Permitted Failures := by
  cases result with
  | ok value => exact trivial
  | error failure => exact hfails failure rfl

end Program

namespace System

variable {I : Interface} {State Label Choice Event : Type}
variable {Failure Result : Label → Type}
variable {system : System I State Failure Result Choice Event}
variable {protocol : Protocol I State}

/-- Code that obeys, of operations that all keep the protocol on their own. -/
theorem wp_of_obeys {Problem A : Type} {Permitted : I.Operation → Prop}
    {failures : Problem → Prop} {program : Program I Problem A} {state : State}
    (hprogram : program.Obeys Permitted failures)
    (hyields : ∀ operation, I.yields operation = true)
    (hkeeps : ∀ operation, Permitted operation → ∀ now,
      protocol.Invariant now → protocol.Allowed operation now →
        ∀ choice reply after,
          system.exec operation choice now = some (reply, after) →
            protocol.Invariant after ∧ protocol.Rely now after) :
    system.wp protocol (FailsOnly failures) program state := by
  induction program generalizing state with
  | ret value => exact fun _ _ _ => trivial
  | fail failure => exact fun _ _ _ => hprogram
  | await operation next ih =>
      refine wp_await (hyields operation) ?_
      intro now _ hinvariant hallowed choice reply after hexec
      obtain ⟨hafter, hrely⟩ :=
        hkeeps operation hprogram.1 now hinvariant hallowed choice reply after hexec
      exact ⟨hafter, hrely, ih reply (hprogram.2 reply)⟩

/-- Two postconditions of the same code. -/
theorem wp_and {Problem A : Type} {left right : Except Problem A → State → Prop}
    {program : Program I Problem A} {state : State}
    (hleft : system.wp protocol left program state)
    (hright : system.wp protocol right program state) :
    system.wp protocol (fun result later => left result later ∧ right result later) program
      state := by
  induction program generalizing state with
  | ret value =>
      exact fun later hlater hinvariant =>
        ⟨hleft later hlater hinvariant, hright later hlater hinvariant⟩
  | fail failure =>
      exact fun later hlater hinvariant =>
        ⟨hleft later hlater hinvariant, hright later hlater hinvariant⟩
  | await operation next ih =>
      rw [wp] at hleft hright ⊢
      split at hleft
      · next hyields =>
        rw [if_pos hyields] at hright ⊢
        intro now hnow hinvariant hallowed choice reply after hexec
        obtain ⟨hafter, hrely, hnext⟩ :=
          hleft now hnow hinvariant hallowed choice reply after hexec
        exact ⟨hafter, hrely, ih reply hnext
          (hright now hnow hinvariant hallowed choice reply after hexec).2.2⟩
      · next hyields =>
        rw [if_neg hyields] at hright ⊢
        exact ⟨hleft.1, hleft.2.1, ih _ hleft.2.2 hright.2.2⟩

end System

end BuyAnAnswer
