import Mathlib

/-!
# Programs that wait for their environment

Asynchronous code runs until it asks its environment for something and resumes
with the reply.  A program is the tree of these requests, so that other code can
be interleaved between any two of them.  Some operations do not yield: they run
in one go with the code around them.
-/

namespace BuyAnAnswer

/-- What programs may ask of their environment. -/
structure Interface where
  Operation : Type
  Reply : Operation → Type
  /-- Whether other code may run before the operation. -/
  yields : Operation → Bool := fun _ => true

/-- Both interfaces at once. -/
abbrev Interface.sum (left right : Interface) : Interface where
  Operation := left.Operation ⊕ right.Operation
  Reply
    | .inl operation => left.Reply operation
    | .inr operation => right.Reply operation
  yields := Sum.elim left.yields right.yields

/-- Code that returns a value, fails, or performs an operation and goes on with
its reply. -/
inductive Program (I : Interface) (Failure A : Type) where
  | ret (value : A)
  | fail (failure : Failure)
  | await (operation : I.Operation)
      (next : I.Reply operation → Program I Failure A)

namespace Program

variable {I : Interface} {Failure Other A B C State : Type}

def bind : Program I Failure A → (A → Program I Failure B) → Program I Failure B
  | .ret value, next => next value
  | .fail failure, _ => .fail failure
  | .await operation resume, next =>
    .await operation fun reply => (resume reply).bind next

/-- `try … catch`. -/
def handle : Program I Failure A → (Failure → Program I Other A) →
    Program I Other A
  | .ret value, _ => .ret value
  | .fail failure, handler => handler failure
  | .await operation resume, handler =>
    .await operation fun reply => (resume reply).handle handler

instance : Monad (Program I Failure) where
  pure := .ret
  bind := bind

instance : MonadExceptOf Failure (Program I Failure) where
  throw := .fail
  tryCatch := handle

/-- Perform one operation. -/
def perform (operation : I.Operation) : Program I Failure (I.Reply operation) :=
  .await operation .ret

/-- The value of a computation that needs no environment. -/
def ofExcept : Except Failure A → Program I Failure A
  | .ok value => .ret value
  | .error failure => .fail failure

@[simp]
theorem pure_eq (value : A) : (pure value : Program I Failure A) = .ret value :=
  rfl

@[simp]
theorem throw_eq (failure : Failure) :
    (throw failure : Program I Failure A) = .fail failure := rfl

@[simp]
theorem ret_bind (value : A) (next : A → Program I Failure B) :
    (.ret value : Program I Failure A) >>= next = next value := rfl

@[simp]
theorem fail_bind (failure : Failure) (next : A → Program I Failure B) :
    (.fail failure : Program I Failure A) >>= next = .fail failure := rfl

@[simp]
theorem await_bind (operation : I.Operation)
    (resume : I.Reply operation → Program I Failure A)
    (next : A → Program I Failure B) :
    (.await operation resume : Program I Failure A) >>= next =
      .await operation fun reply => resume reply >>= next := rfl

@[simp]
theorem perform_bind (operation : I.Operation)
    (next : I.Reply operation → Program I Failure B) :
    perform operation >>= next = .await operation next := rfl

theorem bind_assoc (program : Program I Failure A)
    (next : A → Program I Failure B) (last : B → Program I Failure C) :
    program >>= next >>= last = program >>= fun value => next value >>= last := by
  induction program with
  | ret value => rfl
  | fail failure => rfl
  | await operation resume ih =>
      change Program.await operation _ = Program.await operation _
      exact congrArg _ (funext ih)

theorem bind_ret (program : Program I Failure A) : program >>= .ret = program := by
  induction program with
  | ret value => rfl
  | fail failure => rfl
  | await operation resume ih =>
      exact congrArg _ (funext ih)

instance : LawfulMonad (Program I Failure) :=
  LawfulMonad.mk' (Program I Failure) bind_ret ret_bind bind_assoc

/-! ## Running alone -/

/-- Run without interference. -/
def run (exec : (operation : I.Operation) → State → I.Reply operation × State) :
    Program I Failure A → State → Except Failure A × State
  | .ret value, state => (.ok value, state)
  | .fail failure, state => (.error failure, state)
  | .await operation next, state =>
    (next (exec operation state).1).run exec (exec operation state).2

section Run

variable {exec : (operation : I.Operation) → State → I.Reply operation × State}

@[simp]
theorem run_ret (value : A) (state : State) :
    (.ret value : Program I Failure A).run exec state = (.ok value, state) := rfl

@[simp]
theorem run_fail (failure : Failure) (state : State) :
    (.fail failure : Program I Failure A).run exec state =
      (.error failure, state) := rfl

@[simp]
theorem run_await (operation : I.Operation)
    (next : I.Reply operation → Program I Failure A) (state : State) :
    (Program.await operation next).run exec state =
      (next (exec operation state).1).run exec (exec operation state).2 := rfl

theorem run_bind (program : Program I Failure A)
    (next : A → Program I Failure B) (state : State) :
    (program >>= next).run exec state =
      match program.run exec state with
      | (.ok value, middle) => (next value).run exec middle
      | (.error failure, middle) => (.error failure, middle) := by
  induction program generalizing state with
  | ret value => rfl
  | fail failure => rfl
  | await operation resume ih => exact ih _ _

theorem run_bind_ok {program : Program I Failure A}
    {next : A → Program I Failure B} {state middle : State} {value : A}
    (hrun : program.run exec state = (.ok value, middle)) :
    (program >>= next).run exec state = (next value).run exec middle := by
  rw [run_bind, hrun]

theorem run_handle (program : Program I Failure A)
    (handler : Failure → Program I Other A) (state : State) :
    (program.handle handler).run exec state =
      match program.run exec state with
      | (.ok value, after) => (.ok value, after)
      | (.error failure, after) => (handler failure).run exec after := by
  induction program generalizing state with
  | ret value => rfl
  | fail failure => rfl
  | await operation resume ih => exact ih _ _

end Run

/-! ## Running alone, until an operation fails -/

/-- Run without interference in an environment whose operations may fail.  A
failing operation ends the run, and may have taken effect all the same. -/
def runFailing (exec : (operation : I.Operation) → State → I.Reply operation × State)
    (fails : I.Operation → Option Bool) :
    Program I Failure A → State → Option (Except Failure A) × State
  | .ret value, state => (some (.ok value), state)
  | .fail failure, state => (some (.error failure), state)
  | .await operation next, state =>
    match fails operation with
    | none => (next (exec operation state).1).runFailing exec fails (exec operation state).2
    | some applied => (none, if applied then (exec operation state).2 else state)

section RunFailing

variable {exec : (operation : I.Operation) → State → I.Reply operation × State}
variable {fails : I.Operation → Option Bool}

theorem runFailing_bind (program : Program I Failure A)
    (next : A → Program I Failure B) (state : State) :
    (program >>= next).runFailing exec fails state =
      match program.runFailing exec fails state with
      | (some (.ok value), middle) => (next value).runFailing exec fails middle
      | (some (.error failure), middle) => (some (.error failure), middle)
      | (none, middle) => (none, middle) := by
  induction program generalizing state with
  | ret value => rfl
  | fail failure => rfl
  | await operation resume ih =>
      rw [await_bind, runFailing, runFailing]
      cases fails operation with
      | none => exact ih _ _
      | some applied => rfl

theorem runFailing_handle (program : Program I Failure A)
    (handler : Failure → Program I Other A) (state : State) :
    (program.handle handler).runFailing exec fails state =
      match program.runFailing exec fails state with
      | (some (.ok value), after) => (some (.ok value), after)
      | (some (.error failure), after) => (handler failure).runFailing exec fails after
      | (none, after) => (none, after) := by
  induction program generalizing state with
  | ret value => rfl
  | fail failure => rfl
  | await operation resume ih =>
      rw [handle, runFailing, runFailing]
      cases fails operation with
      | none => exact ih _ _
      | some applied => rfl

end RunFailing

/-! ## The operations of a program -/

/-- The operation a program is about to perform. -/
def head : Program I Failure A → Option I.Operation
  | .await operation _ => some operation
  | _ => none

/-- The program has failed. -/
def isFailed : Program I Failure A → Bool
  | .fail _ => true
  | _ => false

/-- Every operation of the program is permitted. -/
def Uses (Permitted : I.Operation → Prop) : Program I Failure A → Prop
  | .ret _ => True
  | .fail _ => True
  | .await operation next =>
    Permitted operation ∧ ∀ reply, (next reply).Uses Permitted

theorem Uses.bind {Permitted : I.Operation → Prop}
    {program : Program I Failure A} {next : A → Program I Failure B}
    (hprogram : program.Uses Permitted)
    (hnext : ∀ value, (next value).Uses Permitted) :
    (program >>= next).Uses Permitted := by
  induction program with
  | ret value => exact hnext value
  | fail failure => exact hprogram
  | await operation resume ih =>
      exact ⟨hprogram.1, fun reply => ih reply (hprogram.2 reply)⟩

theorem Uses.handle {Permitted : I.Operation → Prop}
    {program : Program I Failure A} {handler : Failure → Program I Other A}
    (hprogram : program.Uses Permitted)
    (hhandler : ∀ failure, (handler failure).Uses Permitted) :
    (program.handle handler).Uses Permitted := by
  induction program with
  | ret value => exact hprogram
  | fail failure => exact hhandler failure
  | await operation resume ih =>
      exact ⟨hprogram.1, fun reply => ih reply (hprogram.2 reply)⟩

theorem Uses.mono {Permitted Wider : I.Operation → Prop}
    {program : Program I Failure A} (hprogram : program.Uses Permitted)
    (hwider : ∀ operation, Permitted operation → Wider operation) :
    program.Uses Wider := by
  induction program with
  | ret value => exact hprogram
  | fail failure => exact hprogram
  | await operation resume ih =>
      exact ⟨hwider operation hprogram.1,
        fun reply => ih reply (hprogram.2 reply)⟩

theorem uses_ofExcept {Permitted : I.Operation → Prop} (result : Except Failure A) :
    (ofExcept result : Program I Failure A).Uses Permitted := by
  cases result <;> exact trivial

theorem uses_any (program : Program I Failure A) : program.Uses fun _ => True := by
  induction program with
  | ret value => exact trivial
  | fail failure => exact trivial
  | await operation next ih => exact ⟨trivial, ih⟩

/-- What every permitted operation keeps, a run keeps. -/
theorem Uses.run {Permitted : I.Operation → Prop}
    {exec : (operation : I.Operation) → State → I.Reply operation × State}
    {Kept : State → Prop} {program : Program I Failure A}
    (hprogram : program.Uses Permitted)
    (hexec : ∀ {operation state}, Permitted operation → Kept state →
      Kept (exec operation state).2)
    {state : State} (hstate : Kept state) : Kept (program.run exec state).2 := by
  induction program generalizing state with
  | ret value => exact hstate
  | fail failure => exact hstate
  | await operation next ih => exact ih _ (hprogram.2 _) (hexec hprogram.1 hstate)

/-- A program runs in a wider state as it does in the part that its operations
use. -/
theorem Uses.run_embed {Wider : Type} {Permitted : I.Operation → Prop}
    {exec : (operation : I.Operation) → State → I.Reply operation × State}
    {wider : (operation : I.Operation) → Wider → I.Reply operation × Wider}
    {embed : State → Wider} {program : Program I Failure A}
    (hprogram : program.Uses Permitted)
    (hexec : ∀ operation state, Permitted operation →
      wider operation (embed state) =
        ((exec operation state).1, embed (exec operation state).2))
    (state : State) :
    program.run wider (embed state) =
      ((program.run exec state).1, embed (program.run exec state).2) := by
  induction program generalizing state with
  | ret value => rfl
  | fail failure => rfl
  | await operation next ih =>
      rw [run_await, run_await, hexec operation state hprogram.1]
      exact ih _ (hprogram.2 _) _

/-- Whatever it returns, the program performs such an operation before. -/
def Performs (Wanted : I.Operation → Prop) : Program I Failure A → Prop
  | .ret _ => False
  | .fail _ => True
  | .await operation next =>
    Wanted operation ∨ ∀ reply, (next reply).Performs Wanted

theorem performs_bind {Wanted : I.Operation → Prop} {program : Program I Failure A}
    {next : A → Program I Failure B} (hnext : ∀ value, (next value).Performs Wanted) :
    (program >>= next).Performs Wanted := by
  induction program with
  | ret value => exact hnext value
  | fail failure => exact trivial
  | await operation resume ih => exact .inr ih

/-- What the wanted operation brings about and no operation undoes holds after
the program has returned. -/
theorem Performs.run {Wanted : I.Operation → Prop}
    {exec : (operation : I.Operation) → State → I.Reply operation × State}
    {Done : State → Prop} {program : Program I Failure A}
    (hprogram : program.Performs Wanted)
    (hwanted : ∀ operation state, Wanted operation → Done (exec operation state).2)
    (hkept : ∀ operation state, Done state → Done (exec operation state).2)
    {state after : State} {value : A} (hrun : program.run exec state = (.ok value, after)) :
    Done after := by
  induction program generalizing state with
  | ret value => exact hprogram.elim
  | fail failure => cases hrun
  | await operation next ih =>
      rw [run_await] at hrun
      obtain hnow | hlater := hprogram
      · have hany : (next (exec operation state).1).Uses fun _ => True := uses_any _
        have hdone := @Uses.run _ _ _ _ _ exec Done _ hany (fun _ => hkept _ _) _
          (hwanted operation state hnow)
        rwa [hrun] at hdone
      · exact ih _ (hlater _) hrun

/-! ## Two interfaces side by side -/

section Sum

variable {J : Interface}

/-- A program that only knows the left interface. -/
def inLeft (J : Interface) : Program I Failure A → Program (I.sum J) Failure A
  | .ret value => .ret value
  | .fail failure => .fail failure
  | .await operation next => .await (.inl operation) fun reply => (next reply).inLeft J

theorem uses_inLeft {Permitted : I.Operation → Prop} {program : Program I Failure A}
    (hprogram : program.Uses Permitted) (Other : J.Operation → Prop) :
    (program.inLeft J).Uses (Sum.elim Permitted Other) := by
  induction program with
  | ret value => exact trivial
  | fail failure => exact trivial
  | await operation next ih =>
      exact ⟨hprogram.1, fun reply => ih reply (hprogram.2 reply)⟩

/-- It runs as it does in the left interface alone. -/
theorem run_inLeft {Wider : Type}
    {exec : (operation : I.Operation) → State → I.Reply operation × State}
    {wider : (operation : (I.sum J).Operation) → Wider → (I.sum J).Reply operation × Wider}
    {embed : State → Wider}
    (hexec : ∀ operation state, wider (.inl operation) (embed state) =
      ((exec operation state).1, embed (exec operation state).2))
    (program : Program I Failure A) (state : State) :
    (program.inLeft J).run wider (embed state) =
      ((program.run exec state).1, embed (program.run exec state).2) := by
  induction program generalizing state with
  | ret value => rfl
  | fail failure => rfl
  | await operation next ih =>
      rw [inLeft, run_await, run_await, hexec operation state]
      exact ih _ _

end Sum

section Duties

variable {Duty : Type} {met : I.Operation → Option Duty}
variable {owed : (operation : I.Operation) → I.Reply operation → Option Duty}

/-- The duty that the next operation of the program meets. -/
def duty (met : I.Operation → Option Duty) (program : Program I Failure A) :
    Option Duty :=
  program.head.bind met

/-- Whenever a reply leaves the program with a duty, it meets it at once; and it
meets no other. -/
def Dutiful (met : I.Operation → Option Duty)
    (owed : (operation : I.Operation) → I.Reply operation → Option Duty) :
    Program I Failure A → Prop
  | .ret _ => True
  | .fail _ => True
  | .await operation next => ∀ reply,
    (next reply).duty met = owed operation reply ∧ (next reply).Dutiful met owed

/-- Code that has nothing to do with duties. -/
theorem Uses.dutiful {program : Program I Failure A}
    (hprogram : program.Uses fun operation =>
      met operation = none ∧ ∀ reply, owed operation reply = none) :
    program.duty met = none ∧ program.Dutiful met owed := by
  induction program with
  | ret value => exact ⟨rfl, trivial⟩
  | fail failure => exact ⟨rfl, trivial⟩
  | await operation next ih =>
      obtain ⟨⟨hmet, howed⟩, hnext⟩ := hprogram
      refine ⟨hmet, ?_⟩
      intro reply
      obtain ⟨hduty, hdutiful⟩ := ih reply (hnext reply)
      exact ⟨hduty.trans (howed reply).symm, hdutiful⟩

/-- Code that starts without a duty may follow any code. -/
theorem Dutiful.bind {program : Program I Failure A}
    {next : A → Program I Failure B} (hprogram : program.Dutiful met owed)
    (hnext : ∀ value, (next value).duty met = none ∧
      (next value).Dutiful met owed) :
    (program >>= next).duty met = program.duty met ∧
      (program >>= next).Dutiful met owed := by
  induction program with
  | ret value => exact hnext value
  | fail failure => exact ⟨rfl, trivial⟩
  | await operation resume ih =>
      refine ⟨rfl, ?_⟩
      intro reply
      obtain ⟨howed, hresume⟩ := hprogram reply
      obtain ⟨hduty, hdutiful⟩ := ih reply hresume
      exact ⟨hduty.trans howed, hdutiful⟩

/-- Handlers that start without a duty do not disturb. -/
theorem Dutiful.handle {program : Program I Failure A}
    {handler : Failure → Program I Other A} (hprogram : program.Dutiful met owed)
    (hhandler : ∀ failure, (handler failure).duty met = none ∧
      (handler failure).Dutiful met owed) :
    (program.handle handler).duty met = program.duty met ∧
      (program.handle handler).Dutiful met owed := by
  induction program with
  | ret value => exact ⟨rfl, trivial⟩
  | fail failure => exact hhandler failure
  | await operation resume ih =>
      refine ⟨rfl, ?_⟩
      intro reply
      obtain ⟨howed, hresume⟩ := hprogram reply
      obtain ⟨hduty, hdutiful⟩ := ih reply hresume
      exact ⟨hduty.trans howed, hdutiful⟩

end Duties

end Program

end BuyAnAnswer
