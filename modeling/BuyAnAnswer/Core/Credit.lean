import BuyAnAnswer.Core.Pool

/-!
# Credit

A program gains credit by the replies it gets and spends it on operations and on
its result.  If every gain is backed by what the shared state has earned, then all
programs of a pool together never spend more than that, whatever becomes of them.
-/

namespace BuyAnAnswer

/-- What operations cost and what their replies bring. -/
structure Tariff (I : Interface) where
  cost : I.Operation → ℕ
  gain : (operation : I.Operation) → I.Reply operation → ℕ

namespace Program

variable {I : Interface} {Failure A B : Type} (tariff : Tariff I)

/-- The program spends no more than its credit, and ends as it should with what is
left. -/
def Affords (post : A → ℕ → Prop) : Program I Failure A → ℕ → Prop
  | .ret value, credit => post value credit
  | .fail _, _ => True
  | .await operation next, credit =>
    tariff.cost operation ≤ credit ∧ ∀ reply,
      Affords post (next reply) (credit - tariff.cost operation +
        tariff.gain operation reply)

section Affords

variable {tariff} {post : A → ℕ → Prop} {credit : ℕ}

theorem Affords.mono {weaker : A → ℕ → Prop} {program : Program I Failure A}
    (hprogram : program.Affords tariff post credit)
    (hweaker : ∀ value credit, post value credit → weaker value credit) :
    program.Affords tariff weaker credit := by
  induction program generalizing credit with
  | ret value => exact hweaker value credit hprogram
  | fail failure => exact trivial
  | await operation next ih =>
      exact ⟨hprogram.1, fun reply => ih reply (hprogram.2 reply)⟩

theorem Affords.bind {post : B → ℕ → Prop} {program : Program I Failure A}
    {next : A → Program I Failure B}
    (hprogram : program.Affords tariff
      (fun value credit => (next value).Affords tariff post credit) credit) :
    (program >>= next).Affords tariff post credit := by
  induction program generalizing credit with
  | ret value => exact hprogram
  | fail failure => exact trivial
  | await operation resume ih =>
      exact ⟨hprogram.1, fun reply => ih reply (hprogram.2 reply)⟩

theorem Affords.handle {Other : Type} {program : Program I Failure A}
    {handler : Failure → Program I Other A} (hprogram : program.Affords tariff post credit)
    (hhandler : ∀ failure credit, (handler failure).Affords tariff post credit) :
    (program.handle handler).Affords tariff post credit := by
  induction program generalizing credit with
  | ret value => exact hprogram
  | fail failure => exact hhandler failure credit
  | await operation resume ih =>
      exact ⟨hprogram.1, fun reply => ih reply (hprogram.2 reply)⟩

/-- Code whose operations are free ends with at least the credit it had. -/
theorem Uses.affords {program : Program I Failure A}
    (hprogram : program.Uses fun operation => tariff.cost operation = 0) :
    program.Affords tariff (fun _ left => credit ≤ left) credit := by
  suffices hcode : ∀ now, credit ≤ now →
      program.Affords tariff (fun _ left => credit ≤ left) now from
    hcode credit le_rfl
  induction program with
  | ret value => exact fun now hnow => hnow
  | fail failure => exact fun _ _ => trivial
  | await operation next ih =>
      obtain ⟨hfree, hnext⟩ := hprogram
      intro now hnow
      refine ⟨hfree ▸ Nat.zero_le now, ?_⟩
      intro reply
      apply ih reply (hnext reply)
      calc credit ≤ now := hnow
        _ = now - tariff.cost operation := by rw [hfree, Nat.sub_zero]
        _ ≤ _ := Nat.le_add_right _ _

end Affords

end Program

namespace System

variable {I : Interface} {State Label Choice Event : Type}
variable {Failure Result : Label → Type}

/-- What the shared state has earned and what has been spent of it. -/
structure Account (system : System I State Failure Result Choice Event)
    (tariff : Tariff I) (earned spent : State → ℕ) : Prop where
  yields : ∀ operation, I.yields operation = true
  earns : ∀ {operation choice before reply after},
    system.exec operation choice before = some (reply, after) →
      earned before + tariff.gain operation reply ≤ earned after
  spends : ∀ {operation choice before reply after},
    system.exec operation choice before = some (reply, after) →
      spent after ≤ spent before + tariff.cost operation
  event : ∀ event state, earned state ≤ earned (system.react event state) ∧
    spent (system.react event state) ≤ spent state

/-- Every thread has a credit with which it gets by, and the account covers all of
them. -/
structure Covered (tariff : Tariff I) (earned spent : State → ℕ)
    (post : (label : Label) → Result label → ℕ → Prop)
    (pool : Pool I State Failure Result) (credits : List ℕ) : Prop where
  threads : List.Forall₂ (fun credit (thread : Thread I Failure Result) =>
    thread.program.Affords tariff (post thread.label) credit) credits pool.threads
  covered : credits.sum + spent pool.state ≤ earned pool.state

theorem split_step {A B : Type} {R : A → B → Prop} {items : List A}
    {left right : List B} {middle : B}
    (hstep : List.Forall₂ R items (left ++ middle :: right)) :
    ∃ before item after, items = before ++ item :: after ∧
      List.Forall₂ R before left ∧ R item middle ∧ List.Forall₂ R after right := by
  have hbefore := List.forall₂_take_append items left _ hstep
  have hrest := List.forall₂_drop_append items left _ hstep
  obtain ⟨item, after, hitem, hafter, hdrop⟩ := List.forall₂_cons_right_iff.mp hrest
  refine ⟨items.take left.length, item, after, ?_, hbefore, hitem, hafter⟩
  rw [← hdrop, List.take_append_drop]

variable {system : System I State Failure Result Choice Event} {tariff : Tariff I}
variable {earned spent : State → ℕ} {pool : Pool I State Failure Result}
variable {post : (label : Label) → Result label → ℕ → Prop}

theorem Covered.step {credits : List ℕ}
    (haccount : system.Account tariff earned spent)
    (hlaunch : ∀ label, (system.program label).Affords tariff (post label) 0)
    (hcovered : Covered tariff earned spent post pool credits)
    (action : Schedule Label Choice Event) :
    ∃ later, Covered tariff earned spent post (system.step pool action) later := by
  obtain ⟨hthreads, hsum⟩ := hcovered
  cases action with
  | launch label =>
      refine ⟨credits ++ [0], ?_, ?_⟩
      · simp only [System.step, resume, system.settle_of_yields haccount.yields]
        exact List.rel_append hthreads (.cons (hlaunch label) .nil)
      · simp only [System.step, resume, system.settle_of_yields haccount.yields]
        simpa using hsum
  | advance index choice =>
      obtain hsame | ⟨label, operation, next, left, right, reply, middle, hsplit,
        hindex, hexec, hafter⟩ := system.advance_cases pool index choice
      · rw [hsame]
        exact ⟨credits, hthreads, hsum⟩
      · rw [hsplit] at hthreads
        obtain ⟨before, credit, after, rfl, hleft, ⟨hcost, hnext⟩, hright⟩ :=
          split_step hthreads
        have hearns := haccount.earns hexec
        have hspends := haccount.spends hexec
        rw [hafter]
        simp only [system.settle_of_yields haccount.yields]
        refine ⟨before ++ (credit - tariff.cost operation +
          tariff.gain operation reply) :: after, ?_, ?_⟩
        · exact List.rel_append hleft (.cons (hnext reply) hright)
        · simp only [List.sum_append, List.sum_cons] at hsum ⊢
          omega
  | kill index =>
      obtain hsame | ⟨left, thread, right, hsplit, hindex, hafter⟩ :=
        system.kill_cases pool index
      · rw [hsame]
        exact ⟨credits, hthreads, hsum⟩
      · rw [hsplit] at hthreads
        obtain ⟨before, credit, after, rfl, hleft, _, hright⟩ := split_step hthreads
        rw [hafter]
        refine ⟨before ++ after, List.rel_append hleft hright, ?_⟩
        simp only [List.sum_append, List.sum_cons] at hsum ⊢
        omega
  | event event =>
      obtain ⟨hearned, hspent⟩ := haccount.event event pool.state
      refine ⟨credits, hthreads, ?_⟩
      change credits.sum + spent (system.react event pool.state) ≤
        earned (system.react event pool.state)
      omega

/-- In every schedule the account covers all threads. -/
theorem Covered.run {credits : List ℕ}
    (haccount : system.Account tariff earned spent)
    (hlaunch : ∀ label, (system.program label).Affords tariff (post label) 0)
    (hcovered : Covered tariff earned spent post pool credits)
    (schedule : List (Schedule Label Choice Event)) :
    ∃ later, Covered tariff earned spent post (system.run pool schedule) later := by
  induction schedule generalizing pool credits with
  | nil => exact ⟨credits, hcovered⟩
  | cons action schedule ih =>
      obtain ⟨middle, hmiddle⟩ := hcovered.step haccount hlaunch action
      exact ih hmiddle

end System

end BuyAnAnswer
