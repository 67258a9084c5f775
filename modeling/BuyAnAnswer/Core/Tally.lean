import BuyAnAnswer.Core.Credit

/-!
# Counting operations

A counter next to the shared state adds up what the performed operations cost.  No
program can read it, so the system runs as it does without it; and it never exceeds
what the launched programs may spend together.
-/

namespace BuyAnAnswer

namespace System

variable {I : Interface} {State Label Choice Event : Type}
variable {Failure Result : Label → Type}

/-- The system with a counter of the costs. -/
def counting (system : System I State Failure Result Choice Event)
    (cost : I.Operation → ℕ) : System I (State × ℕ) Failure Result Choice Event where
  program := system.program
  exec := fun operation choice before =>
    (system.exec operation choice before.1).map fun result =>
      (result.1, (result.2, before.2 + cost operation))
  immediate := fun operation before =>
    ((system.immediate operation before.1).1,
      ((system.immediate operation before.1).2, before.2 + cost operation))
  react := fun event before => (system.react event before.1, before.2)

/-- Forget the counter. -/
def uncounted (pool : Pool I (State × ℕ) Failure Result) : Pool I State Failure Result where
  state := pool.state.1
  threads := pool.threads

/-- The programs that a schedule launches. -/
def launches (schedule : List (Schedule Label Choice Event)) : List Label :=
  schedule.filterMap fun
    | .launch label => some label
    | _ => none

variable {system : System I State Failure Result Choice Event} {cost : I.Operation → ℕ}

section Uncounted

theorem counting_exec {operation : I.Operation} {choice : Choice} {before after : State × ℕ}
    {reply : I.Reply operation}
    (hexec : (system.counting cost).exec operation choice before = some (reply, after)) :
    system.exec operation choice before.1 = some (reply, after.1) ∧
      after.2 = before.2 + cost operation := by
  obtain ⟨result, hresult, hpair⟩ := Option.map_eq_some_iff.mp hexec
  cases hpair
  exact ⟨hresult, rfl⟩

theorem uncounted_step (hyields : ∀ operation, I.yields operation = true)
    (pool : Pool I (State × ℕ) Failure Result) (action : Schedule Label Choice Event) :
    uncounted ((system.counting cost).step pool action) =
      system.step (uncounted pool) action := by
  cases action with
  | launch label =>
      simp only [step, resume, settle_of_yields _ hyields]
      rfl
  | advance index choice =>
      rw [step, step]
      have hthreads : (uncounted pool).threads = pool.threads := rfl
      rw [hthreads]
      cases pool.threads[index]? with
      | none => simp only [uncounted]
      | some thread =>
          obtain ⟨label, program⟩ := thread
          cases program with
          | ret value => simp only [uncounted]
          | fail failure => simp only [uncounted]
          | await operation next =>
              simp only [uncounted, counting]
              cases system.exec operation choice pool.state.1 with
              | none => rfl
              | some result =>
                  simp only [Option.map_some, resume, settle_of_yields _ hyields]
  | kill index => rfl
  | event event => rfl

/-- The counter changes nothing. -/
theorem uncounted_run (hyields : ∀ operation, I.yields operation = true)
    (pool : Pool I (State × ℕ) Failure Result)
    (schedule : List (Schedule Label Choice Event)) :
    uncounted ((system.counting cost).run pool schedule) =
      system.run (uncounted pool) schedule := by
  induction schedule generalizing pool with
  | nil => rfl
  | cons action schedule ih =>
      rw [run, Machine.run_cons, run, Machine.run_cons, ← uncounted_step hyields]
      exact ih _

end Uncounted

/-! ## What is spent -/

/-- Every thread gets by with its budget, and all budgets together with what is counted
stay below a bound. -/
structure Budgeted (cost : I.Operation → ℕ) (bound : ℕ)
    (pool : Pool I (State × ℕ) Failure Result) (budgets : List ℕ) : Prop where
  threads : List.Forall₂ (fun budget (thread : Thread I Failure Result) =>
    thread.program.Affords { cost, gain := fun _ _ => 0 } (fun _ _ => True) budget)
    budgets pool.threads
  bounded : budgets.sum + pool.state.2 ≤ bound

section Budget

variable {allowance : Label → ℕ} {pool : Pool I (State × ℕ) Failure Result} {bound : ℕ}

theorem Budgeted.step {budgets : List ℕ} (hyields : ∀ operation, I.yields operation = true)
    (hallowance : ∀ label, (system.program label).Affords { cost, gain := fun _ _ => 0 }
      (fun _ _ => True) (allowance label))
    (hbudgeted : Budgeted cost bound pool budgets) (action : Schedule Label Choice Event) :
    ∃ later, Budgeted cost (bound + ((launches [action]).map allowance).sum)
      ((system.counting cost).step pool action) later := by
  obtain ⟨hthreads, hsum⟩ := hbudgeted
  cases action with
  | launch label =>
      refine ⟨budgets ++ [allowance label], ?_, ?_⟩
      · simp only [System.step, resume, settle_of_yields _ hyields]
        exact List.rel_append hthreads (.cons (hallowance label) .nil)
      · simp only [System.step, resume, settle_of_yields _ hyields, launches]
        simp
        omega
  | advance index choice =>
      obtain hsame | ⟨label, operation, next, left, right, reply, middle, hsplit, hindex,
        hexec, hafter⟩ := (system.counting cost).advance_cases pool index choice
      · rw [hsame]
        exact ⟨budgets, hthreads, hsum⟩
      · rw [hsplit] at hthreads
        obtain ⟨before, budget, after, rfl, hleft, ⟨hcost, hnext⟩, hright⟩ :=
          split_step hthreads
        have hcount := (counting_exec hexec).2
        rw [hafter]
        simp only [settle_of_yields _ hyields]
        refine ⟨before ++ (budget - cost operation + 0) :: after, ?_, ?_⟩
        · exact List.rel_append hleft (.cons (hnext reply) hright)
        · simp only [List.sum_append, List.sum_cons] at hsum hcost ⊢
          omega
  | kill index =>
      obtain hsame | ⟨left, thread, right, hsplit, hindex, hafter⟩ :=
        (system.counting cost).kill_cases pool index
      · rw [hsame]
        exact ⟨budgets, hthreads, hsum⟩
      · rw [hsplit] at hthreads
        obtain ⟨before, budget, after, rfl, hleft, _, hright⟩ := split_step hthreads
        rw [hafter]
        refine ⟨before ++ after, List.rel_append hleft hright, ?_⟩
        simp only [List.sum_append, List.sum_cons] at hsum ⊢
        omega
  | event event => exact ⟨budgets, hthreads, hsum⟩

/-- In every schedule the programs launched pay for what is counted. -/
theorem counted_le (hyields : ∀ operation, I.yields operation = true)
    (hallowance : ∀ label, (system.program label).Affords { cost, gain := fun _ _ => 0 }
      (fun _ _ => True) (allowance label))
    (start : State × ℕ) (schedule : List (Schedule Label Choice Event)) :
    ((system.counting cost).run { state := start, threads := [] } schedule).state.2 ≤
      start.2 + ((launches schedule).map allowance).sum := by
  suffices hrun : ∀ bound budgets (pool : Pool I (State × ℕ) Failure Result),
      Budgeted cost bound pool budgets →
      ∃ later, Budgeted cost (bound + ((launches schedule).map allowance).sum)
        ((system.counting cost).run pool schedule) later by
    obtain ⟨later, hlater⟩ :=
      hrun start.2 [] { state := start, threads := [] } ⟨.nil, by simp⟩
    have hbounded := hlater.bounded
    omega
  induction schedule with
  | nil => exact fun bound budgets pool hpool => ⟨budgets, hpool⟩
  | cons action schedule ih =>
      intro bound budgets pool hpool
      obtain ⟨middle, hmiddle⟩ := hpool.step hyields hallowance action
      obtain ⟨later, hlater⟩ := ih _ _ _ hmiddle
      have hsplit : launches (action :: schedule) =
          launches [action] ++ launches schedule :=
        List.filterMap_append (l := [action])
      refine ⟨later, hlater.threads, ?_⟩
      rw [hsplit, List.map_append, List.sum_append, ← Nat.add_assoc]
      exact hlater.bounded

end Budget

end System

end BuyAnAnswer
