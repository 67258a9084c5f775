import Mathlib

/-!
# Transactional code

A contract call runs code that reads and writes a state and may revert.  The
code below keeps the state it had reached when it reverts; undoing its writes
is the job of the enclosing call frame (`frame`) or of a `try`/`catch` around
an external call (`attempt`).  The lemmas run code symbolically: each construct
in front of a continuation is either executed or turned into what a successful
or reverting run says about it.
-/

namespace BuyAnAnswer.Transaction

variable {Failure State A B : Type}

/-- Code over a state, which either returns a value or reverts with a failure,
in both cases leaving the state it stopped in. -/
abbrev Code (Failure State A : Type) := EStateM Failure State A

theorem bind_eq_ok {code : Code Failure State A} {next : A → Code Failure State B}
    {start stop : State} {value : B} :
    (code >>= next) start = .ok value stop ↔
      ∃ result middle, code start = .ok result middle ∧
        next result middle = .ok value stop := by
  simp only [bind, EStateM.bind]
  cases code start <;> simp

theorem bind_eq_error {code : Code Failure State A}
    {next : A → Code Failure State B} {start stop : State} {failure : Failure} :
    (code >>= next) start = .error failure stop ↔
      code start = .error failure stop ∨
        ∃ result middle, code start = .ok result middle ∧
          next result middle = .error failure stop := by
  simp only [bind, EStateM.bind]
  cases code start <;> simp

/-- Continuations that agree wherever `code` returns are interchangeable. -/
theorem bind_congr_right {code : Code Failure State A}
    {next other : A → Code Failure State B} {start : State}
    (hnext : ∀ {result middle}, code start = .ok result middle →
      next result middle = other result middle) :
    (code >>= next) start = (code >>= other) start := by
  simp only [bind, EStateM.bind]
  cases hcode : code start with
  | ok result middle => exact hnext hcode
  | error failure stop => rfl

theorem bind_congr_left {code other : Code Failure State A} {start : State}
    (hcode : code start = other start) (next : A → Code Failure State B) :
    (code >>= next) start = (other >>= next) start := by
  simp only [bind, EStateM.bind, hcode]

theorem map_eq_ok {code : Code Failure State A} {change : A → B}
    {start stop : State} {value : B} :
    (change <$> code) start = .ok value stop ↔
      ∃ result, code start = .ok result stop ∧ value = change result := by
  simp only [Functor.map, EStateM.map]
  cases code start <;> simp [eq_comm, and_comm]

theorem map_eq_error {code : Code Failure State A} {change : A → B}
    {start stop : State} {failure : Failure} :
    (change <$> code) start = .error failure stop ↔
      code start = .error failure stop := by
  simp only [Functor.map, EStateM.map]
  cases code start <;> simp

theorem map_code_congr {code other : Code Failure State A} {start : State}
    (hcode : code start = other start) (change : A → B) :
    (change <$> code) start = (change <$> other) start := by
  simp only [Functor.map, EStateM.map, hcode]

@[simp]
theorem pure_eq_ok {result value : A} {start stop : State} :
    (pure result : Code Failure State A) start = .ok value stop ↔
      value = result ∧ stop = start := by
  simp only [pure, EStateM.pure, EStateM.Result.ok.injEq]
  exact ⟨fun h => ⟨h.1.symm, h.2.symm⟩, fun h => ⟨h.1.symm, h.2.symm⟩⟩

@[simp]
theorem pure_eq_error {result : A} {start stop : State} {failure : Failure} :
    (pure result : Code Failure State A) start = .error failure stop ↔ False := by
  simp [pure, EStateM.pure]

/-! ## Reading and writing -/

/-- Read a part of the state. -/
def read (part : State → A) : Code Failure State A :=
  fun state => .ok (part state) state

/-- Change the state. -/
def write (change : State → State) : Code Failure State Unit :=
  fun state => .ok () (change state)

@[simp]
theorem read_bind (part : State → A) (next : A → Code Failure State B)
    (start : State) :
    (read part >>= next) start = next (part start) start := rfl

@[simp]
theorem write_eq_ok {change : State → State} {start stop : State} {value : Unit} :
    (write change : Code Failure State Unit) start = .ok value stop ↔
      stop = change start := by
  simp only [write, EStateM.Result.ok.injEq, true_and]
  exact eq_comm

@[simp]
theorem write_eq_error {change : State → State} {start stop : State}
    {failure : Failure} :
    (write change : Code Failure State Unit) start = .error failure stop ↔
      False := by
  simp [write]

/-! ## Failing -/

/-- Revert with `failure` unless `condition` holds. -/
def require (condition : Prop) [Decidable condition] (failure : Failure) :
    Code Failure State Unit :=
  fun state => if condition then .ok () state else .error failure state

/-- Run a fallible pure computation. -/
def lift (outcome : Except Failure A) : Code Failure State A :=
  fun state =>
    match outcome with
    | .ok value => .ok value state
    | .error failure => .error failure state

section Require

variable {condition : Prop} [Decidable condition] {failure thrown : Failure}
variable {start stop : State}

@[simp]
theorem require_eq_ok {value : Unit} :
    (require condition failure : Code Failure State Unit) start =
        .ok value stop ↔ condition ∧ stop = start := by
  rw [require]
  by_cases hcondition : condition <;> simp [hcondition, eq_comm]

@[simp]
theorem require_eq_error :
    (require condition failure : Code Failure State Unit) start =
        .error thrown stop ↔
      ¬ condition ∧ thrown = failure ∧ stop = start := by
  rw [require]
  by_cases hcondition : condition <;> simp [hcondition, eq_comm]

@[simp]
theorem require_bind_eq_ok {next : Unit → Code Failure State B} {value : B} :
    ((require condition failure : Code Failure State Unit) >>= next) start =
        .ok value stop ↔ condition ∧ next () start = .ok value stop := by
  rw [bind_eq_ok]
  simp only [require_eq_ok]
  constructor
  · rintro ⟨_, _, ⟨hcondition, rfl⟩, hnext⟩
    exact ⟨hcondition, hnext⟩
  · rintro ⟨hcondition, hnext⟩
    exact ⟨(), start, ⟨hcondition, rfl⟩, hnext⟩

@[simp]
theorem require_bind_eq_error {next : Unit → Code Failure State B} :
    ((require condition failure : Code Failure State Unit) >>= next) start =
        .error thrown stop ↔
      ¬ condition ∧ thrown = failure ∧ stop = start ∨
        condition ∧ next () start = .error thrown stop := by
  rw [bind_eq_error]
  simp only [require_eq_ok, require_eq_error]
  apply or_congr_right
  constructor
  · rintro ⟨_, _, ⟨hcondition, rfl⟩, hnext⟩
    exact ⟨hcondition, hnext⟩
  · rintro ⟨hcondition, hnext⟩
    exact ⟨(), start, ⟨hcondition, rfl⟩, hnext⟩

end Require

section Lift

variable {outcome : Except Failure A} {failure : Failure} {start stop : State}

theorem lift_eq_ok {value : A} :
    (lift outcome : Code Failure State A) start = .ok value stop ↔
      outcome = .ok value ∧ stop = start := by
  cases outcome <;> simp [lift, eq_comm]

theorem lift_eq_error :
    (lift outcome : Code Failure State A) start = .error failure stop ↔
      outcome = .error failure ∧ stop = start := by
  cases outcome <;> simp [lift, eq_comm]

@[simp]
theorem lift_bind_eq_ok {next : A → Code Failure State B} {value : B} :
    ((lift outcome : Code Failure State A) >>= next) start = .ok value stop ↔
      ∃ result, outcome = .ok result ∧ next result start = .ok value stop := by
  rw [bind_eq_ok]
  apply exists_congr
  intro result
  simp only [lift_eq_ok]
  constructor
  · rintro ⟨_, ⟨houtcome, rfl⟩, hnext⟩
    exact ⟨houtcome, hnext⟩
  · rintro ⟨houtcome, hnext⟩
    exact ⟨start, ⟨houtcome, rfl⟩, hnext⟩

@[simp]
theorem lift_bind_eq_error {next : A → Code Failure State B} :
    ((lift outcome : Code Failure State A) >>= next) start =
        .error failure stop ↔
      (outcome = .error failure ∧ stop = start) ∨
        ∃ result, outcome = .ok result ∧
          next result start = .error failure stop := by
  rw [bind_eq_error, lift_eq_error]
  apply or_congr_right
  apply exists_congr
  intro result
  simp only [lift_eq_ok]
  constructor
  · rintro ⟨_, ⟨houtcome, rfl⟩, hnext⟩
    exact ⟨houtcome, hnext⟩
  · rintro ⟨houtcome, hnext⟩
    exact ⟨start, ⟨houtcome, rfl⟩, hnext⟩

end Lift

/-! ## Frames -/

/-- A call frame: a reverting call leaves the state it was entered in. -/
def frame (code : Code Failure State A) : Code Failure State A :=
  fun state =>
    match code state with
    | .ok value stop => .ok value stop
    | .error failure _ => .error failure state

/-- Solidity's `try code {} catch {}`: the external call runs in its own frame
and its failure is swallowed. -/
def attempt (code : Code Failure State Unit) : Code Failure State Unit :=
  fun state =>
    match code state with
    | .ok _ stop => .ok () stop
    | .error _ _ => .ok () state

/-- The state a run stopped in. -/
def finalState : EStateM.Result Failure State A → State
  | .ok _ state => state
  | .error _ state => state

/-- Whether a run returned. -/
def succeeded : EStateM.Result Failure State A → Bool
  | .ok _ _ => true
  | .error _ _ => false

section Frames

variable {failure : Failure} {start stop : State}

theorem frame_eq_ok {code : Code Failure State A} {value : A} :
    frame code start = .ok value stop ↔ code start = .ok value stop := by
  rw [frame]
  cases code start <;> simp

theorem frame_eq_error {code : Code Failure State A} :
    frame code start = .error failure stop ↔
      (∃ reached, code start = .error failure reached) ∧ stop = start := by
  rw [frame]
  cases code start <;> simp [eq_comm]

theorem attempt_eq_ok {code : Code Failure State Unit} {value : Unit} :
    attempt code start = .ok value stop ↔
      code start = .ok () stop ∨
        (∃ thrown reached, code start = .error thrown reached) ∧
          stop = start := by
  rw [attempt]
  cases code start <;> simp [eq_comm]

@[simp]
theorem finalState_ok (value : A) (state : State) :
    finalState (.ok value state : EStateM.Result Failure State A) = state := rfl

@[simp]
theorem finalState_error (thrown : Failure) (state : State) :
    finalState (.error thrown state : EStateM.Result Failure State A) =
      state := rfl

theorem frame_congr {code other : Code Failure State A} {start : State}
    (hcode : code start = other start) : frame code start = frame other start := by
  rw [frame, frame, hcode]

theorem attempt_congr {code other : Code Failure State Unit} {start : State}
    (hcode : code start = other start) :
    attempt code start = attempt other start := by
  rw [attempt, attempt, hcode]

theorem succeeded_iff {result : EStateM.Result Failure State A} :
    succeeded result = true ↔ ∃ value state, result = .ok value state := by
  cases result <;> simp [succeeded]

end Frames

end BuyAnAnswer.Transaction
