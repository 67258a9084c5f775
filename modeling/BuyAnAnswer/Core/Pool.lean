import BuyAnAnswer.Core.Machine
import BuyAnAnswer.Core.Program

/-!
# Pools of interleaved programs

A system runs any number of programs over one shared state.  A schedule launches
programs, lets one of them perform its next operation, kills one, or lets the
environment change the state.  `wp` is the rely-guarantee rule for one program:
it must be right whatever the others do within the protocol.
-/

namespace BuyAnAnswer

/-- A program with what it was launched for. -/
structure Thread (I : Interface) {Label : Type} (Failure Result : Label → Type)
    where
  label : Label
  program : Program I (Failure label) (Result label)

structure Pool (I : Interface) (State : Type) {Label : Type}
    (Failure Result : Label → Type) where
  state : State
  threads : List (Thread I Failure Result)

/-- A step of a schedule. -/
inductive Schedule (Label Choice Event : Type) where
  | launch (label : Label)
  | advance (index : ℕ) (choice : Choice)
  | kill (index : ℕ)
  | event (event : Event)
  deriving DecidableEq, Repr

/-- What the programs do and how their environment answers.  An operation whose
answer is `none` has to wait. -/
structure System (I : Interface) (State : Type) {Label : Type}
    (Failure Result : Label → Type) (Choice Event : Type) where
  program : (label : Label) → Program I (Failure label) (Result label)
  exec : (operation : I.Operation) → Choice → State →
    Option (I.Reply operation × State)
  immediate : (operation : I.Operation) → State → I.Reply operation × State
  react : Event → State → State

namespace System

variable {I : Interface} {State Label Choice Event : Type}
variable {Failure Result : Label → Type}
variable (system : System I State Failure Result Choice Event)

section Step

variable {Problem A : Type}

/-- Run up to the next operation that yields. -/
def settle : Program I Problem A → State → Program I Problem A × State
  | .ret value, state => (.ret value, state)
  | .fail failure, state => (.fail failure, state)
  | .await operation next, state =>
    if I.yields operation then (.await operation next, state)
    else settle (next (system.immediate operation state).1)
      (system.immediate operation state).2

/-- The program has run up to an operation that yields. -/
def Settled (program : Program I Problem A) : Prop :=
  ∀ operation ∈ program.head, I.yields operation = true

theorem settled_settle (program : Program I Problem A) (state : State) :
    Settled (system.settle program state).1 := by
  induction program generalizing state with
  | ret value =>
      intro operation hoperation
      cases hoperation
  | fail failure =>
      intro operation hoperation
      cases hoperation
  | await operation next ih =>
      rw [settle]
      split
      · next hyields =>
        intro other hother
        cases hother
        exact hyields
      · exact ih _ _

/-- Where every operation yields there is nothing to run at once. -/
theorem settle_of_yields (hyields : ∀ operation, I.yields operation = true)
    (program : Program I Problem A) (state : State) :
    system.settle program state = (program, state) := by
  cases program with
  | ret value => rfl
  | fail failure => rfl
  | await operation next => rw [settle, if_pos (hyields operation)]

end Step

/-- Put a program of the pool to work. -/
def resume {label : Label} (program : Program I (Failure label) (Result label))
    (state : State) : Thread I Failure Result × State :=
  (⟨label, (system.settle program state).1⟩, (system.settle program state).2)

def step (pool : Pool I State Failure Result) :
    Schedule Label Choice Event → Pool I State Failure Result
  | .launch label =>
    { state := (system.resume (system.program label) pool.state).2
      threads := pool.threads ++
        [(system.resume (system.program label) pool.state).1] }
  | .advance index choice =>
    match pool.threads[index]? with
    | some ⟨_, .await operation next⟩ =>
      match system.exec operation choice pool.state with
      | some (reply, state) =>
        { state := (system.resume (next reply) state).2
          threads := pool.threads.set index
            (system.resume (next reply) state).1 }
      | none => pool
    | _ => pool
  | .kill index => { pool with threads := pool.threads.eraseIdx index }
  | .event event => { pool with state := system.react event pool.state }

def run (pool : Pool I State Failure Result)
    (schedule : List (Schedule Label Choice Event)) :
    Pool I State Failure Result :=
  Machine.run system.step pool schedule

/-! ## What the steps do -/

section Cases

variable {system : System I State Failure Result Choice Event}

theorem split_at {T : Type} {threads : List T} {index : ℕ} {thread : T}
    (hget : threads[index]? = some thread) :
    ∃ before after, threads = before ++ thread :: after ∧
      before.length = index ∧
      (∀ other, threads.set index other = before ++ other :: after) ∧
      threads.eraseIdx index = before ++ after := by
  induction threads generalizing index with
  | nil => cases hget
  | cons first rest ih =>
      cases index with
      | zero =>
          cases hget
          exact ⟨[], rest, rfl, rfl, fun _ => rfl, rfl⟩
      | succ index =>
          obtain ⟨before, after, rfl, rfl, hset, herase⟩ := ih hget
          exact ⟨first :: before, after, rfl, rfl,
            fun other => congrArg (first :: ·) (hset other),
            congrArg (first :: ·) herase⟩

theorem getElem?_of_split {T : Type} {threads left right : List T} {thread : T}
    {index : ℕ} (hthreads : threads = left ++ thread :: right)
    (hindex : left.length = index) : threads[index]? = some thread := by
  rw [hthreads, ← hindex]
  simp

/-- A thread of the pool performs its next operation. -/
structure Advances (system : System I State Failure Result Choice Event)
    (pool after : Pool I State Failure Result) (index : ℕ) (choice : Choice)
    where
  label : Label
  operation : I.Operation
  next : I.Reply operation → Program I (Failure label) (Result label)
  left : List (Thread I Failure Result)
  right : List (Thread I Failure Result)
  reply : I.Reply operation
  middle : State
  threads : pool.threads = left ++ ⟨label, .await operation next⟩ :: right
  index_eq : left.length = index
  exec : system.exec operation choice pool.state = some (reply, middle)
  after_eq : after = {
    state := (system.settle (next reply) middle).2
    threads := left ++ ⟨label, (system.settle (next reply) middle).1⟩ :: right }

theorem advance_cases (system : System I State Failure Result Choice Event)
    (pool : Pool I State Failure Result) (index : ℕ) (choice : Choice) :
    system.step pool (.advance index choice) = pool ∨
      Nonempty (system.Advances pool
        (system.step pool (.advance index choice)) index choice) := by
  rw [step]
  split
  · next label operation next hget =>
    cases hexec : system.exec operation choice pool.state with
    | none => exact .inl rfl
    | some result =>
        obtain ⟨reply, state⟩ := result
        obtain ⟨left, right, hthreads, hindex, hset, _⟩ := split_at hget
        refine .inr ⟨⟨label, operation, next, left, right, reply, state, hthreads,
          hindex, hexec, ?_⟩⟩
        simp only [hset]
        rfl
  · exact .inl rfl

theorem kill_cases (system : System I State Failure Result Choice Event)
    (pool : Pool I State Failure Result) (index : ℕ) :
    system.step pool (.kill index) = pool ∨
      ∃ left thread right, pool.threads = left ++ thread :: right ∧
        left.length = index ∧
        system.step pool (.kill index) =
          { pool with threads := left ++ right } := by
  rw [step]
  cases hget : pool.threads[index]? with
  | none =>
      rw [List.eraseIdx_of_length_le (List.getElem?_eq_none_iff.mp hget)]
      exact .inl rfl
  | some thread =>
      obtain ⟨left, right, hthreads, hindex, _, herase⟩ := split_at hget
      rw [herase]
      exact .inr ⟨left, thread, right, hthreads, hindex, rfl⟩

/-! ## What holds of the threads all along -/

variable {pool : Pool I State Failure Result}

/-- Every thread satisfies the property of its label. -/
def Throughout
    (Holds : (label : Label) → Program I (Failure label) (Result label) → Prop)
    (pool : Pool I State Failure Result) : Prop :=
  ∀ thread ∈ pool.threads, Holds thread.label thread.program

/-- A property of programs that goes over to what is left of them. -/
structure Hereditary (system : System I State Failure Result Choice Event)
    (Holds : (label : Label) → Program I (Failure label) (Result label) → Prop) :
    Prop where
  launch : ∀ label, Holds label (system.program label)
  next : ∀ {label operation}
    {next : I.Reply operation → Program I (Failure label) (Result label)},
    Holds label (.await operation next) → ∀ reply, Holds label (next reply)

section Hereditary

variable {Holds : (label : Label) → Program I (Failure label) (Result label) → Prop}

theorem Hereditary.settle (hholds : system.Hereditary Holds) {label : Label}
    {program : Program I (Failure label) (Result label)} (state : State)
    (hprogram : Holds label program) :
    Holds label (system.settle program state).1 := by
  induction program generalizing state with
  | ret value => exact hprogram
  | fail failure => exact hprogram
  | await operation next ih =>
      rw [System.settle]
      split
      · exact hprogram
      · exact ih _ _ (hholds.next hprogram _)

theorem Throughout.step (hholds : system.Hereditary Holds)
    (hpool : Throughout Holds pool) (action : Schedule Label Choice Event) :
    Throughout Holds (system.step pool action) := by
  cases action with
  | launch label =>
      intro thread hthread
      obtain hold | hnew := List.mem_append.mp hthread
      · exact hpool thread hold
      · rw [List.mem_singleton.mp hnew]
        exact hholds.settle _ (hholds.launch label)
  | advance index choice =>
      obtain hsame | hadvances := system.advance_cases pool index choice
      · rw [hsame]
        exact hpool
      · obtain ⟨label, operation, next, left, right, reply, middle, hthreads,
          _, _, hafter⟩ := hadvances
        rw [Throughout, hthreads] at hpool
        have hself := hpool _ (List.mem_append_right _ List.mem_cons_self)
        rw [hafter]
        intro thread hthread
        obtain hleft | hright := List.mem_append.mp hthread
        · exact hpool thread (List.mem_append_left _ hleft)
        · obtain rfl | hright := List.mem_cons.mp hright
          · exact hholds.settle _ (hholds.next hself reply)
          · exact hpool thread
              (List.mem_append_right _ (List.mem_cons_of_mem _ hright))
  | kill index =>
      intro thread hthread
      exact hpool thread (List.mem_of_mem_eraseIdx hthread)
  | event event => exact hpool

theorem Throughout.run (hholds : system.Hereditary Holds)
    (hpool : Throughout Holds pool)
    (schedule : List (Schedule Label Choice Event)) :
    Throughout Holds (system.run pool schedule) :=
  Machine.run_invariant hpool fun _ action _ hstate => hstate.step hholds action

end Hereditary

/-- Every thread has only permitted operations ahead. -/
def Confined (Permitted : Label → I.Operation → Prop)
    (pool : Pool I State Failure Result) : Prop :=
  Throughout (fun label program => program.Uses (Permitted label)) pool

theorem hereditary_uses {Permitted : Label → I.Operation → Prop}
    (hprogram : ∀ label, (system.program label).Uses (Permitted label)) :
    system.Hereditary fun label program => program.Uses (Permitted label) where
  launch := hprogram
  next := fun huses reply => huses.2 reply

end Cases

end System

/-! ## Rely and guarantee -/

/-- An invariant of the shared state, the changes that every step keeps to, and
the condition under which an operation is performed. -/
structure Protocol (I : Interface) (State : Type) where
  Invariant : State → Prop
  Rely : State → State → Prop
  Allowed : I.Operation → State → Prop := fun _ _ => True
  refl : ∀ state, Rely state state
  trans : ∀ {first second third}, Rely first second → Rely second third →
    Rely first third

namespace System

variable {I : Interface} {State Label Choice Event : Type}
variable {Failure Result : Label → Type}
variable (system : System I State Failure Result Choice Event)
variable (protocol : Protocol I State)

/-- One performed operation stays within the protocol and leads to `post`. -/
def Guarantees (before after : State) (post : State → Prop) : Prop :=
  protocol.Invariant after ∧ protocol.Rely before after ∧ post after

/-- Started in a state of the invariant, the program stays within the protocol
and its result satisfies `post`, whatever others do within the protocol. -/
def wp {Problem A : Type} (post : Except Problem A → State → Prop) :
    Program I Problem A → State → Prop
  | .ret value, state =>
    ∀ later, protocol.Rely state later → protocol.Invariant later →
      post (.ok value) later
  | .fail failure, state =>
    ∀ later, protocol.Rely state later → protocol.Invariant later →
      post (.error failure) later
  | .await operation next, state =>
    if I.yields operation then
      ∀ now, protocol.Rely state now → protocol.Invariant now →
        protocol.Allowed operation now → ∀ choice reply after,
          system.exec operation choice now = some (reply, after) →
            Guarantees protocol now after (wp post (next reply))
    else Guarantees protocol state (system.immediate operation state).2
      (wp post (next (system.immediate operation state).1))

/-- The postcondition of code that ends with none but these failures. -/
def FailsOnly {Problem A : Type} (failures : Problem → Prop) :
    Except Problem A → State → Prop
  | .ok _, _ => True
  | .error failure, _ => failures failure

/-- The postcondition of code that ends with none but these failures or gets
something done. -/
def Ends {Problem A : Type} (failures : Problem → Prop) (done : State → Prop) :
    Except Problem A → State → Prop
  | .ok _, state => done state
  | .error failure, _ => failures failure

section Rules

variable {system protocol} {Problem A B : Type}
variable {post : Except Problem A → State → Prop}
variable {program : Program I Problem A} {state later : State}

/-- The rule for an operation that yields. -/
theorem wp_await {operation : I.Operation}
    {next : I.Reply operation → Program I Problem A}
    (hyields : I.yields operation = true)
    (hnext : ∀ now, protocol.Rely state now → protocol.Invariant now →
      protocol.Allowed operation now → ∀ choice reply after,
        system.exec operation choice now = some (reply, after) →
          Guarantees protocol now after (system.wp protocol post (next reply))) :
    system.wp protocol post (.await operation next) state := by
  rw [wp, if_pos hyields]
  exact hnext

/-- A settled program does not mind what others do. -/
theorem wp_later (hsettled : Settled program)
    (hwp : system.wp protocol post program state)
    (hrely : protocol.Rely state later) :
    system.wp protocol post program later := by
  cases program with
  | ret value =>
      intro final hfinal
      exact hwp final (protocol.trans hrely hfinal)
  | fail failure =>
      intro final hfinal
      exact hwp final (protocol.trans hrely hfinal)
  | await operation next =>
      have hyields := hsettled operation rfl
      rw [wp, if_pos hyields] at hwp
      refine wp_await hyields ?_
      intro now hnow
      exact hwp now (protocol.trans hrely hnow)

theorem wp_mono {weaker : Except Problem A → State → Prop}
    (hwp : system.wp protocol post program state)
    (hweaker : ∀ result later, protocol.Rely state later →
      protocol.Invariant later → post result later → weaker result later) :
    system.wp protocol weaker program state := by
  induction program generalizing state with
  | ret value =>
      intro later hrely hinvariant
      exact hweaker _ _ hrely hinvariant (hwp later hrely hinvariant)
  | fail failure =>
      intro later hrely hinvariant
      exact hweaker _ _ hrely hinvariant (hwp later hrely hinvariant)
  | await operation next ih =>
      rw [wp] at hwp ⊢
      split at hwp
      · next hyields =>
        rw [if_pos hyields]
        intro now hnow hinvariant hallowed choice reply after hexec
        obtain ⟨hafter, hrely, hrest⟩ :=
          hwp now hnow hinvariant hallowed choice reply after hexec
        refine ⟨hafter, hrely, ih reply hrest ?_⟩
        intro result later hlater
        exact hweaker result later
          (protocol.trans hnow (protocol.trans hrely hlater))
      · next hyields =>
        rw [if_neg hyields]
        refine ⟨hwp.1, hwp.2.1, ih _ hwp.2.2 ?_⟩
        intro result later hlater
        exact hweaker result later (protocol.trans hwp.2.1 hlater)

/-- The rule for code in front of a continuation. -/
theorem wp_bind {next : A → Program I Problem B}
    {post : Except Problem B → State → Prop}
    (hinvariant : protocol.Invariant state)
    (hwp : system.wp protocol
      (fun result after =>
        match result with
        | .ok value => system.wp protocol post (next value) after
        | .error failure => post (.error failure) after)
      program state) :
    system.wp protocol post (program >>= next) state := by
  induction program generalizing state with
  | ret value => exact hwp state (protocol.refl state) hinvariant
  | fail failure => exact hwp
  | await operation resume ih =>
      rw [Program.await_bind, wp]
      rw [wp] at hwp
      split at hwp
      · next hyields =>
        rw [if_pos hyields]
        intro now hnow hinvariant hallowed choice reply after hexec
        obtain ⟨hafter, hrely, hrest⟩ :=
          hwp now hnow hinvariant hallowed choice reply after hexec
        exact ⟨hafter, hrely, ih reply hafter hrest⟩
      · next hyields =>
        rw [if_neg hyields]
        exact ⟨hwp.1, hwp.2.1, ih _ hwp.1 hwp.2.2⟩

/-- The rule for code after which something is done. -/
theorem wp_then {post : Except Problem B → State → Prop} {failures : Problem → Prop}
    {done : State → Prop} {next : A → Program I Problem B}
    (hinvariant : protocol.Invariant state)
    (hprogram : system.wp protocol (Ends failures done) program state)
    (hfailed : ∀ failure later, failures failure → post (.error failure) later)
    (hnext : ∀ value later, protocol.Rely state later → protocol.Invariant later →
      done later → system.wp protocol post (next value) later) :
    system.wp protocol post (program >>= next) state := by
  apply wp_bind hinvariant
  apply wp_mono hprogram
  intro result later hrely hlater hresult
  cases result with
  | ok value => exact hnext value later hrely hlater hresult
  | error failure => exact hfailed failure later hresult

/-- The rule for two pieces of code of which only the failures matter. -/
theorem wp_seq {failures : Problem → Prop} {next : A → Program I Problem B}
    (hinvariant : protocol.Invariant state)
    (hprogram : system.wp protocol (FailsOnly failures) program state)
    (hnext : ∀ value later, protocol.Rely state later → protocol.Invariant later →
      system.wp protocol (FailsOnly failures) (next value) later) :
    system.wp protocol (FailsOnly failures) (program >>= next) state := by
  apply wp_bind hinvariant
  apply wp_mono hprogram
  intro result later hrely hlater hresult
  cases result with
  | ok value => exact hnext value later hrely hlater
  | error failure => exact hresult

/-- The rule for code in front of a handler of its failures. -/
theorem wp_handle {Other : Type} {handler : Problem → Program I Other A}
    {post : Except Other A → State → Prop} (hinvariant : protocol.Invariant state)
    (hwp : system.wp protocol
      (fun result after =>
        match result with
        | .ok value => post (.ok value) after
        | .error failure => system.wp protocol post (handler failure) after)
      program state) :
    system.wp protocol post (program.handle handler) state := by
  induction program generalizing state with
  | ret value => exact hwp
  | fail failure => exact hwp state (protocol.refl state) hinvariant
  | await operation resume ih =>
      rw [Program.handle, wp]
      rw [wp] at hwp
      split at hwp
      · next hyields =>
        rw [if_pos hyields]
        intro now hnow hinvariant hallowed choice reply after hexec
        obtain ⟨hafter, hrely, hrest⟩ :=
          hwp now hnow hinvariant hallowed choice reply after hexec
        exact ⟨hafter, hrely, ih reply hafter hrest⟩
      · next hyields =>
        rw [if_neg hyields]
        exact ⟨hwp.1, hwp.2.1, ih _ hwp.1 hwp.2.2⟩

/-- Code whose operations all keep the protocol on their own. -/
theorem wp_of_uses {Permitted : I.Operation → Prop}
    (hprogram : program.Uses Permitted)
    (hyields : ∀ operation, I.yields operation = true)
    (hkeeps : ∀ operation, Permitted operation → ∀ now,
      protocol.Invariant now → protocol.Allowed operation now →
        ∀ choice reply after,
          system.exec operation choice now = some (reply, after) →
            protocol.Invariant after ∧ protocol.Rely now after) :
    system.wp protocol (fun _ _ => True) program state := by
  induction program generalizing state with
  | ret value => exact fun _ _ _ => trivial
  | fail failure => exact fun _ _ _ => trivial
  | await operation next ih =>
      refine wp_await (hyields operation) ?_
      intro now _ hinvariant hallowed choice reply after hexec
      obtain ⟨hafter, hrely⟩ :=
        hkeeps operation hprogram.1 now hinvariant hallowed choice reply after hexec
      exact ⟨hafter, hrely, ih reply (hprogram.2 reply)⟩

/-- What runs at once is covered. -/
theorem wp_settle (hinvariant : protocol.Invariant state)
    (hwp : system.wp protocol post program state) :
    Guarantees protocol state (system.settle program state).2
      (system.wp protocol post (system.settle program state).1) := by
  induction program generalizing state with
  | ret value => exact ⟨hinvariant, protocol.refl state, hwp⟩
  | fail failure => exact ⟨hinvariant, protocol.refl state, hwp⟩
  | await operation next ih =>
      rw [settle]
      split
      · exact ⟨hinvariant, protocol.refl state, hwp⟩
      · next hyields =>
        rw [wp, if_neg hyields] at hwp
        obtain ⟨hafter, hrely, hnext⟩ := hwp
        obtain ⟨hsettled, hlater, hrest⟩ := ih _ hafter hnext
        exact ⟨hsettled, protocol.trans hrely hlater, hrest⟩

end Rules

/-! ## Whole pools -/

/-- The shared state satisfies the invariant and every thread is on its way to
its postcondition. -/
structure Orderly
    (post : (label : Label) → Except (Failure label) (Result label) → State → Prop)
    (pool : Pool I State Failure Result) : Prop where
  invariant : protocol.Invariant pool.state
  settled : ∀ thread ∈ pool.threads, Settled thread.program
  threads : ∀ thread ∈ pool.threads,
    system.wp protocol (post thread.label) thread.program pool.state

/-- The condition of a schedule gives what the protocol asks of its steps. -/
structure Admits
    (post : (label : Label) → Except (Failure label) (Result label) → State → Prop)
    (condition : Pool I State Failure Result → Schedule Label Choice Event → Prop) :
    Prop where
  launch : ∀ {pool label}, condition pool (.launch label) →
    protocol.Invariant pool.state →
    system.wp protocol (post label) (system.program label) pool.state
  advance : ∀ {pool index choice label operation next left right},
    condition pool (.advance index choice) →
    pool.threads = left ++ ⟨label, .await operation next⟩ :: right →
    left.length = index → protocol.Allowed operation pool.state
  event : ∀ {pool event}, condition pool (.event event) →
    protocol.Invariant pool.state →
    protocol.Invariant (system.react event pool.state) ∧
      protocol.Rely pool.state (system.react event pool.state)

section Soundness

variable {system protocol}
variable {post : (label : Label) → Except (Failure label) (Result label) →
  State → Prop}
variable {condition : Pool I State Failure Result →
  Schedule Label Choice Event → Prop}
variable {pool : Pool I State Failure Result}

/-- A thread that keeps to the protocol takes the others along. -/
theorem Orderly.replace (horderly : system.Orderly protocol post pool)
    {state : State} {threads : List (Thread I Failure Result)}
    (hinvariant : protocol.Invariant state)
    (hrely : protocol.Rely pool.state state)
    (hthreads : ∀ thread ∈ threads, thread ∈ pool.threads ∨
      Settled thread.program ∧
        system.wp protocol (post thread.label) thread.program state) :
    system.Orderly protocol post { state, threads } := by
  refine ⟨hinvariant, ?_, ?_⟩
  · intro thread hthread
    obtain hold | ⟨hsettled, _⟩ := hthreads thread hthread
    · exact horderly.settled thread hold
    · exact hsettled
  · intro thread hthread
    obtain hold | ⟨_, hwp⟩ := hthreads thread hthread
    · exact wp_later (horderly.settled thread hold)
        (horderly.threads thread hold) hrely
    · exact hwp

/-- One step of a schedule keeps a pool orderly and to its protocol. -/
theorem Orderly.step (hadmits : system.Admits protocol post condition)
    (horderly : system.Orderly protocol post pool)
    (action : Schedule Label Choice Event) (hcondition : condition pool action) :
    system.Orderly protocol post (system.step pool action) ∧
      protocol.Rely pool.state (system.step pool action).state := by
  cases action with
  | launch label =>
      obtain ⟨hinvariant, hrely, hwp⟩ := wp_settle horderly.invariant
        (hadmits.launch hcondition horderly.invariant)
      refine ⟨horderly.replace hinvariant hrely ?_, hrely⟩
      intro thread hthread
      obtain hold | hnew := List.mem_append.mp hthread
      · exact .inl hold
      · rw [List.mem_singleton.mp hnew]
        exact .inr ⟨system.settled_settle _ _, hwp⟩
  | advance index choice =>
      obtain hsame | hadvances := system.advance_cases pool index choice
      · rw [hsame]
        exact ⟨horderly, protocol.refl _⟩
      · obtain ⟨label, operation, next, left, right, reply, middle, hthreads,
          hindex, hexec, hafter⟩ := hadvances
        have hmem : (⟨label, .await operation next⟩ : Thread I Failure Result) ∈
            pool.threads := by
          rw [hthreads]
          exact List.mem_append_right _ List.mem_cons_self
        have hyields := horderly.settled _ hmem operation rfl
        have hwp := horderly.threads _ hmem
        rw [wp, if_pos hyields] at hwp
        obtain ⟨hmiddle, hfirst, hnext⟩ := hwp pool.state (protocol.refl _)
          horderly.invariant (hadmits.advance hcondition hthreads hindex) choice
          reply middle hexec
        obtain ⟨hinvariant, hsecond, hrest⟩ := wp_settle hmiddle hnext
        have hrely := protocol.trans hfirst hsecond
        rw [hafter]
        refine ⟨horderly.replace hinvariant hrely ?_, hrely⟩
        intro thread hthread
        obtain hleft | hright := List.mem_append.mp hthread
        · left
          rw [hthreads]
          exact List.mem_append_left _ hleft
        · obtain hself | hright := List.mem_cons.mp hright
          · right
            rw [hself]
            exact ⟨system.settled_settle _ _, hrest⟩
          · left
            rw [hthreads]
            exact List.mem_append_right _ (List.mem_cons_of_mem _ hright)
  | kill index =>
      refine ⟨horderly.replace horderly.invariant (protocol.refl _) ?_,
        protocol.refl _⟩
      intro thread hthread
      exact .inl (List.mem_of_mem_eraseIdx hthread)
  | event event =>
      obtain ⟨hinvariant, hrely⟩ :=
        hadmits.event hcondition horderly.invariant
      exact ⟨horderly.replace hinvariant hrely fun _ hthread => .inl hthread,
        hrely⟩

/-- A whole schedule keeps a pool orderly and to its protocol. -/
theorem Orderly.run (hadmits : system.Admits protocol post condition)
    {schedule : List (Schedule Label Choice Event)}
    (hmeets : Machine.Meets system.step condition pool schedule)
    (horderly : system.Orderly protocol post pool) :
    system.Orderly protocol post (system.run pool schedule) ∧
      protocol.Rely pool.state (system.run pool schedule).state := by
  induction schedule generalizing pool with
  | nil => exact ⟨horderly, protocol.refl _⟩
  | cons action schedule ih =>
      obtain ⟨hnext, hfirst⟩ := horderly.step hadmits action hmeets.1
      obtain ⟨hfinal, hrest⟩ := ih hmeets.2 hnext
      exact ⟨hfinal, protocol.trans hfirst hrest⟩

/-- A pool without threads is orderly as soon as its state is. -/
theorem Orderly.empty {state : State} (hinvariant : protocol.Invariant state) :
    system.Orderly protocol post { state, threads := [] } :=
  ⟨hinvariant, by simp, by simp⟩

end Soundness

end System

end BuyAnAnswer
