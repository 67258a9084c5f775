import BuyAnAnswer.Core.Program

/-!
# Waiting for an allowance

After an approval the app reads the allowance until a read covers the amount or
a deadline has passed.  Reads take time and may fail, and a sleep may last longer
than it was asked to.  What a wait has read and slept is written down by its
environment.
-/

namespace BuyAnAnswer.Web

def ALLOWANCE_POLL_INTERVAL_MS : ℚ := 500

def ALLOWANCE_POLL_TIMEOUT_MS : ℚ := 8000

def APPROVE_REVERTED_MESSAGE : String :=
  "The USDC approval didn't go through on-chain. Please try again."

inductive ReceiptStatus where
  | success
  | reverted
  deriving DecidableEq, Repr

inductive ApprovalError where
  | receipt
  | error (message : String)
  deriving DecidableEq, Repr

/-! ## The code -/

/-- What the code asks of its caller and of the clock. -/
inductive AllowanceOperation where
  | waitForReceipt
  | readAllowance
  | now
  | sleep (ms : ℚ)

/-- Wait for the receipt and reading the allowance may fail. -/
@[reducible]
def AllowanceOperation.Reply : AllowanceOperation → Type
  | .waitForReceipt => Option ReceiptStatus
  | .readAllowance => Option ℤ
  | .now => ℚ
  | .sleep _ => Unit

abbrev allowances : Interface where
  Operation := AllowanceOperation
  Reply := AllowanceOperation.Reply

structure WaitForAllowanceOptions where
  needed : ℤ
  intervalMs : ℚ := ALLOWANCE_POLL_INTERVAL_MS
  timeoutMs : ℚ := ALLOWANCE_POLL_TIMEOUT_MS

/-- A read of at least the needed amount. -/
def coversAmount (needed : ℤ) (allowance : Option ℤ) : Bool :=
  allowance.any fun value => needed ≤ value

abbrev Wait := Program allowances ApprovalError (Option Bool)

/-- The loop, for at most `fuel` rounds; `none` if these have been used up. -/
def poll (options : WaitForAllowanceOptions) (deadline : ℚ) : ℕ → Wait
  | 0 => .ret none
  | fuel + 1 =>
    .await .readAllowance fun (allowance : Option ℤ) =>
      if coversAmount options.needed allowance then .ret (some true)
      else
        .await .now fun (read : ℚ) =>
          let remaining := deadline - read
          if remaining ≤ 0 then .ret (some false)
          else
            .await (.sleep (min options.intervalMs remaining)) fun _ =>
              poll options deadline fuel

def waitForAllowance (options : WaitForAllowanceOptions) (fuel : ℕ) : Wait :=
  .await .now fun (start : ℚ) => poll options (start + options.timeoutMs) fuel

def confirmApproval (rest : WaitForAllowanceOptions) (fuel : ℕ) : Wait :=
  .await .waitForReceipt fun (receipt : Option ReceiptStatus) =>
    match receipt with
    | none => .fail .receipt
    | some status =>
      if status ≠ .success then .fail (.error APPROVE_REVERTED_MESSAGE)
      else waitForAllowance rest fuel

/-! ## The environment -/

/-- What a read gives, `none` if it fails, and how long it takes. -/
structure Reading where
  allowance : Option ℤ
  took : ℚ≥0

/-- What becomes of the operations: the receipt and when it is there, what each read
gives, and by how much each sleep overruns. -/
structure Course where
  receipt : Option ReceiptStatus
  start : ℚ
  readAllowance : ℕ → Reading
  overrun : ℕ → ℚ≥0

/-- What the environment has done, and when it was asked to. -/
inductive WaitEvent where
  | read (now : ℚ) (allowance : Option ℤ)
  | sleep (now ms : ℚ)
  deriving DecidableEq, Repr

namespace WaitEvent

/-- What a read gave. -/
def reading : WaitEvent → Option (Option ℤ)
  | read _ allowance => some allowance
  | sleep _ _ => none

def isSleep : WaitEvent → Bool
  | read _ _ => false
  | sleep _ _ => true

end WaitEvent

/-- The time, and what has been done so far. -/
structure WaitWorld where
  clock : ℚ
  journal : List WaitEvent
  deriving DecidableEq, Repr

namespace WaitWorld

/-- What the reads so far gave, in their order. -/
def readings (world : WaitWorld) : List (Option ℤ) :=
  world.journal.filterMap WaitEvent.reading

def reads (world : WaitWorld) : ℕ := world.readings.length

def sleeps (world : WaitWorld) : ℕ := world.journal.countP WaitEvent.isSleep

end WaitWorld

namespace Course

/-- The world when the wait begins. -/
def world (course : Course) : WaitWorld where
  clock := course.start
  journal := []

/-- What the read after so many gives. -/
def allowance (course : Course) (round : ℕ) : Option ℤ :=
  (course.readAllowance round).allowance

def read (course : Course) (world : WaitWorld) : WaitWorld where
  clock := world.clock + (course.readAllowance world.reads).took
  journal := world.journal ++ [.read world.clock (course.allowance world.reads)]

def sleep (course : Course) (ms : ℚ) (world : WaitWorld) : WaitWorld where
  clock := world.clock + ms + course.overrun world.sleeps
  journal := world.journal ++ [.sleep world.clock ms]

def exec (course : Course) :
    (operation : allowances.Operation) → WaitWorld → allowances.Reply operation × WaitWorld
  | .waitForReceipt, world => (course.receipt, world)
  | .readAllowance, world => (course.allowance world.reads, course.read world)
  | .now, world => (world.clock, world)
  | .sleep ms, world => ((), course.sleep ms world)

@[simp]
theorem clock_world (course : Course) : course.world.clock = course.start := rfl

@[simp]
theorem reads_world (course : Course) : course.world.reads = 0 := rfl

@[simp]
theorem readings_read (course : Course) (world : WaitWorld) :
    (course.read world).readings = world.readings ++ [course.allowance world.reads] := by
  simp [read, WaitWorld.readings, WaitEvent.reading]

@[simp]
theorem readings_sleep (course : Course) (ms : ℚ) (world : WaitWorld) :
    (course.sleep ms world).readings = world.readings := by
  simp [sleep, WaitWorld.readings, WaitEvent.reading]

@[simp]
theorem reads_read (course : Course) (world : WaitWorld) :
    (course.read world).reads = world.reads + 1 := by
  simp [WaitWorld.reads]

@[simp]
theorem reads_sleep (course : Course) (ms : ℚ) (world : WaitWorld) :
    (course.sleep ms world).reads = world.reads := by
  simp [WaitWorld.reads]

theorem clock_le_read (course : Course) (world : WaitWorld) :
    world.clock ≤ (course.read world).clock :=
  le_add_of_nonneg_right (NNRat.cast_nonneg _)

theorem le_clock_sleep (course : Course) (ms : ℚ) (world : WaitWorld) :
    world.clock + ms ≤ (course.sleep ms world).clock :=
  le_add_of_nonneg_right (NNRat.cast_nonneg _)

end Course

/-! ## One round -/

section Round

variable {course : Course} {options : WaitForAllowanceOptions} {deadline : ℚ}
variable {world : WaitWorld}

/-- The sleep between a read and the next. -/
def Wait.pause (options : WaitForAllowanceOptions) (deadline : ℚ) (world : WaitWorld) : ℚ :=
  min options.intervalMs (deadline - world.clock)

theorem clock_add_pause_le (options : WaitForAllowanceOptions) (deadline : ℚ)
    (world : WaitWorld) : world.clock + Wait.pause options deadline world ≤ deadline := by
  have hpause : Wait.pause options deadline world ≤ deadline - world.clock := min_le_right _ _
  linarith only [hpause]

/-- A read that covers the amount ends the wait. -/
theorem poll_covered (fuel : ℕ)
    (hcovers : coversAmount options.needed (course.allowance world.reads) = true) :
    (poll options deadline (fuel + 1)).run course.exec world =
      (.ok (some true), course.read world) := by
  rw [poll, Program.run_await, Course.exec, if_pos hcovers, Program.run_ret]

/-- So does another read, at the deadline or later. -/
theorem poll_late (fuel : ℕ)
    (hmissed : ¬ coversAmount options.needed (course.allowance world.reads) = true)
    (hlate : deadline ≤ (course.read world).clock) :
    (poll options deadline (fuel + 1)).run course.exec world =
      (.ok (some false), course.read world) := by
  rw [poll, Program.run_await, Course.exec, if_neg hmissed, Program.run_await, Course.exec]
  dsimp only
  rw [if_pos (sub_nonpos.mpr hlate), Program.run_ret]

/-- Before the deadline the wait sleeps and goes on. -/
theorem poll_early (fuel : ℕ)
    (hmissed : ¬ coversAmount options.needed (course.allowance world.reads) = true)
    (hearly : ¬ deadline ≤ (course.read world).clock) :
    (poll options deadline (fuel + 1)).run course.exec world =
      (poll options deadline fuel).run course.exec
        (course.sleep (Wait.pause options deadline (course.read world)) (course.read world)) := by
  rw [poll, Program.run_await, Course.exec, if_neg hmissed, Program.run_await, Course.exec]
  dsimp only
  rw [if_neg fun hlate => hearly (sub_nonpos.mp hlate), Program.run_await, Course.exec, Wait.pause]

end Round

/-! ## A whole wait -/

/-- What holds throughout a wait for an amount: the reads are those of the course, no
sleep reaches past the deadline, and nothing follows a read that covers the amount. -/
structure Wait.Bounded (course : Course) (needed : ℤ) (deadline : ℚ)
    (world : WaitWorld) : Prop where
  readings : world.readings = (List.range world.reads).map course.allowance
  sleep_le : ∀ now ms, .sleep now ms ∈ world.journal → now + ms ≤ deadline
  covers_last : world.journal.Pairwise fun earlier _ =>
    ∀ allowance ∈ earlier.reading, coversAmount needed allowance = false

/-- How a wait ends. -/
structure Wait.Sound (course : Course) (needed : ℤ) (deadline : ℚ) (confirmed : Bool)
    (world : WaitWorld) : Prop extends Wait.Bounded course needed deadline world where
  reads_pos : 1 ≤ world.reads
  confirmed_iff : confirmed = true ↔
    ∃ round < world.reads, coversAmount needed (course.allowance round) = true
  confirmed_read : confirmed = true → ∃ earlier now allowance,
    world.journal = earlier ++ [.read now allowance]
  refused_late : confirmed = false → deadline ≤ world.clock

/-- A wait that goes on has not read enough. -/
structure Wait.Pending (course : Course) (needed : ℤ) (deadline : ℚ)
    (world : WaitWorld) : Prop extends Wait.Bounded course needed deadline world where
  missed : ∀ round < world.reads, coversAmount needed (course.allowance round) = false

section Whole

variable {course : Course} {options : WaitForAllowanceOptions} {needed : ℤ}
variable {deadline : ℚ} {world : WaitWorld}

theorem pending_world (course : Course) (needed : ℤ) (deadline : ℚ) :
    Wait.Pending course needed deadline course.world where
  readings := rfl
  sleep_le := by
    rintro now ms hmem
    cases hmem
  covers_last := List.Pairwise.nil
  missed := fun _ hround => absurd hround (Nat.not_lt_zero _)

/-- None of the reads so far covers the amount. -/
theorem Wait.Pending.missed_journal (hpending : Wait.Pending course needed deadline world)
    {earlier : WaitEvent} (hmem : earlier ∈ world.journal) {allowance : Option ℤ}
    (hreading : allowance ∈ earlier.reading) : coversAmount needed allowance = false := by
  have hread : allowance ∈ world.readings :=
    List.mem_filterMap.mpr ⟨earlier, hmem, hreading⟩
  rw [hpending.readings] at hread
  obtain ⟨round, hround, rfl⟩ := List.mem_map.mp hread
  exact hpending.missed round (List.mem_range.mp hround)

theorem Wait.Pending.covers_append (hpending : Wait.Pending course needed deadline world)
    (event : WaitEvent) :
    (world.journal ++ [event]).Pairwise fun earlier _ =>
      ∀ allowance ∈ earlier.reading, coversAmount needed allowance = false := by
  apply List.pairwise_append.mpr
  refine ⟨hpending.covers_last, List.pairwise_singleton _ _, ?_⟩
  exact fun _ hmem _ _ _ hreading => hpending.missed_journal hmem hreading

/-- One more read. -/
theorem Wait.Pending.read (hpending : Wait.Pending course needed deadline world) :
    Wait.Bounded course needed deadline (course.read world) where
  readings := by
    rw [Course.readings_read, Course.reads_read, List.range_succ, List.map_append,
      ← hpending.readings]
    rfl
  sleep_le := by
    intro now ms hmem
    obtain hold | hnew := List.mem_append.mp hmem
    · exact hpending.sleep_le now ms hold
    · cases List.mem_singleton.mp hnew
  covers_last := hpending.covers_append _

/-- A read that does not cover the amount, and a sleep to the deadline at most. -/
theorem Wait.Pending.sleep (hpending : Wait.Pending course needed deadline world)
    (hmissed : ¬ coversAmount needed (course.allowance world.reads) = true) {ms : ℚ}
    (hsleep : (course.read world).clock + ms ≤ deadline) :
    Wait.Pending course needed deadline (course.sleep ms (course.read world)) := by
  have hread : Wait.Pending course needed deadline (course.read world) := {
    toBounded := hpending.read
    missed := by
      intro round hround
      rw [Course.reads_read] at hround
      obtain hbefore | rfl := Nat.lt_succ_iff_lt_or_eq.mp hround
      · exact hpending.missed round hbefore
      · exact Bool.eq_false_iff.mpr hmissed }
  exact {
    readings := by
      rw [Course.readings_sleep, Course.reads_sleep, hread.readings]
    sleep_le := by
      intro now other hmem
      obtain hold | hnew := List.mem_append.mp hmem
      · exact hread.sleep_le now other hold
      · cases List.mem_singleton.mp hnew
        exact hsleep
    covers_last := hread.covers_append _
    missed := by
      intro round hround
      rw [Course.reads_sleep] at hround
      exact hread.missed round hround }

/-- What the last read decides. -/
theorem Wait.Pending.ends (hpending : Wait.Pending course needed deadline world)
    (hlate : ¬ coversAmount needed (course.allowance world.reads) = true →
      deadline ≤ (course.read world).clock) :
    Wait.Sound course needed deadline (coversAmount needed (course.allowance world.reads))
      (course.read world) where
  toBounded := hpending.read
  reads_pos := by
    rw [Course.reads_read]
    exact Nat.le_add_left _ _
  confirmed_iff := by
    rw [Course.reads_read]
    constructor
    · exact fun hcovers => ⟨world.reads, Nat.lt_succ_self _, hcovers⟩
    · rintro ⟨round, hround, hcovers⟩
      obtain hbefore | rfl := Nat.lt_succ_iff_lt_or_eq.mp hround
      · rw [hpending.missed round hbefore] at hcovers
        cases hcovers
      · exact hcovers
  confirmed_read := fun _ => ⟨_, _, _, rfl⟩
  refused_late := fun hrefused => hlate (Bool.eq_false_iff.mp hrefused)

/-- Each round brings the deadline an interval closer, or reaches it. -/
theorem sleep_close {rounds : ℕ} (hinterval : 0 < options.intervalMs)
    (hclose : deadline - world.clock ≤ (rounds + 1 : ℕ) * options.intervalMs) :
    deadline - (course.sleep (Wait.pause options deadline (course.read world))
      (course.read world)).clock ≤ rounds * options.intervalMs := by
  have hread := course.clock_le_read world
  have hsleep := course.le_clock_sleep (Wait.pause options deadline (course.read world))
    (course.read world)
  have hrest : 0 ≤ (rounds : ℚ) * options.intervalMs := by positivity
  push_cast at hclose
  -- a full sleep uses up one interval, a cut one reaches the deadline
  obtain hmin | hmin :=
    min_choice options.intervalMs (deadline - (course.read world).clock)
  · rw [Wait.pause, hmin] at hsleep ⊢
    linarith only [hclose, hread, hsleep]
  · rw [Wait.pause, hmin] at hsleep ⊢
    linarith only [hrest, hsleep]

/-- A pending wait ends, with one read for each round that is left and another one. -/
theorem Wait.Pending.polled {rounds : ℕ}
    (hpending : Wait.Pending course options.needed deadline world)
    (hinterval : 0 < options.intervalMs)
    (hclose : deadline - world.clock ≤ rounds * options.intervalMs) :
    ∃ confirmed after,
      (∀ fuel, rounds + 1 ≤ fuel →
        (poll options deadline fuel).run course.exec world = (.ok (some confirmed), after)) ∧
      after.reads ≤ world.reads + (rounds + 1) ∧
      Wait.Sound course options.needed deadline confirmed after := by
  induction rounds generalizing world with
  | zero =>
      have hlate : deadline ≤ (course.read world).clock := by
        have hread := course.clock_le_read world
        rw [Nat.cast_zero, zero_mul] at hclose
        linarith only [hclose, hread]
      refine ⟨_, _, ?_, (Course.reads_read course world).le, hpending.ends fun _ => hlate⟩
      intro fuel hfuel
      obtain ⟨fuel, rfl⟩ := Nat.exists_eq_add_of_le' hfuel
      by_cases hcovers : coversAmount options.needed (course.allowance world.reads) = true
      · rw [poll_covered fuel hcovers, hcovers]
      · rw [poll_late fuel hcovers hlate, Bool.eq_false_iff.mpr hcovers]
  | succ rounds ih =>
      have hone : (course.read world).reads ≤ world.reads + (rounds + 1 + 1) := by
        rw [Course.reads_read]
        omega
      by_cases hcovers : coversAmount options.needed (course.allowance world.reads) = true
      · refine ⟨true, _, ?_, hone, ?_⟩
        · intro fuel hfuel
          obtain ⟨fuel, rfl⟩ := Nat.exists_eq_add_of_le' (Nat.one_le_of_lt hfuel)
          exact poll_covered fuel hcovers
        · rw [← hcovers]
          exact hpending.ends fun hmissed => absurd hcovers hmissed
      · by_cases hlate : deadline ≤ (course.read world).clock
        · refine ⟨false, _, ?_, hone, ?_⟩
          · intro fuel hfuel
            obtain ⟨fuel, rfl⟩ := Nat.exists_eq_add_of_le' (Nat.one_le_of_lt hfuel)
            exact poll_late fuel hcovers hlate
          · rw [← Bool.eq_false_iff.mpr hcovers]
            exact hpending.ends fun _ => hlate
        · have hnext := hpending.sleep hcovers
            (clock_add_pause_le options deadline (course.read world))
          obtain ⟨confirmed, after, hrun, hreads, hsound⟩ :=
            ih hnext (sleep_close hinterval hclose)
          refine ⟨confirmed, after, ?_, ?_, hsound⟩
          · intro fuel hfuel
            obtain ⟨fuel, rfl⟩ := Nat.exists_eq_add_of_le' (Nat.one_le_of_lt hfuel)
            rw [poll_early fuel hcovers hlate]
            exact hrun fuel (by omega)
          · rw [Course.reads_sleep, Course.reads_read] at hreads
            omega

end Whole

/-- A wait ends after a bounded number of reads, sleeps to the deadline at most, and
confirms exactly what one of its reads covered; without a successful receipt nothing
is read. -/
theorem allowance_wait_bounded (course : Course) (options : WaitForAllowanceOptions)
    (hinterval : 0 < options.intervalMs) :
    (∃ confirmed after,
      (∀ fuel, ⌈options.timeoutMs / options.intervalMs⌉₊ + 1 ≤ fuel →
        (waitForAllowance options fuel).run course.exec course.world =
          (.ok (some confirmed), after)) ∧
      after.reads ≤ ⌈options.timeoutMs / options.intervalMs⌉₊ + 1 ∧
      Wait.Sound course options.needed (course.start + options.timeoutMs) confirmed after) ∧
    ∀ fuel, course.receipt ≠ some .success →
      ∃ thrown, (confirmApproval options fuel).run course.exec course.world =
        (.error thrown, course.world) := by
  constructor
  · have hclose : course.start + options.timeoutMs - course.world.clock ≤
        ⌈options.timeoutMs / options.intervalMs⌉₊ * options.intervalMs := by
      rw [Course.clock_world, add_sub_cancel_left, ← div_le_iff₀ hinterval]
      exact Nat.le_ceil _
    obtain ⟨confirmed, after, hrun, hreads, hsound⟩ :=
      (pending_world course options.needed (course.start + options.timeoutMs)).polled
        hinterval hclose
    rw [Course.reads_world, Nat.zero_add] at hreads
    exact ⟨confirmed, after, hrun, hreads, hsound⟩
  · intro fuel hreceipt
    rw [confirmApproval, Program.run_await, Course.exec]
    cases hstatus : course.receipt with
    | none => exact ⟨_, rfl⟩
    | some status =>
        have hreverted : status ≠ .success := by
          rintro rfl
          exact hreceipt hstatus
        dsimp only
        rw [if_pos hreverted]
        exact ⟨_, rfl⟩

namespace Sample

/-- The node that answers the first read has not seen the approval. -/
def course : Course where
  receipt := some .success
  start := 0
  readAllowance round := { allowance := if round = 0 then some 0 else some 7, took := 20 }
  overrun _ := 3

def options : WaitForAllowanceOptions where
  needed := 5

/-- The second read, half a second later, has. -/
def confirmed : WaitWorld where
  clock := 543
  journal := [.read 0 (some 0), .sleep 20 500, .read 523 (some 7)]

end Sample

theorem allowance_wait_bounded_sample :
    Wait.Sound Sample.course 5 8000 true Sample.confirmed := by
  have hinterval : 0 < Sample.options.intervalMs := by
    norm_num [Sample.options, ALLOWANCE_POLL_INTERVAL_MS]
  have hrounds : ⌈Sample.options.timeoutMs / Sample.options.intervalMs⌉₊ + 1 = 17 := by
    norm_num [Sample.options, ALLOWANCE_POLL_INTERVAL_MS, ALLOWANCE_POLL_TIMEOUT_MS]
  have hwait : (waitForAllowance Sample.options 17).run Sample.course.exec
      Sample.course.world = (.ok (some true), Sample.confirmed) := by
    decide +kernel
  obtain ⟨confirmed, after, hrun, -, hsound⟩ :=
    (allowance_wait_bounded Sample.course Sample.options hinterval).1
  have hsame := (hrun 17 hrounds.le).symm.trans hwait
  rw [Prod.mk.injEq, Except.ok.injEq, Option.some.injEq] at hsame
  obtain ⟨rfl, rfl⟩ := hsame
  simpa [Sample.course, Sample.options, ALLOWANCE_POLL_TIMEOUT_MS] using hsound

end BuyAnAnswer.Web
