import BuyAnAnswer.Core.Machine

/-!
# Stale replays of a stream

Several readers apply the events of one stream to a shared state, each in the
order of the stream but from wherever it stands.  If events that were applied
before do nothing when they are applied again, the state always equals that after
one single pass over some part of the stream.
-/

namespace BuyAnAnswer.Replay

open Machine

variable {State Event : Type*}

/-- The state after the first `cut` events of the stream. -/
def upTo (step : State → Event → State) (start : State) (stream : List Event)
    (cut : ℕ) : State :=
  run step start (stream.take cut)

/-- Events that lie behind do nothing. -/
def Absorbs (step : State → Event → State) (start : State) (stream : List Event) :
    Prop :=
  ∀ cut index event, stream[index]? = some event → index < cut →
    step (upTo step start stream cut) event = upTo step start stream cut

/-- From `cut` to `later` every event does nothing in any state. -/
def Skips (step : State → Event → State) (stream : List Event) (cut later : ℕ) : Prop :=
  ∀ index event, cut ≤ index → index < later → stream[index]? = some event →
    ∀ state, step state event = state

variable {step : State → Event → State} {start : State} {stream : List Event}

theorem upTo_succ {cut : ℕ} {event : Event} (hget : stream[cut]? = some event) :
    upTo step start stream (cut + 1) = step (upTo step start stream cut) event := by
  rw [upTo, List.take_add_one, hget, Option.toList_some, run_append]
  rfl

theorem upTo_succ_of_end {cut : ℕ} (hget : stream[cut]? = none) :
    upTo step start stream (cut + 1) = upTo step start stream cut := by
  have hend : stream.length ≤ cut := List.getElem?_eq_none_iff.mp hget
  rw [upTo, upTo, List.take_of_length_le hend,
    List.take_of_length_le (hend.trans (Nat.le_succ cut))]

theorem upTo_skip {cut later : ℕ} (hle : cut ≤ later)
    (hskips : Skips step stream cut later) :
    upTo step start stream later = upTo step start stream cut := by
  induction later, hle using Nat.le_induction with
  | base => rfl
  | succ later hle ih =>
      have hbefore : Skips step stream cut later := fun index event hcut hlater =>
        hskips index event hcut (hlater.trans (Nat.lt_succ_self later))
      cases hget : stream[later]? with
      | none => rw [upTo_succ_of_end hget, ih hbefore]
      | some event =>
          rw [upTo_succ hget, hskips later event hle (Nat.lt_succ_self later) hget,
            ih hbefore]

/-- A reader that has nothing to catch up on applies its next event. -/
theorem step_upTo (habsorbs : Absorbs step start stream) {cut index : ℕ} {event : Event}
    (hget : stream[index]? = some event) (hskips : Skips step stream cut index) :
    step (upTo step start stream cut) event =
      upTo step start stream (max cut (index + 1)) := by
  by_cases hbehind : index < cut
  · rw [max_eq_left hbehind]
    exact habsorbs cut index event hget hbehind
  · have hle : cut ≤ index := Nat.le_of_not_lt hbehind
    calc step (upTo step start stream cut) event
        = step (upTo step start stream index) event := by
          rw [upTo_skip hle hskips]
      _ = upTo step start stream (index + 1) := (upTo_succ hget).symm
      _ = upTo step start stream (max cut (index + 1)) := by
          rw [max_eq_right (hle.trans (Nat.le_succ index))]

/-- What no event lets sink does not sink along the stream. -/
theorem upTo_mono {level : State → ℕ}
    (hrises : ∀ state event, level state ≤ level (step state event)) {cut later : ℕ}
    (hle : cut ≤ later) :
    level (upTo step start stream cut) ≤ level (upTo step start stream later) := by
  induction later, hle using Nat.le_induction with
  | base => exact le_rfl
  | succ later hle ih =>
      cases hget : stream[later]? with
      | none =>
          rw [upTo_succ_of_end hget]
          exact ih
      | some event =>
          rw [upTo_succ hget]
          exact ih.trans (hrises _ event)

/-- Events that do nothing above their level, where each lifts the state above its
level in its own place. -/
theorem absorbs_of_levels (level : State → ℕ) (needs : Event → ℕ)
    (hrises : ∀ state event, level state ≤ level (step state event))
    (hdone : ∀ state event, needs event < level state → step state event = state)
    (hlifts : ∀ index event, stream[index]? = some event →
      (∀ state, step state event = state) ∨
        needs event < level (step (upTo step start stream index) event)) :
    Absorbs step start stream := by
  intro cut index event hget hbehind
  obtain hskip | hlifted := hlifts index event hget
  · exact hskip _
  · apply hdone
    calc needs event < level (step (upTo step start stream index) event) := hlifted
      _ = level (upTo step start stream (index + 1)) := by rw [upTo_succ hget]
      _ ≤ level (upTo step start stream cut) := upTo_mono hrises hbehind

/-- What only holds at the front of a stream cuts it. -/
theorem exists_cut {front : Event → Bool}
    (hfront : stream.Pairwise fun first second => front second = true →
      front first = true) :
    ∃ cut, stream.filter front = stream.take cut ∧
      ∀ index event, stream[index]? = some event →
        (index < cut ↔ front event = true) := by
  induction stream with
  | nil => exact ⟨0, rfl, fun index event hget => by cases hget⟩
  | cons first rest ih =>
      obtain ⟨hfirst, hrest⟩ := List.pairwise_cons.mp hfront
      by_cases hholds : front first = true
      · obtain ⟨cut, hfilter, hcut⟩ := ih hrest
        refine ⟨cut + 1, ?_, ?_⟩
        · rw [List.filter_cons_of_pos hholds, hfilter, List.take_succ_cons]
        · intro index event hget
          cases index with
          | zero =>
              cases hget
              exact ⟨fun _ => hholds, fun _ => Nat.succ_pos cut⟩
          | succ index => exact Nat.succ_lt_succ_iff.trans (hcut index event hget)
      · have hnone : ∀ event ∈ first :: rest, ¬ front event = true := by
          intro event hevent hlater
          obtain rfl | hevent := List.mem_cons.mp hevent
          · exact hholds hlater
          · exact hholds (hfirst event hevent hlater)
        refine ⟨0, List.filter_eq_nil_iff.mpr hnone, ?_⟩
        intro index event hget
        exact ⟨fun hlt => absurd hlt (Nat.not_lt_zero index),
          fun hlater => absurd hlater (hnone event (List.mem_of_getElem? hget))⟩

end BuyAnAnswer.Replay
