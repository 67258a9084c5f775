import BuyAnAnswer.Core.Machine

/-!
# Reordered inputs

Every input carries a key, and inputs with different keys do not get in each
other's way.  Then only the order of the inputs with the same key matters to a
run: two runs in which each key has the same inputs in the same order end alike,
and answer each input alike.
-/

namespace BuyAnAnswer.Reordering

open Machine

variable {Input Key : Type*} {key : Input → Key}

/-- Lists that are equal up to swaps of neighbours with different keys. -/
inductive Reorders (key : Input → Key) : List Input → List Input → Prop where
  | nil : Reorders key [] []
  | cons (input : Input) {first second : List Input} (hrest : Reorders key first second) :
      Reorders key (input :: first) (input :: second)
  | swap {one other : Input} (hkeys : key one ≠ key other) (rest : List Input) :
      Reorders key (one :: other :: rest) (other :: one :: rest)
  | trans {first second third : List Input} (hfirst : Reorders key first second)
      (hsecond : Reorders key second third) : Reorders key first third

namespace Reorders

variable {first second : List Input}

theorem refl (inputs : List Input) : Reorders key inputs inputs := by
  induction inputs with
  | nil => exact .nil
  | cons input inputs ih => exact .cons input ih

theorem perm (hreorders : Reorders key first second) : first.Perm second := by
  induction hreorders with
  | nil => exact .nil
  | cons input _ ih => exact ih.cons input
  | swap _ rest => exact .swap _ _ rest
  | trans _ _ ihFirst ihSecond => exact ihFirst.trans ihSecond

theorem append_right (hreorders : Reorders key first second) (rest : List Input) :
    Reorders key (first ++ rest) (second ++ rest) := by
  induction hreorders with
  | nil => exact refl rest
  | cons input _ ih => exact .cons input ih
  | swap hkeys between => exact .swap hkeys (between ++ rest)
  | trans _ _ ihFirst ihSecond => exact ihFirst.trans ihSecond

theorem append_left (before : List Input) (hreorders : Reorders key first second) :
    Reorders key (before ++ first) (before ++ second) := by
  induction before with
  | nil => exact hreorders
  | cons input before ih => exact .cons input ih

/-- An input comes first past inputs with other keys. -/
theorem move_front {input : Input} {before : List Input}
    (hbefore : ∀ other ∈ before, key other ≠ key input) (after : List Input) :
    Reorders key (input :: (before ++ after)) (before ++ input :: after) := by
  induction before with
  | nil => exact refl _
  | cons other before ih =>
      obtain ⟨hother, hbefore⟩ := List.forall_mem_cons.mp hbefore
      have hswap : Reorders key (input :: other :: (before ++ after))
          (other :: input :: (before ++ after)) := .swap (Ne.symm hother) _
      exact hswap.trans (.cons other (ih hbefore))

variable [DecidableEq Key]

theorem filter_eq (hreorders : Reorders key first second) (value : Key) :
    (first.filter fun input => key input = value) =
      second.filter fun input => key input = value := by
  induction hreorders with
  | nil => rfl
  | cons input _ ih => rw [List.filter_cons, List.filter_cons, ih]
  | @swap one other hkeys rest =>
      by_cases hone : key one = value
      · have hother : key other ≠ value := fun hother => hkeys (hone.trans hother.symm)
        simp [hone, hother]
      · simp [List.filter_cons, hone]
  | trans _ _ ihFirst ihSecond => exact ihFirst.trans ihSecond

/-- Lists in which each key has the same inputs in the same order. -/
theorem of_filter_eq (hfilter : ∀ value, (first.filter fun input => key input = value) =
    second.filter fun input => key input = value) : Reorders key first second := by
  induction first generalizing second with
  | nil =>
      have hempty : second = [] := by
        rw [List.eq_nil_iff_forall_not_mem]
        intro input hinput
        have hkept := (hfilter (key input)).symm
        rw [List.filter_nil, List.filter_eq_nil_iff] at hkept
        exact hkept input hinput (by simp)
      rw [hempty]
      exact .nil
  | cons input first ih =>
      have hhead := (hfilter (key input)).symm
      rw [List.filter_cons_of_pos (by simp)] at hhead
      obtain ⟨before, after, rfl, hbefore, -, hafter⟩ := List.filter_eq_cons_iff.mp hhead
      have hkeys : ∀ other ∈ before, key other ≠ key input := by
        intro other hother
        simpa using hbefore other hother
      have hrest : Reorders key first (before ++ after) := by
        apply ih
        intro value
        have hvalue := hfilter value
        rw [List.filter_append] at hvalue ⊢
        by_cases hinput : key input = value
        · subst hinput
          have hnone : (before.filter fun other => key other = key input) = [] := by
            rw [List.filter_eq_nil_iff]
            simpa using hkeys
          rw [hnone, List.nil_append]
          exact hafter.symm
        · rw [List.filter_cons_of_neg (by simpa using hinput),
            List.filter_cons_of_neg (by simpa using hinput)] at hvalue
          exact hvalue
      exact (Reorders.cons input hrest).trans (move_front hkeys after)

end Reorders

/-! ## Runs -/

section Runs

variable {State Output : Type*} {step : State → Input → State}
variable {answer : State → Input → Output} {allowed : Input → Prop}
variable {Invariant : State → Prop} {Same : State → State → Prop}

/-- The inputs of a run with their answers. -/
def answers (step : State → Input → State) (answer : State → Input → Output) :
    State → List Input → List (Input × Output)
  | _, [] => []
  | state, input :: inputs =>
    (input, answer state input) :: answers step answer (step state input) inputs

/-- A machine for which allowed inputs with different keys commute. -/
structure Commutes (step : State → Input → State) (answer : State → Input → Output)
    (key : Input → Key) (allowed : Input → Prop) (Invariant : State → Prop)
    (Same : State → State → Prop) : Prop where
  refl : ∀ state, Same state state
  trans : ∀ {first second third}, Same first second → Same second third → Same first third
  keeps : ∀ {state input}, allowed input → Invariant state → Invariant (step state input)
  respects : ∀ {first second input}, allowed input → Invariant first → Invariant second →
    Same first second → answer first input = answer second input ∧
      Same (step first input) (step second input)
  aside : ∀ {state one other}, allowed one → allowed other → key one ≠ key other →
    Invariant state → answer (step state one) other = answer state other
  swaps : ∀ {state one other}, allowed one → allowed other → key one ≠ key other →
    Invariant state → Same (step (step state one) other) (step (step state other) one)

namespace Commutes

variable {start other : State} {inputs first second : List Input}

theorem run_same (hcommutes : Commutes step answer key allowed Invariant Same)
    (hstart : Invariant start) (hother : Invariant other) (hsame : Same start other)
    (hallowed : ∀ input ∈ inputs, allowed input) :
    answers step answer start inputs = answers step answer other inputs ∧
      Same (run step start inputs) (run step other inputs) := by
  induction inputs generalizing start other with
  | nil => exact ⟨rfl, hsame⟩
  | cons input inputs ih =>
      obtain ⟨hinput, hinputs⟩ := List.forall_mem_cons.mp hallowed
      obtain ⟨hanswer, hnext⟩ := hcommutes.respects hinput hstart hother hsame
      obtain ⟨hanswers, hend⟩ := ih (hcommutes.keeps hinput hstart)
        (hcommutes.keeps hinput hother) hnext hinputs
      rw [answers, answers, hanswer, hanswers]
      exact ⟨rfl, hend⟩

/-- Run rule: reordered inputs lead to the same state with the same answers. -/
theorem run_reorders (hcommutes : Commutes step answer key allowed Invariant Same)
    (hreorders : Reorders key first second) (hstart : Invariant start)
    (hallowed : ∀ input ∈ first, allowed input) :
    Reorders (fun entry => key entry.1) (answers step answer start first)
        (answers step answer start second) ∧
      Same (run step start first) (run step start second) := by
  induction hreorders generalizing start with
  | nil => exact ⟨.nil, hcommutes.refl start⟩
  | cons input _ ih =>
      obtain ⟨hinput, hinputs⟩ := List.forall_mem_cons.mp hallowed
      obtain ⟨hanswers, hend⟩ := ih (hcommutes.keeps hinput hstart) hinputs
      exact ⟨.cons _ hanswers, hend⟩
  | @swap one other hkeys rest =>
      obtain ⟨hone, hallowed⟩ := List.forall_mem_cons.mp hallowed
      obtain ⟨hother, hrest⟩ := List.forall_mem_cons.mp hallowed
      have hfirst := hcommutes.keeps hother (hcommutes.keeps hone hstart)
      have hsecond := hcommutes.keeps hone (hcommutes.keeps hother hstart)
      obtain ⟨hanswers, hend⟩ := hcommutes.run_same hfirst hsecond
        (hcommutes.swaps hone hother hkeys hstart) hrest
      refine ⟨?_, hend⟩
      simp only [answers]
      rw [hanswers, hcommutes.aside hone hother hkeys hstart,
        hcommutes.aside hother hone (Ne.symm hkeys) hstart]
      exact @Reorders.swap _ _ _ (one, answer start one) (other, answer start other) hkeys _
  | trans hfirst _ ihFirst ihSecond =>
      obtain ⟨hanswers, hend⟩ := ihFirst hstart hallowed
      obtain ⟨hanswers', hend'⟩ := ihSecond hstart fun input hinput =>
        hallowed input (hfirst.perm.mem_iff.mpr hinput)
      exact ⟨hanswers.trans hanswers', hcommutes.trans hend hend'⟩

end Commutes

end Runs

end BuyAnAnswer.Reordering
