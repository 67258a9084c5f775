import BuyAnAnswer.Core.Pool

/-!
# Launches with a tag

Who launches a program may note on it what it is for, or when it was launched.  No
program can read its tag, so a system with tags runs as it does without them.
-/

namespace BuyAnAnswer

namespace System

variable {I : Interface} {State Label Choice Event Tag : Type}
variable {Failure Result : Label → Type}

/-- A pool whose threads carry tags. -/
abbrev TaggedPool (I : Interface) (State Tag : Type) {Label : Type}
    (Failure Result : Label → Type) :=
  Pool I State (fun label : Label × Tag => Failure label.1) fun label => Result label.1

/-- The system in which programs are launched with a tag. -/
def tagging (system : System I State Failure Result Choice Event) (Tag : Type) :
    System I State (fun label : Label × Tag => Failure label.1)
      (fun label => Result label.1) Choice Event where
  program := fun label => system.program label.1
  exec := system.exec
  immediate := system.immediate
  react := system.react

/-- Forget the tags. -/
def untagged (pool : TaggedPool I State Tag Failure Result) :
    Pool I State Failure Result where
  state := pool.state
  threads := pool.threads.map fun thread => ⟨thread.label.1, thread.program⟩

def untaggedStep : Schedule (Label × Tag) Choice Event → Schedule Label Choice Event
  | .launch label => .launch label.1
  | .advance index choice => .advance index choice
  | .kill index => .kill index
  | .event event => .event event

variable {system : System I State Failure Result Choice Event}

section Untagged

variable {Problem A : Type}

theorem settle_tagging (program : Program I Problem A) (state : State) :
    (system.tagging Tag).settle program state = system.settle program state := by
  induction program generalizing state with
  | ret value => rfl
  | fail failure => rfl
  | await operation next ih =>
      rw [settle, settle]
      split
      · rfl
      · exact ih _ _

theorem untagged_step (pool : TaggedPool I State Tag Failure Result)
    (action : Schedule (Label × Tag) Choice Event) :
    untagged ((system.tagging Tag).step pool action) =
      system.step (untagged pool) (untaggedStep action) := by
  cases action with
  | launch label =>
      simp only [step, resume, untagged, untaggedStep, settle_tagging, List.map_append]
      rfl
  | advance index choice =>
      rw [untaggedStep, step, step]
      have hget : (untagged pool).threads[index]? = (pool.threads[index]?).map
          fun thread => (⟨thread.label.1, thread.program⟩ : Thread I Failure Result) :=
        List.getElem?_map
      rw [hget]
      cases pool.threads[index]? with
      | none => rfl
      | some thread =>
          obtain ⟨label, program⟩ := thread
          cases program with
          | ret value => rfl
          | fail failure => rfl
          | await operation next =>
              simp only [Option.map_some]
              cases hexec : system.exec operation choice pool.state with
              | none =>
                  have htagged : (system.tagging Tag).exec operation choice pool.state =
                      none := hexec
                  simp only [htagged, untagged, hexec]
              | some result =>
                  have htagged : (system.tagging Tag).exec operation choice pool.state =
                      some result := hexec
                  simp only [htagged, untagged, hexec, resume, List.map_set, settle_tagging]
  | kill index =>
      simp only [step, untagged, untaggedStep, List.eraseIdx_map]
  | event event => rfl

/-- The tags change nothing. -/
theorem untagged_run (pool : TaggedPool I State Tag Failure Result)
    (schedule : List (Schedule (Label × Tag) Choice Event)) :
    untagged ((system.tagging Tag).run pool schedule) =
      system.run (untagged pool) (schedule.map untaggedStep) := by
  induction schedule generalizing pool with
  | nil => rfl
  | cons action schedule ih =>
      rw [run, Machine.run_cons, List.map_cons, run, Machine.run_cons, ← untagged_step]
      exact ih _

variable {protocol : Protocol I State} {post : Except Problem A → State → Prop}

/-- What is right of a program is right of it with a tag. -/
theorem wp_tagging {program : Program I Problem A} {state : State}
    (hprogram : system.wp protocol post program state) :
    (system.tagging Tag).wp protocol post program state := by
  induction program generalizing state with
  | ret value => exact hprogram
  | fail failure => exact hprogram
  | await operation next ih =>
      rw [wp] at hprogram ⊢
      split
      · next hyields =>
        rw [if_pos hyields] at hprogram
        intro now hnow hinvariant hallowed choice reply after hexec
        obtain ⟨hafter, hrely, hnext⟩ :=
          hprogram now hnow hinvariant hallowed choice reply after hexec
        exact ⟨hafter, hrely, ih reply hnext⟩
      · next hyields =>
        rw [if_neg hyields] at hprogram
        exact ⟨hprogram.1, hprogram.2.1, ih _ hprogram.2.2⟩

/-- What a schedule may do without tags, it may do with them. -/
theorem Admits.tagging
    {old : (label : Label) → Except (Failure label) (Result label) → State → Prop}
    {new : (label : Label × Tag) → Except (Failure label.1) (Result label.1) → State → Prop}
    {condition : Pool I State Failure Result → Schedule Label Choice Event → Prop}
    (hadmits : system.Admits protocol old condition)
    (hlaunch : ∀ (label : Label × Tag) state, protocol.Invariant state →
      system.wp protocol (new label) (system.program label.1) state) :
    (system.tagging Tag).Admits protocol new
      (fun pool action => condition (untagged pool) (untaggedStep action)) where
  launch := fun _ hinvariant => wp_tagging (hlaunch _ _ hinvariant)
  advance := by
    intro pool index choice label operation next left right hcondition hthreads hindex
    have huntagged : (untagged pool).threads =
        left.map (fun thread => ⟨thread.label.1, thread.program⟩) ++
          ⟨label.1, .await operation next⟩ ::
            right.map fun thread => ⟨thread.label.1, thread.program⟩ := by
      simp [untagged, hthreads]
    exact hadmits.advance hcondition huntagged (List.length_map _ |>.trans hindex)
  event := fun hcondition hinvariant => hadmits.event hcondition hinvariant

end Untagged

/-! ## What is launched from some moment on -/

/-- The pool with one tag on all that is running. -/
def marked (pool : Pool I State Failure Result) (tag : Tag) :
    TaggedPool I State Tag Failure Result where
  state := pool.state
  threads := pool.threads.map fun thread => ⟨(thread.label, tag), thread.program⟩

def taggedStep (tag : Tag) :
    Schedule Label Choice Event → Schedule (Label × Tag) Choice Event
  | .launch label => .launch (label, tag)
  | .advance index choice => .advance index choice
  | .kill index => .kill index
  | .event event => .event event

/-- A run from a pool, with a tag on what is launched on the way. -/
def since (system : System I State Failure Result Choice Event)
    (pool : Pool I State Failure Result) (schedule : List (Schedule Label Choice Event)) :
    TaggedPool I State Bool Failure Result :=
  (system.tagging Bool).run (marked pool false) (schedule.map (taggedStep true))

@[simp]
theorem untagged_marked (pool : Pool I State Failure Result) (tag : Tag) :
    untagged (marked pool tag) = pool := by
  simp only [untagged, marked, List.map_map]
  exact congrArg (Pool.mk pool.state) (List.map_id _)

@[simp]
theorem untaggedStep_taggedStep (tag : Tag) (action : Schedule Label Choice Event) :
    untaggedStep (taggedStep tag action) = action := by
  cases action <;> rfl

/-- It is the same run. -/
theorem untagged_since (pool : Pool I State Failure Result)
    (schedule : List (Schedule Label Choice Event)) :
    untagged (system.since pool schedule) = system.run pool schedule := by
  rw [since, untagged_run, untagged_marked, List.map_map]
  simp [Function.comp_def]

theorem meets_tagged {condition : Pool I State Failure Result →
      Schedule Label Choice Event → Prop}
    {pool : TaggedPool I State Tag Failure Result}
    {schedule : List (Schedule Label Choice Event)} (tag : Tag)
    (hmeets : Machine.Meets system.step condition (untagged pool) schedule) :
    Machine.Meets (system.tagging Tag).step
      (fun pool action => condition (untagged pool) (untaggedStep action)) pool
      (schedule.map (taggedStep tag)) := by
  induction schedule generalizing pool with
  | nil => exact trivial
  | cons action schedule ih =>
      have hstep := @untagged_step _ _ _ _ _ _ _ _ system pool (taggedStep tag action)
      rw [untaggedStep_taggedStep] at hstep
      refine ⟨?_, ih ?_⟩
      · change condition (untagged pool) (untaggedStep (taggedStep tag action))
        rw [untaggedStep_taggedStep]
        exact hmeets.1
      · rw [hstep]
        exact hmeets.2

end System

end BuyAnAnswer
