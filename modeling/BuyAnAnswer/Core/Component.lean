import Mathlib

/-!
# Components with cancellable runs

A component starts runs that wait for the outside world.  Each run carries the
token that was current when it started; a later start supersedes it, and what it
then wants to show is dropped.  Tokens never repeat, so one run at most is current.
-/

namespace BuyAnAnswer

structure Component (Phase Run : Type*) where
  runToken : ℕ
  mounted : Bool
  phase : Phase
  runs : List Run

namespace Component

variable {Phase Run : Type*} {component : Component Phase Run}
variable {run old : Run} {index other token : ℕ} {phase : Phase}

/-- Show a phase for the current run of a mounted component. -/
def setPhase (component : Component Phase Run) (token : ℕ) (phase : Phase) :
    Component Phase Run :=
  if token = component.runToken ∧ component.mounted = true then
    { component with phase }
  else component

/-- The current run is the current one no more. -/
def supersede (component : Component Phase Run) : Component Phase Run :=
  { component with runToken := component.runToken + 1 }

def spawn (component : Component Phase Run) (run : Run) : Component Phase Run :=
  { component with runs := component.runs ++ [run] }

/-- What a run has become. -/
def put (component : Component Phase Run) (index : ℕ) (run : Run) :
    Component Phase Run :=
  { component with runs := component.runs.set index run }

@[simp]
theorem runs_setPhase : (component.setPhase token phase).runs = component.runs := by
  rw [setPhase]
  split <;> rfl

@[simp]
theorem runToken_setPhase :
    (component.setPhase token phase).runToken = component.runToken := by
  rw [setPhase]
  split <;> rfl

@[simp]
theorem runs_supersede : component.supersede.runs = component.runs := rfl

@[simp]
theorem runs_spawn : (component.spawn run).runs = component.runs ++ [run] := rfl

@[simp]
theorem runs_put : (component.put index run).runs = component.runs.set index run := rfl

/-! ## Every run -/

/-- A property of all runs, of the superseded ones too. -/
def Every (component : Component Phase Run) (property : Run → Prop) : Prop :=
  ∀ run ∈ component.runs, property run

section Every

variable {property : Run → Prop}

theorem Every.spawn (hevery : component.Every property) (hrun : property run) :
    (component.spawn run).Every property := by
  intro other hother
  rw [runs_spawn, List.mem_append, List.mem_singleton] at hother
  obtain hold | rfl := hother
  · exact hevery other hold
  · exact hrun

theorem Every.put (hevery : component.Every property) (hrun : property run) :
    (component.put index run).Every property := by
  intro other hother
  obtain hold | rfl := List.mem_or_eq_of_mem_set hother
  · exact hevery other hold
  · exact hrun

theorem Every.at (hevery : component.Every property)
    (hindex : component.runs[index]? = some run) : property run :=
  hevery run (List.mem_of_getElem? hindex)

end Every

/-! ## Tokens -/

/-- No token is given twice, and none before its time. -/
structure Tokens (tokenOf : Run → ℕ) (component : Component Phase Run) : Prop where
  le : component.Every fun run => tokenOf run ≤ component.runToken
  nodup : (component.runs.map tokenOf).Nodup

namespace Tokens

variable {tokenOf : Run → ℕ}

theorem of_eq {next : Component Phase Run} (htokens : Tokens tokenOf component)
    (hruns : next.runs = component.runs) (htoken : next.runToken = component.runToken) :
    Tokens tokenOf next where
  le := by
    intro run hrun
    rw [hruns] at hrun
    rw [htoken]
    exact htokens.le run hrun
  nodup := by
    rw [hruns]
    exact htokens.nodup

theorem supersede (htokens : Tokens tokenOf component) :
    Tokens tokenOf component.supersede where
  le := fun run hrun => Nat.le_succ_of_le (htokens.le run hrun)
  nodup := htokens.nodup

/-- A run that starts takes the next token. -/
theorem spawn (htokens : Tokens tokenOf component)
    (htoken : tokenOf run = component.runToken + 1) :
    Tokens tokenOf (component.supersede.spawn run) where
  le := htokens.supersede.le.spawn htoken.le
  nodup := by
    rw [runs_spawn, runs_supersede, List.map_append, List.map_singleton,
      ← List.concat_eq_append, List.nodup_concat]
    refine ⟨?_, htokens.nodup⟩
    rw [List.mem_map]
    rintro ⟨other, hother, heq⟩
    have hle := htokens.le other hother
    omega

/-- A run that goes on keeps its token. -/
theorem put (htokens : Tokens tokenOf component)
    (hindex : component.runs[index]? = some old) (htoken : tokenOf run = tokenOf old) :
    Tokens tokenOf (component.put index run) where
  le := htokens.le.put (htoken.trans_le (htokens.le.at hindex))
  nodup := by
    have hsame : (component.runs.set index run).map tokenOf =
        component.runs.map tokenOf := by
      obtain ⟨hlength, hold⟩ := List.getElem?_eq_some_iff.mp hindex
      have hbound : index < (component.runs.map tokenOf).length := by
        rwa [List.length_map]
      have hat : tokenOf run = (component.runs.map tokenOf)[index] := by
        rw [List.getElem_map, hold, htoken]
      rw [List.map_set, hat, List.set_getElem_self]
    rw [runs_put, hsame]
    exact htokens.nodup

/-- A run that starts over takes the next token. -/
theorem renew (htokens : Tokens tokenOf component)
    (htoken : tokenOf run = component.runToken + 1) :
    Tokens tokenOf (component.supersede.put index run) where
  le := htokens.supersede.le.put htoken.le
  nodup := by
    rw [runs_put, runs_supersede, List.map_set]
    apply htokens.nodup.set
    rw [List.mem_map]
    rintro ⟨other, hother, heq⟩
    have hle := htokens.le other hother
    omega

/-- Two runs with one token are one run. -/
theorem index_eq {first second : Run} (htokens : Tokens tokenOf component)
    (hfirst : component.runs[index]? = some first)
    (hsecond : component.runs[other]? = some second)
    (htoken : tokenOf first = tokenOf second) : index = other := by
  have hlength : index < (component.runs.map tokenOf).length := by
    rw [List.length_map]
    exact (List.getElem?_eq_some_iff.mp hfirst).1
  refine (List.getElem?_inj hlength htokens.nodup).mp ?_
  rw [List.getElem?_map, List.getElem?_map, hfirst, hsecond, Option.map_some,
    Option.map_some, htoken]

end Tokens

end Component

/-! ## One element changed -/

section Modify

variable {A : Type*} {change : A → A} {elements : List A} {index : ℕ}

/-- A property that the change keeps, either way. -/
theorem forall_mem_modify {property : A → Prop}
    (hchange : ∀ element, property (change element) ↔ property element) :
    (∀ element ∈ elements.modify index change, property element) ↔
      ∀ element ∈ elements, property element := by
  induction elements generalizing index with
  | nil => simp
  | cons head rest ih =>
      cases index with
      | zero => simp [hchange head]
      | succ index => simp [ih]

/-- A count to which the change adds nothing. -/
theorem countP_modify_le {counts : A → Bool}
    (hchange : ∀ element, counts (change element) = true → counts element = true) :
    (elements.modify index change).countP counts ≤ elements.countP counts := by
  induction elements generalizing index with
  | nil => simp
  | cons head rest ih =>
      cases index with
      | zero =>
          rw [List.modify_zero_cons, List.countP_cons, List.countP_cons]
          have hhead := hchange head
          split_ifs <;> simp_all
      | succ index =>
          rw [List.modify_succ_cons, List.countP_cons, List.countP_cons]
          exact Nat.add_le_add_right ih _

/-- What a count becomes when one element is replaced. -/
theorem countP_set_add {counts : A → Bool} {element old : A}
    (hindex : elements[index]? = some old) :
    (elements.set index element).countP counts + (if counts old = true then 1 else 0) =
      elements.countP counts + if counts element = true then 1 else 0 := by
  obtain ⟨hlength, hold⟩ := List.getElem?_eq_some_iff.mp hindex
  have hpos : counts old = true → 0 < elements.countP counts := fun hcounts =>
    List.countP_pos_iff.mpr ⟨old, List.mem_of_getElem? hindex, hcounts⟩
  rw [List.countP_set hlength, hold]
  split_ifs with hcounts
  · have := hpos hcounts
    omega
  · have := hpos hcounts
    omega
  · omega
  · omega

end Modify

end BuyAnAnswer
