import BuyAnAnswer.Contract.Session

/-!
# The lifecycle of a question

Ids are returned in the order 1, 2, 3, and so on.  A question keeps its parties,
amount, deadline and reference from the moment it is asked, and leaves the open
status at most once, through a call that its parties or its deadline authorise.
Two facts about a single step carry this: what is recorded stays
(`Session.step_keeps`), and a status that changes was changed by such a call
(`Writes.settled_by`).
-/

namespace BuyAnAnswer.Contract

open BuyAnAnswer.Transaction

variable {oz : OpenZeppelin} {T : Type} {self : Address}

/-- The record of question `id`, once there is one, stays: only the status may
still change, and only while it is open. -/
structure Keeps (id : Uint 256) (before after : Storage oz) : Prop where
  asker : (after.questions id).asker = (before.questions id).asker
  answerer : (after.questions id).answerer = (before.questions id).answerer
  amount : (after.questions id).amount = (before.questions id).amount
  deadline : (after.questions id).deadline = (before.questions id).deadline
  ref : after.questionRef id = before.questionRef id
  assigned : (after.questions id).status ≠ .none
  final : (before.questions id).status ≠ .open →
    (after.questions id).status = (before.questions id).status

theorem Keeps.of_same {id : Uint 256} {before after : Storage oz}
    (hquestion : after.questions id = before.questions id)
    (href : after.questionRef id = before.questionRef id)
    (hassigned : (before.questions id).status ≠ .none) :
    Keeps id before after where
  asker := by rw [hquestion]
  answerer := by rw [hquestion]
  amount := by rw [hquestion]
  deadline := by rw [hquestion]
  ref := href
  assigned := by rwa [hquestion]
  final _ := by rw [hquestion]

theorem Keeps.trans {id : Uint 256} {first second third : Storage oz}
    (hfirst : Keeps id first second) (hsecond : Keeps id second third) :
    Keeps id first third where
  asker := hsecond.asker.trans hfirst.asker
  answerer := hsecond.answerer.trans hfirst.answerer
  amount := hsecond.amount.trans hfirst.amount
  deadline := hsecond.deadline.trans hfirst.deadline
  ref := hsecond.ref.trans hfirst.ref
  assigned := hsecond.assigned
  final := by
    intro hclosed
    have hsame := hfirst.final hclosed
    rw [← hsame] at hclosed
    calc (third.questions id).status = (second.questions id).status :=
          hsecond.final hclosed
      _ = (first.questions id).status := hsame

section Writes

variable {msg : Msg} {before after : Storage oz} {request : Call}
variable {result : Option (Uint 256)} {events : List Event}

theorem Writes.keeps (hwrites : Writes msg before after request result events)
    (hdense : Dense before) {id : Uint 256}
    (hassigned : (before.questions id).status ≠ .none) :
    Keeps id before after := by
  cases hwrites with
  | ask _ _ _ _ _ hquestions hrefs _ =>
      have hid : id ≠ before.nextId := by
        intro heq
        apply hassigned
        rw [heq]
        exact (hdense.unassigned before.nextId).mpr (.inr le_rfl)
      apply Keeps.of_same _ _ hassigned
      · rw [hquestions, Function.update_of_ne hid]
      · rw [hrefs, Function.update_of_ne hid]
  | @settle _ settled terminal _ _ hopen hauthorised _ _ _ hquestions hrefs =>
      by_cases hid : id = settled
      · rw [hid]
        have hquestion : after.questions settled =
            { before.questions settled with status := terminal } := by
          rw [hquestions, Function.update_self]
        exact {
          asker := by rw [hquestion]
          answerer := by rw [hquestion]
          amount := by rw [hquestion]
          deadline := by rw [hquestion]
          ref := by rw [hrefs]
          assigned := by
            rw [hquestion]
            exact hauthorised.terminal.1
          final := fun hclosed => absurd hopen hclosed }
      · apply Keeps.of_same _ _ hassigned
        · rw [hquestions, Function.update_of_ne hid]
        · rw [hrefs]
  | withdraw _ _ hquestions hrefs _ =>
      exact .of_same (by rw [hquestions]) (by rw [hrefs]) hassigned
  | administer _ _ _ hbooks =>
      exact .of_same (by rw [hbooks.questions]) (by rw [hbooks.questionRef])
        hassigned

/-- The counter moves on by one for each id returned, which is its old value. -/
theorem Writes.counts (hwrites : Writes msg before after request result events) :
    result = none ∧ after.nextId = before.nextId ∨
      result = some before.nextId ∧ (after.nextId : ℕ) = before.nextId + 1 := by
  cases hwrites with
  | ask _ _ _ _ hnext _ _ _ => exact .inr ⟨rfl, hnext⟩
  | settle _ _ _ _ _ hnext _ _ => exact .inl ⟨rfl, hnext⟩
  | withdraw _ hnext _ _ _ => exact .inl ⟨rfl, hnext⟩
  | administer _ _ _ hbooks => exact .inl ⟨rfl, hbooks.nextId⟩

end Writes

namespace Session

variable {session : Session oz T}

theorem step_keeps (self : Address) (hlock : oz.lock.Documented)
    (hbalanced : Balanced session) (input : HostileCall T) {id : Uint 256}
    (hassigned : (session.world.escrow.questions id).status ≠ .none) :
    Keeps id session.world.escrow (session.step self input).world.escrow := by
  obtain hsame | ⟨result, stop, events, _, _, hwrites, hstep⟩ :=
    session.step_cases self hlock input
  · rw [hsame]
    exact .of_same rfl rfl hassigned
  · rw [hstep]
    exact hwrites.keeps hbalanced.healthy.dense hassigned

theorem run_keeps (hlock : oz.lock.Documented) (hbalanced : Balanced session)
    (inputs : List (HostileCall T)) {id : Uint 256}
    (hassigned : (session.world.escrow.questions id).status ≠ .none) :
    Keeps id session.world.escrow (session.run self inputs).world.escrow := by
  induction inputs generalizing session with
  | nil => exact .of_same rfl rfl hassigned
  | cons input inputs ih =>
      have hkeeps := session.step_keeps self hlock hbalanced input
        hassigned
      exact hkeeps.trans (ih (hbalanced.step hlock input) hkeeps.assigned)

theorem Balanced.run (self : Address) (hlock : oz.lock.Documented)
    (hbalanced : Balanced session) (inputs : List (HostileCall T)) :
    Balanced (session.run self inputs) :=
  Machine.run_invariant hbalanced fun _ input _ => .step hlock input

/-- Ids come out as 1, 2, 3, and so on. -/
structure Counted (session : Session oz T) : Prop where
  ids : session.ids.map Fin.val = List.range' 1 session.ids.length
  nextId : (session.world.escrow.nextId : ℕ) = session.ids.length + 1

theorem Counted.step (hlock : oz.lock.Documented) (hcounted : Counted session)
    (input : HostileCall T) : Counted (session.step self input) := by
  obtain hsame | ⟨result, stop, events, _, _, hwrites, hstep⟩ :=
    session.step_cases self hlock input
  · rw [hsame]
    exact hcounted
  · rw [hstep]
    have hcount := hcounted.nextId
    obtain ⟨rfl, hnext⟩ | ⟨rfl, hnext⟩ := hwrites.counts
    · simp only [Option.toList_none, List.append_nil]
      exact ⟨hcounted.ids, by rw [hnext]; exact hcount⟩
    · constructor
      · simp only [Option.toList_some, List.map_append, hcounted.ids,
          List.map_cons, List.map_nil, hcount, List.length_append,
          List.length_singleton, List.range'_1_concat]
        rw [Nat.add_comm 1]
      · simp only [Option.toList_some, List.length_append,
          List.length_singleton]
        omega

theorem Reachable.counted (hlock : oz.lock.Documented)
    (hreachable : session.Reachable self) : Counted session := by
  refine reachable_invariant ?_ (fun input hcounted =>
    hcounted.step hlock input) hreachable
  intro args escrow token hinitial
  refine ⟨rfl, ?_⟩
  simp only [fresh]
  rw [hinitial.nextId]
  rfl

end Session

namespace Session

variable {session : Session oz T}

end Session

namespace Sample

def quietAsk : HostileCall Unit :=
  { attackedAsk with onTransfer := .done () }

def settle : HostileCall Unit where
  sender := answerer.1
  timestamp := 20
  request := .answerQuestion 1
  onPermit := .fail .tokenFailure
  onTransfer := .fail .tokenFailure

def openSession : Session .plain Unit :=
  (Session.fresh storage ()).run escrow [quietAsk]

end Sample

end BuyAnAnswer.Contract
