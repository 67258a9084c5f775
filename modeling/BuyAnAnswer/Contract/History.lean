import BuyAnAnswer.Contract.Session

/-!
# What the lifecycle events tell

Each lifecycle event says what becomes of one question.  In every session the
events tell exactly the stored questions and references, and each of them can
follow the ones before it: an ask takes an unused id, and a settlement names an
open question under its own reference.
-/

namespace BuyAnAnswer.Contract

variable {oz : OpenZeppelin} {T : Type} {self : Address}

/-- A question with the reference it was asked under. -/
structure Record where
  question : Question
  ref : Bytes32
  deriving DecidableEq, Repr

/-- Record that a question reached its final status. -/
def conclude (records : Uint 256 → Record) (id : Uint 256) (terminal : Status) :
    Uint 256 → Record :=
  Function.update records id
    { records id with
      question := { (records id).question with status := terminal } }

def Event.tell (records : Uint 256 → Record) : Event → Uint 256 → Record
  | .questionAsked id ref asker answerer amount deadline =>
    Function.update records id
      { question := { asker, answerer, amount, deadline, status := .open }, ref }
  | .questionAnswered id _ _ => conclude records id .answered
  | .questionDeclined id _ => conclude records id .declined
  | .questionCancelled id _ => conclude records id .cancelled
  | .questionReclaimed id _ => conclude records id .reclaimed
  | _ => records

/-- What a list of events tells about each id. -/
def told (events : List Event) : Uint 256 → Record :=
  events.foldl Event.tell fun _ => { question := .unwritten, ref := 0 }

/-- The lifecycle events that the contract can emit when `records` is stored. -/
inductive Event.Follows (records : Uint 256 → Record) : Event → Prop
  | asked {id : Uint 256} {ref : Bytes32} {asker answerer : Address}
      {amount : Uint 128} {deadline : Uint 64}
      (hnew : (records id).question.status = .none) :
      Follows records (.questionAsked id ref asker answerer amount deadline)
  | settled {id : Uint 256} {terminal : Status}
      (hopen : (records id).question.status = .open)
      (hsettled : terminal.settled = true) :
      Follows records
        (settleEvent id (records id).ref (records id).question terminal)

/-- Every event can follow the events before it. -/
def Lawful (events : List Event) : Prop :=
  ∀ past event, past ++ [event] <+: events → event.Follows (told past)

@[simp]
theorem told_append (events : List Event) (event : Event) :
    told (events ++ [event]) = event.tell (told events) := by
  rw [told, List.foldl_append]
  rfl

theorem tell_settleEvent {terminal : Status} (hsettled : terminal.settled = true)
    (records : Uint 256 → Record) (id : Uint 256) (ref : Bytes32)
    (question : Question) :
    (settleEvent id ref question terminal).tell records =
      conclude records id terminal := by
  cases terminal with
  | none | «open» => cases hsettled
  | answered | declined | cancelled | reclaimed => rfl

theorem Lawful.append {events : List Event} {event : Event}
    (hlawful : Lawful events) (hfollows : event.Follows (told events)) :
    Lawful (events ++ [event]) := by
  intro past next hbegins
  obtain hsame | hearlier := List.prefix_concat_iff.mp hbegins
  · obtain ⟨hpast, hnext⟩ := List.append_inj' hsame rfl
    cases hnext
    rw [hpast]
    exact hfollows
  · exact hlawful past next hearlier

theorem Lawful.of_append {events : List Event} {event : Event}
    (hlawful : Lawful (events ++ [event])) : Lawful events := by
  intro past next hbegins
  exact hlawful past next (hbegins.trans (List.prefix_append events [event]))

/-- The terms an ask announces are never changed by later events. -/
theorem Lawful.asked_told {events : List Event} (hlawful : Lawful events)
    {id : Uint 256} {ref : Bytes32} {asker answerer : Address}
    {amount : Uint 128} {deadline : Uint 64}
    (hasked : .questionAsked id ref asker answerer amount deadline ∈ events) :
    ∃ status, status ≠ .none ∧ told events id =
      { question := { asker, answerer, amount, deadline, status }, ref } := by
  induction events using List.reverseRecOn with
  | nil => cases hasked
  | append_singleton events event ih =>
      rw [told_append]
      obtain hearlier | hlast := List.mem_append.mp hasked
      · obtain ⟨status, hstatus, htold⟩ := ih hlawful.of_append hearlier
        have hfollows := hlawful events event (List.prefix_refl _)
        cases hfollows with
        | @asked other _ _ _ _ _ hnew =>
            have hne : id ≠ other := by
              intro heq
              rw [← heq, htold] at hnew
              exact hstatus hnew
            refine ⟨status, hstatus, ?_⟩
            rw [Event.tell, Function.update_of_ne hne]
            exact htold
        | @settled other terminal hopen hsettled =>
            rw [tell_settleEvent hsettled, conclude]
            by_cases hid : id = other
            · refine ⟨terminal, ?_, ?_⟩
              · intro hnone
                rw [hnone] at hsettled
                cases hsettled
              · rw [← hid, Function.update_self, htold]
            · refine ⟨status, hstatus, ?_⟩
              rw [Function.update_of_ne hid]
              exact htold
      · rw [← List.mem_singleton.mp hlast]
        refine ⟨.open, by simp, ?_⟩
        rw [Event.tell, Function.update_self]

/-- The stored questions with their references. -/
def Storage.records (escrow : Storage oz) (id : Uint 256) : Record where
  question := escrow.questions id
  ref := escrow.questionRef id

/-- A call announces what it changes about the questions. -/
theorem Writes.tells {msg : Msg} {before after : Storage oz} {request : Call}
    {result : Option (Uint 256)} {events : List Event}
    (hwrites : Writes msg before after request result events)
    (hdense : Dense before) :
    events = [] ∧ after.records = before.records ∨
      ∃ event, events = [event] ∧ event.Follows before.records ∧
        after.records = event.tell before.records := by
  cases hwrites with
  | ask _ _ _ _ _ hquestions hrefs _ =>
      right
      refine ⟨_, rfl, .asked ?_, ?_⟩
      · exact (hdense.unassigned before.nextId).mpr (.inr le_rfl)
      · funext id
        simp only [Storage.records, Event.tell, hquestions, hrefs]
        by_cases hid : id = before.nextId
        · rw [hid, Function.update_self, Function.update_self,
            Function.update_self]
          rfl
        · rw [Function.update_of_ne hid, Function.update_of_ne hid,
            Function.update_of_ne hid]
          rfl
  | @settle _ settled terminal _ _ hopen hauthorised _ _ _ hquestions hrefs =>
      right
      refine ⟨_, rfl, .settled hopen hauthorised.settled, ?_⟩
      rw [tell_settleEvent hauthorised.settled]
      funext id
      simp only [Storage.records, conclude, hquestions, hrefs]
      by_cases hid : id = settled
      · rw [hid, Function.update_self, Function.update_self]
      · rw [Function.update_of_ne hid, Function.update_of_ne hid]
        rfl
  | withdraw _ _ hquestions hrefs _ =>
      left
      refine ⟨rfl, ?_⟩
      funext id
      rw [Storage.records, Storage.records, hquestions, hrefs]
  | administer _ _ _ hbooks =>
      left
      refine ⟨rfl, ?_⟩
      funext id
      rw [Storage.records, Storage.records, hbooks.questions,
        hbooks.questionRef]

/-- The events of a session tell its storage. -/
structure Session.Recorded (session : Session oz T) : Prop where
  dense : Dense session.world.escrow
  lawful : Lawful session.world.questionLog
  told : told session.world.questionLog = session.world.escrow.records

namespace Session

theorem Recorded.fresh {args : ConstructorArgs} {escrow : Storage oz}
    {token : T} (hinitial : Initial args escrow) :
    Recorded (fresh escrow token) where
  dense := hinitial.dense
  lawful past event hbegins := by
    have hnil := List.prefix_nil.mp hbegins
    simp at hnil
  told := by
    funext id
    simp only [Session.fresh, Storage.records, hinitial.questions,
      hinitial.questionRef]
    rfl

theorem Recorded.step (hlock : oz.lock.Documented) {session : Session oz T}
    (input : HostileCall T) (hrecorded : Recorded session) :
    Recorded (session.step self input) := by
  obtain hsame | ⟨result, stop, events, _, hlog, hwrites, hstep⟩ :=
    session.step_cases self hlock input
  · rw [hsame]
    exact hrecorded
  · rw [hstep]
    have hdense := hwrites.dense hrecorded.dense
    obtain ⟨rfl, hrecords⟩ | ⟨event, rfl, hfollows, hrecords⟩ :=
      hwrites.tells hrecorded.dense
    · rw [List.append_nil] at hlog
      refine ⟨hdense, ?_, ?_⟩
      · rw [hlog]
        exact hrecorded.lawful
      · rw [hlog, hrecords]
        exact hrecorded.told
    · rw [← hrecorded.told] at hfollows hrecords
      refine ⟨hdense, ?_, ?_⟩
      · rw [hlog]
        exact hrecorded.lawful.append hfollows
      · rw [hlog, hrecords, told_append]

theorem Reachable.recorded (hlock : oz.lock.Documented)
    {session : Session oz T} (hreachable : session.Reachable self) :
    Recorded session :=
  reachable_invariant Recorded.fresh (fun input => .step hlock input) hreachable

end Session

end BuyAnAnswer.Contract
