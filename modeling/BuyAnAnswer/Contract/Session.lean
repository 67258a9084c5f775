import BuyAnAnswer.Contract.PlainToken
import BuyAnAnswer.Contract.Reentrancy

/-!
# Sessions with a hostile token

A session is a deployed escrow with the history of its successful calls.  Each
input is a top-level call together with whatever the token does during it.  One
case analysis (`Session.step_cases`) says what a step can do, and the
invariants of the books follow from it for every session.
-/

namespace BuyAnAnswer.Contract

open BuyAnAnswer.Transaction

/-- The escrow with the ids its asks returned, the sum of the amounts of
successful asks and the sum of the amounts paid by successful withdrawals. -/
structure Session (oz : OpenZeppelin) (T : Type) where
  world : World oz T
  ids : List (Uint 256)
  asked : ℕ
  paid : ℕ

variable {oz : OpenZeppelin} {T : Type} {self : Address}

namespace Session

/-- Right after deployment. -/
def fresh (escrow : Storage oz) (token : T) : Session oz T where
  world := { escrow, token, log := [] }
  ids := []
  asked := 0
  paid := 0

/-- A call that returns extends the history; one that reverts leaves only the
world it reverted to. -/
def step (self : Address) (session : Session oz T) (input : HostileCall T) :
    Session oz T :=
  match input.outcome self session.world with
  | .error _ stop => { session with world := stop }
  | .ok result stop => {
      world := stop
      ids := session.ids ++ result.toList
      asked := session.asked + input.request.askedAmount
      paid := session.paid +
        paidAmount session.world.escrow input.msg input.request }

def run (self : Address) (session : Session oz T)
    (inputs : List (HostileCall T)) : Session oz T :=
  Machine.run (step self) session inputs

/-- Sessions that some execution of an accepted deployment reaches. -/
def Reachable (self : Address) (session : Session oz T) : Prop :=
  ∃ args escrow token inputs, construct oz args = .ok escrow ∧
    session = (fresh escrow token).run self inputs

/-- A step with a reverting call does nothing; any other extends the history by
what the call writes. -/
theorem step_cases (self : Address) (hlock : oz.lock.Documented)
    (session : Session oz T) (input : HostileCall T) :
    session.step self input = session ∨
      ∃ result stop events, input.outcome self session.world = .ok result stop ∧
        stop.questionLog = session.world.questionLog ++ events ∧
        Writes input.msg session.world.escrow stop.escrow input.request result
          events ∧
        session.step self input = {
          world := stop
          ids := session.ids ++ result.toList
          asked := session.asked + input.request.askedAmount
          paid := session.paid +
            paidAmount session.world.escrow input.msg input.request } := by
  cases houtcome : input.outcome self session.world with
  | error failure stop =>
      left
      rw [step, houtcome, call_eq_error houtcome]
  | ok result stop =>
      right
      obtain ⟨events, hlog, hwrites⟩ :=
        (call_eq_ok.mp houtcome).writes (input.confined hlock) hlock
      exact ⟨result, stop, events, rfl, hlog, hwrites, by rw [step, houtcome]⟩

/-- Invariant rule for sessions. -/
theorem reachable_invariant {Invariant : Session oz T → Prop}
    (hfresh : ∀ {args escrow token}, Initial args escrow →
      Invariant (fresh escrow token))
    (hstep : ∀ {session} input, Invariant session →
      Invariant (session.step self input))
    {session : Session oz T} (hreachable : session.Reachable self) :
    Invariant session := by
  obtain ⟨args, escrow, token, inputs, hconstruct, rfl⟩ := hreachable
  exact Machine.run_invariant (hfresh (construct_eq_ok hconstruct))
    fun _ input _ => hstep input

/-! ## Invariants -/

/-- Between calls the storage is healthy and every unit that came in is owed or
paid. -/
structure Balanced (session : Session oz T) : Prop where
  healthy : Healthy session.world.escrow
  conserved : session.world.escrow.liabilities + session.paid = session.asked

theorem Balanced.fresh (hlock : oz.lock.Documented) {args : ConstructorArgs}
    {escrow : Storage oz} {token : T} (hinitial : Initial args escrow) :
    Balanced (fresh escrow token) where
  healthy := hinitial.healthy hlock
  conserved := by
    simp only [Session.fresh]
    rw [hinitial.liabilities]

theorem Balanced.step (hlock : oz.lock.Documented) {session : Session oz T}
    (input : HostileCall T) (hbalanced : Balanced session) :
    Balanced (session.step self input) := by
  obtain hsame | ⟨result, stop, events, houtcome, _, hwrites, hstep⟩ :=
    session.step_cases self hlock input
  · rw [hsame]
    exact hbalanced
  · have hliabilities := hwrites.liabilities hbalanced.healthy.dense
    have hconserved := hbalanced.conserved
    rw [hstep]
    refine ⟨(call_eq_ok.mp houtcome).healthy (input.confined hlock) hlock
      hbalanced.healthy, ?_⟩
    simp only
    omega

theorem Reachable.balanced (hlock : oz.lock.Documented)
    {session : Session oz T} (hreachable : session.Reachable self) :
    Balanced session :=
  reachable_invariant (Balanced.fresh hlock) (fun input => .step hlock input)
    hreachable

end Session

/-! ## At most one settlement -/

/-- The question whose settlement an event announces. -/
def Event.settledId : Event → Option (Uint 256)
  | .questionAnswered id _ _ | .questionDeclined id _
  | .questionCancelled id _ | .questionReclaimed id _ => some id
  | _ => none

def settlements (id : Uint 256) (events : List Event) : ℕ :=
  events.countP fun event => event.settledId = some id

/-- Whether a question has reached a final status. -/
def Status.settled : Status → Bool
  | .none | .open => false
  | _ => true

theorem settleEvent_settledId (id : Uint 256) (ref : Bytes32)
    (question : Question) (terminal : Status) :
    (settleEvent id ref question terminal).settledId = some id := by
  cases terminal <;> rfl

theorem Authorised.settled {msg : Msg} {question : Question} {status : Status}
    (hauthorised : Authorised msg question status) : status.settled = true := by
  cases status <;> first | rfl | cases hauthorised

/-- Settlements of other kinds of event do not count. -/
theorem settlements_questionLog (id : Uint 256) (world : World oz T) :
    settlements id world.log = settlements id world.questionLog := by
  rw [settlements, settlements, World.questionLog, List.countP_filter]
  apply List.countP_congr
  intro event _
  cases event <;> simp [Event.settledId, Event.aboutQuestion]

theorem Writes.settlements {msg : Msg} {before after : Storage oz}
    {request : Call} {result : Option (Uint 256)} {events : List Event}
    (hwrites : Writes msg before after request result events)
    (hdense : Dense before) (id : Uint 256) :
    (before.questions id).status.settled.toNat +
        Contract.settlements id events =
      (after.questions id).status.settled.toNat := by
  cases hwrites with
  | ask _ _ _ _ _ hquestions _ _ =>
      have hnone := (hdense.unassigned before.nextId).mpr (.inr le_rfl)
      rw [hquestions]
      by_cases hid : id = before.nextId
      · rw [hid, hnone, Function.update_self]
        rfl
      · rw [Function.update_of_ne hid]
        rfl
  | @settle _ settled terminal _ _ hopen hauthorised _ _ _ hquestions _ =>
      rw [hquestions]
      by_cases hid : id = settled
      · have hsettled := hauthorised.settled
        rw [hid, hopen, Function.update_self, hsettled, Contract.settlements,
          List.countP_singleton, settleEvent_settledId]
        simp [Status.settled]
      · have hother : ¬ some settled = some id := fun heq =>
          hid (Option.some.inj heq).symm
        rw [Function.update_of_ne hid, Contract.settlements,
          List.countP_singleton, settleEvent_settledId]
        simp [hother]
  | withdraw _ _ hquestions _ _ =>
      rw [hquestions]
      rfl
  | administer _ _ _ hbooks =>
      rw [hbooks.questions]
      rfl

/-- The log holds one settlement of each settled question and none of others. -/
theorem Session.Reachable.settlements (hlock : oz.lock.Documented)
    {session : Session oz T} (hreachable : session.Reachable self)
    (id : Uint 256) :
    Contract.settlements id session.world.log =
      (session.world.escrow.questions id).status.settled.toNat := by
  rw [settlements_questionLog]
  suffices Dense session.world.escrow ∧
      Contract.settlements id session.world.questionLog =
        (session.world.escrow.questions id).status.settled.toNat from this.2
  apply @reachable_invariant _ _ self (fun session =>
    Dense session.world.escrow ∧
      Contract.settlements id session.world.questionLog =
        (session.world.escrow.questions id).status.settled.toNat) _ _ _
    hreachable
  · intro args escrow token hinitial
    refine ⟨hinitial.dense, ?_⟩
    simp only [fresh]
    rw [hinitial.questions]
    rfl
  · intro session input ⟨hdense, hcount⟩
    obtain hsame | ⟨result, stop, events, _, hlog, hwrites, hstep⟩ :=
      session.step_cases self hlock input
    · rw [hsame]
      exact ⟨hdense, hcount⟩
    · rw [hstep]
      refine ⟨hwrites.dense hdense, ?_⟩
      calc Contract.settlements id stop.questionLog
          = Contract.settlements id session.world.questionLog +
              Contract.settlements id events := by
            rw [hlog]
            exact List.countP_append
        _ = (session.world.escrow.questions id).status.settled.toNat +
              Contract.settlements id events := by rw [hcount]
        _ = (stop.escrow.questions id).status.settled.toNat :=
            hwrites.settlements hdense id

/-- Whatever the token does: nested asks, settlements and withdrawals revert
without effect, so that every call ends as if they had been skipped; a question
settles at most once; a call that reverts leaves everything as it was; and
between calls what is owed is what was asked in less what was paid out. -/
theorem reentrancy_safety (hlock : oz.lock.Documented) {session : Session oz T}
    (hreachable : session.Reachable self) :
    (∀ (token : Token oz T) (msg : Msg) (request : Call) (world : World oz T),
      request.guarded = true → oz.lock.entered world.escrow.lock = true →
        ∃ failure, call token self msg request world = .error failure world) ∧
    (∀ input : HostileCall T,
      input.blocked.outcome self session.world =
        input.outcome self session.world) ∧
    (∀ id, (session.world.log.countP fun event =>
      event.settledId = some id) ≤ 1) ∧
    (∀ (input : HostileCall T) failure stop,
      input.outcome self session.world = .error failure stop →
        stop = session.world) ∧
    session.world.escrow.openTotal + session.world.escrow.creditTotal =
      session.asked - session.paid ∧
    session.paid ≤ session.asked := by
  have hconserved := (hreachable.balanced hlock).conserved
  rw [Storage.liabilities] at hconserved
  refine ⟨?_, ?_, ?_, ?_, by omega, by omega⟩
  · intro token msg request world hguarded hentered
    exact guarded_call_reverts hlock hentered hguarded
  · intro input
    exact input.blocked_outcome hlock session.world
  · intro id
    have hcount := hreachable.settlements hlock id
    rw [settlements] at hcount
    rw [hcount]
    exact Bool.toNat_le _
  · intro input failure stop houtcome
    exact call_eq_error houtcome

/-! ## A session under attack -/

namespace Sample

/-- A transfer that first tries to withdraw, then has the owner pause. -/
def attack : Reaction Unit :=
  .reenter owner.1 .withdraw (.fail .tokenFailure) (.done ()) (.done ())
    (.reenter owner.1 .pause (.done ()) (.done ()) (.done ()) (.done ()))

def attackedAsk : HostileCall Unit where
  sender := asker.1
  timestamp := 10
  request := .askQuestion 7 answerer.1 500
  onPermit := .fail .tokenFailure
  onTransfer := attack

/-- The session after an ask during which the token attacks. -/
def attacked : Session .plain Unit :=
  (Session.fresh storage ()).run escrow [attackedAsk]

theorem attacked_reachable : attacked.Reachable escrow :=
  ⟨args, storage, (), [attackedAsk], construct_args, rfl⟩

example : attacked.asked = 500 ∧
    OpenZeppelin.plain.pausable.paused attacked.world.escrow.pausable = true := by
  decide

end Sample

theorem reentrancy_safety_attacked :
    (∀ input : HostileCall Unit,
      input.blocked.outcome Sample.escrow Sample.attacked.world =
        input.outcome Sample.escrow Sample.attacked.world) ∧
    Sample.attacked.world.escrow.openTotal +
        Sample.attacked.world.escrow.creditTotal =
      Sample.attacked.asked - Sample.attacked.paid := by
  have hsafe := reentrancy_safety OpenZeppelin.plain_documented.lock
    Sample.attacked_reachable
  exact ⟨hsafe.2.1, hsafe.2.2.2.2.1⟩

end BuyAnAnswer.Contract
