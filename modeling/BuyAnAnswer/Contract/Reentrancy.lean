import BuyAnAnswer.Contract.Books
import BuyAnAnswer.Core.Machine

/-!
# Reentrancy

A hostile token answers each call of the escrow with calls of its own into the
escrow, and those that call the token again are answered in turn.  The lock
turns every nested ask, settlement and withdrawal into a revert, so that a
hostile token is confined and can be replaced by one that never tries.
-/

namespace BuyAnAnswer.Contract

open BuyAnAnswer.Transaction

variable {oz : OpenZeppelin} {T : Type}

/-! ## Hostile tokens -/

/-- What the token does when it is called.  It returns with a new storage, or
reverts, or calls the escrow under some sender; `onPermit` and `onTransfer` are
its behaviour should that nested call reach the token, and it goes on with
`returned` or, having caught the revert, with `reverted`. -/
inductive Reaction (T : Type) where
  | done (token : T)
  | fail (failure : Error)
  | reenter (sender : Address) (request : Call)
      (onPermit onTransfer returned reverted : Reaction T)

/-- The token that runs `permit` for a permit and `transfer` for a transfer. -/
def reactive (permit transfer : Exec oz T Unit) : Token oz T where
  safeTransferFrom _ _ _ := transfer
  safeTransfer _ _ := transfer
  permit _ _ _ _ _ _ _ := permit

namespace Reaction

def run (self : Address) (timestamp : ℕ) : Reaction T → Exec oz T Unit
  | .done token => write fun world => { world with token }
  | .fail failure => fun world => .error failure world
  | .reenter sender request onPermit onTransfer returned reverted => fun world =>
    match call (reactive (run self timestamp onPermit)
        (run self timestamp onTransfer)) self { sender, timestamp } request
        world with
    | .ok _ stop => run self timestamp returned stop
    | .error _ stop => run self timestamp reverted stop

section Reenter

variable {self sender : Address} {timestamp : ℕ} {request : Call}
variable {onPermit onTransfer returned reverted : Reaction T}
variable {world stop : World oz T}

theorem run_reenter_ok {result : Option (Uint 256)}
    (hcall : call (reactive (run self timestamp onPermit)
      (run self timestamp onTransfer)) self { sender, timestamp } request
      world = .ok result stop) :
    run self timestamp
        (.reenter sender request onPermit onTransfer returned reverted) world =
      run self timestamp returned stop := by
  simp only [run, hcall]

theorem run_reenter_error {failure : Error}
    (hcall : call (reactive (run self timestamp onPermit)
      (run self timestamp onTransfer)) self { sender, timestamp } request
      world = .error failure stop) :
    run self timestamp
        (.reenter sender request onPermit onTransfer returned reverted) world =
      run self timestamp reverted world := by
  rw [call_eq_error hcall] at hcall
  simp only [run, hcall]

end Reenter

/-- The same behaviour with every nested ask, settlement and withdrawal taken
to revert without effect. -/
def blocked : Reaction T → Reaction T
  | .reenter sender request onPermit onTransfer returned reverted =>
    if request.guarded then reverted.blocked
    else .reenter sender request onPermit.blocked onTransfer.blocked
      returned.blocked reverted.blocked
  | reaction => reaction

end Reaction

/-- A top-level call together with the token's behaviour during it. -/
structure HostileCall (T : Type) where
  sender : Address
  timestamp : ℕ
  request : Call
  onPermit : Reaction T
  onTransfer : Reaction T

namespace HostileCall

def msg (input : HostileCall T) : Msg :=
  { sender := input.sender, timestamp := input.timestamp }

def token (oz : OpenZeppelin) (self : Address) (input : HostileCall T) :
    Token oz T :=
  reactive (input.onPermit.run self input.timestamp)
    (input.onTransfer.run self input.timestamp)

def outcome (self : Address) (input : HostileCall T) (world : World oz T) :
    EStateM.Result Error (World oz T) (Option (Uint 256)) :=
  call (input.token oz self) self input.msg input.request world

def blocked (input : HostileCall T) : HostileCall T :=
  { input with
    onPermit := input.onPermit.blocked
    onTransfer := input.onTransfer.blocked }

end HostileCall

/-! ## The lock -/

section Lock

variable {token : Token oz T} {self : Address} {msg : Msg} {request : Call}
variable {world : World oz T}

/-- With the lock taken, a guarded call reverts and leaves no trace. -/
theorem guarded_call_reverts (hlock : oz.lock.Documented)
    (hentered : oz.lock.entered world.escrow.lock = true)
    (hguarded : request.guarded = true) :
    ∃ failure, call token self msg request world = .error failure world := by
  cases hcall : call token self msg request world with
  | error failure stop =>
      rw [call_eq_error hcall]
      exact ⟨failure, rfl⟩
  | ok result stop =>
      exfalso
      have hfree : ∀ {entered}, oz.lock.enter world.escrow.lock ≠ .ok entered := by
        intro entered henter
        have hbefore := (hlock.enter_ok henter).1
        rw [hentered] at hbefore
        cases hbefore
      cases call_eq_ok.mp hcall with
      | ask _ hasks =>
          obtain ⟨_, _, _, _, _, henter, _⟩ := hasks
          exact hfree henter
      | settle _ hsettles =>
          obtain ⟨_, _, henter, _⟩ := hsettles
          exact hfree henter
      | withdraw hwithdraws =>
          obtain ⟨_, _, henter, _⟩ := hwithdraws
          exact hfree henter
      | administer hadministers =>
          obtain ⟨hasks, hsettles, hwithdraw⟩ := hadministers.kind
          simp [Call.guarded, hasks, hsettles, hwithdraw] at hguarded

theorem unguarded_call_congr (first second : Token oz T)
    (hguarded : request.guarded = false) :
    call first self msg request = call second self msg request := by
  cases request <;> first | rfl | cases hguarded

end Lock

/-! ## Hostile tokens are confined -/

section Confined

variable {self : Address} {timestamp : ℕ}

open Reaction

theorem Reaction.meanwhile (hlock : oz.lock.Documented) (reaction : Reaction T)
    {start stop : World oz T}
    (hentered : oz.lock.entered start.escrow.lock = true)
    (hrun : reaction.run self timestamp start = .ok () stop) :
    Meanwhile start stop := by
  induction reaction generalizing start with
  | done token =>
      rw [Reaction.run, write_eq_ok] at hrun
      rw [hrun]
      exact .single (.token token)
  | fail failure => cases hrun
  | reenter sender request onPermit onTransfer returned reverted _ _ hreturned
      hreverted =>
      cases hcall : call (reactive (onPermit.run self timestamp)
        (onTransfer.run self timestamp)) self { sender, timestamp } request
        start with
      | error failure middle =>
          rw [run_reenter_error hcall] at hrun
          exact hreverted hentered hrun
      | ok result middle =>
          rw [run_reenter_ok hcall] at hrun
          by_cases hguarded : request.guarded = true
          · obtain ⟨failure, hfails⟩ :=
              guarded_call_reverts hlock hentered hguarded
            rw [hfails] at hcall
            cases hcall
          · have hadministers := unguarded_effect
              (Bool.eq_false_of_not_eq_true hguarded) (call_eq_ok.mp hcall)
            rw [← hadministers.lock] at hentered
            exact .head (.administer hadministers) (hreturned hentered hrun)

theorem reactive_confined (hlock : oz.lock.Documented)
    (onPermit onTransfer : Reaction T) :
    (reactive (onPermit.run self timestamp) (onTransfer.run self timestamp) :
      Token oz T).Confined where
  safeTransferFrom hentered hrun := onTransfer.meanwhile hlock hentered hrun
  safeTransfer hentered hrun := onTransfer.meanwhile hlock hentered hrun
  permit hentered hrun := onPermit.meanwhile hlock hentered hrun

theorem HostileCall.confined (hlock : oz.lock.Documented)
    (input : HostileCall T) : (input.token oz self).Confined :=
  reactive_confined hlock input.onPermit input.onTransfer

/-- With the lock taken, nested guarded calls may as well not be tried. -/
theorem Reaction.blocked_run (hlock : oz.lock.Documented)
    (reaction : Reaction T) {world : World oz T}
    (hentered : oz.lock.entered world.escrow.lock = true) :
    reaction.blocked.run self timestamp world =
      reaction.run self timestamp world := by
  induction reaction generalizing world with
  | done token => rfl
  | fail failure => rfl
  | reenter sender request onPermit onTransfer returned reverted _ _ hreturned
      hreverted =>
      rw [Reaction.blocked]
      by_cases hguarded : request.guarded = true
      · obtain ⟨failure, hfails⟩ := guarded_call_reverts hlock hentered hguarded
        rw [if_pos hguarded, run_reenter_error hfails]
        exact hreverted hentered
      · have hunguarded := Bool.eq_false_of_not_eq_true hguarded
        have htokens := @unguarded_call_congr oz T self { sender, timestamp }
          request (reactive (onPermit.run self timestamp)
            (onTransfer.run self timestamp))
          (reactive (onPermit.blocked.run self timestamp)
            (onTransfer.blocked.run self timestamp)) hunguarded
        rw [if_neg hguarded]
        cases hcall : call (reactive (onPermit.run self timestamp)
          (onTransfer.run self timestamp)) self { sender, timestamp } request
          world with
        | error failure stop =>
            rw [run_reenter_error hcall]
            rw [htokens] at hcall
            rw [run_reenter_error hcall]
            exact hreverted hentered
        | ok result stop =>
            have hadministers :=
              unguarded_effect hunguarded (call_eq_ok.mp hcall)
            rw [← hadministers.lock] at hentered
            rw [run_reenter_ok hcall]
            rw [htokens] at hcall
            rw [run_reenter_ok hcall]
            exact hreturned hentered

end Confined

/-! ## Tokens that agree while the lock is taken -/

/-- Two tokens that cannot be told apart with the lock taken. -/
structure Token.Agree (first second : Token oz T) : Prop where
  safeTransferFrom : ∀ {source destination amount world},
    oz.lock.entered world.escrow.lock = true →
    first.safeTransferFrom source destination amount world =
      second.safeTransferFrom source destination amount world
  safeTransfer : ∀ {destination amount world},
    oz.lock.entered world.escrow.lock = true →
    first.safeTransfer destination amount world =
      second.safeTransfer destination amount world
  permit : ∀ {owner spender value deadline v r s world},
    oz.lock.entered world.escrow.lock = true →
    first.permit owner spender value deadline v r s world =
      second.permit owner spender value deadline v r s world

section Agree

variable {A : Type} {first second : Token oz T} {self : Address} {msg : Msg}

theorem whenNotPaused_congr {body other : Exec oz T A} {start : World oz T}
    (hbody : body start = other start) :
    whenNotPaused body start = whenNotPaused other start := by
  simp only [whenNotPaused, load_bind]
  apply bind_congr_right
  intro _ middle hrequire
  rw [(require_eq_ok.mp hrequire).2]
  exact hbody

theorem nonReentrant_congr (hlock : oz.lock.Documented)
    {body other : Exec oz T A} {start : World oz T}
    (hbody : ∀ world : World oz T,
      oz.lock.entered world.escrow.lock = true → body world = other world) :
    nonReentrant body start = nonReentrant other start := by
  simp only [nonReentrant, load_bind]
  apply bind_congr_right
  intro entered middle hlift
  obtain ⟨henter, rfl⟩ := lift_eq_ok.mp hlift
  simp only [store_bind]
  apply bind_congr_left
  exact hbody _ (hlock.enter_ok henter).2

theorem asking_congr (hlock : oz.lock.Documented) {pull other : Exec oz T Unit}
    {ref : Bytes32} {answerer : Address} {amount : Uint 128}
    {start : World oz T}
    (hpull : ∀ world : World oz T,
      oz.lock.entered world.escrow.lock = true → pull world = other world) :
    whenNotPaused (nonReentrant do
        let id ← createQuestion msg ref answerer amount
        pull
        return id) start =
      whenNotPaused (nonReentrant do
        let id ← createQuestion msg ref answerer amount
        other
        return id) start := by
  apply whenNotPaused_congr
  apply nonReentrant_congr hlock
  intro world hentered
  apply bind_congr_right
  intro id recorded hcreate
  obtain ⟨_, _, next, deadline, _, _, _, rfl⟩ := createQuestion_eq_ok.mp hcreate
  apply bind_congr_left
  exact hpull _ hentered

theorem permitThenPull_congr (hagree : first.Agree second)
    (hconfined : second.Confined) {amount : Uint 128}
    {value deadline : Uint 256} {v : Uint 8} {r s : Bytes32}
    {world : World oz T} (hentered : oz.lock.entered world.escrow.lock = true) :
    permitThenPull first self msg amount value deadline v r s world =
      permitThenPull second self msg amount value deadline v r s world := by
  rw [permitThenPull, permitThenPull]
  rw [bind_congr_left (attempt_congr (hagree.permit hentered))]
  apply bind_congr_right
  intro _ middle hattempt
  obtain hok | ⟨_, rfl⟩ := attempt_eq_ok.mp hattempt
  · rw [← (hconfined.permit hentered hok).lock] at hentered
    exact hagree.safeTransferFrom hentered
  · exact hagree.safeTransferFrom hentered

/-- A call cannot tell such tokens apart. -/
theorem call_congr (hlock : oz.lock.Documented) (hagree : first.Agree second)
    (hconfined : second.Confined) (request : Call) (world : World oz T) :
    call first self msg request world = call second self msg request world := by
  apply frame_congr
  cases request
  case askQuestion =>
    apply map_code_congr
    apply asking_congr hlock
    intro world hentered
    exact hagree.safeTransferFrom hentered
  case askQuestionWithPermit ref answerer amount value deadline v r s =>
    apply map_code_congr
    have hasking := @asking_congr _ _ msg hlock
      (permitThenPull first self msg amount value deadline v r s)
      (permitThenPull second self msg amount value deadline v r s) ref answerer
      amount world fun _ hentered =>
        permitThenPull_congr hagree hconfined hentered
    simpa only [askQuestionWithPermit, permitThenPull, bind_assoc] using hasking
  case withdraw =>
    apply map_code_congr
    apply nonReentrant_congr hlock
    intro world hentered
    simp only [load_bind]
    apply bind_congr_right
    intro _ middle hrequire
    obtain ⟨_, rfl⟩ := require_eq_ok.mp hrequire
    simp only [store_bind]
    apply bind_congr_left
    exact hagree.safeTransfer hentered
  all_goals rfl

/-- Whatever the token tries, the call ends as if its nested asks, settlements
and withdrawals had been skipped. -/
theorem HostileCall.blocked_outcome (hlock : oz.lock.Documented)
    (input : HostileCall T) (world : World oz T) :
    input.blocked.outcome self world = input.outcome self world := by
  apply call_congr hlock _ (input.confined hlock)
  exact {
    safeTransferFrom := input.onTransfer.blocked_run hlock
    safeTransfer := input.onTransfer.blocked_run hlock
    permit := input.onPermit.blocked_run hlock }

end Agree

end BuyAnAnswer.Contract
