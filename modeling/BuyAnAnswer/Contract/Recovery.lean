import BuyAnAnswer.Contract.Settlement

/-!
# Recovering escrowed money

An open question can be brought to an end from every reachable state but one
kind: paused, with the ownership renounced.  Then no call but a withdrawal can
return, so that the amount stays locked.  In every other state the owner can
unpause if need be, and once the deadline has passed anybody can reclaim.
-/

namespace BuyAnAnswer.Contract

open BuyAnAnswer.Transaction

variable {oz : OpenZeppelin} {erc20 : ERC20} {self : Address}

/-- Some continuation of actions, followed by one more call, settles question
`id` and shares its amount. -/
def Recoverable (erc20 : ERC20) (self : Address) (system : System oz erc20)
    (id : Uint 256) : Prop :=
  ∃ (actions : List (Action erc20 self)) (sender : Account self) (elapsed : ℕ)
    (request : Call) (terminal : Status) (reached : System oz erc20)
    (stop : World oz erc20.Storage) (share fee : ℕ),
    reached = system.run erc20 self actions ∧
    reached.call erc20 self sender.1 (reached.now + elapsed) request =
      .ok none stop ∧
    request.settles = some (id, terminal) ∧
    (stop.escrow.questions id).status = terminal ∧
    Shares reached.world.escrow stop.escrow id terminal share fee

/-! ## Who controls the pause -/

/-- The pause state and the ownership. -/
structure SameControl (before after : Storage oz) : Prop where
  ownable : after.ownable = before.ownable
  pausable : after.pausable = before.pausable

section Control

variable {timestamp : ℕ} {msg : Msg} {request : Call}
variable {start stop : World oz erc20.Storage} {result : Option (Uint 256)}

theorem asToken_pull_escrow
    (hpull : request.pull (erc20.asToken oz self timestamp) self msg start =
      .ok () stop) : stop.escrow = start.escrow := by
  cases request
  case askQuestion =>
    obtain ⟨_, _, rfl⟩ := onToken_eq_ok.mp hpull
    rfl
  case askQuestionWithPermit =>
    obtain ⟨_, middle, hattempt, hpull⟩ := bind_eq_ok.mp hpull
    obtain ⟨_, _, rfl⟩ := onToken_eq_ok.mp hpull
    obtain hok | ⟨_, rfl⟩ := attempt_eq_ok.mp hattempt
    · obtain ⟨_, _, rfl⟩ := onToken_eq_ok.mp hok
      rfl
    · rfl
  all_goals rw [(pure_eq_ok.mp hpull).2]

/-- Against a standard token, only administration changes the control, and asks
and settlements do not return while the contract is paused. -/
theorem Effect.control
    (heffect : Effect (erc20.asToken oz self timestamp) self msg start request
      result stop) :
    SameControl start.escrow stop.escrow ∧
        (request = .withdraw ∨
          oz.pausable.paused start.escrow.pausable = false) ∨
      Administers msg start request stop := by
  cases heffect with
  | ask _ hasks =>
      obtain ⟨hrunning, _, _, _, _, _, _, _, reached, _, _, hpull, rfl⟩ := hasks
      left
      simp only [World.setLock]
      rw [asToken_pull_escrow hpull]
      exact ⟨⟨rfl, rfl⟩, .inr hrunning⟩
  | settle _ hsettles =>
      obtain ⟨hrunning, _, _, _, ⟨_, _, _, _, _, _, rfl⟩, rfl⟩ := hsettles
      exact .inl ⟨⟨rfl, rfl⟩, .inr hrunning⟩
  | withdraw hwithdraws =>
      obtain ⟨_, _, _, _, hok, rfl⟩ := hwithdraws
      obtain ⟨_, _, rfl⟩ := onToken_eq_ok.mp hok
      exact .inl ⟨⟨rfl, rfl⟩, .inl rfl⟩
  | administer hadministers => exact .inr hadministers

end Control

/-- Renouncing leaves no pending owner behind, and an escrow that owns itself,
which only a deployment can arrange, is never paused. -/
structure Owned (address : Address) (escrow : Storage oz) : Prop where
  renounced : oz.ownable.owner escrow.ownable = 0 →
    oz.ownable.pendingOwner escrow.ownable = 0
  itself : oz.ownable.owner escrow.ownable ≠ 0 →
    oz.ownable.owner escrow.ownable = address →
    oz.pausable.paused escrow.pausable = false

theorem Initial.owned (hoz : oz.Documented) {args : ConstructorArgs}
    {escrow : Storage oz} (hinitial : Initial args escrow) :
    Owned self escrow := by
  obtain ⟨_, _, hpending⟩ := hoz.ownable.construct_ok hinitial.ownable
  refine ⟨fun _ => hpending, fun _ _ => ?_⟩
  rw [hinitial.pausable]
  exact hoz.pausable.initial_running

theorem SameControl.owned {before after : Storage oz}
    (hcontrol : SameControl before after) (howned : Owned self before) :
    Owned self after := by
  constructor
  · rw [hcontrol.ownable]
    exact howned.renounced
  · rw [hcontrol.ownable, hcontrol.pausable]
    exact howned.itself

theorem Administers.owned {T : Type} (hoz : oz.Documented)
    {sender : Account self} {timestamp : ℕ} {request : Call}
    {start stop : World oz T}
    (hadministers : Administers { sender := sender.1, timestamp } start request
      stop)
    (howned : Owned self start.escrow) : Owned self stop.escrow := by
  cases hadministers with
  | setAnswerFee | setCancelFee | setAnswerWindow | setFeeAddress =>
      exact ⟨howned.renounced, howned.itself⟩
  | pause howner | unpause howner =>
      refine ⟨howned.renounced, fun _ hself => ?_⟩
      exact absurd (howner.symm.trans hself) sender.2.2
  | transferOwnership htransfer =>
      obtain ⟨hsender, hsame, _⟩ := hoz.ownable.transferOwnership_ok htransfer
      refine ⟨fun hzero => ?_, fun _ hself => ?_⟩
      · exact absurd (hsender.trans (hsame.symm.trans hzero)) sender.2.1
      · exact absurd (hsender.trans (hsame.symm.trans hself)) sender.2.2
  | acceptOwnership haccept =>
      obtain ⟨_, howner, hpending⟩ := hoz.ownable.acceptOwnership_ok haccept
      refine ⟨fun _ => hpending, fun _ hself => ?_⟩
      exact absurd (howner.symm.trans hself) sender.2.2
  | renounceOwnership hrenounce =>
      obtain ⟨_, hzero, hpending⟩ := hoz.ownable.renounceOwnership_ok hrenounce
      exact ⟨fun _ => hpending, fun hnonzero => absurd hzero hnonzero⟩

theorem Reachable.owned (hoz : oz.Documented) {system : System oz erc20}
    (hreachable : Reachable erc20 self system) :
    Owned self system.world.escrow := by
  apply @reachable_world _ _ _ (fun world => Owned self world.escrow) _ _ _ _
    hreachable
  · intro args escrow token hconstruct
    exact (construct_eq_ok hconstruct).owned hoz
  · intro world token howned
    exact howned
  · intro world stop result request sender timestamp howned hcall
    obtain ⟨hcontrol, _⟩ | hadministers := (call_eq_ok.mp hcall).control
    · exact hcontrol.owned howned
    · exact hadministers.owned hoz howned

/-! ## Paused and renounced -/

/-- Nobody can unpause the contract any more. -/
structure Abandoned (escrow : Storage oz) : Prop where
  paused : oz.pausable.paused escrow.pausable = true
  owner : oz.ownable.owner escrow.ownable = 0
  pendingOwner : oz.ownable.pendingOwner escrow.ownable = 0

/-- An abandoned contract only lets withdrawals through. -/
theorem Abandoned.effect (hoz : oz.Documented) {sender : Account self}
    {timestamp elapsed : ℕ} {request : Call} {start stop : World oz erc20.Storage}
    {result : Option (Uint 256)} (habandoned : Abandoned start.escrow)
    (heffect : Effect (erc20.asToken oz self elapsed) self
      { sender := sender.1, timestamp } start request result stop) :
    request = .withdraw ∧ SameControl start.escrow stop.escrow := by
  obtain ⟨hcontrol, hwithdraw | hrunning⟩ | hadministers := heffect.control
  · exact ⟨hwithdraw, hcontrol⟩
  · rw [habandoned.paused] at hrunning
    cases hrunning
  · exfalso
    have hnot_owner : oz.ownable.owner start.escrow.ownable ≠ sender.1 := by
      rw [habandoned.owner]
      exact sender.2.1.symm
    cases hadministers with
    | setAnswerFee howner | setCancelFee howner | setAnswerWindow howner
    | setFeeAddress howner | pause howner | unpause howner =>
        exact hnot_owner howner
    | transferOwnership htransfer =>
        exact hnot_owner (hoz.ownable.transferOwnership_ok htransfer).1.symm
    | acceptOwnership haccept =>
        have hsender := (hoz.ownable.acceptOwnership_ok haccept).1
        rw [habandoned.pendingOwner] at hsender
        exact sender.2.1 hsender
    | renounceOwnership hrenounce =>
        exact hnot_owner (hoz.ownable.renounceOwnership_ok hrenounce).1.symm

theorem Abandoned.run (self : Address) (hoz : oz.Documented) {system : System oz erc20}
    (habandoned : Abandoned system.world.escrow)
    (actions : List (Action erc20 self)) :
    Abandoned (system.run erc20 self actions).world.escrow := by
  apply @run_world _ _ _ (fun world => Abandoned world.escrow) _ _ _ habandoned
    actions
  · intro world token hworld
    exact hworld
  · intro world stop result request sender timestamp hworld hcall
    obtain ⟨_, hcontrol⟩ := hworld.effect hoz (call_eq_ok.mp hcall)
    exact {
      paused := by rw [hcontrol.pausable, hworld.paused]
      owner := by rw [hcontrol.ownable, hworld.owner]
      pendingOwner := by rw [hcontrol.ownable, hworld.pendingOwner] }

theorem Abandoned.not_recoverable (hoz : oz.Documented)
    {system : System oz erc20} (habandoned : Abandoned system.world.escrow)
    (id : Uint 256) : ¬ Recoverable erc20 self system id := by
  intro ⟨actions, sender, elapsed, request, terminal, reached, stop, _, _,
    hreached, hcall, hrequest, _, _⟩
  have hstill := habandoned.run self hoz actions
  rw [← hreached] at hstill
  obtain ⟨rfl, _⟩ := hstill.effect hoz (call_eq_ok.mp hcall)
  cases hrequest

/-! ## Every other state -/

theorem exists_account (self : Address) : Nonempty (Account self) := by
  by_cases hself : self = 1
  · exact ⟨⟨2, by decide, by rw [hself]; decide⟩⟩
  · exact ⟨⟨1, by decide, fun heq => hself heq.symm⟩⟩

/-- Once the deadline has passed, anybody can reclaim for the asker. -/
theorem Solvent.recoverable (hlock : oz.lock.Documented)
    {system reached : System oz erc20} {actions : List (Action erc20 self)}
    (hreached : reached = system.run erc20 self actions)
    (hsolvent : Solvent self reached)
    (hrunning : oz.pausable.paused reached.world.escrow.pausable = false)
    {id : Uint 256}
    (hopen : (reached.world.escrow.questions id).status = .open) :
    Recoverable erc20 self system id := by
  obtain ⟨sender⟩ := exists_account self
  have hlate : ((reached.world.escrow.questions id).deadline : ℕ) ≤
      reached.now + (reached.world.escrow.questions id).deadline :=
    Nat.le_add_left _ _
  obtain ⟨stop, hsettles⟩ := @Sound.exists_settles _ _
    { sender := sender.1, timestamp := _ } _ id .reclaimed hlock hsolvent.sound
    hrunning hopen hlate
  obtain ⟨share, fee, hshares⟩ := hsolvent.healthy.shares hsettles
  refine ⟨actions, sender, _, .reclaimQuestion id, .reclaimed, reached, stop, share,
    fee, hreached, call_eq_ok.mpr (.settle rfl hsettles), rfl, ?_, hshares⟩
  rw [hsettles.questions, Function.update_self]

/-- While there is an owner, the contract can be unpaused. -/
theorem Owned.unpause (hoz : oz.Documented) {system : System oz erc20}
    (howned : Owned self system.world.escrow)
    (howner : oz.ownable.owner system.world.escrow.ownable ≠ 0)
    (hpaused : oz.pausable.paused system.world.escrow.pausable = true) :
    ∃ (action : Action erc20 self),
      oz.pausable.paused
          (system.step erc20 self action).world.escrow.pausable = false ∧
        (system.step erc20 self action).world.escrow.questions =
          system.world.escrow.questions := by
  have hself : oz.ownable.owner system.world.escrow.ownable ≠ self := by
    intro hself
    have hrunning := howned.itself howner hself
    rw [hpaused] at hrunning
    cases hrunning
  obtain ⟨after, hunpause⟩ := hoz.pausable.unpause_paused hpaused
  have hcall : system.call erc20 self
      (oz.ownable.owner system.world.escrow.ownable) (system.now + 0) .unpause =
      .ok none { system.world with
        escrow := { system.world.escrow with pausable := after } } :=
    call_eq_ok.mpr (.administer (.unpause rfl hunpause))
  refine ⟨.call ⟨_, howner, hself⟩ 0 .unpause, ?_⟩
  simp only [System.step, hcall, finalState_ok]
  exact ⟨(hoz.pausable.unpause_ok hunpause).2, trivial⟩

/-- An open question of a reachable state can be recovered exactly if the
contract is not both paused and without an owner. -/
theorem recoverable_iff (hoz : oz.Documented) (hstandard : erc20.Standard)
    {system : System oz erc20} (hreachable : Reachable erc20 self system)
    {id : Uint 256} (hopen : (system.world.escrow.questions id).status = .open) :
    Recoverable erc20 self system id ↔
      ¬ (oz.pausable.paused system.world.escrow.pausable = true ∧
        oz.ownable.owner system.world.escrow.ownable = 0) := by
  have howned := hreachable.owned hoz
  constructor
  · intro hrecoverable ⟨hpaused, howner⟩
    have habandoned : Abandoned system.world.escrow :=
      ⟨hpaused, howner, howned.renounced howner⟩
    exact habandoned.not_recoverable hoz id hrecoverable
  · intro hcondition
    by_cases hpaused : oz.pausable.paused system.world.escrow.pausable = true
    · have howner := fun hzero => hcondition ⟨hpaused, hzero⟩
      obtain ⟨action, hrunning, hquestions⟩ :=
        howned.unpause hoz howner hpaused
      have hnext := (reachable_step hreachable action).solvent hoz.lock hstandard
      have hrun : system.step erc20 self action =
        system.run erc20 self [action] := rfl
      apply hnext.recoverable hoz.lock hrun hrunning
      rw [hquestions]
      exact hopen
    · have hrun : system = system.run erc20 self [] := rfl
      exact (hreachable.solvent hoz.lock hstandard).recoverable hoz.lock hrun
        (Bool.eq_false_of_not_eq_true hpaused) hopen

namespace Sample

/-- The owner pauses while the sample question is open, then renounces. -/
def stuck : System .plain .plain :=
  deployed.run .plain escrow
    [ask, .call owner 5 .pause, .call owner 5 .renounceOwnership]

theorem stuck_reachable : Reachable .plain escrow stuck :=
  ⟨args, token, 0, deployed,
    [ask, .call owner 5 .pause, .call owner 5 .renounceOwnership], deploy_args,
    rfl⟩

end Sample

/-- The sample question itself can be recovered. -/
theorem recoverable_asked : Recoverable .plain Sample.escrow Sample.asked 1 :=
  (recoverable_iff OpenZeppelin.plain_documented ERC20.plain_standard
    Sample.asked_reachable (by decide)).mpr (by decide)

/-- Pausing and renouncing locks an open question's amount for good. -/
theorem stuck_not_recoverable :
    Reachable .plain Sample.escrow Sample.stuck ∧
      (Sample.stuck.world.escrow.questions 1).status = .open ∧
      ¬ Recoverable .plain Sample.escrow Sample.stuck 1 := by
  refine ⟨Sample.stuck_reachable, by decide, ?_⟩
  have habandoned : Abandoned Sample.stuck.world.escrow :=
    ⟨by decide, by decide, by decide⟩
  exact habandoned.not_recoverable OpenZeppelin.plain_documented 1

end BuyAnAnswer.Contract
