import BuyAnAnswer.Contract.Solvency

/-!
# Custody

A call can only cost its own caller: everybody else keeps their credit and their
tokens.  A withdrawal pays the caller's whole credit and touches nothing else,
whether or not the contract is paused.
-/

namespace BuyAnAnswer.Contract

open BuyAnAnswer.Transaction

variable {oz : OpenZeppelin}

/-- Only the caller's own withdrawal lowers a credit. -/
theorem Writes.credit_le {msg : Msg} {before after : Storage oz}
    {request : Call} {result : Option (Uint 256)} {events : List Event}
    (hwrites : Writes msg before after request result events)
    {account : Address} (haccount : msg.sender ≠ account) :
    before.withdrawable account ≤ after.withdrawable account := by
  apply Fin.le_def.mpr
  cases hwrites with
  | ask _ _ _ _ _ _ _ hcredits => rw [hcredits]
  | settle _ _ _ _ hcredits _ _ _ =>
      rw [hcredits account, Nat.add_assoc]
      exact Nat.le_add_right _ _
  | withdraw _ _ _ _ hcredits =>
      rw [hcredits, Function.update_of_ne haccount.symm]
  | administer _ _ _ hbooks => rw [hbooks.withdrawable]

/-- Tokens only move between the caller and the escrow. -/
theorem Effect.balance_eq {erc20 : ERC20} {self : Address} {timestamp : ℕ}
    {msg : Msg} {request : Call} {start stop : World oz erc20.Storage}
    {result : Option (Uint 256)} (hstandard : erc20.Standard)
    (heffect : Effect (erc20.asToken oz self timestamp) self msg start request
      result stop)
    {account : Address} (hself : account ≠ self)
    (haccount : msg.sender ≠ account) :
    erc20.balanceOf stop.token account = erc20.balanceOf start.token account := by
  obtain ⟨middle, hin, hout⟩ := heffect.flow hstandard
  have hfirst := hin account
  have hsecond := hout account
  rw [if_neg haccount.symm, if_neg hself] at hfirst
  rw [if_neg hself, if_neg haccount.symm] at hsecond
  apply Fin.ext
  calc (erc20.balanceOf stop.token account : ℕ)
      = erc20.balanceOf middle account := hsecond
    _ = erc20.balanceOf start.token account := hfirst

/-! ## Withdrawals -/

section Withdraw

variable {erc20 : ERC20} {self : Address} {timestamp : ℕ} {account : Address}
variable {start : World oz erc20.Storage}

/-- A withdrawal returns if the token transfer does. -/
theorem withdraw_returns (hlock : oz.lock.Documented)
    (hfree : oz.lock.entered start.escrow.lock = false)
    (hcredit : start.escrow.withdrawable account ≠ 0) {token : erc20.Storage}
    (htransfer : erc20.transfer self account
      (start.escrow.withdrawable account) start.token = .ok token) :
    ∃ stop, call (erc20.asToken oz self timestamp) self
        { sender := account, timestamp } .withdraw start = .ok none stop ∧
      stop.token = token := by
  obtain ⟨entered, henter, _⟩ := hlock.enter_free hfree
  refine ⟨_, call_eq_ok.mpr (.withdraw ⟨hcredit, entered, henter, _,
    onToken_eq_ok.mpr ⟨token, htransfer, rfl⟩, rfl⟩), ?_⟩
  rfl

/-- A withdrawal reverts if the token transfer does. -/
theorem withdraw_reverts {failure : Error}
    (htransfer : erc20.transfer self account
      (start.escrow.withdrawable account) start.token = .error failure) :
    ∃ thrown, call (erc20.asToken oz self timestamp) self
        { sender := account, timestamp } .withdraw start =
      .error thrown start := by
  cases hcall : call (erc20.asToken oz self timestamp) self
    { sender := account, timestamp } .withdraw start with
  | error thrown stop =>
      rw [call_eq_error hcall]
      exact ⟨thrown, rfl⟩
  | ok result stop =>
      cases call_eq_ok.mp hcall with
      | ask hasks _ => cases hasks
      | settle hsettles _ => cases hsettles
      | withdraw hwithdraws =>
          obtain ⟨_, _, _, reached, hok, _⟩ := hwithdraws
          obtain ⟨token, hreturns, _⟩ := onToken_eq_ok.mp hok
          have hsame : erc20.transfer self account
            (start.escrow.withdrawable account) start.token = .ok token :=
            hreturns
          rw [htransfer] at hsame
          cases hsame
      | administer hadministers => exact absurd rfl hadministers.kind.2.2

end Withdraw

section Reachable

variable {erc20 : ERC20} {self : Address} {system : System oz erc20}

/-- In every reachable state, a call by somebody else lowers neither the credit
nor the token balance of an account; and the account's own withdrawal pays it
exactly its credit and clears only that, unless the token refuses, in which case
nothing changes. -/
theorem nobody_else_takes (hlock : oz.lock.Documented)
    (hstandard : erc20.Standard) (hreachable : Reachable erc20 self system)
    {account : Address} (hself : account ≠ self) (timestamp : ℕ) :
    (∀ sender request result stop, sender ≠ account →
      system.call erc20 self sender timestamp request = .ok result stop →
      system.world.escrow.withdrawable account ≤
          stop.escrow.withdrawable account ∧
        erc20.balanceOf system.world.token account ≤
          erc20.balanceOf stop.token account) ∧
    (∀ sender request failure stop,
      system.call erc20 self sender timestamp request = .error failure stop →
      stop = system.world) ∧
    (∀ token, system.world.escrow.withdrawable account ≠ 0 →
      erc20.transfer self account (system.world.escrow.withdrawable account)
        system.world.token = .ok token →
      ∃ stop, system.call erc20 self account timestamp .withdraw =
          .ok none stop ∧
        (erc20.balanceOf stop.token account : ℕ) =
          erc20.balanceOf system.world.token account +
            system.world.escrow.withdrawable account ∧
        stop.escrow.withdrawable =
          Function.update system.world.escrow.withdrawable account 0 ∧
        stop.escrow.questions = system.world.escrow.questions) ∧
    (∀ failure,
      erc20.transfer self account (system.world.escrow.withdrawable account)
        system.world.token = .error failure →
      ∃ thrown, system.call erc20 self account timestamp .withdraw =
        .error thrown system.world) := by
  have hconfined := erc20.asToken_confined oz self timestamp
  refine ⟨?_, ?_, ?_, ?_⟩
  · intro sender request result stop hsender hcall
    have heffect := call_eq_ok.mp hcall
    obtain ⟨_, _, hwrites⟩ := heffect.writes hconfined hlock
    refine ⟨hwrites.credit_le hsender, ?_⟩
    rw [heffect.balance_eq hstandard hself hsender]
  · intro sender request failure stop hcall
    exact call_eq_error hcall
  · intro token hcredit htransfer
    have hfree := (hreachable.solvent hlock hstandard).healthy.lock_free
    obtain ⟨stop, hcall, rfl⟩ := @withdraw_returns _ _ _ timestamp _ _ hlock
      hfree hcredit _ htransfer
    obtain ⟨_, _, hwrites⟩ := (call_eq_ok.mp hcall).writes hconfined hlock
    have hpaid := (hstandard.transfer_ok htransfer).balance account
    rw [if_neg hself, if_pos rfl, add_zero] at hpaid
    cases hwrites with
    | settle hsettles => cases hsettles
    | withdraw _ _ hquestions _ hcredits =>
        exact ⟨stop, hcall, hpaid, hcredits, hquestions⟩
    | administer _ _ hwithdraw => exact absurd rfl hwithdraw
  · intro failure htransfer
    exact withdraw_reverts htransfer

end Reachable

/-- The answerer of the sample question withdraws the payout. -/
theorem nobody_else_takes_answered :
    ∃ stop, Sample.answered.call .plain Sample.escrow Sample.answerer.1 30
        .withdraw = .ok none stop ∧
      (ERC20.plain.balanceOf stop.token Sample.answerer.1 : ℕ) =
        ERC20.plain.balanceOf Sample.answered.world.token Sample.answerer.1 +
          Sample.answered.world.escrow.withdrawable Sample.answerer.1 ∧
      stop.escrow.withdrawable =
        Function.update Sample.answered.world.escrow.withdrawable
          Sample.answerer.1 0 ∧
      stop.escrow.questions = Sample.answered.world.escrow.questions :=
  (nobody_else_takes OpenZeppelin.plain_documented.lock ERC20.plain_standard
    Sample.answered_reachable (by decide) 30).2.2.1 _ (by decide) rfl

end BuyAnAnswer.Contract
