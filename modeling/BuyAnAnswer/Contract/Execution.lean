import BuyAnAnswer.Contract.Calls
import BuyAnAnswer.Core.Machine

/-!
# Executions against a standard token

A deployed escrow is driven by calls of arbitrary accounts at non-decreasing
block timestamps, by tokens sent to it directly, and by whatever else happens
to the token without touching the escrow's balance.
-/

namespace BuyAnAnswer.Contract

open BuyAnAnswer.Transaction

/-- An address that can be `msg.sender`: not the zero address, for which nobody
signs, and not the escrow itself, whose code calls nothing but the token. -/
def Account (self : Address) := {address : Address // address ≠ 0 ∧ address ≠ self}

/-- The escrow on its chain.  `now` is the timestamp of the latest block and
`sentIn` counts the tokens that reached the escrow other than through an ask. -/
structure System (oz : OpenZeppelin) (erc20 : ERC20) where
  world : World oz erc20.Storage
  now : ℕ
  sentIn : ℕ

/-- One thing that can happen. -/
inductive Action (erc20 : ERC20) (self : Address) where
  /-- A call to the escrow, `elapsed` seconds after the previous one. -/
  | call (sender : Account self) (elapsed : ℕ) (request : Call)
  /-- A direct transfer of tokens to the escrow. -/
  | send (sender : Account self) (amount : Uint 256)
  /-- A direct transfer to the escrow by an approved spender. -/
  | sendFrom (spender source : Account self) (amount : Uint 256)
  /-- Token activity that leaves the escrow's balance alone: approvals, and
  transfers between other accounts. -/
  | elsewhere (token : erc20.Storage)

section Step

variable {oz : OpenZeppelin} (erc20 : ERC20) (self : Address)

/-- Deployment, in a block at time `now`. -/
def deploy (args : ConstructorArgs) (token : erc20.Storage) (now : ℕ) :
    Except Error (System oz erc20) :=
  match construct oz args with
  | .error failure => .error failure
  | .ok escrow => .ok {
      world := { escrow, token, log := [] }
      now
      sentIn := erc20.balanceOf token self }

/-- The outcome of a call to the deployed escrow. -/
def System.call (system : System oz erc20) (sender : Address) (timestamp : ℕ)
    (request : Call) :
    EStateM.Result Error (World oz erc20.Storage) (Option (Uint 256)) :=
  Contract.call (erc20.asToken oz self timestamp) self { sender, timestamp }
    request system.world

/-- Tokens arrive at the escrow if the transfer succeeds. -/
def System.receive (system : System oz erc20) (amount : Uint 256)
    (transferred : Except Error erc20.Storage) : System oz erc20 :=
  match transferred with
  | .error _ => system
  | .ok token =>
    { system with
      world := { system.world with token }
      sentIn := system.sentIn + amount }

def System.step (system : System oz erc20) :
    Action erc20 self → System oz erc20
  | .call sender elapsed request =>
    { system with
      world := finalState
        (system.call erc20 self sender.1 (system.now + elapsed) request)
      now := system.now + elapsed }
  | .send sender amount =>
      system.receive erc20 amount
        (erc20.transfer sender.1 self amount system.world.token)
  | .sendFrom spender source amount =>
      system.receive erc20 amount
        (erc20.transferFrom spender.1 source.1 self amount system.world.token)
  | .elsewhere token =>
      if erc20.balanceOf token self = erc20.balanceOf system.world.token self then
        { system with world := { system.world with token } }
      else system

/-- The system after a sequence of actions. -/
def System.run (system : System oz erc20) (actions : List (Action erc20 self)) :
    System oz erc20 :=
  Machine.run (System.step erc20 self) system actions

/-- Systems that some execution reaches. -/
def Reachable (system : System oz erc20) : Prop :=
  ∃ args token now start actions, deploy erc20 self args token now = .ok start ∧
    system = System.run erc20 self start actions

end Step

section Rules

variable {oz : OpenZeppelin} {erc20 : ERC20} {self : Address}

theorem receive_world {Invariant : World oz erc20.Storage → Prop}
    (htoken : ∀ {world} token, Invariant world →
      Invariant { world with token })
    {system : System oz erc20} {amount : Uint 256}
    {transferred : Except Error erc20.Storage}
    (hsystem : Invariant system.world) :
    Invariant (system.receive erc20 amount transferred).world := by
  cases transferred with
  | error failure => exact hsystem
  | ok token => exact htoken token hsystem

/-- A property of worlds that calls keep, whatever the token does elsewhere,
holds throughout a run. -/
theorem run_world {Invariant : World oz erc20.Storage → Prop}
    (htoken : ∀ {world} token, Invariant world →
      Invariant { world with token })
    (hcall : ∀ {world stop result request} {sender : Account self} {timestamp},
      Invariant world →
      Contract.call (erc20.asToken oz self timestamp) self
        { sender := sender.1, timestamp } request world = .ok result stop →
      Invariant stop)
    {system : System oz erc20} (hsystem : Invariant system.world)
    (actions : List (Action erc20 self)) :
    Invariant (system.run erc20 self actions).world := by
  apply @Machine.run_invariant _ _ (System.step erc20 self)
    (fun system => Invariant system.world) _ _ hsystem
  intro system action _ hsystem
  cases action with
  | call sender elapsed request =>
      rw [System.step]
      cases hresult : system.call erc20 self sender.1 (system.now + elapsed)
        request with
      | ok result stop => exact hcall hsystem hresult
      | error failure stop =>
          rw [finalState_error, call_eq_error hresult]
          exact hsystem
  | send sender amount =>
      rw [System.step]
      exact receive_world htoken hsystem
  | sendFrom spender source amount =>
      rw [System.step]
      exact receive_world htoken hsystem
  | elsewhere token =>
      rw [System.step]
      by_cases hbalance : erc20.balanceOf token self =
        erc20.balanceOf system.world.token self
      · rw [if_pos hbalance]
        exact htoken token hsystem
      · rw [if_neg hbalance]
        exact hsystem

/-- If moreover the constructor establishes it, it holds in every reachable
system. -/
theorem reachable_world {Invariant : World oz erc20.Storage → Prop}
    (hconstruct : ∀ {args escrow token}, construct oz args = .ok escrow →
      Invariant { escrow, token, log := [] })
    (htoken : ∀ {world} token, Invariant world →
      Invariant { world with token })
    (hcall : ∀ {world stop result request} {sender : Account self} {timestamp},
      Invariant world →
      Contract.call (erc20.asToken oz self timestamp) self
        { sender := sender.1, timestamp } request world = .ok result stop →
      Invariant stop)
    {system : System oz erc20} (hreachable : Reachable erc20 self system) :
    Invariant system.world := by
  obtain ⟨args, token, now, start, actions, hdeploy, rfl⟩ := hreachable
  apply run_world htoken hcall
  rw [deploy] at hdeploy
  cases hescrow : construct oz args with
  | error failure =>
      rw [hescrow] at hdeploy
      cases hdeploy
  | ok escrow =>
      rw [hescrow] at hdeploy
      cases hdeploy
      exact hconstruct hescrow

theorem reachable_step {system : System oz erc20}
    (hreachable : Reachable erc20 self system) (action : Action erc20 self) :
    Reachable erc20 self (system.step erc20 self action) := by
  obtain ⟨args, token, now, start, actions, hdeploy, rfl⟩ := hreachable
  refine ⟨args, token, now, start, actions ++ [action], hdeploy, ?_⟩
  rw [System.run, System.run, Machine.run_append]
  rfl

end Rules

end BuyAnAnswer.Contract
