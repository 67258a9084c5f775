import BuyAnAnswer.Contract.OpenZeppelin
import BuyAnAnswer.Core.Transaction

/-!
# State the contract runs in

The contract's storage, the token's storage and the event log form the world
of a call.  The token is a parameter twice over: `ERC20` is a token with a
storage of its own, while `Token` is whatever code runs when the contract calls
out, which may come back into the contract.
-/

namespace BuyAnAnswer.Contract

open BuyAnAnswer.Transaction

/-- Storage of the escrow, with the storage of the inherited modules.  The
token address is represented by the token that code is run with. -/
structure Storage (oz : OpenZeppelin) where
  feeAddress : Address
  answerWindow : Uint 64
  answerFeeBps : Uint 16
  cancelFeeBps : Uint 16
  nextId : Uint 256
  questions : Uint 256 → Question
  questionRef : Uint 256 → Bytes32
  withdrawable : Address → Uint 256
  ownable : oz.ownable.Storage
  pausable : oz.pausable.Storage
  lock : oz.lock.Storage

/-- The world a call runs in.  `log` holds the events emitted so far, oldest
first. -/
structure World (oz : OpenZeppelin) (T : Type) where
  escrow : Storage oz
  token : T
  log : List Event

/-- Contract code. -/
abbrev Exec (oz : OpenZeppelin) (T A : Type) := Code Error (World oz T) A

variable {oz : OpenZeppelin} {T A : Type}

/-- Read the contract's storage. -/
def load (part : Storage oz → A) : Exec oz T A :=
  read fun world => part world.escrow

/-- Write the contract's storage. -/
def store (change : Storage oz → Storage oz) : Exec oz T Unit :=
  write fun world => { world with escrow := change world.escrow }

def emit (event : Event) : Exec oz T Unit :=
  write fun world => { world with log := world.log ++ [event] }

variable {B : Type}

@[simp]
theorem load_bind (part : Storage oz → A) (next : A → Exec oz T B)
    (start : World oz T) :
    (load part >>= next) start = next (part start.escrow) start := rfl

@[simp]
theorem store_bind (change : Storage oz → Storage oz)
    (next : Unit → Exec oz T B) (start : World oz T) :
    (store change >>= next) start =
      next () { start with escrow := change start.escrow } := rfl

@[simp]
theorem emit_bind (event : Event) (next : Unit → Exec oz T B)
    (start : World oz T) :
    (emit event >>= next) start =
      next () { start with log := start.log ++ [event] } := rfl

@[simp]
theorem store_eq_ok {change : Storage oz → Storage oz} {start stop : World oz T}
    {value : Unit} :
    store change start = .ok value stop ↔
      stop = { start with escrow := change start.escrow } :=
  write_eq_ok

@[simp]
theorem emit_eq_ok {event : Event} {start stop : World oz T} {value : Unit} :
    emit event start = .ok value stop ↔
      stop = { start with log := start.log ++ [event] } :=
  write_eq_ok

/-! ## The token -/

/-- Code behind `safeTransferFrom`, `safeTransfer` and `permit` when the escrow
calls them, `SafeERC20` included: a token that returns `false` reverts here. -/
structure Token (oz : OpenZeppelin) (T : Type) where
  safeTransferFrom : (source destination : Address) → Uint 256 → Exec oz T Unit
  safeTransfer : (destination : Address) → Uint 256 → Exec oz T Unit
  permit : (owner spender : Address) → (value deadline : Uint 256) →
    (v : Uint 8) → (r s : Bytes32) → Exec oz T Unit

/-- A token that keeps its own storage and calls nobody. -/
structure ERC20 where
  Storage : Type
  balanceOf : Storage → Address → Uint 256
  transfer : (sender destination : Address) → Uint 256 → Storage →
    Except Error Storage
  transferFrom : (sender source destination : Address) → Uint 256 → Storage →
    Except Error Storage
  permit : (timestamp : ℕ) → (owner spender : Address) →
    (value deadline : Uint 256) → (v : Uint 8) → (r s : Bytes32) → Storage →
    Except Error Storage

/-- Balances before and after a transfer of exactly `amount`. -/
structure Moved (before after : Address → Uint 256)
    (source destination : Address) (amount : Uint 256) : Prop where
  covered : amount ≤ before source
  balance : ∀ account,
    (after account : ℕ) + (if account = source then (amount : ℕ) else 0) =
      before account + (if account = destination then (amount : ℕ) else 0)

/-- A standard token: a transfer moves exactly the requested amount or
reverts, and a permit moves nothing. -/
structure ERC20.Standard (erc20 : ERC20) : Prop where
  transfer_ok : ∀ {sender destination amount storage after},
    erc20.transfer sender destination amount storage = .ok after →
      Moved (erc20.balanceOf storage) (erc20.balanceOf after) sender
        destination amount
  transferFrom_ok : ∀ {sender source destination amount storage after},
    erc20.transferFrom sender source destination amount storage = .ok after →
      Moved (erc20.balanceOf storage) (erc20.balanceOf after) source
        destination amount
  permit_ok : ∀ {timestamp owner spender value deadline v r s storage after},
    erc20.permit timestamp owner spender value deadline v r s storage =
        .ok after →
      erc20.balanceOf after = erc20.balanceOf storage

/-- Run a token operation on the token's part of the world. -/
def onToken (operation : T → Except Error T) : Exec oz T Unit :=
  fun world =>
    match operation world.token with
    | .ok token => .ok () { world with token := token }
    | .error failure => .error failure world

theorem onToken_eq_ok {operation : T → Except Error T} {start stop : World oz T}
    {value : Unit} :
    onToken operation start = .ok value stop ↔
      ∃ token, operation start.token = .ok token ∧
        stop = { start with token := token } := by
  rw [onToken]
  cases operation start.token <;> simp [eq_comm]

/-- The token as the escrow at address `self` calls it. -/
def ERC20.asToken (erc20 : ERC20) (oz : OpenZeppelin) (self : Address)
    (timestamp : ℕ) : Token oz erc20.Storage where
  safeTransferFrom source destination amount :=
    onToken (erc20.transferFrom self source destination amount)
  safeTransfer destination amount :=
    onToken (erc20.transfer self destination amount)
  permit owner spender value deadline v r s :=
    onToken (erc20.permit timestamp owner spender value deadline v r s)

end BuyAnAnswer.Contract
