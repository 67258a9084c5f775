import BuyAnAnswer.Contract.Books
import BuyAnAnswer.Contract.Execution
import BuyAnAnswer.Contract.PlainToken

/-!
# Solvency

Against a standard token the escrow's balance moves with its liabilities: an
ask pulls exactly the amount it records, a withdrawal pays exactly the credit it
clears, and every other call leaves the token alone.  What was sent in directly
is all that the balance exceeds the liabilities by.
-/

namespace BuyAnAnswer.Contract

open BuyAnAnswer.Transaction

variable {oz : OpenZeppelin} {erc20 : ERC20} {self : Address}

theorem onToken_meanwhile {T : Type} {operation : T → Except Error T}
    {start stop : World oz T} (hok : onToken operation start = .ok () stop) :
    Meanwhile start stop := by
  obtain ⟨token, _, rfl⟩ := onToken_eq_ok.mp hok
  exact .single (.token token)

/-- A token that calls nobody is confined. -/
theorem ERC20.asToken_confined (erc20 : ERC20) (oz : OpenZeppelin)
    (self : Address) (timestamp : ℕ) :
    (erc20.asToken oz self timestamp).Confined where
  safeTransferFrom _ hok := onToken_meanwhile hok
  safeTransfer _ hok := onToken_meanwhile hok
  permit _ hok := onToken_meanwhile hok

/-! ## Token flows -/

/-- Balances before and after `amount` moves from `source` to `destination`. -/
def Flows (erc20 : ERC20) (before after : erc20.Storage)
    (source destination : Address) (amount : ℕ) : Prop :=
  ∀ account,
    (erc20.balanceOf after account : ℕ) +
        (if account = source then amount else 0) =
      erc20.balanceOf before account +
        (if account = destination then amount else 0)

theorem Flows.nothing {before after : erc20.Storage} (source destination : Address)
    (hsame : erc20.balanceOf after = erc20.balanceOf before) :
    Flows erc20 before after source destination 0 := by
  intro account
  rw [hsame, ite_self, ite_self]

section Flow

variable {msg : Msg} {request : Call} {start stop : World oz erc20.Storage}
variable {result : Option (Uint 256)} {timestamp : ℕ}

theorem pull_flow (hstandard : erc20.Standard) {ref : Bytes32}
    {answerer : Address} {amount : Uint 128}
    (hrequest : request.asks = some (ref, answerer, amount))
    (hpull : request.pull (erc20.asToken oz self timestamp) self msg start =
      .ok () stop) :
    Flows erc20 start.token stop.token msg.sender self amount := by
  cases request <;> simp only [Call.asks, reduceCtorEq, Option.some.injEq,
    Prod.mk.injEq] at hrequest <;> obtain ⟨rfl, rfl, rfl⟩ := hrequest
  case askQuestion =>
    obtain ⟨token, htransfer, rfl⟩ := onToken_eq_ok.mp hpull
    exact (hstandard.transferFrom_ok htransfer).balance
  case askQuestionWithPermit =>
    obtain ⟨_, middle, hattempt, hpull⟩ := bind_eq_ok.mp hpull
    obtain ⟨token, htransfer, rfl⟩ := onToken_eq_ok.mp hpull
    have hsame : erc20.balanceOf middle.token = erc20.balanceOf start.token := by
      obtain hok | ⟨_, rfl⟩ := attempt_eq_ok.mp hattempt
      · obtain ⟨_, hpermit, rfl⟩ := onToken_eq_ok.mp hok
        exact hstandard.permit_ok hpermit
      · rfl
    rw [Flows, ← hsame]
    exact (hstandard.transferFrom_ok htransfer).balance

/-- Every successful call moves what it asks from the caller to the escrow and
what it pays from the escrow to the caller. -/
theorem Effect.flow (hstandard : erc20.Standard)
    (heffect : Effect (erc20.asToken oz self timestamp) self msg start
      request result stop) :
    ∃ middle, Flows erc20 start.token middle msg.sender self
        request.askedAmount ∧
      Flows erc20 middle stop.token self msg.sender
        (paidAmount start.escrow msg request) := by
  cases heffect with
  | @ask _ ref answerer amount id _ hrequest hasks =>
      obtain ⟨_, _, _, _, entered, _, next, deadline, reached, _, _, hpull,
        rfl⟩ := hasks
      obtain ⟨hasked, hpaid⟩ :=
        @amounts_of_asks oz start.escrow msg _ _ _ _ hrequest
      rw [hasked, hpaid]
      have hflow := pull_flow hstandard hrequest hpull
      exact ⟨reached.token, hflow, .nothing _ _ rfl⟩
  | settle hrequest hsettles =>
      obtain ⟨_, _, _, _, ⟨_, _, _, _, _, _, rfl⟩, rfl⟩ := hsettles
      obtain ⟨hasked, hpaid⟩ :=
        @amounts_of_settles oz start.escrow msg _ _ _ hrequest
      rw [hasked, hpaid]
      exact ⟨start.token, .nothing _ _ rfl, .nothing _ _ rfl⟩
  | withdraw hwithdraws =>
      obtain ⟨_, _, _, reached, hok, rfl⟩ := hwithdraws
      obtain ⟨token, htransfer, rfl⟩ := onToken_eq_ok.mp hok
      rw [amounts_of_withdraw.2]
      exact ⟨start.token, .nothing _ _ rfl,
        (hstandard.transfer_ok htransfer).balance⟩
  | administer hadministers =>
      obtain ⟨hasks, _, hwithdraw⟩ := hadministers.kind
      obtain ⟨hasked, hpaid⟩ :=
        @amounts_of_neither oz start.escrow msg _ hasks hwithdraw
      rw [hasked, hpaid, hadministers.token]
      exact ⟨start.token, .nothing _ _ rfl, .nothing _ _ rfl⟩

/-- The escrow's balance changes with its liabilities. -/
theorem Effect.balance (hlock : oz.lock.Documented)
    (hstandard : erc20.Standard) (hsender : msg.sender ≠ self)
    (hdense : Dense start.escrow)
    (heffect : Effect (erc20.asToken oz self timestamp) self msg start
      request result stop) :
    (erc20.balanceOf stop.token self : ℕ) + start.escrow.liabilities =
      erc20.balanceOf start.token self + stop.escrow.liabilities := by
  obtain ⟨middle, hin, hout⟩ := heffect.flow hstandard
  obtain ⟨_, _, hwrites⟩ := heffect.writes (erc20.asToken_confined oz self timestamp)
    hlock
  have hliabilities := hwrites.liabilities hdense
  have hreceived := hin self
  have hpaid := hout self
  rw [if_neg hsender.symm, if_pos rfl] at hreceived
  rw [if_pos rfl, if_neg hsender.symm] at hpaid
  omega

end Flow

/-! ## The invariant -/

/-- The balance covers the liabilities, and what it has in excess was sent in
directly. -/
structure Solvent (address : Address) (system : System oz erc20) : Prop where
  healthy : Healthy system.world.escrow
  balance : system.world.escrow.liabilities + system.sentIn =
    erc20.balanceOf system.world.token address

theorem deploy_eq_ok {args : ConstructorArgs} {token : erc20.Storage} {now : ℕ}
    {start : System oz erc20}
    (hdeploy : deploy erc20 self args token now = .ok start) :
    ∃ escrow : Storage oz, Initial args escrow ∧
      start = {
        world := { escrow, token, log := [] }
        now
        sentIn := erc20.balanceOf token self } := by
  rw [deploy] at hdeploy
  cases hescrow : construct oz args with
  | error failure =>
      rw [hescrow] at hdeploy
      cases hdeploy
  | ok escrow =>
      rw [hescrow] at hdeploy
      cases hdeploy
      exact ⟨escrow, construct_eq_ok hescrow, rfl⟩

theorem Solvent.deployed (hlock : oz.lock.Documented) {args : ConstructorArgs}
    {token : erc20.Storage} {now : ℕ} {start : System oz erc20}
    (hdeploy : deploy erc20 self args token now = .ok start) :
    Solvent self start := by
  obtain ⟨escrow, hinitial, rfl⟩ := deploy_eq_ok hdeploy
  refine ⟨hinitial.healthy hlock, ?_⟩
  rw [hinitial.liabilities, zero_add]

theorem Solvent.call (hlock : oz.lock.Documented) (hstandard : erc20.Standard)
    {system : System oz erc20} (hsolvent : Solvent self system)
    (sender : Account self) (elapsed : ℕ) (request : Call) :
    Solvent self (system.step erc20 self (.call sender elapsed request)) := by
  rw [System.step]
  cases hresult : system.call erc20 self sender.1 (system.now + elapsed)
    request with
  | error failure stop =>
      rw [finalState_error, call_eq_error hresult]
      exact ⟨hsolvent.healthy, hsolvent.balance⟩
  | ok result stop =>
      have heffect := call_eq_ok.mp hresult
      have hbalance := Effect.balance hlock hstandard sender.2.2
        hsolvent.healthy.dense heffect
      refine ⟨heffect.healthy (erc20.asToken_confined oz self _) hlock
        hsolvent.healthy, ?_⟩
      have hbefore := hsolvent.balance
      simp only [finalState_ok]
      omega

theorem Solvent.receive {system : System oz erc20}
    (hsolvent : Solvent self system) {source : Address} (hsource : source ≠ self)
    {amount : Uint 256} {transferred : Except Error erc20.Storage}
    (hmoved : ∀ {token}, transferred = .ok token →
      Moved (erc20.balanceOf system.world.token) (erc20.balanceOf token) source
        self amount) :
    Solvent self (system.receive erc20 amount transferred) := by
  cases transferred with
  | error failure => exact hsolvent
  | ok token =>
      refine ⟨hsolvent.healthy, ?_⟩
      have hbalance := (hmoved rfl).balance self
      rw [if_neg hsource.symm, if_pos rfl] at hbalance
      have hbefore := hsolvent.balance
      simp only [System.receive]
      omega

theorem Solvent.step (hlock : oz.lock.Documented) (hstandard : erc20.Standard)
    {system : System oz erc20} (hsolvent : Solvent self system)
    (action : Action erc20 self) :
    Solvent self (system.step erc20 self action) := by
  cases action with
  | call sender elapsed request =>
      exact hsolvent.call hlock hstandard sender elapsed request
  | send sender amount =>
      exact hsolvent.receive sender.2.2 hstandard.transfer_ok
  | sendFrom spender source amount =>
      exact hsolvent.receive source.2.2 hstandard.transferFrom_ok
  | elsewhere token =>
      rw [System.step]
      by_cases hbalance : erc20.balanceOf token self =
        erc20.balanceOf system.world.token self
      · rw [if_pos hbalance]
        exact ⟨hsolvent.healthy, by rw [hsolvent.balance, hbalance]⟩
      · rw [if_neg hbalance]
        exact hsolvent

theorem Reachable.solvent (hlock : oz.lock.Documented)
    (hstandard : erc20.Standard) {system : System oz erc20}
    (hreachable : Reachable erc20 self system) : Solvent self system := by
  obtain ⟨args, token, now, start, actions, hdeploy, rfl⟩ := hreachable
  exact Machine.run_invariant (Solvent.deployed hlock hdeploy)
    fun _ action _ hsolvent => hsolvent.step hlock hstandard action

/-- In every reachable state, what is owed and what was sent in directly make
up the balance of the escrow. -/
theorem solvency (hlock : oz.lock.Documented) (hstandard : erc20.Standard)
    {system : System oz erc20} (hreachable : Reachable erc20 self system) :
    system.world.escrow.openTotal + system.world.escrow.creditTotal +
        system.sentIn =
      erc20.balanceOf system.world.token self :=
  (hreachable.solvent hlock hstandard).balance

theorem solvency_asked :
    Sample.asked.world.escrow.openTotal +
        Sample.asked.world.escrow.creditTotal + Sample.asked.sentIn =
      (ERC20.plain.balanceOf Sample.asked.world.token Sample.escrow : ℕ) :=
  solvency OpenZeppelin.plain_documented.lock ERC20.plain_standard
    Sample.asked_reachable

end BuyAnAnswer.Contract
