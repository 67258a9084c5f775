import BuyAnAnswer.Contract.PlainToken

/-!
# Asking with a permit

An ask with a permit offers the permit to the token and then asks plainly: a
permit that the token accepts is granted first, and one that it rejects is
ignored.  Whoever submits an acceptable permit first, the ask finds the same
allowance.
-/

namespace BuyAnAnswer.Contract

open BuyAnAnswer.Transaction

/-- The signed part of an ask with a permit. -/
structure Permit where
  value : Uint 256
  deadline : Uint 256
  v : Uint 8
  r : Bytes32
  s : Bytes32

def Permit.ask (permit : Permit) (ref : Bytes32) (answerer : Address)
    (amount : Uint 128) : Call :=
  .askQuestionWithPermit ref answerer amount permit.value permit.deadline
    permit.v permit.r permit.s

namespace ERC20

/-- Submit a permit to the token. -/
def submit (erc20 : ERC20) (timestamp : ℕ) (owner spender : Address)
    (permit : Permit) (storage : erc20.Storage) : Except Error erc20.Storage :=
  erc20.permit timestamp owner spender permit.value permit.deadline permit.v
    permit.r permit.s storage

/-- The token after a permit is submitted, whether it is accepted or not. -/
def offer (erc20 : ERC20) (timestamp : ℕ) (owner spender : Address)
    (permit : Permit) (storage : erc20.Storage) : erc20.Storage :=
  match erc20.submit timestamp owner spender permit storage with
  | .ok after => after
  | .error _ => storage

/-- What a token with permits keeps besides balances, and its signature check
on the message for one nonce of the owner. -/
structure Approvals (erc20 : ERC20) where
  allowance : erc20.Storage → (owner spender : Address) → Uint 256
  nonces : erc20.Storage → Address → Uint 256
  signed : (owner spender : Address) → (nonce : Uint 256) → Permit → Prop

/-- A standard token with permits: an allowance that covers the amount can be
spent, and a signature for the current nonce sets it until its deadline. -/
structure Approvals.Documented {erc20 : ERC20} (approvals : erc20.Approvals) :
    Prop where
  transferFrom_returns : ∀ {sender source destination amount storage},
    (∃ after, erc20.transferFrom sender source destination amount storage =
        .ok after) ↔
      (sender ≠ 0 ∧ source ≠ 0 ∧ destination ≠ 0) ∧
        amount ≤ approvals.allowance storage source sender ∧
        amount ≤ erc20.balanceOf storage source
  permit_returns : ∀ {timestamp owner spender permit storage},
    (∃ after, erc20.submit timestamp owner spender permit storage = .ok after) ↔
      (owner ≠ 0 ∧ spender ≠ 0) ∧ timestamp ≤ permit.deadline ∧
        approvals.signed owner spender (approvals.nonces storage owner) permit
  permit_ok : ∀ {timestamp owner spender permit storage after},
    erc20.submit timestamp owner spender permit storage = .ok after →
      approvals.allowance after owner spender = permit.value ∧
        approvals.nonces after owner = approvals.nonces storage owner + 1 ∧
        erc20.balanceOf after = erc20.balanceOf storage

/-- Nothing touched what `owner` has, has allowed `spender` and has signed. -/
structure Approvals.Untouched {erc20 : ERC20} (approvals : erc20.Approvals)
    (owner spender : Address) (before after : erc20.Storage) : Prop where
  nonce : approvals.nonces after owner = approvals.nonces before owner
  allowance :
    approvals.allowance after owner spender = approvals.allowance before owner spender
  balance : erc20.balanceOf after owner = erc20.balanceOf before owner

end ERC20

section Refinement

variable {oz : OpenZeppelin} {erc20 : ERC20} {self : Address} {msg : Msg}
variable {ref : Bytes32} {answerer : Address} {amount : Uint 128} {permit : Permit}
variable {start stop : World oz erc20.Storage} {result : Option (Uint 256)}

/-- The world once the permit was offered. -/
def World.offered (erc20 : ERC20) (self : Address) (msg : Msg) (permit : Permit)
    (start : World oz erc20.Storage) : World oz erc20.Storage :=
  { start with token := erc20.offer msg.timestamp msg.sender self permit start.token }

/-- Trying the permit is offering it. -/
theorem attempt_permit :
    attempt ((erc20.asToken oz self msg.timestamp).permit msg.sender self
      permit.value permit.deadline permit.v permit.r permit.s) start =
      .ok () (start.offered erc20 self msg permit) := by
  rw [attempt, ERC20.asToken, World.offered, ERC20.offer, ERC20.submit]
  dsimp only [onToken]
  cases erc20.permit msg.timestamp msg.sender self permit.value permit.deadline
    permit.v permit.r permit.s start.token <;> rfl

theorem permitThenPull_eq :
    permitThenPull (erc20.asToken oz self msg.timestamp) self msg amount
        permit.value permit.deadline permit.v permit.r permit.s start =
      (erc20.asToken oz self msg.timestamp).safeTransferFrom msg.sender self
        (widen uint128_le_uint256 amount) (start.offered erc20 self msg permit) := by
  calc permitThenPull (erc20.asToken oz self msg.timestamp) self msg amount
        permit.value permit.deadline permit.v permit.r permit.s start
      = ((pure () : Exec oz erc20.Storage Unit) >>= fun _ =>
          (erc20.asToken oz self msg.timestamp).safeTransferFrom msg.sender self
            (widen uint128_le_uint256 amount)) (start.offered erc20 self msg permit) := by
        simp only [permitThenPull, bind, EStateM.bind, attempt_permit]
        rfl
    _ = _ := by rw [pure_bind]

/-- An ask with a permit returns exactly when the plain ask returns after the
permit was offered, with the same id and in the same world. -/
theorem askWithPermit_eq_ok :
    call (erc20.asToken oz self msg.timestamp) self msg
        (permit.ask ref answerer amount) start = .ok result stop ↔
      call (erc20.asToken oz self msg.timestamp) self msg
        (.askQuestion ref answerer amount) (start.offered erc20 self msg permit) =
          .ok result stop := by
  simp only [call, frame_eq_ok, dispatch, Permit.ask, map_eq_ok,
    askQuestion_eq_ok, askQuestionWithPermit_eq_ok, Asks, permitThenPull_eq]
  rfl

/-! ## The escrow's part and the token's part -/

/-- A world without its token. -/
def World.bare (world : World oz erc20.Storage) : World oz Unit :=
  { escrow := world.escrow, token := (), log := world.log }

theorem World.eq_of_bare {left right : World oz erc20.Storage}
    (hbare : left.bare = right.bare) (htoken : left.token = right.token) :
    left = right := by
  cases left
  cases right
  simp_all [World.bare]

/-- An ask whose pull only runs the token is the ask without a pull, and the
token's own step. -/
theorem asks_onToken {operation : erc20.Storage → Except Error erc20.Storage}
    {id : Uint 256} :
    Asks (onToken operation) msg ref answerer amount start stop id ↔
      Asks (pure ()) msg ref answerer amount start.bare stop.bare id ∧
        operation start.token = .ok stop.token := by
  simp only [Asks, onToken_eq_ok, pure_eq_ok]
  constructor
  · rintro ⟨hrunning, hanswerer, hamount, hid, entered, henter, next, deadline,
      _, hnext, hdeadline, ⟨token, htoken, rfl⟩, rfl⟩
    exact ⟨⟨hrunning, hanswerer, hamount, hid, entered, henter, next, deadline,
      _, hnext, hdeadline, ⟨trivial, rfl⟩, rfl⟩, htoken⟩
  · rintro ⟨⟨hrunning, hanswerer, hamount, hid, entered, henter, next, deadline,
      _, hnext, hdeadline, ⟨-, rfl⟩, hstop⟩, htoken⟩
    exact ⟨hrunning, hanswerer, hamount, hid, entered, henter, next, deadline,
      _, hnext, hdeadline, ⟨stop.token, htoken, rfl⟩, World.eq_of_bare hstop rfl⟩

/-- The pull of an ask moves the amount from the caller to the escrow. -/
def pulls (erc20 : ERC20) (self : Address) (msg : Msg) (amount : Uint 128) :
    erc20.Storage → Except Error erc20.Storage :=
  erc20.transferFrom self msg.sender self (widen uint128_le_uint256 amount)

theorem askWithPermit_parts {id : Uint 256} :
    call (erc20.asToken oz self msg.timestamp) self msg
        (permit.ask ref answerer amount) start = .ok (some id) stop ↔
      Asks (pure ()) msg ref answerer amount start.bare stop.bare id ∧
        pulls erc20 self msg amount
          (start.offered erc20 self msg permit).token = .ok stop.token := by
  rw [askWithPermit_eq_ok, call, frame_eq_ok, dispatch, map_eq_ok]
  simp only [Option.some.injEq, exists_eq_right', askQuestion_eq_ok]
  exact asks_onToken

/-- The ask returns `id`, having pulled the amount, and leaves the escrow with
this storage and these events. -/
def Opens (erc20 : ERC20) (self : Address) (msg : Msg) (ref : Bytes32)
    (answerer : Address) (amount : Uint 128) (permit : Permit)
    (start : World oz erc20.Storage) (id : Uint 256) (escrow : Storage oz)
    (log : List Event) : Prop :=
  ∃ token, pulls erc20 self msg amount (start.offered erc20 self msg permit).token =
      .ok token ∧
    call (erc20.asToken oz self msg.timestamp) self msg
      (permit.ask ref answerer amount) start = .ok (some id) { escrow, token, log }

theorem opens_iff {id : Uint 256} {escrow : Storage oz} {log : List Event} :
    Opens erc20 self msg ref answerer amount permit start id escrow log ↔
      Asks (pure ()) msg ref answerer amount start.bare
          { escrow, token := (), log } id ∧
        ∃ token, pulls erc20 self msg amount
          (start.offered erc20 self msg permit).token = .ok token := by
  simp only [Opens, askWithPermit_parts]
  constructor
  · rintro ⟨token, hpull, hasks, -⟩
    exact ⟨hasks, token, hpull⟩
  · rintro ⟨hasks, token, hpull⟩
    exact ⟨token, hpull, hasks, hpull⟩

end Refinement

section FrontRun

variable {erc20 : ERC20} {approvals : erc20.Approvals}
variable {owner spender : Address} {permit : Permit}
variable {before after : erc20.Storage} {timestamp later : ℕ}

/-- What an offered permit leaves if the token accepts it. -/
theorem offer_accepted (hdocumented : approvals.Documented)
    (haccepts : ∃ reached,
      erc20.submit timestamp owner spender permit before = .ok reached) :
    approvals.allowance (erc20.offer timestamp owner spender permit before)
        owner spender = permit.value ∧
      erc20.balanceOf (erc20.offer timestamp owner spender permit before) owner =
        erc20.balanceOf before owner := by
  obtain ⟨reached, hreached⟩ := haccepts
  obtain ⟨hallowance, -, hbalance⟩ := hdocumented.permit_ok hreached
  simp [ERC20.offer, hreached, hallowance, hbalance]

/-- Where the allowance is already the value of the permit, offering it changes
neither the allowance nor the balance, accepted or not. -/
theorem offer_again (hdocumented : approvals.Documented)
    (hallowance : approvals.allowance before owner spender = permit.value) :
    approvals.allowance (erc20.offer timestamp owner spender permit before)
        owner spender = permit.value ∧
      erc20.balanceOf (erc20.offer timestamp owner spender permit before) owner =
        erc20.balanceOf before owner := by
  cases hresult : erc20.submit timestamp owner spender permit before with
  | ok reached => exact offer_accepted hdocumented ⟨reached, hresult⟩
  | error failure => simp [ERC20.offer, hresult, hallowance]

/-- A permit accepted later is accepted earlier, at the same nonce. -/
theorem submit_earlier (hdocumented : approvals.Documented)
    (hnonce : approvals.nonces after owner = approvals.nonces before owner)
    (htime : timestamp ≤ later)
    (haccepts : ∃ reached,
      erc20.submit later owner spender permit after = .ok reached) :
    ∃ reached, erc20.submit timestamp owner spender permit before = .ok reached := by
  obtain ⟨hnonzero, hdeadline, hsigned⟩ := hdocumented.permit_returns.mp haccepts
  rw [hnonce] at hsigned
  exact hdocumented.permit_returns.mpr ⟨hnonzero, htime.trans hdeadline, hsigned⟩

/-- Submitted by anybody first or not, the permit leaves the ask with the same
allowance and balance, so the pull returns in both cases or in neither. -/
theorem pulls_iff_of_frontRun {oz : OpenZeppelin} {self : Address} {msg : Msg}
    {amount : Uint 128} {direct frontRun : World oz erc20.Storage}
    (hdocumented : approvals.Documented) (htime : timestamp ≤ msg.timestamp)
    (hdirect : approvals.Untouched msg.sender self before direct.token)
    (hfrontRun : approvals.Untouched msg.sender self
      (erc20.offer timestamp msg.sender self permit before) frontRun.token)
    (haccepts : ∃ reached, erc20.submit msg.timestamp msg.sender self permit
      direct.token = .ok reached) :
    (∃ token, pulls erc20 self msg amount
        (direct.offered erc20 self msg permit).token = .ok token) ↔
      ∃ token, pulls erc20 self msg amount
        (frontRun.offered erc20 self msg permit).token = .ok token := by
  have hfirst := offer_accepted hdocumented
    (submit_earlier hdocumented hdirect.nonce htime haccepts)
  have hthere := offer_accepted hdocumented haccepts
  have hagain := @offer_again _ _ _ _ permit _ msg.timestamp hdocumented
    (hfrontRun.allowance.trans hfirst.1)
  have hbalance :
      erc20.balanceOf (direct.offered erc20 self msg permit).token msg.sender =
        erc20.balanceOf (frontRun.offered erc20 self msg permit).token msg.sender := by
    calc erc20.balanceOf (direct.offered erc20 self msg permit).token msg.sender
        = erc20.balanceOf before msg.sender := hthere.2.trans hdirect.balance
      _ = erc20.balanceOf (frontRun.offered erc20 self msg permit).token msg.sender := by
          rw [World.offered, hagain.2, hfrontRun.balance, hfirst.2]
  have hallowance :
      approvals.allowance (direct.offered erc20 self msg permit).token msg.sender self =
        approvals.allowance (frontRun.offered erc20 self msg permit).token
          msg.sender self := by
    rw [World.offered, World.offered, hthere.1, hagain.1]
  rw [pulls, hdocumented.transferFrom_returns, hdocumented.transferFrom_returns,
    hallowance, hbalance]

end FrontRun

/-- An ask with a permit refines offering the permit and asking plainly: it
returns when that does, with the same id in the same world, and changes nothing
otherwise.  Submitting an acceptable permit first makes no difference. -/
theorem askWithPermit_refines_ask (oz : OpenZeppelin) (erc20 : ERC20)
    (self : Address) (msg : Msg) (ref : Bytes32) (answerer : Address)
    (amount : Uint 128) (permit : Permit) :
    (∀ (start stop : World oz erc20.Storage) result,
      call (erc20.asToken oz self msg.timestamp) self msg
          (permit.ask ref answerer amount) start = .ok result stop ↔
        call (erc20.asToken oz self msg.timestamp) self msg
          (.askQuestion ref answerer amount)
          { start with token :=
              erc20.offer msg.timestamp msg.sender self permit start.token } =
            .ok result stop) ∧
    (∀ (start stop : World oz erc20.Storage) failure,
      call (erc20.asToken oz self msg.timestamp) self msg
          (permit.ask ref answerer amount) start = .error failure stop →
        stop = start) ∧
    ∀ (approvals : erc20.Approvals) (timestamp : ℕ) (before : erc20.Storage)
      (direct frontRun : World oz erc20.Storage),
      approvals.Documented → timestamp ≤ msg.timestamp →
      frontRun.escrow = direct.escrow → frontRun.log = direct.log →
      approvals.Untouched msg.sender self before direct.token →
      approvals.Untouched msg.sender self
        (erc20.offer timestamp msg.sender self permit before) frontRun.token →
      (∃ after, erc20.submit msg.timestamp msg.sender self permit direct.token =
        .ok after) →
      ∀ id escrow log,
        Opens erc20 self msg ref answerer amount permit direct id escrow log ↔
          Opens erc20 self msg ref answerer amount permit frontRun id escrow log := by
  refine ⟨fun start stop result => askWithPermit_eq_ok,
    fun start stop failure => call_eq_error, ?_⟩
  intro approvals timestamp before direct frontRun hdocumented htime hescrow hlog
    hdirect hfrontRun haccepts id escrow log
  have hbare : frontRun.bare = direct.bare := by
    rw [World.bare, World.bare, hescrow, hlog]
  rw [opens_iff, opens_iff, hbare,
    pulls_iff_of_frontRun hdocumented htime hdirect hfrontRun haccepts]

/-! ## A token with permits -/

/-- Balances, allowances and nonces. -/
structure PermitToken where
  balance : Address → Uint 256
  allowance : Address → Address → Uint 256
  nonces : Address → Uint 256

namespace PermitToken

def move (source destination : Address) (amount : Uint 256)
    (storage : PermitToken) : PermitToken :=
  let debited :=
    Function.update storage.balance source (storage.balance source - amount)
  { storage with
    balance := Function.update debited destination (debited destination + amount) }

def approve (owner spender : Address) (amount : Uint 256) (storage : PermitToken) :
    PermitToken :=
  let granted := Function.update (storage.allowance owner) spender amount
  { storage with allowance := Function.update storage.allowance owner granted }

/-- The sample's signatures carry their owner and nonce in the open. -/
def signed (owner _spender : Address) (nonce : Uint 256) (permit : Permit) : Prop :=
  permit.v = 27 ∧ (permit.r : ℕ) = owner ∧ permit.s = nonce

instance (owner spender : Address) (nonce : Uint 256) (permit : Permit) :
    Decidable (signed owner spender nonce permit) :=
  inferInstanceAs (Decidable (_ ∧ _ ∧ _))

end PermitToken

def ERC20.permitting : ERC20 where
  Storage := PermitToken
  balanceOf storage account := storage.balance account
  transfer sender destination amount storage :=
    if (sender ≠ 0 ∧ destination ≠ 0) ∧ amount ≤ storage.balance sender then
      .ok (storage.move sender destination amount)
    else .error .tokenFailure
  transferFrom sender source destination amount storage :=
    if (sender ≠ 0 ∧ source ≠ 0 ∧ destination ≠ 0) ∧
        amount ≤ storage.allowance source sender ∧
        amount ≤ storage.balance source then
      .ok ((storage.approve source sender
        (storage.allowance source sender - amount)).move source destination amount)
    else .error .tokenFailure
  permit timestamp owner spender value deadline v r s storage :=
    if (owner ≠ 0 ∧ spender ≠ 0) ∧ timestamp ≤ deadline ∧
        PermitToken.signed owner spender (storage.nonces owner)
          { value, deadline, v, r, s } then
      .ok { storage.approve owner spender value with
        nonces := Function.update storage.nonces owner (storage.nonces owner + 1) }
    else .error .tokenFailure

def ERC20.permittingApprovals : ERC20.permitting.Approvals where
  allowance := PermitToken.allowance
  nonces := PermitToken.nonces
  signed := PermitToken.signed

theorem ERC20.permitting_documented : ERC20.permittingApprovals.Documented where
  transferFrom_returns := by
    intro sender source destination amount storage
    simp only [ERC20.permitting]
    split <;> simp_all [ERC20.permittingApprovals]
  permit_returns := by
    intro timestamp owner spender permit storage
    simp only [ERC20.submit, ERC20.permitting]
    split <;> simp_all [ERC20.permittingApprovals]
  permit_ok := by
    intro timestamp owner spender permit storage after hok
    simp only [ERC20.submit, ERC20.permitting] at hok
    split at hok
    · cases hok
      simp [ERC20.permittingApprovals, ERC20.permitting, PermitToken.approve]
    · cases hok

namespace Sample

/-- The asker holds 1000 units and has approved nothing. -/
def unapproved : ERC20.permitting.Storage :=
  { balance := Function.update (fun _ => 0) asker.1 1000
    allowance := fun _ _ => 0
    nonces := fun _ => 0 }

/-- The asker's permit for 500 units, at nonce 0. -/
def permit : Permit := { value := 500, deadline := 30, v := 27, r := 3, s := 0 }

/-- The deployed escrow over a token. -/
def unasked (token : ERC20.permitting.Storage) :
    World .plain ERC20.permitting.Storage :=
  { escrow := storage, token, log := [] }

/-- The asker's call. -/
def asking : Msg := { sender := asker.1, timestamp := 20 }

/-- The token once somebody else submitted the permit. -/
def submitted : ERC20.permitting.Storage :=
  ERC20.permitting.offer 10 asker.1 escrow permit unapproved

end Sample

/-- A question asked with a permit that somebody else submitted first. -/
theorem askWithPermit_refines_ask_sample : ∃ escrow log,
    Opens .permitting Sample.escrow Sample.asking 7 Sample.answerer.1 500
      Sample.permit (Sample.unasked Sample.submitted) 1 escrow log :=
  ⟨_, _, ((askWithPermit_refines_ask .plain .permitting Sample.escrow Sample.asking 7
      Sample.answerer.1 500 Sample.permit).2.2 ERC20.permittingApprovals 10
    Sample.unapproved (Sample.unasked Sample.unapproved)
    (Sample.unasked Sample.submitted) ERC20.permitting_documented (by decide) rfl rfl
    ⟨rfl, rfl, rfl⟩ ⟨rfl, rfl, rfl⟩ ⟨_, rfl⟩ 1 _ _).mp ⟨_, rfl, rfl⟩⟩

end BuyAnAnswer.Contract
