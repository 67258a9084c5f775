import BuyAnAnswer.Contract.Solvency

/-!
# When settlements succeed

A settlement needs an open question, an unpaused contract and an authorised
caller, and nothing else: the fee never exceeds the amount because the rates are
capped, and no credit overflows because the liabilities are backed by a balance
that fits in a `uint256`.
-/

namespace BuyAnAnswer.Contract

open BuyAnAnswer.Transaction

variable {oz : OpenZeppelin} {T : Type}

/-! ## Fees -/

/-- At a rate of at most one in `parts`, so is the fee. -/
theorem feeShare_mul_le (amount : Uint 128) {bps : Uint 16} {parts : ℕ}
    (hcap : (bps : ℕ) * parts ≤ 10000) : feeShare amount bps * parts ≤ amount := by
  have hscaled : feeShare amount bps * parts * 10000 ≤ amount * 10000 :=
    calc feeShare amount bps * parts * 10000
        = amount * bps / 10000 * 10000 * parts := by rw [feeShare]; ring
      _ ≤ amount * bps * parts :=
          Nat.mul_le_mul_right _ (Nat.div_mul_le_self _ _)
      _ = amount * (bps * parts) := Nat.mul_assoc _ _ _
      _ ≤ amount * 10000 := Nat.mul_le_mul_left _ hcap
  exact Nat.le_of_mul_le_mul_right hscaled (by norm_num)

/-- The caps on the fee of each settlement. -/
structure FeeCapped (amount fee : ℕ) (terminal : Status) : Prop where
  overall : fee * 10 ≤ amount
  cancelled : terminal = .cancelled → fee * 20 ≤ amount
  refunded : terminal = .declined ∨ terminal = .reclaimed → fee = 0

theorem Capped.settleFee {escrow : Storage oz} (hcapped : Capped escrow)
    (id : Uint 256) (terminal : Status) :
    FeeCapped (escrow.questions id).amount (settleFee escrow id terminal)
      terminal := by
  have hanswer := hcapped.answerFeeBps
  have hcancel := hcapped.cancelFeeBps
  have hzero : ∀ amount : Uint 128, feeShare amount 0 = 0 := by
    intro amount
    simp [feeShare]
  rw [Contract.settleFee]
  cases terminal with
  | answered =>
      refine ⟨feeShare_mul_le _ ?_, by simp, by simp⟩
      rw [feeRate]
      omega
  | cancelled =>
      have hshare := feeShare_mul_le (escrow.questions id).amount
        (show (feeRate escrow .cancelled : ℕ) * 20 ≤ 10000 by
          rw [feeRate]
          omega)
      refine ⟨?_, fun _ => hshare, by simp⟩
      omega
  | none | «open» | declined | reclaimed =>
      simp only [feeRate]
      rw [hzero]
      exact ⟨by omega, by omega, fun _ => rfl⟩

/-! ## Room for the credits -/

/-- A healthy storage whose liabilities fit in a `uint256`. -/
structure Sound (escrow : Storage oz) : Prop where
  healthy : Healthy escrow
  bounded : escrow.liabilities < 2 ^ 256

theorem Sound.room {escrow : Storage oz} (hsound : Sound escrow) {id : Uint 256}
    (hopen : (escrow.questions id).status = .open) (account : Address) :
    (escrow.withdrawable account : ℕ) + (escrow.questions id).amount <
      2 ^ 256 := by
  have hamount := Ledger.weight_le_total openAmount escrow.questions id
  have hcredit := Ledger.weight_le_total Fin.val escrow.withdrawable account
  have hbounded := hsound.bounded
  rw [openAmount, if_pos hopen] at hamount
  rw [Storage.liabilities, Storage.openTotal, Storage.creditTotal] at hbounded
  omega

/-- Credits that fit can be made. -/
theorem Credited.exists_of_room {before : Address → Uint 256}
    {share fee : ℕ} (recipient feeAddress : Address)
    (hroom : ∀ account, (before account : ℕ) + (share + fee) < 2 ^ 256) :
    ∃ after, Credited before after recipient share feeAddress fee := by
  have hfits : ∀ account, (before account : ℕ) +
      (if account = recipient then share else 0) +
      (if account = feeAddress then fee else 0) < 2 ^ 256 := by
    intro account
    have haccount := hroom account
    split <;> split <;> omega
  exact ⟨fun account => ⟨_, hfits account⟩, fun _ => rfl⟩

theorem Sound.exists_settleWrites {msg : Msg} {start : World oz T}
    (hsound : Sound start.escrow) {id : Uint 256} {terminal : Status}
    (hopen : (start.escrow.questions id).status = .open)
    (hauthorised : Authorised msg (start.escrow.questions id) terminal) :
    ∃ stop, SettleWrites msg id terminal start stop := by
  have hfee := (hsound.healthy.capped.settleFee id terminal).overall
  obtain ⟨payout, hpayout⟩ : ∃ payout, payout +
      settleFee start.escrow id terminal = (start.escrow.questions id).amount :=
    ⟨_, Nat.sub_add_cancel (by omega)⟩
  obtain ⟨after, hafter⟩ := @Credited.exists_of_room
    start.escrow.withdrawable payout (settleFee start.escrow id terminal)
    (recipientOf (start.escrow.questions id) terminal) start.escrow.feeAddress
    (by
      intro account
      rw [hpayout]
      exact hsound.room hopen account)
  exact ⟨_, hopen, hauthorised, payout, after, hpayout, hafter, rfl⟩

section Settle

variable {token : Token oz T} {self : Address} {msg : Msg} {request : Call}
variable {start : World oz T} {id : Uint 256} {terminal : Status}

theorem Sound.exists_settles (hlock : oz.lock.Documented)
    (hsound : Sound start.escrow)
    (hrunning : oz.pausable.paused start.escrow.pausable = false)
    (hopen : (start.escrow.questions id).status = .open)
    (hauthorised : Authorised msg (start.escrow.questions id) terminal) :
    ∃ stop, Settles msg id terminal start stop := by
  obtain ⟨entered, henter, _⟩ := hlock.enter_free hsound.healthy.lock_free
  obtain ⟨reached, hwrites⟩ := hsound.exists_settleWrites hopen hauthorised
  exact ⟨_, hrunning, entered, henter, reached, hwrites, rfl⟩

/-- A settlement returns exactly when the contract is running, the question is
open and the caller is authorised. -/
theorem Sound.settle_returns_iff (hlock : oz.lock.Documented)
    (hsound : Sound start.escrow)
    (hrequest : request.settles = some (id, terminal)) :
    succeeded (call token self msg request start) = true ↔
      oz.pausable.paused start.escrow.pausable = false ∧
        (start.escrow.questions id).status = .open ∧
        Authorised msg (start.escrow.questions id) terminal := by
  rw [succeeded_iff]
  constructor
  · intro ⟨result, stop, hcall⟩
    obtain ⟨hrunning, _, _, _, ⟨hopen, hauthorised, _⟩, _⟩ :=
      (call_eq_ok.mp hcall).settles hrequest
    exact ⟨hrunning, hopen, hauthorised⟩
  · intro ⟨hrunning, hopen, hauthorised⟩
    obtain ⟨stop, hsettles⟩ :=
      hsound.exists_settles hlock hrunning hopen hauthorised
    exact ⟨none, stop, call_eq_ok.mpr (.settle hrequest hsettles)⟩

/-! ## No arithmetic failure -/

/-- How far a settlement body got: it failed a check, or passed them all. -/
def Checked (id : Uint 256) (authorise : Question → Exec oz T Unit)
    (start : World oz T) (failure : Error) : Prop :=
  failure = .notOpen ∨
    (∃ stop, authorise (start.escrow.questions id) start =
      .error failure stop) ∨
    (start.escrow.questions id).status = .open ∧
      ∃ stop, authorise (start.escrow.questions id) start = .ok () stop

theorem settleWithFee_checked {authorise : Question → Exec oz T Unit}
    {feeBps : Storage oz → Uint 16} {recipient : Question → Address}
    {event : Bytes32 → Question → Event} {failure : Error} {stop : World oz T}
    (herror : settleWithFee id authorise feeBps terminal recipient event start =
      .error failure stop) : Checked id authorise start failure := by
  rw [settleWithFee, load_bind, require_bind_eq_error] at herror
  obtain ⟨_, hnotOpen, _⟩ | ⟨hopen, herror⟩ := herror
  · exact .inl hnotOpen
  · obtain hfails | ⟨_, middle, hok, _⟩ := bind_eq_error.mp herror
    · exact .inr (.inl ⟨stop, hfails⟩)
    · exact .inr (.inr ⟨hopen, middle, hok⟩)

theorem settleInFull_checked {authorise : Question → Exec oz T Unit}
    {event : Bytes32 → Event} {failure : Error} {stop : World oz T}
    (herror : settleInFull id authorise terminal event start =
      .error failure stop) : Checked id authorise start failure := by
  rw [settleInFull, load_bind, require_bind_eq_error] at herror
  obtain ⟨_, hnotOpen, _⟩ | ⟨hopen, herror⟩ := herror
  · exact .inl hnotOpen
  · obtain hfails | ⟨_, middle, hok, _⟩ := bind_eq_error.mp herror
    · exact .inr (.inl ⟨stop, hfails⟩)
    · exact .inr (.inr ⟨hopen, middle, hok⟩)

/-- Past its checks a settlement of a sound storage returns, so that it reverts
only at one of them. -/
theorem Sound.checks_no_panic (terminal : Status) (hlock : oz.lock.Documented)
    (hsound : Sound start.escrow)
    {authorise : Question → Exec oz T Unit} {body : Exec oz T Unit}
    {failure : Error} {stop : World oz T}
    (herror : whenNotPaused (nonReentrant body) start = .error failure stop)
    (hchecked : ∀ {start failure stop}, body start = .error failure stop →
      Checked id authorise start failure)
    (hauthorise : ∀ question start stop,
      authorise question start = .ok () stop →
        Authorised msg question terminal)
    (hharmless : ∀ question start stop,
      authorise question start ≠ .error .arithmeticPanic stop)
    (hreturns : ∀ stop, Settles msg id terminal start stop →
      whenNotPaused (nonReentrant body) start = .ok () stop) :
    failure ≠ .arithmeticPanic := by
  obtain ⟨_, rfl, _⟩ | ⟨hrunning, hsteps⟩ := whenNotPaused_eq_error.mp herror
  · simp
  obtain ⟨hfails, _⟩ | ⟨entered, _, hsteps⟩ := nonReentrant_eq_error.mp hsteps
  · obtain ⟨_, henter, _⟩ := hlock.enter_free hsound.healthy.lock_free
    rw [henter] at hfails
    cases hfails
  obtain rfl | ⟨_, hfails⟩ | ⟨hopen, _, hok⟩ := hchecked hsteps
  · simp
  · intro hpanic
    rw [hpanic] at hfails
    exact hharmless _ _ _ hfails
  · obtain ⟨_, hsettles⟩ :=
      hsound.exists_settles hlock hrunning hopen (hauthorise _ _ _ hok)
    rw [hreturns _ hsettles] at herror
    cases herror

theorem require_harmless {condition : Prop} [Decidable condition]
    {failure : Error} (hfailure : failure ≠ .arithmeticPanic)
    (start stop : World oz T) :
    (require condition failure : Exec oz T Unit) start ≠
      .error .arithmeticPanic stop := by
  rw [ne_eq, require_eq_error]
  intro ⟨_, hpanic, _⟩
  exact hfailure hpanic.symm

/-- No checked arithmetic in a settlement can fail, whoever calls it about
whichever question. -/
theorem Sound.settle_no_panic (hlock : oz.lock.Documented)
    (hsound : Sound start.escrow) {failure : Error} {stop : World oz T}
    (hrequest : request.settles = some (id, terminal))
    (herror : call token self msg request start = .error failure stop) :
    failure ≠ .arithmeticPanic := by
  obtain ⟨⟨reached, herror⟩, _⟩ := frame_eq_error.mp herror
  cases request <;> simp only [Call.settles, reduceCtorEq, Option.some.injEq,
    Prod.mk.injEq] at hrequest <;> obtain ⟨rfl, rfl⟩ := hrequest <;>
    rw [dispatch, map_eq_error] at herror
  case answerQuestion =>
    rw [answerQuestion] at herror
    apply hsound.checks_no_panic .answered hlock herror settleWithFee_checked
    · intro question start stop hok
      exact (require_eq_ok.mp hok).1
    · intro question
      exact require_harmless (by simp)
    · intro stop hsettles
      exact answerQuestion_eq_ok.mpr hsettles
  case declineQuestion =>
    rw [declineQuestion] at herror
    apply hsound.checks_no_panic .declined hlock herror settleInFull_checked
    · intro question start stop hok
      exact (require_eq_ok.mp hok).1
    · intro question
      exact require_harmless (by simp)
    · intro stop hsettles
      exact declineQuestion_eq_ok.mpr hsettles
  case cancelQuestion =>
    rw [cancelQuestion] at herror
    apply hsound.checks_no_panic .cancelled hlock herror settleWithFee_checked
    · intro question start stop hok
      rw [require_bind_eq_ok, require_eq_ok] at hok
      exact ⟨hok.1, hok.2.1⟩
    · intro question start stop hfails
      rw [require_bind_eq_error, require_eq_error] at hfails
      simp at hfails
    · intro stop hsettles
      exact cancelQuestion_eq_ok.mpr hsettles
  case reclaimQuestion =>
    rw [reclaimQuestion] at herror
    apply hsound.checks_no_panic .reclaimed hlock herror settleInFull_checked
    · intro question start stop hok
      exact (require_eq_ok.mp hok).1
    · intro question
      exact require_harmless (by simp)
    · intro stop hsettles
      exact reclaimQuestion_eq_ok.mpr hsettles

end Settle

theorem Settles.pausable {msg : Msg} {id : Uint 256} {terminal : Status}
    {start stop : World oz T}
    (hsettles : Settles msg id terminal start stop) :
    stop.escrow.pausable = start.escrow.pausable := by
  obtain ⟨_, _, _, _, ⟨_, _, _, _, _, _, rfl⟩, rfl⟩ := hsettles
  rfl

theorem Settles.questions {msg : Msg} {id : Uint 256} {terminal : Status}
    {start stop : World oz T}
    (hsettles : Settles msg id terminal start stop) :
    stop.escrow.questions = Function.update start.escrow.questions id
      { start.escrow.questions id with status := terminal } := by
  obtain ⟨_, _, _, _, ⟨_, _, _, _, _, _, rfl⟩, rfl⟩ := hsettles
  rfl

/-! ## Reachable states -/

/-- How a settlement of question `id` shares its amount. -/
structure Shares (before after : Storage oz) (id : Uint 256) (terminal : Status)
    (share fee : ℕ) : Prop where
  credited : Credited before.withdrawable after.withdrawable
    (recipientOf (before.questions id) terminal) share before.feeAddress fee
  sum : share + fee = (before.questions id).amount
  fee_eq : fee =
    (before.questions id).amount * feeRate before terminal / 10000
  fee_capped : FeeCapped (before.questions id).amount fee terminal
  positive : 0 < share

theorem Healthy.shares {msg : Msg} {id : Uint 256} {terminal : Status}
    {start stop : World oz T} (hhealthy : Healthy start.escrow)
    (hsettles : Settles msg id terminal start stop) :
    ∃ share fee, Shares start.escrow stop.escrow id terminal share fee := by
  obtain ⟨_, _, _, _, ⟨hopen, _, payout, after, hpayout, hafter, rfl⟩, rfl⟩ :=
    hsettles
  have hcapped := hhealthy.capped.settleFee id terminal
  have hpositive := hhealthy.positive id (by rw [hopen]; simp)
  have hfee := hcapped.overall
  refine ⟨payout, settleFee start.escrow id terminal, hafter, hpayout, rfl,
    hcapped, ?_⟩
  omega

variable {erc20 : ERC20} {self : Address} {system : System oz erc20}

theorem Solvent.sound (hsolvent : Solvent self system) :
    Sound system.world.escrow where
  healthy := hsolvent.healthy
  bounded := by
    have hbalance := hsolvent.balance
    have hfits := (erc20.balanceOf system.world.token self).isLt
    omega

/-- In every reachable unpaused state the settlements of an open question
succeed exactly for the callers and at the times they are meant for, share
exactly its amount within the fee caps, and never fail on arithmetic. -/
theorem settle_enabled (hlock : oz.lock.Documented) (hstandard : erc20.Standard)
    (hreachable : Reachable erc20 self system)
    (hrunning : oz.pausable.paused system.world.escrow.pausable = false)
    {id : Uint 256} {question : Question}
    (hquestion : system.world.escrow.questions id = question)
    (hopen : question.status = .open) (sender : Address) (timestamp : ℕ)
    {succeeds : Call → Prop}
    (hsucceeds : succeeds = fun request =>
      succeeded (system.call erc20 self sender timestamp request) = true) :
    (succeeds (.answerQuestion id) ↔ sender = question.answerer) ∧
    (succeeds (.declineQuestion id) ↔ sender = question.answerer) ∧
    (succeeds (.cancelQuestion id) ↔
      sender = question.asker ∧ timestamp < question.deadline) ∧
    (succeeds (.reclaimQuestion id) ↔ question.deadline ≤ timestamp) ∧
    (sender = question.asker →
      Xor (succeeds (.cancelQuestion id)) (succeeds (.reclaimQuestion id))) ∧
    (∀ request terminal result stop,
      request.settles = some (id, terminal) →
      system.call erc20 self sender timestamp request = .ok result stop →
      ∃ share fee,
        Shares system.world.escrow stop.escrow id terminal share fee) ∧
    (∀ request target failure stop, request.settles = some target →
      system.call erc20 self sender timestamp request = .error failure stop →
      failure ≠ .arithmeticPanic) := by
  have hsound := (hreachable.solvent hlock hstandard).sound
  have hiff : ∀ request terminal, request.settles = some (id, terminal) →
      (succeeds request ↔
        Authorised { sender, timestamp } question terminal) := by
    intro request terminal hrequest
    have hreturns := @Sound.settle_returns_iff _ _
      (erc20.asToken oz self timestamp) self { sender, timestamp } request
      system.world id terminal hlock hsound hrequest
    rw [hquestion] at hreturns
    rw [hsucceeds]
    exact hreturns.trans ⟨fun h => h.2.2, fun h => ⟨hrunning, hopen, h⟩⟩
  have hcancel := hiff (.cancelQuestion id) .cancelled rfl
  have hreclaim := hiff (.reclaimQuestion id) .reclaimed rfl
  refine ⟨hiff _ .answered rfl, hiff _ .declined rfl, hcancel, hreclaim, ?_,
    ?_, ?_⟩
  · intro hasker
    rw [hcancel, hreclaim]
    by_cases hdeadline : timestamp < question.deadline
    · exact .inl ⟨⟨hasker, hdeadline⟩, Nat.not_le.mpr hdeadline⟩
    · exact .inr ⟨Nat.le_of_not_lt hdeadline, fun h => hdeadline h.2⟩
  · intro request terminal result stop hrequest hcall
    have hsettles := (call_eq_ok.mp hcall).settles hrequest
    exact hsound.healthy.shares hsettles
  · intro request target failure stop hrequest hcall
    exact hsound.settle_no_panic hlock hrequest hcall

/-- The answerer of the sample question can answer it. -/
theorem settle_enabled_asked :
    succeeded (Sample.asked.call .plain Sample.escrow Sample.answerer.1 20
      (.answerQuestion 1)) = true :=
  (settle_enabled OpenZeppelin.plain_documented.lock ERC20.plain_standard
    Sample.asked_reachable rfl rfl (by decide) Sample.answerer.1 20
    rfl).1.mpr (by decide)

end BuyAnAnswer.Contract
