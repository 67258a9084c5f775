import BuyAnAnswer.Contract.Escrow

/-!
# What each function does

One theorem for each function says exactly when it returns and what the world
is afterwards.  The four settlements share one effect, and so do the setters
and the inherited administration; everything proved about calls rests on these
effects and never unfolds a function again.
-/

namespace BuyAnAnswer.Contract

open BuyAnAnswer.Transaction

variable {oz : OpenZeppelin} {T A : Type}

/-! ## Effects on the world -/

namespace World

def setLock (world : World oz T) (lock : oz.lock.Storage) : World oz T :=
  { world with escrow := { world.escrow with lock } }

/-- Assign the next id to a new question and announce it. -/
def recordQuestion (world : World oz T) (ref : Bytes32) (question : Question)
    (next : Uint 256) : World oz T :=
  { world with
    escrow := { world.escrow with
      nextId := next
      questions := Function.update world.escrow.questions world.escrow.nextId
        question
      questionRef := Function.update world.escrow.questionRef
        world.escrow.nextId ref }
    log := world.log ++ [.questionAsked world.escrow.nextId ref question.asker
      question.answerer question.amount question.deadline] }

/-- Give a question its final status, replace the credits and announce it. -/
def settleQuestion (world : World oz T) (id : Uint 256) (terminal : Status)
    (withdrawable : Address → Uint 256) (event : Event) : World oz T :=
  { world with
    escrow := { world.escrow with
      questions := Function.update world.escrow.questions id
        { world.escrow.questions id with status := terminal }
      withdrawable }
    log := world.log ++ [event] }

def clearCredit (world : World oz T) (account : Address) : World oz T :=
  { world with escrow := { world.escrow with
      withdrawable := Function.update world.escrow.withdrawable account 0 } }

def announce (world : World oz T) (event : Event) : World oz T :=
  { world with log := world.log ++ [event] }

end World

/-! ## Modifiers -/

theorem whenNotPaused_eq_ok {body : Exec oz T A} {start stop : World oz T}
    {value : A} :
    whenNotPaused body start = .ok value stop ↔
      oz.pausable.paused start.escrow.pausable = false ∧
        body start = .ok value stop := by
  simp only [whenNotPaused, load_bind, require_bind_eq_ok]

theorem whenNotPaused_eq_error {body : Exec oz T A} {start stop : World oz T}
    {failure : Error} :
    whenNotPaused body start = .error failure stop ↔
      oz.pausable.paused start.escrow.pausable = true ∧
          failure = .enforcedPause ∧ stop = start ∨
        oz.pausable.paused start.escrow.pausable = false ∧
          body start = .error failure stop := by
  simp only [whenNotPaused, load_bind, require_bind_eq_error,
    Bool.not_eq_false]

theorem nonReentrant_eq_ok {body : Exec oz T A} {start stop : World oz T}
    {value : A} :
    nonReentrant body start = .ok value stop ↔
      ∃ entered reached, oz.lock.enter start.escrow.lock = .ok entered ∧
        body (start.setLock entered) = .ok value reached ∧
        stop = reached.setLock (oz.lock.leave reached.escrow.lock) := by
  simp only [nonReentrant, load_bind, lift_bind_eq_ok, store_bind]
  simp only [bind_eq_ok, store_bind, pure_eq_ok]
  constructor
  · rintro ⟨entered, henter, result, reached, hbody, rfl, rfl⟩
    exact ⟨entered, reached, henter, hbody, rfl⟩
  · rintro ⟨entered, reached, henter, hbody, rfl⟩
    exact ⟨entered, henter, value, reached, hbody, rfl, rfl⟩

theorem nonReentrant_eq_error {body : Exec oz T A} {start stop : World oz T}
    {failure : Error} :
    nonReentrant body start = .error failure stop ↔
      oz.lock.enter start.escrow.lock = .error failure ∧ stop = start ∨
        ∃ entered, oz.lock.enter start.escrow.lock = .ok entered ∧
          body (start.setLock entered) = .error failure stop := by
  simp only [nonReentrant, load_bind, lift_bind_eq_error, store_bind]
  simp only [bind_eq_error, store_bind, pure_eq_error, and_false, exists_false,
    or_false]
  rfl

theorem onlyOwner_eq_ok {msg : Msg} {body : Exec oz T A} {start stop : World oz T}
    {value : A} :
    onlyOwner msg body start = .ok value stop ↔
      oz.ownable.owner start.escrow.ownable = msg.sender ∧
        body start = .ok value stop := by
  simp only [onlyOwner, load_bind, require_bind_eq_ok]

/-! ## Asking -/

/-- The record written for a question. -/
def openQuestion (msg : Msg) (answerer : Address) (amount : Uint 128)
    (deadline : Uint 64) : Question :=
  { asker := msg.sender, answerer, amount, deadline, status := .open }

theorem createQuestion_eq_ok {msg : Msg} {ref : Bytes32} {answerer : Address}
    {amount : Uint 128} {start stop : World oz T} {id : Uint 256} :
    createQuestion msg ref answerer amount start = .ok id stop ↔
      answerer ≠ 0 ∧ amount ≠ 0 ∧ ∃ (next : Uint 256) (deadline : Uint 64),
        (next : ℕ) = start.escrow.nextId + 1 ∧
        (deadline : ℕ) = msg.timestamp % 2 ^ 64 + start.escrow.answerWindow ∧
        id = start.escrow.nextId ∧
        stop = start.recordQuestion ref
          (openQuestion msg answerer amount deadline) next := by
  simp only [createQuestion, load_bind, require_bind_eq_ok, lift_bind_eq_ok,
    store_bind, emit_bind, pure_eq_ok, checkedAdd_eq_ok, val_truncate]
  constructor
  · rintro ⟨hanswerer, hamount, next, hnext, deadline, hdeadline, rfl, rfl⟩
    exact ⟨hanswerer, hamount, next, deadline, hnext, hdeadline, rfl, rfl⟩
  · rintro ⟨hanswerer, hamount, next, deadline, hnext, hdeadline, rfl, rfl⟩
    exact ⟨hanswerer, hamount, next, hnext, deadline, hdeadline, rfl, rfl⟩

/-- A successful ask: the question is recorded under the lock, then `pull`
moves the escrowed amount. -/
def Asks (pull : Exec oz T Unit) (msg : Msg) (ref : Bytes32)
    (answerer : Address) (amount : Uint 128) (start stop : World oz T)
    (id : Uint 256) : Prop :=
  oz.pausable.paused start.escrow.pausable = false ∧
    answerer ≠ 0 ∧ amount ≠ 0 ∧ id = start.escrow.nextId ∧
    ∃ entered, oz.lock.enter start.escrow.lock = .ok entered ∧
    ∃ (next : Uint 256) (deadline : Uint 64) (reached : World oz T),
      (next : ℕ) = start.escrow.nextId + 1 ∧
      (deadline : ℕ) = msg.timestamp % 2 ^ 64 + start.escrow.answerWindow ∧
      pull ((start.setLock entered).recordQuestion ref
        (openQuestion msg answerer amount deadline) next) = .ok () reached ∧
      stop = reached.setLock (oz.lock.leave reached.escrow.lock)

theorem asking_eq_ok {pull : Exec oz T Unit} {msg : Msg} {ref : Bytes32}
    {answerer : Address} {amount : Uint 128} {start stop : World oz T}
    {id : Uint 256} :
    whenNotPaused (nonReentrant do
        let id ← createQuestion msg ref answerer amount
        pull
        return id) start = .ok id stop ↔
      Asks pull msg ref answerer amount start stop id := by
  rw [whenNotPaused_eq_ok, nonReentrant_eq_ok]
  simp only [bind_eq_ok, pure_eq_ok, createQuestion_eq_ok]
  constructor
  · rintro ⟨hrunning, entered, reached, henter, ⟨result, recorded,
      ⟨hanswerer, hamount, next, deadline, hnext, hdeadline, rfl, rfl⟩,
      _, middle, hpull, rfl, rfl⟩, rfl⟩
    exact ⟨hrunning, hanswerer, hamount, rfl, entered, henter, next, deadline,
      reached, hnext, hdeadline, hpull, rfl⟩
  · rintro ⟨hrunning, hanswerer, hamount, rfl, entered, henter, next, deadline,
      reached, hnext, hdeadline, hpull, rfl⟩
    exact ⟨hrunning, entered, reached, henter, ⟨_, _,
      ⟨hanswerer, hamount, next, deadline, hnext, hdeadline, rfl, rfl⟩,
      (), reached, hpull, rfl, rfl⟩, rfl⟩

theorem askQuestion_eq_ok {token : Token oz T} {self : Address} {msg : Msg}
    {ref : Bytes32} {answerer : Address} {amount : Uint 128}
    {start stop : World oz T} {id : Uint 256} :
    askQuestion token self msg ref answerer amount start = .ok id stop ↔
      Asks (token.safeTransferFrom msg.sender self
          (widen uint128_le_uint256 amount))
        msg ref answerer amount start stop id :=
  asking_eq_ok

/-- The token calls of an ask with permit. -/
def permitThenPull (token : Token oz T) (self : Address) (msg : Msg)
    (amount : Uint 128) (value deadline : Uint 256) (v : Uint 8)
    (r s : Bytes32) : Exec oz T Unit := do
  attempt (token.permit msg.sender self value deadline v r s)
  token.safeTransferFrom msg.sender self (widen uint128_le_uint256 amount)

theorem askQuestionWithPermit_eq_ok {token : Token oz T} {self : Address}
    {msg : Msg} {ref : Bytes32} {answerer : Address} {amount : Uint 128}
    {value deadline : Uint 256} {v : Uint 8} {r s : Bytes32}
    {start stop : World oz T} {id : Uint 256} :
    askQuestionWithPermit token self msg ref answerer amount value deadline
        v r s start = .ok id stop ↔
      Asks (permitThenPull token self msg amount value deadline v r s)
        msg ref answerer amount start stop id := by
  rw [← asking_eq_ok, askQuestionWithPermit]
  simp only [permitThenPull, bind_assoc]

/-! ## Settling -/

/-- Credits before and after `share` goes to `recipient` and `fee` to
`feeAddress`, which may be the same account. -/
def Credited (before after : Address → Uint 256) (recipient : Address)
    (share : ℕ) (feeAddress : Address) (fee : ℕ) : Prop :=
  ∀ account, (after account : ℕ) = before account +
    (if account = recipient then share else 0) +
    (if account = feeAddress then fee else 0)

/-- The fee on `amount` at `bps` basis points, rounded down. -/
def feeShare (amount : Uint 128) (bps : Uint 16) : ℕ :=
  (amount : ℕ) * bps / 10000

theorem val_div_bps {amount : Uint 128} {bps : Uint 16} {product : Uint 256}
    (hproduct : (product : ℕ) = amount * bps) :
    ((product / BPS_DENOMINATOR : Uint 256) : ℕ) = feeShare amount bps := by
  have hbps : (BPS_DENOMINATOR : ℕ) = 10000 := by decide
  rw [feeShare, ← hproduct, ← hbps]
  rfl

/-- The product of an amount and a rate always fits. -/
theorem exists_product (amount : Uint 128) (bps : Uint 16) :
    ∃ product : Uint 256, (product : ℕ) = amount * bps := by
  have hlt : (amount : ℕ) * bps < 2 ^ 256 :=
    calc (amount : ℕ) * bps < 2 ^ 128 * 2 ^ 16 :=
          Nat.mul_lt_mul'' amount.isLt bps.isLt
      _ ≤ 2 ^ 256 := by norm_num
  exact ⟨⟨amount * bps, hlt⟩, rfl⟩

theorem credit_eq_ok {account : Address} {amount : Uint 256}
    {start stop : World oz T} {value : Unit} :
    credit account amount start = .ok value stop ↔
      ∃ sum : Uint 256,
        (sum : ℕ) = start.escrow.withdrawable account + amount ∧
        stop = { start with escrow := { start.escrow with
          withdrawable :=
            Function.update start.escrow.withdrawable account sum } } := by
  simp only [credit, load_bind, lift_bind_eq_ok, store_eq_ok, checkedAdd_eq_ok]

theorem credited_once {before : Address → Uint 256} {recipient : Address}
    {share : ℕ} (feeAddress : Address) {sum : Uint 256}
    (hsum : (sum : ℕ) = before recipient + share) :
    Credited before (Function.update before recipient sum) recipient share
      feeAddress 0 := by
  intro account
  by_cases hrecipient : account = recipient
  · subst hrecipient
    simp [hsum]
  · simp [hrecipient]

theorem credited_twice {before : Address → Uint 256}
    {recipient feeAddress : Address} {share fee : ℕ} {sum feeSum : Uint 256}
    (hsum : (sum : ℕ) = before recipient + share)
    (hfeeSum : (feeSum : ℕ) =
      Function.update before recipient sum feeAddress + fee) :
    Credited before
      (Function.update (Function.update before recipient sum) feeAddress feeSum)
      recipient share feeAddress fee := by
  intro account
  have hfirst := credited_once feeAddress hsum account
  by_cases hfee : account = feeAddress
  · subst hfee
    rw [Function.update_self, hfeeSum, hfirst]
    simp
  · rw [Function.update_of_ne hfee, hfirst]
    simp [hfee]

/-- Credits are determined by what is credited. -/
theorem Credited.unique {before after other : Address → Uint 256}
    {recipient feeAddress : Address} {share fee : ℕ}
    (hafter : Credited before after recipient share feeAddress fee)
    (hother : Credited before other recipient share feeAddress fee) :
    after = other := by
  funext account
  apply Fin.ext
  rw [hafter account, hother account]

/-- Conversely, credits that are in range can be written one after the other. -/
theorem Credited.exists_sums {before after : Address → Uint 256}
    {recipient feeAddress : Address} {share fee : ℕ}
    (hafter : Credited before after recipient share feeAddress fee) :
    ∃ sum feeSum : Uint 256, (sum : ℕ) = before recipient + share ∧
      (feeSum : ℕ) =
        Function.update before recipient sum feeAddress + fee ∧
      after = Function.update (Function.update before recipient sum) feeAddress
        feeSum := by
  have hrecipient := hafter recipient
  rw [if_pos rfl] at hrecipient
  have hbound := (after recipient).isLt
  obtain ⟨sum, hsum⟩ : ∃ sum : Uint 256, (sum : ℕ) = before recipient + share :=
    ⟨⟨before recipient + share, by omega⟩, rfl⟩
  have hfeeSum : (after feeAddress : ℕ) =
      Function.update before recipient sum feeAddress + fee := by
    rw [hafter feeAddress, if_pos rfl]
    have hfirst := credited_once feeAddress hsum feeAddress
    rw [hfirst]
    simp
  exact ⟨sum, after feeAddress, hsum, hfeeSum,
    hafter.unique (credited_twice hsum hfeeSum)⟩

/-- The two credits of a fee-charging settlement, the second only when there
is a fee. -/
theorem credits_eq_ok {recipient : Address} {payout fee : Uint 256}
    {next : Exec oz T Unit} {start stop : World oz T} {value : Unit} :
    (do
        credit recipient payout
        if fee ≠ 0 then
          let feeAddress ← load (·.feeAddress)
          credit feeAddress fee
        next) start = .ok value stop ↔
      ∃ after, Credited start.escrow.withdrawable after recipient payout
          start.escrow.feeAddress fee ∧
        next { start with escrow := { start.escrow with withdrawable := after } } =
          .ok value stop := by
  rw [bind_eq_ok]
  simp only [credit_eq_ok]
  by_cases hfee : fee = 0
  · subst hfee
    simp only [ne_eq, not_true_eq_false, if_false, Fin.val_zero]
    constructor
    · rintro ⟨_, _, ⟨sum, hsum, rfl⟩, hnext⟩
      exact ⟨_, credited_once _ hsum, hnext⟩
    · rintro ⟨after, hafter, hnext⟩
      have hrecipient := hafter recipient
      simp only [if_true, ite_self, add_zero] at hrecipient
      have hupdate := hafter.unique (credited_once _ hrecipient)
      exact ⟨(), _, ⟨after recipient, hrecipient, rfl⟩, by rw [← hupdate]; exact hnext⟩
  · simp only [ne_eq, hfee, not_false_eq_true, if_true, load_bind]
    constructor
    · rintro ⟨_, _, ⟨sum, hsum, rfl⟩, hrest⟩
      obtain ⟨_, _, hcredit, hnext⟩ := bind_eq_ok.mp hrest
      obtain ⟨feeSum, hfeeSum, rfl⟩ := credit_eq_ok.mp hcredit
      exact ⟨_, credited_twice hsum hfeeSum, hnext⟩
    · rintro ⟨after, hafter, hnext⟩
      obtain ⟨sum, feeSum, hsum, hfeeSum, rfl⟩ := hafter.exists_sums
      exact ⟨(), _, ⟨sum, hsum, rfl⟩,
        bind_eq_ok.mpr ⟨(), _, credit_eq_ok.mpr ⟨feeSum, hfeeSum, rfl⟩, hnext⟩⟩

theorem settleWithFee_eq_ok {id : Uint 256}
    {authorise : Question → Exec oz T Unit} {permitted : Question → Prop}
    (hauthorise : ∀ question start stop,
      authorise question start = .ok () stop ↔
        permitted question ∧ stop = start)
    {feeBps : Storage oz → Uint 16} {terminal : Status}
    {recipient : Question → Address} {event : Bytes32 → Question → Event}
    {start stop : World oz T} {value : Unit} :
    settleWithFee id authorise feeBps terminal recipient event start =
        .ok value stop ↔
      (start.escrow.questions id).status = .open ∧
        permitted (start.escrow.questions id) ∧
        ∃ payout after,
          payout + feeShare (start.escrow.questions id).amount
            (feeBps start.escrow) = (start.escrow.questions id).amount ∧
          Credited start.escrow.withdrawable after
            (recipient (start.escrow.questions id)) payout
            start.escrow.feeAddress
            (feeShare (start.escrow.questions id).amount
              (feeBps start.escrow)) ∧
          stop = start.settleQuestion id terminal after
            (event (start.escrow.questionRef id)
              (start.escrow.questions id)) := by
  simp only [settleWithFee, load_bind, require_bind_eq_ok]
  rw [bind_eq_ok]
  simp only [hauthorise, lift_bind_eq_ok, setStatus, store_bind, credits_eq_ok,
    load_bind, emit_eq_ok, checkedMul_eq_ok, checkedSub_eq_ok, val_widen]
  apply and_congr_right
  intro _
  constructor
  · rintro ⟨_, _, ⟨hpermitted, rfl⟩, product, hproduct, payout, hpayout, after,
      hafter, rfl⟩
    rw [val_div_bps hproduct] at hpayout hafter
    exact ⟨hpermitted, payout, after, hpayout, hafter, rfl⟩
  · rintro ⟨hpermitted, payout, after, hpayout, hafter, rfl⟩
    obtain ⟨product, hproduct⟩ := exists_product
      (start.escrow.questions id).amount (feeBps start.escrow)
    have hlt : payout < 2 ^ 256 := by
      have := (start.escrow.questions id).amount.isLt
      omega
    refine ⟨(), _, ⟨hpermitted, rfl⟩, product, hproduct, ⟨payout, hlt⟩, ?_,
      after, ?_, rfl⟩
    · rw [val_div_bps hproduct]
      exact hpayout
    · rw [val_div_bps hproduct]
      exact hafter

theorem settleInFull_eq_ok {id : Uint 256}
    {authorise : Question → Exec oz T Unit} {permitted : Question → Prop}
    (hauthorise : ∀ question start stop,
      authorise question start = .ok () stop ↔
        permitted question ∧ stop = start)
    {terminal : Status} {event : Bytes32 → Event} {start stop : World oz T}
    {value : Unit} :
    settleInFull id authorise terminal event start = .ok value stop ↔
      (start.escrow.questions id).status = .open ∧
        permitted (start.escrow.questions id) ∧
        ∃ after,
          Credited start.escrow.withdrawable after
            (start.escrow.questions id).asker
            (start.escrow.questions id).amount start.escrow.feeAddress 0 ∧
          stop = start.settleQuestion id terminal after
            (event (start.escrow.questionRef id)) := by
  simp only [settleInFull, load_bind, require_bind_eq_ok]
  rw [bind_eq_ok]
  simp only [hauthorise, setStatus, store_bind]
  simp only [bind_eq_ok, credit_eq_ok, load_bind, emit_eq_ok, val_widen]
  apply and_congr_right
  intro _
  constructor
  · rintro ⟨_, _, ⟨hpermitted, rfl⟩, _, _, ⟨sum, hsum, rfl⟩, rfl⟩
    exact ⟨hpermitted, _, credited_once _ hsum, rfl⟩
  · rintro ⟨hpermitted, after, hafter, rfl⟩
    have hasker := hafter (start.escrow.questions id).asker
    simp only [if_true, ite_self, add_zero] at hasker
    have hupdate := hafter.unique (credited_once _ hasker)
    refine ⟨(), _, ⟨hpermitted, rfl⟩, (), _, ⟨_, hasker, rfl⟩, ?_⟩
    rw [← hupdate]
    rfl

/-- Who may settle a question into which status, and when. -/
def Authorised (msg : Msg) (question : Question) : Status → Prop
  | .answered | .declined => msg.sender = question.answerer
  | .cancelled =>
      msg.sender = question.asker ∧ msg.timestamp < question.deadline
  | .reclaimed => question.deadline ≤ msg.timestamp
  | .none | .open => False

/-- The account that receives the amount less the fee. -/
def recipientOf (question : Question) : Status → Address
  | .answered => question.answerer
  | _ => question.asker

/-- The rate charged by a settlement, read at the time it happens. -/
def feeRate (escrow : Storage oz) : Status → Uint 16
  | .answered => escrow.answerFeeBps
  | .cancelled => escrow.cancelFeeBps
  | _ => 0

def settleFee (escrow : Storage oz) (id : Uint 256) (terminal : Status) : ℕ :=
  feeShare (escrow.questions id).amount (feeRate escrow terminal)

def settleEvent (id : Uint 256) (ref : Bytes32) (question : Question) :
    Status → Event
  | .answered => .questionAnswered id ref question.answerer
  | .declined => .questionDeclined id ref
  | .cancelled => .questionCancelled id ref
  | _ => .questionReclaimed id ref

/-- What a settlement writes, apart from the lock. -/
def SettleWrites (msg : Msg) (id : Uint 256) (terminal : Status)
    (start stop : World oz T) : Prop :=
  (start.escrow.questions id).status = .open ∧
    Authorised msg (start.escrow.questions id) terminal ∧
    ∃ payout after,
      payout + settleFee start.escrow id terminal =
        (start.escrow.questions id).amount ∧
      Credited start.escrow.withdrawable after
        (recipientOf (start.escrow.questions id) terminal) payout
        start.escrow.feeAddress (settleFee start.escrow id terminal) ∧
      stop = start.settleQuestion id terminal after
        (settleEvent id (start.escrow.questionRef id)
          (start.escrow.questions id) terminal)

/-- A successful settlement of question `id` into status `terminal`. -/
def Settles (msg : Msg) (id : Uint 256) (terminal : Status)
    (start stop : World oz T) : Prop :=
  oz.pausable.paused start.escrow.pausable = false ∧
    ∃ entered, oz.lock.enter start.escrow.lock = .ok entered ∧
    ∃ reached, SettleWrites msg id terminal start reached ∧
      stop = reached.setLock (oz.lock.leave entered)

theorem SettleWrites.setLock {msg : Msg} {id : Uint 256} {terminal : Status}
    {start stop : World oz T} (lock : oz.lock.Storage)
    (hwrites : SettleWrites msg id terminal start stop) :
    SettleWrites msg id terminal (start.setLock lock) (stop.setLock lock) := by
  obtain ⟨hopen, hauthorised, payout, after, hpayout, hafter, rfl⟩ := hwrites
  exact ⟨hopen, hauthorised, payout, after, hpayout, hafter, rfl⟩

theorem settling_eq_ok {body : Exec oz T Unit} {msg : Msg} {id : Uint 256}
    {terminal : Status}
    (hbody : ∀ start stop, body start = .ok () stop ↔
      SettleWrites msg id terminal start stop)
    {start stop : World oz T} {value : Unit} :
    whenNotPaused (nonReentrant body) start = .ok value stop ↔
      Settles msg id terminal start stop := by
  rw [whenNotPaused_eq_ok, nonReentrant_eq_ok]
  apply and_congr_right
  intro _
  constructor
  · rintro ⟨entered, reached, henter, hreached, rfl⟩
    obtain ⟨hopen, hauthorised, payout, after, hpayout, hafter, rfl⟩ :=
      (hbody _ _).mp hreached
    exact ⟨entered, henter, _,
      ⟨hopen, hauthorised, payout, after, hpayout, hafter, rfl⟩, rfl⟩
  · rintro ⟨entered, henter, reached, hwrites, rfl⟩
    refine ⟨entered, reached.setLock entered, henter,
      (hbody _ _).mpr (hwrites.setLock entered), rfl⟩

section Settle

variable {msg : Msg} {id : Uint 256} {start stop : World oz T} {value : Unit}

theorem settleWithFee_writes {authorise : Question → Exec oz T Unit}
    {feeBps : Storage oz → Uint 16} {terminal : Status}
    {recipient : Question → Address} {event : Bytes32 → Question → Event}
    (hauthorise : ∀ question start stop,
      authorise question start = .ok () stop ↔
        Authorised msg question terminal ∧ stop = start)
    (hrate : ∀ escrow : Storage oz, feeRate escrow terminal = feeBps escrow)
    (hrecipient : ∀ question,
      recipientOf question terminal = recipient question)
    (hevent : ∀ ref question,
      settleEvent id ref question terminal = event ref question) :
    settleWithFee id authorise feeBps terminal recipient event start =
        .ok () stop ↔
      SettleWrites msg id terminal start stop := by
  rw [settleWithFee_eq_ok hauthorise]
  simp only [SettleWrites, settleFee, hrate, hrecipient, hevent]

/-- A full refund is a settlement with a zero fee. -/
theorem settleInFull_writes {authorise : Question → Exec oz T Unit}
    {terminal : Status} {event : Bytes32 → Event}
    (hauthorise : ∀ question start stop,
      authorise question start = .ok () stop ↔
        Authorised msg question terminal ∧ stop = start)
    (hrate : ∀ escrow : Storage oz, feeRate escrow terminal = 0)
    (hrecipient : ∀ question, recipientOf question terminal = question.asker)
    (hevent : ∀ ref question, settleEvent id ref question terminal = event ref) :
    settleInFull id authorise terminal event start = .ok () stop ↔
      SettleWrites msg id terminal start stop := by
  have hfee : settleFee start.escrow id terminal = 0 := by
    rw [settleFee, hrate, feeShare]
    simp
  rw [settleInFull_eq_ok hauthorise]
  simp only [SettleWrites, hfee, hrecipient, hevent, add_zero]
  simp only [exists_and_left, exists_eq_left]

theorem answerQuestion_eq_ok :
    answerQuestion msg id start = .ok value stop ↔
      Settles msg id .answered start stop := by
  apply settling_eq_ok
  intro start stop
  exact settleWithFee_writes (fun _ _ _ => require_eq_ok) (fun _ => rfl)
    (fun _ => rfl) (fun _ _ => rfl)

theorem cancelQuestion_eq_ok :
    cancelQuestion msg id start = .ok value stop ↔
      Settles msg id .cancelled start stop := by
  apply settling_eq_ok
  intro start stop
  refine settleWithFee_writes ?_ (fun _ => rfl) (fun _ => rfl)
    (fun _ _ => rfl)
  intro question start stop
  rw [require_bind_eq_ok, require_eq_ok, ← and_assoc]
  rfl

theorem declineQuestion_eq_ok :
    declineQuestion msg id start = .ok value stop ↔
      Settles msg id .declined start stop := by
  apply settling_eq_ok
  intro start stop
  exact settleInFull_writes (fun _ _ _ => require_eq_ok) (fun _ => rfl)
    (fun _ => rfl) (fun _ _ => rfl)

theorem reclaimQuestion_eq_ok :
    reclaimQuestion msg id start = .ok value stop ↔
      Settles msg id .reclaimed start stop := by
  apply settling_eq_ok
  intro start stop
  exact settleInFull_writes (fun _ _ _ => require_eq_ok) (fun _ => rfl)
    (fun _ => rfl) (fun _ _ => rfl)

end Settle

/-! ## Withdrawing -/

/-- A successful withdrawal: the credit is cleared under the lock, then paid. -/
def Withdraws (token : Token oz T) (msg : Msg) (start stop : World oz T) :
    Prop :=
  start.escrow.withdrawable msg.sender ≠ 0 ∧
    ∃ entered, oz.lock.enter start.escrow.lock = .ok entered ∧
    ∃ reached, token.safeTransfer msg.sender
        (start.escrow.withdrawable msg.sender)
        ((start.setLock entered).clearCredit msg.sender) = .ok () reached ∧
      stop = (reached.announce (.withdrawn msg.sender
        (start.escrow.withdrawable msg.sender))).setLock
          (oz.lock.leave reached.escrow.lock)

theorem withdraw_eq_ok {token : Token oz T} {msg : Msg} {start stop : World oz T}
    {value : Unit} :
    withdraw token msg start = .ok value stop ↔
      Withdraws token msg start stop := by
  rw [withdraw, nonReentrant_eq_ok]
  simp only [load_bind, require_bind_eq_ok, store_bind]
  simp only [bind_eq_ok, emit_eq_ok]
  constructor
  · rintro ⟨entered, _, henter, ⟨hamount, _, reached, htransfer, rfl⟩, rfl⟩
    exact ⟨hamount, entered, henter, reached, htransfer, rfl⟩
  · rintro ⟨hamount, entered, henter, reached, htransfer, rfl⟩
    exact ⟨entered, _, henter, ⟨hamount, (), reached, htransfer, rfl⟩, rfl⟩

/-! ## Administration -/

theorem setParameter_eq_ok {msg : Msg} {accepted : Prop} [Decidable accepted]
    {failure : Error} {change : Storage oz → Storage oz} {event : Event}
    {start stop : World oz T} {value : Unit} :
    setParameter msg accepted failure change event start = .ok value stop ↔
      oz.ownable.owner start.escrow.ownable = msg.sender ∧ accepted ∧
        stop = World.announce { start with escrow := change start.escrow }
          event := by
  rw [setParameter, onlyOwner_eq_ok]
  simp only [require_bind_eq_ok, store_bind, emit_eq_ok]
  rfl

/-- An operation on the pause switch that only the owner may perform. -/
theorem ownerPausable_eq_ok {msg : Msg}
    {operation : oz.pausable.Storage → Except Error oz.pausable.Storage}
    {start stop : World oz T} {value : Unit} :
    onlyOwner msg (do
        let pausable ← load (·.pausable)
        let after ← lift (operation pausable)
        store fun escrow => { escrow with pausable := after }) start =
        .ok value stop ↔
      oz.ownable.owner start.escrow.ownable = msg.sender ∧
        ∃ after, operation start.escrow.pausable = .ok after ∧
          stop = { start with escrow :=
            { start.escrow with pausable := after } } := by
  rw [onlyOwner_eq_ok]
  simp only [load_bind, lift_bind_eq_ok, store_eq_ok]

theorem inheritedOwnable_eq_ok
    {operation : oz.ownable.Storage → Except Error oz.ownable.Storage}
    {start stop : World oz T} {value : Unit} :
    inheritedOwnable operation start = .ok value stop ↔
      ∃ after, operation start.escrow.ownable = .ok after ∧
        stop = { start with escrow :=
          { start.escrow with ownable := after } } := by
  simp only [inheritedOwnable, load_bind, lift_bind_eq_ok, store_eq_ok]

end BuyAnAnswer.Contract
