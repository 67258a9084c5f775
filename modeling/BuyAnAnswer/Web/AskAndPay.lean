import BuyAnAnswer.Api.Questions
import BuyAnAnswer.Core.Component
import BuyAnAnswer.Core.Machine
import BuyAnAnswer.Shared.Ref
import BuyAnAnswer.Web.Chains

/-!
# The ask and pay hook

`useAskAndPay` as a state machine, with the drafts that the API minted and the
transactions that the wallet sent.  A run stops at every call it waits for and goes
on with the reply, whenever that comes; between two stops nothing else happens.
-/

namespace BuyAnAnswer.Web

open Text Shared

structure AskInput where
  handle : Text
  body : Text
  amount : ℤ
  answerer : Text
  deriving DecidableEq, Repr

inductive AskPhase where
  | idle
  | creating
  | checking
  | insufficient (balance needed : ℤ)
  | permitting
  | approving
  | confirming
  | pending (hash : ℕ)
  | indexing (id : Text) (hash : ℕ) (slow : Bool)
  | confirmed (id : Text) (hash : ℕ) (status : QuestionStatus)
  | rejected (message : String)
  | error (message : String)
  deriving DecidableEq, Repr

structure AskParams where
  ref : Text
  answerer : Text
  amount : ℤ
  deriving DecidableEq, Repr

/-- What `pay` was started with, and the addresses that it looked up. -/
structure Payment where
  id : Text
  owner : Text
  chainId : ℕ
  escrow : Text
  usdc : Text
  ask : AskParams
  deriving DecidableEq, Repr

/-- What a payment waits for.  A request keeps the chain the wallet was on. -/
inductive AskStage where
  | reading
  | signing
  | simulatingPermit
  | approving
  | confirmingApproval
  | simulatingAsk
  | sending (functionName : String) (chainId : Option ℕ)
  | receipt (hash : ℕ)
  | polling (hash attempts : ℕ)
  | sleeping (hash attempts : ℕ)
  deriving DecidableEq, Repr

inductive AskJob where
  | creating (input : AskInput) (account : Account)
  | paying (payment : Payment) (stage : AskStage)
  | finished
  deriving DecidableEq, Repr

structure AskRun where
  token : ℕ
  job : AskJob
  deriving DecidableEq, Repr

/-- A question that the API minted, not yet paid. -/
structure Draft where
  id : Text
  chainId : ℕ
  deriving DecidableEq, Repr

/-- A sent ask; its hash is its place in the list. -/
structure AskTransaction where
  chainId : ℕ
  address : Text
  functionName : String
  ask : AskParams
  questionId : Text
  success : Option Bool
  deriving DecidableEq, Repr

/-- An ask that a run put before the wallet, and whether its token was current. -/
structure AskRequest where
  questionId : Text
  isCurrent : Bool
  deriving DecidableEq, Repr

structure AskHook extends Component AskPhase AskRun where
  account : Account
  wallet : Account
  lastInput : Option AskInput
  pendingId : Option Text
  drafts : List Draft
  requests : List AskRequest
  transactions : List AskTransaction

/-- The reply to a call.  A transaction goes out also if the wallet's reply is lost. -/
inductive AskReply where
  | created (id : Text)
  | balances (balance allowance : ℤ)
  | done
  | failed (error : TxError)
  | lost (error : TxError)
  | status (status : QuestionStatus)
  deriving DecidableEq, Repr

/-- The wallet, asked for a transaction, has sent it. -/
def AskReply.sends : AskReply → Bool
  | .done | .lost _ => true
  | _ => false

theorem AskReply.sends_iff {reply : AskReply} :
    reply.sends = true ↔ reply = .done ∨ ∃ error, reply = .lost error := by
  cases reply <;> simp [sends]

inductive AskStep where
  | switch (wallet : Account)
  | render
  | submit (input : AskInput)
  | retry
  | recheck
  | reset
  | unmount
  | resume (index : ℕ) (reply : AskReply)
  | mine (hash : ℕ) (success : Bool)
  deriving DecidableEq, Repr

def ASK_SLOW_AFTER_POLLS : ℕ := 16

namespace AskHook

variable (hook : AskHook) (index : ℕ) (token : ℕ) (payment : Payment)

def «show» (phase : AskPhase) : AskHook :=
  { hook with toComponent := hook.setPhase token phase }

/-- What a run has become. -/
def become (job : AskJob) : AskHook :=
  { hook with toComponent := hook.toComponent.put index { token, job } }

/-- The payment goes on to wait at a stage. -/
def wait (stage : AskStage) : AskHook :=
  hook.become index token (.paying payment stage)

def finish : AskHook := hook.become index token .finished

/-- The `catch` block of `pay`. -/
def failWith (error : TxError) : AskHook :=
  if token ≠ hook.runToken then hook.finish index token
  else if error.isUserRejection then
    (hook.show token (.rejected "You cancelled the request in your wallet.")).finish
      index token
  else (hook.show token (.error error.message)).finish index token

/-- The head of the polling loop. -/
def poll (hash attempts : ℕ) : AskHook :=
  if token ≠ hook.runToken then hook.finish index token
  else hook.wait index token payment (.polling hash attempts)

/-- A read that confirms nothing: sleep until the next one. -/
def afterRead (hash attempts : ℕ) : AskHook :=
  (hook.show token
    (.indexing payment.id hash (ASK_SLOW_AFTER_POLLS ≤ attempts + 1))).wait
      index token payment (.sleeping hash (attempts + 1))

/-- Put an ask before the wallet. -/
def request (functionName : String) : AskHook :=
  let asked : AskHook := { hook.show token .confirming with
    requests := hook.requests ++ [{
      questionId := payment.id, isCurrent := token = hook.runToken }] }
  asked.wait index token payment (.sending functionName hook.wallet.chainId)

/-- The fallback of a permit: an explicit approval. -/
def approve : AskHook :=
  (hook.show token .approving).wait index token payment .approving

def send (functionName : String) (chainId : ℕ) : AskHook :=
  { hook with transactions := hook.transactions ++ [{
      chainId, address := payment.escrow, functionName, ask := payment.ask
      questionId := payment.id, success := none }] }

def supersedeRun : AskHook :=
  { hook with toComponent := hook.toComponent.supersede }

/-- The beginning of `pay`, up to its first call. -/
def pay (account : Account) (id owner : Text) (ask : AskParams) : AskHook × AskJob :=
  match account.chainId, escrowAddressFor account.chainId,
    usdcAddressFor account.chainId, account.publicClient with
  | some chainId, some escrow, some usdc, true =>
    (hook.show token .checking,
      .paying { id, owner, chainId, escrow, usdc, ask } .reading)
  | _, _, _, _ =>
    (hook.show token (.error "This network isn't set up for payments."), .finished)

/-- Pay a question that exists, in the account of some render; the job that goes on. -/
def startPay (account : Account) (id : Text) (input : AskInput) : AskHook × AskJob :=
  let hook := hook.supersedeRun
  let token := hook.runToken
  match account.address with
  | none => (hook.show token (.error "Connect your wallet to pay."), .finished)
  | some address =>
    if !canAskOn account.chainId then
      (hook.show token (.error "Switch to Base Sepolia to pay."), .finished)
    else match uuidToRef id with
      | .error _ => (hook, .finished)
      | .ok ref =>
        hook.pay token account id address
          { ref, answerer := input.answerer, amount := input.amount }

def submit (input : AskInput) : AskHook :=
  let hook : AskHook := { hook.supersedeRun with lastInput := some input, pendingId := none }
  let token := hook.runToken
  match hook.account.address with
  | none => hook.show token (.error "Connect your wallet to pay.")
  | some _ =>
    if !canAskOn hook.account.chainId then
      hook.show token (.error "Switch to Base Sepolia to pay.")
    else
      let shown := hook.show token .creating
      { shown with
        toComponent := shown.spawn { token, job := .creating input hook.account } }

def retry : AskHook :=
  match hook.lastInput with
  | none => hook
  | some input =>
    match hook.pendingId with
    | none => hook.submit input
    | some id =>
      let (started, job) := hook.startPay hook.account id input
      { started with toComponent := started.spawn { token := started.runToken, job } }

/-- `POST /questions` has replied.  The API mints UUIDs that it has not used. -/
def resumeCreating (input : AskInput) (account : Account) (reply : AskReply) : AskHook :=
  match reply with
  | .created id =>
    if isUuid id ∧ id ∉ hook.drafts.map Draft.id then
      let hook : AskHook := { hook with drafts := hook.drafts ++ [{
        id, chainId := account.chainId.getD Api.DEFAULT_CHAIN_ID }] }
      if token ≠ hook.runToken then hook.finish index token
      else
        let hook : AskHook := { hook with pendingId := some id }
        let (started, job) := hook.startPay account id input
        started.become index started.runToken job
    else hook
  | .failed error => (hook.show token (.error error.message)).finish index token
  | _ => hook

/-- A payment goes on with the reply to what it waits for; a reply that the call
cannot give changes nothing. -/
def resumePaying (stage : AskStage) (reply : AskReply) : AskHook :=
  match stage, reply with
  | .reading, .balances balance allowance =>
    if token ≠ hook.runToken then hook.finish index token
    else if balance < payment.ask.amount then
      (hook.show token (.insufficient balance payment.ask.amount)).finish index token
    else if payment.ask.amount ≤ allowance then
      hook.wait index token payment .simulatingAsk
    else (hook.show token .permitting).wait index token payment .signing
  | .reading, .failed _ =>
    (hook.show token (.error "Couldn't read your USDC balance. Try again.")).finish
      index token
  | .signing, .done => hook.wait index token payment .simulatingPermit
  | .signing, .failed error =>
    if error.isUserRejection then
      (hook.show token (.rejected "You cancelled the signature request.")).finish
        index token
    else hook.approve index token payment
  | .simulatingPermit, .done =>
    hook.request index token payment "askQuestionWithPermit"
  | .simulatingPermit, .failed _ => hook.approve index token payment
  | .approving, .done => hook.wait index token payment .confirmingApproval
  | .approving, .failed error => hook.failWith index token error
  | .confirmingApproval, .done =>
    if token ≠ hook.runToken then hook.finish index token
    else hook.wait index token payment .simulatingAsk
  | .confirmingApproval, .failed error => hook.failWith index token error
  | .simulatingAsk, .done => hook.request index token payment "askQuestion"
  | .simulatingAsk, .failed error => hook.failWith index token error
  | .sending functionName (some chainId), .done =>
    let hash := hook.transactions.length
    let sent := hook.send payment functionName chainId
    if token ≠ hook.runToken then sent.finish index token
    else (sent.show token (.pending hash)).wait index token payment (.receipt hash)
  | .sending functionName (some chainId), .lost error =>
    (hook.send payment functionName chainId).failWith index token error
  | .sending _ _, .failed error => hook.failWith index token error
  | .receipt hash, .done =>
    match (hook.transactions[hash]?).bind AskTransaction.success with
    | none => hook
    | some false => hook.failWith index token
        { isUserRejection := false, message := "The transaction reverted on-chain." }
    | some true =>
      if token ≠ hook.runToken then hook.finish index token
      else (hook.show token (.indexing payment.id hash false)).poll
        index token payment hash 0
  | .receipt _, .failed error => hook.failWith index token error
  | .polling hash attempts, .status status =>
    if status ≠ .pendingPayment then
      (hook.show token (.confirmed payment.id hash status)).finish index token
    else hook.afterRead index token payment hash attempts
  | .polling hash attempts, .failed _ => hook.afterRead index token payment hash attempts
  | .sleeping hash attempts, .done => hook.poll index token payment hash attempts
  | _, _ => hook

/-- One thing that happens.  A sleep may end at any time, so that a recheck does
not add to what can happen. -/
def step : AskStep → AskHook
  | .switch wallet => { hook with wallet }
  | .render => { hook with account := hook.wallet }
  | .submit input => hook.submit input
  | .retry => hook.retry
  | .recheck => hook
  | .reset =>
    { hook.supersedeRun with lastInput := none, pendingId := none, phase := .idle }
  | .unmount => { hook.supersedeRun with mounted := false }
  | .resume index reply =>
    match hook.runs[index]? with
    | none => hook
    | some { token, job } =>
      match job with
      | .creating input account => hook.resumeCreating index token input account reply
      | .paying payment stage => hook.resumePaying index token payment stage reply
      | .finished => hook
  | .mine hash success =>
    { hook with transactions := hook.transactions.modify hash fun transaction =>
        { transaction with success := transaction.success <|> some success } }

/-- The hook before its first run. -/
def idle (account : Account) : AskHook where
  runToken := 0
  mounted := true
  phase := .idle
  runs := []
  account := account
  wallet := account
  lastInput := none
  pendingId := none
  drafts := []
  requests := []
  transactions := []

end AskHook

/-! ## What a step changes -/

namespace AskStage

/-- The wallet has not been asked for the payment. -/
def isUnsent : AskStage → Bool
  | reading | signing | simulatingPermit | approving | confirmingApproval
  | simulatingAsk => true
  | _ => false

/-- The wallet may be asked next, without a look at the token before. -/
def isUnguarded : AskStage → Bool
  | signing | simulatingPermit | simulatingAsk => true
  | _ => false

/-- The wallet has been asked. -/
def isSending : AskStage → Bool
  | sending _ _ => true
  | _ => false

theorem isSending_of_isUnsent {stage : AskStage} (hunsent : stage.isUnsent = true) :
    stage.isSending = false := by
  cases stage <;> first | rfl | cases hunsent

end AskStage

namespace AskJob

def isUnguarded : AskJob → Bool
  | paying _ stage => stage.isUnguarded
  | _ => false

/-- A payment of a question that the wallet has not been asked for. -/
def isUnsent (id : Text) : AskJob → Bool
  | paying payment stage => payment.id = id && stage.isUnsent
  | _ => false

/-- A payment of a question that is before the wallet. -/
def isSending (id : Text) : AskJob → Bool
  | paying payment stage => payment.id = id && stage.isSending
  | _ => false

variable {payment : Payment} {stage : AskStage} {id : Text}

@[simp]
theorem isUnguarded_paying : (paying payment stage).isUnguarded = stage.isUnguarded := rfl

@[simp]
theorem isUnsent_paying : (paying payment stage).isUnsent id = true ↔
    payment.id = id ∧ stage.isUnsent = true := by
  simp [isUnsent]

@[simp]
theorem isSending_paying : (paying payment stage).isSending id = true ↔
    payment.id = id ∧ stage.isSending = true := by
  simp [isSending]

@[simp]
theorem isSending_finished : (finished).isSending id = false := rfl

@[simp]
theorem isUnsent_finished : (finished).isUnsent id = false := rfl

end AskJob

/-- The reply with which the wallet sends an ask. -/
def Confirms (stage : AskStage) (reply : AskReply) : Prop :=
  reply.sends = true ∧ ∃ functionName chainId, stage = .sending functionName (some chainId)

namespace AskHook

variable {hook next : AskHook} {index token : ℕ} {payment : Payment}
variable {stage : AskStage} {reply : AskReply}

/-- What the replies to a payment leave alone. -/
structure Frame (hook next : AskHook) : Prop where
  runToken : next.runToken = hook.runToken
  lastInput : next.lastInput = hook.lastInput
  pendingId : next.pendingId = hook.pendingId
  drafts : next.drafts = hook.drafts

/-- How the reply to a payment changes the hook. -/
inductive Moves (hook : AskHook) (index token : ℕ) (payment : Payment)
    (stage : AskStage) (reply : AskReply) (next : AskHook) : Prop
  | stay (hreply : ¬ Confirms stage reply) (hruns : next.runs = hook.runs)
      (hrequests : next.requests = hook.requests)
      (htransactions : next.transactions = hook.transactions)
  | finish (hreply : ¬ Confirms stage reply)
      (hruns : next.runs = hook.runs.set index { token, job := .finished })
      (hrequests : next.requests = hook.requests)
      (htransactions : next.transactions = hook.transactions)
  | goOn (later : AskStage) (hreply : ¬ Confirms stage reply)
      (hsending : later.isSending = false)
      (hunsent : later.isUnsent = true → stage.isUnsent = true)
      (hguard : later.isUnguarded = true →
        token = hook.runToken ∨ stage.isUnguarded = true)
      (hruns : next.runs = hook.runs.set index { token, job := .paying payment later })
      (hrequests : next.requests = hook.requests)
      (htransactions : next.transactions = hook.transactions)
  | ask (functionName : String) (chainId : Option ℕ)
      (hreply : ¬ Confirms stage reply)
      (hunsent : stage.isUnsent = true) (hguard : stage.isUnguarded = true)
      (hruns : next.runs = hook.runs.set index
        { token, job := .paying payment (.sending functionName chainId) })
      (hrequests : next.requests = hook.requests ++ [{
        questionId := payment.id, isCurrent := token = hook.runToken }])
      (htransactions : next.transactions = hook.transactions)
  | send (functionName : String) (chainId : ℕ) (job : AskJob)
      (hreply : reply.sends = true) (hstage : stage = .sending functionName (some chainId))
      (hjob : job = .finished ∨ ∃ hash, job = .paying payment (.receipt hash))
      (hruns : next.runs = hook.runs.set index { token, job })
      (hrequests : next.requests = hook.requests)
      (htransactions : next.transactions =
        (hook.send payment functionName chainId).transactions)

section Moves

variable {phase : AskPhase} {later : AskStage}

@[simp]
theorem runs_show : (hook.show token phase).runs = hook.runs := Component.runs_setPhase

@[simp]
theorem runToken_show : (hook.show token phase).runToken = hook.runToken :=
  Component.runToken_setPhase

@[simp]
theorem runs_wait : (hook.wait index token payment later).runs =
    hook.runs.set index { token, job := .paying payment later } := rfl

@[simp]
theorem runs_finish : (hook.finish index token).runs =
    hook.runs.set index { token, job := .finished } := rfl

theorem moves_stay (hreply : ¬ Confirms stage reply) :
    hook.Frame hook ∧ hook.Moves index token payment stage reply hook :=
  ⟨⟨rfl, rfl, rfl, rfl⟩, .stay hreply rfl rfl rfl⟩

theorem moves_finish (hreply : ¬ Confirms stage reply) :
    hook.Frame (hook.finish index token) ∧
      hook.Moves index token payment stage reply (hook.finish index token) :=
  ⟨⟨rfl, rfl, rfl, rfl⟩, .finish hreply rfl rfl rfl⟩

theorem moves_show_finish (hreply : ¬ Confirms stage reply) :
    hook.Frame ((hook.show token phase).finish index token) ∧
      hook.Moves index token payment stage reply
        ((hook.show token phase).finish index token) :=
  ⟨⟨runToken_show, rfl, rfl, rfl⟩, .finish hreply (by simp) rfl rfl⟩

theorem moves_wait (hreply : ¬ Confirms stage reply)
    (hsending : later.isSending = false)
    (hunsent : later.isUnsent = true → stage.isUnsent = true)
    (hguard : later.isUnguarded = true →
      token = hook.runToken ∨ stage.isUnguarded = true) :
    hook.Frame (hook.wait index token payment later) ∧
      hook.Moves index token payment stage reply (hook.wait index token payment later) :=
  ⟨⟨rfl, rfl, rfl, rfl⟩, .goOn later hreply hsending hunsent hguard rfl rfl rfl⟩

theorem moves_show_wait (hreply : ¬ Confirms stage reply)
    (hsending : later.isSending = false)
    (hunsent : later.isUnsent = true → stage.isUnsent = true)
    (hguard : later.isUnguarded = true →
      token = hook.runToken ∨ stage.isUnguarded = true) :
    hook.Frame ((hook.show token phase).wait index token payment later) ∧
      hook.Moves index token payment stage reply
        ((hook.show token phase).wait index token payment later) :=
  ⟨⟨runToken_show, rfl, rfl, rfl⟩,
    .goOn later hreply hsending hunsent hguard (by simp) rfl rfl⟩

theorem moves_failWith {error : TxError} (hreply : ¬ Confirms stage reply) :
    hook.Frame (hook.failWith index token error) ∧
      hook.Moves index token payment stage reply (hook.failWith index token error) := by
  rw [failWith]
  split
  · exact moves_finish hreply
  · split
    · exact moves_show_finish hreply
    · exact moves_show_finish hreply

theorem moves_poll {hash attempts : ℕ} (hreply : ¬ Confirms stage reply) :
    hook.Frame (hook.poll index token payment hash attempts) ∧
      hook.Moves index token payment stage reply
        (hook.poll index token payment hash attempts) := by
  rw [poll]
  split
  · exact moves_finish hreply
  · exact moves_wait hreply rfl Bool.noConfusion Bool.noConfusion

theorem moves_show_poll {hash attempts : ℕ} (hreply : ¬ Confirms stage reply) :
    hook.Frame ((hook.show token phase).poll index token payment hash attempts) ∧
      hook.Moves index token payment stage reply
        ((hook.show token phase).poll index token payment hash attempts) := by
  rw [poll]
  split
  · exact moves_show_finish hreply
  · exact moves_show_wait hreply rfl Bool.noConfusion Bool.noConfusion

theorem moves_request {functionName : String} (hreply : ¬ Confirms stage reply)
    (hunsent : stage.isUnsent = true) (hguard : stage.isUnguarded = true) :
    hook.Frame (hook.request index token payment functionName) ∧
      hook.Moves index token payment stage reply
        (hook.request index token payment functionName) :=
  ⟨⟨runToken_show, rfl, rfl, rfl⟩,
    .ask functionName hook.wallet.chainId hreply hunsent hguard (by simp [request]) rfl rfl⟩

/-- The ask goes out, and the run ends with the error that the wallet reports. -/
theorem moves_lost {functionName : String} {chainId : ℕ} {error : TxError} :
    hook.Frame ((hook.send payment functionName chainId).failWith index token error) ∧
      hook.Moves index token payment (.sending functionName (some chainId)) (.lost error)
        ((hook.send payment functionName chainId).failWith index token error) := by
  have hshown (phase : AskPhase) :
      (((hook.send payment functionName chainId).show token phase).finish index token).runs =
        hook.runs.set index { token, job := .finished } := by
    simp only [runs_finish, runs_show]
    rfl
  rw [failWith]
  split
  · exact ⟨⟨rfl, rfl, rfl, rfl⟩,
      .send functionName chainId _ rfl rfl (.inl rfl) rfl rfl rfl⟩
  · split
    · exact ⟨⟨runToken_show, rfl, rfl, rfl⟩,
        .send functionName chainId _ rfl rfl (.inl rfl) (hshown _) rfl rfl⟩
    · exact ⟨⟨runToken_show, rfl, rfl, rfl⟩,
        .send functionName chainId _ rfl rfl (.inl rfl) (hshown _) rfl rfl⟩

/-- A reply moves its payment in one of the five ways. -/
theorem resumePaying_moves :
    hook.Frame (hook.resumePaying index token payment stage reply) ∧
      hook.Moves index token payment stage reply
        (hook.resumePaying index token payment stage reply) := by
  unfold resumePaying
  split
  -- reading the balance and the allowance
  case h_1 balance allowance =>
    have hreply : ¬ Confirms .reading (.balances balance allowance) := by simp [Confirms]
    split
    · exact moves_finish hreply
    · next htoken =>
      split
      · exact moves_show_finish hreply
      · split
        · exact moves_wait hreply rfl (fun _ => rfl) fun _ => .inl (not_not.mp htoken)
        · exact moves_show_wait hreply rfl (fun _ => rfl) fun _ => .inl (not_not.mp htoken)
  case h_2 => exact moves_show_finish (by simp [Confirms])
  -- the permit
  case h_3 => exact moves_wait (by simp [Confirms]) rfl (fun _ => rfl) fun _ => .inr rfl
  case h_4 =>
    split
    · exact moves_show_finish (by simp [Confirms])
    · exact moves_show_wait (by simp [Confirms]) rfl (fun _ => rfl) Bool.noConfusion
  case h_5 => exact moves_request (by simp [Confirms]) rfl rfl
  case h_6 =>
    exact moves_show_wait (by simp [Confirms]) rfl (fun _ => rfl) Bool.noConfusion
  -- the approval
  case h_7 => exact moves_wait (by simp [Confirms]) rfl (fun _ => rfl) Bool.noConfusion
  case h_8 => exact moves_failWith (by simp [Confirms])
  case h_9 =>
    split
    · exact moves_finish (by simp [Confirms])
    · next htoken =>
      exact moves_wait (by simp [Confirms]) rfl (fun _ => rfl)
        fun _ => .inl (not_not.mp htoken)
  case h_10 => exact moves_failWith (by simp [Confirms])
  -- the ask
  case h_11 => exact moves_request (by simp [Confirms]) rfl rfl
  case h_12 => exact moves_failWith (by simp [Confirms])
  case h_13 functionName chainId =>
    split
    · exact ⟨⟨rfl, rfl, rfl, rfl⟩,
        .send functionName chainId _ rfl rfl (.inl rfl) rfl rfl rfl⟩
    · exact ⟨⟨runToken_show, rfl, rfl, rfl⟩,
        .send functionName chainId _ rfl rfl (.inr ⟨_, rfl⟩) (by simp; rfl) rfl rfl⟩
  case h_14 => exact moves_lost
  case h_15 => exact moves_failWith (by simp [Confirms, AskReply.sends])
  -- the receipt
  case h_16 =>
    split
    · exact moves_stay (by simp [Confirms])
    · exact moves_failWith (by simp [Confirms])
    · split
      · exact moves_finish (by simp [Confirms])
      · exact moves_show_poll (by simp [Confirms])
  case h_17 => exact moves_failWith (by simp [Confirms])
  -- polling
  case h_18 =>
    split
    · exact moves_show_finish (by simp [Confirms])
    · exact moves_show_wait (by simp [Confirms]) rfl Bool.noConfusion Bool.noConfusion
  case h_19 =>
    exact moves_show_wait (by simp [Confirms]) rfl Bool.noConfusion Bool.noConfusion
  case h_20 => exact moves_poll (by simp [Confirms])
  case h_21 =>
    refine moves_stay ?_
    rintro ⟨hsends, functionName, chainId, rfl⟩
    obtain rfl | ⟨error, rfl⟩ := AskReply.sends_iff.mp hsends <;> simp_all

end Moves

/-! ## What starts a payment -/

/-- A payment of a question, about to read the balance, or none at all. -/
def Opens (account : Account) (id : Text) (job : AskJob) : Prop :=
  job = .finished ∨ ∃ payment : Payment, payment.id = id ∧
    account.chainId = some payment.chainId ∧
      escrowAddressFor (some payment.chainId) = some payment.escrow ∧
        uuidToRef id = .ok payment.ask.ref ∧ job = .paying payment .reading

section Starts

variable {phase : AskPhase} {account : Account} {id owner : Text} {input : AskInput}
variable {ask : AskParams}

theorem show_eq : ∃ shown, hook.show token phase = { hook with phase := shown } := by
  rw [AskHook.show, Component.setPhase]
  split
  · exact ⟨phase, rfl⟩
  · exact ⟨hook.phase, rfl⟩

theorem pay_spec (href : uuidToRef id = .ok ask.ref) :
    (∃ shown, (hook.pay token account id owner ask).1 = { hook with phase := shown }) ∧
      Opens account id (hook.pay token account id owner ask).2 := by
  unfold pay
  split
  · next chainId escrow usdc hchain hescrow _ _ =>
    exact ⟨show_eq, .inr ⟨_, rfl, hchain, by rw [← hchain]; exact hescrow, href, rfl⟩⟩
  · exact ⟨show_eq, .inl rfl⟩

theorem startPay_spec :
    (∃ shown, (hook.startPay account id input).1 =
        { hook.supersedeRun with phase := shown }) ∧
      Opens account id (hook.startPay account id input).2 := by
  unfold startPay
  dsimp only
  split
  · exact ⟨show_eq, .inl rfl⟩
  · split
    · exact ⟨show_eq, .inl rfl⟩
    · split
      · exact ⟨⟨_, rfl⟩, .inl rfl⟩
      · next ref href => exact pay_spec href

theorem submit_spec : ∃ shown,
    hook.submit input = { hook.supersedeRun with
      lastInput := some input, pendingId := none, phase := shown } ∨
    hook.submit input = { hook.supersedeRun with
      lastInput := some input, pendingId := none, phase := shown
      runs := hook.runs ++ [{
        token := hook.runToken + 1, job := .creating input hook.account }] } := by
  have hshown (phase : AskPhase) := @show_eq { hook.supersedeRun with
    lastInput := some input, pendingId := none } (hook.runToken + 1) phase
  unfold submit
  dsimp only
  split
  · obtain ⟨shown, hshown⟩ := hshown (.error "Connect your wallet to pay.")
    exact ⟨shown, .inl hshown⟩
  · split
    · obtain ⟨shown, hshown⟩ := hshown (.error "Switch to Base Sepolia to pay.")
      exact ⟨shown, .inl hshown⟩
    · obtain ⟨shown, hshown⟩ := hshown .creating
      refine ⟨shown, .inr ?_⟩
      change ({ AskHook.show _ (hook.runToken + 1) .creating with
        toComponent := (AskHook.show _ (hook.runToken + 1) .creating).spawn _ } : AskHook) = _
      rw [hshown]
      rfl

theorem retry_spec : hook.retry = hook ∨ (∃ input, hook.retry = hook.submit input) ∨
    ∃ id job shown, hook.pendingId = some id ∧ Opens hook.account id job ∧
      hook.retry = { hook.supersedeRun with
        phase := shown
        runs := hook.runs ++ [{ token := hook.runToken + 1, job }] } := by
  unfold retry
  split
  · exact .inl rfl
  · next input _ =>
    split
    · exact .inr (.inl ⟨input, rfl⟩)
    · next id hid =>
      obtain ⟨⟨shown, hstarted⟩, hopens⟩ := @startPay_spec hook hook.account id input
      refine .inr (.inr ⟨id, _, shown, hid, hopens, ?_⟩)
      dsimp only
      rw [hstarted]
      rfl

theorem resumeCreating_spec :
    (∃ shown, hook.resumeCreating index token input account reply =
      { hook with phase := shown }) ∨
    (∃ shown, hook.resumeCreating index token input account reply =
      { hook with
        phase := shown
        runs := hook.runs.set index { token, job := .finished } }) ∨
    ∃ id, reply = .created id ∧ isUuid id = true ∧ id ∉ hook.drafts.map Draft.id ∧
      let minted : List Draft := hook.drafts ++ [{
        id, chainId := account.chainId.getD Api.DEFAULT_CHAIN_ID }]
      (hook.resumeCreating index token input account reply = { hook with
        drafts := minted
        runs := hook.runs.set index { token, job := .finished } } ∨
      token = hook.runToken ∧ ∃ job shown, Opens account id job ∧
        hook.resumeCreating index token input account reply = { hook.supersedeRun with
          drafts := minted, pendingId := some id, phase := shown
          runs := hook.runs.set index { token := hook.runToken + 1, job } }) := by
  unfold resumeCreating
  split
  · next id =>
    split
    · next hfresh =>
      refine .inr (.inr ⟨id, rfl, hfresh.1, hfresh.2, ?_⟩)
      dsimp only
      split
      · exact .inl rfl
      · next htoken =>
        obtain ⟨⟨shown, hstarted⟩, hopens⟩ := @startPay_spec
          { hook with
            drafts := hook.drafts ++ [{
              id, chainId := account.chainId.getD Api.DEFAULT_CHAIN_ID }]
            pendingId := some id } account id input
        refine .inr ⟨not_not.mp htoken, _, shown, hopens, ?_⟩
        rw [hstarted]
        rfl
    · exact .inl ⟨hook.phase, rfl⟩
  · next error =>
    obtain ⟨shown, hshown⟩ := @show_eq hook token (.error error.message)
    refine .inr (.inl ⟨shown, ?_⟩)
    rw [hshown]
    rfl
  · exact .inl ⟨hook.phase, rfl⟩

end Starts

/-! ## What every payment is for -/

def ids (hook : AskHook) : List Text := hook.drafts.map Draft.id

/-- A payment of a minted question to the escrow of the chain it took. -/
structure Payable (hook : AskHook) (payment : Payment) : Prop where
  minted : payment.id ∈ hook.ids
  ref : uuidToRef payment.id = .ok payment.ask.ref
  escrow : escrowAddressFor (some payment.chainId) = some payment.escrow

/-- Only minted questions are paid. -/
structure Grounded (hook : AskHook) : Prop where
  runs : hook.Every fun run => ∀ payment stage, run.job = .paying payment stage →
    hook.Payable payment
  transactions : ∀ transaction ∈ hook.transactions,
    transaction.questionId ∈ hook.ids ∧
      uuidToRef transaction.questionId = .ok transaction.ask.ref
  pendingId : ∀ id ∈ hook.pendingId, id ∈ hook.ids
  ids_nodup : hook.ids.Nodup
  ids_uuid : ∀ id ∈ hook.ids, isUuid id = true

theorem Payable.mono (hpayable : hook.Payable payment) (hids : hook.ids ⊆ next.ids) :
    next.Payable payment :=
  { hpayable with minted := hids hpayable.minted }

section Grounded

variable {id : Text} {account : Account} {job : AskJob}

theorem Opens.payable (hopens : Opens account id job) (hid : id ∈ hook.ids) :
    ∀ payment stage, job = .paying payment stage → hook.Payable payment := by
  rintro payment stage rfl
  obtain hfinished | ⟨paid, rfl, -, hescrow, href, hjob⟩ := hopens
  · cases hfinished
  · cases hjob
    exact ⟨hid, href, hescrow⟩

/-- A step that mints nothing. -/
theorem Grounded.of_runs (hgrounded : hook.Grounded) (hdrafts : next.drafts = hook.drafts)
    (htransactions : ∀ transaction ∈ next.transactions,
      transaction.questionId ∈ hook.ids ∧
        uuidToRef transaction.questionId = .ok transaction.ask.ref)
    (hpending : ∀ id ∈ next.pendingId, id ∈ hook.ids)
    (hruns : next.Every fun run => run ∈ hook.runs ∨
      ∀ payment stage, run.job = .paying payment stage → hook.Payable payment) :
    next.Grounded := by
  have hids : next.ids = hook.ids := congrArg (List.map Draft.id) hdrafts
  have hsubset : hook.ids ⊆ next.ids := by
    rw [hids]
    exact List.Subset.refl _
  refine ⟨?_, ?_, ?_, ?_, ?_⟩
  · intro run hrun payment stage hjob
    obtain hold | hnew := hruns run hrun
    · exact (hgrounded.runs run hold payment stage hjob).mono hsubset
    · exact (hnew payment stage hjob).mono hsubset
  · rw [hids]
    exact htransactions
  · rw [hids]
    exact hpending
  · rw [hids]
    exact hgrounded.ids_nodup
  · rw [hids]
    exact hgrounded.ids_uuid

/-- A step that mints a question. -/
theorem Grounded.mint {chainId : ℕ} (hgrounded : hook.Grounded)
    (huuid : isUuid id = true) (hfresh : id ∉ hook.ids)
    (hdrafts : next.drafts = hook.drafts ++ [⟨id, chainId⟩])
    (htransactions : next.transactions = hook.transactions)
    (hpending : ∀ other ∈ next.pendingId, other = id ∨ other ∈ hook.ids)
    (hruns : next.Every fun run => run ∈ hook.runs ∨
      ∀ payment stage, run.job = .paying payment stage → next.Payable payment) :
    next.Grounded := by
  have hids : next.ids = hook.ids ++ [id] := by
    rw [ids, hdrafts, List.map_append]
    rfl
  have hsubset : hook.ids ⊆ next.ids := by
    rw [hids]
    exact List.subset_append_left _ _
  refine ⟨?_, ?_, ?_, ?_, ?_⟩
  · intro run hrun payment stage hjob
    obtain hold | hnew := hruns run hrun
    · exact (hgrounded.runs run hold payment stage hjob).mono hsubset
    · exact hnew payment stage hjob
  · intro transaction htransaction
    rw [htransactions] at htransaction
    obtain ⟨hminted, href⟩ := hgrounded.transactions transaction htransaction
    exact ⟨hsubset hminted, href⟩
  · intro other hother
    rw [hids, List.mem_append, List.mem_singleton]
    exact (hpending other hother).symm
  · rw [hids, ← List.concat_eq_append, List.nodup_concat]
    exact ⟨hfresh, hgrounded.ids_nodup⟩
  · rw [hids]
    intro other hother
    obtain hold | hnew := List.mem_append.mp hother
    · exact hgrounded.ids_uuid other hold
    · rw [List.mem_singleton.mp hnew]
      exact huuid

theorem mem_set {run other : AskRun} (hother : other ∈ hook.runs.set index run) :
    other ∈ hook.runs ∨ other = run := List.mem_or_eq_of_mem_set hother

/-- The run that a reply moves on is grounded again. -/
theorem Grounded.resumePaying (hgrounded : hook.Grounded)
    (hrun : hook.runs[index]? = some { token, job := .paying payment stage }) :
    (hook.resumePaying index token payment stage reply).Grounded := by
  have hpayable : hook.Payable payment := hgrounded.runs.at hrun payment stage rfl
  have hput {job : AskJob} (hjob : job = .finished ∨ ∃ later, job = .paying payment later) :
      ∀ paid later, job = .paying paid later → hook.Payable paid := by
    rintro paid later rfl
    obtain hfinished | ⟨_, hsame⟩ := hjob
    · cases hfinished
    · cases hsame
      exact hpayable
  obtain ⟨hframe, hmoves⟩ := @resumePaying_moves hook index token payment stage reply
  generalize hook.resumePaying index token payment stage reply = next at hframe hmoves
  have hpending : ∀ id ∈ next.pendingId, id ∈ hook.ids := by
    rw [hframe.pendingId]
    exact hgrounded.pendingId
  have hset {job : AskJob} (hruns : next.runs = hook.runs.set index { token, job })
      (hjob : job = .finished ∨ ∃ later, job = .paying payment later) :
      next.Every fun run => run ∈ hook.runs ∨
        ∀ paid later, run.job = .paying paid later → hook.Payable paid := by
    intro run hmem
    rw [hruns] at hmem
    obtain hold | rfl := mem_set hmem
    · exact .inl hold
    · exact .inr (hput hjob)
  have hkept (htransactions : next.transactions = hook.transactions) :
      ∀ transaction ∈ next.transactions, transaction.questionId ∈ hook.ids ∧
        uuidToRef transaction.questionId = .ok transaction.ask.ref := by
    rw [htransactions]
    exact hgrounded.transactions
  cases hmoves with
  | stay hreply hruns hrequests htransactions =>
      refine hgrounded.of_runs hframe.drafts (hkept htransactions) hpending ?_
      intro run hmem
      exact .inl (hruns ▸ hmem)
  | finish hreply hruns hrequests htransactions =>
      exact hgrounded.of_runs hframe.drafts (hkept htransactions) hpending
        (hset hruns (.inl rfl))
  | goOn later hreply hsending hunsent hguard hruns hrequests htransactions =>
      exact hgrounded.of_runs hframe.drafts (hkept htransactions) hpending
        (hset hruns (.inr ⟨later, rfl⟩))
  | ask functionName chainId hreply hunsent hguard hruns hrequests htransactions =>
      exact hgrounded.of_runs hframe.drafts (hkept htransactions) hpending
        (hset hruns (.inr ⟨_, rfl⟩))
  | send functionName chainId job hreply hstage hjob hruns hrequests htransactions =>
      refine hgrounded.of_runs hframe.drafts ?_ hpending
        (hset hruns (hjob.imp_right fun ⟨hash, hjob⟩ => ⟨_, hjob⟩))
      intro transaction htransaction
      rw [htransactions] at htransaction
      obtain hold | hnew := List.mem_append.mp htransaction
      · exact hgrounded.transactions transaction hold
      · rw [List.mem_singleton.mp hnew]
        exact ⟨hpayable.minted, hpayable.ref⟩

/-- Nothing that happens pays a question that was not minted. -/
theorem Grounded.step {action : AskStep} (hgrounded : hook.Grounded) :
    (hook.step action).Grounded := by
  have hsame (next : AskHook) (hdrafts : next.drafts = hook.drafts)
      (htransactions : next.transactions = hook.transactions)
      (hpending : next.pendingId = none ∨ next.pendingId = hook.pendingId)
      (hruns : ∀ run ∈ next.runs, run ∈ hook.runs ∨
        ∀ payment stage, run.job = .paying payment stage → hook.Payable payment) :
      next.Grounded := by
    refine hgrounded.of_runs hdrafts ?_ ?_ hruns
    · rw [htransactions]
      exact hgrounded.transactions
    · obtain hnone | hkept := hpending
      · rw [hnone]
        intro id hid
        cases hid
      · rw [hkept]
        exact hgrounded.pendingId
  have hsubmit (input : AskInput) : (hook.submit input).Grounded := by
    obtain ⟨shown, hsubmit | hsubmit⟩ := @submit_spec hook input
    · rw [hsubmit]
      exact hsame _ rfl rfl (.inl rfl) fun run hrun => .inl hrun
    · rw [hsubmit]
      refine hsame _ rfl rfl (.inl rfl) fun run hrun => ?_
      obtain hold | hnew := List.mem_append.mp hrun
      · exact .inl hold
      · rw [List.mem_singleton.mp hnew]
        exact .inr fun payment stage hjob => by cases hjob
  cases action with
  | switch wallet => exact hsame _ rfl rfl (.inr rfl) fun run hrun => .inl hrun
  | render => exact hsame _ rfl rfl (.inr rfl) fun run hrun => .inl hrun
  | submit input => exact hsubmit input
  | retry =>
      obtain hretry | ⟨input, hretry⟩ | ⟨id, job, shown, hid, hopens, hretry⟩ :=
        @retry_spec hook
      · rw [AskHook.step, hretry]
        exact hgrounded
      · rw [AskHook.step, hretry]
        exact hsubmit input
      · rw [AskHook.step, hretry]
        refine hsame _ rfl rfl (.inr rfl) fun run hrun => ?_
        obtain hold | hnew := List.mem_append.mp hrun
        · exact .inl hold
        · rw [List.mem_singleton.mp hnew]
          exact .inr (hopens.payable (hgrounded.pendingId id hid))
  | recheck => exact hgrounded
  | reset => exact hsame _ rfl rfl (.inl rfl) fun run hrun => .inl hrun
  | unmount => exact hsame _ rfl rfl (.inr rfl) fun run hrun => .inl hrun
  | resume index reply =>
      rw [AskHook.step]
      split
      · exact hgrounded
      · next token job hrun =>
        split
        · next input account =>
          obtain ⟨shown, heq⟩ | ⟨shown, heq⟩ | ⟨id, -, huuid, hfresh, hminted⟩ :=
            @resumeCreating_spec hook index token reply account input
          · rw [heq]
            exact hsame _ rfl rfl (.inr rfl) fun run hmem => .inl hmem
          · rw [heq]
            refine hsame _ rfl rfl (.inr rfl) fun run hmem => ?_
            obtain hold | rfl := mem_set hmem
            · exact .inl hold
            · exact .inr fun payment stage hjob => by cases hjob
          · obtain heq | ⟨-, job, shown, hopens, heq⟩ := hminted
            · rw [heq]
              refine hgrounded.mint huuid hfresh rfl rfl ?_ fun run hmem => ?_
              · exact fun other hother => .inr (hgrounded.pendingId other hother)
              · obtain hold | rfl := mem_set hmem
                · exact .inl hold
                · exact .inr fun payment stage hjob => by cases hjob
            · rw [heq]
              refine hgrounded.mint huuid hfresh rfl rfl ?_ fun run hmem => ?_
              · exact fun other hother => .inl (Option.some_inj.mp hother).symm
              · obtain hold | rfl := mem_set hmem
                · exact .inl hold
                · exact .inr (hopens.payable (by simp [ids]))
        · exact hgrounded.resumePaying hrun
        · exact hgrounded
  | mine hash success =>
      refine hgrounded.of_runs rfl ?_ hgrounded.pendingId fun run hrun => .inl hrun
      rw [AskHook.step, forall_mem_modify]
      · exact hgrounded.transactions
      · exact fun transaction => Iff.rfl

theorem grounded_idle (account : Account) : (idle account).Grounded where
  runs := fun _ hrun => absurd hrun List.not_mem_nil
  transactions := fun _ htransaction => absurd htransaction List.not_mem_nil
  pendingId := fun _ hid => by cases hid
  ids_nodup := List.nodup_nil
  ids_uuid := fun _ hid => absurd hid List.not_mem_nil

end Grounded

end AskHook

end BuyAnAnswer.Web
