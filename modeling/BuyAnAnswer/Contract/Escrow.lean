import BuyAnAnswer.Contract.World

/-!
# The escrow contract

The functions of `BuyAnAnswerEscrow`, statement by statement: each check, each
storage write, each call to the token and each event stands where the source
has it.  The code is generic in the token, so that the same functions run
against a standard token and against one that calls back.
-/

namespace BuyAnAnswer.Contract

open BuyAnAnswer.Transaction

/-- Basis-points denominator (100% = 10_000 bp). -/
def BPS_DENOMINATOR : Uint 256 := 10000

/-- Hard cap on the answer fee: 10%. -/
def MAX_ANSWER_FEE_BPS : Uint 16 := 1000

/-- Hard cap on the cancel fee: 5%. -/
def MAX_CANCEL_FEE_BPS : Uint 16 := 500

/-- Hard cap on the answer window: 30 days. -/
def MAX_ANSWER_WINDOW : Uint 64 := 2592000

structure ConstructorArgs where
  usdc : Address
  owner : Address
  feeAddress : Address
  answerFeeBps : Uint 16
  cancelFeeBps : Uint 16
  answerWindow : Uint 64

/-- The constructor, after those of the inherited modules. -/
def construct (oz : OpenZeppelin) (args : ConstructorArgs) :
    Except Error (Storage oz) :=
  match oz.ownable.construct args.owner with
  | .error failure => .error failure
  | .ok ownable =>
    if args.usdc = 0 then .error .zeroAddress
    else if args.feeAddress = 0 then .error .zeroAddress
    else if args.answerFeeBps > MAX_ANSWER_FEE_BPS then .error .feeTooHigh
    else if args.cancelFeeBps > MAX_CANCEL_FEE_BPS then .error .feeTooHigh
    else if args.answerWindow = 0 ∨ args.answerWindow > MAX_ANSWER_WINDOW then
      .error .invalidWindow
    else .ok {
      feeAddress := args.feeAddress
      answerWindow := args.answerWindow
      answerFeeBps := args.answerFeeBps
      cancelFeeBps := args.cancelFeeBps
      nextId := 1
      questions := fun _ => .unwritten
      questionRef := fun _ => 0
      withdrawable := fun _ => 0
      ownable := ownable
      pausable := oz.pausable.initial
      lock := oz.lock.initial }

variable {oz : OpenZeppelin} {T A : Type}

/-! ## Modifiers -/

def whenNotPaused (body : Exec oz T A) : Exec oz T A := do
  let pausable ← load (·.pausable)
  require (oz.pausable.paused pausable = false) .enforcedPause
  body

def nonReentrant (body : Exec oz T A) : Exec oz T A := do
  let lock ← load (·.lock)
  let entered ← lift (oz.lock.enter lock)
  store fun escrow => { escrow with lock := entered }
  let value ← body
  store fun escrow => { escrow with lock := oz.lock.leave escrow.lock }
  return value

def onlyOwner (msg : Msg) (body : Exec oz T A) : Exec oz T A := do
  let ownable ← load (·.ownable)
  require (oz.ownable.owner ownable = msg.sender)
    (.ownableUnauthorizedAccount msg.sender)
  body

/-! ## Asking -/

/-- `_createQuestion`: write the open record and announce it. -/
def createQuestion (msg : Msg) (ref : Bytes32) (answerer : Address)
    (amount : Uint 128) : Exec oz T (Uint 256) := do
  require (answerer ≠ 0) .zeroAddress
  require (amount ≠ 0) .zeroAmount
  let id ← load (·.nextId)
  let next ← lift (checkedAdd id 1)
  store fun escrow => { escrow with nextId := next }
  let answerWindow ← load (·.answerWindow)
  let deadline ← lift (checkedAdd (truncate 64 msg.timestamp) answerWindow)
  store fun escrow => { escrow with
    questions := Function.update escrow.questions id
      { asker := msg.sender, answerer, amount, deadline, status := .open } }
  store fun escrow => { escrow with
    questionRef := Function.update escrow.questionRef id ref }
  emit (.questionAsked id ref msg.sender answerer amount deadline)
  return id

def askQuestion (token : Token oz T) (self : Address) (msg : Msg)
    (ref : Bytes32) (answerer : Address) (amount : Uint 128) :
    Exec oz T (Uint 256) :=
  whenNotPaused <| nonReentrant do
    let id ← createQuestion msg ref answerer amount
    token.safeTransferFrom msg.sender self (widen uint128_le_uint256 amount)
    return id

def askQuestionWithPermit (token : Token oz T) (self : Address) (msg : Msg)
    (ref : Bytes32) (answerer : Address) (amount : Uint 128)
    (value deadline : Uint 256) (v : Uint 8) (r s : Bytes32) :
    Exec oz T (Uint 256) :=
  whenNotPaused <| nonReentrant do
    let id ← createQuestion msg ref answerer amount
    attempt (token.permit msg.sender self value deadline v r s)
    token.safeTransferFrom msg.sender self (widen uint128_le_uint256 amount)
    return id

/-! ## Settling -/

def setStatus (id : Uint 256) (status : Status) : Exec oz T Unit :=
  store fun escrow => { escrow with
    questions := Function.update escrow.questions id
      { escrow.questions id with status } }

/-- `withdrawable[account] += amount`. -/
def credit (account : Address) (amount : Uint 256) : Exec oz T Unit := do
  let balance ← load (·.withdrawable account)
  let sum ← lift (checkedAdd balance amount)
  store fun escrow => { escrow with
    withdrawable := Function.update escrow.withdrawable account sum }

/-- Common body of the settlements that charge a fee. -/
def settleWithFee (id : Uint 256) (authorise : Question → Exec oz T Unit)
    (feeBps : Storage oz → Uint 16) (terminal : Status)
    (recipient : Question → Address) (event : Bytes32 → Question → Event) :
    Exec oz T Unit := do
  let question ← load (·.questions id)
  require (question.status = .open) .notOpen
  authorise question
  let bps ← load feeBps
  let product ← lift
    (checkedMul (widen uint128_le_uint256 question.amount)
      (widen uint16_le_uint256 bps))
  let fee := product / BPS_DENOMINATOR
  let payout ← lift
    (checkedSub (widen uint128_le_uint256 question.amount) fee)
  setStatus id terminal
  credit (recipient question) payout
  if fee ≠ 0 then
    let feeAddress ← load (·.feeAddress)
    credit feeAddress fee
  let ref ← load (·.questionRef id)
  emit (event ref question)

/-- Common body of the settlements that refund the asker in full. -/
def settleInFull (id : Uint 256) (authorise : Question → Exec oz T Unit)
    (terminal : Status) (event : Bytes32 → Event) : Exec oz T Unit := do
  let question ← load (·.questions id)
  require (question.status = .open) .notOpen
  authorise question
  setStatus id terminal
  credit question.asker (widen uint128_le_uint256 question.amount)
  let ref ← load (·.questionRef id)
  emit (event ref)

def answerQuestion (msg : Msg) (id : Uint 256) : Exec oz T Unit :=
  whenNotPaused <| nonReentrant <| settleWithFee id
    (fun question => require (msg.sender = question.answerer) .notAnswerer)
    (·.answerFeeBps) .answered (·.answerer)
    (fun ref question => .questionAnswered id ref question.answerer)

def declineQuestion (msg : Msg) (id : Uint 256) : Exec oz T Unit :=
  whenNotPaused <| nonReentrant <| settleInFull id
    (fun question => require (msg.sender = question.answerer) .notAnswerer)
    .declined (fun ref => .questionDeclined id ref)

def cancelQuestion (msg : Msg) (id : Uint 256) : Exec oz T Unit :=
  whenNotPaused <| nonReentrant <| settleWithFee id
    (fun question => do
      require (msg.sender = question.asker) .notAsker
      require (msg.timestamp < question.deadline) .deadlinePassed)
    (·.cancelFeeBps) .cancelled (·.asker)
    (fun ref _ => .questionCancelled id ref)

def reclaimQuestion (msg : Msg) (id : Uint 256) : Exec oz T Unit :=
  whenNotPaused <| nonReentrant <| settleInFull id
    (fun question =>
      require (question.deadline ≤ msg.timestamp) .deadlineNotPassed)
    .reclaimed (fun ref => .questionReclaimed id ref)

/-! ## Withdrawing -/

def withdraw (token : Token oz T) (msg : Msg) : Exec oz T Unit :=
  nonReentrant do
    let amount ← load (·.withdrawable msg.sender)
    require (amount ≠ 0) .nothingToWithdraw
    store fun escrow => { escrow with
      withdrawable := Function.update escrow.withdrawable msg.sender 0 }
    token.safeTransfer msg.sender amount
    emit (.withdrawn msg.sender amount)

/-! ## Administration -/

/-- Common body of the setters: the owner writes a parameter that passes its
check, and the new value is announced. -/
def setParameter (msg : Msg) (accepted : Prop) [Decidable accepted]
    (failure : Error) (change : Storage oz → Storage oz) (event : Event) :
    Exec oz T Unit :=
  onlyOwner msg do
    require accepted failure
    store change
    emit event

def setAnswerFee (msg : Msg) (bps : Uint 16) : Exec oz T Unit :=
  setParameter msg (bps ≤ MAX_ANSWER_FEE_BPS) .feeTooHigh
    (fun escrow => { escrow with answerFeeBps := bps }) (.answerFeeUpdated bps)

def setCancelFee (msg : Msg) (bps : Uint 16) : Exec oz T Unit :=
  setParameter msg (bps ≤ MAX_CANCEL_FEE_BPS) .feeTooHigh
    (fun escrow => { escrow with cancelFeeBps := bps }) (.cancelFeeUpdated bps)

def setAnswerWindow (msg : Msg) (window : Uint 64) : Exec oz T Unit :=
  setParameter msg (window ≠ 0 ∧ window ≤ MAX_ANSWER_WINDOW) .invalidWindow
    (fun escrow => { escrow with answerWindow := window })
    (.answerWindowUpdated window)

def setFeeAddress (msg : Msg) (newFeeAddress : Address) : Exec oz T Unit :=
  setParameter msg (newFeeAddress ≠ 0) .zeroAddress
    (fun escrow => { escrow with feeAddress := newFeeAddress })
    (.feeAddressUpdated newFeeAddress)

def pause (msg : Msg) : Exec oz T Unit :=
  onlyOwner msg do
    let pausable ← load (·.pausable)
    let after ← lift (oz.pausable.pause pausable)
    store fun escrow => { escrow with pausable := after }

def unpause (msg : Msg) : Exec oz T Unit :=
  onlyOwner msg do
    let pausable ← load (·.pausable)
    let after ← lift (oz.pausable.unpause pausable)
    store fun escrow => { escrow with pausable := after }

/-- An operation of `Ownable2Step` that the contract inherits unchanged. -/
def inheritedOwnable
    (operation : oz.ownable.Storage → Except Error oz.ownable.Storage) :
    Exec oz T Unit := do
  let ownable ← load (·.ownable)
  let after ← lift (operation ownable)
  store fun escrow => { escrow with ownable := after }

def transferOwnership (msg : Msg) (newOwner : Address) : Exec oz T Unit :=
  inheritedOwnable (oz.ownable.transferOwnership msg.sender newOwner)

def acceptOwnership (msg : Msg) : Exec oz T Unit :=
  inheritedOwnable (oz.ownable.acceptOwnership msg.sender)

def renounceOwnership (msg : Msg) : Exec oz T Unit :=
  inheritedOwnable (oz.ownable.renounceOwnership msg.sender)

/-! ## Calls -/

/-- The state-changing functions of the contract with their arguments. -/
inductive Call where
  | askQuestion (ref : Bytes32) (answerer : Address) (amount : Uint 128)
  | askQuestionWithPermit (ref : Bytes32) (answerer : Address)
      (amount : Uint 128) (value deadline : Uint 256) (v : Uint 8)
      (r s : Bytes32)
  | answerQuestion (id : Uint 256)
  | declineQuestion (id : Uint 256)
  | cancelQuestion (id : Uint 256)
  | reclaimQuestion (id : Uint 256)
  | withdraw
  | setAnswerFee (bps : Uint 16)
  | setCancelFee (bps : Uint 16)
  | setAnswerWindow (window : Uint 64)
  | setFeeAddress (newFeeAddress : Address)
  | pause
  | unpause
  | transferOwnership (newOwner : Address)
  | acceptOwnership
  | renounceOwnership
  deriving DecidableEq, Repr

/-- The function a call selects; only the asks return a value. -/
def dispatch (token : Token oz T) (self : Address) (msg : Msg) :
    Call → Exec oz T (Option (Uint 256))
  | .askQuestion ref answerer amount =>
      some <$> askQuestion token self msg ref answerer amount
  | .askQuestionWithPermit ref answerer amount value deadline v r s =>
      some <$> askQuestionWithPermit token self msg ref answerer amount value
        deadline v r s
  | .answerQuestion id => (fun _ => none) <$> answerQuestion msg id
  | .declineQuestion id => (fun _ => none) <$> declineQuestion msg id
  | .cancelQuestion id => (fun _ => none) <$> cancelQuestion msg id
  | .reclaimQuestion id => (fun _ => none) <$> reclaimQuestion msg id
  | .withdraw => (fun _ => none) <$> withdraw token msg
  | .setAnswerFee bps => (fun _ => none) <$> setAnswerFee msg bps
  | .setCancelFee bps => (fun _ => none) <$> setCancelFee msg bps
  | .setAnswerWindow window => (fun _ => none) <$> setAnswerWindow msg window
  | .setFeeAddress newFeeAddress =>
      (fun _ => none) <$> setFeeAddress msg newFeeAddress
  | .pause => (fun _ => none) <$> pause msg
  | .unpause => (fun _ => none) <$> unpause msg
  | .transferOwnership newOwner =>
      (fun _ => none) <$> transferOwnership msg newOwner
  | .acceptOwnership => (fun _ => none) <$> acceptOwnership msg
  | .renounceOwnership => (fun _ => none) <$> renounceOwnership msg

/-- A call of the contract in its own frame. -/
def call (token : Token oz T) (self : Address) (msg : Msg) (request : Call) :
    Exec oz T (Option (Uint 256)) :=
  frame (dispatch token self msg request)

end BuyAnAnswer.Contract
