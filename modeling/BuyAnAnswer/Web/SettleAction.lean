import BuyAnAnswer.Core.Component
import BuyAnAnswer.Core.Machine
import BuyAnAnswer.Shared.Schema
import BuyAnAnswer.Web.Chains

/-!
# The settle hook

`useSettleAction` as a state machine.  A run stops at every call it waits for and
goes on with the reply, whenever that comes; between two stops nothing else
happens.  The wallet sends a transaction on the chain it is on when it is asked.
-/

namespace BuyAnAnswer.Web

open Text Shared

inductive SettleKind where
  | answer
  | decline
  | cancel
  | reclaim
  deriving DecidableEq, Repr

def KIND_META : SettleKind → String
  | .answer => "answerQuestion"
  | .decline => "declineQuestion"
  | .cancel => "cancelQuestion"
  | .reclaim => "reclaimQuestion"

inductive SettlePhase where
  | idle
  | preparing
  | confirming
  | pending (hash : ℕ)
  | indexing (hash : ℕ) (slow : Bool)
  | confirmed (hash : ℕ) (status : QuestionStatus)
  | rejected (message : String)
  | error (message : String)
  deriving DecidableEq, Repr

structure SettleRunInput where
  questionId : Text
  onchainId : ℤ
  preflight : Bool
  deriving DecidableEq, Repr

/-- `runInput` of the question views; a question without an on-chain id has none. -/
def runInput (question : Question) (preflight : Bool) : Option SettleRunInput := do
  let onchainId ← bigInt (← question.onchainId)
  return { questionId := question.id, onchainId, preflight }

theorem runInput_eq_some {question : Question} {preflight : Bool} {input : SettleRunInput}
    (hinput : runInput question preflight = some input) :
    question.id = input.questionId ∧
      question.onchainId.bind bigInt = some input.onchainId := by
  unfold runInput at hinput
  cases honchain : question.onchainId.bind bigInt with
  | none =>
      cases htext : question.onchainId with
      | none => simp [htext] at hinput
      | some text => simp_all
  | some onchainId =>
      obtain ⟨text, htext, hvalue⟩ := Option.bind_eq_some_iff.mp honchain
      simp only [htext, hvalue, Option.bind_eq_bind, Option.bind_some] at hinput
      cases hinput
      exact ⟨rfl, rfl⟩

/-- A sent transaction; its hash is its place in the list. -/
structure SettleTransaction where
  chainId : ℕ
  address : Text
  functionName : String
  onchainId : ℤ
  questionId : Text
  success : Option Bool
  deriving DecidableEq, Repr

/-- What a run waits for.  A request keeps the chain the wallet was on. -/
inductive SettleStage where
  | preflight
  | simulating
  | sending (chainId : Option ℕ)
  | receipt (hash : ℕ)
  | polling (hash attempts : ℕ)
  | sleeping (hash attempts : ℕ)
  | finished
  deriving DecidableEq, Repr

/-- A run, with what it took from the render in which it started. -/
structure SettleRun where
  token : ℕ
  input : SettleRunInput
  address : Text
  chainId : ℕ
  escrow : Text
  stage : SettleStage
  deriving DecidableEq, Repr

structure SettleHook extends Component SettlePhase SettleRun where
  account : Account
  wallet : Account
  lastInput : Option SettleRunInput
  transactions : List SettleTransaction

/-- The reply to a call.  A transaction goes out also if the wallet's reply is lost. -/
inductive SettleReply where
  | done
  | failed (error : TxError)
  | lost (error : TxError)
  | status (status : QuestionStatus)
  deriving DecidableEq, Repr

/-- The wallet, asked for a transaction, has sent it. -/
def SettleReply.sends : SettleReply → Bool
  | .done | .lost _ => true
  | _ => false

theorem SettleReply.sends_iff {reply : SettleReply} :
    reply.sends = true ↔ reply = .done ∨ ∃ error, reply = .lost error := by
  cases reply <;> simp [sends]

inductive SettleStep where
  | switch (wallet : Account)
  | render
  | run (input : SettleRunInput)
  | retry
  | recheck
  | reset
  | unmount
  | resume (index : ℕ) (reply : SettleReply)
  | mine (hash : ℕ) (success : Bool)
  deriving DecidableEq, Repr

def SLOW_AFTER_POLLS : ℕ := 16

namespace SettleHook

variable (hook : SettleHook) (index : ℕ) (run : SettleRun)

def «show» (token : ℕ) (phase : SettlePhase) : SettleHook :=
  { hook with toComponent := hook.setPhase token phase }

/-- The run goes on to wait at a stage. -/
def wait (stage : SettleStage) : SettleHook :=
  { hook with toComponent := hook.toComponent.put index { run with stage } }

/-- The `catch` block. -/
def failWith (error : TxError) : SettleHook :=
  if run.token ≠ hook.runToken then hook.wait index run .finished
  else if error.isUserRejection then
    (hook.show run.token (.rejected "You cancelled the request in your wallet.")).wait
      index run .finished
  else (hook.show run.token (.error error.message)).wait index run .finished

/-- The head of the polling loop. -/
def poll (hash attempts : ℕ) : SettleHook :=
  if run.token ≠ hook.runToken then hook.wait index run .finished
  else hook.wait index run (.polling hash attempts)

/-- A read that settles nothing: sleep until the next one. -/
def afterRead (hash attempts : ℕ) : SettleHook :=
  (hook.show run.token (.indexing hash (SLOW_AFTER_POLLS ≤ attempts + 1))).wait
    index run (.sleeping hash (attempts + 1))

def simulate : SettleHook :=
  (hook.show run.token .confirming).wait index run .simulating

/-- Start a run with a token that was just taken. -/
def execute (input : SettleRunInput) : SettleHook :=
  let token := hook.runToken
  match hook.account.address with
  | none => hook.show token (.error "Connect your wallet to continue.")
  | some address =>
    match hook.account.chainId with
    | none => hook.show token (.error "Switch to Base Sepolia to continue.")
    | some chainId =>
      if !canAskOn (some chainId) then
        hook.show token (.error "Switch to Base Sepolia to continue.")
      else match escrowAddressFor (some chainId), hook.account.publicClient with
        | some escrow, true =>
          let run : SettleRun := {
            token, input, address, chainId, escrow
            stage := if input.preflight then .preflight else .simulating }
          let shown := hook.show token
            (if input.preflight then .preparing else .confirming)
          { shown with toComponent := shown.spawn run }
        | _, _ => hook.show token (.error "This network isn't set up for payments.")

def send (kind : SettleKind) (chainId : ℕ) : SettleHook :=
  { hook with transactions := hook.transactions ++ [{
      chainId, address := run.escrow, functionName := KIND_META kind
      onchainId := run.input.onchainId, questionId := run.input.questionId
      success := none }] }

/-- The run goes on with the reply to what it waits for; a reply that the call
cannot give changes nothing. -/
def resume (kind : SettleKind) (reply : SettleReply) : SettleHook :=
  match run.stage, reply with
  | .preflight, .done =>
    if run.token ≠ hook.runToken then hook.wait index run .finished
    else hook.simulate index run
  | .preflight, .failed error =>
    if run.token ≠ hook.runToken then hook.wait index run .finished
    else (hook.show run.token (.error error.message)).wait index run .finished
  | .simulating, .done => hook.wait index run (.sending hook.wallet.chainId)
  | .simulating, .failed error => hook.failWith index run error
  | .sending (some chainId), .done =>
    let hash := hook.transactions.length
    let sent := hook.send run kind chainId
    if run.token ≠ hook.runToken then sent.wait index run .finished
    else (sent.show run.token (.pending hash)).wait index run (.receipt hash)
  | .sending (some chainId), .lost error =>
    (hook.send run kind chainId).failWith index run error
  | .sending _, .failed error => hook.failWith index run error
  | .receipt hash, .done =>
    match (hook.transactions[hash]?).bind SettleTransaction.success with
    | none => hook
    | some false => hook.failWith index run
        { isUserRejection := false, message := "The transaction reverted on-chain." }
    | some true =>
      if run.token ≠ hook.runToken then hook.wait index run .finished
      else (hook.show run.token (.indexing hash false)).poll index run hash 0
  | .receipt _, .failed error => hook.failWith index run error
  | .polling hash attempts, .status status =>
    if status.isTerminal then
      (hook.show run.token (.confirmed hash status)).wait index run .finished
    else hook.afterRead index run hash attempts
  | .polling hash attempts, .failed _ => hook.afterRead index run hash attempts
  | .sleeping hash attempts, .done => hook.poll index run hash attempts
  | _, _ => hook

def supersedeRun : SettleHook :=
  { hook with toComponent := hook.toComponent.supersede }

/-- One thing that happens.  A sleep may end at any time, so that a recheck does
not add to what can happen. -/
def step (kind : SettleKind) : SettleStep → SettleHook
  | .switch wallet => { hook with wallet }
  | .render => { hook with account := hook.wallet }
  | .run input => ({ hook with lastInput := some input }).supersedeRun.execute input
  | .retry =>
    match hook.lastInput with
    | none => hook
    | some input => hook.supersedeRun.execute input
  | .recheck => hook
  | .reset =>
    { hook.supersedeRun with lastInput := none, phase := .idle }
  | .unmount => { hook.supersedeRun with mounted := false }
  | .resume index reply =>
    match hook.runs[index]? with
    | none => hook
    | some run => hook.resume index run kind reply
  | .mine hash success =>
    { hook with transactions := hook.transactions.modify hash fun transaction =>
        { transaction with success := transaction.success <|> some success } }

/-- The hook before its first run. -/
def idle (account : Account) : SettleHook where
  runToken := 0
  mounted := true
  phase := .idle
  runs := []
  account := account
  wallet := account
  lastInput := none
  transactions := []

/-! ## What a step changes -/

section Steps

variable {hook : SettleHook} {index : ℕ} {run : SettleRun} {kind : SettleKind}

@[simp]
theorem runs_show {token : ℕ} {phase : SettlePhase} :
    (hook.show token phase).runs = hook.runs := Component.runs_setPhase

@[simp]
theorem lastInput_show {token : ℕ} {phase : SettlePhase} :
    (hook.show token phase).lastInput = hook.lastInput := rfl

/-- The stages that a run goes through while it starts no other. -/
def GoesOn (hook next : SettleHook) (index : ℕ) (run : SettleRun) : Prop :=
  next.lastInput = hook.lastInput ∧
    (next.runs = hook.runs ∨ ∃ stage, next.runs = hook.runs.set index { run with stage })

theorem goesOn_refl : hook.GoesOn hook index run := ⟨rfl, .inl rfl⟩

theorem goesOn_wait {stage : SettleStage} : hook.GoesOn (hook.wait index run stage) index run :=
  ⟨rfl, .inr ⟨stage, rfl⟩⟩

theorem goesOn_show {token : ℕ} {phase : SettlePhase} {stage : SettleStage} :
    hook.GoesOn ((hook.show token phase).wait index run stage) index run :=
  ⟨rfl, .inr ⟨stage, by simp [wait]⟩⟩

theorem failWith_spec {error : TxError} :
    (hook.failWith index run error).transactions = hook.transactions ∧
      hook.GoesOn (hook.failWith index run error) index run := by
  rw [failWith]
  split
  · exact ⟨rfl, goesOn_wait⟩
  · split
    · exact ⟨rfl, goesOn_show⟩
    · exact ⟨rfl, goesOn_show⟩

theorem poll_spec {hash attempts : ℕ} :
    (hook.poll index run hash attempts).transactions = hook.transactions ∧
      hook.GoesOn (hook.poll index run hash attempts) index run := by
  rw [poll]
  split
  · exact ⟨rfl, goesOn_wait⟩
  · exact ⟨rfl, goesOn_wait⟩

theorem poll_show_spec {token hash attempts : ℕ} {phase : SettlePhase} :
    ((hook.show token phase).poll index run hash attempts).transactions =
        hook.transactions ∧
      hook.GoesOn ((hook.show token phase).poll index run hash attempts) index run := by
  obtain ⟨htransactions, hinput, hruns⟩ :=
    @poll_spec (hook.show token phase) index run hash attempts
  rw [lastInput_show] at hinput
  rw [runs_show] at hruns
  exact ⟨htransactions, hinput, hruns⟩

/-- A reply moves its run on, and sends a transaction only if it confirms a request. -/
theorem resume_spec {reply : SettleReply} :
    hook.GoesOn (hook.resume index run kind reply) index run ∧
      ((∃ chainId, run.stage = .sending (some chainId) ∧ reply.sends = true ∧
        (hook.resume index run kind reply).transactions =
          (hook.send run kind chainId).transactions) ∨
      (∀ chainId, run.stage = .sending (some chainId) → reply.sends = false) ∧
        (hook.resume index run kind reply).transactions = hook.transactions) := by
  unfold resume
  split
  case h_1 hstage =>
    refine ⟨?_, .inr ⟨by simp [hstage], ?_⟩⟩ <;> split
    · exact goesOn_wait
    · exact goesOn_show
    · rfl
    · rfl
  case h_2 hstage =>
    refine ⟨?_, .inr ⟨by simp [hstage], ?_⟩⟩ <;> split
    · exact goesOn_wait
    · exact goesOn_show
    · rfl
    · rfl
  case h_3 hstage => exact ⟨goesOn_wait, .inr ⟨by simp [hstage], rfl⟩⟩
  case h_4 error hstage =>
    exact ⟨failWith_spec.2, .inr ⟨by simp [hstage], failWith_spec.1⟩⟩
  case h_5 chainId hstage =>
    refine ⟨?_, .inl ⟨chainId, hstage, rfl, ?_⟩⟩ <;> split
    · exact goesOn_wait
    · exact goesOn_show
    · rfl
    · rfl
  case h_6 chainId error hstage =>
    obtain ⟨htransactions, hinput, hruns⟩ :=
      @failWith_spec (hook.send run kind chainId) index run error
    exact ⟨⟨hinput, hruns⟩, .inl ⟨chainId, hstage, rfl, htransactions⟩⟩
  case h_7 error hstage =>
    exact ⟨failWith_spec.2, .inr ⟨fun _ _ => rfl, failWith_spec.1⟩⟩
  case h_8 hash hstage =>
    split
    · exact ⟨goesOn_refl, .inr ⟨by simp [hstage], rfl⟩⟩
    · exact ⟨failWith_spec.2, .inr ⟨by simp [hstage], failWith_spec.1⟩⟩
    · split
      · exact ⟨goesOn_wait, .inr ⟨by simp [hstage], rfl⟩⟩
      · exact ⟨poll_show_spec.2, .inr ⟨by simp [hstage], poll_show_spec.1⟩⟩
  case h_9 error hstage =>
    exact ⟨failWith_spec.2, .inr ⟨fun _ _ => rfl, failWith_spec.1⟩⟩
  case h_10 status hstage =>
    split
    · exact ⟨goesOn_show, .inr ⟨fun _ _ => rfl, rfl⟩⟩
    · exact ⟨goesOn_show, .inr ⟨fun _ _ => rfl, rfl⟩⟩
  case h_11 error hstage => exact ⟨goesOn_show, .inr ⟨fun _ _ => rfl, rfl⟩⟩
  case h_12 hstage =>
    exact ⟨poll_spec.2, .inr ⟨by simp [hstage], poll_spec.1⟩⟩
  case h_13 =>
    refine ⟨goesOn_refl, .inr ⟨?_, rfl⟩⟩
    intro chainId hstage
    rw [← Bool.not_eq_true, SettleReply.sends_iff]
    rintro (hdone | ⟨error, hlost⟩) <;> simp_all

/-- A run is started with the escrow of the chain that was rendered, or not at all. -/
theorem execute_spec {input : SettleRunInput} :
    (hook.execute input).transactions = hook.transactions ∧
      (hook.execute input).lastInput = hook.lastInput ∧
        ((hook.execute input).runs = hook.runs ∨ ∃ started : SettleRun,
          started.input = input ∧
            escrowAddressFor (some started.chainId) = some started.escrow ∧
              (hook.execute input).runs = hook.runs ++ [started]) := by
  unfold execute
  dsimp only
  split
  · exact ⟨rfl, rfl, .inl runs_show⟩
  · next address _ =>
    split
    · exact ⟨rfl, rfl, .inl runs_show⟩
    · next chainId _ =>
      split
      · exact ⟨rfl, rfl, .inl runs_show⟩
      · split
        · next escrow hescrow _ =>
          let started : SettleRun := {
            token := hook.runToken, input, address, chainId, escrow
            stage := if input.preflight then .preflight else .simulating }
          refine ⟨rfl, rfl, .inr ⟨started, rfl, hescrow, ?_⟩⟩
          rw [Component.runs_spawn, runs_show]
        · exact ⟨rfl, rfl, .inl runs_show⟩

end Steps

end SettleHook

end BuyAnAnswer.Web
