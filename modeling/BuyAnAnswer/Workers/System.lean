import BuyAnAnswer.Workers.Passes
import BuyAnAnswer.Workers.Routes

/-!
# The workers together

Reconcile passes, sweeps and API requests run interleaved over the shared cloud,
each of them perhaps killed on the way, while blocks are mined.
-/

namespace BuyAnAnswer.Workers

open Text Shared Indexer Api BuyAnAnswer.Transaction

/-- The limits of a pass; both window sizes are positive. -/
structure PassLimits where
  confirmations : ℕ
  getLogsRange : ℕ
  maxBlocksPerRun : ℕ
  getLogsRange_pos : 0 < getLogsRange
  maxBlocksPerRun_pos : 0 < maxBlocksPerRun

/-- What is launched. -/
inductive Label where
  | reconcile (chainId : ℕ) (limits : PassLimits) (now : ℕ)
  | sweep (olderThanSeconds now limit : ℕ)
  | request (context : RequestContext) (request : Request)

namespace Label

@[reducible]
def Failure : Label → Type
  | .request _ _ => Empty
  | _ => SqlError

@[reducible]
def Result : Label → Type
  | .reconcile _ _ _ => ReconcileResult
  | .sweep _ _ _ => SweepResult
  | .request _ _ => Response

end Label

/-- The configuration of a pass over the escrow of a chain. -/
def Network.config (network : Network) (chainId : ℕ) (limits : PassLimits) :
    ReconcileConfig where
  chainId := chainId
  contractAddress := (network chainId).contractAddress
  startBlock := (network chainId).startBlock
  confirmations := limits.confirmations
  getLogsRange := limits.getLogsRange
  maxBlocksPerRun := limits.maxBlocksPerRun
  getLogsRange_pos := limits.getLogsRange_pos
  maxBlocksPerRun_pos := limits.maxBlocksPerRun_pos

/-- Blocks are mined. -/
inductive Event where
  | mine (chainId blocks : ℕ)
  deriving DecidableEq, Repr

def Cloud.react (cloud : Cloud) : Event → Cloud
  | .mine chainId blocks =>
    { cloud with
      height := Function.update cloud.height chainId (cloud.height chainId + blocks) }

def program (network : Network) (runtime : Runtime) :
    (label : Label) → Program workers label.Failure label.Result
  | .reconcile chainId limits now => reconcile (network.config chainId limits) now
  | .sweep olderThanSeconds now limit =>
    sweepOrphanedPendingPayments olderThanSeconds now limit
  | .request context request => handleRequest runtime context request

def system (network : Network) (runtime : Runtime) :
    System workers Cloud Label.Failure Label.Result NodeAnswer Event where
  program := program network runtime
  exec := Cloud.exec network
  immediate := fun operation cloud => cloud.serve operation
  react := fun event cloud => cloud.react event

abbrev WorkerPool := Pool workers Cloud Label.Failure Label.Result

abbrev WorkerSchedule := Schedule Label NodeAnswer Event

/-- Nothing is running yet and nothing has been read or written. -/
def idle (cloud : Cloud) : WorkerPool where
  state := { cloud with journal := { heads := [], scans := [], audits := [] } }
  threads := []

theorem workers_yield (operation : workers.Operation) :
    workers.yields operation = true := rfl

/-- What each label permits its program. -/
def Label.Permits (network : Network) : Label → Operation → Prop
  | .reconcile chainId limits _ => Operation.OfPass (network.config chainId limits)
  | .sweep _ _ _ => Operation.OfSweep
  | .request _ asked => Operation.OfApi asked.publishes

theorem program_uses (network : Network) (runtime : Runtime) (label : Label) :
    ((system network runtime).program label).Uses (label.Permits network) := by
  cases label with
  | reconcile chainId limits now => exact reconcile_uses
  | sweep olderThanSeconds now limit =>
      exact sweepOrphanedPendingPayments_uses _ _ _
  | request context request => exact handleRequest_uses runtime context request

/-- In every schedule each worker sticks to its own operations. -/
theorem run_confined (network : Network) (runtime : Runtime) (cloud : Cloud)
    (schedule : List WorkerSchedule) :
    System.Confined (Label.Permits network)
      ((system network runtime).run (idle cloud) schedule) := by
  apply System.Throughout.run (System.hereditary_uses (program_uses network runtime))
  intro thread hthread
  cases hthread

/-- What each step of a run keeps, given that workers stick to their
operations. -/
theorem run_keeps {network : Network} {runtime : Runtime}
    {condition : WorkerPool → WorkerSchedule → Prop} {Invariant : WorkerPool → Prop}
    {pool : WorkerPool} {schedule : List WorkerSchedule}
    (hconfined : System.Confined (Label.Permits network) pool)
    (hmeets : Machine.Meets (system network runtime).step condition pool schedule)
    (hpool : Invariant pool)
    (hstep : ∀ {pool action}, System.Confined (Label.Permits network) pool →
      condition pool action → Invariant pool →
        Invariant ((system network runtime).step pool action)) :
    Invariant ((system network runtime).run pool schedule) := by
  induction schedule generalizing pool with
  | nil => exact hpool
  | cons action schedule ih =>
      have hnext := System.Throughout.step
        (System.hereditary_uses (program_uses network runtime)) hconfined action
      exact ih hnext hmeets.2 (hstep hconfined hmeets.1 hpool)

/-! ## What the operations do -/

section Exec

variable {network : Network} {operation : Operation} {node : NodeAnswer}
variable {before after : Cloud} {reply : operation.Reply}

theorem execute_cases (cloud : Cloud) (statement : Statement) :
    (∃ database, cloud.execute statement =
        (.ok (statement.reply cloud.database.toTables), { cloud with database }) ∧
      database.toTables = statement.effect cloud.database.toTables) ∨
    cloud.execute statement = (.error statement.refusal, cloud) ∧
      (statement.inRange = true →
        ¬ (statement.effect cloud.database.toTables).Consistent) := by
  rw [Cloud.execute]
  cases hquery : statement.query cloud.database with
  | ok value database =>
      obtain ⟨rfl, htables, _⟩ := Statement.query_eq_ok.mp hquery
      exact .inl ⟨database, rfl, htables⟩
  | error failure database =>
      obtain ⟨rfl, rfl, hbroken⟩ := Statement.query_eq_error hquery
      exact .inr ⟨rfl, hbroken⟩

/-- A statement changes the tables or, if it is refused, nothing. -/
theorem exec_database {statement : Statement}
    {reply : Except SqlError statement.Reply}
    (hexec : Cloud.exec network (.database statement) node before =
      some (reply, after)) :
    (reply = .ok (statement.reply before.database.toTables) ∧
      after.database.toTables = statement.effect before.database.toTables ∧
      after = { before with database := after.database }) ∨
    (reply = .error statement.refusal ∧ after = before ∧
      (statement.inRange = true →
        ¬ (statement.effect before.database.toTables).Consistent)) := by
  have hrun : before.execute statement = (reply, after) := Option.some.inj hexec
  obtain ⟨database, hok, htables⟩ | ⟨herror, hbroken⟩ :=
    execute_cases before statement
  · rw [hok] at hrun
    cases hrun
    exact .inl ⟨rfl, htables, rfl⟩
  · rw [herror] at hrun
    cases hrun
    exact .inr ⟨rfl, rfl, hbroken⟩

namespace Operation

/-- Whether an operation is a statement. -/
def isStatement : Operation → Bool
  | .database _ => true
  | _ => false

/-- Whether an operation writes to the audit trail. -/
def isAudit : Operation → Bool
  | .audit _ _ => true
  | _ => false

/-- Whether an operation fetches logs. -/
def isFetch : Operation → Bool
  | .getLogs _ _ _ => true
  | _ => false

/-- Whether an operation moves the cursor of a chain. -/
def saves (chainId : ℕ) : Operation → Bool
  | .saveCursor saved _ _ => saved = chainId
  | _ => false

end Operation

/-- What an operation leaves alone. -/
structure Framed (operation : Operation) (before after : Cloud) : Prop where
  height : after.height = before.height
  database : operation.isStatement = false → after.database = before.database
  audits : operation.isAudit = false →
    after.journal.audits = before.journal.audits
  written : before.journal.audits ⊆ after.journal.audits
  scans : operation.isFetch = false → after.journal.scans = before.journal.scans
  heads : before.journal.heads ⊆ after.journal.heads
  cursors : ∀ chainId, operation.saves chainId = false →
    after.cursors chainId = before.cursors chainId

theorem framed_refl (operation : Operation) (cloud : Cloud) :
    Framed operation cloud cloud :=
  ⟨rfl, fun _ => rfl, fun _ => rfl, List.Subset.refl _, fun _ => rfl,
    List.Subset.refl _, fun _ _ => rfl⟩

theorem exec_framed
    (hexec : Cloud.exec network operation node before = some (reply, after)) :
    Framed operation before after := by
  have hsame := framed_refl operation before
  cases operation with
  | database statement =>
      obtain ⟨_, _, hafter⟩ | ⟨_, rfl, _⟩ := exec_database hexec
      · rw [hafter]
        exact { hsame with database := fun hstatement => by cases hstatement }
      · exact hsame
  | getFinalizedHead chainId confirmations =>
      simp only [Cloud.exec, Cloud.getFinalizedHead] at hexec
      split at hexec
      · cases hexec
        exact { hsame with heads := List.subset_append_left _ _ }
      · cases hexec
  | getLogs chainId lo hi =>
      simp only [Cloud.exec, Cloud.getLogs] at hexec
      split at hexec
      · cases hexec
        exact { hsame with scans := fun hfetch => by cases hfetch }
      · cases hexec
  | saveCursor saved contractAddress lastBlock =>
      cases hexec
      refine { hsame with cursors := ?_ }
      intro chainId hother
      have hne : chainId ≠ saved := by
        rintro rfl
        simp [Operation.saves] at hother
      exact Function.update_of_ne hne _ _
  | audit chainId fields =>
      cases hexec
      exact { hsame with
        audits := fun haudit => by cases haudit
        written := List.subset_append_left _ _ }
  | loadCursor | getRecord | getCounter | putAvatar =>
      cases hexec
      exact hsame
  | putRecord | putCounter =>
      cases hexec
      exact { hsame with height := rfl }

/-- The rows of a question in the cloud's database. -/
def Cloud.record (cloud : Cloud) (id : Text) : QuestionRecord :=
  recordOf cloud.database.toTables id

/-- What one operation does to one question. -/
theorem exec_record (id : Text)
    (hexec : Cloud.exec network operation node before = some (reply, after)) :
    after.record id = before.record id ∨
      ∃ statement, operation = .database statement ∧
        after.record id = statement.onRecord id (before.record id) := by
  cases hstatement : operation.isStatement with
  | false =>
      rw [Cloud.record, (exec_framed hexec).database hstatement]
      exact .inl rfl
  | true =>
      cases operation with
      | database statement =>
          obtain ⟨_, htables, _⟩ | ⟨_, rfl, _⟩ := exec_database hexec
          · right
            refine ⟨statement, rfl, ?_⟩
            rw [Cloud.record, htables,
              Statement.recordOf_effect before.database.consistent]
            rfl
          · exact .inl rfl
      | _ => cases hstatement

end Exec

/-! ## What a step does to one question -/

namespace Label

def isSweep : Label → Bool
  | .sweep _ _ _ => true
  | _ => false

def isRequest : Label → Bool
  | .request _ _ => true
  | _ => false

end Label

/-- The step lets a thread of this kind perform an operation. -/
def Performs (pool : WorkerPool) (action : WorkerSchedule) (kind : Label → Bool) :
    Prop :=
  ∃ index node thread, action = .advance index node ∧
    pool.threads[index]? = some thread ∧ kind thread.label = true

/-- The step lets a thread perform this statement. -/
def Executes (pool : WorkerPool) (action : WorkerSchedule) (statement : Statement) :
    Prop :=
  ∃ index node thread, action = .advance index node ∧
    pool.threads[index]? = some thread ∧
    thread.program.head = some (.database statement)

/-- The statement that a step lets a thread perform. -/
def statementOf (pool : WorkerPool) : WorkerSchedule → Option Statement
  | .advance index _ =>
    (pool.threads[index]?).bind fun thread =>
      thread.program.head.bind fun
        | .database statement => some statement
        | _ => none
  | _ => none

theorem Executes.statementOf_eq {pool : WorkerPool} {action : WorkerSchedule}
    {statement : Statement} (hexecutes : Executes pool action statement) :
    statementOf pool action = some statement := by
  obtain ⟨index, node, thread, rfl, hthread, hhead⟩ := hexecutes
  rw [statementOf, hthread, Option.bind_some, hhead, Option.bind_some]

namespace Statement

/-- The statement mints a draft. -/
def isMint : Statement → Bool
  | .insertQuestion _ => true
  | _ => false

/-- The statement saves an answer. -/
def isSave : Statement → Bool
  | .upsertAnswer _ => true
  | _ => false

/-- The statement sweeps drafts away. -/
def isSweep : Statement → Bool
  | .deleteOrphans _ _ => true
  | _ => false

end Statement

/-- A step leaves a question alone or performs one permitted statement. -/
theorem step_record {network : Network} (runtime : Runtime) {pool : WorkerPool}
    (hconfined : System.Confined (Label.Permits network) pool)
    (action : WorkerSchedule) (id : Text) :
    let after := ((system network runtime).step pool action).state
    after.record id = pool.state.record id ∨
      ∃ index node thread statement, action = .advance index node ∧
        pool.threads[index]? = some thread ∧
        thread.program.head = some (.database statement) ∧
        thread.label.Permits network (.database statement) ∧
        after.record id = statement.onRecord id (pool.state.record id) := by
  intro after
  cases action with
  | launch label =>
      left
      simp only [after, System.step, System.resume,
        System.settle_of_yields _ workers_yield]
  | advance index node =>
      obtain hsame | ⟨label, operation, next, left, right, reply, middle, hthreads,
        hindex, hexec, hafter⟩ :=
          System.advance_cases (system network runtime) pool index node
      · left
        simp only [after, hsame]
      · have hmiddle : after = middle := by
          simp only [after, hafter, System.settle_of_yields _ workers_yield]
        have hget := System.getElem?_of_split hthreads hindex
        rw [hmiddle]
        obtain hsame | ⟨statement, rfl, heffect⟩ := exec_record id hexec
        · exact .inl hsame
        · right
          have hpermits := hconfined _ (List.mem_of_getElem? hget)
          exact ⟨index, node, _, statement, rfl, hget, rfl, hpermits.1, heffect⟩
  | kill index => exact .inl rfl
  | event event =>
      left
      cases event with
      | mine chainId blocks => rfl

/-! ## A network with one creator -/

namespace Sample

def creator : Creator where
  wallet := "0x00000000000000000000000000000000000000b2".toList
  handle := "alice".toList
  displayName := "Alice".toList
  headline := none
  bio := none
  avatarUrl := none
  links := none
  minPriceUsdc := "1000000".toList
  createdAt := 0
  updatedAt := 0

def cloud : Cloud where
  database := {
    creators := [creator]
    questions := []
    answers := []
    consistent := by decide }
  cursors := fun _ _ => none
  records := fun _ => none
  counters := fun _ => none
  height := fun _ => 0
  journal := { heads := [], scans := [], audits := [] }

def uuid : Text := "36b8f84d-df4e-4d49-b662-bbfa1046a2b0".toList

def ref : Text :=
  "0x0000000000000000000000000000000036b8f84ddf4e4d49b662bbfa1046a2b0".toList

/-- A question that is paid for. -/
def question : Question where
  id := uuid
  chainId := 8453
  onchainId := some ['1']
  askerWallet := "0x00000000000000000000000000000000000000a1".toList
  answererWallet := creator.wallet
  amountUsdc := some "5000000".toList
  body := "Why?".toList
  status := .open
  answerDeadline := some 1000
  isPublic := false
  createdAt := 1
  updatedAt := 1

/-- The question before it is paid for. -/
def draft : Question := { question with
  onchainId := none, amountUsdc := none, status := .pendingPayment
  answerDeadline := none }

def drafted : Cloud := { cloud with
  database := {
    creators := [creator]
    questions := [draft]
    answers := []
    consistent := by decide } }

def payment : QuestionAskedEvent where
  ref := ref
  onchainId := 1
  blockNumber := 1
  logIndex := 0
  txHash := []
  asker := question.askerWallet
  answerer := question.answererWallet
  amount := 5000000
  deadline := 1000

def settlement : EscrowEvent := .settled {
  ref := ref, onchainId := 1, blockNumber := 2, logIndex := 0, txHash := []
  name := .questionAnswered }

/-- All blocks in one go. -/
def wholeRange : PassLimits where
  confirmations := 0
  getLogsRange := 2000
  maxBlocksPerRun := 2000
  getLogsRange_pos := Nat.succ_pos _
  maxBlocksPerRun_pos := Nat.succ_pos _

/-- No escrow has emitted anything. -/
def network : Network := fun _ => {
  contractAddress := "0x00000000000000000000000000000000000000e5".toList
  startBlock := 0
  events := []
  ordered := List.Pairwise.nil }

def runtime : Runtime where
  toNumber := fun _ => .nan
  urlProtocol := fun _ => none
  toNumber_double := by
    rintro text value ⟨⟩

end Sample

end BuyAnAnswer.Workers
