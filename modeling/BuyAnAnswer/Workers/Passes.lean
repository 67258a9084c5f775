import BuyAnAnswer.Workers.Cloud

/-!
# The indexer's code

A reconcile pass and the sweep of abandoned drafts, with everything they wait
for.  A pass applies the events between the cursor and the finalized head window
by window and saves the cursor after each window.
-/

namespace BuyAnAnswer.Workers

open Text Shared Indexer BuyAnAnswer.Transaction

/-- The resolved configuration of a pass. -/
structure ReconcileConfig extends IndexerConfig where
  contractAddress : Text
  startBlock : ℕ
  confirmations : ℕ
  getLogsRange : ℕ
  maxBlocksPerRun : ℕ
  getLogsRange_pos : 0 < getLogsRange
  maxBlocksPerRun_pos : 0 < maxBlocksPerRun

structure ReconcileResult where
  chainId : ℕ
  contractAddress : Text
  fromBlock : ℕ
  toBlock : ℕ
  head : ℕ
  scanned : ℕ
  eventsSeen : ℕ
  transitionsApplied : ℕ
  deriving DecidableEq, Repr

def auditMoneyState (config : IndexerConfig) (fields : AuditFields) :
    Program workers SqlError Unit :=
  call (.audit config.chainId fields)

/-- Classify an update that changed no row. -/
def noopOrUnknown (config : IndexerConfig) (audit : AuditBase) (uuid : Text)
    (target : QuestionStatus) : Program workers SqlError (Fin 2) := do
  let existing ← sql id (.questionOnChain uuid config.chainId)
  match existing with
  | none => do
    auditMoneyState config { audit with
      outcome := .unknownRef, «from» := none, «to» := none, questionId := uuid }
    return 0
  | some existing => do
    let outcome :=
      if existing.status = target then AuditOutcome.noopAlready
      else .noopPrecondition
    auditMoneyState config { audit with
      outcome, «from» := existing.status, «to» := target, questionId := uuid }
    return 0

/-- Apply one event; returns 1 if a transition fired. -/
def applyEvent (config : IndexerConfig) (event : EscrowEvent) (now : ℕ) :
    Program workers SqlError (Fin 2) :=
  let audit := auditBase event
  match tryRefToUuid event.base.ref with
  | none => do
    auditMoneyState config { audit with
      outcome := .unknownRef, «from» := none, «to» := none, questionId := none }
    return 0
  | some uuid =>
    match event with
    | .asked ask => do
      let changed ← sql id (.openQuestion config uuid ask now)
      if 0 < changed.length then do
        auditMoneyState config { audit with
          outcome := .applied, «from» := some .pendingPayment, «to» := some .open
          questionId := uuid }
        return 1
      else noopOrUnknown config audit uuid .open
    | .settled settle => do
      let target := statusForEvent (.settled settle.name)
      let changed ← sql id (.settleQuestion config uuid settle now)
      if 0 < changed.length then do
        if settle.name = .questionAnswered then
          sql id (.revealAnswer uuid now)
        auditMoneyState config { audit with
          outcome := .applied, «from» := some .open, «to» := target
          questionId := uuid }
        return 1
      else noopOrUnknown config audit uuid target

/-- `for (const ev of events) applied += await applyEvent(…)` -/
def applyEvents (config : IndexerConfig) (now : ℕ) :
    List EscrowEvent → ℕ → Program workers SqlError ℕ
  | [], applied => return applied
  | event :: events, applied => do
    let fired ← applyEvent config event now
    applyEvents config now events (applied + fired)

/-- `for (let lo = from; lo <= runEnd; lo += range)`, with `hi` for each `lo`.
One round for every block is enough, since the range is positive. -/
def windows (range runEnd : ℕ) : (rounds lo : ℕ) → List (ℕ × ℕ)
  | 0, _ => []
  | rounds + 1, lo =>
    if lo ≤ runEnd then
      (lo, min runEnd (lo + range - 1)) ::
        windows range runEnd rounds (lo + range)
    else []

/-- The variables of the scan. -/
structure Progress where
  cursor : ℕ
  eventsSeen : ℕ
  applied : ℕ
  deriving DecidableEq, Repr

def scan (config : ReconcileConfig) (now : ℕ) :
    List (ℕ × ℕ) → Progress → Program workers SqlError Progress
  | [], progress => return progress
  | (lo, hi) :: rest, progress => do
    let logs ← call (.getLogs config.chainId lo hi)
    let events := logs.insertionSort fun left right => byBlockThenLog left right ≤ 0
    let applied ← applyEvents config.toIndexerConfig now events progress.applied
    call (.saveCursor config.chainId config.contractAddress hi)
    scan config now rest {
      cursor := hi, eventsSeen := progress.eventsSeen + events.length, applied }

def reconcile (config : ReconcileConfig) (now : ℕ) :
    Program workers SqlError ReconcileResult := do
  let row ← call (.loadCursor config.chainId config.contractAddress)
  let lastBlock := row.getD config.startBlock
  let head ← call (.getFinalizedHead config.chainId config.confirmations)
  let base : ReconcileResult := {
    chainId := config.chainId, contractAddress := config.contractAddress
    fromBlock := lastBlock + 1, toBlock := lastBlock, head, scanned := 0
    eventsSeen := 0, transitionsApplied := 0 }
  if head < lastBlock + 1 then return base
  else do
    let runEnd := min head (lastBlock + 1 + config.maxBlocksPerRun - 1)
    let progress ← scan config now
      (windows config.getLogsRange runEnd (runEnd - lastBlock) (lastBlock + 1))
      { cursor := lastBlock, eventsSeen := 0, applied := 0 }
    return { base with
      toBlock := progress.cursor, scanned := progress.cursor - lastBlock
      eventsSeen := progress.eventsSeen, transitionsApplied := progress.applied }

structure SweepResult where
  deleted : ℕ
  ids : List Text
  deriving DecidableEq, Repr

/-- Delete abandoned drafts. -/
def sweepOrphanedPendingPayments (olderThanSeconds now limit : ℕ) :
    Program workers SqlError SweepResult := do
  let cutoff := now - olderThanSeconds
  let candidates ← sql id (.orphanedQuestions cutoff limit)
  if candidates.length = 0 then return { deleted := 0, ids := [] }
  else do
    let deleted ← sql id (.deleteOrphans candidates cutoff)
    return { deleted := deleted.length, ids := deleted }

/-! ## The operations of the indexer -/

/-- What a pass does: statements of its own chain and reads of that chain. -/
def Operation.OfPass (config : ReconcileConfig) : Operation → Prop
  | .database (.openQuestion used _ _ _) => used = config.toIndexerConfig
  | .database (.settleQuestion used _ _ _) => used = config.toIndexerConfig
  | .database (.revealAnswer _ _) => True
  | .database (.questionOnChain _ _) => True
  | .loadCursor chainId contractAddress =>
    chainId = config.chainId ∧ contractAddress = config.contractAddress
  | .saveCursor chainId contractAddress _ =>
    chainId = config.chainId ∧ contractAddress = config.contractAddress
  | .getFinalizedHead chainId _ => chainId = config.chainId
  | .getLogs chainId _ _ => chainId = config.chainId
  | .audit chainId _ => chainId = config.chainId
  | _ => False

/-- What the application of an event does: statements and the audit line. -/
def Operation.OfEvent (config : ReconcileConfig) : Operation → Prop
  | .database statement => (Operation.database statement).OfPass config
  | .audit chainId _ => chainId = config.chainId
  | _ => False

theorem Operation.OfEvent.ofPass {config : ReconcileConfig} {operation : Operation}
    (hevent : operation.OfEvent config) : operation.OfPass config := by
  cases operation with
  | database statement => exact hevent
  | audit chainId fields => exact hevent
  | _ => exact hevent.elim

def Operation.OfSweep : Operation → Prop
  | .database (.orphanedQuestions _ _) => True
  | .database (.deleteOrphans _ _) => True
  | _ => False

section Uses

variable {config : ReconcileConfig} {now : ℕ}

theorem noopOrUnknown_uses {audit : AuditBase} {uuid : Text}
    {target : QuestionStatus} :
    (noopOrUnknown config.toIndexerConfig audit uuid target).Uses
      (Operation.OfEvent config) := by
  refine Program.Uses.bind (uses_sql trivial) ?_
  intro existing
  cases existing with
  | none => exact Program.Uses.bind (uses_call rfl) fun _ => trivial
  | some existing => exact Program.Uses.bind (uses_call rfl) fun _ => trivial

theorem applyEvent_uses (event : EscrowEvent) :
    (applyEvent config.toIndexerConfig event now).Uses
      (Operation.OfEvent config) := by
  rw [applyEvent]
  simp only
  cases tryRefToUuid event.base.ref with
  | none => exact Program.Uses.bind (uses_call rfl) fun _ => trivial
  | some uuid =>
      cases event with
      | asked ask =>
          refine Program.Uses.bind (uses_sql rfl) ?_
          intro changed
          split
          · exact Program.Uses.bind (uses_call rfl) fun _ => trivial
          · exact noopOrUnknown_uses
      | settled settle =>
          refine Program.Uses.bind (uses_sql rfl) ?_
          intro changed
          split
          · split
            · refine Program.Uses.bind (uses_sql trivial) ?_
              intro _
              exact Program.Uses.bind (uses_call rfl) fun _ => trivial
            · exact Program.Uses.bind (uses_call rfl) fun _ => trivial
          · exact noopOrUnknown_uses

theorem applyEvents_uses (events : List EscrowEvent) (applied : ℕ) :
    (applyEvents config.toIndexerConfig now events applied).Uses
      (Operation.OfEvent config) := by
  induction events generalizing applied with
  | nil => exact trivial
  | cons event events ih =>
      exact (applyEvent_uses event).bind fun fired => ih (applied + fired)

theorem scan_uses (windows : List (ℕ × ℕ)) (progress : Progress) :
    (scan config now windows progress).Uses (Operation.OfPass config) := by
  induction windows generalizing progress with
  | nil => exact trivial
  | cons window windows ih =>
      refine Program.Uses.bind (uses_call rfl) ?_
      intro logs
      apply Program.Uses.bind ((applyEvents_uses _ _).mono fun _ hevent => hevent.ofPass)
      intro applied
      exact Program.Uses.bind (uses_call ⟨rfl, rfl⟩) fun _ => ih _

theorem reconcile_uses :
    (reconcile config now).Uses (Operation.OfPass config) := by
  refine Program.Uses.bind (uses_call ⟨rfl, rfl⟩) ?_
  intro row
  refine Program.Uses.bind (uses_call rfl) ?_
  intro head
  simp only
  split
  · exact trivial
  · exact (scan_uses _ _).bind fun _ => trivial

theorem sweepOrphanedPendingPayments_uses (olderThanSeconds now limit : ℕ) :
    (sweepOrphanedPendingPayments olderThanSeconds now limit).Uses
      Operation.OfSweep := by
  refine Program.Uses.bind (uses_sql trivial) ?_
  intro candidates
  split
  · exact trivial
  · exact Program.Uses.bind (uses_sql trivial) fun _ => trivial

end Uses

end BuyAnAnswer.Workers
