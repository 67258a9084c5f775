import BuyAnAnswer.Indexer.Events

/-!
# Applying one event

`applyEvent` is translated from the reconcile core with its statements and its
audit line.  All it does to the database is one guarded update of `questions`:
`EscrowEvent.hits` is its guard, `EscrowEvent.set` what it writes.
-/

namespace BuyAnAnswer.Indexer

open Text Shared BuyAnAnswer.Transaction

/-- What of the resolved configuration one event needs. -/
structure IndexerConfig where
  chainId : ℕ

inductive AuditOutcome where
  | applied
  | noopAlready
  | noopPrecondition
  | unknownRef
  deriving DecidableEq, Repr

structure AuditBase where
  eventName : IndexedEventName
  ref : Text
  onchainId : Text
  txHash : Text
  logIndex : ℕ
  blockNumber : Text
  deriving DecidableEq, Repr

/-- A money-state audit line. -/
structure AuditFields extends AuditBase where
  outcome : AuditOutcome
  «from» : Option QuestionStatus
  «to» : Option QuestionStatus
  questionId : Option Text
  deriving DecidableEq, Repr

/-- `new Date(Number(seconds) * 1000)` as stored in a timestamp column.  Beyond
the range of dates it is invalid and stored as `NULL`. -/
def dateColumn (seconds : ℕ) : Option ℕ :=
  if seconds ≤ 8640000000000 then some seconds else none

def auditBase (event : EscrowEvent) : AuditBase where
  eventName := event.name
  ref := event.base.ref
  onchainId := decimal event.base.onchainId
  txHash := event.base.txHash
  logIndex := event.base.logIndex
  blockNumber := decimal event.base.blockNumber

/-- `eq(id) AND eq(chainId) AND eq(status)` -/
def inStatus (config : IndexerConfig) (uuid : Text) (status : QuestionStatus)
    (row : Question) : Bool :=
  row.id = uuid && row.chainId = config.chainId && row.status = status

/-- Read one row of `questions`. -/
def selectQuestion (hits : Question → Bool) : Query (Option Question) :=
  read fun database => database.questions.find? hits

/-- Classify an update that changed no row. -/
def noopOrUnknown (config : IndexerConfig) (audit : AuditBase) (uuid : Text)
    (target : QuestionStatus) : Query (Fin 2 × AuditFields) := do
  let existing ← selectQuestion fun row =>
    row.id = uuid && row.chainId = config.chainId
  match existing with
  | none => return (0, { audit with
      outcome := .unknownRef, «from» := none, «to» := none, questionId := uuid })
  | some existing =>
    let outcome :=
      if existing.status = target then AuditOutcome.noopAlready
      else .noopPrecondition
    return (0, { audit with
      outcome, «from» := existing.status, «to» := target, questionId := uuid })

/-- Apply one event; returns 1 if a transition fired and 0 if not, with the
audit line. -/
def applyEvent (config : IndexerConfig) (event : EscrowEvent) (now : ℕ) :
    Query (Fin 2 × AuditFields) :=
  let audit := auditBase event
  match tryRefToUuid event.base.ref with
  | none => return (0, { audit with
      outcome := .unknownRef, «from» := none, «to» := none, questionId := none })
  | some uuid =>
    match event with
    | .asked ask => do
      let changed ← updateQuestions (inStatus config uuid .pendingPayment)
        fun row => { row with
          onchainId := some (decimal ask.onchainId)
          amountUsdc := some (decimal ask.amount)
          answerDeadline := dateColumn ask.deadline
          status := .open
          updatedAt := now }
      if 0 < changed.length then
        return (1, { audit with
          outcome := .applied, «from» := some .pendingPayment, «to» := some .open
          questionId := uuid })
      else noopOrUnknown config audit uuid .open
    | .settled settle => do
      let target := statusForEvent (.settled settle.name)
      let changed ← updateQuestions (inStatus config uuid .open)
        fun row => { row with status := target, updatedAt := now }
      if 0 < changed.length then do
        if settle.name = .questionAnswered then
          updateAnswers
            (fun row => row.questionId = uuid && row.revealedAt = none)
            fun row => { row with revealedAt := some now, updatedAt := now }
        return (1, { audit with
          outcome := .applied, «from» := some .open, «to» := target
          questionId := uuid })
      else noopOrUnknown config audit uuid target

/-! ## What it does to `questions` -/

/-- The status an event requires. -/
def EscrowEvent.prior : EscrowEvent → QuestionStatus
  | .asked _ => .pendingPayment
  | .settled _ => .open

/-- The rows an event moves. -/
def EscrowEvent.hits (config : IndexerConfig) (event : EscrowEvent)
    (row : Question) : Bool :=
  tryRefToUuid event.base.ref = some row.id && row.chainId = config.chainId &&
    row.status = event.prior

/-- What an event writes into the rows it moves. -/
def EscrowEvent.set (now : ℕ) (event : EscrowEvent) (row : Question) : Question :=
  match event with
  | .asked ask => { row with
      onchainId := some (decimal ask.onchainId)
      amountUsdc := some (decimal ask.amount)
      answerDeadline := dateColumn ask.deadline
      status := .open
      updatedAt := now }
  | .settled settle => { row with
      status := statusForEvent (.settled settle.name), updatedAt := now }

theorem EscrowEvent.hits_iff {config : IndexerConfig} {event : EscrowEvent}
    {row : Question} :
    event.hits config row = true ↔
      tryRefToUuid event.base.ref = some row.id ∧
        row.chainId = config.chainId ∧ row.status = event.prior := by
  simp [EscrowEvent.hits, and_assoc]

section Spec

variable {config : IndexerConfig} {event : EscrowEvent} {now : ℕ}
variable {audit : AuditBase} {uuid : Text} {target : QuestionStatus}
variable {before after : Database}

theorem noopOrUnknown_run :
    ∃ result, noopOrUnknown config audit uuid target before =
      .ok result before := by
  rw [noopOrUnknown, selectQuestion, read_bind]
  cases before.questions.find? fun row =>
      row.id = uuid && row.chainId = config.chainId with
  | none => exact ⟨_, rfl⟩
  | some existing => exact ⟨_, rfl⟩

/-- The reveal keeps every constraint, so it cannot fail. -/
theorem revealAnswers_run (uuid : Text) (now : ℕ) (before : Database) :
    ∃ after, updateAnswers
        (fun row => row.questionId = uuid && row.revealedAt = none)
        (fun row => { row with revealedAt := some now, updatedAt := now }) before =
      .ok () after ∧
        after.creators = before.creators ∧ after.questions = before.questions := by
  refine ⟨_, execute_of_consistent ?_, rfl, rfl⟩
  have hconsistent := before.consistent
  refine { hconsistent with
    answers_check := ?_, answers_primary := ?_, answers_question := ?_ }
  · intro row hrow
    obtain ⟨hold, _⟩ | ⟨old, hold, _, rfl⟩ := Table.mem_update.mp hrow
    · exact hconsistent.answers_check row hold
    · exact ⟨(hconsistent.answers_check old hold).body_len⟩
  · change ((Table.update _ _ _).map Answer.questionId).Nodup
    rw [Table.map_update]
    · exact hconsistent.answers_primary
    · intro row
      rfl
  · intro row hrow
    obtain ⟨hold, _⟩ | ⟨old, hold, _, rfl⟩ := Table.mem_update.mp hrow
    · exact hconsistent.answers_question row hold
    · exact hconsistent.answers_question old hold

theorem inStatus_eq_hits (huuid : tryRefToUuid event.base.ref = some uuid) :
    inStatus config uuid event.prior = event.hits config := by
  funext row
  rw [inStatus, EscrowEvent.hits, huuid]
  simp [eq_comm]

/-- What follows the update of `questions` neither touches that table nor
fails. -/
theorem applyEvent_eq (config : IndexerConfig) (now : ℕ)
    (huuid : tryRefToUuid event.base.ref = some uuid) :
    ∃ rest, applyEvent config event now =
        updateQuestions (event.hits config) (event.set now) >>= rest ∧
      ∀ changed middle, ∃ result after,
        rest changed middle = .ok result after ∧
          after.creators = middle.creators ∧
          after.questions = middle.questions := by
  cases event with
  | asked ask =>
      rw [← inStatus_eq_hits huuid, applyEvent]
      simp only [huuid]
      refine ⟨_, rfl, ?_⟩
      intro changed middle
      by_cases hchanged : 0 < changed.length
      · rw [if_pos hchanged]
        exact ⟨_, middle, rfl, rfl, rfl⟩
      · obtain ⟨result, hnoop⟩ := noopOrUnknown_run
        rw [if_neg hchanged]
        exact ⟨result, middle, hnoop, rfl, rfl⟩
  | settled settle =>
      rw [← inStatus_eq_hits huuid, applyEvent]
      simp only [huuid]
      refine ⟨_, rfl, ?_⟩
      intro changed middle
      by_cases hchanged : 0 < changed.length
      · rw [if_pos hchanged]
        by_cases hanswered : settle.name = .questionAnswered
        · obtain ⟨after, hreveal, hcreators, hquestions⟩ :=
            revealAnswers_run uuid now middle
          rw [if_pos hanswered]
          exact ⟨_, after, bind_eq_ok.mpr ⟨(), after, hreveal, rfl⟩, hcreators,
            hquestions⟩
        · rw [if_neg hanswered]
          exact ⟨_, middle, rfl, rfl, rfl⟩
      · obtain ⟨result, hnoop⟩ := noopOrUnknown_run
        rw [if_neg hchanged]
        exact ⟨result, middle, hnoop, rfl, rfl⟩

/-- Applying an event updates the rows it hits. -/
theorem applyEvent_eq_ok {result : Fin 2 × AuditFields}
    (hok : applyEvent config event now before = .ok result after) :
    after.creators = before.creators ∧
      after.questions =
        Table.update (event.hits config) (event.set now) before.questions := by
  cases huuid : tryRefToUuid event.base.ref with
  | none =>
      rw [applyEvent] at hok
      simp only [huuid] at hok
      obtain ⟨_, rfl⟩ := pure_eq_ok.mp hok
      refine ⟨rfl, (Table.update_eq_self ?_).symm⟩
      intro row _
      rw [EscrowEvent.hits, huuid]
      rfl
  | some uuid =>
      obtain ⟨rest, heq, hquiet⟩ := applyEvent_eq config now huuid
      rw [heq] at hok
      obtain ⟨changed, middle, hupdate, hrest⟩ := bind_eq_ok.mp hok
      obtain ⟨_, htables⟩ := execute_eq_ok.mp hupdate
      obtain ⟨_, reached, hreached, hcreators, hquestions⟩ := hquiet changed middle
      rw [hreached] at hrest
      cases hrest
      rw [hcreators, hquestions, htables]
      exact ⟨rfl, rfl⟩

/-- An event that cannot be applied leaves the database as it was. -/
theorem applyEvent_eq_error {failure : SqlError}
    (herror : applyEvent config event now before = .error failure after) :
    after = before := by
  cases huuid : tryRefToUuid event.base.ref with
  | none =>
      rw [applyEvent] at herror
      simp only [huuid] at herror
      exact absurd herror (by simp)
  | some uuid =>
      obtain ⟨rest, heq, hquiet⟩ := applyEvent_eq config now huuid
      rw [heq] at herror
      obtain hupdate | ⟨changed, middle, _, hrest⟩ := bind_eq_error.mp herror
      · exact execute_eq_error hupdate
      · obtain ⟨_, _, hreached, _⟩ := hquiet changed middle
        rw [hreached] at hrest
        cases hrest

end Spec

end BuyAnAnswer.Indexer
