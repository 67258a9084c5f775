import BuyAnAnswer.Contract.PlainToken
import BuyAnAnswer.Platform.System

/-!
# The database as a mirror of the chain

The indexer finds the row of an event by its reference and the required status,
and never compares the on-chain id.  As long as the settle events that find an
open row are those of the question the row was opened by, every row with an
on-chain id shows that question.  References are chosen by callers, so a second
question under the same reference breaks this.
-/

namespace BuyAnAnswer.Platform

open Contract Shared Indexer Api Text BuyAnAnswer.Transaction

variable {oz : OpenZeppelin} {T : Type}

/-- Position of a status in the contract's enumeration. -/
def statusIndex : Status → ℕ
  | .none => 0
  | .open => 1
  | .answered => 2
  | .declined => 3
  | .cancelled => 4
  | .reclaimed => 5

/-- The off-chain status of an on-chain status. -/
def questionStatus (status : Status) : Option QuestionStatus :=
  CONTRACT_STATUS_TO_QUESTION_STATUS[statusIndex status]?.join

theorem questionStatus_eq_open {status : Status} :
    questionStatus status = some .open ↔ status = .open := by
  cases status <;> simp [questionStatus, statusIndex,
    CONTRACT_STATUS_TO_QUESTION_STATUS]

/-- The indexer and the contract agree on what a settle event means. -/
theorem statusForEvent_settledName {terminal : Status}
    (hsettled : terminal.settled = true) :
    some (statusForEvent (.settled (settledName terminal))) =
      questionStatus terminal := by
  cases terminal with
  | none | «open» => cases hsettled
  | answered | declined | cancelled | reclaimed => rfl

/-- A row shows the terms and the status of an on-chain question. -/
structure Reflects (question : Contract.Question) (row : Shared.Question) :
    Prop where
  amountUsdc : row.amountUsdc = some (decimal question.amount)
  answerDeadline : row.answerDeadline = some (question.deadline : ℕ)
  status : some row.status = questionStatus question.status

/-- Either nothing was paid for a row yet, or it reflects the question whose id
it stores, which carries its reference. -/
inductive Linked (config : IndexerConfig) (records : Uint 256 → Record)
    (row : Shared.Question) : Prop
  | draft (honchain : row.onchainId = none)
      (hpending : row.status = .pendingPayment) : Linked config records row
  | paid (id : Uint 256) (honchain : row.onchainId = some (decimal id))
      (hreflects : Reflects (records id).question row)
      (href : refUuid (records id).ref = some row.id)
      (hchain : row.chainId = config.chainId) : Linked config records row

/-- What the indexer takes for granted about a row that an event hits: the
deadline is a date, and the settled question is the one the row was opened by. -/
def OnTarget (event : EscrowEvent) (row : Shared.Question) : Prop :=
  match event with
  | .asked ask => ask.deadline ≤ 8640000000000
  | .settled settle => row.onchainId = some (decimal settle.onchainId)

/-- The next event is on target for the rows it hits. -/
def StaysOnTarget (deployment : Deployment) (state : State oz T) :
    Action T → Prop
  | .index place _ =>
    ∀ event ∈ state.unapplied.head?.bind (escrowEvent deployment.checksum place),
      ∀ row ∈ state.questions, event.hits deployment.config row = true →
        OnTarget event row
  | _ => True

/-! ## One event -/

section Event

variable {config : IndexerConfig} {records : Uint 256 → Record}
variable {row : Shared.Question} {rows : List Shared.Question}
variable {place : Place} {now : ℕ} {id : Uint 256}
variable {ref : Bytes32}

/-- Rows of other questions are not affected by what is told about `id`. -/
theorem Linked.update_of_ne {record : Record} (hlinked : Linked config records row)
    (hother : row.onchainId ≠ some (decimal id)) :
    Linked config (Function.update records id record) row := by
  cases hlinked with
  | draft honchain hpending => exact .draft honchain hpending
  | paid other honchain hreflects href hchain =>
      have hne : other ≠ id := by
        intro heq
        exact hother (heq ▸ honchain)
      refine .paid other honchain ?_ ?_ hchain
      · rw [Function.update_of_ne hne]
        exact hreflects
      · rw [Function.update_of_ne hne]
        exact href

/-- No row stores an id that has not been asked. -/
theorem Linked.ne_of_new (hlinked : Linked config records row)
    (hnew : (records id).question.status = .none) :
    row.onchainId ≠ some (decimal id) := by
  intro hsame
  cases hlinked with
  | draft honchain _ =>
      rw [honchain] at hsame
      cases hsame
  | paid other honchain hreflects _ _ =>
      rw [honchain, Option.some.injEq, decimal_inj] at hsame
      have hstatus := hreflects.status
      rw [Fin.ext hsame, hnew] at hstatus
      cases hstatus

/-- A row that stores the id of an open question is open and has its
reference. -/
theorem Linked.open_of_stored (hlinked : Linked config records row)
    (hstored : row.onchainId = some (decimal id))
    (hopen : (records id).question.status = .open) :
    Reflects (records id).question row ∧ row.status = .open ∧
      refUuid (records id).ref = some row.id ∧ row.chainId = config.chainId := by
  cases hlinked with
  | draft honchain _ =>
      rw [honchain] at hstored
      cases hstored
  | paid other honchain hreflects href hchain =>
      rw [honchain, Option.some.injEq, decimal_inj] at hstored
      rw [Fin.ext hstored] at hreflects href
      have hstatus := hreflects.status
      rw [questionStatus_eq_open.mpr hopen] at hstatus
      exact ⟨hreflects, Option.some.inj hstatus, href, hchain⟩

/-- An ask links the drafts it hits and leaves the other rows linked. -/
theorem Linked.asked {ask : QuestionAskedEvent} {asker answerer : Address}
    {amount : Uint 128} {deadline : Uint 64} {indexed : Shared.Question}
    (hask : ask = { baseEvent place id ref with
      asker := ask.asker, answerer := ask.answerer, amount := amount
      deadline := deadline })
    (hnew : (records id).question.status = .none)
    (hlinked : ∀ row ∈ rows, Linked config records row)
    (htarget : ∀ row ∈ rows, (EscrowEvent.asked ask).hits config row = true →
      OnTarget (.asked ask) row)
    (hindexed : indexed ∈ Table.update ((EscrowEvent.asked ask).hits config)
      ((EscrowEvent.asked ask).set now) rows) :
    Linked config (Event.tell records
      (.questionAsked id ref asker answerer amount deadline)) indexed := by
  obtain ⟨hrow, _⟩ | ⟨row, hrow, hhit, rfl⟩ := Table.mem_update.mp hindexed
  · have hrow_linked := hlinked indexed hrow
    exact hrow_linked.update_of_ne (hrow_linked.ne_of_new hnew)
  · obtain ⟨huuid, hchain, _⟩ := EscrowEvent.hits_iff.mp hhit
    have hdate := htarget row hrow hhit
    simp only [OnTarget] at hdate
    rw [hask] at huuid hdate ⊢
    refine .paid id rfl ?_ ?_ hchain
    · simp only [Event.tell, Function.update_self]
      exact ⟨rfl, if_pos hdate, rfl⟩
    · simp only [Event.tell, Function.update_self]
      exact huuid

/-- A settlement moves the row of the settled question and no other. -/
theorem Linked.settled {terminal : Status} {indexed : Shared.Question}
    {settle : QuestionSettledEvent}
    (hsettle : settle = { baseEvent place id (records id).ref with
      name := settledName terminal })
    (hsettled : terminal.settled = true)
    (hopen : (records id).question.status = .open)
    (hlinked : ∀ row ∈ rows, Linked config records row)
    (htarget : ∀ row ∈ rows,
      (EscrowEvent.settled settle).hits config row = true →
        OnTarget (.settled settle) row)
    (hindexed : indexed ∈
      Table.update ((EscrowEvent.settled settle).hits config)
        ((EscrowEvent.settled settle).set now) rows) :
    Linked config (conclude records id terminal) indexed := by
  obtain ⟨hrow, hmiss⟩ | ⟨row, hrow, hhit, rfl⟩ := Table.mem_update.mp hindexed
  · have hrow_linked := hlinked indexed hrow
    apply hrow_linked.update_of_ne
    intro hstored
    obtain ⟨_, hrow_open, href, hchain⟩ := hrow_linked.open_of_stored hstored hopen
    have hhit : (EscrowEvent.settled settle).hits config indexed = true := by
      rw [EscrowEvent.hits_iff, hsettle]
      exact ⟨href, hchain, hrow_open⟩
    rw [hmiss] at hhit
    cases hhit
  · have hstored := htarget row hrow hhit
    rw [hsettle] at hstored ⊢
    obtain ⟨hreflects, _, href, hchain⟩ :=
      (hlinked row hrow).open_of_stored hstored hopen
    refine .paid id hstored ?_ ?_ hchain
    · simp only [conclude, Function.update_self]
      exact ⟨hreflects.amountUsdc, hreflects.answerDeadline,
        statusForEvent_settledName hsettled⟩
    · simp only [conclude, Function.update_self]
      exact href

/-- A deadline that is no date is not stored. -/
theorem not_reflects_of_late {ask : QuestionAskedEvent}
    {question : Contract.Question}
    (hoff : ¬ OnTarget (.asked ask) row) :
    ¬ Reflects question ((EscrowEvent.asked ask).set now row) := by
  intro hreflects
  have hdate : dateColumn ask.deadline = some (question.deadline : ℕ) :=
    hreflects.answerDeadline
  have hlate : ¬ ask.deadline ≤ 8640000000000 := hoff
  rw [dateColumn, if_neg hlate] at hdate
  cases hdate

/-- A settlement of another question ends the row of one that stays open. -/
theorem Linked.settled_off_target {terminal : Status}
    {settle : QuestionSettledEvent} (hlinked : Linked config records row)
    (hopen : row.status = .open)
    (hsettle : settle = { baseEvent place id ref with
      name := settledName terminal })
    (hsettled : terminal.settled = true)
    (hoff : ¬ OnTarget (.settled settle) row) :
    ∃ other : Uint 256, row.onchainId = some (decimal other) ∧
      ¬ Reflects (conclude records id terminal other).question
        ((EscrowEvent.settled settle).set now row) := by
  cases hlinked with
  | draft _ hpending =>
      rw [hpending] at hopen
      cases hopen
  | paid other honchain hreflects _ _ =>
      rw [hsettle] at hoff ⊢
      refine ⟨other, honchain, ?_⟩
      have hne : other ≠ id := by
        intro heq
        rw [heq] at honchain
        exact hoff honchain
      have hbefore := hreflects.status
      rw [hopen] at hbefore
      intro hafter
      have hstatus := hafter.status
      rw [conclude, Function.update_of_ne hne, ← hbefore,
        EscrowEvent.set] at hstatus
      simp only [statusForEvent_settledName hsettled,
        questionStatus_eq_open] at hstatus
      rw [hstatus] at hsettled
      cases hsettled

end Event

/-! ## Every run -/

/-- All rows are linked to what the applied events tell. -/
def Mirrored (deployment : Deployment) (state : State oz T) : Prop :=
  ∀ row ∈ state.questions,
    Linked deployment.config (told state.applied) row

section Runs

variable {deployment : Deployment} {state : State oz T}

theorem Mirrored.request (hmirrored : Mirrored deployment state)
    (request : QuestionRequest) :
    Mirrored deployment (state.step deployment (.request request)) := by
  intro row hrow
  obtain hsame | ⟨draft, hmints, _, hquestions⟩ :=
    request.postQuestions_cases state.backend
  · apply hmirrored
    rw [State.questions, State.step, hsame] at hrow
    exact hrow
  · rw [State.questions, State.step, hquestions] at hrow
    obtain hold | hnew := List.mem_append.mp hrow
    · exact hmirrored row hold
    · rw [List.mem_singleton.mp hnew]
      obtain ⟨_, _, _, rfl⟩ := QuestionRequest.mints_isDraft hmints
      exact .draft rfl rfl

theorem Mirrored.index (hwired : state.Wired)
    (hmirrored : Mirrored deployment state) {place : Place} {now : ℕ}
    (htarget : StaysOnTarget deployment state (.index place now)) :
    Mirrored deployment (state.index deployment place now) := by
  obtain hsame | ⟨event, rest, indexed, database, hnext, hindexed, _,
    hquestions, hindex⟩ := state.index_cases deployment place now
  · rw [hsame]
    exact hmirrored
  have hfollows := hwired.next_follows hnext
  have hrows : ∀ row ∈ state.questions,
      indexed.hits deployment.config row = true → OnTarget indexed row := by
    apply htarget
    rw [hnext]
    exact hindexed
  intro row hrow
  rw [hindex, State.applied]
  simp only [State.questions, State.withDatabase, hindex, hquestions] at hrow
  change Linked _ (told (state.events.take (state.cursor + 1))) row
  rw [(State.take_cursor_succ hnext).1, told_append]
  cases hfollows with
  | asked hnew =>
      rw [escrowEvent_asked] at hindexed
      cases hindexed
      exact Linked.asked rfl hnew hmirrored hrows hrow
  | settled hopen hsettled =>
      rw [escrowEvent_settleEvent hsettled] at hindexed
      cases hindexed
      rw [tell_settleEvent hsettled]
      exact Linked.settled rfl hsettled hopen hmirrored hrows hrow

/-- The condition is exact: an event off target, once applied, leaves a row that
does not reflect its question. -/
theorem Mirrored.broken (hwired : state.Wired)
    (hmirrored : Mirrored deployment state) {place : Place} {now : ℕ}
    {event : EscrowEvent}
    (hevent : event ∈
      state.unapplied.head?.bind (escrowEvent deployment.checksum place))
    {row : Shared.Question} (hrow : row ∈ state.questions)
    (hhit : event.hits deployment.config row = true)
    (hoff : ¬ OnTarget event row)
    (hmoved : (state.index deployment place now).cursor ≠ state.cursor) :
    ∃ moved ∈ (state.index deployment place now).questions, ∃ id : Uint 256,
      moved.onchainId = some (decimal id) ∧
        ¬ Reflects (told (state.index deployment place now).applied id).question
          moved := by
  obtain hsame | ⟨emitted, rest, indexed, database, hnext, hindexed, _,
    hquestions, hindex⟩ := state.index_cases deployment place now
  · exact absurd (congrArg State.cursor hsame) hmoved
  rw [hnext, List.head?_cons, Option.bind_some, hindexed] at hevent
  cases hevent
  have happlied : (state.index deployment place now).applied =
      state.applied ++ [emitted] := by
    rw [hindex]
    exact (State.take_cursor_succ hnext).1
  have hmem : event.set now row ∈
      (state.index deployment place now).questions := by
    rw [hindex]
    simp only [State.questions, State.withDatabase, hquestions]
    exact Table.mem_update.mpr (.inr ⟨row, hrow, hhit, rfl⟩)
  refine ⟨event.set now row, hmem, ?_⟩
  rw [happlied, told_append]
  cases hwired.next_follows hnext with
  | @asked id =>
      rw [escrowEvent_asked] at hindexed
      cases hindexed
      exact ⟨id, rfl, not_reflects_of_late hoff⟩
  | @settled id terminal _ hsettled =>
      rw [escrowEvent_settleEvent hsettled] at hindexed
      cases hindexed
      have hopen : row.status = .open := (EscrowEvent.hits_iff.mp hhit).2.2
      rw [tell_settleEvent hsettled]
      exact (hmirrored row hrow).settled_off_target hopen rfl hsettled hoff

theorem mirrored_of_reachable (hlock : oz.lock.Documented)
    (hreachable : state.ReachableBy deployment (StaysOnTarget deployment)) :
    state.Wired ∧ Mirrored deployment state := by
  apply State.reachableBy_invariant hlock _ _ hreachable
  · intro start hstart row hrow
    rw [hstart.2.1] at hrow
    cases hrow
  · intro state action htarget hwired hmirrored
    cases action with
    | chain input =>
        intro row hrow
        rw [State.applied_chain hlock hwired input]
        exact hmirrored row hrow
    | request request => exact hmirrored.request request
    | index place now => exact hmirrored.index hwired htarget

/-- In every run whose indexed events stay on target, a row with an on-chain id
reflects the question of that id: as the applied events tell it throughout, and
as the contract stores it once all events are applied. -/
theorem rows_mirror_chain (hlock : oz.lock.Documented)
    (hreachable : state.ReachableBy deployment (StaysOnTarget deployment))
    {row : Shared.Question} (hrow : row ∈ state.questions) {id : Uint 256}
    (honchain : row.onchainId = some (decimal id)) :
    Reflects (told state.applied id).question row ∧
      (state.cursor = state.events.length →
        Reflects (state.session.world.escrow.questions id) row) := by
  obtain ⟨hwired, hmirrored⟩ := mirrored_of_reachable hlock hreachable
  have hreflects : Reflects (told state.applied id).question row := by
    cases hmirrored row hrow with
    | draft hnone _ =>
        rw [hnone] at honchain
        cases honchain
    | paid other hother hreflects _ _ =>
        rw [hother, Option.some.injEq, decimal_inj] at honchain
        rw [← Fin.ext honchain]
        exact hreflects
  refine ⟨hreflects, ?_⟩
  intro hcaught_up
  have hall : state.applied = state.events := by
    rw [State.applied, hcaught_up, List.take_length]
  rw [hall, State.events, hwired.recorded.told] at hreflects
  exact hreflects

end Runs

namespace Sample

/-- The draft is paid and its payment indexed. -/
def paid : State .plain Unit := start.run deployment [compose, pay, index]

theorem paid_reachable : paid.ReachableBy deployment (StaysOnTarget deployment) := by
  refine ⟨start, [compose, pay, index], start_initial, ?_, rfl⟩
  refine ⟨trivial, trivial, ?_, trivial⟩
  intro event hevent row hrow hhit
  cases hevent
  exact (by decide : (604810 : ℕ) ≤ 8640000000000)

end Sample

/-- The row of the paid draft shows on-chain question 1. -/
theorem rows_mirror_chain_paid : ∃ row ∈ Sample.paid.questions,
    Reflects (Sample.paid.session.world.escrow.questions 1) row := by
  refine ⟨Sample.paid.questions.head (by decide), List.head_mem _, ?_⟩
  exact (rows_mirror_chain OpenZeppelin.plain_documented.lock
    Sample.paid_reachable (List.head_mem _) (by decide)).2 (by decide)

namespace Sample

/-- After the payment a stranger asks themselves under the same reference and
declines; then the indexer applies all three events. -/
def collided : State .plain Unit :=
  start.run deployment [compose, pay, call 5 11 (.askQuestion ref 5 1),
    call 5 12 (.declineQuestion 2), index, index, index]

end Sample

/-- The row opened by question 1 shows the end of question 2. -/
theorem shared_ref_breaks_mirror :
    Sample.collided.cursor = Sample.collided.events.length ∧
      ∃ row ∈ Sample.collided.questions, row.onchainId = some (decimal 1) ∧
        row.status = .declined ∧
        (Sample.collided.session.world.escrow.questions 1).status = .open ∧
        ¬ Reflects (Sample.collided.session.world.escrow.questions 1) row := by
  refine ⟨by decide, Sample.collided.questions.head (by decide),
    List.head_mem _, by decide, by decide, by decide, ?_⟩
  intro hreflects
  have hstatus := hreflects.status
  revert hstatus
  decide

end BuyAnAnswer.Platform
