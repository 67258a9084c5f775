import BuyAnAnswer.Workers.Cursor
import BuyAnAnswer.Workers.Rows

/-!
# What the sweep deletes

The sweep looks for payments in the database, where they arrive only once the
indexer has applied them.  A draft that is paid for but not indexed yet looks
abandoned.  The sweep spares whatever is paid for exactly as long as the indexer
is ahead of it.
-/

namespace BuyAnAnswer.Workers

open Text Shared Indexer Api BuyAnAnswer.Transaction

variable {network : Network} {runtime : Runtime} {id : Text} {chainId : ℕ}

/-- An ask under the question's id has been mined on the chain. -/
def Cloud.Asked (cloud : Cloud) (network : Network) (chainId : ℕ) (id : Text) : Prop :=
  ∃ ask, cloud.Mined network chainId (.asked ask) ∧ tryRefToUuid ask.ref = some id

/-- No row of the chain under the id waits for its payment. -/
def Cloud.Unawaited (cloud : Cloud) (chainId : ℕ) (id : Text) : Prop :=
  ∀ row ∈ (cloud.record id).question, row.chainId = chainId →
    row.status ≠ .pendingPayment

/-- If the event is an ask, then nobody waits for it any more. -/
def Cloud.Past (cloud : Cloud) (chainId : ℕ) (event : EscrowEvent) : Prop :=
  ∀ ask id, event = .asked ask → tryRefToUuid ask.ref = some id →
    cloud.Unawaited chainId id

theorem Cloud.Asked.mono {before after : Cloud}
    (hasked : before.Asked network chainId id) (hgrows : before.Grows after) :
    after.Asked network chainId id := by
  obtain ⟨ask, hmined, hid⟩ := hasked
  exact ⟨ask, hmined.mono hgrows, hid⟩

/-- Blocks are added, and a question that was asked for and does not wait does not
begin to wait. -/
structure PaymentsStay (network : Network) (before after : Cloud) : Prop where
  grows : before.Grows after
  unawaited : ∀ chainId id, before.Asked network chainId id →
    before.Unawaited chainId id → after.Unawaited chainId id

theorem PaymentsStay.past {before after : Cloud} {event : EscrowEvent}
    (hstay : PaymentsStay network before after)
    (hmined : before.Mined network chainId event)
    (hpast : before.Past chainId event) : after.Past chainId event := by
  rintro ask id rfl hid
  exact hstay.unawaited chainId id ⟨ask, hmined, hid⟩ (hpast ask id rfl hid)

/-- What the audit trail calls handled was mined and is past. -/
def AuditsPast (network : Network) (cloud : Cloud) : Prop :=
  ∀ line ∈ cloud.journal.audits, ∃ event, cloud.Mined network line.1 event ∧
    auditBase event = line.2.toAuditBase ∧ cloud.Past line.1 event

/-- A draft is minted before its ref is used. -/
def MintsFirst (network : Network) (operation : Operation) (cloud : Cloud) : Prop :=
  ∀ row, operation = .database (.insertQuestion row) →
    ¬ cloud.Asked network row.chainId row.id

def paymentsProtocol (network : Network) : Protocol workers Cloud where
  Invariant := AuditsPast network
  Rely := PaymentsStay network
  Allowed := MintsFirst network
  refl := fun _ => ⟨fun _ => le_rfl, fun _ _ _ hunawaited => hunawaited⟩
  trans := fun hfirst hsecond =>
    ⟨fun chainId => (hfirst.grows chainId).trans (hsecond.grows chainId),
      fun chainId id hasked hunawaited =>
        hsecond.unawaited chainId id (hasked.mono hfirst.grows)
          (hfirst.unawaited chainId id hasked hunawaited)⟩

/-! ## One operation -/

section Exec

variable {operation : Operation} {node : NodeAnswer} {before after : Cloud}
variable {reply : operation.Reply}

theorem exec_unawaited (hfirst : MintsFirst network operation before)
    (hexec : Cloud.exec network operation node before = some (reply, after))
    (hasked : before.Asked network chainId id)
    (hunawaited : before.Unawaited chainId id) : after.Unawaited chainId id := by
  intro row hrow hchain
  obtain hsame | ⟨statement, rfl, heffect⟩ := exec_record id hexec
  · rw [hsame] at hrow
    exact hunawaited row hrow hchain
  · rw [heffect] at hrow
    obtain ⟨_, rfl, hid⟩ | ⟨old, hold, hchange⟩ := Statement.row_cases hrow
    · subst hid hchain
      exact absurd hasked (hfirst row rfl)
    · have hpaid := hunawaited old hold
      cases hchange with
      | keeps => exact hpaid hchain
      | publishes => exact hpaid hchain
      | opens hhits => exact fun hpending => by cases hpending
      | settles hhits =>
          exact QuestionRecord.isTerminal_ne_pending
            (statusForEvent_settled_isTerminal _)

theorem exec_paymentsStay (hfirst : MintsFirst network operation before)
    (hexec : Cloud.exec network operation node before = some (reply, after)) :
    PaymentsStay network before after :=
  ⟨exec_grows hexec, fun _ _ => exec_unawaited hfirst hexec⟩

theorem AuditsPast.mono (hpast : AuditsPast network before)
    (hstay : PaymentsStay network before after)
    (haudits : after.journal.audits = before.journal.audits) :
    AuditsPast network after := by
  intro line hline
  rw [haudits] at hline
  obtain ⟨event, hmined, hbase, hevent⟩ := hpast line hline
  exact ⟨event, hmined.mono hstay.grows, hbase, hstay.past hmined hevent⟩

/-- Operations that write no audit line keep the protocol. -/
theorem keeps_payments (haudit : operation.isAudit = false) :
    Keeps network (paymentsProtocol network) operation := by
  intro now hpast hfirst node reply after hexec
  have hstay := exec_paymentsStay hfirst hexec
  exact ⟨hpast.mono hstay ((exec_framed hexec).audits haudit), hstay⟩

/-- An ask that goes through leaves nobody waiting. -/
theorem exec_openQuestion {config : IndexerConfig} {uuid : Text}
    {ask : QuestionAskedEvent} {now : ℕ} {changed : List Text}
    (hexec : Cloud.exec network (.database (.openQuestion config uuid ask now)) node
      before = some (.ok changed, after)) :
    after.Unawaited config.chainId uuid := by
  obtain ⟨_, htables, _⟩ | ⟨hreply, _, _⟩ := exec_database hexec
  · intro row hrow hchain hpending
    rw [Cloud.record, htables,
      Statement.recordOf_effect before.database.consistent, Statement.onRecord,
      Option.mem_def, Option.map_eq_some_iff] at hrow
    obtain ⟨old, hold, hnew⟩ := hrow
    split at hnew
    · subst hnew
      cases hpending
    · next hmiss =>
      subst hnew
      exact hmiss (inStatus_iff.mpr ⟨recordOf_id hold, hchain, hpending⟩)
  · cases hreply

end Exec

/-! ## One event -/

section Event

variable {Problem A : Type} {cloud : Cloud} {config : IndexerConfig}
variable {event : EscrowEvent}

/-- The audit line of an event that is past. -/
theorem wp_audit_past {fields : AuditFields} {fired : Fin 2}
    (hmined : cloud.Mined network config.chainId event)
    (hpast : cloud.Past config.chainId event)
    (hfields : fields.toAuditBase = auditBase event) :
    (system network runtime).wp (paymentsProtocol network)
      (System.FailsOnly fun _ => True)
      (auditMoneyState config fields >>= fun _ => pure fired) cloud := by
  refine wp_audit ?_ fun _ _ _ _ _ => trivial
  intro now hnow hinvariant
  have hstay : PaymentsStay network now (now.audit config.chainId fields) :=
    ⟨fun _ => le_rfl, fun _ _ _ hunawaited => hunawaited⟩
  refine ⟨?_, hstay⟩
  intro line hline
  obtain hold | hnew := List.mem_append.mp hline
  · obtain ⟨other, hother, hbase, hevent⟩ := hinvariant line hold
    exact ⟨other, hother, hbase, hstay.past hother hevent⟩
  · rw [List.mem_singleton.mp hnew]
    have hready := hmined.mono hnow.grows
    exact ⟨event, hready, hfields.symm,
      hstay.past hready (hnow.past hmined hpast)⟩

theorem wp_sql_past {failed : SqlError → SqlError} {statement : Statement}
    {next : statement.Reply → Program workers SqlError A}
    (hmined : cloud.Mined network config.chainId event)
    (hpast : cloud.Past config.chainId event)
    (hnext : ∀ value after, after.Mined network config.chainId event →
      after.Past config.chainId event →
      (system network runtime).wp (paymentsProtocol network)
        (System.FailsOnly fun _ => True) (next value) after) :
    (system network runtime).wp (paymentsProtocol network)
      (System.FailsOnly fun _ => True) (sql failed statement >>= next) cloud := by
  refine wp_sql_keeps (keeps_payments rfl) (fun _ _ _ _ _ _ _ => trivial) ?_
  intro value node now after hnow _ hstay _
  have hready := hmined.mono hnow.grows
  exact hnext value after (hready.mono hstay.grows)
    (hstay.past hready (hnow.past hmined hpast))

theorem wp_noopOrUnknown_past {uuid : Text} {target : QuestionStatus}
    (hmined : cloud.Mined network config.chainId event)
    (hpast : cloud.Past config.chainId event) :
    (system network runtime).wp (paymentsProtocol network)
      (System.FailsOnly fun _ => True)
      (noopOrUnknown config (auditBase event) uuid target) cloud := by
  refine wp_sql_past hmined hpast ?_
  intro existing after hmined hpast
  cases existing with
  | none => exact wp_audit_past hmined hpast rfl
  | some existing => exact wp_audit_past hmined hpast rfl

/-- An applied event is past. -/
theorem wp_applyEvent_past (now : ℕ)
    (hmined : cloud.Mined network config.chainId event) :
    (system network runtime).wp (paymentsProtocol network)
      (System.FailsOnly fun _ => True) (applyEvent config event now) cloud := by
  rw [applyEvent]
  simp only
  cases huuid : tryRefToUuid event.base.ref with
  | none =>
      refine wp_audit_past hmined ?_ rfl
      rintro ask id rfl hid
      exact absurd (huuid.symm.trans hid) (by simp)
  | some uuid =>
      cases event with
      | asked ask =>
          refine wp_sql_keeps (keeps_payments rfl)
            (fun _ _ _ _ _ _ _ => trivial) ?_
          intro changed node later after hnow hexec hstay _
          have hmined := (hmined.mono hnow.grows).mono hstay.grows
          have hpast : after.Past config.chainId (.asked ask) := by
            intro other id hother hid
            cases hother
            cases huuid.symm.trans hid
            exact exec_openQuestion hexec
          split
          · exact wp_audit_past hmined hpast rfl
          · exact wp_noopOrUnknown_past hmined hpast
      | settled settle =>
          have hpast : cloud.Past config.chainId (.settled settle) := by
            intro ask id hask
            cases hask
          refine wp_sql_past hmined hpast ?_
          intro changed after hmined hpast
          split
          · split
            · refine wp_sql_past hmined hpast ?_
              intro _ after hmined hpast
              exact wp_audit_past hmined hpast rfl
            · exact wp_audit_past hmined hpast rfl
          · exact wp_noopOrUnknown_past hmined hpast

end Event

/-! ## Every schedule -/

theorem isAudit_of_isScan {operation : Operation} (hscan : operation.isScan = true) :
    operation.isAudit = false := by
  cases operation with
  | audit => cases hscan
  | _ => rfl

theorem wp_payments (label : Label) (cloud : Cloud) :
    (system network runtime).wp (paymentsProtocol network) (fun _ _ => True)
      ((system network runtime).program label) cloud := by
  cases label with
  | reconcile chainId limits now =>
      have hpass : (system network runtime).wp (paymentsProtocol network)
          (System.FailsOnly fun _ => True)
          (reconcile (network.config chainId limits) now) cloud := by
        apply wp_reconcile_of
        · exact fun hstay => hstay.grows
        · exact fun _ hscan => keeps_payments (isAudit_of_isScan hscan)
        · exact fun _ _ hmined _ => wp_applyEvent_past now hmined
      exact System.wp_mono hpass fun _ _ _ _ _ => trivial
  | sweep olderThanSeconds now limit =>
      exact wp_of_keeps (sweepOrphanedPendingPayments_uses _ _ _)
        fun _ hsweep => keeps_payments (isAudit_of_ofSweep hsweep)
  | request context request =>
      exact wp_of_keeps (handleRequest_uses runtime context request)
        fun _ hapi => keeps_payments (isAudit_of_ofApi hapi)

/-- Drafts are minted before their ref is used, and when a `DELETE` runs, the cursor of
a chain has passed every ask so far for a draft of the chain that is old enough. -/
structure IndexedFirst (network : Network) (pool : WorkerPool)
    (action : WorkerSchedule) : Prop where
  mint : ∀ row, Executes pool action (.insertQuestion row) →
    ¬ pool.state.Asked network row.chainId row.id
  delete : ∀ ids cutoff, Executes pool action (.deleteOrphans ids cutoff) →
    ∀ row ∈ pool.state.database.questions, row.createdAt < cutoff →
      ∀ ask, pool.state.Mined network row.chainId (.asked ask) →
        tryRefToUuid ask.ref = some row.id →
          ask.blockNumber ≤ pool.state.cursor network row.chainId

theorem admits_payments :
    (system network runtime).Admits (paymentsProtocol network) (fun _ _ _ => True)
      (IndexedFirst network) where
  launch := fun _ _ => wp_payments _ _
  advance := by
    rintro pool index node label operation next left right hfirst hthreads hindex row rfl
    have hget := System.getElem?_of_split hthreads hindex
    exact hfirst.mint row ⟨index, node, _, rfl, hget, rfl⟩
  event := by
    intro pool event _ hpast
    have hstay : PaymentsStay network pool.state (pool.state.react event) := by
      refine ⟨react_grows pool.state event, ?_⟩
      intro chainId id _ hunawaited
      cases event with
      | mine mined blocks => exact hunawaited
    refine ⟨?_, hstay⟩
    cases event with
    | mine mined blocks => exact hpast.mono hstay rfl

/-- A handled ask is past. -/
theorem AuditsPast.unawaited {cloud : Cloud} {ask : QuestionAskedEvent}
    (hpast : AuditsPast network cloud) (hid : tryRefToUuid ask.ref = some id)
    (hhandled : cloud.Handled chainId (.asked ask)) : cloud.Unawaited chainId id := by
  obtain ⟨line, hline, rfl, hbase⟩ := hhandled
  obtain ⟨event, _, hevent, hunawaited⟩ := hpast line hline
  have hsame := hevent.trans hbase
  cases event with
  | asked other =>
      have href : other.ref = ask.ref := congrArg AuditBase.ref hsame
      exact hunawaited other id rfl (href ▸ hid)
  | settled settle => cases congrArg AuditBase.eventName hsame

/-- Nobody waits for an ask up to the cursor of its chain, as passes leave it. -/
def Cloud.Indexed (cloud : Cloud) (network : Network) (chainId : ℕ) : Prop :=
  ∀ ask, .asked ask ∈ (network chainId).events →
    ask.blockNumber ≤ cloud.cursor network chainId →
      cloud.Mined network chainId (.asked ask) ∧ cloud.Past chainId (.asked ask)

/-- The cursor only passes asks that nobody waits for any more. -/
theorem unawaited_of_cursor (runtime : Runtime) {cloud : Cloud}
    (hindexed : cloud.Indexed network chainId) {schedule : List WorkerSchedule}
    (hmeets : Machine.Meets (system network runtime).step (IndexedFirst network)
      (idle cloud) schedule) {ask : QuestionAskedEvent}
    (hmined : ((system network runtime).run (idle cloud) schedule).state.Mined network
      chainId (.asked ask))
    (hid : tryRefToUuid ask.ref = some id)
    (hcursor : ask.blockNumber ≤
      ((system network runtime).run (idle cloud) schedule).state.cursor network chainId) :
    ((system network runtime).run (idle cloud) schedule).state.Unawaited chainId id := by
  have hpayments : (system network runtime).Orderly (paymentsProtocol network)
      (fun _ _ _ => True) (idle cloud) :=
    System.Orderly.empty fun line hline => by cases hline
  obtain ⟨hpast, hstay⟩ := hpayments.run admits_payments hmeets
  have hcursors : (system network runtime).Orderly
      (cursorProtocol network chainId (cloud.cursor network chainId))
      (fun _ _ _ => True) (idle cloud) :=
    System.Orderly.empty (idle_sound cloud)
  obtain ⟨hsound, _⟩ := hcursors.run admits_cursor (Machine.meets_always schedule)
  by_cases hstart : ask.blockNumber ≤ cloud.cursor network chainId
  · obtain ⟨hbefore, hgone⟩ := hindexed ask hmined.1 hstart
    exact hstay.past hbefore hgone ask id rfl hid
  · have hhandled := hsound.invariant.handled (.asked ask) hmined.1
      (Nat.lt_of_not_le hstart) hcursor
    exact hpast.invariant.unawaited hid hhandled

/-- As long as the cursors are ahead of the sweep, no row that goes has been asked for
on its chain. -/
theorem sweep_spares_paid (network : Network) (runtime : Runtime) (cloud : Cloud)
    (hindexed : ∀ chainId, cloud.Indexed network chainId)
    (past : List WorkerSchedule) (action : WorkerSchedule)
    (hmeets : Machine.Meets (system network runtime).step (IndexedFirst network)
      (idle cloud) (past ++ [action])) (id : Text) (row : Question) :
    let pool := (system network runtime).run (idle cloud) past
    (pool.state.record id).question = some row →
      (((system network runtime).step pool action).state.record id).question = none →
        ¬ pool.state.Asked network row.chainId id := by
  intro pool hrow hnone ⟨ask, hmined, hid⟩
  obtain ⟨hpast, haction⟩ := Machine.meets_append.mp hmeets
  obtain hsame | ⟨index, node, thread, statement, hadvance, hthread, hhead, _,
    heffect⟩ := step_record runtime (run_confined network runtime cloud past) action id
  · rw [hsame] at hnone
    cases hrow.symm.trans hnone
  · rw [heffect] at hnone
    have hchange := Statement.rowChange id hrow statement
    rw [hnone] at hchange
    generalize hresult : (none : Option Question) = result at hchange
    cases hchange with
    | @deletes ids cutoff hdoomed =>
        obtain ⟨-, hpending, -, hold⟩ := doomed_iff.mp hdoomed
        have hcursor := haction.1.delete ids cutoff
          ⟨index, node, thread, hadvance, hthread, hhead⟩ row (Table.lookup_mem hrow) hold
          ask hmined (hid.trans (congrArg some (recordOf_id hrow).symm))
        exact unawaited_of_cursor runtime (hindexed row.chainId) hpast hmined hid hcursor
          row hrow rfl hpending
    | _ => cases hresult

namespace Sample

/-- The sweep a day after the draft was minted, up to its `DELETE`. -/
def sweep : List WorkerSchedule := [.launch (.sweep 86400 90000 500), .advance 0 {}]

/-- The question is paid for in block 1. -/
def asked : Network := fun _ => {
  contractAddress := "0x00000000000000000000000000000000000000e5".toList
  startBlock := 0
  events := [.asked payment]
  ordered := List.pairwise_singleton _ _ }

/-- A draft that nobody pays for. -/
def unpaidDraft : Question := { draft with id := "other".toList }

def twoDrafts : Cloud := { cloud with
  database := {
    creators := [creator]
    questions := [draft, unpaidDraft]
    answers := []
    consistent := by decide } }

/-- The payment is mined and applied and the cursor saved; a day later comes the
sweep, up to its `DELETE`. -/
def caughtUp : List WorkerSchedule := [
  .event (.mine 8453 1),
  .launch (.reconcile 8453 wholeRange 30), .advance 0 {}, .advance 0 { latest := 1 },
  .advance 0 { logs := [.asked payment] }, .advance 0 {}, .advance 0 {}, .advance 0 {},
  .launch (.sweep 86400 90000 500), .advance 1 {}]

end Sample

/-- The sweep takes the draft that nobody paid for, and leaves the other one. -/
theorem sweep_spares_paid_sample :
    let pool := (system Sample.asked Sample.runtime).run (idle Sample.twoDrafts)
      Sample.caughtUp
    let after := (system Sample.asked Sample.runtime).step pool (.advance 1 {})
    pool.state.Asked Sample.asked 8453 Sample.uuid ∧
      (after.state.record Sample.uuid).question.map Question.status = some .open ∧
      (after.state.record Sample.unpaidDraft.id).question = none ∧
      ¬ pool.state.Asked Sample.asked 8453 Sample.unpaidDraft.id := by
  have hindexed : ∀ chainId, Sample.twoDrafts.Indexed Sample.asked chainId := by
    intro chainId ask hask hcursor
    rw [EscrowEvent.asked.inj (List.mem_singleton.mp hask)] at hcursor
    exact absurd hcursor (Nat.not_succ_le_zero 0)
  have hquiet : Machine.Meets (system Sample.asked Sample.runtime).step
      (fun pool action => ∀ statement ∈ statementOf pool action,
        statement.isMint = false ∧ statement.isSweep = false)
      (idle Sample.twoDrafts) Sample.caughtUp := by
    decide +kernel
  have hpast : Machine.Meets (system Sample.asked Sample.runtime).step
      (IndexedFirst Sample.asked) (idle Sample.twoDrafts) Sample.caughtUp := by
    apply hquiet.mono
    intro pool action hstatement
    constructor
    · intro row hexecutes
      exact absurd (hstatement _ hexecutes.statementOf_eq).1 Bool.noConfusion
    · intro ids cutoff hexecutes
      exact absurd (hstatement _ hexecutes.statementOf_eq).2 Bool.noConfusion
  refine ⟨⟨Sample.payment, ⟨List.mem_singleton_self _, ?_⟩, ?_⟩, ?_, ?_, ?_⟩
  · decide +kernel
  · decide +kernel
  · decide +kernel
  · decide +kernel
  · apply sweep_spares_paid Sample.asked Sample.runtime Sample.twoDrafts hindexed
      Sample.caughtUp (.advance 1 {}) (Machine.meets_append.mpr ⟨hpast, ?_, trivial⟩)
      Sample.unpaidDraft.id Sample.unpaidDraft
    · decide +kernel
    · decide +kernel
    · constructor
      · rintro row hexecutes
        cases hexecutes.statementOf_eq
      · intro ids cutoff _ row hrow _ ask hmined _
        have hcursors : ∀ row ∈ ((system Sample.asked Sample.runtime).run
            (idle Sample.twoDrafts) Sample.caughtUp).state.database.questions,
            ((system Sample.asked Sample.runtime).run (idle Sample.twoDrafts)
              Sample.caughtUp).state.cursor Sample.asked row.chainId = 1 := by
          decide +kernel
        rw [EscrowEvent.asked.inj (List.mem_singleton.mp hmined.1)]
        exact (hcursors row hrow).ge

/-- The sweep takes a draft whose payment has been mined but not indexed. -/
theorem sweep_takes_paid :
    let pool := (system Sample.asked Sample.runtime).run (idle Sample.drafted)
      ([.event (.mine 8453 1)] ++ Sample.sweep)
    pool.state.Asked Sample.asked Sample.draft.chainId Sample.uuid ∧
      (pool.state.record Sample.uuid).question = some Sample.draft ∧
      (((system Sample.asked Sample.runtime).step pool
        (.advance 0 {})).state.record Sample.uuid).question = none := by
  refine ⟨⟨Sample.payment, ⟨List.mem_singleton_self _, ?_⟩, ?_⟩, ?_, ?_⟩
  all_goals decide +kernel

end BuyAnAnswer.Workers
