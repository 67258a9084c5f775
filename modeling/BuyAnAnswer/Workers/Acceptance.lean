import BuyAnAnswer.Workers.Emission
import BuyAnAnswer.Workers.Rows

/-!
# Every event is accepted

A question's id on its chain is the one under which its own ref was asked.  Since
ids are given once, no event of the stream runs into the unique index, and since
numbers are short enough none runs into a check.  So the contents of a block
never stop a pass.
-/

namespace BuyAnAnswer.Workers

open Text Shared Indexer Api BuyAnAnswer.Transaction

variable {network : Network} {runtime : Runtime}

/-- The row's id on the chain was given to an ask under the row's own id. -/
def Announced (network : Network) (row : Question) : Prop :=
  ∀ text ∈ row.onchainId, ∃ ask, .asked ask ∈ (network row.chainId).events ∧
    tryRefToUuid ask.ref = some row.id ∧ decimal ask.onchainId = text

def Cloud.Announced (cloud : Cloud) (network : Network) : Prop :=
  ∀ id row, (cloud.record id).question = some row → Workers.Announced network row

/-- What is announced to the database comes from the chain. -/
def Operation.Announces (network : Network) : Operation → Prop
  | .database (.openQuestion config uuid ask _) =>
    .asked ask ∈ (network config.chainId).events ∧ tryRefToUuid ask.ref = some uuid
  | .database (.insertQuestion row) => IsDraft row
  | _ => True

def announcedProtocol (network : Network) : Protocol workers Cloud where
  Invariant := fun cloud => cloud.Announced network
  Rely := Cloud.Grows
  refl := fun _ _ => le_rfl
  trans := fun hfirst hsecond chainId => (hfirst chainId).trans (hsecond chainId)

theorem keeps_announced {operation : Operation}
    (hannounces : operation.Announces network) :
    Keeps network (announcedProtocol network) operation := by
  intro now hannounced _ node reply after hexec
  refine ⟨?_, exec_grows hexec⟩
  intro id row hrow
  obtain hsame | ⟨statement, rfl, heffect⟩ := exec_record id hexec
  · rw [hsame] at hrow
    exact hannounced id row hrow
  · rw [heffect] at hrow
    obtain ⟨_, rfl, _⟩ | ⟨old, hold, hchange⟩ := Statement.row_cases hrow
    · have hdraft : IsDraft row := hannounces
      intro text htext
      rw [hdraft.onchainId] at htext
      cases htext
    · have hbefore := hannounced id old hold
      cases hchange with
      | keeps => exact hbefore
      | publishes => exact hbefore
      | settles hhits => exact hbefore
      | opens hhits =>
          obtain ⟨hask, huuid⟩ := hannounces
          obtain ⟨hid, hchain, _⟩ := inStatus_iff.mp hhits
          rintro text ⟨⟩
          rw [← hchain] at hask
          exact ⟨_, hask, hid ▸ huuid, rfl⟩

/-! ## The constraints -/

section Constraints

variable {tables : Tables} {config : IndexerConfig} {uuid : Text} {now : ℕ}

/-- Two rows of a chain have different ids on it. -/
theorem onchain_distinct (hconsistent : tables.Consistent) {row other : Question}
    (hrow : row ∈ tables.questions) (hother : other ∈ tables.questions)
    (hne : other.id ≠ row.id) : row.onchainId = none ∨
      (other.chainId, other.onchainId) ≠ (row.chainId, row.onchainId) := by
  have hsymm : Std.Symm fun left right : Question => left.onchainId = none ∨
      (left.chainId, left.onchainId) ≠ (right.chainId, right.onchainId) := by
    constructor
    intro left right hdiffer
    by_cases hnull : right.onchainId = none
    · exact .inl hnull
    · obtain hleft | hdiffer := hdiffer
      · exact .inr fun hsame => hnull ((Prod.mk.inj hsame).2.trans hleft)
      · exact .inr hdiffer.symm
  have hrows : row ≠ other := by
    rintro rfl
    exact hne rfl
  exact (hconsistent.questions_chain_onchain_unique.forall hrow hother
    hrows).imp_right Ne.symm

theorem openQuestion_consistent (hconsistent : tables.Consistent)
    (hwell : network.WellFormed)
    (hannounced : ∀ row ∈ tables.questions, Announced network row)
    {ask : QuestionAskedEvent} (hask : .asked ask ∈ (network config.chainId).events)
    (huuid : tryRefToUuid ask.ref = some uuid) :
    ((Statement.openQuestion config uuid ask now).effect tables).Consistent := by
  refine hconsistent.updateQuestions (fun _ => rfl) (fun _ => rfl) (fun _ => rfl)
    ?_ ?_
  · intro row hrow _
    have hvalid := hconsistent.questions_check row hrow
    refine ⟨hvalid.asker_addr, hvalid.answerer_addr, hvalid.chain_id, ?_, ?_,
      hvalid.body_len⟩
    · rintro text ⟨⟩
      exact isBaseUnits_decimal ((hwell config.chainId).ids ask hask)
    · rintro text ⟨⟩
      exact isBaseUnits_decimal ((hwell config.chainId).amounts ask hask)
  · intro row hrow hhits
    right
    intro other hother hne
    obtain ⟨hid, hchain, _⟩ := inStatus_iff.mp hhits
    rw [hid] at hne
    refine ⟨?_, ?_⟩
    · rw [inStatus, decide_eq_false hne]
      rfl
    · intro hsame
      obtain ⟨hotherChain, honchain⟩ := Prod.mk.inj hsame
      obtain ⟨asked, hasked, hotherId, hdecimal⟩ :=
        hannounced other hother _ honchain
      rw [hotherChain, hchain] at hasked
      have hone := (hwell config.chainId).unique asked ask hasked hask
        (decimal_injective hdecimal)
      rw [hone, huuid] at hotherId
      exact hne (Option.some.inj hotherId).symm

theorem settleQuestion_consistent (hconsistent : tables.Consistent)
    {settle : QuestionSettledEvent} :
    ((Statement.settleQuestion config uuid settle now).effect tables).Consistent := by
  refine hconsistent.updateQuestions (fun _ => rfl) (fun _ => rfl) (fun _ => rfl)
    ?_ ?_
  · intro row hrow _
    have hvalid := hconsistent.questions_check row hrow
    exact ⟨hvalid.asker_addr, hvalid.answerer_addr, hvalid.chain_id,
      hvalid.onchain_id, hvalid.amount, hvalid.body_len⟩
  · intro row hrow hhits
    by_cases hnull : row.onchainId = none
    · exact .inl hnull
    · right
      intro other hother hne
      have hdistinct := onchain_distinct hconsistent hrow hother hne
      refine ⟨?_, hdistinct.resolve_left hnull⟩
      rw [(inStatus_iff.mp hhits).1] at hne
      rw [inStatus, decide_eq_false hne]
      rfl

end Constraints

/-! ## One event -/

section Event

variable {A : Type} {cloud : Cloud} {config : IndexerConfig} {event : EscrowEvent}

theorem Cloud.Announced.questions {cloud : Cloud}
    (hannounced : cloud.Announced network) :
    ∀ row ∈ cloud.database.questions, Workers.Announced network row := by
  intro row hrow
  apply hannounced row.id
  exact (Table.lookup_eq_some cloud.database.consistent.questions_primary).mpr
    ⟨hrow, rfl⟩

/-- A statement that keeps every constraint goes through. -/
theorem wp_accepted {statement : Statement}
    {next : statement.Reply → Program workers SqlError A}
    (hannounces : Operation.Announces network (.database statement))
    (hrange : statement.inRange = true)
    (hconsistent : ∀ now : Cloud, now.Announced network →
      (statement.effect now.database.toTables).Consistent)
    (hnext : ∀ value after, cloud.Grows after →
      (system network runtime).wp (announcedProtocol network)
        (System.FailsOnly fun _ => False) (next value) after) :
    (system network runtime).wp (announcedProtocol network)
      (System.FailsOnly fun _ => False) (sql id statement >>= next) cloud := by
  apply wp_sql_keeps (keeps_announced hannounces)
  · intro failure node now after hannounced hexec
    obtain ⟨hreply, _, _⟩ | ⟨_, _, hbroken⟩ := exec_database hexec
    · cases hreply
    · exact absurd (hconsistent now hannounced) (hbroken hrange)
  · intro value node now after hnow _ hafter _
    exact hnext value after fun chainId => (hnow chainId).trans (hafter chainId)

theorem wp_audit_accepted {fields : AuditFields} {fired : Fin 2} :
    (system network runtime).wp (announcedProtocol network)
      (System.FailsOnly fun _ => False)
      (auditMoneyState config fields >>= fun _ => pure fired) cloud :=
  wp_audit (fun _ _ hannounced => ⟨hannounced, fun _ => le_rfl⟩)
    fun _ _ _ _ _ => trivial

theorem wp_noopOrUnknown_accepted {audit : AuditBase} {uuid : Text}
    {target : QuestionStatus} :
    (system network runtime).wp (announcedProtocol network)
      (System.FailsOnly fun _ => False)
      (noopOrUnknown config audit uuid target) cloud := by
  refine wp_accepted ?_ ?_ (fun now _ => now.database.consistent) ?_
  · exact trivial
  · exact rfl
  intro existing after _
  cases existing with
  | none => exact wp_audit_accepted
  | some existing => exact wp_audit_accepted

/-- No event of the stream is refused. -/
theorem wp_applyEvent_accepted (hwell : network.WellFormed) (now : ℕ)
    (hevent : event ∈ (network config.chainId).events) :
    (system network runtime).wp (announcedProtocol network)
      (System.FailsOnly fun _ => False) (applyEvent config event now) cloud := by
  rw [applyEvent]
  simp only
  cases huuid : tryRefToUuid event.base.ref with
  | none => exact wp_audit_accepted
  | some uuid =>
      cases event with
      | asked ask =>
          have hannounces : Operation.Announces network
              (.database (.openQuestion config uuid ask now)) := ⟨hevent, huuid⟩
          apply wp_accepted hannounces
          · exact rfl
          · intro now hannounced
            exact openQuestion_consistent now.database.consistent hwell
              hannounced.questions hevent huuid
          · intro changed after _
            split
            · exact wp_audit_accepted
            · exact wp_noopOrUnknown_accepted
      | settled settle =>
          refine wp_accepted ?_ ?_ ?_ ?_
          · exact trivial
          · exact rfl
          · intro now _
            exact settleQuestion_consistent now.database.consistent
          · intro changed after _
            split
            · split
              · refine wp_accepted ?_ ?_ ?_ ?_
                · exact trivial
                · exact rfl
                · intro now _
                  exact Statement.reveal_consistent now.database.consistent _ _
                · exact fun _ _ _ => wp_audit_accepted
              · exact wp_audit_accepted
            · exact wp_noopOrUnknown_accepted

end Event

/-! ## Every schedule -/

theorem announces_of_ofApi {operation : Operation} {publishes : Bool}
    (hapi : operation.OfApi publishes) : operation.Announces network := by
  cases operation with
  | database statement =>
      cases statement with
      | openQuestion => cases hapi
      | insertQuestion row => exact hapi
      | _ => exact trivial
  | _ => exact trivial

theorem announces_of_ofSweep {operation : Operation} (hsweep : operation.OfSweep) :
    operation.Announces network := by
  cases operation with
  | database statement =>
      cases statement with
      | openQuestion | insertQuestion => cases hsweep
      | _ => exact trivial
  | _ => exact trivial

theorem announces_of_isScan {operation : Operation} (hscan : operation.isScan = true) :
    operation.Announces network := by
  cases operation with
  | database statement => cases hscan
  | _ => exact trivial

def Label.isReconcile : Label → Bool
  | .reconcile _ _ _ => true
  | _ => false

/-- A pass does not fail. -/
def Passes (label : Label) (result : Except label.Failure label.Result)
    (_ : Cloud) : Prop :=
  label.isReconcile = true → result.isOk = true

theorem wp_announced (hwell : network.WellFormed) (label : Label) (cloud : Cloud) :
    (system network runtime).wp (announcedProtocol network) (Passes label)
      ((system network runtime).program label) cloud := by
  cases label with
  | reconcile chainId limits now =>
      have hpass : (system network runtime).wp (announcedProtocol network)
          (System.FailsOnly fun _ => False)
          (reconcile (network.config chainId limits) now) cloud := by
        apply wp_reconcile_of
        · exact fun hgrows => hgrows
        · exact fun _ hscan => keeps_announced (announces_of_isScan hscan)
        · exact fun _ _ hmined _ => wp_applyEvent_accepted hwell now hmined.1
      refine System.wp_mono hpass ?_
      intro result later _ _ hresult _
      cases result with
      | ok result => rfl
      | error failure => exact hresult.elim
  | sweep olderThanSeconds now limit =>
      have hcode : (system network runtime).wp (announcedProtocol network)
          (fun _ _ => True) (sweepOrphanedPendingPayments olderThanSeconds now limit)
          cloud :=
        wp_of_keeps (sweepOrphanedPendingPayments_uses _ _ _)
          fun _ hsweep => keeps_announced (announces_of_ofSweep hsweep)
      exact System.wp_mono hcode fun _ _ _ _ _ hpass => by cases hpass
  | request context request =>
      have hcode : (system network runtime).wp (announcedProtocol network)
          (fun _ _ => True) (handleRequest runtime context request) cloud :=
        wp_of_keeps (handleRequest_uses runtime context request)
          fun _ hapi => keeps_announced (announces_of_ofApi hapi)
      exact System.wp_mono hcode fun _ _ _ _ _ hpass => by cases hpass

theorem admits_announced (hwell : network.WellFormed) :
    (system network runtime).Admits (announcedProtocol network) Passes
      (fun _ _ => True) where
  launch := fun _ _ => wp_announced hwell _ _
  advance := fun _ _ _ => trivial
  event := by
    intro pool event _ hannounced
    cases event with
    | mine mined blocks =>
        exact ⟨hannounced, react_grows pool.state (.mine mined blocks)⟩

theorem isFailed_of_passes {label : Label} {cloud : Cloud}
    {program : Program workers label.Failure label.Result}
    (hwp : (system network runtime).wp (announcedProtocol network) (Passes label)
      program cloud)
    (hannounced : cloud.Announced network) (hpass : label.isReconcile = true) :
    program.isFailed = false := by
  cases program with
  | ret value => rfl
  | await operation next => rfl
  | fail failure =>
      have hok := hwp cloud ((announcedProtocol network).refl cloud) hannounced hpass
      cases hok

/-! ## One event alone -/

section Alone

variable {A : Type} {cloud : Cloud} {config : IndexerConfig} {event : EscrowEvent}

/-- Code that runs alone goes through and leaves these rows. -/
def Leaves (network : Network) (program : Program workers SqlError (Fin 2))
    (cloud : Cloud) (questions : List Question) : Prop :=
  ∃ fired after,
    program.run (fun operation cloud => cloud.serve operation) cloud =
      (.ok fired, after) ∧
    after.Announced network ∧ after.database.questions = questions

theorem leaves_audit {fields : AuditFields} {fired : Fin 2}
    (hannounced : cloud.Announced network) :
    Leaves network (auditMoneyState config fields >>= fun _ => pure fired) cloud
      cloud.database.questions :=
  ⟨fired, cloud.audit config.chainId fields, rfl, hannounced, rfl⟩

/-- The rule for a statement that keeps every constraint. -/
theorem leaves_sql {statement : Statement} {questions : List Question}
    {next : statement.Reply → Program workers SqlError (Fin 2)}
    (hannounced : cloud.Announced network)
    (hannounces : Operation.Announces network (.database statement))
    (hrange : statement.inRange = true)
    (hconsistent : (statement.effect cloud.database.toTables).Consistent)
    (hnext : ∀ after : Cloud, after.Announced network →
      after.database.toTables = statement.effect cloud.database.toTables →
        Leaves network (next (statement.reply cloud.database.toTables)) after
          questions) :
    Leaves network (sql id statement >>= next) cloud questions := by
  obtain ⟨database, hexecute, htables⟩ | ⟨_, hbroken⟩ := execute_cases cloud statement
  · have hexec : Cloud.exec network (.database statement) {} cloud =
        some (.ok (statement.reply cloud.database.toTables), { cloud with database }) :=
      congrArg some hexecute
    obtain ⟨hafter, _⟩ :=
      keeps_announced hannounces cloud hannounced trivial {} _ _ hexec
    rw [Leaves, run_sql hexecute]
    exact hnext { cloud with database } hafter htables
  · exact absurd hconsistent (hbroken hrange)

theorem leaves_noopOrUnknown {audit : AuditBase} {uuid : Text}
    {target : QuestionStatus} (hannounced : cloud.Announced network) :
    Leaves network (noopOrUnknown config audit uuid target) cloud
      cloud.database.questions := by
  apply leaves_sql hannounced
  · exact trivial
  · exact rfl
  · exact cloud.database.consistent
  intro after hafter htables
  have hquestions : after.database.questions = cloud.database.questions :=
    congrArg Tables.questions htables
  rw [← hquestions]
  split
  · exact leaves_audit hafter
  · exact leaves_audit hafter

/-- Applying an event moves the rows it hits. -/
theorem applyEvent_run (hwell : network.WellFormed) (hannounced : cloud.Announced network)
    (hevent : event ∈ (network config.chainId).events) (now : ℕ) :
    Leaves network (applyEvent config event now) cloud
      (Table.update (event.hits config) (event.set now) cloud.database.questions) := by
  rw [applyEvent]
  simp only
  cases huuid : tryRefToUuid event.base.ref with
  | none =>
      have hmiss : ∀ row ∈ cloud.database.questions, event.hits config row = false := by
        intro row _
        simp [EscrowEvent.hits, huuid]
      rw [Table.update_eq_self hmiss]
      exact leaves_audit hannounced
  | some uuid =>
      rw [← inStatus_eq_hits huuid]
      cases event with
      | asked ask =>
          apply leaves_sql hannounced
          · exact ⟨hevent, huuid⟩
          · exact rfl
          · exact openQuestion_consistent cloud.database.consistent hwell
              hannounced.questions hevent huuid
          intro after hafter htables
          have hquestions : after.database.questions =
              Table.update (inStatus config uuid (EscrowEvent.asked ask).prior)
                ((EscrowEvent.asked ask).set now) cloud.database.questions :=
            congrArg Tables.questions htables
          rw [← hquestions]
          split
          · exact leaves_audit hafter
          · exact leaves_noopOrUnknown hafter
      | settled settle =>
          apply leaves_sql hannounced
          · exact trivial
          · exact rfl
          · exact settleQuestion_consistent cloud.database.consistent
          intro after hafter htables
          have hquestions : after.database.questions =
              Table.update (inStatus config uuid (EscrowEvent.settled settle).prior)
                ((EscrowEvent.settled settle).set now) cloud.database.questions :=
            congrArg Tables.questions htables
          rw [← hquestions]
          split
          · split
            · apply leaves_sql hafter
              · exact trivial
              · exact rfl
              · exact Statement.reveal_consistent after.database.consistent _ _
              intro later hlater htables
              have hsame : later.database.questions = after.database.questions := by
                rw [show later.database.questions = _ from
                  congrArg Tables.questions htables]
                rfl
              rw [← hsame]
              exact leaves_audit hlater
            · exact leaves_audit hafter
          · exact leaves_noopOrUnknown hafter

end Alone

/-- However passes, sweeps and requests overlap, no pass over a deployed escrow
fails, and every event of it can be applied in every state. -/
theorem no_event_wedges_indexer (network : Network) (runtime : Runtime)
    (hdeployed : network.Deployed) (cloud : Cloud)
    (hcloud : ∀ row ∈ cloud.database.questions, row.onchainId = none)
    (schedule : List WorkerSchedule) :
    let pool := (system network runtime).run (idle cloud) schedule
    (∀ thread ∈ pool.threads, thread.label.isReconcile = true →
      thread.program.isFailed = false) ∧
    ∀ config event, event ∈ (network config.chainId).events → ∀ now,
      ∃ fired after, (applyEvent config event now).run (fun operation cloud =>
        cloud.serve operation) pool.state = (.ok fired, after) := by
  intro pool
  have hwell := hdeployed.wellFormed
  have hstart : (idle cloud).state.Announced network := by
    intro id row hrow text htext
    rw [hcloud row (Table.lookup_mem hrow)] at htext
    cases htext
  have hidle : (system network runtime).Orderly (announcedProtocol network) Passes
      (idle cloud) := System.Orderly.empty hstart
  obtain ⟨horderly, _⟩ :=
    hidle.run (admits_announced hwell) (Machine.meets_always schedule)
  constructor
  · intro thread hthread hpass
    exact isFailed_of_passes (horderly.threads thread hthread) horderly.invariant hpass
  · intro config event hevent now
    obtain ⟨fired, after, hrun, _⟩ :=
      applyEvent_run hwell horderly.invariant hevent now
    exact ⟨fired, after, hrun⟩

namespace Sample

/-- A session in which one question is paid for. -/
def session : Contract.Session .plain Unit :=
  (Contract.Session.fresh Contract.Sample.storage ()).run Contract.Sample.escrow [{
    sender := Contract.Sample.asker.1
    timestamp := 10
    request := .askQuestion Platform.Sample.ref Contract.Sample.answerer.1 5000000
    onPermit := .fail .tokenFailure
    onTransfer := .done () }]

/-- The escrow of that session. -/
def deployed : Network := fun _ => {
  contractAddress := addressText Contract.Sample.escrow
  startBlock := 0
  events := [.asked {
    ref := reqHex (wordText Platform.Sample.ref)
    onchainId := 1
    blockNumber := 7
    logIndex := 0
    txHash := []
    asker := addressText Contract.Sample.asker.1
    answerer := addressText Contract.Sample.answerer.1
    amount := 5000000
    deadline := 604810 }]
  ordered := List.pairwise_singleton _ _ }

theorem deployed_emission (chainId : ℕ) :
    Emission Contract.Sample.escrow addressText session (deployed chainId) where
  documented := Contract.OpenZeppelin.plain_documented.lock
  reachable := ⟨Contract.Sample.args, Contract.Sample.storage, (), _,
    Contract.Sample.construct_args, rfl⟩
  few := by decide
  emitted := by
    have hlog : session.world.questionLog = [.questionAsked 1 Platform.Sample.ref
        Contract.Sample.asker.1 Contract.Sample.answerer.1 5000000 604810] := by
      decide
    rw [hlog]
    exact .cons ⟨{ blockNumber := 7, logIndex := 0, txHash := [] }, rfl⟩ .nil

/-- The ask is mined, and a pass reads it, opens the question and saves the cursor. -/
def indexed : List WorkerSchedule := [
  .event (.mine 8453 9),
  .launch (.reconcile 8453 wholeRange 30), .advance 0 {}, .advance 0 { latest := 9 },
  .advance 0 { logs := (deployed 8453).events },
  .advance 0 {}, .advance 0 {}, .advance 0 {}]

end Sample

/-- A pass over the draft of the ask. -/
theorem no_event_wedges_indexer_sample :
    let pool := (system Sample.deployed Sample.runtime).run (idle Sample.drafted)
      Sample.indexed
    (pool.state.record Sample.uuid).question.map Question.status = some .open ∧
    (∀ thread ∈ pool.threads, thread.label.isReconcile = true →
      thread.program.isFailed = false) ∧
    ∀ config event, event ∈ (Sample.deployed config.chainId).events → ∀ now,
      ∃ fired after, (applyEvent config event now).run (fun operation cloud =>
        cloud.serve operation) pool.state = (.ok fired, after) := by
  refine ⟨by decide +kernel, ?_⟩
  exact no_event_wedges_indexer Sample.deployed Sample.runtime
    (fun chainId => ⟨_, _, _, _, _, Sample.deployed_emission chainId⟩) Sample.drafted
    (by decide) Sample.indexed

end BuyAnAnswer.Workers
