import BuyAnAnswer.Workers.System

/-!
# Rules for the workers' code

A pass keeps to a protocol as soon as it does with each event it applies, if the
protocol does not mind the operations around them.  Whatever a pass applies has
been mined.
-/

namespace BuyAnAnswer.Workers

open Text Shared Indexer Api BuyAnAnswer.Transaction

variable {network : Network} {runtime : Runtime}
variable {protocol : Protocol workers Cloud}

/-- Wherever it is performed, the operation stays within the protocol. -/
def Keeps (network : Network) (protocol : Protocol workers Cloud)
    (operation : Operation) : Prop :=
  ∀ now, protocol.Invariant now → protocol.Allowed operation now →
    ∀ node reply after,
      Cloud.exec network operation node now = some (reply, after) →
        protocol.Invariant after ∧ protocol.Rely now after

/-- The event has been mined. -/
def Cloud.Mined (cloud : Cloud) (network : Network) (chainId : ℕ)
    (event : EscrowEvent) : Prop :=
  event ∈ (network chainId).events ∧
    event.base.blockNumber ≤ cloud.height chainId

/-- Blocks are only added. -/
def Cloud.Grows (before after : Cloud) : Prop :=
  ∀ chainId, before.height chainId ≤ after.height chainId

theorem Cloud.Mined.mono {before after : Cloud} {chainId : ℕ} {event : EscrowEvent}
    (hmined : before.Mined network chainId event) (hgrows : before.Grows after) :
    after.Mined network chainId event :=
  ⟨hmined.1, hmined.2.trans (hgrows chainId)⟩

theorem exec_grows {operation : Operation} {node : NodeAnswer}
    {before after : Cloud} {reply : operation.Reply}
    (hexec : Cloud.exec network operation node before = some (reply, after)) :
    before.Grows after := by
  intro chainId
  rw [(exec_framed hexec).height]

theorem react_grows (cloud : Cloud) (event : Event) :
    cloud.Grows (cloud.react event) := by
  cases event with
  | mine mined blocks =>
      intro chainId
      by_cases hmined : chainId = mined
      · subst hmined
        simp [Cloud.react]
      · simp [Cloud.react, hmined]

/-- What a pass does around the events it applies. -/
def Operation.isScan : Operation → Bool
  | .loadCursor _ _ | .saveCursor _ _ _ => true
  | .getFinalizedHead _ _ | .getLogs _ _ _ => true
  | _ => false

theorem isAudit_of_ofApi {operation : Operation} {publishes : Bool}
    (hapi : operation.OfApi publishes) : operation.isAudit = false := by
  cases operation with
  | audit => cases hapi
  | _ => rfl

theorem isAudit_of_ofSweep {operation : Operation} (hsweep : operation.OfSweep) :
    operation.isAudit = false := by
  cases operation with
  | audit => cases hsweep
  | _ => rfl

section Rules

variable {Problem A B : Type} {post : Except Problem A → Cloud → Prop}
variable {cloud : Cloud} {config : ReconcileConfig} {failures : SqlError → Prop}

theorem wp_keeps {operation : Operation}
    {next : operation.Reply → Program workers Problem A}
    (hkeeps : Keeps network protocol operation)
    (hnext : ∀ node reply now after, protocol.Rely cloud now →
      protocol.Invariant now →
      Cloud.exec network operation node now = some (reply, after) →
      protocol.Rely now after → protocol.Invariant after →
      (system network runtime).wp protocol post (next reply) after) :
    (system network runtime).wp protocol post (.await operation next) cloud := by
  apply System.wp_await rfl
  intro now hnow hinvariant hallowed node reply after hexec
  obtain ⟨hafter, hrely⟩ := hkeeps now hinvariant hallowed node reply after hexec
  exact ⟨hafter, hrely, hnext node reply now after hnow hinvariant hexec hrely
    hafter⟩

/-- Code of operations that all keep to the protocol. -/
theorem wp_of_keeps {Permitted : Operation → Prop} {program : Program workers Problem A}
    (huses : program.Uses Permitted)
    (hkeeps : ∀ operation, Permitted operation → Keeps network protocol operation) :
    (system network runtime).wp protocol (fun _ _ => True) program cloud :=
  System.wp_of_uses huses workers_yield hkeeps

/-- The rule for a statement. -/
theorem wp_sql_keeps {failed : SqlError → Problem} {statement : Statement}
    {next : statement.Reply → Program workers Problem A}
    (hkeeps : Keeps network protocol (.database statement))
    (hfailed : ∀ failure node now after, protocol.Invariant now →
      Cloud.exec network (.database statement) node now =
        some (.error failure, after) → ∀ later, post (.error (failed failure)) later)
    (hnext : ∀ value node now after, protocol.Rely cloud now →
      Cloud.exec network (.database statement) node now = some (.ok value, after) →
      protocol.Rely now after → protocol.Invariant after →
      (system network runtime).wp protocol post (next value) after) :
    (system network runtime).wp protocol post (sql failed statement >>= next)
      cloud := by
  apply wp_keeps hkeeps
  intro node reply now after hnow hinvariant hexec hrely hafter
  cases reply with
  | ok value => exact hnext value node now after hnow hexec hrely hafter
  | error failure =>
      exact fun later _ _ => hfailed failure node now after hinvariant hexec later

/-- The rule for the audit line at the end of an event. -/
theorem wp_audit {config : IndexerConfig} {fields : AuditFields} {value : A}
    {post : Except SqlError A → Cloud → Prop}
    (hkeeps : ∀ now, protocol.Rely cloud now → protocol.Invariant now →
      protocol.Invariant (now.audit config.chainId fields) ∧
        protocol.Rely now (now.audit config.chainId fields))
    (hpost : ∀ now later, protocol.Rely cloud now →
      protocol.Rely (now.audit config.chainId fields) later →
      protocol.Invariant later → post (.ok value) later) :
    (system network runtime).wp protocol post
      (auditMoneyState config fields >>= fun _ => pure value) cloud := by
  apply System.wp_await rfl
  intro now hnow hinvariant _ node reply after hexec
  cases hexec
  obtain ⟨hafter, hrely⟩ := hkeeps now hnow hinvariant
  exact ⟨hafter, hrely, fun later => hpost now later hnow⟩

end Rules

/-! ## A pass -/

/-- The event stands before the other one in the order of the chain. -/
def Precedes (left right : EscrowEvent) : Prop :=
  byBlockThenLog left right < 0

theorem byBlockThenLog_le_zero {left right : EscrowEvent} :
    byBlockThenLog left right ≤ 0 ↔
      left.base.blockNumber < right.base.blockNumber ∨
        left.base.blockNumber = right.base.blockNumber ∧
          left.base.logIndex ≤ right.base.logIndex := by
  rw [byBlockThenLog]
  split_ifs <;> omega

theorem precedes_iff {left right : EscrowEvent} :
    Precedes left right ↔
      left.base.blockNumber < right.base.blockNumber ∨
        left.base.blockNumber = right.base.blockNumber ∧
          left.base.logIndex < right.base.logIndex := by
  rw [Precedes, byBlockThenLog]
  split_ifs <;> omega

/-- Logs end up in the order of the chain, whatever order they came in. -/
theorem sorted_pairwise (logs : List EscrowEvent) :
    (logs.insertionSort fun left right => byBlockThenLog left right ≤ 0).Pairwise
      fun left right => ¬ Precedes right left := by
  have htotal : Std.Total fun left right : EscrowEvent =>
      byBlockThenLog left right ≤ 0 := by
    constructor
    intro left right
    rw [byBlockThenLog_le_zero, byBlockThenLog_le_zero]
    omega
  have htrans : IsTrans EscrowEvent fun left right =>
      byBlockThenLog left right ≤ 0 := by
    constructor
    intro first second third
    rw [byBlockThenLog_le_zero, byBlockThenLog_le_zero, byBlockThenLog_le_zero]
    omega
  apply (List.pairwise_insertionSort _ logs).imp
  intro left right hle
  rw [byBlockThenLog_le_zero] at hle
  rw [precedes_iff]
  omega

/-- Every event after `start` and up to `block` has been dealt with. -/
def DoneTo (network : Network) (chainId start : ℕ)
    (Done : EscrowEvent → Cloud → Prop) (block : ℕ) (cloud : Cloud) : Prop :=
  ∀ event ∈ (network chainId).events, start < event.base.blockNumber →
    event.base.blockNumber ≤ block → Done event cloud

theorem getFinalizedHead_le {chainId confirmations : ℕ} {node : NodeAnswer}
    {block : ℕ} {before after : Cloud}
    (hexec : Cloud.exec network (.getFinalizedHead chainId confirmations) node before =
      some (block, after)) : block ≤ after.height chainId := by
  simp only [Cloud.exec, Cloud.getFinalizedHead] at hexec
  split at hexec
  · next hlatest =>
    cases hexec
    exact (Nat.sub_le _ _).trans hlatest
  · cases hexec

/-- A node returns the events of the range and nothing else. -/
theorem getLogs_complete {chainId lo hi : ℕ} {node : NodeAnswer}
    {logs : List EscrowEvent} {before after : Cloud}
    (hexec : Cloud.exec network (.getLogs chainId lo hi) node before =
      some (logs, after)) :
    (∀ event ∈ logs, event ∈ (network chainId).events ∧
      lo ≤ event.base.blockNumber ∧ event.base.blockNumber ≤ hi) ∧
    ∀ event ∈ (network chainId).events, lo ≤ event.base.blockNumber →
      event.base.blockNumber ≤ hi → event ∈ logs := by
  simp only [Cloud.exec, Cloud.getLogs] at hexec
  split at hexec
  · next hhonest =>
    cases hexec
    constructor
    · intro event hevent
      have hfound := hhonest.1 hevent
      simpa [Escrow.logs] using hfound
    · intro event hevent hlo hhi
      apply hhonest.2
      simp [Escrow.logs, hevent, hlo, hhi]
  · cases hexec

theorem getLogs_scans {chainId lo hi : ℕ} {node : NodeAnswer}
    {logs : List EscrowEvent} {before after : Cloud}
    (hexec : Cloud.exec network (.getLogs chainId lo hi) node before =
      some (logs, after)) : (chainId, hi) ∈ after.journal.scans := by
  simp only [Cloud.exec, Cloud.getLogs] at hexec
  split at hexec
  · cases hexec
    exact List.mem_append_right _ (List.mem_singleton_self _)
  · cases hexec

/-- What a protocol tells a pass: which blocks may be scanned, which events may be
applied and which have been dealt with. -/
structure Tracks (network : Network) (protocol : Protocol workers Cloud)
    (config : ReconcileConfig) (start : ℕ) (Seen : ℕ → Cloud → Prop)
    (Ready Done : EscrowEvent → Cloud → Prop) : Prop where
  seen : ∀ {before after block}, protocol.Rely before after → Seen block before →
    Seen block after
  ready : ∀ {before after event}, protocol.Rely before after →
    Ready event before → Ready event after
  done : ∀ {before after event}, protocol.Rely before after → Done event before →
    Done event after
  seen_le : ∀ {cloud block least}, Seen block cloud → least ≤ block → Seen least cloud
  load : ∀ {cloud}, protocol.Invariant cloud →
    let last := (cloud.cursors config.chainId config.contractAddress).getD
      config.startBlock
    start ≤ last ∧ DoneTo network config.chainId start Done last cloud
  loads : Keeps network protocol
    (.loadCursor config.chainId config.contractAddress)
  heads : Keeps network protocol
    (.getFinalizedHead config.chainId config.confirmations)
  head : ∀ {confirmations node block before after},
    Cloud.exec network (.getFinalizedHead config.chainId confirmations) node before =
      some (block, after) → Seen block after
  fetch : ∀ {lo hi now}, Seen hi now → protocol.Invariant now →
    protocol.Allowed (.getLogs config.chainId lo hi) now → ∀ {node logs after},
      Cloud.exec network (.getLogs config.chainId lo hi) node now = some (logs, after) →
        protocol.Invariant after ∧ protocol.Rely now after ∧
          ∀ event ∈ logs, Ready event after
  save : ∀ {last now}, Seen last now → start ≤ last →
    DoneTo network config.chainId start Done last now → protocol.Invariant now →
    protocol.Allowed
      (.saveCursor config.chainId config.contractAddress last) now →
    let after := now.saveCursor config.chainId config.contractAddress last
    protocol.Invariant after ∧ protocol.Rely now after

section Pass

variable {config : ReconcileConfig} {start now : ℕ} {failures : SqlError → Prop}
variable {Seen : ℕ → Cloud → Prop} {Ready Done : EscrowEvent → Cloud → Prop}
variable {cloud : Cloud}
variable (htracks : Tracks network protocol config start Seen Ready Done)
variable (happly : ∀ event cloud, event ∈ (network config.chainId).events →
  Ready event cloud →
  (∀ other ∈ (network config.chainId).events, start < other.base.blockNumber →
    Precedes other event → Done other cloud) →
  protocol.Invariant cloud →
    (system network runtime).wp protocol (System.Ends failures (Done event))
      (applyEvent config.toIndexerConfig event now) cloud)

include htracks

theorem Tracks.doneTo {before after : Cloud} {block : ℕ}
    (hrely : protocol.Rely before after)
    (hdone : DoneTo network config.chainId start Done block before) :
    DoneTo network config.chainId start Done block after :=
  fun event hevent hstart hblock =>
    htracks.done hrely (hdone event hevent hstart hblock)

include happly

/-- The events of a window are dealt with one after the other. -/
theorem wp_applyEvents_of {events : List EscrowEvent}
    (hsorted : events.Pairwise fun left right => ¬ Precedes right left)
    (hevents : ∀ event ∈ events, event ∈ (network config.chainId).events ∧
      Ready event cloud)
    (hearlier : ∀ event ∈ events, ∀ other ∈ (network config.chainId).events,
      start < other.base.blockNumber → Precedes other event →
        Done other cloud ∨ other ∈ events)
    (applied : ℕ) (hinvariant : protocol.Invariant cloud) :
    (system network runtime).wp protocol
      (System.Ends failures fun after => ∀ event ∈ events, Done event after)
      (applyEvents config.toIndexerConfig now events applied) cloud := by
  induction events generalizing applied cloud with
  | nil =>
      intro later _ _ event hevent
      cases hevent
  | cons event events ih =>
      obtain ⟨hfirst, hrest⟩ := List.pairwise_cons.mp hsorted
      obtain ⟨hmem, hready⟩ := hevents event List.mem_cons_self
      have hbefore : ∀ other ∈ (network config.chainId).events,
          start < other.base.blockNumber → Precedes other event →
            Done other cloud := by
        intro other hother hstart hprecedes
        obtain hdone | hlater :=
          hearlier event List.mem_cons_self other hother hstart hprecedes
        · exact hdone
        · obtain rfl | hlater := List.mem_cons.mp hlater
          · rw [precedes_iff] at hprecedes
            omega
          · exact absurd hprecedes (hfirst other hlater)
      apply System.wp_then hinvariant (happly event cloud hmem hready hbefore hinvariant)
      · exact fun _ _ hfailure => hfailure
      intro fired middle hmiddle hinvariant hdone
      have htail : (system network runtime).wp protocol
          (System.Ends failures fun after => ∀ event ∈ events, Done event after)
          (applyEvents config.toIndexerConfig now events (applied + fired)) middle := by
        apply ih hrest _ _ _ hinvariant
        · intro other hother
          obtain ⟨hother, hready⟩ := hevents other (List.mem_cons_of_mem _ hother)
          exact ⟨hother, htracks.ready hmiddle hready⟩
        · intro later hlater other hother hstart hprecedes
          obtain hother | hother := hearlier later (List.mem_cons_of_mem _ hlater)
            other hother hstart hprecedes
          · exact .inl (htracks.done hmiddle hother)
          · obtain rfl | hother := List.mem_cons.mp hother
            · exact .inl hdone
            · exact .inr hother
      apply System.wp_mono htail
      intro result after hafter _ hresult
      cases result with
      | error failure => exact hresult
      | ok count =>
          intro other hother
          obtain rfl | hother := List.mem_cons.mp hother
          · exact htracks.done hafter hdone
          · exact hresult other hother

/-- A window is saved after all its events. -/
theorem wp_scan_of {runEnd : ℕ} (rounds lo : ℕ) (progress : Progress)
    (hlo : start < lo) (hseen : Seen runEnd cloud)
    (hdone : lo ≤ runEnd → DoneTo network config.chainId start Done (lo - 1) cloud)
    (hinvariant : protocol.Invariant cloud) :
    (system network runtime).wp protocol (System.FailsOnly failures)
      (scan config now (windows config.getLogsRange runEnd rounds lo) progress)
      cloud := by
  induction rounds generalizing lo progress cloud with
  | zero => exact fun _ _ _ => trivial
  | succ rounds ih =>
      rw [windows]
      split
      · next hmore =>
        rw [scan, call_bind]
        apply System.wp_await rfl
        intro asked hasked hinvariant hallowed node logs fetched hexec
        have hwindow := htracks.seen_le (htracks.seen hasked hseen)
          (min_le_left runEnd (lo + config.getLogsRange - 1))
        obtain ⟨hfetched, hrely, hready⟩ := htracks.fetch hwindow hinvariant hallowed hexec
        refine ⟨hfetched, hrely, ?_⟩
        have hbefore := protocol.trans hasked hrely
        have hpast := htracks.doneTo hbefore (hdone hmore)
        obtain ⟨hfrom, hall⟩ := getLogs_complete hexec
        apply System.wp_then hfetched
          (wp_applyEvents_of htracks happly (sorted_pairwise logs) ?_ ?_ _ hfetched)
        · exact fun _ _ hfailure => hfailure
        · intro count applied happlied hinvariant hevents
          have hsaved : DoneTo network config.chainId start Done
              (min runEnd (lo + config.getLogsRange - 1)) applied := by
            intro event hevent hstart hblock
            by_cases hearly : event.base.blockNumber ≤ lo - 1
            · exact htracks.done happlied (hpast event hevent hstart hearly)
            · apply hevents event
              rw [List.mem_insertionSort]
              exact hall event hevent (by omega) hblock
          have hrange := config.getLogsRange_pos
          rw [call_bind]
          apply System.wp_await rfl
          intro ready hlater hinvariant hallowed _ reply saved hexec
          cases hexec
          have hseen := htracks.seen (protocol.trans hbefore
            (protocol.trans happlied hlater)) hseen
          obtain ⟨hsound, hlast⟩ := htracks.save (htracks.seen_le hseen
            (min_le_left runEnd (lo + config.getLogsRange - 1))) (by omega)
            (htracks.doneTo hlater hsaved) hinvariant hallowed
          refine ⟨hsound, hlast, ?_⟩
          apply ih _ _ (by omega) (htracks.seen hlast hseen) _ hsound
          intro hnext
          have heq : min runEnd (lo + config.getLogsRange - 1) =
              lo + config.getLogsRange - 1 := by omega
          rw [heq] at hsaved
          exact htracks.doneTo (protocol.trans hlater hlast) hsaved
        · intro event hevent
          rw [List.mem_insertionSort] at hevent
          exact ⟨(hfrom event hevent).1, hready event hevent⟩
        · intro event hevent other hother hstart hprecedes
          rw [List.mem_insertionSort] at hevent ⊢
          by_cases hearly : other.base.blockNumber ≤ lo - 1
          · exact .inl (hpast other hother hstart hearly)
          · right
            have hrange := (hfrom event hevent).2
            rw [precedes_iff] at hprecedes
            exact hall other hother (by omega) (by omega)
      · exact fun _ _ _ => trivial

/-- A pass fails only where an event it applies does. -/
theorem wp_reconcile_tracked :
    (system network runtime).wp protocol (System.FailsOnly failures)
      (reconcile config now) cloud := by
  rw [reconcile, call_bind]
  apply wp_keeps htracks.loads
  intro node row found loaded _ hfound hexec hloads _
  cases hexec
  obtain ⟨hstart, hdone⟩ := htracks.load hfound
  rw [call_bind]
  apply wp_keeps htracks.heads
  intro node head asked told hasked _ hexec hheads htold
  have hseen := htracks.head hexec
  have hlater := protocol.trans hloads (protocol.trans hasked hheads)
  simp only
  split
  · exact fun _ _ _ => trivial
  · apply System.wp_seq htold
    · apply wp_scan_of htracks happly _ _ _ (Nat.lt_succ_of_le hstart)
        (htracks.seen_le hseen (min_le_left _ _)) _ htold
      intro _
      exact htracks.doneTo hlater hdone
    · exact fun _ _ _ _ _ _ _ => trivial

end Pass

/-! ## Passes in any order -/

section Quiet

variable {config : ReconcileConfig} {now : ℕ} {failures : SqlError → Prop}
variable {cloud : Cloud}

/-- A protocol that does not mind the operations around the events. -/
theorem wp_reconcile_of
    (hgrows : ∀ {before after}, protocol.Rely before after → before.Grows after)
    (hquiet : ∀ operation : Operation, operation.isScan = true →
      Keeps network protocol operation)
    (happly : ∀ event cloud, cloud.Mined network config.chainId event →
      protocol.Invariant cloud →
        (system network runtime).wp protocol (System.FailsOnly failures)
          (applyEvent config.toIndexerConfig event now) cloud) :
    (system network runtime).wp protocol (System.FailsOnly failures)
      (reconcile config now) cloud := by
  have htracks : Tracks network protocol config 0
      (fun block cloud => block ≤ cloud.height config.chainId)
      (fun event cloud => cloud.Mined network config.chainId event)
      (fun _ _ => True) := by
    refine ⟨?_, ?_, ?_, ?_, ?_, hquiet _ rfl, hquiet _ rfl, ?_, ?_, ?_⟩
    · exact fun hrely hseen => hseen.trans (hgrows hrely _)
    · exact fun hrely hmined => hmined.mono (hgrows hrely)
    · exact fun _ _ => trivial
    · exact fun hseen hle => hle.trans hseen
    · exact fun _ => ⟨Nat.zero_le _, fun _ _ _ _ => trivial⟩
    · exact getFinalizedHead_le
    · intro lo hi now hseen hinvariant hallowed node logs after hexec
      obtain ⟨hafter, hrely⟩ := hquiet _ rfl now hinvariant hallowed node logs after hexec
      refine ⟨hafter, hrely, ?_⟩
      intro event hevent
      obtain ⟨hmem, _, hblock⟩ := (getLogs_complete hexec).1 event hevent
      exact ⟨hmem, hblock.trans (hseen.trans (hgrows hrely _))⟩
    · intro last now _ _ _ hinvariant hallowed
      exact hquiet _ rfl now hinvariant hallowed {} () _ rfl
  apply wp_reconcile_tracked htracks
  intro event cloud _ hready _ hinvariant
  apply System.wp_mono (happly event cloud hready hinvariant)
  intro result later _ _ hresult
  cases result with
  | ok fired => exact trivial
  | error failure => exact hresult

end Quiet

end BuyAnAnswer.Workers
