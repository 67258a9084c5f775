import BuyAnAnswer.Workers.Rules

/-!
# The cursor

A pass publishes the last block of a window only after every event of the window
has gone through `applyEvent`.  Passes overlap, lag and die, but since the cursor
only ever takes the larger value, it stays below the finalized heads and never
passes a block whose events have not been applied.
-/

namespace BuyAnAnswer.Workers

open Text Shared Indexer Api BuyAnAnswer.Transaction

variable {network : Network} {runtime : Runtime} {chainId start : ℕ}

/-- The stored cursor of a chain, or where the indexer starts without one. -/
def Cloud.cursor (cloud : Cloud) (network : Network) (chainId : ℕ) : ℕ :=
  (cloud.cursors chainId (network chainId).contractAddress).getD
    (network chainId).startBlock

/-- The event has been passed to an `applyEvent` call that completed: its audit
line has been written. -/
def Cloud.Handled (cloud : Cloud) (chainId : ℕ) (event : EscrowEvent) : Prop :=
  ∃ line ∈ cloud.journal.audits,
    line.1 = chainId ∧ line.2.toAuditBase = auditBase event

/-- The finalized heads that passes over a chain have read. -/
def Cloud.headsRead (cloud : Cloud) (chainId : ℕ) : List ℕ :=
  (cloud.journal.heads.filter fun entry => entry.1 = chainId).map Prod.snd

/-- The largest finalized head that was read, or 0. -/
def Cloud.largestHead (cloud : Cloud) (chainId : ℕ) : ℕ :=
  (cloud.headsRead chainId).foldr max 0

/-- Every event in the blocks after `start` and up to `block` has been
handled. -/
def Cloud.HandledTo (cloud : Cloud) (network : Network) (chainId start block : ℕ) :
    Prop :=
  ∀ event ∈ (network chainId).events, start < event.base.blockNumber →
    event.base.blockNumber ≤ block → cloud.Handled chainId event

theorem le_foldr_max {values : List ℕ} {value : ℕ} (hvalue : value ∈ values) :
    value ≤ values.foldr max 0 := by
  induction values with
  | nil => cases hvalue
  | cons first rest ih =>
      obtain rfl | hrest := List.mem_cons.mp hvalue
      · exact le_max_left _ _
      · exact (ih hrest).trans (le_max_right _ _)

theorem foldr_max_le {values : List ℕ} {bound : ℕ}
    (hbound : ∀ value ∈ values, value ≤ bound) : values.foldr max 0 ≤ bound := by
  induction values with
  | nil => exact Nat.zero_le bound
  | cons first rest ih =>
      apply max_le (hbound first List.mem_cons_self)
      exact ih fun value hvalue => hbound value (List.mem_cons_of_mem _ hvalue)

/-- The cursor is where it may be. -/
structure CursorSound (network : Network) (chainId start : ℕ) (cloud : Cloud) :
    Prop where
  start_le : start ≤ cloud.cursor network chainId
  unsaved : cloud.cursors chainId (network chainId).contractAddress = none →
    (network chainId).startBlock = start
  bound : cloud.cursor network chainId ≤ max start (cloud.largestHead chainId)
  handled : cloud.HandledTo network chainId start (cloud.cursor network chainId)

/-- The cursor and the journal only grow. -/
structure Forward (network : Network) (chainId : ℕ) (before after : Cloud) :
    Prop where
  cursor : before.cursor network chainId ≤ after.cursor network chainId
  handled : ∀ event, before.Handled chainId event → after.Handled chainId event
  heads : before.headsRead chainId ⊆ after.headsRead chainId

theorem Forward.refl (cloud : Cloud) : Forward network chainId cloud cloud :=
  ⟨le_rfl, fun _ hhandled => hhandled, List.Subset.refl _⟩

theorem Forward.trans {first second third : Cloud}
    (hfirst : Forward network chainId first second)
    (hsecond : Forward network chainId second third) :
    Forward network chainId first third :=
  ⟨hfirst.cursor.trans hsecond.cursor,
    fun event hhandled => hsecond.handled event (hfirst.handled event hhandled),
    fun _ hhead => hsecond.heads (hfirst.heads hhead)⟩

theorem Forward.handledTo {before after : Cloud} {block : ℕ}
    (hforward : Forward network chainId before after)
    (hhandled : before.HandledTo network chainId start block) :
    after.HandledTo network chainId start block :=
  fun event hevent hstart hblock =>
    hforward.handled event (hhandled event hevent hstart hblock)

theorem Forward.largestHead {before after : Cloud}
    (hforward : Forward network chainId before after) :
    before.largestHead chainId ≤ after.largestHead chainId :=
  foldr_max_le fun _ hhead => le_foldr_max (hforward.heads hhead)

/-- The cursor stays sound as long as it is not moved. -/
theorem Forward.sound {before after : Cloud}
    (hforward : Forward network chainId before after)
    (hsame : after.cursors chainId = before.cursors chainId)
    (hsound : CursorSound network chainId start before) :
    CursorSound network chainId start after := by
  have hcursor : after.cursor network chainId = before.cursor network chainId := by
    rw [Cloud.cursor, hsame]
    rfl
  refine ⟨?_, ?_, ?_, ?_⟩
  · rw [hcursor]
    exact hsound.start_le
  · rw [hsame]
    exact hsound.unsaved
  · rw [hcursor]
    exact hsound.bound.trans (max_le_max_left start hforward.largestHead)
  · rw [hcursor]
    exact hforward.handledTo hsound.handled

/-- The protocol of everybody who shares the cursor. -/
def cursorProtocol (network : Network) (chainId start : ℕ) :
    Protocol workers Cloud where
  Invariant := CursorSound network chainId start
  Rely := Forward network chainId
  refl := Forward.refl
  trans := Forward.trans

/-! ## One operation -/

section Exec

variable {operation : Operation} {node : NodeAnswer} {before after : Cloud}
variable {reply : operation.Reply}

theorem forward_of_journal (haudits : before.journal.audits ⊆ after.journal.audits)
    (hheads : before.journal.heads ⊆ after.journal.heads)
    (hcursor : before.cursor network chainId ≤ after.cursor network chainId) :
    Forward network chainId before after := by
  refine ⟨hcursor, ?_, ?_⟩
  · intro event ⟨line, hline, hmatches⟩
    exact ⟨line, haudits hline, hmatches⟩
  · exact List.map_subset _ (List.filter_subset _ hheads)

/-- Operations that do not move the cursor keep the protocol. -/
theorem exec_quiet (hquiet : operation.saves chainId = false)
    (hexec : Cloud.exec network operation node before = some (reply, after))
    (hsound : CursorSound network chainId start before) :
    CursorSound network chainId start after ∧
      Forward network chainId before after := by
  have hframed := exec_framed hexec
  have hsame := hframed.cursors chainId hquiet
  have hforward : Forward network chainId before after := by
    apply forward_of_journal hframed.written hframed.heads
    rw [Cloud.cursor, Cloud.cursor, hsame]
  exact ⟨hforward.sound hsame hsound, hforward⟩

/-- Saving the last block of a window all of whose events are handled. -/
theorem exec_saveCursor {lastBlock : ℕ}
    (hsound : CursorSound network chainId start before)
    (hstart : start ≤ lastBlock)
    (hhead : lastBlock ≤ before.largestHead chainId)
    (hhandled : before.HandledTo network chainId start lastBlock) :
    let after := before.saveCursor chainId (network chainId).contractAddress lastBlock
    CursorSound network chainId start after ∧
      Forward network chainId before after := by
  intro after
  have hcursors : after.cursors chainId (network chainId).contractAddress =
      some (((before.cursors chainId (network chainId).contractAddress).map
        (max · lastBlock)).getD lastBlock) := by
    simp [after, Cloud.saveCursor]
  have hcursor : after.cursor network chainId =
      max (before.cursor network chainId) lastBlock := by
    rw [Cloud.cursor, hcursors, Cloud.cursor]
    cases hstored : before.cursors chainId (network chainId).contractAddress with
    | some stored => rfl
    | none =>
        rw [hsound.unsaved hstored]
        exact (max_eq_right hstart).symm
  have hforward : Forward network chainId before after := by
    refine forward_of_journal (List.Subset.refl before.journal.audits)
      (List.Subset.refl before.journal.heads) ?_
    rw [hcursor]
    exact le_max_left _ _
  refine ⟨⟨?_, ?_, ?_, ?_⟩, hforward⟩
  · rw [hcursor]
    exact hsound.start_le.trans (le_max_left _ _)
  · rw [hcursors]
    simp
  · rw [hcursor]
    exact max_le hsound.bound (hhead.trans (le_max_right _ _))
  · rw [hcursor]
    intro event hevent hafter hblock
    obtain hbelow | hbelow := le_max_iff.mp hblock
    · exact hsound.handled event hevent hafter hbelow
    · exact hhandled event hevent hafter hbelow

end Exec

/-! ## One pass -/

theorem keeps_cursor {operation : Operation} (hquiet : operation.saves chainId = false) :
    Keeps network (cursorProtocol network chainId start) operation := by
  intro now hsound _ node reply after hexec
  exact exec_quiet hquiet hexec hsound

section Event

variable {A : Type} {cloud : Cloud} {config : IndexerConfig} {event : EscrowEvent}
variable (hchain : config.chainId = chainId)

/-- A statement leaves the cursor alone. -/
theorem wp_sql {statement : Statement}
    {next : statement.Reply → Program workers SqlError A}
    (hnext : ∀ value after,
      (system network runtime).wp (cursorProtocol network chainId start)
        (System.Ends (fun _ => True) fun after => after.Handled chainId event)
        (next value) after) :
    (system network runtime).wp (cursorProtocol network chainId start)
      (System.Ends (fun _ => True) fun after => after.Handled chainId event)
      (sql id statement >>= next) cloud := by
  apply wp_sql_keeps (keeps_cursor rfl)
  · exact fun _ _ _ _ _ _ _ => trivial
  · exact fun value _ _ after _ _ _ _ => hnext value after

include hchain

/-- The last thing `applyEvent` does is to write the audit line of its event. -/
theorem wp_auditMoneyState {fields : AuditFields} {fired : Fin 2}
    (hfields : fields.toAuditBase = auditBase event) :
    (system network runtime).wp (cursorProtocol network chainId start)
      (System.Ends (fun _ => True) fun after => after.Handled chainId event)
      (auditMoneyState config fields >>= fun _ => pure fired) cloud := by
  apply wp_audit
  · intro now _ hsound
    exact @exec_quiet network chainId start (.audit config.chainId fields) {} now
      (now.audit config.chainId fields) () rfl rfl hsound
  · intro now later _ hlater _
    apply hlater.handled
    refine ⟨(config.chainId, fields), ?_, hchain, hfields⟩
    exact List.mem_append_right _ (List.mem_singleton_self _)

theorem wp_noopOrUnknown {uuid : Text} {target : QuestionStatus} :
    (system network runtime).wp (cursorProtocol network chainId start)
      (System.Ends (fun _ => True) fun after => after.Handled chainId event)
      (noopOrUnknown config (auditBase event) uuid target) cloud := by
  apply wp_sql
  intro existing after
  cases existing with
  | none => exact wp_auditMoneyState hchain rfl
  | some existing => exact wp_auditMoneyState hchain rfl

/-- An event that `applyEvent` returns from has been handled. -/
theorem wp_applyEvent (now : ℕ) :
    (system network runtime).wp (cursorProtocol network chainId start)
      (System.Ends (fun _ => True) fun after => after.Handled chainId event)
      (applyEvent config event now) cloud := by
  rw [applyEvent]
  simp only
  cases tryRefToUuid event.base.ref with
  | none => exact wp_auditMoneyState hchain rfl
  | some uuid =>
      cases event with
      | asked ask =>
          apply wp_sql
          intro changed after
          split
          · exact wp_auditMoneyState hchain rfl
          · exact wp_noopOrUnknown hchain
      | settled settle =>
          apply wp_sql
          intro changed after
          split
          · split
            · apply wp_sql
              intro _ after
              exact wp_auditMoneyState hchain rfl
            · exact wp_auditMoneyState hchain rfl
          · exact wp_noopOrUnknown hchain

end Event

/-- What a pass has read stays read. -/
theorem largestHead_of_read {confirmations : ℕ} {node : NodeAnswer} {head : ℕ}
    {now after : Cloud}
    (hexec : Cloud.exec network (.getFinalizedHead chainId confirmations) node now =
      some (head, after)) : head ≤ after.largestHead chainId := by
  simp only [Cloud.exec, Cloud.getFinalizedHead] at hexec
  split at hexec
  · cases hexec
    apply le_foldr_max
    simp [Cloud.headsRead]
  · cases hexec

/-- A pass scans what it has seen and saves what it has handled. -/
theorem tracks_cursor (limits : PassLimits) :
    Tracks network (cursorProtocol network chainId start)
      (network.config chainId limits) start
      (fun block cloud => block ≤ cloud.largestHead chainId) (fun _ _ => True)
      (fun event cloud => cloud.Handled chainId event) where
  seen := fun hforward hseen => hseen.trans hforward.largestHead
  ready := fun _ _ => trivial
  done := fun hforward hhandled => hforward.handled _ hhandled
  seen_le := fun hseen hle => hle.trans hseen
  load := fun hsound => ⟨hsound.start_le, hsound.handled⟩
  loads := keeps_cursor rfl
  heads := keeps_cursor rfl
  head := largestHead_of_read
  fetch := by
    intro lo hi now _ hsound _ node logs after hexec
    obtain ⟨hafter, hforward⟩ := exec_quiet rfl hexec hsound
    exact ⟨hafter, hforward, fun _ _ => trivial⟩
  save := by
    intro last now hseen hstart hdone hsound _
    exact exec_saveCursor hsound hstart hseen hdone

theorem wp_reconcile (limits : PassLimits) (now : ℕ) (cloud : Cloud) :
    (system network runtime).wp (cursorProtocol network chainId start)
      (fun _ _ => True) (reconcile (network.config chainId limits) now) cloud := by
  have hpass : (system network runtime).wp (cursorProtocol network chainId start)
      (System.FailsOnly fun _ => True)
      (reconcile (network.config chainId limits) now) cloud := by
    apply wp_reconcile_tracked (tracks_cursor limits)
    intro event cloud _ _ _ _
    exact wp_applyEvent rfl now
  exact System.wp_mono hpass fun _ _ _ _ _ => trivial

/-! ## Every schedule -/

theorem saves_of_ofApi {operation : Operation} {publishes : Bool}
    (hapi : operation.OfApi publishes) :
    operation.saves chainId = false := by
  cases operation with
  | saveCursor => cases hapi
  | _ => rfl

theorem saves_of_ofSweep {operation : Operation} (hsweep : operation.OfSweep) :
    operation.saves chainId = false := by
  cases operation with
  | saveCursor => cases hsweep
  | _ => rfl

theorem saves_of_ofPass {operation : Operation} {config : ReconcileConfig}
    (hpass : operation.OfPass config) (hother : config.chainId ≠ chainId) :
    operation.saves chainId = false := by
  cases operation with
  | saveCursor saved contractAddress lastBlock =>
      simp only [Operation.saves, hpass.1]
      exact decide_eq_false hother
  | _ => rfl

/-- Whoever is launched keeps to the protocol of the cursor. -/
theorem wp_cursor (label : Label) (cloud : Cloud) :
    (system network runtime).wp (cursorProtocol network chainId start)
      (fun _ _ => True) ((system network runtime).program label) cloud := by
  cases label with
  | reconcile target limits now =>
      by_cases htarget : target = chainId
      · subst htarget
        exact wp_reconcile limits now cloud
      · exact wp_of_keeps reconcile_uses
          fun _ hpass => keeps_cursor (saves_of_ofPass hpass htarget)
  | sweep olderThanSeconds now limit =>
      exact wp_of_keeps (sweepOrphanedPendingPayments_uses _ _ _)
        fun _ hsweep => keeps_cursor (saves_of_ofSweep hsweep)
  | request context request =>
      exact wp_of_keeps (handleRequest_uses runtime context request)
        fun _ hapi => keeps_cursor (saves_of_ofApi hapi)

theorem admits_cursor :
    (system network runtime).Admits (cursorProtocol network chainId start)
      (fun _ _ _ => True) (fun _ _ => True) where
  launch := fun _ _ => wp_cursor _ _
  advance := fun _ _ _ => trivial
  event := by
    intro pool event _ hsound
    cases event with
    | mine target blocks =>
        have hforward : Forward network chainId pool.state
            (pool.state.react (.mine target blocks)) :=
          ⟨le_rfl, fun _ hhandled => hhandled, List.Subset.refl _⟩
        exact ⟨hforward.sound rfl hsound, hforward⟩

theorem idle_sound (cloud : Cloud) :
    CursorSound network chainId (cloud.cursor network chainId) (idle cloud).state := by
  refine ⟨le_rfl, ?_, le_max_left _ _, ?_⟩
  · intro hnone
    change cloud.cursors chainId _ = none at hnone
    rw [Cloud.cursor, hnone]
    rfl
  · intro event _ hafter hblock
    exact absurd hafter (Nat.not_lt.mpr hblock)

/-- Between any two moments of a schedule the cursor does not decrease; it stays
below the start and the heads read, and the events up to it are handled. -/
theorem cursor_never_skips (network : Network) (runtime : Runtime) (chainId : ℕ)
    (cloud : Cloud) (past future : List WorkerSchedule) :
    let start := cloud.cursor network chainId
    let earlier := ((system network runtime).run (idle cloud) past).state
    let later := ((system network runtime).run (idle cloud) (past ++ future)).state
    earlier.cursor network chainId ≤ later.cursor network chainId ∧
      later.cursor network chainId ≤ max start (later.largestHead chainId) ∧
      later.HandledTo network chainId start (later.cursor network chainId) := by
  intro start earlier later
  have hidle : (system network runtime).Orderly (cursorProtocol network chainId start)
      (fun _ _ _ => True) (idle cloud) :=
    System.Orderly.empty (idle_sound cloud)
  obtain ⟨hearlier, _⟩ := hidle.run admits_cursor (Machine.meets_always past)
  obtain ⟨hlater, hforward⟩ := System.Orderly.run admits_cursor
    (Machine.meets_always future) hearlier
  have hrun : (system network runtime).run
      ((system network runtime).run (idle cloud) past) future =
      (system network runtime).run (idle cloud) (past ++ future) :=
    (Machine.run_append _ _ _ _).symm
  rw [hrun] at hlater hforward
  exact ⟨hforward.cursor, hlater.invariant.bound, hlater.invariant.handled⟩

end BuyAnAnswer.Workers
