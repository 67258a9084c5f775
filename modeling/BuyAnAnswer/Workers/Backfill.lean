import BuyAnAnswer.Core.Tiling
import BuyAnAnswer.Workers.Acceptance
import BuyAnAnswer.Workers.Cursor

/-!
# Scanning the whole history

Passes that run one after the other, each with the finalized head it reads.  The
cursor starts at the block of the deployment, which carries no events of the
escrow, so the scan starts at the next block.  From there the ranges asked for
tile the blocks up to the cursor.
-/

namespace BuyAnAnswer.Workers

open Text Shared Indexer BuyAnAnswer.Transaction

/-- A pass with what its chain reader tells it: the finalized head, and all logs
of each range, in any order and any number of times. -/
structure Visit (escrow : Escrow) where
  now : ℕ
  head : ℕ
  getLogs : ℕ → ℕ → List EscrowEvent
  complete : ∀ lo hi, escrow.logs lo hi ⊆ getLogs lo hi
  sound : ∀ lo hi, getLogs lo hi ⊆ escrow.logs lo hi

/-- The cloud, and the ranges that a pass has asked for. -/
structure Scanner where
  cloud : Cloud
  ranges : List (ℕ × ℕ)

variable {escrow : Escrow}

def Visit.serve (visit : Visit escrow) :
    (operation : Operation) → Scanner → operation.Reply × Scanner
  | .getFinalizedHead _ _, scanner => (visit.head, scanner)
  | .getLogs _ lo hi, scanner =>
    (visit.getLogs lo hi, { scanner with ranges := scanner.ranges ++ [(lo, hi)] })
  | operation, scanner =>
    ((scanner.cloud.serve operation).1,
      { scanner with cloud := (scanner.cloud.serve operation).2 })

/-- Run one pass alone. -/
def pass (config : ReconcileConfig) (visit : Visit escrow) (cloud : Cloud) :
    Except SqlError ReconcileResult × Scanner :=
  (reconcile config visit.now).run visit.serve { cloud, ranges := [] }

/-- What a pass of a sequence has done: the head it read, the ranges it asked for
and the cursor before and after it. -/
structure PassTrace where
  head : ℕ
  last : ℕ
  ranges : List (ℕ × ℕ)
  next : ℕ
  deriving DecidableEq, Repr

/-- The state after passes over a chain. -/
def afterPasses (network : Network) (chainId : ℕ) (limits : PassLimits) (cloud : Cloud)
    (visits : List (Visit (network chainId))) : Cloud :=
  Machine.run (fun cloud visit => (pass (network.config chainId limits) visit cloud).2.cloud)
    cloud visits

/-- The passes of a sequence. -/
def passTraces (network : Network) (chainId : ℕ) (limits : PassLimits) :
    Cloud → List (Visit (network chainId)) → List PassTrace
  | _, [] => []
  | cloud, visit :: visits =>
    let after := (pass (network.config chainId limits) visit cloud).2
    { head := visit.head, last := cloud.cursor network chainId, ranges := after.ranges
      next := after.cloud.cursor network chainId } ::
      passTraces network chainId limits after.cloud visits

/-! ## The windows of a pass -/

/-- The windows of a scan tile the blocks of the run. -/
theorem windows_tiles {range runEnd last : ℕ} (hrange : 0 < range) {rounds : ℕ}
    (hrounds : runEnd - last ≤ rounds) (hlast : last ≤ runEnd) :
    Tiles last (windows range runEnd rounds (last + 1)) runEnd := by
  induction rounds generalizing last with
  | zero =>
      have hsame : last = runEnd := by omega
      exact hsame
  | succ rounds ih =>
      rw [windows]
      by_cases hmore : last + 1 ≤ runEnd
      · rw [if_pos hmore]
        by_cases hfits : last + range ≤ runEnd
        · have hhi : min runEnd (last + 1 + range - 1) = last + range := by omega
          have hlo : last + 1 + range = last + range + 1 := by omega
          rw [hhi, hlo]
          exact ⟨rfl, by omega, ih (by omega) hfits⟩
        · have hhi : min runEnd (last + 1 + range - 1) = runEnd := by omega
          have hend : windows range runEnd rounds (last + 1 + range) = [] := by
            cases rounds with
            | zero => rfl
            | succ rounds => rw [windows, if_neg (by omega)]
          rw [hhi, hend]
          exact ⟨rfl, by omega, rfl⟩
      · rw [if_neg hmore]
        have hsame : last = runEnd := by omega
        exact hsame

theorem windows_size {range runEnd : ℕ} (hrange : 0 < range) (rounds lo : ℕ) :
    ∀ window ∈ windows range runEnd rounds lo, rangeSize window ≤ range := by
  induction rounds generalizing lo with
  | zero => simp [windows]
  | succ rounds ih =>
      rw [windows]
      split
      · intro window hwindow
        obtain rfl | hrest := List.mem_cons.mp hwindow
        · simp only [rangeSize]
          omega
        · exact ih _ window hrest
      · simp

/-! ## Applying the events of a window -/

section Run

variable {network : Network} {config : ReconcileConfig} {cloud : Cloud}

/-- The audit line of an event. -/
def Operation.Audits (chainId : ℕ) (event : EscrowEvent) (operation : Operation) : Prop :=
  ∃ fields, operation = .audit chainId fields ∧ fields.toAuditBase = auditBase event

/-- Whatever comes of an event, its audit line is written. -/
theorem applyEvent_audits (config : IndexerConfig) (event : EscrowEvent) (now : ℕ) :
    (applyEvent config event now).Performs (Operation.Audits config.chainId event) := by
  have haudit {fields : AuditFields} {fired : Fin 2}
      (hfields : fields.toAuditBase = auditBase event) :
      (auditMoneyState config fields >>= fun _ => pure fired).Performs
        (Operation.Audits config.chainId event) := .inl ⟨fields, rfl, hfields⟩
  have hnoop (uuid : Text) (target : QuestionStatus) :
      (noopOrUnknown config (auditBase event) uuid target).Performs
        (Operation.Audits config.chainId event) := by
    apply Program.performs_bind
    intro existing
    cases existing with
    | none => exact haudit rfl
    | some existing => exact haudit rfl
  rw [applyEvent]
  simp only
  cases tryRefToUuid event.base.ref with
  | none => exact haudit rfl
  | some uuid =>
      cases event with
      | asked ask =>
          apply Program.performs_bind
          intro changed
          split
          · exact haudit rfl
          · exact hnoop uuid _
      | settled settle =>
          apply Program.performs_bind
          intro changed
          split
          · split
            · apply Program.performs_bind
              intro _
              exact haudit rfl
            · exact haudit rfl
          · exact hnoop uuid _

theorem serve_audits (operation : Operation) (cloud : Cloud) :
    cloud.journal.audits ⊆ (cloud.serve operation).2.journal.audits := by
  cases operation with
  | database statement =>
      change _ ⊆ (cloud.execute statement).2.journal.audits
      rw [Cloud.execute]
      cases statement.query cloud.database with
      | ok value database => exact List.Subset.refl _
      | error failure database => exact List.Subset.refl _
  | audit chainId fields => exact List.subset_append_left _ _
  | _ => exact List.Subset.refl _

theorem serve_handled {chainId : ℕ} {event : EscrowEvent} (operation : Operation)
    (cloud : Cloud) (hhandled : cloud.Handled chainId event) :
    (cloud.serve operation).2.Handled chainId event := by
  obtain ⟨line, hline, hevent⟩ := hhandled
  exact ⟨line, serve_audits operation cloud hline, hevent⟩

theorem serve_audit {chainId : ℕ} {event : EscrowEvent} {operation : Operation}
    {cloud : Cloud} (haudits : operation.Audits chainId event) :
    (cloud.serve operation).2.Handled chainId event := by
  obtain ⟨fields, rfl, hfields⟩ := haudits
  exact ⟨(chainId, fields), by simp [Cloud.serve, Cloud.audit], rfl, hfields⟩

/-- The application of an event leaves the cursors alone. -/
theorem serve_cursors {operation : Operation} {cloud before : Cloud}
    (hevent : operation.OfEvent config) (hcursors : cloud.cursors = before.cursors) :
    (cloud.serve operation).2.cursors = before.cursors := by
  rw [← hcursors]
  cases operation with
  | database statement =>
      change (cloud.execute statement).2.cursors = _
      rw [Cloud.execute]
      cases statement.query cloud.database <;> rfl
  | audit chainId fields => rfl
  | _ => exact hevent.elim

/-- What applying events leaves: the cursors, and every audit line so far. -/
structure Applies (network : Network) (config : ReconcileConfig)
    (events : List EscrowEvent) (before after : Cloud) : Prop where
  announced : after.Announced network
  cursors : after.cursors = before.cursors
  kept : ∀ event, before.Handled config.chainId event →
    after.Handled config.chainId event
  handled : ∀ event ∈ events, after.Handled config.chainId event

/-- Events of the chain are applied without failing. -/
theorem applyEvents_serve (hwell : network.WellFormed) (now : ℕ)
    {events : List EscrowEvent} (hevents : events ⊆ (network config.chainId).events)
    (hannounced : cloud.Announced network) (applied : ℕ) :
    ∃ count after, (applyEvents config.toIndexerConfig now events applied).run
        (fun operation cloud => cloud.serve operation) cloud = (.ok count, after) ∧
      Applies network config events cloud after := by
  induction events generalizing applied cloud with
  | nil => exact ⟨applied, cloud, rfl, hannounced, rfl, fun _ hhandled => hhandled, by simp⟩
  | cons event events ih =>
      obtain ⟨fired, middle, hfirst, hmiddle, _⟩ :=
        applyEvent_run hwell hannounced (hevents List.mem_cons_self) now
      obtain ⟨count, after, hrest, happlies⟩ :=
        ih (fun _ hother => hevents (List.mem_cons_of_mem _ hother)) hmiddle
          (applied + fired)
      refine ⟨count, after, ?_, ?_⟩
      · rw [applyEvents, Program.run_bind, hfirst]
        exact hrest
      · have hcursors : middle.cursors = cloud.cursors := by
          have huses : (applyEvent config.toIndexerConfig event now).Uses
            (Operation.OfEvent config) := applyEvent_uses event
          have hkept := @Program.Uses.run _ _ _ _ _
            (fun operation cloud => cloud.serve operation)
            (fun other : Cloud => other.cursors = cloud.cursors) _ huses serve_cursors
            cloud rfl
          rwa [hfirst] at hkept
        have hhandled : middle.Handled config.chainId event :=
          (applyEvent_audits config.toIndexerConfig event now).run
            (fun _ _ => serve_audit) serve_handled hfirst
        have hkept (other : EscrowEvent) (hother : cloud.Handled config.chainId other) :
            middle.Handled config.chainId other := by
          have hlater := @Program.Uses.run _ _ _ _ _
            (fun operation cloud => cloud.serve operation)
            (fun now : Cloud => now.Handled config.chainId other) _
            (Program.uses_any (applyEvent config.toIndexerConfig event now))
            (fun _ => serve_handled _ _) cloud hother
          rwa [hfirst] at hlater
        refine ⟨happlies.announced, happlies.cursors.trans hcursors, ?_, ?_⟩
        · exact fun other hother => happlies.kept other (hkept other hother)
        · intro other hother
          obtain rfl | hlater := List.mem_cons.mp hother
          · exact happlies.kept _ hhandled
          · exact happlies.handled other hlater

end Run

/-! ## One pass -/

section Pass

variable {network : Network} {chainId : ℕ} {limits : PassLimits}
variable {visit : Visit (network chainId)} {cloud : Cloud}

/-- The application of an event asks for no range. -/
theorem serve_embed {config : ReconcileConfig} {ranges : List (ℕ × ℕ)}
    (operation : Operation) (cloud : Cloud) (hevent : operation.OfEvent config) :
    visit.serve operation { cloud, ranges } =
      ((cloud.serve operation).1, { cloud := (cloud.serve operation).2, ranges }) := by
  cases operation with
  | database statement => rfl
  | audit chainId fields => rfl
  | _ => exact hevent.elim

theorem cursor_saveCursor {last : ℕ} (hlast : cloud.cursor network chainId ≤ last) :
    (cloud.saveCursor chainId (network chainId).contractAddress last).cursor network
      chainId = last := by
  rw [Cloud.cursor] at hlast ⊢
  simp only [Cloud.saveCursor, Function.update_self, Option.getD_some]
  cases hstored : cloud.cursors chainId (network chainId).contractAddress with
  | none => rfl
  | some stored =>
      rw [hstored] at hlast
      exact max_eq_right hlast

/-- What a scan of some ranges leaves. -/
structure Scans (network : Network) (chainId : ℕ) (ranges : List (ℕ × ℕ)) (final : ℕ)
    (before after : Scanner) : Prop where
  announced : after.cloud.Announced network
  asked : after.ranges = before.ranges ++ ranges
  cursor : after.cloud.cursor network chainId = final
  kept : ∀ event, before.cloud.Handled chainId event → after.cloud.Handled chainId event
  handled : ∀ event ∈ (network chainId).events, before.cloud.cursor network chainId <
    event.base.blockNumber → event.base.blockNumber ≤ final →
      after.cloud.Handled chainId event

theorem scan_serve (hwell : network.WellFormed) (now : ℕ) {ranges : List (ℕ × ℕ)}
    {final : ℕ} {scanner : Scanner}
    (htiles : Tiles (scanner.cloud.cursor network chainId) ranges final)
    (hannounced : scanner.cloud.Announced network) (progress : Progress) :
    ∃ result after, (scan (network.config chainId limits) now ranges progress).run
        visit.serve scanner = (.ok result, after) ∧
      Scans network chainId ranges final scanner after := by
  induction ranges generalizing scanner progress with
  | nil =>
      have hcursor : scanner.cloud.cursor network chainId = final := htiles
      refine ⟨progress, scanner, rfl, hannounced, by simp, hcursor,
        fun _ hhandled => hhandled, ?_⟩
      intro event _ hafter hblock
      omega
  | cons range ranges ih =>
      obtain ⟨lo, hi⟩ := range
      obtain ⟨hlo, hle, htail⟩ := htiles
      have hlogs : ((visit.getLogs lo hi).insertionSort fun left right =>
          byBlockThenLog left right ≤ 0) ⊆ (network chainId).events := by
        intro event hevent
        have hfound := visit.sound _ _ ((List.mem_insertionSort _).mp hevent)
        exact (List.mem_filter.mp hfound).1
      obtain ⟨count, applied, happly, happlies⟩ :=
        @applyEvents_serve network (network.config chainId limits) scanner.cloud hwell now
          _ hlogs hannounced progress.applied
      have hembed := @Program.Uses.run_embed _ _ _ _ _ _
        (fun operation (cloud : Cloud) => cloud.serve operation) visit.serve
        (fun cloud => { cloud, ranges := scanner.ranges ++ [(lo, hi)] }) _
        (@applyEvents_uses (network.config chainId limits) now
          ((visit.getLogs lo hi).insertionSort fun left right =>
            byBlockThenLog left right ≤ 0) progress.applied)
        (fun operation cloud hevent => serve_embed operation cloud hevent) scanner.cloud
      rw [happly] at hembed
      have hcursor : applied.cursor network chainId =
          scanner.cloud.cursor network chainId := by
        rw [Cloud.cursor, happlies.cursors]
        rfl
      have hsaved := @cursor_saveCursor network chainId applied hi (by omega)
      rw [← hsaved] at htail
      obtain ⟨result, after, hrest, hscans⟩ := @ih {
        cloud := applied.saveCursor chainId (network chainId).contractAddress hi
        ranges := scanner.ranges ++ [(lo, hi)] } htail happlies.announced {
          cursor := hi, applied := count
          eventsSeen := progress.eventsSeen + ((visit.getLogs lo hi).insertionSort
            fun left right => byBlockThenLog left right ≤ 0).length }
      refine ⟨result, after, ?_, hscans.announced, ?_, hscans.cursor, ?_, ?_⟩
      · rw [← hrest]
        exact Program.run_bind_ok hembed
      · rw [hscans.asked]
        simp
      · intro event hhandled
        exact hscans.kept event (happlies.kept event hhandled)
      · intro event hevent hafter hblock
        by_cases hhere : event.base.blockNumber ≤ hi
        · apply hscans.kept event
          apply happlies.handled event
          rw [List.mem_insertionSort]
          apply visit.complete lo hi
          simp only [Escrow.logs, List.mem_filter, Bool.and_eq_true, decide_eq_true_eq]
          exact ⟨hevent, by omega, hhere⟩
        · apply hscans.handled event hevent _ hblock
          rw [hsaved]
          omega

/-- Where the cursor is after a pass. -/
def nextCursor (limits : PassLimits) (last head : ℕ) : ℕ :=
  max last (min head (last + limits.maxBlocksPerRun))

/-- A pass once it knows the cursor and the head. -/
def reconcileTo (config : ReconcileConfig) (now lastBlock head : ℕ) :
    Program workers SqlError ReconcileResult :=
  let base : ReconcileResult := {
    chainId := config.chainId, contractAddress := config.contractAddress
    fromBlock := lastBlock + 1, toBlock := lastBlock, head, scanned := 0
    eventsSeen := 0, transitionsApplied := 0 }
  if head < lastBlock + 1 then return base
  else do
    let runEnd := min head (lastBlock + 1 + config.maxBlocksPerRun - 1)
    let progress ← scan config now
      (windows config.getLogsRange runEnd (runEnd - lastBlock) (lastBlock + 1))
      { cursor := lastBlock, eventsSeen := 0, applied := 0 }
    return { base with
      toBlock := progress.cursor, scanned := progress.cursor - lastBlock
      eventsSeen := progress.eventsSeen, transitionsApplied := progress.applied }

theorem pass_eq : pass (network.config chainId limits) visit cloud =
    (reconcileTo (network.config chainId limits) visit.now (cloud.cursor network chainId)
      visit.head).run visit.serve { cloud, ranges := [] } := rfl

/-- A pass that sees no new block does nothing. -/
theorem pass_idle (hidle : visit.head ≤ cloud.cursor network chainId) :
    ∃ result, pass (network.config chainId limits) visit cloud =
      (.ok result, { cloud, ranges := [] }) := by
  rw [pass_eq, reconcileTo, if_pos (Nat.lt_succ_of_le hidle)]
  exact ⟨_, rfl⟩

/-- Any other pass scans the windows between the cursor and the end of its run. -/
theorem pass_busy (hbusy : cloud.cursor network chainId < visit.head) {runEnd : ℕ}
    (hend : runEnd = min visit.head
      (cloud.cursor network chainId + 1 + limits.maxBlocksPerRun - 1))
    {progress : Progress} {after : Scanner}
    (hscan : (scan (network.config chainId limits) visit.now
      (windows limits.getLogsRange runEnd (runEnd - cloud.cursor network chainId)
        (cloud.cursor network chainId + 1))
      { cursor := cloud.cursor network chainId, eventsSeen := 0, applied := 0 }).run
        visit.serve { cloud, ranges := [] } = (.ok progress, after)) :
    ∃ result, pass (network.config chainId limits) visit cloud = (.ok result, after) := by
  rw [hend] at hscan
  rw [pass_eq, reconcileTo, if_neg (Nat.not_lt.mpr hbusy)]
  exact ⟨_, Program.run_bind_ok hscan⟩

theorem pass_scans (hwell : network.WellFormed) (limits : PassLimits)
    (visit : Visit (network chainId)) (hannounced : cloud.Announced network) :
    ∃ result after, pass (network.config chainId limits) visit cloud = (.ok result, after) ∧
      Scans network chainId after.ranges
        (nextCursor limits (cloud.cursor network chainId) visit.head)
        { cloud, ranges := [] } after ∧
      Tiles (cloud.cursor network chainId) after.ranges
        (nextCursor limits (cloud.cursor network chainId) visit.head) ∧
      ∀ range ∈ after.ranges, rangeSize range ≤ limits.getLogsRange := by
  have hpositive := limits.maxBlocksPerRun_pos
  by_cases hidle : visit.head ≤ cloud.cursor network chainId
  · have hstay : nextCursor limits (cloud.cursor network chainId) visit.head =
        cloud.cursor network chainId := by
      rw [nextCursor]
      omega
    obtain ⟨result, hrun⟩ := @pass_idle network chainId limits visit cloud hidle
    rw [hstay]
    refine ⟨result, { cloud, ranges := [] }, hrun, ⟨hannounced, rfl, rfl,
      fun _ hhandled => hhandled, ?_⟩, rfl, by simp⟩
    intro event _ hafter hblock
    exact absurd hblock (Nat.not_le.mpr hafter)
  · have hnext : nextCursor limits (cloud.cursor network chainId) visit.head =
        min visit.head (cloud.cursor network chainId + 1 + limits.maxBlocksPerRun - 1) := by
      rw [nextCursor]
      omega
    have htiles := @windows_tiles limits.getLogsRange
      (nextCursor limits (cloud.cursor network chainId) visit.head)
      (cloud.cursor network chainId) limits.getLogsRange_pos _ le_rfl (le_max_left _ _)
    obtain ⟨progress, after, hscan, hscans⟩ :=
      @scan_serve network chainId limits visit hwell visit.now _ _
        { cloud, ranges := [] } htiles hannounced
        { cursor := cloud.cursor network chainId, eventsSeen := 0, applied := 0 }
    obtain ⟨result, hrun⟩ := pass_busy (Nat.lt_of_not_le hidle) hnext hscan
    have hasked := hscans.asked
    rw [List.nil_append] at hasked
    rw [← hasked] at hscans htiles
    refine ⟨result, after, hrun, hscans, htiles, ?_⟩
    rw [hasked]
    exact windows_size limits.getLogsRange_pos _ _

end Pass

/-! ## All passes -/

/-- The bounds of one pass: on each range, on all of them, and on the cursor. -/
structure PassTrace.Bounded (limits : PassLimits) (trace : PassTrace) : Prop where
  ordered : ∀ range ∈ trace.ranges, range.1 ≤ range.2
  size : ∀ range ∈ trace.ranges, rangeSize range ≤ limits.getLogsRange
  below_head : ∀ range ∈ trace.ranges, range.2 ≤ trace.head
  total : (trace.ranges.map rangeSize).sum ≤ limits.maxBlocksPerRun
  progress : trace.last < trace.head → trace.last < trace.next

/-- What a sequence of passes leaves. -/
structure Backfills (network : Network) (chainId : ℕ) (limits : PassLimits)
    (before after : Cloud) (traces : List PassTrace) : Prop where
  announced : after.Announced network
  tiles : Tiles (before.cursor network chainId) (traces.flatMap PassTrace.ranges)
    (after.cursor network chainId)
  bounded : ∀ trace ∈ traces, trace.Bounded limits
  kept : ∀ event, before.Handled chainId event → after.Handled chainId event
  handled : after.HandledTo network chainId (before.cursor network chainId)
    (after.cursor network chainId)

section All

variable {network : Network} {chainId : ℕ} {limits : PassLimits} {cloud : Cloud}

theorem trace_bounded {last head : ℕ} {ranges : List (ℕ × ℕ)}
    (htiles : Tiles last ranges (nextCursor limits last head))
    (hsize : ∀ range ∈ ranges, rangeSize range ≤ limits.getLogsRange) :
    ({ head, last, ranges, next := nextCursor limits last head } :
      PassTrace).Bounded limits where
  ordered range hrange := (htiles.above range hrange).2.1
  size := hsize
  below_head range hrange := by
    have habove := htiles.above range hrange
    rw [nextCursor] at habove
    change range.2 ≤ head
    omega
  total := by
    rw [htiles.sum_size, nextCursor]
    omega
  progress hahead := by
    have hpositive := limits.maxBlocksPerRun_pos
    simp only [nextCursor] at hahead ⊢
    omega

theorem passes_backfill (hwell : network.WellFormed) (limits : PassLimits)
    (hannounced : cloud.Announced network) (visits : List (Visit (network chainId))) :
    Backfills network chainId limits cloud
      (afterPasses network chainId limits cloud visits)
      (passTraces network chainId limits cloud visits) := by
  induction visits generalizing cloud with
  | nil =>
      refine ⟨hannounced, rfl, by simp [passTraces], fun _ hhandled => hhandled, ?_⟩
      intro event _ hafter hblock
      exact absurd hblock (Nat.not_le.mpr hafter)
  | cons visit visits ih =>
      obtain ⟨result, after, hrun, hscans, htiles, hsize⟩ :=
        pass_scans hwell limits visit hannounced
      have hrest := ih hscans.announced
      rw [afterPasses, Machine.run_cons, passTraces, hrun]
      rw [← hscans.cursor] at htiles
      refine ⟨hrest.announced, ?_, ?_, ?_, ?_⟩
      · rw [List.flatMap_cons]
        exact htiles.append hrest.tiles
      · intro trace htrace
        obtain rfl | hlater := List.mem_cons.mp htrace
        · simp only [hscans.cursor] at htiles ⊢
          exact trace_bounded htiles hsize
        · exact hrest.bounded trace hlater
      · intro event hhandled
        exact hrest.kept event (hscans.kept event hhandled)
      · intro event hevent hafter hblock
        by_cases hhere : event.base.blockNumber ≤ after.cloud.cursor network chainId
        · apply hrest.kept event
          apply hscans.handled event hevent hafter
          rwa [← hscans.cursor]
        · exact hrest.handled event hevent (Nat.lt_of_not_le hhere) hblock

/-- Passes that read one head move the cursor to it, a run at a time. -/
theorem cursor_fixed (hwell : network.WellFormed) (hannounced : cloud.Announced network)
    {head : ℕ} {visits : List (Visit (network chainId))}
    (hhead : ∀ visit ∈ visits, visit.head = head) :
    (afterPasses network chainId limits cloud visits).cursor network chainId =
      max (cloud.cursor network chainId) (min head
        (cloud.cursor network chainId + visits.length * limits.maxBlocksPerRun)) := by
  induction visits generalizing cloud with
  | nil =>
      rw [afterPasses, Machine.run_nil, List.length_nil]
      omega
  | cons visit visits ih =>
      obtain ⟨result, after, hrun, hscans, _⟩ := pass_scans hwell limits visit hannounced
      rw [afterPasses, Machine.run_cons, hrun]
      have hrest := ih hscans.announced fun other hother => hhead other (by simp [hother])
      rw [afterPasses] at hrest
      rw [hrest, hscans.cursor, nextCursor, hhead visit (by simp), List.length_cons,
        Nat.succ_mul]
      omega

end All

/-- Passes run one after the other from a database without a cursor ask for ranges
that are disjoint and increasing, within the limits of each pass and below the head
it reads, and that hold every block after that of the deployment up to the cursor
exactly once.  A pass with a head above the cursor moves on, so passes with one head
reach it; and every event in these blocks has been applied. -/
theorem backfill_scans_once (network : Network) (hdeployed : network.Deployed)
    (chainId : ℕ) (limits : PassLimits) (cloud : Cloud)
    (hannounced : cloud.Announced network)
    (hcursor : cloud.cursors chainId (network chainId).contractAddress = none)
    (visits : List (Visit (network chainId))) :
    let start := (idle cloud).state
    let traces := passTraces network chainId limits start visits
    let final := afterPasses network chainId limits start visits
    let ranges := traces.flatMap PassTrace.ranges
    let startBlock := (network chainId).startBlock
    (ranges.Pairwise fun left right => left.2 < right.1) ∧
    (∀ trace ∈ traces, trace.Bounded limits) ∧
    (∀ block, (∃ range ∈ ranges, range.1 ≤ block ∧ block ≤ range.2) ↔
      startBlock < block ∧ block ≤ final.cursor network chainId) ∧
    final.HandledTo network chainId startBlock (final.cursor network chainId) ∧
    ∀ head, ∃ passes, ∀ more : List (Visit (network chainId)),
      (∀ visit ∈ more, visit.head = head) → passes ≤ more.length →
        let later := afterPasses network chainId limits final more
        later.cursor network chainId = max (final.cursor network chainId) head ∧
          later.HandledTo network chainId startBlock head := by
  intro start traces final ranges startBlock
  have hwell := hdeployed.wellFormed
  have hstart : start.Announced network := hannounced
  have hfirst : start.cursor network chainId = startBlock := by
    change (cloud.cursors chainId (network chainId).contractAddress).getD _ = _
    rw [hcursor]
    rfl
  have hbackfills := passes_backfill hwell limits hstart visits
  have htiles : Tiles startBlock ranges (final.cursor network chainId) := by
    rw [← hfirst]
    exact hbackfills.tiles
  have hhandled : final.HandledTo network chainId startBlock
      (final.cursor network chainId) := by
    rw [← hfirst]
    exact hbackfills.handled
  refine ⟨htiles.pairwise, hbackfills.bounded, htiles.covers, hhandled, ?_⟩
  intro head
  use head
  intro more hhead hlength later
  have hpositive := limits.maxBlocksPerRun_pos
  have hreach : later.cursor network chainId = max (final.cursor network chainId) head := by
    have hfixed := @cursor_fixed network chainId limits final hwell hbackfills.announced
      head more hhead
    have hrounds := Nat.le_mul_of_pos_right more.length hpositive
    rw [hfixed]
    omega
  refine ⟨hreach, ?_⟩
  have hmore := passes_backfill hwell limits hbackfills.announced more
  intro event hevent hafter hblock
  by_cases hhere : event.base.blockNumber ≤ final.cursor network chainId
  · exact hmore.kept event (hhandled event hevent hafter hhere)
  · apply hmore.handled event hevent (Nat.lt_of_not_le hhere)
    exact hblock.trans ((le_max_right _ _).trans hreach.ge)

namespace Sample

/-- The first question is paid for in the block of the deployment. -/
def sameBlock : Network := fun chainId => { deployed chainId with startBlock := 7 }

theorem sameBlock_deployed : sameBlock.Deployed := fun chainId =>
  ⟨_, _, session, Contract.Sample.escrow, addressText, {
    documented := (deployed_emission chainId).documented
    reachable := (deployed_emission chainId).reachable
    few := (deployed_emission chainId).few
    emitted := (deployed_emission chainId).emitted }⟩

def limits : PassLimits where
  confirmations := 0
  getLogsRange := 2
  maxBlocksPerRun := 3
  getLogsRange_pos := Nat.succ_pos _
  maxBlocksPerRun_pos := Nat.succ_pos _

/-- A pass whose reader answers in order. -/
def visit (escrow : Escrow) (head : ℕ) : Visit escrow where
  now := 60
  head := head
  getLogs := escrow.logs
  complete _ _ := List.Subset.refl _
  sound _ _ := List.Subset.refl _

theorem cloud_announced (network : Network) : cloud.Announced network := by
  intro id row hrow
  cases hrow

end Sample

theorem backfill_scans_once_sample :
    (afterPasses Sample.sameBlock 8453 Sample.limits (idle Sample.cloud).state
      [Sample.visit _ 9, Sample.visit _ 12]).HandledTo Sample.sameBlock 8453 7
      ((afterPasses Sample.sameBlock 8453 Sample.limits (idle Sample.cloud).state
        [Sample.visit _ 9, Sample.visit _ 12]).cursor Sample.sameBlock 8453) :=
  (backfill_scans_once Sample.sameBlock Sample.sameBlock_deployed 8453 Sample.limits
    Sample.cloud (Sample.cloud_announced _) rfl [Sample.visit _ 9, Sample.visit _ 12]).2.2.2.1

/-- The block of the deployment is not scanned. -/
theorem deploy_block_not_scanned : ¬ ∀ (network : Network), network.Deployed →
    ∀ (chainId : ℕ) (limits : PassLimits) (cloud : Cloud), cloud.Announced network →
    cloud.cursors chainId (network chainId).contractAddress = none →
    ∀ visits : List (Visit (network chainId)),
      (visits.map Visit.head).Pairwise (· ≤ ·) →
      let start := (idle cloud).state
      let final := afterPasses network chainId limits start visits
      let ranges := (passTraces network chainId limits start visits).flatMap
        PassTrace.ranges
      (∀ block, (network chainId).startBlock ≤ block →
        block ≤ final.cursor network chainId →
          ∃ range ∈ ranges, range.1 ≤ block ∧ block ≤ range.2) := by
  intro hclaim
  obtain ⟨range, hrange, hlow, _⟩ := hclaim Sample.sameBlock Sample.sameBlock_deployed 8453
    Sample.limits Sample.cloud (Sample.cloud_announced _) rfl [Sample.visit _ 9]
    (List.pairwise_singleton _ _) 7 le_rfl (by decide +kernel)
  have hranges : (passTraces Sample.sameBlock 8453 Sample.limits (idle Sample.cloud).state
      [Sample.visit _ 9]).flatMap PassTrace.ranges = [(8, 9)] := by
    decide +kernel
  rw [hranges, List.mem_singleton] at hrange
  rw [hrange] at hlow
  omega

end BuyAnAnswer.Workers
