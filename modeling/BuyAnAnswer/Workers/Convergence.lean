import BuyAnAnswer.Core.Replay
import BuyAnAnswer.Workers.Acceptance
import BuyAnAnswer.Workers.Counting
import BuyAnAnswer.Workers.Cursor
import BuyAnAnswer.Workers.Sweep

/-!
# Indexing converges

Passes overlap, lag behind each other and die, and each of them applies events
that others have applied before.  For every question there is a cut in the stream
such that its row is what the events before the cut make of a draft, applied once
and in order.  A late pass does not move the cut back, since its events do nothing
any more.
-/

namespace BuyAnAnswer.Workers

open Text Shared Indexer Api BuyAnAnswer.Transaction

variable {network : Network} {runtime : Runtime} {question : Text} {chainId start : ℕ}

/-- The columns of a question that mirror the chain. -/
@[ext]
structure Money where
  status : QuestionStatus
  onchainId : Option Text
  amountUsdc : Option Text
  answerDeadline : Option ℕ
  deriving DecidableEq, Repr

namespace Money

def of (row : Question) : Money where
  status := row.status
  onchainId := row.onchainId
  amountUsdc := row.amountUsdc
  answerDeadline := row.answerDeadline

/-- The columns of a draft. -/
def unpaid : Money where
  status := .pendingPayment
  onchainId := none
  amountUsdc := none
  answerDeadline := none

/-- What an event writes. -/
def set (money : Money) : EscrowEvent → Money
  | .asked ask => {
    status := .open
    onchainId := some (decimal ask.onchainId)
    amountUsdc := some (decimal ask.amount)
    answerDeadline := dateColumn ask.deadline }
  | .settled settle =>
    { money with status := statusForEvent (.settled settle.name) }

/-- What an event makes of the columns of a question. -/
def apply (question : Text) (money : Money) (event : EscrowEvent) : Money :=
  if tryRefToUuid event.base.ref = some question ∧ money.status = event.prior then
    money.set event
  else money

theorem of_draft {row : Question} (hdraft : IsDraft row) : of row = unpaid := by
  ext1
  · exact hdraft.status
  · exact hdraft.onchainId
  · exact hdraft.amountUsdc
  · exact hdraft.answerDeadline

/-- The indexer's update writes these columns. -/
theorem of_update {config : IndexerConfig} {event : EscrowEvent} {now : ℕ}
    {row : Question} (hchain : row.chainId = config.chainId) :
    of (if event.hits config row then event.set now row else row) =
      (of row).apply row.id event := by
  by_cases hhits : tryRefToUuid event.base.ref = some row.id ∧ row.status = event.prior
  · have hrow : event.hits config row = true :=
      EscrowEvent.hits_iff.mpr ⟨hhits.1, hchain, hhits.2⟩
    have hmoney : tryRefToUuid event.base.ref = some row.id ∧
        (of row).status = event.prior := hhits
    rw [if_pos hrow, apply, if_pos hmoney]
    cases event <;> rfl
  · have hrow : ¬ event.hits config row = true := by
      rw [EscrowEvent.hits_iff]
      exact fun hall => hhits ⟨hall.1, hall.2.2⟩
    have hmoney : ¬ (tryRefToUuid event.base.ref = some row.id ∧
        (of row).status = event.prior) := hhits
    rw [if_neg hrow, apply, if_neg hmoney]

theorem apply_of_unrelated {money : Money} {event : EscrowEvent}
    (hunrelated : tryRefToUuid event.base.ref ≠ some question) :
    money.apply question event = money :=
  if_neg fun hall => hunrelated hall.1

theorem rank_prior_lt (event : EscrowEvent) (money : Money)
    (hrelated : tryRefToUuid event.base.ref = some question)
    (hstatus : money.status = event.prior) :
    event.prior.rank < (money.apply question event).status.rank := by
  rw [apply, if_pos ⟨hrelated, hstatus⟩]
  cases event with
  | asked ask => exact Nat.zero_lt_one
  | settled settle =>
      rw [set, statusForEvent_settled_rank]
      exact Nat.lt_succ_self 1

theorem rank_le_apply (money : Money) (event : EscrowEvent) :
    money.status.rank ≤ (money.apply question event).status.rank := by
  by_cases hmoves : tryRefToUuid event.base.ref = some question ∧ money.status = event.prior
  · rw [hmoves.2]
    exact (rank_prior_lt event money hmoves.1 hmoves.2).le
  · rw [apply, if_neg hmoves]

theorem apply_of_rank_lt (money : Money) (event : EscrowEvent)
    (hpast : event.prior.rank < money.status.rank) : money.apply question event = money := by
  apply if_neg
  intro hmoves
  rw [hmoves.2] at hpast
  exact lt_irrefl _ hpast

/-- An event that does not come too early gets a question past it. -/
theorem rank_lt_apply {money : Money} {event : EscrowEvent}
    (hrelated : tryRefToUuid event.base.ref = some question)
    (hready : event.prior.rank ≤ money.status.rank) :
    event.prior.rank < (money.apply question event).status.rank := by
  by_cases hstatus : money.status = event.prior
  · exact rank_prior_lt event money hrelated hstatus
  · have hne : event.prior.rank ≠ money.status.rank := by
      intro hsame
      apply hstatus
      cases event <;> cases hcase : money.status <;> simp_all [EscrowEvent.prior,
        QuestionStatus.rank]
    have hpast : event.prior.rank < money.status.rank := lt_of_le_of_ne hready hne
    rw [apply_of_rank_lt money event hpast]
    exact hpast

end Money

/-! ## The stream of a chain -/

section Stream

/-- The columns of a question after the events before the cut. -/
def columnsAt (network : Network) (chainId : ℕ) (question : Text) (cut : ℕ) : Money :=
  Replay.upTo (Money.apply question) .unpaid (network chainId).events cut

/-- An ask gets the question paid. -/
theorem columnsAt_asked {index cut : ℕ} {ask : QuestionAskedEvent}
    (hget : (network chainId).events[index]? = some (.asked ask))
    (hrelated : tryRefToUuid ask.ref = some question) (hcut : index < cut) :
    0 < (columnsAt network chainId question cut).status.rank := by
  calc 0 < ((columnsAt network chainId question index).apply question (.asked ask)).status.rank :=
        @Money.rank_lt_apply question _ (.asked ask) hrelated (Nat.zero_le _)
    _ = (columnsAt network chainId question (index + 1)).status.rank := by
        rw [columnsAt, columnsAt, Replay.upTo_succ hget]
    _ ≤ (columnsAt network chainId question cut).status.rank :=
        Replay.upTo_mono Money.rank_le_apply hcut

/-- Where an event has been applied, it does nothing any more. -/
theorem columns_absorb (hwell : (network chainId).WellFormed) :
    Replay.Absorbs (Money.apply question) .unpaid (network chainId).events := by
  apply Replay.absorbs_of_levels (fun money : Money => money.status.rank)
    (fun event : EscrowEvent => event.prior.rank) Money.rank_le_apply
    Money.apply_of_rank_lt
  intro index event hget
  by_cases hrelated : tryRefToUuid event.base.ref = some question
  · right
    apply Money.rank_lt_apply hrelated
    cases event with
    | asked ask => exact Nat.zero_le _
    | settled settle =>
        -- the ref was asked under before it settles
        obtain ⟨before, after, hevents, hindex, _⟩ := System.split_at hget
        obtain ⟨ask, hask, href⟩ := hwell.asksFirst before settle after hevents
        obtain ⟨earlier, hearlier⟩ := List.mem_iff_getElem?.mp hask
        have hlt : earlier < before.length :=
          (List.getElem?_eq_some_iff.mp hearlier).1
        have hasked : (network chainId).events[earlier]? = some (.asked ask) := by
          rw [hevents, List.getElem?_append_left hlt]
          exact hearlier
        apply columnsAt_asked hasked
        · rw [href]
          exact hrelated
        · rw [← hindex]
          exact hlt
  · exact .inl fun _ => Money.apply_of_unrelated hrelated

/-- Without an ask a question stays a draft. -/
theorem columnsAt_unasked {cut : ℕ}
    (hunasked : ∀ ask, .asked ask ∈ (network chainId).events.take cut →
      tryRefToUuid ask.ref ≠ some question) :
    columnsAt network chainId question cut = .unpaid := by
  apply @Machine.run_invariant _ _ _ (fun money => money = Money.unpaid) _ _ rfl
  rintro _ event hevent rfl
  apply if_neg
  rintro ⟨hrelated, hprior⟩
  cases event with
  | asked ask => exact hunasked ask hevent hrelated
  | settled settle => cases hprior

end Stream

/-! ## What a row shows -/

/-- The event has been mined and lies in a range that was scanned. -/
def Cloud.Scanned (cloud : Cloud) (network : Network) (chainId : ℕ)
    (event : EscrowEvent) : Prop :=
  cloud.Mined network chainId event ∧
    ∃ last, (chainId, last) ∈ cloud.journal.scans ∧ event.base.blockNumber ≤ last

/-- The columns of a question's row, if it is on this chain. -/
def Cloud.columns (cloud : Cloud) (chainId : ℕ) (question : Text) : Option Money :=
  ((cloud.record question).question.filter fun row => row.chainId = chainId).map Money.of

/-- The row of a question is what the events before the cut make of a draft.  No
event of the question beyond the cut has been handled. -/
structure Shows (network : Network) (chainId : ℕ) (question : Text) (cut : ℕ)
    (cloud : Cloud) : Prop where
  columns : ∀ money ∈ cloud.columns chainId question,
    money = columnsAt network chainId question cut
  scanned : ∀ index event, (network chainId).events[index]? = some event →
    index < cut → cloud.Scanned network chainId event
  handled : ∀ index event, (network chainId).events[index]? = some event →
    tryRefToUuid event.base.ref = some question → cloud.Handled chainId event → index < cut

/-- Whatever happens, the cut only moves on. -/
structure MovesOn (network : Network) (chainId : ℕ) (question : Text)
    (before after : Cloud) : Prop where
  forward : Forward network chainId before after
  grows : before.Grows after
  scans : before.journal.scans ⊆ after.journal.scans
  shows : ∀ cut, Shows network chainId question cut before →
    ∃ later, cut ≤ later ∧ Shows network chainId question later after

theorem MovesOn.refl (cloud : Cloud) : MovesOn network chainId question cloud cloud :=
  ⟨Forward.refl cloud, fun _ => le_rfl, List.Subset.refl _,
    fun cut hshows => ⟨cut, le_rfl, hshows⟩⟩

theorem MovesOn.trans {first second third : Cloud}
    (hfirst : MovesOn network chainId question first second)
    (hsecond : MovesOn network chainId question second third) :
    MovesOn network chainId question first third := by
  refine ⟨hfirst.forward.trans hsecond.forward, ?_, ?_, ?_⟩
  · exact fun target => (hfirst.grows target).trans (hsecond.grows target)
  · exact fun _ hscan => hsecond.scans (hfirst.scans hscan)
  · intro cut hshows
    obtain ⟨middle, hmiddle, hshows⟩ := hfirst.shows cut hshows
    obtain ⟨later, hlater, hshows⟩ := hsecond.shows middle hshows
    exact ⟨later, hmiddle.trans hlater, hshows⟩

theorem Cloud.Scanned.mono {before after : Cloud} {event : EscrowEvent}
    (hscanned : before.Scanned network chainId event) (hgrows : before.Grows after)
    (hscans : before.journal.scans ⊆ after.journal.scans) :
    after.Scanned network chainId event := by
  obtain ⟨hmined, last, hlast, hblock⟩ := hscanned
  exact ⟨hmined.mono hgrows, last, hscans hlast, hblock⟩

/-- The protocol of everybody who writes the rows of a chain. -/
def convergenceProtocol (network : Network) (chainId start : ℕ) (question : Text) :
    Protocol workers Cloud where
  Invariant := fun cloud => CursorSound network chainId start cloud ∧
    ∃ cut, Shows network chainId question cut cloud
  Rely := MovesOn network chainId question
  Allowed := MintsFirst network
  refl := MovesOn.refl
  trans := MovesOn.trans

/-! ## Operations that apply nothing -/

/-- What leaves the rows, the trail and the cursor of the chain alone. -/
def Operation.Spares (chainId : ℕ) : Operation → Prop
  | .database (.openQuestion config _ _ _) => config.chainId ≠ chainId
  | .database (.settleQuestion config _ _ _) => config.chainId ≠ chainId
  | .database (.insertQuestion row) => IsDraft row
  | .audit audited _ => audited ≠ chainId
  | .saveCursor saved _ _ => saved ≠ chainId
  | _ => True

section Spares

variable {operation : Operation} {node : NodeAnswer} {before after : Cloud}
variable {reply : operation.Reply}

theorem mem_columns {cloud : Cloud} {money : Money} :
    money ∈ cloud.columns chainId question ↔ ∃ row,
      (cloud.record question).question = some row ∧ row.chainId = chainId ∧
        Money.of row = money := by
  simp [Cloud.columns, and_assoc]

/-- The columns of the chain stay, unless a draft is minted. -/
theorem exec_columns (hspares : operation.Spares chainId)
    (hfirst : MintsFirst network operation before)
    (hexec : Cloud.exec network operation node before = some (reply, after))
    {money : Money} (hmoney : money ∈ after.columns chainId question) :
    money ∈ before.columns chainId question ∨
      money = .unpaid ∧ ¬ before.Asked network chainId question := by
  obtain ⟨row, hrow, hchain, rfl⟩ := mem_columns.mp hmoney
  obtain hsame | ⟨statement, rfl, heffect⟩ := exec_record question hexec
  · rw [hsame] at hrow
    exact .inl (mem_columns.mpr ⟨row, hrow, hchain, rfl⟩)
  rw [heffect] at hrow
  obtain ⟨_, rfl, hid⟩ | ⟨old, hold, hchange⟩ := Statement.row_cases hrow
  · right
    subst hid hchain
    exact ⟨Money.of_draft hspares, hfirst row rfl⟩
  · cases hchange with
    | keeps => exact .inl (mem_columns.mpr ⟨row, hold, hchain, rfl⟩)
    | publishes => exact .inl (mem_columns.mpr ⟨old, hold, hchain, rfl⟩)
    | opens hhits => exact absurd ((inStatus_iff.mp hhits).2.1.symm.trans hchain) hspares
    | settles hhits =>
        exact absurd ((inStatus_iff.mp hhits).2.1.symm.trans hchain) hspares

/-- Nothing of the chain is handled on the way. -/
theorem exec_handled (hspares : operation.Spares chainId)
    (hexec : Cloud.exec network operation node before = some (reply, after))
    {event : EscrowEvent} (hhandled : after.Handled chainId event) :
    before.Handled chainId event := by
  obtain ⟨line, hline, hchain, hbase⟩ := hhandled
  cases haudit : operation.isAudit with
  | false =>
      rw [(exec_framed hexec).audits haudit] at hline
      exact ⟨line, hline, hchain, hbase⟩
  | true =>
      cases operation with
      | audit audited fields =>
          cases hexec
          obtain hold | hnew := List.mem_append.mp hline
          · exact ⟨line, hold, hchain, hbase⟩
          · rw [List.mem_singleton.mp hnew] at hchain
            exact absurd hchain hspares
      | _ => cases haudit

/-- What was scanned stays scanned. -/
theorem exec_scans
    (hexec : Cloud.exec network operation node before = some (reply, after)) :
    before.journal.scans ⊆ after.journal.scans := by
  cases hfetch : operation.isFetch with
  | false =>
      rw [(exec_framed hexec).scans hfetch]
      exact List.Subset.refl _
  | true =>
      cases operation with
      | getLogs fetched lo hi =>
          simp only [Cloud.exec, Cloud.getLogs] at hexec
          split at hexec
          · cases hexec
            exact List.subset_append_left _ _
          · cases hexec
      | _ => cases hfetch

theorem exec_saves (hspares : operation.Spares chainId) :
    operation.saves chainId = false := by
  cases operation with
  | saveCursor saved contractAddress lastBlock =>
      exact decide_eq_false hspares
  | _ => rfl

theorem Shows.spared {cut : ℕ} (hshows : Shows network chainId question cut before)
    (hspares : operation.Spares chainId)
    (hfirst : MintsFirst network operation before)
    (hexec : Cloud.exec network operation node before = some (reply, after)) :
    Shows network chainId question cut after := by
  refine ⟨?_, ?_, ?_⟩
  · intro money hmoney
    obtain hold | ⟨rfl, hunasked⟩ := exec_columns hspares hfirst hexec hmoney
    · exact hshows.columns money hold
    · symm
      apply columnsAt_unasked
      intro ask hask hrelated
      obtain ⟨index, hget⟩ := List.mem_iff_getElem?.mp hask
      rw [List.getElem?_take] at hget
      split at hget
      · next hlt => exact hunasked ⟨ask, (hshows.scanned _ _ hget hlt).1, hrelated⟩
      · cases hget
  · intro index event hget hlt
    exact (hshows.scanned index event hget hlt).mono (exec_grows hexec)
      (exec_scans hexec)
  · intro index event hget hrelated hhandled
    exact hshows.handled index event hget hrelated (exec_handled hspares hexec hhandled)

theorem keeps_spared (hspares : operation.Spares chainId) :
    Keeps network (convergenceProtocol network chainId start question) operation := by
  rintro now ⟨hsound, cut, hshows⟩ hfirst node reply after hexec
  obtain ⟨hafter, hforward⟩ := exec_quiet (exec_saves hspares) hexec hsound
  refine ⟨⟨hafter, cut, hshows.spared hspares hfirst hexec⟩, hforward,
    exec_grows hexec, exec_scans hexec, ?_⟩
  exact fun cut hshows => ⟨cut, le_rfl, hshows.spared hspares hfirst hexec⟩

end Spares

/-! ## One event -/

section Order

variable {index before : ℕ} {event other : EscrowEvent}

theorem precedes_of_lt (hget : (network chainId).events[index]? = some event)
    (hearlier : (network chainId).events[before]? = some other)
    (hlt : before < index) : Precedes other event := by
  obtain ⟨hindex, rfl⟩ := List.getElem?_eq_some_iff.mp hget
  obtain ⟨_, rfl⟩ := List.getElem?_eq_some_iff.mp hearlier
  exact List.pairwise_iff_getElem.mp (network chainId).ordered _ _ _ hindex hlt

/-- Events with one audit line are one event. -/
theorem index_of_auditBase (hget : (network chainId).events[index]? = some event)
    (hother : (network chainId).events[before]? = some other)
    (hbase : auditBase event = auditBase other) : before = index := by
  have hblock : event.base.blockNumber = other.base.blockNumber :=
    decimal_injective (congrArg AuditBase.blockNumber hbase)
  have hlog : event.base.logIndex = other.base.logIndex :=
    congrArg AuditBase.logIndex hbase
  obtain hlt | heq | hlt := lt_trichotomy before index
  · have hprecedes := precedes_of_lt hget hother hlt
    rw [precedes_iff] at hprecedes
    omega
  · exact heq
  · have hprecedes := precedes_of_lt hother hget hlt
    rw [precedes_iff] at hprecedes
    omega

/-- What lies before a scanned event was scanned too. -/
theorem Cloud.Scanned.earlier {cloud : Cloud}
    (hscanned : cloud.Scanned network chainId event)
    (hget : (network chainId).events[index]? = some event)
    (hearlier : (network chainId).events[before]? = some other)
    (hle : before ≤ index) : cloud.Scanned network chainId other := by
  obtain ⟨⟨_, hheight⟩, last, hlast, hblock⟩ := hscanned
  have hbefore : other.base.blockNumber ≤ event.base.blockNumber := by
    obtain hlt | rfl := Nat.lt_or_eq_of_le hle
    · have hprecedes := precedes_of_lt hget hearlier hlt
      rw [precedes_iff] at hprecedes
      omega
    · cases hget.symm.trans hearlier
      exact le_rfl
  exact ⟨⟨List.mem_of_getElem? hearlier, hbefore.trans hheight⟩, last, hlast,
    hbefore.trans hblock⟩

end Order

/-- The update with which the indexer applies an event. -/
def applying (config : IndexerConfig) (uuid : Text) (now : ℕ) :
    EscrowEvent → Statement
  | .asked ask => .openQuestion config uuid ask now
  | .settled settle => .settleQuestion config uuid settle now

section Apply

variable {config : IndexerConfig} {event : EscrowEvent} {uuid : Text} {index now : ℕ}

theorem onRecord_applying {record : QuestionRecord}
    (huuid : tryRefToUuid event.base.ref = some uuid) :
    ((applying config uuid now event).onRecord question record).question =
      record.question.map fun row =>
        if event.hits config row then event.set now row else row := by
  rw [← inStatus_eq_hits huuid]
  cases event <;> rfl

/-- The update makes of the columns what the event does. -/
theorem exec_applying {node : NodeAnswer} {before after : Cloud}
    {reply : Except SqlError (applying config uuid now event).Reply}
    (hchain : config.chainId = chainId)
    (huuid : tryRefToUuid event.base.ref = some uuid)
    (hexec : Cloud.exec network (.database (applying config uuid now event)) node before =
      some (reply, after)) :
    (∃ failure, reply = .error failure ∧ after = before) ∨
      after.journal = before.journal ∧ after.height = before.height ∧
        ∀ money ∈ after.columns chainId question, ∃ old ∈ before.columns chainId question,
          money = old.apply question event := by
  obtain ⟨_, htables, hafter⟩ | ⟨hreply, hafter, _⟩ := exec_database hexec
  · right
    refine ⟨by rw [hafter], by rw [hafter], ?_⟩
    intro money hmoney
    obtain ⟨row, hrow, hrowChain, rfl⟩ := mem_columns.mp hmoney
    rw [Cloud.record, htables, Statement.recordOf_effect before.database.consistent,
      onRecord_applying huuid, Option.map_eq_some_iff] at hrow
    obtain ⟨old, hold, rfl⟩ := hrow
    have hsame : old.chainId = config.chainId := by
      rw [hchain, ← hrowChain]
      split
      · cases event <;> rfl
      · rfl
    refine ⟨Money.of old, mem_columns.mpr ⟨old, hold, hsame.trans hchain, rfl⟩, ?_⟩
    rw [Money.of_update hsame, recordOf_id hold]
  · exact .inl ⟨_, hreply, hafter⟩

variable {cut : ℕ} {before after : Cloud}

/-- Applying an event in its turn moves the cut past it. -/
theorem Shows.applied (hwell : (network chainId).WellFormed)
    (hshows : Shows network chainId question cut before)
    (hget : (network chainId).events[index]? = some event)
    (hearlier : ∀ place other, place < index →
      (network chainId).events[place]? = some other → before.Handled chainId other)
    (hscanned : before.Scanned network chainId event)
    (hjournal : after.journal = before.journal) (hheight : after.height = before.height)
    (hcolumns : ∀ money ∈ after.columns chainId question,
      ∃ old ∈ before.columns chainId question, money = old.apply question event) :
    Shows network chainId question (max cut (index + 1)) after := by
  have hgrows : before.Grows after := fun target => by rw [hheight]
  have hscans : before.journal.scans ⊆ after.journal.scans := by
    rw [hjournal]
    exact List.Subset.refl _
  refine ⟨?_, ?_, ?_⟩
  · intro money hmoney
    obtain ⟨old, hold, rfl⟩ := hcolumns money hmoney
    rw [hshows.columns old hold]
    apply Replay.step_upTo (columns_absorb hwell) hget
    intro place other hcut hplace hother money
    apply Money.apply_of_unrelated
    intro hrelated
    have hbehind := hshows.handled place other hother hrelated
      (hearlier place other hplace hother)
    omega
  · intro place other hother hplace
    obtain hold | hnew := lt_max_iff.mp hplace
    · exact (hshows.scanned place other hother hold).mono hgrows hscans
    · exact (hscanned.earlier hget hother (Nat.le_of_lt_succ hnew)).mono hgrows hscans
  · intro place other hother hrelated hhandled
    rw [Cloud.Handled, hjournal] at hhandled
    exact (hshows.handled place other hother hrelated hhandled).trans_le
      (le_max_left _ _)

/-- An audit line of an event behind the cut. -/
theorem Shows.audited {fields : AuditFields} (hshows : Shows network chainId question cut before)
    (hget : (network chainId).events[index]? = some event)
    (hfields : fields.toAuditBase = auditBase event)
    (hbehind : tryRefToUuid event.base.ref = some question → index < cut) :
    Shows network chainId question cut (before.audit chainId fields) := by
  refine ⟨hshows.columns, hshows.scanned, ?_⟩
  intro place other hother hrelated ⟨line, hline, hchain, hbase⟩
  obtain hold | hnew := List.mem_append.mp hline
  · exact hshows.handled place other hother hrelated ⟨line, hold, hchain, hbase⟩
  · rw [List.mem_singleton.mp hnew] at hbase
    have hsame : auditBase event = auditBase other := hfields.symm.trans hbase
    have href : event.base.ref = other.base.ref := congrArg AuditBase.ref hsame
    rw [index_of_auditBase hget hother hsame]
    exact hbehind (href ▸ hrelated)

end Apply

/-- If the event is about the question, then it lies behind a cut. -/
def Passed (network : Network) (chainId : ℕ) (question : Text) (index : ℕ)
    (event : EscrowEvent) (cloud : Cloud) : Prop :=
  tryRefToUuid event.base.ref = some question →
    ∃ cut, index < cut ∧ Shows network chainId question cut cloud

section Event

variable {A : Type} {cloud : Cloud} {config : IndexerConfig} {event : EscrowEvent}
variable {index : ℕ}

theorem MovesOn.passed {before after : Cloud}
    (hmoves : MovesOn network chainId question before after)
    (hpassed : Passed network chainId question index event before) :
    Passed network chainId question index event after := by
  intro hrelated
  obtain ⟨cut, hcut, hshows⟩ := hpassed hrelated
  obtain ⟨later, hlater, hshows⟩ := hmoves.shows cut hshows
  exact ⟨later, hcut.trans_le hlater, hshows⟩

/-- A statement that spares the rows. -/
theorem wp_sql_shown {statement : Statement}
    {next : statement.Reply → Program workers SqlError A}
    (hspares : Operation.Spares chainId (.database statement))
    (hpassed : Passed network chainId question index event cloud)
    (hnext : ∀ value after, Passed network chainId question index event after →
      (system network runtime).wp (convergenceProtocol network chainId start question)
        (System.Ends (fun _ => True) fun after => after.Handled chainId event)
        (next value) after) :
    (system network runtime).wp (convergenceProtocol network chainId start question)
      (System.Ends (fun _ => True) fun after => after.Handled chainId event)
      (sql id statement >>= next) cloud := by
  apply wp_sql_keeps (keeps_spared hspares)
  · exact fun _ _ _ _ _ _ _ => trivial
  · intro value node now after hnow _ hafter _
    exact hnext value after (hafter.passed (hnow.passed hpassed))

variable (hchain : config.chainId = chainId)

include hchain

/-- The audit line of an event is written once the event lies behind. -/
theorem wp_audit_shown {fields : AuditFields} {fired : Fin 2}
    (hget : (network chainId).events[index]? = some event)
    (hfields : fields.toAuditBase = auditBase event)
    (hpassed : Passed network chainId question index event cloud) :
    (system network runtime).wp (convergenceProtocol network chainId start question)
      (System.Ends (fun _ => True) fun after => after.Handled chainId event)
      (auditMoneyState config fields >>= fun _ => pure fired) cloud := by
  subst hchain
  apply wp_audit
  · rintro now hnow ⟨hsound, cut, hshows⟩
    have hshown : ∀ cut, Shows network config.chainId question cut now →
        ∃ later, cut ≤ later ∧
          Shows network config.chainId question later (now.audit config.chainId fields) := by
      intro cut hshows
      by_cases hrelated : tryRefToUuid event.base.ref = some question
      · obtain ⟨far, hfar, hfarther⟩ := hnow.passed hpassed hrelated
        obtain hle | hle := le_total cut far
        · exact ⟨far, hle, hfarther.audited hget hfields fun _ => hfar⟩
        · exact ⟨cut, le_rfl,
            hshows.audited hget hfields fun _ => hfar.trans_le hle⟩
      · exact ⟨cut, le_rfl,
          hshows.audited hget hfields fun hsame => absurd hsame hrelated⟩
    obtain ⟨hafter, hforward⟩ := @exec_quiet network config.chainId start
      (.audit config.chainId fields) {} now (now.audit config.chainId fields) () rfl rfl
      hsound
    obtain ⟨later, _, hlater⟩ := hshown cut hshows
    exact ⟨⟨hafter, later, hlater⟩, hforward, fun _ => le_rfl, List.Subset.refl _,
      hshown⟩
  · intro now later _ hlater _
    apply hlater.forward.handled
    refine ⟨(config.chainId, fields), ?_, rfl, hfields⟩
    exact List.mem_append_right _ (List.mem_singleton_self _)

theorem wp_noopOrUnknown_shown {uuid : Text} {target : QuestionStatus}
    (hget : (network chainId).events[index]? = some event)
    (hpassed : Passed network chainId question index event cloud) :
    (system network runtime).wp (convergenceProtocol network chainId start question)
      (System.Ends (fun _ => True) fun after => after.Handled chainId event)
      (noopOrUnknown config (auditBase event) uuid target) cloud := by
  apply wp_sql_shown _ hpassed
  · intro existing after hpassed
    cases existing with
    | none => exact wp_audit_shown hchain hget rfl hpassed
    | some existing => exact wp_audit_shown hchain hget rfl hpassed
  · exact trivial

/-- An event is applied in its turn. -/
theorem wp_applying {uuid : Text} {now : ℕ}
    {next : (applying config uuid now event).Reply → Program workers SqlError A}
    (hwell : (network chainId).WellFormed)
    (hget : (network chainId).events[index]? = some event)
    (huuid : tryRefToUuid event.base.ref = some uuid)
    (hearlier : ∀ place other, place < index →
      (network chainId).events[place]? = some other → cloud.Handled chainId other)
    (hscanned : cloud.Scanned network chainId event)
    (hnext : ∀ value after, Passed network chainId question index event after →
      (system network runtime).wp (convergenceProtocol network chainId start question)
        (System.Ends (fun _ => True) fun after => after.Handled chainId event)
        (next value) after) :
    (system network runtime).wp (convergenceProtocol network chainId start question)
      (System.Ends (fun _ => True) fun after => after.Handled chainId event)
      (sql id (applying config uuid now event) >>= next) cloud := by
  apply System.wp_await rfl
  rintro ready hnow ⟨hsound, cut, hshows⟩ _ node reply after hexec
  change Cloud.exec network (.database (applying config uuid now event)) node ready =
    some (reply, after) at hexec
  obtain ⟨hafter, hforward⟩ := exec_quiet rfl hexec hsound
  obtain ⟨failure, rfl, rfl⟩ | ⟨hjournal, hheight, hcolumns⟩ :=
    @exec_applying network question chainId config event uuid _ node ready after reply
      hchain huuid hexec
  · exact ⟨⟨hsound, cut, hshows⟩, MovesOn.refl _, fun _ _ _ => trivial⟩
  · have hshown : ∀ cut, Shows network chainId question cut ready →
        Shows network chainId question (max cut (index + 1)) after := by
      intro cut hshows
      apply hshows.applied hwell hget _ (hscanned.mono hnow.grows hnow.scans) hjournal
        hheight hcolumns
      intro place other hplace hother
      exact hnow.forward.handled other (hearlier place other hplace hother)
    have hmoves : MovesOn network chainId question ready after :=
      ⟨hforward, exec_grows hexec, exec_scans hexec,
        fun cut hshows => ⟨_, le_max_left _ _, hshown cut hshows⟩⟩
    refine ⟨⟨hafter, _, hshown cut hshows⟩, hmoves, ?_⟩
    cases reply with
    | error failure => exact fun _ _ _ => trivial
    | ok value =>
        apply hnext value after
        exact fun _ => ⟨_, Nat.lt_of_succ_le (le_max_right _ _), hshown cut hshows⟩

/-- An event that a pass applies in its turn has been handled and lies behind. -/
theorem wp_applyEvent_shown (now : ℕ) (hwell : (network chainId).WellFormed)
    (hget : (network chainId).events[index]? = some event)
    (hearlier : ∀ place other, place < index →
      (network chainId).events[place]? = some other → cloud.Handled chainId other)
    (hscanned : cloud.Scanned network chainId event) :
    (system network runtime).wp (convergenceProtocol network chainId start question)
      (System.Ends (fun _ => True) fun after => after.Handled chainId event)
      (applyEvent config event now) cloud := by
  rw [applyEvent]
  simp only
  cases huuid : tryRefToUuid event.base.ref with
  | none =>
      apply wp_audit_shown hchain hget rfl
      intro hrelated
      rw [huuid] at hrelated
      cases hrelated
  | some uuid =>
      cases event with
      | asked ask =>
          apply wp_applying hchain hwell hget huuid hearlier hscanned
          intro changed after hpassed
          split
          · exact wp_audit_shown hchain hget rfl hpassed
          · exact wp_noopOrUnknown_shown hchain hget hpassed
      | settled settle =>
          apply wp_applying hchain hwell hget huuid hearlier hscanned
          intro changed after hpassed
          split
          · split
            · apply wp_sql_shown _ hpassed
              · exact fun _ after hpassed => wp_audit_shown hchain hget rfl hpassed
              · exact trivial
            · exact wp_audit_shown hchain hget rfl hpassed
          · exact wp_noopOrUnknown_shown hchain hget hpassed

end Event

/-! ## Every schedule -/

/-- A pass scans what it has seen and applies what it has scanned. -/
theorem tracks_convergence (limits : PassLimits) :
    Tracks network (convergenceProtocol network chainId start question)
      (network.config chainId limits) start
      (fun block cloud =>
        block ≤ cloud.largestHead chainId ∧ block ≤ cloud.height chainId)
      (fun event cloud => cloud.Scanned network chainId event)
      (fun event cloud => cloud.Handled chainId event) where
  seen := fun hmoves hseen =>
    ⟨hseen.1.trans hmoves.forward.largestHead, hseen.2.trans (hmoves.grows chainId)⟩
  ready := fun hmoves hscanned => hscanned.mono hmoves.grows hmoves.scans
  done := fun hmoves hhandled => hmoves.forward.handled _ hhandled
  seen_le := fun hseen hle => ⟨hle.trans hseen.1, hle.trans hseen.2⟩
  load := fun hinvariant => ⟨hinvariant.1.start_le, hinvariant.1.handled⟩
  loads := keeps_spared trivial
  heads := keeps_spared trivial
  head := fun hexec => ⟨largestHead_of_read hexec, getFinalizedHead_le hexec⟩
  fetch := by
    intro lo hi now hseen hinvariant hallowed node logs after hexec
    have hspares : Operation.Spares chainId (.getLogs chainId lo hi) := trivial
    obtain ⟨hafter, hmoves⟩ :=
      keeps_spared hspares now hinvariant hallowed node logs after hexec
    refine ⟨hafter, hmoves, ?_⟩
    intro event hevent
    obtain ⟨hmem, _, hblock⟩ := (getLogs_complete hexec).1 event hevent
    exact ⟨⟨hmem, hblock.trans (hseen.2.trans (hmoves.grows chainId))⟩, hi,
      getLogs_scans hexec, hblock⟩
  save := by
    rintro last now hseen hstart hdone ⟨hsound, cut, hshows⟩ _
    obtain ⟨hafter, hforward⟩ := exec_saveCursor hsound hstart hseen.1 hdone
    refine ⟨⟨hafter, cut, ?_⟩, hforward, fun _ => le_rfl, List.Subset.refl _, ?_⟩
    · exact ⟨hshows.columns, hshows.scanned, hshows.handled⟩
    · exact fun cut hshows =>
        ⟨cut, le_rfl, hshows.columns, hshows.scanned, hshows.handled⟩

theorem spares_of_ofApi {operation : Operation} {publishes : Bool}
    (hapi : operation.OfApi publishes) : operation.Spares chainId := by
  cases operation with
  | database statement =>
      cases statement with
      | openQuestion | settleQuestion => cases hapi
      | insertQuestion row => exact hapi
      | _ => exact trivial
  | audit | saveCursor => cases hapi
  | _ => exact trivial

theorem spares_of_ofSweep {operation : Operation} (hsweep : operation.OfSweep) :
    operation.Spares chainId := by
  cases operation with
  | database statement =>
      cases statement with
      | openQuestion | settleQuestion | insertQuestion => cases hsweep
      | _ => exact trivial
  | audit | saveCursor => cases hsweep
  | _ => exact trivial

theorem spares_of_ofPass {operation : Operation} {config : ReconcileConfig}
    (hpass : operation.OfPass config) (hother : config.chainId ≠ chainId) :
    operation.Spares chainId := by
  cases operation with
  | database statement =>
      cases statement with
      | openQuestion | settleQuestion =>
          cases hpass
          exact hother
      | insertQuestion => cases hpass
      | _ => exact trivial
  | audit =>
      cases hpass
      exact hother
  | saveCursor =>
      cases hpass.1
      exact hother
  | _ => exact trivial

theorem wp_convergence (hwell : (network chainId).WellFormed)
    (hstart : ∀ event ∈ (network chainId).events, start < event.base.blockNumber)
    (label : Label) (cloud : Cloud) :
    (system network runtime).wp (convergenceProtocol network chainId start question)
      (fun _ _ => True) ((system network runtime).program label) cloud := by
  cases label with
  | reconcile target limits now =>
      by_cases htarget : target = chainId
      · subst htarget
        have hpass : (system network runtime).wp
            (convergenceProtocol network target start question)
            (System.FailsOnly fun _ => True)
            (reconcile (network.config target limits) now) cloud := by
          apply wp_reconcile_tracked (tracks_convergence limits)
          intro event cloud hevent hscanned hbefore _
          obtain ⟨index, hget⟩ := List.mem_iff_getElem?.mp hevent
          apply wp_applyEvent_shown rfl now hwell hget _ hscanned
          intro place other hplace hother
          have hmem := List.mem_of_getElem? hother
          exact hbefore other hmem (hstart other hmem)
            (precedes_of_lt hget hother hplace)
        exact System.wp_mono hpass fun _ _ _ _ _ => trivial
      · exact wp_of_keeps reconcile_uses
          fun _ hpass => keeps_spared (spares_of_ofPass hpass htarget)
  | sweep olderThanSeconds now limit =>
      exact wp_of_keeps (sweepOrphanedPendingPayments_uses _ _ _)
        fun _ hsweep => keeps_spared (spares_of_ofSweep hsweep)
  | request context request =>
      exact wp_of_keeps (handleRequest_uses runtime context request)
        fun _ hapi => keeps_spared (spares_of_ofApi hapi)

/-- Drafts are minted before their ref is used. -/
def DraftsFirst (network : Network) (pool : WorkerPool) (action : WorkerSchedule) :
    Prop :=
  ∀ row, Executes pool action (.insertQuestion row) →
    ¬ pool.state.Asked network row.chainId row.id

theorem admits_convergence (hwell : (network chainId).WellFormed)
    (hstart : ∀ event ∈ (network chainId).events, start < event.base.blockNumber) :
    (system network runtime).Admits (convergenceProtocol network chainId start question)
      (fun _ _ _ => True) (DraftsFirst network) where
  launch := fun _ _ => wp_convergence hwell hstart _ _
  advance := by
    rintro pool index node label operation next left right hfirst hthreads hindex row rfl
    have hget := System.getElem?_of_split hthreads hindex
    exact hfirst row ⟨index, node, _, rfl, hget, rfl⟩
  event := by
    rintro pool event _ ⟨hsound, cut, hshows⟩
    have hgrows := react_grows pool.state event
    cases event with
    | mine mined blocks =>
        have hforward : Forward network chainId pool.state
            (pool.state.react (.mine mined blocks)) :=
          ⟨le_rfl, fun _ hhandled => hhandled, List.Subset.refl _⟩
        have hshown : ∀ cut, Shows network chainId question cut pool.state →
            Shows network chainId question cut (pool.state.react (.mine mined blocks)) :=
          fun cut hshows => ⟨hshows.columns,
            fun place other hother hplace => (hshows.scanned place other hother
              hplace).mono hgrows (List.Subset.refl _), hshows.handled⟩
        exact ⟨⟨hforward.sound rfl hsound, cut, hshown cut hshows⟩, hforward, hgrows,
          List.Subset.refl _, fun cut hshows => ⟨cut, le_rfl, hshown cut hshows⟩⟩

/-- The events up to a block come first. -/
theorem logs_cut (network : Network) (chainId last : ℕ) :
    ∃ cut, (network chainId).logs 0 last = (network chainId).events.take cut ∧
      ∀ index event, (network chainId).events[index]? = some event →
        (index < cut ↔ event.base.blockNumber ≤ last) := by
  obtain ⟨cut, hlogs, hcut⟩ := @Replay.exists_cut _ (network chainId).events
    (fun event => decide (0 ≤ event.base.blockNumber) &&
      decide (event.base.blockNumber ≤ last)) <| by
    apply (network chainId).ordered.imp
    intro first second hprecedes hsecond
    have hbefore := precedes_iff.mp hprecedes
    simp only [Bool.and_eq_true, decide_eq_true_eq] at hsecond ⊢
    omega
  refine ⟨cut, hlogs, ?_⟩
  intro index event hget
  rw [hcut index event hget]
  simp

/-- While nothing is scanned beyond the cursor, the rows are what the events up to
it make of the drafts. -/
theorem Shows.columns_at_cursor {cut : ℕ} {cloud : Cloud}
    (hshows : Shows network chainId question cut cloud)
    (hsound : CursorSound network chainId start cloud)
    (hstart : ∀ event ∈ (network chainId).events, start < event.base.blockNumber)
    (hbeyond : ∀ last, (chainId, last) ∈ cloud.journal.scans →
      last ≤ cloud.cursor network chainId)
    {money : Money} (hmoney : money ∈ cloud.columns chainId question) :
    money = Machine.run (Money.apply question) .unpaid
      ((network chainId).logs 0 (cloud.cursor network chainId)) := by
  obtain ⟨all, hlogs, hall⟩ :=
    logs_cut network chainId (cloud.cursor network chainId)
  have hbehind : Replay.Skips (Money.apply question) (network chainId).events cut
      (max cut all) := by
    intro place event hcut hplace hget money
    apply Money.apply_of_unrelated
    intro hrelated
    have hmem := List.mem_of_getElem? hget
    have hblock := (hall place event hget).mp (by omega)
    have hhandled := hsound.handled event hmem (hstart event hmem) hblock
    have hlt := hshows.handled place event hget hrelated hhandled
    omega
  have hahead : Replay.Skips (Money.apply question) (network chainId).events all
      (max cut all) := by
    intro place event hle hplace hget
    obtain ⟨_, last, hlast, hblock⟩ :=
      hshows.scanned place event hget (by omega)
    have hlt := (hall place event hget).mpr (hblock.trans (hbeyond last hlast))
    omega
  calc money = columnsAt network chainId question cut := hshows.columns money hmoney
    _ = columnsAt network chainId question (max cut all) :=
        (Replay.upTo_skip (le_max_left cut all) hbehind).symm
    _ = columnsAt network chainId question all :=
        Replay.upTo_skip (le_max_right cut all) hahead
    _ = Machine.run (Money.apply question) .unpaid
          ((network chainId).logs 0 (cloud.cursor network chainId)) := by
        rw [hlogs, columnsAt, Replay.upTo]

/-! ## Applying the events once -/

/-- A row as it was before it was paid. -/
def unpay (row : Question) : Question :=
  { row with
    status := .pendingPayment, onchainId := none, amountUsdc := none
    answerDeadline := none }

theorem unpay_consistent {tables : Tables} (hconsistent : tables.Consistent)
    (chainId : ℕ) :
    { tables with
      questions := Table.update (fun row => row.chainId = chainId) unpay
        tables.questions : Tables }.Consistent := by
  refine hconsistent.updateQuestions (fun _ => rfl) (fun _ => rfl) (fun _ => rfl)
    ?_ ?_
  · intro row hrow _
    have hvalid := hconsistent.questions_check row hrow
    have hnone : ∀ text ∈ (none : Option Text), isBaseUnits text = true := by simp
    exact ⟨hvalid.asker_addr, hvalid.answerer_addr, hvalid.chain_id, hnone, hnone,
      hvalid.body_len⟩
  · exact fun _ _ _ => .inl rfl

/-- The cloud with all questions of a chain turned back into drafts. -/
def Cloud.unpaid (cloud : Cloud) (chainId : ℕ) : Cloud :=
  { cloud with
    database := {
      toTables := { cloud.database.toTables with
        questions := Table.update (fun row => row.chainId = chainId) unpay
          cloud.database.questions }
      consistent := unpay_consistent cloud.database.consistent chainId } }

section Alone

variable {before after : Cloud} {config : IndexerConfig} {event : EscrowEvent} {now : ℕ}

/-- Rows that change in place. -/
theorem columns_map {change : Question → Question} {moves : Money → Money} {chain : ℕ}
    (hrecord : (after.record question).question =
      (before.record question).question.map change)
    (hchain : ∀ row, (change row).chainId = row.chainId)
    (hmoney : ∀ row, (before.record question).question = some row →
      row.chainId = chain → Money.of (change row) = moves (Money.of row)) :
    after.columns chain question = (before.columns chain question).map moves := by
  rw [Cloud.columns, Cloud.columns, hrecord]
  cases hrow : (before.record question).question with
  | none => rfl
  | some row =>
      by_cases hsame : row.chainId = chain
      · have hkeeps : (change row).chainId = chain := (hchain row).trans hsame
        simp [Option.filter_some, hsame, hkeeps, hmoney row hrow hsame]
      · have hkeeps : ¬ (change row).chainId = chain := by rwa [hchain row]
        simp [Option.filter_some, hsame, hkeeps]

theorem columns_unpaid (chain : ℕ) :
    (before.unpaid chainId).columns chain question =
      (before.columns chain question).map fun money =>
        if chain = chainId then .unpaid else money := by
  have hkeeps : ∀ row : Question, (unpay row).id = row.id := fun _ => rfl
  have hrecord : ((before.unpaid chainId).record question).question =
      (before.record question).question.map fun row =>
        if row.chainId = chainId then unpay row else row := by
    rw [Cloud.record, recordOf, Cloud.unpaid, Table.lookup_update hkeeps]
    simp [Cloud.record, recordOf]
  apply columns_map hrecord
  · intro row
    split <;> rfl
  · intro row _ hchain
    rw [hchain]
    split <;> rfl

theorem columns_update
    (hquestions : after.database.questions =
      Table.update (event.hits config) (event.set now) before.database.questions)
    (chain : ℕ) :
    after.columns chain question = (before.columns chain question).map fun money =>
      if chain = config.chainId then money.apply question event else money := by
  have hkeeps : ∀ row : Question, (event.set now row).id = row.id := by
    intro row
    cases event <;> rfl
  have hrecord : (after.record question).question =
      (before.record question).question.map fun row =>
        if event.hits config row then event.set now row else row := by
    rw [Cloud.record, recordOf, hquestions, Table.lookup_update hkeeps]
    rfl
  apply columns_map hrecord
  · intro row
    split
    · cases event <;> rfl
    · rfl
  · intro row hrow hchain
    by_cases hconfig : chain = config.chainId
    · rw [if_pos hconfig, Money.of_update (hchain.trans hconfig), recordOf_id hrow]
    · have hmiss : ¬ event.hits config row = true := by
        rw [EscrowEvent.hits_iff]
        exact fun hall => hconfig (hchain.symm.trans hall.2.1)
      rw [if_neg hconfig, if_neg hmiss]

/-- Applying events one after the other. -/
theorem applyEvents_run {network : Network} (hwell : network.WellFormed)
    {events : List EscrowEvent} (hevents : events ⊆ (network config.chainId).events)
    (hannounced : before.Announced network) (applied : ℕ) :
    ∃ count after, (applyEvents config now events applied).run
        (fun operation cloud => cloud.serve operation) before = (.ok count, after) ∧
      ∀ chain question, after.columns chain question =
        (before.columns chain question).map fun money =>
          if chain = config.chainId then Machine.run (Money.apply question) money events
          else money := by
  induction events generalizing before applied with
  | nil =>
      refine ⟨applied, before, rfl, ?_⟩
      intro chain question
      simp
  | cons event events ih =>
      obtain ⟨fired, middle, hfirst, hmiddle, hquestions⟩ :=
        applyEvent_run hwell hannounced (hevents List.mem_cons_self) now
      obtain ⟨count, after, hrest, hcolumns⟩ :=
        ih (fun _ hother => hevents (List.mem_cons_of_mem _ hother)) hmiddle
          (applied + fired)
      refine ⟨count, after, ?_, ?_⟩
      · rw [applyEvents, Program.run_bind, hfirst]
        exact hrest
      · intro chain question
        rw [hcolumns chain question, columns_update hquestions, Option.map_map]
        congr 1
        funext money
        by_cases hchain : chain = config.chainId
        · simp [hchain]
        · simp [hchain]

end Alone

theorem unpaid_announced {cloud : Cloud} (hannounced : cloud.Announced network) :
    (cloud.unpaid chainId).Announced network := by
  intro uuid row hrow text htext
  have hkeeps : ∀ row : Question, (unpay row).id = row.id := fun _ => rfl
  rw [Cloud.record, recordOf, Cloud.unpaid, Table.lookup_update hkeeps,
    Option.map_eq_some_iff] at hrow
  obtain ⟨old, hold, rfl⟩ := hrow
  split at htext
  · cases htext
  · next hother =>
    rw [if_neg hother]
    exact hannounced uuid old hold text htext

/-- Indexing converges: in every schedule, whenever nothing is scanned beyond the
cursor, the columns of every question are those that come out when the events up to
the cursor are applied once each, in their order, to the unpaid questions.  No
transition is told of twice, and passes count no more than is told. -/
theorem indexing_converges (network : Network) (runtime : Runtime)
    (hdeployed : network.Deployed) (cloud : Cloud)
    (hdrafts : ∀ row ∈ cloud.database.questions, IsDraft row) (chainId : ℕ)
    (hstart : ∀ event ∈ (network chainId).events,
      cloud.cursor network chainId < event.base.blockNumber)
    (schedule : List WorkerSchedule)
    (hmeets : Machine.Meets (system network runtime).step (DraftsFirst network)
      (idle cloud) schedule) :
    let pool := (system network runtime).run (idle cloud) schedule
    let cursor := pool.state.cursor network chainId
    ((∀ last, (chainId, last) ∈ pool.state.journal.scans → last ≤ cursor) →
      ∀ config : IndexerConfig, config.chainId = chainId → ∀ now,
        ∃ count after,
          (applyEvents config now ((network chainId).logs 0 cursor) 0).run
              (fun operation cloud => cloud.serve operation)
              (pool.state.unpaid chainId) = (.ok count, after) ∧
          ∀ chain question,
            after.columns chain question = pool.state.columns chain question) ∧
    pool.state.transitions.Nodup ∧
      counted pool ≤ pool.state.transitions.length := by
  intro pool cursor
  refine ⟨?_, transitions_counted_once network runtime cloud schedule⟩
  rintro hbeyond config rfl now
  have hwell := hdeployed.wellFormed
  have hfresh : (idle cloud).state.Announced network := by
    intro uuid row hrow text htext
    rw [(hdrafts row (Table.lookup_mem hrow)).onchainId] at htext
    cases htext
  have hidle : (system network runtime).Orderly (announcedProtocol network) Passes
      (idle cloud) := System.Orderly.empty hfresh
  obtain ⟨hannounced, _⟩ :=
    hidle.run (admits_announced hwell) (Machine.meets_always schedule)
  have hsubset : (network config.chainId).logs 0 cursor ⊆
      (network config.chainId).events := fun _ hevent => List.mem_of_mem_filter hevent
  obtain ⟨count, after, hrun, hcolumns⟩ := @applyEvents_run
    (pool.state.unpaid config.chainId) config now network hwell _ hsubset
    (unpaid_announced hannounced.invariant) 0
  refine ⟨count, after, hrun, ?_⟩
  intro chain question
  rw [hcolumns, columns_unpaid, Option.map_map]
  by_cases hchain : chain = config.chainId
  · subst hchain
    have hshows : (system network runtime).Orderly
        (convergenceProtocol network config.chainId
          (cloud.cursor network config.chainId) question)
        (fun _ _ _ => True) (idle cloud) := by
      apply System.Orderly.empty
      refine ⟨idle_sound cloud, 0, ?_, ?_, ?_⟩
      · intro money hmoney
        obtain ⟨row, hrow, _, rfl⟩ := mem_columns.mp hmoney
        exact Money.of_draft (hdrafts row (Table.lookup_mem hrow))
      · exact fun _ _ _ hbefore => absurd hbefore (Nat.not_lt_zero _)
      · rintro _ _ _ _ ⟨line, hline, _⟩
        cases hline
    obtain ⟨horderly, _⟩ := hshows.run (admits_convergence (hwell _) hstart) hmeets
    obtain ⟨hsound, cut, hshown⟩ := horderly.invariant
    cases hmoney : pool.state.columns config.chainId question with
    | none => rfl
    | some money =>
        have hcut := hshown.columns_at_cursor hsound hstart hbeyond hmoney
        simp only [Option.map_some, Function.comp_apply, if_pos]
        exact congrArg some hcut.symm
  · have hother : ((fun money => if chain = config.chainId then
        Machine.run (Money.apply question) money
          ((network config.chainId).logs 0 cursor) else money) ∘
        fun money => if chain = config.chainId then Money.unpaid else money) = id := by
      funext money
      simp [hchain]
    rw [hother, Option.map_id_fun, id]

namespace Sample

/-- Two passes read the ask of a draft before either of them applies it; the second one
finds the question open. -/
def overlapping : List WorkerSchedule := [
  .event (.mine 8453 9), .launch (.reconcile 8453 wholeRange 30), .advance 0 {},
  .launch (.reconcile 8453 wholeRange 31), .advance 1 {},
  .advance 0 { latest := 8 }, .advance 1 { latest := 9 },
  .advance 0 { logs := (deployed 8453).events },
  .advance 1 { logs := (deployed 8453).events },
  .advance 0 {}, .advance 1 {}, .advance 1 {}, .advance 1 {}, .advance 1 {},
  .advance 0 {}, .advance 0 {}]

/-- The draft, once it is paid for. -/
def paidFor : Money where
  status := .open
  onchainId := some (decimal 1)
  amountUsdc := some (decimal 5000000)
  answerDeadline := some 604810

end Sample

/-- The draft is open, as it is when the ask is applied once. -/
theorem indexing_converges_sample :
    let pool := (system Sample.deployed Sample.runtime).run (idle Sample.drafted)
      Sample.overlapping
    pool.state.cursor Sample.deployed 8453 = 9 ∧
    pool.state.columns 8453 Sample.uuid = some Sample.paidFor ∧
    (∀ config : IndexerConfig, config.chainId = 8453 → ∀ now,
      ∃ count after,
        (applyEvents config now (Sample.deployed 8453).events 0).run
            (fun operation cloud => cloud.serve operation)
            (pool.state.unpaid 8453) = (.ok count, after) ∧
        ∀ chain question,
          after.columns chain question = pool.state.columns chain question) ∧
    pool.state.transitions.Nodup ∧ counted pool ≤ pool.state.transitions.length := by
  intro pool
  have hcursor : pool.state.cursor Sample.deployed 8453 = 9 := by decide +kernel
  have hscans : pool.state.journal.scans = [(8453, 8), (8453, 9)] := by decide +kernel
  have hdeployed : Sample.deployed.Deployed :=
    fun chainId => ⟨_, _, _, _, _, Sample.deployed_emission chainId⟩
  have hdrafts : ∀ row ∈ Sample.drafted.database.questions, IsDraft row := by
    intro row hrow
    rw [List.mem_singleton.mp hrow]
    exact ⟨rfl, rfl, rfl, rfl, rfl⟩
  have hstart : ∀ event ∈ (Sample.deployed 8453).events,
      Sample.drafted.cursor Sample.deployed 8453 < event.base.blockNumber := by
    intro event hevent
    rw [List.mem_singleton.mp hevent]
    exact Nat.zero_lt_succ _
  have hquiet : Machine.Meets (system Sample.deployed Sample.runtime).step
      (fun pool action => ∀ statement ∈ statementOf pool action, statement.isMint = false)
      (idle Sample.drafted) Sample.overlapping := by
    decide +kernel
  have hmeets : Machine.Meets (system Sample.deployed Sample.runtime).step
      (DraftsFirst Sample.deployed) (idle Sample.drafted) Sample.overlapping := by
    apply hquiet.mono
    intro pool action hstatement row hexecutes
    exact absurd (hstatement _ hexecutes.statementOf_eq) Bool.noConfusion
  obtain ⟨hconverges, honce⟩ := indexing_converges Sample.deployed Sample.runtime hdeployed
    Sample.drafted hdrafts 8453 hstart Sample.overlapping hmeets
  refine ⟨hcursor, by decide +kernel, ?_, honce⟩
  have hbeyond : ∀ last, (8453, last) ∈ pool.state.journal.scans →
      last ≤ pool.state.cursor Sample.deployed 8453 := by
    intro last hlast
    rw [hscans] at hlast
    rw [hcursor]
    simp only [List.mem_cons, Prod.mk.injEq, List.not_mem_nil, or_false, true_and] at hlast
    omega
  have hlogs : (Sample.deployed 8453).logs 0 (pool.state.cursor Sample.deployed 8453) =
      (Sample.deployed 8453).events := by
    rw [hcursor]
    rfl
  rw [← hlogs]
  exact hconverges hbeyond

end BuyAnAnswer.Workers
