import BuyAnAnswer.Core.Credit
import BuyAnAnswer.Workers.Rows

/-!
# Counting transitions

`applyEvent` counts a transition when its guarded update has moved a row.  A row
leaves each status only once, so only one pass finds it there, and that pass writes
one audit line for it.
-/

namespace BuyAnAnswer.Workers

open Text Shared Indexer Api BuyAnAnswer.Transaction

variable {network : Network} {runtime : Runtime}

/-- A question and the status it leaves, as an audit line tells it. -/
abbrev Transition := Option Text × Option QuestionStatus

/-- The transition of an audit line. -/
def transitionOf (fields : AuditFields) : Option Transition :=
  if fields.outcome = .applied then some (fields.questionId, fields.from) else none

/-- The transitions that the audit trail tells of. -/
def Cloud.transitions (cloud : Cloud) : List Transition :=
  cloud.journal.audits.filterMap fun line => transitionOf line.2

/-- What a pass that is through has counted. -/
def Label.counted :
    (label : Label) → Program workers label.Failure label.Result → ℕ
  | .reconcile _ _ _, .ret result => result.transitionsApplied
  | _, _ => 0

/-- What all passes have counted together. -/
def counted (pool : WorkerPool) : ℕ :=
  (pool.threads.map fun thread => thread.label.counted thread.program).sum

/-! ## Passes within their credit -/

/-- The transition a guarded update stands for. -/
def Statement.transition : Statement → Option Transition
  | .openQuestion _ uuid _ _ => some (some uuid, some .pendingPayment)
  | .settleQuestion _ uuid _ _ => some (some uuid, some .open)
  | _ => none

/-- A tariff under which an applied event pays for itself: only audit lines of
transitions cost anything, the update before gives as much, and the line is worth
something. -/
structure Fair (tariff : Tariff workers) (worth : ℕ) : Prop where
  free : ∀ operation : Operation, operation.isAudit = false →
    tariff.cost operation = 0
  quiet : ∀ chainId fields, transitionOf fields = none →
    tariff.cost (.audit chainId fields) = 0
  opens : ∀ config uuid ask now chainId fields (changed : List Text),
    0 < changed.length →
    transitionOf fields = some (some uuid, some .pendingPayment) →
      tariff.cost (.audit chainId fields) ≤
        tariff.gain (.database (.openQuestion config uuid ask now)) (.ok changed)
  settles : ∀ config uuid settle now chainId fields (changed : List Text),
    0 < changed.length → transitionOf fields = some (some uuid, some .open) →
      tariff.cost (.audit chainId fields) ≤
        tariff.gain (.database (.settleQuestion config uuid settle now)) (.ok changed)
  worth : ∀ chainId fields, (transitionOf fields).isSome = true →
    worth ≤ tariff.gain (.audit chainId fields) ()

section Affords

variable {tariff : Tariff workers} {worth credit : ℕ}

section Event

variable {config : IndexerConfig} {now : ℕ}

/-- The rule for a statement, which costs nothing. -/
theorem affords_sql (hfair : Fair tariff worth) {A : Type} {statement : Statement}
    {next : statement.Reply → Program workers SqlError A} {post : A → ℕ → Prop}
    (hnext : ∀ value, (next value).Affords tariff post
      (credit + tariff.gain (.database statement) (.ok value))) :
    (sql id statement >>= next).Affords tariff post credit := by
  have hfree := hfair.free (.database statement) rfl
  refine ⟨hfree ▸ Nat.zero_le credit, ?_⟩
  intro reply
  rw [hfree, Nat.sub_zero]
  cases reply with
  | ok value => exact hnext value
  | error failure => exact trivial

/-- An audit line that tells of no transition. -/
theorem affords_noop (hfair : Fair tariff worth) {fields : AuditFields}
    (hfields : transitionOf fields = none) {start : ℕ} (hstart : start ≤ credit) :
    (auditMoneyState config fields >>= fun _ => pure 0 :
      Program workers SqlError (Fin 2)).Affords tariff
        (fun (fired : Fin 2) left => start + worth * fired.val ≤ left) credit := by
  have hcost := hfair.quiet config.chainId fields hfields
  refine ⟨hcost ▸ Nat.zero_le _, ?_⟩
  intro reply
  rw [hcost]
  exact hstart.trans (Nat.le_add_right _ _)

theorem affords_noopOrUnknown (hfair : Fair tariff worth) {audit : AuditBase}
    {uuid : Text} {target : QuestionStatus} {start : ℕ} (hstart : start ≤ credit) :
    (noopOrUnknown config audit uuid target).Affords tariff
      (fun (fired : Fin 2) left => start + worth * fired.val ≤ left) credit := by
  apply affords_sql hfair
  intro existing
  cases existing with
  | none => exact affords_noop hfair rfl (hstart.trans (Nat.le_add_right _ _))
  | some existing =>
      apply affords_noop hfair _ (hstart.trans (Nat.le_add_right _ _))
      by_cases htarget : existing.status = target <;> simp [transitionOf, htarget]

/-- An applied transition pays for its audit line and is worth its count. -/
theorem affords_applied (hfair : Fair tariff worth) {fields : AuditFields}
    (happlied : (transitionOf fields).isSome = true) {start : ℕ}
    (hcost : start + tariff.cost (.audit config.chainId fields) ≤ credit) :
    (auditMoneyState config fields >>= fun _ => pure 1 :
      Program workers SqlError (Fin 2)).Affords tariff
        (fun (fired : Fin 2) left => start + worth * fired.val ≤ left) credit := by
  refine ⟨(Nat.le_add_left _ _).trans hcost, ?_⟩
  intro reply
  have hworth := hfair.worth config.chainId fields happlied
  change start + worth * 1 ≤ credit - tariff.cost (.audit config.chainId fields) +
    tariff.gain (.audit config.chainId fields) ()
  omega

/-- Whatever an event comes to, its count is covered. -/
theorem affords_applyEvent (hfair : Fair tariff worth) (event : EscrowEvent) :
    (applyEvent config event now).Affords tariff
      (fun (fired : Fin 2) left => credit + worth * fired.val ≤ left) credit := by
  rw [applyEvent]
  simp only
  cases tryRefToUuid event.base.ref with
  | none => exact affords_noop hfair rfl le_rfl
  | some uuid =>
      cases event with
      | asked ask =>
          apply affords_sql hfair
          intro changed
          split
          · next hchanged =>
            apply affords_applied hfair rfl
            apply Nat.add_le_add_left
            exact hfair.opens _ _ _ _ _ _ _ hchanged rfl
          · exact affords_noopOrUnknown hfair (Nat.le_add_right _ _)
      | settled settle =>
          apply affords_sql hfair
          intro changed
          split
          · next hchanged =>
            split
            · apply affords_sql hfair
              intro revealed
              apply affords_applied hfair rfl
              rw [Nat.add_assoc]
              apply Nat.add_le_add_left
              exact (hfair.settles _ _ _ _ _ _ _ hchanged rfl).trans
                (Nat.le_add_right _ _)
            · apply affords_applied hfair rfl
              apply Nat.add_le_add_left
              exact hfair.settles _ _ _ _ _ _ _ hchanged rfl
          · exact affords_noopOrUnknown hfair (Nat.le_add_right _ _)

end Event

theorem affords_applyEvents (hfair : Fair tariff worth) {config : IndexerConfig}
    {now : ℕ} (events : List EscrowEvent) {applied : ℕ}
    (happlied : worth * applied ≤ credit) :
    (applyEvents config now events applied).Affords tariff
      (fun count left => worth * count ≤ left) credit := by
  induction events generalizing applied credit with
  | nil => exact happlied
  | cons event events ih =>
      apply Program.Affords.bind
      apply (affords_applyEvent hfair event).mono
      intro fired left hleft
      apply ih
      rw [Nat.mul_add]
      omega

/-- Everything else a pass does is free. -/
theorem affords_call (hfair : Fair tariff worth) {A : Type} {operation : Operation}
    {next : operation.Reply → Program workers SqlError A} {post : A → ℕ → Prop}
    (haudit : operation.isAudit = false)
    (hnext : ∀ reply left, credit ≤ left → (next reply).Affords tariff post left) :
    (call operation >>= next).Affords tariff post credit := by
  have hfree := hfair.free operation haudit
  refine ⟨hfree ▸ Nat.zero_le credit, ?_⟩
  intro reply
  apply hnext
  rw [hfree, Nat.sub_zero]
  exact Nat.le_add_right _ _

variable {config : ReconcileConfig} {now : ℕ}

theorem affords_scan (hfair : Fair tariff worth) (windows : List (ℕ × ℕ))
    {progress : Progress} (hprogress : worth * progress.applied ≤ credit) :
    (scan config now windows progress).Affords tariff
      (fun progress left => worth * progress.applied ≤ left) credit := by
  induction windows generalizing progress credit with
  | nil => exact hprogress
  | cons window windows ih =>
      rw [scan]
      apply affords_call hfair rfl
      intro logs fetched hfetched
      apply Program.Affords.bind
      apply (affords_applyEvents hfair _ (hprogress.trans hfetched)).mono
      intro applied left hleft
      apply affords_call hfair rfl
      intro _ saved hsaved
      apply ih
      exact hleft.trans hsaved

/-- What a pass counts is covered by its audit lines. -/
theorem affords_reconcile (hfair : Fair tariff worth) :
    (reconcile config now).Affords tariff
      (fun result left => worth * result.transitionsApplied ≤ left) credit := by
  rw [reconcile]
  apply affords_call hfair rfl
  intro row loaded _
  apply affords_call hfair rfl
  intro head told _
  simp only
  split
  · exact Nat.zero_le _
  · apply Program.Affords.bind
    apply (affords_scan hfair _ (Nat.zero_le _)).mono
    exact fun progress left hleft => hleft

/-- The postcondition of a label: a pass has what it has counted. -/
def Label.Covers (worth : ℕ) : (label : Label) → label.Result → ℕ → Prop
  | .reconcile _ _ _, result, left => worth * result.transitionsApplied ≤ left
  | _, _, _ => True

theorem affords_program (hfair : Fair tariff worth) (label : Label) :
    ((system network runtime).program label).Affords tariff (label.Covers worth) 0 := by
  have hfree : ∀ {Failure A : Type} {code : Program workers Failure A}
      {Permitted : Operation → Prop}, code.Uses Permitted →
      (∀ operation, Permitted operation → operation.isAudit = false) →
      code.Affords tariff (fun _ _ => True) 0 := by
    intro Failure A code Permitted huses haudit
    have hcode := huses.mono fun operation hpermitted =>
      hfair.free operation (haudit operation hpermitted)
    exact hcode.affords.mono fun _ _ _ => trivial
  cases label with
  | reconcile chainId limits now => exact affords_reconcile hfair
  | sweep olderThanSeconds now limit =>
      exact hfree (sweepOrphanedPendingPayments_uses _ _ _) fun _ => isAudit_of_ofSweep
  | request context request =>
      exact hfree (handleRequest_uses runtime context request) fun _ => isAudit_of_ofApi

end Affords

/-! ## Transitions happen once -/

/-- The tariff for one transition: its audit line has to be paid with the update that
made it. -/
def transitionTariff (transition : Transition) : Tariff workers where
  cost
    | .audit _ fields => if transitionOf fields = some transition then 1 else 0
    | _ => 0
  gain
    | .database (.openQuestion config uuid ask now), reply =>
      if (Statement.openQuestion config uuid ask now).transition = some transition ∧
          reply.toOption.any (0 < ·.length) then 1 else 0
    | .database (.settleQuestion config uuid settle now), reply =>
      if (Statement.settleQuestion config uuid settle now).transition = some transition ∧
          reply.toOption.any (0 < ·.length) then 1 else 0
    | _, _ => 0

/-- The question has left the status of the transition behind. -/
def Cloud.isPast (cloud : Cloud) : Transition → Bool
  | (some id, some status) =>
    (cloud.record id).question.any fun row => status.rank < row.status.rank
  | _ => false

/-- How often the audit trail tells of a transition. -/
def Cloud.told (cloud : Cloud) (transition : Transition) : ℕ :=
  cloud.transitions.count transition

theorem fair_transitionTariff (transition : Transition) :
    Fair (transitionTariff transition) 0 where
  free := by
    intro operation haudit
    cases operation with
    | audit => cases haudit
    | _ => rfl
  quiet := by
    intro chainId fields hfields
    simp [transitionTariff, hfields]
  opens := by
    intro config uuid ask now chainId fields changed hchanged hfields
    simp [transitionTariff, hfields, Statement.transition, Except.toOption, hchanged]
  settles := by
    intro config uuid settle now chainId fields changed hchanged hfields
    simp [transitionTariff, hfields, Statement.transition, Except.toOption, hchanged]
  worth := fun _ _ _ => Nat.zero_le _

section Account

variable {operation : Operation} {node : NodeAnswer} {before after : Cloud}
variable {reply : operation.Reply} {transition : Transition}

/-- What is past stays past: rows are deleted only as drafts. -/
theorem exec_past (hexec : Cloud.exec network operation node before = some (reply, after))
    (hpast : before.isPast transition = true) : after.isPast transition = true := by
  obtain ⟨_ | id, _ | status⟩ := transition
  · cases hpast
  · cases hpast
  · cases hpast
  rw [Cloud.isPast, Option.any_eq_true] at hpast ⊢
  obtain ⟨row, hrow, hrank⟩ := hpast
  rw [decide_eq_true_eq] at hrank
  obtain hsame | ⟨statement, rfl, heffect⟩ := exec_record id hexec
  · rw [hsame]
    exact ⟨row, hrow, decide_eq_true hrank⟩
  rw [heffect]
  have hchange := Statement.rowChange id hrow statement
  generalize (statement.onRecord id (before.record id)).question = changed at hchange
  cases hchange with
  | keeps => exact ⟨row, rfl, decide_eq_true hrank⟩
  | publishes => exact ⟨_, rfl, decide_eq_true hrank⟩
  | opens hhits =>
      rw [(inStatus_iff.mp hhits).2.2] at hrank
      exact absurd hrank (Nat.not_lt_zero _)
  | settles hhits =>
      refine ⟨_, rfl, decide_eq_true ?_⟩
      rw [(inStatus_iff.mp hhits).2.2] at hrank
      calc status.rank < 1 := hrank
        _ < 2 := Nat.lt_succ_self 1
        _ = _ := (statusForEvent_settled_rank _).symm
  | deletes hhits =>
      rw [(doomed_iff.mp hhits).2.1] at hrank
      exact absurd hrank (Nat.not_lt_zero _)

/-- An update that found its row has moved it past. -/
theorem past_of_moved {config : IndexerConfig} {uuid : Text} {status : QuestionStatus}
    {set : Question → Question}
    (hmoved : 0 < ((before.database.questions.filter
      (inStatus config uuid status)).map Question.id).length)
    (hrecord : (after.record uuid).question = (before.record uuid).question.map fun row =>
      if inStatus config uuid status row then set row else row)
    (hset : ∀ row, status.rank < (set row).status.rank) :
    before.isPast (some uuid, some status) = false ∧
      after.isPast (some uuid, some status) = true := by
  obtain ⟨row, hrow, hhits⟩ := (hits_iff before.database.consistent).mp hmoved
  have hbefore : (before.record uuid).question = some row := hrow
  constructor
  · rw [Cloud.isPast, hbefore, Option.any_some, decide_eq_false_iff_not,
      (inStatus_iff.mp hhits).2.2]
    exact lt_irrefl _
  · rw [Cloud.isPast, hrecord, hbefore, Option.map_some, if_pos hhits, Option.any_some,
      decide_eq_true_eq]
    exact hset row

theorem exec_gains (hexec : Cloud.exec network operation node before = some (reply, after))
    (hgain : (transitionTariff transition).gain operation reply ≠ 0) :
    (transitionTariff transition).gain operation reply = 1 ∧
      before.isPast transition = false ∧ after.isPast transition = true := by
  have hboth : ∀ {condition : Prop} [Decidable condition],
      (if condition then 1 else 0) ≠ 0 → condition ∧
        (if condition then 1 else 0) = 1 := by
    intro condition _ hne
    by_cases hholds : condition
    · exact ⟨hholds, if_pos hholds⟩
    · exact absurd (if_neg hholds) hne
  cases operation with
  | database statement =>
      cases statement with
      | openQuestion config uuid ask now =>
          obtain ⟨⟨htransition, hfound⟩, hone⟩ := hboth hgain
          refine ⟨hone, ?_⟩
          obtain ⟨rfl, htables, _⟩ | ⟨rfl, _, _⟩ := exec_database hexec
          · cases htransition
            apply past_of_moved (of_decide_eq_true hfound)
            · rw [Cloud.record, htables,
                Statement.recordOf_effect before.database.consistent]
              rfl
            · exact fun row => Nat.zero_lt_one
          · cases hfound
      | settleQuestion config uuid settle now =>
          obtain ⟨⟨htransition, hfound⟩, hone⟩ := hboth hgain
          refine ⟨hone, ?_⟩
          obtain ⟨rfl, htables, _⟩ | ⟨rfl, _, _⟩ := exec_database hexec
          · cases htransition
            apply past_of_moved (of_decide_eq_true hfound)
            · rw [Cloud.record, htables,
                Statement.recordOf_effect before.database.consistent]
              rfl
            · intro row
              change 1 < (statusForEvent (.settled settle.name)).rank
              rw [statusForEvent_settled_rank]
              exact Nat.lt_succ_self 1
          · cases hfound
      | _ => exact absurd rfl hgain
  | _ => exact absurd rfl hgain

/-- Only its audit line tells of a transition. -/
theorem exec_told (hexec : Cloud.exec network operation node before = some (reply, after)) :
    after.told transition =
      before.told transition + (transitionTariff transition).cost operation := by
  cases haudit : operation.isAudit with
  | false =>
      have hfree := (fair_transitionTariff transition).free operation haudit
      rw [Cloud.told, Cloud.transitions, (exec_framed hexec).audits haudit, hfree]
      rfl
  | true =>
      cases operation with
      | audit chainId fields =>
          cases hexec
          simp only [Cloud.told, Cloud.transitions, Cloud.audit,
            List.filterMap_append, List.count_append, transitionTariff]
          cases hfields : transitionOf fields with
          | none => simp [hfields]
          | some other =>
              by_cases hsame : other = transition <;> simp [hfields, hsame]
      | _ => cases haudit

/-- Each transition is told of at most once it has happened. -/
theorem account_transition (network : Network) (runtime : Runtime)
    (transition : Transition) :
    (system network runtime).Account (transitionTariff transition)
      (fun cloud => (cloud.isPast transition).toNat)
      (fun cloud => cloud.told transition) where
  yields := workers_yield
  earns := by
    intro operation node before reply after hexec
    by_cases hgain : (transitionTariff transition).gain operation reply = 0
    · rw [hgain]
      cases hpast : before.isPast transition with
      | false => exact Nat.zero_le _
      | true =>
          rw [exec_past hexec hpast]
          exact le_rfl
    · obtain ⟨hone, hbefore, hafter⟩ := exec_gains hexec hgain
      rw [hone, hbefore, hafter]
      exact le_rfl
  spends := fun hexec => (exec_told hexec).le
  event := by
    intro event state
    cases event with
    | mine chainId blocks => exact ⟨le_rfl, le_rfl⟩

/-- The tariff for the counts of passes: each line of a transition is worth one. -/
def countTariff : Tariff workers where
  cost := fun _ => 0
  gain
    | .audit _ fields, _ => if (transitionOf fields).isSome then 1 else 0
    | _, _ => 0

theorem fair_countTariff : Fair countTariff 1 where
  free := fun _ _ => rfl
  quiet := fun _ _ _ => rfl
  opens := fun _ _ _ _ _ _ _ _ _ => Nat.zero_le _
  settles := fun _ _ _ _ _ _ _ _ _ => Nat.zero_le _
  worth := by
    intro chainId fields hsome
    simp [countTariff, hsome]

theorem account_counts (network : Network) (runtime : Runtime) :
    (system network runtime).Account countTariff
      (fun cloud => cloud.transitions.length) (fun _ => 0) where
  yields := workers_yield
  earns := by
    intro operation node before reply after hexec
    cases haudit : operation.isAudit with
    | false =>
        have hsame : after.transitions = before.transitions := by
          rw [Cloud.transitions, (exec_framed hexec).audits haudit]
          rfl
        cases operation with
        | audit => cases haudit
        | _ => exact (congrArg List.length hsame).ge
    | true =>
        cases operation with
        | audit chainId fields =>
            cases hexec
            simp only [Cloud.transitions, Cloud.audit,
              List.filterMap_append, List.length_append, countTariff]
            cases hfields : transitionOf fields <;> simp [hfields]
        | _ => cases haudit
  spends := fun _ => Nat.zero_le _
  event := by
    intro event state
    cases event with
    | mine chainId blocks => exact ⟨le_rfl, le_rfl⟩

end Account

/-- No transition is told of twice, and passes count no more than is told. -/
theorem transitions_counted_once (network : Network) (runtime : Runtime) (cloud : Cloud)
    (schedule : List WorkerSchedule) :
    let pool := (system network runtime).run (idle cloud) schedule
    pool.state.transitions.Nodup ∧ counted pool ≤ pool.state.transitions.length := by
  intro pool
  constructor
  · rw [List.nodup_iff_count_le_one]
    intro transition
    have hstart : System.Covered (transitionTariff transition)
        (fun cloud : Cloud => (cloud.isPast transition).toNat)
        (fun cloud => cloud.told transition) (Label.Covers 0) (idle cloud) [] :=
      ⟨.nil, Nat.zero_le _⟩
    obtain ⟨credits, _, hcovered⟩ := hstart.run
      (account_transition network runtime transition)
      (affords_program (fair_transitionTariff transition)) schedule
    calc pool.state.transitions.count transition
        ≤ credits.sum + pool.state.told transition := Nat.le_add_left _ _
      _ ≤ (pool.state.isPast transition).toNat := hcovered
      _ ≤ 1 := Bool.toNat_le _
  · have hstart : System.Covered countTariff
        (fun cloud : Cloud => cloud.transitions.length) (fun _ => 0) (Label.Covers 1)
        (idle cloud) [] := ⟨.nil, Nat.zero_le _⟩
    obtain ⟨credits, hthreads, hcovered⟩ := hstart.run (account_counts network runtime)
      (affords_program fair_countTariff) schedule
    have hcounts : List.Forall₂ (fun (credit : ℕ)
        (thread : Thread workers Label.Failure Label.Result) =>
          thread.label.counted thread.program ≤ credit) credits pool.threads := by
      apply hthreads.imp
      rintro credit ⟨label, program⟩ haffords
      cases label with
      | reconcile chainId limits now =>
          cases program with
          | ret result =>
              have hworth : 1 * result.transitionsApplied ≤ credit := haffords
              rwa [Nat.one_mul] at hworth
          | _ => exact Nat.zero_le _
      | _ => exact Nat.zero_le _
    have hsum : counted pool ≤ credits.sum := by
      apply List.Forall₂.sum_le_sum
      rw [List.forall₂_map_left_iff]
      exact hcounts.flip
    calc counted pool ≤ credits.sum := hsum
      _ ≤ pool.state.transitions.length := hcovered

end BuyAnAnswer.Workers
