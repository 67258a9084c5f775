import BuyAnAnswer.Shared.RefCodec
import BuyAnAnswer.Web.OwnChain

/-!
# A question is paid once

Each ask that is before the wallet, pending or mined is one claim on its question.
A retry adds a second claim where it does not wait for the first to fail, and a run
that was superseded while it simulates or signs still asks the wallet.
-/

namespace BuyAnAnswer.Web

open Text Shared

/-- The ask may still be mined, or was. -/
def AskTransaction.isLive (id : Text) (transaction : AskTransaction) : Bool :=
  transaction.questionId = id && transaction.success ≠ some false

/-- A mined ask that carries the reference of a question. -/
def AskTransaction.Pays (id : Text) (transaction : AskTransaction) : Prop :=
  uuidToRef id = .ok transaction.ask.ref ∧ transaction.success = some true

instance (id : Text) : DecidablePred (AskTransaction.Pays id) :=
  fun _ => inferInstanceAs (Decidable (_ ∧ _))

namespace AskHook

/-- The asks of a question that are before the wallet, pending or mined. -/
def claims (hook : AskHook) (id : Text) : ℕ :=
  hook.runs.countP (fun run => run.job.isSending id) +
    hook.transactions.countP (AskTransaction.isLive id)

/-- No minted question is paid twice, and no superseded run asked the wallet. -/
def PaysOnce (hook : AskHook) : Prop :=
  (∀ id ∈ hook.ids, hook.transactions.countP (fun transaction =>
    transaction.Pays id) ≤ 1) ∧
      ∀ request ∈ hook.requests, request.isCurrent = true

/-- The actions that supersede the current run. -/
def supersedes : AskStep → Bool
  | .submit _ | .retry | .reset | .unmount => true
  | _ => false

/-- No run is superseded after its last look at the token, and no question is paid
again while an ask of it is before the wallet, pending or mined. -/
structure Careful (hook : AskHook) (action : AskStep) : Prop where
  unguarded : supersedes action = true → ∀ run ∈ hook.runs, run.job.isUnguarded = false
  retry : action = .retry → ∀ id ∈ hook.pendingId, hook.claims id = 0

instance (hook : AskHook) (action : AskStep) : Decidable (hook.Careful action) :=
  decidable_of_iff
    ((supersedes action = true → ∀ run ∈ hook.runs, run.job.isUnguarded = false) ∧
      (action = .retry → ∀ id ∈ hook.pendingId, hook.claims id = 0))
    ⟨fun hboth => ⟨hboth.1, hboth.2⟩,
      fun hcareful => ⟨hcareful.unguarded, hcareful.retry⟩⟩

instance (hook : AskHook) : Decidable hook.PaysOnce :=
  inferInstanceAs (Decidable (_ ∧ _))

/-- One claim at most on each question, and none where a run may still make it. -/
structure Claimed (hook : AskHook) : Prop where
  tokens : Component.Tokens AskRun.token hook.toComponent
  unguarded : hook.Every fun run => run.job.isUnguarded = true → run.token = hook.runToken
  claims_le : ∀ id, hook.claims id ≤ 1
  unsent : hook.Every fun run => run.token = hook.runToken →
    ∀ id, run.job.isUnsent id = true → hook.claims id = 0
  requests : ∀ request ∈ hook.requests, request.isCurrent = true

section Claims

variable {hook next : AskHook} {index token : ℕ} {payment : Payment} {action : AskStep}
variable {stage : AskStage} {reply : AskReply} {id : Text} {run old : AskRun}

theorem claims_congr (hruns : next.runs = hook.runs)
    (htransactions : next.transactions = hook.transactions) :
    next.claims id = hook.claims id := by
  rw [claims, claims, hruns, htransactions]

/-- What the claims of a question become when one run changes. -/
theorem claims_set (hrun : hook.runs[index]? = some old)
    (hruns : next.runs = hook.runs.set index run)
    (htransactions : next.transactions = hook.transactions) :
    next.claims id + (if old.job.isSending id = true then 1 else 0) =
      hook.claims id + if run.job.isSending id = true then 1 else 0 := by
  have hcount := @countP_set_add _ _ _ (fun run : AskRun => run.job.isSending id) run _ hrun
  rw [claims, claims, hruns, htransactions]
  omega

/-- A step that changes no run, and adds no claim. -/
theorem Claimed.of_runs (hclaimed : hook.Claimed) (hruns : next.runs = hook.runs)
    (htoken : next.runToken = hook.runToken)
    (hclaims : ∀ id, next.claims id ≤ hook.claims id)
    (hrequests : next.requests = hook.requests) : next.Claimed where
  tokens := hclaimed.tokens.of_eq hruns htoken
  unguarded := by
    intro run hrun
    rw [htoken]
    exact hclaimed.unguarded run (hruns ▸ hrun)
  claims_le := fun id => (hclaims id).trans (hclaimed.claims_le id)
  unsent := by
    intro run hrun hcurrent id hunsent
    rw [htoken] at hcurrent
    have hnone := hclaimed.unsent run (hruns ▸ hrun) hcurrent id hunsent
    exact Nat.le_zero.mp (hnone ▸ hclaims id)
  requests := by
    rw [hrequests]
    exact hclaimed.requests

/-- A run that goes on without a new claim. -/
theorem Claimed.put (hclaimed : hook.Claimed) (hrun : hook.runs[index]? = some old)
    (hruns : next.runs = hook.runs.set index run) (htoken : run.token = old.token)
    (hcurrent : next.runToken = hook.runToken)
    (hguard : run.job.isUnguarded = true → run.token = hook.runToken)
    (hunsent : ∀ id, run.job.isUnsent id = true → old.job.isUnsent id = true)
    (hclaims : ∀ id, next.claims id ≤ hook.claims id)
    (hrequests : next.requests = hook.requests) : next.Claimed where
  tokens := (hclaimed.tokens.put hrun htoken).of_eq hruns hcurrent
  unguarded := by
    intro other hother
    rw [hruns] at hother
    rw [hcurrent]
    obtain hold | rfl := mem_set hother
    · exact hclaimed.unguarded other hold
    · exact hguard
  claims_le := fun id => (hclaims id).trans (hclaimed.claims_le id)
  unsent := by
    intro other hother hotherCurrent id hotherUnsent
    rw [hruns] at hother
    rw [hcurrent] at hotherCurrent
    have hnone : hook.claims id = 0 := by
      obtain hold | rfl := mem_set hother
      · exact hclaimed.unsent other hold hotherCurrent id hotherUnsent
      · exact hclaimed.unsent.at hrun (htoken ▸ hotherCurrent) id (hunsent id hotherUnsent)
    exact Nat.le_zero.mp (hnone ▸ hclaims id)
  requests := by
    rw [hrequests]
    exact hclaimed.requests

/-- A run that asks the wallet claims its question. -/
theorem Claimed.ask (hclaimed : hook.Claimed) {functionName : String}
    {chainId : Option ℕ}
    (hrun : hook.runs[index]? = some { token, job := .paying payment stage })
    (hunsent : stage.isUnsent = true) (hguard : stage.isUnguarded = true)
    (hruns : next.runs = hook.runs.set index
      { token, job := .paying payment (.sending functionName chainId) })
    (hcurrent : next.runToken = hook.runToken)
    (hrequests : next.requests = hook.requests ++ [⟨payment.id, token = hook.runToken⟩])
    (htransactions : next.transactions = hook.transactions) : next.Claimed := by
  have htoken : token = hook.runToken := hclaimed.unguarded.at hrun hguard
  have hnone : hook.claims payment.id = 0 :=
    hclaimed.unsent.at hrun htoken payment.id (by simp [hunsent])
  have hsending : stage.isSending = false := AskStage.isSending_of_isUnsent hunsent
  have hasked : (AskStage.sending functionName chainId).isSending = true := rfl
  have hclaims (id : Text) : next.claims id =
      hook.claims id + if payment.id = id then 1 else 0 := by
    have hset := @claims_set hook next index id _ _ hrun hruns htransactions
    simpa [hsending, hasked] using hset
  have hkept : AskRun.token { token, job := .paying payment (.sending functionName chainId) } =
      AskRun.token { token, job := .paying payment stage } := rfl
  refine ⟨(hclaimed.tokens.put hrun hkept).of_eq hruns hcurrent, ?_, ?_, ?_, ?_⟩
  · intro other hother
    rw [hruns] at hother
    rw [hcurrent]
    obtain hold | rfl := mem_set hother
    · exact hclaimed.unguarded other hold
    · exact Bool.noConfusion
  · intro id
    rw [hclaims id]
    split
    · next hid => rw [← hid, hnone]
    · exact hclaimed.claims_le id
  · -- the only current run is the one that now asks
    intro other hother hotherCurrent id hotherUnsent
    rw [hruns] at hother
    rw [hcurrent] at hotherCurrent
    obtain ⟨place, hplace⟩ := List.mem_iff_getElem?.mp hother
    by_cases hsame : index = place
    · obtain rfl := hsame
      rw [List.getElem?_set_self (List.getElem?_eq_some_iff.mp hrun).1] at hplace
      obtain rfl := Option.some_inj.mp hplace
      exact absurd (AskJob.isUnsent_paying.mp hotherUnsent).2 Bool.false_ne_true
    · rw [List.getElem?_set_ne hsame] at hplace
      exact absurd (hclaimed.tokens.index_eq hrun hplace (htoken.trans hotherCurrent.symm))
        hsame
  · intro request hrequest
    rw [hrequests] at hrequest
    obtain hold | hnew := List.mem_append.mp hrequest
    · exact hclaimed.requests request hold
    · rw [List.mem_singleton.mp hnew]
      exact decide_eq_true htoken

/-- The reply to a payment adds at most one claim, and only where there is none. -/
theorem Claimed.resumePaying (hclaimed : hook.Claimed)
    (hrun : hook.runs[index]? = some { token, job := .paying payment stage }) :
    (hook.resumePaying index token payment stage reply).Claimed := by
  obtain ⟨hframe, hmoves⟩ := @resumePaying_moves hook index token payment stage reply
  generalize hook.resumePaying index token payment stage reply = next at hframe hmoves
  cases hmoves with
  | stay hreply hruns hrequests htransactions =>
      exact hclaimed.of_runs hruns hframe.runToken
        (fun id => (claims_congr hruns htransactions).le) hrequests
  | finish hreply hruns hrequests htransactions =>
      refine hclaimed.put hrun hruns rfl hframe.runToken Bool.noConfusion
        (fun id => Bool.noConfusion) (fun id => ?_) hrequests
      have hset := @claims_set hook next index id _ _ hrun hruns htransactions
      simp only [AskJob.isSending_finished, Bool.false_eq_true, if_false] at hset
      omega
  | goOn later hreply hsending hunsent hguard hruns hrequests htransactions =>
      refine hclaimed.put hrun hruns rfl hframe.runToken ?_ ?_ (fun id => ?_) hrequests
      · intro hlater
        obtain htoken | hstage := hguard hlater
        · exact htoken
        · have htoken : token = hook.runToken := hclaimed.unguarded.at hrun hstage
          exact htoken
      · intro id hlater
        rw [AskJob.isUnsent_paying] at hlater ⊢
        exact ⟨hlater.1, hunsent hlater.2⟩
      · have hset := @claims_set hook next index id _ _ hrun hruns htransactions
        simp only [AskJob.isSending_paying, hsending, Bool.false_eq_true, and_false,
          if_false] at hset
        omega
  | ask functionName chainId hreply hunsent hguard hruns hrequests htransactions =>
      exact hclaimed.ask hrun hunsent hguard hruns hframe.runToken hrequests htransactions
  | send functionName chainId job hreply hstage hjob hruns hrequests htransactions =>
      have hquiet : job.isUnguarded = false ∧ (∀ id, job.isUnsent id = false) ∧
          ∀ id, job.isSending id = false := by
        obtain rfl | ⟨hash, rfl⟩ := hjob
        · exact ⟨rfl, fun id => rfl, fun id => rfl⟩
        · exact ⟨rfl, fun id => by simp [AskJob.isUnsent, AskStage.isUnsent],
            fun id => by simp [AskJob.isSending, AskStage.isSending]⟩
      refine hclaimed.put hrun hruns rfl hframe.runToken ?_ ?_ (fun id => ?_) hrequests
      · rw [hquiet.1]
        exact Bool.noConfusion
      · intro id
        rw [hquiet.2.1 id]
        exact Bool.noConfusion
      · -- the request becomes a transaction
        have hcount := @countP_set_add _ _ _ (fun run : AskRun => run.job.isSending id)
          { token, job } _ hrun
        rw [claims, claims, hruns, htransactions, send]
        simp only [hquiet.2.2 id, hstage, AskJob.isSending_paying, AskStage.isSending,
          Bool.false_eq_true, if_false, and_true] at hcount
        rw [List.countP_append, List.countP_singleton, AskTransaction.isLive]
        simp only [ne_eq, reduceCtorEq, not_false_eq_true, decide_true, Bool.and_true,
          decide_eq_true_eq]
        omega

/-- Another run starts, which claims nothing yet. -/
theorem Claimed.start {job : AskJob} (hclaimed : hook.Claimed)
    (htokens : Component.Tokens AskRun.token next.toComponent)
    (htoken : next.runToken = hook.runToken + 1)
    (hruns : next.Every fun run => run ∈ hook.runs ∨ run = ⟨hook.runToken + 1, job⟩)
    (hquiet : next.Every fun run => run.job.isUnguarded = false)
    (hunsent : ∀ id, job.isUnsent id = true → hook.claims id = 0)
    (hclaims : ∀ id, next.claims id ≤ hook.claims id)
    (hrequests : next.requests = hook.requests) : next.Claimed where
  tokens := htokens
  unguarded := by
    intro run hrun hunguarded
    rw [hquiet run hrun] at hunguarded
    cases hunguarded
  claims_le := fun id => (hclaims id).trans (hclaimed.claims_le id)
  unsent := by
    intro run hrun hcurrent id hrunUnsent
    rw [htoken] at hcurrent
    have hnone : hook.claims id = 0 := by
      obtain hold | rfl := hruns run hrun
      · have hle := hclaimed.tokens.le run hold
        omega
      · exact hunsent id hrunUnsent
    exact Nat.le_zero.mp (hnone ▸ hclaims id)
  requests := by
    rw [hrequests]
    exact hclaimed.requests

/-- The current run is superseded, and none takes its place. -/
theorem Claimed.supersede (hclaimed : hook.Claimed)
    (hquiet : hook.Every fun run => run.job.isUnguarded = false)
    (hruns : next.runs = hook.runs) (htoken : next.runToken = hook.runToken + 1)
    (htransactions : next.transactions = hook.transactions)
    (hrequests : next.requests = hook.requests) : next.Claimed := by
  have hevery : next.Every fun run => run ∈ hook.runs :=
    fun run hrun => hruns ▸ hrun
  refine @start _ _ .finished hclaimed (hclaimed.tokens.supersede.of_eq hruns htoken) htoken
    (fun run hrun => .inl (hevery run hrun)) (fun run hrun => hquiet run (hevery run hrun))
    (fun id => Bool.noConfusion) (fun id => ?_) hrequests
  exact (claims_congr hruns htransactions).le

/-- The current run is superseded by a new one. -/
theorem Claimed.spawn {job : AskJob} (hclaimed : hook.Claimed)
    (hquiet : hook.Every fun run => run.job.isUnguarded = false)
    (hruns : next.runs = hook.runs ++ [⟨hook.runToken + 1, job⟩])
    (htoken : next.runToken = hook.runToken + 1)
    (hguard : job.isUnguarded = false) (hsending : ∀ id, job.isSending id = false)
    (hunsent : ∀ id, job.isUnsent id = true → hook.claims id = 0)
    (htransactions : next.transactions = hook.transactions)
    (hrequests : next.requests = hook.requests) : next.Claimed := by
  have hevery : next.Every fun run => run ∈ hook.runs ∨ run = ⟨hook.runToken + 1, job⟩ := by
    intro run hrun
    rw [hruns] at hrun
    exact (List.mem_append.mp hrun).imp_right List.mem_singleton.mp
  have hstarted : AskRun.token ⟨hook.runToken + 1, job⟩ = hook.runToken + 1 := rfl
  refine hclaimed.start ((hclaimed.tokens.spawn hstarted).of_eq hruns htoken) htoken hevery
    (fun run hrun => ?_) hunsent (fun id => ?_) hrequests
  · obtain hold | rfl := hevery run hrun
    · exact hquiet run hold
    · exact hguard
  · rw [claims, claims, hruns, htransactions, List.countP_append, List.countP_singleton]
    simp [hsending id]

/-- The current run starts over. -/
theorem Claimed.renew {job : AskJob} (hclaimed : hook.Claimed)
    (hrun : hook.runs[index]? = some old) (hcurrent : old.token = hook.runToken)
    (hquiet : old.job.isUnguarded = false)
    (hruns : next.runs = hook.runs.set index ⟨hook.runToken + 1, job⟩)
    (htoken : next.runToken = hook.runToken + 1)
    (hguard : job.isUnguarded = false) (hsending : ∀ id, job.isSending id = false)
    (hunsent : ∀ id, job.isUnsent id = true → hook.claims id = 0)
    (htransactions : next.transactions = hook.transactions)
    (hrequests : next.requests = hook.requests) : next.Claimed := by
  have hevery : next.Every fun run => run ∈ hook.runs ∨ run = ⟨hook.runToken + 1, job⟩ := by
    intro run hmem
    rw [hruns] at hmem
    exact mem_set hmem
  have hstarted : AskRun.token ⟨hook.runToken + 1, job⟩ = hook.runToken + 1 := rfl
  refine hclaimed.start ((hclaimed.tokens.renew hstarted).of_eq hruns htoken) htoken hevery
    (fun run hmem => ?_) hunsent (fun id => ?_) hrequests
  · obtain hold | rfl := hevery run hmem
    · -- only the current run could be unguarded, and that is the one that starts over
      refine Bool.eq_false_iff.mpr fun hunguarded => ?_
      have hother := hclaimed.unguarded run hold hunguarded
      obtain ⟨place, hplace⟩ := List.mem_iff_getElem?.mp hold
      obtain rfl := hclaimed.tokens.index_eq hrun hplace (hcurrent.trans hother.symm)
      obtain rfl := Option.some_inj.mp (hrun.symm.trans hplace)
      exact absurd hunguarded (Bool.eq_false_iff.mp hquiet)
    · exact hguard
  · have hset := @claims_set hook next index id _ _ hrun hruns htransactions
    simp only [hsending id, Bool.false_eq_true, if_false] at hset
    omega

end Claims

/-! ## Every step -/

section Steps

variable {hook : AskHook} {index token : ℕ} {input : AskInput} {account : Account}
variable {action : AskStep} {reply : AskReply} {id : Text} {job : AskJob}

theorem Opens.isUnguarded (hopens : Opens account id job) : job.isUnguarded = false := by
  obtain rfl | ⟨payment, -, -, -, -, rfl⟩ := hopens
  · rfl
  · rfl

theorem Opens.isSending (hopens : Opens account id job) (other : Text) :
    job.isSending other = false := by
  obtain rfl | ⟨payment, -, -, -, -, rfl⟩ := hopens
  · rfl
  · simp [AskJob.isSending, AskStage.isSending]

theorem Opens.eq_of_isUnsent (hopens : Opens account id job) {other : Text}
    (hunsent : job.isUnsent other = true) : id = other := by
  obtain rfl | ⟨payment, rfl, -, -, -, rfl⟩ := hopens
  · cases hunsent
  · exact (AskJob.isUnsent_paying.mp hunsent).1

/-- Nothing claims a question that is not minted yet. -/
theorem claims_fresh (hgrounded : hook.Grounded) (hfresh : id ∉ hook.ids) :
    hook.claims id = 0 := by
  rw [claims, Nat.add_eq_zero_iff, List.countP_eq_zero, List.countP_eq_zero]
  constructor
  · intro run hrun hsending
    have hpaid := hgrounded.runs run hrun
    cases hjob : run.job with
    | paying payment stage =>
        rw [hjob, AskJob.isSending_paying] at hsending
        exact hfresh (hsending.1 ▸ (hpaid payment stage hjob).minted)
    | creating input account => rw [hjob] at hsending; cases hsending
    | finished => rw [hjob] at hsending; cases hsending
  · intro transaction htransaction hlive
    rw [AskTransaction.isLive, Bool.and_eq_true, decide_eq_true_eq] at hlive
    exact hfresh (hlive.1 ▸ (hgrounded.transactions transaction htransaction).1)

theorem Claimed.submit (hclaimed : hook.Claimed)
    (hquiet : hook.Every fun run => run.job.isUnguarded = false) :
    (hook.submit input).Claimed := by
  obtain ⟨shown, hsubmit | hsubmit⟩ := @submit_spec hook input
  · rw [hsubmit]
    exact hclaimed.supersede hquiet rfl rfl rfl rfl
  · rw [hsubmit]
    exact hclaimed.spawn hquiet rfl rfl rfl (fun _ => rfl) (fun _ => Bool.noConfusion) rfl rfl

/-- The payment of a minted question starts with no claim on it. -/
theorem Claimed.resumeCreating (hclaimed : hook.Claimed) (hgrounded : hook.Grounded)
    (hrun : hook.runs[index]? = some { token, job := .creating input account }) :
    (hook.resumeCreating index token input account reply).Claimed := by
  have hfinish (next : AskHook)
      (hruns : next.runs = hook.runs.set index { token, job := .finished })
      (htoken : next.runToken = hook.runToken)
      (htransactions : next.transactions = hook.transactions)
      (hrequests : next.requests = hook.requests) : next.Claimed := by
    refine hclaimed.put hrun hruns rfl htoken Bool.noConfusion
      (fun id => Bool.noConfusion) (fun id => ?_) hrequests
    have hset := @claims_set hook next index id _ _ hrun hruns htransactions
    simp only [AskJob.isSending_finished, Bool.false_eq_true, if_false] at hset
    omega
  obtain ⟨shown, heq⟩ | ⟨shown, heq⟩ | ⟨id, -, -, hfresh, hminted⟩ :=
    @resumeCreating_spec hook index token reply account input
  · rw [heq]
    exact hclaimed.of_runs rfl rfl (fun id => (claims_congr rfl rfl).le) rfl
  · rw [heq]
    exact hfinish _ rfl rfl rfl rfl
  · obtain heq | ⟨htoken, job, shown, hopens, heq⟩ := hminted
    · rw [heq]
      exact hfinish _ rfl rfl rfl rfl
    · rw [heq]
      refine hclaimed.renew hrun htoken rfl rfl rfl hopens.isUnguarded hopens.isSending
        (fun other hunsent => ?_) rfl rfl
      rw [← hopens.eq_of_isUnsent hunsent]
      exact claims_fresh hgrounded hfresh

/-- Being mined, or reverted, adds no claim. -/
theorem claims_mine {hash : ℕ} {success : Bool} :
    (hook.step (.mine hash success)).claims id ≤ hook.claims id := by
  refine Nat.add_le_add_left (countP_modify_le fun transaction hlive => ?_) _
  simp only [AskTransaction.isLive, Bool.and_eq_true, decide_eq_true_eq] at hlive ⊢
  refine ⟨hlive.1, fun hreverted => hlive.2 ?_⟩
  rw [hreverted]
  rfl

/-- A careful step keeps one claim at most on each question. -/
theorem Claimed.step (hclaimed : hook.Claimed) (hgrounded : hook.Grounded)
    (hcareful : hook.Careful action) : (hook.step action).Claimed := by
  have hsame (next : AskHook) (hruns : next.runs = hook.runs)
      (htoken : next.runToken = hook.runToken)
      (htransactions : next.transactions = hook.transactions)
      (hrequests : next.requests = hook.requests) : next.Claimed :=
    hclaimed.of_runs hruns htoken (fun id => (claims_congr hruns htransactions).le) hrequests
  cases action with
  | switch wallet => exact hsame _ rfl rfl rfl rfl
  | render => exact hsame _ rfl rfl rfl rfl
  | submit input => exact hclaimed.submit (hcareful.unguarded rfl)
  | retry =>
      have hquiet := hcareful.unguarded rfl
      obtain hretry | ⟨input, hretry⟩ | ⟨id, job, shown, hid, hopens, hretry⟩ :=
        @retry_spec hook
      · rw [AskHook.step, hretry]
        exact hclaimed
      · rw [AskHook.step, hretry]
        exact hclaimed.submit hquiet
      · rw [AskHook.step, hretry]
        refine hclaimed.spawn hquiet rfl rfl hopens.isUnguarded hopens.isSending
          (fun other hunsent => ?_) rfl rfl
        rw [← hopens.eq_of_isUnsent hunsent]
        exact hcareful.retry rfl id hid
  | recheck => exact hclaimed
  | reset => exact hclaimed.supersede (hcareful.unguarded rfl) rfl rfl rfl rfl
  | unmount => exact hclaimed.supersede (hcareful.unguarded rfl) rfl rfl rfl rfl
  | resume index reply =>
      rw [AskHook.step]
      split
      · exact hclaimed
      · next token job hrun =>
        split
        · exact hclaimed.resumeCreating hgrounded hrun
        · exact hclaimed.resumePaying hrun
        · exact hclaimed
  | mine hash success =>
      exact hclaimed.of_runs rfl rfl (fun id => claims_mine) rfl

theorem claimed_idle (account : Account) : (idle account).Claimed where
  tokens := ⟨fun _ hrun => absurd hrun List.not_mem_nil, List.nodup_nil⟩
  unguarded := fun _ hrun => absurd hrun List.not_mem_nil
  claims_le := fun _ => Nat.zero_le _
  unsent := fun _ hrun => absurd hrun List.not_mem_nil
  requests := fun _ hrequest => absurd hrequest List.not_mem_nil

/-- A mined ask under the reference of a minted question claims that question. -/
theorem isLive_of_pays {transaction : AskTransaction} (hgrounded : hook.Grounded)
    (hid : id ∈ hook.ids) (htransaction : transaction ∈ hook.transactions)
    (hpays : transaction.Pays id) : transaction.isLive id = true := by
  obtain ⟨hminted, href⟩ := hgrounded.transactions transaction htransaction
  obtain ⟨uuid, rfl⟩ := (Uuid.isUuid_iff id).mp (hgrounded.ids_uuid id hid)
  obtain ⟨other, hother⟩ :=
    (Uuid.isUuid_iff transaction.questionId).mp (hgrounded.ids_uuid _ hminted)
  have hsame := (uuidToRef_eq_iff hpays.1).mp href
  rw [hother, Uuid.toLowerCase_text, Uuid.toLowerCase_text] at hsame
  simp [AskTransaction.isLive, hother, hsame, hpays.2]

theorem Claimed.paysOnce (hclaimed : hook.Claimed) (hgrounded : hook.Grounded) :
    hook.PaysOnce := by
  refine ⟨fun id hid => ?_, hclaimed.requests⟩
  calc hook.transactions.countP (fun transaction => transaction.Pays id)
      ≤ hook.transactions.countP (AskTransaction.isLive id) := by
        refine List.countP_mono_left fun transaction htransaction hpays => ?_
        exact isLive_of_pays hgrounded hid htransaction (of_decide_eq_true hpays)
    _ ≤ hook.claims id := Nat.le_add_left _ _
    _ ≤ 1 := hclaimed.claims_le id

end Steps

end AskHook

/-- In a run in which nothing is superseded after its last look at the token, and
nothing is retried while an ask of it may be mined, no question is paid twice and no
superseded run asks the wallet. -/
theorem question_paid_once (account : Account) (actions : List AskStep)
    (hcareful : Machine.Meets AskHook.step AskHook.Careful (.idle account) actions) :
    (Machine.run AskHook.step (.idle account) actions).PaysOnce := by
  obtain ⟨hgrounded, hclaimed⟩ := @Machine.run_invariant_of_meets _ _ _ _
    (fun hook => hook.Grounded ∧ hook.Claimed) _ _ hcareful
    ⟨AskHook.grounded_idle account, AskHook.claimed_idle account⟩
    fun hstep hinvariant => ⟨hinvariant.1.step, hinvariant.2.step hinvariant.1 hstep⟩
  exact hclaimed.paysOnce hgrounded

namespace Sample

/-- A question is minted, and its ask is sent from a sufficient allowance. -/
def askOnce : List AskStep := [
  .submit askInput, .resume 0 (.created question.id),
  .resume 0 (.balances 9000000 9000000), .resume 0 .done, .resume 0 .done]

/-- The same question is paid by the second run. -/
def askAgain : List AskStep := [
  .retry, .resume 1 (.balances 9000000 9000000), .resume 1 .done, .resume 1 .done]

/-- The first ask reverts, and the second is mined. -/
def askAfterRevert : List AskStep :=
  askOnce ++ [.mine 0 false, .resume 0 .done] ++ askAgain ++ [.mine 1 true]

/-- The receipt of the first ask is not seen in time, and both asks are mined. -/
def askAfterTimeout : List AskStep :=
  askOnce ++ [.resume 0 (.failed { isUserRejection := false, message := "timeout" })] ++
    askAgain ++ [.mine 0 true, .mine 1 true]

/-- The composer is reset while the permit is signed. -/
def resetWhileSigning : List AskStep := [
  .submit askInput, .resume 0 (.created question.id), .resume 0 (.balances 9000000 0),
  .reset, .resume 0 .done, .resume 0 .done]

end Sample

/-- A reverted ask is followed by one that is mined. -/
theorem question_paid_once_sample :
    (Machine.run AskHook.step (.idle (Sample.wallet BASE_SEPOLIA_CHAIN_ID))
      Sample.askAfterRevert).PaysOnce :=
  question_paid_once (Sample.wallet BASE_SEPOLIA_CHAIN_ID) Sample.askAfterRevert
    (by decide +kernel)

/-- A question is paid twice after a timeout, and a run that was reset asks the
wallet for its payment. -/
theorem question_paid_twice :
    (¬ ∀ (account : Account) (actions : List AskStep), ∀ id ∈
      (Machine.run AskHook.step (.idle account) actions).ids,
      (Machine.run AskHook.step (.idle account) actions).transactions.countP
        (fun transaction => transaction.Pays id) ≤ 1) ∧
    ¬ ∀ (account : Account) (actions : List AskStep), ∀ request ∈
      (Machine.run AskHook.step (.idle account) actions).requests,
      request.isCurrent = true := by
  constructor
  · intro hclaim
    have htwice := hclaim (Sample.wallet BASE_SEPOLIA_CHAIN_ID) Sample.askAfterTimeout
    exact absurd htwice (by decide +kernel)
  · intro hclaim
    have hasked := hclaim (Sample.wallet BASE_SEPOLIA_CHAIN_ID) Sample.resetWhileSigning
    exact absurd hasked (by decide +kernel)

end BuyAnAnswer.Web
