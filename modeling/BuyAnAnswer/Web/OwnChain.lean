import BuyAnAnswer.Web.AskAndPay
import BuyAnAnswer.Web.SettleAction

/-!
# Transactions on the chain of their question

A run takes its escrow from the chain that was rendered when it started, and the
wallet sends on the chain that it is on when it is asked.  A transaction is on the
chain of its question exactly if both were that chain.
-/

namespace BuyAnAnswer.Web

open Text Shared

/-! ## Settling -/

/-- The escrow of the question's chain, and the id that the question has there. -/
def SettleTransaction.Targets (transaction : SettleTransaction) (question : Question) :
    Prop :=
  transaction.chainId = question.chainId ∧
    escrowAddressFor (some question.chainId) = some transaction.address ∧
      question.onchainId.bind bigInt = some transaction.onchainId

instance (transaction : SettleTransaction) (question : Question) :
    Decidable (transaction.Targets question) :=
  inferInstanceAs (Decidable (_ ∧ _ ∧ _))

/-- The input of a question that is shown. -/
def SettleRunInput.Shows (input : SettleRunInput) (questions : List Question) : Prop :=
  ∃ question ∈ questions, runInput question input.preflight = some input

/-- A step that starts a run starts it for a question that is shown. -/
def SettleStep.Shows (questions : List Question) : SettleStep → Prop
  | .run input => input.Shows questions
  | _ => True

namespace SettleHook

variable (questions : List Question)

/-- Every transaction is for the chain of its question. -/
def OnOwnChain (hook : SettleHook) : Prop :=
  ∀ transaction ∈ hook.transactions, ∀ question ∈ questions,
    question.id = transaction.questionId → transaction.Targets question

instance (hook : SettleHook) : Decidable (hook.OnOwnChain questions) :=
  inferInstanceAs (Decidable (∀ transaction ∈ hook.transactions, ∀ question ∈ questions,
    question.id = transaction.questionId → transaction.Targets question))

/-- If the wallet sends a transaction, its run took the escrow of the question's
chain, and the wallet was on that chain when it was asked. -/
def SendsOnOwnChain (hook : SettleHook) (action : SettleStep) : Prop :=
  ∀ index reply run chainId, action = .resume index reply → reply.sends = true →
    hook.runs[index]? = some run → run.stage = .sending (some chainId) →
      ∀ question ∈ questions, question.id = run.input.questionId →
        run.chainId = question.chainId ∧ chainId = question.chainId

/-- Runs settle questions that are shown, in the escrow of the chain they took. -/
structure Grounded (hook : SettleHook) : Prop where
  runs : hook.Every fun run => run.input.Shows questions ∧
    escrowAddressFor (some run.chainId) = some run.escrow
  lastInput : ∀ input ∈ hook.lastInput, input.Shows questions

section Settle

variable {questions : List Question} {hook next : SettleHook} {kind : SettleKind}
variable {index : ℕ} {run : SettleRun} {input : SettleRunInput} {action : SettleStep}

theorem grounded_idle (account : Account) : (idle account).Grounded questions where
  runs := fun _ hrun => absurd hrun List.not_mem_nil
  lastInput := fun _ hinput => by cases hinput

theorem Grounded.execute (hgrounded : hook.Grounded questions)
    (hshows : input.Shows questions) : (hook.execute input).Grounded questions := by
  obtain ⟨-, hlast, hruns⟩ := @execute_spec hook input
  refine ⟨?_, by rw [hlast]; exact hgrounded.lastInput⟩
  intro run hrun
  obtain hruns | ⟨started, rfl, hescrow, hruns⟩ := hruns
  · rw [hruns] at hrun
    exact hgrounded.runs run hrun
  · rw [hruns] at hrun
    obtain hold | hnew := List.mem_append.mp hrun
    · exact hgrounded.runs run hold
    · rw [List.mem_singleton.mp hnew]
      exact ⟨hshows, hescrow⟩

theorem Grounded.step (haction : action.Shows questions)
    (hgrounded : hook.Grounded questions) : (hook.step kind action).Grounded questions := by
  cases action with
  | switch wallet => exact ⟨hgrounded.runs, hgrounded.lastInput⟩
  | render => exact ⟨hgrounded.runs, hgrounded.lastInput⟩
  | run input =>
      have hstored : { hook with lastInput := some input }.supersedeRun.Grounded
          questions :=
        ⟨hgrounded.runs, fun other hother => by
          rw [← Option.some_inj.mp hother]
          exact haction⟩
      exact hstored.execute haction
  | retry =>
      rw [SettleHook.step]
      split
      · exact hgrounded
      · next input hinput =>
        have hnext : hook.supersedeRun.Grounded questions :=
          ⟨hgrounded.runs, hgrounded.lastInput⟩
        exact hnext.execute (hgrounded.lastInput input hinput)
  | recheck => exact hgrounded
  | reset => exact ⟨hgrounded.runs, fun _ hinput => by cases hinput⟩
  | unmount => exact ⟨hgrounded.runs, hgrounded.lastInput⟩
  | resume index reply =>
      rw [SettleHook.step]
      split
      · exact hgrounded
      · next run hrun =>
        obtain ⟨⟨hlast, hruns⟩, -⟩ := @resume_spec hook index run kind reply
        refine ⟨?_, by rw [hlast]; exact hgrounded.lastInput⟩
        intro other hother
        obtain hruns | ⟨stage, hruns⟩ := hruns
        · rw [hruns] at hother
          exact hgrounded.runs other hother
        · rw [hruns] at hother
          obtain hold | rfl := List.mem_or_eq_of_mem_set hother
          · exact hgrounded.runs other hold
          · exact hgrounded.runs run (List.mem_of_getElem? hrun)
  | mine hash success => exact ⟨hgrounded.runs, hgrounded.lastInput⟩

/-- The one transaction that a confirmed request adds. -/
theorem targets_iff {chainId : ℕ} {question : Question} {success : Option Bool}
    (hnodup : (questions.map Question.id).Nodup)
    (hshows : run.input.Shows questions)
    (hescrow : escrowAddressFor (some run.chainId) = some run.escrow)
    (hquestion : question ∈ questions) (hid : question.id = run.input.questionId) :
    SettleTransaction.Targets ⟨chainId, run.escrow, KIND_META kind, run.input.onchainId,
        run.input.questionId, success⟩ question ↔
      run.chainId = question.chainId ∧ chainId = question.chainId := by
  obtain ⟨shown, hshown, hinput⟩ := hshows
  obtain ⟨hshownId, honchain⟩ := runInput_eq_some hinput
  obtain rfl : shown = question :=
    List.inj_on_of_nodup_map hnodup hshown hquestion (hshownId.trans hid.symm)
  constructor
  · intro ⟨hchain, haddress, _⟩
    exact ⟨escrowAddressFor_inj hescrow haddress, hchain⟩
  · intro ⟨htook, hchain⟩
    exact ⟨hchain, htook ▸ hescrow, honchain⟩

/-- A step leaves the chains of the transactions alone unless it sends one. -/
theorem onOwnChain_step (hnodup : (questions.map Question.id).Nodup)
    (hgrounded : hook.Grounded questions) :
    (hook.step kind action).OnOwnChain questions ↔
      hook.OnOwnChain questions ∧ hook.SendsOnOwnChain questions action := by
  have hsame {next : SettleHook} (hnext : next.transactions = hook.transactions)
      (hquiet : hook.SendsOnOwnChain questions action) :
      next.OnOwnChain questions ↔
        hook.OnOwnChain questions ∧ hook.SendsOnOwnChain questions action := by
    rw [OnOwnChain, hnext]
    exact (and_iff_left hquiet).symm
  cases action with
  | switch wallet => exact hsame rfl fun _ _ _ _ haction => by cases haction
  | render => exact hsame rfl fun _ _ _ _ haction => by cases haction
  | run input => exact hsame execute_spec.1 fun _ _ _ _ haction => by cases haction
  | retry =>
      refine hsame ?_ fun _ _ _ _ haction => by cases haction
      rw [SettleHook.step]
      split
      · rfl
      · exact execute_spec.1
  | recheck => exact hsame rfl fun _ _ _ _ haction => by cases haction
  | reset => exact hsame rfl fun _ _ _ _ haction => by cases haction
  | unmount => exact hsame rfl fun _ _ _ _ haction => by cases haction
  | resume index reply =>
      rw [SettleHook.step]
      split
      · next hrun =>
        refine hsame rfl fun other reply run chainId haction _ hother => ?_
        cases haction
        rw [hrun] at hother
        cases hother
      · next run hrun =>
        obtain ⟨-, ⟨chainId, hstage, hsends, hsent⟩ | ⟨hquiet, hkept⟩⟩ :=
          @resume_spec hook index run kind reply
        · obtain ⟨hshows, hescrow⟩ := hgrounded.runs.at hrun
          have htargets {question : Question} (hquestion : question ∈ questions)
              (hid : question.id = run.input.questionId) :=
            @targets_iff questions kind run chainId question none hnodup hshows hescrow
              hquestion hid
          rw [OnOwnChain, hsent, send]
          simp only [List.forall_mem_append, List.forall_mem_singleton]
          refine and_congr_right fun _ => ⟨?_, ?_⟩
          · intro hnew other otherReply otherRun otherChain haction _ hother hotherStage
              question hquestion hid
            cases haction
            obtain rfl := Option.some_inj.mp (hrun.symm.trans hother)
            obtain rfl : chainId = otherChain := by
              simpa using hstage.symm.trans hotherStage
            exact (htargets hquestion hid).mp (hnew question hquestion hid)
          · intro hown question hquestion hid
            exact (htargets hquestion hid).mpr
              (hown index reply run chainId rfl hsends hrun hstage question hquestion hid)
        · refine hsame hkept fun other otherReply otherRun chainId haction hsends hother
            hstage => ?_
          cases haction
          obtain rfl := Option.some_inj.mp (hrun.symm.trans hother)
          rw [hquiet chainId hstage] at hsends
          cases hsends
  | mine hash success =>
      have hquiet : hook.SendsOnOwnChain questions (.mine hash success) :=
        fun _ _ _ _ haction => by cases haction
      refine Iff.trans ?_ (and_iff_left hquiet).symm
      rw [OnOwnChain, SettleHook.step]
      exact forall_mem_modify fun transaction => Iff.rfl

end Settle

end SettleHook

/-! ## Asking -/

/-- The escrow of the chain for which the draft was minted. -/
def AskTransaction.Targets (transaction : AskTransaction) (draft : Draft) : Prop :=
  transaction.chainId = draft.chainId ∧
    escrowAddressFor (some draft.chainId) = some transaction.address

instance (transaction : AskTransaction) (draft : Draft) :
    Decidable (transaction.Targets draft) :=
  inferInstanceAs (Decidable (_ ∧ _))

namespace AskHook

/-- Every ask is for the chain of its draft. -/
def OnOwnChain (hook : AskHook) : Prop :=
  ∀ transaction ∈ hook.transactions, ∀ draft ∈ hook.drafts,
    draft.id = transaction.questionId → transaction.Targets draft

instance (hook : AskHook) : Decidable hook.OnOwnChain :=
  inferInstanceAs (Decidable (∀ transaction ∈ hook.transactions, ∀ draft ∈ hook.drafts,
    draft.id = transaction.questionId → transaction.Targets draft))

/-- If the wallet sends an ask, its run took the escrow of the draft's chain, and the
wallet was on that chain when it was asked. -/
def SendsOnOwnChain (hook : AskHook) (action : AskStep) : Prop :=
  ∀ index reply token payment functionName chainId,
    action = .resume index reply → reply.sends = true → hook.runs[index]? = some
      { token, job := .paying payment (.sending functionName (some chainId)) } →
      ∀ draft ∈ hook.drafts, draft.id = payment.id →
        payment.chainId = draft.chainId ∧ chainId = draft.chainId

section Ask

variable {hook next : AskHook} {index token : ℕ} {payment : Payment} {action : AskStep}
variable {stage : AskStage} {reply : AskReply}

theorem onOwnChain_congr (hdrafts : next.drafts = hook.drafts)
    (htransactions : next.transactions = hook.transactions) :
    next.OnOwnChain ↔ hook.OnOwnChain := by
  rw [OnOwnChain, OnOwnChain, hdrafts, htransactions]

/-- No ask is for a draft that was just minted. -/
theorem onOwnChain_mint {id : Text} {chainId : ℕ} (hgrounded : hook.Grounded)
    (hfresh : id ∉ hook.ids) (hdrafts : next.drafts = hook.drafts ++ [⟨id, chainId⟩])
    (htransactions : next.transactions = hook.transactions) :
    next.OnOwnChain ↔ hook.OnOwnChain := by
  rw [OnOwnChain, OnOwnChain, hdrafts, htransactions]
  refine forall₂_congr fun transaction htransaction => ?_
  have hother : id ≠ transaction.questionId := by
    rintro rfl
    exact hfresh (hgrounded.transactions transaction htransaction).1
  rw [List.forall_mem_append, List.forall_mem_singleton]
  exact and_iff_left fun hid => absurd hid hother

/-- The reply to a payment sends an ask on the draft's chain, or sends none. -/
theorem onOwnChain_resumePaying (hgrounded : hook.Grounded)
    (hrun : hook.runs[index]? = some { token, job := .paying payment stage }) :
    (hook.resumePaying index token payment stage reply).OnOwnChain ↔
      hook.OnOwnChain ∧ hook.SendsOnOwnChain (.resume index reply) := by
  obtain ⟨hframe, hmoves⟩ := @resumePaying_moves hook index token payment stage reply
  generalize hook.resumePaying index token payment stage reply = next at hframe hmoves
  have hquiet (hreply : ¬ Confirms stage reply)
      (htransactions : next.transactions = hook.transactions) :
      next.OnOwnChain ↔ hook.OnOwnChain ∧ hook.SendsOnOwnChain (.resume index reply) := by
    rw [onOwnChain_congr hframe.drafts htransactions]
    refine (and_iff_left ?_).symm
    intro other otherReply otherToken paid functionName chainId haction hsends hother
    cases haction
    cases hrun.symm.trans hother
    exact absurd ⟨hsends, functionName, chainId, rfl⟩ hreply
  cases hmoves with
  | stay hreply hruns hrequests htransactions => exact hquiet hreply htransactions
  | finish hreply hruns hrequests htransactions => exact hquiet hreply htransactions
  | goOn later hreply hsending hunsent hguard hruns hrequests htransactions =>
      exact hquiet hreply htransactions
  | ask functionName chainId hreply hunsent hguard hruns hrequests htransactions =>
      exact hquiet hreply htransactions
  | send functionName chainId job hreply hstage hjob hruns hrequests htransactions =>
      have hescrow := (hgrounded.runs.at hrun payment stage rfl).escrow
      have htargets (draft : Draft) : AskTransaction.Targets ⟨chainId, payment.escrow,
          functionName, payment.ask, payment.id, none⟩ draft ↔
            payment.chainId = draft.chainId ∧ chainId = draft.chainId := by
        constructor
        · intro ⟨hchain, haddress⟩
          exact ⟨escrowAddressFor_inj hescrow haddress, hchain⟩
        · intro ⟨htook, hchain⟩
          exact ⟨hchain, htook ▸ hescrow⟩
      rw [OnOwnChain, hframe.drafts, htransactions, send]
      simp only [List.forall_mem_append, List.forall_mem_singleton]
      refine and_congr_right fun _ => ⟨?_, ?_⟩
      · intro hnew other otherReply otherToken paid otherName otherChain haction _ hother
          draft hdraft hid
        obtain ⟨rfl, -⟩ := AskStep.resume.inj haction
        cases hrun.symm.trans hother
        cases hstage
        exact (htargets draft).mp (hnew draft hdraft hid)
      · intro hown draft hdraft hid
        refine (htargets draft).mpr (hown index reply token payment functionName chainId rfl
          hreply ?_ draft hdraft hid)
        rw [hrun, hstage]

/-- A step leaves the chains of the asks alone unless it sends one. -/
theorem onOwnChain_step (hgrounded : hook.Grounded) :
    (hook.step action).OnOwnChain ↔ hook.OnOwnChain ∧ hook.SendsOnOwnChain action := by
  have hother (hreply : ∀ index reply, action ≠ .resume index reply) :
      hook.SendsOnOwnChain action :=
    fun index reply _ _ _ _ haction => absurd haction (hreply index reply)
  have hsame (hreply : ∀ index reply, action ≠ .resume index reply)
      (hdrafts : (hook.step action).drafts = hook.drafts)
      (htransactions : (hook.step action).transactions = hook.transactions) :
      (hook.step action).OnOwnChain ↔ hook.OnOwnChain ∧ hook.SendsOnOwnChain action := by
    rw [onOwnChain_congr hdrafts htransactions]
    exact (and_iff_left (hother hreply)).symm
  have hsubmit (input : AskInput) : (hook.submit input).drafts = hook.drafts ∧
      (hook.submit input).transactions = hook.transactions := by
    obtain ⟨shown, hsubmit | hsubmit⟩ := @submit_spec hook input
    · rw [hsubmit]
      exact ⟨rfl, rfl⟩
    · rw [hsubmit]
      exact ⟨rfl, rfl⟩
  cases action with
  | switch wallet => exact hsame (by simp) rfl rfl
  | render => exact hsame (by simp) rfl rfl
  | submit input => exact hsame (by simp) (hsubmit input).1 (hsubmit input).2
  | retry =>
      obtain hretry | ⟨input, hretry⟩ | ⟨id, job, shown, hid, hopens, hretry⟩ :=
        @retry_spec hook
      · exact hsame (by simp) (congrArg drafts hretry) (congrArg transactions hretry)
      · refine hsame (by simp) ?_ ?_
        · rw [AskHook.step, hretry, (hsubmit input).1]
        · rw [AskHook.step, hretry, (hsubmit input).2]
      · refine hsame (by simp) ?_ ?_
        · rw [AskHook.step, hretry]
          rfl
        · rw [AskHook.step, hretry]
          rfl
  | recheck => exact hsame (by simp) rfl rfl
  | reset => exact hsame (by simp) rfl rfl
  | unmount => exact hsame (by simp) rfl rfl
  | resume index reply =>
      have hquiet (hjob : ∀ token payment stage, hook.runs[index]? ≠
          some { token, job := .paying payment stage }) :
          hook.SendsOnOwnChain (.resume index reply) := by
        intro other otherReply token payment functionName chainId haction _ hrun
        cases haction
        exact absurd hrun (hjob token payment _)
      rw [AskHook.step]
      split
      · next hrun =>
        refine (and_iff_left (hquiet ?_)).symm
        simp [hrun]
      · next token job hrun =>
        split
        · next input account =>
          have hidle := hquiet (by simp [hrun])
          refine Iff.trans ?_ (and_iff_left hidle).symm
          obtain ⟨shown, heq⟩ | ⟨shown, heq⟩ | ⟨id, -, -, hfresh, hminted⟩ :=
            @resumeCreating_spec hook index token reply account input
          · rw [heq]
            exact onOwnChain_congr rfl rfl
          · rw [heq]
            exact onOwnChain_congr rfl rfl
          · obtain heq | ⟨-, _, _, -, heq⟩ := hminted
            · rw [heq]
              exact onOwnChain_mint hgrounded hfresh rfl rfl
            · rw [heq]
              exact onOwnChain_mint hgrounded hfresh rfl rfl
        · exact onOwnChain_resumePaying hgrounded hrun
        · exact (and_iff_left (hquiet (by simp [hrun]))).symm
  | mine hash success =>
      refine Iff.trans ?_ (and_iff_left (hother (by simp))).symm
      rw [OnOwnChain, AskHook.step]
      exact forall_mem_modify fun transaction => Iff.rfl

end Ask

end AskHook

/-! ## Whole runs -/

/-- In every run, all transactions of the settle hook are for the chain of their
question, and all those of the ask hook for the chain of their draft, iff whenever
the wallet sends one, both its escrow and the wallet were taken on that chain. -/
theorem transactions_on_own_chain (kind : SettleKind) (questions : List Question)
    (hnodup : (questions.map Question.id).Nodup) (account : Account)
    (steps : List SettleStep) (hshows : ∀ action ∈ steps, action.Shows questions)
    (actions : List AskStep) :
    ((Machine.run (fun hook action => SettleHook.step hook kind action)
        (.idle account) steps).OnOwnChain questions ↔
      Machine.Meets (fun hook action => SettleHook.step hook kind action)
        (SettleHook.SendsOnOwnChain questions) (.idle account) steps) ∧
    ((Machine.run AskHook.step (.idle account) actions).OnOwnChain ↔
      Machine.Meets AskHook.step AskHook.SendsOnOwnChain (.idle account) actions) := by
  constructor
  · have hempty : (SettleHook.idle account).OnOwnChain questions :=
      fun _ htransaction => absurd htransaction List.not_mem_nil
    rw [Machine.run_iff_meets (SettleHook.grounded_idle account) hshows
      SettleHook.Grounded.step fun _ => SettleHook.onOwnChain_step hnodup]
    exact and_iff_right hempty
  · have hempty : (AskHook.idle account).OnOwnChain :=
      fun _ htransaction => absurd htransaction List.not_mem_nil
    have hallowed : ∀ action ∈ actions, (fun _ : AskStep => True) action :=
      fun _ _ => trivial
    rw [Machine.run_iff_meets (AskHook.grounded_idle account) hallowed
      (fun _ => AskHook.Grounded.step) fun _ => AskHook.onOwnChain_step]
    exact and_iff_right hempty

namespace Sample

def wallet (chainId : ℕ) : Account where
  address := some "0xa11ce00000000000000000000000000000000000".toList
  chainId := some chainId
  publicClient := true

/-- A question whose escrow is on Base Sepolia. -/
def question : Question where
  id := "36b8f84d-df4e-4d49-b662-bbfa1046a2b0".toList
  chainId := BASE_SEPOLIA_CHAIN_ID
  onchainId := some "1".toList
  askerWallet := "0xa11ce00000000000000000000000000000000000".toList
  answererWallet := "0xb0b0000000000000000000000000000000000000".toList
  amountUsdc := some "5000000".toList
  body := "Why?".toList
  status := .open
  answerDeadline := some 100
  isPublic := false
  createdAt := 1
  updatedAt := 2

def settleInput : SettleRunInput where
  questionId := question.id
  onchainId := 1
  preflight := false

/-- The asker cancels. -/
def cancel : List SettleStep :=
  [.run settleInput, .resume 0 .done, .resume 0 .done]

def askInput : AskInput where
  handle := "bob".toList
  body := "Why?".toList
  amount := 5000000
  answerer := question.answererWallet

/-- The asker pays a draft; the wallet sends the ask, and its reply is lost. -/
def askHere : List AskStep := [
  .submit askInput, .resume 0 (.created question.id),
  .resume 0 (.balances 9000000 9000000), .resume 0 .done,
  .resume 0 (.lost { isUserRejection := false, message := "timeout" })]

/-- The draft is minted, the balance cannot be read, and the asker tries again with the
wallet on another chain. -/
def askElsewhere : List AskStep := [
  .submit askInput, .resume 0 (.created question.id),
  .resume 0 (.failed { isUserRejection := false, message := "timeout" }),
  .switch (wallet BASE_CHAIN_ID), .render, .retry,
  .resume 1 (.balances 9000000 9000000), .resume 1 .done, .resume 1 .done]

theorem cancel_shows : ∀ action ∈ cancel, action.Shows [question] := by
  intro action haction
  have hcases : action = .run settleInput ∨ action = .resume 0 .done := by
    simpa [cancel] using haction
  obtain rfl | rfl := hcases
  · exact ⟨question, List.mem_singleton_self _, by decide⟩
  · exact trivial

end Sample

/-- With the wallet on their chain, the cancellation of a question and the payment of a
draft are sent there. -/
theorem transactions_on_own_chain_sample :
    Machine.Meets (fun hook action => SettleHook.step hook .cancel action)
      (SettleHook.SendsOnOwnChain [Sample.question])
      (.idle (Sample.wallet BASE_SEPOLIA_CHAIN_ID)) Sample.cancel ∧
    Machine.Meets AskHook.step AskHook.SendsOnOwnChain
      (.idle (Sample.wallet BASE_SEPOLIA_CHAIN_ID)) Sample.askHere ∧
    (Machine.run AskHook.step (.idle (Sample.wallet BASE_SEPOLIA_CHAIN_ID))
      Sample.askHere).transactions.length = 1 := by
  obtain ⟨hsettled, hasked⟩ := transactions_on_own_chain .cancel [Sample.question]
    (by decide) (Sample.wallet BASE_SEPOLIA_CHAIN_ID) Sample.cancel Sample.cancel_shows
    Sample.askHere
  exact ⟨hsettled.mp (by decide +kernel), hasked.mp (by decide +kernel), by decide +kernel⟩

/-- A question is cancelled, and a draft paid, in the escrow of another chain. -/
theorem transactions_on_rendered_chain :
    (¬ ∀ (kind : SettleKind) (questions : List Question),
      (questions.map Question.id).Nodup → ∀ (account : Account) (steps : List SettleStep),
        (∀ action ∈ steps, action.Shows questions) →
          (Machine.run (fun hook action => SettleHook.step hook kind action)
            (.idle account) steps).OnOwnChain questions) ∧
    ¬ ∀ (account : Account) (actions : List AskStep),
      (Machine.run AskHook.step (.idle account) actions).OnOwnChain := by
  constructor
  · intro hclaim
    have hcancelled := hclaim .cancel [Sample.question] (by decide)
      (Sample.wallet BASE_CHAIN_ID) Sample.cancel Sample.cancel_shows
    exact absurd hcancelled (by decide +kernel)
  · intro hclaim
    have hpaid := hclaim (Sample.wallet BASE_SEPOLIA_CHAIN_ID) Sample.askElsewhere
    exact absurd hpaid (by decide +kernel)

end BuyAnAnswer.Web
