import BuyAnAnswer.Contract.Settlement

/-!
# What the operator can change

Two runs are compared: settlements alone, and the same settlements with setter
calls in between.  The setters write parameters that the settlements read only
to compute the fee, so the runs agree on everything but the fee; and the caps
bound the fee in both.
-/

namespace BuyAnAnswer.Contract

open BuyAnAnswer.Transaction

variable {oz : OpenZeppelin} {erc20 : ERC20} {self : Address}

/-- The owner's setters. -/
def Call.setter : Call → Bool
  | .setAnswerFee _ | .setCancelFee _ | .setAnswerWindow _
  | .setFeeAddress _ => true
  | _ => false

/-- What one settlement call did: the question it was about as it stood then,
whether the call returned, and what each account was credited. -/
structure Receipt where
  id : Uint 256
  question : Question
  terminal : Status
  returned : Bool
  credits : Address → ℕ

section Run

variable (erc20 self)

/-- The world after one call with its caller and timestamp. -/
def perform (world : World oz erc20.Storage) (input : Msg × Call) :
    World oz erc20.Storage :=
  finalState (call (erc20.asToken oz self input.1.timestamp) self input.1
    input.2 world)

def performAll (world : World oz erc20.Storage) (inputs : List (Msg × Call)) :
    World oz erc20.Storage :=
  Machine.run (perform erc20 self) world inputs

def receipt (world : World oz erc20.Storage) (input : Msg × Call)
    (id : Uint 256) (terminal : Status) : Receipt where
  id := id
  question := world.escrow.questions id
  terminal := terminal
  returned := succeeded (call (erc20.asToken oz self input.1.timestamp) self
    input.1 input.2 world)
  credits account :=
    (perform erc20 self world input).escrow.withdrawable account -
      world.escrow.withdrawable account

/-- The receipts of the settlement calls of a run, in order. -/
def receipts (world : World oz erc20.Storage) :
    List (Msg × Call) → List Receipt
  | [] => []
  | input :: inputs =>
    match input.2.settles with
    | some (id, terminal) =>
      receipt erc20 self world input id terminal ::
        receipts (perform erc20 self world input) inputs
    | none => receipts (perform erc20 self world input) inputs

end Run

/-! ## One step -/

section Step

variable {world : World oz erc20.Storage} {input : Msg × Call}
variable {id : Uint 256} {terminal : Status}

/-- A call either changes nothing or has its effect. -/
theorem perform_cases (self : Address) (world : World oz erc20.Storage) (input : Msg × Call) :
    (∃ failure, call (erc20.asToken oz self input.1.timestamp) self input.1
        input.2 world = .error failure world) ∧
      perform erc20 self world input = world ∨
    ∃ result, call (erc20.asToken oz self input.1.timestamp) self input.1
        input.2 world = .ok result (perform erc20 self world input) := by
  cases hcall : call (erc20.asToken oz self input.1.timestamp) self input.1
    input.2 world with
  | error failure stop =>
      left
      rw [perform, hcall, call_eq_error hcall]
      exact ⟨⟨failure, rfl⟩, rfl⟩
  | ok result stop =>
      right
      rw [perform, hcall]
      exact ⟨result, rfl⟩

/-- Calls that take nothing in keep the storage sound. -/
theorem Sound.after_call (hlock : oz.lock.Documented)
    (hsound : Sound world.escrow) (hasks : input.2.asks = none) :
    Sound (perform erc20 self world input).escrow := by
  obtain ⟨_, hsame⟩ | ⟨result, hcall⟩ := perform_cases self world input
  · rw [hsame]
    exact hsound
  · have heffect := call_eq_ok.mp hcall
    have hconfined := erc20.asToken_confined oz self input.1.timestamp
    obtain ⟨_, _, hwrites⟩ := heffect.writes hconfined hlock
    have hliabilities := hwrites.liabilities hsound.healthy.dense
    have hbounded := hsound.bounded
    rw [Call.askedAmount, hasks] at hliabilities
    simp only at hliabilities
    exact ⟨heffect.healthy hconfined hlock hsound.healthy, by omega⟩

theorem Administers.pausable_of_setter {T : Type} {msg : Msg} {request : Call}
    {start stop : World oz T} (hsetter : request.setter = true)
    (hadministers : Administers msg start request stop) :
    stop.escrow.pausable = start.escrow.pausable := by
  cases hadministers <;> first | rfl | cases hsetter

theorem asks_none_of_operated {request : Call}
    (hrequest : request.settles.isSome = true ∨ request.setter = true) :
    request.asks = none := by
  cases request <;> first | rfl | simp [Call.settles, Call.setter] at hrequest

/-- A setter, accepted or rejected, leaves the books and the pause alone. -/
theorem setter_perform (self : Address) (world : World oz erc20.Storage)
    (hsetter : input.2.setter = true) :
    SameBooks world.escrow (perform erc20 self world input).escrow ∧
      (perform erc20 self world input).escrow.pausable =
        world.escrow.pausable := by
  obtain ⟨_, hsame⟩ | ⟨result, hcall⟩ := perform_cases self world input
  · rw [hsame]
    exact ⟨.refl _, rfl⟩
  · have hguarded : input.2.guarded = false := by
      cases hrequest : input.2 <;> rw [hrequest] at hsetter <;>
        first | rfl | cases hsetter
    have hadministers := unguarded_effect hguarded (call_eq_ok.mp hcall)
    exact ⟨hadministers.sameBooks, hadministers.pausable_of_setter hsetter⟩

/-- A settlement either fails without effect or shares the amount of its
question. -/
theorem Sound.receipt_cases (self : Address) (hsound : Sound world.escrow)
    (hrequest : input.2.settles = some (id, terminal)) :
    (receipt erc20 self world input id terminal).returned = false ∧
        perform erc20 self world input = world ∨
      (receipt erc20 self world input id terminal).returned = true ∧
        Settles input.1 id terminal world (perform erc20 self world input) ∧
        ∃ share fee,
          Shares world.escrow (perform erc20 self world input).escrow id
            terminal share fee := by
  rw [receipt]
  obtain ⟨⟨failure, hcall⟩, hsame⟩ | ⟨result, hcall⟩ :=
    perform_cases self world input
  · left
    rw [hcall]
    exact ⟨rfl, hsame⟩
  · right
    have hsettles := (call_eq_ok.mp hcall).settles hrequest
    rw [hcall]
    exact ⟨rfl, hsettles, hsound.healthy.shares hsettles⟩

/-- What a settlement credits, account by account. -/
theorem Shares.credits {share fee : ℕ}
    (hshares : Shares world.escrow (perform erc20 self world input).escrow id
      terminal share fee) (account : Address) :
    (receipt erc20 self world input id terminal).credits account =
      (if account = recipientOf (world.escrow.questions id) terminal then share
        else 0) +
      (if account = world.escrow.feeAddress then fee else 0) := by
  have hcredited := hshares.credited account
  rw [receipt]
  simp only
  omega

end Step

/-! ## Agreement of the two runs -/

/-- Two receipts of the same settlement call in different runs: they agree on
whether it returned, and on all credits if it refunds in full. -/
structure Receipt.Agree (first second : Receipt) : Prop where
  id : first.id = second.id
  question : first.question = second.question
  terminal : first.terminal = second.terminal
  returned : first.returned = second.returned
  refund : first.terminal = .declined ∨ first.terminal = .reclaimed →
    first.credits = second.credits

/-- Storages that settlements cannot tell apart but for the fee. -/
structure Alike (first second : Storage oz) : Prop where
  questions : first.questions = second.questions
  pausable : first.pausable = second.pausable

section Agree

variable {first second : World oz erc20.Storage} {input : Msg × Call}
variable {id : Uint 256} {terminal : Status}

theorem Alike.step_agree (hlock : oz.lock.Documented) (self : Address)
    (halike : Alike first.escrow second.escrow) (hfirst : Sound first.escrow)
    (hsecond : Sound second.escrow)
    (hrequest : input.2.settles = some (id, terminal)) :
    (receipt erc20 self first input id terminal).Agree
      (receipt erc20 self second input id terminal) ∧
    Alike (perform erc20 self first input).escrow
      (perform erc20 self second input).escrow := by
  have hreturned : (receipt erc20 self first input id terminal).returned =
      (receipt erc20 self second input id terminal).returned := by
    rw [Bool.eq_iff_iff]
    simp only [receipt]
    rw [hfirst.settle_returns_iff hlock hrequest,
      hsecond.settle_returns_iff hlock hrequest, halike.questions,
      halike.pausable]
  obtain ⟨hfail, hsame⟩ | ⟨hok, hsettles, share, fee, hshares⟩ :=
    hfirst.receipt_cases self hrequest
  · obtain ⟨_, hsame'⟩ | ⟨hok', _⟩ := hsecond.receipt_cases self hrequest
    · refine ⟨⟨rfl, ?_, rfl, hreturned, ?_⟩, ?_⟩
      · simp only [receipt, halike.questions]
      · intro _
        simp only [receipt, hsame, hsame', Nat.sub_self]
      · rw [hsame, hsame']
        exact halike
    · rw [hfail, hok'] at hreturned
      cases hreturned
  · obtain ⟨hfail', _⟩ | ⟨_, hsettles', share', fee', hshares'⟩ :=
      hsecond.receipt_cases self hrequest
    · rw [hok, hfail'] at hreturned
      cases hreturned
    · refine ⟨⟨rfl, ?_, rfl, hreturned, ?_⟩, ?_⟩
      · simp only [receipt, halike.questions]
      · intro hrefund
        funext account
        have hzero := hshares.fee_capped.refunded hrefund
        have hzero' := hshares'.fee_capped.refunded hrefund
        have hsum := hshares.sum
        have hsum' := hshares'.sum
        rw [← halike.questions] at hsum'
        have hshare : share = share' := by omega
        rw [hshares.credits, hshares'.credits, hzero, hzero', hshare,
          halike.questions, ite_self, ite_self]
      · constructor
        · rw [hsettles.questions, hsettles'.questions, halike.questions]
        · rw [hsettles.pausable, hsettles'.pausable, halike.pausable]

/-- A setter call in one of the runs goes unnoticed. -/
theorem Alike.setter_right (self : Address)
    (halike : Alike first.escrow second.escrow)
    (hsetter : input.2.setter = true) :
    Alike first.escrow (perform erc20 self second input).escrow := by
  obtain ⟨hbooks, hpausable⟩ := setter_perform self second hsetter
  constructor
  · rw [hbooks.questions, halike.questions]
  · rw [hpausable, halike.pausable]

/-- Setter calls in between change neither the outcomes nor the questions. -/
theorem Alike.run_agree (hlock : oz.lock.Documented) (self : Address)
    (halike : Alike first.escrow second.escrow) (hfirst : Sound first.escrow)
    (hsecond : Sound second.escrow) {mixed : List (Msg × Call)}
    (hmixed : ∀ input ∈ mixed,
      input.2.settles.isSome = true ∨ input.2.setter = true) :
    List.Forall₂ Receipt.Agree
        (receipts erc20 self first (mixed.filter (·.2.settles.isSome)))
        (receipts erc20 self second mixed) ∧
      Alike (performAll erc20 self first
          (mixed.filter (·.2.settles.isSome))).escrow
        (performAll erc20 self second mixed).escrow := by
  induction mixed generalizing first second with
  | nil => exact ⟨.nil, halike⟩
  | cons input mixed ih =>
      have hrest : ∀ input ∈ mixed,
          input.2.settles.isSome = true ∨ input.2.setter = true := by
        intro other hother
        exact hmixed other (by simp [hother])
      have hasks := asks_none_of_operated (hmixed input (by simp))
      cases hrequest : input.2.settles with
      | some target =>
          obtain ⟨id, terminal⟩ := target
          have hkept : (input :: mixed).filter (·.2.settles.isSome) =
              input :: mixed.filter (·.2.settles.isSome) := by
            simp [hrequest]
          obtain ⟨hagree, hafter⟩ :=
            halike.step_agree hlock self hfirst hsecond hrequest
          obtain ⟨hreceipts, hend⟩ := ih hafter (hfirst.after_call hlock hasks)
            (hsecond.after_call hlock hasks) hrest
          rw [hkept]
          simp only [receipts, hrequest]
          exact ⟨.cons hagree hreceipts, hend⟩
      | none =>
          have hdropped : (input :: mixed).filter (·.2.settles.isSome) =
              mixed.filter (·.2.settles.isSome) := by
            simp [hrequest]
          obtain hsettles | hsetter := hmixed input (by simp)
          · rw [hrequest] at hsettles
            cases hsettles
          obtain ⟨hreceipts, hend⟩ := ih (halike.setter_right self hsetter)
            hfirst (hsecond.after_call hlock hasks) hrest
          rw [hdropped]
          simp only [receipts, hrequest]
          exact ⟨hreceipts, hend⟩

end Agree

/-! ## Bounds in each run -/

/-- A settlement that returned gave the answerer at least nine tenths, or the
cancelling asker at least nineteen twentieths. -/
structure Receipt.Fair (receipt : Receipt) : Prop where
  answered : receipt.returned = true → receipt.terminal = .answered →
    receipt.question.amount - (receipt.question.amount : ℕ) / 10 ≤
      receipt.credits receipt.question.answerer
  cancelled : receipt.returned = true → receipt.terminal = .cancelled →
    receipt.question.amount - (receipt.question.amount : ℕ) / 20 ≤
      receipt.credits receipt.question.asker

/-- An account that a settlement has no reason to credit. -/
def Receipt.Outsider (receipt : Receipt) (account : Address) : Prop :=
  account ≠ receipt.question.asker ∧ account ≠ receipt.question.answerer

section Bounds

variable {world : World oz erc20.Storage} {input : Msg × Call}
variable {id : Uint 256} {terminal : Status}

theorem Sound.receipt_fair (self : Address) (hsound : Sound world.escrow)
    (hrequest : input.2.settles = some (id, terminal)) :
    (receipt erc20 self world input id terminal).Fair := by
  obtain ⟨hfail, _⟩ | ⟨_, _, share, fee, hshares⟩ :=
    hsound.receipt_cases self hrequest
  · rw [Bool.eq_false_iff] at hfail
    exact ⟨fun hok => absurd hok hfail, fun hok => absurd hok hfail⟩
  · have hsum := hshares.sum
    refine ⟨fun _ hanswered => ?_, fun _ hcancelled => ?_⟩
    · have hterminal : terminal = .answered := hanswered
      have hfee := hshares.fee_capped.overall
      rw [hshares.credits, hterminal]
      simp only [receipt, recipientOf, if_true]
      omega
    · have hterminal : terminal = .cancelled := hcancelled
      have hfee := hshares.fee_capped.cancelled hterminal
      rw [hshares.credits, hterminal]
      simp only [receipt, recipientOf, if_true]
      omega

theorem Sound.receipt_outsider (self : Address) (hsound : Sound world.escrow)
    (hrequest : input.2.settles = some (id, terminal)) {account : Address}
    (hparty : (receipt erc20 self world input id terminal).Outsider account)
    (hfee : account ≠ world.escrow.feeAddress) :
    (perform erc20 self world input).escrow.withdrawable account =
      world.escrow.withdrawable account := by
  obtain ⟨_, hsame⟩ | ⟨_, _, share, fee, hshares⟩ :=
    hsound.receipt_cases self hrequest
  · rw [hsame]
  · have hrecipient : account ≠
        recipientOf (world.escrow.questions id) terminal := by
      cases terminal <;> first | exact hparty.2 | exact hparty.1
    have hcredited := hshares.credited account
    rw [if_neg hrecipient, if_neg hfee] at hcredited
    exact Fin.ext hcredited

theorem Sound.run_bounds (hlock : oz.lock.Documented) (self : Address)
    (hsound : Sound world.escrow) {inputs : List (Msg × Call)}
    (hinputs : ∀ input ∈ inputs,
      input.2.settles.isSome = true ∨ input.2.setter = true) :
    (∀ receipt ∈ receipts erc20 self world inputs, receipt.Fair) ∧
    ∀ account,
      (∀ receipt ∈ receipts erc20 self world inputs,
        receipt.Outsider account) →
      (∀ before, before <+: inputs →
        account ≠ (performAll erc20 self world before).escrow.feeAddress) →
      (performAll erc20 self world inputs).escrow.withdrawable account =
        world.escrow.withdrawable account := by
  induction inputs generalizing world with
  | nil => exact ⟨by simp [receipts], fun _ _ _ => rfl⟩
  | cons input inputs ih =>
      have hrest : ∀ input ∈ inputs,
          input.2.settles.isSome = true ∨ input.2.setter = true := by
        intro other hother
        exact hinputs other (by simp [hother])
      have hasks := asks_none_of_operated (hinputs input (by simp))
      obtain ⟨hfair, houtsider⟩ := ih (hsound.after_call hlock hasks) hrest
      have hlater : ∀ account, (∀ before, before <+: input :: inputs →
          account ≠ (performAll erc20 self world before).escrow.feeAddress) →
          ∀ before, before <+: inputs → account ≠ (performAll erc20 self
            (perform erc20 self world input) before).escrow.feeAddress := by
        intro account hnever before hbefore
        exact hnever (input :: before) ((List.prefix_cons_inj input).mpr hbefore)
      have hthen : ∀ account,
          (∀ receipt ∈ receipts erc20 self (perform erc20 self world input)
            inputs, receipt.Outsider account) →
          (∀ before, before <+: input :: inputs →
            account ≠ (performAll erc20 self world before).escrow.feeAddress) →
          (perform erc20 self world input).escrow.withdrawable account =
            world.escrow.withdrawable account →
          (performAll erc20 self world (input :: inputs)).escrow.withdrawable
            account = world.escrow.withdrawable account := by
        intro account hparties hnever hstep
        calc (performAll erc20 self world (input :: inputs)).escrow.withdrawable
              account
            = (perform erc20 self world input).escrow.withdrawable account :=
              houtsider account hparties (hlater account hnever)
          _ = world.escrow.withdrawable account := hstep
      cases hrequest : input.2.settles with
      | some target =>
          obtain ⟨id, terminal⟩ := target
          simp only [receipts, hrequest, List.forall_mem_cons]
          constructor
          · exact ⟨hsound.receipt_fair self hrequest, hfair⟩
          · intro account ⟨hparty, hparties⟩ hnever
            apply hthen account hparties hnever
            exact hsound.receipt_outsider self hrequest hparty
              (hnever [] List.nil_prefix)
      | none =>
          simp only [receipts, hrequest]
          constructor
          · exact hfair
          · intro account hparties hnever
            obtain hsettles | hsetter := hinputs input (by simp)
            · rw [hrequest] at hsettles
              cases hsettles
            · apply hthen account hparties hnever
              have hbooks := (setter_perform self world hsetter).1
              exact congrFun hbooks.withdrawable account

end Bounds

/-- Whatever setter calls are mixed into a sequence of settlements, from any
reachable state: each settlement returns in both runs or in neither, full
refunds are the same, the questions end the same, the fee stays within its caps,
and only parties and fee addresses are credited. -/
theorem operator_bounded (hlock : oz.lock.Documented)
    (hstandard : erc20.Standard) {system : System oz erc20}
    (hreachable : Reachable erc20 self system)
    {settlements mixed : List (Msg × Call)}
    (hmixed : ∀ input ∈ mixed,
      input.2.settles.isSome = true ∨ input.2.setter = true)
    (hinterleaved : mixed.filter (·.2.settles.isSome) = settlements) :
    List.Forall₂ Receipt.Agree (receipts erc20 self system.world settlements)
      (receipts erc20 self system.world mixed) ∧
    (performAll erc20 self system.world settlements).escrow.questions =
      (performAll erc20 self system.world mixed).escrow.questions ∧
    ∀ inputs, inputs = settlements ∨ inputs = mixed →
      (∀ receipt ∈ receipts erc20 self system.world inputs, receipt.Fair) ∧
      ∀ account,
        (∀ receipt ∈ receipts erc20 self system.world inputs,
          receipt.Outsider account) →
        (∀ before, before <+: inputs → account ≠
          (performAll erc20 self system.world before).escrow.feeAddress) →
        (performAll erc20 self system.world inputs).escrow.withdrawable
            account = system.world.escrow.withdrawable account := by
  have hsound := (hreachable.solvent hlock hstandard).sound
  obtain ⟨hagree, halike⟩ := Alike.run_agree hlock self
    (Alike.mk rfl rfl) hsound hsound hmixed
  rw [hinterleaved] at hagree halike
  refine ⟨hagree, halike.questions, ?_⟩
  intro inputs hinputs
  apply hsound.run_bounds hlock self
  obtain rfl | rfl := hinputs
  · intro input hinput
    rw [← hinterleaved] at hinput
    exact .inl (List.mem_filter.mp hinput).2
  · exact hmixed

/-! ## The sample question under a raised fee -/

namespace Sample

def settleInput : Msg × Call :=
  ({ sender := answerer.1, timestamp := 20 }, .answerQuestion 1)

def raiseInput : Msg × Call :=
  ({ sender := owner.1, timestamp := 15 }, .setAnswerFee 1000)

end Sample

theorem operator_bounded_raised :
    List.Forall₂ Receipt.Agree
      (receipts .plain Sample.escrow Sample.asked.world [Sample.settleInput])
      (receipts .plain Sample.escrow Sample.asked.world
        [Sample.raiseInput, Sample.settleInput]) := by
  have hmixed : ∀ input ∈ [Sample.raiseInput, Sample.settleInput],
      input.2.settles.isSome = true ∨ input.2.setter = true := by decide
  have hinterleaved : [Sample.raiseInput, Sample.settleInput].filter
      (·.2.settles.isSome) = [Sample.settleInput] := rfl
  exact (operator_bounded OpenZeppelin.plain_documented.lock
    ERC20.plain_standard Sample.asked_reachable hmixed hinterleaved).1

end BuyAnAnswer.Contract
