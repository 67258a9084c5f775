import BuyAnAnswer.Contract.Interference
import BuyAnAnswer.Core.Ledger

/-!
# Invariants of the books

Ids are handed out densely from 1, and the escrow's liabilities (the amounts of
open questions together with all credits) change only by what is asked in and
what is withdrawn.  Both follow from what a call writes, so they hold for every
confined token.
-/

namespace BuyAnAnswer.Contract

open BuyAnAnswer.Transaction

variable {oz : OpenZeppelin}

/-- The assigned ids are exactly those from 1 up to the counter. -/
structure Dense (escrow : Storage oz) : Prop where
  positive : 0 < (escrow.nextId : ℕ)
  unassigned : ∀ id : Uint 256, (escrow.questions id).status = .none ↔
    id = 0 ∨ (escrow.nextId : ℕ) ≤ id

/-- What holds of the storage between calls. -/
structure Healthy (escrow : Storage oz) : Prop where
  dense : Dense escrow
  capped : Capped escrow
  positive : ∀ id : Uint 256, (escrow.questions id).status ≠ .none →
    0 < ((escrow.questions id).amount : ℕ)
  lock_free : oz.lock.entered escrow.lock = false

/-- Contribution of a question to the liabilities. -/
def openAmount (question : Question) : ℕ :=
  if question.status = .open then question.amount else 0

namespace Storage

/-- Sum of `amount` over the open questions. -/
def openTotal (escrow : Storage oz) : ℕ :=
  Ledger.total openAmount escrow.questions

/-- Sum of `withdrawable` over all accounts. -/
def creditTotal (escrow : Storage oz) : ℕ :=
  Ledger.total Fin.val escrow.withdrawable

def liabilities (escrow : Storage oz) : ℕ :=
  escrow.openTotal + escrow.creditTotal

end Storage

/-- The amount a call asks the escrow to take in. -/
def Call.askedAmount (request : Call) : ℕ :=
  match request.asks with
  | some (_, _, amount) => amount
  | none => 0

/-- The amount a call has the escrow pay out. -/
def paidAmount (escrow : Storage oz) (msg : Msg) (request : Call) : ℕ :=
  if request = .withdraw then escrow.withdrawable msg.sender else 0

section Amounts

variable {escrow : Storage oz} {msg : Msg} {request : Call}

/-- An ask takes its amount in and pays nothing out. -/
theorem amounts_of_asks {ref : Bytes32} {answerer : Address} {amount : Uint 128}
    (hrequest : request.asks = some (ref, answerer, amount)) :
    request.askedAmount = amount ∧ paidAmount escrow msg request = 0 := by
  constructor
  · rw [Call.askedAmount, hrequest]
  · apply if_neg
    intro hwithdraw
    rw [hwithdraw] at hrequest
    cases hrequest

/-- A settlement takes nothing in and pays nothing out. -/
theorem amounts_of_settles {id : Uint 256} {terminal : Status}
    (hrequest : request.settles = some (id, terminal)) :
    request.askedAmount = 0 ∧ paidAmount escrow msg request = 0 := by
  constructor
  · rw [Call.askedAmount, Call.asks_none_of_settles hrequest]
  · apply if_neg
    intro hwithdraw
    rw [hwithdraw] at hrequest
    cases hrequest

/-- A withdrawal pays out the caller's credit. -/
theorem amounts_of_withdraw :
    Call.withdraw.askedAmount = 0 ∧
      paidAmount escrow msg .withdraw = escrow.withdrawable msg.sender :=
  ⟨rfl, if_pos rfl⟩

/-- All other calls move nothing. -/
theorem amounts_of_neither (hasks : request.asks = none)
    (hwithdraw : request ≠ .withdraw) :
    request.askedAmount = 0 ∧ paidAmount escrow msg request = 0 := by
  constructor
  · rw [Call.askedAmount, hasks]
  · exact if_neg hwithdraw

end Amounts

theorem Authorised.terminal {msg : Msg} {question : Question} {status : Status}
    (hauthorised : Authorised msg question status) :
    status ≠ .none ∧ status ≠ .open := by
  constructor <;> rintro rfl <;> exact hauthorised

/-- Two credits add both shares to the total. -/
theorem Credited.total {before after : Address → Uint 256}
    {recipient feeAddress : Address} {share fee : ℕ}
    (hafter : Credited before after recipient share feeAddress fee) :
    Ledger.total Fin.val after = Ledger.total Fin.val before + share + fee := by
  obtain ⟨sum, feeSum, hsum, hfeeSum, rfl⟩ := hafter.exists_sums
  have hfirst := Ledger.total_update Fin.val before recipient sum
  have hsecond := Ledger.total_update Fin.val
    (Function.update before recipient sum) feeAddress feeSum
  omega

section Writes

variable {msg : Msg} {before after : Storage oz} {request : Call}
variable {result : Option (Uint 256)} {events : List Event}

theorem Writes.dense (hwrites : Writes msg before after request result events)
    (hdense : Dense before) : Dense after := by
  cases hwrites with
  | ask _ _ _ _ hnext hquestions _ _ =>
      constructor
      · rw [hnext]
        exact Nat.succ_pos _
      · intro id
        rw [hquestions, hnext]
        by_cases hid : id = before.nextId
        · subst hid
          have hpositive := hdense.positive
          have hnonzero : before.nextId ≠ 0 := fun hzero => by
            rw [hzero] at hpositive
            exact absurd hpositive (lt_irrefl 0)
          rw [Function.update_self]
          simp [openQuestion, hnonzero]
        · have hval : (id : ℕ) ≠ before.nextId := fun heq => hid (Fin.ext heq)
          rw [Function.update_of_ne hid, hdense.unassigned id]
          apply or_congr_right
          omega
  | @settle _ settled terminal _ _ hopen hauthorised _ _ hnext hquestions _ =>
      constructor
      · rw [hnext]
        exact hdense.positive
      · intro id
        rw [hquestions, hnext]
        by_cases hid : id = settled
        · subst hid
          rw [Function.update_self, ← hdense.unassigned id, hopen]
          simp [hauthorised.terminal.1]
        · rw [Function.update_of_ne hid, hdense.unassigned id]
  | withdraw _ hnext hquestions _ _ =>
      constructor
      · rw [hnext]
        exact hdense.positive
      · rw [hquestions, hnext]
        exact hdense.unassigned
  | administer _ _ _ hbooks =>
      constructor
      · rw [hbooks.nextId]
        exact hdense.positive
      · rw [hbooks.questions, hbooks.nextId]
        exact hdense.unassigned

/-- Recorded amounts are positive. -/
theorem Writes.positive (hwrites : Writes msg before after request result events)
    (hpositive : ∀ id : Uint 256, (before.questions id).status ≠ .none →
      0 < ((before.questions id).amount : ℕ)) (id : Uint 256)
    (hassigned : (after.questions id).status ≠ .none) :
    0 < ((after.questions id).amount : ℕ) := by
  cases hwrites with
  | ask _ _ hamount _ _ hquestions _ _ =>
      rw [hquestions] at hassigned ⊢
      by_cases hid : id = before.nextId
      · rw [hid, Function.update_self]
        exact Nat.pos_of_ne_zero fun hzero => hamount (Fin.ext hzero)
      · rw [Function.update_of_ne hid] at hassigned ⊢
        exact hpositive id hassigned
  | @settle _ settled _ _ _ hopen _ _ _ _ hquestions _ =>
      rw [hquestions] at hassigned ⊢
      by_cases hid : id = settled
      · rw [hid, Function.update_self]
        exact hpositive settled (by rw [hopen]; simp)
      · rw [Function.update_of_ne hid] at hassigned ⊢
        exact hpositive id hassigned
  | withdraw _ _ hquestions _ _ =>
      rw [hquestions] at hassigned ⊢
      exact hpositive id hassigned
  | administer _ _ _ hbooks =>
      rw [hbooks.questions] at hassigned ⊢
      exact hpositive id hassigned

/-- Conservation: asks add to the liabilities, withdrawals take from them, and
everything else moves value between questions and credits. -/
theorem Writes.liabilities
    (hwrites : Writes msg before after request result events)
    (hdense : Dense before) :
    after.liabilities + paidAmount before msg request =
      before.liabilities + request.askedAmount := by
  simp only [Storage.liabilities, Storage.openTotal, Storage.creditTotal]
  cases hwrites with
  | @ask _ ref answerer amount deadline hrequest hanswerer hamount hdeadline
      hnext hquestions hrefs hcredits =>
      have htotal := Ledger.total_update openAmount before.questions
        before.nextId (openQuestion msg answerer amount deadline)
      have hunused : openAmount (before.questions before.nextId) = 0 := by
        have hnone := (hdense.unassigned before.nextId).mpr (.inr le_rfl)
        simp [openAmount, hnone]
      have hnew : openAmount (openQuestion msg answerer amount deadline) =
          amount := rfl
      obtain ⟨hasked, hpaid⟩ :=
        @amounts_of_asks oz before msg _ _ _ _ hrequest
      rw [hquestions, hcredits, hasked, hpaid]
      omega
  | @settle _ id terminal payout hrequest hopen hauthorised hpayout hcredits
      hnext hquestions hrefs =>
      have htotal := Ledger.total_update openAmount before.questions id
        { before.questions id with status := terminal }
      have hold : openAmount (before.questions id) =
          (before.questions id).amount := by
        rw [openAmount, if_pos hopen]
      have hnew : openAmount { before.questions id with status := terminal } =
          0 := by
        rw [openAmount, if_neg hauthorised.terminal.2]
      have hcredited := hcredits.total
      obtain ⟨hasked, hpaid⟩ :=
        @amounts_of_settles oz before msg _ _ _ hrequest
      rw [hquestions, hasked, hpaid]
      omega
  | withdraw hcredit hnext hquestions hrefs hcredits =>
      have htotal := Ledger.total_update Fin.val before.withdrawable
        msg.sender 0
      obtain ⟨hasked, hpaid⟩ := @amounts_of_withdraw oz before msg
      rw [hquestions, hcredits, hpaid, hasked]
      simp only [Fin.val_zero] at htotal
      omega
  | administer hasks hsettles hwithdraw hbooks =>
      obtain ⟨hasked, hpaid⟩ :=
        @amounts_of_neither oz before msg _ hasks hwithdraw
      rw [hbooks.questions, hbooks.withdrawable, hasked, hpaid]

end Writes

theorem Effect.healthy {T : Type} {token : Token oz T} {self : Address}
    {msg : Msg} {request : Call} {start stop : World oz T}
    {result : Option (Uint 256)} (hconfined : token.Confined)
    (hlock : oz.lock.Documented)
    (heffect : Effect token self msg start request result stop)
    (hhealthy : Healthy start.escrow) : Healthy stop.escrow := by
  obtain ⟨_, _, hwrites⟩ := heffect.writes hconfined hlock
  exact {
    dense := hwrites.dense hhealthy.dense
    capped := heffect.capped hconfined hlock hhealthy.capped
    positive := hwrites.positive hhealthy.positive
    lock_free := heffect.lock_free hlock hhealthy.lock_free }

section Initial

variable {args : ConstructorArgs} {escrow : Storage oz}

theorem Initial.dense (hinitial : Initial args escrow) : Dense escrow where
  positive := by
    rw [hinitial.nextId]
    exact Nat.one_pos
  unassigned id := by
    rw [hinitial.questions, hinitial.nextId]
    simp only [Question.unwritten, true_iff]
    by_cases hid : id = 0
    · exact .inl hid
    · exact .inr (Nat.pos_of_ne_zero fun hzero => hid (Fin.ext hzero))

theorem Initial.healthy (hlock : oz.lock.Documented)
    (hinitial : Initial args escrow) : Healthy escrow where
  dense := hinitial.dense
  capped := hinitial.capped
  positive id hassigned := by
    rw [hinitial.questions] at hassigned
    exact absurd rfl hassigned
  lock_free := by
    rw [hinitial.lock]
    exact hlock.initial_free

theorem Initial.liabilities (hinitial : Initial args escrow) :
    escrow.liabilities = 0 := by
  have hopen : escrow.openTotal = 0 := by
    rw [Storage.openTotal, hinitial.questions]
    exact Ledger.total_eq_zero _ _ fun _ => rfl
  have hcredit : escrow.creditTotal = 0 := by
    rw [Storage.creditTotal, hinitial.withdrawable]
    exact Ledger.total_eq_zero _ _ fun _ => rfl
  rw [Storage.liabilities, hopen, hcredit]

end Initial

end BuyAnAnswer.Contract
