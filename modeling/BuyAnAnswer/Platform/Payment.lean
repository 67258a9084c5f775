import BuyAnAnswer.Platform.System

/-!
# Who opens a draft

The indexer opens a draft for the first question asked under its reference that
it comes to, whoever asked it, for whomever and for whatever amount.  So a draft
is opened by its own payment as long as the first such question is that payment.
-/

namespace BuyAnAnswer.Platform

open Contract Shared Indexer Api Text BuyAnAnswer.Transaction

variable {oz : OpenZeppelin} {T : Type}

/-- An ask is the payment for a row: it is sent by its asker to its answerer
and offers at least the creator's minimum price. -/
structure Pays (creators : List Creator) (row : Shared.Question)
    (asker answerer : Address) (amount : Uint 128) : Prop where
  asker : addressText asker = row.askerWallet
  answerer : addressText answerer = row.answererWallet
  amount : ∃ creator ∈ creators, creator.wallet = row.answererWallet ∧
    ∃ minPrice, bigInt creator.minPriceUsdc = some minPrice ∧
      minPrice ≤ (amount : ℕ)

/-- Whether an event is an ask under the reference of `uuid`. -/
def asksFor (uuid : Text) : Contract.Event → Bool
  | .questionAsked _ ref _ _ _ _ => refUuid ref = some uuid
  | _ => false

/-- An event is the payment for a row. -/
def IsPayment (creators : List Creator) (row : Shared.Question) :
    Contract.Event → Prop
  | .questionAsked _ _ asker answerer amount _ =>
    Pays creators row asker answerer amount
  | _ => False

/-- A draft that the indexer may still open. -/
structure Waiting (config : IndexerConfig) (row : Shared.Question) : Prop where
  chain : row.chainId = config.chainId
  pending : row.status = .pendingPayment

/-- The event that will open a waiting draft: the first ask under its reference
that has not been applied. -/
def State.opener (state : State oz T) (row : Shared.Question) :
    Option Contract.Event :=
  state.unapplied.find? (asksFor row.id)

/-- The first unapplied ask under the reference of a waiting draft is its
payment, be it made for a stored draft or found by a draft that is minted. -/
def OwnPaymentFirst (deployment : Deployment) (state : State oz T) :
    Action T → Prop
  | .chain input =>
    ∀ ref answerer amount, input.request.asks = some (ref, answerer, amount) →
      succeeded (input.outcome deployment.escrow state.session.world) = true →
      ∀ row ∈ state.questions, Waiting deployment.config row →
        refUuid ref = some row.id → state.opener row = none →
          Pays state.creators row input.sender answerer amount
  | .request request =>
    ∀ row ∈ request.mints state.backend,
      row.chainId = deployment.config.chainId →
        ∀ event ∈ state.opener row, IsPayment state.creators row event
  | .index _ _ => True

/-- Every waiting draft will be opened by its payment. -/
def Awaited (deployment : Deployment) (state : State oz T) : Prop :=
  ∀ row ∈ state.questions, Waiting deployment.config row →
    ∀ event ∈ state.opener row, IsPayment state.creators row event

section Steps

variable {deployment : Deployment} {state : State oz T}

theorem asksFor_settleEvent (uuid : Text) (id : Uint 256) (ref : Bytes32)
    (question : Contract.Question) (terminal : Status) :
    asksFor uuid (settleEvent id ref question terminal) = false := by
  cases terminal <;> rfl

/-- An ask that a call announces is the caller's. -/
theorem Writes.asksFor {msg : Msg} {before after : Storage oz} {request : Call}
    {result : Option (Uint 256)} {events : List Contract.Event} {uuid : Text}
    {event : Contract.Event}
    (hwrites : Writes msg before after request result events)
    (hfind : events.find? (asksFor uuid) = some event) :
    ∃ id ref answerer amount deadline,
      event = .questionAsked id ref msg.sender answerer amount deadline ∧
        result = some id ∧ request.asks = some (ref, answerer, amount) ∧
        refUuid ref = some uuid := by
  have hasks := List.find?_some hfind
  cases hwrites with
  | ask hrequest =>
      cases List.mem_singleton.mp (List.mem_of_find?_eq_some hfind)
      rw [Platform.asksFor, decide_eq_true_eq] at hasks
      exact ⟨_, _, _, _, _, rfl, rfl, hrequest, hasks⟩
  | settle =>
      cases List.mem_singleton.mp (List.mem_of_find?_eq_some hfind)
      rw [asksFor_settleEvent] at hasks
      cases hasks
  | withdraw => cases hfind
  | administer => cases hfind

/-- An ask under the reference of a row hits the row while it waits. -/
theorem hits_of_asksFor {config : IndexerConfig} {row : Shared.Question}
    {checksum : Address → Text} {place : Place} {event : Contract.Event}
    {indexed : EscrowEvent} (hwaiting : Waiting config row)
    (hindexed : escrowEvent checksum place event = some indexed)
    (hasks : asksFor row.id event = true) : indexed.hits config row = true := by
  cases event with
  | questionAsked id ref asker answerer amount deadline =>
      rw [escrowEvent_asked] at hindexed
      cases hindexed
      rw [asksFor, decide_eq_true_eq] at hasks
      rw [EscrowEvent.hits_iff]
      exact ⟨hasks, hwaiting.chain, hwaiting.pending⟩
  | _ => cases hasks

/-- No event moves a row back to waiting. -/
theorem set_not_waiting {config : IndexerConfig} {event : EscrowEvent} {now : ℕ}
    {row : Shared.Question} : ¬ Waiting config (event.set now row) := by
  intro hwaiting
  have hpending := hwaiting.pending
  cases event with
  | asked ask => cases hpending
  | settled settle =>
      rw [EscrowEvent.set] at hpending
      simp only at hpending
      cases hname : settle.name <;> rw [hname] at hpending <;> cases hpending

theorem Awaited.chain (hlock : oz.lock.Documented) (hwired : state.Wired)
    (hawaited : Awaited deployment state) {input : HostileCall T}
    (hown : OwnPaymentFirst deployment state (.chain input)) :
    Awaited deployment (state.step deployment (.chain input)) := by
  intro row hrow hwaiting event hevent
  obtain hsame | ⟨result, stop, events, houtcome, hwrites, hevents⟩ :=
    state.chain_cases hlock deployment input
  · rw [hsame] at hevent
    exact hawaited row hrow hwaiting event hevent
  have hunapplied : (state.step deployment (.chain input)).unapplied =
      state.unapplied ++ events := by
    rw [State.unapplied, hevents]
    exact hwired.drop_append events
  rw [State.opener, hunapplied, List.find?_append] at hevent
  cases hopener : state.opener row with
  | some first =>
      rw [State.opener] at hopener
      rw [hopener, Option.some_or] at hevent
      cases hevent
      exact hawaited row hrow hwaiting event hopener
  | none =>
      have hnone := hopener
      rw [State.opener] at hopener
      rw [hopener, Option.none_or] at hevent
      obtain ⟨_, ref, answerer, amount, _, rfl, _, hrequest, huuid⟩ :=
        Writes.asksFor hwrites hevent
      apply hown ref answerer amount hrequest _ row hrow hwaiting huuid hnone
      rw [houtcome]
      rfl

theorem Awaited.request (hawaited : Awaited deployment state)
    {request : QuestionRequest}
    (hown : OwnPaymentFirst deployment state (.request request)) :
    Awaited deployment (state.step deployment (.request request)) := by
  intro row hrow hwaiting event hevent
  obtain hsame | ⟨draft, hmints, hcreators, hquestions⟩ :=
    request.postQuestions_cases state.backend
  · rw [State.creators, State.step, hsame]
    rw [State.questions, State.step, hsame] at hrow
    exact hawaited row hrow hwaiting event hevent
  · rw [State.creators, State.step, hcreators]
    rw [State.questions, State.step, hquestions] at hrow
    obtain hold | hnew := List.mem_append.mp hrow
    · exact hawaited row hold hwaiting event hevent
    · rw [← List.mem_singleton.mp hnew] at hmints
      exact hown row hmints hwaiting.chain event hevent

/-- An event leaves the rows that still wait as they were, and is not the
opener of any of them. -/
theorem waiting_of_update {event : Contract.Event} {rest : List Contract.Event}
    {indexed : EscrowEvent} {place : Place} {now : ℕ} {row : Shared.Question}
    (hnext : state.unapplied = event :: rest)
    (hindexed : escrowEvent deployment.checksum place event = some indexed)
    (hwaiting : Waiting deployment.config row)
    (hrow : row ∈ Table.update (indexed.hits deployment.config)
      (indexed.set now) state.questions) :
    row ∈ state.questions ∧ state.opener row = rest.find? (asksFor row.id) := by
  obtain ⟨hold, hmiss⟩ | ⟨old, _, _, rfl⟩ := Table.mem_update.mp hrow
  · refine ⟨hold, ?_⟩
    rw [State.opener, hnext, List.find?_cons_of_neg]
    intro hasks
    rw [hits_of_asksFor hwaiting hindexed hasks] at hmiss
    cases hmiss
  · exact absurd hwaiting set_not_waiting

theorem Awaited.index (hawaited : Awaited deployment state) (place : Place)
    (now : ℕ) : Awaited deployment (state.index deployment place now) := by
  obtain hsame | ⟨event, rest, indexed, database, hnext, hindexed, hcreators,
    hquestions, hindex⟩ := state.index_cases deployment place now
  · rw [hsame]
    exact hawaited
  intro row hrow hwaiting next hopener
  have hunapplied : (state.index deployment place now).unapplied = rest := by
    rw [hindex]
    exact (State.take_cursor_succ hnext).2
  rw [State.opener, hunapplied] at hopener
  rw [hindex] at hrow ⊢
  simp only [State.questions, State.withDatabase, hquestions] at hrow
  simp only [State.creators, State.withDatabase, hcreators]
  obtain ⟨hold, hsame⟩ := waiting_of_update hnext hindexed hwaiting hrow
  rw [← hsame] at hopener
  exact hawaited row hold hwaiting next hopener

theorem awaited_of_reachable (hlock : oz.lock.Documented)
    (hreachable : state.ReachableBy deployment (OwnPaymentFirst deployment)) :
    state.Wired ∧ Awaited deployment state := by
  apply State.reachableBy_invariant hlock _ _ hreachable
  · intro start hstart row hrow
    rw [hstart.2.1] at hrow
    cases hrow
  · intro state action hown hwired hawaited
    cases action with
    | chain input => exact hawaited.chain hlock hwired hown
    | request request => exact hawaited.request hown
    | index place now => exact hawaited.index place now

/-- A row that an index step opens was hit by an ask. -/
theorem opened_by_ask {place : Place} {now : ℕ} {row opened : Shared.Question}
    (hrow : row ∈ state.questions) (hpending : row.status = .pendingPayment)
    (hopened : opened ∈ (state.index deployment place now).questions)
    (hid : opened.id = row.id) (hopen : opened.status = .open) :
    ∃ id ref asker answerer amount deadline rest ask,
      state.unapplied =
        .questionAsked id ref asker answerer amount deadline :: rest ∧
      refUuid ref = some row.id ∧ Waiting deployment.config row ∧
      opened = (EscrowEvent.asked ask).set now row ∧
      ask.onchainId = (id : ℕ) := by
  have hunique : ∀ old ∈ state.questions, old.id = row.id → old = row := by
    intro old hold hsame
    exact List.inj_on_of_nodup_map
      state.backend.database.consistent.questions_primary hold hrow hsame
  have hchanged : opened ≠ row := by
    intro heq
    rw [heq, hpending] at hopen
    cases hopen
  obtain hsame | ⟨event, rest, indexed, database, hnext, hindexed, _,
    hquestions, hindex⟩ := state.index_cases deployment place now
  · rw [hsame] at hopened
    exact absurd (hunique opened hopened hid) hchanged
  rw [hindex] at hopened
  simp only [State.questions, State.withDatabase, hquestions] at hopened
  obtain ⟨hold, _⟩ | ⟨old, hold, hhit, rfl⟩ := Table.mem_update.mp hopened
  · exact absurd (hunique opened hold hid) hchanged
  have hold_id : (indexed.set now old).id = old.id := by cases indexed <;> rfl
  cases hunique old hold (hold_id.symm.trans hid)
  obtain ⟨huuid, hchain, hprior⟩ := EscrowEvent.hits_iff.mp hhit
  cases event with
  | questionAsked id ref asker answerer amount deadline =>
      rw [escrowEvent_asked] at hindexed
      cases hindexed
      exact ⟨_, _, _, _, _, _, _, _, hnext, huuid, ⟨hchain, hpending⟩, rfl, rfl⟩
  | questionAnswered | questionDeclined | questionCancelled
  | questionReclaimed =>
      cases hindexed
      rw [hpending] at hprior
      cases hprior
  | _ => cases hindexed

/-- If the first unapplied ask under the reference of a waiting draft is always
its payment, then a row that the indexer opens stores the id of a question that
its asker asked its answerer for at least the creator's minimum price. -/
theorem draft_opened_by_payment (hlock : oz.lock.Documented)
    (hreachable : state.ReachableBy deployment (OwnPaymentFirst deployment))
    {place : Place} {now : ℕ} {row opened : Shared.Question}
    (hrow : row ∈ state.questions) (hpending : row.status = .pendingPayment)
    (hopened : opened ∈ (state.index deployment place now).questions)
    (hid : opened.id = row.id) (hopen : opened.status = .open) :
    ∃ id : Uint 256, opened.onchainId = some (decimal id) ∧
      Pays state.creators opened
        (state.session.world.escrow.questions id).asker
        (state.session.world.escrow.questions id).answerer
        (state.session.world.escrow.questions id).amount := by
  obtain ⟨hwired, hawaited⟩ := awaited_of_reachable hlock hreachable
  obtain ⟨id, ref, asker, answerer, amount, deadline, rest, ask, hnext, huuid,
    hwaiting, hset, honchain⟩ := opened_by_ask hrow hpending hopened hid hopen
  have hopener : state.opener row =
      some (.questionAsked id ref asker answerer amount deadline) := by
    rw [State.opener, hnext, List.find?_cons_of_pos]
    rw [asksFor, decide_eq_true_eq]
    exact huuid
  have hpays : Pays state.creators row asker answerer amount :=
    hawaited row hrow hwaiting _ hopener
  have hasked : .questionAsked id ref asker answerer amount deadline ∈
      state.events := by
    rw [← state.applied_append_unapplied, hnext]
    simp
  obtain ⟨status, _, htold⟩ := hwired.recorded.lawful.asked_told hasked
  rw [hwired.recorded.told] at htold
  have hquestion := congrArg Record.question htold
  simp only [Storage.records] at hquestion
  refine ⟨id, ?_, ?_⟩
  · rw [hset, ← honchain]
    rfl
  · rw [hquestion, hset]
    exact ⟨hpays.asker, hpays.answerer, hpays.amount⟩

end Steps

namespace Sample

/-- The draft is composed and paid, but not indexed. -/
def awaiting : State .plain Unit := start.run deployment [compose, pay]

theorem awaiting_reachable :
    awaiting.ReachableBy deployment (OwnPaymentFirst deployment) := by
  refine ⟨start, [compose, pay], start_initial, ?_, rfl⟩
  refine ⟨?_, ?_, trivial⟩
  · intro row _ _ event hevent
    cases hevent
  · intro ref answerer amount hrequest _ row hrow _ _ _
    have hquestions : (start.step deployment compose).questions = [draft] := by
      decide
    rw [hquestions, List.mem_singleton] at hrow
    cases hrequest
    rw [hrow]
    refine ⟨by decide, by decide, creator, ?_, by decide, 1000000, by decide,
      by decide⟩
    exact List.mem_singleton_self creator

/-- The row of the draft once its payment is indexed. -/
def opened : Shared.Question :=
  { draft with
    onchainId := some ['1'], amountUsdc := some "5000000".toList
    status := .open, answerDeadline := some 604810, updatedAt := 30 }

end Sample

theorem draft_opened_by_payment_awaiting :
    ∃ id : Uint 256, Sample.opened.onchainId = some (decimal id) ∧
      Pays Sample.awaiting.creators Sample.opened
        (Sample.awaiting.session.world.escrow.questions id).asker
        (Sample.awaiting.session.world.escrow.questions id).answerer
        (Sample.awaiting.session.world.escrow.questions id).amount :=
  @draft_opened_by_payment _ _ _ _ OpenZeppelin.plain_documented.lock
    Sample.awaiting_reachable { blockNumber := 7, logIndex := 0, txHash := [] }
    30 Sample.draft Sample.opened (by decide) rfl (by decide) rfl rfl

namespace Sample

/-- A stranger asks another stranger under the draft's reference, for one
unit. -/
def hijacked : State .plain Unit :=
  start.run deployment [compose, call 5 10 (.askQuestion ref 6 1)]

end Sample

/-- Indexing opens the draft for a question that is not its payment in any
respect. -/
theorem stranger_opens_draft :
    ∃ row ∈ Sample.hijacked.questions, row.status = .pendingPayment ∧
      ∃ opened ∈ (Sample.hijacked.step Sample.deployment Sample.index).questions,
        opened.id = row.id ∧ opened.status = .open ∧
        opened.onchainId = some (decimal 1) ∧
        addressText (Sample.hijacked.session.world.escrow.questions 1).asker ≠
          opened.askerWallet ∧
        addressText
            (Sample.hijacked.session.world.escrow.questions 1).answerer ≠
          opened.answererWallet ∧
        (Sample.hijacked.session.world.escrow.questions 1).amount < 1000000 ∧
        bigInt Sample.creator.minPriceUsdc = some 1000000 := by
  refine ⟨Sample.draft, by decide, rfl, { Sample.draft with
    onchainId := some ['1'], amountUsdc := some ['1'], status := .open
    answerDeadline := some 604810, updatedAt := 30 }, ?_⟩
  decide

end BuyAnAnswer.Platform
