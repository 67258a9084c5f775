import BuyAnAnswer.Platform.System
import BuyAnAnswer.Workers.System

/-!
# What a deployed escrow emits

The indexer reads the lifecycle events of one execution of the escrow, mined in
their order.  Anybody may ask under any ref, but ids are given once and in few
enough digits, amounts are bounded by their type, and a ref that settles was
asked under before.
-/

namespace BuyAnAnswer.Workers

open Contract Shared Indexer Text BuyAnAnswer.Transaction

variable {oz : OpenZeppelin} {T : Type} {deployed : Address}

/-- The escrow's events are those of an execution with fewer than `10 ^ 39`
questions. -/
structure Emission (deployed : Address) (checksum : Address → Text)
    (session : Session oz T) (escrow : Escrow) : Prop where
  documented : oz.lock.Documented
  reachable : session.Reachable deployed
  few : (session.world.escrow.nextId : ℕ) ≤ 10 ^ 39
  emitted : List.Forall₂ (fun event indexed =>
      ∃ place, Platform.escrowEvent checksum place event = some indexed)
    session.world.questionLog escrow.events

/-- A stream of events that the indexer can take. -/
structure Escrow.WellFormed (escrow : Escrow) : Prop where
  unique : ∀ ask other, .asked ask ∈ escrow.events → .asked other ∈ escrow.events →
    ask.onchainId = other.onchainId → ask = other
  ids : ∀ ask, .asked ask ∈ escrow.events → ask.onchainId < 10 ^ 39
  amounts : ∀ ask, .asked ask ∈ escrow.events → ask.amount < 10 ^ 39
  asksFirst : ∀ before settle after,
    escrow.events = before ++ .settled settle :: after →
      ∃ ask, .asked ask ∈ before ∧ ask.ref = settle.ref

/-- Every chain's escrow emits a well-formed stream. -/
def Network.WellFormed (network : Network) : Prop :=
  ∀ chainId, (network chainId).WellFormed

/-- Every chain's escrow is a deployed one. -/
def Network.Deployed (network : Network) : Prop :=
  ∀ chainId, ∃ (oz : OpenZeppelin) (T : Type) (session : Session oz T)
    (deployed : Address) (checksum : Address → Text),
    Emission deployed checksum session (network chainId)

/-! ## Lists in step -/

section InStep

variable {A B : Type} {R : A → B → Prop} {left : List A} {right : List B}

theorem exists_left_of_mem (hstep : List.Forall₂ R left right) {item : B}
    (hitem : item ∈ right) : ∃ other ∈ left, R other item := by
  induction hstep with
  | nil => cases hitem
  | cons hhead _ ih =>
      obtain rfl | htail := List.mem_cons.mp hitem
      · exact ⟨_, List.mem_cons_self, hhead⟩
      · obtain ⟨other, hother, hrelated⟩ := ih htail
        exact ⟨other, List.mem_cons_of_mem _ hother, hrelated⟩

theorem pairwise_of_step {P : A → A → Prop} {Q : B → B → Prop}
    (hstep : List.Forall₂ R left right) (hleft : left.Pairwise P)
    (hcarries : ∀ {first second earlier later}, R first earlier → R second later →
      P first second → Q earlier later) : right.Pairwise Q := by
  induction hstep with
  | nil => exact List.Pairwise.nil
  | cons hhead htail ih =>
      obtain ⟨hfirst, hrest⟩ := List.pairwise_cons.mp hleft
      refine List.pairwise_cons.mpr ⟨?_, ih hrest⟩
      intro later hlater
      obtain ⟨second, hsecond, hrelated⟩ := exists_left_of_mem htail hlater
      exact hcarries hhead hrelated (hfirst second hsecond)

end InStep

/-! ## Asks in the log -/

/-- The question an event announces. -/
def askedId : Contract.Event → Option (Uint 256)
  | .questionAsked id _ _ _ _ _ => some id
  | _ => none

theorem askedId_settleEvent {terminal : Status} (id : Uint 256) (ref : Bytes32)
    (question : Contract.Question) :
    askedId (settleEvent id ref question terminal) = none := by
  cases terminal <;> rfl

section Log

variable {log : List Contract.Event}

/-- No id is given twice. -/
theorem lawful_asks_distinct (hlawful : Lawful log) :
    log.Pairwise fun first second =>
      ∀ id, askedId first = some id → askedId second ≠ some id := by
  induction log using List.reverseRecOn with
  | nil => exact List.Pairwise.nil
  | append_singleton log event ih =>
      rw [List.pairwise_append]
      refine ⟨ih hlawful.of_append, List.pairwise_singleton _ _, ?_⟩
      intro first hfirst second hsecond id hasked hagain
      rw [List.mem_singleton.mp hsecond] at hagain
      have hfollows := hlawful log event (List.prefix_refl _)
      cases hfollows with
      | asked hnew =>
          cases hagain
          cases first with
          | questionAsked =>
              cases hasked
              obtain ⟨status, hstatus, htold⟩ := hlawful.of_append.asked_told hfirst
              rw [htold] at hnew
              exact hstatus hnew
          | _ => cases hasked
      | settled hopen hsettled =>
          rw [askedId_settleEvent] at hagain
          cases hagain

/-- What the log tells was asked. -/
theorem lawful_told_asked (hlawful : Lawful log) {id : Uint 256}
    (hstatus : (told log id).question.status ≠ .none) :
    ∃ asker answerer amount deadline,
      .questionAsked id (told log id).ref asker answerer amount deadline ∈ log := by
  induction log using List.reverseRecOn with
  | nil => exact absurd rfl hstatus
  | append_singleton log event ih =>
      have hfollows := hlawful log event (List.prefix_refl _)
      rw [told_append] at hstatus ⊢
      have hearlier : (event.tell (told log) id).ref = (told log id).ref →
          (told log id).question.status ≠ .none → ∃ asker answerer amount deadline,
            .questionAsked id (event.tell (told log) id).ref asker answerer amount
              deadline ∈ log ++ [event] := by
        intro href hbefore
        obtain ⟨asker, answerer, amount, deadline, hasked⟩ :=
          ih hlawful.of_append hbefore
        rw [href]
        exact ⟨asker, answerer, amount, deadline, List.mem_append_left _ hasked⟩
      cases hfollows with
      | @asked other ref asker answerer amount deadline hnew =>
          by_cases hid : id = other
          · subst hid
            refine ⟨asker, answerer, amount, deadline, ?_⟩
            simp [Event.tell]
          · apply hearlier
            · simp [Event.tell, hid]
            · simpa [Event.tell, hid] using hstatus
      | @settled other terminal hopen hsettled =>
          rw [tell_settleEvent hsettled, conclude] at hstatus hearlier ⊢
          by_cases hid : id = other
          · subst hid
            apply hearlier
            · rw [Function.update_self]
            · rw [hopen]
              simp
          · apply hearlier
            · rw [Function.update_of_ne hid]
            · rwa [Function.update_of_ne hid] at hstatus

end Log

/-! ## The stream -/

section Stream

variable {checksum : Address → Text} {session : Session oz T} {escrow : Escrow}

/-- An indexed ask comes from an ask of the log. -/
theorem escrowEvent_eq_asked {place : Place} {event : Contract.Event}
    {ask : QuestionAskedEvent}
    (hindexed : Platform.escrowEvent checksum place event = some (.asked ask)) :
    ∃ (id : Uint 256) (ref : Bytes32) (asker answerer : Address)
      (amount : Uint 128) (deadline : Uint 64),
      event = .questionAsked id ref asker answerer amount deadline ∧
        ask.onchainId = id ∧ ask.ref = reqHex (wordText ref) ∧
        ask.amount = amount := by
  cases event with
  | questionAsked id ref asker answerer amount deadline =>
      cases hindexed
      exact ⟨id, ref, asker, answerer, amount, deadline, rfl, rfl, rfl, rfl⟩
  | questionAnswered | questionDeclined | questionCancelled | questionReclaimed =>
      cases hindexed
  | withdrawn | answerFeeUpdated | cancelFeeUpdated | answerWindowUpdated
  | feeAddressUpdated => cases hindexed

theorem Emission.exists_asked (hemission : Emission deployed checksum session escrow)
    {ask : QuestionAskedEvent} (hask : .asked ask ∈ escrow.events) :
    ∃ (id : Uint 256) (ref : Bytes32) (asker answerer : Address)
      (amount : Uint 128) (deadline : Uint 64),
      .questionAsked id ref asker answerer amount deadline ∈
          session.world.questionLog ∧
        ask.onchainId = id ∧ ask.ref = reqHex (wordText ref) ∧
        ask.amount = amount := by
  obtain ⟨event, hevent, place, hindexed⟩ := exists_left_of_mem hemission.emitted hask
  obtain ⟨id, ref, asker, answerer, amount, deadline, rfl, hfacts⟩ :=
    escrowEvent_eq_asked hindexed
  exact ⟨id, ref, asker, answerer, amount, deadline, hevent, hfacts⟩

/-- Given ids are below the next one. -/
theorem Emission.id_lt (hemission : Emission deployed checksum session escrow)
    {ask : QuestionAskedEvent} (hask : .asked ask ∈ escrow.events) :
    ask.onchainId < 10 ^ 39 := by
  have hrecorded := hemission.reachable.recorded hemission.documented
  obtain ⟨id, _, _, _, _, _, hasked, hid, _⟩ := hemission.exists_asked hask
  obtain ⟨status, hstatus, htold⟩ := hrecorded.lawful.asked_told hasked
  have hstored : (session.world.escrow.questions id).status ≠ .none := by
    have hrecords := congrFun hrecorded.told id
    rw [htold] at hrecords
    have hquestion := congrArg Record.question hrecords
    rw [show session.world.escrow.questions id = _ from hquestion.symm]
    exact hstatus
  have hassigned := mt (hrecorded.dense.unassigned id).mpr hstored
  have hfew := hemission.few
  have hlt : (id : ℕ) < session.world.escrow.nextId := by
    by_contra hge
    exact hassigned (.inr (Nat.le_of_not_lt hge))
  omega

/-- Asks under one id are the same. -/
def AskedOnce (first second : EscrowEvent) : Prop :=
  ∀ ask other, first = .asked ask → second = .asked other →
    ask.onchainId = other.onchainId → ask = other

instance : Std.Symm AskedOnce where
  symm := fun _ _ honce ask other hask hother hid =>
    (honce other ask hother hask hid.symm).symm

theorem Emission.unique (hemission : Emission deployed checksum session escrow)
    {ask other : QuestionAskedEvent} (hask : .asked ask ∈ escrow.events)
    (hother : .asked other ∈ escrow.events)
    (hid : ask.onchainId = other.onchainId) : ask = other := by
  have hlawful := (hemission.reachable.recorded hemission.documented).lawful
  have hdistinct : escrow.events.Pairwise AskedOnce := by
    refine pairwise_of_step hemission.emitted (lawful_asks_distinct hlawful) ?_
    rintro first second _ _ ⟨_, hfirst⟩ ⟨_, hsecond⟩ hdiffer ask other rfl rfl hsame
    obtain ⟨id, _, _, _, _, _, rfl, hid, _⟩ := escrowEvent_eq_asked hfirst
    obtain ⟨id', _, _, _, _, _, rfl, hid', _⟩ := escrowEvent_eq_asked hsecond
    have heq : id = id' := Fin.ext (hid.symm.trans (hsame.trans hid'))
    exact absurd (congrArg some heq).symm (hdiffer id rfl)
  have hsame : ∀ event ∈ escrow.events, AskedOnce event event := by
    rintro event _ ask other rfl hother _
    cases hother
    rfl
  exact hdistinct.forall_of_forall hsame hask hother ask other rfl rfl hid

theorem Emission.asksFirst (hemission : Emission deployed checksum session escrow)
    {before after : List EscrowEvent} {settle : QuestionSettledEvent}
    (hevents : escrow.events = before ++ .settled settle :: after) :
    ∃ ask, .asked ask ∈ before ∧ ask.ref = settle.ref := by
  have hlawful := (hemission.reachable.recorded hemission.documented).lawful
  have hemitted := hemission.emitted
  rw [hevents] at hemitted
  generalize session.world.questionLog = log at hlawful hemitted
  have hpast := List.forall₂_take_append log before _ hemitted
  have hrest := List.forall₂_drop_append log before _ hemitted
  have hlog := List.take_append_drop before.length log
  generalize log.take before.length = past at hpast hlog
  generalize log.drop before.length = rest at hrest hlog
  obtain ⟨event, future, ⟨place, hindexed⟩, _, rfl⟩ :=
    List.forall₂_cons_right_iff.mp hrest
  subst hlog
  have hfollows := hlawful past event ⟨future, by simp⟩
  cases hfollows with
  | asked hnew => cases hindexed
  | @settled id terminal hopen hsettled =>
      have hbefore : Lawful past := fun earlier next hbegins =>
        hlawful earlier next (hbegins.trans (List.prefix_append _ _))
      obtain ⟨_, _, _, _, hasked⟩ := lawful_told_asked hbefore
        (by rw [hopen]; simp)
      have hback : List.Forall₂ (fun indexed event =>
          ∃ place, Platform.escrowEvent checksum place event = some indexed)
          before past := hpast.flip
      obtain ⟨indexed, hmem, place', hask⟩ := exists_left_of_mem hback hasked
      rw [Platform.escrowEvent_settleEvent hsettled] at hindexed
      cases hindexed
      cases hask
      exact ⟨_, hmem, rfl⟩

theorem Emission.wellFormed (hemission : Emission deployed checksum session escrow) :
    escrow.WellFormed where
  unique := fun _ _ => hemission.unique
  ids := fun _ => hemission.id_lt
  amounts := by
    intro ask hask
    obtain ⟨_, _, _, _, amount, _, _, _, _, hamount⟩ := hemission.exists_asked hask
    rw [hamount]
    exact amount.isLt.trans (by norm_num)
  asksFirst := fun _ _ _ => hemission.asksFirst

end Stream

theorem Network.Deployed.wellFormed {network : Network} (hdeployed : network.Deployed) :
    network.WellFormed := by
  intro chainId
  obtain ⟨_, _, _, _, _, hemission⟩ := hdeployed chainId
  exact hemission.wellFormed

end BuyAnAnswer.Workers
