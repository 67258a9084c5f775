import BuyAnAnswer.Contract.Operator
import BuyAnAnswer.Contract.Session
import BuyAnAnswer.Core.Reordering

/-!
# Settlements in any order

Settlements of different questions do not get in each other's way.  However the
calls about them are mixed, each call does the same, and the contract and the token
end the same, as long as the calls about each question keep their order.
-/

namespace BuyAnAnswer.Contract

open BuyAnAnswer.Transaction Reordering

variable {oz : OpenZeppelin} {T : Type} {erc20 : ERC20} {self : Address}

/-- The question that a call is to settle. -/
def Call.settledId (request : Call) : Option (Uint 256) :=
  request.settles.map Prod.fst

/-- What a call did: whether it returned, and what each account was credited. -/
structure SettleOutcome where
  returned : Bool
  credits : Address → ℕ

def settleOutcome (erc20 : ERC20) (self : Address) (world : World oz erc20.Storage)
    (input : Msg × Call) : SettleOutcome where
  returned := succeeded (call (erc20.asToken oz self input.1.timestamp) self
    input.1 input.2 world)
  credits account :=
    (perform erc20 self world input).escrow.withdrawable account -
      world.escrow.withdrawable account

/-- Worlds that only the lock and the order in the log of events about different
questions tell apart. -/
structure World.Level (first second : World oz T) : Prop where
  escrow : ∃ lock, second.escrow = { first.escrow with lock }
  token : second.token = first.token
  log : Reorders Event.settledId first.log second.log

theorem World.Level.refl (world : World oz T) : world.Level world :=
  ⟨⟨world.escrow.lock, rfl⟩, rfl, .refl _⟩

/-! ## One settlement -/

section Settles

variable {msg : Msg} {id other : Uint 256} {terminal : Status}
variable {start stop : World oz T}

/-- A settlement determines all it writes but the lock. -/
theorem Settles.stop_eq (hsettles : Settles msg id terminal start stop) :
    ∃ lock credits, Credited start.escrow.withdrawable credits
        (recipientOf (start.escrow.questions id) terminal)
        ((start.escrow.questions id).amount - settleFee start.escrow id terminal)
        start.escrow.feeAddress (settleFee start.escrow id terminal) ∧
      stop = (start.settleQuestion id terminal credits
        (settleEvent id (start.escrow.questionRef id) (start.escrow.questions id)
          terminal)).setLock lock := by
  obtain ⟨_, _, _, _, ⟨_, _, payout, credits, hpayout, hcredits, rfl⟩, rfl⟩ := hsettles
  have hshare : payout =
      (start.escrow.questions id).amount - settleFee start.escrow id terminal := by omega
  rw [hshare] at hcredits
  exact ⟨_, credits, hcredits, rfl⟩

theorem Settles.credits (hsettles : Settles msg id terminal start stop)
    (account : Address) :
    (stop.escrow.withdrawable account : ℕ) - start.escrow.withdrawable account =
      (if account = recipientOf (start.escrow.questions id) terminal then
        (start.escrow.questions id).amount - settleFee start.escrow id terminal else 0) +
      (if account = start.escrow.feeAddress then settleFee start.escrow id terminal
        else 0) := by
  obtain ⟨_, credits, hcredits, rfl⟩ := hsettles.stop_eq
  have haccount := hcredits account
  simp only [World.setLock, World.settleQuestion]
  omega

/-- Other questions are not touched. -/
theorem Settles.elsewhere (hsettles : Settles msg id terminal start stop)
    (hother : other ≠ id) :
    stop.escrow.questions other = start.escrow.questions other := by
  rw [hsettles.questions, Function.update_of_ne hother]

theorem Settles.feeAddress (hsettles : Settles msg id terminal start stop) :
    stop.escrow.feeAddress = start.escrow.feeAddress := by
  obtain ⟨_, _, _, rfl⟩ := hsettles.stop_eq
  rfl

theorem Settles.settleFee_elsewhere (hsettles : Settles msg id terminal start stop)
    (hother : other ≠ id) (status : Status) :
    settleFee stop.escrow other status = settleFee start.escrow other status := by
  rw [settleFee, settleFee, hsettles.elsewhere hother]
  obtain ⟨_, _, _, rfl⟩ := hsettles.stop_eq
  cases status <;> rfl

end Settles

/-! ## Two settlements -/

section Pairs

variable {msg msg' : Msg} {id id' : Uint 256} {terminal terminal' : Status}

theorem World.Level.settles {first second stop stop' : World oz T}
    (hlevel : first.Level second) (hfirst : Settles msg id terminal first stop)
    (hsecond : Settles msg id terminal second stop') : stop.Level stop' := by
  obtain ⟨⟨_, hescrow⟩, htoken, hlog⟩ := hlevel
  obtain ⟨_, credits, hcredits, rfl⟩ := hfirst.stop_eq
  obtain ⟨lock, credits', hcredits', rfl⟩ := hsecond.stop_eq
  have hfee : settleFee second.escrow id terminal = settleFee first.escrow id terminal := by
    rw [hescrow]
    cases terminal <;> rfl
  rw [hfee, hescrow] at hcredits'
  have hsame : credits' = credits := hcredits'.unique hcredits
  refine ⟨⟨lock, ?_⟩, htoken, ?_⟩
  · simp only [World.setLock, World.settleQuestion, hescrow, hsame]
  · simp only [World.setLock, World.settleQuestion, hescrow]
    exact hlog.append_right _

/-- Settlements of two questions commute. -/
theorem Settles.swap {start one other both both' : World oz T} (hids : id ≠ id')
    (hone : Settles msg id terminal start one)
    (hboth : Settles msg' id' terminal' one both)
    (hother : Settles msg' id' terminal' start other)
    (hboth' : Settles msg id terminal other both') : both.Level both' := by
  have hlater := hone.elsewhere (Ne.symm hids)
  have hlaterFee := hone.settleFee_elsewhere (Ne.symm hids) terminal'
  have hlaterAddress := hone.feeAddress
  have hlater' := hother.elsewhere hids
  have hlaterFee' := hother.settleFee_elsewhere hids terminal
  have hlaterAddress' := hother.feeAddress
  obtain ⟨_, first, hfirst, rfl⟩ := hone.stop_eq
  obtain ⟨_, second, hsecond, rfl⟩ := hboth.stop_eq
  obtain ⟨_, first', hfirst', rfl⟩ := hother.stop_eq
  obtain ⟨lock, second', hsecond', rfl⟩ := hboth'.stop_eq
  rw [hlater, hlaterFee, hlaterAddress] at hsecond
  rw [hlater', hlaterFee', hlaterAddress'] at hsecond'
  have hcredits : second' = second := by
    funext account
    apply Fin.ext
    have hstep := hfirst account
    have hnext := hsecond account
    have hstep' := hfirst' account
    have hnext' := hsecond' account
    simp only [World.setLock, World.settleQuestion] at hnext hnext'
    omega
  refine ⟨⟨lock, ?_⟩, rfl, ?_⟩
  · rw [hcredits]
    simp only [World.setLock, World.settleQuestion, Function.update_of_ne hids,
      Function.update_of_ne (Ne.symm hids)]
    rw [Function.update_comm hids]
  · rw [hlater, hlater']
    simp only [World.setLock, World.settleQuestion, List.append_assoc]
    apply Reorders.append_left
    apply Reorders.swap
    rw [settleEvent_settledId, settleEvent_settledId]
    simpa using hids

end Pairs

/-! ## Calls -/

section Calls

variable {first second : World oz erc20.Storage} {input : Msg × Call}
variable {id : Uint 256} {terminal : Status}

theorem perform_settles (self : Address) (world : World oz erc20.Storage)
    (hrequest : input.2.settles = some (id, terminal)) :
    (settleOutcome erc20 self world input).returned = false ∧
        perform erc20 self world input = world ∨
      (settleOutcome erc20 self world input).returned = true ∧
        Settles input.1 id terminal world (perform erc20 self world input) := by
  rw [settleOutcome]
  obtain ⟨⟨failure, hcall⟩, hsame⟩ | ⟨result, hcall⟩ := perform_cases self world input
  · rw [hcall]
    exact .inl ⟨rfl, hsame⟩
  · have hsettles := (call_eq_ok.mp hcall).settles hrequest
    rw [hcall]
    exact .inr ⟨rfl, hsettles⟩

/-- A settlement that returns in both worlds or in neither. -/
theorem perform_alike (hrequest : input.2.settles = some (id, terminal))
    (hreturned : (settleOutcome erc20 self second input).returned =
      (settleOutcome erc20 self first input).returned) :
    perform erc20 self first input = first ∧ perform erc20 self second input = second ∨
      Settles input.1 id terminal first (perform erc20 self first input) ∧
        Settles input.1 id terminal second (perform erc20 self second input) := by
  obtain ⟨hfail, hsame⟩ | ⟨hok, hsettles⟩ := perform_settles self first hrequest
  · obtain ⟨_, hsame'⟩ | ⟨hok', _⟩ := perform_settles self second hrequest
    · exact .inl ⟨hsame, hsame'⟩
    · rw [hfail, hok'] at hreturned
      cases hreturned
  · obtain ⟨hfail', _⟩ | ⟨_, hsettles'⟩ := perform_settles self second hrequest
    · rw [hok, hfail'] at hreturned
      cases hreturned
    · exact .inr ⟨hsettles, hsettles'⟩

/-- Whether a settlement returns depends on its question and the pause. -/
theorem Sound.returned_eq (hlock : oz.lock.Documented) (self : Address)
    (hfirst : Sound first.escrow) (hsecond : Sound second.escrow)
    (hrequest : input.2.settles = some (id, terminal))
    (hquestion : second.escrow.questions id = first.escrow.questions id)
    (hpausable : second.escrow.pausable = first.escrow.pausable) :
    (settleOutcome erc20 self second input).returned =
      (settleOutcome erc20 self first input).returned := by
  rw [Bool.eq_iff_iff]
  simp only [settleOutcome]
  rw [hfirst.settle_returns_iff hlock hrequest, hsecond.settle_returns_iff hlock hrequest,
    hquestion, hpausable]

theorem Sound.respects_level (hlock : oz.lock.Documented) (self : Address)
    (hfirst : Sound first.escrow) (hsecond : Sound second.escrow)
    (hlevel : first.Level second) (hrequest : input.2.settles = some (id, terminal)) :
    settleOutcome erc20 self first input = settleOutcome erc20 self second input ∧
      (perform erc20 self first input).Level (perform erc20 self second input) := by
  obtain ⟨lock, hescrow⟩ := hlevel.escrow
  have hquestion : second.escrow.questions id = first.escrow.questions id := by rw [hescrow]
  have hpausable : second.escrow.pausable = first.escrow.pausable := by rw [hescrow]
  have hreturned := hfirst.returned_eq hlock self hsecond hrequest hquestion hpausable
  have hnext : (perform erc20 self first input).Level (perform erc20 self second input) := by
    obtain ⟨hsame, hsame'⟩ | ⟨hsettles, hsettles'⟩ := perform_alike hrequest hreturned
    · rw [hsame, hsame']
      exact hlevel
    · exact hlevel.settles hsettles hsettles'
  refine ⟨?_, hnext⟩
  obtain ⟨later, hlater⟩ := hnext.escrow
  have hcredits : (settleOutcome erc20 self first input).credits =
      (settleOutcome erc20 self second input).credits := by
    simp only [settleOutcome, hlater, hescrow]
  exact congrArg₂ SettleOutcome.mk hreturned.symm hcredits

end Calls

section Aside

variable {world : World oz erc20.Storage} {one other : Msg × Call}
variable {id id' : Uint 256} {terminal terminal' : Status}

/-- A settlement does the same before and after that of another question. -/
theorem Sound.outcome_aside (hlock : oz.lock.Documented) (self : Address)
    (hsound : Sound world.escrow) (hids : id ≠ id')
    (hone : one.2.settles = some (id, terminal))
    (hother : other.2.settles = some (id', terminal')) :
    settleOutcome erc20 self (perform erc20 self world one) other =
      settleOutcome erc20 self world other := by
  obtain ⟨_, hsame⟩ | ⟨_, hsettles⟩ := perform_settles self world hone
  · rw [hsame]
  · have hasks := asks_none_of_operated (.inl (Option.isSome_of_eq_some hone))
    have hquestion := hsettles.elsewhere (Ne.symm hids)
    have hreturned := hsound.returned_eq hlock self (hsound.after_call hlock hasks) hother
      hquestion hsettles.pausable
    refine congrArg₂ SettleOutcome.mk hreturned ?_
    funext account
    obtain ⟨hsame, hsame'⟩ | ⟨hnext, hnext'⟩ := perform_alike hother hreturned
    · rw [hsame, hsame', Nat.sub_self, Nat.sub_self]
    · rw [hnext.credits, hnext'.credits, hquestion, hsettles.feeAddress,
        hsettles.settleFee_elsewhere (Ne.symm hids)]

theorem Sound.perform_swap (hlock : oz.lock.Documented) (self : Address)
    (hsound : Sound world.escrow) (hids : id ≠ id')
    (hone : one.2.settles = some (id, terminal))
    (hother : other.2.settles = some (id', terminal')) :
    (perform erc20 self (perform erc20 self world one) other).Level
      (perform erc20 self (perform erc20 self world other) one) := by
  have hafter := congrArg SettleOutcome.returned
    (hsound.outcome_aside hlock self hids hone hother)
  have hafter' := congrArg SettleOutcome.returned
    (hsound.outcome_aside hlock self (Ne.symm hids) hother hone)
  obtain ⟨hsame, hsame'⟩ | ⟨hsettles, hboth'⟩ := perform_alike hone hafter'
  · rw [hsame, hsame']
    exact .refl _
  · obtain ⟨hsame, hsame'⟩ | ⟨hsettles', hboth⟩ := perform_alike hother hafter
    · rw [hsame, hsame']
      exact .refl _
    · exact hsettles.swap hids hboth hsettles' hboth'

end Aside

theorem settlements_commute (hlock : oz.lock.Documented) (self : Address) :
    Commutes (perform erc20 self) (settleOutcome erc20 self)
      (fun input : Msg × Call => input.2.settledId)
      (fun input => input.2.settles.isSome = true)
      (fun world : World oz erc20.Storage => Sound world.escrow) World.Level where
  refl := .refl
  trans := by
    rintro first second third ⟨⟨_, hfirst⟩, htoken, hlog⟩
      ⟨⟨lock, hsecond⟩, htoken', hlog'⟩
    refine ⟨⟨lock, ?_⟩, htoken'.trans htoken, hlog.trans hlog'⟩
    rw [hsecond, hfirst]
  keeps hsettles hsound := hsound.after_call hlock (asks_none_of_operated (.inl hsettles))
  respects hsettles hfirst hsecond hlevel := by
    obtain ⟨⟨id, terminal⟩, hrequest⟩ := Option.isSome_iff_exists.mp hsettles
    exact hfirst.respects_level hlock self hsecond hlevel hrequest
  aside hone hother hkeys hsound := by
    obtain ⟨⟨id, terminal⟩, hone⟩ := Option.isSome_iff_exists.mp hone
    obtain ⟨⟨id', terminal'⟩, hother⟩ := Option.isSome_iff_exists.mp hother
    apply hsound.outcome_aside hlock self _ hone hother
    simpa [Call.settledId, hone, hother] using hkeys
  swaps hone hother hkeys hsound := by
    obtain ⟨⟨id, terminal⟩, hone⟩ := Option.isSome_iff_exists.mp hone
    obtain ⟨⟨id', terminal'⟩, hother⟩ := Option.isSome_iff_exists.mp hother
    apply hsound.perform_swap hlock self _ hone hother
    simpa [Call.settledId, hone, hother] using hkeys

/-- From any reachable state, two sequences of settlement calls in which the calls
about each question are the same in the same order: each call does the same in both,
and they leave the same storage, the same token and the same events about each
question, in the same order. -/
theorem settlements_interleave (hlock : oz.lock.Documented)
    (hstandard : erc20.Standard) {system : System oz erc20}
    (hreachable : Reachable erc20 self system) {first second : List (Msg × Call)}
    (hfirst : ∀ input ∈ first, input.2.settles.isSome = true)
    (hsecond : ∀ input ∈ second, input.2.settles.isSome = true)
    (horder : ∀ id, (first.filter fun input => input.2.settledId = some id) =
      second.filter fun input => input.2.settledId = some id) :
    (performAll erc20 self system.world first).Level
        (performAll erc20 self system.world second) ∧
      ∀ id,
        ((answers (perform erc20 self) (settleOutcome erc20 self) system.world
          first).filter fun entry => entry.1.2.settledId = some id) =
        (answers (perform erc20 self) (settleOutcome erc20 self) system.world
          second).filter fun entry => entry.1.2.settledId = some id := by
  have hsound := (hreachable.solvent hlock hstandard).sound
  have hnone (inputs : List (Msg × Call))
      (hinputs : ∀ input ∈ inputs, input.2.settles.isSome = true) :
      (inputs.filter fun input => input.2.settledId = none) = [] := by
    rw [List.filter_eq_nil_iff]
    intro input hinput hnone
    have hsome := hinputs input hinput
    simp only [Call.settledId, Option.map_eq_none_iff, decide_eq_true_eq] at hnone
    rw [hnone] at hsome
    cases hsome
  have hreorders : Reorders (fun input : Msg × Call => input.2.settledId) first second := by
    apply Reorders.of_filter_eq
    intro value
    cases value with
    | none => rw [hnone first hfirst, hnone second hsecond]
    | some id => exact horder id
  obtain ⟨hanswers, hend⟩ :=
    (settlements_commute hlock self).run_reorders hreorders hsound hfirst
  exact ⟨hend, fun id => hanswers.filter_eq (some id)⟩

/-! ## Two open questions -/

namespace Sample

def askAnother : Action .plain escrow :=
  .call asker 10 (.askQuestion 8 answerer.1 300)

def askedTwice : System .plain .plain := deployed.run .plain escrow [ask, askAnother]

theorem askedTwice_reachable : Reachable .plain escrow askedTwice :=
  ⟨args, token, 0, deployed, [ask, askAnother], deploy_args, rfl⟩

def cancelInput : Msg × Call :=
  ({ sender := asker.1, timestamp := 30 }, .cancelQuestion 2)

end Sample

theorem settlements_interleave_pair :
    (performAll .plain Sample.escrow Sample.askedTwice.world
        [Sample.settleInput, Sample.cancelInput]).Level
      (performAll .plain Sample.escrow Sample.askedTwice.world
        [Sample.cancelInput, Sample.settleInput]) ∧
    ((performAll .plain Sample.escrow Sample.askedTwice.world
      [Sample.settleInput, Sample.cancelInput]).escrow.withdrawable 2 : ℕ) = 24 := by
  have hfirst : ∀ input ∈ [Sample.settleInput, Sample.cancelInput],
      input.2.settles.isSome = true := by decide
  have hsecond : ∀ input ∈ [Sample.cancelInput, Sample.settleInput],
      input.2.settles.isSome = true := by decide
  have hkeys : Sample.settleInput.2.settledId ≠ Sample.cancelInput.2.settledId := by decide
  have horder (id : Uint 256) := Reorders.filter_eq
    (@Reorders.swap _ _ (fun input : Msg × Call => input.2.settledId) _ _ hkeys []) (some id)
  exact ⟨(settlements_interleave OpenZeppelin.plain_documented.lock ERC20.plain_standard
    Sample.askedTwice_reachable hfirst hsecond horder).1, by decide⟩

end BuyAnAnswer.Contract
