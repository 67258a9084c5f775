import BuyAnAnswer.Contract.Session

/-!
# The event log

Replaying the events rebuilds the ledger.  The settle events carry no amount, so
the replay recovers the credits from the recorded question and from the rates
and the fee address announced before the settlement.  A withdrawal clears the
credit before the token runs and announces it afterwards; in between the replay
still shows the old credits, which is why the invariant takes the credits as an
argument.
-/

namespace BuyAnAnswer.Contract

open BuyAnAnswer.Transaction

variable {oz : OpenZeppelin} {T : Type} {self : Address}

/-- The ledger as an observer of the events knows it. -/
structure Mirror where
  nextId : Uint 256
  questions : Uint 256 → Question
  questionRef : Uint 256 → Bytes32
  withdrawable : Address → ℕ
  feeAddress : Address
  answerWindow : Uint 64
  answerFeeBps : Uint 16
  cancelFeeBps : Uint 16

namespace Mirror

/-- The ledger at deployment. -/
def initial (args : ConstructorArgs) : Mirror where
  nextId := 1
  questions := fun _ => .unwritten
  questionRef := fun _ => 0
  withdrawable := fun _ => 0
  feeAddress := args.feeAddress
  answerWindow := args.answerWindow
  answerFeeBps := args.answerFeeBps
  cancelFeeBps := args.cancelFeeBps

/-- Give question `id` its final status and share its amount at `bps`. -/
def settle (mirror : Mirror) (id : Uint 256) (terminal : Status)
    (bps : Uint 16) : Mirror :=
  let question := mirror.questions id
  let fee := feeShare question.amount bps
  { mirror with
    questions := Function.update mirror.questions id
      { question with status := terminal }
    withdrawable := fun account =>
      mirror.withdrawable account +
        (if account = recipientOf question terminal then question.amount - fee
          else 0) +
        (if account = mirror.feeAddress then fee else 0) }

def apply (mirror : Mirror) : Event → Mirror
  | .questionAsked id ref asker answerer amount deadline =>
    { mirror with
      nextId := id + 1
      questions := Function.update mirror.questions id
        { asker, answerer, amount, deadline, status := .open }
      questionRef := Function.update mirror.questionRef id ref }
  | .questionAnswered id _ _ => mirror.settle id .answered mirror.answerFeeBps
  | .questionDeclined id _ => mirror.settle id .declined 0
  | .questionCancelled id _ => mirror.settle id .cancelled mirror.cancelFeeBps
  | .questionReclaimed id _ => mirror.settle id .reclaimed 0
  | .withdrawn who amount =>
    { mirror with
      withdrawable := Function.update mirror.withdrawable who
        (mirror.withdrawable who - amount) }
  | .answerFeeUpdated bps => { mirror with answerFeeBps := bps }
  | .cancelFeeUpdated bps => { mirror with cancelFeeBps := bps }
  | .answerWindowUpdated window => { mirror with answerWindow := window }
  | .feeAddressUpdated feeAddress => { mirror with feeAddress }

end Mirror

/-- The fold over the event log, from the constructor arguments. -/
def replay (args : ConstructorArgs) (log : List Event) : Mirror :=
  log.foldl Mirror.apply (.initial args)

/-- The ledger as the contract stores it, but with the given credits. -/
def Storage.viewWith (escrow : Storage oz) (credits : Address → ℕ) : Mirror where
  nextId := escrow.nextId
  questions := escrow.questions
  questionRef := escrow.questionRef
  withdrawable := credits
  feeAddress := escrow.feeAddress
  answerWindow := escrow.answerWindow
  answerFeeBps := escrow.answerFeeBps
  cancelFeeBps := escrow.cancelFeeBps

/-- The ledger as the contract stores it. -/
def Storage.view (escrow : Storage oz) : Mirror :=
  escrow.viewWith fun account => escrow.withdrawable account

/-- The log tells everything in storage except the credits, for which it tells
`credits`. -/
def Told (args : ConstructorArgs) (credits : Address → ℕ) (world : World oz T) :
    Prop :=
  replay args world.log = world.escrow.viewWith credits

theorem replay_append (args : ConstructorArgs) (log : List Event)
    (event : Event) : replay args (log ++ [event]) = (replay args log).apply event := by
  rw [replay, List.foldl_append]
  rfl

section Told

variable {args : ConstructorArgs} {credits : Address → ℕ} {msg : Msg}
variable {request : Call} {start stop : World oz T}

theorem Administers.told (hadministers : Administers msg start request stop)
    (htold : Told args credits start) : Told args credits stop := by
  rw [Told] at htold ⊢
  cases hadministers with
  | setAnswerFee | setCancelFee | setAnswerWindow | setFeeAddress =>
      rw [World.announce, replay_append, htold]
      rfl
  | pause | unpause | transferOwnership | acceptOwnership | renounceOwnership =>
      rw [htold]
      rfl

theorem Meanwhile.told (hmeanwhile : Meanwhile start stop)
    (htold : Told args credits start) : Told args credits stop := by
  apply @Meanwhile.invariant _ _ _ _ (Told args credits) hmeanwhile htold
  · intro _ _ hworld
    exact hworld
  · intro _ _ _ _ hadministers hworld
    exact hadministers.told hworld

theorem Told.recordQuestion (htold : Told args credits start) (ref : Bytes32)
    {answerer : Address} {amount : Uint 128} {deadline : Uint 64}
    {next : Uint 256} (hnext : (next : ℕ) = start.escrow.nextId + 1) :
    Told args credits (start.recordQuestion ref
      (openQuestion msg answerer amount deadline) next) := by
  have hsucc : start.escrow.nextId + 1 = next := by
    apply Fin.ext
    have hbound := next.isLt
    rw [hnext, Fin.val_add]
    exact Nat.mod_eq_of_lt (hnext ▸ hbound)
  rw [Told] at htold ⊢
  rw [World.recordQuestion, replay_append, htold]
  simp only [Mirror.apply, Storage.viewWith, openQuestion, hsucc]

/-- A settle event, replayed, credits what the settlement credited. -/
theorem Mirror.apply_settleEvent {id : Uint 256} {terminal : Status}
    (hauthorised : Authorised msg (start.escrow.questions id) terminal)
    (ref : Bytes32) :
    (start.escrow.viewWith credits).apply (settleEvent id ref
        (start.escrow.questions id) terminal) =
      (start.escrow.viewWith credits).settle id terminal
        (feeRate start.escrow terminal) := by
  cases terminal with
  | none | «open» => cases hauthorised
  | answered | declined | cancelled | reclaimed => rfl

theorem SettleWrites.told {id : Uint 256} {terminal : Status}
    (hwrites : SettleWrites msg id terminal start stop)
    (htold : Told args (fun account => start.escrow.withdrawable account) start) :
    Told args (fun account => stop.escrow.withdrawable account) stop := by
  obtain ⟨_, hauthorised, payout, after, hpayout, hafter, rfl⟩ := hwrites
  rw [Told] at htold ⊢
  rw [World.settleQuestion, replay_append, htold,
    Mirror.apply_settleEvent hauthorised]
  have hshare : ((start.escrow.questions id).amount : ℕ) -
      feeShare (start.escrow.questions id).amount
        (feeRate start.escrow terminal) = payout := by
    rw [settleFee] at hpayout
    omega
  simp only [Mirror.settle, Storage.viewWith, Mirror.mk.injEq, true_and,
    and_true]
  funext account
  rw [hafter account, hshare]
  rfl

theorem Effect.told {token : Token oz T} {self : Address}
    {result : Option (Uint 256)} (hconfined : token.Confined)
    (hlock : oz.lock.Documented)
    (heffect : Effect token self msg start request result stop)
    (htold : Told args (fun account => start.escrow.withdrawable account) start) :
    Told args (fun account => stop.escrow.withdrawable account) stop := by
  cases heffect with
  | @ask _ ref answerer amount _ _ _ hasks =>
      obtain ⟨entered, next, deadline, reached, _, hnext, _, hmeanwhile, rfl⟩ :=
        hasks.meanwhile hconfined hlock
      have hstart : Told args (fun account => start.escrow.withdrawable account)
        (start.setLock entered) := htold
      have hcredits := hmeanwhile.sameBooks.withdrawable
      have hreached := hmeanwhile.told (hstart.recordQuestion ref hnext)
      simp only [World.setLock, World.recordQuestion] at hcredits ⊢
      rw [hcredits]
      exact hreached
  | settle _ hsettles =>
      obtain ⟨_, _, _, reached, hwrites, rfl⟩ := hsettles
      exact hwrites.told htold
  | withdraw hwithdraws =>
      obtain ⟨entered, reached, _, hmeanwhile, rfl⟩ :=
        hwithdraws.meanwhile hconfined hlock
      have hstart : Told args (fun account => start.escrow.withdrawable account)
        ((start.setLock entered).clearCredit msg.sender) := htold
      have hcredits := hmeanwhile.sameBooks.withdrawable
      have hreached := hmeanwhile.told hstart
      simp only [World.setLock, World.clearCredit] at hcredits
      rw [Told] at hreached ⊢
      simp only [World.setLock, World.announce]
      rw [replay_append, hreached, hcredits]
      simp only [Mirror.apply, Storage.viewWith, Mirror.mk.injEq, true_and,
        and_true]
      funext account
      by_cases haccount : account = msg.sender
      · rw [haccount, Function.update_self, Function.update_self, Nat.sub_self]
        rfl
      · rw [Function.update_of_ne haccount, Function.update_of_ne haccount]
  | administer hadministers =>
      rw [hadministers.sameBooks.withdrawable]
      exact hadministers.told htold

end Told

/-- In every state of every execution, replaying the log from the constructor
arguments gives the ledger. -/
theorem log_tells_ledger (hlock : oz.lock.Documented) {args : ConstructorArgs}
    {escrow : Storage oz} (hconstruct : construct oz args = .ok escrow)
    (token : T) (inputs : List (HostileCall T)) :
    replay args ((Session.fresh escrow token).run self inputs).world.log =
      ((Session.fresh escrow token).run self inputs).world.escrow.view := by
  have hinitial := construct_eq_ok hconstruct
  apply @Machine.run_invariant _ _ (Session.step self) (fun session =>
    Told args (fun account => session.world.escrow.withdrawable account)
      session.world)
  · rw [Told]
    simp only [replay, Session.fresh, List.foldl_nil, Mirror.initial,
      Storage.viewWith, hinitial.nextId, hinitial.questions,
      hinitial.questionRef, hinitial.withdrawable, hinitial.feeAddress,
      hinitial.answerWindow, hinitial.answerFeeBps, hinitial.cancelFeeBps,
      Fin.val_zero]
  · intro session input _ htold
    obtain hsame | ⟨result, stop, events, houtcome, _, _, hstep⟩ :=
      session.step_cases self hlock input
    · rw [hsame]
      exact htold
    · rw [hstep]
      exact (call_eq_ok.mp houtcome).told (input.confined hlock) hlock htold

/-- The log of the attacked session, in which the owner paused during the ask. -/
theorem log_tells_ledger_attacked :
    replay Sample.args Sample.attacked.world.log =
      Sample.attacked.world.escrow.view :=
  log_tells_ledger OpenZeppelin.plain_documented.lock Sample.construct_args ()
    [Sample.attackedAsk]

end BuyAnAnswer.Contract
