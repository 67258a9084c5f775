import BuyAnAnswer.Contract.Calls

/-!
# What can happen while the token runs

The escrow calls the token with the lock taken, and the setters, the pause
switch and the ownership functions do not ask for the lock.  A token is
confined if these are all that it can do to the escrow.  Under a confined token
the books (questions, references, credits and the id counter) change exactly as
the outer call says, whatever the token does in between.
-/

namespace BuyAnAnswer.Contract

open BuyAnAnswer.Transaction

variable {oz : OpenZeppelin} {T : Type}

/-- One thing that can happen during a token call: the token changes its own
storage, or an administrative call goes through. -/
inductive Interferes (start : World oz T) : World oz T → Prop
  | token (token : T) : Interferes start { start with token }
  | administer {msg : Msg} {request : Call} {stop : World oz T}
      (hadministers : Administers msg start request stop) :
      Interferes start stop

/-- Any number of such things in sequence. -/
def Meanwhile : World oz T → World oz T → Prop :=
  Relation.ReflTransGen Interferes

/-- Run with the lock taken, the token does nothing but interfere. -/
structure Token.Confined (token : Token oz T) : Prop where
  safeTransferFrom : ∀ {source destination amount start stop},
    oz.lock.entered start.escrow.lock = true →
    token.safeTransferFrom source destination amount start = .ok () stop →
      Meanwhile start stop
  safeTransfer : ∀ {destination amount start stop},
    oz.lock.entered start.escrow.lock = true →
    token.safeTransfer destination amount start = .ok () stop →
      Meanwhile start stop
  permit : ∀ {owner spender value deadline v r s start stop},
    oz.lock.entered start.escrow.lock = true →
    token.permit owner spender value deadline v r s start = .ok () stop →
      Meanwhile start stop

/-! ## Books -/

/-- The events of the question lifecycle. -/
def Event.aboutQuestion : Event → Bool
  | .questionAsked .. | .questionAnswered .. | .questionDeclined ..
  | .questionCancelled .. | .questionReclaimed .. => true
  | _ => false

/-- The lifecycle events emitted so far. -/
def World.questionLog (world : World oz T) : List Event :=
  world.log.filter Event.aboutQuestion

theorem settleEvent_aboutQuestion (id : Uint 256) (ref : Bytes32)
    (question : Question) (terminal : Status) :
    (settleEvent id ref question terminal).aboutQuestion = true := by
  cases terminal <;> rfl

/-- Two storages with the same books. -/
structure SameBooks (before after : Storage oz) : Prop where
  nextId : after.nextId = before.nextId
  questions : after.questions = before.questions
  questionRef : after.questionRef = before.questionRef
  withdrawable : after.withdrawable = before.withdrawable

theorem SameBooks.refl (escrow : Storage oz) : SameBooks escrow escrow where
  nextId := rfl
  questions := rfl
  questionRef := rfl
  withdrawable := rfl

theorem SameBooks.trans {first second third : Storage oz}
    (hfirst : SameBooks first second) (hsecond : SameBooks second third) :
    SameBooks first third where
  nextId := hsecond.nextId.trans hfirst.nextId
  questions := hsecond.questions.trans hfirst.questions
  questionRef := hsecond.questionRef.trans hfirst.questionRef
  withdrawable := hsecond.withdrawable.trans hfirst.withdrawable

/-- The rates, window and fee address the setters accept. -/
structure Capped (escrow : Storage oz) : Prop where
  answerFeeBps : (escrow.answerFeeBps : ℕ) ≤ 1000
  cancelFeeBps : (escrow.cancelFeeBps : ℕ) ≤ 500
  answerWindow_pos : 0 < (escrow.answerWindow : ℕ)
  answerWindow : (escrow.answerWindow : ℕ) ≤ 2592000
  feeAddress : escrow.feeAddress ≠ 0

section Administers

variable {msg : Msg} {request : Call} {start stop : World oz T}

theorem Administers.sameBooks (hadministers : Administers msg start request stop) :
    SameBooks start.escrow stop.escrow := by
  cases hadministers <;> exact ⟨rfl, rfl, rfl, rfl⟩

theorem Administers.lock (hadministers : Administers msg start request stop) :
    stop.escrow.lock = start.escrow.lock := by
  cases hadministers <;> rfl

theorem Administers.token (hadministers : Administers msg start request stop) :
    stop.token = start.token := by
  cases hadministers <;> rfl

theorem Administers.questionLog (hadministers : Administers msg start request stop) :
    stop.questionLog = start.questionLog := by
  cases hadministers <;>
    simp [World.questionLog, World.announce, Event.aboutQuestion]

/-- The setters only write values under the caps. -/
theorem Administers.capped (hadministers : Administers msg start request stop)
    (hcapped : Capped start.escrow) : Capped stop.escrow := by
  cases hadministers with
  | setAnswerFee howner hcap => exact { hcapped with answerFeeBps := hcap }
  | setCancelFee howner hcap => exact { hcapped with cancelFeeBps := hcap }
  | setAnswerWindow howner hcap =>
      exact { hcapped with
        answerWindow_pos := Nat.pos_of_ne_zero fun hzero =>
          hcap.1 (Fin.ext hzero)
        answerWindow := hcap.2 }
  | setFeeAddress howner hnonzero =>
      exact { hcapped with feeAddress := hnonzero }
  | pause => exact { hcapped with }
  | unpause => exact { hcapped with }
  | transferOwnership => exact { hcapped with }
  | acceptOwnership => exact { hcapped with }
  | renounceOwnership => exact { hcapped with }

end Administers

section Meanwhile

variable {start stop : World oz T}

/-- Invariant rule: what token writes and administrative calls keep is kept
while the token runs. -/
theorem Meanwhile.invariant {Invariant : World oz T → Prop}
    (hmeanwhile : Meanwhile start stop) (hstart : Invariant start)
    (htoken : ∀ {world} token, Invariant world →
      Invariant { world with token })
    (hadminister : ∀ {msg request before after},
      Administers msg before request after → Invariant before →
        Invariant after) : Invariant stop := by
  induction hmeanwhile with
  | refl => exact hstart
  | tail _ hinterferes hmiddle =>
      cases hinterferes with
      | token token => exact htoken token hmiddle
      | administer hadministers => exact hadminister hadministers hmiddle

theorem Meanwhile.sameBooks (hmeanwhile : Meanwhile start stop) :
    SameBooks start.escrow stop.escrow := by
  apply @Meanwhile.invariant _ _ _ _
    (fun world => SameBooks start.escrow world.escrow) hmeanwhile
  · exact .refl start.escrow
  · intro _ _ hsame
    exact hsame
  · intro _ _ _ _ hadministers hsame
    exact hsame.trans hadministers.sameBooks

theorem Meanwhile.lock (hmeanwhile : Meanwhile start stop) :
    stop.escrow.lock = start.escrow.lock := by
  apply @Meanwhile.invariant _ _ _ _
    (fun world => world.escrow.lock = start.escrow.lock) hmeanwhile
  · rfl
  · intro _ _ hlock
    exact hlock
  · intro _ _ _ _ hadministers hlock
    rw [hadministers.lock, hlock]

theorem Meanwhile.questionLog (hmeanwhile : Meanwhile start stop) :
    stop.questionLog = start.questionLog := by
  apply @Meanwhile.invariant _ _ _ _
    (fun world => world.questionLog = start.questionLog) hmeanwhile
  · rfl
  · intro _ _ hlog
    exact hlog
  · intro _ _ _ _ hadministers hlog
    rw [hadministers.questionLog, hlog]

theorem Meanwhile.capped (hmeanwhile : Meanwhile start stop)
    (hcapped : Capped start.escrow) : Capped stop.escrow := by
  apply @Meanwhile.invariant _ _ _ _ (fun world => Capped world.escrow)
    hmeanwhile hcapped
  · intro _ _ hworld
    exact hworld
  · intro _ _ _ _ hadministers hworld
    exact hadministers.capped hworld

end Meanwhile

/-! ## Confined calls -/

section Confined

variable {token : Token oz T} {self : Address} {msg : Msg} {request : Call}
variable {start stop : World oz T}

theorem Token.Confined.pull (hconfined : token.Confined)
    (hentered : oz.lock.entered start.escrow.lock = true)
    (hpull : request.pull token self msg start = .ok () stop) :
    Meanwhile start stop := by
  cases request
  case askQuestion => exact hconfined.safeTransferFrom hentered hpull
  case askQuestionWithPermit =>
    obtain ⟨_, middle, hpermit, htransfer⟩ := bind_eq_ok.mp hpull
    obtain hok | ⟨_, rfl⟩ := attempt_eq_ok.mp hpermit
    · have hfirst := hconfined.permit hentered hok
      rw [← hfirst.lock] at hentered
      exact hfirst.trans (hconfined.safeTransferFrom hentered htransfer)
    · exact hconfined.safeTransferFrom hentered htransfer
  all_goals
    rw [(pure_eq_ok.mp hpull).2]
    exact .refl

end Confined

/-- What a successful call returns, writes to the books and announces about
questions. -/
inductive Writes (msg : Msg) (before after : Storage oz) :
    Call → Option (Uint 256) → List Event → Prop
  | ask {request : Call} {ref : Bytes32} {answerer : Address}
      {amount : Uint 128} {deadline : Uint 64}
      (hrequest : request.asks = some (ref, answerer, amount))
      (hanswerer : answerer ≠ 0) (hamount : amount ≠ 0)
      (hdeadline : (deadline : ℕ) =
        msg.timestamp % 2 ^ 64 + before.answerWindow)
      (hnext : (after.nextId : ℕ) = before.nextId + 1)
      (hquestions : after.questions = Function.update before.questions
        before.nextId (openQuestion msg answerer amount deadline))
      (hrefs : after.questionRef =
        Function.update before.questionRef before.nextId ref)
      (hcredits : after.withdrawable = before.withdrawable) :
      Writes msg before after request (some before.nextId)
        [.questionAsked before.nextId ref msg.sender answerer amount deadline]
  | settle {request : Call} {id : Uint 256} {terminal : Status} {payout : ℕ}
      (hrequest : request.settles = some (id, terminal))
      (hopen : (before.questions id).status = .open)
      (hauthorised : Authorised msg (before.questions id) terminal)
      (hpayout : payout + settleFee before id terminal =
        (before.questions id).amount)
      (hcredits : Credited before.withdrawable after.withdrawable
        (recipientOf (before.questions id) terminal) payout before.feeAddress
        (settleFee before id terminal))
      (hnext : after.nextId = before.nextId)
      (hquestions : after.questions = Function.update before.questions id
        { before.questions id with status := terminal })
      (hrefs : after.questionRef = before.questionRef) :
      Writes msg before after request none
        [settleEvent id (before.questionRef id) (before.questions id) terminal]
  | withdraw (hcredit : before.withdrawable msg.sender ≠ 0)
      (hnext : after.nextId = before.nextId)
      (hquestions : after.questions = before.questions)
      (hrefs : after.questionRef = before.questionRef)
      (hcredits : after.withdrawable =
        Function.update before.withdrawable msg.sender 0) :
      Writes msg before after .withdraw none []
  | administer {request : Call} (hasks : request.asks = none)
      (hsettles : request.settles = none) (hwithdraw : request ≠ .withdraw)
      (hbooks : SameBooks before after) :
      Writes msg before after request none []

section Writes

variable {token : Token oz T} {self : Address} {msg : Msg} {request : Call}
variable {start stop : World oz T} {result : Option (Uint 256)}

theorem Asks.meanwhile (hconfined : token.Confined) (hlock : oz.lock.Documented)
    {ref : Bytes32} {answerer : Address} {amount : Uint 128} {id : Uint 256}
    (hasks : Asks (request.pull token self msg) msg ref answerer amount
      start stop id) :
    ∃ entered, ∃ (next : Uint 256) (deadline : Uint 64) (reached : World oz T),
      oz.lock.enter start.escrow.lock = .ok entered ∧
      (next : ℕ) = start.escrow.nextId + 1 ∧
      (deadline : ℕ) = msg.timestamp % 2 ^ 64 + start.escrow.answerWindow ∧
      Meanwhile ((start.setLock entered).recordQuestion ref
        (openQuestion msg answerer amount deadline) next) reached ∧
      stop = reached.setLock (oz.lock.leave reached.escrow.lock) := by
  obtain ⟨_, _, _, _, entered, henter, next, deadline, reached, hnext,
    hdeadline, hpull, hstop⟩ := hasks
  exact ⟨entered, next, deadline, reached, henter, hnext, hdeadline,
    hconfined.pull (hlock.enter_ok henter).2 hpull, hstop⟩

theorem Withdraws.meanwhile (hconfined : token.Confined)
    (hlock : oz.lock.Documented) (hwithdraws : Withdraws token msg start stop) :
    ∃ entered reached, oz.lock.enter start.escrow.lock = .ok entered ∧
      Meanwhile ((start.setLock entered).clearCredit msg.sender) reached ∧
      stop = (reached.announce (.withdrawn msg.sender
        (start.escrow.withdrawable msg.sender))).setLock
          (oz.lock.leave reached.escrow.lock) := by
  obtain ⟨_, entered, henter, reached, htransfer, hstop⟩ := hwithdraws
  exact ⟨entered, reached, henter,
    hconfined.safeTransfer (hlock.enter_ok henter).2 htransfer, hstop⟩

theorem Administers.kind (hadministers : Administers msg start request stop) :
    request.asks = none ∧ request.settles = none ∧ request ≠ .withdraw := by
  cases hadministers <;> exact ⟨rfl, rfl, by simp⟩

/-- Under a confined token the outer call alone decides what is written and
announced about questions. -/
theorem Effect.writes (hconfined : token.Confined) (hlock : oz.lock.Documented)
    (heffect : Effect token self msg start request result stop) :
    ∃ events, stop.questionLog = start.questionLog ++ events ∧
      Writes msg start.escrow stop.escrow request result events := by
  cases heffect with
  | @ask _ ref answerer amount _ _ hrequest hasks =>
      obtain ⟨entered, next, deadline, reached, _, hnext, hdeadline,
        hmeanwhile, rfl⟩ := hasks.meanwhile hconfined hlock
      obtain ⟨_, hanswerer, hamount, rfl, _⟩ := hasks
      have hbooks := hmeanwhile.sameBooks
      have hlog := hmeanwhile.questionLog
      refine ⟨_, ?_, .ask hrequest hanswerer hamount hdeadline ?_
        hbooks.questions hbooks.questionRef hbooks.withdrawable⟩
      · apply hlog.trans
        exact List.filter_append _ _
      · rw [← hnext]
        exact congrArg Fin.val hbooks.nextId
  | @settle _ id terminal _ hrequest hsettles =>
      obtain ⟨_, entered, _, reached, hwrites, rfl⟩ := hsettles
      obtain ⟨hopen, hauthorised, payout, after, hpayout, hafter, rfl⟩ := hwrites
      refine ⟨_, ?_, .settle hrequest hopen hauthorised hpayout hafter rfl rfl
        rfl⟩
      have habout := settleEvent_aboutQuestion id (start.escrow.questionRef id)
        (start.escrow.questions id) terminal
      simp [World.questionLog, World.settleQuestion, World.setLock, habout]
  | withdraw hwithdraws =>
      obtain ⟨entered, reached, _, hmeanwhile, rfl⟩ :=
        hwithdraws.meanwhile hconfined hlock
      have hbooks := hmeanwhile.sameBooks
      have hlog := hmeanwhile.questionLog
      refine ⟨[], ?_, .withdraw hwithdraws.1 hbooks.nextId hbooks.questions
        hbooks.questionRef hbooks.withdrawable⟩
      rw [List.append_nil]
      apply Eq.trans _ hlog
      simp [World.questionLog, World.announce, World.setLock,
        Event.aboutQuestion]
  | administer hadministers =>
      obtain ⟨hasks, hsettles, hwithdraw⟩ := hadministers.kind
      refine ⟨[], ?_, .administer hasks hsettles hwithdraw
        hadministers.sameBooks⟩
      rw [List.append_nil, hadministers.questionLog]

theorem Effect.capped (hconfined : token.Confined) (hlock : oz.lock.Documented)
    (heffect : Effect token self msg start request result stop)
    (hcapped : Capped start.escrow) : Capped stop.escrow := by
  cases heffect with
  | ask hrequest hasks =>
      obtain ⟨_, _, _, reached, _, _, _, hmeanwhile, rfl⟩ :=
        hasks.meanwhile hconfined hlock
      exact { hmeanwhile.capped { hcapped with } with }
  | settle hrequest hsettles =>
      obtain ⟨_, _, _, _, ⟨_, _, _, _, _, _, rfl⟩, rfl⟩ := hsettles
      exact { hcapped with }
  | withdraw hwithdraws =>
      obtain ⟨_, reached, _, hmeanwhile, rfl⟩ :=
        hwithdraws.meanwhile hconfined hlock
      exact { hmeanwhile.capped { hcapped with } with }
  | administer hadministers => exact hadministers.capped hcapped

/-- Between calls the lock is free. -/
theorem Effect.lock_free (hlock : oz.lock.Documented)
    (heffect : Effect token self msg start request result stop)
    (hfree : oz.lock.entered start.escrow.lock = false) :
    oz.lock.entered stop.escrow.lock = false := by
  cases heffect with
  | ask hrequest hasks =>
      obtain ⟨_, _, _, _, _, _, _, _, _, _, _, _, rfl⟩ := hasks
      exact hlock.leave_free _
  | settle hrequest hsettles =>
      obtain ⟨_, _, _, _, _, rfl⟩ := hsettles
      exact hlock.leave_free _
  | withdraw hwithdraws =>
      obtain ⟨_, _, _, _, _, rfl⟩ := hwithdraws
      exact hlock.leave_free _
  | administer hadministers =>
      rw [hadministers.lock]
      exact hfree

end Writes

/-! ## Deployment -/

/-- What the constructor leaves behind. -/
structure Initial (args : ConstructorArgs) (escrow : Storage oz) : Prop where
  nextId : escrow.nextId = 1
  questions : escrow.questions = fun _ => .unwritten
  questionRef : escrow.questionRef = fun _ => 0
  withdrawable : escrow.withdrawable = fun _ => 0
  feeAddress : escrow.feeAddress = args.feeAddress
  answerFeeBps : escrow.answerFeeBps = args.answerFeeBps
  cancelFeeBps : escrow.cancelFeeBps = args.cancelFeeBps
  answerWindow : escrow.answerWindow = args.answerWindow
  capped : Capped escrow
  ownable : oz.ownable.construct args.owner = .ok escrow.ownable
  pausable : escrow.pausable = oz.pausable.initial
  lock : escrow.lock = oz.lock.initial

theorem construct_eq_ok {args : ConstructorArgs} {escrow : Storage oz}
    (hconstruct : construct oz args = .ok escrow) : Initial args escrow := by
  rw [construct] at hconstruct
  cases hownable : oz.ownable.construct args.owner with
  | error failure =>
      rw [hownable] at hconstruct
      cases hconstruct
  | ok ownable =>
      rw [hownable] at hconstruct
      simp only at hconstruct
      by_cases husdc : args.usdc = 0
      · simp [husdc] at hconstruct
      by_cases hfeeAddress : args.feeAddress = 0
      · simp [husdc, hfeeAddress] at hconstruct
      by_cases hanswer : args.answerFeeBps > MAX_ANSWER_FEE_BPS
      · simp [husdc, hfeeAddress, hanswer] at hconstruct
      by_cases hcancel : args.cancelFeeBps > MAX_CANCEL_FEE_BPS
      · simp [husdc, hfeeAddress, hanswer, hcancel] at hconstruct
      by_cases hwindow : args.answerWindow = 0 ∨
        args.answerWindow > MAX_ANSWER_WINDOW
      · simp only [husdc, hfeeAddress, hanswer, hcancel, hwindow, if_false,
          if_true, reduceCtorEq] at hconstruct
      simp only [husdc, hfeeAddress, hanswer, hcancel, hwindow, if_false,
        Except.ok.injEq] at hconstruct
      subst hconstruct
      obtain ⟨hpositive, hwindow⟩ := not_or.mp hwindow
      exact {
        nextId := rfl
        questions := rfl
        questionRef := rfl
        withdrawable := rfl
        feeAddress := rfl
        answerFeeBps := rfl
        cancelFeeBps := rfl
        answerWindow := rfl
        capped := {
          answerFeeBps := not_lt.mp hanswer
          cancelFeeBps := not_lt.mp hcancel
          answerWindow_pos := Nat.pos_of_ne_zero fun hzero =>
            hpositive (Fin.ext hzero)
          answerWindow := not_lt.mp hwindow
          feeAddress := hfeeAddress }
        ownable := hownable
        pausable := rfl
        lock := rfl }

end BuyAnAnswer.Contract
