import BuyAnAnswer.Contract.Effects

/-!
# What a call does

A call that returns asks, settles, withdraws or administers; `Effect` lists the
four cases and `dispatch_eq_ok` says that there are no others.  Only the first
three take the reentrancy lock, and a call that finds it taken reverts.
-/

namespace BuyAnAnswer.Contract

open BuyAnAnswer.Transaction

variable {oz : OpenZeppelin} {T : Type}

namespace Call

/-- The reference, answerer and amount of an ask. -/
def asks : Call → Option (Bytes32 × Address × Uint 128)
  | .askQuestion ref answerer amount => some (ref, answerer, amount)
  | .askQuestionWithPermit ref answerer amount _ _ _ _ _ =>
      some (ref, answerer, amount)
  | _ => none

/-- What an ask has the token do. -/
def pull (token : Token oz T) (self : Address) (msg : Msg) :
    Call → Exec oz T Unit
  | .askQuestion _ _ amount =>
      token.safeTransferFrom msg.sender self (widen uint128_le_uint256 amount)
  | .askQuestionWithPermit _ _ amount value deadline v r s =>
      permitThenPull token self msg amount value deadline v r s
  | _ => pure ()

/-- The question a settlement is about and the status it leads to. -/
def settles : Call → Option (Uint 256 × Status)
  | .answerQuestion id => some (id, .answered)
  | .declineQuestion id => some (id, .declined)
  | .cancelQuestion id => some (id, .cancelled)
  | .reclaimQuestion id => some (id, .reclaimed)
  | _ => none

theorem asks_none_of_settles {request : Call} {target : Uint 256 × Status}
    (hrequest : request.settles = some target) : request.asks = none := by
  cases request <;> first | rfl | cases hrequest

/-- The `nonReentrant` functions. -/
def guarded (request : Call) : Bool :=
  request.asks.isSome || request.settles.isSome || request = .withdraw

end Call

/-- A successful administrative call. -/
inductive Administers (msg : Msg) (start : World oz T) : Call → World oz T → Prop
  | setAnswerFee {bps : Uint 16}
      (howner : oz.ownable.owner start.escrow.ownable = msg.sender)
      (hcap : bps ≤ MAX_ANSWER_FEE_BPS) :
      Administers msg start (.setAnswerFee bps) (World.announce
        { start with escrow := { start.escrow with answerFeeBps := bps } }
        (.answerFeeUpdated bps))
  | setCancelFee {bps : Uint 16}
      (howner : oz.ownable.owner start.escrow.ownable = msg.sender)
      (hcap : bps ≤ MAX_CANCEL_FEE_BPS) :
      Administers msg start (.setCancelFee bps) (World.announce
        { start with escrow := { start.escrow with cancelFeeBps := bps } }
        (.cancelFeeUpdated bps))
  | setAnswerWindow {window : Uint 64}
      (howner : oz.ownable.owner start.escrow.ownable = msg.sender)
      (hcap : window ≠ 0 ∧ window ≤ MAX_ANSWER_WINDOW) :
      Administers msg start (.setAnswerWindow window) (World.announce
        { start with escrow := { start.escrow with answerWindow := window } }
        (.answerWindowUpdated window))
  | setFeeAddress {newFeeAddress : Address}
      (howner : oz.ownable.owner start.escrow.ownable = msg.sender)
      (hnonzero : newFeeAddress ≠ 0) :
      Administers msg start (.setFeeAddress newFeeAddress) (World.announce
        { start with escrow :=
          { start.escrow with feeAddress := newFeeAddress } }
        (.feeAddressUpdated newFeeAddress))
  | pause {after : oz.pausable.Storage}
      (howner : oz.ownable.owner start.escrow.ownable = msg.sender)
      (hpause : oz.pausable.pause start.escrow.pausable = .ok after) :
      Administers msg start .pause
        { start with escrow := { start.escrow with pausable := after } }
  | unpause {after : oz.pausable.Storage}
      (howner : oz.ownable.owner start.escrow.ownable = msg.sender)
      (hunpause : oz.pausable.unpause start.escrow.pausable = .ok after) :
      Administers msg start .unpause
        { start with escrow := { start.escrow with pausable := after } }
  | transferOwnership {newOwner : Address} {after : oz.ownable.Storage}
      (htransfer : oz.ownable.transferOwnership msg.sender newOwner
        start.escrow.ownable = .ok after) :
      Administers msg start (.transferOwnership newOwner)
        { start with escrow := { start.escrow with ownable := after } }
  | acceptOwnership {after : oz.ownable.Storage}
      (haccept : oz.ownable.acceptOwnership msg.sender
        start.escrow.ownable = .ok after) :
      Administers msg start .acceptOwnership
        { start with escrow := { start.escrow with ownable := after } }
  | renounceOwnership {after : oz.ownable.Storage}
      (hrenounce : oz.ownable.renounceOwnership msg.sender
        start.escrow.ownable = .ok after) :
      Administers msg start .renounceOwnership
        { start with escrow := { start.escrow with ownable := after } }

/-- A successful call. -/
inductive Effect (token : Token oz T) (self : Address) (msg : Msg)
    (start : World oz T) : Call → Option (Uint 256) → World oz T → Prop
  | ask {request : Call} {ref : Bytes32} {answerer : Address}
      {amount : Uint 128} {id : Uint 256} {stop : World oz T}
      (hrequest : request.asks = some (ref, answerer, amount))
      (hasks : Asks (request.pull token self msg) msg ref answerer amount
        start stop id) :
      Effect token self msg start request (some id) stop
  | settle {request : Call} {id : Uint 256} {terminal : Status}
      {stop : World oz T} (hrequest : request.settles = some (id, terminal))
      (hsettles : Settles msg id terminal start stop) :
      Effect token self msg start request none stop
  | withdraw {stop : World oz T} (hwithdraws : Withdraws token msg start stop) :
      Effect token self msg start .withdraw none stop
  | administer {request : Call} {stop : World oz T}
      (hadministers : Administers msg start request stop) :
      Effect token self msg start request none stop

section Dispatch

variable {token : Token oz T} {self : Address} {msg : Msg} {request : Call}
variable {start stop : World oz T} {result : Option (Uint 256)}

theorem effect_of_dispatch_eq_ok
    (hok : dispatch token self msg request start = .ok result stop) :
    Effect token self msg start request result stop := by
  cases request <;> simp only [dispatch, map_eq_ok] at hok <;>
    obtain ⟨value, hok, rfl⟩ := hok
  case askQuestion => exact .ask rfl (askQuestion_eq_ok.mp hok)
  case askQuestionWithPermit =>
    exact .ask rfl (askQuestionWithPermit_eq_ok.mp hok)
  case answerQuestion => exact .settle rfl (answerQuestion_eq_ok.mp hok)
  case declineQuestion => exact .settle rfl (declineQuestion_eq_ok.mp hok)
  case cancelQuestion => exact .settle rfl (cancelQuestion_eq_ok.mp hok)
  case reclaimQuestion => exact .settle rfl (reclaimQuestion_eq_ok.mp hok)
  case withdraw => exact .withdraw (withdraw_eq_ok.mp hok)
  case setAnswerFee =>
    obtain ⟨howner, hcap, rfl⟩ := setParameter_eq_ok.mp hok
    exact .administer (.setAnswerFee howner hcap)
  case setCancelFee =>
    obtain ⟨howner, hcap, rfl⟩ := setParameter_eq_ok.mp hok
    exact .administer (.setCancelFee howner hcap)
  case setAnswerWindow =>
    obtain ⟨howner, hcap, rfl⟩ := setParameter_eq_ok.mp hok
    exact .administer (.setAnswerWindow howner hcap)
  case setFeeAddress =>
    obtain ⟨howner, hnonzero, rfl⟩ := setParameter_eq_ok.mp hok
    exact .administer (.setFeeAddress howner hnonzero)
  case pause =>
    obtain ⟨howner, after, hpause, rfl⟩ := ownerPausable_eq_ok.mp hok
    exact .administer (.pause howner hpause)
  case unpause =>
    obtain ⟨howner, after, hunpause, rfl⟩ := ownerPausable_eq_ok.mp hok
    exact .administer (.unpause howner hunpause)
  case transferOwnership =>
    obtain ⟨after, htransfer, rfl⟩ := inheritedOwnable_eq_ok.mp hok
    exact .administer (.transferOwnership htransfer)
  case acceptOwnership =>
    obtain ⟨after, haccept, rfl⟩ := inheritedOwnable_eq_ok.mp hok
    exact .administer (.acceptOwnership haccept)
  case renounceOwnership =>
    obtain ⟨after, hrenounce, rfl⟩ := inheritedOwnable_eq_ok.mp hok
    exact .administer (.renounceOwnership hrenounce)

theorem dispatch_eq_ok_of_administers
    (hadministers : Administers msg start request stop) :
    dispatch token self msg request start = .ok none stop := by
  cases hadministers <;> rw [dispatch, map_eq_ok] <;> refine ⟨(), ?_, rfl⟩
  case setAnswerFee howner hcap =>
    exact setParameter_eq_ok.mpr ⟨howner, hcap, rfl⟩
  case setCancelFee howner hcap =>
    exact setParameter_eq_ok.mpr ⟨howner, hcap, rfl⟩
  case setAnswerWindow howner hcap =>
    exact setParameter_eq_ok.mpr ⟨howner, hcap, rfl⟩
  case setFeeAddress howner hnonzero =>
    exact setParameter_eq_ok.mpr ⟨howner, hnonzero, rfl⟩
  case pause howner hpause =>
    exact ownerPausable_eq_ok.mpr ⟨howner, _, hpause, rfl⟩
  case unpause howner hunpause =>
    exact ownerPausable_eq_ok.mpr ⟨howner, _, hunpause, rfl⟩
  case transferOwnership htransfer =>
    exact inheritedOwnable_eq_ok.mpr ⟨_, htransfer, rfl⟩
  case acceptOwnership haccept =>
    exact inheritedOwnable_eq_ok.mpr ⟨_, haccept, rfl⟩
  case renounceOwnership hrenounce =>
    exact inheritedOwnable_eq_ok.mpr ⟨_, hrenounce, rfl⟩

theorem dispatch_eq_ok_of_settles {id : Uint 256} {terminal : Status}
    (hrequest : request.settles = some (id, terminal))
    (hsettles : Settles msg id terminal start stop) :
    dispatch token self msg request start = .ok none stop := by
  cases request <;> simp only [Call.settles, reduceCtorEq, Option.some.injEq,
    Prod.mk.injEq] at hrequest <;> obtain ⟨rfl, rfl⟩ := hrequest <;>
    rw [dispatch, map_eq_ok] <;> refine ⟨(), ?_, rfl⟩
  case answerQuestion => exact answerQuestion_eq_ok.mpr hsettles
  case declineQuestion => exact declineQuestion_eq_ok.mpr hsettles
  case cancelQuestion => exact cancelQuestion_eq_ok.mpr hsettles
  case reclaimQuestion => exact reclaimQuestion_eq_ok.mpr hsettles

theorem dispatch_eq_ok_of_asks {ref : Bytes32} {answerer : Address}
    {amount : Uint 128} {id : Uint 256}
    (hrequest : request.asks = some (ref, answerer, amount))
    (hasks : Asks (request.pull token self msg) msg ref answerer amount start
      stop id) :
    dispatch token self msg request start = .ok (some id) stop := by
  cases request <;> simp only [Call.asks, reduceCtorEq, Option.some.injEq,
    Prod.mk.injEq] at hrequest <;> obtain ⟨rfl, rfl, rfl⟩ := hrequest <;>
    rw [dispatch, map_eq_ok] <;> refine ⟨id, ?_, rfl⟩
  case askQuestion => exact askQuestion_eq_ok.mpr hasks
  case askQuestionWithPermit => exact askQuestionWithPermit_eq_ok.mpr hasks

/-- A call returns exactly when it has one of the four effects. -/
theorem dispatch_eq_ok :
    dispatch token self msg request start = .ok result stop ↔
      Effect token self msg start request result stop := by
  constructor
  · exact effect_of_dispatch_eq_ok
  · intro heffect
    cases heffect with
    | ask hrequest hasks => exact dispatch_eq_ok_of_asks hrequest hasks
    | settle hrequest hsettles =>
        exact dispatch_eq_ok_of_settles hrequest hsettles
    | withdraw hwithdraws =>
        rw [dispatch, map_eq_ok]
        exact ⟨(), withdraw_eq_ok.mpr hwithdraws, rfl⟩
    | administer hadministers =>
        exact dispatch_eq_ok_of_administers hadministers

theorem call_eq_ok :
    call token self msg request start = .ok result stop ↔
      Effect token self msg start request result stop := by
  rw [call, frame_eq_ok, dispatch_eq_ok]

/-- A settlement that returns has the effect of a settlement. -/
theorem Effect.settles {id : Uint 256} {terminal : Status}
    (hrequest : request.settles = some (id, terminal))
    (heffect : Effect token self msg start request result stop) :
    Settles msg id terminal start stop := by
  cases heffect with
  | ask hasks _ =>
      rw [Call.asks_none_of_settles hrequest] at hasks
      cases hasks
  | settle hsame hsettles =>
      rw [hrequest] at hsame
      cases hsame
      exact hsettles
  | withdraw _ => cases hrequest
  | administer hadministers => cases hadministers <;> cases hrequest

/-- The only calls that return without asking for the lock administer. -/
theorem unguarded_effect (hguarded : request.guarded = false)
    (heffect : Effect token self msg start request result stop) :
    Administers msg start request stop := by
  cases heffect with
  | ask hrequest _ => simp [Call.guarded, hrequest] at hguarded
  | settle hrequest _ => simp [Call.guarded, hrequest] at hguarded
  | withdraw _ => simp [Call.guarded] at hguarded
  | administer hadministers => exact hadministers

/-- A call that reverts leaves the world it started in. -/
theorem call_eq_error {failure : Error}
    (herror : call token self msg request start = .error failure stop) :
    stop = start :=
  (frame_eq_error.mp herror).2

end Dispatch

end BuyAnAnswer.Contract
