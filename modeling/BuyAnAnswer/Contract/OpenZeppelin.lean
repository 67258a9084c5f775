import BuyAnAnswer.Contract.Types

/-!
# Inherited modules

The contract inherits `Ownable2Step`, `Pausable` and `ReentrancyGuard`, whose
sources live outside the repository.  Each is a parameter of the model: a
storage of its own with the operations the contract exposes or calls.  The
`Documented` structures list what their documentation promises, and results
that rely on a promise name it as a hypothesis.
-/

namespace BuyAnAnswer.Contract

/-- `Ownable2Step`: ownership moves only once the new owner accepts it. -/
structure Ownable2Step where
  Storage : Type
  owner : Storage → Address
  pendingOwner : Storage → Address
  construct : (initialOwner : Address) → Except Error Storage
  transferOwnership : (sender newOwner : Address) → Storage → Except Error Storage
  acceptOwnership : (sender : Address) → Storage → Except Error Storage
  renounceOwnership : (sender : Address) → Storage → Except Error Storage

structure Ownable2Step.Documented (own : Ownable2Step) : Prop where
  construct_ok : ∀ {initialOwner storage},
    own.construct initialOwner = .ok storage →
      initialOwner ≠ 0 ∧ own.owner storage = initialOwner ∧
        own.pendingOwner storage = 0
  transferOwnership_ok : ∀ {sender newOwner storage after},
    own.transferOwnership sender newOwner storage = .ok after →
      sender = own.owner storage ∧ own.owner after = own.owner storage ∧
        own.pendingOwner after = newOwner
  acceptOwnership_ok : ∀ {sender storage after},
    own.acceptOwnership sender storage = .ok after →
      sender = own.pendingOwner storage ∧ own.owner after = sender ∧
        own.pendingOwner after = 0
  renounceOwnership_ok : ∀ {sender storage after},
    own.renounceOwnership sender storage = .ok after →
      sender = own.owner storage ∧ own.owner after = 0 ∧
        own.pendingOwner after = 0

/-- `Pausable`, with its internal `_pause` and `_unpause`. -/
structure Pausable where
  Storage : Type
  initial : Storage
  paused : Storage → Bool
  pause : Storage → Except Error Storage
  unpause : Storage → Except Error Storage

structure Pausable.Documented (pausable : Pausable) : Prop where
  initial_running : pausable.paused pausable.initial = false
  pause_ok : ∀ {storage after}, pausable.pause storage = .ok after →
    pausable.paused storage = false ∧ pausable.paused after = true
  unpause_ok : ∀ {storage after}, pausable.unpause storage = .ok after →
    pausable.paused storage = true ∧ pausable.paused after = false
  unpause_paused : ∀ {storage}, pausable.paused storage = true →
    ∃ after, pausable.unpause storage = .ok after

/-- `ReentrancyGuard`: `enter` and `leave` are the two halves of the
`nonReentrant` modifier. -/
structure ReentrancyGuard where
  Storage : Type
  initial : Storage
  entered : Storage → Bool
  enter : Storage → Except Error Storage
  leave : Storage → Storage

structure ReentrancyGuard.Documented (lock : ReentrancyGuard) : Prop where
  initial_free : lock.entered lock.initial = false
  enter_free : ∀ {storage}, lock.entered storage = false →
    ∃ after, lock.enter storage = .ok after ∧ lock.entered after = true
  enter_entered : ∀ {storage}, lock.entered storage = true →
    lock.enter storage = .error .reentrancyGuardReentrantCall
  leave_free : ∀ storage, lock.entered (lock.leave storage) = false

/-- The three inherited modules together. -/
structure OpenZeppelin where
  ownable : Ownable2Step
  pausable : Pausable
  lock : ReentrancyGuard

structure OpenZeppelin.Documented (oz : OpenZeppelin) : Prop where
  ownable : oz.ownable.Documented
  pausable : oz.pausable.Documented
  lock : oz.lock.Documented

theorem ReentrancyGuard.Documented.enter_ok {lock : ReentrancyGuard}
    (hlock : lock.Documented) {storage after : lock.Storage}
    (henter : lock.enter storage = .ok after) :
    lock.entered storage = false ∧ lock.entered after = true := by
  cases hentered : lock.entered storage with
  | true =>
      rw [hlock.enter_entered hentered] at henter
      cases henter
  | false =>
      obtain ⟨reached, hreached, htrue⟩ := hlock.enter_free hentered
      rw [hreached] at henter
      cases henter
      exact ⟨rfl, htrue⟩

/-! ## Modules that behave as documented -/

namespace OpenZeppelin

/-- Owner and pending owner, kept as two addresses. -/
def plainOwnable : Ownable2Step where
  Storage := Address × Address
  owner storage := storage.1
  pendingOwner storage := storage.2
  construct initialOwner :=
    if initialOwner = 0 then .error (.ownableInvalidOwner 0)
    else .ok (initialOwner, 0)
  transferOwnership sender newOwner storage :=
    if sender = storage.1 then .ok (storage.1, newOwner)
    else .error (.ownableUnauthorizedAccount sender)
  acceptOwnership sender storage :=
    if sender = storage.2 then .ok (sender, 0)
    else .error (.ownableUnauthorizedAccount sender)
  renounceOwnership sender storage :=
    if sender = storage.1 then .ok (0, 0)
    else .error (.ownableUnauthorizedAccount sender)

def plainPausable : Pausable where
  Storage := Bool
  initial := false
  paused storage := storage
  pause storage := if storage then .error .enforcedPause else .ok true
  unpause storage := if storage then .ok false else .error .expectedPause

def plainLock : ReentrancyGuard where
  Storage := Bool
  initial := false
  entered storage := storage
  enter storage :=
    if storage then .error .reentrancyGuardReentrantCall else .ok true
  leave _ := false

/-- The modules in their simplest form. -/
def plain : OpenZeppelin where
  ownable := plainOwnable
  pausable := plainPausable
  lock := plainLock

theorem plainOwnable_documented : plainOwnable.Documented where
  construct_ok := by
    intro initialOwner storage hok
    simp only [plainOwnable] at hok
    split at hok
    · cases hok
    · rename_i hnonzero
      cases hok
      exact ⟨hnonzero, rfl, rfl⟩
  transferOwnership_ok := by
    intro sender newOwner storage after hok
    simp only [plainOwnable] at hok
    split at hok
    · rename_i howner
      cases hok
      exact ⟨howner, rfl, rfl⟩
    · cases hok
  acceptOwnership_ok := by
    intro sender storage after hok
    simp only [plainOwnable] at hok
    split at hok
    · rename_i hpending
      cases hok
      exact ⟨hpending, rfl, rfl⟩
    · cases hok
  renounceOwnership_ok := by
    intro sender storage after hok
    simp only [plainOwnable] at hok
    split at hok
    · rename_i howner
      cases hok
      exact ⟨howner, rfl, rfl⟩
    · cases hok

theorem plainPausable_documented : plainPausable.Documented where
  initial_running := rfl
  pause_ok := by
    intro storage after hok
    cases storage with
    | true => cases hok
    | false =>
        cases hok
        exact ⟨rfl, rfl⟩
  unpause_ok := by
    intro storage after hok
    cases storage with
    | true =>
        cases hok
        exact ⟨rfl, rfl⟩
    | false => cases hok
  unpause_paused := by
    intro storage hpaused
    subst hpaused
    exact ⟨false, rfl⟩

theorem plainLock_documented : plainLock.Documented where
  initial_free := rfl
  enter_free := by
    intro storage hfree
    subst hfree
    exact ⟨true, rfl, rfl⟩
  enter_entered := by
    intro storage hentered
    subst hentered
    rfl
  leave_free _ := rfl

theorem plain_documented : plain.Documented where
  ownable := plainOwnable_documented
  pausable := plainPausable_documented
  lock := plainLock_documented

end OpenZeppelin

end BuyAnAnswer.Contract
