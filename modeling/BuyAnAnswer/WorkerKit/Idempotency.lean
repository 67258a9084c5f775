import BuyAnAnswer.Core.Text
import BuyAnAnswer.Core.Transaction

/-!
# Idempotency keys

The key-value store keeps the first successful result under the caller's key.
Values are kept decoded: `none` is a stored text that does not parse.
-/

namespace BuyAnAnswer.WorkerKit

open Text BuyAnAnswer.Transaction

structure Entry (A : Type) where
  value : Option A
  expiresAt : ℕ

/-- A key-value namespace. -/
abbrev Kv (A : Type) := Text → Option (Entry A)

/-- Read a key; an expired entry is gone. -/
def Kv.get {A : Type} (kv : Kv A) (now : ℕ) (key : Text) : Option (Option A) :=
  match kv key with
  | none => none
  | some entry => if now < entry.expiresAt then some entry.value else none

def Kv.put {A : Type} (kv : Kv A) (now : ℕ) (key : Text) (value : A)
    (expirationTtl : ℕ) : Kv A :=
  Function.update kv key
    (some { value := some value, expiresAt := now + expirationTtl })

section Put

variable {A : Type} {kv : Kv A} {now later expirationTtl : ℕ} {key other : Text} {value : A}

theorem Kv.get_put_self :
    (kv.put now key value expirationTtl).get later key =
      if later < now + expirationTtl then some (some value) else none := by
  simp [Kv.get, Kv.put]

theorem Kv.get_put_of_ne (hne : other ≠ key) :
    (kv.put now key value expirationTtl).get later other = kv.get later other := by
  simp [Kv.get, Kv.put, Function.update_of_ne hne]

end Put

/-- `/^[A-Za-z0-9._-]{8,128}$/` on the trimmed header. -/
def parseIdempotencyKey (raw : Option Text) : Option Text :=
  match raw with
  | none => none
  | some raw =>
    let key := trim raw
    if 8 ≤ key.length ∧ key.length ≤ 128 ∧
        key.all (fun char => char.isAlphanum || char ∈ ['.', '_', '-']) then
      some key
    else none

def storeKey (scope key : Text) : Text :=
  "idem:".toList ++ scope ++ [':'] ++ key

/-- The recorded result under a key, if it can be replayed. -/
def recorded {A : Type} (kv : Kv A) (now : ℕ) (scope key : Text) : Option A :=
  (kv.get now (storeKey scope key)).join

/-- Run `produce` unless a result is recorded, and record what it returns.
Returns the value and whether it was replayed. -/
def withIdempotency {Failure State A : Type} (kv : State → Kv A)
    (setKv : Kv A → State → State) (now : ℕ) (scope key : Text)
    (ttlSeconds : ℕ) (produce : Code Failure State A) :
    Code Failure State (A × Bool) := do
  let store ← read kv
  match recorded store now scope key with
  | some value => return (value, true)
  | none =>
    let value ← produce
    write fun state =>
      setKv ((kv state).put now (storeKey scope key) value ttlSeconds) state
    return (value, false)

section Replay

variable {Failure State A : Type} {kv : State → Kv A} {setKv : Kv A → State → State}
variable {now ttlSeconds : ℕ} {scope key : Text} {produce : Code Failure State A}
variable {state : State}

theorem withIdempotency_recorded {value : A}
    (hrecorded : recorded (kv state) now scope key = some value) :
    withIdempotency kv setKv now scope key ttlSeconds produce state =
      .ok (value, true) state := by
  rw [withIdempotency, read_bind, hrecorded]
  rfl

theorem withIdempotency_fresh (hrecorded : recorded (kv state) now scope key = none) :
    withIdempotency kv setKv now scope key ttlSeconds produce state =
      (do
        let value ← produce
        write fun state =>
          setKv ((kv state).put now (storeKey scope key) value ttlSeconds) state
        return (value, false) : Code Failure State (A × Bool)) state := by
  rw [withIdempotency, read_bind, hrecorded]

end Replay

end BuyAnAnswer.WorkerKit
