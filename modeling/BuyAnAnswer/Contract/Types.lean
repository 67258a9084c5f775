import Mathlib

/-!
# Values of the escrow contract

The fixed-width integers of the contract with their checked arithmetic, and
the types, events and errors of its interface.  A value of an integer type is
in range by construction, so only the arithmetic can fail.
-/

namespace BuyAnAnswer.Contract

/-- Solidity's `uintN`. -/
abbrev Uint (bits : ℕ) := Fin (2 ^ bits)

abbrev Address := Uint 160

abbrev Bytes32 := Uint 256

/-! Every integer type has a zero; the widths in use have it as a named fact. -/

instance neZero_uint16 : NeZero (2 ^ 16) := inferInstance
instance neZero_uint64 : NeZero (2 ^ 64) := inferInstance
instance neZero_uint128 : NeZero (2 ^ 128) := inferInstance
instance neZero_uint160 : NeZero (2 ^ 160) := inferInstance
instance neZero_uint256 : NeZero (2 ^ 256) := inferInstance

/-- Lifecycle status of a question; `none` is the zero value of an unused id. -/
inductive Status where
  | none
  | «open»
  | answered
  | declined
  | cancelled
  | reclaimed
  deriving DecidableEq, Repr

/-- On-chain escrow record for a single question. -/
structure Question where
  asker : Address
  answerer : Address
  amount : Uint 128
  deadline : Uint 64
  status : Status
  deriving DecidableEq, Repr

/-- What an unwritten slot of the `questions` mapping reads as. -/
def Question.unwritten : Question :=
  { asker := 0, answerer := 0, amount := 0, deadline := 0, status := .none }

inductive Event where
  | questionAsked (id : Uint 256) (ref : Bytes32) (asker answerer : Address)
      (amount : Uint 128) (deadline : Uint 64)
  | questionAnswered (id : Uint 256) (ref : Bytes32) (answerer : Address)
  | questionDeclined (id : Uint 256) (ref : Bytes32)
  | questionCancelled (id : Uint 256) (ref : Bytes32)
  | questionReclaimed (id : Uint 256) (ref : Bytes32)
  | withdrawn (who : Address) (amount : Uint 256)
  | answerFeeUpdated (bps : Uint 16)
  | cancelFeeUpdated (bps : Uint 16)
  | answerWindowUpdated (window : Uint 64)
  | feeAddressUpdated (feeAddress : Address)
  deriving DecidableEq, Repr

/-- Why a call reverted: the errors of the interface, those of the inherited
modules, the arithmetic panic of checked operations, and a failure bubbled up
from the token. -/
inductive Error where
  | zeroAddress
  | zeroAmount
  | notOpen
  | notAnswerer
  | notAsker
  | deadlinePassed
  | deadlineNotPassed
  | feeTooHigh
  | invalidWindow
  | nothingToWithdraw
  | ownableInvalidOwner (owner : Address)
  | ownableUnauthorizedAccount (account : Address)
  | enforcedPause
  | expectedPause
  | reentrancyGuardReentrantCall
  | arithmeticPanic
  | tokenFailure
  deriving DecidableEq, Repr

/-- `msg.sender` and `block.timestamp` of a call. -/
structure Msg where
  sender : Address
  timestamp : ℕ

/-! ## Integer arithmetic -/

/-- Implicit conversion to a wider integer type. -/
def widen {bits wide : ℕ} (hwide : bits ≤ wide) (value : Uint bits) :
    Uint wide :=
  Fin.castLE (Nat.pow_le_pow_right (by omega) hwide) value

theorem uint128_le_uint256 : 128 ≤ 256 := by decide

theorem uint16_le_uint256 : 16 ≤ 256 := by decide

/-- Explicit conversion to `uintN`, which drops the high bits. -/
def truncate (bits value : ℕ) : Uint bits := Fin.ofNat (2 ^ bits) value

def checkedAdd {bits : ℕ} (left right : Uint bits) : Except Error (Uint bits) :=
  if hfits : (left : ℕ) + right < 2 ^ bits then .ok ⟨left + right, hfits⟩
  else .error .arithmeticPanic

def checkedSub {bits : ℕ} (left right : Uint bits) : Except Error (Uint bits) :=
  if right ≤ left then .ok ⟨(left : ℕ) - right, by omega⟩
  else .error .arithmeticPanic

def checkedMul {bits : ℕ} (left right : Uint bits) : Except Error (Uint bits) :=
  if hfits : (left : ℕ) * right < 2 ^ bits then .ok ⟨left * right, hfits⟩
  else .error .arithmeticPanic

@[simp]
theorem val_widen {bits wide : ℕ} (hwide : bits ≤ wide) (value : Uint bits) :
    (widen hwide value : ℕ) = value := rfl

@[simp]
theorem val_truncate (bits value : ℕ) :
    (truncate bits value : ℕ) = value % 2 ^ bits := rfl

theorem checkedAdd_eq_ok {bits : ℕ} {left right sum : Uint bits} :
    checkedAdd left right = .ok sum ↔ (sum : ℕ) = left + right := by
  unfold checkedAdd
  split
  · simp [Fin.ext_iff, eq_comm]
  · have := sum.isLt
    simp only [reduceCtorEq, false_iff]
    omega

theorem checkedSub_eq_ok {bits : ℕ} {left right difference : Uint bits} :
    checkedSub left right = .ok difference ↔
      (difference : ℕ) + right = left := by
  unfold checkedSub
  split
  · rename_i hle
    have hval : (right : ℕ) ≤ left := hle
    simp only [Except.ok.injEq, Fin.ext_iff]
    omega
  · rename_i hle
    have hval : ¬ (right : ℕ) ≤ left := hle
    simp only [reduceCtorEq, false_iff]
    omega

theorem checkedMul_eq_ok {bits : ℕ} {left right product : Uint bits} :
    checkedMul left right = .ok product ↔ (product : ℕ) = left * right := by
  unfold checkedMul
  split
  · simp [Fin.ext_iff, eq_comm]
  · have := product.isLt
    simp only [reduceCtorEq, false_iff]
    omega

end BuyAnAnswer.Contract
