import Mathlib

/-!
# Totals of pointwise-updated ledgers

A ledger is a function from keys to entries, and its total is the sum of the
weights of the entries.  Writing one entry moves the total by the difference
of the two weights, which is all that conservation arguments need.
-/

namespace BuyAnAnswer.Ledger

variable {Key Entry : Type*} [Fintype Key] [DecidableEq Key]

/-- Sum of the weights of all entries. -/
def total (weight : Entry → ℕ) (ledger : Key → Entry) : ℕ :=
  ∑ key, weight (ledger key)

/-- Overwriting one entry replaces its weight in the total. -/
theorem total_update (weight : Entry → ℕ) (ledger : Key → Entry) (key : Key)
    (entry : Entry) :
    total weight (Function.update ledger key entry) + weight (ledger key) =
      total weight ledger + weight entry := by
  have hrest : ∑ other ∈ Finset.univ.erase key,
        weight (Function.update ledger key entry other) =
      ∑ other ∈ Finset.univ.erase key, weight (ledger other) := by
    apply Finset.sum_congr rfl
    intro other hother
    rw [Function.update_of_ne (Finset.ne_of_mem_erase hother)]
  have hnew := Finset.add_sum_erase Finset.univ
    (fun other => weight (Function.update ledger key entry other))
    (Finset.mem_univ key)
  have hold := Finset.add_sum_erase Finset.univ
    (fun other => weight (ledger other)) (Finset.mem_univ key)
  simp only [Function.update_self] at hnew
  simp only [total]
  omega

omit [DecidableEq Key] in
/-- No entry weighs more than the total. -/
theorem weight_le_total (weight : Entry → ℕ) (ledger : Key → Entry)
    (key : Key) : weight (ledger key) ≤ total weight ledger :=
  Finset.single_le_sum (f := fun other => weight (ledger other))
    (fun _ _ => Nat.zero_le _) (Finset.mem_univ key)

omit [DecidableEq Key] in
/-- A ledger whose entries all weigh nothing has total zero. -/
theorem total_eq_zero (weight : Entry → ℕ) (ledger : Key → Entry)
    (hzero : ∀ key, weight (ledger key) = 0) : total weight ledger = 0 :=
  Finset.sum_eq_zero fun key _ => hzero key

end BuyAnAnswer.Ledger
