import Mathlib

/-!
# Ranges that tile an interval

A list of ranges with inclusive ends tiles the numbers after one bound up to
another if each range starts right after the one before.
-/

namespace BuyAnAnswer

/-- The ranges tile the numbers after `last` and up to `final`. -/
def Tiles : (last : ℕ) → List (ℕ × ℕ) → (final : ℕ) → Prop
  | last, [], final => last = final
  | last, (lo, hi) :: rest, final => lo = last + 1 ∧ lo ≤ hi ∧ Tiles hi rest final

/-- How many numbers a range holds. -/
def rangeSize (range : ℕ × ℕ) : ℕ := range.2 + 1 - range.1

namespace Tiles

variable {last middle final : ℕ} {ranges rest : List (ℕ × ℕ)}

theorem append (hfirst : Tiles last ranges middle) (hrest : Tiles middle rest final) :
    Tiles last (ranges ++ rest) final := by
  induction ranges generalizing last with
  | nil =>
      have hlast : last = middle := hfirst
      simpa [hlast] using hrest
  | cons range ranges ih =>
      obtain ⟨hlo, hle, htail⟩ := hfirst
      exact ⟨hlo, hle, ih htail⟩

theorem le (htiles : Tiles last ranges final) : last ≤ final := by
  induction ranges generalizing last with
  | nil => exact Nat.le_of_eq htiles
  | cons range ranges ih =>
      obtain ⟨hlo, hle, htail⟩ := htiles
      have hfinal := ih htail
      omega

/-- A number is in one of the ranges if it is between the bounds. -/
theorem covers (htiles : Tiles last ranges final) (number : ℕ) :
    (∃ range ∈ ranges, range.1 ≤ number ∧ number ≤ range.2) ↔
      last < number ∧ number ≤ final := by
  induction ranges generalizing last with
  | nil =>
      have hlast : last = final := htiles
      simp [hlast]
  | cons range ranges ih =>
      obtain ⟨hlo, hle, htail⟩ := htiles
      have hfinal := htail.le
      have hrest := ih htail
      simp only [List.mem_cons, exists_eq_or_imp, hrest]
      omega

theorem above (htiles : Tiles last ranges final) :
    ∀ range ∈ ranges, last < range.1 ∧ range.1 ≤ range.2 ∧ range.2 ≤ final := by
  induction ranges generalizing last with
  | nil => simp
  | cons first ranges ih =>
      obtain ⟨hlo, hle, htail⟩ := htiles
      have hfinal := htail.le
      intro range hrange
      obtain rfl | hrest := List.mem_cons.mp hrange
      · omega
      · have hlater := ih htail range hrest
        omega

theorem pairwise (htiles : Tiles last ranges final) :
    ranges.Pairwise fun left right => left.2 < right.1 := by
  induction ranges generalizing last with
  | nil => exact List.Pairwise.nil
  | cons first ranges ih =>
      obtain ⟨hlo, hle, htail⟩ := htiles
      apply List.Pairwise.cons
      · intro range hrange
        exact (htail.above range hrange).1
      · exact ih htail

theorem sum_size (htiles : Tiles last ranges final) :
    (ranges.map rangeSize).sum = final - last := by
  induction ranges generalizing last with
  | nil =>
      have hlast : last = final := htiles
      simp [hlast]
  | cons first ranges ih =>
      obtain ⟨hlo, hle, htail⟩ := htiles
      have hfinal := htail.le
      rw [List.map_cons, List.sum_cons, ih htail, rangeSize]
      omega

end Tiles

end BuyAnAnswer
