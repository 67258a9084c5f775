import Mathlib

/-!
# Relational tables

A table is the list of its rows.  `update` is the guarded update of SQL: rows
that satisfy the guard are rewritten in place and all others stay.  Where a
column is a primary key, `lookup` finds the one row that has it.
-/

namespace BuyAnAnswer.Table

variable {Row Column : Type*} {hits : Row → Bool} {set : Row → Row}
variable {rows : List Row}

/-- `UPDATE … SET set WHERE hits`. -/
def update (hits : Row → Bool) (set : Row → Row) (rows : List Row) : List Row :=
  rows.map fun row => if hits row then set row else row

theorem mem_update {row : Row} :
    row ∈ update hits set rows ↔
      (row ∈ rows ∧ hits row = false) ∨
        ∃ old ∈ rows, hits old = true ∧ set old = row := by
  rw [update, List.mem_map]
  constructor
  · intro ⟨old, hold, hrow⟩
    cases hhits : hits old with
    | false =>
        rw [hhits] at hrow
        subst hrow
        exact .inl ⟨hold, hhits⟩
    | true =>
        rw [hhits] at hrow
        exact .inr ⟨old, hold, hhits, hrow⟩
  · intro hcases
    obtain ⟨hold, hhits⟩ | ⟨old, hold, hhits, hrow⟩ := hcases
    · exact ⟨row, hold, by rw [hhits]; rfl⟩
    · exact ⟨old, hold, by rw [hhits]; exact hrow⟩

/-- An update that hits no row changes nothing. -/
theorem update_eq_self (hmiss : ∀ row ∈ rows, hits row = false) :
    update hits set rows = rows := by
  calc update hits set rows = rows.map id :=
        List.map_congr_left fun row hrow => by rw [hmiss row hrow]; rfl
    _ = rows := List.map_id rows

/-- An update does not change the columns it does not set. -/
theorem map_update {column : Row → Column}
    (hkeeps : ∀ row, column (set row) = column row) :
    (update hits set rows).map column = rows.map column := by
  rw [update, List.map_map]
  apply List.map_congr_left
  intro row _
  rw [Function.comp_apply]
  split
  · exact hkeeps row
  · rfl

/-! ## Rows by key -/

section Lookup

variable {Key : Type*} [DecidableEq Key] {key : Row → Key} {target : Key}
variable {row : Row}

/-- The row with a key. -/
def lookup (key : Row → Key) (rows : List Row) (target : Key) : Option Row :=
  rows.find? fun row => key row = target

theorem lookup_key (hlookup : lookup key rows target = some row) :
    key row = target := by
  simpa using List.find?_some hlookup

theorem lookup_mem (hlookup : lookup key rows target = some row) : row ∈ rows :=
  List.mem_of_find?_eq_some hlookup

theorem lookup_eq_none :
    lookup key rows target = none ↔ ∀ row ∈ rows, key row ≠ target := by
  simp [lookup]

theorem lookup_eq_some (hnodup : (rows.map key).Nodup) :
    lookup key rows target = some row ↔ row ∈ rows ∧ key row = target := by
  constructor
  · intro hlookup
    exact ⟨lookup_mem hlookup, lookup_key hlookup⟩
  · intro ⟨hrow, hkey⟩
    cases hfound : lookup key rows target with
    | none => exact absurd hkey (lookup_eq_none.mp hfound row hrow)
    | some other =>
        have hsame := (lookup_key hfound).trans hkey.symm
        rw [List.inj_on_of_nodup_map hnodup (lookup_mem hfound) hrow hsame]

/-- An update that keeps the key rewrites each row where it is. -/
theorem lookup_update (hkeeps : ∀ row, key (set row) = key row) :
    lookup key (update hits set rows) target =
      (lookup key rows target).map fun row => if hits row then set row else row := by
  induction rows with
  | nil => rfl
  | cons first rest ih =>
      have hkey : key (if hits first then set first else first) = key first := by
        split
        · exact hkeeps first
        · rfl
      rw [update, List.map_cons, lookup, lookup, List.find?_cons,
        List.find?_cons, hkey]
      cases decide (key first = target) with
      | true => rfl
      | false => exact ih

theorem lookup_append (last : Row) :
    lookup key (rows ++ [last]) target =
      (lookup key rows target).or (if key last = target then some last else none) := by
  rw [lookup, List.find?_append]
  by_cases hkey : key last = target
  · simp [lookup, hkey]
  · simp [lookup, hkey]

theorem lookup_filter {keep : Row → Bool} (hnodup : (rows.map key).Nodup) :
    lookup key (rows.filter keep) target = (lookup key rows target).filter keep := by
  have hfiltered : ((rows.filter keep).map key).Nodup :=
    hnodup.sublist (List.filter_sublist.map key)
  ext row
  rw [lookup_eq_some hfiltered, List.mem_filter, Option.filter_eq_some_iff,
    lookup_eq_some hnodup]
  tauto

end Lookup

end BuyAnAnswer.Table
