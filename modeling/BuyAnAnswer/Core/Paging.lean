import Mathlib

/-!
# Paging through a list

A reader follows the pages of a list by offset.  The query behind a page asks for
one row more than the page shows, and the extra row only says that there are
more.
-/

namespace BuyAnAnswer

/-- A page as it is served. -/
structure Page (Row : Type*) where
  rows : List Row
  limit : ℕ
  offset : ℕ
  hasMore : Bool

namespace Page

variable {Row : Type*}

/-- The page of a list at an offset. -/
def cut (all : List Row) (limit offset : ℕ) : Page Row where
  rows := ((all.drop offset).take (limit + 1)).take limit
  limit := limit
  offset := offset
  hasMore := limit < ((all.drop offset).take (limit + 1)).length

/-- Where the next page starts. -/
def next (page : Page Row) : Option ℕ :=
  if page.hasMore then some (page.offset + page.limit) else none

variable {all : List Row} {limit offset : ℕ}

@[simp]
theorem rows_cut : (cut all limit offset).rows = (all.drop offset).take limit := by
  simp [cut, List.take_take]

@[simp]
theorem hasMore_cut : (cut all limit offset).hasMore = true ↔
    offset + limit < all.length := by
  simp only [cut, List.length_take, List.length_drop, decide_eq_true_eq]
  omega

/-- Read pages until there is no next one; `none` if a page cannot be had or
`steps` do not suffice. -/
def follow (fetch : ℕ → Option (Page Row)) : (steps offset : ℕ) →
    Option (List (Page Row))
  | 0, _ => none
  | steps + 1, offset => do
    let page ← fetch offset
    match page.next with
    | none => return [page]
    | some start => return page :: (← follow fetch steps start)

/-- Once the last page is reached, further steps are not taken. -/
theorem follow_mono {fetch : ℕ → Option (Page Row)} {steps more offset : ℕ}
    {pages : List (Page Row)} (hpages : follow fetch steps offset = some pages)
    (hmore : steps ≤ more) : follow fetch more offset = some pages := by
  induction steps generalizing more offset pages with
  | zero => cases hpages
  | succ steps ih =>
      obtain ⟨more, rfl⟩ := Nat.exists_eq_add_of_lt hmore
      simp only [follow, Option.bind_eq_bind, Option.bind_eq_some_iff] at hpages ⊢
      obtain ⟨page, hpage, hpages⟩ := hpages
      use page, hpage
      cases hnext : page.next with
      | none => simpa [hnext] using hpages
      | some start =>
          simp only [hnext, Option.bind_eq_some_iff] at hpages ⊢
          obtain ⟨rest, hrest, hpages⟩ := hpages
          exact ⟨rest, ih hrest (by omega), hpages⟩

/-- What is left of the list is read in order, each row once, in at most as many
steps as there are rows. -/
theorem follow_cut {fetch : ℕ → Option (Page Row)} {steps : ℕ} (hlimit : 0 < limit)
    (hfetch : ∀ offset ≤ all.length, fetch offset = some (cut all limit offset))
    (hoffset : offset ≤ all.length) (hsteps : all.length - offset < steps) :
    ∃ pages, follow fetch steps offset = some pages ∧
      pages.flatMap rows = all.drop offset ∧
      ∀ page ∈ pages, ∃ start, page = cut all limit start := by
  induction steps generalizing offset with
  | zero => omega
  | succ steps ih =>
      by_cases hmore : offset + limit < all.length
      · have hnext : (cut all limit offset).next = some (offset + limit) :=
          if_pos (hasMore_cut.mpr hmore)
        obtain ⟨pages, hpages, hrows, hcut⟩ := ih hmore.le (by omega)
        use cut all limit offset :: pages
        refine ⟨?_, ?_, ?_⟩
        · simp [follow, hfetch offset hoffset, hnext, hpages]
        · rw [List.flatMap_cons, hrows, rows_cut, ← List.drop_drop,
            List.take_append_drop]
        · simp only [List.mem_cons, forall_eq_or_imp]
          exact ⟨⟨offset, rfl⟩, hcut⟩
      · have hnext : (cut all limit offset).next = none :=
          if_neg fun hlast => hmore (hasMore_cut.mp hlast)
        have hlast : all.drop offset = (all.drop offset).take limit := by
          rw [List.take_of_length_le]
          rw [List.length_drop]
          omega
        use [cut all limit offset]
        refine ⟨?_, ?_, ?_⟩
        · simp [follow, hfetch offset hoffset, hnext]
        · simpa using hlast.symm
        · simp only [List.mem_singleton, forall_eq]
          exact ⟨offset, rfl⟩

end Page

end BuyAnAnswer
