import BuyAnAnswer.Core.Paging
import BuyAnAnswer.Workers.Requests
import BuyAnAnswer.Workers.System

/-!
# The question lists of the web app

The received inbox and the asker's history, read page by page: the server cuts
the sorted list by limit and offset, and the app asks for the next page as long
as the last one says that there are more.
-/

namespace BuyAnAnswer.Web

open Text Shared Api Workers

/-- Which list is shown. -/
inductive Kind where
  | received
  | asked
  deriving DecidableEq, Repr

/-- The wallet column that scopes a list. -/
def Kind.column : Kind → WalletColumn
  | .received => .answererWallet
  | .asked => .askerWallet

/-- `getReceived` and `getAsked`: the request for a page, numbers written out. -/
def Kind.get (kind : Kind) (limit offset : ℕ) : Request :=
  match kind with
  | .received => .received (some (decimal limit)) (some (decimal offset))
  | .asked => .asked (some (decimal limit)) (some (decimal offset))

/-- The page in a response. -/
def pageOf (response : Response) : Option (Page (Question × Bool)) :=
  match response.outcome with
  | .ok (.page rows limit offset hasMore) => some { rows, limit, offset, hasMore }
  | _ => none

/-- `queryFn` of the list: the page at an offset. -/
def queryFn (runtime : Runtime) (contexts : ℕ → RequestContext) (cloud : Cloud)
    (kind : Kind) (limit offset : ℕ) : Option (Page (Question × Bool)) :=
  pageOf (cloud.answer runtime (contexts offset) (kind.get limit offset)).1

/-! ## What the server lists -/

/-- The rows of a wallet as the list shows them, newest first. -/
def ownRows (tables : Tables) (column : WalletColumn) (wallet : Text) :
    List (Question × Bool) :=
  ((tables.questions.filter fun row => column.of row = wallet).map fun row => (row,
    (Table.lookup Answer.questionId tables.answers row.id).isSome)).insertionSort
      Statement.newestFirst

section Own

variable {tables : Tables} {column : WalletColumn} {wallet : Text}

theorem ownRows_perm :
    ((ownRows tables column wallet).map Prod.fst).Perm
      (tables.questions.filter fun row => column.of row = wallet) := by
  have hsort := (List.perm_insertionSort Statement.newestFirst
    ((tables.questions.filter fun row => column.of row = wallet).map fun row => (row,
      (Table.lookup Answer.questionId tables.answers row.id).isSome))).map Prod.fst
  rwa [List.map_map, Function.comp_def, List.map_id'] at hsort

theorem ownRows_length : (ownRows tables column wallet).length ≤ tables.questions.length := by
  calc (ownRows tables column wallet).length
      = (tables.questions.filter fun row => column.of row = wallet).length := by
        simpa using (@ownRows_perm tables column wallet).length_eq
    _ ≤ tables.questions.length := List.length_filter_le _ _

theorem ownRows_hasAnswer {row : Question × Bool}
    (hrow : row ∈ ownRows tables column wallet) :
    row.2 = true ↔ ∃ answer ∈ tables.answers, answer.questionId = row.1.id := by
  rw [ownRows, List.mem_insertionSort, List.mem_map] at hrow
  obtain ⟨question, -, rfl⟩ := hrow
  simp [Table.lookup]

theorem ownRows_nodup (hconsistent : tables.Consistent) :
    ((ownRows tables column wallet).map fun row => row.1.id).Nodup := by
  have hperm := (@ownRows_perm tables column wallet).map Question.id
  rw [List.map_map] at hperm
  apply hperm.nodup_iff.mpr
  exact hconsistent.questions_primary.sublist (List.filter_sublist.map Question.id)

/-- Newest first, and no two rows in the same place. -/
theorem ownRows_pairwise (hconsistent : tables.Consistent) :
    (ownRows tables column wallet).Pairwise fun left right =>
      right.1.createdAt < left.1.createdAt ∨
        right.1.createdAt = left.1.createdAt ∧ right.1.id < left.1.id := by
  have htotal : Std.Total Statement.newestFirst := by
    constructor
    intro left right
    rcases lt_trichotomy left.1.createdAt right.1.createdAt with hlt | htie | hlt
    · exact .inr (.inl hlt)
    · rcases le_total left.1.id right.1.id with hid | hid
      · exact .inr (.inr ⟨htie, hid⟩)
      · exact .inl (.inr ⟨htie.symm, hid⟩)
    · exact .inl (.inl hlt)
  have htrans : IsTrans (Question × Bool) Statement.newestFirst := by
    constructor
    rintro first second third (hfirst | ⟨hfirst, hid⟩) (hsecond | ⟨hsecond, hlater⟩)
    · exact .inl (hsecond.trans hfirst)
    · exact .inl (hsecond ▸ hfirst)
    · exact .inl (hfirst ▸ hsecond)
    · exact .inr ⟨hsecond.trans hfirst, hlater.trans hid⟩
  have hsorted := List.pairwise_insertionSort Statement.newestFirst
    ((tables.questions.filter fun row => column.of row = wallet).map fun row => (row,
      (Table.lookup Answer.questionId tables.answers row.id).isSome))
  have hdistinct := List.pairwise_map.mp (@ownRows_nodup _ column wallet hconsistent)
  apply (hsorted.and hdistinct).imp
  rintro left right ⟨hearlier | ⟨htie, hid⟩, hne⟩
  · exact .inl hearlier
  · exact .inr ⟨htie, lt_of_le_of_ne hid (Ne.symm hne)⟩

end Own

/-! ## What the app reads -/

section Read

variable {runtime : Runtime} {cloud : Cloud} {wallet : Text} {limit offset : ℕ}

/-- Numbers that are written out are read back. -/
theorem listQuery_decimal
    (hlimit : runtime.toNumber (decimal limit) = .finite limit)
    (hoffset : runtime.toNumber (decimal offset) = .finite offset)
    (hleast : 1 ≤ limit) (hmost : limit ≤ 100) :
    listQuery runtime (some (decimal limit)) (some (decimal offset)) =
      .ok { limit, offset } := by
  simp [listQuery, countSchema, hlimit, hoffset, hleast, hmost, Problem.unless,
    Parsed.issues]

/-- A page of the list is a cut of the wallet's own rows. -/
theorem queryFn_eq {contexts : ℕ → RequestContext} (kind : Kind)
    (hwallet : ∀ offset, (contexts offset).wallet = some wallet)
    (hlimit : runtime.toNumber (decimal limit) = .finite limit)
    (hoffset : runtime.toNumber (decimal offset) = .finite offset)
    (hrange : offset < 2 ^ 63) (hleast : 1 ≤ limit) (hmost : limit ≤ 100) :
    queryFn runtime contexts cloud kind limit offset =
      some (Page.cut (ownRows cloud.database.toTables kind.column wallet) limit
        offset) := by
  have hlist : cloud.finish (listQuestions runtime wallet kind.column
      (some (decimal limit)) (some (decimal offset))) =
      (.ok (.page (((ownRows cloud.database.toTables kind.column wallet).drop
          offset).take (limit + 1) |>.take limit) limit offset
        (decide (limit < (((ownRows cloud.database.toTables kind.column wallet).drop
          offset).take (limit + 1)).length))), cloud) := by
    rw [listQuestions, listQuery_decimal hlimit hoffset hleast hmost]
    change cloud.finish (query _ >>= _) = _
    have hserved : (Statement.listQuestions kind.column wallet (limit + 1)
        offset).inRange = true := decide_eq_true hrange
    rw [Cloud.finish_read rfl hserved]
    simp [presentQuestion, Statement.reply, ownRows]
  have hanswer : (cloud.answer runtime (contexts offset) (kind.get limit offset)).1 =
      { rateLimit := none, outcome := (cloud.finish (listQuestions runtime wallet
        kind.column (some (decimal limit)) (some (decimal offset)))).1 } := by
    cases kind <;>
      simp [Cloud.answer, Kind.get, Kind.column, handleRequest, limitOf,
        Cloud.finish_respond, handler, requireAuth, hwallet]
  rw [queryFn, hanswer, hlist]
  rfl

/-- Only so many numbers are read back as they are written. -/
theorem lt_of_read_back {most : ℕ}
    (hnumber : ∀ value ≤ most, runtime.toNumber (decimal value) = .finite value) :
    most < 2 ^ 63 := by
  by_contra hlarge
  have hdouble := runtime.toNumber_double _ _ (hnumber (2 ^ 53 + 1) (by omega))
  exact not_isDouble hdouble

/-- Following the pages ends, and shows each of the wallet's own rows once,
newest first; a page says that there are more exactly when a later row exists. -/
theorem inbox_shows_own_rows {contexts : ℕ → RequestContext} (kind : Kind)
    (hwallet : ∀ offset, (contexts offset).wallet = some wallet)
    (hleast : 1 ≤ limit) (hmost : limit ≤ 100)
    (hnumber : ∀ value ≤ max 100 cloud.database.questions.length,
      runtime.toNumber (decimal value) = .finite value) :
    ∃ pages, (∀ steps > cloud.database.questions.length,
        Page.follow (queryFn runtime contexts cloud kind limit) steps 0 = some pages) ∧
      ((pages.flatMap Page.rows).map Prod.fst).Perm
        (cloud.database.questions.filter fun row => kind.column.of row = wallet) ∧
      ((pages.flatMap Page.rows).map fun row => row.1.id).Nodup ∧
      ((pages.flatMap Page.rows).Pairwise fun left right =>
        right.1.createdAt < left.1.createdAt ∨
          right.1.createdAt = left.1.createdAt ∧ right.1.id < left.1.id) ∧
      (∀ row ∈ pages.flatMap Page.rows, row.2 = true ↔
        ∃ answer ∈ cloud.database.answers, answer.questionId = row.1.id) ∧
      ∀ page ∈ pages, page.hasMore = true ↔
        (pages.flatMap Page.rows).drop (page.offset + page.limit) ≠ [] := by
  have hrows : (ownRows cloud.database.toTables kind.column wallet).length ≤
      cloud.database.questions.length := ownRows_length
  have hfetch : ∀ offset ≤ (ownRows cloud.database.toTables kind.column wallet).length,
      queryFn runtime contexts cloud kind limit offset =
        some (Page.cut (ownRows cloud.database.toTables kind.column wallet) limit
          offset) := by
    intro offset hoffset
    have hbound : offset ≤ max 100 cloud.database.questions.length :=
      le_max_of_le_right (hoffset.trans hrows)
    exact queryFn_eq kind hwallet (hnumber limit (le_max_of_le_left hmost))
      (hnumber offset hbound) (hbound.trans_lt (lt_of_read_back hnumber)) hleast hmost
  obtain ⟨pages, hpages, hread, hcut⟩ := Page.follow_cut hleast hfetch (Nat.zero_le _)
    (Nat.lt_succ_self _)
  rw [List.drop_zero] at hread
  use pages
  rw [hread]
  refine ⟨?_, ownRows_perm, ownRows_nodup cloud.database.consistent,
    ownRows_pairwise cloud.database.consistent, fun row => ownRows_hasAnswer, ?_⟩
  · exact fun steps hsteps => Page.follow_mono hpages (by omega)
  · intro page hpage
    obtain ⟨start, rfl⟩ := hcut page hpage
    rw [Page.hasMore_cut, ne_eq, List.drop_eq_nil_iff, not_le]
    rfl

end Read

/-! ## A list over two pages -/

namespace Sample

/-- Two questions of the same second. -/
def cloud : Cloud :=
  { Workers.Sample.cloud with
    database := {
      creators := [Workers.Sample.creator]
      questions := [Workers.Sample.question,
        { Workers.Sample.question with id := "other".toList, onchainId := none }]
      answers := []
      consistent := by decide } }

/-- Small numbers are read. -/
def runtime : Runtime where
  toNumber text :=
    if Nat.ofDigitChars 10 text 0 < 2 ^ 53 then .finite (Nat.ofDigitChars 10 text 0)
    else .nan
  urlProtocol := fun _ => none
  toNumber_double := by
    intro text value hnumber
    split at hnumber
    · next hsmall =>
      cases hnumber
      refine ⟨Nat.ofDigitChars 10 text 0, 0, ?_, by simp⟩
      rw [Nat.abs_cast]
      exact_mod_cast hsmall
    · cases hnumber

def context : RequestContext :=
  { clientIp := [], wallet := some Workers.Sample.creator.wallet, now := 2 }

end Sample

theorem inbox_shows_own_rows_sample :
    ∃ pages, (∀ steps > 2, Page.follow (queryFn Sample.runtime (fun _ => Sample.context)
        Sample.cloud .received 1) steps 0 = some pages) ∧
      ((pages.flatMap Page.rows).map Prod.fst).Perm Sample.cloud.database.questions := by
  have hnumber : ∀ value ≤ 100,
      Sample.runtime.toNumber (decimal value) = .finite value := by
    intro value hvalue
    simp only [Sample.runtime, decimal, Nat.ofDigitChars_ten_toDigits]
    exact if_pos (by omega)
  obtain ⟨pages, hpages, hperm, -⟩ :=
    @inbox_shows_own_rows Sample.runtime Sample.cloud Workers.Sample.creator.wallet 1
      (fun _ => Sample.context) .received (fun _ => rfl) (by decide) (by decide)
      hnumber
  exact ⟨pages, hpages, hperm⟩

end BuyAnAnswer.Web
