import BuyAnAnswer.Core.Machine
import BuyAnAnswer.Workers.Requests

/-!
# The rate limiter

One counter for each policy, identity and window, in a store that forgets a key
after its time to live.  A counter outlives the window that its key names, so
within a window calls are counted one by one.
-/

namespace BuyAnAnswer.Workers

open Text Shared WorkerKit Api

/-- The counter of a window. -/
def counterKey (policy : RateLimitPolicy) (id : Text) (bucket : ℕ) : Text :=
  "rl:".toList ++ policy.namespacePrefix.toList ++ [':'] ++ id ++ [':'] ++ decimal bucket

/-- A call of `consume` at a time of the clock, in milliseconds. -/
structure Charge where
  policy : RateLimitPolicy
  id : Text
  clock : ℕ

namespace Charge

def nowSec (charge : Charge) : ℕ := charge.clock / 1000

def bucket (charge : Charge) : ℕ := charge.nowSec / charge.policy.windowSeconds

def key (charge : Charge) : Text := counterKey charge.policy charge.id charge.bucket

/-- The calls that share a counter. -/
def Shares (left right : Charge) : Prop :=
  left.policy.namespacePrefix = right.policy.namespacePrefix ∧ left.id = right.id ∧
    left.bucket = right.bucket

instance : DecidableRel Shares := fun _ _ => inferInstanceAs (Decidable (_ ∧ _ ∧ _))

/-- The answer to the call that is number `count` in its window. -/
def result (charge : Charge) (count : ℕ) : RateLimitResult where
  allowed := count ≤ charge.policy.limit
  limit := charge.policy.limit
  count := count
  remaining := charge.policy.limit - count
  resetSeconds :=
    charge.policy.windowSeconds - charge.nowSec % charge.policy.windowSeconds

/-- What the counter of a call reads when the call is made. -/
def reads (charge : Charge) (kv : Kv ℕ) : ℕ :=
  (kv.get charge.clock charge.key).join.getD 0

end Charge

/-- `kvRateLimiter(kv, policy, now).consume(id)` -/
def kvRateLimiter (kv : Kv ℕ) (charge : Charge) : RateLimitResult × Kv ℕ :=
  let count := charge.reads kv + 1
  (charge.result count, kv.put charge.clock charge.key count
    ((charge.policy.windowSeconds + TTL_SLACK_SECONDS) * 1000))

/-- The store after some calls. -/
def storeAfter (kv : Kv ℕ) (charges : List Charge) : Kv ℕ :=
  Machine.run (fun kv charge => (kvRateLimiter kv charge).2) kv charges

/-- The calls that are allowed. -/
def admitted (kv : Kv ℕ) : List Charge → List Charge
  | [] => []
  | charge :: charges =>
    if (kvRateLimiter kv charge).1.allowed then
      charge :: admitted (kvRateLimiter kv charge).2 charges
    else admitted (kvRateLimiter kv charge).2 charges

/-! ## Keys -/

theorem Charge.key_eq_iff {left right : Charge}
    (hleft : ':' ∉ left.policy.namespacePrefix.toList)
    (hright : ':' ∉ right.policy.namespacePrefix.toList) :
    left.key = right.key ↔ left.Shares right := by
  have hdigits : ∀ value, ':' ∉ decimal value := fun value hcolon =>
    absurd (isDigit_of_mem_decimal hcolon) (by decide)
  simp only [Charge.key, counterKey, List.append_assoc, List.cons_append,
    List.nil_append, List.append_cancel_left_eq]
  rw [append_first_inj hleft hright, append_last_inj (hdigits _) (hdigits _),
    decimal_inj, String.toList_inj]
  rfl

/-! ## Counting -/

/-- Policies of the calls: windows of at least a second, and no two with one
prefix. -/
structure WellNamed (charges : List Charge) : Prop where
  window : ∀ charge ∈ charges, 1 ≤ charge.policy.windowSeconds
  no_colon : ∀ charge ∈ charges, ':' ∉ charge.policy.namespacePrefix.toList
  distinct : ∀ left ∈ charges, ∀ right ∈ charges,
    left.policy.namespacePrefix = right.policy.namespacePrefix →
      left.policy = right.policy

/-- A counter outlives its window. -/
theorem Charge.outlives {left right : Charge} (hpolicy : left.policy = right.policy)
    (hbucket : left.bucket = right.bucket) (hwindow : 1 ≤ right.policy.windowSeconds) :
    left.clock < right.clock +
      (right.policy.windowSeconds + TTL_SLACK_SECONDS) * 1000 := by
  simp only [Charge.bucket, Charge.nowSec, Nat.div_div_eq_div_mul, hpolicy] at hbucket
  have hlength : 0 < 1000 * right.policy.windowSeconds := by omega
  have hleft := @Nat.lt_div_mul_add left.clock _ hlength
  have hright := Nat.div_mul_le_self right.clock (1000 * right.policy.windowSeconds)
  rw [hbucket] at hleft
  have hslack : TTL_SLACK_SECONDS = 5 := rfl
  omega

/-- A call counts itself and leaves the counters of other calls alone. -/
theorem reads_kvRateLimiter {charges : List Charge} {kv : Kv ℕ} {made read : Charge}
    (hnamed : WellNamed charges) (hmade : made ∈ charges) (hread : read ∈ charges) :
    read.reads (kvRateLimiter kv made).2 =
      if made.Shares read then made.reads kv + 1 else read.reads kv := by
  have hkey := Charge.key_eq_iff (hnamed.no_colon made hmade)
    (hnamed.no_colon read hread)
  by_cases hshares : made.Shares read
  · have hsame := hkey.mpr hshares
    have hpolicy := hnamed.distinct read hread made hmade hshares.1.symm
    have halive := Charge.outlives hpolicy hshares.2.2.symm (hnamed.window made hmade)
    rw [if_pos hshares, Charge.reads, ← hsame, kvRateLimiter, Kv.get_put_self,
      if_pos halive]
    rfl
  · have hother : read.key ≠ made.key := fun hsame => hshares (hkey.mp hsame.symm)
    rw [if_neg hshares, Charge.reads, kvRateLimiter, Kv.get_put_of_ne hother]
    rfl

theorem Charge.Shares.iff {left right : Charge} (hshares : left.Shares right)
    (other : Charge) : other.Shares left ↔ other.Shares right := by
  simp only [Charge.Shares] at hshares ⊢
  rw [hshares.1, hshares.2.1, hshares.2.2]

theorem Charge.Shares.countP_eq {left right : Charge} (hshares : left.Shares right)
    (past : List Charge) :
    past.countP (fun other => other.Shares left) =
      past.countP fun other => other.Shares right := by
  simp only [hshares.iff]

section Run

variable {charges past : List Charge} {kv : Kv ℕ} {read : Charge}

theorem storeAfter_append (made : Charge) :
    storeAfter kv (past ++ [made]) = (kvRateLimiter (storeAfter kv past) made).2 := by
  rw [storeAfter, Machine.run_append]
  rfl

/-- A counter holds the number of calls that share it. -/
theorem reads_storeAfter (hnamed : WellNamed charges)
    (hfresh : ∀ charge ∈ charges, kv charge.key = none) (hpast : past ⊆ charges)
    (hread : read ∈ charges) :
    read.reads (storeAfter kv past) = past.countP fun other => other.Shares read := by
  induction past using List.reverseRecOn generalizing read with
  | nil => simp [storeAfter, Charge.reads, Kv.get, hfresh read hread]
  | append_singleton past made ih =>
      have hmade : made ∈ charges := hpast (by simp)
      have hearlier : past ⊆ charges := fun charge hcharge => hpast (by simp [hcharge])
      rw [storeAfter_append, reads_kvRateLimiter hnamed hmade hread,
        List.countP_append]
      by_cases hshares : made.Shares read
      · have hmany := ih hearlier hmade
        rw [hshares.countP_eq] at hmany
        rw [if_pos hshares]
        simpa [hshares] using hmany
      · have hmany := ih hearlier hread
        rw [if_neg hshares]
        simpa [hshares] using hmany

/-- The answer to a call is decided by its number among those that share its
counter. -/
theorem kvRateLimiter_result {charge : Charge} (hnamed : WellNamed charges)
    (hfresh : ∀ charge ∈ charges, kv charge.key = none) (hpast : past ⊆ charges)
    (hcharge : charge ∈ charges) :
    (kvRateLimiter (storeAfter kv past) charge).1 =
      charge.result (past.countP (fun other => other.Shares charge) + 1) := by
  rw [kvRateLimiter, reads_storeAfter hnamed hfresh hpast hcharge]

theorem admitted_append (first second : List Charge) :
    admitted kv (first ++ second) =
      admitted kv first ++ admitted (storeAfter kv first) second := by
  induction first generalizing kv with
  | nil => rfl
  | cons charge first ih =>
      rw [List.cons_append, admitted, admitted, ih]
      split <;> rfl

/-- Of the calls that share a counter, the first `limit` are allowed. -/
theorem countP_admitted (hnamed : WellNamed charges)
    (hfresh : ∀ charge ∈ charges, kv charge.key = none) (hpast : past ⊆ charges)
    (hread : ∃ charge ∈ charges, charge.policy = read.policy) :
    (admitted kv past).countP (fun other => other.Shares read) =
      min read.policy.limit (past.countP fun other => other.Shares read) := by
  induction past using List.reverseRecOn with
  | nil => simp [admitted]
  | append_singleton past made ih =>
      have hmade : made ∈ charges := hpast (by simp)
      have hearlier : past ⊆ charges := fun charge hcharge => hpast (by simp [hcharge])
      rw [admitted_append, List.countP_append, List.countP_append, ih hearlier,
        admitted, admitted, kvRateLimiter_result hnamed hfresh hearlier hmade]
      by_cases hshares : made.Shares read
      · obtain ⟨charge, hcharge, hpolicy⟩ := hread
        have hsame : made.policy = read.policy := by
          rw [← hpolicy]
          exact hnamed.distinct made hmade charge hcharge (hpolicy ▸ hshares.1)
        rw [hshares.countP_eq]
        simp only [Charge.result, hsame, decide_eq_true_eq]
        split <;> simp [hshares] <;> omega
      · split <;> simp [hshares]

theorem admitted_subset : admitted kv past ⊆ past := by
  induction past generalizing kv with
  | nil => simp [admitted]
  | cons charge past ih =>
      rw [admitted]
      split
      · exact List.cons_subset_cons charge ih
      · exact List.subset_cons_of_subset charge ih

/-- A time no later than a window after `start` is in the window of `start` or in
the next one. -/
theorem bucket_within {charge : Charge} {start clock : ℕ}
    (hwindow : 1 ≤ charge.policy.windowSeconds) (hstart : start ≤ clock)
    (hstop : clock ≤ start + charge.policy.windowSeconds * 1000) :
    { charge with clock }.bucket = { charge with clock := start }.bucket ∨
      { charge with clock }.bucket =
        { charge with
          clock := start + charge.policy.windowSeconds * 1000 }.bucket := by
  simp only [Charge.bucket, Charge.nowSec, Nat.div_div_eq_div_mul]
  have hlength : 0 < 1000 * charge.policy.windowSeconds := by omega
  have hlow := @Nat.div_le_div_right _ _ (1000 * charge.policy.windowSeconds) hstart
  have hhigh := @Nat.div_le_div_right _ _ (1000 * charge.policy.windowSeconds) hstop
  rw [Nat.mul_comm _ 1000, Nat.add_div_right start hlength] at hhigh ⊢
  omega

theorem countP_or_le {A : Type} (left right : A → Bool) (rows : List A) :
    rows.countP (fun row => left row || right row) ≤
      rows.countP left + rows.countP right := by
  induction rows with
  | nil => simp
  | cons row rows ih =>
      simp only [List.countP_cons]
      cases left row <;> cases right row <;> simp <;> omega

/-- In a stretch of time no longer than a window, at most twice the limit is
allowed. -/
theorem countP_admitted_within {charge : Charge} (hnamed : WellNamed charges)
    (hfresh : ∀ charge ∈ charges, kv charge.key = none) (hcharge : charge ∈ charges)
    {start stop : ℕ} (hstop : stop ≤ start + charge.policy.windowSeconds * 1000) :
    (admitted kv charges).countP (fun other =>
      other.policy.namespacePrefix = charge.policy.namespacePrefix ∧
        other.id = charge.id ∧ start ≤ other.clock ∧ other.clock ≤ stop) ≤
      2 * charge.policy.limit := by
  have hbound (clock : ℕ) : (admitted kv charges).countP (fun other =>
      other.Shares { charge with clock }) ≤ charge.policy.limit := by
    calc (admitted kv charges).countP (fun other => other.Shares { charge with clock })
        = min charge.policy.limit _ :=
          @countP_admitted _ _ _ { charge with clock } hnamed hfresh
            (List.Subset.refl charges) ⟨charge, hcharge, rfl⟩
      _ ≤ charge.policy.limit := min_le_left _ _
  calc (admitted kv charges).countP (fun other =>
        other.policy.namespacePrefix = charge.policy.namespacePrefix ∧
          other.id = charge.id ∧ start ≤ other.clock ∧ other.clock ≤ stop)
      ≤ (admitted kv charges).countP (fun other =>
          decide (other.Shares { charge with clock := start }) ||
            decide (other.Shares { charge with
              clock := start + charge.policy.windowSeconds * 1000 })) := by
        apply List.countP_mono_left
        intro other hother
        simp only [decide_eq_true_eq, Bool.or_eq_true]
        rintro ⟨hname, hid, hafter, hbefore⟩
        have hpolicy := hnamed.distinct other (admitted_subset hother) charge hcharge
          hname
        have hbucket := bucket_within (hnamed.window charge hcharge) hafter
          (hbefore.trans hstop)
        have hsame : other.bucket = { charge with clock := other.clock }.bucket := by
          rw [Charge.bucket, Charge.bucket, hpolicy]
          rfl
        rw [← hsame] at hbucket
        rcases hbucket with hfirst | hsecond
        · exact .inl ⟨hname, hid, hfirst⟩
        · exact .inr ⟨hname, hid, hsecond⟩
    _ ≤ charge.policy.limit + charge.policy.limit :=
        (countP_or_le _ _ _).trans (Nat.add_le_add (hbound _) (hbound _))
    _ = 2 * charge.policy.limit := (two_mul _).symm

end Run

/-- In any sequence of calls, the one that is number `k` in its window is
answered with `k` and the time left in the window, whatever the other policies
and identities do; in the length of a window at most twice the limit is allowed. -/
theorem rateLimit_counts_window (charges : List Charge) (kv : Kv ℕ)
    (hnamed : WellNamed charges) (hfresh : ∀ charge ∈ charges, kv charge.key = none) :
    (∀ past charge rest, charges = past ++ charge :: rest →
      ∃ k resetSeconds, k = past.countP (fun other => other.Shares charge) + 1 ∧
        (kvRateLimiter (storeAfter kv past) charge).1 = {
          allowed := k ≤ charge.policy.limit, limit := charge.policy.limit, count := k
          remaining := max 0 (charge.policy.limit - k), resetSeconds } ∧
        1 ≤ resetSeconds ∧ resetSeconds ≤ charge.policy.windowSeconds ∧
        charge.nowSec + resetSeconds =
          (charge.bucket + 1) * charge.policy.windowSeconds) ∧
    (∀ made ∈ charges, ∀ read ∈ charges,
      ¬ (made.policy.namespacePrefix = read.policy.namespacePrefix ∧
        made.id = read.id) →
      ∀ store : Kv ℕ, (kvRateLimiter store made).2 read.key = store read.key) ∧
    ∀ charge ∈ charges, ∀ start stop,
      stop ≤ start + charge.policy.windowSeconds * 1000 →
      (admitted kv charges).countP (fun other =>
        other.policy.namespacePrefix = charge.policy.namespacePrefix ∧
          other.id = charge.id ∧ start ≤ other.clock ∧ other.clock ≤ stop) ≤
        2 * charge.policy.limit := by
  refine ⟨?_, ?_, fun charge hcharge start stop =>
    countP_admitted_within hnamed hfresh hcharge⟩
  · rintro past charge rest rfl
    have hcharge : charge ∈ past ++ charge :: rest := by simp
    have hwindow := hnamed.window charge hcharge
    have hmod := Nat.mod_lt charge.nowSec hwindow
    have hdiv := Nat.div_add_mod charge.nowSec charge.policy.windowSeconds
    refine ⟨_, charge.policy.windowSeconds -
      charge.nowSec % charge.policy.windowSeconds, rfl, ?_, by omega, by omega, ?_⟩
    · rw [kvRateLimiter_result hnamed hfresh (List.subset_append_left _ _) hcharge,
        Charge.result, Nat.zero_max]
    · rw [Charge.bucket, Nat.add_mul, Nat.mul_comm (charge.nowSec / _)]
      omega
  · intro made hmade read hread hother store
    apply Function.update_of_ne
    intro hsame
    have hshares := (Charge.key_eq_iff (hnamed.no_colon read hread)
      (hnamed.no_colon made hmade)).mp hsame
    exact hother ⟨hshares.1.symm, hshares.2.1.symm⟩

/-- A store that counts seconds, as one that counts milliseconds. -/
def inMilliseconds (kv : Kv ℕ) : Kv ℕ := fun key =>
  (kv key).map fun entry => { entry with expiresAt := entry.expiresAt * 1000 }

theorem get_inMilliseconds (kv : Kv ℕ) (now : ℕ) (key : Text) :
    (inMilliseconds kv).get (now * 1000) key = kv.get now key := by
  cases hentry : kv key with
  | none => simp [Kv.get, inMilliseconds, hentry]
  | some entry => simp [Kv.get, inMilliseconds, hentry]

theorem put_inMilliseconds (kv : Kv ℕ) (now count ttl : ℕ) (key : Text) :
    (inMilliseconds kv).put (now * 1000) key count (ttl * 1000) =
      inMilliseconds (kv.put now key count ttl) := by
  funext other
  by_cases hother : other = key
  · simp [Kv.put, inMilliseconds, hother, Nat.add_mul]
  · simp [Kv.put, inMilliseconds, hother]

/-- The limiter in front of the API's routes is this one, at whole seconds. -/
theorem finish_consume {Failure : Type} (cloud : Cloud) (policy : RateLimitPolicy)
    (id : Text) (now : ℕ) :
    ∃ counters, cloud.finish (consume policy id now) =
        ((.ok (kvRateLimiter (inMilliseconds cloud.counters)
          { policy, id, clock := now * 1000 }).1 : Except Failure RateLimitResult),
          { cloud with counters }) ∧
      inMilliseconds counters = (kvRateLimiter (inMilliseconds cloud.counters)
        { policy, id, clock := now * 1000 }).2 := by
  have hreads : Charge.reads { policy, id, clock := now * 1000 }
      (inMilliseconds cloud.counters) =
      (cloud.counters.get now (counterKey policy id (now / policy.windowSeconds))).join.getD
        0 := by
    rw [Charge.reads, get_inMilliseconds]
    simp [Charge.key, Charge.bucket, Charge.nowSec]
  have hsecond : Charge.nowSec { policy, id, clock := now * 1000 } = now := by
    simp [Charge.nowSec]
  use cloud.counters.put now (counterKey policy id (now / policy.windowSeconds))
    ((cloud.counters.get now (counterKey policy id (now / policy.windowSeconds))).join.getD
      0 + 1) (policy.windowSeconds + TTL_SLACK_SECONDS)
  rw [kvRateLimiter, hreads, put_inMilliseconds]
  simp only [Charge.key, Charge.bucket, Charge.result, hsecond, and_true]
  rfl

namespace Sample

/-- Three calls of one identity, the last in the next window. -/
def charges : List Charge :=
  [{ policy := LIMITS.avatarUpload, id := "a:b".toList, clock := 59000 },
    { policy := LIMITS.avatarUpload, id := "a:b".toList, clock := 59999 },
    { policy := LIMITS.avatarUpload, id := "a:b".toList, clock := 60000 }]

end Sample

theorem rateLimit_counts_window_sample :
    (admitted (fun _ => none) Sample.charges).countP (fun other =>
      other.policy.namespacePrefix = LIMITS.avatarUpload.namespacePrefix ∧
        other.id = "a:b".toList ∧ 59000 ≤ other.clock ∧ other.clock ≤ 119000) ≤ 20 :=
  (rateLimit_counts_window Sample.charges (fun _ => none)
    { window := by decide, no_colon := by decide, distinct := by simp [Sample.charges] }
    fun _ _ => rfl).2.2 _ List.mem_cons_self 59000 119000 (by decide)

end BuyAnAnswer.Workers
