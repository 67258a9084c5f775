import BuyAnAnswer.Core.Tally
import BuyAnAnswer.Workers.Footprint

/-!
# Quotas under concurrency

A counter is read and written in two steps, so requests that overlap may be counted
once.  They are never counted twice: a request is refused only if more requests than
the limit were made from its address in its window.
-/

namespace BuyAnAnswer.Workers

open Text Shared Indexer WorkerKit Api BuyAnAnswer.Transaction

/-- Whether an operation writes a counter. -/
def puts (key : Text) : Operation → ℕ
  | .putCounter target _ _ _ => if target = key then 1 else 0
  | _ => 0

/-- The workers with a tally of the writes to one counter. -/
abbrev tallied (network : Network) (runtime : Runtime) (key : Text) :=
  (system network runtime).counting (puts key)

/-- A counter holds no more than the number of times it was written. -/
def quotaProtocol (key : Text) : Protocol workers (Cloud × ℕ) where
  Invariant := fun now =>
    ∀ entry ∈ now.1.counters key, ∀ count ∈ entry.value, count ≤ now.2
  Rely := fun before after => before.2 ≤ after.2
  refl := fun now => Nat.le_refl now.2
  trans := fun hfirst hsecond => Nat.le_trans hfirst hsecond

variable {network : Network} {runtime : Runtime} {key : Text}

section Operations

variable {operation : Operation} {node : NodeAnswer} {reply : operation.Reply}

theorem exec_counters {before after : Cloud} (hother : puts key operation = 0)
    (hexec : Cloud.exec network operation node before = some (reply, after)) :
    after.counters key = before.counters key := by
  cases operation with
  | database statement =>
      obtain ⟨_, _, hafter⟩ | ⟨_, rfl, _⟩ := exec_database hexec
      · rw [hafter]
      · rfl
  | getFinalizedHead chainId confirmations =>
      simp only [Cloud.exec, Cloud.getFinalizedHead] at hexec
      split at hexec <;> cases hexec
      rfl
  | getLogs chainId lo hi =>
      simp only [Cloud.exec, Cloud.getLogs] at hexec
      split at hexec <;> cases hexec
      rfl
  | putCounter target now count expirationTtl =>
      cases hexec
      have hne : key ≠ target := by
        rintro rfl
        simp [puts] at hother
      exact Function.update_of_ne hne _ _
  | _ =>
      cases hexec
      rfl

theorem exec_putCounter {now count expirationTtl : ℕ} {before after : Cloud}
    (hexec : Cloud.exec network (.putCounter key now count expirationTtl) node before =
      some ((), after)) :
    after.counters key = some { value := some count, expiresAt := now + expirationTtl } := by
  cases hexec
  exact Function.update_self _ _ _

theorem keeps_quota {before after : Cloud × ℕ} (hother : puts key operation = 0)
    (hcounter : (quotaProtocol key).Invariant before)
    (hexec : (tallied network runtime key).exec operation node before =
      some (reply, after)) :
    (quotaProtocol key).Invariant after ∧ (quotaProtocol key).Rely before after := by
  obtain ⟨hcloud, htally⟩ := System.counting_exec hexec
  rw [hother, Nat.add_zero] at htally
  refine ⟨?_, htally.ge⟩
  intro entry hentry count hcount
  rw [exec_counters hother hcloud] at hentry
  rw [htally]
  exact hcounter entry hentry count hcount

end Operations

/-- A counter that is read tells no more than was counted. -/
theorem get_le {kv : Kv ℕ} {bound now : ℕ}
    (hcounter : ∀ entry ∈ kv key, ∀ count ∈ entry.value, count ≤ bound) :
    (kv.get now key).join.getD 0 ≤ bound := by
  rw [Kv.get]
  cases hentry : kv key with
  | none => exact Nat.zero_le bound
  | some entry =>
      simp only
      split
      · cases hvalue : entry.value with
        | none => exact Nat.zero_le bound
        | some count => exact hcounter entry hentry count hvalue
      · exact Nat.zero_le bound

/-! ## One request -/

/-- What a charge that was counted says. -/
structure Charged (policy : RateLimitPolicy) (now : ℕ) (result : RateLimitResult)
    (tally : ℕ) : Prop where
  allowed : result.allowed = decide (result.count ≤ policy.limit)
  count : result.count ≤ tally
  resetSeconds : result.resetSeconds = policy.windowSeconds - now % policy.windowSeconds

section Consume

variable {policy : RateLimitPolicy} {id : Text} {now : ℕ} {start : Cloud × ℕ}

/-- A charge counts itself on top of what it has read. -/
theorem wp_consume (hkey : counterKey policy id (now / policy.windowSeconds) = key) :
    (tallied network runtime key).wp (quotaProtocol key)
      (fun result later => ∀ counted, result = .ok counted →
        Charged policy now counted later.2)
      (consume policy id now : Program workers Empty _) start := by
  subst hkey
  refine System.wp_await rfl ?_
  intro first _ hfirst _ node reply read hread
  obtain ⟨hcloud, htally⟩ := System.counting_exec hread
  obtain ⟨hkept, hrely⟩ := keeps_quota rfl hfirst hread
  refine ⟨hkept, hrely, ?_⟩
  obtain ⟨rfl, _⟩ := Prod.mk.inj (Option.some.inj hcloud)
  refine System.wp_await rfl ?_
  intro second hsince hsecond _ node' reply' written hwrite
  obtain ⟨hput, hcounted⟩ := System.counting_exec hwrite
  have hone : written.2 = second.2 + 1 := by
    rw [hcounted]
    exact congrArg (second.2 + ·) (if_pos rfl)
  have hcount : (first.1.counters.get now (counterKey policy id
      (now / policy.windowSeconds))).join.getD 0 + 1 ≤ written.2 := by
    have hread_le := @get_le _ first.1.counters first.2 now hfirst
    have hlater : read.2 ≤ second.2 := hsince
    have hstep : first.2 ≤ read.2 := hrely
    omega
  refine ⟨?_, ?_, ?_⟩
  · intro entry hentry count hvalue
    have hstored : written.1.counters (counterKey policy id (now / policy.windowSeconds)) =
        _ := @exec_putCounter network _ node' _ _ _ _ _ hput
    rw [hstored] at hentry
    cases hentry
    cases hvalue
    exact hcount
  · change second.2 ≤ written.2
    omega
  · intro later hlater _ counted hresult
    cases hresult
    exact ⟨rfl, hcount.trans hlater, rfl⟩

end Consume

/-- A refusal by the limiter, and for the sake of the counter how often it was
written. -/
def ToldRefused (key : Text) : (label : Label) → Except label.Failure label.Result →
    Cloud × ℕ → Prop
  | .request context request, result, later => ∀ response seconds,
    result = .ok response → response.outcome = .error (.rateLimited seconds) →
      ∃ policy, limitOf request = some policy ∧
        (request.counter context = some key → policy.limit < later.2 ∧
          seconds = policy.windowSeconds - context.now % policy.windowSeconds)
  | _, _, _ => True

section Requests

variable {context : RequestContext} {request : Request} {start : Cloud × ℕ}

/-- A handler refuses for other reasons. -/
theorem wp_respond_quota {rateLimit : Option RateLimitResult}
    (hcounter : (quotaProtocol key).Invariant start) :
    (tallied network runtime key).wp (quotaProtocol key)
      (ToldRefused key (.request context request))
      (respond rateLimit (handler runtime context request)) start := by
  have hhandler : (tallied network runtime key).wp (quotaProtocol key)
      (System.FailsOnly request.Refuses) (handler runtime context request) start := by
    apply System.wp_of_obeys (obeys_handler runtime context request) workers_yield
    intro operation hhandles now hnow _ node reply after
    apply keeps_quota _ hnow
    cases operation with
    | putCounter => cases hhandles
    | _ => rfl
  apply System.wp_handle hcounter
  apply System.wp_bind hcounter
  apply System.wp_mono hhandler
  intro outcome later _ _ houtcome
  cases outcome with
  | ok view =>
      rintro final _ _ response seconds ⟨⟩ hrefused
      cases hrefused
  | error failure =>
      rintro final _ _ response seconds ⟨⟩ hrefused
      cases hrefused
      exact houtcome.elim

theorem wp_request_quota (hcounter : (quotaProtocol key).Invariant start) :
    (tallied network runtime key).wp (quotaProtocol key)
      (ToldRefused key (.request context request))
      (handleRequest runtime context request) start := by
  cases hlimit : limitOf request with
  | none =>
      rw [handleRequest, hlimit]
      exact wp_respond_quota hcounter
  | some policy =>
      by_cases hkey : request.counter context = some key
      · rw [handleRequest, hlimit]
        rw [Request.counter, hlimit] at hkey
        apply System.wp_bind hcounter
        apply System.wp_mono (wp_consume (Option.some.inj hkey))
        intro result later _ hlater hresult
        cases result with
        | error failure => cases failure
        | ok counted =>
            have hcharged := hresult counted rfl
            simp only
            split
            · exact wp_respond_quota hlater
            · next hover =>
              rintro final hfinal _ response seconds ⟨⟩ hrefused
              cases hrefused
              refine ⟨policy, hlimit, fun _ => ⟨?_, hcharged.resetSeconds⟩⟩
              rw [hcharged.allowed, decide_eq_true_eq, Nat.not_le] at hover
              exact hover.trans_le (hcharged.count.trans hfinal)
      · have hwp : (tallied network runtime key).wp (quotaProtocol key) (fun _ _ => True)
            (handleRequest runtime context request) start := by
          apply System.wp_of_uses (handleRequest_performs runtime context request)
            workers_yield
          intro operation hperforms now hnow _ node reply after
          apply keeps_quota _ hnow
          cases operation with
          | putCounter target _ _ _ =>
              apply if_neg
              rintro rfl
              exact hkey hperforms
          | _ => rfl
        apply System.wp_mono hwp
        intro _ _ _ _ _ _ _ _ _
        exact ⟨policy, hlimit, fun hcharged => absurd hcharged hkey⟩

theorem admits_quota :
    (tallied network runtime key).Admits (quotaProtocol key) (ToldRefused key)
      (fun _ _ => True) where
  launch := by
    intro pool label _ hcounter
    have hquiet {other : Label} (hother : other.isRequest = false) :
        (tallied network runtime key).wp (quotaProtocol key) (fun _ _ => True)
          ((system network runtime).program other) pool.state := by
      apply System.wp_of_uses (program_uses network runtime other) workers_yield
      intro operation hpermits now hnow _ node reply after
      apply keeps_quota _ hnow
      cases other with
      | request => cases hother
      | reconcile | sweep =>
          cases operation with
          | putCounter => cases hpermits
          | _ => rfl
    cases label with
    | reconcile | sweep =>
        exact System.wp_mono (hquiet rfl) fun _ _ _ _ _ => trivial
    | request context request => exact wp_request_quota hcounter
  advance := fun _ _ _ => trivial
  event := by
    intro pool event _ hcounter
    cases event with
    | mine chainId blocks => exact ⟨hcounter, Nat.le_refl _⟩

end Requests

/-! ## Every request counts once -/

/-- The counter that a launched worker is charged to. -/
def Label.counter : Label → Option Text
  | .request context asked => asked.counter context
  | _ => none

/-- A request for one of the policy's routes, from this address, in this window. -/
def Label.charges (policy : RateLimitPolicy) (clientIp : Text) (window : ℕ) : Label → Bool
  | .request context asked =>
    (limitOf asked).any (fun other => other.namespacePrefix = policy.namespacePrefix) &&
      context.clientIp = clientIp && context.now / policy.windowSeconds = window
  | _ => false

section Charges

theorem affords_quiet {Problem A : Type} {program : Program workers Problem A}
    {Permitted : Operation → Prop} {credit : ℕ} (hprogram : program.Uses Permitted)
    (hfree : ∀ operation, Permitted operation → puts key operation = 0) :
    program.Affords { cost := puts key, gain := fun _ _ => 0 } (fun _ _ => True)
      credit := by
  have huses : program.Uses fun operation : Operation => puts key operation = 0 :=
    hprogram.mono hfree
  exact (Program.Uses.affords huses).mono fun _ _ _ => trivial

theorem affords_consume {policy : RateLimitPolicy} {id : Text} {now : ℕ} :
    (consume policy id now : Program workers Empty _).Affords
      { cost := puts key, gain := fun _ _ => 0 } (fun _ _ => True) 1 := by
  refine ⟨Nat.zero_le 1, fun current => ⟨?_, fun _ => trivial⟩⟩
  change (if _ = key then 1 else 0) ≤ 1
  split <;> omega

/-- A request writes its counter once, and no other. -/
theorem affords_label (label : Label) :
    ((system network runtime).program label).Affords
      { cost := puts key, gain := fun _ _ => 0 } (fun _ _ => True)
      (decide (label.counter = some key)).toNat := by
  cases label with
  | reconcile chainId limits now =>
      apply affords_quiet (program_uses network runtime (.reconcile chainId limits now))
      intro operation hpermits
      cases operation with
      | putCounter => cases hpermits
      | _ => rfl
  | sweep olderThanSeconds now limit =>
      apply affords_quiet (program_uses network runtime (.sweep olderThanSeconds now limit))
      intro operation hpermits
      cases operation with
      | putCounter => cases hpermits
      | _ => rfl
  | request context request =>
      by_cases hkey : request.counter context = some key
      · have hhandler : ∀ rateLimit credit,
            (respond rateLimit (handler runtime context request)).Affords
              { cost := puts key, gain := fun _ _ => 0 } (fun _ _ => True) credit := by
          intro rateLimit credit
          apply affords_quiet (respond_performs (obeys_handler runtime context request).uses)
          intro operation hhandles
          cases operation with
          | putCounter => cases hhandles
          | _ => rfl
        rw [Label.counter, hkey, decide_eq_true rfl]
        change (handleRequest runtime context request).Affords _ _ 1
        rw [handleRequest]
        cases limitOf request with
        | none => exact hhandler none 1
        | some policy =>
            apply Program.Affords.bind
            apply affords_consume.mono
            intro counted left _
            simp only
            split
            · exact hhandler _ _
            · exact trivial
      · apply affords_quiet (handleRequest_performs runtime context request)
        intro operation hperforms
        cases operation with
        | putCounter target _ _ _ =>
            apply if_neg
            rintro rfl
            exact hkey hperforms
        | _ => rfl

theorem sum_map_toNat {A : Type} (holds : A → Bool) (rows : List A) :
    (rows.map fun row => (holds row).toNat).sum = rows.countP holds := by
  induction rows with
  | nil => rfl
  | cons row rows ih =>
      rw [List.map_cons, List.sum_cons, ih, List.countP_cons]
      cases holds row <;> simp [Nat.add_comm]

/-- All windows last a minute. -/
theorem limitOf_window {request : Request} {policy : RateLimitPolicy}
    (hlimit : limitOf request = some policy) :
    policy.windowSeconds = 60 ∧ ':' ∉ policy.namespacePrefix.toList := by
  cases request <;> cases hlimit <;> decide

theorem counter_eq_iff {context other : RequestContext} {request asked : Request}
    {policy : RateLimitPolicy} (hlimit : limitOf request = some policy) :
    asked.counter other = request.counter context ↔
      (Label.request other asked).charges policy context.clientIp
        (context.now / policy.windowSeconds) = true := by
  obtain ⟨hwindow, hcolon⟩ := limitOf_window hlimit
  rw [Request.counter, Request.counter, hlimit, Label.charges]
  cases hasked : limitOf asked with
  | none => simp
  | some policy' =>
      obtain ⟨hwindow', hcolon'⟩ := limitOf_window hasked
      have hkeys := @Charge.key_eq_iff
        { policy := policy', id := other.clientIp, clock := other.now * 1000 }
        { policy, id := context.clientIp, clock := context.now * 1000 } hcolon' hcolon
      simp only [Charge.key, Charge.Shares, Charge.bucket, Charge.nowSec,
        Nat.mul_div_cancel _ (show 0 < 1000 by decide), hwindow, hwindow'] at hkeys
      simp only [Option.map_some, Option.some.injEq, Option.any_some, hwindow, hwindow',
        hkeys, Bool.and_eq_true, decide_eq_true_eq, and_assoc]

end Charges

/-- The number that a counter starts with. -/
def Cloud.stored (cloud : Cloud) (key : Text) : ℕ :=
  ((cloud.counters key).bind Entry.value).getD 0

/-- In every schedule a request is refused for its quota only if more requests than the
limit were made to its routes from its address in its window, and it is told when the
next window starts.  Overlapping requests never use up each other's quota twice. -/
theorem refusals_are_earned (network : Network) (runtime : Runtime) (cloud : Cloud)
    (schedule : List WorkerSchedule) (context : RequestContext) (request : Request)
    (response : Response) (seconds : ℕ)
    (hthread : (⟨.request context request, .ret response⟩ : Thread workers _ _) ∈
      ((system network runtime).run (idle cloud) schedule).threads)
    (hrefused : response.outcome = .error (.rateLimited seconds)) :
    ∃ policy key, limitOf request = some policy ∧ request.counter context = some key ∧
      policy.limit < cloud.stored key + (System.launches schedule).countP
        (Label.charges policy context.clientIp (context.now / policy.windowSeconds)) ∧
      1 ≤ seconds ∧ seconds ≤ policy.windowSeconds ∧
      context.now + seconds =
        (context.now / policy.windowSeconds + 1) * policy.windowSeconds := by
  generalize hkey : (request.counter context).getD [] = key
  let start : WorkerPool := idle cloud
  have hstart : (quotaProtocol key).Invariant (start.state, cloud.stored key) := by
    intro entry hentry count hcount
    have hstored : cloud.counters key = some entry := hentry
    rw [Cloud.stored, hstored, Option.bind_some, hcount]
    exact le_rfl
  have hidle : (tallied network runtime key).Orderly (quotaProtocol key) (ToldRefused key)
      { state := (start.state, cloud.stored key), threads := [] } :=
    System.Orderly.empty hstart
  obtain ⟨hpool, _⟩ := hidle.run admits_quota (Machine.meets_always schedule)
  have hthreads := congrArg Pool.threads (@System.uncounted_run _ _ _ _ _ _ _
    (system network runtime) (puts key) workers_yield
    { state := (start.state, cloud.stored key), threads := [] } schedule)
  have hmember : (⟨.request context request, .ret response⟩ : Thread workers _ _) ∈
      ((tallied network runtime key).run
        { state := (start.state, cloud.stored key), threads := [] } schedule).threads :=
    hthreads ▸ hthread
  obtain ⟨policy, hlimit, hcharged⟩ :=
    hpool.threads _ hmember _ (le_refl _) hpool.invariant response seconds rfl hrefused
  have hcounter : request.counter context = some key := by
    rw [← hkey, Request.counter, hlimit]
    rfl
  obtain ⟨hover, rfl⟩ := hcharged hcounter
  have hspent := System.counted_le workers_yield
    (@affords_label network runtime key) (start.state, cloud.stored key) schedule
  rw [sum_map_toNat fun label : Label => decide (label.counter = some key)] at hspent
  have hsame : (System.launches schedule).countP
      (fun label => decide (label.counter = some key)) = (System.launches schedule).countP
        (Label.charges policy context.clientIp (context.now / policy.windowSeconds)) := by
    apply List.countP_congr
    intro label _
    cases label with
    | request other asked =>
        rw [decide_eq_true_eq, ← hcounter]
        exact counter_eq_iff hlimit
    | reconcile | sweep => simp [Label.counter, Label.charges]
  rw [hsame] at hspent
  have hwindow := (limitOf_window hlimit).1
  refine ⟨policy, key, hlimit, hcounter, hover.trans_le hspent, ?_, ?_, ?_⟩ <;>
  · rw [hwindow]
    omega

namespace Sample

/-- A visitor who is not signed in. -/
def visitor : RequestContext where
  clientIp := ['9']
  wallet := none
  now := 67

def claim : Request := .claim .malformed

/-- Nine claims in one minute. -/
def hammered : List WorkerSchedule :=
  (List.range 9).flatMap fun index =>
    [.launch (.request visitor claim), .advance index {}, .advance index {}]

/-- The response to the ninth. -/
def refused : Response where
  rateLimit := some {
    allowed := false, limit := 8, count := 9, remaining := 0, resetSeconds := 53 }
  outcome := .error (.rateLimited 53)

end Sample

theorem refusals_are_earned_sample :
    ∃ policy key, limitOf Sample.claim = some policy ∧
      Sample.claim.counter Sample.visitor = some key ∧
      policy.limit < Sample.cloud.stored key + (System.launches Sample.hammered).countP
        (Label.charges policy ['9'] (67 / policy.windowSeconds)) ∧
      1 ≤ 53 ∧ 53 ≤ policy.windowSeconds ∧
      67 + 53 = (67 / policy.windowSeconds + 1) * policy.windowSeconds := by
  have hlast : ((system Sample.network Sample.runtime).run (idle Sample.cloud)
      Sample.hammered).threads[8]? = some
        ⟨.request Sample.visitor Sample.claim, .ret Sample.refused⟩ := rfl
  exact refusals_are_earned Sample.network Sample.runtime Sample.cloud Sample.hammered
    Sample.visitor Sample.claim Sample.refused 53 (List.mem_of_getElem? hlast) rfl

end BuyAnAnswer.Workers
