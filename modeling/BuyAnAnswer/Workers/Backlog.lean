import BuyAnAnswer.Core.Machine
import BuyAnAnswer.Workers.Requests
import BuyAnAnswer.Workers.System

/-!
# Draining a backlog of drafts

The sweep selects a bounded batch of abandoned drafts and deletes it by listing
its ids.  D1 binds each id to a parameter of the statement and refuses statements
with too many of them, so a batch that is too large is selected again and again
and never deleted.
-/

namespace BuyAnAnswer.Workers

open Text Shared Indexer BuyAnAnswer.Transaction

/-- D1's limit on the parameters bound to one statement. -/
def D1_MAX_BOUND_PARAMETERS : ℕ := 100

/-- The default `limit` of the sweep. -/
def SWEEP_LIMIT : ℕ := 500

/-- The parameters that the sweep's statements bind: the status and the cutoff of
the guard, and the limit of the batch or its ids. -/
def Statement.boundParameters : Statement → ℕ
  | .orphanedQuestions _ _ => 2 + 1
  | .deleteOrphans ids _ => ids.length + 2
  | _ => 0

namespace Cloud

/-- D1 behaves as SQLite, except that it refuses statements over its limit. -/
def serveD1 (cloud : Cloud) : (operation : Operation) → operation.Reply × Cloud
  | .database statement =>
    if statement.boundParameters ≤ D1_MAX_BOUND_PARAMETERS then
      cloud.execute statement
    else (.error .constraint, cloud)
  | operation => cloud.serve operation

/-- One run of the sweep with its default limit and no other writer. -/
def sweep (cloud : Cloud) (olderThanSeconds now : ℕ) :
    Except SqlError SweepResult × Cloud :=
  (sweepOrphanedPendingPayments olderThanSeconds now SWEEP_LIMIT).run
    (fun operation cloud => cloud.serveD1 operation) cloud

/-- Runs of the sweep one after the other. -/
def sweeps (cloud : Cloud) (olderThanSeconds : ℕ) (times : List ℕ) : Cloud :=
  Machine.run (fun cloud now => (cloud.sweep olderThanSeconds now).2) cloud times

/-- The drafts that a run at `now` looks for. -/
def orphans (cloud : Cloud) (olderThanSeconds now : ℕ) : List Question :=
  cloud.database.questions.filter (Statement.orphaned (now - olderThanSeconds))

/-- The run deletes as many orphans as fit in a batch, nothing else, and returns
their ids. -/
def SweepsExactly (cloud : Cloud) (olderThanSeconds now : ℕ) : Prop :=
  ∃ result after, cloud.sweep olderThanSeconds now = (.ok result, after) ∧
    result.deleted = min SWEEP_LIMIT (cloud.orphans olderThanSeconds now).length ∧
    result.ids.length = result.deleted ∧ result.ids.Nodup ∧
    (∀ id ∈ result.ids, ∃ row ∈ cloud.orphans olderThanSeconds now, row.id = id) ∧
    after.database.questions =
      cloud.database.questions.filter fun row => row.id ∉ result.ids

end Cloud

/-! ## Deleting -/

namespace Statement

variable {tables : Tables}

/-- A question takes its answer along, so no answer is left without one. -/
theorem deleteOrphans_consistent (hconsistent : tables.Consistent) (ids : List Text)
    (cutoff : ℕ) : ((deleteOrphans ids cutoff).effect tables).Consistent where
  creators_check := hconsistent.creators_check
  creators_primary := hconsistent.creators_primary
  creators_handle_unique := hconsistent.creators_handle_unique
  questions_check row hrow := hconsistent.questions_check row (List.mem_filter.mp hrow).1
  questions_primary :=
    hconsistent.questions_primary.sublist (List.filter_sublist.map Question.id)
  questions_chain_onchain_unique :=
    hconsistent.questions_chain_onchain_unique.sublist List.filter_sublist
  questions_answerer row hrow :=
    hconsistent.questions_answerer row (List.mem_filter.mp hrow).1
  answers_check row hrow := hconsistent.answers_check row (List.mem_filter.mp hrow).1
  answers_primary :=
    hconsistent.answers_primary.sublist (List.filter_sublist.map Answer.questionId)
  answers_question row hrow := by
    obtain ⟨hold, hspared⟩ := List.mem_filter.mp hrow
    obtain ⟨question, hquestion, hid⟩ :=
      List.mem_map.mp (hconsistent.answers_question row hold)
    refine List.mem_map.mpr ⟨question, List.mem_filter.mpr ⟨hquestion, ?_⟩, hid⟩
    simp only [Bool.not_eq_true', List.any_eq_false, Bool.and_eq_true] at hspared
    rw [Bool.not_eq_true', ← Bool.not_eq_true]
    exact fun hdoomed => hspared question hquestion ⟨hdoomed, by simpa using hid⟩

/-- Where the batch holds all orphans, exactly these are deleted. -/
theorem doomed_all {cutoff : ℕ} {ids : List Text}
    (hids : ids = (tables.questions.filter (orphaned cutoff)).map Question.id)
    {row : Question} (hrow : row ∈ tables.questions) :
    doomed ids cutoff row = orphaned cutoff row := by
  have hmem (horphaned : orphaned cutoff row = true) : row.id ∈ ids := by
    rw [hids]
    exact List.mem_map_of_mem (List.mem_filter.mpr ⟨hrow, horphaned⟩)
  rw [doomed]
  cases horphaned : orphaned cutoff row with
  | false => rw [Bool.and_false]
  | true => rw [decide_eq_true (hmem horphaned), Bool.true_and]

theorem not_orphaned_iff (hconsistent : tables.Consistent) {cutoff : ℕ} {row : Question}
    (hrow : row ∈ tables.questions) :
    row.id ∉ (tables.questions.filter (orphaned cutoff)).map Question.id ↔
      orphaned cutoff row = false := by
  rw [← Bool.not_eq_true, not_iff_not]
  constructor
  · intro hid
    obtain ⟨other, hother, hsame⟩ := List.mem_map.mp hid
    obtain ⟨hin, horphaned⟩ := List.mem_filter.mp hother
    rwa [← List.inj_on_of_nodup_map hconsistent.questions_primary hin hrow hsame]
  · exact fun horphaned => List.mem_map_of_mem (List.mem_filter.mpr ⟨hrow, horphaned⟩)

end Statement

/-! ## One run -/

namespace Cloud

variable {cloud : Cloud} {olderThanSeconds now : ℕ}

/-- The batch of a run. -/
def batch (cloud : Cloud) (olderThanSeconds now : ℕ) : List Text :=
  ((cloud.orphans olderThanSeconds now).take SWEEP_LIMIT).map Question.id

theorem length_batch : (cloud.batch olderThanSeconds now).length =
    min SWEEP_LIMIT (cloud.orphans olderThanSeconds now).length := by
  simp [batch]

/-- The batch is read, and deleted unless it is empty. -/
theorem sweep_eq : cloud.sweep olderThanSeconds now =
    if (cloud.batch olderThanSeconds now).length = 0 then
      (.ok { deleted := 0, ids := [] }, cloud)
    else
      match cloud.serveD1 (.database (.deleteOrphans (cloud.batch olderThanSeconds now)
        (now - olderThanSeconds))) with
      | (.ok ids, after) => (.ok { deleted := ids.length, ids }, after)
      | (.error failure, after) => (.error failure, after) := by
  have hselect : cloud.serveD1 (.database (.orphanedQuestions (now - olderThanSeconds)
      SWEEP_LIMIT)) = (.ok (cloud.batch olderThanSeconds now), cloud) :=
    execute_read rfl rfl
  rw [sweep, sweepOrphanedPendingPayments, run_sql_bind, hselect]
  dsimp only
  by_cases hempty : (cloud.batch olderThanSeconds now).length = 0
  · rw [if_pos hempty, if_pos hempty]
    rfl
  · rw [if_neg hempty, if_neg hempty, run_sql_bind]
    generalize cloud.serveD1 (.database (.deleteOrphans (cloud.batch olderThanSeconds now)
      (now - olderThanSeconds))) = outcome
    cases outcome with
    | mk result after => cases result <;> rfl

/-- A batch whose ids do not fit in a statement is refused as a whole. -/
theorem sweep_refused (hmany : 98 < (cloud.orphans olderThanSeconds now).length) :
    cloud.sweep olderThanSeconds now = (.error .constraint, cloud) := by
  have hbatch := @length_batch cloud olderThanSeconds now
  have hlimit : SWEEP_LIMIT = 500 := rfl
  have hrefused : ¬ (Statement.deleteOrphans (cloud.batch olderThanSeconds now)
      (now - olderThanSeconds)).boundParameters ≤ D1_MAX_BOUND_PARAMETERS := by
    rw [Statement.boundParameters, D1_MAX_BOUND_PARAMETERS]
    omega
  rw [sweep_eq, if_neg (by omega), serveD1, if_neg hrefused]

/-- A batch that holds all orphans. -/
theorem batch_eq (hfew : (cloud.orphans olderThanSeconds now).length ≤ 98) :
    cloud.batch olderThanSeconds now =
      (cloud.orphans olderThanSeconds now).map Question.id := by
  rw [batch, List.take_of_length_le (hfew.trans (by decide))]

/-- All orphans are deleted if their ids fit in a statement. -/
theorem sweep_all (hfew : (cloud.orphans olderThanSeconds now).length ≤ 98) :
    ∃ after, cloud.sweep olderThanSeconds now =
        (.ok { deleted := (cloud.orphans olderThanSeconds now).length
               ids := (cloud.orphans olderThanSeconds now).map Question.id }, after) ∧
      after.database.questions = cloud.database.questions.filter fun row =>
        row.id ∉ (cloud.orphans olderThanSeconds now).map Question.id := by
  have hbatch := batch_eq hfew
  by_cases hempty : (cloud.orphans olderThanSeconds now).length = 0
  · have hnil := List.length_eq_zero_iff.mp hempty
    refine ⟨cloud, ?_, ?_⟩
    · simp [sweep_eq, hbatch, hnil]
    · simp [hnil]
  · have haccepted : (Statement.deleteOrphans (cloud.batch olderThanSeconds now)
        (now - olderThanSeconds)).boundParameters ≤ D1_MAX_BOUND_PARAMETERS := by
      rw [Statement.boundParameters, D1_MAX_BOUND_PARAMETERS, hbatch, List.length_map]
      omega
    have hsome : ¬ (cloud.batch olderThanSeconds now).length = 0 := by
      rwa [hbatch, List.length_map]
    obtain ⟨database, hexecute, htables⟩ | ⟨-, hbroken⟩ := execute_cases cloud
      (.deleteOrphans (cloud.batch olderThanSeconds now) (now - olderThanSeconds))
    · refine ⟨{ cloud with database }, ?_, ?_⟩
      · have hreply : (Statement.deleteOrphans (cloud.batch olderThanSeconds now)
            (now - olderThanSeconds)).reply cloud.database.toTables =
            (cloud.orphans olderThanSeconds now).map Question.id := by
          rw [Statement.reply]
          exact congrArg _ (List.filter_congr fun row hrow =>
            Statement.doomed_all hbatch hrow)
        rw [sweep_eq, if_neg hsome, serveD1, if_pos haccepted, hexecute, hreply]
        simp
      · change database.toTables.questions = _
        rw [htables]
        apply List.filter_congr
        intro row hrow
        rw [Statement.doomed_all hbatch hrow]
        rw [Bool.eq_iff_iff, Bool.not_eq_true', decide_eq_true_eq]
        exact (Statement.not_orphaned_iff cloud.database.consistent hrow).symm
    · exact absurd (Statement.deleteOrphans_consistent cloud.database.consistent _ _)
        (hbroken rfl)

theorem orphans_ids_nodup :
    ((cloud.orphans olderThanSeconds now).map Question.id).Nodup :=
  cloud.database.consistent.questions_primary.sublist
    (List.filter_sublist.map Question.id)

theorem sweepsExactly_iff : cloud.SweepsExactly olderThanSeconds now ↔
    (cloud.orphans olderThanSeconds now).length ≤ 98 := by
  constructor
  · rintro ⟨result, after, hsweep, -⟩
    by_contra hmany
    rw [sweep_refused (not_le.mp hmany)] at hsweep
    cases hsweep
  · intro hfew
    obtain ⟨after, hsweep, hquestions⟩ := sweep_all hfew
    have hlimit : SWEEP_LIMIT = 500 := rfl
    refine ⟨_, after, hsweep, ?_, ?_, orphans_ids_nodup, ?_, hquestions⟩
    · simp only
      omega
    · simp
    · intro id hid
      simpa using hid

/-! ## Run after run -/

/-- Drafts only become orphans as time goes by. -/
theorem length_orphans_mono {later : ℕ} (hnow : now ≤ later) :
    (cloud.orphans olderThanSeconds now).length ≤
      (cloud.orphans olderThanSeconds later).length := by
  apply List.Sublist.length_le
  apply List.monotone_filter_right
  intro row horphaned
  simp only [Statement.orphaned, Bool.and_eq_true, decide_eq_true_eq] at horphaned ⊢
  exact ⟨horphaned.1, by omega⟩

/-- A backlog that is refused once is refused ever after. -/
theorem sweeps_stuck {times : ℕ → ℕ} (htimes : Monotone times)
    (hmany : 98 < (cloud.orphans olderThanSeconds (times 0)).length) (runs : ℕ) :
    cloud.sweeps olderThanSeconds ((List.range runs).map times) = cloud := by
  induction runs with
  | zero => rfl
  | succ runs ih =>
      have hlater : 98 < (cloud.orphans olderThanSeconds (times runs)).length :=
        hmany.trans_le (length_orphans_mono (htimes (Nat.zero_le runs)))
      rw [sweeps] at ih
      rw [sweeps, List.range_succ, List.map_append, Machine.run_append, ih]
      simp [sweep_refused hlater]

/-- A backlog that fits in a statement is gone after one run. -/
theorem sweep_drains (hfew : (cloud.orphans olderThanSeconds now).length ≤ 98) :
    (cloud.sweep olderThanSeconds now).2.orphans olderThanSeconds now = [] := by
  obtain ⟨after, hsweep, hquestions⟩ := sweep_all hfew
  rw [hsweep, orphans, hquestions, List.filter_eq_nil_iff]
  intro row hrow
  obtain ⟨hold, hspared⟩ := List.mem_filter.mp hrow
  rw [decide_eq_true_eq, orphans,
    Statement.not_orphaned_iff cloud.database.consistent hold] at hspared
  simp [hspared]

end Cloud

/-- A run does what it should, and finitely many runs drain the backlog, exactly
when the ids of all orphans fit in one statement. -/
theorem sweep_drains_iff (cloud : Cloud) (olderThanSeconds : ℕ) :
    (∀ now, cloud.SweepsExactly olderThanSeconds now ↔
      (cloud.orphans olderThanSeconds now).length ≤ 98) ∧
    ∀ times : ℕ → ℕ, Monotone times →
      ((∃ runs, (cloud.sweeps olderThanSeconds
          ((List.range (runs + 1)).map times)).orphans olderThanSeconds (times runs) =
            []) ↔
        (cloud.orphans olderThanSeconds (times 0)).length ≤ 98) := by
  refine ⟨fun now => Cloud.sweepsExactly_iff, fun times htimes => ⟨?_, ?_⟩⟩
  · rintro ⟨runs, hdrained⟩
    by_contra hmany
    have hmore := (not_le.mp hmany).trans_le
      (Cloud.length_orphans_mono (htimes (Nat.zero_le runs)))
    rw [Cloud.sweeps_stuck htimes (not_le.mp hmany)] at hdrained
    rw [hdrained] at hmore
    cases hmore
  · intro hfew
    exact ⟨0, Cloud.sweep_drains hfew⟩

/-! ## One draft too many -/

namespace Sample

/-- An abandoned draft. -/
def abandoned (number : ℕ) : Question :=
  { question with id := decimal number, onchainId := none, status := .pendingPayment }

/-- Many abandoned drafts. -/
def abandonedBy (count : ℕ) : Tables where
  creators := [creator]
  questions := (List.range count).map abandoned
  answers := []

theorem abandonedBy_consistent (count : ℕ) : (abandonedBy count).Consistent where
  creators_check := cloud.database.consistent.creators_check
  creators_primary := cloud.database.consistent.creators_primary
  creators_handle_unique := cloud.database.consistent.creators_handle_unique
  questions_check row hrow := by
    obtain ⟨number, -, rfl⟩ := List.mem_map.mp hrow
    have hvalid : question.Valid := by decide
    exact { hvalid with onchain_id := by simp [abandoned] }
  questions_primary := by
    simp only [abandonedBy, List.map_map]
    exact List.nodup_range.map decimal_injective
  questions_chain_onchain_unique :=
    List.pairwise_map.mpr (List.pairwise_of_forall fun _ _ => .inl rfl)
  questions_answerer row hrow := by
    obtain ⟨number, -, rfl⟩ := List.mem_map.mp hrow
    exact List.mem_cons_self
  answers_check := by simp [abandonedBy]
  answers_primary := by simp [abandonedBy]
  answers_question := by simp [abandonedBy]

def backlog (count : ℕ) : Cloud :=
  { cloud with
    database := { toTables := abandonedBy count
                  consistent := abandonedBy_consistent count } }

theorem length_orphans_backlog (count : ℕ) :
    ((backlog count).orphans 60 3600).length = count := by
  have hall : (backlog count).orphans 60 3600 = (List.range count).map abandoned := by
    apply List.filter_eq_self.mpr
    intro row hrow
    obtain ⟨number, -, rfl⟩ := List.mem_map.mp hrow
    rfl
  rw [hall, List.length_map, List.length_range]

end Sample

theorem sweep_drains_iff_sample : ∃ runs : ℕ,
    ((Sample.backlog 98).sweeps 60
      ((List.range (runs + 1)).map fun run => 3600 + 3600 * run)).orphans 60
        (3600 + 3600 * runs) = [] :=
  ((sweep_drains_iff (Sample.backlog 98) 60).2 (fun run => 3600 + 3600 * run)
    fun _ _ hle => by simp only; omega).mpr (Sample.length_orphans_backlog 98).le

/-- Of 99 orphans none is ever deleted. -/
theorem backlog_not_drained : ¬ ∀ (cloud : Cloud) (olderThanSeconds : ℕ),
    (∀ now, cloud.SweepsExactly olderThanSeconds now) ∧
    ∀ times : ℕ → ℕ, Monotone times →
      ∃ runs, (cloud.sweeps olderThanSeconds
        ((List.range (runs + 1)).map times)).orphans olderThanSeconds (times runs) =
          [] := by
  intro hdrains
  have hfew := Cloud.sweepsExactly_iff.mp ((hdrains (Sample.backlog 99) 60).1 3600)
  rw [Sample.length_orphans_backlog] at hfew
  omega

end BuyAnAnswer.Workers
