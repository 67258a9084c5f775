import BuyAnAnswer.Workers.Cursor
import BuyAnAnswer.Workers.Rows

/-!
# Answers after the settlement

The settlement of a question and the reveal of its answer are two statements, and
a save reads the status in one statement and writes the body in another.  So a
save that read the status before the settlement may still write after it, and a
pass that dies between its two statements leaves the answer without its stamp.
-/

namespace BuyAnAnswer.Workers

open Text Shared Indexer Api BuyAnAnswer.Transaction

variable {network : Network} {runtime : Runtime} {id : Text}

/-! ## The body of a revealed answer -/

/-- A save overwrites the answer although the question is answered. -/
def SavesLate (id : Text) (pool : WorkerPool) (action : WorkerSchedule) : Prop :=
  (pool.state.record id).Answered ∧ (pool.state.record id).answer.isSome = true ∧
    ∃ saved, saved.questionId = id ∧ Executes pool action (.upsertAnswer saved)

/-- The question is answered and its answer has this body. -/
def Reads (id body : Text) (pool : WorkerPool) : Prop :=
  (pool.state.record id).Answered ∧
    ∃ answer ∈ (pool.state.record id).answer, answer.body = body

instance (id body : Text) (pool : WorkerPool) : Decidable (Reads id body pool) :=
  inferInstanceAs (Decidable (_ ∧ ∃ answer ∈ (pool.state.record id).answer, _))

section Body

variable {record : QuestionRecord} {statement : Statement}

/-- No statement takes the answered status back. -/
theorem onRecord_answered (hanswered : record.Answered) :
    (statement.onRecord id record).Answered := by
  obtain ⟨row, hrow, hstatus⟩ := hanswered
  have hchange := Statement.rowChange id hrow statement
  rw [QuestionRecord.Answered]
  generalize (statement.onRecord id record).question = result at hchange ⊢
  cases hchange with
  | keeps => exact ⟨_, rfl, hstatus⟩
  | publishes => exact ⟨_, rfl, hstatus⟩
  | opens hhits =>
      rw [(inStatus_iff.mp hhits).2.2] at hstatus
      cases hstatus
  | settles hhits =>
      rw [(inStatus_iff.mp hhits).2.2] at hstatus
      cases hstatus
  | deletes hhits =>
      rw [(doomed_iff.mp hhits).2.1] at hstatus
      cases hstatus

/-- Of an answered question only a save rewrites the body. -/
theorem onRecord_body (hanswered : record.Answered) {answer : Answer}
    (hanswer : record.answer = some answer) (hid : answer.questionId = id)
    (hsaves : ∀ saved, saved.questionId = id → statement ≠ .upsertAnswer saved) :
    ∃ new, (statement.onRecord id record).answer = some new ∧
      new.body = answer.body := by
  have hchange := Statement.answerChange hanswer hid statement
  generalize hresult : (statement.onRecord id record).answer = result at hchange ⊢
  cases hchange with
  | keeps => exact ⟨_, rfl, rfl⟩
  | saves hsaved => exact absurd rfl (hsaves _ (hsaved.trans hid))
  | reveals hnull => exact ⟨_, rfl, rfl⟩
  | deletes =>
      obtain ⟨row, hrow, hstatus⟩ := hanswered
      rw [Statement.onRecord] at hresult
      split at hresult
      · next hdoomed =>
        rw [hrow, Option.any_some] at hdoomed
        rw [(doomed_iff.mp hdoomed).2.1] at hstatus
        cases hstatus
      · rw [hanswer] at hresult
        cases hresult

/-- A step that is not a late save keeps what the asker reads. -/
theorem Reads.step {pool : WorkerPool} {body : Text} {action : WorkerSchedule}
    (hconfined : System.Confined (Label.Permits network) pool)
    (htimely : ¬ SavesLate id pool action) (hreads : Reads id body pool) :
    Reads id body ((system network runtime).step pool action) := by
  obtain ⟨hanswered, answer, hanswer, hbody⟩ := hreads
  obtain hsame | ⟨index, node, thread, statement, haction, hthread, hhead, _,
    heffect⟩ := step_record runtime hconfined action id
  · rw [Reads, hsame]
    exact ⟨hanswered, answer, hanswer, hbody⟩
  · rw [Reads, heffect]
    have hother : ∀ saved, saved.questionId = id →
        statement ≠ .upsertAnswer saved := by
      rintro saved hid rfl
      exact htimely ⟨hanswered, Option.isSome_of_mem hanswer, saved, hid, index,
        node, thread, haction, hthread, hhead⟩
    obtain ⟨new, hnew, hsame⟩ := onRecord_body hanswered hanswer
      (recordOf_questionId hanswer) hother
    exact ⟨onRecord_answered hanswered, new, hnew, hsame.trans hbody⟩

end Body

/-- As long as no save writes late, the body of an answered question's answer
does not change. -/
theorem revealed_body_kept (network : Network) (runtime : Runtime) (cloud : Cloud)
    (past future : List WorkerSchedule) (id body : Text) :
    let pool := (system network runtime).run (idle cloud) past
    Machine.Meets (system network runtime).step
        (fun pool action => ¬ SavesLate id pool action) pool future →
      Reads id body pool →
        Reads id body ((system network runtime).run pool future) := by
  intro pool hmeets hreads
  exact run_keeps (run_confined network runtime cloud past) hmeets hreads
    fun hconfined htimely hreads => hreads.step hconfined htimely

namespace Sample

def answer : Answer where
  questionId := uuid
  body := "Because.".toList
  submittedAt := 2
  revealedAt := none
  updatedAt := 2

/-- Block 1 is indexed and block 2 mined. -/
def paid : Cloud := { cloud with
  database := {
    creators := [creator]
    questions := [question]
    answers := [answer]
    consistent := by decide }
  cursors := fun _ _ => some 1
  height := fun _ => 2 }

/-- The question is settled in block 2. -/
def settled : Network := fun _ => {
  contractAddress := "0x00000000000000000000000000000000000000e5".toList
  startBlock := 0
  events := [settlement]
  ordered := List.pairwise_singleton _ _ }

def pass : Label := .reconcile 8453
  { confirmations := 0, getLogsRange := 1, maxBlocksPerRun := 1
    getLogsRange_pos := Nat.one_pos, maxBlocksPerRun_pos := Nat.one_pos } 4

/-- Let a thread run a pass up to its first statement. -/
def fetch (index : ℕ) : List WorkerSchedule := [
  .advance index {}, .advance index { latest := 2 },
  .advance index { logs := [settlement] }]

/-- The pass applies the settlement. -/
def index : List WorkerSchedule :=
  [.launch pass] ++ fetch 0 ++ [.advance 0 {}, .advance 0 {}, .advance 0 {},
    .advance 0 {}]

/-- The answerer saves another body. -/
def save : Label :=
  .request { clientIp := [], wallet := some creator.wallet, now := 3 }
    (.answer uuid (.object { body := some (.string "I will not tell.".toList) }))

/-- What the answerer is told once the question is answered. -/
def tooLate : Response where
  rateLimit := some {
    allowed := true, limit := 30, count := 1, remaining := 29, resetSeconds := 57 }
  outcome := .error (.api {
    status := 409, code := "answer_locked"
    message := "the answer is revealed and can no longer be edited" })

/-- A save reads the status, then a pass settles the question. -/
def straddle : List WorkerSchedule :=
  [.launch save, .advance 0 {}, .advance 0 {}, .advance 0 {}, .launch pass] ++
    fetch 1 ++ [.advance 1 {}, .advance 1 {}, .advance 1 {}, .advance 1 {}]

end Sample

/-- A save of another body after the settlement is told that it is too late. -/
theorem revealed_body_kept_sample :
    let pool := (system Sample.settled Sample.runtime).run (idle Sample.paid) Sample.index
    let after := (system Sample.settled Sample.runtime).run pool
      ([.launch Sample.save] ++ Sample.advances 1 3)
    Reads Sample.uuid "Because.".toList after ∧
      after.threads[1]? = some ⟨Sample.save, .ret Sample.tooLate⟩ := by
  intro pool after
  have hquiet : Machine.Meets (system Sample.settled Sample.runtime).step
      (fun pool action => ∀ statement ∈ statementOf pool action, statement.isSave = false)
      pool ([.launch Sample.save] ++ Sample.advances 1 3) := by
    decide +kernel
  refine ⟨?_, rfl⟩
  refine revealed_body_kept Sample.settled Sample.runtime Sample.paid Sample.index _
    Sample.uuid "Because.".toList (hquiet.mono ?_) (by decide +kernel)
  rintro state action hstatement ⟨_, _, saved, _, hexecutes⟩
  exact absurd (hstatement _ (Executes.statementOf_eq hexecutes)) Bool.noConfusion

/-- A save that has read the status rewrites the answer after its settlement. -/
theorem late_save_rewrites_body :
    let pool := (system Sample.settled Sample.runtime).run (idle Sample.paid)
      Sample.straddle
    Reads Sample.uuid "Because.".toList pool ∧
      Reads Sample.uuid "I will not tell.".toList
        ((system Sample.settled Sample.runtime).step pool (.advance 0 {})) := by
  decide +kernel

/-! ## The stamp of a revealed answer -/

/-- The question whose answer the operation reveals. -/
def Operation.reveals : Operation → Option Text
  | .database (.revealAnswer questionId _) => some questionId
  | _ => none

/-- The question whose answer is to be revealed after this reply. -/
def Operation.settlesAnswered :
    (operation : Operation) → operation.Reply → Option Text
  | .database (.settleQuestion _ uuid settle _), .ok changed =>
    if 0 < changed.length ∧ settle.name = .questionAnswered then some uuid else none
  | _, _ => none

/-- The answer that the thread is about to reveal. -/
def revealing {Problem A : Type} (code : Program workers Problem A) : Option Text :=
  code.duty Operation.reveals

/-- Wherever a question is settled as answered, the reveal comes next. -/
abbrev Revealing {Problem A : Type} (code : Program workers Problem A) : Prop :=
  code.Dutiful Operation.reveals Operation.settlesAnswered

section Dutiful

variable {Problem A : Type} {operation : Operation}

/-- The operation has nothing to do with reveals. -/
def Operation.Unrelated (operation : Operation) : Prop :=
  operation.reveals = none ∧ ∀ reply, operation.settlesAnswered reply = none

theorem unrelated_of_ofApi {publishes : Bool} (hapi : operation.OfApi publishes) :
    operation.Unrelated := by
  cases operation with
  | database statement =>
      cases statement with
      | settleQuestion | revealAnswer => cases hapi
      | _ => exact ⟨rfl, fun _ => rfl⟩
  | _ => exact ⟨rfl, fun _ => rfl⟩

theorem unrelated_of_ofSweep (hsweep : operation.OfSweep) : operation.Unrelated := by
  cases operation with
  | database statement =>
      cases statement with
      | settleQuestion | revealAnswer => cases hsweep
      | _ => exact ⟨rfl, fun _ => rfl⟩
  | _ => exact ⟨rfl, fun _ => rfl⟩

theorem unrelated_audit (config : IndexerConfig) (fields : AuditFields)
    (fired : Fin 2) :
    (auditMoneyState config fields >>= fun _ => pure fired).Uses
      Operation.Unrelated :=
  Program.Uses.bind (uses_call ⟨rfl, fun _ => rfl⟩) fun _ => trivial

theorem unrelated_noopOrUnknown (config : IndexerConfig) (audit : AuditBase)
    (uuid : Text) (target : QuestionStatus) :
    (noopOrUnknown config audit uuid target).Uses Operation.Unrelated := by
  refine Program.Uses.bind (uses_sql ⟨rfl, fun _ => rfl⟩) ?_
  intro existing
  cases existing with
  | none => exact unrelated_audit _ _ _
  | some existing => exact unrelated_audit _ _ _

theorem revealing_await {next : operation.Reply → Program workers Problem A}
    (hunrelated : operation.Unrelated)
    (hnext : ∀ reply, revealing (next reply) = none ∧ Revealing (next reply)) :
    revealing (.await operation next) = none ∧ Revealing (.await operation next) := by
  refine ⟨hunrelated.1, ?_⟩
  intro reply
  exact ⟨(hnext reply).1.trans (hunrelated.2 reply).symm, (hnext reply).2⟩

theorem revealing_bind {B : Type} {code : Program workers Problem A}
    {next : A → Program workers Problem B}
    (hcode : revealing code = none ∧ Revealing code)
    (hnext : ∀ value, revealing (next value) = none ∧ Revealing (next value)) :
    revealing (code >>= next) = none ∧ Revealing (code >>= next) := by
  obtain ⟨hduty, hdutiful⟩ := hcode.2.bind hnext
  exact ⟨hduty.trans hcode.1, hdutiful⟩

/-- A statement in front of the code that takes care of its reply. -/
theorem revealing_sql {B : Type} {failed : SqlError → Problem}
    {statement : Statement} {next : statement.Reply → Program workers Problem B}
    (hnext : ∀ value, revealing (next value) =
      Operation.settlesAnswered (.database statement) (.ok value) ∧
        Revealing (next value)) :
    Revealing (sql failed statement >>= next) := by
  intro reply
  cases reply with
  | ok value => exact hnext value
  | error failure =>
      refine ⟨?_, trivial⟩
      cases statement <;> rfl

theorem applyEvent_revealing (config : IndexerConfig) (event : EscrowEvent)
    (now : ℕ) :
    revealing (applyEvent config event now) = none ∧
      Revealing (applyEvent config event now) := by
  rw [applyEvent]
  simp only
  cases tryRefToUuid event.base.ref with
  | none => exact (unrelated_audit _ _ _).dutiful
  | some uuid =>
      cases event with
      | asked ask =>
          refine Program.Uses.dutiful (Program.Uses.bind
            (uses_sql ⟨rfl, fun _ => rfl⟩) ?_)
          intro changed
          split
          · exact unrelated_audit _ _ _
          · exact unrelated_noopOrUnknown _ _ _ _
      | settled settle =>
          refine ⟨rfl, revealing_sql ?_⟩
          intro changed
          rw [Operation.settlesAnswered]
          by_cases hchanged : 0 < changed.length
          · by_cases hname : settle.name = .questionAnswered
            · rw [if_pos hchanged, if_pos hname, if_pos ⟨hchanged, hname⟩]
              refine ⟨rfl, revealing_sql ?_⟩
              intro _
              exact (unrelated_audit _ _ _).dutiful
            · rw [if_pos hchanged, if_neg hname,
                if_neg fun hboth : _ ∧ _ => hname hboth.2]
              exact (unrelated_audit _ _ _).dutiful
          · rw [if_neg hchanged, if_neg fun hboth : _ ∧ _ => hchanged hboth.1]
            exact (unrelated_noopOrUnknown _ _ _ _).dutiful

theorem applyEvents_revealing (config : IndexerConfig) (now : ℕ)
    (events : List EscrowEvent) (applied : ℕ) :
    revealing (applyEvents config now events applied) = none ∧
      Revealing (applyEvents config now events applied) := by
  induction events generalizing applied with
  | nil => exact ⟨rfl, trivial⟩
  | cons event events ih =>
      exact revealing_bind (applyEvent_revealing config event now)
        fun fired => ih (applied + fired)

theorem scan_revealing (config : ReconcileConfig) (now : ℕ)
    (windows : List (ℕ × ℕ)) (progress : Progress) :
    revealing (scan config now windows progress) = none ∧
      Revealing (scan config now windows progress) := by
  induction windows generalizing progress with
  | nil => exact ⟨rfl, trivial⟩
  | cons window windows ih =>
      rw [scan, call_bind]
      apply revealing_await ⟨rfl, fun _ => rfl⟩
      intro logs
      apply revealing_bind (applyEvents_revealing _ _ _ _)
      intro applied
      rw [call_bind]
      exact revealing_await ⟨rfl, fun _ => rfl⟩ fun _ => ih _

theorem reconcile_revealing (config : ReconcileConfig) (now : ℕ) :
    revealing (reconcile config now) = none ∧ Revealing (reconcile config now) := by
  rw [reconcile, call_bind]
  apply revealing_await ⟨rfl, fun _ => rfl⟩
  intro row
  rw [call_bind]
  apply revealing_await ⟨rfl, fun _ => rfl⟩
  intro head
  simp only
  split
  · exact ⟨rfl, trivial⟩
  · exact revealing_bind (scan_revealing _ _ _ _) fun _ => ⟨rfl, trivial⟩

theorem program_revealing (label : Label) :
    revealing ((system network runtime).program label) = none ∧
      Revealing ((system network runtime).program label) := by
  cases label with
  | reconcile chainId limits now =>
      exact reconcile_revealing _ now
  | sweep olderThanSeconds now limit =>
      exact ((sweepOrphanedPendingPayments_uses _ _ _).mono
        fun _ => unrelated_of_ofSweep).dutiful
  | request context request =>
      exact ((handleRequest_uses runtime context request).mono
        fun _ => unrelated_of_ofApi).dutiful

end Dutiful

theorem hereditary_revealing :
    (system network runtime).Hereditary fun _ code => Revealing code where
  launch := fun label => (program_revealing label).2
  next := fun hrevealing reply => (hrevealing reply).2

/-- Some thread is about to reveal the answer. -/
def Pending (id : Text) (pool : WorkerPool) : Prop :=
  ∃ thread ∈ pool.threads, revealing thread.program = some id

/-- An answered question's answer is revealed or about to be. -/
def Stamped (id : Text) (pool : WorkerPool) : Prop :=
  (pool.state.record id).Answered → ∀ answer ∈ (pool.state.record id).answer,
    answer.revealedAt = none → Pending id pool

/-- The step neither kills a pass that is about to reveal the answer, nor saves a
first answer of the answered question behind its reveal. -/
structure LetsReveal (id : Text) (pool : WorkerPool) (action : WorkerSchedule) :
    Prop where
  kill : ∀ index thread, action = .kill index →
    pool.threads[index]? = some thread → revealing thread.program ≠ some id
  save : ∀ saved, saved.questionId = id →
    Executes pool action (.upsertAnswer saved) → (pool.state.record id).Answered →
      (pool.state.record id).answer.isSome = true ∨ Pending id pool

section Stamp

variable {record : QuestionRecord} {statement : Statement}

/-- A question becomes answered by its settlement. -/
theorem onRecord_becomes_answered (hbefore : ¬ record.Answered)
    (hinsert : ∀ row, statement = .insertQuestion row → IsDraft row)
    (hid : ∀ row ∈ record.question, row.id = id)
    (hafter : (statement.onRecord id record).Answered) :
    ∃ config settle now row, statement = .settleQuestion config id settle now ∧
      settle.name = .questionAnswered ∧ record.question = some row ∧
      inStatus config id .open row = true := by
  obtain ⟨new, hnew, hstatus⟩ := hafter
  obtain ⟨_, rfl, _⟩ | ⟨row, hrow, hchange⟩ := Statement.row_cases hnew
  · rw [(hinsert new rfl).status] at hstatus
    cases hstatus
  · cases hchange with
    | keeps => exact absurd ⟨_, hrow, hstatus⟩ hbefore
    | publishes => exact absurd ⟨_, hrow, hstatus⟩ hbefore
    | opens hhits => cases hstatus
    | @settles config uuid settle now hhits =>
        have huuid : uuid = id :=
          (inStatus_iff.mp hhits).1.symm.trans (hid row hrow)
        subst huuid
        refine ⟨config, settle, now, row, rfl, ?_, hrow, hhits⟩
        have htarget : statusForEvent (.settled settle.name) = .answered := hstatus
        revert htarget
        cases settle.name <;> decide

/-- A reveal leaves no answer without a stamp. -/
theorem onRecord_reveals (hids : ∀ answer ∈ record.answer, answer.questionId = id)
    {now : ℕ} {answer : Answer}
    (hanswer : ((Statement.revealAnswer id now).onRecord id record).answer =
      some answer) : answer.revealedAt ≠ none := by
  rw [Statement.onRecord, Option.map_eq_some_iff] at hanswer
  obtain ⟨old, hold, hnew⟩ := hanswer
  rw [hids old hold] at hnew
  split at hnew
  · rw [← hnew]
    exact Option.some_ne_none now
  · next hstamped =>
    rw [← hnew]
    simpa using hstamped

/-- An answer without a stamp was there before or has just been saved. -/
theorem onRecord_unstamped (hids : ∀ answer ∈ record.answer, answer.questionId = id)
    {answer : Answer} (hanswer : (statement.onRecord id record).answer = some answer)
    (hnull : answer.revealedAt = none) :
    (∃ old, record.answer = some old ∧ old.revealedAt = none) ∨
      record.answer = none ∧ statement = .upsertAnswer answer ∧
        answer.questionId = id := by
  obtain hsaved | ⟨old, hold, hchange⟩ := Statement.answer_cases hids hanswer
  · exact .inr hsaved
  · refine .inl ⟨old, hold, ?_⟩
    cases hchange with
    | keeps => exact hnull
    | saves hid => exact hnull
    | reveals hits => exact hits

end Stamp

section Step

variable {pool : WorkerPool} {action : WorkerSchedule}

section Advance

variable {label : Label} {operation : Operation}
variable {next : operation.Reply → Program workers label.Failure label.Result}
variable {left right : List (Thread workers Label.Failure Label.Result)}

/-- The threads other than the one that performs an operation wait. -/
theorem Pending.advance
    (hthreads : pool.threads = left ++ ⟨label, .await operation next⟩ :: right)
    (hother : operation.reveals ≠ some id) (hpending : Pending id pool)
    (state : Cloud) (thread : Thread workers Label.Failure Label.Result) :
    Pending id { state, threads := left ++ thread :: right } := by
  obtain ⟨waiting, hwaiting, hreveals⟩ := hpending
  rw [hthreads] at hwaiting
  obtain hleft | hright := List.mem_append.mp hwaiting
  · exact ⟨waiting, List.mem_append_left _ hleft, hreveals⟩
  · obtain rfl | hright := List.mem_cons.mp hright
    · exact absurd hreveals hother
    · exact ⟨waiting, List.mem_append_right _ (List.mem_cons_of_mem _ hright),
        hreveals⟩

/-- A settlement that found its row has replied so. -/
theorem settlesAnswered_of_hits {config : IndexerConfig}
    {settle : QuestionSettledEvent} {now : ℕ} {row : Question} {node : NodeAnswer}
    {before after : Cloud}
    {reply : Except SqlError (Statement.settleQuestion config id settle now).Reply}
    (hexec : Cloud.exec network (.database (.settleQuestion config id settle now))
      node before = some (reply, after))
    (hchanged : after.record id ≠ before.record id)
    (hname : settle.name = .questionAnswered)
    (hrow : (before.record id).question = some row)
    (hhits : inStatus config id .open row = true) :
    Operation.settlesAnswered (.database (.settleQuestion config id settle now))
      reply = some id := by
  obtain ⟨rfl, _, _⟩ | ⟨_, rfl, _⟩ := exec_database hexec
  · exact if_pos ⟨(hits_iff before.database.consistent).mpr ⟨row, hrow, hhits⟩, hname⟩
  · exact absurd rfl hchanged

/-- A performed reveal leaves no answer without a stamp. -/
theorem exec_reveals {now : ℕ} {node : NodeAnswer} {before after : Cloud}
    {reply : Except SqlError Unit}
    (hexec : Cloud.exec network (.database (.revealAnswer id now)) node before =
      some (reply, after)) {answer : Answer}
    (hanswer : (after.record id).answer = some answer) :
    answer.revealedAt ≠ none := by
  obtain ⟨_, htables, _⟩ | ⟨_, _, hbroken⟩ := exec_database hexec
  · rw [Cloud.record, htables,
      Statement.recordOf_effect before.database.consistent] at hanswer
    exact onRecord_reveals (record_keyed before id).answer hanswer
  · exact absurd (Statement.reveal_consistent before.database.consistent id now)
      (hbroken rfl)

theorem isDraft_of_permits {row : Question}
    (hpermits : label.Permits network (.database (.insertQuestion row))) :
    IsDraft row := by
  cases label with
  | request context request => exact hpermits
  | reconcile | sweep => cases hpermits

theorem Stamped.advance {node : NodeAnswer} {reply : operation.Reply}
    {middle : Cloud}
    (hpermits : label.Permits network operation)
    (hrevealing : Revealing (.await operation next))
    (hthreads : pool.threads = left ++ ⟨label, .await operation next⟩ :: right)
    (hexec : Cloud.exec network operation node pool.state = some (reply, middle))
    (hsave : ∀ saved, saved.questionId = id →
      operation = .database (.upsertAnswer saved) → (pool.state.record id).Answered →
        (pool.state.record id).answer.isSome = true ∨ Pending id pool)
    (hstamped : Stamped id pool) :
    Stamped id { state := middle, threads := left ++ ⟨label, next reply⟩ :: right } := by
  intro hanswered answer hanswer hnull
  have hother : operation.reveals ≠ some id := by
    intro hreveals
    rw [Operation.reveals.eq_def] at hreveals
    split at hreveals
    · cases hreveals
      exact exec_reveals hexec hanswer hnull
    · cases hreveals
  have hwaits : Pending id pool →
      Pending id { state := middle, threads := left ++ ⟨label, next reply⟩ :: right } :=
    fun hpending => hpending.advance hthreads hother _ _
  have hkeyed := record_keyed pool.state id
  obtain hsame | ⟨statement, rfl, heffect⟩ := exec_record id hexec
  · change (middle.record id).Answered at hanswered
    change (middle.record id).answer = some answer at hanswer
    rw [hsame] at hanswered hanswer
    exact hwaits (hstamped hanswered answer hanswer hnull)
  · by_cases hbefore : (pool.state.record id).Answered
    · rw [heffect] at hanswer
      obtain ⟨old, hold, hold_null⟩ | ⟨hnone, rfl, hid⟩ :=
        onRecord_unstamped hkeyed.answer hanswer hnull
      · exact hwaits (hstamped hbefore old hold hold_null)
      · obtain hsome | hpending := hsave answer hid rfl hbefore
        · rw [hnone] at hsome
          cases hsome
        · exact hwaits hpending
    · have hafter := hanswered
      rw [heffect] at hafter
      obtain ⟨config, settle, now, row, rfl, hname, hrow, hhits⟩ :=
        onRecord_becomes_answered hbefore
          (fun row hinsert => isDraft_of_permits (hinsert ▸ hpermits))
          hkeyed.question hafter
      have hchanged : middle.record id ≠ pool.state.record id :=
        fun hsame => hbefore (hsame ▸ hanswered)
      have howed := settlesAnswered_of_hits hexec hchanged hname hrow hhits
      exact ⟨_, List.mem_append_right _ List.mem_cons_self,
        (hrevealing reply).1.trans howed⟩

end Advance

theorem Stamped.step (hconfined : System.Confined (Label.Permits network) pool)
    (hrevealing : System.Throughout (fun _ code => Revealing code) pool)
    (hlets : LetsReveal id pool action) (hstamped : Stamped id pool) :
    Stamped id ((system network runtime).step pool action) := by
  cases action with
  | launch label =>
      rw [System.step, System.resume, System.settle_of_yields _ workers_yield]
      intro hanswered answer hanswer hnull
      obtain ⟨thread, hthread, hreveals⟩ := hstamped hanswered answer hanswer hnull
      exact ⟨thread, List.mem_append_left _ hthread, hreveals⟩
  | advance index node =>
      obtain hsame | ⟨hadvances⟩ :=
        System.advance_cases (system network runtime) pool index node
      · rw [hsame]
        exact hstamped
      · obtain ⟨label, operation, next, left, right, reply, middle, hthreads, hindex,
          hexec, hafter⟩ := hadvances
        rw [hafter, System.settle_of_yields _ workers_yield]
        have hget := System.getElem?_of_split hthreads hindex
        have hmem := List.mem_of_getElem? hget
        refine hstamped.advance (hconfined _ hmem).1 (hrevealing _ hmem) hthreads hexec ?_
        rintro saved hid rfl
        exact hlets.save saved hid ⟨index, node, _, rfl, hget, rfl⟩
  | kill index =>
      intro hanswered answer hanswer hnull
      obtain ⟨thread, hthread, hreveals⟩ := hstamped hanswered answer hanswer hnull
      obtain hsame | ⟨left, killed, right, hthreads, hindex, hstep⟩ :=
        System.kill_cases (system network runtime) pool index
      · rw [hsame]
        exact ⟨thread, hthread, hreveals⟩
      · rw [hstep]
        have hget := System.getElem?_of_split hthreads hindex
        rw [hthreads] at hthread
        obtain hleft | hright := List.mem_append.mp hthread
        · exact ⟨thread, List.mem_append_left _ hleft, hreveals⟩
        · obtain rfl | hright := List.mem_cons.mp hright
          · exact absurd hreveals (hlets.kill index thread rfl hget)
          · exact ⟨thread, List.mem_append_right _ hright, hreveals⟩
  | event event =>
      cases event with
      | mine chainId blocks => exact hstamped

end Step

/-- Nothing is in flight. -/
def Finished (pool : WorkerPool) : Prop :=
  ∀ thread ∈ pool.threads, thread.program.head.isNone = true

instance (pool : WorkerPool) : Decidable (Finished pool) :=
  inferInstanceAs (Decidable (∀ thread ∈ pool.threads, _ = _))

/-- Unless a pass dies right before a reveal or a first answer is saved behind it,
an answered question's answer has its stamp once nothing is running. -/
theorem revealed_once_settled (network : Network) (runtime : Runtime) (cloud : Cloud)
    (id : Text)
    (hcloud : (cloud.record id).Answered → ∀ answer ∈ (cloud.record id).answer,
      answer.revealedAt ≠ none)
    (schedule : List WorkerSchedule)
    (hmeets : Machine.Meets (system network runtime).step (LetsReveal id)
      (idle cloud) schedule) :
    let pool := (system network runtime).run (idle cloud) schedule
    Finished pool → (pool.state.record id).Answered →
      ∀ answer ∈ (pool.state.record id).answer, answer.revealedAt ≠ none := by
  intro pool hfinished hanswered answer hanswer hnull
  have hstart : Stamped id (idle cloud) := by
    intro hanswered answer hanswer hnull
    exact absurd hnull (hcloud hanswered answer hanswer)
  have hidle : System.Throughout (fun _ code => Revealing code) (idle cloud) := by
    intro thread hthread
    cases hthread
  obtain ⟨_, hstamped⟩ := @run_keeps network runtime (LetsReveal id)
    (fun pool => System.Throughout (fun _ code => Revealing code) pool ∧
      Stamped id pool) (idle cloud) schedule (run_confined network runtime cloud [])
    hmeets ⟨hidle, hstart⟩ fun hconfined hlets hpool =>
      ⟨hpool.1.step hereditary_revealing _, hpool.2.step hconfined hpool.1 hlets⟩
  obtain ⟨thread, hthread, hreveals⟩ := hstamped hanswered answer hanswer hnull
  have hhead := Option.isNone_iff_eq_none.mp (hfinished thread hthread)
  rw [revealing, Program.duty, hhead] at hreveals
  cases hreveals

namespace Sample

/-- The pass dies between the settlement and the reveal, and runs again. -/
def crash : List WorkerSchedule :=
  [.launch pass] ++ fetch 0 ++ [.advance 0 {}, .kill 0, .launch pass] ++ fetch 0 ++
    [.advance 0 {}, .advance 0 {}, .advance 0 {}, .advance 0 {}]

/-- Another body is saved in time, and a pass settles the question. -/
def timely : List WorkerSchedule :=
  [.launch save] ++ advances 0 4 ++ [.launch pass] ++ fetch 1 ++ advances 1 4

def isKill : WorkerSchedule → Bool
  | .kill _ => true
  | _ => false

end Sample

/-- The saved body is revealed with the settlement. -/
theorem revealed_once_settled_sample :
    let pool := (system Sample.settled Sample.runtime).run (idle Sample.paid) Sample.timely
    (pool.state.record Sample.uuid).Answered ∧
      ∃ answer ∈ (pool.state.record Sample.uuid).answer,
        answer.body = "I will not tell.".toList ∧ answer.revealedAt ≠ none := by
  intro pool
  have hquiet : Machine.Meets (system Sample.settled Sample.runtime).step
      (fun pool action => Sample.isKill action = false ∧
        (¬ (pool.state.record Sample.uuid).Answered ∨
          ∀ statement ∈ statementOf pool action, statement.isSave = false))
      (idle Sample.paid) Sample.timely := by
    decide +kernel
  have hmeets : Machine.Meets (system Sample.settled Sample.runtime).step
      (LetsReveal Sample.uuid) (idle Sample.paid) Sample.timely := by
    apply hquiet.mono
    rintro state action ⟨halive, hstatement⟩
    constructor
    · rintro index thread rfl
      cases halive
    · intro saved _ hexecutes hanswered
      obtain hearly | hnosave := hstatement
      · exact absurd hanswered hearly
      · exact absurd (hnosave _ hexecutes.statementOf_eq) Bool.noConfusion
  have hanswered : (pool.state.record Sample.uuid).Answered := by decide +kernel
  have hfinished : Finished pool := by decide +kernel
  have hrevealed := revealed_once_settled Sample.settled Sample.runtime Sample.paid
    Sample.uuid (by decide +kernel) Sample.timely hmeets hfinished hanswered
  have hbody : (pool.state.record Sample.uuid).answer.map Answer.body =
      some "I will not tell.".toList := by
    decide +kernel
  obtain ⟨answer, hanswer, hsaved⟩ := Option.map_eq_some_iff.mp hbody
  exact ⟨hanswered, answer, hanswer, hsaved, hrevealed answer hanswer⟩

/-- The re-run of a pass that died finds nothing to do. -/
theorem crash_leaves_answer_unstamped :
    let pool := (system Sample.settled Sample.runtime).run (idle Sample.paid)
      Sample.crash
    Finished pool ∧ 2 ≤ pool.state.cursor Sample.settled 8453 ∧
      (pool.state.record Sample.uuid).Answered ∧
        ∃ answer ∈ (pool.state.record Sample.uuid).answer,
          answer.revealedAt = none := by
  decide +kernel

end BuyAnAnswer.Workers
