import BuyAnAnswer.Workers.Rules

/-!
# The rows of a question

Reconcile passes, sweeps and API requests write the same rows, each statement on
its own.  What a row may look like and where it may go from there is kept by
every statement, given what its program has read before: a card is published and
an answer revealed only once the question is answered, and from there the
question does not move any more.
-/

namespace BuyAnAnswer.Workers

open Text Shared Indexer Api BuyAnAnswer.Transaction

variable {network : Network} {runtime : Runtime} {id : Text}

namespace QuestionRecord

variable {record : QuestionRecord}

def Answered (record : QuestionRecord) : Prop :=
  ∃ row ∈ record.question, row.status = .answered

instance (record : QuestionRecord) : Decidable record.Answered :=
  inferInstanceAs (Decidable (∃ row ∈ record.question, _ = _))

/-- What the rows of a question look like. -/
structure Sound (record : QuestionRecord) : Prop where
  pending : ∀ row ∈ record.question, row.status = .pendingPayment ↔
    row.onchainId = none ∧ row.amountUsdc = none ∧ row.answerDeadline = none
  published : ∀ row ∈ record.question, row.isPublic = true →
    row.status = .answered
  revealed : ∀ answer ∈ record.answer, answer.revealedAt.isSome = true →
    record.Answered

/-- Where the rows of a question may go: once paid they stay, the columns set
then are kept, and a terminal status and a reveal are final. -/
structure Follows (record later : QuestionRecord) : Prop where
  question : ∀ row ∈ record.question, row.status ≠ .pendingPayment →
    ∃ new ∈ later.question, new.onchainId = row.onchainId ∧
      new.amountUsdc = row.amountUsdc ∧ new.answerDeadline = row.answerDeadline ∧
      (new.status = row.status ∨
        row.status = .open ∧ new.status.isTerminal = true)
  answer : ∀ answer ∈ record.answer, answer.revealedAt.isSome = true →
    ∃ new ∈ later.answer, new.revealedAt = answer.revealedAt

theorem Follows.refl (record : QuestionRecord) : record.Follows record :=
  ⟨fun row hrow _ => ⟨row, hrow, rfl, rfl, rfl, .inl rfl⟩,
    fun answer hanswer _ => ⟨answer, hanswer, rfl⟩⟩

theorem sound_of_none (hquestion : record.question = none)
    (hanswer : record.answer = none) : record.Sound := by
  constructor <;> simp [hquestion, hanswer]

theorem isTerminal_ne_pending {status : QuestionStatus}
    (hterminal : status.isTerminal = true) : status ≠ .pendingPayment := by
  rintro rfl
  cases hterminal

theorem Follows.trans {first second third : QuestionRecord}
    (hfirst : first.Follows second) (hsecond : second.Follows third) :
    first.Follows third := by
  constructor
  · intro row hrow hpaid
    obtain ⟨mid, hmid, honchain, hamount, hdeadline, hstatus⟩ :=
      hfirst.question row hrow hpaid
    have hmidpaid : mid.status ≠ .pendingPayment := by
      obtain hsame | ⟨_, hterminal⟩ := hstatus
      · rw [hsame]
        exact hpaid
      · exact isTerminal_ne_pending hterminal
    obtain ⟨new, hnew, honchain', hamount', hdeadline', hstatus'⟩ :=
      hsecond.question mid hmid hmidpaid
    refine ⟨new, hnew, honchain'.trans honchain, hamount'.trans hamount,
      hdeadline'.trans hdeadline, ?_⟩
    obtain hsame | ⟨hopen, hterminal⟩ := hstatus
    · rw [hsame] at hstatus'
      exact hstatus'
    · obtain hsame' | ⟨hmidopen, _⟩ := hstatus'
      · exact .inr ⟨hopen, hsame' ▸ hterminal⟩
      · rw [hmidopen] at hterminal
        cases hterminal
  · intro answer hanswer hrevealed
    obtain ⟨mid, hmid, hsame⟩ := hfirst.answer answer hanswer hrevealed
    obtain ⟨new, hnew, hsame'⟩ := hsecond.answer mid hmid (hsame ▸ hrevealed)
    exact ⟨new, hnew, hsame'.trans hsame⟩

/-- An answered question stays answered. -/
theorem Follows.answered {later : QuestionRecord} (hfollows : record.Follows later)
    (hanswered : record.Answered) : later.Answered := by
  obtain ⟨row, hrow, hstatus⟩ := hanswered
  have hpaid : row.status ≠ .pendingPayment := by
    rw [hstatus]
    decide
  obtain ⟨new, hnew, _, _, _, hsame | ⟨hopen, _⟩⟩ :=
    hfollows.question row hrow hpaid
  · exact ⟨new, hnew, hsame.trans hstatus⟩
  · rw [hstatus] at hopen
    cases hopen

end QuestionRecord

/-- One move of a status. -/
def QuestionStatus.Moves (status next : QuestionStatus) : Prop :=
  next = status ∨ status = .pendingPayment ∧ next = .open ∨
    status = .open ∧ next.isTerminal = true

/-! ## One statement -/

/-- What a statement on a question relies on. -/
def Statement.Fits (id : Text) (record : QuestionRecord) : Statement → Prop
  | .insertQuestion row => IsDraft row
  | .publishQuestion target _ => target = id → record.Answered
  | .upsertAnswer saved => saved.revealedAt = none
  | .revealAnswer target _ => target = id → record.Answered
  | _ => True

section Statement

variable {record : QuestionRecord} {statement : Statement} {row : Question}

theorem inStatus_iff {config : IndexerConfig} {uuid : Text}
    {status : QuestionStatus} :
    inStatus config uuid status row = true ↔
      row.id = uuid ∧ row.chainId = config.chainId ∧ row.status = status := by
  simp [inStatus, and_assoc]

theorem doomed_iff {ids : List Text} {cutoff : ℕ} :
    Statement.doomed ids cutoff row = true ↔
      row.id ∈ ids ∧ row.status = .pendingPayment ∧ row.onchainId = none ∧
        row.createdAt < cutoff := by
  simp [Statement.doomed, Statement.orphaned, and_assoc]

/-- The status moves by at most one step. -/
theorem onRecord_moves (hrow : record.question = some row) {new : Question}
    (hnew : (statement.onRecord id record).question = some new) :
    QuestionStatus.Moves row.status new.status := by
  have hchange := Statement.rowChange id hrow statement
  rw [hnew] at hchange
  cases hchange with
  | keeps => exact .inl rfl
  | publishes => exact .inl rfl
  | opens hhits => exact .inr (.inl ⟨(inStatus_iff.mp hhits).2.2, rfl⟩)
  | settles hhits =>
      exact .inr (.inr ⟨(inStatus_iff.mp hhits).2.2,
        statusForEvent_settled_isTerminal _⟩)

/-- A row that goes was an unpaid draft, and the sweep's statement took it. -/
theorem onRecord_removes (hrow : record.question = some row)
    (hnone : (statement.onRecord id record).question = none) :
    (∃ ids cutoff, statement = .deleteOrphans ids cutoff ∧ row.id ∈ ids ∧
      row.createdAt < cutoff) ∧
      row.status = .pendingPayment ∧ row.onchainId = none := by
  have hchange := Statement.rowChange id hrow statement
  rw [hnone] at hchange
  generalize hresult : (none : Option Question) = result at hchange
  cases hchange with
  | deletes hhits =>
      obtain ⟨hid, hstatus, honchain, hcreated⟩ := doomed_iff.mp hhits
      exact ⟨⟨_, _, rfl, hid, hcreated⟩, hstatus, honchain⟩
  | _ => cases hresult

/-- The rows of one question under its id. -/
structure QuestionRecord.Keyed (id : Text) (record : QuestionRecord) : Prop where
  question : ∀ row ∈ record.question, row.id = id
  answer : ∀ answer ∈ record.answer, answer.questionId = id

theorem recordOf_keyed (tables : Tables) (id : Text) :
    (recordOf tables id).Keyed id :=
  ⟨fun _ hrow => recordOf_id hrow, fun _ hanswer => recordOf_questionId hanswer⟩

theorem record_keyed (cloud : Cloud) (id : Text) : (cloud.record id).Keyed id :=
  recordOf_keyed cloud.database.toTables id

variable (hkeyed : record.Keyed id) (hfits : statement.Fits id record)
variable (hsound : record.Sound)

include hkeyed hfits hsound

theorem onRecord_row_sound
    (hrow : (statement.onRecord id record).question = some row) :
    (row.status = .pendingPayment ↔
      row.onchainId = none ∧ row.amountUsdc = none ∧ row.answerDeadline = none) ∧
      (row.isPublic = true → row.status = .answered) := by
  obtain ⟨_, rfl, _⟩ | ⟨old, hold, hchange⟩ := Statement.row_cases hrow
  · have hdraft : IsDraft row := hfits
    simp [hdraft.status, hdraft.onchainId, hdraft.amountUsdc,
      hdraft.answerDeadline, hdraft.isPublic]
  · have hpending := hsound.pending old hold
    have hpublished := hsound.published old hold
    cases hchange with
    | keeps => exact ⟨hpending, hpublished⟩
    | publishes =>
        refine ⟨hpending, ?_⟩
        intro _
        obtain ⟨row, hrow, hanswered⟩ := hfits (hkeyed.question old hold)
        cases hold.symm.trans hrow
        exact hanswered
    | opens hhits =>
        obtain ⟨_, _, hstatus⟩ := inStatus_iff.mp hhits
        refine ⟨by simp [EscrowEvent.set], ?_⟩
        intro hpublic
        exact absurd (hpublished hpublic) (by rw [hstatus]; decide)
    | settles hhits =>
        obtain ⟨_, _, hstatus⟩ := inStatus_iff.mp hhits
        have hterminal := statusForEvent_settled_isTerminal
        refine ⟨⟨fun hnext => ?_, fun hnull => ?_⟩, ?_⟩
        · exact absurd hnext (QuestionRecord.isTerminal_ne_pending (hterminal _))
        · rw [hpending.mpr hnull] at hstatus
          cases hstatus
        · intro hpublic
          exact absurd (hpublished hpublic) (by rw [hstatus]; decide)

theorem onRecord_follows : record.Follows (statement.onRecord id record) := by
  constructor
  · intro row hrow hpaid
    have hchange := Statement.rowChange id hrow statement
    generalize (statement.onRecord id record).question = result at hchange ⊢
    cases hchange with
    | keeps => exact ⟨_, rfl, rfl, rfl, rfl, .inl rfl⟩
    | publishes => exact ⟨_, rfl, rfl, rfl, rfl, .inl rfl⟩
    | opens hhits => exact absurd (inStatus_iff.mp hhits).2.2 hpaid
    | settles hhits =>
        exact ⟨_, rfl, rfl, rfl, rfl, .inr ⟨(inStatus_iff.mp hhits).2.2,
          statusForEvent_settled_isTerminal _⟩⟩
    | deletes hhits => exact absurd (doomed_iff.mp hhits).2.1 hpaid
  · intro answer hanswer hrevealed
    have hchange := Statement.answerChange hanswer
      (hkeyed.answer answer hanswer) statement
    generalize hresult : (statement.onRecord id record).answer = result at hchange ⊢
    cases hchange with
    | keeps => exact ⟨_, rfl, rfl⟩
    | saves hid => exact ⟨_, rfl, rfl⟩
    | reveals hnull =>
        rw [hnull] at hrevealed
        cases hrevealed
    | deletes =>
        obtain ⟨row, hrow, hanswered⟩ := hsound.revealed answer hanswer hrevealed
        rw [Statement.onRecord] at hresult
        split at hresult
        · next hdoomed =>
          rw [hrow, Option.any_some] at hdoomed
          have hpending := (doomed_iff.mp hdoomed).2.1
          rw [hanswered] at hpending
          cases hpending
        · rw [hanswer] at hresult
          cases hresult

theorem onRecord_sound : (statement.onRecord id record).Sound := by
  have hfollows := onRecord_follows hkeyed hfits hsound
  refine ⟨?_, ?_, ?_⟩
  · intro row hrow
    exact (onRecord_row_sound hkeyed hfits hsound hrow).1
  · intro row hrow
    exact (onRecord_row_sound hkeyed hfits hsound hrow).2
  · intro answer hanswer hrevealed
    obtain ⟨_, rfl, _⟩ | ⟨old, hold, hchange⟩ :=
      Statement.answer_cases hkeyed.answer hanswer
    · have hnull : answer.revealedAt = none := hfits
      rw [hnull] at hrevealed
      cases hrevealed
    · apply hfollows.answered
      cases hchange with
      | keeps => exact hsound.revealed _ hold hrevealed
      | saves hid => exact hsound.revealed _ hold hrevealed
      | reveals hnull => exact hfits (hkeyed.answer _ hold)

end Statement

/-- Whether a guarded update finds its row. -/
theorem hits_iff {tables : Tables} (hconsistent : tables.Consistent)
    {config : IndexerConfig} {uuid : Text} {status : QuestionStatus} :
    0 < ((tables.questions.filter (inStatus config uuid status)).map
        Question.id).length ↔
      ∃ row, (recordOf tables uuid).question = some row ∧
        inStatus config uuid status row = true := by
  rw [List.length_map, List.length_pos_iff_exists_mem]
  constructor
  · intro ⟨row, hrow⟩
    obtain ⟨hmem, hhits⟩ := List.mem_filter.mp hrow
    refine ⟨row, ?_, hhits⟩
    exact (Table.lookup_eq_some hconsistent.questions_primary).mpr
      ⟨hmem, (inStatus_iff.mp hhits).1⟩
  · intro ⟨row, hrow, hhits⟩
    exact ⟨row, List.mem_filter.mpr ⟨Table.lookup_mem hrow, hhits⟩⟩

/-! ## The protocol -/

def rowsProtocol : Protocol workers Cloud where
  Invariant := fun cloud => ∀ id, (cloud.record id).Sound
  Rely := fun before after =>
    (∀ id, (before.record id).Follows (after.record id)) ∧ before.Grows after
  refl := fun cloud =>
    ⟨fun id => QuestionRecord.Follows.refl (cloud.record id), fun _ => le_rfl⟩
  trans := fun hfirst hsecond =>
    ⟨fun id => (hfirst.1 id).trans (hsecond.1 id),
      fun chainId => (hfirst.2 chainId).trans (hsecond.2 chainId)⟩

/-- What an operation relies on. -/
def Operation.Fits (cloud : Cloud) : Operation → Prop
  | .database statement => ∀ id, statement.Fits id (cloud.record id)
  | _ => True

/-- The operation relies on nothing. -/
def Operation.Plain (operation : Operation) : Prop :=
  ∀ cloud, operation.Fits cloud

theorem exec_fits {operation : Operation} {node : NodeAnswer}
    {before after : Cloud} {reply : operation.Reply}
    (hsound : rowsProtocol.Invariant before) (hfits : operation.Fits before)
    (hexec : Cloud.exec network operation node before = some (reply, after)) :
    rowsProtocol.Invariant after ∧ rowsProtocol.Rely before after := by
  have hboth : ∀ id, (after.record id).Sound ∧
      (before.record id).Follows (after.record id) := by
    intro id
    obtain hsame | ⟨statement, rfl, heffect⟩ := exec_record id hexec
    · rw [hsame]
      exact ⟨hsound id, QuestionRecord.Follows.refl _⟩
    · have hkeyed := record_keyed before id
      rw [heffect]
      exact ⟨onRecord_sound hkeyed (hfits id) (hsound id),
        onRecord_follows hkeyed (hfits id) (hsound id)⟩
  exact ⟨fun id => (hboth id).1, fun id => (hboth id).2, exec_grows hexec⟩

section Pass

variable {Problem A B : Type} {post : Except Problem A → Cloud → Prop}
variable {cloud : Cloud}

theorem wp_fits {operation : Operation}
    {next : operation.Reply → Program workers Problem A}
    (hfits : ∀ now, rowsProtocol.Rely cloud now → operation.Fits now)
    (hnext : ∀ node reply now after,
      Cloud.exec network operation node now = some (reply, after) →
      rowsProtocol.Invariant after →
      (system network runtime).wp rowsProtocol post (next reply) after) :
    (system network runtime).wp rowsProtocol post (.await operation next) cloud := by
  apply System.wp_await rfl
  intro now hnow hsound _ node reply after hexec
  obtain ⟨hafter, hrely⟩ := exec_fits hsound (hfits now hnow) hexec
  exact ⟨hafter, hrely, hnext node reply now after hexec hafter⟩

/-- Code none of whose operations relies on anything. -/
theorem wp_plain {code : Program workers Problem A}
    (huses : code.Uses Operation.Plain) :
    (system network runtime).wp rowsProtocol (fun _ _ => True) code cloud := by
  apply System.wp_of_uses huses workers_yield
  intro operation hplain now hsound _ node reply after hexec
  exact exec_fits hsound (hplain now) hexec

/-- A statement that relies on nothing, in front of a continuation. -/
theorem wp_sql_fits {failed : SqlError → Problem} {statement : Statement}
    {next : statement.Reply → Program workers Problem A}
    (hfits : ∀ now id, rowsProtocol.Rely cloud now →
      statement.Fits id (now.record id))
    (hnext : ∀ value now after, Cloud.exec network (.database statement) {} now =
        some (.ok value, after) → rowsProtocol.Invariant after →
      (system network runtime).wp rowsProtocol (fun _ _ => True) (next value) after) :
    (system network runtime).wp rowsProtocol (fun _ _ => True)
      (sql failed statement >>= next) cloud := by
  refine wp_fits (fun now hnow id => hfits now id hnow) ?_
  intro node reply now after hexec hafter
  cases reply with
  | ok value => exact hnext value now after hexec hafter
  | error failure => exact fun _ _ _ => trivial

theorem noopOrUnknown_plain {config : IndexerConfig} {audit : AuditBase}
    {uuid : Text} {target : QuestionStatus} :
    (noopOrUnknown config audit uuid target).Uses
      Operation.Plain := by
  refine Program.Uses.bind (uses_sql fun _ _ => trivial) ?_
  intro existing
  cases existing with
  | none => exact Program.Uses.bind (uses_call fun _ => trivial) fun _ => trivial
  | some existing =>
      exact Program.Uses.bind (uses_call fun _ => trivial) fun _ => trivial

/-- A settle that finds its row leaves it with the target status. -/
theorem settle_hits {config : IndexerConfig} {uuid : Text}
    {settle : QuestionSettledEvent} {now : ℕ} {changed : List Text}
    {before after : Cloud} {node : NodeAnswer}
    (hexec : Cloud.exec network (.database (.settleQuestion config uuid settle now))
      node before = some (.ok changed, after)) (hchanged : 0 < changed.length) :
    ∃ row, (before.record uuid).question = some row ∧
      inStatus config uuid .open row = true ∧
      (after.record uuid).question =
        some ((EscrowEvent.settled settle).set now row) := by
  obtain ⟨hreply, htables, _⟩ | ⟨hreply, _, _⟩ := exec_database hexec
  · cases hreply
    obtain ⟨row, hrow, hhits⟩ := (hits_iff before.database.consistent).mp hchanged
    refine ⟨row, hrow, hhits, ?_⟩
    rw [Cloud.record, htables, Statement.recordOf_effect before.database.consistent,
      Statement.onRecord, hrow, Option.map_some, if_pos hhits]
  · cases hreply

/-- A reveal follows its settlement. -/
theorem wp_applyEvent_rows (config : IndexerConfig) (event : EscrowEvent)
    (now : ℕ) :
    (system network runtime).wp rowsProtocol (fun _ _ => True)
      (applyEvent config event now) cloud := by
  have haudit : ∀ (fields : AuditFields) (fired : Fin 2),
      (auditMoneyState config fields >>= fun _ => pure fired).Uses
        Operation.Plain :=
    fun fields fired =>
      Program.Uses.bind (uses_call fun _ => trivial) fun _ => trivial
  rw [applyEvent]
  simp only
  cases tryRefToUuid event.base.ref with
  | none => exact wp_plain (haudit _ _)
  | some uuid =>
      cases event with
      | asked ask =>
          refine wp_sql_fits (fun _ _ _ => trivial) ?_
          intro changed _ after _ _
          split
          · exact wp_plain (haudit _ _)
          · exact wp_plain noopOrUnknown_plain
      | settled settle =>
          refine wp_sql_fits (fun _ _ _ => trivial) ?_
          intro changed _ after hexec _
          split
          · next hchanged =>
            split
            · next hname =>
              obtain ⟨row, _, _, hrow⟩ := settle_hits hexec hchanged
              have hanswered : (after.record uuid).Answered :=
                ⟨_, hrow, by simp only [EscrowEvent.set, hname]; rfl⟩
              refine wp_sql_fits ?_ fun _ _ _ _ _ => wp_plain (haudit _ _)
              intro now id hnow hid
              subst hid
              exact (hnow.1 _).answered hanswered
            · exact wp_plain (haudit _ _)
          · exact wp_plain noopOrUnknown_plain

/-! ## Every program -/

theorem plain_of_ofApi {operation : Operation} (hapi : operation.OfApi false) :
    operation.Plain := by
  intro cloud
  cases operation with
  | database statement =>
      intro id
      cases statement with
      | insertQuestion row => exact hapi
      | upsertAnswer saved => exact hapi
      | publishQuestion | revealAnswer => cases hapi
      | _ => exact trivial
  | _ => exact trivial

theorem plain_of_ofSweep {operation : Operation} (hsweep : operation.OfSweep) :
    operation.Plain := by
  intro cloud
  cases operation with
  | database statement =>
      intro id
      cases statement with
      | orphanedQuestions | deleteOrphans => exact trivial
      | _ => cases hsweep
  | _ => exact trivial

/-- A card is published only after its status was read. -/
theorem wp_publishQuestion (wallet target : Text) (now : ℕ) :
    (system network runtime).wp rowsProtocol (fun _ _ => True)
      (publishQuestion wallet target now) cloud := by
  refine wp_sql_fits (fun _ _ _ => trivial) ?_
  intro question before after hexec _
  cases question with
  | none => exact fun _ _ _ => trivial
  | some question =>
      simp only
      split
      · split <;> exact fun _ _ _ => trivial
      · split
        · exact fun _ _ _ => trivial
        · next hstatus =>
          have hanswered : (after.record target).Answered := by
            obtain ⟨hreply, htables, _⟩ | ⟨hreply, _, _⟩ := exec_database hexec
            · refine ⟨question, ?_, not_not.mp hstatus⟩
              rw [Cloud.record, htables]
              exact (Except.ok.inj hreply).symm
            · cases hreply
          refine wp_sql_fits ?_ ?_
          · intro now id hnow hid
            subst hid
            exact (hnow.1 _).answered hanswered
          · intro updated _ _ _ _
            cases updated <;> exact fun _ _ _ => trivial

theorem wp_respond {rateLimit : Option RateLimitResult} {handler : Handler View}
    (hsound : rowsProtocol.Invariant cloud)
    (hhandler : (system network runtime).wp rowsProtocol (fun _ _ => True) handler
      cloud) :
    (system network runtime).wp rowsProtocol (fun _ _ => True)
      (respond rateLimit handler) cloud := by
  apply System.wp_handle hsound
  apply System.wp_bind hsound
  apply System.wp_mono hhandler
  intro result later _ hlater _
  cases result with
  | ok view => exact fun _ _ _ => trivial
  | error failure => exact fun _ _ _ => trivial

theorem wp_publish (context : RequestContext) (target : Text)
    (hsound : rowsProtocol.Invariant cloud) :
    (system network runtime).wp rowsProtocol (fun _ _ => True)
      (handleRequest runtime context (.publish target)) cloud := by
  have hconsume : (consume LIMITS.questionPublish context.clientIp context.now :
      Program workers Empty _).Uses Operation.Plain :=
    Program.Uses.bind (uses_call fun _ => trivial) fun _ =>
      Program.Uses.bind (uses_call fun _ => trivial) fun _ => trivial
  rw [handleRequest, limitOf]
  simp only
  rw [ipLimit]
  apply System.wp_bind hsound
  apply System.wp_mono (wp_plain hconsume)
  intro result later _ hlater _
  cases result with
  | error failure => exact trivial
  | ok result =>
      simp only
      split
      · apply wp_respond hlater
        rw [handler, requireAuth]
        cases context.wallet with
        | none => exact fun _ _ _ => trivial
        | some wallet => exact wp_publishQuestion wallet target context.now
      · exact wp_respond hlater fun _ _ _ => trivial

/-- Whoever is launched keeps to the protocol of the rows. -/
theorem wp_rows (label : Label) (hsound : rowsProtocol.Invariant cloud) :
    (system network runtime).wp rowsProtocol (fun _ _ => True)
      ((system network runtime).program label) cloud := by
  cases label with
  | reconcile chainId limits now =>
      have hpass : (system network runtime).wp rowsProtocol
          (System.FailsOnly fun _ => True)
          (reconcile (network.config chainId limits) now) cloud := by
        apply wp_reconcile_of
        · exact fun hrely => hrely.2
        · intro operation hscan now hsound _ node reply after hexec
          refine exec_fits hsound ?_ hexec
          cases operation with
          | database statement => cases hscan
          | _ => exact trivial
        · intro event cloud _ _
          apply System.wp_mono (wp_applyEvent_rows _ event now)
          intro result _ _ _ _
          cases result <;> exact trivial
      exact System.wp_mono hpass fun _ _ _ _ _ => trivial
  | sweep olderThanSeconds now limit =>
      exact wp_plain ((sweepOrphanedPendingPayments_uses _ _ _).mono
        fun _ => plain_of_ofSweep)
  | request context request =>
      have huses := handleRequest_uses runtime context request
      cases hpublishes : request.publishes with
      | false =>
          rw [hpublishes] at huses
          exact wp_plain (huses.mono fun _ => plain_of_ofApi)
      | true =>
          cases request with
          | publish target => exact wp_publish context target hsound
          | _ => cases hpublishes

end Pass

/-! ## Every schedule -/

theorem admits_rows :
    (system network runtime).Admits rowsProtocol (fun _ _ _ => True)
      (fun _ _ => True) where
  launch := fun _ hsound => wp_rows _ hsound
  advance := fun _ _ _ => trivial
  event := by
    intro pool event _ hsound
    cases event with
    | mine chainId blocks =>
        exact ⟨hsound, fun _ => QuestionRecord.Follows.refl _,
          react_grows pool.state (.mine chainId blocks)⟩

/-- What the API may not change of a question's rows. -/
structure QuestionRecord.KeptBy (before after : QuestionRecord) : Prop where
  question : ∀ row ∈ before.question, ∃ new ∈ after.question,
    new.status = row.status ∧ new.onchainId = row.onchainId ∧
      new.amountUsdc = row.amountUsdc ∧ new.answerDeadline = row.answerDeadline
  answer : ∀ answer ∈ before.answer, ∃ new ∈ after.answer,
    new.revealedAt = answer.revealedAt

theorem onRecord_keptBy {record : QuestionRecord} {statement : Statement}
    {publishes : Bool} (hids : ∀ answer ∈ record.answer, answer.questionId = id)
    (hapi : Operation.OfApi publishes (.database statement)) :
    record.KeptBy (statement.onRecord id record) := by
  constructor
  · intro row hrow
    have hchange := Statement.rowChange id hrow statement
    generalize (statement.onRecord id record).question = result at hchange ⊢
    cases hchange with
    | keeps => exact ⟨_, rfl, rfl, rfl, rfl, rfl⟩
    | publishes => exact ⟨_, rfl, rfl, rfl, rfl, rfl⟩
    | opens | settles | deletes => cases hapi
  · intro answer hanswer
    have hchange := Statement.answerChange hanswer (hids answer hanswer) statement
    generalize (statement.onRecord id record).answer = result at hchange ⊢
    cases hchange with
    | keeps => exact ⟨_, rfl, rfl⟩
    | saves hid => exact ⟨_, rfl, rfl⟩
    | reveals | deletes => cases hapi

section Step

variable {pool : WorkerPool}
variable (hconfined : System.Confined (Label.Permits network) pool)
variable (action : WorkerSchedule)

include hconfined

theorem step_moves {row new : Question}
    (hrow : (pool.state.record id).question = some row)
    (hnew : (((system network runtime).step pool action).state.record id).question =
      some new) : QuestionStatus.Moves row.status new.status := by
  obtain hsame | ⟨_, _, _, statement, _, _, _, _, heffect⟩ :=
    step_record runtime hconfined action id
  · rw [hsame] at hnew
    cases hrow.symm.trans hnew
    exact .inl rfl
  · rw [heffect] at hnew
    exact onRecord_moves hrow hnew

/-- Only the sweep removes a row. -/
theorem step_removes {row : Question}
    (hrow : (pool.state.record id).question = some row)
    (hnone : (((system network runtime).step pool action).state.record id).question =
      none) :
    row.status = .pendingPayment ∧ row.onchainId = none ∧
      Performs pool action Label.isSweep := by
  obtain hsame | ⟨index, node, thread, statement, haction, hthread, _, hpermits,
    heffect⟩ := step_record runtime hconfined action id
  · rw [hsame] at hnone
    cases hrow.symm.trans hnone
  · rw [heffect] at hnone
    obtain ⟨⟨ids, cutoff, rfl, _, _⟩, hpending, honchain⟩ :=
      onRecord_removes hrow hnone
    refine ⟨hpending, honchain, index, node, thread, haction, hthread, ?_⟩
    cases hlabel : thread.label with
    | sweep => rfl
    | reconcile | request =>
        rw [hlabel] at hpermits
        cases hpermits

/-- A request leaves the columns of the indexer alone. -/
theorem step_keeps (hrequest : Performs pool action Label.isRequest) :
    (pool.state.record id).KeptBy
      (((system network runtime).step pool action).state.record id) := by
  obtain ⟨index, node, thread, haction, hthread, hkind⟩ := hrequest
  obtain hsame | ⟨_, _, _, statement, hsame, hother, _, hpermits, heffect⟩ :=
    step_record runtime hconfined action id
  · rw [hsame]
    exact ⟨fun row hrow => ⟨row, hrow, rfl, rfl, rfl, rfl⟩,
      fun answer hanswer => ⟨answer, hanswer, rfl⟩⟩
  · cases haction.symm.trans hsame
    cases hthread.symm.trans hother
    rw [heffect]
    cases hlabel : thread.label with
    | request context request =>
        rw [hlabel] at hpermits
        exact onRecord_keptBy (record_keyed _ id).answer hpermits
    | reconcile | sweep =>
        rw [hlabel] at hkind
        cases hkind

end Step

/-- In every schedule the rows of a question are sound and follow its lifecycle;
only a sweep removes one, and only an unpaid draft; and a request leaves the
columns of the indexer alone. -/
theorem rows_follow_lifecycle (network : Network) (runtime : Runtime)
    (cloud : Cloud) (hrows : ∀ id, (cloud.record id).Sound)
    (past future : List WorkerSchedule) (action : WorkerSchedule) (id : Text) :
    let pool := (system network runtime).run (idle cloud) past
    let before := pool.state.record id
    let after := ((system network runtime).step pool action).state.record id
    let later := ((system network runtime).run pool future).state.record id
    before.Sound ∧ before.Follows later ∧
      (∀ row ∈ before.question, ∀ new ∈ after.question,
        QuestionStatus.Moves row.status new.status) ∧
      (∀ row ∈ before.question, after.question = none →
        row.status = .pendingPayment ∧ row.onchainId = none ∧
          Performs pool action Label.isSweep) ∧
      (Performs pool action Label.isRequest → before.KeptBy after) := by
  intro pool before after later
  have hidle : (system network runtime).Orderly rowsProtocol (fun _ _ _ => True)
      (idle cloud) := System.Orderly.empty hrows
  obtain ⟨hpool, _⟩ := hidle.run admits_rows (Machine.meets_always past)
  obtain ⟨_, hfollows⟩ := hpool.run admits_rows (Machine.meets_always future)
  have hconfined := run_confined network runtime cloud past
  exact ⟨hpool.invariant id, hfollows.1 id,
    fun _ hrow _ => step_moves hconfined action hrow,
    fun _ => step_removes hconfined action, step_keeps hconfined action⟩

namespace Sample

/-- The question is paid for in block 1 and answered in block 2. -/
def story : Network := fun _ => {
  contractAddress := "0x00000000000000000000000000000000000000e5".toList
  startBlock := 0
  events := [.asked payment, settlement]
  ordered := by decide }

/-- The asker mints a draft under an id. -/
def mintDraft (id : Text) : Label :=
  .request { clientIp := [], wallet := some question.askerWallet, now := 1 }
    (.createQuestion none (.object {
      handle := some (.string creator.handle), body := some (.string question.body)
      amountUsdc := some (.string "5000000".toList), chainId := some (.number 8453) }) id)

def onePass (now : ℕ) : Label := .reconcile 8453
  { confirmations := 0, getLogsRange := 1, maxBlocksPerRun := 1
    getLogsRange_pos := Nat.one_pos, maxBlocksPerRun_pos := Nat.one_pos } now

/-- A request of the answerer. -/
def byAnswerer (request : Request) (now : ℕ) : Label :=
  .request { clientIp := [], wallet := some creator.wallet, now } request

def advances (index count : ℕ) : List WorkerSchedule :=
  List.replicate count (.advance index {})

/-- Two drafts are minted, one of them is paid for and opened, its answer is saved, and
a pass reads the settlement. -/
def opening : List WorkerSchedule :=
  [.launch (mintDraft uuid)] ++ advances 0 4 ++
  [.launch (mintDraft "other".toList)] ++ advances 1 4 ++
  [.event (.mine 8453 1), .launch (onePass 2), .advance 2 {}, .advance 2 { latest := 1 },
    .advance 2 { logs := [.asked payment] }] ++ advances 2 3 ++
  [.launch (byAnswerer (.answer uuid (.object {
    body := some (.string "Because.".toList) })) 3)] ++ advances 3 4 ++
  [.event (.mine 8453 1), .launch (onePass 4), .advance 4 {}, .advance 4 { latest := 2 },
    .advance 4 { logs := [settlement] }]

/-- The question is settled, its answer revealed, and its publication asked for. -/
def closing : List WorkerSchedule :=
  advances 4 4 ++ [.launch (byAnswerer (.publish uuid) 5)] ++ advances 5 3

/-- The question is published, and a sweep a day later finds the other draft. -/
def pruning : List WorkerSchedule :=
  [.advance 5 {}, .launch (.sweep 86400 90000 500), .advance 6 {}]

end Sample

/-- A question from its draft to its publication, and a draft that is swept away. -/
theorem rows_follow_lifecycle_sample :
    let world := system Sample.story Sample.runtime
    let opened := world.run (idle Sample.cloud) Sample.opening
    let closed := world.run (idle Sample.cloud) (Sample.opening ++ Sample.closing)
    let pruned := world.run (idle Sample.cloud)
      (Sample.opening ++ Sample.closing ++ Sample.pruning)
    ((opened.state.record Sample.uuid).Sound ∧
      QuestionStatus.Moves .open .answered ∧
      (opened.state.record Sample.uuid).Follows
        ((world.run opened Sample.closing).state.record Sample.uuid)) ∧
    ((closed.state.record Sample.uuid).Sound ∧
      (closed.state.record Sample.uuid).KeptBy
        ((world.step closed (.advance 5 {})).state.record Sample.uuid)) ∧
    ((pruned.state.record Sample.uuid).question.map Question.isPublic = some true ∧
      ((world.step pruned (.advance 6 {})).state.record "other".toList).question = none ∧
      Performs pruned (.advance 6 {}) Label.isSweep) := by
  intro world opened closed pruned
  have hrows : ∀ id, (Sample.cloud.record id).Sound :=
    fun id => QuestionRecord.sound_of_none rfl rfl
  refine ⟨?_, ?_, ?_⟩
  · obtain ⟨hsound, hfollows, hmoves, -, -⟩ := rows_follow_lifecycle Sample.story
      Sample.runtime Sample.cloud hrows Sample.opening Sample.closing (.advance 4 {})
      Sample.uuid
    refine ⟨hsound, ?_, hfollows⟩
    exact hmoves { Sample.question with updatedAt := 2 } (by decide +kernel)
      { Sample.question with status := .answered, updatedAt := 4 } (by decide +kernel)
  · obtain ⟨hsound, -, -, -, hkept⟩ := rows_follow_lifecycle Sample.story Sample.runtime
      Sample.cloud hrows (Sample.opening ++ Sample.closing) [] (.advance 5 {}) Sample.uuid
    have hfifth : (closed.threads[5]?.any fun thread => thread.label.isRequest) = true := by
      decide +kernel
    obtain ⟨thread, hthread, hrequest⟩ := (Option.any_eq_true _ _).mp hfifth
    exact ⟨hsound, hkept ⟨5, {}, thread, rfl, hthread, hrequest⟩⟩
  · have hswept : ((world.step pruned (.advance 6 {})).state.record
        "other".toList).question = none := by
      decide +kernel
    obtain ⟨-, -, -, hsweep, -⟩ := rows_follow_lifecycle Sample.story Sample.runtime
      Sample.cloud hrows (Sample.opening ++ Sample.closing ++ Sample.pruning) []
      (.advance 6 {}) "other".toList
    refine ⟨by decide +kernel, hswept, ?_⟩
    exact (hsweep { Sample.draft with id := "other".toList } (by decide +kernel)
      hswept).2.2

end BuyAnAnswer.Workers
