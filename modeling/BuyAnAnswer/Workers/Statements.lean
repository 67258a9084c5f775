import BuyAnAnswer.Indexer.Reconcile

/-!
# The statements of the workers

Every database access of the API, the indexer and the sweep is one of these
statements.  A statement is atomic: it changes the tables and replies, or is refused
and changes nothing.  What a statement does to a question is told
row by row, by the question's id.
-/

namespace BuyAnAnswer.Workers

open Text Shared Indexer BuyAnAnswer.Transaction

/-- The columns `PUT /profile` and the avatar upload set. -/
structure CreatorPatch where
  displayName : Option Text := none
  headline : Option (Option Text) := none
  bio : Option (Option Text) := none
  avatarUrl : Option Text := none
  links : Option (Option (List ProfileLink)) := none
  minPriceUsdc : Option Text := none
  updatedAt : ℕ
  deriving DecidableEq, Repr

def CreatorPatch.apply (patch : CreatorPatch) (row : Creator) : Creator :=
  { row with
    displayName := patch.displayName.getD row.displayName
    headline := patch.headline.getD row.headline
    bio := patch.bio.getD row.bio
    avatarUrl := patch.avatarUrl.or row.avatarUrl
    links := patch.links.getD row.links
    minPriceUsdc := patch.minPriceUsdc.getD row.minPriceUsdc
    updatedAt := patch.updatedAt }

/-- The wallet column a list of questions is scoped by. -/
inductive WalletColumn where
  | askerWallet
  | answererWallet
  deriving DecidableEq, Repr

def WalletColumn.of (column : WalletColumn) (row : Question) : Text :=
  match column with
  | .askerWallet => row.askerWallet
  | .answererWallet => row.answererWallet

inductive Statement where
  | creatorByHandle (handle : Text)
  | creatorByWallet (wallet : Text)
  | insertCreator (row : Creator)
  | updateCreator (wallet : Text) (patch : CreatorPatch)
  | insertQuestion (row : Question)
  | questionById (id : Text)
  | questionOnChain (id : Text) (chainId : ℕ)
  | listQuestions (column : WalletColumn) (wallet : Text) (limit offset : ℕ)
  | publishQuestion (id : Text) (now : ℕ)
  | answerFor (questionId : Text)
  | upsertAnswer (row : Answer)
  | openQuestion (config : IndexerConfig) (uuid : Text)
      (ask : QuestionAskedEvent) (now : ℕ)
  | settleQuestion (config : IndexerConfig) (uuid : Text)
      (settle : QuestionSettledEvent) (now : ℕ)
  | revealAnswer (questionId : Text) (now : ℕ)
  | orphanedQuestions (cutoff limit : ℕ)
  | deleteOrphans (ids : List Text) (cutoff : ℕ)

namespace Statement

/-- What a statement returns. -/
@[reducible]
def Reply : Statement → Type
  | .creatorByHandle _ | .creatorByWallet _ | .updateCreator _ _ => Option Creator
  | .insertCreator _ => Creator
  | .insertQuestion _ => Question
  | .questionById _ | .publishQuestion _ _ => Option Question
  | .questionOnChain _ _ => Option Question
  | .listQuestions _ _ _ _ => List (Question × Bool)
  | .answerFor _ => Option Answer
  | .upsertAnswer _ => Answer
  | .openQuestion _ _ _ _ | .settleQuestion _ _ _ _ => List Text
  | .revealAnswer _ _ => Unit
  | .orphanedQuestions _ _ | .deleteOrphans _ _ => List Text

/-- `ORDER BY created_at DESC, id DESC` -/
def newestFirst (left right : Question × Bool) : Prop :=
  right.1.createdAt < left.1.createdAt ∨
    right.1.createdAt = left.1.createdAt ∧ right.1.id ≤ left.1.id

instance : DecidableRel newestFirst := fun _ _ =>
  inferInstanceAs (Decidable (_ ∨ _ ∧ _))

/-- An abandoned draft: `status = 'pending_payment' AND onchain_id IS NULL AND
created_at < cutoff`. -/
def orphaned (cutoff : ℕ) (row : Question) : Bool :=
  row.status = .pendingPayment && row.onchainId = none && row.createdAt < cutoff

/-- The rows a `DELETE` of orphans takes. -/
def doomed (ids : List Text) (cutoff : ℕ) (row : Question) : Bool :=
  row.id ∈ ids && orphaned cutoff row

def publish (now : ℕ) (row : Question) : Question :=
  { row with isPublic := true, updatedAt := now }

def reveal (now : ℕ) (row : Answer) : Answer :=
  { row with revealedAt := some now, updatedAt := now }

/-- `ON CONFLICT DO UPDATE SET body, updated_at` -/
def replaceBody (saved row : Answer) : Answer :=
  { row with body := saved.body, updatedAt := saved.updatedAt }

def upsert (row : Answer) (answers : List Answer) : List Answer :=
  match Table.lookup Answer.questionId answers row.questionId with
  | some _ =>
    Table.update (fun old => old.questionId = row.questionId) (replaceBody row)
      answers
  | none => answers ++ [row]

/-- The tables after a statement. -/
def effect : Statement → Tables → Tables
  | .insertCreator row, tables =>
    { tables with creators := tables.creators ++ [row] }
  | .updateCreator wallet patch, tables =>
    { tables with
      creators :=
        Table.update (fun row => row.wallet = wallet) patch.apply tables.creators }
  | .insertQuestion row, tables =>
    { tables with questions := tables.questions ++ [row] }
  | .publishQuestion id now, tables =>
    { tables with
      questions :=
        Table.update (fun row => row.id = id) (publish now) tables.questions }
  | .upsertAnswer row, tables =>
    { tables with answers := upsert row tables.answers }
  | .openQuestion config uuid ask now, tables =>
    { tables with
      questions :=
        Table.update (inStatus config uuid .pendingPayment)
          ((EscrowEvent.asked ask).set now) tables.questions }
  | .settleQuestion config uuid settle now, tables =>
    { tables with
      questions :=
        Table.update (inStatus config uuid .open)
          ((EscrowEvent.settled settle).set now) tables.questions }
  | .revealAnswer questionId now, tables =>
    { tables with
      answers :=
        Table.update (fun row => row.questionId = questionId && row.revealedAt = none)
          (reveal now) tables.answers }
  | .deleteOrphans ids cutoff, tables =>
    -- the foreign key of `answers` cascades
    { tables with
      questions := tables.questions.filter fun row => !doomed ids cutoff row
      answers := tables.answers.filter fun answer =>
        !tables.questions.any fun row =>
          doomed ids cutoff row && row.id = answer.questionId }
  | _, tables => tables

/-- The reply of a statement that goes through, from the tables before it. -/
def reply : (statement : Statement) → Tables → statement.Reply
  | .creatorByHandle handle, tables =>
    Table.lookup Creator.handle tables.creators handle
  | .creatorByWallet wallet, tables =>
    Table.lookup Creator.wallet tables.creators wallet
  | .insertCreator row, _ => row
  | .updateCreator wallet patch, tables =>
    (Table.lookup Creator.wallet tables.creators wallet).map patch.apply
  | .insertQuestion row, _ => row
  | .questionById id, tables => Table.lookup Question.id tables.questions id
  | .questionOnChain id chainId, tables =>
    tables.questions.find? fun row => row.id = id && row.chainId = chainId
  | .listQuestions column wallet limit offset, tables =>
    let joined := (tables.questions.filter fun row => column.of row = wallet).map
      fun row => (row,
        (Table.lookup Answer.questionId tables.answers row.id).isSome)
    ((joined.insertionSort newestFirst).drop offset).take limit
  | .publishQuestion id now, tables =>
    (Table.lookup Question.id tables.questions id).map (publish now)
  | .answerFor questionId, tables =>
    Table.lookup Answer.questionId tables.answers questionId
  | .upsertAnswer row, tables =>
    match Table.lookup Answer.questionId tables.answers row.questionId with
    | some old => replaceBody row old
    | none => row
  | .openQuestion config uuid _ _, tables =>
    (tables.questions.filter (inStatus config uuid .pendingPayment)).map Question.id
  | .settleQuestion config uuid _ _, tables =>
    (tables.questions.filter (inStatus config uuid .open)).map Question.id
  | .revealAnswer _ _, _ => ()
  | .orphanedQuestions cutoff limit, tables =>
    ((tables.questions.filter (orphaned cutoff)).take limit).map Question.id
  | .deleteOrphans ids cutoff, tables =>
    (tables.questions.filter (doomed ids cutoff)).map Question.id

/-- An `OFFSET` is an integer of SQLite, of 64 bits with a sign. -/
def inRange : Statement → Bool
  | .listQuestions _ _ _ offset => offset < 2 ^ 63
  | _ => true

/-- Why a statement is refused.  `CHECK`s come before unique indexes. -/
def refusal : Statement → SqlError
  | .insertCreator row => if row.Valid then .unique else .constraint
  | .listQuestions _ _ _ _ => .mismatch
  | _ => .constraint

def query (statement : Statement) : Query statement.Reply :=
  fun database =>
    if hserved : statement.inRange = true ∧
        (statement.effect database.toTables).Consistent then
      .ok (statement.reply database.toTables) {
        toTables := statement.effect database.toTables
        consistent := hserved.2 }
    else .error statement.refusal database

theorem query_eq_ok {statement : Statement} {value : statement.Reply}
    {before after : Database} :
    statement.query before = .ok value after ↔
      value = statement.reply before.toTables ∧
        after.toTables = statement.effect before.toTables ∧ statement.inRange = true := by
  rw [query]
  constructor
  · intro hrun
    split at hrun
    · next hserved =>
      cases hrun
      exact ⟨rfl, rfl, hserved.1⟩
    · cases hrun
  · intro ⟨hvalue, htables, hrange⟩
    obtain ⟨tables, hconsistent⟩ := after
    simp only at htables
    subst htables hvalue
    exact dif_pos ⟨hrange, hconsistent⟩

theorem query_eq_error {statement : Statement} {failure : SqlError}
    {before after : Database}
    (hfailed : statement.query before = .error failure after) :
    after = before ∧ failure = statement.refusal ∧
      (statement.inRange = true → ¬ (statement.effect before.toTables).Consistent) := by
  rw [query] at hfailed
  split at hfailed
  · cases hfailed
  · next hrefused =>
    cases hfailed
    exact ⟨rfl, rfl, fun hrange hconsistent => hrefused ⟨hrange, hconsistent⟩⟩

/-- A reveal goes through. -/
theorem reveal_consistent {tables : Tables} (hconsistent : tables.Consistent)
    (questionId : Text) (now : ℕ) :
    ((revealAnswer questionId now).effect tables).Consistent := by
  obtain ⟨after, hreveal, _, _⟩ :=
    revealAnswers_run questionId now { toTables := tables, consistent := hconsistent }
  obtain ⟨_, htables⟩ := execute_eq_ok.mp hreveal
  have hafter := after.consistent
  rw [htables] at hafter
  exact hafter

end Statement

/-! ## What happens to one question -/

/-- The rows of one question. -/
@[ext]
structure QuestionRecord where
  question : Option Question
  answer : Option Answer
  deriving DecidableEq, Repr

def recordOf (tables : Tables) (id : Text) : QuestionRecord where
  question := Table.lookup Question.id tables.questions id
  answer := Table.lookup Answer.questionId tables.answers id

theorem recordOf_questionId {tables : Tables} {id : Text} {answer : Answer}
    (hanswer : (recordOf tables id).answer = some answer) :
    answer.questionId = id :=
  Table.lookup_key hanswer

theorem recordOf_id {tables : Tables} {id : Text} {row : Question}
    (hrow : (recordOf tables id).question = some row) : row.id = id :=
  Table.lookup_key hrow

namespace Statement

/-- What a statement does to the rows of question `id`. -/
def onRecord (id : Text) (record : QuestionRecord) : Statement → QuestionRecord
  | .insertQuestion row =>
    { record with
      question := record.question.or (if row.id = id then some row else none) }
  | .publishQuestion target now =>
    { record with
      question := record.question.map fun row =>
        if row.id = target then publish now row else row }
  | .upsertAnswer saved =>
    if saved.questionId = id then
      { record with
        answer := some ((record.answer.map (replaceBody saved)).getD saved) }
    else record
  | .openQuestion config uuid ask now =>
    { record with
      question := record.question.map fun row =>
        if inStatus config uuid .pendingPayment row then
          (EscrowEvent.asked ask).set now row
        else row }
  | .settleQuestion config uuid settle now =>
    { record with
      question := record.question.map fun row =>
        if inStatus config uuid .open row then
          (EscrowEvent.settled settle).set now row
        else row }
  | .revealAnswer target now =>
    { record with
      answer := record.answer.map fun row =>
        if row.questionId = target && row.revealedAt = none then reveal now row
        else row }
  | .deleteOrphans ids cutoff =>
    if record.question.any (doomed ids cutoff) then
      { question := none, answer := none }
    else record
  | _ => record

variable {tables : Tables} {id : Text}

theorem lookup_upsert (saved : Answer) (answers : List Answer) :
    Table.lookup Answer.questionId (upsert saved answers) id =
      if saved.questionId = id then
        some (((Table.lookup Answer.questionId answers id).map
          (replaceBody saved)).getD saved)
      else Table.lookup Answer.questionId answers id := by
  rw [upsert]
  cases hold : Table.lookup Answer.questionId answers saved.questionId with
  | some old =>
      have hkeeps : ∀ row, (replaceBody saved row).questionId = row.questionId :=
        fun _ => rfl
      simp only
      rw [Table.lookup_update hkeeps]
      by_cases hid : saved.questionId = id
      · subst hid
        rw [hold, if_pos rfl]
        simp [Table.lookup_key hold]
      · rw [if_neg hid]
        cases hother : Table.lookup Answer.questionId answers id with
        | none => rfl
        | some other =>
            have hne : ¬ other.questionId = saved.questionId := by
              rw [Table.lookup_key hother]
              exact fun hsame => hid hsame.symm
            simp [hne]
  | none =>
      simp only
      rw [Table.lookup_append]
      by_cases hid : saved.questionId = id
      · subst hid
        rw [hold, if_pos rfl, if_pos rfl]
        rfl
      · rw [if_neg hid, if_neg hid, Option.or_none]

/-- Whether a `DELETE` takes an answer along with its question. -/
theorem any_doomed (hconsistent : tables.Consistent) {ids : List Text}
    {cutoff : ℕ} {answer : Answer} (hanswer : answer.questionId = id) :
    (tables.questions.any fun row =>
        doomed ids cutoff row && row.id = answer.questionId) =
      (recordOf tables id).question.any (doomed ids cutoff) := by
  rw [hanswer, Bool.eq_iff_iff, List.any_eq_true, Option.any_eq_true]
  constructor
  · intro ⟨row, hrow, hdoomed⟩
    obtain ⟨hdoomed, hid⟩ := Bool.and_eq_true_iff.mp hdoomed
    refine ⟨row, ?_, hdoomed⟩
    exact (Table.lookup_eq_some hconsistent.questions_primary).mpr
      ⟨hrow, of_decide_eq_true hid⟩
  · intro ⟨row, hrow, hdoomed⟩
    refine ⟨row, Table.lookup_mem hrow, ?_⟩
    simp [hdoomed, Table.lookup_key hrow]

theorem recordOf_deleteOrphans (hconsistent : tables.Consistent)
    (ids : List Text) (cutoff : ℕ) :
    recordOf ((deleteOrphans ids cutoff).effect tables) id =
      (deleteOrphans ids cutoff).onRecord id (recordOf tables id) := by
  have hquestion : (recordOf ((deleteOrphans ids cutoff).effect tables) id).question =
      (recordOf tables id).question.filter fun row => !doomed ids cutoff row :=
    Table.lookup_filter hconsistent.questions_primary
  have hanswer : (recordOf ((deleteOrphans ids cutoff).effect tables) id).answer =
      (recordOf tables id).answer.filter fun answer =>
        !tables.questions.any fun row =>
          doomed ids cutoff row && row.id = answer.questionId :=
    Table.lookup_filter hconsistent.answers_primary
  rw [onRecord]
  by_cases hdoomed : (recordOf tables id).question.any (doomed ids cutoff) = true
  · rw [if_pos hdoomed, QuestionRecord.ext_iff, hquestion, hanswer]
    constructor
    · rw [Option.filter_eq_none_iff]
      intro row hrow
      rw [hrow] at hdoomed
      simpa using hdoomed
    · rw [Option.filter_eq_none_iff]
      intro answer hanswer
      rw [any_doomed hconsistent (Table.lookup_key hanswer), hdoomed]
      simp
  · rw [if_neg hdoomed, QuestionRecord.ext_iff, hquestion, hanswer]
    rw [Bool.not_eq_true] at hdoomed
    constructor
    · cases hrow : (recordOf tables id).question with
      | none => rfl
      | some row =>
          rw [hrow, Option.any_some] at hdoomed
          exact Option.filter_some_pos (by rw [hdoomed]; rfl)
    · cases hanswer : (recordOf tables id).answer with
      | none => rfl
      | some answer =>
          apply Option.filter_some_pos
          rw [any_doomed hconsistent (Table.lookup_key hanswer), hdoomed]
          rfl

/-- Statements work on each question by itself. -/
theorem recordOf_effect (hconsistent : tables.Consistent)
    (statement : Statement) :
    recordOf (statement.effect tables) id =
      statement.onRecord id (recordOf tables id) := by
  cases statement with
  | creatorByHandle | creatorByWallet | insertCreator | updateCreator => rfl
  | questionById | questionOnChain | listQuestions | answerFor => rfl
  | orphanedQuestions => rfl
  | insertQuestion row =>
      rw [effect, onRecord, recordOf, Table.lookup_append]
      rfl
  | publishQuestion target now =>
      have hkeeps : ∀ row, (publish now row).id = row.id := fun _ => rfl
      rw [effect, onRecord, recordOf, Table.lookup_update hkeeps]
      simp [recordOf]
  | upsertAnswer saved =>
      rw [effect, onRecord, recordOf, lookup_upsert]
      by_cases hid : saved.questionId = id <;> simp [recordOf, hid]
  | openQuestion config uuid ask now =>
      have hkeeps : ∀ row, ((EscrowEvent.asked ask).set now row).id = row.id :=
        fun _ => rfl
      rw [effect, onRecord, recordOf, Table.lookup_update hkeeps]
      rfl
  | settleQuestion config uuid settle now =>
      have hkeeps : ∀ row, ((EscrowEvent.settled settle).set now row).id = row.id :=
        fun _ => rfl
      rw [effect, onRecord, recordOf, Table.lookup_update hkeeps]
      rfl
  | revealAnswer target now =>
      have hkeeps : ∀ row, (reveal now row).questionId = row.questionId :=
        fun _ => rfl
      rw [effect, onRecord, recordOf, Table.lookup_update hkeeps]
      rfl
  | deleteOrphans ids cutoff => exact recordOf_deleteOrphans hconsistent ids cutoff

/-- What a statement does to an existing row of `questions`. -/
inductive RowChange (row : Question) : Statement → Option Question → Prop where
  | keeps {statement : Statement} : RowChange row statement (some row)
  | publishes {now : ℕ} :
    RowChange row (.publishQuestion row.id now) (some (publish now row))
  | opens {config : IndexerConfig} {uuid : Text} {ask : QuestionAskedEvent}
      {now : ℕ} (hits : inStatus config uuid .pendingPayment row = true) :
    RowChange row (.openQuestion config uuid ask now)
      (some ((EscrowEvent.asked ask).set now row))
  | settles {config : IndexerConfig} {uuid : Text} {settle : QuestionSettledEvent}
      {now : ℕ} (hits : inStatus config uuid .open row = true) :
    RowChange row (.settleQuestion config uuid settle now)
      (some ((EscrowEvent.settled settle).set now row))
  | deletes {ids : List Text} {cutoff : ℕ} (hits : doomed ids cutoff row = true) :
    RowChange row (.deleteOrphans ids cutoff) none

/-- What a statement does to an existing row of `answers`. -/
inductive AnswerChange (answer : Answer) : Statement → Option Answer → Prop where
  | keeps {statement : Statement} : AnswerChange answer statement (some answer)
  | saves {saved : Answer} (hid : saved.questionId = answer.questionId) :
    AnswerChange answer (.upsertAnswer saved) (some (replaceBody saved answer))
  | reveals {now : ℕ} (hits : answer.revealedAt = none) :
    AnswerChange answer (.revealAnswer answer.questionId now)
      (some (reveal now answer))
  | deletes {ids : List Text} {cutoff : ℕ} :
    AnswerChange answer (.deleteOrphans ids cutoff) none

section Changes

variable {record : QuestionRecord} {row : Question} {answer : Answer}

theorem rowChange (id : Text) (hrow : record.question = some row)
    (statement : Statement) :
    RowChange row statement (statement.onRecord id record).question := by
  cases statement with
  | creatorByHandle | creatorByWallet | insertCreator | updateCreator
  | questionById | questionOnChain | listQuestions | answerFor | orphanedQuestions
  | revealAnswer =>
      change RowChange row _ record.question
      rw [hrow]
      exact .keeps
  | insertQuestion inserted =>
      rw [onRecord, hrow]
      exact .keeps
  | publishQuestion target now =>
      rw [onRecord, hrow, Option.map_some]
      split
      · next hid =>
        subst hid
        exact .publishes
      · exact .keeps
  | upsertAnswer saved =>
      rw [onRecord]
      split <;> rw [hrow] <;> exact .keeps
  | openQuestion config uuid ask now =>
      rw [onRecord, hrow, Option.map_some]
      split
      · next hhits => exact .opens hhits
      · exact .keeps
  | settleQuestion config uuid settle now =>
      rw [onRecord, hrow, Option.map_some]
      split
      · next hhits => exact .settles hhits
      · exact .keeps
  | deleteOrphans ids cutoff =>
      rw [onRecord]
      split
      · next hhits =>
        rw [hrow, Option.any_some] at hhits
        exact .deletes hhits
      · rw [hrow]
        exact .keeps

theorem answerChange (hanswer : record.answer = some answer)
    (hid : answer.questionId = id) (statement : Statement) :
    AnswerChange answer statement (statement.onRecord id record).answer := by
  cases statement with
  | creatorByHandle | creatorByWallet | insertCreator | updateCreator
  | questionById | questionOnChain | listQuestions | answerFor | orphanedQuestions
  | insertQuestion | publishQuestion | openQuestion | settleQuestion =>
      change AnswerChange answer _ record.answer
      rw [hanswer]
      exact .keeps
  | upsertAnswer saved =>
      rw [onRecord]
      split
      · next hsaved =>
        rw [hanswer, Option.map_some, Option.getD_some]
        exact .saves (hsaved.trans hid.symm)
      · rw [hanswer]
        exact .keeps
  | revealAnswer target now =>
      rw [onRecord, hanswer, Option.map_some]
      split
      · next hhits =>
        obtain ⟨htarget, hnull⟩ := Bool.and_eq_true_iff.mp hhits
        rw [← of_decide_eq_true htarget]
        exact .reveals (of_decide_eq_true hnull)
      · exact .keeps
  | deleteOrphans ids cutoff =>
      rw [onRecord]
      split
      · exact .deletes
      · rw [hanswer]
        exact .keeps

/-- Only an insert brings a question. -/
theorem inserts {statement : Statement} (hnone : record.question = none)
    (hrow : (statement.onRecord id record).question = some row) :
    statement = .insertQuestion row ∧ row.id = id := by
  cases statement with
  | creatorByHandle | creatorByWallet | insertCreator | updateCreator
  | questionById | questionOnChain | listQuestions | answerFor | orphanedQuestions
  | revealAnswer =>
      change record.question = _ at hrow
      rw [hnone] at hrow
      cases hrow
  | publishQuestion | openQuestion | settleQuestion =>
      rw [onRecord, hnone] at hrow
      cases hrow
  | insertQuestion inserted =>
      rw [onRecord, hnone, Option.none_or] at hrow
      split at hrow
      · next hid =>
        cases hrow
        exact ⟨rfl, hid⟩
      · cases hrow
  | upsertAnswer saved =>
      rw [onRecord] at hrow
      split at hrow <;> rw [hnone] at hrow <;> cases hrow
  | deleteOrphans ids cutoff =>
      rw [onRecord, hnone, if_neg (by simp), hnone] at hrow
      cases hrow

/-- Only a save brings an answer. -/
theorem saves {statement : Statement} (hnone : record.answer = none)
    (hanswer : (statement.onRecord id record).answer = some answer) :
    statement = .upsertAnswer answer ∧ answer.questionId = id := by
  cases statement with
  | creatorByHandle | creatorByWallet | insertCreator | updateCreator
  | questionById | questionOnChain | listQuestions | answerFor | orphanedQuestions
  | insertQuestion | publishQuestion | openQuestion | settleQuestion =>
      change record.answer = _ at hanswer
      rw [hnone] at hanswer
      cases hanswer
  | revealAnswer target now =>
      rw [onRecord, hnone] at hanswer
      cases hanswer
  | upsertAnswer saved =>
      rw [onRecord] at hanswer
      split at hanswer
      · next hid =>
        rw [hnone] at hanswer
        cases hanswer
        exact ⟨rfl, hid⟩
      · rw [hnone] at hanswer
        cases hanswer
  | deleteOrphans ids cutoff =>
      rw [onRecord] at hanswer
      split at hanswer
      · cases hanswer
      · rw [hnone] at hanswer
        cases hanswer

/-- Where a row of `questions` comes from. -/
theorem row_cases {statement : Statement}
    (hrow : (statement.onRecord id record).question = some row) :
    record.question = none ∧ statement = .insertQuestion row ∧ row.id = id ∨
      ∃ old, record.question = some old ∧ RowChange old statement (some row) := by
  cases hold : record.question with
  | none => exact .inl ⟨rfl, inserts hold hrow⟩
  | some old => exact .inr ⟨old, rfl, hrow ▸ rowChange id hold statement⟩

/-- Where a row of `answers` comes from. -/
theorem answer_cases {statement : Statement}
    (hids : ∀ old ∈ record.answer, old.questionId = id)
    (hanswer : (statement.onRecord id record).answer = some answer) :
    record.answer = none ∧ statement = .upsertAnswer answer ∧
        answer.questionId = id ∨
      ∃ old, record.answer = some old ∧
        AnswerChange old statement (some answer) := by
  cases hold : record.answer with
  | none => exact .inl ⟨rfl, saves hold hanswer⟩
  | some old =>
      exact .inr ⟨old, rfl, hanswer ▸ answerChange hold (hids old hold) statement⟩

end Changes

end Statement

end BuyAnAnswer.Workers
