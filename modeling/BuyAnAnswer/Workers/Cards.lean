import BuyAnAnswer.Core.Tags
import BuyAnAnswer.Workers.Answers
import BuyAnAnswer.Workers.Profiles

/-!
# Public cards

A card is read by three statements while everything else goes on.  Once it has been
shown it stays: the question, the asker, the amount, the creator's handle and the
stamp of the answer are final, and so is the answer unless a save writes late.
-/

namespace BuyAnAnswer.Workers

open Text Shared Indexer Api BuyAnAnswer.Transaction

/-! ## Rows that are paid for -/

/-- What is kept of the row of a question that is paid for. -/
structure RowKept (row new : Question) : Prop where
  paid : new.status ≠ .pendingPayment
  id : new.id = row.id
  askerWallet : new.askerWallet = row.askerWallet
  answererWallet : new.answererWallet = row.answererWallet
  amountUsdc : new.amountUsdc = row.amountUsdc
  body : new.body = row.body
  createdAt : new.createdAt = row.createdAt
  isPublic : row.isPublic = true → new.isPublic = true
  answered : row.status = .answered → new.status = .answered

/-- What is kept of its answer; the body of a revealed one if saves are timely. -/
structure AnswerKept (timely : Prop) (row : Question) (answer new : Answer) : Prop where
  revealedAt : ∀ time, answer.revealedAt = some time → new.revealedAt = some time
  body : timely → row.status = .answered → new.body = answer.body

/-- The rows of a question that is paid for stay. -/
structure Persists (timely : Prop) (record later : QuestionRecord) : Prop where
  question : ∀ row ∈ record.question, row.status ≠ .pendingPayment →
    ∃ new ∈ later.question, RowKept row new
  answer : ∀ row ∈ record.question, row.status ≠ .pendingPayment →
    ∀ answer ∈ record.answer, ∃ new ∈ later.answer, AnswerKept timely row answer new

section Persists

variable {timely : Prop} {id : Text} {record : QuestionRecord} {row : Question}

theorem RowKept.refl (hpaid : row.status ≠ .pendingPayment) : RowKept row row :=
  ⟨hpaid, rfl, rfl, rfl, rfl, rfl, rfl, fun hpublic => hpublic,
    fun hanswered => hanswered⟩

theorem RowKept.trans {second third : Question} (hfirst : RowKept row second)
    (hsecond : RowKept second third) : RowKept row third where
  paid := hsecond.paid
  id := hsecond.id.trans hfirst.id
  askerWallet := hsecond.askerWallet.trans hfirst.askerWallet
  answererWallet := hsecond.answererWallet.trans hfirst.answererWallet
  amountUsdc := hsecond.amountUsdc.trans hfirst.amountUsdc
  body := hsecond.body.trans hfirst.body
  createdAt := hsecond.createdAt.trans hfirst.createdAt
  isPublic := fun hpublic => hsecond.isPublic (hfirst.isPublic hpublic)
  answered := fun hanswered => hsecond.answered (hfirst.answered hanswered)

theorem AnswerKept.refl (answer : Answer) : AnswerKept timely row answer answer :=
  ⟨fun _ htime => htime, fun _ _ => rfl⟩

theorem Persists.refl (record : QuestionRecord) : Persists timely record record :=
  ⟨fun row hrow hpaid => ⟨row, hrow, RowKept.refl hpaid⟩,
    fun _ _ _ answer hanswer => ⟨answer, hanswer, AnswerKept.refl answer⟩⟩

theorem Persists.trans {second third : QuestionRecord}
    (hfirst : Persists timely record second) (hsecond : Persists timely second third) :
    Persists timely record third := by
  constructor
  · intro row hrow hpaid
    obtain ⟨middle, hmiddle, hkept⟩ := hfirst.question row hrow hpaid
    obtain ⟨new, hnew, hrest⟩ := hsecond.question middle hmiddle hkept.paid
    exact ⟨new, hnew, hkept.trans hrest⟩
  · intro row hrow hpaid answer hanswer
    obtain ⟨middle, hmiddle, hkept⟩ := hfirst.question row hrow hpaid
    obtain ⟨saved, hsaved, hfirstKept⟩ := hfirst.answer row hrow hpaid answer hanswer
    obtain ⟨new, hnew, hsecondKept⟩ :=
      hsecond.answer middle hmiddle hkept.paid saved hsaved
    refine ⟨new, hnew, ?_, ?_⟩
    · intro time htime
      exact hsecondKept.revealedAt time (hfirstKept.revealedAt time htime)
    · intro htimely hanswered
      exact (hsecondKept.body htimely (hkept.answered hanswered)).trans
        (hfirstKept.body htimely hanswered)

/-- The statement overwrites the answer of an answered question. -/
def Statement.OverwritesLate (id : Text) (record : QuestionRecord) :
    Statement → Prop
  | .upsertAnswer saved =>
    saved.questionId = id ∧ record.Answered ∧ record.answer.isSome = true
  | _ => False

/-- Whatever statement is run, the rows of a paid question stay. -/
theorem onRecord_persists (hkeyed : record.Keyed id) {statement : Statement}
    (htimely : timely → ¬ statement.OverwritesLate id record) :
    Persists timely record (statement.onRecord id record) := by
  constructor
  · intro row hrow hpaid
    have hchange := Statement.rowChange id hrow statement
    generalize (statement.onRecord id record).question = result at hchange ⊢
    cases hchange with
    | keeps => exact ⟨row, rfl, RowKept.refl hpaid⟩
    | publishes =>
        exact ⟨_, rfl, hpaid, rfl, rfl, rfl, rfl, rfl, rfl, fun _ => rfl,
          fun hanswered => hanswered⟩
    | opens hhits => exact absurd (inStatus_iff.mp hhits).2.2 hpaid
    | @settles config uuid settle now hhits =>
        have hopen := (inStatus_iff.mp hhits).2.2
        refine ⟨_, rfl, ?_, rfl, rfl, rfl, rfl, rfl, rfl, fun hpublic => hpublic, ?_⟩
        · change statusForEvent (.settled settle.name) ≠ .pendingPayment
          cases settle.name <;> decide
        · intro hanswered
          rw [hopen] at hanswered
          cases hanswered
    | deletes hhits => exact absurd (doomed_iff.mp hhits).2.1 hpaid
  · intro row hrow hpaid answer hanswer
    have hid := hkeyed.answer answer hanswer
    have hchange := Statement.answerChange hanswer hid statement
    generalize hresult : (statement.onRecord id record).answer = result at hchange ⊢
    cases hchange with
    | keeps => exact ⟨answer, rfl, AnswerKept.refl answer⟩
    | saves hsaved =>
        refine ⟨_, rfl, fun _ htime => htime, ?_⟩
        intro hcareful hanswered
        exact absurd ⟨hsaved.trans hid, ⟨row, hrow, hanswered⟩,
          Option.isSome_of_mem hanswer⟩ (htimely hcareful)
    | reveals hnull =>
        refine ⟨_, rfl, ?_, fun _ _ => rfl⟩
        intro time htime
        rw [hnull] at htime
        cases htime
    | deletes =>
        rw [Statement.onRecord] at hresult
        split at hresult
        · next hdoomed =>
          rw [hrow, Option.any_some] at hdoomed
          exact absurd (doomed_iff.mp hdoomed).2.1 hpaid
        · rw [hanswer] at hresult
          cases hresult

end Persists

/-! ## The protocol -/

/-- The operation overwrites the answer of an answered question. -/
def Operation.OverwritesLate (id : Text) (record : QuestionRecord) : Operation → Prop
  | .database statement => statement.OverwritesLate id record
  | _ => False

/-- What everyone keeps to as regards a card. -/
def cardProtocol (timely : Prop) (id : Text) : Protocol workers Cloud where
  Invariant := fun _ => True
  Rely := fun before after =>
    Persists timely (before.record id) (after.record id) ∧
      Tables.ProfilesStay before.database.toTables after.database.toTables
  Allowed := fun operation cloud =>
    timely → ¬ Operation.OverwritesLate id (cloud.record id) operation
  refl := fun _ => ⟨Persists.refl _, Tables.ProfilesStay.refl _⟩
  trans := fun hfirst hsecond =>
    ⟨hfirst.1.trans hsecond.1, hfirst.2.trans hsecond.2⟩

variable {network : Network} {runtime : Runtime} {timely : Prop} {id : Text}

theorem keeps_card (operation : Operation) :
    Keeps network (cardProtocol timely id) operation := by
  intro now _ hallowed node reply after hexec
  refine ⟨trivial, ?_, exec_profilesStay hexec⟩
  obtain hsame | ⟨statement, rfl, heffect⟩ := exec_record id hexec
  · rw [hsame]
    exact Persists.refl _
  · rw [heffect]
    exact onRecord_persists (record_keyed now id) hallowed

/-! ## What a card says -/

/-- The card made of the rows that were read. -/
def cardOf (row : Question) (answer : Option Answer) (creator : Option Creator) : Card where
  id := row.id
  body := row.body
  askerWallet := row.askerWallet
  amountUsdc := row.amountUsdc
  answeredAt := answer.bind Answer.revealedAt
  createdAt := row.createdAt
  answer := answer.map Answer.body
  creator := creator.map presentPublicCreator

/-- What was read for a card, and what is left of it. -/
structure Shown (timely : Prop) (id : Text) (row : Question) (answer : Option Answer)
    (creator : Creator) (cloud : Cloud) : Prop where
  isPublic : row.isPublic = true
  answered : row.status = .answered
  wallet : creator.wallet = row.answererWallet
  rows : Persists timely { question := some row, answer } (cloud.record id)
  profile : ∃ new ∈ cloud.database.creators, Continues creator new

/-- The card shows rows of the question. -/
def ShowsCard (timely : Prop) (id : Text) (card : Card) (cloud : Cloud) : Prop :=
  ∃ row answer creator, card = cardOf row answer (some creator) ∧
    Shown timely id row answer creator cloud

/-- What a later card has in common with an earlier one. -/
structure SameCard (timely : Prop) (card later : Card) : Prop where
  id : later.id = card.id
  body : later.body = card.body
  askerWallet : later.askerWallet = card.askerWallet
  amountUsdc : later.amountUsdc = card.amountUsdc
  createdAt : later.createdAt = card.createdAt
  answeredAt : ∀ time, card.answeredAt = some time → later.answeredAt = some time
  answered : card.answer.isSome = true → later.answer.isSome = true
  answer : timely → ∀ text, card.answer = some text → later.answer = some text
  creator : ∃ shown ∈ card.creator, ∃ new ∈ later.creator,
    new.wallet = shown.wallet ∧ new.handle = shown.handle ∧ new.createdAt = shown.createdAt

section ShownCards

variable {row : Question} {answer : Option Answer} {creator : Creator} {cloud : Cloud}
variable {card : Card}

theorem answered_paid (hanswered : row.status = .answered) :
    row.status ≠ .pendingPayment := by
  rw [hanswered]
  decide

theorem Shown.stays {later : Cloud} (hshown : Shown timely id row answer creator cloud)
    (hstay : (cardProtocol timely id).Rely cloud later) :
    Shown timely id row answer creator later where
  isPublic := hshown.isPublic
  answered := hshown.answered
  wallet := hshown.wallet
  rows := hshown.rows.trans hstay.1
  profile := by
    obtain ⟨middle, hmiddle, hcontinues⟩ := hshown.profile
    obtain ⟨new, hnew, hrest⟩ := hstay.2 middle hmiddle
    exact ⟨new, hnew, hcontinues.trans hrest⟩

theorem ShowsCard.stays {later : Cloud} (hshows : ShowsCard timely id card cloud)
    (hstay : (cardProtocol timely id).Rely cloud later) : ShowsCard timely id card later := by
  obtain ⟨row, answer, creator, hcard, hshown⟩ := hshows
  exact ⟨row, answer, creator, hcard, hshown.stays hstay⟩

/-- The creator of a question has a profile. -/
theorem answerer_found (hrow : (cloud.record id).question = some row) :
    ∃ creator, Table.lookup Creator.wallet cloud.database.creators row.answererWallet =
      some creator := by
  have hforeign := cloud.database.consistent.questions_answerer row (Table.lookup_mem hrow)
  obtain ⟨creator, hcreator, hwallet⟩ := List.mem_map.mp hforeign
  refine ⟨creator, ?_⟩
  exact (Table.lookup_eq_some cloud.database.consistent.creators_primary).mpr
    ⟨hcreator, hwallet⟩

/-- A card that is read in one go. -/
theorem answer_card {runtime : Runtime} {context : RequestContext}
    (hrow : (cloud.record id).question = some row) (hpublic : row.isPublic = true)
    (hanswered : row.status = .answered) :
    (cloud.answer runtime context (.card id)).1.outcome =
      .ok (.card (cardOf row (cloud.record id).answer
        (Table.lookup Creator.wallet cloud.database.creators row.answererWallet))) := by
  have hlookup : Table.lookup Question.id cloud.database.questions id = some row := hrow
  have hhandler : cloud.finish (getCard id) =
      (.ok (.card (cardOf row (cloud.record id).answer
        (Table.lookup Creator.wallet cloud.database.creators row.answererWallet))),
        cloud) := by
    rw [getCard, Cloud.finish_read rfl rfl]
    simp only [Statement.reply, hlookup, hpublic, hanswered]
    rw [if_neg (by simp), Cloud.finish_read rfl rfl, Cloud.finish_read rfl rfl]
    rfl
  have hrequest : cloud.finish (handleRequest runtime context (.card id)) =
      cloud.finish (respond none (getCard id)) := rfl
  rw [Cloud.answer, hrequest, Cloud.finish_respond, hhandler]

/-- What is kept of the rows makes a card that agrees with the one that was shown. -/
theorem sameCard {new : Question} {later : Option Answer} {profile : Creator}
    (hanswered : row.status = .answered) (hkept : RowKept row new)
    (hanswers : ∀ saved ∈ answer, ∃ current ∈ later, AnswerKept timely row saved current)
    (hcontinues : Continues creator profile) :
    SameCard timely (cardOf row answer (some creator))
      (cardOf new later (some profile)) where
  id := hkept.id
  body := hkept.body
  askerWallet := hkept.askerWallet
  amountUsdc := hkept.amountUsdc
  createdAt := hkept.createdAt
  answeredAt := by
    intro time htime
    obtain ⟨saved, hsaved, hstamp⟩ := Option.bind_eq_some_iff.mp htime
    obtain ⟨current, hcurrent, hanswerKept⟩ := hanswers saved hsaved
    exact Option.bind_eq_some_iff.mpr
      ⟨current, hcurrent, hanswerKept.revealedAt time hstamp⟩
  answered := by
    intro hsome
    obtain ⟨text, htext⟩ := Option.isSome_iff_exists.mp hsome
    obtain ⟨saved, hsaved, _⟩ := Option.map_eq_some_iff.mp htext
    obtain ⟨current, hcurrent, _⟩ := hanswers saved hsaved
    exact Option.isSome_iff_exists.mpr
      ⟨current.body, Option.map_eq_some_iff.mpr ⟨current, hcurrent, rfl⟩⟩
  answer := by
    intro htimely text htext
    obtain ⟨saved, hsaved, rfl⟩ := Option.map_eq_some_iff.mp htext
    obtain ⟨current, hcurrent, hanswerKept⟩ := hanswers saved hsaved
    exact Option.map_eq_some_iff.mpr
      ⟨current, hcurrent, hanswerKept.body htimely hanswered⟩
  creator := ⟨_, rfl, _, rfl, hcontinues.wallet, hcontinues.handle, hcontinues.createdAt⟩

/-- The profile of the creator is found by the wallet on the question. -/
theorem Shown.profile_found (hshown : Shown timely id row answer creator cloud) :
    ∃ profile, Table.lookup Creator.wallet cloud.database.creators row.answererWallet =
      some profile ∧ Continues creator profile := by
  obtain ⟨profile, hprofile, hcontinues⟩ := hshown.profile
  refine ⟨profile, ?_, hcontinues⟩
  refine (Table.lookup_eq_some cloud.database.consistent.creators_primary).mpr
    ⟨hprofile, ?_⟩
  rw [hcontinues.wallet, hshown.wallet]

/-- A card that was shown is shown again. -/
theorem ShowsCard.again {runtime : Runtime} {context : RequestContext}
    (hshows : ShowsCard timely id card cloud) :
    ∃ later, (cloud.answer runtime context (.card id)).1.outcome = .ok (.card later) ∧
      SameCard timely card later := by
  obtain ⟨row, answer, creator, rfl, hshown⟩ := hshows
  have hpaid := answered_paid hshown.answered
  obtain ⟨new, hnew, hkept⟩ := hshown.rows.question row rfl hpaid
  obtain ⟨profile, hprofile, hcontinues⟩ := hshown.profile_found
  refine ⟨_, answer_card hnew (hkept.isPublic hshown.isPublic)
    (hkept.answered hshown.answered), ?_⟩
  rw [hkept.answererWallet, hprofile]
  exact sameCard hshown.answered hkept (hshown.rows.answer row rfl hpaid) hcontinues

end ShownCards

/-! ## Reading a card in three statements -/

/-- What the handler of a card was told. -/
def ToldCard (timely : Prop) (id : Text) (result : Except Failure View) (cloud : Cloud) :
    Prop :=
  ∀ card, result = .ok (.card card) → ShowsCard timely id card cloud

theorem toldCard_error {failure : Failure} {cloud : Cloud} :
    ToldCard timely id (.error failure) cloud := by
  rintro card ⟨⟩

/-- A statement that only reads leaves the rows as they were. -/
theorem exec_read {statement : Statement} {node : NodeAnswer} {before after : Cloud}
    {value : statement.Reply}
    (hread : ∀ tables : Tables, statement.effect tables = tables)
    (hexec : Cloud.exec network (.database statement) node before =
      some (.ok value, after)) :
    value = statement.reply before.database.toTables ∧
      (∀ id, after.record id = before.record id) ∧
      after.database.creators = before.database.creators := by
  obtain ⟨hreply, htables, _⟩ | ⟨hreply, _⟩ := exec_database hexec
  · have hsame := htables.trans (hread _)
    refine ⟨Except.ok.inj hreply, ?_, congrArg Tables.creators hsame⟩
    intro id
    rw [Cloud.record, Cloud.record, hsame]
  · cases hreply

theorem wp_getCard {cloud : Cloud} :
    (system network runtime).wp (cardProtocol timely id) (ToldCard timely id)
      (getCard id) cloud := by
  refine wp_sql_keeps (keeps_card _) (fun _ _ _ _ _ _ _ => toldCard_error) ?_
  intro question _ first second _ hquestion _ _
  obtain ⟨rfl, hsame, _⟩ := exec_read (fun _ => rfl) hquestion
  simp only [Statement.reply]
  cases hrow : Table.lookup Question.id first.database.questions id with
  | none => exact fun _ _ _ => toldCard_error
  | some row =>
      simp only
      split
      · exact fun _ _ _ => toldCard_error
      next hvisible =>
      simp only [not_or, Bool.not_eq_false, not_not] at hvisible
      obtain ⟨hpublic, hanswered⟩ := hvisible
      have hpaid := answered_paid hanswered
      have hseen : Persists timely { question := some row, answer := none }
          (second.record id) := by
        constructor
        · rintro _ ⟨⟩ _
          refine ⟨row, ?_, RowKept.refl hpaid⟩
          rw [hsame]
          exact hrow
        · rintro _ _ _ _ ⟨⟩
      refine wp_sql_keeps (keeps_card _) (fun _ _ _ _ _ _ _ => toldCard_error) ?_
      intro answer _ third fourth hsecond hanswer _ _
      obtain ⟨rfl, hsame, _⟩ := exec_read (fun _ => rfl) hanswer
      have hboth : Persists timely
          { question := some row, answer := (third.record id).answer }
          (fourth.record id) := by
        rw [hsame]
        constructor
        · rintro _ ⟨⟩ _
          exact (hseen.trans hsecond.1).question row rfl hpaid
        · rintro _ ⟨⟩ _ saved hsaved
          exact ⟨saved, hsaved, AnswerKept.refl saved⟩
      refine wp_sql_keeps (keeps_card _) (fun _ _ _ _ _ _ _ => toldCard_error) ?_
      intro creator _ fifth last hfourth hcreator _ _
      obtain ⟨rfl, hsame, hcreators⟩ := exec_read (fun _ => rfl) hcreator
      obtain ⟨new, hnew, hkept⟩ :=
        (hboth.trans hfourth.1).question row rfl hpaid
      obtain ⟨profile, hprofile⟩ := answerer_found hnew
      rw [hkept.answererWallet] at hprofile
      intro later hlater _ card hcard
      have hfound : Table.lookup Creator.wallet fifth.database.creators row.answererWallet =
          some profile := hprofile
      refine ⟨row, (third.record id).answer, profile, ?_, Shown.stays ?_ hlater⟩
      · simp only [Statement.reply, hfound] at hcard
        cases hcard
        rfl
      · refine ⟨hpublic, hanswered, Table.lookup_key hfound, ?_, profile, ?_,
          Continues.refl profile⟩
        · rw [hsame]
          exact hboth.trans hfourth.1
        · rw [hcreators]
          exact Table.lookup_mem hfound

/-! ## Reading it again -/

/-- What everyone keeps to once these rows have been shown. -/
def shownProtocol (timely : Prop) (id : Text) (row : Question) (answer : Option Answer)
    (creator : Creator) : Protocol workers Cloud :=
  { cardProtocol timely id with Invariant := Shown timely id row answer creator }

section Again

variable {row : Question} {answer : Option Answer} {creator : Creator} {cloud : Cloud}

theorem keeps_shown (operation : Operation) :
    Keeps network (shownProtocol timely id row answer creator) operation := by
  intro now hshown hallowed node reply after hexec
  obtain ⟨_, hrely⟩ := keeps_card operation now trivial hallowed node reply after hexec
  exact ⟨hshown.stays hrely, hrely⟩

/-- The rule for a statement that only reads what has been shown. -/
theorem wp_shown_read {Problem A : Type} {post : Except Problem A → Cloud → Prop}
    {failed : SqlError → Problem} {statement : Statement}
    {next : statement.Reply → Program workers Problem A}
    (hrange : statement.inRange = true)
    (hread : ∀ tables : Tables, statement.effect tables = tables)
    (hnext : ∀ now after, Shown timely id row answer creator now →
      (system network runtime).wp (shownProtocol timely id row answer creator) post
        (next (statement.reply now.database.toTables)) after) :
    (system network runtime).wp (shownProtocol timely id row answer creator) post
      (sql failed statement >>= next) cloud := by
  apply wp_keeps (keeps_shown _)
  intro node reply now after _ hshown hexec _ _
  obtain ⟨rfl, _, _⟩ | ⟨_, _, hbroken⟩ := exec_database hexec
  · exact hnext now after hshown
  · have hconsistent := now.database.consistent
    rw [← hread now.database.toTables] at hconsistent
    exact absurd hconsistent (hbroken hrange)

/-- What was read again. -/
def ReadAgain (timely : Prop) (card : Card) (result : Except Failure View) (_ : Cloud) :
    Prop :=
  ∃ new, result = .ok (.card new) ∧ SameCard timely card new

theorem wp_getCard_again :
    (system network runtime).wp (shownProtocol timely id row answer creator)
      (ReadAgain timely (cardOf row answer (some creator))) (getCard id) cloud := by
  refine wp_shown_read rfl (fun _ => rfl) ?_
  intro first _ hshown
  have hanswered := hshown.answered
  have hpaid := answered_paid hanswered
  obtain ⟨new, hnew, hkept⟩ := hshown.rows.question row rfl hpaid
  have hlookup : Statement.reply (.questionById id) first.database.toTables = some new := hnew
  simp only [hlookup]
  rw [if_neg]
  swap
  · rw [hkept.isPublic hshown.isPublic, hkept.answered hanswered]
    simp
  refine wp_shown_read rfl (fun _ => rfl) ?_
  intro second _ hsecond
  refine wp_shown_read rfl (fun _ => rfl) ?_
  intro third _ hthird later _ _
  obtain ⟨profile, hprofile, hcontinues⟩ := hthird.profile_found
  have hcreator : Statement.reply (.creatorByWallet new.answererWallet)
      third.database.toTables = some profile := by
    rw [hkept.answererWallet]
    exact hprofile
  refine ⟨cardOf new (second.record id).answer (some profile), ?_, ?_⟩
  · rw [hcreator]
    rfl
  · exact sameCard hanswered hkept (hsecond.rows.answer row rfl hpaid) hcontinues

end Again

/-! ## Every schedule -/

/-- What a finished reader of the card was told. -/
def CardTold (timely : Prop) (id : Text) :
    (label : Label) → Except label.Failure label.Result → Cloud → Prop
  | .request _ (.card target), .ok response, cloud =>
    target = id → ∀ card, response.outcome = .ok (.card card) → ShowsCard timely id card cloud
  | _, _, _ => True

theorem wp_card (label : Label) {cloud : Cloud} :
    (system network runtime).wp (cardProtocol timely id) (CardTold timely id label)
      ((system network runtime).program label) cloud := by
  have hquiet : (system network runtime).wp (cardProtocol timely id) (fun _ _ => True)
      ((system network runtime).program label) cloud :=
    wp_of_keeps (program_uses network runtime label) fun operation _ => keeps_card operation
  cases label with
  | reconcile | sweep => exact System.wp_mono hquiet fun _ _ _ _ _ => trivial
  | request context request =>
      cases request with
      | card target =>
          by_cases htarget : target = id
          · subst htarget
            have hstays : ∀ result before later,
                CardTold timely target (.request context (.card target)) result before →
                  (cardProtocol timely target).Rely before later →
                    CardTold timely target (.request context (.card target)) result later := by
              intro result before later htold hlater
              cases result with
              | ok response => exact fun hid card hcard => (htold hid card hcard).stays hlater
              | error failure => exact trivial
            change (system network runtime).wp (cardProtocol timely target)
              (CardTold timely target (.request context (.card target)))
              (respond none (getCard target)) cloud
            apply wp_respond_stays hstays trivial
            apply System.wp_mono wp_getCard
            exact fun _ _ _ _ htold _ card hcard => htold card hcard
          · apply System.wp_mono hquiet
            intro result _ _ _ _
            cases result with
            | ok response => exact fun hid => absurd hid htarget
            | error failure => exact trivial
      | _ => exact System.wp_mono hquiet fun _ _ _ _ _ => trivial

/-- Nothing but a save that is late is out of order. -/
theorem savesLate_of_overwritesLate {pool : WorkerPool} {index : ℕ} {choice : NodeAnswer}
    {label : Label} {operation : Operation}
    {next : operation.Reply → Program workers label.Failure label.Result}
    {left right : List (Thread workers Label.Failure Label.Result)}
    (hthreads : pool.threads = left ++ ⟨label, .await operation next⟩ :: right)
    (hindex : left.length = index)
    (hlate : operation.OverwritesLate id (pool.state.record id)) :
    SavesLate id pool (.advance index choice) := by
  cases operation with
  | database statement =>
      cases statement with
      | upsertAnswer saved =>
          obtain ⟨hid, hanswered, hsome⟩ := hlate
          exact ⟨hanswered, hsome, saved, hid, index, choice, _, rfl,
            System.getElem?_of_split hthreads hindex, rfl⟩
      | _ => cases hlate
  | _ => cases hlate

theorem admits_card :
    (system network runtime).Admits (cardProtocol timely id) (CardTold timely id)
      (fun pool action => timely → ¬ SavesLate id pool action) where
  launch := fun _ _ => wp_card _
  advance := fun hcondition hthreads hindex htimely hlate =>
    hcondition htimely (savesLate_of_overwritesLate hthreads hindex hlate)
  event := by
    intro pool event _ _
    cases event with
    | mine chainId blocks => exact ⟨trivial, Persists.refl _, Tables.ProfilesStay.refl _⟩

theorem meets_of_imp {pool : WorkerPool} {schedule : List WorkerSchedule}
    (hmeets : timely → Machine.Meets (system network runtime).step
      (fun pool action => ¬ SavesLate id pool action) pool schedule) :
    Machine.Meets (system network runtime).step
      (fun pool action => timely → ¬ SavesLate id pool action) pool schedule := by
  induction schedule generalizing pool with
  | nil => exact trivial
  | cons action schedule ih =>
      exact ⟨fun htimely => (hmeets htimely).1, ih fun htimely => (hmeets htimely).2⟩

/-! ## Readers that come later -/

section Later

variable {row : Question} {answer : Option Answer} {creator : Creator} {cloud : Cloud}
variable {card : Card}

/-- What a reader was told who came after the card had been shown. -/
def ToldAgain (timely : Prop) (id : Text) (card : Card) :
    (label : Label × Bool) → Except label.1.Failure label.1.Result → Cloud → Prop
  | (.request _ (.card target), true), .ok response, _ =>
    target = id → ∃ new, response.outcome = .ok (.card new) ∧ SameCard timely card new
  | _, _, _ => True

theorem wp_shown (label : Label) :
    (system network runtime).wp (shownProtocol timely id row answer creator)
      (fun _ _ => True) ((system network runtime).program label) cloud :=
  wp_of_keeps (program_uses network runtime label) fun operation _ => keeps_shown operation

theorem wp_card_again (label : Label × Bool)
    (hshown : Shown timely id row answer creator cloud) :
    (system network runtime).wp (shownProtocol timely id row answer creator)
      (ToldAgain timely id (cardOf row answer (some creator)) label)
      ((system network runtime).program label.1) cloud := by
  obtain ⟨label, later⟩ := label
  cases label with
  | reconcile | sweep => exact System.wp_mono (wp_shown _) fun _ _ _ _ _ => trivial
  | request context request =>
      cases request with
      | card target =>
          by_cases hagain : target = id ∧ later = true
          · obtain ⟨rfl, rfl⟩ := hagain
            have hstays : ∀ result (before now : Cloud),
                ToldAgain timely target (cardOf row answer (some creator))
                    (.request context (.card target), true) result before →
                  (shownProtocol timely target row answer creator).Rely before now →
                    ToldAgain timely target (cardOf row answer (some creator))
                      (.request context (.card target), true) result now := by
              intro result before now htold _
              cases result with
              | ok response => exact htold
              | error failure => exact trivial
            change (system network runtime).wp
              (shownProtocol timely target row answer creator)
              (ToldAgain timely target (cardOf row answer (some creator))
                (.request context (.card target), true))
              (respond none (getCard target)) cloud
            apply wp_respond_stays hstays hshown
            apply System.wp_mono wp_getCard_again
            exact fun _ _ _ _ hagain _ => hagain
          · apply System.wp_mono (wp_shown _)
            intro result _ _ _ _
            cases later with
            | false => cases result <;> exact trivial
            | true =>
                cases result with
                | ok response => exact fun hid => absurd ⟨hid, rfl⟩ hagain
                | error failure => exact trivial
      | _ => exact System.wp_mono (wp_shown _) fun _ _ _ _ _ => trivial

theorem admits_shown :
    (system network runtime).Admits (shownProtocol timely id row answer creator)
      (fun _ _ _ => True) (fun pool action => timely → ¬ SavesLate id pool action) where
  launch := fun _ _ => wp_shown _
  advance := fun hcondition hthreads hindex htimely hlate =>
    hcondition htimely (savesLate_of_overwritesLate hthreads hindex hlate)
  event := by
    intro pool event hcondition hshown
    obtain ⟨_, hrely⟩ := admits_card.event hcondition trivial
    exact ⟨hshown.stays hrely, hrely⟩

/-- All who come after the card had been shown are told the same. -/
theorem toldAgain_run {pool : WorkerPool} {future : List WorkerSchedule}
    (hsettled : ∀ thread ∈ pool.threads, System.Settled thread.program)
    (hshown : Shown timely id row answer creator pool.state)
    (hfuture : Machine.Meets (system network runtime).step
      (fun pool action => timely → ¬ SavesLate id pool action) pool future) :
    ((system network runtime).tagging Bool).Orderly
      (shownProtocol timely id row answer creator)
      (ToldAgain timely id (cardOf row answer (some creator)))
      ((system network runtime).since pool future) := by
  have hmarked : ((system network runtime).tagging Bool).Orderly
      (shownProtocol timely id row answer creator)
      (ToldAgain timely id (cardOf row answer (some creator)))
      (System.marked pool false) := by
    refine ⟨hshown, ?_, ?_⟩
    · intro thread hthread
      obtain ⟨plain, hplain, rfl⟩ := List.mem_map.mp hthread
      exact hsettled plain hplain
    · intro thread hthread
      obtain ⟨plain, hplain, rfl⟩ := List.mem_map.mp hthread
      apply System.wp_tagging
      apply System.wp_mono (wp_of_keeps (Program.uses_any plain.program)
        fun operation _ => keeps_shown operation)
      intro result _ _ _ _
      obtain ⟨label, program⟩ := plain
      cases label with
      | request context request => cases request <;> cases result <;> exact trivial
      | _ => exact trivial
  have htagged : Machine.Meets ((system network runtime).tagging Bool).step
      (fun pool action => timely →
        ¬ SavesLate id (System.untagged pool) (System.untaggedStep action))
      (System.marked pool false) (future.map (System.taggedStep true)) := by
    rw [← System.untagged_marked pool false] at hfuture
    exact System.meets_tagged true hfuture
  exact (hmarked.run (admits_shown.tagging fun label _ hshown =>
    wp_card_again label hshown) htagged).1

end Later

/-- A public card that was once shown is shown from then on, whatever is scheduled:
the same question of the same asker for the same amount, the same creator and handle,
the stamp of the answer once it has one, and, unless a save writes to the answered
question, the same answer.  It is shown to whoever reads it in one go, and to whoever
comes later and reads it while everything else goes on. -/
theorem cards_are_final (network : Network) (runtime : Runtime) (cloud : Cloud)
    (past future : List WorkerSchedule) (id : Text) :
    let pool := (system network runtime).run (idle cloud) past
    let later := ((system network runtime).run pool future).state
    let timely := Machine.Meets (system network runtime).step
      (fun pool action => ¬ SavesLate id pool action) (idle cloud) (past ++ future)
    ∀ context response card,
      (⟨.request context (.card id), .ret response⟩ : Thread workers _ _) ∈ pool.threads →
      response.outcome = .ok (.card card) →
      (∀ visitor, ∃ new, (later.answer runtime visitor (.card id)).1.outcome =
          .ok (.card new) ∧ SameCard timely card new) ∧
      ∀ visitor reply,
        (⟨(.request visitor (.card id), true), .ret reply⟩ : Thread workers _ _) ∈
          ((system network runtime).since pool future).threads →
        ∃ new, reply.outcome = .ok (.card new) ∧ SameCard timely card new := by
  intro pool later timely context response card hthread hcard
  have hidle : (system network runtime).Orderly (cardProtocol timely id)
      (CardTold timely id) (idle cloud) := System.Orderly.empty trivial
  have hsplit : Machine.Meets (system network runtime).step
      (fun pool action => timely → ¬ SavesLate id pool action) (idle cloud)
        (past ++ future) := meets_of_imp fun htimely => htimely
  obtain ⟨hpast, hfuture⟩ := Machine.meets_append.mp hsplit
  obtain ⟨hpool, _⟩ := hidle.run admits_card hpast
  obtain ⟨row, answer, creator, rfl, hshown⟩ := hpool.threads _ hthread pool.state
    ((cardProtocol timely id).refl _) trivial rfl card hcard
  have hafter := toldAgain_run hpool.settled hshown hfuture
  constructor
  · intro visitor
    have hlater : ((system network runtime).since pool future).state = later :=
      congrArg Pool.state (System.untagged_since pool future)
    have hstill : Shown timely id row answer creator later := hlater ▸ hafter.invariant
    exact ShowsCard.again ⟨row, answer, creator, rfl, hstill⟩
  · intro visitor reply hreply
    exact hafter.threads _ hreply _ ((shownProtocol timely id row answer creator).refl _)
      hafter.invariant rfl

namespace Sample

def reader : Label :=
  .request { clientIp := [], wallet := none, now := 5 } (.card uuid)

/-- A save has read the status when the question is settled; then the answerer
publishes the card, and a visitor reads it while a pass starts. -/
def publication : List WorkerSchedule :=
  straddle ++ [.launch (byAnswerer (.publish uuid) 5)] ++ advances 2 4 ++
    [.launch reader, .advance 3 {}, .launch pass, .advance 3 {}, .advance 4 {},
      .advance 3 {}]

def shown : Card := cardOf { question with status := .answered, isPublic := true }
  (some { answer with revealedAt := some 4 }) (some creator)

/-- The save rewrites the answer between the statements of another visitor. -/
def rewriting : List WorkerSchedule :=
  [.launch reader, .advance 5 {}, .advance 0 {}, .advance 5 {}, .advance 4 {},
    .advance 5 {}]

end Sample

set_option maxRecDepth 20000 in
/-- Two visitors read a card: the late save changes the answer, and nothing else. -/
theorem cards_are_final_sample :
    ∃ new, (⟨(Sample.reader, true), .ret { rateLimit := none, outcome := .ok (.card new) }⟩ :
        Thread workers _ _) ∈ ((system Sample.settled Sample.runtime).since
          ((system Sample.settled Sample.runtime).run (idle Sample.paid) Sample.publication)
            Sample.rewriting).threads ∧
      new.answer = some "I will not tell.".toList ∧ new.answeredAt = some 4 := by
  have hfirst : ((system Sample.settled Sample.runtime).run (idle Sample.paid)
      Sample.publication).threads[3]? = some ⟨Sample.reader,
        .ret { rateLimit := none, outcome := .ok (.card Sample.shown) }⟩ := rfl
  have hsecond : ((system Sample.settled Sample.runtime).since
      ((system Sample.settled Sample.runtime).run (idle Sample.paid) Sample.publication)
        Sample.rewriting).threads[5]? = some ⟨(Sample.reader, true), .ret {
          rateLimit := none
          outcome := .ok (.card { Sample.shown with
            answer := some "I will not tell.".toList }) }⟩ := rfl
  obtain ⟨_, hlater⟩ := cards_are_final Sample.settled Sample.runtime Sample.paid
    Sample.publication Sample.rewriting Sample.uuid _ _ Sample.shown
    (List.mem_of_getElem? hfirst) rfl
  obtain ⟨new, hnew, hsame⟩ := hlater _ _ (List.mem_of_getElem? hsecond)
  refine ⟨_, List.mem_of_getElem? hsecond, rfl, ?_⟩
  obtain rfl := View.card.inj (Except.ok.inj hnew)
  exact hsame.answeredAt 4 rfl

end BuyAnAnswer.Workers
