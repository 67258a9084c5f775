import BuyAnAnswer.Core.Text
import BuyAnAnswer.Core.Table
import BuyAnAnswer.Core.Transaction

/-!
# The database

The tables of the schema with their constraints.  A database satisfies every
constraint by construction; a statement that would break one fails and leaves
the database as it was.  Timestamps are in seconds.
-/

namespace BuyAnAnswer.Shared

open Text BuyAnAnswer.Transaction

/-- Off-chain question status. -/
inductive QuestionStatus where
  | pendingPayment
  | «open»
  | answered
  | declined
  | cancelled
  | reclaimed
  deriving DecidableEq, Repr

/-- Terminal statuses: there is nothing left to settle. -/
def QuestionStatus.isTerminal : QuestionStatus → Bool
  | .pendingPayment | .open => false
  | _ => true

/-- How far a question has come. -/
def QuestionStatus.rank : QuestionStatus → ℕ
  | .pendingPayment => 0
  | .open => 1
  | _ => 2

/-- The off-chain status by the index of the contract's status. -/
def CONTRACT_STATUS_TO_QUESTION_STATUS : List (Option QuestionStatus) :=
  [none, some .open, some .answered, some .declined, some .cancelled,
    some .reclaimed]

structure ProfileLink where
  label : Text
  url : Text
  deriving DecidableEq, Repr

/-- A `creators` row, with the JSON of `links` decoded. -/
structure Creator where
  wallet : Text
  handle : Text
  displayName : Text
  headline : Option Text
  bio : Option Text
  avatarUrl : Option Text
  links : Option (List ProfileLink)
  minPriceUsdc : Text
  createdAt : ℕ
  updatedAt : ℕ
  deriving DecidableEq, Repr

/-- A `questions` row. -/
structure Question where
  id : Text
  chainId : ℕ
  onchainId : Option Text
  askerWallet : Text
  answererWallet : Text
  amountUsdc : Option Text
  body : Text
  status : QuestionStatus
  answerDeadline : Option ℕ
  isPublic : Bool
  createdAt : ℕ
  updatedAt : ℕ
  deriving DecidableEq, Repr

/-- An `answers` row. -/
structure Answer where
  questionId : Text
  body : Text
  submittedAt : ℕ
  revealedAt : Option ℕ
  updatedAt : ℕ
  deriving DecidableEq, Repr

/-! ## Constraints -/

/-- The part of a text that SQLite's text functions see. -/
def sqlText (text : Text) : Text := text.takeWhile fun char => char ≠ '\x00'

def sqlLength (text : Text) : ℕ := (sqlText text).length

/-- A lowercase, 0x-prefixed, 42-character address. -/
def isAddress (column : Text) : Bool :=
  sqlLength column = 42 && (sqlText column).take 2 = ['0', 'x'] &&
    ((sqlText column).drop 2).all isHexDigit

/-- Between 1 and 39 decimal digits. -/
def isBaseUnits (column : Text) : Bool :=
  1 ≤ sqlLength column && sqlLength column ≤ 39 &&
    (sqlText column).all Char.isDigit

/-- `CAST(column AS INTEGER)` of a text that starts with a digit. -/
def castInteger (column : Text) : ℕ :=
  Nat.ofDigitChars 10 ((sqlText column).takeWhile Char.isDigit) 0

/-- The CHECK constraints of `creators`. -/
structure Creator.Valid (row : Creator) : Prop where
  wallet_addr : isAddress row.wallet = true
  handle_fmt : (3 ≤ sqlLength row.handle ∧ sqlLength row.handle ≤ 30) ∧
    (sqlText row.handle).all (fun char =>
      ('a' ≤ char && char ≤ 'z') || char.isDigit || char = '_') = true
  display_name_len : 1 ≤ sqlLength row.displayName ∧
    sqlLength row.displayName ≤ 50
  headline_len : ∀ text ∈ row.headline, sqlLength text ≤ 80
  bio_len : ∀ text ∈ row.bio, sqlLength text ≤ 500
  min_price : isBaseUnits row.minPriceUsdc = true ∧
    1000000 ≤ castInteger row.minPriceUsdc ∧
    castInteger row.minPriceUsdc ≤ 10000000000

/-- The CHECK constraints of `questions`. -/
structure Question.Valid (row : Question) : Prop where
  asker_addr : isAddress row.askerWallet = true
  answerer_addr : isAddress row.answererWallet = true
  chain_id : 0 < row.chainId
  onchain_id : ∀ text ∈ row.onchainId, isBaseUnits text = true
  amount : ∀ text ∈ row.amountUsdc, isBaseUnits text = true
  body_len : 1 ≤ sqlLength row.body ∧ sqlLength row.body ≤ 2000

/-- The CHECK constraint of `answers`. -/
structure Answer.Valid (row : Answer) : Prop where
  body_len : 1 ≤ sqlLength row.body ∧ sqlLength row.body ≤ 5000

instance (row : Creator) : Decidable row.Valid :=
  decidable_of_iff (_ ∧ _ ∧ _ ∧ _ ∧ _ ∧ _)
    ⟨fun ⟨hwallet, hhandle, hname, hheadline, hbio, hprice⟩ =>
      ⟨hwallet, hhandle, hname, hheadline, hbio, hprice⟩,
      fun hvalid => ⟨hvalid.wallet_addr, hvalid.handle_fmt,
        hvalid.display_name_len, hvalid.headline_len, hvalid.bio_len,
        hvalid.min_price⟩⟩

instance (row : Question) : Decidable row.Valid :=
  decidable_of_iff (_ ∧ _ ∧ _ ∧ _ ∧ _ ∧ _)
    ⟨fun ⟨hasker, hanswerer, hchain, honchain, hamount, hbody⟩ =>
      ⟨hasker, hanswerer, hchain, honchain, hamount, hbody⟩,
      fun hvalid => ⟨hvalid.asker_addr, hvalid.answerer_addr, hvalid.chain_id,
        hvalid.onchain_id, hvalid.amount, hvalid.body_len⟩⟩

instance (row : Answer) : Decidable row.Valid :=
  decidable_of_iff _ ⟨fun hbody => ⟨hbody⟩, fun hvalid => hvalid.body_len⟩

/-- A number of at most 39 digits passes the check of base units. -/
theorem isBaseUnits_decimal {value : ℕ} (hvalue : value < 10 ^ 39) :
    isBaseUnits (decimal value) = true := by
  have hdigits : ∀ char ∈ decimal value, char.isDigit = true :=
    fun _ hchar => Nat.isDigit_of_mem_toDigits (by norm_num) le_rfl hchar
  have hseen : sqlText (decimal value) = decimal value := by
    rw [sqlText, List.takeWhile_eq_self_iff]
    intro char hchar
    have hdigit := hdigits char hchar
    rw [decide_eq_true_eq]
    rintro rfl
    cases hdigit
  have hlength : (decimal value).length ≤ 39 :=
    (Nat.length_toDigits_le_iff (by norm_num) (by norm_num)).mpr hvalue
  have hpositive : 1 ≤ (decimal value).length := Nat.length_toDigits_pos
  rw [isBaseUnits, sqlLength, hseen]
  simp only [Bool.and_eq_true, decide_eq_true_eq, List.all_eq_true]
  exact ⟨⟨hpositive, hlength⟩, hdigits⟩

structure Tables where
  creators : List Creator
  questions : List Question
  answers : List Answer
  deriving DecidableEq, Repr

/-- Every constraint of the schema.  `NULL`s are distinct to a unique index. -/
structure Tables.Consistent (tables : Tables) : Prop where
  creators_check : ∀ row ∈ tables.creators, row.Valid
  creators_primary : (tables.creators.map Creator.wallet).Nodup
  creators_handle_unique : (tables.creators.map Creator.handle).Nodup
  questions_check : ∀ row ∈ tables.questions, row.Valid
  questions_primary : (tables.questions.map Question.id).Nodup
  questions_chain_onchain_unique : tables.questions.Pairwise fun left right =>
    left.onchainId = none ∨
      (left.chainId, left.onchainId) ≠ (right.chainId, right.onchainId)
  questions_answerer : ∀ row ∈ tables.questions,
    row.answererWallet ∈ tables.creators.map Creator.wallet
  answers_check : ∀ row ∈ tables.answers, row.Valid
  answers_primary : (tables.answers.map Answer.questionId).Nodup
  answers_question : ∀ row ∈ tables.answers,
    row.questionId ∈ tables.questions.map Question.id

instance (tables : Tables) : Decidable tables.Consistent :=
  decidable_of_iff (_ ∧ _ ∧ _ ∧ _ ∧ _ ∧ _ ∧ _ ∧ _ ∧ _ ∧ _)
    ⟨fun ⟨h₁, h₂, h₃, h₄, h₅, h₆, h₇, h₈, h₉, h₁₀⟩ =>
      ⟨h₁, h₂, h₃, h₄, h₅, h₆, h₇, h₈, h₉, h₁₀⟩,
      fun ⟨h₁, h₂, h₃, h₄, h₅, h₆, h₇, h₈, h₉, h₁₀⟩ =>
        ⟨h₁, h₂, h₃, h₄, h₅, h₆, h₇, h₈, h₉, h₁₀⟩⟩

/-- What an update of `questions` must not do to keep every constraint. -/
theorem Tables.Consistent.updateQuestions {tables : Tables}
    {hits : Question → Bool} {set : Question → Question}
    (hconsistent : tables.Consistent) (hid : ∀ row, (set row).id = row.id)
    (hanswerer : ∀ row, (set row).answererWallet = row.answererWallet)
    (hchain : ∀ row, (set row).chainId = row.chainId)
    (hvalid : ∀ row ∈ tables.questions, hits row = true → (set row).Valid)
    (hunique : ∀ row ∈ tables.questions, hits row = true →
      (set row).onchainId = none ∨
        ∀ other ∈ tables.questions, other.id ≠ row.id → hits other = false ∧
          (other.chainId, other.onchainId) ≠ (row.chainId, (set row).onchainId)) :
    { tables with
      questions := Table.update hits set tables.questions : Tables }.Consistent := by
  have hids : (Table.update hits set tables.questions).map Question.id =
      tables.questions.map Question.id := Table.map_update hid
  refine { hconsistent with
    questions_check := ?_, questions_primary := ?_
    questions_chain_onchain_unique := ?_, questions_answerer := ?_
    answers_question := ?_ }
  · intro row hrow
    obtain ⟨hold, _⟩ | ⟨old, hold, hhits, rfl⟩ := Table.mem_update.mp hrow
    · exact hconsistent.questions_check row hold
    · exact hvalid old hold hhits
  · change ((Table.update hits set tables.questions).map Question.id).Nodup
    rw [hids]
    exact hconsistent.questions_primary
  · rw [Table.update, List.pairwise_map]
    have hdistinct := List.pairwise_map.mp hconsistent.questions_primary
    refine (hdistinct.and hconsistent.questions_chain_onchain_unique).imp_of_mem ?_
    intro left right hleft hright hpair
    obtain ⟨hne, hold⟩ := hpair
    cases hleftHits : hits left with
    | true =>
        simp only [if_true]
        obtain hnone | hfree := hunique left hleft hleftHits
        · exact .inl hnone
        · obtain ⟨hmiss, hfree⟩ := hfree right hright hne.symm
          simp only [hmiss, Bool.false_eq_true, if_false, hchain]
          exact .inr hfree.symm
    | false =>
        simp only [Bool.false_eq_true, if_false]
        cases hrightHits : hits right with
        | false => simpa using hold
        | true =>
            simp only [if_true, hchain]
            obtain hnone | hfree := hunique right hright hrightHits
            · rw [hnone]
              by_cases hnull : left.onchainId = none
              · exact .inl hnull
              · exact .inr fun hsame => hnull (Prod.ext_iff.mp hsame).2
            · exact .inr (hfree left hleft hne).2
  · intro row hrow
    obtain ⟨hold, _⟩ | ⟨old, hold, hhits, rfl⟩ := Table.mem_update.mp hrow
    · exact hconsistent.questions_answerer row hold
    · rw [hanswerer]
      exact hconsistent.questions_answerer old hold
  · intro row hrow
    change row.questionId ∈ (Table.update hits set tables.questions).map Question.id
    rw [hids]
    exact hconsistent.answers_question row hrow

structure Database extends Tables where
  consistent : toTables.Consistent

/-! ## Statements -/

/-- Why a statement fails: a unique index, another constraint, or a number that is no
integer of SQLite. -/
inductive SqlError where
  | unique
  | constraint
  | mismatch
  deriving DecidableEq, Repr

/-- Code that runs statements. -/
abbrev Query (A : Type) := Code SqlError Database A

/-- Run one writing statement, which returns `result`. -/
def execute {A : Type} (change : Tables → Tables) (result : Tables → A) :
    Query A :=
  fun database =>
    if hconsistent : (change database.toTables).Consistent then
      .ok (result database.toTables)
        { toTables := change database.toTables, consistent := hconsistent }
    else .error .constraint database

/-- `UPDATE questions SET … WHERE … RETURNING id` -/
def updateQuestions (hits : Question → Bool) (set : Question → Question) :
    Query (List Text) :=
  execute
    (fun tables =>
      { tables with questions := Table.update hits set tables.questions })
    (fun tables => (tables.questions.filter hits).map Question.id)

def updateAnswers (hits : Answer → Bool) (set : Answer → Answer) : Query Unit :=
  execute
    (fun tables => { tables with answers := Table.update hits set tables.answers })
    (fun _ => ())

def insertQuestion (row : Question) : Query Unit :=
  execute
    (fun tables => { tables with questions := tables.questions ++ [row] })
    (fun _ => ())

section Statements

variable {A : Type} {change : Tables → Tables} {result : Tables → A} {value : A}
variable {before after : Database} {failure : SqlError}

theorem execute_eq_ok :
    execute change result before = .ok value after ↔
      value = result before.toTables ∧
        after.toTables = change before.toTables := by
  rw [execute]
  constructor
  · intro hrun
    split at hrun
    · cases hrun
      exact ⟨rfl, rfl⟩
    · cases hrun
  · intro ⟨hvalue, htables⟩
    obtain ⟨tables, hconsistent⟩ := after
    simp only at htables
    subst htables hvalue
    exact dif_pos hconsistent

theorem execute_eq_error (hfailed : execute change result before =
    .error failure after) : after = before := by
  rw [execute] at hfailed
  split at hfailed
  · cases hfailed
  · cases hfailed
    rfl

/-- A statement that keeps the constraints goes through. -/
theorem execute_of_consistent
    (hconsistent : (change before.toTables).Consistent) :
    execute change result before = .ok (result before.toTables)
      { toTables := change before.toTables, consistent := hconsistent } :=
  dif_pos hconsistent

end Statements

end BuyAnAnswer.Shared
