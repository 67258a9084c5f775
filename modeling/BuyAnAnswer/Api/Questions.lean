import BuyAnAnswer.Api.Schemas
import BuyAnAnswer.Shared.Schema
import BuyAnAnswer.WorkerKit.Idempotency

/-!
# Composing a question

`POST /questions` behind the session check: it validates the body, looks the
creator up, refuses an amount below the creator's minimum and mints a
`pending_payment` draft.  The amount is compared and then dropped.
-/

namespace BuyAnAnswer.Api

open Text Shared WorkerKit BuyAnAnswer.Transaction

/-- The database with the idempotency records. -/
structure Backend where
  database : Database
  records : Kv Text

/-- Run database code inside a handler; a failed statement is not expected. -/
def onDatabase {A : Type} (query : Query A) : Code Failure Backend A :=
  fun backend =>
    match query backend.database with
    | .ok value database => .ok value { backend with database }
    | .error _ database => .error .internal { backend with database }

/-- Insert the draft and return its id. -/
def mint (row : Question) : Code Failure Backend Text := do
  onDatabase (insertQuestion row)
  return row.id

def ALLOWED_CHAIN_IDS : List ℕ := [8453, 84532]

def DEFAULT_CHAIN_ID : ℕ := 84532

def IDEMPOTENCY_TTL_SECONDS : ℕ := 60 * 60 * 24

/-- A request with what its handling draws from outside: the session's wallet,
a fresh UUID and the clock. -/
structure QuestionRequest where
  asker : Text
  idempotencyKey : Option Text
  body : RequestBody QuestionFields
  uuid : Text
  now : ℕ

namespace QuestionRequest

/-- The row of a draft; the columns the handler does not set have their
defaults. -/
def draft (request : QuestionRequest) (chainId : ℕ) (creator : Creator)
    (body : Text) : Question where
  id := request.uuid
  chainId := chainId
  onchainId := none
  askerWallet := request.asker
  answererWallet := creator.wallet
  amountUsdc := none
  body := body
  status := .pendingPayment
  answerDeadline := none
  isPublic := false
  createdAt := request.now
  updatedAt := request.now

/-- What happens before the mint: the row to insert, unless the request is
refused. -/
def compose (request : QuestionRequest) (creators : List Creator) :
    Except Failure Question := do
  let body ← parseBody createQuestionBody request.body
  let chainId := body.chainId.getD DEFAULT_CHAIN_ID
  if chainId ∉ ALLOWED_CHAIN_IDS then
    throw (.api {
      status := 422, code := "unsupported_chain"
      message := "unsupported chain id" })
  match creators.find? fun creator => creator.handle = body.handle with
  | none => throw (.api {
      status := 404, code := "answerer_not_found"
      message := "no creator with that handle" })
  | some creator =>
    match bigInt body.amountUsdc, bigInt creator.minPriceUsdc with
    | some amount, some minPrice =>
      if amount < minPrice then
        throw (.api {
          status := 422, code := "amount_below_min"
          message := "amount is below the creator's minimum price" })
      return request.draft chainId creator body.body
    | _, _ => throw .internal

/-- Mint the draft, or replay the id recorded under the idempotency key. -/
def submit (request : QuestionRequest) (row : Question) :
    Code Failure Backend (Text × Bool) :=
  match parseIdempotencyKey request.idempotencyKey with
  | some key =>
    withIdempotency Backend.records
      (fun records backend => { backend with records }) request.now
      request.asker key IDEMPOTENCY_TTL_SECONDS (mint row)
  | none => do
    let id ← mint row
    return (id, false)

/-- `POST /questions`; returns the id with status 201, and whether it was
replayed. -/
def postQuestions (request : QuestionRequest) :
    Code Failure Backend (Text × Bool) := do
  let creators ← read fun backend => backend.database.creators
  let row ← lift (request.compose creators)
  request.submit row

/-- The row a request is about to insert: none if it is refused or replayed. -/
def mints (request : QuestionRequest) (backend : Backend) : Option Question :=
  match request.compose backend.database.creators,
    parseIdempotencyKey request.idempotencyKey with
  | .error _, _ => none
  | .ok row, none => some row
  | .ok row, some key =>
    if (recorded backend.records request.now request.asker key).isSome then none
    else some row

section Spec

variable {request : QuestionRequest} {creators : List Creator} {row : Question}
variable {backend after : Backend}

/-- A composed row is an untouched draft. -/
theorem compose_eq_ok (hok : request.compose creators = .ok row) :
    ∃ chainId creator body, row = request.draft chainId creator body := by
  rw [compose] at hok
  cases hbody : parseBody createQuestionBody request.body with
  | error failure =>
      rw [hbody] at hok
      cases hok
  | ok body =>
      simp only [hbody, bind, Except.bind, throw, throwThe, MonadExceptOf.throw,
        pure, Except.pure] at hok
      by_cases hchain : body.chainId.getD DEFAULT_CHAIN_ID ∈ ALLOWED_CHAIN_IDS
      · simp only [hchain, not_true_eq_false, if_false] at hok
        split at hok
        · cases hok
        · split at hok
          · split at hok
            · cases hok
            · cases hok
              exact ⟨_, _, _, rfl⟩
          · cases hok
      · simp [hchain] at hok

theorem mints_isDraft (hmints : request.mints backend = some row) :
    ∃ chainId creator body, row = request.draft chainId creator body := by
  rw [mints] at hmints
  split at hmints
  · cases hmints
  · next hcompose _ =>
    cases hmints
    exact compose_eq_ok hcompose
  · next hcompose _ =>
    split at hmints
    · cases hmints
    · cases hmints
      exact compose_eq_ok hcompose

/-- What a request did to the database, when `row` is what it was to insert. -/
def Inserted (row : Question) (before after : Database) : Prop :=
  after.creators = before.creators ∧ after.questions = before.questions ++ [row]

/-- The insert fails without effect or goes through, and what follows it leaves
the database alone. -/
theorem mint_bind {B : Type} {rest : Text → Code Failure Backend B}
    (hrest : ∀ id middle,
      (finalState (rest id middle)).database = middle.database) :
    (finalState ((mint row >>= rest) backend)).database = backend.database ∨
      Inserted row backend.database
        (finalState ((mint row >>= rest) backend)).database := by
  cases hinsert : insertQuestion row backend.database with
  | error failure stop =>
      left
      have hmint : mint row backend = .error .internal
          { backend with database := stop } := by
        rw [mint, bind_eq_error, onDatabase, hinsert]
        exact .inl rfl
      have hrun : (mint row >>= rest) backend = .error .internal
          { backend with database := stop } := bind_eq_error.mpr (.inl hmint)
      rw [hrun]
      exact execute_eq_error hinsert
  | ok value stop =>
      right
      have hmint : mint row backend = .ok row.id
          { backend with database := stop } := by
        rw [mint, bind_eq_ok, onDatabase, hinsert]
        exact ⟨(), _, rfl, rfl⟩
      have hrun : (mint row >>= rest) backend =
          rest row.id { backend with database := stop } := by
        simp only [bind, EStateM.bind, hmint]
      obtain ⟨_, htables⟩ := execute_eq_ok.mp hinsert
      rw [hrun, hrest, Inserted, htables]
      exact ⟨rfl, rfl⟩

/-- A request leaves the database alone or appends the row it mints. -/
theorem postQuestions_cases (request : QuestionRequest) (backend : Backend) :
    (finalState (request.postQuestions backend)).database = backend.database ∨
      ∃ row, request.mints backend = some row ∧ Inserted row backend.database
        (finalState (request.postQuestions backend)).database := by
  rw [postQuestions, read_bind]
  cases hcompose : request.compose backend.database.creators with
  | error failure => exact .inl rfl
  | ok row =>
      change (finalState (request.submit row backend)).database = _ ∨
        ∃ row, _ ∧ Inserted row _ (finalState (request.submit _ backend)).database
      rw [submit]
      cases hkey : parseIdempotencyKey request.idempotencyKey with
      | none =>
          have hmints : request.mints backend = some row := by
            rw [mints, hcompose, hkey]
          obtain hsame | hinserted := @mint_bind row backend _
            (fun id => pure (id, false)) fun _ _ => rfl
          · exact .inl hsame
          · exact .inr ⟨row, hmints, hinserted⟩
      | some key =>
          simp only
          cases hrecorded : recorded backend.records request.now request.asker
            key with
          | some value =>
              rw [withIdempotency_recorded hrecorded]
              exact .inl rfl
          | none =>
              have hmints : request.mints backend = some row := by
                rw [mints, hcompose, hkey]
                simp only [hrecorded]
                rfl
              rw [withIdempotency_fresh hrecorded]
              obtain hsame | hinserted := @mint_bind row backend _
                (fun id => do
                  write fun backend => { backend with
                    records := backend.records.put request.now
                      (storeKey request.asker key) id IDEMPOTENCY_TTL_SECONDS }
                  return (id, false))
                fun _ _ => rfl
              · exact .inl hsame
              · exact .inr ⟨row, hmints, hinserted⟩

end Spec

end QuestionRequest

end BuyAnAnswer.Api
