import BuyAnAnswer.Workers.Routes

/-!
# One request at a time

A request that runs from start to end with nothing in between.  Statements that
only read go through and leave everything as it was.
-/

namespace BuyAnAnswer.Workers

open Text Shared Indexer WorkerKit Api BuyAnAnswer.Transaction

/-- A statement goes through or ends the program, wherever it runs. -/
theorem run_sql_bind {State Failure A : Type}
    {exec : (operation : Operation) → State → operation.Reply × State}
    (failed : SqlError → Failure) (statement : Statement)
    (next : statement.Reply → Program workers Failure A) (state : State) :
    @Program.run workers Failure A State exec (sql failed statement >>= next) state =
      match exec (.database statement) state with
      | (.ok value, after) => @Program.run workers Failure A State exec (next value) after
      | (.error failure, after) => (.error (failed failure), after) := by
  change @Program.run workers Failure A State exec
    ((match (exec (.database statement) state).1 with
      | .ok value => .ret value
      | .error failure => .fail (failed failure) : Program workers Failure _) >>= next)
    (exec (.database statement) state).2 = _
  cases exec (.database statement) state with
  | mk result after => cases result <;> rfl

namespace Cloud

def serving (operation : Operation) (cloud : Cloud) : operation.Reply × Cloud :=
  cloud.serve operation

/-- Run code of the API alone. -/
def finish {Failure A : Type} (cloud : Cloud) (program : Program workers Failure A) :
    Except Failure A × Cloud :=
  program.run serving cloud

section Finish

variable {Failure A B : Type} {cloud : Cloud}

@[simp]
theorem finish_ret (value : A) :
    cloud.finish (.ret value : Program workers Failure A) = (.ok value, cloud) := rfl

@[simp]
theorem finish_fail (failure : Failure) :
    cloud.finish (.fail failure : Program workers Failure A) =
      (.error failure, cloud) := rfl

theorem finish_bind (program : Program workers Failure A)
    (next : A → Program workers Failure B) :
    cloud.finish (program >>= next) =
      match cloud.finish program with
      | (.ok value, middle) => middle.finish (next value)
      | (.error failure, middle) => (.error failure, middle) := by
  rw [finish, Program.run_bind, finish]
  cases program.run serving cloud with
  | mk result middle => cases result <;> rfl

@[simp]
theorem finish_call_bind (operation : Operation)
    (next : operation.Reply → Program workers Failure A) :
    cloud.finish (call operation >>= next) =
      (cloud.serve operation).2.finish (next (cloud.serve operation).1) := rfl

theorem finish_database (statement : Statement)
    (next : Except SqlError statement.Reply → Handler A) :
    cloud.finish (.await (.database statement) next) =
      (cloud.execute statement).2.finish (next (cloud.execute statement).1) := rfl

theorem finish_query_bind (statement : Statement) (next : statement.Reply → Handler A) :
    cloud.finish (query statement >>= next) =
      match cloud.execute statement with
      | (.ok value, after) => after.finish (next value)
      | (.error _, after) => (.error .internal, after) := by
  have hserving : serving (.database statement) cloud = cloud.execute statement := rfl
  rw [finish, query, run_sql_bind, hserving]
  cases cloud.execute statement with
  | mk result after => cases result <;> rfl

theorem finish_query_ok {statement : Statement} {next : statement.Reply → Handler A}
    {value : statement.Reply} {after : Cloud}
    (hexecute : cloud.execute statement = (.ok value, after)) :
    cloud.finish (query statement >>= next) = after.finish (next value) := by
  rw [finish_query_bind, hexecute]

theorem finish_query_error {statement : Statement} {next : statement.Reply → Handler A}
    {failure : SqlError} {after : Cloud}
    (hexecute : cloud.execute statement = (.error failure, after)) :
    cloud.finish (query statement >>= next) = (.error .internal, after) := by
  rw [finish_query_bind, hexecute]

end Finish

/-- A statement that changes nothing goes through. -/
theorem execute_read {cloud : Cloud} {statement : Statement}
    (hread : statement.effect cloud.database.toTables = cloud.database.toTables)
    (hrange : statement.inRange = true) :
    cloud.execute statement =
      (.ok (statement.reply cloud.database.toTables), cloud) := by
  have hquery : statement.query cloud.database =
      .ok (statement.reply cloud.database.toTables) cloud.database :=
    Statement.query_eq_ok.mpr ⟨rfl, hread.symm, hrange⟩
  rw [execute, hquery]

/-- A statement with a number out of range is refused. -/
theorem execute_refused {cloud : Cloud} {statement : Statement}
    (hrange : statement.inRange = false) :
    cloud.execute statement = (.error statement.refusal, cloud) := by
  have hrefused : statement.query cloud.database =
      .error statement.refusal cloud.database :=
    dif_neg fun hserved => Bool.false_ne_true (hrange.symm.trans hserved.1)
  rw [execute, hrefused]

theorem finish_read {A : Type} {cloud : Cloud} {statement : Statement}
    {next : statement.Reply → Handler A}
    (hread : statement.effect cloud.database.toTables = cloud.database.toTables)
    (hrange : statement.inRange = true) :
    cloud.finish (query statement >>= next) =
      cloud.finish (next (statement.reply cloud.database.toTables)) := by
  rw [finish_query_bind, execute_read hread hrange]

/-- A route that needs a profile. -/
theorem finish_ownProfile {A : Type} {cloud : Cloud} (wallet : Text)
    (next : Creator → Handler A) :
    cloud.finish (ownProfile wallet >>= next) =
      match Table.lookup Creator.wallet cloud.database.creators wallet with
      | none => (.error (.api {
          status := 404, code := "no_profile", message := "claim a handle first" }),
          cloud)
      | some row => cloud.finish (next row) := by
  rw [ownProfile, bind_assoc, finish_read rfl rfl]
  simp only [Statement.reply]
  cases Table.lookup Creator.wallet cloud.database.creators wallet <;> rfl

/-- Handle one request from start to end. -/
def answer (cloud : Cloud) (runtime : Runtime) (context : RequestContext)
    (request : Request) : Response × Cloud :=
  match cloud.finish (handleRequest runtime context request) with
  | (.ok response, after) => (response, after)

/-- What a handler returns or throws becomes the response. -/
theorem finish_respond {cloud : Cloud} (rateLimit : Option RateLimitResult)
    (handler : Handler View) :
    cloud.finish (respond rateLimit handler) =
      (.ok { rateLimit, outcome := (cloud.finish handler).1 },
        (cloud.finish handler).2) := by
  have hhandle := @Program.run_handle workers Failure Empty Response Cloud serving
    (handler >>= fun view => .ret { rateLimit, outcome := .ok view })
    (fun failure => .ret { rateLimit, outcome := .error failure }) cloud
  have hbind := @finish_bind Failure View Response cloud handler fun view =>
    .ret { rateLimit, outcome := .ok view }
  rw [finish] at hbind
  rw [hbind] at hhandle
  apply hhandle.trans
  cases cloud.finish handler with
  | mk result after => cases result <;> rfl

end Cloud

/-! ## Composing and minting -/

/-- Whether a question may be put to the creator that was found. -/
def judge (request : QuestionRequest) (body : CreateQuestionBody)
    (creator : Option Creator) : Except Failure Question :=
  match creator with
  | none => .error (.api {
      status := 404, code := "answerer_not_found"
      message := "no creator with that handle" })
  | some creator =>
    match bigInt body.amountUsdc, bigInt creator.minPriceUsdc with
    | some amount, some minPrice =>
      if amount < minPrice then .error (.api {
        status := 422, code := "amount_below_min"
        message := "amount is below the creator's minimum price" })
      else .ok (request.draft (body.chainId.getD DEFAULT_CHAIN_ID) creator body.body)
    | _, _ => .error .internal

/-- The first half of `POST /questions`: the row to mint, unless it is refused. -/
def composeRow (request : QuestionRequest) : Handler Question := do
  let body ← .ofExcept (parseBody createQuestionBody request.body)
  if body.chainId.getD DEFAULT_CHAIN_ID ∉ ALLOWED_CHAIN_IDS then
    refuse 422 "unsupported_chain" "unsupported chain id"
  else do
    let creator ← query (.creatorByHandle body.handle)
    .ofExcept (judge request body creator)

/-- The second half: mint the row, once if the caller sent a key. -/
def mintOnce (request : QuestionRequest) (row : Question) : Handler (Text × Bool) :=
  match parseIdempotencyKey request.idempotencyKey with
  | some key =>
    withIdempotency request.asker key request.now IDEMPOTENCY_TTL_SECONDS (mint row)
  | none => do
    let id ← mint row
    return (id, false)

theorem postQuestions_eq (request : QuestionRequest) :
    postQuestions request = composeRow request >>= mintOnce request := by
  rw [postQuestions, composeRow, bind_assoc]
  congr 1
  funext body
  simp only
  split
  · rfl
  · rw [bind_assoc]
    congr 1
    funext creator
    cases creator with
    | none => rfl
    | some creator =>
        simp only [judge]
        cases bigInt body.amountUsdc with
        | none => rfl
        | some amount =>
            cases bigInt creator.minPriceUsdc with
            | none => rfl
            | some minPrice =>
                by_cases hbelow : amount < minPrice
                · simp only [hbelow, if_true]
                  rfl
                · simp only [hbelow, if_false]
                  rfl

theorem compose_of_error {request : QuestionRequest} {failure : Failure}
    (hbody : parseBody createQuestionBody request.body = .error failure)
    (creators : List Creator) : request.compose creators = .error failure := by
  rw [QuestionRequest.compose, hbody]
  rfl

/-- The decision of `compose` on a parsed body. -/
theorem compose_of_body {request : QuestionRequest} {body : CreateQuestionBody}
    (hbody : parseBody createQuestionBody request.body = .ok body)
    (creators : List Creator) :
    request.compose creators =
      if body.chainId.getD DEFAULT_CHAIN_ID ∉ ALLOWED_CHAIN_IDS then
        .error (.api {
          status := 422, code := "unsupported_chain"
          message := "unsupported chain id" })
      else judge request body (Table.lookup Creator.handle creators body.handle) := by
  rw [QuestionRequest.compose, hbody]
  simp only [bind, Except.bind, throw, throwThe, MonadExceptOf.throw, pure, Except.pure]
  rfl

/-- What a composed row is made of. -/
theorem compose_spec {request : QuestionRequest} {creators : List Creator} {row : Question}
    (hcompose : request.compose creators = .ok row) :
    ∃ body creator, parseBody createQuestionBody request.body = .ok body ∧
      body.chainId.getD DEFAULT_CHAIN_ID ∈ ALLOWED_CHAIN_IDS ∧ creator ∈ creators ∧
      row = request.draft (body.chainId.getD DEFAULT_CHAIN_ID) creator body.body := by
  cases hbody : parseBody createQuestionBody request.body with
  | error failure =>
      rw [compose_of_error hbody] at hcompose
      cases hcompose
  | ok body =>
      rw [compose_of_body hbody] at hcompose
      by_cases hchain : body.chainId.getD DEFAULT_CHAIN_ID ∈ ALLOWED_CHAIN_IDS
      · simp only [hchain, not_true_eq_false, if_false] at hcompose
        cases hcreator : Table.lookup Creator.handle creators body.handle with
        | none =>
            rw [hcreator] at hcompose
            cases hcompose
        | some creator =>
            rw [hcreator, judge] at hcompose
            refine ⟨body, creator, rfl, hchain, Table.lookup_mem hcreator, ?_⟩
            split at hcompose
            · split at hcompose
              · cases hcompose
              · exact (Except.ok.inj hcompose).symm
            · cases hcompose
      · simp only [hchain, not_false_eq_true, if_true] at hcompose
        cases hcompose

/-- Composing reads the creator and decides as `compose` does. -/
theorem finish_composeRow {A : Type} {cloud : Cloud} (request : QuestionRequest)
    (next : Question → Handler A) :
    cloud.finish (composeRow request >>= next) =
      match request.compose cloud.database.creators with
      | .ok row => cloud.finish (next row)
      | .error failure => (.error failure, cloud) := by
  rw [composeRow, bind_assoc]
  cases hbody : parseBody createQuestionBody request.body with
  | error failure =>
      rw [compose_of_error hbody]
      rfl
  | ok body =>
      rw [compose_of_body hbody, Program.ofExcept, Program.ret_bind]
      by_cases hchain : body.chainId.getD DEFAULT_CHAIN_ID ∈ ALLOWED_CHAIN_IDS
      · simp only [hchain, not_true_eq_false, if_false]
        rw [bind_assoc, Cloud.finish_read rfl rfl]
        simp only [Statement.reply]
        cases judge request body
          (Table.lookup Creator.handle cloud.database.creators body.handle) <;> rfl
      · simp only [hchain, not_false_eq_true, if_true]
        rfl

/-- The database and the records, as the request's own code sees them. -/
def Cloud.backend (cloud : Cloud) : Backend where
  database := cloud.database
  records := cloud.records

/-- A row is minted if it is composed and nothing is on record. -/
theorem mints_spec {request : QuestionRequest} {backend : Backend} {row : Question}
    (hmints : request.mints backend = some row) :
    request.compose backend.database.creators = .ok row ∧
      ∀ key, parseIdempotencyKey request.idempotencyKey = some key →
        recorded backend.records request.now request.asker key = none := by
  rw [QuestionRequest.mints] at hmints
  cases hcompose : request.compose backend.database.creators with
  | error failure =>
      rw [hcompose] at hmints
      cases hmints
  | ok composed =>
      rw [hcompose] at hmints
      cases hkey : parseIdempotencyKey request.idempotencyKey with
      | none =>
          rw [hkey] at hmints
          cases hmints
          exact ⟨rfl, by simp⟩
      | some key =>
          simp only [hkey] at hmints
          split at hmints
          · cases hmints
          · next hrecorded =>
            cases hmints
            refine ⟨rfl, ?_⟩
            rintro other ⟨⟩
            simpa using hrecorded

/-- Minting inserts the row; what follows succeeds and leaves the database alone. -/
theorem finish_mintOnce {cloud : Cloud} {request : QuestionRequest} {row : Question}
    (hfresh : ∀ key, parseIdempotencyKey request.idempotencyKey = some key →
      recorded cloud.records request.now request.asker key = none) :
    ∃ next : Text → Handler (Text × Bool),
      cloud.finish (mintOnce request row) =
        cloud.finish (query (.insertQuestion row) >>= fun created => next created.id) ∧
      ∀ id (middle : Cloud), ∃ after, middle.finish (next id) = (.ok (id, false), after) ∧
        after.database = middle.database := by
  rw [mintOnce]
  cases hkey : parseIdempotencyKey request.idempotencyKey with
  | none =>
      use fun id => .ret (id, false)
      refine ⟨?_, fun id middle => ⟨middle, rfl, rfl⟩⟩
      simp only [mint, bind_assoc]
      rfl
  | some key =>
      use fun id => call (.putRecord (storeKey request.asker key) request.now id
        IDEMPOTENCY_TTL_SECONDS) >>= fun _ => .ret (id, false)
      refine ⟨?_, fun id middle => ⟨_, rfl, rfl⟩⟩
      have hjoin : (cloud.records.get request.now
        (storeKey request.asker key)).join = none := hfresh key hkey
      have hserve : cloud.serve (.getRecord (storeKey request.asker key) request.now) =
          (cloud.records.get request.now (storeKey request.asker key), cloud) := rfl
      simp only
      rw [withIdempotency, Cloud.finish_call_bind, hserve]
      simp only [hjoin, mint, bind_assoc]
      rfl

end BuyAnAnswer.Workers
