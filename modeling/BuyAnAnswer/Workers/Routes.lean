import BuyAnAnswer.Api.Presenters
import BuyAnAnswer.Api.Questions
import BuyAnAnswer.Workers.Cloud

/-!
# The API's code

The routes of the API with everything they wait for.  A route that changes
something first counts the request against the caller's quota, and most routes
want a session.
-/

namespace BuyAnAnswer.Workers

open Text Shared Indexer WorkerKit Api BuyAnAnswer.Transaction

/-- A handler of the API. -/
abbrev Handler (A : Type) := Program workers Failure A

/-- A statement of a handler; a failed one is not expected. -/
def query (statement : Statement) : Handler statement.Reply :=
  sql (fun _ => .internal) statement

def refuse {A : Type} (status : ℕ) (code message : String) : Handler A :=
  .fail (.api { status, code, message })

/-- `new ApiError(404, "not_found")` -/
def notFound {A : Type} : Handler A := refuse 404 "not_found" "not_found"

/-! ## In front of the routes -/

structure RateLimitPolicy where
  namespacePrefix : String
  limit : ℕ
  windowSeconds : ℕ

namespace LIMITS

def handleClaim : RateLimitPolicy := ⟨"handle_claim", 8, 60⟩

def profileUpdate : RateLimitPolicy := ⟨"profile_update", 20, 60⟩

def questionCreate : RateLimitPolicy := ⟨"question_create", 20, 60⟩

def answerSave : RateLimitPolicy := ⟨"answer_save", 30, 60⟩

def questionPublish : RateLimitPolicy := ⟨"question_publish", 30, 60⟩

def avatarUpload : RateLimitPolicy := ⟨"avatar_upload", 10, 60⟩

end LIMITS

def TTL_SLACK_SECONDS : ℕ := 5

/-- Count a request against the window of `id`. -/
def consume {Failure : Type} (policy : RateLimitPolicy) (id : Text) (now : ℕ) :
    Program workers Failure RateLimitResult := do
  let bucket := now / policy.windowSeconds
  let key := "rl:".toList ++ policy.namespacePrefix.toList ++ [':'] ++ id ++
    [':'] ++ decimal bucket
  let current ← call (.getCounter key now)
  let count := current.join.getD 0 + 1
  call (.putCounter key now count (policy.windowSeconds + TTL_SLACK_SECONDS))
  return {
    allowed := count ≤ policy.limit, limit := policy.limit, count
    remaining := policy.limit - count
    resetSeconds := policy.windowSeconds - now % policy.windowSeconds }

/-- What a request brings along: the client's address, the session's wallet and
the time of its handling. -/
structure RequestContext where
  clientIp : Text
  wallet : Option Text
  now : ℕ

def requireAuth (context : RequestContext) : Handler Text :=
  match context.wallet with
  | none => refuse 401 "unauthorized" "sign in with your wallet first"
  | some wallet => return wallet

/-- The response to what a handler returns or throws. -/
def respond (rateLimit : Option RateLimitResult) (handler : Handler View) :
    Program workers Empty Response :=
  (do
    let view ← handler
    return { rateLimit, outcome := .ok view } : Handler Response).handle
    fun failure => return { rateLimit, outcome := .error failure }

/-- A route behind the rate limit. -/
def ipLimit (policy : RateLimitPolicy) (context : RequestContext)
    (handler : Handler View) : Program workers Empty Response := do
  let result ← consume policy context.clientIp context.now
  if result.allowed then respond (some result) handler
  else respond (some result) (.fail (.rateLimited result.resetSeconds))

/-! ## Questions -/

def mint (row : Question) : Handler Text := do
  let created ← query (.insertQuestion row)
  return created.id

/-- Run `mint` unless a result is recorded, and record what it returns. -/
def withIdempotency (scope key : Text) (now ttlSeconds : ℕ)
    (produce : Handler Text) : Handler (Text × Bool) := do
  let existing ← call (.getRecord (storeKey scope key) now)
  match existing.join with
  | some value => return (value, true)
  | none => do
    let value ← produce
    call (.putRecord (storeKey scope key) now value ttlSeconds)
    return (value, false)

/-- `POST /questions` -/
def postQuestions (request : QuestionRequest) : Handler (Text × Bool) := do
  let body ← .ofExcept (parseBody createQuestionBody request.body)
  let chainId := body.chainId.getD DEFAULT_CHAIN_ID
  if chainId ∉ ALLOWED_CHAIN_IDS then
    refuse 422 "unsupported_chain" "unsupported chain id"
  else do
    let creator ← query (.creatorByHandle body.handle)
    match creator with
    | none => refuse 404 "answerer_not_found" "no creator with that handle"
    | some creator =>
      match bigInt body.amountUsdc, bigInt creator.minPriceUsdc with
      | some amount, some minPrice =>
        if amount < minPrice then
          refuse 422 "amount_below_min"
            "amount is below the creator's minimum price"
        else
          let row := request.draft chainId creator body.body
          match parseIdempotencyKey request.idempotencyKey with
          | some key =>
            withIdempotency request.asker key request.now
              IDEMPOTENCY_TTL_SECONDS (mint row)
          | none => do
            let id ← mint row
            return (id, false)
      | _, _ => .fail .internal

/-- `GET /questions/received` and `GET /questions/asked` -/
def listQuestions (runtime : Runtime) (wallet : Text) (column : WalletColumn)
    (limit offset : Option Text) : Handler View := do
  let parameters ← .ofExcept (listQuery runtime limit offset)
  let rows ← query (.listQuestions column wallet (parameters.limit + 1)
    parameters.offset)
  return .page
    ((rows.take parameters.limit).map fun row => (presentQuestion row.1, row.2))
    parameters.limit parameters.offset (decide (parameters.limit < rows.length))

/-- `GET /questions/:id` -/
def getQuestion (wallet id : Text) : Handler View := do
  let question ← query (.questionById id)
  match question with
  | none => notFound
  | some question =>
    let isAsker := wallet = question.askerWallet
    let isAnswerer := wallet = question.answererWallet
    if ¬ isAsker ∧ ¬ isAnswerer then notFound
    else do
      let answer ← query (.answerFor id)
      let canSeeAnswerBody := question.status = .answered ∨ isAnswerer
      return .detail (presentQuestion question)
        (answer.map fun answer => presentAnswer answer (decide canSeeAnswerBody))

/-- `POST /questions/:id/publish` -/
def publishQuestion (wallet id : Text) (now : ℕ) : Handler View := do
  let question ← query (.questionById id)
  match question with
  | none => notFound
  | some question =>
    if wallet ≠ question.answererWallet then
      if wallet = question.askerWallet then
        refuse 403 "not_answerer" "only the answerer can publish this card"
      else notFound
    else if question.status ≠ .answered then
      refuse 409 "not_answered"
        "a question can only be published after it is answered"
    else do
      let updated ← query (.publishQuestion id now)
      match updated with
      | none => .fail .internal
      | some updated => return .question (presentQuestion updated)

/-- `GET /p/:id` -/
def getCard (id : Text) : Handler View := do
  let question ← query (.questionById id)
  match question with
  | none => notFound
  | some question =>
    if question.isPublic = false ∨ question.status ≠ .answered then notFound
    else do
      let answer ← query (.answerFor id)
      let creator ← query (.creatorByWallet question.answererWallet)
      return .card {
        id := question.id, body := question.body
        askerWallet := question.askerWallet, amountUsdc := question.amountUsdc
        answeredAt := answer.bind Answer.revealedAt
        createdAt := question.createdAt, answer := answer.map Answer.body
        creator := creator.map presentPublicCreator }

/-! ## Answers -/

/-- `POST /questions/:id/answer` -/
def postAnswer (wallet id : Text) (fields : RequestBody AnswerFields)
    (now : ℕ) : Handler View := do
  let body ← .ofExcept (parseBody answerBody fields)
  let question ← query (.questionById id)
  match question with
  | none => notFound
  | some question =>
    if wallet ≠ question.answererWallet then
      if wallet = question.askerWallet then
        refuse 403 "not_answerer" "only the answerer can answer this question"
      else notFound
    else if question.status = .answered then
      refuse 409 "answer_locked"
        "the answer is revealed and can no longer be edited"
    else do
      let saved ← query (.upsertAnswer {
        questionId := id, body, submittedAt := now, revealedAt := none
        updatedAt := now })
      return .answer (presentAnswer saved true)

/-! ## Profiles -/

/-- `GET /board/:handle` -/
def getBoard (raw : Text) : Handler View :=
  let handle := normalizeHandle raw
  if HANDLE_RE handle = false then notFound
  else do
    let creator ← query (.creatorByHandle handle)
    match creator with
    | none => notFound
    | some creator => return .board (presentPublicCreator creator)

/-- `GET /me` -/
def getMe (wallet : Text) : Handler View := do
  let creator ← query (.creatorByWallet wallet)
  return .me wallet (creator.map presentOwnerCreator)

/-- `POST /handle/claim` -/
def claimHandle (wallet : Text) (fields : RequestBody ClaimFields) (now : ℕ) :
    Handler View := do
  let body ← .ofExcept (parseBody claimBody fields)
  if isReservedHandle body.handle then
    refuse 409 "handle_reserved" "that handle is reserved"
  else do
    let existing ← query (.creatorByWallet wallet)
    match existing with
    | some _ => refuse 409 "already_claimed" "this wallet already has a profile"
    | none =>
      .await (.database (.insertCreator {
        wallet, handle := body.handle
        displayName := body.displayName.getD body.handle
        headline := none, bio := none, avatarUrl := none, links := none
        minPriceUsdc := body.minPriceUsdc.getD "1000000".toList
        createdAt := now, updatedAt := now })) fun
      | .ok created => return .claimed (presentOwnerCreator created)
      | .error .unique => refuse 409 "handle_taken" "that handle is taken"
      | .error _ => .fail .internal

/-- The caller's profile, which has to exist. -/
def ownProfile (wallet : Text) : Handler Creator := do
  let existing ← query (.creatorByWallet wallet)
  match existing with
  | none => refuse 404 "no_profile" "claim a handle first"
  | some existing => return existing

def updateProfile (wallet : Text) (patch : CreatorPatch) : Handler Creator := do
  let updated ← query (.updateCreator wallet patch)
  match updated with
  | none => .fail .internal
  | some updated => return presentOwnerCreator updated

/-- `PUT /profile` -/
def putProfile (runtime : Runtime) (wallet : Text)
    (fields : RequestBody ProfileFields) (now : ℕ) : Handler View := do
  let body ← .ofExcept (parseBody (profileBody runtime) fields)
  let _ ← ownProfile wallet
  let updated ← updateProfile wallet {
    displayName := body.displayName, headline := body.headline, bio := body.bio
    links := body.links, minPriceUsdc := body.minPriceUsdc, updatedAt := now }
  return .profile updated

def AVATAR_CONTENT_TYPES : List (String × String) :=
  [("image/png", "png"), ("image/jpeg", "jpg"), ("image/webp", "webp")]

def MAX_AVATAR_BYTES : ℕ := 5 * 1024 * 1024

/-- `value in AVATAR_CONTENT_TYPES`, which also finds inherited properties. -/
def isAvatarContentType (value : Text) : Bool :=
  (AVATAR_CONTENT_TYPES.map Prod.fst ++ ["constructor", "__proto__"]).any
    fun known => known.toList = value

/-- An uploaded image: its header, its length, the type its first bytes show, the
token drawn for it and where an object of the bucket is served. -/
structure AvatarUpload where
  contentType : Option Text
  byteLength : ℕ
  sniffed : Option Text
  token : Text
  objectUrl : Text → Text

/-- `POST /avatar` -/
def postAvatar (wallet : Text) (upload : AvatarUpload) (now : ℕ) :
    Handler View := do
  let declared := toLowerCase
    (trim ((upload.contentType.getD []).takeWhile fun char => char ≠ ';'))
  if isAvatarContentType declared = false then
    refuse 415 "unsupported_media_type"
      "avatar must be image/png, image/jpeg or image/webp"
  else if upload.byteLength = 0 then refuse 400 "empty_body" "no image bytes"
  else if MAX_AVATAR_BYTES < upload.byteLength then
    refuse 413 "file_too_large" "avatar must be ≤ 5 MB"
  else if upload.sniffed ≠ some declared then
    refuse 400 "invalid_image"
      "image bytes do not match the declared content type"
  else do
    let _ ← ownProfile wallet
    let extension := (AVATAR_CONTENT_TYPES.find? fun entry =>
      entry.1.toList = declared).elim [] fun entry => entry.2.toList
    let key := "avatars/".toList ++ wallet ++ ['/'] ++ upload.token.take 32 ++
      ['.'] ++ extension
    call (.putAvatar key)
    let updated ← updateProfile wallet {
      avatarUrl := some (upload.objectUrl key), updatedAt := now }
    return .avatar (upload.objectUrl key) updated

/-! ## Requests -/

inductive Request where
  | createQuestion (idempotencyKey : Option Text)
      (body : RequestBody QuestionFields) (uuid : Text)
  | received (limit offset : Option Text)
  | asked (limit offset : Option Text)
  | detail (id : Text)
  | publish (id : Text)
  | card (id : Text)
  | answer (id : Text) (body : RequestBody AnswerFields)
  | board (handle : Text)
  | me
  | claim (body : RequestBody ClaimFields)
  | profile (body : RequestBody ProfileFields)
  | avatar (upload : AvatarUpload)

/-- The handler of a request. -/
def handler (runtime : Runtime) (context : RequestContext) :
    Request → Handler View
  | .createQuestion idempotencyKey body uuid => do
    let asker ← requireAuth context
    let created ← postQuestions {
      asker, idempotencyKey, body, uuid, now := context.now }
    return .created created.1
  | .received limit offset => do
    let wallet ← requireAuth context
    listQuestions runtime wallet .answererWallet limit offset
  | .asked limit offset => do
    let wallet ← requireAuth context
    listQuestions runtime wallet .askerWallet limit offset
  | .detail id => do
    let wallet ← requireAuth context
    getQuestion wallet id
  | .publish id => do
    let wallet ← requireAuth context
    publishQuestion wallet id context.now
  | .card id => getCard id
  | .answer id body => do
    let wallet ← requireAuth context
    postAnswer wallet id body context.now
  | .board handle => getBoard handle
  | .me => do
    let wallet ← requireAuth context
    getMe wallet
  | .claim body => do
    let wallet ← requireAuth context
    claimHandle wallet body context.now
  | .profile body => do
    let wallet ← requireAuth context
    putProfile runtime wallet body context.now
  | .avatar upload => do
    let wallet ← requireAuth context
    postAvatar wallet upload context.now

/-- The rate limit in front of a route. -/
def limitOf : Request → Option RateLimitPolicy
  | .createQuestion _ _ _ => some LIMITS.questionCreate
  | .publish _ => some LIMITS.questionPublish
  | .answer _ _ => some LIMITS.answerSave
  | .claim _ => some LIMITS.handleClaim
  | .profile _ => some LIMITS.profileUpdate
  | .avatar _ => some LIMITS.avatarUpload
  | _ => none

/-- Handle one request. -/
def handleRequest (runtime : Runtime) (context : RequestContext)
    (request : Request) : Program workers Empty Response :=
  match limitOf request with
  | some policy => ipLimit policy context (handler runtime context request)
  | none => respond none (handler runtime context request)

/-! ## The operations of the API -/

/-- A question as the API inserts it. -/
structure IsDraft (row : Question) : Prop where
  status : row.status = .pendingPayment
  onchainId : row.onchainId = none
  amountUsdc : row.amountUsdc = none
  answerDeadline : row.answerDeadline = none
  isPublic : row.isPublic = false

/-- What the API does: its own statements and the key-value store.  Only one
route publishes. -/
def Operation.OfApi (publishes : Bool) : Operation → Prop
  | .database (.publishQuestion _ _) => publishes = true
  | .database (.insertQuestion row) => IsDraft row
  | .database (.upsertAnswer saved) => saved.revealedAt = none
  | .database (.openQuestion _ _ _ _) => False
  | .database (.settleQuestion _ _ _ _) => False
  | .database (.revealAnswer _ _) => False
  | .database (.deleteOrphans _ _) => False
  | .database _ => True
  | .getRecord _ _ => True
  | .putRecord _ _ _ _ => True
  | .getCounter _ _ => True
  | .putCounter _ _ _ _ => True
  | .putAvatar _ => True
  | _ => False

def Request.publishes : Request → Bool
  | .publish _ => true
  | _ => false

section Uses

variable {publishes : Bool}

theorem postQuestions_uses (request : QuestionRequest) :
    (postQuestions request).Uses (Operation.OfApi publishes) := by
  refine Program.Uses.bind (Program.uses_ofExcept _) ?_
  intro body
  simp only
  split
  · exact trivial
  · refine Program.Uses.bind (uses_sql trivial) ?_
    intro creator
    cases creator with
    | none => exact trivial
    | some creator =>
        simp only
        split
        · split
          · exact trivial
          · have hmint : (mint (request.draft
                (body.chainId.getD DEFAULT_CHAIN_ID) creator body.body)).Uses
                (Operation.OfApi publishes) :=
              Program.Uses.bind (uses_sql ⟨rfl, rfl, rfl, rfl, rfl⟩) fun _ => trivial
            split
            · refine Program.Uses.bind (uses_call trivial) ?_
              intro existing
              split
              · exact trivial
              · apply Program.Uses.bind hmint
                intro id
                exact Program.Uses.bind (uses_call trivial) fun _ => trivial
            · exact hmint.bind fun _ => trivial
        · exact trivial

theorem listQuestions_uses (runtime : Runtime) (wallet : Text)
    (column : WalletColumn) (limit offset : Option Text) :
    (listQuestions runtime wallet column limit offset).Uses (Operation.OfApi publishes) := by
  refine Program.Uses.bind (Program.uses_ofExcept _) ?_
  intro parameters
  exact Program.Uses.bind (uses_sql trivial) fun _ => trivial

theorem getQuestion_uses (wallet id : Text) :
    (getQuestion wallet id).Uses (Operation.OfApi publishes) := by
  refine Program.Uses.bind (uses_sql trivial) ?_
  intro question
  cases question with
  | none => exact trivial
  | some question =>
      simp only
      split
      · exact trivial
      · exact Program.Uses.bind (uses_sql trivial) fun _ => trivial

theorem publishQuestion_uses (wallet id : Text) (now : ℕ) :
    (publishQuestion wallet id now).Uses (Operation.OfApi true) := by
  refine Program.Uses.bind (uses_sql trivial) ?_
  intro question
  cases question with
  | none => exact trivial
  | some question =>
      simp only
      split
      · split <;> exact trivial
      · split
        · exact trivial
        · refine Program.Uses.bind (uses_sql rfl) ?_
          intro updated
          cases updated <;> exact trivial

theorem getCard_uses (id : Text) : (getCard id).Uses (Operation.OfApi publishes) := by
  refine Program.Uses.bind (uses_sql trivial) ?_
  intro question
  cases question with
  | none => exact trivial
  | some question =>
      simp only
      split
      · exact trivial
      · refine Program.Uses.bind (uses_sql trivial) ?_
        intro answer
        exact Program.Uses.bind (uses_sql trivial) fun _ => trivial

theorem postAnswer_uses (wallet id : Text) (fields : RequestBody AnswerFields)
    (now : ℕ) : (postAnswer wallet id fields now).Uses (Operation.OfApi publishes) := by
  refine Program.Uses.bind (Program.uses_ofExcept _) ?_
  intro body
  refine Program.Uses.bind (uses_sql trivial) ?_
  intro question
  cases question with
  | none => exact trivial
  | some question =>
      simp only
      split
      · split <;> exact trivial
      · split
        · exact trivial
        · exact Program.Uses.bind (uses_sql rfl) fun _ => trivial

theorem getBoard_uses (raw : Text) : (getBoard raw).Uses (Operation.OfApi publishes) := by
  rw [getBoard]
  split
  · exact trivial
  · refine Program.Uses.bind (uses_sql trivial) ?_
    intro creator
    cases creator <;> exact trivial

theorem claimHandle_uses (wallet : Text) (fields : RequestBody ClaimFields)
    (now : ℕ) : (claimHandle wallet fields now).Uses (Operation.OfApi publishes) := by
  refine Program.Uses.bind (Program.uses_ofExcept _) ?_
  intro body
  split
  · exact trivial
  · refine Program.Uses.bind (uses_sql trivial) ?_
    intro existing
    cases existing with
    | some existing => exact trivial
    | none =>
        refine ⟨trivial, ?_⟩
        intro reply
        cases reply with
        | ok created => exact trivial
        | error failure => cases failure <;> exact trivial

theorem ownProfile_uses (wallet : Text) :
    (ownProfile wallet).Uses (Operation.OfApi publishes) := by
  refine Program.Uses.bind (uses_sql trivial) ?_
  intro existing
  cases existing <;> exact trivial

theorem updateProfile_uses (wallet : Text) (patch : CreatorPatch) :
    (updateProfile wallet patch).Uses (Operation.OfApi publishes) := by
  refine Program.Uses.bind (uses_sql trivial) ?_
  intro updated
  cases updated <;> exact trivial

theorem putProfile_uses (runtime : Runtime) (wallet : Text)
    (fields : RequestBody ProfileFields) (now : ℕ) :
    (putProfile runtime wallet fields now).Uses (Operation.OfApi publishes) := by
  refine Program.Uses.bind (Program.uses_ofExcept _) ?_
  intro body
  apply Program.Uses.bind (ownProfile_uses wallet)
  intro _
  exact (updateProfile_uses wallet _).bind fun _ => trivial

theorem postAvatar_uses (wallet : Text) (upload : AvatarUpload) (now : ℕ) :
    (postAvatar wallet upload now).Uses (Operation.OfApi publishes) := by
  rw [postAvatar]
  simp only
  split
  · exact trivial
  · split
    · exact trivial
    · split
      · exact trivial
      · split
        · exact trivial
        · apply Program.Uses.bind (ownProfile_uses wallet)
          intro _
          refine Program.Uses.bind (uses_call trivial) ?_
          intro _
          exact (updateProfile_uses wallet _).bind fun _ => trivial

theorem requireAuth_uses (context : RequestContext) :
    (requireAuth context).Uses (Operation.OfApi publishes) := by
  rw [requireAuth]
  cases context.wallet <;> exact trivial

theorem handler_uses (runtime : Runtime) (context : RequestContext)
    (request : Request) :
    (handler runtime context request).Uses
      (Operation.OfApi request.publishes) := by
  cases request with
  | createQuestion idempotencyKey body uuid =>
      apply (requireAuth_uses context).bind
      intro asker
      exact (postQuestions_uses _).bind fun _ => trivial
  | received limit offset =>
      exact (requireAuth_uses context).bind fun wallet =>
        listQuestions_uses runtime wallet _ limit offset
  | asked limit offset =>
      exact (requireAuth_uses context).bind fun wallet =>
        listQuestions_uses runtime wallet _ limit offset
  | detail id =>
      exact (requireAuth_uses context).bind fun wallet => getQuestion_uses wallet id
  | publish id =>
      exact (requireAuth_uses context).bind fun wallet =>
        publishQuestion_uses wallet id context.now
  | card id => exact getCard_uses id
  | answer id body =>
      exact (requireAuth_uses context).bind fun wallet =>
        postAnswer_uses wallet id body context.now
  | board handle => exact getBoard_uses handle
  | me =>
      exact (requireAuth_uses context).bind fun _ =>
        Program.Uses.bind (uses_sql trivial) fun _ => trivial
  | claim body =>
      exact (requireAuth_uses context).bind fun wallet =>
        claimHandle_uses wallet body context.now
  | profile body =>
      exact (requireAuth_uses context).bind fun wallet =>
        putProfile_uses runtime wallet body context.now
  | avatar upload =>
      exact (requireAuth_uses context).bind fun wallet =>
        postAvatar_uses wallet upload context.now

theorem respond_uses {rateLimit : Option RateLimitResult} {handler : Handler View}
    (hhandler : handler.Uses (Operation.OfApi publishes)) :
    (respond rateLimit handler).Uses (Operation.OfApi publishes) :=
  Program.Uses.handle (Program.Uses.bind hhandler fun _ => trivial) fun _ => trivial

theorem handleRequest_uses (runtime : Runtime) (context : RequestContext)
    (request : Request) :
    (handleRequest runtime context request).Uses
      (Operation.OfApi request.publishes) := by
  rw [handleRequest]
  cases limitOf request with
  | none => exact respond_uses (handler_uses runtime context request)
  | some policy =>
      have hconsume : (consume policy context.clientIp context.now :
          Program workers Empty _).Uses (Operation.OfApi request.publishes) :=
        Program.Uses.bind (uses_call trivial) fun _ =>
          Program.Uses.bind (uses_call trivial) fun _ => trivial
      apply hconsume.bind
      intro result
      split
      · exact respond_uses (handler_uses runtime context request)
      · exact respond_uses trivial

end Uses

end BuyAnAnswer.Workers
