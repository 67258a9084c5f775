import BuyAnAnswer.Core.Conduct
import BuyAnAnswer.Workers.RateLimit
import BuyAnAnswer.Workers.Validation

/-!
# The footprint of a route

Which statements a route runs, for which rows, and what it refuses with: most rows are
those that its path, its body or its session name.  Only questions are minted under a
recorded key, only the avatar route writes to the bucket, and only limited routes
count.
-/

namespace BuyAnAnswer.Workers

open Text Shared Indexer WorkerKit Api BuyAnAnswer.Transaction

/-- A row as `POST /handle/claim` inserts it. -/
structure ClaimedBy (context : RequestContext) (fields : RequestBody ClaimFields)
    (row : Creator) : Prop where
  wallet : context.wallet = some row.wallet
  createdAt : row.createdAt = context.now
  handle : ∃ body, parseBody claimBody fields = .ok body ∧ row.handle = body.handle
  free : isReservedHandle row.handle = false
  price : (bigInt row.minPriceUsdc).isSome = true

/-- An edit of the caller's profile. -/
structure PatchedBy (context : RequestContext) (wallet : Text) (patch : CreatorPatch) :
    Prop where
  wallet : context.wallet = some wallet
  price : ∀ price ∈ patch.minPriceUsdc, (bigInt price).isSome = true

theorem IsPrice.parses {price : Text} (hprice : IsPrice price) :
    (bigInt price).isSome = true := by
  rw [bigInt_digits hprice.nonempty hprice.digits]
  rfl

namespace Request

/-- The statements that a route runs. -/
def Runs (context : RequestContext) : Request → Statement → Prop
  | .createQuestion _ _ _, .creatorByHandle _ => True
  | .createQuestion _ _ uuid, .insertQuestion row =>
    IsDraft row ∧ row.id = uuid ∧ context.wallet = some row.askerWallet
  | .received _ _, .listQuestions column wallet _ _ =>
    column = .answererWallet ∧ context.wallet = some wallet
  | .asked _ _, .listQuestions column wallet _ _ =>
    column = .askerWallet ∧ context.wallet = some wallet
  | .detail id, .questionById target => target = id
  | .detail id, .answerFor target => target = id
  | .publish id, .questionById target => target = id
  | .publish id, .publishQuestion target _ => target = id
  | .card id, .questionById target => target = id
  | .card id, .answerFor target => target = id
  | .card _, .creatorByWallet _ => True
  | .answer id _, .questionById target => target = id
  | .answer id _, .upsertAnswer saved => saved.questionId = id ∧ saved.revealedAt = none
  | .board raw, .creatorByHandle target => target = normalizeHandle raw
  | .me, .creatorByWallet wallet => context.wallet = some wallet
  | .claim _, .creatorByWallet wallet => context.wallet = some wallet
  | .claim fields, .insertCreator row => ClaimedBy context fields row
  | .profile _, .creatorByWallet wallet => context.wallet = some wallet
  | .profile _, .updateCreator wallet patch => PatchedBy context wallet patch
  | .avatar _, .creatorByWallet wallet => context.wallet = some wallet
  | .avatar _, .updateCreator wallet patch => PatchedBy context wallet patch
  | _, _ => False

/-- The operations of a handler. -/
def Handles (context : RequestContext) (request : Request) : Operation → Prop
  | .database statement => request.Runs context statement
  | .getRecord _ _ => ∃ key body uuid, request = .createQuestion key body uuid
  | .putRecord _ _ _ _ => ∃ key body uuid, request = .createQuestion key body uuid
  | .putAvatar _ => ∃ upload, request = .avatar upload
  | _ => False

/-- The counter that a request is charged to. -/
def counter (context : RequestContext) (request : Request) : Option Text :=
  (limitOf request).map fun policy =>
    counterKey policy context.clientIp (context.now / policy.windowSeconds)

/-- The operations of a route. -/
def Performs (context : RequestContext) (request : Request) : Operation → Prop
  | .getCounter key _ => request.counter context = some key
  | .putCounter key _ _ _ => request.counter context = some key
  | operation => request.Handles context operation

/-- The refusals of a route, by status and code. -/
def refusals : Request → List (ℕ × String)
  | .createQuestion _ _ _ =>
    [(401, "unauthorized"), (400, "invalid_json"), (422, "unsupported_chain"),
      (404, "answerer_not_found"), (422, "amount_below_min")]
  | .received _ _ | .asked _ _ | .me => [(401, "unauthorized")]
  | .detail _ => [(401, "unauthorized"), (404, "not_found")]
  | .publish _ =>
    [(401, "unauthorized"), (404, "not_found"), (403, "not_answerer"),
      (409, "not_answered")]
  | .card _ | .board _ => [(404, "not_found")]
  | .answer _ _ =>
    [(401, "unauthorized"), (400, "invalid_json"), (404, "not_found"),
      (403, "not_answerer"), (409, "answer_locked")]
  | .claim _ =>
    [(401, "unauthorized"), (400, "invalid_json"), (409, "handle_reserved"),
      (409, "already_claimed"), (409, "handle_taken")]
  | .profile _ => [(401, "unauthorized"), (400, "invalid_json"), (404, "no_profile")]
  | .avatar _ =>
    [(401, "unauthorized"), (415, "unsupported_media_type"), (400, "empty_body"),
      (413, "file_too_large"), (400, "invalid_image"), (404, "no_profile")]

/-- Whether a route validates input. -/
def validates : Request → Bool
  | .createQuestion _ _ _ | .received _ _ | .asked _ _ => true
  | .answer _ _ | .claim _ | .profile _ => true
  | _ => false

/-- What the handler of a route fails with. -/
def Refuses (request : Request) : Failure → Prop
  | .api error => (error.status, error.code) ∈ request.refusals
  | .validation _ => request.validates = true
  | .internal => True
  | .rateLimited _ => False

end Request

/-! ## Input that is refused -/

/-- A schema finds issues, or one of its refinements throws. -/
def OfSchema : Failure → Prop
  | .validation _ => True
  | .internal => True
  | _ => False

section Schemas

variable {failure : Failure}

theorem optionalMinPrice_error {field : Option JsonValue}
    (hfailed : optionalMinPrice field = .error failure) : failure = .internal := by
  cases field with
  | none => cases hfailed
  | some value =>
      cases hprice : minPriceSchema (some value) with
      | ok parsed =>
          rw [optionalMinPrice, hprice] at hfailed
          cases hfailed
      | error thrown =>
          rw [optionalMinPrice, hprice] at hfailed
          cases hfailed
          cases value with
          | string text =>
              rw [minPriceSchema] at hprice
              split at hprice
              · cases hprice
                rfl
              · cases hprice
          | _ => cases hprice

theorem amountUsdcSchema_error {field : Option JsonValue}
    (hfailed : amountUsdcSchema field = .error failure) : failure = .internal := by
  cases field with
  | none => cases hfailed
  | some value =>
      cases value with
      | string text =>
          simp only [amountUsdcSchema] at hfailed
          split at hfailed
          · split at hfailed <;> cases hfailed
            rfl
          · cases hfailed
      | _ => cases hfailed

theorem claimBody_error {fields : ClaimFields}
    (hfailed : claimBody fields = .error failure) : OfSchema failure := by
  rw [claimBody] at hfailed
  cases hprice : optionalMinPrice fields.minPriceUsdc with
  | error thrown =>
      rw [hprice] at hfailed
      cases hfailed
      cases optionalMinPrice_error hprice
      exact trivial
  | ok price =>
      rw [hprice] at hfailed
      simp only [bind, Except.bind] at hfailed
      split at hfailed <;> cases hfailed
      exact trivial

theorem profileBody_error {runtime : Runtime} {fields : ProfileFields}
    (hfailed : profileBody runtime fields = .error failure) : OfSchema failure := by
  rw [profileBody] at hfailed
  cases hprice : optionalMinPrice fields.minPriceUsdc with
  | error thrown =>
      rw [hprice] at hfailed
      cases hfailed
      cases optionalMinPrice_error hprice
      exact trivial
  | ok price =>
      rw [hprice] at hfailed
      simp only [bind, Except.bind] at hfailed
      split at hfailed <;> cases hfailed
      exact trivial

theorem createQuestionBody_error {fields : QuestionFields}
    (hfailed : createQuestionBody fields = .error failure) : OfSchema failure := by
  rw [createQuestionBody] at hfailed
  cases hamount : amountUsdcSchema fields.amountUsdc with
  | error thrown =>
      rw [hamount] at hfailed
      cases hfailed
      cases amountUsdcSchema_error hamount
      exact trivial
  | ok amount =>
      rw [hamount] at hfailed
      simp only [bind, Except.bind] at hfailed
      split at hfailed <;> cases hfailed
      exact trivial

theorem answerBody_error {fields : AnswerFields}
    (hfailed : answerBody fields = .error failure) : OfSchema failure := by
  rw [answerBody] at hfailed
  split at hfailed <;> cases hfailed
  exact trivial

theorem listQuery_error {runtime : Runtime} {limit offset : Option Text}
    (hfailed : listQuery runtime limit offset = .error failure) : OfSchema failure := by
  rw [listQuery] at hfailed
  split at hfailed <;> cases hfailed
  exact trivial

variable {request : Request}

theorem OfSchema.refuses (hvalidates : request.validates = true)
    (hfailure : OfSchema failure) : request.Refuses failure := by
  cases failure with
  | validation issues => exact hvalidates
  | internal => exact trivial
  | api | rateLimited => cases hfailure

theorem parseBody_refuses {Fields Body : Type} {schema : Fields → Except Failure Body}
    {fields : RequestBody Fields} (hvalidates : request.validates = true)
    (hjson : (400, "invalid_json") ∈ request.refusals)
    (hschema : ∀ fields failure, schema fields = .error failure → OfSchema failure)
    (hfailed : parseBody schema fields = .error failure) : request.Refuses failure := by
  cases fields with
  | malformed =>
      cases hfailed
      exact hjson
  | notObject =>
      cases hfailed
      exact hvalidates
  | object fields => exact OfSchema.refuses hvalidates (hschema fields failure hfailed)

end Schemas

/-! ## Every route -/

section Rules

variable {Permitted : Operation → Prop} {request : Request} {A : Type}

theorem obeys_query {statement : Statement}
    (hpermitted : Permitted (.database statement)) :
    (query statement).Obeys Permitted request.Refuses := by
  refine ⟨hpermitted, ?_⟩
  intro reply
  cases reply <;> exact trivial

theorem obeys_call {operation : Operation} (hpermitted : Permitted operation) :
    (call operation : Handler _).Obeys Permitted request.Refuses :=
  ⟨hpermitted, fun _ => trivial⟩

theorem obeys_requireAuth {context : RequestContext} {next : Text → Handler A}
    (hsession : (401, "unauthorized") ∈ request.refusals)
    (hnext : ∀ wallet, context.wallet = some wallet →
      (next wallet).Obeys Permitted request.Refuses) :
    (requireAuth context >>= next).Obeys Permitted request.Refuses := by
  rw [requireAuth]
  cases hwallet : context.wallet with
  | none => exact hsession
  | some wallet => exact hnext wallet hwallet

variable {wallet : Text}

theorem obeys_ownProfile {next : Creator → Handler A}
    (hread : Permitted (.database (.creatorByWallet wallet)))
    (hmissing : (404, "no_profile") ∈ request.refusals)
    (hnext : ∀ row, (next row).Obeys Permitted request.Refuses) :
    (ownProfile wallet >>= next).Obeys Permitted request.Refuses := by
  refine Program.Obeys.bind (Program.Obeys.bind (obeys_query hread) ?_) hnext
  intro existing
  cases existing with
  | none => exact hmissing
  | some existing => exact trivial

theorem obeys_updateProfile {patch : CreatorPatch} {next : Creator → Handler A}
    (hwrite : Permitted (.database (.updateCreator wallet patch)))
    (hnext : ∀ row, (next row).Obeys Permitted request.Refuses) :
    (updateProfile wallet patch >>= next).Obeys Permitted request.Refuses := by
  refine Program.Obeys.bind (Program.Obeys.bind (obeys_query hwrite) ?_) hnext
  intro updated
  cases updated <;> exact trivial

end Rules

section Routes

variable {context : RequestContext} {wallet : Text}

theorem obeys_mint {key : Option Text} {body : RequestBody QuestionFields} {uuid : Text}
    {row : Question} (hdraft : IsDraft row) (hid : row.id = uuid)
    (hasker : context.wallet = some row.askerWallet) :
    (mint row).Obeys ((Request.createQuestion key body uuid).Handles context)
      (Request.createQuestion key body uuid).Refuses :=
  Program.Obeys.bind (obeys_query ⟨hdraft, hid, hasker⟩) fun _ => trivial

theorem obeys_postQuestions {key : Option Text} {body : RequestBody QuestionFields}
    {uuid : Text} (hwallet : context.wallet = some wallet) :
    (postQuestions {
      asker := wallet, idempotencyKey := key, body, uuid, now := context.now }).Obeys
        ((Request.createQuestion key body uuid).Handles context)
        (Request.createQuestion key body uuid).Refuses := by
  have hparse : ∀ failure, parseBody createQuestionBody body = .error failure →
      (Request.createQuestion key body uuid).Refuses failure := fun _ =>
    parseBody_refuses rfl (.tail _ (.head _)) fun _ _ => createQuestionBody_error
  refine Program.Obeys.bind (Program.obeys_ofExcept hparse) ?_
  intro parsed
  simp only
  split
  · exact .tail _ (.tail _ (.head _))
  · refine Program.Obeys.bind (obeys_query trivial) ?_
    intro creator
    cases creator with
    | none => exact .tail _ (.tail _ (.tail _ (.head _)))
    | some creator =>
        simp only
        split
        · split
          · exact .tail _ (.tail _ (.tail _ (.tail _ (.head _))))
          · split
            · refine Program.Obeys.bind (obeys_call ⟨key, body, uuid, rfl⟩) ?_
              intro existing
              split
              · exact trivial
              · apply Program.Obeys.bind
                  (obeys_mint ⟨rfl, rfl, rfl, rfl, rfl⟩ rfl hwallet)
                intro id
                exact Program.Obeys.bind (obeys_call ⟨key, body, uuid, rfl⟩)
                  fun _ => trivial
            · exact (obeys_mint ⟨rfl, rfl, rfl, rfl, rfl⟩ rfl hwallet).bind
                fun _ => trivial
        · exact trivial

theorem obeys_listQuestions {request : Request} (runtime : Runtime)
    {column : WalletColumn} (limit offset : Option Text)
    (hvalidates : request.validates = true)
    (hlist : ∀ most skipped,
      request.Runs context (.listQuestions column wallet most skipped)) :
    (listQuestions runtime wallet column limit offset).Obeys (request.Handles context)
      request.Refuses := by
  refine Program.Obeys.bind (Program.obeys_ofExcept fun _ hfailed =>
    OfSchema.refuses hvalidates (listQuery_error hfailed)) ?_
  intro parameters
  exact Program.Obeys.bind (obeys_query (hlist _ _)) fun _ => trivial

theorem obeys_getQuestion (id : Text) :
    (getQuestion wallet id).Obeys ((Request.detail id).Handles context)
      (Request.detail id).Refuses := by
  refine Program.Obeys.bind (obeys_query rfl) ?_
  intro question
  cases question with
  | none => exact .tail _ (.head _)
  | some question =>
      simp only
      split
      · exact .tail _ (.head _)
      · exact Program.Obeys.bind (obeys_query rfl) fun _ => trivial

theorem obeys_publishQuestion (id : Text) (now : ℕ) :
    (publishQuestion wallet id now).Obeys ((Request.publish id).Handles context)
      (Request.publish id).Refuses := by
  refine Program.Obeys.bind (obeys_query rfl) ?_
  intro question
  cases question with
  | none => exact .tail _ (.head _)
  | some question =>
      simp only
      split
      · split
        · exact .tail _ (.tail _ (.head _))
        · exact .tail _ (.head _)
      · split
        · exact .tail _ (.tail _ (.tail _ (.head _)))
        · refine Program.Obeys.bind (obeys_query rfl) ?_
          intro updated
          cases updated <;> exact trivial

theorem obeys_getCard (id : Text) :
    (getCard id).Obeys ((Request.card id).Handles context) (Request.card id).Refuses := by
  refine Program.Obeys.bind (obeys_query rfl) ?_
  intro question
  cases question with
  | none => exact .head _
  | some question =>
      simp only
      split
      · exact .head _
      · refine Program.Obeys.bind (obeys_query rfl) ?_
        intro answer
        exact Program.Obeys.bind (obeys_query trivial) fun _ => trivial

theorem obeys_postAnswer (id : Text) (fields : RequestBody AnswerFields) (now : ℕ) :
    (postAnswer wallet id fields now).Obeys ((Request.answer id fields).Handles context)
      (Request.answer id fields).Refuses := by
  have hparse : ∀ failure, parseBody answerBody fields = .error failure →
      (Request.answer id fields).Refuses failure := fun _ =>
    parseBody_refuses rfl (.tail _ (.head _)) fun _ _ => answerBody_error
  refine Program.Obeys.bind (Program.obeys_ofExcept hparse) ?_
  intro body
  refine Program.Obeys.bind (obeys_query rfl) ?_
  intro question
  cases question with
  | none => exact .tail _ (.tail _ (.head _))
  | some question =>
      simp only
      split
      · split
        · exact .tail _ (.tail _ (.tail _ (.head _)))
        · exact .tail _ (.tail _ (.head _))
      · split
        · exact .tail _ (.tail _ (.tail _ (.tail _ (.head _))))
        · exact Program.Obeys.bind (obeys_query ⟨rfl, rfl⟩) fun _ => trivial

theorem obeys_getBoard (raw : Text) :
    (getBoard raw).Obeys ((Request.board raw).Handles context)
      (Request.board raw).Refuses := by
  rw [getBoard]
  split
  · exact .head _
  · refine Program.Obeys.bind (obeys_query rfl) ?_
    intro creator
    cases creator with
    | none => exact .head _
    | some creator => exact trivial

theorem obeys_claimHandle (fields : RequestBody ClaimFields)
    (hwallet : context.wallet = some wallet) :
    (claimHandle wallet fields context.now).Obeys ((Request.claim fields).Handles context)
      (Request.claim fields).Refuses := by
  rw [claimHandle]
  cases hparsed : parseBody claimBody fields with
  | error failure =>
      exact parseBody_refuses rfl (.tail _ (.head _)) (fun _ _ => claimBody_error) hparsed
  | ok body =>
      change Program.Obeys _ _ (if isReservedHandle body.handle = true then _ else _)
      split
      · exact .tail _ (.tail _ (.head _))
      · next hfree =>
        refine Program.Obeys.bind (obeys_query hwallet) ?_
        intro existing
        cases existing with
        | some existing => exact .tail _ (.tail _ (.tail _ (.head _)))
        | none =>
            obtain ⟨_, hschema⟩ := parsed_object hparsed
            have hprice : (bigInt (body.minPriceUsdc.getD "1000000".toList)).isSome =
                true := by
              cases hgiven : body.minPriceUsdc with
              | none => decide
              | some price => exact ((claimBody_accepted hschema).price price hgiven).parses
            refine ⟨⟨hwallet, rfl, ⟨body, hparsed, rfl⟩, ?_, hprice⟩, ?_⟩
            · exact eq_false_of_ne_true hfree
            · intro reply
              cases reply with
              | ok created => exact trivial
              | error failure =>
                  cases failure with
                  | unique => exact .tail _ (.tail _ (.tail _ (.tail _ (.head _))))
                  | constraint | mismatch => exact trivial

theorem obeys_putProfile (runtime : Runtime) (fields : RequestBody ProfileFields)
    (hwallet : context.wallet = some wallet) :
    (putProfile runtime wallet fields context.now).Obeys
      ((Request.profile fields).Handles context) (Request.profile fields).Refuses := by
  rw [putProfile]
  cases hparsed : parseBody (profileBody runtime) fields with
  | error failure =>
      exact parseBody_refuses rfl (.tail _ (.head _)) (fun _ _ => profileBody_error) hparsed
  | ok body =>
      obtain ⟨_, hschema⟩ := parsed_object hparsed
      refine obeys_ownProfile hwallet (.tail _ (.tail _ (.head _))) ?_
      intro _
      refine obeys_updateProfile ⟨hwallet, ?_⟩ fun _ => trivial
      exact fun price hprice => ((profileBody_accepted hschema).price price hprice).parses

theorem obeys_postAvatar (upload : AvatarUpload) (hwallet : context.wallet = some wallet) :
    (postAvatar wallet upload context.now).Obeys ((Request.avatar upload).Handles context)
      (Request.avatar upload).Refuses := by
  rw [postAvatar]
  simp only
  split
  · exact .tail _ (.head _)
  · split
    · exact .tail _ (.tail _ (.head _))
    · split
      · exact .tail _ (.tail _ (.tail _ (.head _)))
      · split
        · exact .tail _ (.tail _ (.tail _ (.tail _ (.head _))))
        · refine obeys_ownProfile hwallet
            (.tail _ (.tail _ (.tail _ (.tail _ (.tail _ (.head _)))))) ?_
          intro _
          refine Program.Obeys.bind (obeys_call ⟨upload, rfl⟩) ?_
          intro _
          exact obeys_updateProfile ⟨hwallet, by simp⟩ fun _ => trivial

/-- A handler keeps to the footprint of its route and to its refusals. -/
theorem obeys_handler (runtime : Runtime) (context : RequestContext) (request : Request) :
    (handler runtime context request).Obeys (request.Handles context)
      request.Refuses := by
  cases request with
  | createQuestion key body uuid =>
      apply obeys_requireAuth (.head _)
      intro asker hwallet
      exact (obeys_postQuestions hwallet).bind fun _ => trivial
  | received limit offset =>
      apply obeys_requireAuth (.head _)
      intro wallet hwallet
      exact obeys_listQuestions runtime limit offset rfl fun _ _ => ⟨rfl, hwallet⟩
  | asked limit offset =>
      apply obeys_requireAuth (.head _)
      intro wallet hwallet
      exact obeys_listQuestions runtime limit offset rfl fun _ _ => ⟨rfl, hwallet⟩
  | detail id => exact obeys_requireAuth (.head _) fun _ _ => obeys_getQuestion id
  | publish id =>
      exact obeys_requireAuth (.head _) fun _ _ => obeys_publishQuestion id context.now
  | card id => exact obeys_getCard id
  | answer id body =>
      exact obeys_requireAuth (.head _) fun _ _ => obeys_postAnswer id body context.now
  | board raw => exact obeys_getBoard raw
  | me =>
      apply obeys_requireAuth (.head _)
      intro wallet hwallet
      exact Program.Obeys.bind (obeys_query hwallet) fun _ => trivial
  | claim fields => exact obeys_requireAuth (.head _) fun _ => obeys_claimHandle fields
  | profile fields =>
      exact obeys_requireAuth (.head _) fun _ => obeys_putProfile runtime fields
  | avatar upload => exact obeys_requireAuth (.head _) fun _ => obeys_postAvatar upload

theorem Request.Handles.performs {request : Request} {operation : Operation}
    (hhandles : request.Handles context operation) :
    request.Performs context operation := by
  cases operation with
  | getCounter | putCounter => cases hhandles
  | _ => exact hhandles

theorem respond_performs {rateLimit : Option RateLimitResult} {handler : Handler View}
    {Permitted : Operation → Prop} (hhandler : handler.Uses Permitted) :
    (respond rateLimit handler).Uses Permitted :=
  Program.Uses.handle (Program.Uses.bind hhandler fun _ => trivial) fun _ => trivial

/-- A request keeps to the footprint of its route. -/
theorem handleRequest_performs (runtime : Runtime) (context : RequestContext)
    (request : Request) :
    (handleRequest runtime context request).Uses (request.Performs context) := by
  have hhandler : (handler runtime context request).Uses (request.Performs context) :=
    (obeys_handler runtime context request).uses.mono fun _ => Request.Handles.performs
  rw [handleRequest]
  cases hlimit : limitOf request with
  | none => exact respond_performs hhandler
  | some policy =>
      have hcounter : request.counter context = some (counterKey policy context.clientIp
          (context.now / policy.windowSeconds)) := by
        rw [Request.counter, hlimit]
        rfl
      have hconsume : (consume policy context.clientIp context.now :
          Program workers Empty _).Uses (request.Performs context) :=
        Program.Uses.bind (uses_call hcounter) fun _ =>
          Program.Uses.bind (uses_call hcounter) fun _ => trivial
      apply hconsume.bind
      intro result
      split
      · exact respond_performs hhandler
      · exact respond_performs trivial

end Routes

end BuyAnAnswer.Workers
