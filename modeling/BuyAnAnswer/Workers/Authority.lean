import BuyAnAnswer.Workers.Nonces
import BuyAnAnswer.Workers.Validation

/-!
# The authority of a session

A request changes the tables in one of few ways, and each of them is up to the
wallet of its session: the wallet's own profile, a question it asks, and the
publication and the answer of a question that was put to it.  A request that is
refused changes nothing.
-/

namespace BuyAnAnswer.Workers

open Text Shared WorkerKit Api BuyAnAnswer.Transaction

/-- What a request of `wallet` may make of the tables. -/
inductive Authorized (wallet : Text) (before : Tables) : Tables → Prop where
  | nothing : Authorized wallet before before
  | claims {row : Creator} (hwallet : row.wallet = wallet) :
    Authorized wallet before { before with creators := before.creators ++ [row] }
  | edits (patch : CreatorPatch) :
    Authorized wallet before { before with
      creators :=
        Table.update (fun row => row.wallet = wallet) patch.apply before.creators }
  | asks {row : Question} (hasker : row.askerWallet = wallet)
    (hanswerer : row.answererWallet ∈ before.creators.map Creator.wallet) :
    Authorized wallet before { before with questions := before.questions ++ [row] }
  | publishes {id : Text} {question : Question} (now : ℕ)
    (hquestion : Table.lookup Question.id before.questions id = some question)
    (hanswerer : question.answererWallet = wallet)
    (hstatus : question.status = .answered) :
    Authorized wallet before { before with
      questions :=
        Table.update (fun row => row.id = id) (Statement.publish now) before.questions }
  | answers {row : Answer} {question : Question}
    (hquestion : Table.lookup Question.id before.questions row.questionId = some question)
    (hanswerer : question.answererWallet = wallet)
    (hstatus : question.status ≠ .answered) :
    Authorized wallet before { before with
      answers := Statement.upsert row before.answers }

/-- The rows that are none of the wallet's business are the same; only a question that
the wallet puts to a creator is new. -/
structure Untouched (wallet : Text) (before after : Tables) : Prop where
  creators : ∀ key, key ≠ wallet →
    Table.lookup Creator.wallet after.creators key =
      Table.lookup Creator.wallet before.creators key
  questions : ∀ id question, Table.lookup Question.id before.questions id = some question →
    question.answererWallet ≠ wallet →
    Table.lookup Question.id after.questions id = some question
  asked : ∀ id question, Table.lookup Question.id before.questions id = none →
    Table.lookup Question.id after.questions id = some question →
    question.askerWallet = wallet ∧
      question.answererWallet ∈ before.creators.map Creator.wallet
  answers : ∀ id, (∀ question, Table.lookup Question.id before.questions id =
      some question → question.answererWallet ≠ wallet) →
    Table.lookup Answer.questionId after.answers id =
      Table.lookup Answer.questionId before.answers id

theorem Untouched.refl (wallet : Text) (tables : Tables) : Untouched wallet tables tables where
  creators := fun _ _ => rfl
  questions := fun _ _ hquestion _ => hquestion
  asked := fun _ _ hnone hsome => by rw [hnone] at hsome; cases hsome
  answers := fun _ _ => rfl

theorem Authorized.untouched {wallet : Text} {before after : Tables}
    (hauthorized : Authorized wallet before after) : Untouched wallet before after := by
  have hsame := Untouched.refl wallet before
  cases hauthorized with
  | nothing => exact hsame
  | claims hwallet =>
      refine { hsame with creators := ?_ }
      intro key hkey
      rw [Table.lookup_append, if_neg (hwallet ▸ hkey.symm), Option.or_none]
  | edits patch =>
      have hkeeps : ∀ row, (patch.apply row).wallet = row.wallet := fun _ => rfl
      refine { hsame with creators := ?_ }
      intro key hkey
      rw [Table.lookup_update hkeeps]
      cases hrow : Table.lookup Creator.wallet before.creators key with
      | none => rfl
      | some row => simp [Table.lookup_key hrow, hkey]
  | asks hasker hanswerer =>
      refine { hsame with questions := ?_, asked := ?_ }
      · intro id question hquestion _
        rw [Table.lookup_append, hquestion, Option.some_or]
      · intro id question hnone hsome
        rw [Table.lookup_append, hnone, Option.none_or] at hsome
        split at hsome
        · cases hsome
          exact ⟨hasker, hanswerer⟩
        · cases hsome
  | @publishes target published now hpublished hanswerer hstatus =>
      have hkeeps : ∀ row, (Statement.publish now row).id = row.id := fun _ => rfl
      refine { hsame with questions := ?_, asked := ?_ }
      · intro id question hquestion hother
        have hne : question.id ≠ target := by
          intro hid
          rw [← Table.lookup_key hquestion, hid, hpublished] at hquestion
          cases hquestion
          exact hother hanswerer
        rw [Table.lookup_update hkeeps, hquestion]
        simp [hne]
      · intro id question hnone hsome
        rw [Table.lookup_update hkeeps, hnone] at hsome
        cases hsome
  | @answers saved question hquestion hanswerer hstatus =>
      refine { hsame with answers := ?_ }
      intro id hothers
      rw [Statement.lookup_upsert, if_neg]
      intro hid
      exact hothers question (hid ▸ hquestion) hanswerer

/-! ## One handler -/

/-- The handler does what the wallet may do, and changes nothing if it refuses. -/
structure Abides {A : Type} (wallet : Text) (cloud : Cloud)
    (result : Except Failure A × Cloud) : Prop where
  authorized : Authorized wallet cloud.database.toTables result.2.database.toTables
  refused : ∀ failure, result.1 = .error failure → failure ≠ .internal →
    result.2.database = cloud.database

/-- The handler changes no row and does not refuse. -/
structure Quiet {A : Type} (cloud : Cloud) (result : Except Failure A × Cloud) : Prop where
  database : result.2.database = cloud.database
  refused : ∀ failure, result.1 = .error failure → failure = .internal

section Handlers

variable {A : Type} {wallet : Text} {cloud : Cloud}

theorem Abides.of_same {result : Except Failure A × Cloud}
    (hsame : result.2.database = cloud.database) : Abides wallet cloud result where
  authorized := hsame ▸ .nothing
  refused := fun _ _ _ => hsame

theorem abides_refuse (status : ℕ) (code message : String) :
    Abides wallet cloud (cloud.finish (refuse status code message : Handler A)) :=
  .of_same rfl

/-- A statement that is up to the wallet, and nothing else of interest after it. -/
theorem abides_query {statement : Statement} {next : statement.Reply → Handler A}
    (hauthorized : Authorized wallet cloud.database.toTables
      (statement.effect cloud.database.toTables))
    (hnext : ∀ value after, Quiet after (Cloud.finish after (next value))) :
    Abides wallet cloud (cloud.finish (query statement >>= next)) := by
  obtain ⟨database, hexecute, htables⟩ | ⟨hexecute, _⟩ := execute_cases cloud statement
  · rw [Cloud.finish_query_ok hexecute]
    have hquiet := hnext (statement.reply cloud.database.toTables) { cloud with database }
    refine ⟨?_, ?_⟩
    · rw [hquiet.database, htables]
      exact hauthorized
    · intro failure herror hexpected
      exact absurd (hquiet.refused failure herror) hexpected
  · rw [Cloud.finish_query_error hexecute]
    exact .of_same rfl

theorem abides_ofExcept {B : Type} {result : Except Failure B} {next : B → Handler A}
    (hnext : ∀ value, result = .ok value → Abides wallet cloud (cloud.finish (next value))) :
    Abides wallet cloud (cloud.finish (.ofExcept result >>= next)) := by
  cases result with
  | error failure => exact .of_same rfl
  | ok value => exact hnext value rfl

/-! ## The routes -/

theorem abides_postQuestions (request : QuestionRequest) :
    Abides request.asker cloud (cloud.finish (postQuestions request)) := by
  rw [postQuestions_eq, finish_composeRow]
  cases hcompose : request.compose cloud.database.creators with
  | error failure => exact .of_same rfl
  | ok row =>
      obtain ⟨body, creator, _, _, hcreator, rfl⟩ := compose_spec hcompose
      have hauthorized : Authorized request.asker cloud.database.toTables
          ((Statement.insertQuestion (request.draft (body.chainId.getD DEFAULT_CHAIN_ID)
            creator body.body)).effect cloud.database.toTables) :=
        .asks rfl (List.mem_map_of_mem hcreator)
      simp only
      rw [mintOnce]
      cases parseIdempotencyKey request.idempotencyKey with
      | none =>
          simp only [mint, bind_assoc]
          apply abides_query hauthorized
          exact fun _ _ => ⟨rfl, fun _ hfailed => by cases hfailed⟩
      | some key =>
          simp only [withIdempotency]
          rw [Cloud.finish_call_bind]
          cases (cloud.serve (.getRecord (storeKey request.asker key)
              request.now)).1.join with
          | some value => exact .of_same rfl
          | none =>
              simp only [mint, bind_assoc]
              apply abides_query hauthorized
              exact fun _ _ => ⟨rfl, fun _ hfailed => by cases hfailed⟩

theorem abides_publishQuestion (id : Text) (now : ℕ) :
    Abides wallet cloud (cloud.finish (publishQuestion wallet id now)) := by
  rw [publishQuestion, Cloud.finish_read rfl rfl]
  simp only [Statement.reply]
  cases hquestion : Table.lookup Question.id cloud.database.questions id with
  | none => exact abides_refuse _ _ _
  | some question =>
      simp only
      by_cases hanswerer : wallet = question.answererWallet
      · rw [if_neg (not_not.mpr hanswerer)]
        by_cases hstatus : question.status = .answered
        · rw [if_neg (not_not.mpr hstatus)]
          apply abides_query (.publishes now hquestion hanswerer.symm hstatus)
          intro updated after
          cases updated with
          | none => exact ⟨rfl, fun _ hfailed => by cases hfailed; rfl⟩
          | some updated => exact ⟨rfl, fun _ hfailed => by cases hfailed⟩
        · rw [if_pos hstatus]
          exact abides_refuse _ _ _
      · rw [if_pos hanswerer]
        split
        · exact abides_refuse _ _ _
        · exact abides_refuse _ _ _

theorem abides_postAnswer (id : Text) (fields : RequestBody AnswerFields) (now : ℕ) :
    Abides wallet cloud (cloud.finish (postAnswer wallet id fields now)) := by
  rw [postAnswer]
  apply abides_ofExcept
  intro body _
  rw [Cloud.finish_read rfl rfl]
  simp only [Statement.reply]
  cases hquestion : Table.lookup Question.id cloud.database.questions id with
  | none => exact abides_refuse _ _ _
  | some question =>
      simp only
      by_cases hanswerer : wallet = question.answererWallet
      · rw [if_neg (not_not.mpr hanswerer)]
        by_cases hstatus : question.status = .answered
        · rw [if_pos hstatus]
          exact abides_refuse _ _ _
        · rw [if_neg hstatus]
          apply abides_query (.answers hquestion hanswerer.symm hstatus)
          exact fun _ _ => ⟨rfl, fun _ hfailed => by cases hfailed⟩
      · rw [if_pos hanswerer]
        split
        · exact abides_refuse _ _ _
        · exact abides_refuse _ _ _

theorem abides_claimHandle (fields : RequestBody ClaimFields) (now : ℕ) :
    Abides wallet cloud (cloud.finish (claimHandle wallet fields now)) := by
  rw [claimHandle]
  apply abides_ofExcept
  intro body _
  split
  · exact abides_refuse _ _ _
  · rw [Cloud.finish_read rfl rfl]
    simp only [Statement.reply]
    cases Table.lookup Creator.wallet cloud.database.creators wallet with
    | some existing => exact abides_refuse _ _ _
    | none =>
        simp only
        rw [Cloud.finish_database]
        obtain ⟨database, hexecute, htables⟩ | ⟨hexecute, _⟩ := execute_cases cloud
          (.insertCreator (claimedRow wallet body now))
        · rw [claimedRow] at hexecute
          rw [hexecute]
          refine ⟨?_, fun failure hfailed => by cases hfailed⟩
          change Authorized wallet _ database.toTables
          rw [htables]
          exact .claims rfl
        · rw [claimedRow] at hexecute
          rw [hexecute]
          -- the handler tells a taken handle from other failures
          cases Statement.refusal _ with
          | «unique» => exact abides_refuse _ _ _
          | constraint | mismatch => exact .of_same rfl

theorem abides_updateProfile {patch : CreatorPatch} {next : Creator → Handler A}
    (hnext : ∀ updated after, Quiet after (Cloud.finish after (next updated))) :
    Abides wallet cloud (cloud.finish (updateProfile wallet patch >>= next)) := by
  rw [updateProfile, bind_assoc]
  apply abides_query (.edits patch)
  intro updated after
  cases updated with
  | none => exact ⟨rfl, fun _ hfailed => by cases hfailed; rfl⟩
  | some updated => exact hnext (presentOwnerCreator updated) after

theorem abides_ownProfile {next : Creator → Handler A}
    (hnext : ∀ row, Abides wallet cloud (cloud.finish (next row))) :
    Abides wallet cloud (cloud.finish (ownProfile wallet >>= next)) := by
  rw [Cloud.finish_ownProfile]
  cases Table.lookup Creator.wallet cloud.database.creators wallet with
  | none => exact .of_same rfl
  | some row => exact hnext row

theorem abides_putProfile (runtime : Runtime) (fields : RequestBody ProfileFields)
    (now : ℕ) : Abides wallet cloud (cloud.finish (putProfile runtime wallet fields now)) := by
  rw [putProfile]
  apply abides_ofExcept
  intro body _
  apply abides_ownProfile
  intro row
  apply abides_updateProfile
  exact fun _ _ => ⟨rfl, fun _ hfailed => by cases hfailed⟩

theorem abides_postAvatar (upload : AvatarUpload) (now : ℕ) :
    Abides wallet cloud (cloud.finish (postAvatar wallet upload now)) := by
  rw [postAvatar]
  simp only
  split
  · exact abides_refuse _ _ _
  · split
    · exact abides_refuse _ _ _
    · split
      · exact abides_refuse _ _ _
      · split
        · exact abides_refuse _ _ _
        · apply abides_ownProfile
          intro row
          rw [Cloud.finish_call_bind]
          apply abides_updateProfile
          exact fun _ _ => ⟨rfl, fun _ hfailed => by cases hfailed⟩

/-! ## Routes that only read -/

theorem reads_query {statement : Statement} {next : statement.Reply → Handler A}
    (hread : statement.effect cloud.database.toTables = cloud.database.toTables)
    (hnext : (cloud.finish (next (statement.reply cloud.database.toTables))).2.database =
      cloud.database) :
    (cloud.finish (query statement >>= next)).2.database = cloud.database := by
  cases hrange : statement.inRange with
  | true =>
      rw [Cloud.finish_read hread hrange]
      exact hnext
  | false => rw [Cloud.finish_query_error (Cloud.execute_refused hrange)]

theorem reads_listQuestions (runtime : Runtime) (own : Text) (column : WalletColumn)
    (limit offset : Option Text) :
    (cloud.finish (listQuestions runtime own column limit offset)).2.database =
      cloud.database := by
  rw [listQuestions]
  cases listQuery runtime limit offset with
  | error failure => rfl
  | ok parameters => exact reads_query rfl rfl

theorem reads_getQuestion (own id : Text) :
    (cloud.finish (getQuestion own id)).2.database = cloud.database := by
  apply reads_query rfl
  simp only [Statement.reply]
  cases Table.lookup Question.id cloud.database.questions id with
  | none => rfl
  | some question =>
      simp only
      split
      · rfl
      · exact reads_query rfl rfl

theorem reads_getCard (id : Text) :
    (cloud.finish (getCard id)).2.database = cloud.database := by
  apply reads_query rfl
  simp only [Statement.reply]
  cases Table.lookup Question.id cloud.database.questions id with
  | none => rfl
  | some question =>
      simp only
      split
      · rfl
      · exact reads_query rfl (reads_query rfl rfl)

theorem reads_getBoard (raw : Text) :
    (cloud.finish (getBoard raw)).2.database = cloud.database := by
  rw [getBoard]
  split
  · rfl
  · apply reads_query rfl
    simp only [Statement.reply]
    cases Table.lookup Creator.handle cloud.database.creators (normalizeHandle raw) <;> rfl

/-! ## All routes -/

theorem abides_map {B : Type} {code : Handler A} {view : A → B}
    (hcode : Abides wallet cloud (cloud.finish code)) :
    Abides wallet cloud (cloud.finish (code >>= fun value => .ret (view value))) := by
  obtain ⟨hauthorized, hrefused⟩ := hcode
  rw [Cloud.finish_bind]
  cases hfinish : cloud.finish code with
  | mk result after =>
      rw [hfinish] at hauthorized hrefused
      cases result with
      | ok value => exact ⟨hauthorized, fun _ hfailed => by cases hfailed⟩
      | error failure =>
          refine ⟨hauthorized, ?_⟩
          intro other hother
          cases hother
          exact hrefused failure rfl

end Handlers

/-- Every handler keeps to what the wallet of the session may do. -/
theorem abides_handler (runtime : Runtime) (context : RequestContext) (request : Request)
    {wallet : Text} (hwallet : context.wallet = some wallet) (cloud : Cloud) :
    Abides wallet cloud (cloud.finish (handler runtime context request)) := by
  have hauth {A : Type} (next : Text → Handler A) :
      requireAuth context >>= next = next wallet := by
    rw [requireAuth, hwallet]
    rfl
  cases request with
  | createQuestion idempotencyKey body uuid =>
      rw [handler, hauth]
      exact abides_map (abides_postQuestions
        { asker := wallet, idempotencyKey, body, uuid, now := context.now })
  | received limit offset =>
      rw [handler, hauth]
      exact .of_same (reads_listQuestions runtime wallet _ limit offset)
  | asked limit offset =>
      rw [handler, hauth]
      exact .of_same (reads_listQuestions runtime wallet _ limit offset)
  | detail id =>
      rw [handler, hauth]
      exact .of_same (reads_getQuestion wallet id)
  | publish id =>
      rw [handler, hauth]
      exact abides_publishQuestion id context.now
  | card id => exact .of_same (reads_getCard id)
  | answer id body =>
      rw [handler, hauth]
      exact abides_postAnswer id body context.now
  | board handle => exact .of_same (reads_getBoard handle)
  | me =>
      rw [handler, hauth]
      exact .of_same (reads_query rfl rfl)
  | claim body =>
      rw [handler, hauth]
      exact abides_claimHandle body context.now
  | profile body =>
      rw [handler, hauth]
      exact abides_putProfile runtime body context.now
  | avatar upload =>
      rw [handler, hauth]
      exact abides_postAvatar upload context.now

/-- Without a session no handler changes a row. -/
theorem handler_anonymous (runtime : Runtime) (context : RequestContext)
    (request : Request) (hwallet : context.wallet = none) (cloud : Cloud) :
    (cloud.finish (handler runtime context request)).2.database = cloud.database := by
  have hauth {A : Type} (next : Text → Handler A) :
      (cloud.finish (requireAuth context >>= next)).2.database = cloud.database := by
    rw [requireAuth, hwallet]
    rfl
  cases request with
  | card id => exact reads_getCard id
  | board handle => exact reads_getBoard handle
  | _ => exact hauth _

/-- The limiter in front of a route keeps the database. -/
theorem finish_limiter {A : Type} {cloud : Cloud} (policy : RateLimitPolicy) (id : Text)
    (now : ℕ) (next : RateLimitResult → Program workers Empty A) :
    ∃ result after, after.database = cloud.database ∧
      cloud.finish (consume policy id now >>= next) = Cloud.finish after (next result) := by
  refine ⟨_, _, ?_, rfl⟩
  rfl

/-- A request runs its handler or is refused, after it was counted. -/
theorem answer_cases (runtime : Runtime) (context : RequestContext) (request : Request)
    (cloud : Cloud) :
    ∃ before : Cloud, before.database = cloud.database ∧
      ((∃ rateLimit, cloud.finish (handleRequest runtime context request) =
          (.ok { rateLimit, outcome :=
            (before.finish (handler runtime context request)).1 },
            (before.finish (handler runtime context request)).2)) ∨
        ∃ rateLimit seconds, cloud.finish (handleRequest runtime context request) =
          (.ok { rateLimit, outcome := .error (.rateLimited seconds) }, before)) := by
  rw [handleRequest]
  cases limitOf request with
  | none => exact ⟨cloud, rfl, .inl ⟨none, Cloud.finish_respond _ _⟩⟩
  | some policy =>
      obtain ⟨result, before, hbefore, hfinish⟩ := @finish_limiter _ cloud policy
        context.clientIp context.now fun result =>
          if result.allowed then respond (some result) (handler runtime context request)
          else respond (some result) (.fail (.rateLimited result.resetSeconds))
      refine ⟨before, hbefore, ?_⟩
      simp only
      rw [ipLimit, hfinish]
      split
      · exact .inl ⟨some result, Cloud.finish_respond _ _⟩
      · exact .inr ⟨some result, result.resetSeconds, Cloud.finish_respond _ _⟩

/-! ## The whole API -/

namespace LIMITS

def reconcileNudge : RateLimitPolicy := ⟨"reconcile_nudge", 60, 60⟩

end LIMITS

/-- `POST /reconcile-nudge`; the indexer it calls is a worker of its own. -/
def postNudge (context : RequestContext) (configured : Bool) : ApiCode Bool :=
  match context.wallet with
  | none => .refuse 401 "unauthorized" "sign in with your wallet first"
  | some _ =>
    if configured then do
      let nudged ← ask .fetchIndexer
      return nudged.getD false
    else return false

inductive Route where
  | rows (request : Request)
  | auth (request : AuthRequest)
  | nudge (configured : Bool)
  | avatarObject (found : Bool)
  | health
  | unknown

/-- How a request failed, if it did. -/
def failureOf {A : Type} : Except Failure A → Option Failure
  | .ok _ => none
  | .error failure => some failure

theorem failureOf_eq_some {A : Type} {outcome : Except Failure A} {failure : Failure} :
    failureOf outcome = some failure ↔ outcome = .error failure := by
  cases outcome with
  | ok value => simp [failureOf]
  | error other => simp [failureOf]

/-- The status of the response to a failure. -/
def statusOf : Failure → ℕ
  | .api error => error.status
  | .validation _ => 422
  | .rateLimited _ => 429
  | .internal => 500

def handleRoute (viem : Viem) (env : Env) (runtime : Runtime) (context : RequestContext) :
    Route → Program api Empty (Option Failure)
  | .rows request => do
    let response ← (handleRequest runtime context request).inLeft gate
    return failureOf response.outcome
  | .auth request => do
    let answered ← handleAuth viem env request
    return failureOf answered.outcome
  | .nudge configured => do
    let answered ← (postNudge context configured).ipLimit LIMITS.reconcileNudge
      context.clientIp
    return failureOf answered.outcome
  | .avatarObject found =>
    return if found then none
      else some (.api { status := 404, code := "not_found", message := "not_found" })
  | .health => return none
  | .unknown =>
    return some (.api { status := 404, code := "not_found", message := "not_found" })

/-- Handle one request to any route. -/
def Gate.answer (viem : Viem) (env : Env) (runtime : Runtime) (weather : Weather)
    (gate : Gate) (context : RequestContext) (route : Route) : Option Failure × Gate :=
  match (handleRoute viem env runtime context route).run
    (fun operation gate => gate.serve viem weather operation) gate with
  | (.ok failure, after) => (failure, after)

/-- The operation is on no table. -/
def NoStatement : api.Operation → Prop
  | .inl operation => operation.onTables = false
  | .inr _ => True

/-- The operation moves no cursor. -/
def NoCursor : api.Operation → Prop
  | .inl (.saveCursor _ _ _) => False
  | _ => True

section NoStatement

variable {A : Type} {viem : Viem} {env : Env}

theorem noStatement_of_aside {operation : api.Operation} (haside : Aside operation) :
    NoStatement operation := by
  cases operation with
  | inl operation => exact haside
  | inr operation => exact trivial

theorem noCursor_of_noStatement {operation : api.Operation}
    (hnone : NoStatement operation) : NoCursor operation := by
  cases operation with
  | inl operation =>
      cases operation with
      | saveCursor => cases hnone
      | _ => exact trivial
  | inr operation => exact trivial

/-- What a route of rows does moves no cursor. -/
theorem handleRequest_noCursor (runtime : Runtime) (context : RequestContext)
    (request : Request) :
    ((handleRequest runtime context request).inLeft gate).Uses NoCursor := by
  apply (Program.uses_inLeft (handleRequest_uses runtime context request)
    fun _ => False).mono
  intro operation hleft
  cases operation with
  | inl operation =>
      cases operation with
      | saveCursor => exact hleft.elim
      | _ => exact trivial
  | inr operation => exact hleft.elim

theorem respond_noStatement {rateLimit : Option RateLimitResult} {code : ApiCode A}
    (hcode : code.Uses NoStatement) : (code.respond rateLimit).Uses NoStatement :=
  Program.Uses.handle (Program.Uses.bind hcode fun _ => trivial) fun _ => trivial

theorem ipLimit_noStatement {policy : RateLimitPolicy} {clientIp : Text} {code : ApiCode A}
    (hcode : code.Uses NoStatement) : (code.ipLimit policy clientIp).Uses NoStatement := by
  rw [ApiCode.ipLimit, ask_bind]
  refine ⟨trivial, ?_⟩
  intro now
  apply Program.Uses.bind ((aside_consume policy clientIp _).mono fun _ =>
    noStatement_of_aside)
  intro result
  split
  · exact respond_noStatement hcode
  · exact respond_noStatement trivial

theorem postVerify_noStatement (request : VerifyRequest) :
    (postVerify viem env request).Uses NoStatement := by
  rw [postVerify]
  cases parseBody verifyBody request.body with
  | error failure => exact trivial
  | ok body =>
      rw [Program.ofExcept, Program.ret_bind]
      simp only
      split
      · exact trivial
      · exact trivial
      · next nonce _ _ =>
        have hconsume : (consumeNonce nonce).Uses NoStatement := by
          refine ⟨trivial, ?_⟩
          intro found
          cases found with
          | none => exact trivial
          | some value => exact ⟨trivial, fun _ => trivial⟩
        apply hconsume.bind
        intro consumed
        cases consumed with
        | false => exact trivial
        | true =>
            rw [if_pos rfl]
            apply ((verifySiwe_uses viem _).mono fun _ => noStatement_of_aside).bind
            intro result
            cases result with
            | error error => exact trivial
            | ok wallet => exact ⟨trivial, fun _ => trivial⟩

theorem handleAuth_noStatement (request : AuthRequest) :
    (handleAuth viem env request).Uses NoStatement := by
  cases request with
  | nonce clientIp nonce =>
      have hnonce : (postNonce env nonce).Uses NoStatement := ⟨trivial, fun _ => trivial⟩
      exact ipLimit_noStatement hnonce
  | verify clientIp request => exact ipLimit_noStatement (postVerify_noStatement request)
  | logout token =>
      apply respond_noStatement
      obtain _ | _ | _ := token
      · exact trivial
      · exact trivial
      · exact ⟨trivial, fun _ => trivial⟩

theorem postNudge_noStatement (context : RequestContext) (configured : Bool) :
    (postNudge context configured).Uses NoStatement := by
  rw [postNudge]
  cases context.wallet with
  | none => exact trivial
  | some wallet =>
      cases configured with
      | false => exact trivial
      | true => exact ⟨trivial, fun _ => trivial⟩

/-- The routes that are not about rows are on no table. -/
theorem handleRoute_noStatement (runtime : Runtime) (context : RequestContext)
    {route : Route} (hroute : ∀ request, route ≠ .rows request) :
    (handleRoute viem env runtime context route).Uses NoStatement := by
  cases route with
  | rows request => exact absurd rfl (hroute request)
  | auth request => exact (handleAuth_noStatement request).bind fun _ => trivial
  | nudge configured =>
      exact (ipLimit_noStatement (postNudge_noStatement context configured)).bind
        fun _ => trivial
  | avatarObject found => exact trivial
  | health => exact trivial
  | unknown => exact trivial

/-- No route moves a cursor. -/
theorem handleRoute_noCursor (runtime : Runtime) (context : RequestContext) (route : Route) :
    (handleRoute viem env runtime context route).Uses NoCursor := by
  cases route with
  | rows request =>
      exact (handleRequest_noCursor runtime context request).bind fun _ => trivial
  | _ =>
      apply (handleRoute_noStatement runtime context ?_).mono
      · exact fun _ => noCursor_of_noStatement
      · intro request hrows
        cases hrows

theorem run_noCursor {Problem : Type} {code : Program api Problem A}
    (hcode : code.Uses NoCursor) (weather : Weather) (gate : Gate) :
    (code.run (fun operation gate => gate.serve viem weather operation)
      gate).2.cloud.cursors = gate.cloud.cursors := by
  have hkept {operation : api.Operation} {state : Gate} (hnone : NoCursor operation)
      (hstate : state.cloud.cursors = gate.cloud.cursors) :
      (state.serve viem weather operation).2.cloud.cursors = gate.cloud.cursors := by
    cases operation with
    | inl operation =>
        cases operation with
        | saveCursor => exact hnone.elim
        | database statement =>
            change (state.cloud.execute statement).2.cursors = gate.cloud.cursors
            obtain ⟨database, hexecute, -⟩ | ⟨hexecute, -⟩ :=
              execute_cases state.cloud statement
            · rw [hexecute]
              exact hstate
            · rw [hexecute]
              exact hstate
        | _ => exact hstate
    | inr operation => cases operation <;> exact hstate
  exact @Program.Uses.run _ _ _ _ _
    (fun operation (gate : Gate) => gate.serve viem weather operation)
    (fun after : Gate => after.cloud.cursors = gate.cloud.cursors) _ hcode hkept _ rfl

theorem run_noStatement {Problem : Type} {code : Program api Problem A}
    (hcode : code.Uses NoStatement) (weather : Weather) (gate : Gate) :
    (code.run (fun operation gate => gate.serve viem weather operation)
      gate).2.cloud.database = gate.cloud.database := by
  have hkept {operation : api.Operation} {state : Gate} (hnone : NoStatement operation)
      (hstate : state.cloud.database = gate.cloud.database) :
      (state.serve viem weather operation).2.cloud.database = gate.cloud.database := by
    cases operation with
    | inl operation =>
        cases operation with
        | database => cases hnone
        | _ => exact hstate
    | inr operation => cases operation <;> exact hstate
  exact @Program.Uses.run _ _ _ _ _
    (fun operation (gate : Gate) => gate.serve viem weather operation)
    (fun after : Gate => after.cloud.database = gate.cloud.database) _ hcode hkept _ rfl

end NoStatement

section Answer

variable (viem : Viem) (env : Env) (runtime : Runtime) (weather : Weather) (gate : Gate)
variable (context : RequestContext)

theorem answer_rows (request : Request) :
    gate.answer viem env runtime weather context (.rows request) =
      match gate.cloud.finish (handleRequest runtime context request) with
      | (.ok response, after) => (failureOf response.outcome, { gate with cloud := after }) := by
  have hrun := @Program.run_inLeft workers Empty Response Cloud Workers.gate _
    Cloud.serving (fun operation gate => gate.serve viem weather operation)
    (fun cloud => { gate with cloud }) (fun _ _ => rfl)
    (handleRequest runtime context request) gate.cloud
  rw [Gate.answer, handleRoute, Program.run_bind, hrun, Cloud.finish]
  cases Program.run Cloud.serving (handleRequest runtime context request) gate.cloud with
  | mk result after =>
      cases result with
      | ok response => rfl
      | error impossible => exact impossible.elim

theorem answer_state (route : Route) :
    (gate.answer viem env runtime weather context route).2 =
      ((handleRoute viem env runtime context route).run
        (fun operation gate => gate.serve viem weather operation) gate).2 := by
  rw [Gate.answer]
  cases (handleRoute viem env runtime context route).run
      (fun operation gate => gate.serve viem weather operation) gate with
  | mk result after =>
      cases result with
      | ok failure => rfl
      | error impossible => exact impossible.elim

/-- No request to any route moves a cursor. -/
theorem answer_cursors (route : Route) :
    (gate.answer viem env runtime weather context route).2.cloud.cursors =
      gate.cloud.cursors := by
  rw [answer_state]
  exact run_noCursor (handleRoute_noCursor runtime context route) weather gate

theorem answer_noStatement {route : Route} (hroute : ∀ request, route ≠ .rows request) :
    (gate.answer viem env runtime weather context route).2.cloud.database =
      gate.cloud.database := by
  rw [answer_state]
  exact run_noStatement (handleRoute_noStatement runtime context hroute) weather gate

end Answer

/-- A request to any route stays within the authority of its session: without one it
changes nothing, with one it does one thing that is up to the wallet and leaves all
other rows alone, and a request that is answered with a 4xx status changes nothing.
The cursors of the indexer are never its own to move. -/
theorem requests_within_authority (viem : Viem) (env : Env) (runtime : Runtime)
    (weather : Weather) (gate : Gate) (context : RequestContext) (route : Route) :
    let answer := gate.answer viem env runtime weather context route
    let before := gate.cloud.database.toTables
    let after := answer.2.cloud.database.toTables
    (context.wallet = none → after = before) ∧
      (∀ wallet, context.wallet = some wallet →
        Authorized wallet before after ∧ Untouched wallet before after) ∧
      (∀ failure, answer.1 = some failure → 400 ≤ statusOf failure →
        statusOf failure < 500 → after = before) ∧
      answer.2.cloud.cursors = gate.cloud.cursors := by
  intro answer before after
  suffices hfacts : (context.wallet = none → after = before) ∧
      (∀ wallet, context.wallet = some wallet → Authorized wallet before after) ∧
      ∀ failure, answer.1 = some failure → failure ≠ .internal → after = before by
    obtain ⟨hnone, hsome, hrefused⟩ := hfacts
    refine ⟨hnone, fun wallet hwallet => ?_, fun failure hfailed _ hstatus => ?_, ?_⟩
    · exact ⟨hsome wallet hwallet, (hsome wallet hwallet).untouched⟩
    · apply hrefused failure hfailed
      rintro rfl
      exact absurd hstatus (by decide)
    · exact answer_cursors viem env runtime weather gate context route
  by_cases hrows : ∃ request, route = .rows request
  · obtain ⟨request, rfl⟩ := hrows
    obtain ⟨counted, hcounted, hcases⟩ := answer_cases runtime context request gate.cloud
    have hrows : answer = _ := answer_rows viem env runtime weather gate context request
    obtain ⟨rateLimit, hfinish⟩ | ⟨rateLimit, seconds, hfinish⟩ := hcases
    · rw [hfinish] at hrows
      have hafter : answer.2.cloud.database =
          (counted.finish (handler runtime context request)).2.database := by rw [hrows]
      have htables : after = (counted.finish (handler runtime context
        request)).2.database.toTables := congrArg Database.toTables hafter
      have hbefore : before = counted.database.toTables := by rw [hcounted]
      have hanonymous (hwallet : context.wallet = none) : after = before := by
        rw [htables, handler_anonymous runtime context request hwallet, hbefore]
      refine ⟨hanonymous, ?_, ?_⟩
      · intro wallet hwallet
        rw [hbefore, htables]
        exact (abides_handler runtime context request hwallet counted).authorized
      · intro failure hfailed hexpected
        cases hwallet : context.wallet with
        | none => exact hanonymous hwallet
        | some wallet =>
            have habides := abides_handler runtime context request hwallet counted
            rw [hbefore, htables, habides.refused failure ?_ hexpected]
            rw [hrows] at hfailed
            exact failureOf_eq_some.mp hfailed
    · rw [hfinish] at hrows
      have hafter : answer.2.cloud.database = counted.database := by rw [hrows]
      have htables : after = before :=
        congrArg Database.toTables (hafter.trans hcounted)
      exact ⟨fun _ => htables, fun _ _ => htables ▸ .nothing, fun _ _ _ => htables⟩
  · have hother : ∀ request, route ≠ .rows request :=
      fun request heq => hrows ⟨request, heq⟩
    have htables : after = before := congrArg Database.toTables
      (answer_noStatement viem env runtime weather gate context hother)
    exact ⟨fun _ => htables, fun _ _ => htables ▸ .nothing, fun _ _ _ => htables⟩

end BuyAnAnswer.Workers
