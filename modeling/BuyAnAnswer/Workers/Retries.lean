import BuyAnAnswer.Workers.RateLimit
import BuyAnAnswer.Workers.System

/-!
# Retrying a mint

A caller sends `POST /questions` again until an attempt succeeds.  An attempt may
end at anything it waits for, and what it waited for may have happened all the
same.  The row goes into the database and its record into the key-value store, one
after the other, so an attempt that ends between the two leaves a row that the
next attempt knows nothing of.
-/

namespace BuyAnAnswer.Workers

open Text Shared WorkerKit Api BuyAnAnswer.Transaction

/-- What an attempt waits for. -/
inductive Await where
  | counterRead
  | counterWrite
  | sessionLookup
  | creatorLookup
  | recordRead
  | rowInsert
  | recordWrite
  deriving DecidableEq, Repr

/-- The session is looked up in a store of its own. -/
def Await.hits : Await → Operation → Bool
  | .counterRead, .getCounter _ _ => true
  | .counterWrite, .putCounter _ _ _ _ => true
  | .creatorLookup, .database (.creatorByHandle _) => true
  | .recordRead, .getRecord _ _ => true
  | .rowInsert, .database (.insertQuestion _) => true
  | .recordWrite, .putRecord _ _ _ _ => true
  | _, _ => false

/-- The wait at which an attempt ends, and whether the operation took effect all
the same. -/
structure Fault where
  await : Await
  applied : Bool
  deriving DecidableEq, Repr

/-- An attempt at `POST /questions`. -/
structure Attempt where
  context : RequestContext
  idempotencyKey : Option Text
  body : RequestBody QuestionFields
  uuid : Text
  fault : Option Fault

/-- What came of an attempt: the ids of the rows it inserted and the id it
returned. -/
structure Outcome where
  inserted : List Text
  returned : Option Text
  deriving DecidableEq, Repr

namespace Attempt

def fails (attempt : Attempt) (operation : Operation) : Option Bool :=
  match attempt.fault with
  | some fault => if fault.await.hits operation then some fault.applied else none
  | none => none

/-- The handler, unless the session's lookup throws in front of it. -/
def handling (runtime : Runtime) (attempt : Attempt) : Handler View :=
  if attempt.fault.map Fault.await = some .sessionLookup then .fail .internal
  else handler runtime attempt.context
    (.createQuestion attempt.idempotencyKey attempt.body attempt.uuid)

/-- Run the attempt until it ends or fails. -/
def serve (runtime : Runtime) (attempt : Attempt) (cloud : Cloud) :
    Option (Except Empty Response) × Cloud :=
  (ipLimit LIMITS.questionCreate attempt.context
    (attempt.handling runtime)).runFailing Cloud.serving attempt.fails cloud

/-- The id in the response to an attempt. -/
def returnedId : Option (Except Empty Response) → Option Text
  | some (.ok { outcome := .ok (.created id), .. }) => some id
  | _ => none

def outcome (runtime : Runtime) (attempt : Attempt) (cloud : Cloud) : Outcome where
  inserted := ((attempt.serve runtime cloud).2.database.questions.filter
    fun row => row ∉ cloud.database.questions).map Question.id
  returned := returnedId (attempt.serve runtime cloud).1

/-- The attempt is one of a wallet with a key. -/
def IsOf (wallet key : Text) (attempt : Attempt) : Prop :=
  attempt.context.wallet = some wallet ∧
    parseIdempotencyKey attempt.idempotencyKey = some key

instance (wallet key : Text) : DecidablePred (IsOf wallet key) :=
  fun _ => inferInstanceAs (Decidable (_ ∧ _))

/-- The limiter lets the attempt through. -/
def admitted (attempt : Attempt) (cloud : Cloud) : Bool :=
  let policy := LIMITS.questionCreate
  (cloud.counters.get attempt.context.now (counterKey policy attempt.context.clientIp
    (attempt.context.now / policy.windowSeconds))).join.getD 0 + 1 ≤ policy.limit

/-- The request of an attempt with a session. -/
def request (attempt : Attempt) (asker : Text) : QuestionRequest where
  asker := asker
  idempotencyKey := attempt.idempotencyKey
  body := attempt.body
  uuid := attempt.uuid
  now := attempt.context.now

end Attempt

/-- The state after an attempt. -/
def retry (runtime : Runtime) (cloud : Cloud) (attempt : Attempt) : Cloud :=
  (attempt.serve runtime cloud).2

/-- What comes of attempts made one after the other. -/
def outcomes (runtime : Runtime) (cloud : Cloud) :
    List Attempt → List (Attempt × Outcome)
  | [] => []
  | attempt :: attempts =>
    (attempt, attempt.outcome runtime cloud) ::
      outcomes runtime (retry runtime cloud attempt) attempts

/-! ## Running until a wait fails -/

section RunFailing

variable {Failure A : Type} {fails : Operation → Option Bool} {cloud : Cloud}

/-- The code of an attempt, run until a wait fails. -/
abbrev Cloud.until (cloud : Cloud) (fails : Operation → Option Bool)
    (program : Program workers Failure A) : Option (Except Failure A) × Cloud :=
  program.runFailing Cloud.serving fails cloud

theorem until_bind {B : Type} (program : Program workers Failure A)
    (next : A → Program workers Failure B) :
    cloud.until fails (program >>= next) =
      match cloud.until fails program with
      | (some (.ok value), middle) => middle.until fails (next value)
      | (some (.error failure), middle) => (some (.error failure), middle)
      | (none, middle) => (none, middle) := by
  rw [Cloud.until, Program.runFailing_bind, ← Cloud.until]
  cases cloud.until fails program with
  | mk result middle =>
      cases result with
      | none => rfl
      | some outcome => cases outcome <;> rfl

theorem until_call (operation : Operation)
    (next : operation.Reply → Program workers Failure A) :
    cloud.until fails (call operation >>= next) =
      match fails operation with
      | none => (cloud.serve operation).2.until fails (next (cloud.serve operation).1)
      | some applied => (none, if applied then (cloud.serve operation).2 else cloud) := rfl

/-- A statement that only reads. -/
theorem until_read {statement : Statement} {next : statement.Reply → Handler A}
    (hread : statement.effect cloud.database.toTables = cloud.database.toTables)
    (hrange : statement.inRange = true) :
    cloud.until fails (query statement >>= next) =
      match fails (.database statement) with
      | none => cloud.until fails (next (statement.reply cloud.database.toTables))
      | some _ => (none, cloud) := by
  have hserving : Cloud.serving (.database statement) cloud =
      (.ok (statement.reply cloud.database.toTables), cloud) :=
    Cloud.execute_read hread hrange
  rw [query, sql, Program.await_bind, Cloud.until, Program.runFailing, hserving]
  cases fails (.database statement) with
  | none => rfl
  | some applied => cases applied <;> rfl

/-- Counting a request touches the counters only, and the result lets through what
the counter allows. -/
theorem until_consume (attempt : Attempt) :
    ∃ counters result, cloud.until fails
        (consume LIMITS.questionCreate attempt.context.clientIp attempt.context.now :
          Program workers Failure RateLimitResult) =
        (result, { cloud with counters }) ∧
      ∀ limited, result = some (.ok limited) →
        limited.allowed = attempt.admitted cloud := by
  rw [consume, until_call]
  cases fails (.getCounter _ _) with
  | some applied => exact ⟨cloud.counters, none, by cases applied <;> rfl, by simp⟩
  | none =>
      simp only
      rw [until_call]
      cases fails (.putCounter _ _ _ _) with
      | some applied =>
          cases applied with
          | false => exact ⟨cloud.counters, none, rfl, by simp⟩
          | true => exact ⟨_, none, rfl, by simp⟩
      | none =>
          refine ⟨_, _, rfl, ?_⟩
          intro limited hlimited
          cases hlimited
          rfl

end RunFailing

/-! ## One attempt -/

/-- Composing reads the creator and decides as `compose` does. -/
theorem until_composeRow {fails : Operation → Option Bool} {cloud : Cloud}
    (request : QuestionRequest) :
    cloud.until fails (composeRow request) = (none, cloud) ∨
      cloud.until fails (composeRow request) =
        (some (request.compose cloud.database.creators), cloud) := by
  rw [composeRow]
  cases hbody : parseBody createQuestionBody request.body with
  | error failure =>
      right
      rw [compose_of_error hbody]
      rfl
  | ok body =>
      rw [compose_of_body hbody, Program.ofExcept, Program.ret_bind]
      by_cases hchain : body.chainId.getD DEFAULT_CHAIN_ID ∈ ALLOWED_CHAIN_IDS
      · simp only [hchain, not_true_eq_false, if_false]
        rw [until_read rfl rfl]
        cases fails (.database (.creatorByHandle body.handle)) with
        | some applied => exact .inl rfl
        | none =>
            right
            simp only [Statement.reply]
            cases judge request body
              (Table.lookup Creator.handle cloud.database.creators body.handle) <;> rfl
      · simp only [hchain, not_false_eq_true, if_true]
        exact .inr rfl

namespace Fault

/-- An insert that took effect, or a write that did not, leaves a row without a
record. -/
def strands (fault : Fault) : Bool :=
  fault = ⟨.rowInsert, true⟩ || fault = ⟨.recordWrite, false⟩

end Fault

/-- The records once `id` is minted. -/
def recordsAfter (request : QuestionRequest) (records : Kv Text) (id : Text) : Kv Text :=
  match parseIdempotencyKey request.idempotencyKey with
  | some key =>
    records.put request.now (storeKey request.asker key) id IDEMPOTENCY_TTL_SECONDS
  | none => records

/-- The row goes into the database. -/
def Inserts (row : Question) (before after : Cloud) : Prop :=
  (Statement.insertQuestion row).query before.database = .ok row after.database

/-- What an attempt does to the database and the records, and the id it returns. -/
inductive Effect (request : QuestionRequest) (fault : Option Fault)
    (before after : Cloud) : Option Text → Prop where
  | quiet (hdatabase : after.database = before.database)
      (hrecords : after.records = before.records) : Effect request fault before after none
  | replayed {key value : Text}
      (hkey : parseIdempotencyKey request.idempotencyKey = some key)
      (hrecorded : recorded before.records request.now request.asker key = some value)
      (hdatabase : after.database = before.database)
      (hrecords : after.records = before.records) :
      Effect request fault before after (some value)
  | minted {row : Question} {returned : Option Text}
      (hmints : request.mints before.backend = some row)
      (hinserts : Inserts row before after)
      (hrecords : after.records = recordsAfter request before.records row.id)
      (hreturned : ∀ id ∈ returned, id = row.id) :
      Effect request fault before after returned
  | stranded {row : Question} (hmints : request.mints before.backend = some row)
      (hinserts : Inserts row before after) (hrecords : after.records = before.records)
      (hlost : ∃ lost ∈ fault, lost.strands = true) :
      Effect request fault before after none

/-- The id in what `POST /questions` comes to. -/
def idOf : Option (Except Failure (Text × Bool)) → Option Text
  | some (.ok created) => some created.1
  | _ => none

theorem Attempt.fails_eq_some {attempt : Attempt} {operation : Operation} {applied : Bool}
    (hfails : attempt.fails operation = some applied) :
    ∃ await, attempt.fault = some ⟨await, applied⟩ ∧ await.hits operation = true := by
  rw [fails] at hfails
  split at hfails
  · next fault hfault =>
    split at hfails
    · next hhits =>
      cases hfails
      exact ⟨fault.await, hfault, hhits⟩
    · cases hfails
  · cases hfails

theorem Await.hits_insertQuestion {await : Await} {row : Question}
    (hhits : await.hits (.database (.insertQuestion row)) = true) : await = .rowInsert := by
  cases await <;> first | rfl | cases hhits

theorem Await.hits_putRecord {await : Await} {key value : Text} {now ttl : ℕ}
    (hhits : await.hits (.putRecord key now value ttl) = true) : await = .recordWrite := by
  cases await <;> first | rfl | cases hhits

section Mint

variable {attempt : Attempt} {cloud : Cloud} {row : Question}

theorem insertQuestion_execute (cloud : Cloud) (row : Question) :
    (∃ failure, cloud.execute (.insertQuestion row) = (.error failure, cloud)) ∨
      ∃ after, cloud.execute (.insertQuestion row) = (.ok row, after) ∧
        Inserts row cloud after ∧ after.records = cloud.records := by
  rw [Cloud.execute]
  cases hquery : (Statement.insertQuestion row).query cloud.database with
  | error failure database =>
      obtain ⟨rfl, _⟩ := Statement.query_eq_error hquery
      exact .inl ⟨failure, rfl⟩
  | ok value database =>
      have hvalue : value = row := (Statement.query_eq_ok.mp hquery).1
      rw [hvalue] at hquery
      refine .inr ⟨{ cloud with database }, ?_, hquery, rfl⟩
      simp only [hvalue]

/-- The insert fails without effect, strands the row, or goes through. -/
theorem until_mint {B : Type} (attempt : Attempt) (cloud : Cloud) (row : Question)
    (next : Text → Handler B) :
    (∃ stopped, (∀ value, stopped ≠ some (.ok value)) ∧
      cloud.until attempt.fails (mint row >>= next) = (stopped, cloud)) ∨
    ∃ after, Inserts row cloud after ∧ after.records = cloud.records ∧
      (cloud.until attempt.fails (mint row >>= next) =
          after.until attempt.fails (next row.id) ∨
        cloud.until attempt.fails (mint row >>= next) = (none, after) ∧
          ∃ lost ∈ attempt.fault, lost.strands = true) := by
  have hserving : Cloud.serving (.database (.insertQuestion row)) cloud =
      cloud.execute (.insertQuestion row) := rfl
  rw [mint, bind_assoc, query, sql, Program.await_bind, Cloud.until, Program.runFailing,
    hserving]
  cases hfails : attempt.fails (.database (.insertQuestion row)) with
  | none =>
      obtain ⟨failure, hexecute⟩ | ⟨after, hexecute, hinserts, hrecords⟩ :=
        insertQuestion_execute cloud row
      · rw [hexecute]
        exact .inl ⟨some (.error .internal), by simp, rfl⟩
      · rw [hexecute]
        exact .inr ⟨after, hinserts, hrecords, .inl rfl⟩
  | some applied =>
      obtain ⟨await, hfault, hhits⟩ := Attempt.fails_eq_some hfails
      cases applied with
      | false => exact .inl ⟨none, by simp, rfl⟩
      | true =>
          obtain ⟨failure, hexecute⟩ | ⟨after, hexecute, hinserts, hrecords⟩ :=
            insertQuestion_execute cloud row
          · rw [hexecute]
            exact .inl ⟨none, by simp, rfl⟩
          · rw [hexecute]
            refine .inr ⟨after, hinserts, hrecords, .inr ⟨rfl, _, hfault, ?_⟩⟩
            rw [Await.hits_insertQuestion hhits]
            rfl

theorem mintOnce_effect {request : QuestionRequest} (attempt : Attempt)
    (hcompose : request.compose cloud.database.creators = .ok row) :
    ∃ result after, cloud.until attempt.fails (mintOnce request row) = (result, after) ∧
      Effect request attempt.fault cloud after (idOf result) := by
  have hstop {stopped : Option (Except Failure (Text × Bool))}
      (hstopped : ∀ value, stopped ≠ some (.ok value)) : idOf stopped = none := by
    rw [idOf]
    exact hstopped
  rw [mintOnce]
  cases hkey : parseIdempotencyKey request.idempotencyKey with
  | none =>
      have hmints : request.mints cloud.backend = some row := by
        rw [QuestionRequest.mints, Cloud.backend, hcompose, hkey]
      have hafter : recordsAfter request cloud.records row.id = cloud.records := by
        rw [recordsAfter, hkey]
      obtain ⟨stopped, hstopped, hrun⟩ | ⟨after, hinserts, hrecords, hrun⟩ :=
        until_mint attempt cloud row fun id => .ret (id, false)
      · refine ⟨stopped, cloud, hrun, ?_⟩
        rw [hstop hstopped]
        exact .quiet rfl rfl
      · obtain hrun | ⟨hrun, hlost⟩ := hrun
        · refine ⟨_, after, hrun, ?_⟩
          exact .minted hmints hinserts (hrecords.trans hafter.symm) (by simp [idOf])
        · exact ⟨none, after, hrun, .stranded hmints hinserts hrecords hlost⟩
  | some key =>
      simp only
      rw [withIdempotency, until_call]
      cases hread : attempt.fails (.getRecord _ _) with
      | some applied =>
          refine ⟨none, cloud, ?_, .quiet rfl rfl⟩
          cases applied <;> rfl
      | none =>
          cases hrecorded : recorded cloud.records request.now request.asker key with
          | some value =>
              have hjoin : (cloud.records.get request.now
                (storeKey request.asker key)).join = some value := hrecorded
              refine ⟨some (.ok (value, true)), cloud, ?_, ?_⟩
              · simp only [Cloud.serve, hjoin]
                rfl
              · exact .replayed hkey hrecorded rfl rfl
          | none =>
              have hjoin : (cloud.records.get request.now
                (storeKey request.asker key)).join = none := hrecorded
              have hmints : request.mints cloud.backend = some row := by
                rw [QuestionRequest.mints, Cloud.backend, hcompose, hkey]
                simp only [hrecorded]
                rfl
              have hafter : recordsAfter request cloud.records row.id =
                  cloud.records.put request.now (storeKey request.asker key) row.id
                    IDEMPOTENCY_TTL_SECONDS := by
                rw [recordsAfter, hkey]
              simp only [Cloud.serve, hjoin]
              obtain ⟨stopped, hstopped, hrun⟩ | ⟨after, hinserts, hrecords, hrun⟩ :=
                until_mint attempt cloud row fun id =>
                  call (.putRecord (storeKey request.asker key) request.now id
                    IDEMPOTENCY_TTL_SECONDS) >>= fun _ => .ret (id, false)
              · refine ⟨stopped, cloud, hrun, ?_⟩
                rw [hstop hstopped]
                exact .quiet rfl rfl
              · have hput : after.records.put request.now (storeKey request.asker key) row.id
                    IDEMPOTENCY_TTL_SECONDS = recordsAfter request cloud.records row.id := by
                  rw [hrecords, hafter]
                obtain hrun | ⟨hrun, hlost⟩ := hrun
                · rw [until_call] at hrun
                  cases hwrite : attempt.fails (.putRecord (storeKey request.asker key)
                      request.now row.id IDEMPOTENCY_TTL_SECONDS) with
                  | none =>
                      rw [hwrite] at hrun
                      exact ⟨_, _, hrun, .minted hmints hinserts hput
                        (by simp [idOf])⟩
                  | some applied =>
                      rw [hwrite] at hrun
                      obtain ⟨await, hfault, hhits⟩ := Attempt.fails_eq_some hwrite
                      rw [Await.hits_putRecord hhits] at hfault
                      cases applied with
                      | true =>
                          exact ⟨none, _, hrun, .minted hmints hinserts hput
                            (by simp [idOf])⟩
                      | false =>
                          exact ⟨none, _, hrun, .stranded hmints hinserts hrecords
                            ⟨_, hfault, rfl⟩⟩
                · exact ⟨none, after, hrun, .stranded hmints hinserts hrecords hlost⟩

end Mint

section Attempt

variable {fails : Operation → Option Bool} {before after cloud : Cloud}

/-- Effects are about the database and the records only. -/
theorem Effect.of_counters {request : QuestionRequest} {fault : Option Fault}
    {counters : Kv ℕ} {returned : Option Text}
    (heffect : Effect request fault { before with counters } after returned) :
    Effect request fault before after returned := by
  cases heffect with
  | quiet hdatabase hrecords => exact .quiet hdatabase hrecords
  | replayed hkey hrecorded hdatabase hrecords =>
      exact .replayed hkey hrecorded hdatabase hrecords
  | minted hmints hinserts hrecords hreturned =>
      exact .minted hmints hinserts hrecords hreturned
  | stranded hmints hinserts hrecords hlost =>
      exact .stranded hmints hinserts hrecords hlost

theorem until_respond (rateLimit : Option RateLimitResult) (handler : Handler View) :
    cloud.until fails (respond rateLimit handler) =
      ((cloud.until fails handler).1.map fun outcome =>
          .ok ({ rateLimit, outcome } : Response),
        (cloud.until fails handler).2) := by
  rw [respond, Cloud.until, Program.runFailing_handle, Program.runFailing_bind,
    ← Cloud.until]
  cases cloud.until fails handler with
  | mk result after =>
      cases result with
      | none => rfl
      | some outcome => cases outcome <;> rfl

/-- The id in what a handler comes to. -/
def createdIn : Option (Except Failure View) → Option Text
  | some (.ok (.created id)) => some id
  | _ => none

theorem postQuestions_effect (attempt : Attempt) (request : QuestionRequest)
    (cloud : Cloud) :
    ∃ result after, cloud.until attempt.fails (postQuestions request) = (result, after) ∧
      Effect request attempt.fault cloud after (idOf result) := by
  rw [postQuestions_eq, until_bind]
  obtain hrun | hrun := @until_composeRow attempt.fails cloud request
  · rw [hrun]
    exact ⟨none, cloud, rfl, .quiet rfl rfl⟩
  · rw [hrun]
    cases hcompose : request.compose cloud.database.creators with
    | error failure => exact ⟨some (.error failure), cloud, rfl, .quiet rfl rfl⟩
    | ok row => exact mintOnce_effect attempt hcompose

theorem handling_effect (runtime : Runtime) (attempt : Attempt) (cloud : Cloud) :
    ∃ result after, cloud.until attempt.fails (attempt.handling runtime) =
        (result, after) ∧
      ((createdIn result = none ∧ after = cloud) ∨
        ∃ asker, attempt.context.wallet = some asker ∧
          Effect (attempt.request asker) attempt.fault cloud after (createdIn result)) := by
  rw [Attempt.handling]
  split
  · exact ⟨_, cloud, rfl, .inl ⟨rfl, rfl⟩⟩
  · rw [handler, requireAuth]
    cases hwallet : attempt.context.wallet with
    | none => exact ⟨_, cloud, rfl, .inl ⟨rfl, rfl⟩⟩
    | some asker =>
        obtain ⟨result, after, hrun, heffect⟩ :=
          postQuestions_effect attempt (attempt.request asker) cloud
        have hbind := @until_bind _ _ attempt.fails cloud _
          (postQuestions (attempt.request asker)) fun created => .ret (View.created created.1)
        rw [hrun] at hbind
        cases result with
        | none => exact ⟨_, _, hbind, .inr ⟨asker, rfl, heffect⟩⟩
        | some outcome =>
            cases outcome with
            | error failure => exact ⟨_, _, hbind, .inr ⟨asker, rfl, heffect⟩⟩
            | ok created => exact ⟨_, _, hbind, .inr ⟨asker, rfl, heffect⟩⟩

theorem returnedId_map (rateLimit : Option RateLimitResult)
    (result : Option (Except Failure View)) :
    Attempt.returnedId (result.map fun outcome =>
      .ok ({ rateLimit, outcome } : Response)) = createdIn result := by
  cases result with
  | none => rfl
  | some outcome =>
      cases outcome with
      | error failure => rfl
      | ok view => cases view <;> rfl

/-- Everything an attempt can come to. -/
theorem Attempt.serve_effect (runtime : Runtime) (attempt : Attempt) (cloud : Cloud) :
    ∃ result after, attempt.serve runtime cloud = (result, after) ∧
      ((returnedId result = none ∧ after.database = cloud.database ∧
          after.records = cloud.records) ∨
        attempt.admitted cloud = true ∧ ∃ asker, attempt.context.wallet = some asker ∧
          Effect (attempt.request asker) attempt.fault cloud after
            (returnedId result)) := by
  rw [serve, ipLimit, ← Cloud.until, until_bind]
  obtain ⟨counters, limited, hconsume, hadmitted⟩ :=
    @until_consume Empty attempt.fails cloud attempt
  rw [hconsume]
  cases limited with
  | none => exact ⟨_, _, rfl, .inl ⟨rfl, rfl, rfl⟩⟩
  | some limited =>
      cases limited with
      | error failure => exact failure.elim
      | ok limited =>
          simp only
          cases hallowed : limited.allowed with
          | false =>
              exact ⟨_, _, rfl, .inl ⟨rfl, rfl, rfl⟩⟩
          | true =>
              rw [if_pos rfl, until_respond]
              obtain ⟨result, after, hrun, hcases⟩ :=
                handling_effect runtime attempt { cloud with counters }
              refine ⟨_, after, by rw [hrun], ?_⟩
              rw [returnedId_map]
              obtain ⟨hnone, rfl⟩ | ⟨asker, hwallet, heffect⟩ := hcases
              · exact .inl ⟨hnone, rfl, rfl⟩
              · exact .inr ⟨(hadmitted limited rfl).symm.trans hallowed, asker, hwallet,
                  heffect.of_counters⟩

end Attempt

/-! ## Keys -/

theorem colon_not_mem {raw : Option Text} {key : Text}
    (hkey : parseIdempotencyKey raw = some key) : ':' ∉ key := by
  cases raw with
  | none => cases hkey
  | some raw =>
      rw [parseIdempotencyKey] at hkey
      simp only [Option.ite_none_right_eq_some, Option.some.injEq] at hkey
      obtain ⟨⟨_, _, hchars⟩, rfl⟩ := hkey
      intro hcolon
      exact absurd (List.all_eq_true.mp hchars ':' hcolon) (by decide)

theorem storeKey_inj {wallet other key otherKey : Text} {raw otherRaw : Option Text}
    (hkey : parseIdempotencyKey raw = some key)
    (hother : parseIdempotencyKey otherRaw = some otherKey) :
    storeKey wallet key = storeKey other otherKey ↔ wallet = other ∧ key = otherKey := by
  simp only [storeKey, List.append_assoc, List.cons_append, List.nil_append,
    List.append_cancel_left_eq]
  exact append_last_inj (colon_not_mem hkey) (colon_not_mem hother)

/-- Records and counters share a namespace without meeting. -/
theorem counterKey_ne_storeKey (policy : RateLimitPolicy) (id wallet key : Text)
    (bucket : ℕ) : counterKey policy id bucket ≠ storeKey wallet key := by
  intro hsame
  cases hsame

/-! ## All attempts -/

theorem recorded_later {records : Kv Text} {opened now : ℕ} {wallet key : Text}
    (hopened : recorded records opened wallet key = none) (hlater : opened ≤ now) :
    recorded records now wallet key = none := by
  rw [recorded, Kv.get] at hopened ⊢
  cases hentry : records (storeKey wallet key) with
  | none => rfl
  | some entry =>
      rw [hentry] at hopened
      simp only at hopened ⊢
      by_cases halive : now < entry.expiresAt
      · rw [if_pos (by omega)] at hopened
        rw [if_pos halive, hopened]
      · rw [if_neg halive]
        rfl

/-- Of a pair nothing is minted so far, or one row, whose id is on record. -/
def Settled (opened : ℕ) (wallet key : Text) (cloud : Cloud) : List Text → Prop
  | [] => recorded cloud.records opened wallet key = none
  | [id] => ∃ expiresAt, opened + IDEMPOTENCY_TTL_SECONDS ≤ expiresAt ∧
    cloud.records (storeKey wallet key) = some { value := some id, expiresAt }
  | _ => False

/-- The attempt inserts its row and ends before the record is written. -/
def Attempt.strands (attempt : Attempt) (cloud : Cloud) : Prop :=
  attempt.admitted cloud = true ∧ ∃ asker ∈ attempt.context.wallet,
    ∃ row ∈ (attempt.request asker).mints cloud.backend,
      ((Statement.insertQuestion row).effect cloud.database.toTables).Consistent ∧
        ∃ lost ∈ attempt.fault, lost.strands = true

section Run

variable {runtime : Runtime} {attempt : Attempt} {cloud : Cloud} {wallet key : Text}
variable {opened : ℕ} {ids : List Text}

theorem inserted_quiet (hsame : (retry runtime cloud attempt).database = cloud.database) :
    (attempt.outcome runtime cloud).inserted = [] := by
  rw [retry] at hsame
  simp [Attempt.outcome, hsame]

theorem inserted_row {row : Question}
    (hinserts : Inserts row cloud (retry runtime cloud attempt)) :
    (attempt.outcome runtime cloud).inserted = [row.id] := by
  have htables := (Statement.query_eq_ok.mp hinserts).2.1
  have hquestions : (attempt.serve runtime cloud).2.database.questions =
      cloud.database.questions ++ [row] := congrArg Tables.questions htables
  have hids := (attempt.serve runtime cloud).2.database.consistent.questions_primary
  rw [hquestions, List.map_append, List.nodup_append] at hids
  have hnew : row ∉ cloud.database.questions := fun hrow =>
    hids.2.2 row.id (List.mem_map_of_mem hrow) row.id (by simp) rfl
  rw [Attempt.outcome, hquestions, List.filter_append]
  simp [hnew]

theorem Attempt.effect (runtime : Runtime) (attempt : Attempt) (cloud : Cloud) :
    ((attempt.outcome runtime cloud).returned = none ∧
        (retry runtime cloud attempt).database = cloud.database ∧
        (retry runtime cloud attempt).records = cloud.records) ∨
      attempt.admitted cloud = true ∧ ∃ asker, attempt.context.wallet = some asker ∧
        Effect (attempt.request asker) attempt.fault cloud (retry runtime cloud attempt)
          (attempt.outcome runtime cloud).returned := by
  obtain ⟨result, after, hserve, hcases⟩ := attempt.serve_effect runtime cloud
  rw [outcome, retry, hserve]
  exact hcases

/-- An attempt of another pair leaves the record alone. -/
theorem record_frame (hkey : ∃ raw, parseIdempotencyKey raw = some key)
    (hother : ¬ attempt.IsOf wallet key) :
    (retry runtime cloud attempt).records (storeKey wallet key) =
      cloud.records (storeKey wallet key) := by
  obtain ⟨raw, hkey⟩ := hkey
  obtain ⟨_, _, hrecords⟩ | ⟨_, asker, hwallet, heffect⟩ := attempt.effect runtime cloud
  · rw [hrecords]
  · generalize (attempt.outcome runtime cloud).returned = returned at heffect
    cases heffect with
    | quiet _ hrecords => rw [hrecords]
    | replayed _ _ _ hrecords => rw [hrecords]
    | stranded _ _ hrecords _ => rw [hrecords]
    | minted _ _ hrecords _ =>
        rw [hrecords, recordsAfter]
        cases hown : parseIdempotencyKey (attempt.request asker).idempotencyKey with
        | none => rfl
        | some own =>
            apply Function.update_of_ne
            intro hsame
            obtain ⟨rfl, rfl⟩ := (storeKey_inj hkey hown).mp hsame
            exact hother ⟨hwallet, hown⟩

theorem recorded_settled {id : Text} {now : ℕ}
    (hsettled : Settled opened wallet key cloud [id])
    (hwithin : now < opened + IDEMPOTENCY_TTL_SECONDS) :
    recorded cloud.records now wallet key = some id := by
  obtain ⟨expiresAt, hexpires, hentry⟩ := hsettled
  rw [recorded, Kv.get, hentry]
  simp only
  rw [if_pos (by omega)]
  rfl

/-- What is on record at a time within the reach of the first record. -/
theorem Settled.recorded {now : ℕ} (hsettled : Settled opened wallet key cloud ids)
    (hopened : opened ≤ now) (hwithin : now < opened + IDEMPOTENCY_TTL_SECONDS) :
    recorded cloud.records now wallet key = ids.head? := by
  cases ids with
  | nil => exact recorded_later hsettled hopened
  | cons id ids =>
      cases ids with
      | nil => exact recorded_settled hsettled hwithin
      | cons other ids => exact hsettled.elim

theorem Settled.eq_of_head {id : Text} (hsettled : Settled opened wallet key cloud ids)
    (hhead : ids.head? = some id) : ids = [id] := by
  cases ids with
  | nil => cases hhead
  | cons first ids =>
      cases ids with
      | nil => simpa using hhead
      | cons other ids => exact hsettled.elim

theorem Settled.length_le (hsettled : Settled opened wallet key cloud ids) :
    ids.length ≤ 1 := by
  cases ids with
  | nil => simp
  | cons id ids =>
      cases ids with
      | nil => simp
      | cons second ids => exact hsettled.elim

theorem Settled.of_record {other : Cloud}
    (hsettled : Settled opened wallet key cloud ids)
    (hrecord : other.records (storeKey wallet key) =
      cloud.records (storeKey wallet key)) : Settled opened wallet key other ids := by
  cases ids with
  | nil =>
      rw [Settled, WorkerKit.recorded, Kv.get] at hsettled ⊢
      rwa [hrecord]
  | cons id ids =>
      cases ids with
      | nil =>
          rw [Settled] at hsettled ⊢
          rwa [hrecord]
      | cons second ids => exact hsettled.elim

/-- An attempt of the pair mints its row or finds the row minted before. -/
theorem settled_retry (hsettled : Settled opened wallet key cloud ids)
    (hown : attempt.IsOf wallet key) (hopened : opened ≤ attempt.context.now)
    (hwithin : attempt.context.now < opened + IDEMPOTENCY_TTL_SECONDS)
    (hkept : ¬ attempt.strands cloud) :
    Settled opened wallet key (retry runtime cloud attempt)
        (ids ++ (attempt.outcome runtime cloud).inserted) ∧
      ∀ id ∈ (attempt.outcome runtime cloud).returned,
        ids ++ (attempt.outcome runtime cloud).inserted = [id] := by
  have hrecorded := hsettled.recorded hopened hwithin
  obtain ⟨hreturned, hdatabase, hrecords⟩ | ⟨hadmitted, asker, hwallet, heffect⟩ :=
    attempt.effect runtime cloud
  · rw [inserted_quiet hdatabase, hreturned, List.append_nil]
    exact ⟨hsettled.of_record (congrFun hrecords _), by simp⟩
  · have hasker : asker = wallet := Option.some.inj (hwallet.symm.trans hown.1)
    subst hasker
    have hinserted (hdatabase : (retry runtime cloud attempt).database = cloud.database) :=
      inserted_quiet hdatabase
    generalize (attempt.outcome runtime cloud).returned = returned at heffect ⊢
    cases heffect with
    | quiet hdatabase hrecords =>
        rw [hinserted hdatabase, List.append_nil]
        exact ⟨hsettled.of_record (congrFun hrecords _), by simp⟩
    | @replayed found value hkey hvalue hdatabase hrecords =>
        have hfound : found = key := Option.some.inj (hkey.symm.trans hown.2)
        subst hfound
        have hhead : ids.head? = some value := hrecorded.symm.trans hvalue
        rw [hinserted hdatabase, List.append_nil, hsettled.eq_of_head hhead]
        rw [hsettled.eq_of_head hhead] at hsettled
        exact ⟨hsettled.of_record (congrFun hrecords _), by simp⟩
    | @minted row _ hmints hinserts hrecords hreturned =>
        have hfresh : recorded cloud.records attempt.context.now asker key = none :=
          (mints_spec hmints).2 key hown.2
        have hnil : ids = [] := List.head?_eq_none_iff.mp (hrecorded.symm.trans hfresh)
        have hrecord : (retry runtime cloud attempt).records (storeKey asker key) =
            some {
              value := some row.id
              expiresAt := attempt.context.now + IDEMPOTENCY_TTL_SECONDS } := by
          have hkey : parseIdempotencyKey (attempt.request asker).idempotencyKey =
            some key := hown.2
          rw [hrecords, recordsAfter, hkey]
          exact Function.update_self ..
        rw [hnil, List.nil_append, inserted_row hinserts]
        refine ⟨⟨_, ?_, hrecord⟩, ?_⟩
        · omega
        · intro id hid
          rw [hreturned id hid]
    | stranded hmints hinserts hrecords hlost =>
        have hconsistent := (retry runtime cloud attempt).database.consistent
        rw [(Statement.query_eq_ok.mp hinserts).2.1] at hconsistent
        exact absurd ⟨hadmitted, asker, hwallet, _, hmints, hconsistent, hlost⟩ hkept

/-- The ids that the attempts of a pair insert. -/
def ownIds (wallet key : Text) (outcomes : List (Attempt × Outcome)) : List Text :=
  (outcomes.filter fun outcome => outcome.1.IsOf wallet key).flatMap
    fun outcome => outcome.2.inserted

/-- A run of attempts, started with `ids` minted. -/
theorem outcomes_settled {attempts : List Attempt}
    (hkey : ∃ raw, parseIdempotencyKey raw = some key)
    (hsettled : Settled opened wallet key cloud ids)
    (hwithin : ∀ attempt ∈ attempts, attempt.IsOf wallet key →
      opened ≤ attempt.context.now ∧
        attempt.context.now < opened + IDEMPOTENCY_TTL_SECONDS)
    (hkept : Machine.Meets (retry runtime)
      (fun cloud attempt => attempt.IsOf wallet key → ¬ attempt.strands cloud)
      cloud attempts) :
    (ids ++ ownIds wallet key (outcomes runtime cloud attempts)).length ≤ 1 ∧
      ∀ outcome ∈ outcomes runtime cloud attempts, outcome.1.IsOf wallet key →
        ∀ id ∈ outcome.2.returned,
          ids ++ ownIds wallet key (outcomes runtime cloud attempts) = [id] := by
  induction attempts generalizing cloud ids with
  | nil =>
      refine ⟨?_, by simp [outcomes]⟩
      rw [outcomes, ownIds, List.filter_nil, List.flatMap_nil, List.append_nil]
      exact hsettled.length_le
  | cons attempt attempts ih =>
      obtain ⟨hfirst, hrest⟩ := hkept
      have hlater : ∀ other ∈ attempts, other.IsOf wallet key →
          opened ≤ other.context.now ∧
            other.context.now < opened + IDEMPOTENCY_TTL_SECONDS :=
        fun other hother => hwithin other (by simp [hother])
      rw [outcomes]
      by_cases hown : attempt.IsOf wallet key
      · obtain ⟨hopened, htime⟩ := hwithin attempt (by simp) hown
        obtain ⟨hnext, hreturned⟩ :=
          settled_retry hsettled hown hopened htime (hfirst hown)
        obtain ⟨hlength, hothers⟩ := ih hnext hlater hrest
        have hids : ids ++ ownIds wallet key
            ((attempt, attempt.outcome runtime cloud) ::
              outcomes runtime (retry runtime cloud attempt) attempts) =
            ids ++ (attempt.outcome runtime cloud).inserted ++
              ownIds wallet key
                (outcomes runtime (retry runtime cloud attempt) attempts) := by
          simp [ownIds, hown]
        rw [hids]
        refine ⟨hlength, ?_⟩
        intro outcome houtcome hmine id hid
        obtain rfl | houtcome := List.mem_cons.mp houtcome
        · rw [hreturned id hid] at hlength ⊢
          have hnil : (ownIds wallet key
              (outcomes runtime (retry runtime cloud attempt) attempts)).length = 0 := by
            simpa using hlength
          rw [List.length_eq_zero_iff.mp hnil, List.append_nil]
        · exact hothers outcome houtcome hmine id hid
      · have hframe := @record_frame runtime attempt cloud wallet key hkey hown
        have hnext := hsettled.of_record hframe
        obtain ⟨hlength, hothers⟩ := ih hnext hlater hrest
        have hids : ownIds wallet key
            ((attempt, attempt.outcome runtime cloud) ::
              outcomes runtime (retry runtime cloud attempt) attempts) =
            ownIds wallet key
              (outcomes runtime (retry runtime cloud attempt) attempts) := by
          simp [ownIds, hown]
        rw [hids]
        refine ⟨hlength, ?_⟩
        intro outcome houtcome hmine id hid
        obtain rfl | houtcome := List.mem_cons.mp houtcome
        · exact absurd hmine hown
        · exact hothers outcome houtcome hmine id hid

end Run

/-- In attempts made one after the other within the lifetime of a record, those of a
wallet with a key insert at most one row and return its id, whatever the others do,
provided none of them inserts its row and ends before the record is written.  No
other pair and no counter has the record's key. -/
theorem retries_mint_once (runtime : Runtime) (attempts : List Attempt) (cloud : Cloud)
    (wallet key : Text) (opened : ℕ)
    (hkey : ∃ raw, parseIdempotencyKey raw = some key)
    (hopened : recorded cloud.records opened wallet key = none)
    (hwithin : ∀ attempt ∈ attempts, attempt.IsOf wallet key →
      opened ≤ attempt.context.now ∧
        attempt.context.now < opened + IDEMPOTENCY_TTL_SECONDS)
    (hkept : Machine.Meets (retry runtime)
      (fun cloud attempt => attempt.IsOf wallet key → ¬ attempt.strands cloud)
      cloud attempts) :
    (ownIds wallet key (outcomes runtime cloud attempts)).length ≤ 1 ∧
      (∀ outcome ∈ outcomes runtime cloud attempts, outcome.1.IsOf wallet key →
        ∀ id ∈ outcome.2.returned,
          ownIds wallet key (outcomes runtime cloud attempts) = [id]) ∧
      (∀ raw other otherKey, parseIdempotencyKey raw = some otherKey →
        storeKey other otherKey = storeKey wallet key →
          other = wallet ∧ otherKey = key) ∧
      (∀ policy id bucket, counterKey policy id bucket ≠ storeKey wallet key) ∧
      ∀ (attempt : Attempt) (cloud : Cloud), ¬ attempt.IsOf wallet key →
        (retry runtime cloud attempt).records (storeKey wallet key) =
          cloud.records (storeKey wallet key) := by
  have hsettled : Settled opened wallet key cloud [] := hopened
  obtain ⟨hlength, hreturned⟩ := outcomes_settled hkey hsettled hwithin hkept
  refine ⟨hlength, hreturned, ?_, ?_, fun attempt cloud => record_frame hkey⟩
  · intro raw other otherKey hother hsame
    obtain ⟨_, hkey⟩ := hkey
    exact (storeKey_inj hother hkey).mp hsame
  · exact fun policy id bucket => counterKey_ne_storeKey policy id wallet key bucket

namespace Sample

def otherUuid : Text := "9f1c2f7e-0a51-4b0e-8a6c-0d2f5f6e7a11".toList

/-- An attempt of one caller with one key. -/
def attempt (uuid : Text) (now : ℕ) (fault : Option Fault) : Attempt where
  context := { clientIp := [], wallet := some question.askerWallet, now }
  idempotencyKey := some "retry-0001".toList
  body := .object {
    handle := some (.string creator.handle), body := some (.string "Why?".toList)
    amountUsdc := some (.string "5000000".toList), chainId := none }
  uuid := uuid
  fault := fault

/-- The second attempt finds no record of the first. -/
def lostWrite : List Attempt :=
  [attempt uuid 10 (some ⟨.recordWrite, false⟩), attempt otherUuid 20 none]

/-- The second attempt finds the record of the first, whose reply was lost. -/
def lostReply : List Attempt :=
  [attempt uuid 10 (some ⟨.recordWrite, true⟩), attempt otherUuid 20 none]

theorem attempts_within {fault : Option Fault} :
    ∀ sent ∈ [attempt uuid 10 fault, attempt otherUuid 20 none],
      10 ≤ sent.context.now ∧ sent.context.now < 10 + IDEMPOTENCY_TTL_SECONDS := by
  intro sent hsent
  obtain rfl | rfl := List.mem_pair.mp hsent
  · exact ⟨le_rfl, by simp [attempt, IDEMPOTENCY_TTL_SECONDS]⟩
  · exact ⟨by simp [attempt], by simp [attempt, IDEMPOTENCY_TTL_SECONDS]⟩

end Sample

theorem retries_mint_once_sample :
    (ownIds Sample.question.askerWallet "retry-0001".toList
      (outcomes Sample.runtime Sample.cloud Sample.lostReply)).length ≤ 1 := by
  have hwrite : ∀ cloud, ¬ (Sample.attempt Sample.uuid 10
      (some ⟨.recordWrite, true⟩)).strands cloud := by
    rintro cloud ⟨_, _, _, _, _, _, lost, hlost, hstrands⟩
    cases hlost
    cases hstrands
  have hnone : ∀ cloud, ¬ (Sample.attempt Sample.otherUuid 20 none).strands cloud := by
    rintro cloud ⟨_, _, _, _, _, _, lost, hlost, _⟩
    cases hlost
  exact (retries_mint_once Sample.runtime Sample.lostReply Sample.cloud
    Sample.question.askerWallet "retry-0001".toList 10
    ⟨some "retry-0001".toList, by decide⟩ rfl
    (fun sent hsent _ => Sample.attempts_within sent hsent)
    ⟨fun _ => hwrite _, fun _ => hnone _, trivial⟩).1

/-- A failed write of the record makes the retry mint a second row. -/
theorem lost_write_mints_twice : ¬ ∀ (runtime : Runtime) (attempts : List Attempt)
    (cloud : Cloud) (wallet key : Text) (opened : ℕ),
    (∃ raw, parseIdempotencyKey raw = some key) →
    recorded cloud.records opened wallet key = none →
    (∀ attempt ∈ attempts, attempt.IsOf wallet key →
      opened ≤ attempt.context.now ∧
        attempt.context.now < opened + IDEMPOTENCY_TTL_SECONDS) →
    (ownIds wallet key (outcomes runtime cloud attempts)).length ≤ 1 := by
  intro hclaim
  have hone := hclaim Sample.runtime Sample.lostWrite Sample.cloud
    Sample.question.askerWallet "retry-0001".toList 10
    ⟨some "retry-0001".toList, by decide⟩ rfl
    fun sent hsent _ => Sample.attempts_within sent hsent
  have htwo : ownIds Sample.question.askerWallet "retry-0001".toList
      (outcomes Sample.runtime Sample.cloud Sample.lostWrite) =
      [Sample.uuid, Sample.otherUuid] := by
    decide +kernel
  rw [htwo] at hone
  exact absurd hone (by decide)

end BuyAnAnswer.Workers
