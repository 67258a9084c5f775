import BuyAnAnswer.Workers.Routes

/-!
# Signing in

A wallet signs a message that contains a nonce the API has issued; verifying it
consumes the nonce and opens a session.  Nonces and sessions live in a key-value
store that knows `get`, `put` and `delete`, and any number of requests run
interleaved over it.
-/

namespace BuyAnAnswer.Workers

open Text Shared WorkerKit Api

/-! ## The library -/

/-- The fields of a parsed message that are read. -/
structure SiweMessage where
  domain : Option Text
  address : Option Text
  nonce : Option Text
  chainId : Option ℕ
  expirationTime : Option ℕ
  notBefore : Option ℕ
  deriving DecidableEq, Repr

/-- A message is bound to a domain and a nonce, and is good at a time. -/
structure SiweMessage.Binds (fields : SiweMessage) (domain nonce : Text) (time : ℕ) :
    Prop where
  domain : fields.domain = some domain
  nonce : fields.nonce = some nonce
  expirationTime : ∀ expiry ∈ fields.expirationTime, time < expiry
  notBefore : ∀ start ∈ fields.notBefore, start ≤ time

/-- The functions of `viem`, and what the account contracts say of signatures.  A
validated message is bound to the domain and the nonce it was validated for, and a
checksum is a matter of upper and lower case. -/
structure Viem where
  parseSiweMessage : Text → SiweMessage
  validateSiweMessage : SiweMessage → (domain nonce : Text) → (time : ℕ) → Bool
  /-- The checksummed address; `none` is an exception. -/
  getAddress : Text → Option Text
  /-- The signer of a message; `none` is an exception. -/
  recoverMessageAddress : (message signature : Text) → Option Text
  verifyMessage : (chainId : ℕ) → (address message signature : Text) → Bool
  validates : ∀ {fields domain nonce time}, domain ≠ [] → nonce ≠ [] →
    validateSiweMessage fields domain nonce time = true → fields.Binds domain nonce time
  checksums : ∀ {address claimed}, getAddress address = some claimed →
    toLowerCase claimed = toLowerCase address

/-! ## The services -/

/-- A value of the `SESSIONS` namespace: `"1"`, or a wallet. -/
inductive Stored where
  | mark
  | session (wallet : Text)
  deriving DecidableEq, Repr

/-- What the API asks of the services that it does not share with the other
workers.  A `put` notes the nonce of the message that opens a session; nothing but
the journal has it. -/
inductive GateOperation where
  | now
  | get (key : Text)
  | put (key : Text) (value : Stored) (expirationTtl : ℕ) (noted : Option Text)
  | delete (key : Text)
  | verifyMessage (chainId : ℕ) (address message signature : Text)
  | getChainId (chainId : ℕ)
  | fetchIndexer
  deriving DecidableEq

@[reducible]
def GateOperation.Reply : GateOperation → Type
  | .now => ℕ
  | .get _ => Option (Option Stored)
  | .verifyMessage _ _ _ _ | .getChainId _ => Bool
  | .fetchIndexer => Option Bool
  | _ => Unit

abbrev gate : Interface where
  Operation := GateOperation
  Reply := GateOperation.Reply

/-- All that the API asks for. -/
abbrev api : Interface := workers.sum gate

/-- Code of the API. -/
abbrev ApiCode (A : Type) := Program api Failure A

def ask {Failure : Type} (operation : GateOperation) :
    Program api Failure operation.Reply :=
  .await (.inr operation) .ret

@[simp]
theorem ask_bind {Failure A : Type} (operation : GateOperation)
    (next : operation.Reply → Program api Failure A) :
    ask operation >>= next = .await (.inr operation) next := rfl

def ApiCode.refuse {A : Type} (status : ℕ) (code message : String) : ApiCode A :=
  .fail (.api { status, code, message })

/-! ## Nonces and sessions -/

def nonceKey (nonce : Text) : Text := "nonce:".toList ++ nonce

def sessionKey (token : Text) : Text := "session:".toList ++ token

/-- Store a freshly issued nonce. -/
def issueNonce (nonce : Text) (ttlSeconds : ℕ) : ApiCode Unit :=
  ask (.put (nonceKey nonce) .mark ttlSeconds none)

/-- Consume a nonce; `false` if there is none. -/
def consumeNonce (nonce : Text) : ApiCode Bool := do
  let found ← ask (.get (nonceKey nonce))
  match found with
  | none => return false
  | some _ => do
    ask (.delete (nonceKey nonce))
    return true

/-- Open a session for `wallet`, after a message with this nonce. -/
def createSession (token wallet : Text) (ttlSeconds : ℕ) (nonce : Text) :
    ApiCode Text := do
  ask (.put (sessionKey token) (.session wallet) ttlSeconds (some nonce))
  return token

def destroySession (token : Text) : ApiCode Unit :=
  ask (.delete (sessionKey token))

/-! ## Messages -/

/-- The API's configuration; the lifetimes are what `Number.parseInt` makes of the
variables, if that is finite. -/
structure Env where
  NONCE_TTL_SECONDS : Option ℕ
  SESSION_TTL_SECONDS : Option ℕ
  RPC_URL_BASE : Option Text
  RPC_URL_BASE_SEPOLIA : Option Text

def ttlFromEnv (value : Option ℕ) (fallback : ℕ) : ℕ :=
  match value with
  | some seconds => if 60 ≤ seconds then seconds else fallback
  | none => fallback

def Env.rpcUrlForChain (env : Env) (chainId : ℕ) : Option Text :=
  let url := if chainId = 8453 then env.RPC_URL_BASE else env.RPC_URL_BASE_SEPOLIA
  (url.map trim).filter fun url => url ≠ []

/-- The recovered signer, if it is the address that the message names. -/
def Viem.recovers (viem : Viem) (message signature claimed : Text) : Option Text :=
  (viem.recoverMessageAddress message signature).filter fun recovered =>
    viem.getAddress recovered = some claimed

structure VerifySiweParams where
  message : Text
  signature : Text
  domain : Text
  nonce : Text
  rpcUrl : Option Text

/-- Ask the account contract. -/
def askContract (params : VerifySiweParams) (chainId : ℕ) (claimed : Text) :
    ApiCode (Except String Text) := do
  match params.rpcUrl with
  | none => return .error "signature_mismatch"
  | some _ => do
    let valid ← ask (.verifyMessage chainId claimed params.message params.signature)
    if valid then return .ok (toLowerCase claimed)
    else do
      let reachable ← ask (.getChainId chainId)
      return .error (if reachable then "signature_mismatch" else "verification_unavailable")

/-- Verify a message and its signature; returns the address of the signer. -/
def verifySiwe (viem : Viem) (params : VerifySiweParams) :
    ApiCode (Except String Text) := do
  let fields := viem.parseSiweMessage params.message
  match fields.address with
  | none | some [] => return .error "missing_address"
  | some address => do
    let time ← ask .now
    if viem.validateSiweMessage fields params.domain params.nonce time = false then
      return .error "invalid_message"
    else
      match fields.chainId.filter fun chainId => chainId ∈ ALLOWED_CHAIN_IDS with
      | none => return .error "unsupported_chain"
      | some chainId =>
        match viem.getAddress address with
        | none => .fail .internal
        | some claimed =>
          match viem.recovers params.message params.signature claimed with
          | some recovered => return .ok (toLowerCase recovered)
          | none => askContract params chainId claimed

/-! ## The routes -/

namespace LIMITS

def authNonce : RateLimitPolicy := ⟨"auth_nonce", 30, 60⟩

def authVerify : RateLimitPolicy := ⟨"auth_verify", 10, 60⟩

end LIMITS

def NONCE_TTL_SECONDS : ℕ := 600

def SESSION_TTL_SECONDS : ℕ := 60 * 60 * 24 * 7

/-- A request to verify a message; the host of a URL is not empty. -/
structure VerifyRequest where
  body : RequestBody VerifyFields
  host : Text
  host_ne : host ≠ []
  /-- The random token for the session. -/
  token : Text

inductive AuthView where
  | nonce (nonce : Text)
  | signedIn (wallet token : Text) (maxAge : ℕ)
  | signedOut
  deriving DecidableEq, Repr

/-- A response to a request. -/
structure Answered (A : Type) where
  rateLimit : Option RateLimitResult
  outcome : Except Failure A

/-- `POST /auth/nonce` -/
def postNonce (env : Env) (nonce : Text) : ApiCode AuthView := do
  issueNonce nonce (ttlFromEnv env.NONCE_TTL_SECONDS NONCE_TTL_SECONDS)
  return .nonce nonce

/-- What a route makes of a verified message. -/
def openSession (env : Env) (token nonce : Text) : Except String Text → ApiCode AuthView
  | .error error => .refuse 401 "siwe_failed" error
  | .ok address => do
    let ttl := ttlFromEnv env.SESSION_TTL_SECONDS SESSION_TTL_SECONDS
    let token ← createSession token address ttl nonce
    return .signedIn address token ttl

/-- `POST /auth/verify` -/
def postVerify (viem : Viem) (env : Env) (request : VerifyRequest) :
    ApiCode AuthView := do
  let body ← .ofExcept (parseBody verifyBody request.body)
  let fields := viem.parseSiweMessage body.message
  match fields.nonce with
  | none | some [] => .refuse 400 "missing_nonce" "missing_nonce"
  | some nonce => do
    let fresh ← consumeNonce nonce
    if fresh then do
      let result ← verifySiwe viem {
        message := body.message, signature := body.signature
        domain := request.host, nonce
        rpcUrl := fields.chainId.bind env.rpcUrlForChain }
      openSession env request.token nonce result
    else .refuse 401 "invalid_nonce" "nonce unknown, expired, or already used"

/-- `POST /auth/logout` -/
def postLogout (token : Option Text) : ApiCode AuthView := do
  match token with
  | none | some [] => return .signedOut
  | some token => do
    destroySession token
    return .signedOut

/-- The response to what code of the API returns or throws. -/
def ApiCode.respond {A : Type} (rateLimit : Option RateLimitResult) (code : ApiCode A) :
    Program api Empty (Answered A) :=
  (do
    let value ← code
    return { rateLimit, outcome := .ok value } : ApiCode (Answered A)).handle
    fun failure => return { rateLimit, outcome := .error failure }

/-- A route behind the rate limit. -/
def ApiCode.ipLimit {A : Type} (policy : RateLimitPolicy) (clientIp : Text)
    (code : ApiCode A) : Program api Empty (Answered A) := do
  let now ← ask .now
  let result ← (consume policy clientIp now).inLeft gate
  if result.allowed then code.respond (some result)
  else ApiCode.respond (some result) (.fail (.rateLimited result.resetSeconds))

/-! ## Requests side by side -/

/-- A request to sign in or out, with the random values drawn for it. -/
inductive AuthRequest where
  | nonce (clientIp nonce : Text)
  | verify (clientIp : Text) (request : VerifyRequest)
  | logout (token : Option Text)

def handleAuth (viem : Viem) (env : Env) :
    AuthRequest → Program api Empty (Answered AuthView)
  | .nonce clientIp nonce => (postNonce env nonce).ipLimit LIMITS.authNonce clientIp
  | .verify clientIp request =>
    (postVerify viem env request).ipLimit LIMITS.authVerify clientIp
  | .logout token => (postLogout token).respond none

/-- What the services hold, with all that was written to the `SESSIONS`
namespace. -/
structure Gate where
  cloud : Cloud
  sessions : Kv Stored
  clock : ℕ
  journal : List GateOperation

/-- How the networks are when a service is called. -/
structure Weather where
  reachable : Bool := true
  indexer : Option Bool := none
  deriving DecidableEq

namespace Gate

def serve (viem : Viem) (gate : Gate) (weather : Weather) :
    (operation : api.Operation) → api.Reply operation × Gate
  | .inl operation =>
    ((gate.cloud.serve operation).1,
      { gate with cloud := (gate.cloud.serve operation).2 })
  | .inr .now => (gate.clock, gate)
  | .inr (.get key) => (gate.sessions.get gate.clock key, gate)
  | .inr (.put key value expirationTtl noted) =>
    ((), { gate with
      sessions := gate.sessions.put gate.clock key value expirationTtl
      journal := gate.journal ++ [.put key value expirationTtl noted] })
  | .inr (.delete key) =>
    ((), { gate with
      sessions := Function.update gate.sessions key none
      journal := gate.journal ++ [.delete key] })
  | .inr (.verifyMessage chainId address message signature) =>
    (weather.reachable && viem.verifyMessage chainId address message signature, gate)
  | .inr (.getChainId _) => (weather.reachable, gate)
  | .inr .fetchIndexer => (weather.indexer, gate)

/-- Time passes. -/
def tick (gate : Gate) (seconds : ℕ) : Gate := { gate with clock := gate.clock + seconds }

end Gate

/-- Any number of requests over one store; an event is time that passes. -/
def signIn (viem : Viem) (env : Env) :
    @System api Gate AuthRequest (fun _ => Empty) (fun _ => Answered AuthView)
      Weather ℕ where
  program := handleAuth viem env
  exec := fun operation weather gate => some (gate.serve viem weather operation)
  immediate := fun operation gate => gate.serve viem {} operation
  react := fun seconds gate => gate.tick seconds

abbrev AuthPool :=
  @Pool api Gate AuthRequest (fun _ => Empty) fun _ => Answered AuthView

abbrev AuthSchedule := Schedule AuthRequest Weather ℕ

/-- No nonce has been issued and nobody is signed in. -/
def fresh (cloud : Cloud) (clock : ℕ) : AuthPool where
  state := { cloud, sessions := fun _ => none, clock, journal := [] }
  threads := []

end BuyAnAnswer.Workers
