import BuyAnAnswer.Core.Credit
import BuyAnAnswer.Workers.SignIn
import BuyAnAnswer.Workers.System

/-!
# Nonces and sessions

Every live session belongs to the signer of a message that was accepted, and a
nonce opens at most as many sessions as it was consumed.  Consuming is a `get`
followed by a `delete`: a nonce is consumed at most as often as it was issued,
unless two requests read it before either deletes it.
-/

namespace BuyAnAnswer.Workers

open Text Shared WorkerKit Api

/-! ## Who is signed in -/

/-- The message is bound to the domain, the nonce and the time, names a chain that is
allowed, and is signed by the account of `wallet`. -/
structure Viem.Accepts (viem : Viem) (body : VerifyBody) (domain nonce : Text)
    (time : ℕ) (wallet : Text) : Prop where
  binds : (viem.parseSiweMessage body.message).Binds domain nonce time
  signed : ∃ chainId ∈ ALLOWED_CHAIN_IDS, ∃ address claimed,
    (viem.parseSiweMessage body.message).chainId = some chainId ∧
      (viem.parseSiweMessage body.message).address = some address ∧
      viem.getAddress address = some claimed ∧ wallet = toLowerCase address ∧
      ((∃ recovered, viem.recoverMessageAddress body.message body.signature =
          some recovered ∧ viem.getAddress recovered = some claimed) ∨
        viem.verifyMessage chainId claimed body.message body.signature = true)

/-- The message that a request asks to verify. -/
def AuthRequest.verifies : AuthRequest → Option VerifyRequest
  | .verify _ request => some request
  | _ => none

/-- One of the requests carries an accepted message of `wallet`. -/
def Vouched (viem : Viem) (requests : List VerifyRequest) (clock : ℕ) (wallet : Text) :
    Prop :=
  ∃ request ∈ requests, ∃ body nonce, ∃ time ≤ clock,
    parseBody verifyBody request.body = .ok body ∧
      viem.Accepts body request.host nonce time wallet

/-- Whoever is signed in is vouched for. -/
def vouching (viem : Viem) (requests : List VerifyRequest) : Protocol api Gate where
  Invariant := fun gate => ∀ key wallet,
    (gate.sessions key).bind Entry.value = some (.session wallet) →
      Vouched viem requests gate.clock wallet
  Rely := fun before after => before.clock ≤ after.clock
  refl := fun _ => le_rfl
  trans := fun hfirst hsecond => Nat.le_trans hfirst hsecond

theorem api_yields (operation : api.Operation) : api.yields operation = true := by
  cases operation <;> rfl

/-- Whether an operation is on a table of the database, that of the cursors included. -/
def Operation.onTables : Operation → Bool
  | .database _ | .loadCursor _ _ | .saveCursor _ _ _ => true
  | _ => false

/-- The operation leaves the database and the `SESSIONS` namespace alone. -/
def Aside : api.Operation → Prop
  | .inl operation => operation.onTables = false
  | .inr (.get _) | .inr (.put _ _ _ _) | .inr (.delete _) => False
  | _ => True

theorem verifySiwe_uses (viem : Viem) (params : VerifySiweParams) :
    (verifySiwe viem params).Uses Aside := by
  rw [verifySiwe]
  split
  · exact trivial
  · exact trivial
  · refine ⟨trivial, ?_⟩
    intro time
    change Program.Uses Aside (ite _ _ _)
    split
    · exact trivial
    · split
      · exact trivial
      · split
        · exact trivial
        · split
          · exact trivial
          · rw [askContract]
            split
            · exact trivial
            · refine ⟨trivial, ?_⟩
              intro valid
              change Program.Uses Aside (ite _ _ _)
              split
              · exact trivial
              · exact ⟨trivial, fun _ => trivial⟩

theorem aside_consume (policy : RateLimitPolicy) (clientIp : Text) (now : ℕ) :
    ((consume policy clientIp now : Program workers Empty RateLimitResult).inLeft
      gate).Uses Aside := by
  have hconsume : (consume policy clientIp now : Program workers Empty RateLimitResult).Uses
      fun operation : Operation => operation.onTables = false :=
    Program.Uses.bind (uses_call rfl) fun _ => Program.Uses.bind (uses_call rfl) fun _ => trivial
  apply (Program.uses_inLeft hconsume fun _ => False).mono
  intro operation hleft
  cases operation with
  | inl operation => exact hleft
  | inr operation => exact hleft.elim

section Sessions

variable {viem : Viem} {env : Env} {requests : List VerifyRequest} {state : Gate}
variable {Problem A B : Type} {post : Except Problem A → Gate → Prop}

theorem Vouched.mono {clock later : ℕ} {wallet : Text}
    (hvouched : Vouched viem requests clock wallet) (hle : clock ≤ later) :
    Vouched viem requests later wallet := by
  obtain ⟨request, hrequest, body, nonce, time, htime, hfacts⟩ := hvouched
  exact ⟨request, hrequest, body, nonce, time, htime.trans hle, hfacts⟩

/-- The operation opens no session. -/
def OpensNone : api.Operation → Prop
  | .inr (.put _ (.session _) _ _) => False
  | _ => True

theorem opensNone_of_aside {operation : api.Operation} (haside : Aside operation) :
    OpensNone operation := by
  cases operation with
  | inl operation => exact trivial
  | inr operation =>
      cases operation with
      | put => exact haside.elim
      | _ => exact trivial

/-- A `put` keeps the invariant if the wallet that it stores is vouched for. -/
theorem vouching_put {key : Text} {value : Stored} {expirationTtl : ℕ}
    {noted : Option Text} {weather : Weather}
    (hstate : (vouching viem requests).Invariant state)
    (hvalue : ∀ wallet, value = .session wallet →
      Vouched viem requests state.clock wallet) :
    (vouching viem requests).Invariant
      (state.serve viem weather (.inr (.put key value expirationTtl noted))).2 := by
  intro other wallet hother
  by_cases hkey : other = key
  · subst hkey
    simp only [Gate.serve, Kv.put, Function.update_self, Option.bind_some,
      Option.some.injEq] at hother
    exact hvalue wallet hother
  · apply hstate other wallet
    simpa only [Gate.serve, Kv.put, Function.update_of_ne hkey] using hother

theorem vouching_quiet {operation : api.Operation} (hquiet : OpensNone operation)
    (weather : Weather) (hstate : (vouching viem requests).Invariant state) :
    (vouching viem requests).Invariant (state.serve viem weather operation).2 ∧
      (vouching viem requests).Rely state (state.serve viem weather operation).2 := by
  cases operation with
  | inl operation => exact ⟨hstate, le_rfl⟩
  | inr operation =>
      cases operation with
      | put key value expirationTtl noted =>
          refine ⟨vouching_put hstate ?_, le_rfl⟩
          rintro wallet rfl
          exact hquiet.elim
      | delete key =>
          refine ⟨?_, le_rfl⟩
          intro other wallet hother
          by_cases hkey : other = key
          · simp [Gate.serve, hkey] at hother
          · apply hstate other wallet
            simpa only [Gate.serve, Function.update_of_ne hkey] using hother
      | _ => exact ⟨hstate, le_rfl⟩

theorem exec_gate {operation : api.Operation} {weather : Weather}
    {reply : api.Reply operation} {before after : Gate}
    (hexec : (signIn viem env).exec operation weather before = some (reply, after)) :
    reply = (before.serve viem weather operation).1 ∧
      after = (before.serve viem weather operation).2 :=
  Prod.mk.inj (Option.some.inj hexec).symm

/-- The rule for an operation that opens no session. -/
theorem wp_ask {operation : GateOperation}
    {next : operation.Reply → Program api Problem A}
    (hquiet : OpensNone (.inr operation))
    (hnext : ∀ now weather, (vouching viem requests).Invariant now →
      (signIn viem env).wp (vouching viem requests) post
        (next (now.serve viem weather (.inr operation)).1)
        (now.serve viem weather (.inr operation)).2) :
    (signIn viem env).wp (vouching viem requests) post
      (.await (.inr operation) next) state := by
  apply System.wp_await rfl
  intro now _ hinvariant _ weather reply after hexec
  obtain ⟨rfl, rfl⟩ := exec_gate hexec
  obtain ⟨hafter, hrely⟩ := vouching_quiet hquiet weather hinvariant
  exact ⟨hafter, hrely, hnext now weather hinvariant⟩

theorem wp_now {next : ℕ → Program api Problem A}
    (hnext : ∀ now : Gate, (signIn viem env).wp (vouching viem requests) post
      (next now.clock) now) :
    (signIn viem env).wp (vouching viem requests) post (.await (.inr .now) next) state :=
  wp_ask trivial fun now _ _ => hnext now

/-- Code that opens no session. -/
theorem wp_quiet {code : Program api Problem A} (huses : code.Uses OpensNone) :
    (signIn viem env).wp (vouching viem requests) (System.FailsOnly fun _ => True) code
      state := by
  have hcode : (signIn viem env).wp (vouching viem requests) (fun _ _ => True) code
      state := by
    apply System.wp_of_uses huses api_yields
    intro operation hquiet now hnow _ weather reply after hexec
    obtain ⟨rfl, rfl⟩ := exec_gate hexec
    exact vouching_quiet hquiet weather hnow
  apply System.wp_mono hcode
  intro result _ _ _ _
  cases result <;> exact trivial

/-- A verified message is accepted, at the time of the check. -/
theorem wp_verifySiwe {body : VerifyBody} {domain nonce : Text} {rpcUrl : Option Text}
    (hdomain : domain ≠ []) (hnonce : nonce ≠ []) :
    (signIn viem env).wp (vouching viem requests)
      (fun result after => ∀ wallet, result = .ok (.ok wallet) →
        ∃ time ≤ after.clock, viem.Accepts body domain nonce time wallet)
      (verifySiwe viem {
        message := body.message, signature := body.signature, domain, nonce, rpcUrl })
      state := by
  have hrefused (error : String) (later : Gate) : (signIn viem env).wp
      (vouching viem requests)
      (fun result after => ∀ wallet, result = .ok (.ok wallet) →
        ∃ time ≤ after.clock, viem.Accepts body domain nonce time wallet)
      (.ret (.error error) : ApiCode (Except String Text)) later := by
    rintro _ _ _ wallet ⟨⟩
  rw [verifySiwe]
  simp only
  split
  · exact hrefused _ _
  · exact hrefused _ _
  · next address hempty haddress =>
    rw [ask_bind]
    apply wp_now
    intro now
    by_cases hvalid : viem.validateSiweMessage (viem.parseSiweMessage body.message) domain
        nonce now.clock = false
    · rw [if_pos hvalid]
      exact hrefused _ _
    · rw [if_neg hvalid]
      have hbinds := viem.validates hdomain hnonce (Bool.eq_true_of_not_eq_false hvalid)
      split
      · exact hrefused _ _
      · next chainId hchain =>
        obtain ⟨hchain, hallowed⟩ := Option.filter_eq_some_iff.mp hchain
        split
        · rintro _ _ _ wallet ⟨⟩
        · next claimed hclaimed =>
          have haccepts (wallet : Text) (hwallet : wallet = toLowerCase address)
              (hsigned : (∃ recovered, viem.recoverMessageAddress body.message
                  body.signature = some recovered ∧
                  viem.getAddress recovered = some claimed) ∨
                viem.verifyMessage chainId claimed body.message body.signature = true) :
              viem.Accepts body domain nonce now.clock wallet :=
            ⟨hbinds, chainId, by simpa using hallowed, address, claimed, hchain, haddress,
              hclaimed, hwallet, hsigned⟩
          split
          · next recovered hrecovers =>
            obtain ⟨hrecovered, hsame⟩ := Option.filter_eq_some_iff.mp hrecovers
            rw [decide_eq_true_eq] at hsame
            rintro later hlater _ wallet ⟨⟩
            refine ⟨now.clock, hlater, haccepts _ ?_ (.inl ⟨recovered, hrecovered, hsame⟩)⟩
            rw [← viem.checksums hclaimed, viem.checksums hsame]
          · rw [askContract]
            simp only
            split
            · exact hrefused _ _
            · rw [ask_bind]
              apply System.wp_await rfl
              intro current hcurrent hinvariant _ weather reply after hexec
              obtain ⟨hvalid, rfl⟩ := exec_gate hexec
              refine ⟨hinvariant, le_rfl, ?_⟩
              cases reply with
              | false =>
                  rw [if_neg Bool.false_ne_true, ask_bind]
                  apply wp_ask (show OpensNone (.inr (.getChainId chainId)) from trivial)
                  intro later _ _
                  exact hrefused _ _
              | true =>
                  rw [if_pos rfl]
                  rintro later hlater _ wallet ⟨⟩
                  refine ⟨now.clock, hcurrent.trans hlater, haccepts _ ?_ (.inr ?_)⟩
                  · exact viem.checksums hclaimed
                  · exact (Bool.and_eq_true_iff.mp hvalid.symm).2

/-- The session that a verified message opens. -/
theorem wp_openSession {request : VerifyRequest} {body : VerifyBody} {nonce : Text}
    {result : Except String Text} (hrequest : request ∈ requests)
    (hbody : parseBody verifyBody request.body = .ok body)
    (hresult : ∀ wallet, result = .ok wallet →
      ∃ time ≤ state.clock, viem.Accepts body request.host nonce time wallet) :
    (signIn viem env).wp (vouching viem requests) (System.FailsOnly fun _ => True)
      (openSession env request.token nonce result) state := by
  cases result with
  | error error => exact fun _ _ _ => trivial
  | ok wallet =>
      obtain ⟨time, htime, haccepts⟩ := hresult wallet rfl
      apply System.wp_await rfl
      intro now hnow hinvariant _ weather reply after hexec
      obtain ⟨rfl, rfl⟩ := exec_gate hexec
      refine ⟨vouching_put hinvariant ?_, le_rfl, fun _ _ _ => trivial⟩
      rintro _ ⟨⟩
      exact ⟨request, hrequest, body, nonce, time, htime.trans hnow, hbody, haccepts⟩

theorem quiet_consumeNonce (nonce : Text) : (consumeNonce nonce).Uses OpensNone := by
  refine ⟨trivial, ?_⟩
  intro found
  cases found with
  | none => exact trivial
  | some value => exact ⟨trivial, fun _ => trivial⟩

theorem wp_postVerify {request : VerifyRequest} (hrequest : request ∈ requests)
    (hstate : (vouching viem requests).Invariant state) :
    (signIn viem env).wp (vouching viem requests) (System.FailsOnly fun _ => True)
      (postVerify viem env request) state := by
  rw [postVerify]
  cases hbody : parseBody verifyBody request.body with
  | error failure => exact fun _ _ _ => trivial
  | ok body =>
      rw [Program.ofExcept, Program.ret_bind]
      simp only
      split
      · exact fun _ _ _ => trivial
      · exact fun _ _ _ => trivial
      · next nonce hnonce _ =>
        apply System.wp_seq hstate (wp_quiet (quiet_consumeNonce nonce))
        intro consumed later _ hlater
        cases consumed with
        | false => exact fun _ _ _ => trivial
        | true =>
            rw [if_pos rfl]
            apply System.wp_bind hlater
            apply System.wp_mono (wp_verifySiwe request.host_ne hnonce)
            intro result after _ hafter hresult
            cases result with
            | error failure => exact trivial
            | ok result =>
                apply wp_openSession hrequest hbody
                rintro wallet rfl
                exact hresult wallet rfl

theorem wp_answered {rateLimit : Option RateLimitResult} {code : ApiCode A}
    (hstate : (vouching viem requests).Invariant state)
    (hcode : (signIn viem env).wp (vouching viem requests) (System.FailsOnly fun _ => True)
      code state) :
    (signIn viem env).wp (vouching viem requests) (System.FailsOnly fun _ => True)
      (code.respond rateLimit) state := by
  apply System.wp_handle hstate
  apply System.wp_bind hstate
  apply System.wp_mono hcode
  intro result _ _ _ _
  cases result with
  | ok value => exact fun _ _ _ => trivial
  | error failure => exact fun _ _ _ => trivial

theorem wp_limited {policy : RateLimitPolicy} {clientIp : Text} {code : ApiCode A}
    (hcode : ∀ later, (vouching viem requests).Invariant later →
      (signIn viem env).wp (vouching viem requests) (System.FailsOnly fun _ => True)
        code later) :
    (signIn viem env).wp (vouching viem requests) (System.FailsOnly fun _ => True)
      (code.ipLimit policy clientIp) state := by
  rw [ApiCode.ipLimit, ask_bind]
  apply wp_ask (show OpensNone (.inr .now) from trivial)
  intro now _ hnow
  apply System.wp_seq hnow
    (wp_quiet ((aside_consume policy clientIp _).mono fun _ => opensNone_of_aside))
  intro result later _ hlater
  split
  · exact wp_answered hlater (hcode later hlater)
  · exact wp_answered hlater fun _ _ _ => trivial

theorem wp_handleAuth {request : AuthRequest}
    (hrequest : ∀ verify ∈ request.verifies, verify ∈ requests)
    (hstate : (vouching viem requests).Invariant state) :
    (signIn viem env).wp (vouching viem requests) (System.FailsOnly fun _ => True)
      (handleAuth viem env request) state := by
  cases request with
  | nonce clientIp nonce =>
      apply wp_limited
      intro later _
      have hquiet : (postNonce env nonce).Uses OpensNone := ⟨trivial, fun _ => trivial⟩
      exact wp_quiet hquiet
  | verify clientIp request =>
      apply wp_limited
      intro later hlater
      exact wp_postVerify (hrequest request rfl) hlater
  | logout token =>
      apply wp_answered hstate
      have hquiet : (postLogout token).Uses OpensNone := by
        obtain _ | _ | _ := token
        · exact trivial
        · exact trivial
        · exact ⟨trivial, fun _ => trivial⟩
      exact wp_quiet hquiet

end Sessions

/-- The requests that a schedule launches. -/
def verified (schedule : List AuthSchedule) : List VerifyRequest :=
  schedule.filterMap fun
    | .launch request => request.verifies
    | _ => none

/-- In every schedule whoever is signed in was vouched for. -/
theorem sessions_vouched (viem : Viem) (env : Env) (cloud : Cloud) (clock : ℕ)
    (schedule : List AuthSchedule) :
    (vouching viem (verified schedule)).Invariant
      ((signIn viem env).run (fresh cloud clock) schedule).state := by
  have hstart : (signIn viem env).Orderly (vouching viem (verified schedule))
      (fun _ => System.FailsOnly fun _ => True) (fresh cloud clock) := by
    apply System.Orderly.empty
    rintro key wallet ⟨⟩
  have hmeets : Machine.Meets (signIn viem env).step
      (fun _ action => ∀ request, action = .launch request →
        ∀ verify ∈ request.verifies, verify ∈ verified schedule)
      (fresh cloud clock) schedule := by
    apply Machine.meets_of_forall
    rintro _ hlaunch _ request rfl verify hverify
    exact List.mem_filterMap.mpr ⟨_, hlaunch, hverify⟩
  refine (hstart.run ?_ hmeets).1.invariant
  refine ⟨?_, fun _ _ _ => trivial, ?_⟩
  · intro pool request hlaunch hinvariant
    exact wp_handleAuth (hlaunch request rfl) hinvariant
  · intro pool seconds _ hinvariant
    refine ⟨?_, Nat.le_add_right _ _⟩
    intro key wallet hsession
    exact (hinvariant key wallet hsession).mono (Nat.le_add_right _ _)

/-! ## What the journal tells -/

namespace GateOperation

/-- The operation stores the nonce. -/
def issues (nonce : Text) : GateOperation → Bool
  | .put key _ _ _ => key = nonceKey nonce
  | _ => false

/-- The operation takes the nonce out. -/
def consumes (nonce : Text) : GateOperation → Bool
  | .delete key => key = nonceKey nonce
  | _ => false

/-- The operation opens a session for a message with the nonce. -/
def opens (nonce : Text) : GateOperation → Bool
  | .put _ _ _ noted => noted = some nonce
  | _ => false

end GateOperation

namespace Gate

/-- How often a nonce was issued. -/
def issued (gate : Gate) (nonce : Text) : ℕ :=
  gate.journal.countP (GateOperation.issues nonce)

/-- How often a nonce was consumed. -/
def consumed (gate : Gate) (nonce : Text) : ℕ :=
  gate.journal.countP (GateOperation.consumes nonce)

/-- How many sessions were opened with a nonce. -/
def opened (gate : Gate) (nonce : Text) : ℕ :=
  gate.journal.countP (GateOperation.opens nonce)

end Gate

/-- What an operation writes to the journal. -/
def written : api.Operation → List GateOperation
  | .inr (.put key value expirationTtl noted) => [.put key value expirationTtl noted]
  | .inr (.delete key) => [.delete key]
  | _ => []

theorem journal_serve (viem : Viem) (gate : Gate) (weather : Weather)
    (operation : api.Operation) :
    (gate.serve viem weather operation).2.journal = gate.journal ++ written operation := by
  cases operation with
  | inl operation => exact (List.append_nil _).symm
  | inr operation =>
      cases operation with
      | put | delete => rfl
      | _ => exact (List.append_nil _).symm

theorem sessionKey_ne_nonceKey (token nonce : Text) : sessionKey token ≠ nonceKey nonce := by
  intro hkey
  cases hkey

/-! ## Sessions and nonces -/

/-- A nonce that is consumed pays for one session. -/
def nonceTariff (nonce : Text) : Tariff api where
  cost operation := (written operation).countP (GateOperation.opens nonce)
  gain operation _ := (written operation).countP (GateOperation.consumes nonce)

theorem account_nonce (viem : Viem) (env : Env) (nonce : Text) :
    (signIn viem env).Account (nonceTariff nonce) (fun gate => gate.consumed nonce)
      fun gate => gate.opened nonce where
  yields := api_yields
  earns := by
    intro operation weather before reply after hexec
    obtain ⟨rfl, rfl⟩ := exec_gate hexec
    simp only [Gate.consumed, journal_serve, List.countP_append, nonceTariff]
    exact le_rfl
  spends := by
    intro operation weather before reply after hexec
    obtain ⟨rfl, rfl⟩ := exec_gate hexec
    simp only [Gate.opened, journal_serve, List.countP_append, nonceTariff]
    exact le_rfl
  event := fun _ _ => ⟨le_rfl, le_rfl⟩

theorem written_of_aside {operation : api.Operation} (haside : Aside operation) :
    written operation = [] := by
  cases operation with
  | inl operation => rfl
  | inr operation =>
      cases operation with
      | put | delete => exact haside.elim
      | _ => rfl

section Affords

variable {A : Type} {nonce : Text} {credit : ℕ}

/-- Code that costs nothing and ends anyhow. -/
theorem affords_free {Problem : Type} {code : Program api Problem A}
    (huses : code.Uses fun operation => (nonceTariff nonce).cost operation = 0) :
    code.Affords (nonceTariff nonce) (fun _ _ => True) credit :=
  huses.affords.mono fun _ _ _ => trivial

theorem free_of_aside {operation : api.Operation} (haside : Aside operation) :
    (nonceTariff nonce).cost operation = 0 := by
  simp only [nonceTariff, written_of_aside haside, List.countP_nil]

theorem affords_consumeNonce (own : Text) :
    (consumeNonce own).Affords (nonceTariff nonce)
      (fun consumed credit => consumed = true → own = nonce → 1 ≤ credit) credit := by
  refine ⟨Nat.zero_le _, ?_⟩
  intro found
  cases found with
  | none => exact fun hfalse => by cases hfalse
  | some value =>
      refine ⟨Nat.zero_le _, ?_⟩
      rintro _ _ rfl
      simp [nonceTariff, written, GateOperation.consumes]

theorem affords_postVerify (viem : Viem) (env : Env) (request : VerifyRequest) :
    (postVerify viem env request).Affords (nonceTariff nonce) (fun _ _ => True) credit := by
  rw [postVerify]
  cases parseBody verifyBody request.body with
  | error failure => exact trivial
  | ok body =>
      rw [Program.ofExcept, Program.ret_bind]
      simp only
      split
      · exact trivial
      · exact trivial
      · next own _ _ =>
        apply Program.Affords.bind
        apply (affords_consumeNonce own).mono
        intro consumed credit hcredit
        cases consumed with
        | false => exact trivial
        | true =>
            rw [if_pos rfl]
            apply Program.Affords.bind
            apply ((verifySiwe_uses viem _).mono fun _ => free_of_aside).affords.mono
            intro result left hleft
            cases result with
            | error error => exact trivial
            | ok wallet =>
                refine ⟨?_, fun _ => trivial⟩
                by_cases hsame : own = nonce
                · have hone := hcredit rfl hsame
                  simp [nonceTariff, written, GateOperation.opens, hsame]
                  omega
                · simp [nonceTariff, written, GateOperation.opens, hsame]

theorem affords_respond {rateLimit : Option RateLimitResult} {code : ApiCode A}
    (hcode : code.Affords (nonceTariff nonce) (fun _ _ => True) credit) :
    (code.respond rateLimit).Affords (nonceTariff nonce) (fun _ _ => True) credit := by
  apply Program.Affords.handle
  · apply Program.Affords.bind
    exact hcode.mono fun _ _ _ => trivial
  · exact fun _ _ => trivial

theorem affords_ipLimit {policy : RateLimitPolicy} {clientIp : Text} {code : ApiCode A}
    (hcode : ∀ credit, code.Affords (nonceTariff nonce) (fun _ _ => True) credit) :
    (code.ipLimit policy clientIp).Affords (nonceTariff nonce) (fun _ _ => True) 0 := by
  rw [ApiCode.ipLimit, ask_bind]
  refine ⟨le_rfl, ?_⟩
  intro now
  apply Program.Affords.bind
  apply ((aside_consume policy clientIp _).mono fun _ => free_of_aside).affords.mono
  intro result left _
  split
  · exact affords_respond (hcode left)
  · exact affords_respond trivial

theorem affords_handleAuth (viem : Viem) (env : Env) (request : AuthRequest) :
    (handleAuth viem env request).Affords (nonceTariff nonce) (fun _ _ => True) 0 := by
  cases request with
  | nonce clientIp own =>
      apply affords_ipLimit
      intro credit
      have huses : (postNonce env own).Uses fun operation =>
          (nonceTariff nonce).cost operation = 0 := ⟨rfl, fun _ => trivial⟩
      exact affords_free huses
  | verify clientIp request =>
      apply affords_ipLimit
      exact fun _ => affords_postVerify viem env request
  | logout token =>
      apply affords_respond
      obtain _ | _ | _ := token
      · exact trivial
      · exact trivial
      · exact ⟨Nat.zero_le _, fun _ => trivial⟩

end Affords

/-- In every schedule a nonce opens at most as many sessions as it was consumed. -/
theorem opened_le_consumed (viem : Viem) (env : Env) (cloud : Cloud) (clock : ℕ)
    (schedule : List AuthSchedule) (nonce : Text) :
    let gate := ((signIn viem env).run (fresh cloud clock) schedule).state
    gate.opened nonce ≤ gate.consumed nonce := by
  intro gate
  have hstart : System.Covered (nonceTariff nonce) (fun gate : Gate => gate.consumed nonce)
      (fun gate => gate.opened nonce) (fun _ _ _ => True) (fresh cloud clock) [] :=
    ⟨.nil, le_rfl⟩
  obtain ⟨credits, _, hcovered⟩ := hstart.run (account_nonce viem env nonce)
    (affords_handleAuth viem env) schedule
  calc gate.opened nonce ≤ credits.sum + gate.opened nonce := Nat.le_add_left _ _
    _ ≤ gate.consumed nonce := hcovered

/-! ## Reading and deleting -/

/-- The operation takes the nonce out of the store. -/
def taking (nonce : Text) : api.Operation → Option Unit
  | .inr (.delete key) => if key = nonceKey nonce then some () else none
  | _ => none

/-- The reply says that the nonce is there. -/
def finding (nonce : Text) : (operation : api.Operation) → api.Reply operation → Option Unit
  | .inr (.get key), some _ => if key = nonceKey nonce then some () else none
  | _, _ => none

/-- The code takes the nonce out right after it found it, and never else. -/
abbrev Taking (nonce : Text) {Problem A : Type} (code : Program api Problem A) : Prop :=
  code.duty (taking nonce) = none ∧ code.Dutiful (taking nonce) (finding nonce)

section Taking

variable {nonce : Text} {Problem A B : Type}

theorem taking_aside {code : Program api Problem A} (huses : code.Uses Aside) :
    Taking nonce code := by
  apply Program.Uses.dutiful
  apply huses.mono
  intro operation haside
  cases operation with
  | inl operation => exact ⟨rfl, fun _ => rfl⟩
  | inr operation =>
      cases operation with
      | get | put | delete => exact haside.elim
      | _ => exact ⟨rfl, fun _ => rfl⟩

theorem taking_bind {code : Program api Problem A} {next : A → Program api Problem B}
    (hcode : Taking nonce code) (hnext : ∀ value, Taking nonce (next value)) :
    Taking nonce (code >>= next) := by
  obtain ⟨hduty, hdutiful⟩ := hcode.2.bind hnext
  exact ⟨hduty.trans hcode.1, hdutiful⟩

theorem taking_consumeNonce (own : Text) : Taking nonce (consumeNonce own) := by
  refine ⟨rfl, ?_⟩
  intro found
  cases found with
  | none => exact ⟨rfl, trivial⟩
  | some value => exact ⟨rfl, fun _ => ⟨rfl, trivial⟩⟩

theorem taking_postVerify (viem : Viem) (env : Env) (request : VerifyRequest) :
    Taking nonce (postVerify viem env request) := by
  rw [postVerify]
  cases parseBody verifyBody request.body with
  | error failure => exact ⟨rfl, trivial⟩
  | ok body =>
      rw [Program.ofExcept, Program.ret_bind]
      simp only
      split
      · exact ⟨rfl, trivial⟩
      · exact ⟨rfl, trivial⟩
      · next own _ _ =>
        apply taking_bind (taking_consumeNonce own)
        intro consumed
        cases consumed with
        | false => exact ⟨rfl, trivial⟩
        | true =>
            rw [if_pos rfl]
            apply taking_bind (taking_aside (verifySiwe_uses viem _))
            intro result
            cases result with
            | error error => exact ⟨rfl, trivial⟩
            | ok wallet => exact ⟨rfl, fun _ => ⟨rfl, trivial⟩⟩

theorem taking_respond {rateLimit : Option RateLimitResult} {code : ApiCode A}
    (hcode : Taking nonce code) : Taking nonce (code.respond rateLimit) := by
  have hbind := taking_bind hcode fun value =>
    (⟨rfl, trivial⟩ : Taking nonce (.ret { rateLimit, outcome := .ok value } :
      ApiCode (Answered A)))
  obtain ⟨hduty, hdutiful⟩ := hbind.2.handle fun failure =>
    (⟨rfl, trivial⟩ : Taking nonce (.ret { rateLimit, outcome := .error failure } :
      Program api Empty (Answered A)))
  exact ⟨hduty.trans hbind.1, hdutiful⟩

theorem taking_ipLimit {policy : RateLimitPolicy} {clientIp : Text} {code : ApiCode A}
    (hcode : Taking nonce code) : Taking nonce (code.ipLimit policy clientIp) := by
  have hnow : Taking nonce (ask .now : Program api Empty ℕ) :=
    ⟨rfl, fun _ => ⟨rfl, trivial⟩⟩
  apply taking_bind hnow
  intro now
  apply taking_bind (taking_aside (aside_consume policy clientIp now))
  intro result
  split
  · exact taking_respond hcode
  · exact taking_respond ⟨rfl, trivial⟩

theorem taking_handleAuth (viem : Viem) (env : Env) (request : AuthRequest) :
    Taking nonce (handleAuth viem env request) := by
  cases request with
  | nonce clientIp own => exact taking_ipLimit ⟨rfl, fun _ => ⟨rfl, trivial⟩⟩
  | verify clientIp request => exact taking_ipLimit (taking_postVerify viem env request)
  | logout token =>
      apply taking_respond
      obtain _ | _ | ⟨first, rest⟩ := token
      · exact ⟨rfl, trivial⟩
      · exact ⟨rfl, trivial⟩
      · refine ⟨?_, fun _ => ⟨rfl, trivial⟩⟩
        change (if sessionKey (first :: rest) = nonceKey nonce then some () else none) = none
        rw [if_neg (sessionKey_ne_nonceKey _ nonce)]

end Taking

/-- The thread is about to delete the key. -/
def deletes (key : Text)
    (thread : @Thread api AuthRequest (fun _ => Empty) fun _ => Answered AuthView) : Bool :=
  match thread.program with
  | .await (.inr (.delete other)) _ => other = key
  | _ => false

/-- The step lets a request read a live key that another one has read and is about to
delete. -/
def overlaps (pool : AuthPool) : AuthSchedule → Bool
  | .advance index _ =>
    match pool.threads[index]? with
    | some ⟨_, .await (.inr (.get key)) _⟩ =>
      (pool.state.sessions.get pool.state.clock key).isSome && pool.threads.any (deletes key)
    | _ => false
  | _ => false

/-- The threads that are about to take the nonce out. -/
def takers (nonce : Text)
    (threads : List (@Thread api AuthRequest (fun _ => Empty) fun _ => Answered AuthView)) :
    ℕ :=
  threads.countP (deletes (nonceKey nonce))

/-- A nonce that is issued is in the store or about to be taken out, or was consumed,
and each only once. -/
structure TakenOnce (nonce : Text) (pool : AuthPool) : Prop where
  dutiful : System.Throughout (fun _ code =>
    code.Dutiful (taking nonce) (finding nonce)) pool
  alone : takers nonce pool.threads ≤ 1
  taken : pool.state.consumed nonce + takers nonce pool.threads ≤ pool.state.issued nonce
  stored : (pool.state.sessions (nonceKey nonce)).isSome →
    pool.state.consumed nonce + 1 ≤ pool.state.issued nonce

section TakenOnce

variable {viem : Viem} {env : Env} {nonce : Text} {pool : AuthPool}

theorem deletes_eq
    (thread : @Thread api AuthRequest (fun _ => Empty) fun _ => Answered AuthView) :
    deletes (nonceKey nonce) thread = (thread.program.duty (taking nonce)).isSome := by
  obtain ⟨label, program⟩ := thread
  cases program with
  | await operation next =>
      cases operation with
      | inl operation => rfl
      | inr operation =>
          cases operation with
          | delete key =>
              by_cases hkey : key = nonceKey nonce
              · simp [deletes, Program.duty, Program.head, taking, hkey]
              · simp [deletes, Program.duty, Program.head, taking, hkey]
          | _ => rfl
  | _ => rfl

theorem takers_append_cons
    {left right : List (@Thread api AuthRequest (fun _ => Empty) fun _ => Answered AuthView)}
    {thread : @Thread api AuthRequest (fun _ => Empty) fun _ => Answered AuthView} :
    takers nonce (left ++ thread :: right) =
      takers nonce (left ++ right) +
        (thread.program.duty (taking nonce)).isSome.toNat := by
  rw [takers, takers, List.countP_append, List.countP_append, List.countP_cons, deletes_eq]
  cases (thread.program.duty (taking nonce)).isSome with
  | false => simp
  | true => simp [Nat.add_assoc]

/-- What one operation does to the books of a nonce. -/
structure Books (nonce : Text) (before after : Gate) (takes found : Bool) : Prop where
  consumed : after.consumed nonce = before.consumed nonce + takes.toNat
  issued : before.issued nonce ≤ after.issued nonce
  stored : (after.sessions (nonceKey nonce)).isSome → takes = false ∧
    ((before.sessions (nonceKey nonce)).isSome ∨
      before.issued nonce + 1 ≤ after.issued nonce)
  found : found = true → takes = false ∧ (before.sessions (nonceKey nonce)).isSome

theorem Books.same (nonce : Text) (gate : Gate) : Books nonce gate gate false false where
  consumed := rfl
  issued := le_rfl
  stored := fun hstored => ⟨rfl, .inl hstored⟩
  found := fun hfalse => by cases hfalse

theorem isSome_of_get {kv : Kv Stored} {now : ℕ} {key : Text}
    (hget : (kv.get now key).isSome) : (kv key).isSome := by
  rw [Kv.get] at hget
  cases hkey : kv key with
  | none =>
      rw [hkey] at hget
      cases hget
  | some entry => rfl

theorem serve_books (gate : Gate) (weather : Weather) (operation : api.Operation) :
    Books nonce gate (gate.serve viem weather operation).2
      (taking nonce operation).isSome
      (finding nonce operation (gate.serve viem weather operation).1).isSome := by
  have hsame := Books.same nonce gate
  cases operation with
  | inl operation => exact { hsame with consumed := rfl }
  | inr operation =>
      cases operation with
      | get key =>
          refine { hsame with found := ?_ }
          intro hfound
          refine ⟨rfl, ?_⟩
          cases hget : gate.sessions.get gate.clock key with
          | none => simp [Gate.serve, hget, finding] at hfound
          | some value =>
              by_cases hkey : key = nonceKey nonce
              · subst hkey
                exact isSome_of_get (by rw [hget]; rfl)
              · simp [Gate.serve, hget, finding, hkey] at hfound
      | put key value expirationTtl noted =>
          have hjournal := journal_serve viem gate weather
            (.inr (.put key value expirationTtl noted))
          refine ⟨?_, ?_, ?_, fun hfalse => by cases hfalse⟩
          · simp [Gate.consumed, hjournal, written, GateOperation.consumes, taking]
          · simp [Gate.issued, hjournal]
          · intro hstored
            refine ⟨rfl, ?_⟩
            by_cases hkey : key = nonceKey nonce
            · right
              simp [Gate.issued, hjournal, written, GateOperation.issues, hkey]
            · left
              simpa [Gate.serve, Kv.put, Function.update_of_ne (Ne.symm hkey)] using hstored
      | delete key =>
          have hjournal := journal_serve viem gate weather (.inr (.delete key))
          refine ⟨?_, ?_, ?_, fun hfalse => by cases hfalse⟩
          · by_cases hkey : key = nonceKey nonce
            · simp [Gate.consumed, hjournal, written, GateOperation.consumes, taking, hkey]
            · simp [Gate.consumed, hjournal, written, GateOperation.consumes, taking, hkey]
          · simp [Gate.issued, hjournal]
          · intro hstored
            by_cases hkey : key = nonceKey nonce
            · simp [Gate.serve, hkey] at hstored
            · refine ⟨by simp [taking, hkey], .inl ?_⟩
              simpa [Gate.serve, Function.update_of_ne (Ne.symm hkey)] using hstored
      | _ => exact hsame

/-- Nobody is about to take out a nonce that is found without an overlap. -/
theorem takers_eq_zero {index : ℕ} {weather : Weather} {label : AuthRequest}
    {operation : api.Operation}
    {next : api.Reply operation → Program api Empty (Answered AuthView)}
    (hoverlaps : overlaps pool (.advance index weather) = false)
    (hget : pool.threads[index]? = some ⟨label, .await operation next⟩)
    (hfound : (finding nonce operation
      (pool.state.serve viem weather operation).1).isSome = true) :
    takers nonce pool.threads = 0 := by
  cases operation with
  | inl operation => cases hfound
  | inr operation =>
      cases operation with
      | get key =>
          cases hread : pool.state.sessions.get pool.state.clock key with
          | none => simp [Gate.serve, hread, finding] at hfound
          | some value =>
              by_cases hkey : key = nonceKey nonce
              · subst hkey
                rw [overlaps, hget] at hoverlaps
                simp only [hread, Option.isSome_some, Bool.true_and] at hoverlaps
                rw [takers, List.countP_eq_zero]
                intro thread hthread hdeletes
                exact List.any_eq_false.mp hoverlaps thread hthread hdeletes
              · simp [Gate.serve, hread, finding, hkey] at hfound
      | _ => cases hfound

theorem TakenOnce.step (htaken : TakenOnce nonce pool) (action : AuthSchedule)
    (hoverlaps : overlaps pool action = false) :
    TakenOnce nonce ((signIn viem env).step pool action) := by
  obtain ⟨hdutiful, halone, hheld, hstored⟩ := htaken
  have hereditary : (signIn viem env).Hereditary fun _ code =>
      code.Dutiful (taking nonce) (finding nonce) :=
    ⟨fun request => (taking_handleAuth viem env request).2,
      fun hcode reply => (hcode reply).2⟩
  have hafter := hdutiful.step hereditary action
  cases action with
  | launch request =>
      have hduty := (@taking_handleAuth nonce viem env request).1
      have htakers : takers nonce ((signIn viem env).step pool (.launch request)).threads =
          takers nonce pool.threads := by
        simp only [System.step, System.resume, System.settle_of_yields _ api_yields]
        rw [takers_append_cons, List.append_nil]
        change _ + (Program.duty (taking nonce) (handleAuth viem env request)).isSome.toNat = _
        rw [hduty]
        rfl
      refine ⟨hafter, htakers ▸ halone, ?_, ?_⟩
      · rw [htakers]
        simpa only [System.step, System.resume, System.settle_of_yields _ api_yields]
          using hheld
      · simpa only [System.step, System.resume, System.settle_of_yields _ api_yields]
          using hstored
  | advance index weather =>
      obtain hsame | ⟨label, operation, next, left, right, reply, middle, hthreads, hindex,
        hexec, hadvanced⟩ := (signIn viem env).advance_cases pool index weather
      · rw [hsame]
        exact ⟨hdutiful, halone, hheld, hstored⟩
      · obtain ⟨rfl, rfl⟩ := exec_gate hexec
        have hget := System.getElem?_of_split hthreads hindex
        have hself := hdutiful _ (List.mem_of_getElem? hget)
        have hduty := (hself (pool.state.serve viem weather operation).1).1
        have hzero := @takers_eq_zero viem nonce pool _ _ _ _ _ hoverlaps hget
        obtain ⟨hconsumed, hissued, hkept, hfound⟩ :=
          @serve_books viem nonce pool.state weather operation
        rw [hadvanced] at hafter ⊢
        simp only [System.settle_of_yields _ api_yields] at hafter ⊢
        rw [hthreads, takers_append_cons] at halone hheld hzero
        change takers nonce (left ++ right) + (taking nonce operation).isSome.toNat ≤ 1
          at halone
        change pool.state.consumed nonce + (takers nonce (left ++ right) +
          (taking nonce operation).isSome.toNat) ≤ _ at hheld
        refine ⟨hafter, ?_, ?_, ?_⟩
        · rw [takers_append_cons, hduty]
          cases hfinds : (finding nonce operation _).isSome with
          | false => exact (Nat.le_add_right _ _).trans halone
          | true =>
              have hnobody := (Nat.add_eq_zero_iff.mp (hzero hfinds)).1
              rw [hnobody]
              exact le_rfl
        · rw [takers_append_cons, hduty, hconsumed]
          cases hfinds : (finding nonce operation _).isSome with
          | false =>
              simp only [Bool.toNat_false]
              omega
          | true =>
              have hnobody := (Nat.add_eq_zero_iff.mp (hzero hfinds)).1
              obtain ⟨htakes, hlive⟩ := hfound hfinds
              have hone := hstored hlive
              rw [hnobody, htakes]
              exact hone.trans hissued
        · intro hlive
          obtain ⟨htakes, hbefore | hnew⟩ := hkept hlive
          · rw [hconsumed, htakes]
            exact (hstored hbefore).trans hissued
          · rw [hconsumed, htakes]
            simp only [Bool.toNat_false]
            omega
  | kill index =>
      have htakers : takers nonce ((signIn viem env).step pool (.kill index)).threads ≤
          takers nonce pool.threads := (List.eraseIdx_sublist _ _).countP_le
      exact ⟨hafter, htakers.trans halone, (Nat.add_le_add_left htakers _).trans hheld,
        hstored⟩
  | event seconds => exact ⟨hafter, halone, hheld, hstored⟩

end TakenOnce

/-- A nonce is consumed at most as often as it is issued, if nobody reads it while
another request is about to delete it. -/
theorem consumed_le_issued {viem : Viem} {env : Env} {cloud : Cloud} {clock : ℕ}
    {schedule : List AuthSchedule}
    (hmeets : Machine.Meets (signIn viem env).step
      (fun pool action => overlaps pool action = false) (fresh cloud clock) schedule)
    (nonce : Text) :
    let gate := ((signIn viem env).run (fresh cloud clock) schedule).state
    gate.consumed nonce ≤ gate.issued nonce := by
  intro gate
  have hstart : TakenOnce nonce (fresh cloud clock) := by
    refine ⟨?_, Nat.zero_le _, le_rfl, ?_⟩
    · rintro thread ⟨⟩
    · rintro ⟨⟩
  have hend : TakenOnce nonce ((signIn viem env).run (fresh cloud clock) schedule) :=
    Machine.run_invariant_of_meets hmeets hstart fun hoverlaps htaken =>
      htaken.step _ hoverlaps
  calc gate.consumed nonce ≤ gate.consumed nonce + _ := Nat.le_add_right _ _
    _ ≤ gate.issued nonce := hend.taken

/-- Whoever is signed in, a message of theirs was accepted; and if nobody reads a
nonce while another request is about to delete it, each time it is issued it is
consumed at most once and opens at most one session. -/
theorem nonces_open_one_session (viem : Viem) (env : Env) (cloud : Cloud) (clock : ℕ)
    (schedule : List AuthSchedule) :
    let gate := ((signIn viem env).run (fresh cloud clock) schedule).state
    (∀ token wallet,
      gate.sessions.get gate.clock (sessionKey token) = some (some (.session wallet)) →
        Vouched viem (verified schedule) gate.clock wallet) ∧
      (Machine.Meets (signIn viem env).step
          (fun pool action => overlaps pool action = false) (fresh cloud clock) schedule →
        ∀ nonce, gate.consumed nonce ≤ gate.issued nonce ∧
          gate.opened nonce ≤ gate.consumed nonce) := by
  intro gate
  refine ⟨?_, ?_⟩
  · intro token wallet hlive
    apply sessions_vouched viem env cloud clock schedule (sessionKey token) wallet
    change (gate.sessions (sessionKey token)).bind Entry.value = _
    rw [Kv.get] at hlive
    cases hentry : gate.sessions (sessionKey token) with
    | none =>
        rw [hentry] at hlive
        cases hlive
    | some entry =>
        rw [hentry] at hlive
        simp only at hlive
        split at hlive
        · exact Option.some.inj hlive
        · cases hlive
  · intro hmeets nonce
    exact ⟨consumed_le_issued hmeets nonce,
      opened_le_consumed viem env cloud clock schedule nonce⟩

namespace Sample

/-- The account of the private key 1. -/
def signer : Text := "0x7E5F4552091A69125d5DfCb7b8C2659029395Bdf".toList

def host : Text := "app.test".toList

def nonce : Text := "4f1c2a9b8d7e6f50".toList

def fields : SiweMessage where
  domain := some host
  address := some signer
  nonce := some nonce
  chainId := some 8453
  expirationTime := none
  notBefore := none

/-- The message with these fields that the app has its wallets sign. -/
def message : Text :=
  "app.test wants you to sign in with your Ethereum account:\n".toList ++ signer ++
    "\n\nSign in to BuyAnAnswer. This is free, moves no funds, and approves no ".toList ++
    "transaction.\n\nURI: https://app.test\nVersion: 1\nChain ID: 8453\nNonce: ".toList ++
    nonce ++ "\nIssued At: 1970-01-01T00:01:40.000Z".toList

def signature : Text :=
  "0xc73bc2b2ba6ce229b84ab669245c7fd19d91646ec1d014b13a46479de7789c86".toList ++
    "4cf6c6a4ac205aab8e9ea977bc4f669bdc85183c67270081822c67e3bfb69d791b".toList

/-- A library that knows one message and its signature. -/
def viem : Viem where
  parseSiweMessage text :=
    if text = message then fields
    else { fields with domain := none, address := none, nonce := none, chainId := none }
  validateSiweMessage fields domain nonce time :=
    decide (fields.domain = some domain) && decide (fields.nonce = some nonce) &&
      decide (∀ expiry ∈ fields.expirationTime, time < expiry) &&
      decide (∀ start ∈ fields.notBefore, start ≤ time)
  getAddress address :=
    if toLowerCase address = toLowerCase signer then some signer else none
  recoverMessageAddress text signed :=
    if text = message ∧ signed = signature then some signer else none
  verifyMessage _ _ _ _ := false
  validates := by
    intro fields domain nonce time _ _ hvalid
    simp only [Bool.and_eq_true, decide_eq_true_eq] at hvalid
    obtain ⟨⟨⟨hdomain, hnonce⟩, hexpiry⟩, hstart⟩ := hvalid
    exact ⟨hdomain, hnonce, hexpiry, hstart⟩
  checksums := by
    intro address claimed hclaimed
    split_ifs at hclaimed with hsame
    rw [← Option.some.inj hclaimed, hsame]

def env : Env where
  NONCE_TTL_SECONDS := none
  SESSION_TTL_SECONDS := none
  RPC_URL_BASE := none
  RPC_URL_BASE_SEPOLIA := none

/-- The signed message, with the token drawn for the session. -/
def login (token : String) : AuthRequest := .verify "203.0.113.7".toList {
  body := .object {
    message := some (.string message), signature := some (.string signature) }
  host := host
  host_ne := by decide
  token := token.toList }

/-- A thread performs its next operations. -/
def goes (index count : ℕ) : List AuthSchedule :=
  List.replicate count (.advance index {})

/-- A nonce is issued and the message is verified. -/
def oneLogin : List AuthSchedule :=
  .launch (.nonce [] nonce) :: goes 0 4 ++ .launch (login "token-1") :: goes 1 7

/-- A nonce is issued, and two requests with one message read it before either deletes
it. -/
def twoLogins : List AuthSchedule :=
  .launch (.nonce [] nonce) :: goes 0 4 ++
    .launch (login "token-1") :: .launch (login "token-2") ::
    (goes 1 4 ++ goes 2 4 ++ goes 1 3 ++ goes 2 3)

end Sample

theorem nonces_open_one_session_sample :
    let gate := ((signIn Sample.viem Sample.env).run (fresh Sample.cloud 100)
      Sample.oneLogin).state
    gate.opened Sample.nonce = 1 ∧ gate.consumed Sample.nonce ≤ gate.issued Sample.nonce ∧
      gate.opened Sample.nonce ≤ gate.consumed Sample.nonce :=
  ⟨by decide +kernel, (nonces_open_one_session Sample.viem Sample.env Sample.cloud 100
    Sample.oneLogin).2 (by decide +kernel) Sample.nonce⟩

/-- Two requests that read the nonce before either deletes it both sign in. -/
theorem one_nonce_opens_two_sessions : ¬ ∀ (viem : Viem) (env : Env) (cloud : Cloud)
    (clock : ℕ) (schedule : List AuthSchedule) (nonce : Text),
    let gate := ((signIn viem env).run (fresh cloud clock) schedule).state
    gate.issued nonce ≤ 1 → gate.consumed nonce ≤ 1 ∧ gate.opened nonce ≤ 1 := by
  intro hclaim
  have hone := hclaim Sample.viem Sample.env Sample.cloud 100 Sample.twoLogins Sample.nonce
    (by decide +kernel)
  exact absurd hone (by decide +kernel)

end BuyAnAnswer.Workers
