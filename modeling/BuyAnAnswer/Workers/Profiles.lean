import BuyAnAnswer.Workers.Footprint
import BuyAnAnswer.Workers.Rules
import BuyAnAnswer.Workers.Validation

/-!
# Profiles

Claims race with each other and with every other request.  A profile that was
inserted keeps its wallet and its handle for good, its handle is one that may be
claimed, and what a claim is told about its handle holds from then on.
-/

namespace BuyAnAnswer.Workers

open Text Shared Indexer Api BuyAnAnswer.Transaction

/-- What no edit of a profile changes. -/
structure Continues (row new : Creator) : Prop where
  wallet : new.wallet = row.wallet
  handle : new.handle = row.handle
  createdAt : new.createdAt = row.createdAt

theorem Continues.refl (row : Creator) : Continues row row := ⟨rfl, rfl, rfl⟩

theorem Continues.trans {first second third : Creator} (hfirst : Continues first second)
    (hsecond : Continues second third) : Continues first third :=
  ⟨hsecond.wallet.trans hfirst.wallet, hsecond.handle.trans hfirst.handle,
    hsecond.createdAt.trans hfirst.createdAt⟩

/-- A handle that a claim can get. -/
structure Claimable (handle : Text) : Prop where
  format : HANDLE_RE handle = true
  free : isReservedHandle handle = false

namespace Tables

def HandlesClaimable (tables : Tables) : Prop :=
  ∀ row ∈ tables.creators, Claimable row.handle

def ProfilesStay (before after : Tables) : Prop :=
  ∀ row ∈ before.creators, ∃ new ∈ after.creators, Continues row new

/-- The wallet has the handle. -/
def Owns (tables : Tables) (wallet handle : Text) : Prop :=
  ∃ row ∈ tables.creators, row.wallet = wallet ∧ row.handle = handle

variable {before after tables : Tables} {wallet handle : Text}

theorem ProfilesStay.refl (tables : Tables) : ProfilesStay tables tables :=
  fun row hrow => ⟨row, hrow, Continues.refl row⟩

theorem ProfilesStay.trans {third : Tables} (hfirst : ProfilesStay before after)
    (hsecond : ProfilesStay after third) : ProfilesStay before third := by
  intro row hrow
  obtain ⟨middle, hmiddle, hcontinues⟩ := hfirst row hrow
  obtain ⟨new, hnew, hrest⟩ := hsecond middle hmiddle
  exact ⟨new, hnew, hcontinues.trans hrest⟩

theorem Owns.stays (howns : Owns before wallet handle)
    (hstay : ProfilesStay before after) : Owns after wallet handle := by
  obtain ⟨row, hrow, hwallet, hhandle⟩ := howns
  obtain ⟨new, hnew, hcontinues⟩ := hstay row hrow
  exact ⟨new, hnew, hcontinues.wallet.trans hwallet, hcontinues.handle.trans hhandle⟩

/-- A wallet has one handle, and a handle one wallet. -/
theorem Owns.unique (hconsistent : tables.Consistent) {otherWallet otherHandle : Text}
    (howns : Owns tables wallet handle) (hother : Owns tables otherWallet otherHandle) :
    wallet = otherWallet ↔ handle = otherHandle := by
  obtain ⟨row, hrow, rfl, rfl⟩ := howns
  obtain ⟨other, hother, rfl, rfl⟩ := hother
  constructor
  · intro hwallet
    rw [List.inj_on_of_nodup_map hconsistent.creators_primary hrow hother hwallet]
  · intro hhandle
    rw [List.inj_on_of_nodup_map hconsistent.creators_handle_unique hrow hother hhandle]

end Tables

/-! ## One statement -/

/-- A profile is inserted with a handle that may be claimed. -/
def Statement.Claims : Statement → Prop
  | .insertCreator row => Claimable row.handle
  | _ => True

def Operation.Claims : Operation → Prop
  | .database statement => statement.Claims
  | _ => True

section Statement

variable {statement : Statement} {tables : Tables} {row : Creator}

/-- No statement removes a profile or moves its handle. -/
theorem effect_profilesStay (statement : Statement) (tables : Tables) :
    Tables.ProfilesStay tables (statement.effect tables) := by
  cases statement with
  | insertCreator row =>
      intro other hother
      exact ⟨other, List.mem_append_left _ hother, Continues.refl other⟩
  | updateCreator wallet patch =>
      intro other hother
      by_cases hhits : other.wallet = wallet
      · exact ⟨patch.apply other,
          Table.mem_update.mpr (.inr ⟨other, hother, decide_eq_true hhits, rfl⟩),
          ⟨rfl, rfl, rfl⟩⟩
      · exact ⟨other, Table.mem_update.mpr (.inl ⟨hother, decide_eq_false hhits⟩),
          Continues.refl other⟩
  | _ => exact Tables.ProfilesStay.refl tables

theorem effect_handlesClaimable (hclaims : statement.Claims)
    (hhandles : Tables.HandlesClaimable tables) :
    Tables.HandlesClaimable (statement.effect tables) := by
  cases statement with
  | insertCreator row =>
      intro other hother
      obtain hold | hlast := List.mem_append.mp hother
      · exact hhandles other hold
      · rw [List.mem_singleton.mp hlast]
        exact hclaims
  | updateCreator wallet patch =>
      intro other hother
      obtain ⟨hold, _⟩ | ⟨old, hold, _, rfl⟩ := Table.mem_update.mp hother
      · exact hhandles other hold
      · exact hhandles old hold
  | _ => exact hhandles

/-- A valid profile that is refused finds its wallet or its handle in use. -/
theorem taken_of_inconsistent (hconsistent : tables.Consistent) (hvalid : row.Valid)
    (hbroken : ¬ ((Statement.insertCreator row).effect tables).Consistent) :
    ∃ other ∈ tables.creators, other.wallet = row.wallet ∨ other.handle = row.handle := by
  by_contra hfree
  push Not at hfree
  have hnodup {key : Creator → Text} (hkeys : (tables.creators.map key).Nodup)
      (hnew : ∀ other ∈ tables.creators, key other ≠ key row) :
      ((tables.creators ++ [row]).map key).Nodup := by
    rw [List.map_append, List.map_singleton, ← List.concat_eq_append, List.nodup_concat]
    refine ⟨?_, hkeys⟩
    rw [List.mem_map]
    rintro ⟨other, hother, hsame⟩
    exact hnew other hother hsame
  refine hbroken { hconsistent with
    creators_check := ?_
    creators_primary := hnodup hconsistent.creators_primary fun other hother =>
      (hfree other hother).1
    creators_handle_unique := hnodup hconsistent.creators_handle_unique fun other hother =>
      (hfree other hother).2
    questions_answerer := ?_ }
  · intro other hother
    obtain hold | hlast := List.mem_append.mp hother
    · exact hconsistent.creators_check other hold
    · rw [List.mem_singleton.mp hlast]
      exact hvalid
  · intro question hquestion
    change question.answererWallet ∈ (tables.creators ++ [row]).map Creator.wallet
    rw [List.map_append]
    exact List.mem_append_left _ (hconsistent.questions_answerer question hquestion)

end Statement

/-! ## The protocol -/

/-- Profiles under all writers. -/
def profilesProtocol : Protocol workers Cloud where
  Invariant := fun cloud => Tables.HandlesClaimable cloud.database.toTables
  Rely := fun before after =>
    Tables.ProfilesStay before.database.toTables after.database.toTables
  refl := fun cloud => Tables.ProfilesStay.refl cloud.database.toTables
  trans := fun hfirst hsecond => hfirst.trans hsecond

variable {network : Network} {runtime : Runtime}

theorem exec_profilesStay {operation : Operation} {node : NodeAnswer} {before after : Cloud}
    {reply : operation.Reply}
    (hexec : Cloud.exec network operation node before = some (reply, after)) :
    Tables.ProfilesStay before.database.toTables after.database.toTables := by
  cases hstatement : operation.isStatement with
  | false =>
      rw [(exec_framed hexec).database hstatement]
      exact Tables.ProfilesStay.refl _
  | true =>
      cases operation with
      | database statement =>
          obtain ⟨_, htables, _⟩ | ⟨_, rfl, _⟩ := exec_database hexec
          · rw [htables]
            exact effect_profilesStay statement _
          · exact Tables.ProfilesStay.refl _
      | _ => cases hstatement

theorem keeps_profiles {operation : Operation} (hclaims : operation.Claims) :
    Keeps network profilesProtocol operation := by
  intro now hhandles _ node reply after hexec
  refine ⟨?_, exec_profilesStay hexec⟩
  change Tables.HandlesClaimable after.database.toTables
  cases hstatement : operation.isStatement with
  | false =>
      rw [(exec_framed hexec).database hstatement]
      exact hhandles
  | true =>
      cases operation with
      | database statement =>
          obtain ⟨_, htables, _⟩ | ⟨_, rfl, _⟩ := exec_database hexec
          · rw [htables]
            exact effect_handlesClaimable hclaims hhandles
          · exact hhandles
      | _ => cases hstatement

theorem ClaimedBy.claimable {context : RequestContext} {fields : RequestBody ClaimFields}
    {row : Creator} (hclaimed : ClaimedBy context fields row) : Claimable row.handle := by
  obtain ⟨body, hparsed, hhandle⟩ := hclaimed.handle
  obtain ⟨_, hschema⟩ := parsed_object hparsed
  exact ⟨hhandle ▸ (claimBody_accepted hschema).handle, hclaimed.free⟩

theorem claims_of_performs {context : RequestContext} {request : Request}
    {operation : Operation} (hperforms : request.Performs context operation) :
    operation.Claims := by
  cases operation with
  | database statement =>
      cases statement with
      | insertCreator row =>
          cases request with
          | claim fields => exact hperforms.claimable
          | _ => cases hperforms
      | _ => exact trivial
  | _ => exact trivial

theorem claims_of_permits {label : Label} (hlabel : label.isRequest = false)
    {operation : Operation} (hpermits : label.Permits network operation) :
    operation.Claims := by
  cases label with
  | request => cases hlabel
  | reconcile | sweep =>
      cases operation with
      | database statement =>
          cases statement with
          | insertCreator => cases hpermits
          | _ => exact trivial
      | _ => exact trivial

/-! ## What a claim is told -/

/-- The response to a claim, and what it says of the profiles. -/
structure ToldClaim (context : RequestContext) (fields : RequestBody ClaimFields)
    (result : Except Empty Response) (cloud : Cloud) : Prop where
  /-- The handle is the caller's. -/
  claimed : ∀ response view, result = .ok response → response.outcome = .ok view →
    ∃ body created, parseBody claimBody fields = .ok body ∧ view = .claimed created ∧
      context.wallet = some created.wallet ∧ created.handle = body.handle ∧
        Tables.Owns cloud.database.toTables created.wallet created.handle
  /-- The handle or the wallet is in use. -/
  taken : ∀ response error, result = .ok response →
    response.outcome = .error (.api error) →
    error.code = "handle_taken" ∨ error.code = "already_claimed" →
    ∃ body wallet, parseBody claimBody fields = .ok body ∧
      context.wallet = some wallet ∧ ∃ row ∈ cloud.database.creators,
        row.wallet = wallet ∨ error.code = "handle_taken" ∧ row.handle = body.handle

section Claim

variable {context : RequestContext} {fields : RequestBody ClaimFields} {cloud : Cloud}

/-- The same, of the handler. -/
def ToldHandler (context : RequestContext) (fields : RequestBody ClaimFields)
    (result : Except Failure View) (cloud : Cloud) : Prop :=
  ToldClaim context fields (.ok { rateLimit := none, outcome := result }) cloud

theorem toldHandler_error {failure : Failure}
    (hcode : ∀ error, failure = .api error → error.code ≠ "handle_taken" ∧
      error.code ≠ "already_claimed") : ToldHandler context fields (.error failure) cloud where
  claimed := by
    rintro response view ⟨⟩ houtcome
    cases houtcome
  taken := by
    rintro response error ⟨⟩ houtcome hsays
    obtain ⟨htaken, hclaimed⟩ := hcode error (Except.error.inj houtcome)
    obtain hsays | hsays := hsays
    · exact absurd hsays htaken
    · exact absurd hsays hclaimed

theorem toldHandler_taken {body : ClaimBody} {wallet : Text} {error : ApiError}
    (hparsed : parseBody claimBody fields = .ok body) (hwallet : context.wallet = some wallet)
    (hrow : ∃ row ∈ cloud.database.creators,
      row.wallet = wallet ∨ error.code = "handle_taken" ∧ row.handle = body.handle) :
    ToldHandler context fields (.error (.api error)) cloud where
  claimed := by
    rintro response view ⟨⟩ houtcome
    cases houtcome
  taken := by
    rintro response other ⟨⟩ houtcome _
    cases houtcome
    exact ⟨body, wallet, hparsed, hwallet, hrow⟩

theorem ToldClaim.stays {result : Except Empty Response} {later : Cloud}
    (htold : ToldClaim context fields result cloud)
    (hstay : profilesProtocol.Rely cloud later) : ToldClaim context fields result later where
  claimed := by
    intro response view hresult houtcome
    obtain ⟨body, created, hparsed, hview, hwallet, hhandle, howns⟩ :=
      htold.claimed response view hresult houtcome
    exact ⟨body, created, hparsed, hview, hwallet, hhandle, howns.stays hstay⟩
  taken := by
    intro response error hresult houtcome hsays
    obtain ⟨body, wallet, hparsed, hwallet, row, hrow, huses⟩ :=
      htold.taken response error hresult houtcome hsays
    obtain ⟨new, hnew, hcontinues⟩ := hstay row hrow
    refine ⟨body, wallet, hparsed, hwallet, new, hnew, ?_⟩
    rw [hcontinues.wallet, hcontinues.handle]
    exact huses

/-- A body that is no claim is not told of other profiles. -/
theorem parseBody_claim_error {failure : Failure}
    (hfailed : parseBody claimBody fields = .error failure) :
    ToldHandler context fields (.error failure) cloud := by
  apply toldHandler_error
  rintro error rfl
  cases fields with
  | malformed =>
      cases hfailed
      decide
  | notObject => cases hfailed
  | object fields => exact (claimBody_error hfailed).elim

/-! ## The handler of a claim -/

variable {wallet : Text}

theorem wp_claimHandle (hwallet : context.wallet = some wallet) :
    (system network runtime).wp profilesProtocol (ToldHandler context fields)
      (claimHandle wallet fields context.now) cloud := by
  rw [claimHandle]
  cases hparsed : parseBody claimBody fields with
  | error failure => exact fun _ _ _ => parseBody_claim_error hparsed
  | ok body =>
      change System.wp _ _ _ (if isReservedHandle body.handle = true then _ else _) _
      split
      · exact fun _ _ _ => toldHandler_error (by rintro error ⟨⟩; decide)
      · next hfree =>
        refine wp_sql_keeps (keeps_profiles trivial) ?_ ?_
        · intro _ _ _ _ _ _ _
          exact toldHandler_error (by rintro error ⟨⟩)
        intro existing _ now after _ hexec _ _
        cases existing with
        | some existing =>
            obtain ⟨hreply, htables, _⟩ | ⟨hreply, _⟩ := exec_database hexec
            · have hlookup := (Except.ok.inj hreply).symm
              intro later hlater _
              refine (toldHandler_taken hparsed hwallet ⟨existing, ?_, ?_⟩).stays hlater
              · rw [htables]
                exact Table.lookup_mem hlookup
              · exact .inl (Table.lookup_key hlookup)
            · cases hreply
        | none =>
            have hclaimable : Claimable body.handle := by
              obtain ⟨_, hschema⟩ := parsed_object hparsed
              exact ⟨(claimBody_accepted hschema).handle, eq_false_of_ne_true hfree⟩
            generalize hrow : ({
              wallet, handle := body.handle
              displayName := body.displayName.getD body.handle
              headline := none, bio := none, avatarUrl := none, links := none
              minPriceUsdc := body.minPriceUsdc.getD "1000000".toList
              createdAt := context.now, updatedAt := context.now } : Creator) = row
            obtain rfl : row.wallet = wallet := hrow ▸ rfl
            have hhandle : row.handle = body.handle := hrow ▸ rfl
            rw [← hhandle] at hclaimable
            refine wp_keeps (keeps_profiles hclaimable) ?_
            intro node reply now after _ _ hexec _ _
            obtain ⟨rfl, htables, _⟩ | ⟨rfl, rfl, hbroken⟩ := exec_database hexec
            · intro later hlater _
              have howns : Tables.Owns after.database.toTables row.wallet row.handle := by
                rw [htables]
                exact ⟨row, List.mem_append_right _ (List.mem_singleton_self _), rfl, rfl⟩
              exact {
                claimed := by
                  rintro response view ⟨⟩ houtcome
                  cases houtcome
                  exact ⟨body, row, hparsed, rfl, hwallet, hhandle, howns.stays hlater⟩
                taken := by
                  rintro response error ⟨⟩ houtcome
                  cases houtcome }
            · by_cases hvalid : row.Valid
              · obtain ⟨other, hother, huses⟩ :=
                  taken_of_inconsistent after.database.consistent hvalid (hbroken rfl)
                rw [Statement.refusal, if_pos hvalid]
                intro later hlater _
                refine (toldHandler_taken hparsed hwallet ⟨other, hother, ?_⟩).stays hlater
                exact huses.imp_right fun hsame => ⟨rfl, hsame.trans hhandle⟩
              · rw [Statement.refusal, if_neg hvalid]
                exact fun _ _ _ => toldHandler_error (by rintro error ⟨⟩)

theorem ToldHandler.respond {outcome : Except Failure View}
    {rateLimit : Option RateLimitResult} (htold : ToldHandler context fields outcome cloud) :
    ToldClaim context fields (.ok { rateLimit, outcome }) cloud where
  claimed := by
    rintro response view ⟨⟩ houtcome
    exact htold.claimed _ view rfl houtcome
  taken := by
    rintro response error ⟨⟩ houtcome
    exact htold.taken _ error rfl houtcome

end Claim

/-! ## In front of a handler -/

section Respond

variable {protocol : Protocol workers Cloud} {cloud : Cloud}
variable {post : Except Empty Response → Cloud → Prop}
variable (hstays : ∀ result cloud later, post result cloud → protocol.Rely cloud later →
  post result later)

include hstays

/-- What the handler's outcome means, the response means from then on. -/
theorem wp_respond_stays {rateLimit : Option RateLimitResult} {handler : Handler View}
    (hinvariant : protocol.Invariant cloud)
    (hhandler : (system network runtime).wp protocol
      (fun outcome => post (.ok { rateLimit, outcome })) handler cloud) :
    (system network runtime).wp protocol post (respond rateLimit handler) cloud := by
  apply System.wp_handle hinvariant
  apply System.wp_bind hinvariant
  apply System.wp_mono hhandler
  intro outcome later _ _ hpost
  cases outcome with
  | ok view => exact fun final hfinal _ => hstays _ _ _ hpost hfinal
  | error failure => exact fun final hfinal _ => hstays _ _ _ hpost hfinal

theorem wp_ipLimit_stays {policy : RateLimitPolicy} {context : RequestContext}
    {handler : Handler View} (hinvariant : protocol.Invariant cloud)
    (hcounts : ∀ operation, operation.isStatement = false → Keeps network protocol operation)
    (hlimited : ∀ rateLimit seconds cloud,
      post (.ok { rateLimit, outcome := .error (.rateLimited seconds) }) cloud)
    (hhandler : ∀ rateLimit later, protocol.Rely cloud later → protocol.Invariant later →
      (system network runtime).wp protocol
        (fun outcome => post (.ok { rateLimit, outcome })) handler later) :
    (system network runtime).wp protocol post (ipLimit policy context handler) cloud := by
  have hconsume : (consume policy context.clientIp context.now :
      Program workers Empty _).Uses fun operation : Operation =>
        operation.isStatement = false :=
    Program.Uses.bind (uses_call rfl) fun _ =>
      Program.Uses.bind (uses_call rfl) fun _ => trivial
  apply System.wp_bind hinvariant
  apply System.wp_mono (wp_of_keeps hconsume hcounts)
  intro counted later hrely hlater _
  cases counted with
  | error failure => cases failure
  | ok counted =>
      simp only
      split
      · exact wp_respond_stays hstays hlater (hhandler _ later hrely hlater)
      · exact wp_respond_stays hstays hlater fun _ _ _ => hlimited _ _ _

end Respond

/-! ## Every schedule -/

/-- What a finished worker was told of the profiles. -/
def ToldBy : (label : Label) → Except label.Failure label.Result → Cloud → Prop
  | .request context (.claim fields), result, cloud => ToldClaim context fields result cloud
  | _, _, _ => True

theorem keeps_count {operation : Operation} (hcounts : operation.isStatement = false) :
    Keeps network profilesProtocol operation := by
  apply keeps_profiles
  cases operation with
  | database => cases hcounts
  | _ => exact trivial

theorem wp_profiles (label : Label) {cloud : Cloud}
    (hhandles : profilesProtocol.Invariant cloud) :
    (system network runtime).wp profilesProtocol (ToldBy label)
      ((system network runtime).program label) cloud := by
  have hquiet {other : Label} (hclaims : ∀ operation, other.Permits network operation →
      operation.Claims) : (system network runtime).wp profilesProtocol (fun _ _ => True)
        ((system network runtime).program other) cloud :=
    wp_of_keeps (program_uses network runtime other) fun operation hpermits =>
      keeps_profiles (hclaims operation hpermits)
  cases label with
  | reconcile | sweep =>
      exact System.wp_mono (hquiet fun _ => claims_of_permits rfl) fun _ _ _ _ _ => trivial
  | request context request =>
      have hrequest : (system network runtime).wp profilesProtocol (fun _ _ => True)
          (handleRequest runtime context request) cloud :=
        wp_of_keeps (handleRequest_performs runtime context request)
          fun _ hperforms => keeps_profiles (claims_of_performs hperforms)
      cases request with
      | claim fields =>
          have hstays : ∀ result before later, ToldClaim context fields result before →
              profilesProtocol.Rely before later → ToldClaim context fields result later :=
            fun _ _ _ => ToldClaim.stays
          change (system network runtime).wp profilesProtocol (ToldClaim context fields)
            (ipLimit LIMITS.handleClaim context (handler runtime context (.claim fields))) cloud
          refine wp_ipLimit_stays hstays hhandles (fun _ => keeps_count) ?_ ?_
          · intro rateLimit seconds cloud
            exact (toldHandler_error (by rintro error ⟨⟩)).respond
          · intro rateLimit later _ _
            rw [handler, requireAuth]
            cases hwallet : context.wallet with
            | none =>
                exact fun _ _ _ =>
                  (toldHandler_error (by rintro error ⟨⟩; decide)).respond
            | some wallet =>
                apply System.wp_mono (wp_claimHandle hwallet)
                exact fun _ _ _ _ htold => htold.respond
      | _ => exact System.wp_mono hrequest fun _ _ _ _ _ => trivial

theorem admits_profiles :
    (system network runtime).Admits profilesProtocol ToldBy (fun _ _ => True) where
  launch := fun _ hhandles => wp_profiles _ hhandles
  advance := fun _ _ _ => trivial
  event := by
    intro pool event _ hhandles
    cases event with
    | mine chainId blocks => exact ⟨hhandles, Tables.ProfilesStay.refl _⟩

/-- In every schedule a profile keeps its wallet and its handle for good, no profile
has a reserved handle, and the responses to claims agree: one that succeeded owns its
handle from then on, so that no two wallets are given one, and one that was refused
found the handle or a profile of the caller in use. -/
theorem claims_hold_for_good (network : Network) (runtime : Runtime) (cloud : Cloud)
    (hhandles : Tables.HandlesClaimable cloud.database.toTables)
    (past future : List WorkerSchedule) :
    let pool := (system network runtime).run (idle cloud) past
    let tables := pool.state.database.toTables
    let later := ((system network runtime).run pool future).state
    Tables.HandlesClaimable tables ∧
      Tables.ProfilesStay tables later.database.toTables ∧
      (∀ row ∈ tables.creators, ∀ other ∈ later.database.creators,
        row.wallet = other.wallet ↔ row.handle = other.handle) ∧
      ∀ context fields response,
        (⟨.request context (.claim fields), .ret response⟩ : Thread workers _ _) ∈
          pool.threads →
        ToldClaim context fields (.ok response) later := by
  intro pool tables later
  have hidle : (system network runtime).Orderly profilesProtocol ToldBy (idle cloud) :=
    System.Orderly.empty hhandles
  obtain ⟨hpool, _⟩ := hidle.run admits_profiles (Machine.meets_always past)
  obtain ⟨hlater, hstay⟩ := hpool.run admits_profiles (Machine.meets_always future)
  refine ⟨hpool.invariant, hstay, ?_, ?_⟩
  · intro row hrow other hother
    have howns : Tables.Owns later.database.toTables row.wallet row.handle :=
      Tables.Owns.stays ⟨row, hrow, rfl, rfl⟩ hstay
    exact howns.unique later.database.consistent ⟨other, hother, rfl, rfl⟩
  · intro context fields response hthread
    exact hpool.threads _ hthread later hstay hlater.invariant

namespace Sample

/-- Two wallets claim one handle at the same time. -/
def race : List WorkerSchedule :=
  let claim : Request := .claim (.object {
    handle := some (.string "Bob".toList), displayName := none, minPriceUsdc := none })
  let context (wallet : String) : RequestContext := {
    clientIp := [], wallet := some wallet.toList, now := 7 }
  [.launch (.request (context "0x00000000000000000000000000000000000000a1") claim),
    .launch (.request (context "0x00000000000000000000000000000000000000c3") claim)] ++
      (List.range 4).flatMap fun _ => [.advance 0 {}, .advance 1 {}]

theorem handlesClaimable : Tables.HandlesClaimable cloud.database.toTables := by
  intro row hrow
  rw [List.mem_singleton.mp hrow]
  exact ⟨by decide, by decide⟩

end Sample

theorem claims_hold_for_good_sample :
    Tables.HandlesClaimable ((system Sample.network Sample.runtime).run
      (idle Sample.cloud) Sample.race).state.database.toTables :=
  (claims_hold_for_good Sample.network Sample.runtime Sample.cloud
    Sample.handlesClaimable Sample.race []).1

end BuyAnAnswer.Workers
