import BuyAnAnswer.Workers.Cards
import BuyAnAnswer.Workers.Noninterference

/-!
# What requests end with

The rows that a handler has read are still there when it writes: no profile is ever
removed, and no question that is paid for.  So as long as drawn ids are new and no
draft is swept away under a save, a request whose body can be stored is answered with
a view or with a refusal of its route, whatever else goes on.
-/

namespace BuyAnAnswer.Workers

open Text Shared Indexer WorkerKit Api BuyAnAnswer.Transaction

/-! ## Prices that can be read -/

def Tables.PricesParse (tables : Tables) : Prop :=
  ∀ row ∈ tables.creators, (bigInt row.minPriceUsdc).isSome = true

/-- The statement brings no price that cannot be read. -/
def Statement.Priced : Statement → Prop
  | .insertCreator row => (bigInt row.minPriceUsdc).isSome = true
  | .updateCreator _ patch => ∀ price ∈ patch.minPriceUsdc, (bigInt price).isSome = true
  | _ => True

def Operation.Priced : Operation → Prop
  | .database statement => statement.Priced
  | _ => True

theorem effect_pricesParse {statement : Statement} {tables : Tables}
    (hpriced : statement.Priced) (hprices : Tables.PricesParse tables) :
    Tables.PricesParse (statement.effect tables) := by
  cases statement with
  | insertCreator row =>
      intro other hother
      obtain hold | hlast := List.mem_append.mp hother
      · exact hprices other hold
      · rw [List.mem_singleton.mp hlast]
        exact hpriced
  | updateCreator wallet patch =>
      intro other hother
      obtain ⟨hold, _⟩ | ⟨old, hold, _, rfl⟩ := Table.mem_update.mp hother
      · exact hprices other hold
      · rw [CreatorPatch.apply]
        cases hprice : patch.minPriceUsdc with
        | none => exact hprices old hold
        | some price => exact hpriced price hprice
  | _ => exact hprices

theorem priced_of_performs {context : RequestContext} {request : Request}
    {operation : Operation} (hperforms : request.Performs context operation) :
    operation.Priced := by
  cases operation with
  | database statement =>
      cases statement with
      | insertCreator row =>
          cases request with
          | claim fields => exact hperforms.price
          | _ => cases hperforms
      | updateCreator wallet patch =>
          cases request with
          | profile | avatar => exact hperforms.price
          | _ => cases hperforms
      | _ => exact trivial
  | _ => exact trivial

theorem priced_of_permits {network : Network} {label : Label}
    (hlabel : label.isRequest = false) {operation : Operation}
    (hpermits : label.Permits network operation) : operation.Priced := by
  cases label with
  | request => cases hlabel
  | reconcile | sweep =>
      cases operation with
      | database statement =>
          cases statement with
          | insertCreator | updateCreator => cases hpermits
          | _ => exact trivial
      | _ => exact trivial

/-! ## The protocol -/

/-- A drawn id is new, and a question is there when its answer is saved. -/
def Undisturbed (operation : Operation) (cloud : Cloud) : Prop :=
  match operation with
  | .database (.insertQuestion row) => row.id ∉ cloud.database.questions.map Question.id
  | .database (.upsertAnswer saved) =>
    saved.questionId ∈ cloud.database.questions.map Question.id
  | _ => True

instance decidableUndisturbed (operation : Operation) (cloud : Cloud) :
    Decidable (Undisturbed operation cloud) := by
  delta Undisturbed
  split <;> infer_instance

/-- What a handler can rely on between its statements. -/
def stayProtocol : Protocol workers Cloud where
  Invariant := fun cloud => Tables.PricesParse cloud.database.toTables
  Rely := fun before after =>
    Tables.ProfilesStay before.database.toTables after.database.toTables ∧
      ∀ id, Persists False (before.record id) (after.record id)
  Allowed := Undisturbed
  refl := fun _ => ⟨Tables.ProfilesStay.refl _, fun _ => Persists.refl _⟩
  trans := fun hfirst hsecond =>
    ⟨hfirst.1.trans hsecond.1, fun id => (hfirst.2 id).trans (hsecond.2 id)⟩

variable {network : Network} {runtime : Runtime}

theorem exec_persists {operation : Operation} {node : NodeAnswer} {before after : Cloud}
    {reply : operation.Reply}
    (hexec : Cloud.exec network operation node before = some (reply, after)) (id : Text) :
    Persists False (before.record id) (after.record id) := by
  obtain hsame | ⟨statement, rfl, heffect⟩ := exec_record id hexec
  · rw [hsame]
    exact Persists.refl _
  · rw [heffect]
    exact onRecord_persists (record_keyed before id) False.elim

theorem keeps_stay {operation : Operation} (hpriced : operation.Priced) :
    Keeps network stayProtocol operation := by
  intro now hprices _ node reply after hexec
  refine ⟨?_, exec_profilesStay hexec, exec_persists hexec⟩
  change Tables.PricesParse after.database.toTables
  cases hstatement : operation.isStatement with
  | false =>
      rw [(exec_framed hexec).database hstatement]
      exact hprices
  | true =>
      cases operation with
      | database statement =>
          obtain ⟨_, htables, _⟩ | ⟨_, rfl, _⟩ := exec_database hexec
          · rw [htables]
            exact effect_pricesParse hpriced hprices
          · exact hprices
      | _ => cases hstatement

/-! ## Handlers -/

/-- No exception that nobody expected. -/
def Expected {A : Type} : Except Failure A → Cloud → Prop :=
  System.FailsOnly fun failure => failure ≠ .internal

section Handlers

variable {A : Type} {cloud : Cloud} {context : RequestContext} {wallet id : Text}

theorem expected_refuse {status : ℕ} {code message : String} :
    (system network runtime).wp stayProtocol Expected
      (refuse status code message : Handler A) cloud := by
  intro later _ _ hinternal
  cases hinternal

/-- The rule for a statement that breaks no constraint. -/
theorem wp_query {post : Except Failure A → Cloud → Prop} {statement : Statement}
    {next : statement.Reply → Handler A} (hpriced : statement.Priced)
    (hrange : statement.inRange = true)
    (hconsistent : ∀ now, stayProtocol.Rely cloud now → stayProtocol.Invariant now →
      Undisturbed (.database statement) now →
        (statement.effect now.database.toTables).Consistent)
    (hnext : ∀ now after, stayProtocol.Rely cloud now → stayProtocol.Invariant now →
      stayProtocol.Rely now after → stayProtocol.Invariant after →
        (system network runtime).wp stayProtocol post
          (next (statement.reply now.database.toTables)) after) :
    (system network runtime).wp stayProtocol post (query statement >>= next) cloud := by
  apply System.wp_await rfl
  intro now hnow hinvariant hallowed node reply after hexec
  obtain ⟨hafter, hrely⟩ := @keeps_stay network (.database statement) hpriced now hinvariant
    hallowed node reply after hexec
  refine ⟨hafter, hrely, ?_⟩
  have hdatabase : Cloud.exec network (.database statement) node now =
      some (reply, after) := hexec
  obtain ⟨rfl, _, _⟩ | ⟨_, _, hbroken⟩ := exec_database hdatabase
  · exact hnext now after hnow hinvariant hrely hafter
  · exact absurd (hconsistent now hnow hinvariant hallowed) (hbroken hrange)

/-- The rule for a statement that only reads. -/
theorem wp_read {post : Except Failure A → Cloud → Prop} {statement : Statement}
    {next : statement.Reply → Handler A} (hpriced : statement.Priced)
    (hrange : statement.inRange = true)
    (hreads : ∀ tables, statement.effect tables = tables)
    (hnext : ∀ now after, stayProtocol.Rely now after → stayProtocol.Invariant now →
      stayProtocol.Invariant after →
        (system network runtime).wp stayProtocol post
          (next (statement.reply now.database.toTables)) after) :
    (system network runtime).wp stayProtocol post (query statement >>= next) cloud := by
  refine wp_query hpriced hrange ?_ fun now after _ hinvariant hrely =>
    hnext now after hrely hinvariant
  intro now _ _ _
  rw [hreads]
  exact now.database.consistent

theorem expected_requireAuth {next : Text → Handler A}
    (hnext : ∀ wallet, context.wallet = some wallet →
      (system network runtime).wp stayProtocol Expected (next wallet) cloud) :
    (system network runtime).wp stayProtocol Expected (requireAuth context >>= next)
      cloud := by
  rw [requireAuth]
  cases hwallet : context.wallet with
  | none => exact expected_refuse
  | some wallet => exact hnext wallet hwallet

theorem expected_getQuestion :
    (system network runtime).wp stayProtocol Expected (getQuestion wallet id) cloud := by
  refine wp_read trivial rfl (fun _ => rfl) ?_
  intro now after _ _ _
  cases Statement.reply (.questionById id) now.database.toTables with
  | none => exact expected_refuse
  | some question =>
      simp only
      split
      · exact expected_refuse
      · exact wp_read trivial rfl (fun _ => rfl) fun _ _ _ _ _ _ _ _ => trivial

theorem expected_getCard :
    (system network runtime).wp stayProtocol Expected (getCard id) cloud := by
  refine wp_read trivial rfl (fun _ => rfl) ?_
  intro now after _ _ _
  cases Statement.reply (.questionById id) now.database.toTables with
  | none => exact expected_refuse
  | some question =>
      simp only
      split
      · exact expected_refuse
      · refine wp_read trivial rfl (fun _ => rfl) ?_
        intro _ _ _ _ _
        exact wp_read trivial rfl (fun _ => rfl) fun _ _ _ _ _ _ _ _ => trivial

theorem expected_getBoard {raw : Text} :
    (system network runtime).wp stayProtocol Expected (getBoard raw) cloud := by
  rw [getBoard]
  split
  · exact expected_refuse
  · refine wp_read trivial rfl (fun _ => rfl) ?_
    intro now after _ _ _
    cases Statement.reply (.creatorByHandle (normalizeHandle raw)) now.database.toTables with
    | none => exact expected_refuse
    | some creator => exact fun _ _ _ => trivial

theorem expected_listQuestions {column : WalletColumn} {limit offset : Option Text}
    (hfits : ∀ parameters, listQuery runtime limit offset = .ok parameters →
      parameters.offset < 2 ^ 63) :
    (system network runtime).wp stayProtocol Expected
      (listQuestions runtime wallet column limit offset) cloud := by
  rw [listQuestions]
  cases hparsed : listQuery runtime limit offset with
  | error failure =>
      rintro _ _ _ rfl
      rw [listQuery] at hparsed
      split at hparsed <;> cases hparsed
  | ok parameters =>
      exact wp_read trivial (decide_eq_true (hfits parameters hparsed)) (fun _ => rfl)
        fun _ _ _ _ _ _ _ _ => trivial

/-! ### Handlers that write -/

/-- The status is one that a question keeps. -/
theorem expected_publishQuestion {now : ℕ} :
    (system network runtime).wp stayProtocol Expected (publishQuestion wallet id now)
      cloud := by
  refine wp_read trivial rfl (fun _ => rfl) ?_
  intro before after hread _ _
  cases hrow : Statement.reply (.questionById id) before.database.toTables with
  | none => exact expected_refuse
  | some question =>
      simp only
      split
      · split <;> exact expected_refuse
      · split
        · exact expected_refuse
        · next hanswered =>
          rw [not_not] at hanswered
          have hkept : ∀ later, stayProtocol.Rely after later →
              ∃ new ∈ (later.record id).question, RowKept question new := by
            intro later hlater
            exact ((hread.2 id).trans (hlater.2 id)).question question hrow
              (answered_paid hanswered)
          refine wp_query trivial rfl ?_ ?_
          · exact fun later _ _ _ => publish_consistent later.database.consistent id now
          · intro later _ hlater _ _ _
            obtain ⟨new, hnew, _⟩ := hkept later hlater
            have hfound : Table.lookup Question.id later.database.questions id = some new :=
              hnew
            rw [Statement.reply, hfound]
            exact fun _ _ _ => trivial

/-- The schema does not throw, and what it accepts fits the table. -/
def Digests {Fields Body : Type} (schema : Fields → Except Failure Body)
    (fits : Body → Prop) (fields : RequestBody Fields) : Prop :=
  match parseBody schema fields with
  | .ok body => fits body
  | .error failure => failure ≠ .internal

theorem expected_postAnswer {fields : RequestBody AnswerFields} {now : ℕ}
    (hfits : Digests answerBody (fun body => startsWithNul body = false) fields) :
    (system network runtime).wp stayProtocol Expected (postAnswer wallet id fields now)
      cloud := by
  rw [Digests] at hfits
  rw [postAnswer]
  cases hparsed : parseBody answerBody fields with
  | error failure =>
      rw [hparsed] at hfits
      exact fun _ _ _ => hfits
  | ok body =>
      rw [hparsed] at hfits
      obtain ⟨_, hschema⟩ := parsed_object hparsed
      obtain ⟨hleast, hmost⟩ := answerBody_accepted hschema
      refine wp_read trivial rfl (fun _ => rfl) ?_
      intro before after _ _ _
      cases Statement.reply (.questionById id) before.database.toTables with
      | none => exact expected_refuse
      | some question =>
          simp only
          split
          · split <;> exact expected_refuse
          · split
            · exact expected_refuse
            · refine wp_query trivial rfl ?_ fun _ _ _ _ _ _ _ _ _ => trivial
              intro later _ _ hthere
              exact (upsertAnswer_consistent_iff hthere).mpr
                ((savedAnswer_valid_iff hleast hmost).mpr hfits)

/-- A profile that was found is still there. -/
theorem expected_ownProfile {next : Creator → Handler A}
    (hnext : ∀ row later, Tables.Owns later.database.toTables wallet row.handle →
      (system network runtime).wp stayProtocol Expected (next row) later) :
    (system network runtime).wp stayProtocol Expected (ownProfile wallet >>= next)
      cloud := by
  rw [ownProfile, bind_assoc]
  refine wp_read trivial rfl (fun _ => rfl) ?_
  intro before after hread _ _
  cases hrow : Statement.reply (.creatorByWallet wallet) before.database.toTables with
  | none => exact expected_refuse
  | some row =>
      have howns : Tables.Owns before.database.toTables wallet row.handle :=
        ⟨row, Table.lookup_mem hrow, Table.lookup_key hrow, rfl⟩
      exact hnext row after (howns.stays hread.1)

theorem Tables.Owns.lookup {handle : Text} (howns : Tables.Owns cloud.database.toTables
    wallet handle) :
    ∃ row, Table.lookup Creator.wallet cloud.database.creators wallet = some row := by
  obtain ⟨row, hrow, hwallet, _⟩ := howns
  exact ⟨row, (Table.lookup_eq_some cloud.database.consistent.creators_primary).mpr
    ⟨hrow, hwallet⟩⟩

theorem expected_updateProfile {patch : CreatorPatch} {next : Creator → Handler A}
    {handle : Text} (howns : Tables.Owns cloud.database.toTables wallet handle)
    (hprice : ∀ price ∈ patch.minPriceUsdc, (bigInt price).isSome = true)
    (hvalid : ∀ row : Creator, row.Valid → (patch.apply row).Valid)
    (hnext : ∀ row later, (system network runtime).wp stayProtocol Expected (next row)
      later) :
    (system network runtime).wp stayProtocol Expected (updateProfile wallet patch >>= next)
      cloud := by
  rw [updateProfile, bind_assoc]
  have hpriced : (Statement.updateCreator wallet patch).Priced := hprice
  refine wp_query hpriced rfl ?_ ?_
  · intro now hnow _ _
    obtain ⟨row, hrow⟩ := (howns.stays hnow.1).lookup
    exact (updateCreator_consistent_iff hrow).mpr
      (hvalid row (now.database.consistent.creators_check row (Table.lookup_mem hrow)))
  · intro now after hnow _ _ _
    obtain ⟨row, hrow⟩ := (howns.stays hnow.1).lookup
    rw [Statement.reply, hrow]
    exact hnext _ after

theorem expected_putProfile {fields : RequestBody ProfileFields} {now : ℕ}
    (hfits : Digests (profileBody runtime)
      (fun body => Storable body.displayName body.minPriceUsdc) fields) :
    (system network runtime).wp stayProtocol Expected
      (putProfile runtime wallet fields now) cloud := by
  rw [Digests] at hfits
  rw [putProfile]
  cases hparsed : parseBody (profileBody runtime) fields with
  | error failure =>
      rw [hparsed] at hfits
      exact fun _ _ _ => hfits
  | ok body =>
      rw [hparsed] at hfits
      obtain ⟨_, hschema⟩ := parsed_object hparsed
      have haccepted := profileBody_accepted hschema
      refine expected_ownProfile ?_
      intro _ later howns
      refine expected_updateProfile howns ?_ ?_ fun _ _ _ _ _ => trivial
      · exact fun price hprice => (haccepted.price price hprice).parses
      · intro row hrow
        exact (@patched_valid_iff row body now hrow haccepted).mpr hfits

theorem expected_postAvatar {upload : AvatarUpload} {now : ℕ} :
    (system network runtime).wp stayProtocol Expected (postAvatar wallet upload now)
      cloud := by
  rw [postAvatar]
  simp only
  split
  · exact expected_refuse
  · split
    · exact expected_refuse
    · split
      · exact expected_refuse
      · split
        · exact expected_refuse
        · refine expected_ownProfile ?_
          intro _ later howns
          refine wp_keeps (keeps_stay trivial) ?_
          intro _ _ before after hlater _ _ hrely _
          refine expected_updateProfile ((howns.stays hlater.1).stays hrely.1) (by simp) ?_
            fun _ _ _ _ _ => trivial
          intro row hrow
          exact { hrow with }

theorem expected_claimHandle {fields : RequestBody ClaimFields} {now : ℕ}
    (hwallet : isAddress wallet = true)
    (hfits : Digests claimBody
      (fun body => Storable body.displayName body.minPriceUsdc) fields) :
    (system network runtime).wp stayProtocol Expected (claimHandle wallet fields now)
      cloud := by
  rw [Digests] at hfits
  rw [claimHandle]
  cases hparsed : parseBody claimBody fields with
  | error failure =>
      rw [hparsed] at hfits
      exact fun _ _ _ => hfits
  | ok body =>
      rw [hparsed] at hfits
      obtain ⟨_, hschema⟩ := parsed_object hparsed
      have haccepted := claimBody_accepted hschema
      change System.wp _ _ _ (if isReservedHandle body.handle = true then _ else _) _
      split
      · exact expected_refuse
      · refine wp_read trivial rfl (fun _ => rfl) ?_
        intro before after _ _ _
        cases Statement.reply (.creatorByWallet wallet) before.database.toTables with
        | some existing => exact expected_refuse
        | none =>
            have hprice : (Operation.database
                (.insertCreator (claimedRow wallet body now))).Priced := by
              change (bigInt (body.minPriceUsdc.getD "1000000".toList)).isSome = true
              cases hgiven : body.minPriceUsdc with
              | none => decide
              | some price => exact (haccepted.price price hgiven).parses
            have hvalid : (claimedRow wallet body now).Valid :=
              (claimedRow_valid_iff hwallet haccepted).mpr hfits
            refine wp_keeps (keeps_stay hprice) ?_
            intro _ reply current next _ _ hexec _ _
            obtain ⟨rfl, _⟩ | ⟨rfl, _⟩ := exec_database hexec
            · exact fun _ _ _ => trivial
            · generalize hrefusal : Statement.refusal _ = failure
              rw [show failure = .unique from hrefusal.symm.trans (if_pos hvalid)]
              exact expected_refuse

/-- An amount that is accepted can be read. -/
theorem amountUsdcSchema_accepts {field : Option JsonValue} {parsed : Parsed Text}
    {amount : Text} (hok : amountUsdcSchema field = .ok parsed)
    (hvalue : parsed.value = some amount) (hproblems : parsed.problems = []) :
    (bigInt amount).isSome = true := by
  cases field with
  | none =>
      cases hok
      cases hvalue
  | some value =>
      cases value with
      | string text =>
          simp only [amountUsdcSchema] at hok
          split at hok
          · split at hok
            · cases hok
            · next hparsed =>
              cases hok
              cases hvalue
              rw [hparsed]
              rfl
          · cases hok
            simp at hproblems
      | _ =>
          cases hok
          cases hvalue

theorem createQuestionBody_amount {fields : QuestionFields} {body : CreateQuestionBody}
    (hok : createQuestionBody fields = .ok body) :
    (bigInt body.amountUsdc).isSome = true := by
  rw [createQuestionBody] at hok
  cases hamount : amountUsdcSchema fields.amountUsdc with
  | error failure =>
      rw [hamount] at hok
      cases hok
  | ok amount =>
      rw [hamount] at hok
      simp only [bind, Except.bind] at hok
      split at hok
      · next hissues _ _ hvalue _ =>
        cases hok
        simp only [List.append_eq_nil_iff, issues_eq_nil] at hissues
        exact amountUsdcSchema_accepts hamount hvalue hissues.1.2
      · cases hok

/-- A draft that fits the table is minted. -/
theorem expected_mint {row : Question} {next : Text → Handler A}
    (hcreator : row.answererWallet ∈ cloud.database.creators.map Creator.wallet)
    (honchain : row.onchainId = none) (hvalid : row.Valid)
    (hnext : ∀ later, (system network runtime).wp stayProtocol Expected (next row.id)
      later) :
    (system network runtime).wp stayProtocol Expected (mint row >>= next) cloud := by
  rw [mint, bind_assoc]
  refine wp_query trivial rfl ?_ fun _ after _ _ _ _ => hnext after
  intro now hnow _ hnew
  obtain ⟨creator, hmember, hwallet⟩ := List.mem_map.mp hcreator
  obtain ⟨later, hlater, hcontinues⟩ := hnow.1 creator hmember
  exact (insertQuestion_consistent_iff hnew honchain
    (List.mem_map.mpr ⟨later, hlater, hcontinues.wallet.trans hwallet⟩)).mpr hvalid

theorem expected_postQuestions {request : QuestionRequest}
    (hasker : isAddress request.asker = true)
    (hfits : Digests createQuestionBody
      (fun body => startsWithNul body.body = false) request.body) :
    (system network runtime).wp stayProtocol Expected (postQuestions request) cloud := by
  rw [Digests] at hfits
  rw [postQuestions]
  cases hparsed : parseBody createQuestionBody request.body with
  | error failure =>
      rw [hparsed] at hfits
      exact fun _ _ _ => hfits
  | ok body =>
      rw [hparsed] at hfits
      obtain ⟨_, hschema⟩ := parsed_object hparsed
      obtain ⟨hleast, hmost⟩ := createQuestionBody_accepted hschema
      change System.wp _ _ _
        (if body.chainId.getD DEFAULT_CHAIN_ID ∉ ALLOWED_CHAIN_IDS then _ else _) _
      split
      · exact expected_refuse
      · next hchain =>
        refine wp_read trivial rfl (fun _ => rfl) ?_
        intro before after hread hprices _
        cases hcreator : Statement.reply (.creatorByHandle body.handle)
            before.database.toTables with
        | none => exact expected_refuse
        | some creator =>
            obtain ⟨amount, hamount⟩ :=
              Option.isSome_iff_exists.mp (createQuestionBody_amount hschema)
            have hmember : creator ∈ before.database.creators :=
              List.mem_of_find?_eq_some hcreator
            obtain ⟨minPrice, hprice⟩ :=
              Option.isSome_iff_exists.mp (hprices creator hmember)
            simp only [hamount, hprice]
            split
            · exact expected_refuse
            · have hvalid : (request.draft (body.chainId.getD DEFAULT_CHAIN_ID) creator
                  body.body).Valid :=
                (draft_valid_iff hasker
                  (before.database.consistent.creators_check creator hmember)
                  (not_not.mp hchain) hleast hmost).mpr hfits
              have hknown : ∀ later : Cloud, Tables.ProfilesStay before.database.toTables
                  later.database.toTables →
                    creator.wallet ∈ later.database.creators.map Creator.wallet := by
                intro later hstay
                obtain ⟨new, hnew, hcontinues⟩ := hstay creator hmember
                exact List.mem_map.mpr ⟨new, hnew, hcontinues.wallet⟩
              split
              · refine wp_keeps (keeps_stay trivial) ?_
                intro _ existing current looked hcurrent _ _ hlooked _
                simp only [Program.bind]
                split
                · exact fun _ _ _ => trivial
                · refine expected_mint (hknown looked
                    ((hread.1.trans hcurrent.1).trans hlooked.1)) rfl hvalid ?_
                  intro _
                  exact wp_keeps (keeps_stay trivial) fun _ _ _ _ _ _ _ _ _ _ _ _ => trivial
              · exact expected_mint (hknown after hread.1) rfl hvalid
                  fun _ _ _ _ => trivial

end Handlers

/-! ## Requests -/

/-- The session's wallet is an address, the schema of the route does not throw on the
input, and what it accepts fits the tables and the queries. -/
def Request.Fits (runtime : Runtime) (context : RequestContext) (request : Request) :
    Prop :=
  (∀ wallet ∈ context.wallet, isAddress wallet = true) ∧
    match request with
    | .createQuestion _ fields _ =>
      Digests createQuestionBody (fun body => startsWithNul body.body = false) fields
    | .answer _ fields => Digests answerBody (fun body => startsWithNul body = false) fields
    | .claim fields =>
      Digests claimBody (fun body => Storable body.displayName body.minPriceUsdc) fields
    | .profile fields =>
      Digests (profileBody runtime)
        (fun body => Storable body.displayName body.minPriceUsdc) fields
    | .received limit offset | .asked limit offset =>
      ∀ parameters, listQuery runtime limit offset = .ok parameters →
        parameters.offset < 2 ^ 63
    | _ => True

/-- What a route answers with other than a view: one of its refusals, the issues of the
input it validates, its quota, or an exception over an input that does not fit. -/
def Request.Explains (runtime : Runtime) (context : RequestContext) (request : Request) :
    Failure → Prop
  | .api error => (error.status, error.code) ∈ request.refusals
  | .validation _ => request.validates = true
  | .rateLimited _ => (limitOf request).isSome = true
  | .internal => ¬ request.Fits runtime context

section Requests

variable {context : RequestContext} {request : Request} {cloud : Cloud}

theorem expected_handler (hprices : stayProtocol.Invariant cloud)
    (hfits : request.Fits runtime context) :
    (system network runtime).wp stayProtocol Expected (handler runtime context request)
      cloud := by
  obtain ⟨haddress, hbody⟩ := hfits
  cases request with
  | createQuestion key fields uuid =>
      apply expected_requireAuth
      intro asker hasker
      apply System.wp_seq hprices
      · exact expected_postQuestions (haddress asker hasker) hbody
      · exact fun _ _ _ _ _ _ _ => trivial
  | received limit offset | asked limit offset =>
      exact expected_requireAuth fun _ _ => expected_listQuestions hbody
  | detail id => exact expected_requireAuth fun _ _ => expected_getQuestion
  | publish id => exact expected_requireAuth fun _ _ => expected_publishQuestion
  | card id => exact expected_getCard
  | answer id fields => exact expected_requireAuth fun _ _ => expected_postAnswer hbody
  | board raw => exact expected_getBoard
  | me =>
      apply expected_requireAuth
      intro _ _
      exact wp_read trivial rfl (fun _ => rfl) fun _ _ _ _ _ _ _ _ => trivial
  | claim fields =>
      apply expected_requireAuth
      exact fun wallet hwallet => expected_claimHandle (haddress wallet hwallet) hbody
  | profile fields => exact expected_requireAuth fun _ _ => expected_putProfile hbody
  | avatar upload => exact expected_requireAuth fun _ _ => expected_postAvatar

theorem explains_handler (hprices : stayProtocol.Invariant cloud) :
    (system network runtime).wp stayProtocol
      (System.FailsOnly (request.Explains runtime context))
      (handler runtime context request) cloud := by
  have hrefuses : (system network runtime).wp stayProtocol
      (System.FailsOnly request.Refuses) (handler runtime context request) cloud := by
    apply System.wp_of_obeys (obeys_handler runtime context request) workers_yield
    exact fun operation hhandles => keeps_stay (priced_of_performs hhandles.performs)
  by_cases hfits : request.Fits runtime context
  · apply System.wp_mono (System.wp_and hrefuses (expected_handler hprices hfits))
    intro result later _ _ hresult
    cases result with
    | ok view => exact trivial
    | error failure =>
        obtain ⟨hroute, hexpected⟩ := hresult
        cases failure with
        | internal => exact absurd rfl hexpected
        | rateLimited => exact hroute.elim
        | api | validation => exact hroute
  · apply System.wp_mono hrefuses
    intro result later _ _ hroute
    cases result with
    | ok view => exact trivial
    | error failure =>
        cases failure with
        | internal => exact hfits
        | rateLimited => exact hroute.elim
        | api | validation => exact hroute

/-- What a finished worker has answered. -/
def Told (runtime : Runtime) :
    (label : Label) → Except label.Failure label.Result → Cloud → Prop
  | .request context request, result, _ => ∀ response failure, result = .ok response →
    response.outcome = .error failure → request.Explains runtime context failure
  | _, _, _ => True

theorem wp_respond_told {rateLimit : Option RateLimitResult} {code : Handler View}
    (hprices : stayProtocol.Invariant cloud)
    (hcode : (system network runtime).wp stayProtocol
      (System.FailsOnly (request.Explains runtime context)) code cloud) :
    (system network runtime).wp stayProtocol (Told runtime (.request context request))
      (respond rateLimit code) cloud := by
  apply System.wp_handle hprices
  apply System.wp_bind hprices
  apply System.wp_mono hcode
  intro outcome later _ _ houtcome
  cases outcome with
  | ok view =>
      rintro final _ _ response failure ⟨⟩ hfailed
      cases hfailed
  | error thrown =>
      rintro final _ _ response failure ⟨⟩ hfailed
      cases hfailed
      exact houtcome

theorem wp_handleRequest_told (hprices : stayProtocol.Invariant cloud) :
    (system network runtime).wp stayProtocol (Told runtime (.request context request))
      (handleRequest runtime context request) cloud := by
  rw [handleRequest]
  cases hlimit : limitOf request with
  | none => exact wp_respond_told hprices (explains_handler hprices)
  | some policy =>
      refine wp_keeps (keeps_stay trivial) ?_
      intro _ _ _ _ _ _ _ _ _
      refine wp_keeps (keeps_stay trivial) ?_
      intro _ _ _ after _ _ _ _ hafter
      change System.wp _ _ _ (if decide _ = true then _ else _) _
      split
      · exact wp_respond_told hafter (explains_handler hafter)
      · apply wp_respond_told hafter
        intro _ _ _
        exact Option.isSome_iff_exists.mpr ⟨policy, hlimit⟩

theorem wp_told (label : Label) (hprices : stayProtocol.Invariant cloud) :
    (system network runtime).wp stayProtocol (Told runtime label)
      ((system network runtime).program label) cloud := by
  have hquiet (hlabel : label.isRequest = false) : (system network runtime).wp stayProtocol
      (fun _ _ => True) ((system network runtime).program label) cloud :=
    wp_of_keeps (program_uses network runtime label) fun operation hpermits =>
      keeps_stay (priced_of_permits hlabel hpermits)
  cases label with
  | reconcile | sweep => exact System.wp_mono (hquiet rfl) fun _ _ _ _ _ => trivial
  | request context request => exact wp_handleRequest_told hprices

end Requests

/-! ## Every schedule -/

/-- The step does not save what is disturbed. -/
def Calm (pool : WorkerPool) : WorkerSchedule → Prop
  | .advance index _ =>
    ∀ operation ∈ (pool.threads[index]?).bind fun thread => thread.program.head,
      Undisturbed operation pool.state
  | _ => True

instance decidableCalm (pool : WorkerPool) : DecidablePred (Calm pool) := fun
  | .advance _ _ => inferInstanceAs (Decidable (∀ operation ∈ _, Undisturbed operation _))
  | .launch _ => isTrue trivial
  | .kill _ => isTrue trivial
  | .event _ => isTrue trivial

theorem admits_told :
    (system network runtime).Admits stayProtocol (Told runtime) Calm where
  launch := fun _ hprices => wp_told _ hprices
  advance := by
    intro pool index choice label operation next left right hcalm hthreads hindex
    apply hcalm operation
    rw [System.getElem?_of_split hthreads hindex]
    rfl
  event := by
    intro pool event _ hprices
    cases event with
    | mine chainId blocks =>
        exact ⟨hprices, Tables.ProfilesStay.refl _, fun _ => Persists.refl _⟩

theorem told_run {cloud : Cloud} {schedule : List WorkerSchedule}
    (hprices : Tables.PricesParse cloud.database.toTables)
    (hcalm : Machine.Meets (system network runtime).step Calm (idle cloud) schedule) :
    (system network runtime).Orderly stayProtocol (Told runtime)
      ((system network runtime).run (idle cloud) schedule) := by
  have hidle : (system network runtime).Orderly stayProtocol (Told runtime) (idle cloud) :=
    System.Orderly.empty hprices
  exact (hidle.run admits_told hcalm).1

theorem explains_of_told {pool : WorkerPool} {context : RequestContext} {request : Request}
    {response : Response} {failure : Failure}
    (hpool : (system network runtime).Orderly stayProtocol (Told runtime) pool)
    (hthread : (⟨.request context request, .ret response⟩ : Thread workers _ _) ∈
      pool.threads)
    (hfailed : response.outcome = .error failure) :
    request.Explains runtime context failure :=
  hpool.threads _ hthread _ (stayProtocol.refl _) hpool.invariant response failure rfl hfailed

/-- In every schedule in which drawn ids are new and no question is swept away under its
answer, a request that fails is told why: it gets a refusal of its route, the issues of
its input or its quota, and an exception only over an input that does not fit. -/
theorem failures_are_told (network : Network) (runtime : Runtime) (cloud : Cloud)
    (schedule : List WorkerSchedule) (hprices : Tables.PricesParse cloud.database.toTables)
    (hcalm : Machine.Meets (system network runtime).step Calm (idle cloud) schedule)
    (context : RequestContext) (request : Request) (response : Response)
    (failure : Failure)
    (hthread : (⟨.request context request, .ret response⟩ : Thread workers _ _) ∈
      ((system network runtime).run (idle cloud) schedule).threads)
    (hfailed : response.outcome = .error failure) :
    request.Explains runtime context failure :=
  explains_of_told (told_run hprices hcalm) hthread hfailed

namespace Sample

/-- The wallet that comes second. -/
def second : RequestContext where
  clientIp := []
  wallet := some "0x00000000000000000000000000000000000000c3".toList
  now := 7

def wanted : Request := .claim (.object {
  handle := some (.string "Bob".toList), displayName := none, minPriceUsdc := none })

def taken : Failure := .api {
  status := 409, code := "handle_taken", message := "that handle is taken" }

theorem pricesParse : Tables.PricesParse cloud.database.toTables := by
  intro row hrow
  rw [List.mem_singleton.mp hrow]
  decide

end Sample

/-- Of two wallets that claim one handle, the second is told that it is taken. -/
theorem failures_are_told_sample :
    Sample.wanted.Explains Sample.runtime Sample.second Sample.taken := by
  let response : Response := {
    rateLimit := some {
      allowed := true, limit := 8, count := 1, remaining := 7, resetSeconds := 53 }
    outcome := .error Sample.taken }
  have hlast : ((system Sample.network Sample.runtime).run (idle Sample.cloud)
      Sample.race).threads[1]? = some
        ⟨.request Sample.second Sample.wanted, .ret response⟩ := rfl
  exact failures_are_told Sample.network Sample.runtime Sample.cloud Sample.race
    Sample.pricesParse (by decide +kernel) Sample.second Sample.wanted response
    Sample.taken (List.mem_of_getElem? hlast) rfl

end BuyAnAnswer.Workers
