import BuyAnAnswer.Workers.Requests
import BuyAnAnswer.Workers.System

/-!
# Validation at the edge

The schemas of the request bodies mirror the `CHECK` constraints of the tables, but
they measure texts differently: SQLite stops at a NUL character, and it bounds the
digits of a price where the schema bounds its value.  An accepted body therefore
fits the table unless a text that must not be empty starts with a NUL or a price is
padded with zeros beyond 39 digits.
-/

namespace BuyAnAnswer.Workers

open Text Shared Api BuyAnAnswer.Transaction

/-! ## How SQLite sees a text -/

/-- SQLite takes the text for an empty one. -/
def startsWithNul (text : Text) : Bool := text.head? = some '\x00'

theorem sqlLength_le (text : Text) : sqlLength text ≤ utf16Length text :=
  (List.takeWhile_sublist _).length_le.trans (length_le_utf16Length text)

theorem sqlLength_pos_iff {text : Text} (hne : 1 ≤ utf16Length text) :
    1 ≤ sqlLength text ↔ startsWithNul text = false := by
  cases text with
  | nil => simp [utf16Length] at hne
  | cons char text =>
      by_cases hnul : char = '\x00'
      · simp [sqlLength, sqlText, startsWithNul, hnul]
      · simp [sqlLength, sqlText, startsWithNul, hnul]

theorem sqlText_eq {text : Text} (hno : '\x00' ∉ text) : sqlText text = text := by
  rw [sqlText, List.takeWhile_eq_self_iff]
  intro char hchar
  rw [decide_eq_true_eq]
  rintro rfl
  exact hno hchar

/-! ## What the schemas accept -/

/-- A field is accepted with a value. -/
def Accepts {A : Type} (parsed : Parsed A) (value : A) : Prop :=
  parsed.value = some value ∧ parsed.problems = []

theorem unless_eq_nil {condition : Bool} {problem : Problem} :
    Problem.unless condition problem = [] ↔ condition = true := by
  cases condition <;> simp [Problem.unless]

theorem issues_eq_nil {A : Type} {parsed : Parsed A} {path : RequestField} :
    parsed.issues path = [] ↔ parsed.problems = [] := List.map_eq_nil_iff

theorem parseString_accepts {field : Option JsonValue} {check : Text → Parsed Text}
    {value : Text} (haccepts : Accepts (parseString field check) value) :
    ∃ text, Accepts (check text) value := by
  cases field with
  | none => cases haccepts.1
  | some json =>
      cases json with
      | string text => exact ⟨text, haccepts⟩
      | _ => cases haccepts.1

theorem trimmedSchema_accepts {least most : ℕ} {field : Option JsonValue} {value : Text}
    (haccepts : Accepts (trimmedSchema least most field) value) :
    least ≤ utf16Length value ∧ utf16Length value ≤ most := by
  obtain ⟨text, hvalue, hproblems⟩ := parseString_accepts haccepts
  cases hvalue
  simpa [unless_eq_nil] using hproblems

theorem boundedSchema_accepts {most : ℕ} {field : Option JsonValue} {value : Text}
    (haccepts : Accepts (boundedSchema most field) value) : utf16Length value ≤ most := by
  obtain ⟨text, hvalue, hproblems⟩ := parseString_accepts haccepts
  cases hvalue
  simpa [unless_eq_nil] using hproblems

theorem handleSchema_accepts {field : Option JsonValue} {value : Text}
    (haccepts : Accepts (handleSchema field) value) : HANDLE_RE value = true := by
  obtain ⟨text, hvalue, hproblems⟩ := parseString_accepts haccepts
  cases hvalue
  simpa [unless_eq_nil] using hproblems

theorem accepts_of_map {A : Type} {parsed : Parsed A} {value : A}
    (haccepts : Accepts { value := parsed.value.map some, problems := parsed.problems }
      (some value)) : Accepts parsed value := by
  obtain ⟨hvalue, hproblems⟩ := haccepts
  simp only [Option.map_eq_some_iff, Option.some.injEq, exists_eq_right] at hvalue
  exact ⟨hvalue, hproblems⟩

theorem optional_accepts {A : Type} {schema : Option JsonValue → Parsed A}
    {field : Option JsonValue} {value : A}
    (haccepts : Accepts (Api.optional schema field) (some value)) :
    Accepts (schema field) value := by
  cases field with
  | none => cases haccepts.1
  | some json => exact accepts_of_map haccepts

theorem nullable_accepts {A : Type} {schema : Option JsonValue → Parsed A}
    {field : Option JsonValue} {value : A}
    (haccepts : Accepts (nullable schema field) (some value)) :
    Accepts (schema field) value := by
  cases field with
  | none => exact accepts_of_map haccepts
  | some json =>
      cases json with
      | null => cases haccepts.1
      | _ => exact accepts_of_map haccepts

/-- A price is a text of digits with a value between the bounds. -/
structure IsPrice (text : Text) : Prop where
  nonempty : text ≠ []
  digits : ∀ char ∈ text, char.isDigit = true
  least : 1000000 ≤ Nat.ofDigitChars 10 text 0
  most : Nat.ofDigitChars 10 text 0 ≤ 10000000000

theorem minPriceSchema_accepts {field : Option JsonValue} {parsed : Parsed Text}
    {price : Text} (hparsed : minPriceSchema field = .ok parsed)
    (haccepts : Accepts parsed price) : IsPrice price := by
  obtain ⟨hvalue, hproblems⟩ := haccepts
  cases field with
  | none =>
      cases hparsed
      cases hvalue
  | some json =>
      cases json with
      | string text =>
          rw [minPriceSchema] at hparsed
          cases hprice : bigInt text with
          | none =>
              rw [hprice] at hparsed
              cases hparsed
          | some amount =>
              rw [hprice] at hparsed
              cases hparsed
              cases hvalue
              simp only [List.append_eq_nil_iff, unless_eq_nil, Bool.and_eq_true,
                decide_eq_true_eq, List.all_eq_true] at hproblems
              obtain ⟨⟨hne, hdigits⟩, hleast, hmost⟩ := hproblems
              rw [bigInt_digits hne hdigits, Option.some.injEq] at hprice
              exact ⟨hne, hdigits, by omega, by omega⟩
      | _ =>
          cases hparsed
          cases hvalue

theorem optionalMinPrice_accepts {field : Option JsonValue}
    {parsed : Parsed (Option Text)} {price : Text}
    (hparsed : optionalMinPrice field = .ok parsed)
    (haccepts : Accepts parsed (some price)) : IsPrice price := by
  cases field with
  | none =>
      cases hparsed
      cases haccepts.1
  | some json =>
      cases hmin : minPriceSchema (some json) with
      | error failure =>
          rw [optionalMinPrice, hmin] at hparsed
          cases hparsed
      | ok inner =>
          rw [optionalMinPrice, hmin] at hparsed
          cases hparsed
          exact minPriceSchema_accepts hmin (accepts_of_map haccepts)

/-! ## The accepted bodies -/

/-- What is known of an accepted claim. -/
structure ClaimAccepted (body : ClaimBody) : Prop where
  handle : HANDLE_RE body.handle = true
  displayName : ∀ name ∈ body.displayName, 1 ≤ utf16Length name ∧ utf16Length name ≤ 50
  price : ∀ price ∈ body.minPriceUsdc, IsPrice price

theorem claimBody_accepted {fields : ClaimFields} {body : ClaimBody}
    (hok : claimBody fields = .ok body) : ClaimAccepted body := by
  rw [claimBody] at hok
  cases hprice : optionalMinPrice fields.minPriceUsdc with
  | error failure =>
      rw [hprice] at hok
      cases hok
  | ok price =>
      rw [hprice] at hok
      simp only [bind, Except.bind] at hok
      split at hok
      · next hissues hhandle hname hvalue =>
        cases hok
        simp only [List.append_eq_nil_iff, issues_eq_nil] at hissues
        obtain ⟨⟨hhandleOk, hnameOk⟩, hpriceOk⟩ := hissues
        refine ⟨handleSchema_accepts ⟨hhandle, hhandleOk⟩, ?_, ?_⟩
        · rintro name ⟨⟩
          exact trimmedSchema_accepts (optional_accepts ⟨hname, hnameOk⟩)
        · rintro amount ⟨⟩
          exact optionalMinPrice_accepts hprice ⟨hvalue, hpriceOk⟩
      · cases hok

/-- What is known of an accepted profile. -/
structure ProfileAccepted (body : ProfileBody) : Prop where
  displayName : ∀ name ∈ body.displayName, 1 ≤ utf16Length name ∧ utf16Length name ≤ 50
  headline : ∀ text, body.headline = some (some text) → utf16Length text ≤ 80
  bio : ∀ text, body.bio = some (some text) → utf16Length text ≤ 500
  price : ∀ price ∈ body.minPriceUsdc, IsPrice price

theorem profileBody_accepted {runtime : Runtime} {fields : ProfileFields}
    {body : ProfileBody} (hok : profileBody runtime fields = .ok body) :
    ProfileAccepted body := by
  rw [profileBody] at hok
  cases hprice : optionalMinPrice fields.minPriceUsdc with
  | error failure =>
      rw [hprice] at hok
      cases hok
  | ok price =>
      rw [hprice] at hok
      simp only [bind, Except.bind] at hok
      split at hok
      · next hissues hname hheadline hbio _ hvalue =>
        cases hok
        simp only [List.append_eq_nil_iff, issues_eq_nil] at hissues
        obtain ⟨⟨⟨⟨⟨hnameOk, hheadlineOk⟩, hbioOk⟩, _⟩, hpriceOk⟩, _⟩ := hissues
        refine ⟨?_, ?_, ?_, ?_⟩
        · rintro name ⟨⟩
          exact trimmedSchema_accepts (optional_accepts ⟨hname, hnameOk⟩)
        · rintro text ⟨⟩
          exact boundedSchema_accepts
            (nullable_accepts (optional_accepts ⟨hheadline, hheadlineOk⟩))
        · rintro text ⟨⟩
          exact boundedSchema_accepts (nullable_accepts (optional_accepts ⟨hbio, hbioOk⟩))
        · rintro amount ⟨⟩
          exact optionalMinPrice_accepts hprice ⟨hvalue, hpriceOk⟩
      · cases hok

theorem createQuestionBody_accepted {fields : QuestionFields} {body : CreateQuestionBody}
    (hok : createQuestionBody fields = .ok body) :
    1 ≤ utf16Length body.body ∧ utf16Length body.body ≤ 2000 := by
  rw [createQuestionBody] at hok
  cases hamount : amountUsdcSchema fields.amountUsdc with
  | error failure =>
      rw [hamount] at hok
      cases hok
  | ok amount =>
      rw [hamount] at hok
      simp only [bind, Except.bind] at hok
      split at hok
      · next hissues _ hbody _ _ =>
        cases hok
        simp only [List.append_eq_nil_iff, issues_eq_nil] at hissues
        exact trimmedSchema_accepts ⟨hbody, hissues.1.1.2⟩
      · cases hok

theorem answerBody_accepted {fields : AnswerFields} {body : Text}
    (hok : answerBody fields = .ok body) :
    1 ≤ utf16Length body ∧ utf16Length body ≤ 5000 := by
  rw [answerBody] at hok
  split at hok
  · next hissues hbody =>
    cases hok
    rw [issues_eq_nil] at hissues
    exact trimmedSchema_accepts ⟨hbody, hissues⟩
  · cases hok

/-! ## The rows of the accepted bodies -/

/-- The row that `POST /handle/claim` inserts. -/
def claimedRow (wallet : Text) (body : ClaimBody) (now : ℕ) : Creator where
  wallet := wallet
  handle := body.handle
  displayName := body.displayName.getD body.handle
  headline := none
  bio := none
  avatarUrl := none
  links := none
  minPriceUsdc := body.minPriceUsdc.getD "1000000".toList
  createdAt := now
  updatedAt := now

/-- The columns that `PUT /profile` sets. -/
def profilePatch (body : ProfileBody) (now : ℕ) : CreatorPatch where
  displayName := body.displayName
  headline := body.headline
  bio := body.bio
  links := body.links
  minPriceUsdc := body.minPriceUsdc
  updatedAt := now

/-- The row that `POST /questions/:id/answer` inserts. -/
def savedAnswer (id body : Text) (now : ℕ) : Answer where
  questionId := id
  body := body
  submittedAt := now
  revealedAt := none
  updatedAt := now

/-- A name and a price that fit the table. -/
def Storable (displayName minPriceUsdc : Option Text) : Prop :=
  (∀ name ∈ displayName, startsWithNul name = false) ∧
    ∀ price ∈ minPriceUsdc, price.length ≤ 39

theorem IsPrice.check_iff {price : Text} (hprice : IsPrice price) :
    (isBaseUnits price = true ∧ 1000000 ≤ castInteger price ∧
      castInteger price ≤ 10000000000) ↔ price.length ≤ 39 := by
  have hno : '\x00' ∉ price := by
    intro hnul
    exact absurd (hprice.digits _ hnul) (by decide)
  have hpositive : 1 ≤ price.length := List.length_pos_iff.mpr hprice.nonempty
  have hcast : castInteger price = Nat.ofDigitChars 10 price 0 := by
    rw [castInteger, sqlText_eq hno, List.takeWhile_eq_self_iff.mpr hprice.digits]
  rw [hcast, isBaseUnits, sqlLength, sqlText_eq hno]
  simp [hprice.least, hprice.most, hpositive, List.all_eq_true.mpr hprice.digits]

theorem length_check_iff {text : Text} {most : ℕ} (hleast : 1 ≤ utf16Length text)
    (hmost : utf16Length text ≤ most) :
    (1 ≤ sqlLength text ∧ sqlLength text ≤ most) ↔ startsWithNul text = false := by
  have hlength := sqlLength_le text
  rw [sqlLength_pos_iff hleast]
  constructor
  · exact fun hboth => hboth.1
  · exact fun hfirst => ⟨hfirst, by omega⟩

/-- An accepted handle fits the table, and would as a name. -/
theorem handle_fits {handle : Text} (hformat : HANDLE_RE handle = true) :
    (3 ≤ sqlLength handle ∧ sqlLength handle ≤ 30) ∧
      (sqlText handle).all (fun char =>
        ('a' ≤ char && char ≤ 'z') || char.isDigit || char = '_') = true := by
  simp only [HANDLE_RE, Bool.and_eq_true, decide_eq_true_eq] at hformat
  obtain ⟨⟨hleast, hmost⟩, hchars⟩ := hformat
  have hno : '\x00' ∉ handle := by
    intro hnul
    exact absurd (List.all_eq_true.mp hchars _ hnul) (by decide)
  rw [sqlLength, sqlText_eq hno]
  exact ⟨⟨hleast, hmost⟩, hchars⟩

/-- A name, or what stands in for an absent one. -/
theorem name_check_iff {given : Option Text} {other : Text}
    (hgiven : ∀ name ∈ given, 1 ≤ utf16Length name ∧ utf16Length name ≤ 50)
    (hother : 1 ≤ sqlLength other ∧ sqlLength other ≤ 50) :
    (1 ≤ sqlLength (given.getD other) ∧ sqlLength (given.getD other) ≤ 50) ↔
      ∀ name ∈ given, startsWithNul name = false := by
  cases given with
  | none => simpa using hother
  | some name =>
      obtain ⟨hleast, hmost⟩ := hgiven name rfl
      simpa using length_check_iff hleast hmost

/-- A price, or what stands in for an absent one. -/
theorem price_check_iff {given : Option Text} {other : Text}
    (hgiven : ∀ price ∈ given, IsPrice price)
    (hother : isBaseUnits other = true ∧ 1000000 ≤ castInteger other ∧
      castInteger other ≤ 10000000000) :
    (isBaseUnits (given.getD other) = true ∧ 1000000 ≤ castInteger (given.getD other) ∧
      castInteger (given.getD other) ≤ 10000000000) ↔
      ∀ price ∈ given, price.length ≤ 39 := by
  cases given with
  | none => simpa using hother
  | some price => simpa using (hgiven price rfl).check_iff

theorem claimedRow_valid_iff {wallet : Text} {body : ClaimBody} {now : ℕ}
    (hwallet : isAddress wallet = true) (haccepted : ClaimAccepted body) :
    (claimedRow wallet body now).Valid ↔
      Storable body.displayName body.minPriceUsdc := by
  obtain ⟨hlength, hchars⟩ := handle_fits haccepted.handle
  have hname := @name_check_iff body.displayName body.handle haccepted.displayName
    ⟨by omega, by omega⟩
  have hprice := @price_check_iff body.minPriceUsdc "1000000".toList haccepted.price
    (by decide)
  constructor
  · exact fun hvalid =>
      ⟨hname.mp hvalid.display_name_len, hprice.mp hvalid.min_price⟩
  · intro ⟨hnames, hprices⟩
    exact ⟨hwallet, ⟨hlength, hchars⟩, hname.mpr hnames, by simp [claimedRow],
      by simp [claimedRow], hprice.mpr hprices⟩

theorem patched_valid_iff {row : Creator} {body : ProfileBody} {now : ℕ}
    (hrow : row.Valid) (haccepted : ProfileAccepted body) :
    ((profilePatch body now).apply row).Valid ↔
      Storable body.displayName body.minPriceUsdc := by
  have hname := @name_check_iff body.displayName row.displayName haccepted.displayName
    hrow.display_name_len
  have hprice := @price_check_iff body.minPriceUsdc row.minPriceUsdc haccepted.price
    hrow.min_price
  constructor
  · exact fun hvalid =>
      ⟨hname.mp hvalid.display_name_len, hprice.mp hvalid.min_price⟩
  · intro ⟨hnames, hprices⟩
    refine ⟨hrow.wallet_addr, hrow.handle_fmt, hname.mpr hnames, ?_, ?_,
      hprice.mpr hprices⟩
    · intro text htext
      rw [CreatorPatch.apply, profilePatch] at htext
      cases hheadline : body.headline with
      | none =>
          rw [hheadline] at htext
          exact hrow.headline_len text htext
      | some given =>
          rw [hheadline] at htext
          cases htext
          exact (sqlLength_le text).trans (haccepted.headline text hheadline)
    · intro text htext
      rw [CreatorPatch.apply, profilePatch] at htext
      cases hbio : body.bio with
      | none =>
          rw [hbio] at htext
          exact hrow.bio_len text htext
      | some given =>
          rw [hbio] at htext
          cases htext
          exact (sqlLength_le text).trans (haccepted.bio text hbio)

theorem draft_valid_iff {request : QuestionRequest} {chainId : ℕ} {creator : Creator}
    {body : Text} (hasker : isAddress request.asker = true) (hcreator : creator.Valid)
    (hchain : chainId ∈ ALLOWED_CHAIN_IDS) (hleast : 1 ≤ utf16Length body)
    (hmost : utf16Length body ≤ 2000) :
    (request.draft chainId creator body).Valid ↔ startsWithNul body = false := by
  have hpositive : 0 < chainId := by
    obtain rfl | rfl : chainId = 8453 ∨ chainId = 84532 := by
      simpa [ALLOWED_CHAIN_IDS] using hchain
    · decide
    · decide
  constructor
  · exact fun hvalid => (length_check_iff hleast hmost).mp hvalid.body_len
  · intro hbody
    exact ⟨hasker, hcreator.wallet_addr, hpositive, by simp [QuestionRequest.draft],
      by simp [QuestionRequest.draft], (length_check_iff hleast hmost).mpr hbody⟩

theorem savedAnswer_valid_iff {id body : Text} {now : ℕ} (hleast : 1 ≤ utf16Length body)
    (hmost : utf16Length body ≤ 5000) :
    (savedAnswer id body now).Valid ↔ startsWithNul body = false := by
  constructor
  · exact fun hvalid => (length_check_iff hleast hmost).mp hvalid.body_len
  · exact fun hbody => ⟨(length_check_iff hleast hmost).mpr hbody⟩

/-! ## What becomes of the request -/

section Handlers

variable {cloud : Cloud} {wallet id : Text} {now : ℕ}

theorem claimHandle_internal_iff {fields : RequestBody ClaimFields} {body : ClaimBody}
    (hok : parseBody claimBody fields = .ok body)
    (hfree : isReservedHandle body.handle = false)
    (hnew : Table.lookup Creator.wallet cloud.database.creators wallet = none) :
    (cloud.finish (claimHandle wallet fields now)).1 = .error .internal ↔
      ¬ (claimedRow wallet body now).Valid := by
  have hread := @Cloud.finish_read View cloud (.creatorByWallet wallet)
  have hfits : ((Statement.insertCreator (claimedRow wallet body now)).effect
      cloud.database.toTables).Consistent → (claimedRow wallet body now).Valid :=
    fun hconsistent => hconsistent.creators_check _ (by simp [Statement.effect])
  rw [claimHandle, hok, Program.ofExcept, Program.ret_bind, if_neg (by simp [hfree]),
    hread rfl rfl]
  simp only [Statement.reply, hnew]
  change (cloud.finish (.await (.database (.insertCreator (claimedRow wallet body now)))
    _)).1 = _ ↔ _
  rw [Cloud.finish_database]
  obtain ⟨database, hexecute, htables⟩ | ⟨hexecute, hbroken⟩ :=
    execute_cases cloud (.insertCreator (claimedRow wallet body now))
  · have hvalid := hfits (htables ▸ database.consistent)
    rw [hexecute]
    simp [hvalid]
  · rw [hexecute, Statement.refusal]
    by_cases hvalid : (claimedRow wallet body now).Valid
    · simp [hvalid, refuse]
    · simp [hvalid]

/-- A patch is refused for its `CHECK`s only. -/
theorem updateCreator_consistent_iff {patch : CreatorPatch} {row : Creator}
    (hrow : Table.lookup Creator.wallet cloud.database.creators wallet = some row) :
    ((Statement.updateCreator wallet patch).effect
      cloud.database.toTables).Consistent ↔ (patch.apply row).Valid := by
  have hconsistent := cloud.database.consistent
  have hwallet := Table.lookup_key hrow
  have hmem := Table.lookup_mem hrow
  constructor
  · intro hafter
    apply hafter.creators_check
    exact Table.mem_update.mpr (.inr ⟨row, hmem, by simp [hwallet], rfl⟩)
  · intro hvalid
    have hwallets : (Table.update (fun row => row.wallet = wallet) patch.apply
        cloud.database.creators).map Creator.wallet =
        cloud.database.creators.map Creator.wallet := Table.map_update fun _ => rfl
    have hhandles : (Table.update (fun row => row.wallet = wallet) patch.apply
        cloud.database.creators).map Creator.handle =
        cloud.database.creators.map Creator.handle := Table.map_update fun _ => rfl
    refine { hconsistent with
      creators_check := ?_, creators_primary := ?_, creators_handle_unique := ?_
      questions_answerer := ?_ }
    · intro other hother
      obtain ⟨hold, _⟩ | ⟨old, hold, hhits, rfl⟩ := Table.mem_update.mp hother
      · exact hconsistent.creators_check other hold
      · have hsame : old = row := by
          apply List.inj_on_of_nodup_map hconsistent.creators_primary hold hmem
          rw [hwallet]
          simpa using hhits
        rw [hsame]
        exact hvalid
    · exact hwallets.symm ▸ hconsistent.creators_primary
    · exact hhandles.symm ▸ hconsistent.creators_handle_unique
    · intro question hquestion
      exact hwallets.symm ▸ hconsistent.questions_answerer question hquestion

theorem putProfile_internal_iff {runtime : Runtime} {fields : RequestBody ProfileFields}
    {body : ProfileBody} {row : Creator}
    (hok : parseBody (profileBody runtime) fields = .ok body)
    (hrow : Table.lookup Creator.wallet cloud.database.creators wallet = some row) :
    (cloud.finish (putProfile runtime wallet fields now)).1 = .error .internal ↔
      ¬ ((profilePatch body now).apply row).Valid := by
  rw [putProfile, hok, Program.ofExcept, Program.ret_bind, Cloud.finish_ownProfile, hrow]
  simp only [updateProfile, bind_assoc]
  change (cloud.finish (query (.updateCreator wallet (profilePatch body now)) >>= _)).1 =
    _ ↔ _
  rw [← updateCreator_consistent_iff hrow]
  obtain ⟨database, hexecute, htables⟩ | ⟨hexecute, hbroken⟩ :=
    execute_cases cloud (.updateCreator wallet (profilePatch body now))
  · have hconsistent := database.consistent
    rw [htables] at hconsistent
    rw [Cloud.finish_query_ok hexecute]
    simp [Statement.reply, hrow, hconsistent]
  · rw [Cloud.finish_query_error hexecute]
    simp [hbroken rfl]

/-- A question is refused for its `CHECK`s only, if its id is new. -/
theorem insertQuestion_consistent_iff {row : Question}
    (hnew : row.id ∉ cloud.database.questions.map Question.id)
    (honchain : row.onchainId = none)
    (hcreator : row.answererWallet ∈ cloud.database.creators.map Creator.wallet) :
    ((Statement.insertQuestion row).effect cloud.database.toTables).Consistent ↔
      row.Valid := by
  have hconsistent := cloud.database.consistent
  constructor
  · exact fun hafter => hafter.questions_check row (by simp [Statement.effect])
  · intro hvalid
    refine { hconsistent with
      questions_check := ?_, questions_primary := ?_
      questions_chain_onchain_unique := ?_, questions_answerer := ?_
      answers_question := ?_ }
    · intro other hother
      obtain hold | hlast := List.mem_append.mp hother
      · exact hconsistent.questions_check other hold
      · rw [List.mem_singleton.mp hlast]
        exact hvalid
    · change ((cloud.database.questions ++ [row]).map Question.id).Nodup
      rw [List.map_append, List.nodup_append]
      refine ⟨hconsistent.questions_primary, by simp, ?_⟩
      intro first hfirst second hsecond hsame
      rw [List.map_singleton, List.mem_singleton] at hsecond
      exact hnew (hsecond ▸ hsame ▸ hfirst)
    · apply List.pairwise_append.mpr
      refine ⟨hconsistent.questions_chain_onchain_unique, List.pairwise_singleton _ _, ?_⟩
      intro left _ right hright
      by_cases hnull : left.onchainId = none
      · exact .inl hnull
      · right
        intro hsame
        rw [List.mem_singleton.mp hright, honchain] at hsame
        exact hnull (Prod.mk.inj hsame).2
    · intro other hother
      obtain hold | hlast := List.mem_append.mp hother
      · exact hconsistent.questions_answerer other hold
      · rw [List.mem_singleton.mp hlast]
        exact hcreator
    · intro answer hanswer
      change answer.questionId ∈ (cloud.database.questions ++ [row]).map Question.id
      rw [List.map_append]
      exact List.mem_append_left _ (hconsistent.answers_question answer hanswer)

theorem postQuestions_internal_iff {request : QuestionRequest} {row : Question}
    (hmints : request.mints { database := cloud.database, records := cloud.records } =
      some row)
    (hnew : request.uuid ∉ cloud.database.questions.map Question.id)
    (hcreator : row.answererWallet ∈ cloud.database.creators.map Creator.wallet) :
    (cloud.finish (postQuestions request)).1 = .error .internal ↔ ¬ row.Valid := by
  obtain ⟨hcompose, hfresh⟩ := mints_spec hmints
  obtain ⟨chainId, creator, body, rfl⟩ := QuestionRequest.compose_eq_ok hcompose
  obtain ⟨next, hrun, hnext⟩ := finish_mintOnce hfresh
  rw [postQuestions_eq, finish_composeRow, hcompose]
  simp only
  rw [hrun, ← insertQuestion_consistent_iff hnew rfl hcreator]
  obtain ⟨database, hexecute, htables⟩ | ⟨hexecute, hbroken⟩ :=
    execute_cases cloud (.insertQuestion (request.draft chainId creator body))
  · have hconsistent := database.consistent
    rw [htables] at hconsistent
    rw [Cloud.finish_query_ok hexecute]
    obtain ⟨after, hdone, _⟩ := hnext (request.draft chainId creator body).id
      { cloud with database }
    simp only [Statement.reply]
    rw [hdone]
    simp [hconsistent]
  · rw [Cloud.finish_query_error hexecute]
    simp [hbroken rfl]

/-- An answer to a question that exists is refused for its `CHECK` only. -/
theorem upsertAnswer_consistent_iff {body : Text}
    (hquestion : id ∈ cloud.database.questions.map Question.id) :
    ((Statement.upsertAnswer (savedAnswer id body now)).effect
      cloud.database.toTables).Consistent ↔ (savedAnswer id body now).Valid := by
  have hconsistent := cloud.database.consistent
  have hbody (row : Answer) (hrow : row.body = body) :
      row.Valid ↔ (savedAnswer id body now).Valid := by
    constructor
    · exact fun hvalid => ⟨hrow ▸ hvalid.body_len⟩
    · exact fun hvalid => ⟨hrow ▸ hvalid.body_len⟩
  cases hold : Table.lookup Answer.questionId cloud.database.answers id with
  | none =>
      have hanswers : Statement.upsert (savedAnswer id body now) cloud.database.answers =
          cloud.database.answers ++ [savedAnswer id body now] := by
        rw [Statement.upsert, savedAnswer, hold]
      rw [Statement.effect, hanswers]
      constructor
      · exact fun hafter => hafter.answers_check _ (by simp)
      · intro hvalid
        refine { hconsistent with
          answers_check := ?_, answers_primary := ?_, answers_question := ?_ }
        · intro answer hanswer
          obtain hanswer | hlast := List.mem_append.mp hanswer
          · exact hconsistent.answers_check answer hanswer
          · exact (List.mem_singleton.mp hlast) ▸ hvalid
        · rw [List.map_append, List.nodup_append]
          refine ⟨hconsistent.answers_primary, by simp, ?_⟩
          intro first hfirst second hsecond hsame
          rw [List.map_singleton, List.mem_singleton] at hsecond
          obtain ⟨answer, hanswer, hid⟩ := List.mem_map.mp hfirst
          have hnone := Table.lookup_eq_none.mp hold answer hanswer
          exact hnone (hid.trans (hsame.trans hsecond))
        · intro answer hanswer
          obtain hanswer | hlast := List.mem_append.mp hanswer
          · exact hconsistent.answers_question answer hanswer
          · rw [List.mem_singleton.mp hlast]
            exact hquestion
  | some old =>
      have hanswers : Statement.upsert (savedAnswer id body now) cloud.database.answers =
          Table.update (fun answer => answer.questionId = id)
            (Statement.replaceBody (savedAnswer id body now)) cloud.database.answers := by
        rw [Statement.upsert, savedAnswer, hold]
      have hids : (Table.update (fun answer => decide (answer.questionId = id))
          (Statement.replaceBody (savedAnswer id body now))
            cloud.database.answers).map Answer.questionId =
          cloud.database.answers.map Answer.questionId := Table.map_update fun _ => rfl
      rw [Statement.effect, hanswers]
      constructor
      · intro hafter
        rw [← hbody (Statement.replaceBody (savedAnswer id body now) old) rfl]
        apply hafter.answers_check
        exact Table.mem_update.mpr (.inr ⟨old, Table.lookup_mem hold,
          by simp [Table.lookup_key hold], rfl⟩)
      · intro hvalid
        refine { hconsistent with
          answers_check := ?_, answers_primary := ?_, answers_question := ?_ }
        · intro answer hanswer
          obtain ⟨hkept, _⟩ | ⟨old, _, _, rfl⟩ := Table.mem_update.mp hanswer
          · exact hconsistent.answers_check answer hkept
          · exact (hbody _ rfl).mpr hvalid
        · exact hids.symm ▸ hconsistent.answers_primary
        · intro answer hanswer
          have hid : answer.questionId ∈ _ := hids ▸ List.mem_map_of_mem hanswer
          obtain ⟨kept, hkept, hsame⟩ := List.mem_map.mp hid
          exact hsame ▸ hconsistent.answers_question kept hkept

theorem postAnswer_internal_iff {fields : RequestBody AnswerFields} {body : Text}
    {question : Question} (hok : parseBody answerBody fields = .ok body)
    (hquestion : Table.lookup Question.id cloud.database.questions id = some question)
    (hanswerer : wallet = question.answererWallet) (hopen : question.status ≠ .answered) :
    (cloud.finish (postAnswer wallet id fields now)).1 = .error .internal ↔
      ¬ (savedAnswer id body now).Valid := by
  have hread := @Cloud.finish_read View cloud (.questionById id)
  have hknown : id ∈ cloud.database.questions.map Question.id := by
    rw [← Table.lookup_key hquestion]
    exact List.mem_map_of_mem (Table.lookup_mem hquestion)
  rw [postAnswer, hok, Program.ofExcept, Program.ret_bind, hread rfl rfl]
  simp only [Statement.reply, hquestion, hanswerer, ne_eq, not_true_eq_false, if_false,
    hopen]
  change (cloud.finish (query (.upsertAnswer (savedAnswer id body now)) >>= _)).1 = _ ↔ _
  rw [← upsertAnswer_consistent_iff hknown]
  obtain ⟨database, hexecute, htables⟩ | ⟨hexecute, hbroken⟩ :=
    execute_cases cloud (.upsertAnswer (savedAnswer id body now))
  · have hconsistent := database.consistent
    rw [htables] at hconsistent
    rw [Cloud.finish_query_ok hexecute]
    simp [hconsistent]
  · rw [Cloud.finish_query_error hexecute]
    simp [hbroken rfl]

end Handlers

theorem parsed_object {Fields Body : Type} {schema : Fields → Except Failure Body}
    {request : RequestBody Fields} {body : Body}
    (hok : parseBody schema request = .ok body) : ∃ fields, schema fields = .ok body := by
  cases request with
  | object fields => exact ⟨fields, hok⟩
  | _ => cases hok

/-- An accepted body gives a row that fits its table, and where the handler comes to
the write no raw failure, exactly if its name and price are storable, or its text
does not start with a NUL. -/
theorem accepted_bodies_fit_iff (runtime : Runtime) (cloud : Cloud) (wallet : Text)
    (now : ℕ) (hwallet : isAddress wallet = true) :
    (∀ fields body, parseBody claimBody fields = .ok body →
      ((claimedRow wallet body now).Valid ↔
        Storable body.displayName body.minPriceUsdc) ∧
      (isReservedHandle body.handle = false →
        Table.lookup Creator.wallet cloud.database.creators wallet = none →
        ((cloud.finish (claimHandle wallet fields now)).1 ≠ .error .internal ↔
          Storable body.displayName body.minPriceUsdc))) ∧
    (∀ fields body row, parseBody (profileBody runtime) fields = .ok body →
      Table.lookup Creator.wallet cloud.database.creators wallet = some row →
      (((profilePatch body now).apply row).Valid ↔
        Storable body.displayName body.minPriceUsdc) ∧
      ((cloud.finish (putProfile runtime wallet fields now)).1 ≠ .error .internal ↔
        Storable body.displayName body.minPriceUsdc)) ∧
    (∀ request row, request.asker = wallet → request.mints cloud.backend = some row →
      (row.Valid ↔ startsWithNul row.body = false) ∧
      (request.uuid ∉ cloud.database.questions.map Question.id →
        ((cloud.finish (postQuestions request)).1 ≠ .error .internal ↔
          startsWithNul row.body = false))) ∧
    ∀ id fields body, parseBody answerBody fields = .ok body →
      ((savedAnswer id body now).Valid ↔ startsWithNul body = false) ∧
      ∀ question, Table.lookup Question.id cloud.database.questions id = some question →
        wallet = question.answererWallet → question.status ≠ .answered →
        ((cloud.finish (postAnswer wallet id fields now)).1 ≠ .error .internal ↔
          startsWithNul body = false) := by
  refine ⟨?_, ?_, ?_, ?_⟩
  · intro fields body hok
    obtain ⟨_, hparsed⟩ := parsed_object hok
    have hvalid := @claimedRow_valid_iff wallet body now hwallet
      (claimBody_accepted hparsed)
    refine ⟨hvalid, ?_⟩
    intro hfree hnew
    rw [ne_eq, claimHandle_internal_iff hok hfree hnew, not_not]
    exact hvalid
  · intro fields body row hok hrow
    obtain ⟨_, hparsed⟩ := parsed_object hok
    have hvalid := @patched_valid_iff row body now
      (cloud.database.consistent.creators_check row (Table.lookup_mem hrow))
      (profileBody_accepted hparsed)
    refine ⟨hvalid, ?_⟩
    rw [ne_eq, putProfile_internal_iff hok hrow, not_not]
    exact hvalid
  · intro request row hasker hmints
    obtain ⟨body, creator, hok, hchain, hcreator, rfl⟩ :=
      compose_spec (mints_spec hmints).1
    obtain ⟨_, hparsed⟩ := parsed_object hok
    obtain ⟨hleast, hmost⟩ := createQuestionBody_accepted hparsed
    have hvalid := draft_valid_iff (hasker.symm ▸ hwallet)
      (cloud.database.consistent.creators_check creator hcreator) hchain hleast hmost
    refine ⟨hvalid, ?_⟩
    intro hnew
    rw [ne_eq, postQuestions_internal_iff hmints hnew (List.mem_map_of_mem hcreator),
      not_not]
    exact hvalid
  · intro id fields body hok
    obtain ⟨_, hparsed⟩ := parsed_object hok
    obtain ⟨hleast, hmost⟩ := answerBody_accepted hparsed
    have hvalid := @savedAnswer_valid_iff id body now hleast hmost
    refine ⟨hvalid, ?_⟩
    intro question hquestion hanswerer hopen
    rw [ne_eq, postAnswer_internal_iff hok hquestion hanswerer hopen, not_not]
    exact hvalid

namespace Sample

/-- A price of one dollar in 40 digits. -/
def padded : Text := List.replicate 33 '0' ++ "1000000".toList

def paddedProfile : ProfileFields where
  displayName := none
  headline := none
  bio := none
  links := none
  minPriceUsdc := some (.string padded)

/-- An answer that starts with a NUL. -/
def hiddenAnswer : AnswerFields where
  body := some (.string "\x00 an answer".toList)

end Sample

theorem accepted_bodies_fit_iff_sample :
    (Sample.cloud.finish (putProfile Sample.runtime Sample.creator.wallet
      (.object Sample.paddedProfile) 5)).1 ≠ .error .internal ↔
      Storable none (some Sample.padded) :=
  ((accepted_bodies_fit_iff Sample.runtime Sample.cloud Sample.creator.wallet 5
    (by decide)).2.1 (.object Sample.paddedProfile)
      { displayName := none, headline := none, bio := none, links := none
        minPriceUsdc := some Sample.padded }
      Sample.creator (by decide +kernel) (by decide)).2

/-- A padded price and a text that starts with a NUL are accepted and fail. -/
theorem accepted_bodies_fail :
    (¬ ∀ (runtime : Runtime) (cloud : Cloud) (wallet : Text) (now : ℕ)
      (fields : RequestBody ProfileFields) (body : ProfileBody) (row : Creator),
      isAddress wallet = true → parseBody (profileBody runtime) fields = .ok body →
      Table.lookup Creator.wallet cloud.database.creators wallet = some row →
      ((profilePatch body now).apply row).Valid ∧
        (cloud.finish (putProfile runtime wallet fields now)).1 ≠ .error .internal) ∧
    ¬ ∀ (id body : Text) (fields : RequestBody AnswerFields) (now : ℕ),
      parseBody answerBody fields = .ok body → (savedAnswer id body now).Valid := by
  constructor
  · intro hclaim
    have hok : parseBody (profileBody Sample.runtime) (.object Sample.paddedProfile) =
        .ok { displayName := none, headline := none, bio := none, links := none
              minPriceUsdc := some Sample.padded } := by
      decide +kernel
    have hfits := (hclaim Sample.runtime Sample.cloud Sample.creator.wallet 5 _ _
      Sample.creator (by decide) hok (by decide)).1
    exact absurd hfits.min_price (by decide +kernel)
  · intro hclaim
    have hfits := hclaim Sample.uuid "\x00 an answer".toList (.object Sample.hiddenAnswer)
      5 (by decide +kernel)
    exact absurd hfits.body_len (by decide +kernel)

end BuyAnAnswer.Workers
