import BuyAnAnswer.Core.Text
import BuyAnAnswer.Shared.Schema

/-!
# Request bodies

The validation of request bodies and of the query of the list routes.  A schema
reports every problem of its field; a refinement also runs on a text that an
earlier check refused, where its conversion may throw.
-/

namespace BuyAnAnswer.Api

open Text

/-- An expected, client-facing error. -/
structure ApiError where
  status : ℕ
  code : String
  message : String
  deriving DecidableEq, Repr

/-- What is wrong with a field. -/
inductive Problem where
  | invalidType
  | invalidString (message : String)
  | custom (message : String)
  | tooSmall
  | tooBig
  deriving DecidableEq, Repr

/-- The path of a field. -/
inductive RequestField where
  | handle
  | body
  | amountUsdc
  | chainId
  | displayName
  | minPriceUsdc
  | headline
  | bio
  | links
  | link (index : ℕ)
  | linkLabel (index : ℕ)
  | linkUrl (index : ℕ)
  | limit
  | offset
  | message
  | signature
  deriving DecidableEq, Repr

/-- A problem with the path of its field; no path is the body itself. -/
structure Issue where
  path : Option RequestField
  problem : Problem
  deriving DecidableEq, Repr

/-- Why a request fails: an `ApiError`, a validation error (422), the rate limit
(429) or an exception nobody expected (500). -/
inductive Failure where
  | api (error : ApiError)
  | validation (issues : List Issue)
  | rateLimited (retryAfterSeconds : ℕ)
  | internal
  deriving DecidableEq, Repr

/-- A value of parsed JSON, as far as the schemas tell them apart. -/
inductive JsonValue where
  | string (text : Text)
  | number (value : ℚ)
  | null
  | other
  deriving DecidableEq

/-- The body of a request: text that is not JSON, JSON that is not an object, or
an object with these fields. -/
inductive RequestBody (Fields : Type) where
  | malformed
  | notObject
  | object (fields : Fields)

/-- What a schema makes of a field: its value, absent if of the wrong type, and
the problems found. -/
structure Parsed (A : Type) where
  value : Option A
  problems : List Problem

def Parsed.wrongType {A : Type} : Parsed A :=
  { value := none, problems := [.invalidType] }

/-- A field that holds a string. -/
def parseString (field : Option JsonValue) (check : Text → Parsed Text) :
    Parsed Text :=
  match field with
  | some (.string text) => check text
  | _ => .wrongType

/-- The problem, unless the condition holds. -/
def Problem.unless (condition : Bool) (problem : Problem) : List Problem :=
  if condition then [] else [problem]

/-- `/^[a-z0-9_]{3,30}$/` -/
def HANDLE_RE (text : Text) : Bool :=
  3 ≤ text.length && text.length ≤ 30 && text.all fun char =>
    ('a' ≤ char && char ≤ 'z') || char.isDigit || char = '_'

def handleSchema (field : Option JsonValue) : Parsed Text :=
  parseString field fun text =>
    let handle := toLowerCase (trim text)
    { value := handle
      problems := Problem.unless (HANDLE_RE handle)
        (.invalidString "handle must be 3–30 chars of a–z, 0–9 or _") }

/-- `z.string().trim().min(least).max(most)` -/
def trimmedSchema (least most : ℕ) (field : Option JsonValue) : Parsed Text :=
  parseString field fun text =>
    let trimmed := trim text
    { value := trimmed
      problems := Problem.unless (least ≤ utf16Length trimmed) .tooSmall ++
        Problem.unless (utf16Length trimmed ≤ most) .tooBig }

/-- The refinement throws on a short text that is no integer. -/
def amountUsdcSchema (field : Option JsonValue) :
    Except Failure (Parsed Text) :=
  match field with
  | some (.string text) =>
    let digits := Problem.unless (text ≠ [] && text.all Char.isDigit)
      (.invalidString "amount must be USDC base units (digits only)")
    let refused := Problem.custom "amount must be a positive USDC base-unit value"
    if utf16Length text ≤ 39 then
      match bigInt text with
      | none => .error .internal
      | some amount => .ok {
          value := text
          problems := digits ++ Problem.unless (0 < amount) refused }
    else .ok { value := text, problems := digits ++ [refused] }
  | _ => .ok .wrongType

/-- `z.number().int().positive().optional()` -/
def chainIdSchema (field : Option JsonValue) : Parsed (Option ℕ) :=
  match field with
  | none => { value := some none, problems := [] }
  | some (.number value) => {
      value := some (some value.num.toNat)
      problems := Problem.unless (value.den = 1) .invalidType ++
        Problem.unless (0 < value) .tooSmall }
  | _ => .wrongType

/-- The fields `POST /questions` reads. -/
structure QuestionFields where
  handle : Option JsonValue
  body : Option JsonValue
  amountUsdc : Option JsonValue
  chainId : Option JsonValue

structure CreateQuestionBody where
  handle : Text
  body : Text
  amountUsdc : Text
  chainId : Option ℕ
  deriving DecidableEq, Repr

/-- The problems of a field, with its path. -/
def Parsed.issues {A : Type} (parsed : Parsed A) (path : RequestField) :
    List Issue :=
  parsed.problems.map fun problem => { path, problem }

def createQuestionBody (fields : QuestionFields) :
    Except Failure CreateQuestionBody := do
  let handle := handleSchema fields.handle
  let body := trimmedSchema 1 2000 fields.body
  let amountUsdc ← amountUsdcSchema fields.amountUsdc
  let chainId := chainIdSchema fields.chainId
  let issues := handle.issues .handle ++ body.issues .body ++
    amountUsdc.issues .amountUsdc ++ chainId.issues .chainId
  match issues, handle.value, body.value, amountUsdc.value, chainId.value with
  | [], some handle, some body, some amountUsdc, some chainId =>
    .ok { handle, body, amountUsdc, chainId }
  | _, _, _, _, _ => .error (.validation issues)

/-- Read the JSON body and validate it. -/
def parseBody {Fields Body : Type} (schema : Fields → Except Failure Body) :
    RequestBody Fields → Except Failure Body
  | .malformed => .error (.api {
      status := 400, code := "invalid_json"
      message := "request body must be valid JSON" })
  | .notObject => .error (.validation [{ path := none, problem := .invalidType }])
  | .object fields => schema fields

/-! ## The other bodies -/

/-- What the platform's library makes of a text: `Number(text)`, and the protocol
of `new URL(text)` if it is a URL. -/
inductive JsNumber where
  | finite (value : ℚ)
  | infinity (negative : Bool)
  | nan

/-- The finite numbers have 53 binary digits and an exponent. -/
def IsDouble (value : ℚ) : Prop :=
  ∃ (digits exponent : ℤ), |digits| < 2 ^ 53 ∧ value = digits * 2 ^ exponent

/-- The integer after the last one that a number tells from its neighbours. -/
theorem not_isDouble : ¬ IsDouble ((2 ^ 53 + 1 : ℕ) : ℚ) := by
  rintro ⟨digits, exponent, hdigits, hvalue⟩
  obtain ⟨shift, rfl | rfl⟩ := exponent.eq_nat_or_neg
  · rw [zpow_natCast] at hvalue
    have heven : (2 ^ 53 + 1 : ℤ) = digits * 2 ^ shift := by exact_mod_cast hvalue
    cases shift with
    | zero =>
        rw [pow_zero, mul_one] at heven
        rw [← heven] at hdigits
        exact absurd hdigits (by decide)
    | succ shift =>
        have hdouble : digits * 2 ^ (shift + 1) = 2 * (digits * 2 ^ shift) := by ring
        rw [hdouble] at heven
        omega
  · rw [zpow_neg, zpow_natCast, ← div_eq_mul_inv, eq_div_iff (by positivity)] at hvalue
    have hscaled : (2 ^ 53 + 1 : ℤ) * 2 ^ shift = digits := by exact_mod_cast hvalue
    have hleast : (2 ^ 53 + 1 : ℤ) ≤ (2 ^ 53 + 1) * 2 ^ shift :=
      le_mul_of_one_le_right (by decide) (one_le_pow₀ (by decide))
    rw [hscaled] at hleast
    exact absurd (hleast.trans (le_abs_self digits)) (not_le.mpr (hdigits.trans (by decide)))

structure Runtime where
  toNumber : Text → JsNumber
  urlProtocol : Text → Option Text
  toNumber_double : ∀ text value, toNumber text = .finite value → IsDouble value

/-- `.optional()` -/
def optional {A : Type} (schema : Option JsonValue → Parsed A)
    (field : Option JsonValue) : Parsed (Option A) :=
  match field with
  | none => { value := some none, problems := [] }
  | some value =>
    { value := (schema (some value)).value.map some
      problems := (schema (some value)).problems }

/-- `.nullable()` -/
def nullable {A : Type} (schema : Option JsonValue → Parsed A)
    (field : Option JsonValue) : Parsed (Option A) :=
  match field with
  | some .null => { value := some none, problems := [] }
  | _ =>
    { value := (schema field).value.map some, problems := (schema field).problems }

/-- `z.string().trim().max(most)` -/
def boundedSchema (most : ℕ) (field : Option JsonValue) : Parsed Text :=
  parseString field fun text =>
    let trimmed := trim text
    { value := trimmed
      problems := Problem.unless (utf16Length trimmed ≤ most) .tooBig }

/-- The refinement throws on a text that is no integer. -/
def minPriceSchema (field : Option JsonValue) : Except Failure (Parsed Text) :=
  match field with
  | some (.string text) =>
    match bigInt text with
    | none => .error .internal
    | some price => .ok {
        value := text
        problems :=
          Problem.unless (text ≠ [] && text.all Char.isDigit)
            (.invalidString "min price must be USDC base units (digits only)") ++
          Problem.unless (1000000 ≤ price && price ≤ 10000000000)
            (.custom "min price must be between 1 and 10,000 USDC") }
  | _ => .ok .wrongType

/-- `minPriceSchema.optional()` -/
def optionalMinPrice (field : Option JsonValue) :
    Except Failure (Parsed (Option Text)) :=
  match field with
  | none => .ok { value := some none, problems := [] }
  | some value => do
    let parsed ← minPriceSchema (some value)
    return { value := parsed.value.map some, problems := parsed.problems }

/-- The fields `POST /auth/verify` reads. -/
structure VerifyFields where
  message : Option JsonValue
  signature : Option JsonValue

structure VerifyBody where
  message : Text
  signature : Text
  deriving DecidableEq, Repr

/-- `/^0x[0-9a-fA-F]+$/` -/
def isSignature (text : Text) : Bool :=
  match text with
  | '0' :: 'x' :: digits =>
    digits ≠ [] && digits.all fun char => isHexDigit char || ('A' ≤ char && char ≤ 'F')
  | _ => false

def verifyBody (fields : VerifyFields) : Except Failure VerifyBody :=
  let message := parseString fields.message fun text =>
    { value := text, problems := Problem.unless (1 ≤ utf16Length text) .tooSmall }
  let signature := parseString fields.signature fun text =>
    { value := text
      problems := Problem.unless (isSignature text)
        (.invalidString "signature must be 0x-hex") }
  match message.issues .message ++ signature.issues .signature,
    message.value, signature.value with
  | [], some message, some signature => .ok { message, signature }
  | issues, _, _ => .error (.validation issues)

structure AnswerFields where
  body : Option JsonValue

/-- The hidden answer text. -/
def answerBody (fields : AnswerFields) : Except Failure Text :=
  let body := trimmedSchema 1 5000 fields.body
  match body.issues .body, body.value with
  | [], some body => .ok body
  | issues, _ => .error (.validation issues)

structure ClaimFields where
  handle : Option JsonValue
  displayName : Option JsonValue
  minPriceUsdc : Option JsonValue

structure ClaimBody where
  handle : Text
  displayName : Option Text
  minPriceUsdc : Option Text
  deriving DecidableEq, Repr

def claimBody (fields : ClaimFields) : Except Failure ClaimBody := do
  let handle := handleSchema fields.handle
  let displayName := optional (trimmedSchema 1 50) fields.displayName
  let minPriceUsdc ← optionalMinPrice fields.minPriceUsdc
  let issues := handle.issues .handle ++ displayName.issues .displayName ++
    minPriceUsdc.issues .minPriceUsdc
  match issues, handle.value, displayName.value, minPriceUsdc.value with
  | [], some handle, some displayName, some minPriceUsdc =>
    .ok { handle, displayName, minPriceUsdc }
  | _, _, _, _ => .error (.validation issues)

/-- An element of `links`. -/
inductive LinkValue where
  | object (label url : Option JsonValue)
  | other

/-- The value of `links`. -/
inductive LinksValue where
  | null
  | array (links : List LinkValue)
  | other

/-- A parsed part of `links` with the issues at their paths. -/
abbrev Checked (A : Type) := Option A × List Issue

def linkUrlSchema (runtime : Runtime) (field : Option JsonValue) : Parsed Text :=
  parseString field fun text =>
    let url := trim text
    let protocol := runtime.urlProtocol url
    { value := url
      problems :=
        Problem.unless protocol.isSome (.invalidString "Invalid url") ++
        Problem.unless (utf16Length url ≤ 200) .tooBig ++
        Problem.unless
          (protocol = some "http:".toList || protocol = some "https:".toList)
          (.custom "link URL must use http or https") }

def linkSchema (runtime : Runtime) (index : ℕ) :
    LinkValue → Checked Shared.ProfileLink
  | .other => (none, [{ path := some (.link index), problem := .invalidType }])
  | .object label url =>
    let label := trimmedSchema 1 30 label
    let url := linkUrlSchema runtime url
    (do return { label := ← label.value, url := ← url.value },
      label.issues (.linkLabel index) ++ url.issues (.linkUrl index))

/-- `z.array(linkSchema).max(10).nullable().optional()` -/
def linksSchema (runtime : Runtime) :
    Option LinksValue → Checked (Option (Option (List Shared.ProfileLink)))
  | none => (some none, [])
  | some .null => (some (some none), [])
  | some .other => (none, [{ path := some .links, problem := .invalidType }])
  | some (.array links) =>
    let checked := links.mapIdx fun index link => linkSchema runtime index link
    ((checked.mapM Prod.fst).map fun links => some (some links),
      (Problem.unless (links.length ≤ 10) .tooBig).map
        (fun problem => { path := some .links, problem }) ++
      checked.flatMap Prod.snd)

structure ProfileFields where
  displayName : Option JsonValue
  headline : Option JsonValue
  bio : Option JsonValue
  links : Option LinksValue
  minPriceUsdc : Option JsonValue

structure ProfileBody where
  displayName : Option Text
  headline : Option (Option Text)
  bio : Option (Option Text)
  links : Option (Option (List Shared.ProfileLink))
  minPriceUsdc : Option Text
  deriving DecidableEq, Repr

def ProfileFields.isEmpty (fields : ProfileFields) : Bool :=
  fields.displayName.isNone && fields.headline.isNone && fields.bio.isNone &&
    fields.links.isNone && fields.minPriceUsdc.isNone

def profileBody (runtime : Runtime) (fields : ProfileFields) :
    Except Failure ProfileBody := do
  let displayName := optional (trimmedSchema 1 50) fields.displayName
  let headline := optional (nullable (boundedSchema 80)) fields.headline
  let bio := optional (nullable (boundedSchema 500)) fields.bio
  let links := linksSchema runtime fields.links
  let minPriceUsdc ← optionalMinPrice fields.minPriceUsdc
  let issues := displayName.issues .displayName ++ headline.issues .headline ++
    bio.issues .bio ++ links.2 ++ minPriceUsdc.issues .minPriceUsdc ++
    (Problem.unless (!fields.isEmpty) (.custom "no profile fields to update")).map
      fun problem => { path := none, problem }
  match issues, displayName.value, headline.value, bio.value, links.1,
    minPriceUsdc.value with
  | [], some displayName, some headline, some bio, some links,
    some minPriceUsdc =>
    .ok { displayName, headline, bio, links, minPriceUsdc }
  | _, _, _, _, _, _ => .error (.validation issues)

/-- `z.coerce.number().int().min(least).max(most).default(…)` -/
def countSchema (runtime : Runtime) (least : ℕ) (most : Option ℕ) (default : ℕ)
    (parameter : Option Text) : Parsed ℕ :=
  match parameter with
  | none => { value := some default, problems := [] }
  | some text =>
    match runtime.toNumber text with
    | .nan => .wrongType
    | .infinity negative => {
        value := none
        problems := [.invalidType] ++
          (if negative then [.tooSmall] else most.toList.map fun _ => .tooBig) }
    | .finite value => {
        value := some value.num.toNat
        problems := Problem.unless (value.den = 1) .invalidType ++
          Problem.unless (least ≤ value) .tooSmall ++
          Problem.unless (most.all fun most => value ≤ most) .tooBig }

structure ListQuery where
  limit : ℕ
  offset : ℕ
  deriving DecidableEq, Repr

def listQuery (runtime : Runtime) (limit offset : Option Text) :
    Except Failure ListQuery :=
  let limit := countSchema runtime 1 (some 100) 20 limit
  let offset := countSchema runtime 0 none 0 offset
  let issues := limit.issues .limit ++ offset.issues .offset
  match issues, limit.value, offset.value with
  | [], some limit, some offset => .ok { limit, offset }
  | _, _, _ => .error (.validation issues)

end BuyAnAnswer.Api
