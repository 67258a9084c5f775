import BuyAnAnswer.Web.Usdc

/-!
# The profile editor

The editor checks the draft of a profile before it sends a patch: the name, the
price and the links.  The price of the patch is the base-unit text of the check.
-/

namespace BuyAnAnswer.Web

open Text Api Shared

/-! ## Links -/

def MAX_LINKS : ℕ := 10

def MAX_LABEL : ℕ := 30

def MAX_URL : ℕ := 200

def isValidUrl (runtime : Runtime) (u : Text) : Bool :=
  if MAX_URL < utf16Length u then false
  else match runtime.urlProtocol u with
    | none => false
    | some protocol => protocol = "http:".toList || protocol = "https:".toList

structure LinkRowError where
  label : Option String
  url : Option String
  deriving DecidableEq, Repr

structure LinksValidation where
  ok : Bool
  links : List ProfileLink
  rowErrors : List (Option LinkRowError)
  formError : Option String
  deriving DecidableEq, Repr

/-- The error of a row; an empty row has none. -/
def linkRowError (runtime : Runtime) (row : ProfileLink) : Option LinkRowError :=
  let label := trim row.label
  let url := trim row.url
  if label = [] && url = [] then none
  else
    let e : LinkRowError := {
      label :=
        if label = [] then some "Add a label."
        else if MAX_LABEL < utf16Length label then some "≤ 30 characters."
        else none
      url :=
        if url = [] then some "Add a URL."
        else if !isValidUrl runtime url then some "Enter a valid http(s) URL."
        else none }
    if e.label.isSome || e.url.isSome then some e else none

/-- Validate and clean the link rows. -/
def validateLinks (runtime : Runtime) (rows : List ProfileLink) : LinksValidation :=
  let rowErrors := rows.map (linkRowError runtime)
  let links := (rows.map fun row => ⟨trim row.label, trim row.url⟩).filter
    fun row : ProfileLink => row.label ≠ [] || row.url ≠ []
  let formError :=
    if MAX_LINKS < links.length then some "Up to 10 links." else none
  { ok := !rowErrors.any Option.isSome && formError.isNone
    links, rowErrors, formError }

/-! ## Saving -/

def MAX_NAME : ℕ := 50

/-- What was typed. -/
structure ProfileDraft where
  displayName : Text
  headline : Text
  bio : Text
  price : Text
  links : List ProfileLink

/-- The body of `PUT /profile`; `none` is `null`. -/
structure ProfilePatch where
  displayName : Text
  headline : Option Text
  bio : Option Text
  links : Option (List ProfileLink)
  minPriceUsdc : Text
  deriving DecidableEq, Repr

namespace ProfileDraft

def nameError (draft : ProfileDraft) : Option String :=
  if utf16Length (trim draft.displayName) = 0 then some "Enter a display name."
  else if MAX_NAME < utf16Length (trim draft.displayName) then
    some "At most 50 characters."
  else none

/-- `text || null` -/
def orNull (text : Text) : Option Text := if text = [] then none else some text

/-- The patch that `save` sends. -/
def mutationFn (runtime : Runtime) (draft : ProfileDraft) :
    Except Thrown ProfilePatch := do
  let linkCheck := validateLinks runtime draft.links
  match ← validatePrice draft.price with
  | .refused _ => .error (.error "Fix the highlighted fields.")
  | .ok base =>
    if !linkCheck.ok || draft.nameError.isSome then
      .error (.error "Fix the highlighted fields.")
    else
      return {
        displayName := trim draft.displayName
        headline := orNull (trim draft.headline)
        bio := orNull (trim draft.bio)
        links := if linkCheck.links = [] then none else some linkCheck.links
        minPriceUsdc := base }

/-- What submitting the form sends. -/
def onSubmit (runtime : Runtime) (draft : ProfileDraft) :
    Except Thrown (Option ProfilePatch) := do
  let priceCheck ← validatePrice draft.price
  let formValid := draft.nameError.isNone && priceCheck.isOk &&
    (validateLinks runtime draft.links).ok
  if formValid then some <$> mutationFn runtime draft else return none

section Save

variable {runtime : Runtime} {draft : ProfileDraft} {patch : ProfilePatch}

theorem validatePrice_mutationFn (hsaved : mutationFn runtime draft = .ok patch) :
    validatePrice draft.price = .ok (.ok patch.minPriceUsdc) := by
  rw [mutationFn] at hsaved
  cases hprice : validatePrice draft.price with
  | error thrown =>
      rw [hprice] at hsaved
      cases hsaved
  | ok check =>
      rw [hprice] at hsaved
      cases check with
      | refused reason => cases hsaved
      | ok base =>
          simp only [bind, Except.bind] at hsaved
          split at hsaved
          · cases hsaved
          · cases hsaved
            rfl

/-- The price that is sent is the one that was checked. -/
theorem validatePrice_onSubmit (hsent : onSubmit runtime draft = .ok (some patch)) :
    validatePrice draft.price = .ok (.ok patch.minPriceUsdc) := by
  rw [onSubmit] at hsent
  cases hprice : validatePrice draft.price with
  | error thrown =>
      rw [hprice] at hsent
      cases hsent
  | ok check =>
      rw [hprice] at hsent
      simp only [bind, Except.bind] at hsent
      cases hsaved : mutationFn runtime draft with
      | error thrown =>
          rw [hsaved] at hsent
          split_ifs at hsent <;> cases hsent
      | ok saved =>
          rw [hsaved] at hsent
          split_ifs at hsent
          · cases hsent
            rw [← hprice]
            exact validatePrice_mutationFn hsaved
          · cases hsent

end Save

end ProfileDraft

/-- Base units and display texts are converted exactly, whatever their size, and the
form accepts the prices that the API accepts and sends them as it checked them. -/
theorem usdc_text_exact (runtime : Runtime) :
    (∀ base, AllDigits base →
      (formatUsdc base >>= parseUsdc) = .ok (some (dropZeros base))) ∧
    (∀ display, ∃ parsed, parseUsdc display = .ok parsed ∧
      (parsed.isSome = true ↔ ∃ numeral : Numeral,
        numeral.fraction.length ≤ 6 ∧ numeral.text = trim display) ∧
      ∀ base ∈ parsed, ∀ numeral : Numeral, numeral.text = trim display →
        AllDigits base ∧ dropZeros base = base ∧
          (digitsValue base : ℚ) = 10 ^ 6 * numeral.value ∧
            ∃ shown : Numeral, formatUsdc base = .ok shown.text ∧ shown.Canonical ∧
              shown.value = numeral.value) ∧
    (∀ display base, validatePrice display = .ok (.ok base) ↔
      parseUsdc display = .ok (some base) ∧ minPriceSchema (some (.string base)) =
        .ok { value := some base, problems := [] }) ∧
    ∀ (draft : ProfileDraft) patch, draft.onSubmit runtime = .ok (some patch) →
      validatePrice draft.price = .ok (.ok patch.minPriceUsdc) := by
  refine ⟨fun base => parseUsdc_formatUsdc, ?_, fun display base => validatePrice_ok_iff,
    fun draft patch => ProfileDraft.validatePrice_onSubmit⟩
  intro display
  cases hmatch : USDC_RE (trim display) with
  | false =>
      refine ⟨none, parseUsdc_refused hmatch, ?_, ?_⟩
      · rw [← USDC_RE_iff, hmatch]
        rfl
      · intro base hbase
        cases hbase
  | true =>
      obtain ⟨numeral, hplaces, htext⟩ := USDC_RE_iff.mp hmatch
      refine ⟨_, parseUsdc_numeral hplaces htext, ?_, ?_⟩
      · exact ⟨fun _ => ⟨numeral, hplaces, htext⟩, fun _ => rfl⟩
      · intro base hbase other hother
        obtain rfl := Option.some_inj.mp hbase
        obtain rfl : numeral = other := Numeral.text_injective (htext.trans hother.symm)
        refine ⟨allDigits_decimal _, ?_, ?_, formatUsdc_parsed hplaces⟩
        · rw [← decimal_digitsValue (allDigits_decimal _), digitsValue_decimal]
        · rw [digitsValue_decimal, Numeral.units_eq hplaces]

end BuyAnAnswer.Web
