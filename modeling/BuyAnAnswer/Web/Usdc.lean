import BuyAnAnswer.Api.Schemas
import BuyAnAnswer.Core.Numeral

/-!
# Prices in the web app

Amounts cross the wire as base-unit text and are shown as decimal USDC.  The
profile editor checks a typed price against the bounds of the API and sends the
base-unit text of the price that it checked.
-/

namespace BuyAnAnswer.Web

open Text Api

/-- What a handler throws. -/
inductive Thrown where
  | syntaxError
  | error (message : String)
  deriving DecidableEq, Repr

def BigInt (text : Text) : Except Thrown ℤ :=
  match bigInt text with
  | none => .error .syntaxError
  | some value => .ok value

/-- `toString` of a `BigInt`. -/
def bigIntText : ℤ → Text
  | .ofNat value => decimal value
  | .negSucc value => '-' :: decimal (value + 1)

def USDC_DECIMALS : ℕ := 6

def SCALE : ℤ := 1000000

def MIN_PRICE_BASE : ℤ := 1000000

def MAX_PRICE_BASE : ℤ := 10000000000

/-- `/^[0-9]+$/` -/
def isBaseUnits (value : Text) : Bool := value ≠ [] && value.all Char.isDigit

/-- Format base units as a display text with trailing zeros trimmed. -/
def formatUsdc (base : Text) : Except Thrown Text :=
  if isBaseUnits base then do
    let n ← BigInt base
    let whole := n.tdiv SCALE
    let frac := n.tmod SCALE
    if frac = 0 then
      return bigIntText whole
    else
      let fracStr := stripZeros ((bigIntText frac).leftpad USDC_DECIMALS '0')
      return bigIntText whole ++ '.' :: fracStr
  else
    return ['0']

/-- `/^[0-9]+(\.[0-9]{1,6})?$/` -/
def USDC_RE (text : Text) : Bool :=
  text.takeWhile Char.isDigit ≠ [] &&
    match text.dropWhile Char.isDigit with
    | [] => true
    | '.' :: frac => 1 ≤ frac.length && frac.length ≤ 6 && frac.all Char.isDigit
    | _ => false

/-- Parse a display value into base-unit text; `none` is `null`. -/
def parseUsdc (display : Text) : Except Thrown (Option Text) :=
  let s := trim display
  if USDC_RE s then do
    let parts := s.splitOn '.'
    let whole := parts[0]?.getD ['0']
    let fracPart := parts[1]?.getD []
    let fracPadded := (fracPart ++ List.replicate 6 '0').take USDC_DECIMALS
    let base := (← BigInt whole) * SCALE +
      (← BigInt (if fracPadded = [] then ['0'] else fracPadded))
    return some (bigIntText base)
  else
    return none

inductive PriceValidation where
  | ok (base : Text)
  | refused (reason : String)
  deriving DecidableEq, Repr

def PriceValidation.isOk : PriceValidation → Bool
  | .ok _ => true
  | .refused _ => false

def validatePrice (display : Text) : Except Thrown PriceValidation := do
  match ← parseUsdc display with
  | none => return .refused "Enter a USDC amount (up to 6 decimals)."
  | some base => do
    let n ← BigInt base
    if n < MIN_PRICE_BASE then
      return .refused "Minimum price is 1 USDC."
    else if MAX_PRICE_BASE < n then
      return .refused "Maximum price is 10,000 USDC."
    else
      return .ok base

/-! ## Formatting -/

section Format

variable {base : Text}

theorem BigInt_digits (hne : base ≠ []) (hdigits : AllDigits base) :
    BigInt base = .ok (digitsValue base : ℤ) := by
  rw [BigInt, bigInt_digits hne hdigits]
  rfl

@[simp]
theorem bigIntText_natCast (value : ℕ) : bigIntText value = decimal value := rfl

theorem isBaseUnits_iff : isBaseUnits base = true ↔ base ≠ [] ∧ AllDigits base := by
  simp [isBaseUnits, AllDigits]

/-- The fraction of a scaled numeral is empty if there is no remainder. -/
theorem stripZeros_remainder {remainder : ℕ} :
    stripZeros ((decimal remainder).leftpad 6 '0') = [] ↔ remainder = 0 := by
  constructor
  · intro hnil
    have hvalue := fractionValue_stripZeros ((decimal remainder).leftpad 6 '0')
    rw [hnil, List.leftpad, fractionValue, fractionValue, digitsValue_append,
      digitsValue_zeros, digitsValue_decimal, zero_mul, zero_add] at hvalue
    by_contra hne
    have hpos : (0 : ℚ) < remainder := by exact_mod_cast Nat.pos_of_ne_zero hne
    have hquotient : (0 : ℚ) < remainder / 10 ^ (List.replicate
        (6 - (decimal remainder).length) '0' ++ decimal remainder).length := by
      positivity
    rw [← hvalue] at hquotient
    simp [digitsValue] at hquotient
  · rintro rfl
    decide

/-- Formatting writes the canonical numeral of millionths. -/
theorem formatUsdc_digits (hne : base ≠ []) (hdigits : AllDigits base) :
    formatUsdc base = .ok (Numeral.scaled 6 (digitsValue base)).text := by
  rw [formatUsdc, if_pos (isBaseUnits_iff.mpr ⟨hne, hdigits⟩), BigInt_digits hne hdigits]
  generalize digitsValue base = units
  have hwhole : (units : ℤ).tdiv SCALE = (units / 10 ^ 6 : ℕ) := rfl
  have hfrac : (units : ℤ).tmod SCALE = (units % 10 ^ 6 : ℕ) := rfl
  change (if (units : ℤ).tmod SCALE = 0 then
      Except.ok (bigIntText ((units : ℤ).tdiv SCALE))
    else .ok (bigIntText ((units : ℤ).tdiv SCALE) ++ '.' ::
      stripZeros ((bigIntText ((units : ℤ).tmod SCALE)).leftpad 6 '0'))) = _
  rw [hwhole, hfrac, bigIntText_natCast, bigIntText_natCast]
  by_cases hzero : units % 10 ^ 6 = 0
  · have hnil : (Numeral.scaled 6 units).fraction = [] := stripZeros_remainder.mpr hzero
    rw [if_pos (Nat.cast_eq_zero.mpr hzero), Numeral.text_nil hnil]
    rfl
  · have hpoint : (Numeral.scaled 6 units).fraction ≠ [] :=
      fun hnil => hzero (stripZeros_remainder.mp hnil)
    rw [if_neg (mt Nat.cast_eq_zero.mp hzero), Numeral.text_point hpoint]
    rfl

end Format

/-! ## Parsing -/

theorem isDigit_point : '.'.isDigit = false := rfl

private theorem dropWhile_digits {digits rest : Text} (hdigits : AllDigits digits)
    (hrest : ∀ char ∈ rest.head?, char.isDigit = false) :
    (digits ++ rest).takeWhile Char.isDigit = digits ∧
      (digits ++ rest).dropWhile Char.isDigit = rest := by
  have htake : rest.takeWhile Char.isDigit = [] ∧ rest.dropWhile Char.isDigit = rest := by
    cases rest with
    | nil => exact ⟨rfl, rfl⟩
    | cons char rest => simp [hrest char (by simp)]
  rw [List.takeWhile_append_of_pos hdigits, List.dropWhile_append_of_pos hdigits,
    htake.1, htake.2, List.append_nil]
  exact ⟨rfl, rfl⟩

/-- The accepted texts are the numerals with at most six places. -/
theorem USDC_RE_iff {text : Text} : USDC_RE text = true ↔
    ∃ numeral : Numeral, numeral.fraction.length ≤ 6 ∧ numeral.text = text := by
  constructor
  · intro hmatch
    rw [USDC_RE, Bool.and_eq_true, decide_eq_true_eq] at hmatch
    obtain ⟨hwhole, hrest⟩ := hmatch
    have hdigits : AllDigits (text.takeWhile Char.isDigit) :=
      fun char hchar => List.mem_takeWhile_imp hchar
    have hsplit := @List.takeWhile_append_dropWhile _ Char.isDigit text
    split at hrest
    · next hnil =>
      rw [hnil, List.append_nil] at hsplit
      exact ⟨⟨_, [], hwhole, hdigits, fun _ hchar => absurd hchar List.not_mem_nil⟩,
        Nat.zero_le _, hsplit⟩
    · next frac hpoint =>
      simp only [Bool.and_eq_true, decide_eq_true_eq, List.all_eq_true] at hrest
      obtain ⟨⟨hone, hsix⟩, hfrac⟩ := hrest
      have hne : frac ≠ [] := List.length_pos_iff.mp hone
      refine ⟨⟨_, frac, hwhole, hdigits, hfrac⟩, hsix, ?_⟩
      rw [Numeral.text_point hne]
      rwa [hpoint] at hsplit
    · cases hrest
  · rintro ⟨numeral, hsix, rfl⟩
    by_cases hfraction : numeral.fraction = []
    · have hwhole := @dropWhile_digits _ [] numeral.whole_digits (by simp)
      rw [List.append_nil] at hwhole
      simp [Numeral.text_nil hfraction, USDC_RE, hwhole, numeral.whole_ne_nil]
    · have hwhole := @dropWhile_digits _ ('.' :: numeral.fraction) numeral.whole_digits
        (by simp [isDigit_point])
      have hdigits := numeral.fraction_digits
      rw [AllDigits] at hdigits
      simpa [Numeral.text_point hfraction, USDC_RE, hwhole, numeral.whole_ne_nil, hsix,
        Nat.one_le_iff_ne_zero, hfraction] using hdigits

/-- A numeral splits at its point. -/
theorem splitOn_text (numeral : Numeral) :
    (numeral.text.splitOn '.')[0]?.getD ['0'] = numeral.whole ∧
      (numeral.text.splitOn '.')[1]?.getD [] = numeral.fraction := by
  have hfree {digits : Text} (hdigits : AllDigits digits) :
      ∀ char ∈ digits, (char == '.') = false := by
    intro char hchar
    rw [beq_eq_false_iff_ne]
    rintro rfl
    exact absurd (hdigits '.' hchar) (by decide)
  rw [List.splitOn_eq_splitOnP]
  by_cases hfraction : numeral.fraction = []
  · rw [Numeral.text_nil hfraction, hfraction,
      List.splitOnP_eq_singleton (hfree numeral.whole_digits)]
    exact ⟨rfl, rfl⟩
  · rw [Numeral.text_point hfraction,
      List.splitOnP_append_cons_of_forall_mem (hfree numeral.whole_digits) '.' rfl,
      List.splitOnP_eq_singleton (hfree numeral.fraction_digits)]
    exact ⟨rfl, rfl⟩

section Parse

variable {numeral : Numeral} {display : Text}

theorem parseUsdc_refused (hrefused : USDC_RE (trim display) = false) :
    parseUsdc display = .ok none := by
  rw [parseUsdc, hrefused]
  rfl

/-- Parsing reads the millionths of a numeral. -/
theorem parseUsdc_numeral (hplaces : numeral.fraction.length ≤ 6)
    (htext : numeral.text = trim display) :
    parseUsdc display = .ok (some (decimal (numeral.units 6))) := by
  have hmatch : USDC_RE numeral.text = true := USDC_RE_iff.mpr ⟨numeral, hplaces, rfl⟩
  obtain ⟨hwhole, hfraction⟩ := splitOn_text numeral
  have hlength : ((numeral.fraction ++ List.replicate 6 '0').take 6).length = 6 := by
    simp
  have hpadded : (numeral.fraction ++ List.replicate 6 '0').take 6 ≠ [] := by
    rintro hnil
    rw [hnil] at hlength
    cases hlength
  have hdigits : AllDigits ((numeral.fraction ++ List.replicate 6 '0').take 6) :=
    fun char hchar => allDigits_append.mpr ⟨numeral.fraction_digits, allDigits_zeros 6⟩
      char (List.mem_of_mem_take hchar)
  have hbase : (digitsValue numeral.whole : ℤ) * SCALE +
      digitsValue ((numeral.fraction ++ List.replicate 6 '0').take 6) =
        (numeral.units 6 : ℕ) := by
    rw [Numeral.units, SCALE]
    push_cast
    norm_num
  rw [parseUsdc, ← htext]
  simp only [hmatch, if_true, hwhole, hfraction, USDC_DECIMALS, if_neg hpadded,
    BigInt_digits numeral.whole_ne_nil numeral.whole_digits, BigInt_digits hpadded hdigits]
  change Except.ok (some (bigIntText _)) = _
  rw [hbase, bigIntText_natCast]

theorem allDigits_decimal_units : decimal (numeral.units 6) ≠ [] ∧
    AllDigits (decimal (numeral.units 6)) :=
  ⟨Nat.toDigits_ne_nil, allDigits_decimal _⟩

/-- What is parsed is base units, or nothing. -/
theorem parseUsdc_cases (display : Text) : parseUsdc display = .ok none ∨
    ∃ numeral : Numeral, numeral.fraction.length ≤ 6 ∧ numeral.text = trim display ∧
      parseUsdc display = .ok (some (decimal (numeral.units 6))) := by
  cases hmatch : USDC_RE (trim display) with
  | false => exact .inl (parseUsdc_refused hmatch)
  | true =>
      obtain ⟨numeral, hplaces, htext⟩ := USDC_RE_iff.mp hmatch
      exact .inr ⟨numeral, hplaces, htext, parseUsdc_numeral hplaces htext⟩

/-- Parsing what was formatted drops the zeros in front. -/
theorem parseUsdc_formatUsdc {base : Text} (hdigits : AllDigits base) :
    (formatUsdc base >>= parseUsdc) = .ok (some (dropZeros base)) := by
  by_cases hne : base = []
  · rw [hne]
    decide +kernel
  · rw [formatUsdc_digits hne hdigits]
    simp only [bind, Except.bind]
    rw [parseUsdc_numeral (Numeral.fraction_scaled_length (by decide) _)
      (Numeral.trim_text _).symm, Numeral.units_scaled (by decide),
      decimal_digitsValue hdigits]

/-- Formatting what was parsed writes the canonical numeral. -/
theorem formatUsdc_parsed (hplaces : numeral.fraction.length ≤ 6) :
    ∃ shown : Numeral, formatUsdc (decimal (numeral.units 6)) = .ok shown.text ∧
      shown.Canonical ∧ shown.value = numeral.value := by
  refine ⟨Numeral.scaled 6 (numeral.units 6), ?_, Numeral.scaled_canonical _ _, ?_⟩
  · rw [formatUsdc_digits allDigits_decimal_units.1 allDigits_decimal_units.2,
      digitsValue_decimal]
  · rw [Numeral.value_scaled (by decide), Numeral.units_eq hplaces,
      mul_div_cancel_left₀ _ (by positivity)]

end Parse

/-! ## Prices -/

section Price

variable {base display : Text}

/-- The API accepts base units between the bounds. -/
theorem minPriceSchema_digits (hne : base ≠ []) (hdigits : AllDigits base) :
    minPriceSchema (some (.string base)) = .ok { value := some base, problems := [] } ↔
      MIN_PRICE_BASE ≤ digitsValue base ∧ (digitsValue base : ℤ) ≤ MAX_PRICE_BASE := by
  have hall : base.all Char.isDigit = true := List.all_eq_true.mpr hdigits
  simp only [minPriceSchema, bigInt_digits hne hdigits, hall, digitsValue,
    MIN_PRICE_BASE, MAX_PRICE_BASE, Problem.unless]
  simp [hne]

/-- The two bounds that the form checks. -/
theorem validatePrice_parsed (hne : base ≠ []) (hdigits : AllDigits base)
    (hparsed : parseUsdc display = .ok (some base)) :
    validatePrice display = .ok (
      if (digitsValue base : ℤ) < MIN_PRICE_BASE then
        .refused "Minimum price is 1 USDC."
      else if MAX_PRICE_BASE < (digitsValue base : ℤ) then
        .refused "Maximum price is 10,000 USDC."
      else .ok base) := by
  rw [validatePrice, hparsed]
  simp only [bind, Except.bind, BigInt_digits hne hdigits]
  split_ifs <;> rfl

/-- The form accepts a price iff it parses and the API accepts its base units. -/
theorem validatePrice_ok_iff : validatePrice display = .ok (.ok base) ↔
    parseUsdc display = .ok (some base) ∧
      minPriceSchema (some (.string base)) =
        .ok { value := some base, problems := [] } := by
  obtain hnull | ⟨numeral, -, -, hparsed⟩ := parseUsdc_cases display
  · rw [validatePrice, hnull]
    simp [bind, Except.bind, pure, Except.pure]
  · obtain ⟨hne, hdigits⟩ := @allDigits_decimal_units numeral
    rw [validatePrice_parsed hne hdigits hparsed, hparsed]
    generalize decimal (numeral.units 6) = text at hne hdigits
    have haccepts := minPriceSchema_digits hne hdigits
    simp only [Except.ok.injEq, Option.some_inj]
    constructor
    · intro hok
      split_ifs at hok with hlow hhigh
      obtain rfl : text = base := PriceValidation.ok.inj hok
      exact ⟨rfl, haccepts.mpr ⟨not_lt.mp hlow, not_lt.mp hhigh⟩⟩
    · rintro ⟨rfl, hprice⟩
      obtain ⟨hlow, hhigh⟩ := haccepts.mp hprice
      rw [if_neg (not_lt.mpr hlow), if_neg (not_lt.mpr hhigh)]

end Price

end BuyAnAnswer.Web
