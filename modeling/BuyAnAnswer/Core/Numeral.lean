import BuyAnAnswer.Core.Text

/-!
# Decimal numerals

A numeral is digits, and after a point more digits.  A canonical one has no
superfluous zero at either end, so that its value determines it.
-/

namespace BuyAnAnswer

open Text

/-! ## Digits -/

def AllDigits (text : Text) : Prop := ∀ char ∈ text, char.isDigit = true

/-- The number that digits spell. -/
def digitsValue (digits : Text) : ℕ := Nat.ofDigitChars 10 digits 0

/-- Digits without the zeros in front of them. -/
def dropZeros (digits : Text) : Text :=
  match digits.dropWhile fun char => char = '0' with
  | [] => ['0']
  | first :: rest => first :: rest

example : dropZeros "0042".toList = "42".toList ∧
    dropZeros "000".toList = "0".toList := by decide

section Digits

variable {text : Text}

theorem allDigits_append :
    AllDigits (left ++ right) ↔ AllDigits left ∧ AllDigits right := by
  simp [AllDigits, or_imp, forall_and]

theorem allDigits_singleton {char : Char} :
    AllDigits [char] ↔ char.isDigit = true := by
  simp [AllDigits]

theorem allDigits_zeros (count : ℕ) : AllDigits (List.replicate count '0') := by
  intro char hchar
  rw [List.eq_of_mem_replicate hchar]
  rfl

theorem allDigits_decimal (value : ℕ) : AllDigits (decimal value) :=
  fun _ hchar => isDigit_of_mem_decimal hchar

@[simp]
theorem digitsValue_decimal (value : ℕ) : digitsValue (decimal value) = value :=
  Nat.ofDigitChars_ten_toDigits

theorem digitsValue_append (left right : Text) :
    digitsValue (left ++ right) =
      digitsValue left * 10 ^ right.length + digitsValue right := by
  rw [digitsValue, Nat.ofDigitChars_append, Nat.ofDigitChars_eq_ofDigitChars_zero,
    mul_comm]
  rfl

theorem digitsValue_zeros (count : ℕ) : digitsValue (List.replicate count '0') = 0 := by
  rw [digitsValue, Nat.ofDigitChars_replicate_zero, mul_zero]

/-- The value of one digit, and the digit of that value. -/
theorem digitsValue_singleton {char : Char} (hdigit : char.isDigit = true) :
    digitsValue [char] < 10 ∧ Nat.digitChar (digitsValue [char]) = char := by
  obtain ⟨hlow, hhigh⟩ := isDigit_bounds hdigit
  have hvalue : digitsValue [char] = char.toNat - 48 := by
    rw [digitsValue, Nat.ofDigitChars_cons, Nat.ofDigitChars_nil, mul_zero, zero_add]
    rfl
  have hchar : char = Char.ofNat char.toNat := (Char.ofNat_toNat char).symm
  rw [hvalue]
  refine ⟨by omega, ?_⟩
  generalize char.toNat = code at hlow hhigh hchar
  rw [hchar]
  interval_cases code <;> rfl

/-- Digits that do not start with a zero are the decimal of their number. -/
theorem decimal_digitsValue_of_head (hdigits : AllDigits text) (hne : text ≠ [])
    (hhead : text.head? ≠ some '0') : decimal (digitsValue text) = text := by
  induction text using List.reverseRecOn with
  | nil => exact absurd rfl hne
  | append_singleton text char ih =>
      obtain ⟨htext, hend⟩ := allDigits_append.mp hdigits
      obtain ⟨hchar, hcharOf⟩ :=
        digitsValue_singleton (allDigits_singleton.mp hend)
      have hlast : decimal (digitsValue [char]) = [char] := by
        rw [decimal, Nat.toDigits_of_lt_base hchar, hcharOf]
      cases text with
      | nil => exact hlast
      | cons first rest =>
          have hinit := ih htext (List.cons_ne_nil _ _) (by simpa using hhead)
          have hpos : 0 < digitsValue (first :: rest) := by
            rw [Nat.pos_iff_ne_zero]
            intro hzero
            rw [hzero] at hinit
            exact hhead (by rw [← hinit]; rfl)
          calc decimal (digitsValue ((first :: rest) ++ [char]))
              = decimal (10 * digitsValue (first :: rest) + digitsValue [char]) := by
                rw [digitsValue_append, List.length_singleton, pow_one, mul_comm]
            _ = decimal (digitsValue (first :: rest)) ++
                  decimal (digitsValue [char]) :=
                (Nat.toDigits_append_toDigits (by decide) hpos hchar).symm
            _ = (first :: rest) ++ [char] := by rw [hinit, hlast]

theorem digitsValue_dropWhile (text : Text) :
    digitsValue (text.dropWhile fun char => char = '0') = digitsValue text := by
  induction text with
  | nil => rfl
  | cons char text ih =>
      by_cases hzero : char = '0'
      · rw [List.dropWhile_cons_of_pos (by simpa using hzero), ih, hzero, digitsValue,
          digitsValue, Nat.ofDigitChars_cons]
        rfl
      · rw [List.dropWhile_cons_of_neg (by simpa using hzero)]

/-- The decimal of the number that digits spell. -/
theorem decimal_digitsValue (hdigits : AllDigits text) :
    decimal (digitsValue text) = dropZeros text := by
  rw [← digitsValue_dropWhile, dropZeros]
  have hkept : AllDigits (text.dropWhile fun char => char = '0') :=
    fun char hchar => hdigits char (List.dropWhile_suffix _ |>.subset hchar)
  have hhead := List.head?_dropWhile_not (fun char => decide (char = '0')) text
  cases hdrop : text.dropWhile fun char => char = '0' with
  | nil => rfl
  | cons first rest =>
      rw [hdrop] at hkept hhead
      refine decimal_digitsValue_of_head hkept (List.cons_ne_nil _ _) ?_
      simpa using hhead

end Digits

/-! ## Fractions -/

/-- The part of one that digits after a point spell. -/
def fractionValue (digits : Text) : ℚ := digitsValue digits / 10 ^ digits.length

/-- Digits without the zeros behind them. -/
def stripZeros (digits : Text) : Text := digits.rdropWhile fun char => char = '0'

section Fractions

variable {text : Text}

theorem fractionValue_append_zeros (text : Text) (count : ℕ) :
    fractionValue (text ++ List.replicate count '0') = fractionValue text := by
  rw [fractionValue, fractionValue, digitsValue_append, digitsValue_zeros,
    List.length_append, List.length_replicate, add_zero, pow_add, Nat.cast_mul,
    Nat.cast_pow]
  exact mul_div_mul_right _ _ (by positivity)

/-- What is stripped is zeros. -/
theorem stripZeros_append (text : Text) :
    ∃ count, stripZeros text ++ List.replicate count '0' = text := by
  refine ⟨(text.rtakeWhile fun char => char = '0').length, ?_⟩
  have hzeros : text.rtakeWhile (fun char => char = '0') =
      List.replicate (text.rtakeWhile fun char => char = '0').length '0' :=
    List.eq_replicate_of_mem fun char hchar => by
      simpa using List.mem_rtakeWhile_imp hchar
  rw [← hzeros]
  exact List.rdropWhile_append_rtakeWhile

theorem fractionValue_stripZeros (text : Text) :
    fractionValue (stripZeros text) = fractionValue text := by
  obtain ⟨count, htext⟩ := stripZeros_append text
  calc fractionValue (stripZeros text)
      = fractionValue (stripZeros text ++ List.replicate count '0') :=
        (fractionValue_append_zeros _ _).symm
    _ = fractionValue text := by rw [htext]

theorem getLast?_stripZeros (text : Text) : (stripZeros text).getLast? ≠ some '0' := by
  intro hlast
  have hne : stripZeros text ≠ [] := by
    rintro hnil
    rw [hnil] at hlast
    cases hlast
  rw [List.getLast?_eq_getLast_of_ne_nil hne, Option.some_inj] at hlast
  exact List.rdropWhile_last_not _ text hne (decide_eq_true hlast)

theorem AllDigits.stripZeros (hdigits : AllDigits text) : AllDigits (stripZeros text) :=
  fun char hchar => hdigits char ((List.rdropWhile_prefix _ text).subset hchar)

end Fractions

/-! ## Numerals -/

/-- Digits, and the digits after a point if there are any. -/
@[ext]
structure Numeral where
  whole : Text
  fraction : Text
  whole_ne_nil : whole ≠ []
  whole_digits : AllDigits whole
  fraction_digits : AllDigits fraction

namespace Numeral

def text (numeral : Numeral) : Text :=
  match numeral.fraction with
  | [] => numeral.whole
  | digits => numeral.whole ++ '.' :: digits

def value (numeral : Numeral) : ℚ :=
  digitsValue numeral.whole + fractionValue numeral.fraction

/-- No superfluous zero in front and none behind. -/
structure Canonical (numeral : Numeral) : Prop where
  whole_eq : dropZeros numeral.whole = numeral.whole
  fraction_last : numeral.fraction.getLast? ≠ some '0'

variable {left right : Numeral}

theorem text_nil {numeral : Numeral} (hfraction : numeral.fraction = []) :
    numeral.text = numeral.whole := by
  rw [text, hfraction]

theorem text_point {numeral : Numeral} (hfraction : numeral.fraction ≠ []) :
    numeral.text = numeral.whole ++ '.' :: numeral.fraction := by
  rw [text]
  split
  · next hnil => exact absurd hnil hfraction
  · rfl

/-- A text is that of at most one numeral. -/
theorem text_injective : Function.Injective text := by
  intro left right heq
  have hfree {digits : Text} (hdigits : AllDigits digits) : '.' ∉ digits :=
    fun hpoint => absurd (hdigits '.' hpoint) (by decide)
  by_cases hleft : left.fraction = []
  · by_cases hright : right.fraction = []
    · rw [text_nil hleft, text_nil hright] at heq
      exact Numeral.ext heq (hleft.trans hright.symm)
    · rw [text_nil hleft, text_point hright] at heq
      exact absurd (heq ▸ List.mem_append_right _ List.mem_cons_self)
        (hfree left.whole_digits)
  · by_cases hright : right.fraction = []
    · rw [text_point hleft, text_nil hright] at heq
      exact absurd (heq ▸ List.mem_append_right _ List.mem_cons_self)
        (hfree right.whole_digits)
    · rw [text_point hleft, text_point hright,
        append_first_inj (hfree left.whole_digits) (hfree right.whole_digits)] at heq
      exact Numeral.ext heq.1 heq.2

/-- The canonical numeral of a number of units of `10 ^ -places`. -/
def scaled (places units : ℕ) : Numeral where
  whole := decimal (units / 10 ^ places)
  fraction := stripZeros ((decimal (units % 10 ^ places)).leftpad places '0')
  whole_ne_nil := Nat.toDigits_ne_nil
  whole_digits := allDigits_decimal _
  fraction_digits := (allDigits_append.mpr
    ⟨allDigits_zeros _, allDigits_decimal _⟩).stripZeros

theorem scaled_canonical (places units : ℕ) : (scaled places units).Canonical where
  whole_eq := by
    change dropZeros (decimal (units / 10 ^ places)) = decimal (units / 10 ^ places)
    rw [← decimal_digitsValue (allDigits_decimal _), digitsValue_decimal]
  fraction_last := getLast?_stripZeros _

theorem value_scaled {places : ℕ} (hplaces : 0 < places) (units : ℕ) :
    (scaled places units).value = units / 10 ^ places := by
  have hlength : (decimal (units % 10 ^ places)).length ≤ places :=
    (Nat.length_toDigits_le_iff (by decide) hplaces).mpr
      (Nat.mod_lt units (by positivity))
  have hfraction : fractionValue ((decimal (units % 10 ^ places)).leftpad places '0') =
      (units % 10 ^ places : ℕ) / 10 ^ places := by
    rw [fractionValue, List.length_leftpad, max_eq_left hlength, List.leftpad,
      digitsValue_append, digitsValue_zeros, digitsValue_decimal, zero_mul, zero_add]
  have hdivision : (units : ℚ) = 10 ^ places * (units / 10 ^ places : ℕ) +
      (units % 10 ^ places : ℕ) := by
    exact_mod_cast (Nat.div_add_mod units (10 ^ places)).symm
  calc (scaled places units).value
      = (units / 10 ^ places : ℕ) + (units % 10 ^ places : ℕ) / 10 ^ places := by
        rw [value]
        change (digitsValue (decimal (units / 10 ^ places)) : ℚ) +
          fractionValue (BuyAnAnswer.stripZeros _) = _
        rw [fractionValue_stripZeros, hfraction, digitsValue_decimal]
    _ = units / 10 ^ places := by
        rw [eq_div_iff (by positivity), add_mul, div_mul_cancel₀ _ (by positivity),
          mul_comm, ← hdivision]

theorem fraction_scaled_length {places : ℕ} (hplaces : 0 < places) (units : ℕ) :
    (scaled places units).fraction.length ≤ places := by
  have hlength : (decimal (units % 10 ^ places)).length ≤ places :=
    (Nat.length_toDigits_le_iff (by decide) hplaces).mpr
      (Nat.mod_lt units (by positivity))
  calc (scaled places units).fraction.length
      ≤ ((decimal (units % 10 ^ places)).leftpad places '0').length :=
        (List.rdropWhile_prefix _ _).length_le
    _ = places := by rw [List.length_leftpad, max_eq_left hlength]

/-- The units of a numeral, its fraction padded with zeros. -/
def units (places : ℕ) (numeral : Numeral) : ℕ :=
  digitsValue numeral.whole * 10 ^ places +
    digitsValue ((numeral.fraction ++ List.replicate places '0').take places)

theorem units_eq {places : ℕ} {numeral : Numeral}
    (hplaces : numeral.fraction.length ≤ places) :
    (numeral.units places : ℚ) = 10 ^ places * numeral.value := by
  obtain ⟨count, hcount⟩ := Nat.exists_eq_add_of_le hplaces
  have hpad : (numeral.fraction ++ List.replicate places '0').take places =
      numeral.fraction ++ List.replicate count '0' := by
    rw [List.take_append, List.take_of_length_le hplaces, List.take_replicate]
    congr 2
    omega
  have hvalue := fractionValue_append_zeros numeral.fraction count
  rw [fractionValue, List.length_append, List.length_replicate, ← hcount,
    div_eq_iff (by positivity)] at hvalue
  rw [units, hpad, Nat.cast_add, hvalue, value]
  push_cast
  ring

theorem units_scaled {places : ℕ} (hplaces : 0 < places) (units : ℕ) :
    (scaled places units).units places = units := by
  have hvalue := units_eq (fraction_scaled_length hplaces units)
  rw [value_scaled hplaces, mul_div_cancel₀ _ (by positivity)] at hvalue
  exact_mod_cast hvalue

/-- A numeral has no white space. -/
theorem trim_text (numeral : Numeral) : trim numeral.text = numeral.text := by
  have hdigits {digits : Text} (hdigits : AllDigits digits) :
      ∀ char ∈ digits, isSpace char = false :=
    fun char hchar => isSpace_digit (hdigits char hchar)
  apply trim_eq_self
  intro char hchar
  by_cases hfraction : numeral.fraction = []
  · rw [text_nil hfraction] at hchar
    exact hdigits numeral.whole_digits char hchar
  · rw [text_point hfraction, List.mem_append, List.mem_cons] at hchar
    obtain hwhole | rfl | hpart := hchar
    · exact hdigits numeral.whole_digits char hwhole
    · decide
    · exact hdigits numeral.fraction_digits char hpart

end Numeral

end BuyAnAnswer
