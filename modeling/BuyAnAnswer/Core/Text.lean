import Mathlib

/-!
# Text

Text as the list of its code points, with the spellings of numbers that cross
component boundaries: decimals of any length and hexadecimals of fixed width.
-/

namespace BuyAnAnswer

abbrev Text := List Char

instance : LawfulBEq Text := inferInstance

namespace Text

/-- JavaScript's `toLowerCase`, on the characters that it takes to an ASCII
character: the capital letters and the Kelvin sign. -/
def toLowerCase (text : Text) : Text :=
  text.map fun char => if char = '\u212a' then 'k' else char.toLower

/-- What JavaScript trims: white space and line terminators. -/
def isSpace (char : Char) : Bool :=
  char ∈ ['\t', '\n', '\u000b', '\u000c', '\r', ' ', '\u00a0', '\u1680',
    '\u2028', '\u2029', '\u202f', '\u205f', '\u3000', '\ufeff'] ||
  ('\u2000' ≤ char && char ≤ '\u200a')

def trim (text : Text) : Text :=
  ((text.dropWhile isSpace).reverse.dropWhile isSpace).reverse

/-- JavaScript's `length`, which counts UTF-16 code units. -/
def utf16Length (text : Text) : ℕ :=
  (text.map fun char => if char.toNat < 0x10000 then 1 else 2).sum

/-- A lowercase hexadecimal digit. -/
def isHexDigit (char : Char) : Bool :=
  char.isDigit || ('a' ≤ char && char ≤ 'f')

/-- The decimal spelling of a number. -/
def decimal (value : ℕ) : Text := Nat.toDigits 10 value

/-- The last `digits` hexadecimal digits of a number. -/
def hexadecimal : (digits value : ℕ) → Text
  | 0, _ => []
  | digits + 1, value =>
    hexadecimal digits (value / 16) ++ [Nat.digitChar (value % 16)]

/-- The value of a character as a digit, in any base up to 16. -/
def digitValue (char : Char) : Option ℕ :=
  if char.isDigit then some (char.toNat - '0'.toNat)
  else if 'a' ≤ char && char ≤ 'f' then some (char.toNat - 'a'.toNat + 10)
  else if 'A' ≤ char && char ≤ 'F' then some (char.toNat - 'A'.toNat + 10)
  else none

/-- One or more digits of a base. -/
def parseDigits (base : ℕ) (text : Text) : Option ℕ :=
  if text = [] then none
  else text.foldl
    (fun value char => do
      let digit ← digitValue char
      if digit < base then return (← value) * base + digit else none)
    (some 0)

/-- JavaScript's `BigInt` of a string; `none` is its `SyntaxError`. -/
def bigInt (text : Text) : Option ℤ :=
  match trim text with
  | [] => some 0
  | '0' :: 'x' :: digits | '0' :: 'X' :: digits => parseDigits 16 digits
  | '0' :: 'o' :: digits | '0' :: 'O' :: digits => parseDigits 8 digits
  | '0' :: 'b' :: digits | '0' :: 'B' :: digits => parseDigits 2 digits
  | '-' :: digits => (parseDigits 10 digits).map fun value => -(value : ℤ)
  | '+' :: digits => parseDigits 10 digits
  | digits => parseDigits 10 digits

example : bigInt "0x1f".toList = some 31 ∧ bigInt " -20\n".toList = some (-20) ∧
    bigInt "12a".toList = none := by decide

theorem decimal_injective : Function.Injective decimal := by
  intro left right heq
  calc left = Nat.ofDigitChars 10 (decimal left) 0 :=
        Nat.ofDigitChars_ten_toDigits.symm
    _ = Nat.ofDigitChars 10 (decimal right) 0 := by rw [heq]
    _ = right := Nat.ofDigitChars_ten_toDigits

/-- Two texts split at the first place of a mark. -/
theorem append_first_inj {mark : Char} {left right leftRest rightRest : Text}
    (hleft : mark ∉ left) (hright : mark ∉ right) :
    left ++ mark :: leftRest = right ++ mark :: rightRest ↔
      left = right ∧ leftRest = rightRest := by
  induction left generalizing right with
  | nil =>
      cases right with
      | nil => simp
      | cons char right =>
          have hne : mark ≠ char := fun heq => hright (heq ▸ List.mem_cons_self)
          simp [hne]
  | cons char left ih =>
      cases right with
      | nil =>
          have hne : char ≠ mark := fun heq => hleft (heq ▸ List.mem_cons_self)
          simp [hne]
      | cons other right =>
          simp only [List.mem_cons, not_or] at hleft hright
          simp [ih hleft.2 hright.2, and_assoc]

/-- Two texts split at the last place of a mark. -/
theorem append_last_inj {mark : Char} {left right leftRest rightRest : Text}
    (hleft : mark ∉ leftRest) (hright : mark ∉ rightRest) :
    left ++ mark :: leftRest = right ++ mark :: rightRest ↔
      left = right ∧ leftRest = rightRest := by
  calc left ++ mark :: leftRest = right ++ mark :: rightRest
      ↔ leftRest.reverse ++ mark :: left.reverse =
          rightRest.reverse ++ mark :: right.reverse := by
        rw [← List.reverse_inj]
        simp
    _ ↔ leftRest.reverse = rightRest.reverse ∧ left.reverse = right.reverse :=
        append_first_inj (by simpa using hleft) (by simpa using hright)
    _ ↔ left = right ∧ leftRest = rightRest := by
        rw [List.reverse_inj, List.reverse_inj, and_comm]

/-- A decimal has only digits. -/
theorem isDigit_of_mem_decimal {value : ℕ} {char : Char}
    (hchar : char ∈ decimal value) : char.isDigit = true :=
  Nat.isDigit_of_mem_toDigits (by norm_num) le_rfl hchar

@[simp]
theorem decimal_inj {left right : ℕ} : decimal left = decimal right ↔ left = right :=
  decimal_injective.eq_iff

/-! ## Digits -/

/-- The code points of the digits. -/
theorem isDigit_bounds {char : Char} (hdigit : char.isDigit = true) :
    48 ≤ char.toNat ∧ char.toNat ≤ 57 := by
  simp only [Char.isDigit, Bool.and_eq_true, decide_eq_true_eq, ge_iff_le,
    UInt32.le_iff_toNat_le] at hdigit
  exact hdigit

theorem digitValue_digit {char : Char} (hdigit : char.isDigit = true) :
    digitValue char = some (char.toNat - '0'.toNat) ∧ char.toNat - '0'.toNat < 10 := by
  obtain ⟨hlow, hhigh⟩ := isDigit_bounds hdigit
  rw [digitValue, if_pos hdigit]
  refine ⟨rfl, ?_⟩
  change char.toNat - 48 < 10
  omega

theorem isSpace_digit {char : Char} (hdigit : char.isDigit = true) :
    isSpace char = false := by
  obtain ⟨hlow, hhigh⟩ := isDigit_bounds hdigit
  have hne (space : Char) (hspace : space.toNat < 48 ∨ 57 < space.toNat) :
      char ≠ space := by
    rintro rfl
    omega
  have hrange : ¬ '\u2000' ≤ char := by
    rw [Char.le_def, UInt32.le_iff_toNat_le]
    change ¬ 8192 ≤ char.toNat
    omega
  simp [isSpace, hne, hrange]

theorem parseDigits_digits {text : Text} (hne : text ≠ [])
    (hdigits : ∀ char ∈ text, char.isDigit = true) :
    parseDigits 10 text = some (Nat.ofDigitChars 10 text 0) := by
  rw [parseDigits, if_neg hne]
  clear hne
  generalize 0 = start
  induction text generalizing start with
  | nil => simp
  | cons char text ih =>
      obtain ⟨hvalue, hlt⟩ := digitValue_digit (hdigits char (by simp))
      have hrest := ih (fun other hother => hdigits other (by simp [hother]))
        (start * 10 + (char.toNat - '0'.toNat))
      rw [List.foldl_cons, hvalue, Nat.ofDigitChars_cons, Nat.mul_comm 10]
      simp only [Option.bind_eq_bind, Option.bind_some, hlt, if_true]
      exact hrest

theorem trim_eq_self {text : Text} (hspace : ∀ char ∈ text, isSpace char = false) :
    trim text = text := by
  have hkeep (other : Text) (hother : ∀ char ∈ other, isSpace char = false) :
      other.dropWhile isSpace = other := by
    cases other with
    | nil => rfl
    | cons char other =>
        rw [List.dropWhile_cons_of_neg]
        simp [hother char (by simp)]
  rw [trim, hkeep text hspace, hkeep text.reverse (by simpa using hspace),
    List.reverse_reverse]

theorem trim_digits {text : Text} (hdigits : ∀ char ∈ text, char.isDigit = true) :
    trim text = text :=
  trim_eq_self fun char hchar => isSpace_digit (hdigits char hchar)

/-- `BigInt` of digits is their decimal value. -/
theorem bigInt_digits {text : Text} (hne : text ≠ [])
    (hdigits : ∀ char ∈ text, char.isDigit = true) :
    bigInt text = some (Nat.ofDigitChars 10 text 0 : ℤ) := by
  have hparse := parseDigits_digits hne hdigits
  rw [bigInt, trim_digits hdigits]
  split
  · exact absurd rfl hne
  · exact absurd (hdigits 'x' (by simp)) (by decide)
  · exact absurd (hdigits 'X' (by simp)) (by decide)
  · exact absurd (hdigits 'o' (by simp)) (by decide)
  · exact absurd (hdigits 'O' (by simp)) (by decide)
  · exact absurd (hdigits 'b' (by simp)) (by decide)
  · exact absurd (hdigits 'B' (by simp)) (by decide)
  · exact absurd (hdigits '-' (by simp)) (by decide)
  · exact absurd (hdigits '+' (by simp)) (by decide)
  · rw [hparse]
    rfl

theorem length_le_utf16Length (text : Text) : text.length ≤ utf16Length text := by
  induction text with
  | nil => rfl
  | cons char text ih =>
      have hunits : 1 ≤ if char.toNat < 0x10000 then 1 else 2 := by
        split <;> omega
      rw [utf16Length] at ih ⊢
      rw [List.map_cons, List.sum_cons, List.length_cons]
      omega

/-! ## Trimmed texts -/

/-- Only white space is trimmed. -/
theorem mem_trim {text : Text} {char : Char} (hchar : char ∈ text)
    (hvisible : isSpace char = false) : char ∈ trim text := by
  have hkept {text : Text} (hchar : char ∈ text) : char ∈ text.dropWhile isSpace := by
    rw [← @List.takeWhile_append_dropWhile _ isSpace text, List.mem_append] at hchar
    obtain hdropped | hrest := hchar
    · rw [List.mem_takeWhile_imp hdropped] at hvisible
      cases hvisible
    · exact hrest
  rw [trim, List.mem_reverse]
  exact hkept (List.mem_reverse.mpr (hkept hchar))

end Text

end BuyAnAnswer
