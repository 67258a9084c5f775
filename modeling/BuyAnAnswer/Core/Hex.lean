import BuyAnAnswer.Core.Text

/-!
# Hexadecimal words

Lowercase hexadecimal texts of a fixed width, and the numbers that they spell.
A width and a number below `16 ^ width` determine the text.
-/

namespace BuyAnAnswer

open Text

/-- The value of a digit. -/
def hexDigit (char : Char) : ℕ := (digitValue char).getD 0

theorem isHexDigit_digitChar {value : ℕ} (hvalue : value < 16) :
    isHexDigit (Nat.digitChar value) = true ∧
      hexDigit (Nat.digitChar value) = value := by
  interval_cases value <;> exact ⟨by decide, by decide⟩

/-- The digits are the sixteen characters that spell a number below 16. -/
theorem exists_digitChar {char : Char} (hhex : isHexDigit char = true) :
    ∃ value < 16, char = Nat.digitChar value := by
  have hrange : (48 ≤ char.toNat ∧ char.toNat ≤ 57) ∨
      (97 ≤ char.toNat ∧ char.toNat ≤ 102) := by
    simpa [isHexDigit, Char.isDigit, Char.le_def, UInt32.le_iff_toNat_le] using hhex
  have hchar : char = Char.ofNat char.toNat := (Char.ofNat_toNat char).symm
  generalize char.toNat = code at hrange hchar
  obtain ⟨hlow, hhigh⟩ | ⟨hlow, hhigh⟩ := hrange
  · refine ⟨code - 48, by omega, hchar.trans ?_⟩
    interval_cases code <;> rfl
  · refine ⟨code - 87, by omega, hchar.trans ?_⟩
    interval_cases code <;> rfl

section Digit

variable {char : Char}

theorem hexDigit_lt (hhex : isHexDigit char = true) : hexDigit char < 16 := by
  obtain ⟨value, hvalue, rfl⟩ := exists_digitChar hhex
  exact (isHexDigit_digitChar hvalue).2.symm ▸ hvalue

theorem digitChar_hexDigit (hhex : isHexDigit char = true) :
    Nat.digitChar (hexDigit char) = char := by
  obtain ⟨value, hvalue, rfl⟩ := exists_digitChar hhex
  rw [(isHexDigit_digitChar hvalue).2]

theorem toLowerCase_digit (hhex : isHexDigit char = true) :
    (if char = '\u212a' then 'k' else char.toLower) = char := by
  obtain ⟨value, hvalue, rfl⟩ := exists_digitChar hhex
  interval_cases value <;> decide

end Digit

theorem toLowerCase_hex {text : Text} (hhex : ∀ char ∈ text, isHexDigit char = true) :
    toLowerCase text = text := by
  calc toLowerCase text = text.map id :=
        List.map_congr_left fun char hchar => toLowerCase_digit (hhex char hchar)
    _ = text := List.map_id text

/-- A lowercase hexadecimal text of a fixed width. -/
@[ext]
structure Hex (width : ℕ) where
  digits : Text
  length_eq : digits.length = width
  all_hex : ∀ char ∈ digits, isHexDigit char = true

namespace Hex

variable {width left right : ℕ}

attribute [simp] length_eq

/-- The number that a word spells, its first digit the most significant. -/
def value (word : Hex width) : ℕ :=
  Nat.ofDigits 16 (word.digits.reverse.map hexDigit)

/-- The bits of a word, four for each digit. -/
def bits (word : Hex width) : BitVec (4 * width) :=
  BitVec.ofNat (4 * width) word.value

private theorem digits_lt (word : Hex width) :
    ∀ digit ∈ word.digits.reverse.map hexDigit, digit < 16 := by
  simp only [List.mem_map, List.mem_reverse]
  rintro _ ⟨char, hchar, rfl⟩
  exact hexDigit_lt (word.all_hex char hchar)

theorem value_lt (word : Hex width) : word.value < 16 ^ width := by
  calc word.value < 16 ^ (word.digits.reverse.map hexDigit).length :=
        Nat.ofDigits_lt_base_pow_length (by decide) word.digits_lt
    _ = 16 ^ width := by simp

private theorem digits_eq (word : Hex width) :
    word.digits = (word.digits.map hexDigit).map Nat.digitChar := by
  rw [List.map_map]
  symm
  calc word.digits.map (Nat.digitChar ∘ hexDigit) = word.digits.map id :=
        List.map_congr_left fun char hchar =>
          digitChar_hexDigit (word.all_hex char hchar)
    _ = word.digits := List.map_id word.digits

theorem value_injective : Function.Injective (value : Hex width → ℕ) := by
  intro first second heq
  have hreverse : first.digits.reverse.map hexDigit =
      second.digits.reverse.map hexDigit :=
    Nat.ofDigits_inj_of_len_eq (by decide) (by simp) first.digits_lt
      second.digits_lt heq
  have hdigits : first.digits.map hexDigit = second.digits.map hexDigit := by
    simpa only [List.map_reverse, List.reverse_inj] using hreverse
  apply Hex.ext
  rw [first.digits_eq, second.digits_eq, hdigits]

theorem toNat_bits (word : Hex width) : word.bits.toNat = word.value := by
  have hlt : word.value < 2 ^ (4 * width) := by
    simpa [pow_mul] using word.value_lt
  exact Nat.mod_eq_of_lt hlt

/-- Two words written one after the other. -/
def append (first : Hex left) (second : Hex right) : Hex (left + right) where
  digits := first.digits ++ second.digits
  length_eq := by simp
  all_hex := by
    intro char hchar
    exact (List.mem_append.mp hchar).elim (first.all_hex char) (second.all_hex char)

theorem value_append (first : Hex left) (second : Hex right) :
    (first.append second).value = first.value * 16 ^ right + second.value := by
  simp only [append, value, List.reverse_append, List.map_append,
    Nat.ofDigits_append, List.length_map, List.length_reverse, length_eq]
  ring

theorem toNat_append {size : ℕ} {front : BitVec size} {first : Hex left}
    (second : Hex right) (hfront : front.toNat = first.value) :
    (front ++ second.bits).toNat = (first.append second).value := by
  have hlt : second.value < 2 ^ (4 * right) := by
    simpa [pow_mul] using second.value_lt
  calc (front ++ second.bits).toNat
      = front.toNat <<< (4 * right) ||| second.bits.toNat := BitVec.toNat_append ..
    _ = first.value <<< (4 * right) + second.value := by
        rw [hfront, toNat_bits, Nat.shiftLeft_add_eq_or_of_lt hlt]
    _ = (first.append second).value := by
        rw [value_append, Nat.shiftLeft_eq, pow_mul]
        norm_num

/-- The text of a number, cut to the width. -/
def ofNat (width number : ℕ) : Hex width where
  digits := hexadecimal width number
  length_eq := by
    induction width generalizing number with
    | zero => rfl
    | succ width ih => simp [hexadecimal, ih]
  all_hex := by
    induction width generalizing number with
    | zero => simp [hexadecimal]
    | succ width ih =>
      intro char hchar
      rw [hexadecimal, List.mem_append, List.mem_singleton] at hchar
      obtain hchar | rfl := hchar
      · exact ih (number / 16) char hchar
      · exact (isHexDigit_digitChar (Nat.mod_lt number (by decide))).1

theorem value_ofNat (width number : ℕ) :
    (ofNat width number).value = number % 16 ^ width := by
  induction width generalizing number with
  | zero => simp [value, ofNat, hexadecimal, Nat.mod_one]
  | succ width ih =>
    have hlast : hexDigit (Nat.digitChar (number % 16)) = number % 16 :=
      (isHexDigit_digitChar (Nat.mod_lt number (by decide))).2
    have hfront := ih (number / 16)
    simp only [value, ofNat] at hfront ⊢
    rw [hexadecimal, List.reverse_append, List.reverse_singleton,
      List.singleton_append, List.map_cons, Nat.ofDigits_cons, hfront, hlast,
      pow_succ', Nat.mod_mul]

end Hex

end BuyAnAnswer
