import BuyAnAnswer.Core.Hex
import BuyAnAnswer.Shared.Ref

/-!
# The reference codec is a bijection

A UUID is five hexadecimal words, 32 digits in all.  The two maps of the codec
carry the same words between two texts: with hyphens between them, and after
`0x` and a half word of zeros.
-/

namespace BuyAnAnswer.Shared

open Text

/-- The words of a UUID in the order in which they are written. -/
@[ext]
structure Uuid where
  first : Hex 8
  second : Hex 4
  third : Hex 4
  fourth : Hex 4
  last : Hex 12

namespace Uuid

/-- The hyphenated form, 8-4-4-4-12. -/
def text (uuid : Uuid) : Text :=
  uuid.first.digits ++ '-' :: (uuid.second.digits ++ '-' :: (uuid.third.digits ++
    '-' :: (uuid.fourth.digits ++ '-' :: uuid.last.digits)))

/-- The digits without the hyphens. -/
def word (uuid : Uuid) : Hex 32 :=
  (((uuid.first.append uuid.second).append uuid.third).append uuid.fourth).append
    uuid.last

/-- The 128 bits of a UUID. -/
def bits (uuid : Uuid) : BitVec 128 :=
  uuid.first.bits ++ uuid.second.bits ++ uuid.third.bits ++ uuid.fourth.bits ++
    uuid.last.bits

/-- The left-padded form. -/
def ref (uuid : Uuid) : Text :=
  '0' :: 'x' :: (REF_ZERO_HALF ++ uuid.word.digits)

/-! ## Words and bits -/

theorem word_digits (uuid : Uuid) :
    uuid.word.digits = uuid.first.digits ++ uuid.second.digits ++
      uuid.third.digits ++ uuid.fourth.digits ++ uuid.last.digits := rfl

private theorem split_digits (left right : ℕ) (word : Hex (left + right)) :
    ∃ (first : Hex left) (second : Hex right), first.append second = word := by
  refine ⟨⟨word.digits.take left, by simp, ?_⟩, ⟨word.digits.drop left, by simp, ?_⟩,
    ?_⟩
  · exact fun char hchar => word.all_hex char (List.mem_of_mem_take hchar)
  · exact fun char hchar => word.all_hex char (List.mem_of_mem_drop hchar)
  · ext1
    exact List.take_append_drop left word.digits

theorem exists_word (digits : Hex 32) : ∃ uuid : Uuid, uuid.word = digits := by
  obtain ⟨front, last, rfl⟩ := split_digits 20 12 digits
  obtain ⟨front, fourth, rfl⟩ := split_digits 16 4 front
  obtain ⟨front, third, rfl⟩ := split_digits 12 4 front
  obtain ⟨first, second, rfl⟩ := split_digits 8 4 front
  exact ⟨⟨first, second, third, fourth, last⟩, rfl⟩

theorem toNat_bits (uuid : Uuid) : uuid.bits.toNat = uuid.word.value :=
  Hex.toNat_append _ <| Hex.toNat_append _ <| Hex.toNat_append _ <|
    Hex.toNat_append _ <| Hex.toNat_bits uuid.first

/-! ## Lowercase texts -/

theorem toLowerCase_text (uuid : Uuid) : toLowerCase uuid.text = uuid.text := by
  have hwords {width : ℕ} (word : Hex width) : toLowerCase word.digits = word.digits :=
    toLowerCase_hex word.all_hex
  simp only [toLowerCase] at hwords ⊢
  simp [text, hwords]

theorem toLowerCase_0x {width : ℕ} (word : Hex width) :
    toLowerCase ('0' :: 'x' :: word.digits) = '0' :: 'x' :: word.digits := by
  have hword : toLowerCase word.digits = word.digits := toLowerCase_hex word.all_hex
  simp only [toLowerCase] at hword ⊢
  simp [hword]

/-! ## The two shapes -/

/-- The high half of a conforming reference. -/
def zeros : Hex 32 where
  digits := REF_ZERO_HALF
  length_eq := by simp [REF_ZERO_HALF]
  all_hex := by
    intro char hchar
    rw [List.eq_of_mem_replicate hchar]
    decide

theorem value_zeros : zeros.value = 0 := by
  have hdigits : zeros.digits.reverse.map hexDigit = List.replicate 32 0 := by
    simp [zeros, REF_ZERO_HALF, hexDigit, digitValue]
  rw [Hex.value, hdigits]
  exact Nat.ofDigits_replicate_zero

private theorem run_hex (start : ℕ) (run : Text)
    (hfree : ∀ index, start ≤ index → index < start + run.length →
      index ∉ [8, 13, 18, 23]) :
    (run.zipIdx start).all (fun (char, index) =>
      if index ∈ [8, 13, 18, 23] then decide (char = '-') else isHexDigit char) =
      run.all isHexDigit := by
  induction run generalizing start with
  | nil => simp
  | cons char run ih =>
    have hhere := hfree start le_rfl (by simp)
    have hrest := ih (start + 1) fun index hlow hhigh =>
      hfree index (by omega) (by simp at hhigh ⊢; omega)
    rw [List.zipIdx_cons, List.all_cons, List.all_cons, hrest]
    simp only [if_neg hhere]

private theorem UUID_RE_runs {r₁ r₂ r₃ r₄ r₅ : Text} {c₁ c₂ c₃ c₄ : Char}
    (h₁ : r₁.length = 8) (h₂ : r₂.length = 4) (h₃ : r₃.length = 4)
    (h₄ : r₄.length = 4) (h₅ : r₅.length = 12) :
    UUID_RE (r₁ ++ c₁ :: (r₂ ++ c₂ :: (r₃ ++ c₃ :: (r₄ ++ c₄ :: r₅)))) = true ↔
      (r₁.all isHexDigit ∧ r₂.all isHexDigit ∧ r₃.all isHexDigit ∧
        r₄.all isHexDigit ∧ r₅.all isHexDigit) ∧
      c₁ = '-' ∧ c₂ = '-' ∧ c₃ = '-' ∧ c₄ = '-' := by
  have run₁ := run_hex 0 r₁ (by rw [h₁]; intro index; simp; omega)
  have run₂ := run_hex 9 r₂ (by rw [h₂]; intro index; simp; omega)
  have run₃ := run_hex 14 r₃ (by rw [h₃]; intro index; simp; omega)
  have run₄ := run_hex 19 r₄ (by rw [h₄]; intro index; simp; omega)
  have run₅ := run_hex 24 r₅ (by rw [h₅]; intro index; simp; omega)
  have hlength :
      (r₁ ++ c₁ :: (r₂ ++ c₂ :: (r₃ ++ c₃ :: (r₄ ++ c₄ :: r₅)))).length = 36 := by
    simp [h₁, h₂, h₃, h₄, h₅]
  rw [UUID_RE, hlength]
  simp only [List.zipIdx_append, List.zipIdx_cons, List.all_append, List.all_cons,
    h₁, h₂, h₃, h₄, run₁, run₂, run₃, run₄, run₅]
  simp
  tauto

private theorem split_at {value : Text} (front rest : ℕ)
    (hlength : value.length = front + (rest + 1)) :
    ∃ (run : Text) (char : Char) (tail : Text),
      run.length = front ∧ tail.length = rest ∧ value = run ++ char :: tail := by
  have hlt : front < value.length := by omega
  exact ⟨value.take front, value[front], value.drop (front + 1), by simp; omega,
    by simp; omega, by rw [← List.drop_eq_getElem_cons hlt, List.take_append_drop]⟩

/-- The regular expression accepts exactly the hyphenated forms. -/
theorem isUuid_iff (value : Text) :
    isUuid value = true ↔ ∃ uuid : Uuid, value = uuid.text := by
  constructor
  · intro hmatch
    have hlength : value.length = 36 := by
      simp only [isUuid, UUID_RE, Bool.and_eq_true, decide_eq_true_eq] at hmatch
      exact hmatch.1
    obtain ⟨r₁, c₁, tail₁, h₁, htail₁, rfl⟩ := split_at 8 27 hlength
    obtain ⟨r₂, c₂, tail₂, h₂, htail₂, rfl⟩ := split_at 4 22 htail₁
    obtain ⟨r₃, c₃, tail₃, h₃, htail₃, rfl⟩ := split_at 4 17 htail₂
    obtain ⟨r₄, c₄, r₅, h₄, h₅, rfl⟩ := split_at 4 12 htail₃
    have hruns := (UUID_RE_runs h₁ h₂ h₃ h₄ h₅).mp hmatch
    simp only [List.all_eq_true] at hruns
    obtain ⟨⟨hex₁, hex₂, hex₃, hex₄, hex₅⟩, rfl, rfl, rfl, rfl⟩ := hruns
    exact ⟨⟨⟨r₁, h₁, hex₁⟩, ⟨r₂, h₂, hex₂⟩, ⟨r₃, h₃, hex₃⟩,
      ⟨r₄, h₄, hex₄⟩, ⟨r₅, h₅, hex₅⟩⟩, rfl⟩
  · rintro ⟨uuid, rfl⟩
    apply (UUID_RE_runs uuid.first.length_eq uuid.second.length_eq
      uuid.third.length_eq uuid.fourth.length_eq uuid.last.length_eq).mpr
    simp only [List.all_eq_true, and_self, and_true]
    exact ⟨uuid.first.all_hex, uuid.second.all_hex, uuid.third.all_hex,
      uuid.fourth.all_hex, uuid.last.all_hex⟩

theorem text_injective : Function.Injective text := by
  intro left right heq
  simp only [text] at heq
  obtain ⟨hfirst, heq⟩ := List.append_inj heq (by simp)
  obtain ⟨hsecond, heq⟩ := List.append_inj (List.cons.inj heq).2 (by simp)
  obtain ⟨hthird, heq⟩ := List.append_inj (List.cons.inj heq).2 (by simp)
  obtain ⟨hfourth, heq⟩ := List.append_inj (List.cons.inj heq).2 (by simp)
  apply Uuid.ext <;> apply Hex.ext
  exacts [hfirst, hsecond, hthird, hfourth, (List.cons.inj heq).2]

private theorem filter_digits {width : ℕ} (word : Hex width) :
    word.digits.filter (fun char => !decide (char = '-')) = word.digits := by
  rw [List.filter_eq_self]
  intro char hchar
  have hhex := word.all_hex char hchar
  simp only [Bool.not_eq_true', decide_eq_false_iff_not]
  rintro rfl
  exact absurd hhex (by decide)

theorem filter_text (uuid : Uuid) :
    uuid.text.filter (· ≠ '-') = uuid.word.digits := by
  simp [text, word_digits, filter_digits]

/-- The decoder accepts exactly the left-padded forms. -/
theorem isPadded_iff (value : Text) :
    REF_RE value = true ∧ (value.drop 2).take 32 = REF_ZERO_HALF ↔
      ∃ uuid : Uuid, value = uuid.ref := by
  constructor
  · rintro ⟨hmatch, hzero⟩
    simp only [REF_RE, Bool.and_eq_true, decide_eq_true_eq, List.all_eq_true] at hmatch
    obtain ⟨⟨hzeros, hlength⟩, hhex⟩ := hmatch
    have hlow : ∀ char ∈ (value.drop 2).drop 32, isHexDigit char = true :=
      fun char hchar => hhex char (List.mem_of_mem_drop hchar)
    obtain ⟨uuid, huuid⟩ := exists_word
      ⟨(value.drop 2).drop 32, by rw [List.length_drop, hlength], hlow⟩
    use uuid
    calc value = value.take 2 ++ ((value.drop 2).take 32 ++ (value.drop 2).drop 32) := by
          rw [List.take_append_drop, List.take_append_drop]
      _ = uuid.ref := by rw [hzeros, hzero, ref, huuid]; rfl
  · rintro ⟨uuid, rfl⟩
    have hhex := (zeros.append uuid.word).all_hex
    constructor
    · simp only [REF_RE, ref, Bool.and_eq_true, decide_eq_true_eq, List.all_eq_true,
        List.drop_succ_cons, List.drop_zero]
      exact ⟨⟨rfl, (zeros.append uuid.word).length_eq⟩, hhex⟩
    · simp [ref, REF_ZERO_HALF]

/-- Cutting the digits where the decoder cuts them gives back the words. -/
theorem hyphenate_word (uuid : Uuid) :
    uuid.word.digits.take 8 ++ ['-'] ++ (uuid.word.digits.drop 8).take 4 ++ ['-'] ++
      (uuid.word.digits.drop 12).take 4 ++ ['-'] ++
      (uuid.word.digits.drop 16).take 4 ++ ['-'] ++ uuid.word.digits.drop 20 =
    uuid.text := by
  simp [word_digits, text, List.drop_append,
    List.drop_eq_nil_of_le]

end Uuid

/-! ## The codec -/

theorem uuidToRef_text {value : Text} {uuid : Uuid}
    (hvalue : toLowerCase value = uuid.text) : uuidToRef value = .ok uuid.ref := by
  have hmatch : isUuid (toLowerCase value) = true :=
    (Uuid.isUuid_iff _).mpr ⟨uuid, hvalue⟩
  rw [uuidToRef, if_pos hmatch, hvalue, Uuid.filter_text]
  rfl

theorem refToUuid_ref {value : Text} {uuid : Uuid}
    (hvalue : toLowerCase value = uuid.ref) : refToUuid value = .ok uuid.text := by
  obtain ⟨hmatch, hzero⟩ := (Uuid.isPadded_iff _).mpr ⟨uuid, hvalue⟩
  have hlow : (toLowerCase value).drop 34 = uuid.word.digits := by
    rw [hvalue]
    simp [Uuid.ref, REF_ZERO_HALF]
  simp only [refToUuid, hmatch, hzero, hlow, ← Uuid.hyphenate_word]
  rfl

theorem exists_of_uuidToRef {value ref : Text} (hok : uuidToRef value = .ok ref) :
    ∃ uuid : Uuid, toLowerCase value = uuid.text ∧ ref = uuid.ref := by
  by_cases hmatch : isUuid (toLowerCase value) = true
  · obtain ⟨uuid, huuid⟩ := (Uuid.isUuid_iff _).mp hmatch
    rw [uuidToRef_text huuid] at hok
    exact ⟨uuid, huuid, (Except.ok.inj hok).symm⟩
  · simp [uuidToRef, hmatch] at hok

theorem exists_of_refToUuid {value text : Text} (hok : refToUuid value = .ok text) :
    ∃ uuid : Uuid, toLowerCase value = uuid.ref ∧ text = uuid.text := by
  by_cases hshape : REF_RE (toLowerCase value) = true ∧
      ((toLowerCase value).drop 2).take 32 = REF_ZERO_HALF
  · obtain ⟨uuid, huuid⟩ := (Uuid.isPadded_iff _).mp hshape
    rw [refToUuid_ref huuid] at hok
    exact ⟨uuid, huuid, (Except.ok.inj hok).symm⟩
  · simp only [refToUuid] at hok
    split at hok
    · cases hok
    · split at hok
      · cases hok
      · simp_all

theorem Uuid.ref_eq (uuid : Uuid) :
    uuid.ref = '0' :: 'x' :: (Uuid.zeros.append uuid.word).digits := rfl

theorem Uuid.toLowerCase_ref (uuid : Uuid) : toLowerCase uuid.ref = uuid.ref :=
  toLowerCase_0x (Uuid.zeros.append uuid.word)

theorem Uuid.ref_injective : Function.Injective Uuid.ref := by
  intro left right heq
  have htext : Except.ok left.text = (Except.ok right.text : Except RefError Text) := by
    rw [← refToUuid_ref left.toLowerCase_ref, heq, refToUuid_ref right.toLowerCase_ref]
  exact Uuid.text_injective (Except.ok.inj htext)

theorem tryRefToUuid_eq_none (value : Text) :
    tryRefToUuid value = none ↔ ∃ error, refToUuid value = .error error := by
  cases hresult : refToUuid value <;> simp [tryRefToUuid, hresult]

theorem tryRefToUuid_eq_some (value text : Text) :
    tryRefToUuid value = some text ↔
      ∃ uuid : Uuid, toLowerCase value = uuid.ref ∧ text = uuid.text := by
  constructor
  · intro hsome
    apply exists_of_refToUuid
    cases hresult : refToUuid value <;> simp_all [tryRefToUuid]
  · rintro ⟨uuid, hvalue, rfl⟩
    rw [tryRefToUuid, refToUuid_ref hvalue]

/-! ## Values -/

theorem toNat_setWidth (uuid : Uuid) :
    (uuid.bits.setWidth 256).toNat = uuid.word.value := by
  have hlt : uuid.bits.toNat < 2 ^ 256 := uuid.bits.isLt.trans (by decide)
  rw [BitVec.toNat_setWidth, Nat.mod_eq_of_lt hlt, Uuid.toNat_bits]

theorem value_ref (uuid : Uuid) :
    (Uuid.zeros.append uuid.word).value = (uuid.bits.setWidth 256).toNat := by
  rw [Hex.value_append, Uuid.value_zeros, toNat_setWidth, Nat.zero_mul, Nat.zero_add]

theorem setWidth_bits_injective :
    Function.Injective fun uuid : Uuid => uuid.bits.setWidth 256 := by
  intro left right heq
  apply Uuid.ref_injective
  have hwords : Uuid.zeros.append left.word = Uuid.zeros.append right.word := by
    apply Hex.value_injective
    rw [value_ref, value_ref]
    exact congrArg BitVec.toNat heq
  rw [Uuid.ref_eq, Uuid.ref_eq, hwords]

/-- The word of a log decodes to a UUID exactly when it is its 128-bit value. -/
theorem tryRefToUuid_word (word : BitVec 256) (text : Text) :
    tryRefToUuid ('0' :: 'x' :: hexadecimal 64 word.toNat) = some text ↔
      ∃ uuid : Uuid, word = uuid.bits.setWidth 256 ∧ text = uuid.text := by
  have hspell (uuid : Uuid) :
      toLowerCase ('0' :: 'x' :: hexadecimal 64 word.toNat) = uuid.ref ↔
        word = uuid.bits.setWidth 256 := by
    have hvalue : (Hex.ofNat 64 word.toNat).value = word.toNat := by
      rw [Hex.value_ofNat]
      exact Nat.mod_eq_of_lt word.isLt
    calc toLowerCase ('0' :: 'x' :: hexadecimal 64 word.toNat) = uuid.ref
        ↔ '0' :: 'x' :: (Hex.ofNat 64 word.toNat).digits =
            '0' :: 'x' :: (Uuid.zeros.append uuid.word).digits := by
          rw [Uuid.ref_eq, ← Uuid.toLowerCase_0x (Hex.ofNat 64 word.toNat)]
          rfl
      _ ↔ Hex.ofNat 64 word.toNat = Uuid.zeros.append uuid.word := by
          rw [Hex.ext_iff]
          simp
      _ ↔ word.toNat = (uuid.bits.setWidth 256).toNat := by
          rw [← Hex.value_injective.eq_iff, hvalue, value_ref]
      _ ↔ word = uuid.bits.setWidth 256 := BitVec.toNat_inj
  simp only [tryRefToUuid_eq_some, hspell]

/-- A text encodes to a reference exactly when both spell one UUID. -/
theorem uuidToRef_iff (value ref : Text) :
    uuidToRef value = .ok ref ↔
      ∃ uuid : Uuid, toLowerCase value = uuid.text ∧ ref = uuid.ref := by
  constructor
  · exact exists_of_uuidToRef
  · rintro ⟨uuid, hvalue, rfl⟩
    exact uuidToRef_text hvalue

theorem refToUuid_iff (value text : Text) :
    refToUuid value = .ok text ↔
      ∃ uuid : Uuid, toLowerCase value = uuid.ref ∧ text = uuid.text := by
  constructor
  · exact exists_of_refToUuid
  · rintro ⟨uuid, hvalue, rfl⟩
    exact refToUuid_ref hvalue

theorem refToUuid_uuidToRef {value ref : Text} (hok : uuidToRef value = .ok ref) :
    refToUuid ref = .ok (toLowerCase value) := by
  obtain ⟨uuid, hvalue, rfl⟩ := exists_of_uuidToRef hok
  rw [hvalue, refToUuid_ref uuid.toLowerCase_ref]

theorem uuidToRef_refToUuid {value text : Text} (hok : refToUuid value = .ok text) :
    uuidToRef text = .ok (toLowerCase value) := by
  obtain ⟨uuid, hvalue, rfl⟩ := exists_of_refToUuid hok
  rw [hvalue, uuidToRef_text uuid.toLowerCase_text]

/-- Both maps only see the lowercase text, and tell any two of those apart. -/
theorem uuidToRef_eq_iff {left right ref : Text} (hok : uuidToRef left = .ok ref) :
    uuidToRef right = .ok ref ↔ toLowerCase left = toLowerCase right := by
  obtain ⟨uuid, hleft, rfl⟩ := exists_of_uuidToRef hok
  calc uuidToRef right = .ok uuid.ref
      ↔ ∃ other : Uuid, toLowerCase right = other.text ∧ uuid.ref = other.ref :=
        uuidToRef_iff right uuid.ref
    _ ↔ toLowerCase right = uuid.text := by
        simp [Uuid.ref_injective.eq_iff]
    _ ↔ toLowerCase left = toLowerCase right := by rw [hleft, eq_comm]

theorem refToUuid_eq_iff {left right text : Text} (hok : refToUuid left = .ok text) :
    refToUuid right = .ok text ↔ toLowerCase left = toLowerCase right := by
  obtain ⟨uuid, hleft, rfl⟩ := exists_of_refToUuid hok
  calc refToUuid right = .ok uuid.text
      ↔ ∃ other : Uuid, toLowerCase right = other.ref ∧ uuid.text = other.text :=
        refToUuid_iff right uuid.text
    _ ↔ toLowerCase right = uuid.ref := by
        simp [Uuid.text_injective.eq_iff]
    _ ↔ toLowerCase left = toLowerCase right := by rw [hleft, eq_comm]

/-- The codec is a bijection between the canonical UUIDs and the left-padded
words, up to letter case, and keeps the value; no other word has a UUID. -/
theorem ref_codec_bijective :
    (∀ value, (∃ ref, uuidToRef value = .ok ref) ↔
      ∃ uuid : Uuid, toLowerCase value = uuid.text) ∧
    (∀ value ref, uuidToRef value = .ok ref →
      refToUuid ref = .ok (toLowerCase value)) ∧
    (∀ value, (∃ text, refToUuid value = .ok text) ↔
      ∃ half : Hex 32, toLowerCase value =
        ['0', 'x'] ++ List.replicate 32 '0' ++ half.digits) ∧
    (∀ value text, refToUuid value = .ok text →
      uuidToRef text = .ok (toLowerCase value)) ∧
    (∀ value, tryRefToUuid value = none ↔
      ∃ error, refToUuid value = .error error) ∧
    (∀ left right ref, uuidToRef left = .ok ref →
      (uuidToRef right = .ok ref ↔ toLowerCase left = toLowerCase right)) ∧
    (∀ left right text, refToUuid left = .ok text →
      (refToUuid right = .ok text ↔ toLowerCase left = toLowerCase right)) ∧
    (∀ value (uuid : Uuid), toLowerCase value = uuid.text →
      ∃ ref : Hex 64, uuidToRef value = .ok ('0' :: 'x' :: ref.digits) ∧
        ref.bits = uuid.bits.setWidth 256) ∧
    (Function.Injective fun uuid : Uuid => uuid.bits.setWidth 256) ∧
    ∀ (word : BitVec 256) (text : Text),
      tryRefToUuid ('0' :: 'x' :: hexadecimal 64 word.toNat) = some text ↔
        ∃ uuid : Uuid, word = uuid.bits.setWidth 256 ∧ text = uuid.text := by
  have hencodes (value : Text) : (∃ ref, uuidToRef value = .ok ref) ↔
      ∃ uuid : Uuid, toLowerCase value = uuid.text := by
    simp only [uuidToRef_iff]
    exact ⟨fun ⟨_, uuid, hvalue, _⟩ => ⟨uuid, hvalue⟩,
      fun ⟨uuid, hvalue⟩ => ⟨uuid.ref, uuid, hvalue, rfl⟩⟩
  have hdecodes (value : Text) : (∃ text, refToUuid value = .ok text) ↔
      ∃ half : Hex 32, toLowerCase value =
        ['0', 'x'] ++ List.replicate 32 '0' ++ half.digits := by
    simp only [refToUuid_iff]
    constructor
    · rintro ⟨_, uuid, hvalue, -⟩
      exact ⟨uuid.word, hvalue⟩
    · rintro ⟨half, hvalue⟩
      obtain ⟨uuid, rfl⟩ := Uuid.exists_word half
      exact ⟨uuid.text, uuid, hvalue, rfl⟩
  have hkeeps (value : Text) (uuid : Uuid) (hvalue : toLowerCase value = uuid.text) :
      ∃ ref : Hex 64, uuidToRef value = .ok ('0' :: 'x' :: ref.digits) ∧
        ref.bits = uuid.bits.setWidth 256 := by
    use Uuid.zeros.append uuid.word
    refine ⟨uuidToRef_text hvalue, BitVec.eq_of_toNat_eq ?_⟩
    rw [Hex.toNat_bits, value_ref]
  exact ⟨hencodes, fun _ _ => refToUuid_uuidToRef, hdecodes,
    fun _ _ => uuidToRef_refToUuid, tryRefToUuid_eq_none,
    fun _ _ _ => uuidToRef_eq_iff, fun _ _ _ => refToUuid_eq_iff, hkeeps,
    setWidth_bits_injective, tryRefToUuid_word⟩

/-- A UUID in capitals, its reference, and the way back. -/
theorem ref_codec_bijective_sample :
    refToUuid (['0', 'x'] ++ List.replicate 32 '0' ++
        "36b8f84ddf4e4d49b662bbfa1046a2b0".toList) =
      .ok (toLowerCase "36B8F84D-DF4E-4D49-B662-BBFA1046A2B0".toList) :=
  ref_codec_bijective.2.1 _ _ (by decide)

end BuyAnAnswer.Shared
