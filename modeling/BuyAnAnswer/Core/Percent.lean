import BuyAnAnswer.Core.Hex

/-!
# Percent encoding

A text as one component of a URL: characters with no meaning there stand for
themselves, all others are spelled by the octets of their UTF-8 encoding.
-/

namespace BuyAnAnswer

open Text

namespace Percent

/-- The characters that `encodeURIComponent` leaves as they are. -/
def isUnreserved (char : Char) : Bool :=
  ('a' ≤ char && char ≤ 'z') || ('A' ≤ char && char ≤ 'Z') || char.isDigit ||
    char ∈ ['-', '_', '.', '!', '~', '*', '\'', '(', ')']

/-- An uppercase hexadecimal digit. -/
def digit (value : ℕ) : Char := (Nat.digitChar value).toUpper

/-- An octet as it is spelled. -/
def spell (octet : UInt8) : Text :=
  ['%', digit (octet.toNat / 16), digit (octet.toNat % 16)]

def encodeURIComponent (text : Text) : Text :=
  text.flatMap fun char =>
    if isUnreserved char then [char] else (String.utf8EncodeChar char).flatMap spell

/-- The octets of a component; `none` where a `%` is not followed by two digits. -/
def octets : Text → Option (List UInt8)
  | [] => some []
  | '%' :: high :: low :: rest =>
    match digitValue high, digitValue low with
    | some high, some low => (octets rest).map (UInt8.ofNat (16 * high + low) :: ·)
    | _, _ => none
  | '%' :: _ => none
  | char :: rest => (octets rest).map (String.utf8EncodeChar char ++ ·)

/-- `none` is JavaScript's `URIError`. -/
def decodeURIComponent (text : Text) : Option Text :=
  (octets text).bind fun octets => octets.toByteArray.utf8Decode?.map Array.toList

/-! ## The round trip -/

theorem digitValue_digit_upper {value : ℕ} (hvalue : value < 16) :
    digitValue (digit value) = some value := by
  interval_cases value <;> decide

theorem octets_spell (octet : UInt8) (rest : Text) :
    octets (spell octet ++ rest) = (octets rest).map (octet :: ·) := by
  have hsize : octet.toNat < 256 := octet.toNat_lt
  have hhigh : digitValue (digit (octet.toNat / 16)) = some (octet.toNat / 16) :=
    digitValue_digit_upper (by omega)
  have hlow : digitValue (digit (octet.toNat % 16)) = some (octet.toNat % 16) :=
    digitValue_digit_upper (by omega)
  have hoctet : UInt8.ofNat (16 * (octet.toNat / 16) + octet.toNat % 16) = octet := by
    rw [Nat.div_add_mod, UInt8.ofNat_toNat]
  change octets ('%' :: digit (octet.toNat / 16) :: digit (octet.toNat % 16) :: rest) = _
  rw [octets, hhigh, hlow]
  simp only [hoctet]

theorem octets_spell_all (spelled : List UInt8) (rest : Text) :
    octets (spelled.flatMap spell ++ rest) = (octets rest).map (spelled ++ ·) := by
  induction spelled with
  | nil => simp
  | cons octet spelled ih =>
      rw [List.flatMap_cons, List.append_assoc, octets_spell, ih, Option.map_map]
      rfl

theorem octets_unreserved {char : Char} (hunreserved : isUnreserved char = true)
    (rest : Text) :
    octets (char :: rest) = (octets rest).map (String.utf8EncodeChar char ++ ·) := by
  have hpercent : char ≠ '%' := by
    rintro rfl
    revert hunreserved
    decide
  rw [octets]
  · intro _ _ _ hsame
    exact absurd hsame hpercent
  · intro hsame
    exact absurd hsame hpercent

theorem octets_encode (text : Text) :
    octets (encodeURIComponent text) =
      some (text.flatMap String.utf8EncodeChar) := by
  induction text with
  | nil => rfl
  | cons char text ih =>
      rw [encodeURIComponent, List.flatMap_cons, List.flatMap_cons]
      rw [encodeURIComponent] at ih
      split
      · next hunreserved =>
        rw [List.singleton_append, octets_unreserved hunreserved, ih]
        rfl
      · rw [octets_spell_all, ih]
        rfl

/-- What was encoded decodes to itself. -/
theorem decode_encode (text : Text) :
    decodeURIComponent (encodeURIComponent text) = some text := by
  have hbytes : (text.flatMap String.utf8EncodeChar).toByteArray = text.utf8Encode := rfl
  rw [decodeURIComponent, octets_encode, Option.bind_some, hbytes,
    List.utf8Decode?_utf8Encode]
  rfl

theorem encodeURIComponent_injective : Function.Injective encodeURIComponent := by
  intro left right heq
  have hdecoded := congrArg decodeURIComponent heq
  rw [decode_encode, decode_encode] at hdecoded
  exact Option.some.inj hdecoded

/-! ## What an encoded component looks like -/

theorem encode_eq_self {text : Text}
    (hunreserved : ∀ char ∈ text, isUnreserved char = true) :
    encodeURIComponent text = text := by
  induction text with
  | nil => rfl
  | cons char text ih =>
      rw [encodeURIComponent] at ih ⊢
      rw [List.flatMap_cons, if_pos (hunreserved char (by simp)), List.singleton_append,
        ih fun other hother => hunreserved other (by simp [hother])]

theorem isUnreserved_digit {value : ℕ} (hvalue : value < 16) :
    isUnreserved (digit value) = true := by
  interval_cases value <;> decide

/-- Only unreserved characters and percent signs are left. -/
theorem mem_encode {text : Text} {char : Char} (hchar : char ∈ encodeURIComponent text) :
    isUnreserved char = true ∨ char = '%' := by
  obtain ⟨source, _, hchar⟩ := List.mem_flatMap.mp hchar
  split at hchar
  · next hunreserved =>
    rw [List.mem_singleton.mp hchar]
    exact .inl hunreserved
  · obtain ⟨octet, _, hchar⟩ := List.mem_flatMap.mp hchar
    have hsize : octet.toNat < 256 := octet.toNat_lt
    simp only [spell, List.mem_cons, List.not_mem_nil, or_false] at hchar
    obtain rfl | rfl | rfl := hchar
    · exact .inr rfl
    · exact .inl (isUnreserved_digit (by omega))
    · exact .inl (isUnreserved_digit (by omega))

/-- An encoded component has no slash. -/
theorem slash_notMem_encode (text : Text) : '/' ∉ encodeURIComponent text := by
  intro hslash
  obtain hunreserved | hpercent := mem_encode hslash
  · exact absurd hunreserved (by decide)
  · exact absurd hpercent (by decide)

/-- The spelling of an octet has no dot. -/
theorem dot_notMem_spell (octet : UInt8) : '.' ∉ spell octet := by
  have hdigit : ∀ value < 16, digit value ≠ '.' := by decide
  have hsize : octet.toNat < 256 := octet.toNat_lt
  simp only [spell, List.mem_cons, List.not_mem_nil, or_false, not_or]
  exact ⟨by decide, (hdigit _ (by omega)).symm, (hdigit _ (by omega)).symm⟩

end Percent

end BuyAnAnswer
