import BuyAnAnswer.Workers.Profiles

/-!
# Handles in the web app

The app checks a handle by rules of its own, kept in step with those of the API.
It accepts exactly the texts whose normal form can be claimed.
-/

namespace BuyAnAnswer.Web

open Text Api Workers

namespace Handle

/-- `/^[a-z0-9_]{3,30}$/` -/
def HANDLE_REGEX (text : Text) : Bool :=
  3 ≤ text.length && text.length ≤ 30 && text.all fun char =>
    ('a' ≤ char && char ≤ 'z') || char.isDigit || char = '_'

def HANDLE_MIN : ℕ := 3

def HANDLE_MAX : ℕ := 30

def RESERVED_HANDLES : List String := [
  "admin", "administrator", "api", "app", "about", "ask", "auth", "avatar",
  "avatars", "board", "dashboard", "explore", "frame", "frames", "health",
  "help", "home", "index", "legal", "login", "logout", "me", "new", "onboard",
  "onboarding", "p", "privacy", "profile", "public", "question", "questions",
  "reclaim", "root", "settings", "signin", "signout", "signup", "static",
  "support", "terms", "user", "users", "www", "_next"]

def normalizeHandle (raw : Text) : Text := toLowerCase (trim raw)

def isReservedHandle (handle : Text) : Bool :=
  RESERVED_HANDLES.any fun reserved => reserved.toList = handle

/-- The normal form of a handle, or why there is none. -/
def validateHandle (raw : Text) : Except String Text :=
  let handle := normalizeHandle raw
  if utf16Length handle = 0 then .error "Pick a handle for your link."
  else if utf16Length handle < HANDLE_MIN then .error "At least 3 characters."
  else if HANDLE_MAX < utf16Length handle then .error "At most 30 characters."
  else if HANDLE_REGEX handle = false then
    .error "Use only lowercase letters, numbers, and underscores."
  else if isReservedHandle handle then .error "That handle is reserved — try another."
  else .ok handle

end Handle

/-! ## The characters of a handle -/

section Characters

variable {handle : Text} {char : Char}

theorem handle_char (hformat : HANDLE_RE handle = true) (hchar : char ∈ handle) :
    ('a' ≤ char ∧ char ≤ 'z') ∨ char.isDigit = true ∨ char = '_' := by
  simp only [HANDLE_RE, Bool.and_eq_true] at hformat
  have hmember := List.all_eq_true.mp hformat.2 char hchar
  simp only [Bool.or_eq_true, Bool.and_eq_true, decide_eq_true_eq] at hmember
  obtain (hletter | hdigit) | hother := hmember
  · exact .inl hletter
  · exact .inr (.inl hdigit)
  · exact .inr (.inr hother)

/-- The code points of a handle. -/
theorem handle_char_toNat (hformat : HANDLE_RE handle = true) (hchar : char ∈ handle) :
    (97 ≤ char.toNat ∧ char.toNat ≤ 122) ∨ (48 ≤ char.toNat ∧ char.toNat ≤ 57) ∨
      char.toNat = 95 := by
  obtain ⟨hleast, hmost⟩ | hdigit | rfl := handle_char hformat hchar
  · rw [Char.le_def, UInt32.le_iff_toNat_le] at hleast hmost
    exact .inl ⟨hleast, hmost⟩
  · exact .inr (.inl (isDigit_bounds hdigit))
  · exact .inr (.inr rfl)

theorem utf16Length_ascii {text : Text} (hascii : ∀ char ∈ text, char.toNat < 0x10000) :
    utf16Length text = text.length := by
  induction text with
  | nil => rfl
  | cons char text ih =>
      have hrest := ih fun other hother => hascii other (by simp [hother])
      rw [utf16Length] at hrest ⊢
      rw [List.map_cons, List.sum_cons, hrest, if_pos (hascii char (by simp)),
        List.length_cons, Nat.add_comm]

theorem utf16Length_handle (hformat : HANDLE_RE handle = true) :
    utf16Length handle = handle.length := by
  apply utf16Length_ascii
  intro char hchar
  have hcode := handle_char_toNat hformat hchar
  omega

/-- A visible ASCII character is no white space. -/
theorem isSpace_visible (hleast : 33 ≤ char.toNat) (hmost : char.toNat ≤ 126) :
    isSpace char = false := by
  have hne (space : Char) (hspace : space.toNat < 33 ∨ 126 < space.toNat) :
      char ≠ space := by
    rintro rfl
    omega
  have hrange : ¬ '\u2000' ≤ char := by
    rw [Char.le_def, UInt32.le_iff_toNat_le]
    change ¬ 8192 ≤ char.toNat
    omega
  simp [isSpace, hne, hrange]

/-- A character that is no capital letter is in lower case. -/
theorem toLower_eq_self (hcapital : char.toNat < 65 ∨ 90 < char.toNat) :
    char.toLower = char := by
  rw [Char.toLower, dif_neg]
  rw [ge_iff_le, UInt32.le_iff_toNat_le, UInt32.le_iff_toNat_le]
  change ¬ (65 ≤ char.toNat ∧ char.toNat ≤ 90)
  omega

theorem toLowerCase_eq_self {text : Text}
    (hlower : ∀ char ∈ text, char ≠ '\u212a' ∧ (char.toNat < 65 ∨ 90 < char.toNat)) :
    toLowerCase text = text := by
  calc toLowerCase text = text.map id := by
        apply List.map_congr_left
        intro char hchar
        obtain ⟨hkelvin, hcapital⟩ := hlower char hchar
        rw [if_neg hkelvin, toLower_eq_self hcapital, id_eq]
    _ = text := List.map_id text

/-- A handle is in its normal form. -/
theorem normalizeHandle_handle (hformat : HANDLE_RE handle = true) :
    Api.normalizeHandle handle = handle := by
  have htrim : trim handle = handle := by
    apply trim_eq_self
    intro char hchar
    have hcode := handle_char_toNat hformat hchar
    exact isSpace_visible (by omega) (by omega)
  rw [Api.normalizeHandle, htrim]
  apply toLowerCase_eq_self
  intro char hchar
  have hcode := handle_char_toNat hformat hchar
  refine ⟨?_, by omega⟩
  rintro rfl
  revert hcode
  decide

/-- White space has no case. -/
theorem toLower_space (hspace : isSpace char = true) :
    (if char = '\u212a' then 'k' else char.toLower) = char := by
  have hcode : char.toNat < 65 ∨ 90 < char.toNat := by
    by_contra hcapital
    rw [isSpace_visible (by omega) (by omega)] at hspace
    cases hspace
  rw [if_neg, toLower_eq_self hcode]
  rintro rfl
  revert hspace
  decide

/-- A text whose lower case has no white space is not trimmed. -/
theorem normalizeHandle_of_lower {raw lower : Text} (hlower : toLowerCase raw = lower)
    (hspace : ∀ char ∈ lower, isSpace char = false) : Api.normalizeHandle raw = lower := by
  rw [Api.normalizeHandle, trim_eq_self, hlower]
  intro char hchar
  by_contra hblank
  have hkept : char ∈ lower := by
    rw [← hlower, toLowerCase, List.mem_map]
    exact ⟨char, hchar, toLower_space (eq_true_of_ne_false hblank)⟩
  exact hblank (hspace char hkept)

end Characters

/-! ## The two sets of rules -/

theorem isReservedHandle_mirror : Handle.isReservedHandle = Api.isReservedHandle := rfl

theorem HANDLE_REGEX_mirror : Handle.HANDLE_REGEX = HANDLE_RE := rfl

theorem normalizeHandle_mirror : Handle.normalizeHandle = Api.normalizeHandle := rfl

/-- The app accepts what can be claimed. -/
theorem validateHandle_ok {raw handle : Text} :
    Handle.validateHandle raw = .ok handle ↔
      Api.normalizeHandle raw = handle ∧ Claimable handle := by
  rw [Handle.validateHandle]
  constructor
  · intro hvalid
    split at hvalid
    · cases hvalid
    split at hvalid
    · cases hvalid
    split at hvalid
    · cases hvalid
    split at hvalid
    · cases hvalid
    · next hformat =>
      split at hvalid
      · cases hvalid
      · next hfree =>
        cases hvalid
        exact ⟨rfl, eq_true_of_ne_false hformat, eq_false_of_ne_true hfree⟩
  · rintro ⟨rfl, hformat, hfree⟩
    have hlength := utf16Length_handle hformat
    have hbounds : 3 ≤ (Api.normalizeHandle raw).length ∧
        (Api.normalizeHandle raw).length ≤ 30 := by
      simp only [HANDLE_RE, Bool.and_eq_true, decide_eq_true_eq] at hformat
      exact hformat.1
    rw [← normalizeHandle_mirror] at *
    have hsome : ¬ utf16Length (Handle.normalizeHandle raw) = 0 := by omega
    have hleast : ¬ utf16Length (Handle.normalizeHandle raw) < Handle.HANDLE_MIN := by
      rw [Handle.HANDLE_MIN]
      omega
    have hmost : ¬ Handle.HANDLE_MAX < utf16Length (Handle.normalizeHandle raw) := by
      rw [Handle.HANDLE_MAX]
      omega
    rw [if_neg hsome, if_neg hleast, if_neg hmost, HANDLE_REGEX_mirror,
      isReservedHandle_mirror, if_neg (ne_false_of_eq_true hformat),
      if_neg (ne_true_of_eq_false hfree)]

end BuyAnAnswer.Web
