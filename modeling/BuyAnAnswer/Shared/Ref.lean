import BuyAnAnswer.Core.Text

/-!
# The reference codec

A question's UUID travels on-chain as a `bytes32` whose high half is zero.  A
word of any other form belongs to no question.
-/

namespace BuyAnAnswer.Shared

open Text

/-- Why the codec throws. -/
inductive RefError where
  | invalidUuid (uuid : Text)
  | invalidRef (ref : Text)
  | notPadded (ref : Text)
  deriving DecidableEq, Repr

/-- `/^[0-9a-f]{8}-[0-9a-f]{4}-[0-9a-f]{4}-[0-9a-f]{4}-[0-9a-f]{12}$/` -/
def UUID_RE (value : Text) : Bool :=
  value.length = 36 && value.zipIdx.all fun (char, index) =>
    if index ∈ [8, 13, 18, 23] then char = '-' else isHexDigit char

/-- `/^0x[0-9a-f]{64}$/` -/
def REF_RE (value : Text) : Bool :=
  value.take 2 = ['0', 'x'] && (value.drop 2).length = 64 &&
    (value.drop 2).all isHexDigit

def REF_ZERO_HALF : Text := List.replicate 32 '0'

def isUuid (value : Text) : Bool := UUID_RE value

def uuidToRef (uuid : Text) : Except RefError Text :=
  let lower := toLowerCase uuid
  if isUuid lower then
    .ok (['0', 'x'] ++ REF_ZERO_HALF ++ lower.filter (· ≠ '-'))
  else .error (.invalidUuid uuid)

def refToUuid (ref : Text) : Except RefError Text :=
  let lower := toLowerCase ref
  if !REF_RE lower then .error (.invalidRef ref)
  else if (lower.drop 2).take 32 ≠ REF_ZERO_HALF then .error (.notPadded ref)
  else
    let h := lower.drop 34
    .ok (h.take 8 ++ ['-'] ++ (h.drop 8).take 4 ++ ['-'] ++
      (h.drop 12).take 4 ++ ['-'] ++ (h.drop 16).take 4 ++ ['-'] ++ h.drop 20)

def tryRefToUuid (ref : Text) : Option Text :=
  match refToUuid ref with
  | .ok uuid => some uuid
  | .error _ => none

example : (uuidToRef "36b8f84d-df4e-4d49-b662-bbfa1046a2b0".toList).toOption.bind
    tryRefToUuid = some "36b8f84d-df4e-4d49-b662-bbfa1046a2b0".toList := by
  decide

end BuyAnAnswer.Shared
