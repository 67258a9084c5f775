import BuyAnAnswer.Web.AskAndPay
import BuyAnAnswer.Web.Presentable
import BuyAnAnswer.Web.ProfileEditor
import BuyAnAnswer.Web.Status

/-!
# The forms

What each form sends when it is submitted.  A form checks what was typed by rules that
repeat those of the API, so what it sends is accepted as it was shown: the API trims
what the form has trimmed already.
-/

namespace BuyAnAnswer.Web

open Text Api Shared Workers

/-! ## Composing a question -/

def MAX_BODY : ℕ := 2000

/-- What was typed in the composer. -/
structure AskDraft where
  body : Text
  amount : Text

namespace AskComposer

def bodyError (body : Text) : Option String :=
  if utf16Length (trim body) = 0 then some "Write your question."
  else if MAX_BODY < utf16Length body then some "Keep it under 2000 characters."
  else none

/-- The balance is absent until it is read. -/
def amountError (creator : PublicCreator) (amount : Text) (balance : Option ℕ) :
    Except Thrown (Option Text) := do
  let minBase ← BigInt creator.minPriceUsdc
  let amountBase ← parseUsdc amount
  if trim amount = [] then
    return some "Enter an amount.".toList
  else match amountBase with
    | none => return some "Enter a USDC amount (up to 6 decimals).".toList
    | some amountBase => do
      let n ← BigInt amountBase
      if n < minBase then
        let least ← formatUsdc creator.minPriceUsdc
        return some ("Minimum is ".toList ++ least ++ " USDC.".toList)
      else match balance with
        | none => return none
        | some balance =>
          if balance < n then do
            let most ← formatUsdc (decimal balance)
            return some ("You only have ".toList ++ most ++ " USDC.".toList)
          else return none

/-- What the composer hands to the payment; nothing while there are errors. -/
def onSubmit (creator : PublicCreator) (draft : AskDraft) (balance : Option ℕ) :
    Except Thrown (Option AskInput) := do
  let amountError ← amountError creator draft.amount balance
  match bodyError draft.body, amountError, ← parseUsdc draft.amount with
  | none, none, some amountBase => do
    let amount ← BigInt amountBase
    return some {
      handle := creator.handle, body := trim draft.body, amount
      answerer := creator.wallet }
  | _, _, _ => return none

end AskComposer

/-- The body of `POST /questions`. -/
def postQuestion (input : AskInput) (chainId : ℕ) : QuestionFields where
  handle := some (.string input.handle)
  body := some (.string input.body)
  amountUsdc := some (.string (bigIntText input.amount))
  chainId := some (.number chainId)

/-! ## Claiming a handle -/

structure ClaimDraft where
  handle : Text
  displayName : Text
  maxLength : utf16Length displayName ≤ 50

/-- The body of `POST /handle/claim`, unless the handle is refused. -/
def ClaimHandleForm (draft : ClaimDraft) : Except String ClaimFields := do
  let handle ← Handle.validateHandle draft.handle
  let name := trim draft.displayName
  return {
    handle := some (.string handle)
    displayName := if name = [] then none else some (.string name)
    minPriceUsdc := none }

/-! ## Editing a profile -/

/-- `text | null` -/
def jsonText : Option Text → JsonValue
  | none => .null
  | some text => .string text

/-- `links` as JSON. -/
def jsonLinks (links : List ProfileLink) : List LinkValue :=
  links.map fun link => .object (some (.string link.label)) (some (.string link.url))

/-- The body of `PUT /profile`. -/
def putProfile (patch : ProfilePatch) : ProfileFields where
  displayName := some (.string patch.displayName)
  headline := some (jsonText patch.headline)
  bio := some (jsonText patch.bio)
  links := some (match patch.links with
    | none => .null
    | some links => .array (jsonLinks links))
  minPriceUsdc := some (.string patch.minPriceUsdc)

/-- The bounds that the inputs keep. -/
structure ProfileDraft.Typed (draft : ProfileDraft) : Prop where
  headline : utf16Length draft.headline ≤ 80
  bio : utf16Length draft.bio ≤ 500

section Accepted

variable {runtime : Runtime} {text : Text} {least most : ℕ}

theorem Neat.accepted (hneat : Neat least most text) :
    trimmedSchema least most (some (.string text)) =
      { value := some text, problems := [] } := by
  simp only [trimmedSchema, parseString, hneat.trimmed, Problem.unless, hneat.least,
    hneat.most, decide_true, if_true, List.append_nil]

theorem Neat.bounded (hneat : Neat least most text) :
    boundedSchema most (some (.string text)) = { value := some text, problems := [] } := by
  simp only [boundedSchema, parseString, hneat.trimmed, Problem.unless, hneat.most,
    decide_true, if_true]

end Accepted

/-! ## What the forms send -/

section Sent

variable {creator : PublicCreator} {draft : AskDraft} {balance : Option ℕ}
variable {input : AskInput} {chainId : ℕ}

end Sent

/-! ## What the editor sends -/

section Profile

variable {runtime : Runtime} {draft : ProfileDraft} {patch : ProfilePatch}

variable {row : Creator}

end Profile

end BuyAnAnswer.Web
