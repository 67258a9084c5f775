import BuyAnAnswer.Web.SettleAction

/-!
# What the question page offers

The page reads the status and the deadline of a row, the viewer's role from the
wallets, and offers settlements of an open question to a connected wallet, while no run
of them is under way.
-/

namespace BuyAnAnswer.Web

open Text Shared

/-- An instant on the wire: unix seconds, or an ISO text with the instant that
`Date.parse` finds in it. -/
inductive EpochInput where
  | absent
  | number (value : ℚ)
  | notFinite
  | text (parsed : Option ℤ)
  deriving DecidableEq

/-- Normalize to epoch milliseconds. -/
def toEpochMs : EpochInput → Option ℚ
  | .absent => none
  | .number value => some (if value < 1000000000000 then value * 1000 else value)
  | .notFinite => none
  | .text none => none
  | .text (some ms) => some ms

/-- The viewer's role on a question. -/
inductive Role where
  | asker
  | answerer
  deriving DecidableEq

def roleFor (wallet : Text) (question : Question) : Option Role :=
  let w := toLowerCase wallet
  if w = toLowerCase question.answererWallet then some .answerer
  else if w = toLowerCase question.askerWallet then some .asker
  else none

def isPastDeadline (answerDeadline : EpochInput) (nowMs : ℕ) : Bool :=
  match toEpochMs answerDeadline with
  | none => false
  | some ms => ms ≤ nowMs

/-- What the asker can do about an open question. -/
def askerActionFor (status : QuestionStatus) (answerDeadline : EpochInput) (nowMs : ℕ) :
    Option SettleKind :=
  if status ≠ .open then none
  else some (if isPastDeadline answerDeadline nowMs then .reclaim else .cancel)

/-- The deadline as the API sends it, a date in ISO format. -/
def wireDeadline (question : Question) : EpochInput :=
  match question.answerDeadline with
  | none => .absent
  | some seconds => .text (some (1000 * (seconds : ℤ)))

def MAX_ANSWER : ℕ := 5000

/-- Whether there is an answer to send. -/
def textError (text : Text) : Option String :=
  if utf16Length (trim text) = 0 then some "Write your answer."
  else if MAX_ANSWER < utf16Length text then some "Keep it under 5,000 characters."
  else none

/-- Whether the actions are shown: a connected wallet that is the session's, on a
chain with an escrow. -/
def WalletActionGate (sessionWallet : Text) (account : Account) : Bool :=
  match account.address with
  | none => false
  | some address =>
    canAskOn account.chainId && toLowerCase address = toLowerCase sessionWallet

/-- Membership in `BUSY_STEPS`: a run is under way. -/
def SettlePhase.busy : SettlePhase → Bool
  | .preparing | .confirming | .pending _ | .indexing _ _ => true
  | _ => false

/-- A button that is not disabled, and the run that it starts when it is confirmed. -/
def button (disabled : Bool) (kind : SettleKind) (input : SettleRunInput) :
    List (SettleKind × SettleRunInput) :=
  if disabled then [] else [(kind, input)]

/-- What the answerer of an open question is offered. -/
def AnswerPanel (question : Question) (text : Text) (answer decline : SettlePhase) :
    List (SettleKind × SettleRunInput) :=
  let busy := answer.busy || decline.busy
  match runInput question true, runInput question false with
  | some saving, some input =>
    button (busy || (textError text).isSome) .answer saving ++ button busy .decline input
  | _, _ => []

/-- What the asker of an open question is offered. -/
def AskerActions (question : Question) (nowMs : ℕ) (cancel reclaim : SettlePhase) :
    List (SettleKind × SettleRunInput) :=
  match runInput question false with
  | none => []
  | some input =>
    if askerActionFor question.status (wireDeadline question) nowMs = some .reclaim then
      button reclaim.busy .reclaim input
    else button cancel.busy .cancel input

/-- The settlements that `/questions/:id` offers in the phases of its hooks, with the
runs they start. -/
def QuestionDetail (sessionWallet : Text) (question : Question) (account : Account)
    (text : Text) (nowMs : ℕ) (phases : SettleKind → SettlePhase) :
    List (SettleKind × SettleRunInput) :=
  if question.status = .open ∧ WalletActionGate sessionWallet account = true then
    match roleFor sessionWallet question with
    | some .answerer => AnswerPanel question text (phases .answer) (phases .decline)
    | some .asker => AskerActions question nowMs (phases .cancel) (phases .reclaim)
    | none => []
  else []

@[simp]
theorem mem_button {disabled : Bool} {kind other : SettleKind}
    {input started : SettleRunInput} :
    (kind, input) ∈ button disabled other started ↔
      disabled = false ∧ kind = other ∧ input = started := by
  cases disabled <;> simp [button]

end BuyAnAnswer.Web
