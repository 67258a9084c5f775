import BuyAnAnswer.Contract.Types
import BuyAnAnswer.Shared.Ref
import BuyAnAnswer.Shared.Schema

/-!
# Escrow events as the indexer sees them

A lifecycle event of the contract reaches the indexer as a decoded log with
optional fields.  Normalising it gives one of the five events the reconcile
core consumes, or nothing for a log that is still pending.
-/

namespace BuyAnAnswer.Indexer

open Text Shared

-- the results of applying an event are `0` and `1`
instance resultCount : NeZero (2 : ℕ) := inferInstance

/-- Names of the settle events. -/
inductive SettledEventName where
  | questionAnswered
  | questionDeclined
  | questionCancelled
  | questionReclaimed
  deriving DecidableEq, Repr

inductive IndexedEventName where
  | questionAsked
  | settled (name : SettledEventName)
  deriving DecidableEq, Repr

def EVENT_TO_STATUS_INDEX : IndexedEventName → ℕ
  | .questionAsked => 1
  | .settled .questionAnswered => 2
  | .settled .questionDeclined => 3
  | .settled .questionCancelled => 4
  | .settled .questionReclaimed => 5

theorem statusForEvent_isSome (name : IndexedEventName) :
    (CONTRACT_STATUS_TO_QUESTION_STATUS[EVENT_TO_STATUS_INDEX name]?).join.isSome
      = true := by
  cases name with
  | questionAsked => rfl
  | settled name => cases name <;> rfl

/-- The off-chain status an event leads to.  The source's defensive `throw` is
the proof that the table has an entry. -/
def statusForEvent (name : IndexedEventName) : QuestionStatus :=
  (CONTRACT_STATUS_TO_QUESTION_STATUS[EVENT_TO_STATUS_INDEX name]?).join.get
    (statusForEvent_isSome name)

theorem statusForEvent_settled_isTerminal (name : SettledEventName) :
    (statusForEvent (.settled name)).isTerminal = true := by
  cases name <;> rfl

theorem statusForEvent_settled_rank (name : SettledEventName) :
    (statusForEvent (.settled name)).rank = 2 := by
  cases name <;> rfl

structure BaseEscrowEvent where
  ref : Text
  onchainId : ℕ
  blockNumber : ℕ
  logIndex : ℕ
  txHash : Text
  deriving DecidableEq, Repr

structure QuestionAskedEvent extends BaseEscrowEvent where
  asker : Text
  answerer : Text
  amount : ℕ
  deadline : ℕ
  deriving DecidableEq, Repr

structure QuestionSettledEvent extends BaseEscrowEvent where
  name : SettledEventName
  deriving DecidableEq, Repr

inductive EscrowEvent where
  | asked (event : QuestionAskedEvent)
  | settled (event : QuestionSettledEvent)
  deriving DecidableEq, Repr

def EscrowEvent.base : EscrowEvent → BaseEscrowEvent
  | .asked event => event.toBaseEscrowEvent
  | .settled event => event.toBaseEscrowEvent

def EscrowEvent.name : EscrowEvent → IndexedEventName
  | .asked _ => .questionAsked
  | .settled event => .settled event.name

/-- The arguments of a decoded log. -/
structure RawArgs where
  ref : Option Text
  id : Option ℕ
  asker : Option Text := none
  answerer : Option Text := none
  amount : Option ℕ := none
  deadline : Option ℕ := none
  deriving DecidableEq, Repr

structure RawEscrowLog where
  eventName : Option IndexedEventName
  args : RawArgs
  blockNumber : Option ℕ
  logIndex : Option ℕ
  transactionHash : Option Text
  deriving DecidableEq, Repr

def reqHex (text : Text) : Text := toLowerCase text

def normalizeLog (raw : RawEscrowLog) : Option EscrowEvent := do
  let name ← raw.eventName
  let blockNumber ← raw.blockNumber
  let logIndex ← raw.logIndex
  let transactionHash ← raw.transactionHash
  let ref ← raw.args.ref
  let id ← raw.args.id
  let base : BaseEscrowEvent := {
    ref := reqHex ref
    onchainId := id
    blockNumber := blockNumber
    logIndex := logIndex
    txHash := transactionHash }
  match name with
  | .questionAsked =>
    let asker ← raw.args.asker
    let answerer ← raw.args.answerer
    let amount ← raw.args.amount
    let deadline ← raw.args.deadline
    return .asked { base with
      asker := reqHex asker, answerer := reqHex answerer, amount, deadline }
  | .settled name => return .settled { base with name }

/-! ## Logs of the contract -/

/-- Where a mined log lives. -/
structure Place where
  blockNumber : ℕ
  logIndex : ℕ
  txHash : Text
  deriving DecidableEq, Repr

/-- An address in lowercase hexadecimal. -/
def addressText (account : Contract.Address) : Text :=
  ['0', 'x'] ++ hexadecimal 40 account

/-- A word in lowercase hexadecimal. -/
def wordText (word : Contract.Bytes32) : Text :=
  ['0', 'x'] ++ hexadecimal 64 word

/-- The mined log of a contract event as the client library decodes it; logs of
events other than the five indexed ones are not asked for.  `checksum` is its
mixed-case spelling of addresses. -/
def rawLog (checksum : Contract.Address → Text) (place : Place) :
    Contract.Event → Option RawEscrowLog
  | .questionAsked id ref asker answerer amount deadline =>
    some (mined .questionAsked {
      ref := wordText ref, id := id.val, asker := checksum asker
      answerer := checksum answerer, amount := amount.val
      deadline := deadline.val })
  | .questionAnswered id ref _ =>
    some (mined (.settled .questionAnswered) { ref := wordText ref, id := id.val })
  | .questionDeclined id ref =>
    some (mined (.settled .questionDeclined) { ref := wordText ref, id := id.val })
  | .questionCancelled id ref =>
    some (mined (.settled .questionCancelled) { ref := wordText ref, id := id.val })
  | .questionReclaimed id ref =>
    some (mined (.settled .questionReclaimed) { ref := wordText ref, id := id.val })
  | _ => none
where
  mined (name : IndexedEventName) (args : RawArgs) : RawEscrowLog :=
    { eventName := name, args, blockNumber := place.blockNumber
      logIndex := place.logIndex, transactionHash := place.txHash }

end BuyAnAnswer.Indexer
