import BuyAnAnswer.Api.Questions
import BuyAnAnswer.Contract.History
import BuyAnAnswer.Indexer.Reconcile

/-!
# The escrow, the API and the indexer together

The platform is an escrow session, the backend with its database and the number
of lifecycle events the indexer has applied.  Anybody calls the escrow, anybody
composes drafts through the API, and the indexer applies the next event; these
actions come in any order.
-/

namespace BuyAnAnswer.Platform

open Contract Shared Indexer Api BuyAnAnswer.Transaction

variable {oz : OpenZeppelin} {T : Type}

/-- The event as it reaches the reconcile core. -/
def escrowEvent (checksum : Address → Text) (place : Place)
    (event : Contract.Event) : Option EscrowEvent :=
  (rawLog checksum place event).bind normalizeLog

/-- The question id that a reference stands for, as the indexer decodes it. -/
def refUuid (ref : Bytes32) : Option Text :=
  tryRefToUuid (reqHex (wordText ref))

/-- The final status that a settle event announces. -/
def settledName : Status → SettledEventName
  | .answered => .questionAnswered
  | .declined => .questionDeclined
  | .cancelled => .questionCancelled
  | _ => .questionReclaimed

section Events

variable {checksum : Address → Text} {place : Place}

/-- What all events of a question share. -/
def baseEvent (place : Place) (id : Uint 256) (ref : Bytes32) :
    BaseEscrowEvent where
  ref := reqHex (wordText ref)
  onchainId := id
  blockNumber := place.blockNumber
  logIndex := place.logIndex
  txHash := place.txHash

theorem escrowEvent_asked (id : Uint 256) (ref : Bytes32)
    (asker answerer : Address) (amount : Uint 128) (deadline : Uint 64) :
    escrowEvent checksum place
        (.questionAsked id ref asker answerer amount deadline) =
      some (.asked { baseEvent place id ref with
        asker := reqHex (checksum asker), answerer := reqHex (checksum answerer)
        amount := amount, deadline := deadline }) := rfl

theorem escrowEvent_settleEvent {terminal : Status}
    (hsettled : terminal.settled = true) (id : Uint 256) (ref : Bytes32)
    (question : Contract.Question) :
    escrowEvent checksum place (settleEvent id ref question terminal) =
      some (.settled { baseEvent place id ref with
        name := settledName terminal }) := by
  cases terminal with
  | none | «open» => cases hsettled
  | answered | declined | cancelled | reclaimed => rfl

end Events

/-- The parts that do not change: the escrow's address, the indexer's
configuration and the spelling of addresses in decoded logs. -/
structure Deployment where
  escrow : Address
  config : IndexerConfig
  checksum : Address → Text

structure State (oz : OpenZeppelin) (T : Type) where
  session : Session oz T
  backend : Backend
  cursor : ℕ

inductive Action (T : Type) where
  | chain (input : HostileCall T)
  | request (request : QuestionRequest)
  | index (place : Place) (now : ℕ)

namespace State

def events (state : State oz T) : List Contract.Event :=
  state.session.world.questionLog

/-- The events the indexer has applied, and those it has not. -/
def applied (state : State oz T) : List Contract.Event :=
  state.events.take state.cursor

def unapplied (state : State oz T) : List Contract.Event :=
  state.events.drop state.cursor

def questions (state : State oz T) : List Shared.Question :=
  state.backend.database.questions

def creators (state : State oz T) : List Creator :=
  state.backend.database.creators

/-- Replace the database. -/
def withDatabase (state : State oz T) (database : Database) : State oz T :=
  { state with backend := { state.backend with database } }

/-- Apply the next event.  One that cannot be applied is tried again later. -/
def index (deployment : Deployment) (state : State oz T) (place : Place)
    (now : ℕ) : State oz T :=
  match state.unapplied.head?.bind (escrowEvent deployment.checksum place) with
  | none => state
  | some event =>
    match applyEvent deployment.config event now state.backend.database with
    | .ok _ database =>
      { state.withDatabase database with cursor := state.cursor + 1 }
    | .error _ database => state.withDatabase database

def step (deployment : Deployment) (state : State oz T) : Action T → State oz T
  | .chain input =>
    { state with session := state.session.step deployment.escrow input }
  | .request request =>
    { state with backend := finalState (request.postQuestions state.backend) }
  | .index place now => state.index deployment place now

def run (deployment : Deployment) (state : State oz T)
    (actions : List (Action T)) : State oz T :=
  Machine.run (step deployment) state actions

/-- A fresh escrow, creators and no questions. -/
def Initial (state : State oz T) : Prop :=
  (∃ args escrow token, construct oz args = .ok escrow ∧
    state.session = Session.fresh escrow token) ∧
  state.questions = [] ∧ state.cursor = 0

/-- States that a run from an initial one reaches if each of its steps meets the
condition. -/
def ReachableBy (deployment : Deployment)
    (condition : State oz T → Action T → Prop) (state : State oz T) : Prop :=
  ∃ start actions, Initial start ∧
    Machine.Meets (step deployment) condition start actions ∧
    state = start.run deployment actions

/-! ## What the actions do -/

section Steps

variable {deployment : Deployment} {state : State oz T} {event : Contract.Event}
variable {rest : List Contract.Event}

theorem applied_append_unapplied (state : State oz T) :
    state.applied ++ state.unapplied = state.events :=
  List.take_append_drop state.cursor state.events

/-- The next event moves from the unapplied to the applied events. -/
theorem take_cursor_succ (hnext : state.unapplied = event :: rest) :
    state.events.take (state.cursor + 1) = state.applied ++ [event] ∧
      state.events.drop (state.cursor + 1) = rest := by
  rw [unapplied] at hnext
  have hget : state.events[state.cursor]? = some event := by
    rw [← Nat.add_zero state.cursor, ← List.getElem?_drop, hnext]
    rfl
  constructor
  · rw [List.take_add_one, hget]
    rfl
  · rw [← List.tail_drop, hnext]
    rfl

/-- Indexing does nothing, or applies the next event by a guarded update of
`questions`. -/
theorem index_cases (deployment : Deployment) (state : State oz T)
    (place : Place) (now : ℕ) :
    state.index deployment place now = state ∨
      ∃ event rest indexed database, state.unapplied = event :: rest ∧
        escrowEvent deployment.checksum place event = some indexed ∧
        database.creators = state.creators ∧
        database.questions = Table.update (indexed.hits deployment.config)
          (indexed.set now) state.questions ∧
        state.index deployment place now =
          { state.withDatabase database with cursor := state.cursor + 1 } := by
  rw [index]
  cases hunapplied : state.unapplied with
  | nil => exact .inl rfl
  | cons event rest =>
      simp only [List.head?_cons, Option.bind_some]
      cases hindexed : escrowEvent deployment.checksum place event with
      | none => exact .inl rfl
      | some indexed =>
          simp only
          cases hrun : applyEvent deployment.config indexed now
            state.backend.database with
          | ok result database =>
              obtain ⟨hcreators, hquestions⟩ := applyEvent_eq_ok hrun
              exact .inr ⟨event, rest, indexed, database, rfl, hindexed,
                hcreators, hquestions, rfl⟩
          | error failure database =>
              left
              simp only
              rw [applyEvent_eq_error hrun]
              rfl

/-- What holds of the parts in every run. -/
structure Wired (state : State oz T) : Prop where
  recorded : state.session.Recorded
  cursor : state.cursor ≤ state.events.length

theorem Initial.wired (hinitial : Initial state) : Wired state := by
  obtain ⟨⟨args, escrow, token, hconstruct, hsession⟩, _, hcursor⟩ := hinitial
  constructor
  · rw [hsession]
    exact .fresh (construct_eq_ok hconstruct)
  · rw [hcursor]
    exact Nat.zero_le _

/-- A chain step appends what the call announces. -/
theorem chain_cases (hlock : oz.lock.Documented) (deployment : Deployment)
    (state : State oz T) (input : HostileCall T) :
    state.step deployment (.chain input) = state ∨
      ∃ result stop events,
        input.outcome deployment.escrow state.session.world =
          .ok result stop ∧
        Writes input.msg state.session.world.escrow stop.escrow input.request
          result events ∧
        (state.step deployment (.chain input)).events =
          state.events ++ events := by
  obtain hsame | ⟨result, stop, events, houtcome, hlog, hwrites, hstep⟩ :=
    state.session.step_cases deployment.escrow hlock input
  · left
    rw [step, hsame]
  · right
    refine ⟨result, stop, events, houtcome, hwrites, ?_⟩
    rw [step, State.events, hstep]
    exact hlog

theorem Wired.step (hlock : oz.lock.Documented) (hwired : Wired state)
    (action : Action T) : Wired (state.step deployment action) := by
  cases action with
  | chain input =>
      refine ⟨hwired.recorded.step hlock input, ?_⟩
      obtain hsame | ⟨_, _, events, _, _, hevents⟩ :=
        state.chain_cases hlock deployment input
      · rw [hsame]
        exact hwired.cursor
      · rw [hevents, List.length_append]
        exact Nat.le_add_right_of_le hwired.cursor
  | request request => exact ⟨hwired.recorded, hwired.cursor⟩
  | index place now =>
      rw [State.step]
      obtain hsame | ⟨event, rest, _, _, hnext, _, _, _, hindex⟩ :=
        state.index_cases deployment place now
      · rw [hsame]
        exact hwired
      · rw [hindex]
        refine ⟨hwired.recorded, ?_⟩
        have hlength := congrArg List.length hnext
        rw [unapplied, List.length_drop, List.length_cons] at hlength
        change state.cursor + 1 ≤ state.events.length
        omega

/-- Invariant rule: conditions are checked on the way, and the parts are wired
up throughout. -/
theorem reachableBy_invariant (hlock : oz.lock.Documented)
    {condition : State oz T → Action T → Prop}
    {Invariant : State oz T → Prop}
    (hinitial : ∀ {start}, Initial start → Invariant start)
    (hstep : ∀ {state action}, condition state action → Wired state →
      Invariant state → Invariant (state.step deployment action))
    (hreachable : state.ReachableBy deployment condition) :
    Wired state ∧ Invariant state := by
  obtain ⟨start, actions, hstart, hmeets, rfl⟩ := hreachable
  apply @Machine.run_invariant_of_meets _ _ _ _
    (fun state => Wired state ∧ Invariant state) _ _ hmeets
    ⟨hstart.wired, hinitial hstart⟩
  intro state action hcondition ⟨hwired, hinvariant⟩
  exact ⟨hwired.step hlock action, hstep hcondition hwired hinvariant⟩

/-- Chain steps do not disturb what has been applied. -/
theorem applied_chain (hlock : oz.lock.Documented) (hwired : Wired state)
    (input : HostileCall T) :
    (state.step deployment (.chain input)).applied = state.applied := by
  obtain hsame | ⟨_, _, events, _, _, hevents⟩ :=
    state.chain_cases hlock deployment input
  · rw [hsame]
  · rw [applied, hevents]
    exact List.take_append_of_le_length hwired.cursor

/-- Chain steps only add to what is still to be applied. -/
theorem Wired.drop_append (hwired : Wired state) (events : List Contract.Event) :
    (state.events ++ events).drop state.cursor = state.unapplied ++ events :=
  List.drop_append_of_le_length hwired.cursor

/-- The next event can follow the applied ones. -/
theorem Wired.next_follows (hwired : Wired state)
    (hnext : state.unapplied = event :: rest) :
    event.Follows (told state.applied) := by
  apply hwired.recorded.lawful
  refine ⟨rest, ?_⟩
  calc state.applied ++ [event] ++ rest = state.applied ++ event :: rest :=
        List.append_assoc _ _ _
    _ = state.applied ++ state.unapplied := by rw [hnext]
    _ = state.events := state.applied_append_unapplied

end Steps

end State

/-! ## A platform with one creator -/

namespace Sample

def uuid : Text := "36b8f84d-df4e-4d49-b662-bbfa1046a2b0".toList

def ref : Bytes32 := 0x36b8f84ddf4e4d49b662bbfa1046a2b0

example : refUuid ref = some uuid := by decide

/-- The answerer of the sample contract, for at least 1 USDC. -/
def creator : Creator where
  wallet := addressText Contract.Sample.answerer.1
  handle := "alice".toList
  displayName := "Alice".toList
  headline := none
  bio := none
  avatarUrl := none
  links := none
  minPriceUsdc := "1000000".toList
  createdAt := 0
  updatedAt := 0

def database : Database where
  creators := [creator]
  questions := []
  answers := []
  consistent := by decide

def deployment : Deployment where
  escrow := Contract.Sample.escrow
  config := { chainId := DEFAULT_CHAIN_ID }
  checksum := addressText

def start : State .plain Unit where
  session := Session.fresh Contract.Sample.storage ()
  backend := { database, records := fun _ => none }
  cursor := 0

theorem start_initial : start.Initial :=
  ⟨⟨Contract.Sample.args, _, _, Contract.Sample.construct_args, rfl⟩, rfl, rfl⟩

/-- The sample asker composes a question for the creator. -/
def request : QuestionRequest where
  asker := addressText Contract.Sample.asker.1
  idempotencyKey := none
  body := .object {
    handle := some (.string " Alice".toList)
    body := some (.string "Why?".toList)
    amountUsdc := some (.string "5000000".toList)
    chainId := none }
  uuid := uuid
  now := 1

def compose : Action Unit := .request request

/-- The minted row. -/
def draft : Shared.Question :=
  request.draft DEFAULT_CHAIN_ID creator "Why?".toList

/-- A call during which the token just returns. -/
def call (sender : Address) (timestamp : ℕ) (request : Call) : Action Unit :=
  .chain {
    sender, timestamp, request
    onPermit := .fail .tokenFailure
    onTransfer := .done () }

/-- The asker pays for the draft. -/
def pay : Action Unit :=
  call Contract.Sample.asker.1 10
    (.askQuestion ref Contract.Sample.answerer.1 5000000)

def index : Action Unit :=
  .index { blockNumber := 7, logIndex := 0, txHash := [] } 30

example : (start.run deployment [compose]).questions = [draft] := by decide

example : ((start.run deployment [compose, pay, index]).questions.map fun row =>
    (row.onchainId, row.status)) = [(some ['1'], .open)] := by decide

end Sample

end BuyAnAnswer.Platform
