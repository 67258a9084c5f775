import BuyAnAnswer.Core.Pool
import BuyAnAnswer.Workers.Statements
import BuyAnAnswer.WorkerKit.Idempotency

/-!
# What the workers share

The workers share the database, the indexer's cursors and the key-value store,
and they see each chain through a node that may lag behind.  The journal keeps
what the indexer read from the chains and what it wrote to its audit trail.
-/

namespace BuyAnAnswer.Workers

open Text Shared Indexer WorkerKit BuyAnAnswer.Transaction

/-- Ascending block number, then log index. -/
def byBlockThenLog (left right : EscrowEvent) : ℤ :=
  if left.base.blockNumber ≠ right.base.blockNumber then
    if left.base.blockNumber < right.base.blockNumber then -1 else 1
  else (left.base.logIndex : ℤ) - right.base.logIndex

/-- The escrow of a chain with all events it ever emits, in the order of the
chain. -/
structure Escrow where
  contractAddress : Text
  /-- Where the indexer starts when it has no cursor. -/
  startBlock : ℕ
  events : List EscrowEvent
  ordered : events.Pairwise fun left right => byBlockThenLog left right < 0

/-- The escrow of each chain. -/
abbrev Network := ℕ → Escrow

/-- The events of a chain in the blocks `fromBlock` to `toBlock`. -/
def Escrow.logs (escrow : Escrow) (fromBlock toBlock : ℕ) : List EscrowEvent :=
  escrow.events.filter fun event =>
    fromBlock ≤ event.base.blockNumber && event.base.blockNumber ≤ toBlock

/-- What was read from the chains and written to the audit trail, by chain. -/
structure Journal where
  heads : List (ℕ × ℕ)
  scans : List (ℕ × ℕ)
  audits : List (ℕ × AuditFields)
  deriving DecidableEq, Repr

structure Cloud where
  database : Database
  cursors : ℕ → Text → Option ℕ
  records : Kv Text
  counters : Kv ℕ
  /-- The last mined block of each chain. -/
  height : ℕ → ℕ
  journal : Journal

inductive Operation where
  | database (statement : Statement)
  | loadCursor (chainId : ℕ) (contractAddress : Text)
  | saveCursor (chainId : ℕ) (contractAddress : Text) (lastBlock : ℕ)
  | getRecord (key : Text) (now : ℕ)
  | putRecord (key : Text) (now : ℕ) (value : Text) (expirationTtl : ℕ)
  | getCounter (key : Text) (now : ℕ)
  | putCounter (key : Text) (now count expirationTtl : ℕ)
  | putAvatar (key : Text)
  | getFinalizedHead (chainId confirmations : ℕ)
  | getLogs (chainId fromBlock toBlock : ℕ)
  | audit (chainId : ℕ) (fields : AuditFields)

@[reducible]
def Operation.Reply : Operation → Type
  | .database statement => Except SqlError statement.Reply
  | .loadCursor _ _ => Option ℕ
  | .getRecord _ _ => Option (Option Text)
  | .getCounter _ _ => Option (Option ℕ)
  | .getFinalizedHead _ _ => ℕ
  | .getLogs _ _ _ => List EscrowEvent
  | _ => Unit

/-- The interface of the workers' code. -/
abbrev workers : Interface where
  Operation := Operation
  Reply := Operation.Reply

/-- What a node tells a pass: the last block it has seen, and the decoded logs
of a range. -/
structure NodeAnswer where
  latest : ℕ := 0
  logs : List EscrowEvent := []

namespace Cloud

def execute (cloud : Cloud) (statement : Statement) :
    Except SqlError statement.Reply × Cloud :=
  match statement.query cloud.database with
  | .ok value database => (.ok value, { cloud with database })
  | .error failure database => (.error failure, { cloud with database })

/-- Keep the larger of the stored and the new block. -/
def saveCursor (cloud : Cloud) (chainId : ℕ) (contractAddress : Text)
    (lastBlock : ℕ) : Cloud :=
  { cloud with
    cursors := Function.update cloud.cursors chainId
      (Function.update (cloud.cursors chainId) contractAddress
        (some (((cloud.cursors chainId contractAddress).map
          (max · lastBlock)).getD lastBlock))) }

def audit (cloud : Cloud) (chainId : ℕ) (fields : AuditFields) : Cloud :=
  { cloud with
    journal := { cloud.journal with
      audits := cloud.journal.audits ++ [(chainId, fields)] } }

/-- Perform an operation for a worker that reads no chain. -/
def serve (cloud : Cloud) : (operation : Operation) → operation.Reply × Cloud
  | .database statement => cloud.execute statement
  | .loadCursor chainId contractAddress =>
    (cloud.cursors chainId contractAddress, cloud)
  | .saveCursor chainId contractAddress lastBlock =>
    ((), cloud.saveCursor chainId contractAddress lastBlock)
  | .getRecord key now => (cloud.records.get now key, cloud)
  | .putRecord key now value expirationTtl =>
    ((), { cloud with
      records := cloud.records.put now key value expirationTtl })
  | .getCounter key now => (cloud.counters.get now key, cloud)
  | .putCounter key now count expirationTtl =>
    ((), { cloud with
      counters := cloud.counters.put now key count expirationTtl })
  | .putAvatar _ => ((), cloud)
  | .getFinalizedHead _ _ => (0, cloud)
  | .getLogs _ _ _ => ([], cloud)
  | .audit chainId fields => ((), cloud.audit chainId fields)

/-- A node reports a block that has been mined. -/
def getFinalizedHead (cloud : Cloud) (chainId confirmations : ℕ)
    (node : NodeAnswer) : Option (ℕ × Cloud) :=
  if node.latest ≤ cloud.height chainId then
    some (node.latest - confirmations, { cloud with
      journal := { cloud.journal with
        heads := cloud.journal.heads ++
          [(chainId, node.latest - confirmations)] } })
  else none

/-- A node returns all logs of the range, in any order and any number of
times. -/
def getLogs (network : Network) (cloud : Cloud) (chainId fromBlock toBlock : ℕ)
    (node : NodeAnswer) : Option (List EscrowEvent × Cloud) :=
  if node.logs ⊆ (network chainId).logs fromBlock toBlock ∧
      (network chainId).logs fromBlock toBlock ⊆ node.logs then
    some (node.logs, { cloud with
      journal := { cloud.journal with
        scans := cloud.journal.scans ++ [(chainId, toBlock)] } })
  else none

def exec (network : Network) :
    (operation : Operation) → NodeAnswer → Cloud →
      Option (operation.Reply × Cloud)
  | .getFinalizedHead chainId confirmations, node, cloud =>
    cloud.getFinalizedHead chainId confirmations node
  | .getLogs chainId fromBlock toBlock, node, cloud =>
    cloud.getLogs network chainId fromBlock toBlock node
  | operation, _, cloud => some (cloud.serve operation)

end Cloud

/-- Wait for one operation. -/
def call {Failure : Type} (operation : Operation) :
    Program workers Failure operation.Reply :=
  .await operation .ret

@[simp]
theorem call_bind {Failure A : Type} (operation : Operation)
    (next : operation.Reply → Program workers Failure A) :
    call operation >>= next = .await operation next := rfl

/-- Run one statement; a failed one ends the program. -/
def sql {Failure : Type} (failed : SqlError → Failure) (statement : Statement) :
    Program workers Failure statement.Reply :=
  .await (.database statement) fun
    | .ok value => .ret value
    | .error failure => .fail (failed failure)

/-- A statement that goes through, in code that runs alone. -/
theorem run_sql {Failure A : Type} {failed : SqlError → Failure} {statement : Statement}
    {next : statement.Reply → Program workers Failure A} {value : statement.Reply}
    {before after : Cloud} (hexecute : before.execute statement = (.ok value, after)) :
    (sql failed statement >>= next).run (fun operation cloud => cloud.serve operation)
        before =
      (next value).run (fun operation cloud => cloud.serve operation) after := by
  rw [sql, Program.await_bind, Program.run_await]
  change Program.run _ ((match (before.execute statement).1 with
    | .ok value => .ret value
    | .error failure => .fail (failed failure) : Program workers Failure _) >>= next)
    (before.execute statement).2 = _
  rw [hexecute]
  rfl

section Uses

variable {Failure : Type} {Permitted : Operation → Prop}

theorem uses_call {operation : Operation} (hpermitted : Permitted operation) :
    (call operation : Program workers Failure _).Uses Permitted :=
  ⟨hpermitted, fun _ => trivial⟩

theorem uses_sql {failed : SqlError → Failure} {statement : Statement}
    (hpermitted : Permitted (.database statement)) :
    (sql failed statement).Uses Permitted := by
  refine ⟨hpermitted, ?_⟩
  intro reply
  cases reply <;> exact trivial

end Uses

end BuyAnAnswer.Workers
