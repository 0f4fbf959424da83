import CarsinOS.Lib.Sequence
import CarsinOS.Delegation.Claim

/-! The outbox as its consumers read it: the replay after a durable cursor and the commit of one
delivery. -/
namespace CarsinOS.Transport
open CarsinOS.Lib CarsinOS.Integrity
open CarsinOS.Delegation (NewOutboxEvent FenceCrates validateOutbox requireText)

structure OutboxConsumerIdentity where
  consumerId : Text
  principalId : Text
  clientIdDigest : Text
  deriving DecidableEq

structure OutboxEventRecord where
  globalSequence : Int
  event : NewOutboxEvent
  publishedAt : Option Int
  deriving DecidableEq

/-- A row of `execass_outbox_cursors`. -/
structure CursorRow where
  consumerId : Text
  principalId : Text
  clientIdDigest : Text
  lastGlobalSequence : Int
  cursorRevision : Int
  updatedAt : Int
  deriving DecidableEq

inductive OutboxGapReason where
  | staleCursor | futureCursor | cursorMismatch | consumerIdentityConflict | sequenceGap
  deriving DecidableEq

structure OutboxReplay where
  consumerCursor : Int
  headGlobalSequence : Int
  events : List OutboxEventRecord
  deriving DecidableEq

inductive OutboxReplayOutcome where
  | replay (replay : OutboxReplay)
  | summaryRefetchRequired (reason : OutboxGapReason)
      (consumerCursor requestedCursor headGlobalSequence : Int)
  deriving DecidableEq

structure OutboxDeliveryCommit where
  consumer : OutboxConsumerIdentity
  expectedCursor : Int
  globalSequence : Int
  publishedAt : Int
  deriving DecidableEq

inductive OutboxDeliveryCommitOutcome where
  | committed
  | alreadyCommitted
  | consumerAdvanced (consumerCursor : Int)
  deriving DecidableEq

structure Db where
  events : Table OutboxEventRecord.globalSequence
  cursors : Table CursorRow.consumerId

def Db.empty : Db := ⟨.empty, .empty⟩

def I64_MAX : Int := 2 ^ 63 - 1

/-- `outbox_head_sequence`. -/
def Db.outboxHeadSequence (db : Db) : Int := (db.events.rows.map (·.globalSequence)).max?.getD 0

/-- `execass_outbox_global_sequence_gap_free`, on the row that comes after. -/
def GapFree (rows : List OutboxEventRecord) (sequence : Int) : Prop :=
  sequence = ((rows.map (·.globalSequence)).filter (· < sequence)).max?.getD 0 + 1

instance (rows : List OutboxEventRecord) (sequence : Int) : Decidable (GapFree rows sequence) := by
  unfold GapFree
  infer_instance

/-- The insertion of an event, under the next number of the sequence. -/
def Db.insertOutbox (db : Db) (event : NewOutboxEvent) : Anyhow Db := do
  let sequence := db.outboxHeadSequence + 1
  ensure (sequence ≤ I64_MAX) "database or disk is full"
  ensure (0 < event.aggregateRevision) "CHECK constraint failed: aggregate_revision > 0"
  ensure (∀ other ∈ db.events.rows, other.event.eventId ≠ event.eventId ∧
      other.event.duplicateIdentity ≠ event.duplicateIdentity ∧
      (other.event.eventName, other.event.aggregateId, other.event.aggregateRevision,
        other.event.causationId) ≠
        (event.eventName, event.aggregateId, event.aggregateRevision, event.causationId))
    "UNIQUE constraint failed: execass_outbox_events"
  ensure (GapFree db.events.rows sequence) "ExecAss outbox global sequence must be gap-free"
  match db.events.insert? ⟨sequence, event, none⟩ with
  | some events => .ok { db with events }
  | none => bail "UNIQUE constraint failed: execass_outbox_events.global_sequence"

section Transport
variable (K : FenceCrates)

/-- `list_outbox_after`. -/
def Db.listOutboxAfter (db : Db) (sequence : Int) : Anyhow (List OutboxEventRecord) := do
  let rows := (db.events.rows.filter fun row => decide (sequence < row.globalSequence)).mergeSort
    fun first second => decide (first.globalSequence ≤ second.globalSequence)
  rows.mapM fun row => do
    validateOutbox K row.event
    .ok row

def validateConsumer (consumer : OutboxConsumerIdentity) : Anyhow Unit := do
  requireText "outbox.consumer_id" consumer.consumerId
  ensure (utf8Length consumer.consumerId ≤ 256)
    "outbox.consumer_id exceeds the bounded outbox transport identity length"
  requireText "outbox.principal_id" consumer.principalId
  ensure (utf8Length consumer.principalId ≤ 256)
    "outbox.principal_id exceeds the bounded outbox transport identity length"
  requireText "outbox.client_id_digest" consumer.clientIdDigest
  ensure (utf8Length consumer.clientIdDigest ≤ 256)
    "outbox.client_id_digest exceeds the bounded outbox transport identity length"

/-- Whether the events leave out a number after the expected one. -/
def leavesGap : Int → List OutboxEventRecord → Anyhow Bool
  | _, [] => .ok false
  | expected, event :: events => do
    ensure (expected + 1 ≤ I64_MAX) "ExecAss outbox sequence overflow"
    if event.globalSequence ≠ expected + 1 then .ok true else leavesGap (expected + 1) events

def IdentityConflict (consumer : OutboxConsumerIdentity) (row : CursorRow) : Prop :=
  row.principalId ≠ consumer.principalId ∨ row.clientIdDigest ≠ consumer.clientIdDigest

instance (consumer : OutboxConsumerIdentity) (row : CursorRow) :
    Decidable (IdentityConflict consumer row) := by
  unfold IdentityConflict
  infer_instance

def consumerCursor (stored : Option CursorRow) : Int :=
  (stored.map (·.lastGlobalSequence)).getD 0

/-- Why a requested cursor cannot be replayed from, if it cannot. -/
def cursorGap (consumer : OutboxConsumerIdentity) (requested head : Int)
    (stored : Option CursorRow) : Option OutboxGapReason :=
  if ∃ row ∈ stored, IdentityConflict consumer row then some .consumerIdentityConflict
  else if requested ≠ consumerCursor stored then
    some (if head < requested then .futureCursor
      else if requested < consumerCursor stored then .staleCursor else .cursorMismatch)
  else if head < requested then some .futureCursor
  else none

/-- The replay from what its three reads found, each of which sees the store as it is then. -/
def replayOutbox (consumer : OutboxConsumerIdentity) (requested head : Int)
    (stored : Option CursorRow) (listed : Anyhow (List OutboxEventRecord)) :
    Anyhow OutboxReplayOutcome := do
  validateConsumer consumer
  if requested < 0 then .ok (.summaryRefetchRequired .staleCursor 0 requested head)
  else match cursorGap consumer requested head stored with
    | some reason =>
      .ok (.summaryRefetchRequired reason (consumerCursor stored) requested head)
    | none => do
      let events ← listed
      let gap ← leavesGap requested events
      .ok (if gap then
          .summaryRefetchRequired .sequenceGap (consumerCursor stored) requested head
        else .replay ⟨consumerCursor stored, head, events⟩)

/-- The publication time of the event, unless it has one. -/
def Db.publish (db : Db) (sequence publishedAt : Int) : Nat × Db :=
  let here := fun row : OutboxEventRecord => decide (row.globalSequence = sequence)
  (db.events.matched here,
    { db with
      events := db.events.update here
        (fun row => { row with publishedAt := some (row.publishedAt.getD publishedAt) })
        fun _ => rfl })

/-- The first cursor of a consumer. -/
def Db.insertCursor (db : Db) (row : CursorRow) : Anyhow Db := do
  ensure (0 ≤ row.lastGlobalSequence) "CHECK constraint failed: last_global_sequence >= 0"
  ensure (∀ other ∈ db.cursors.rows, (other.principalId, other.clientIdDigest) ≠
      (row.principalId, row.clientIdDigest))
    "UNIQUE constraint failed: execass_outbox_cursors.principal_id, client_id_digest"
  match db.cursors.insert? row with
  | some cursors => .ok { db with cursors }
  | none => bail "UNIQUE constraint failed: execass_outbox_cursors.consumer_id"

/-- The advance of a cursor, under `execass_outbox_cursor_monotonic`. -/
def Db.advanceCursor (db : Db) (consumerId : Text) (sequence revision updatedAt : Int) :
    Anyhow Db := do
  ensure (∀ row ∈ db.cursors.rows, row.consumerId = consumerId →
      row.lastGlobalSequence ≤ sequence ∧ row.cursorRevision < revision)
    "ExecAss outbox cursor must advance monotonically"
  ensure (db.cursors.matched (fun row => decide (row.consumerId = consumerId)) = 1)
    "ExecAss outbox cursor update did not affect exactly one row"
  .ok { db with
    cursors := db.cursors.update (fun row => decide (row.consumerId = consumerId))
      (fun row => { row with
        lastGlobalSequence := sequence
        cursorRevision := revision
        updatedAt := updatedAt }) fun _ => rfl }

/-- The publication a delivery ends with. -/
def Db.finishDelivery (db : Db) (command : OutboxDeliveryCommit) :
    Anyhow (OutboxDeliveryCommitOutcome × Db) := do
  let (changed, db) := db.publish command.globalSequence command.publishedAt
  ensure (changed = 1) "ExecAss outbox event disappeared before delivery commit"
  .ok (.committed, db)

/-- The delivery to a consumer whose cursor is stored. -/
def Db.commitAfter (db : Db) (command : OutboxDeliveryCommit) (row : CursorRow) :
    Anyhow (OutboxDeliveryCommitOutcome × Db) := do
  ensure (¬IdentityConflict command.consumer row) "ExecAss outbox consumer identity conflict"
  if row.lastGlobalSequence = command.globalSequence then .ok (.alreadyCommitted, db)
  else if command.globalSequence < row.lastGlobalSequence then
    .ok (.consumerAdvanced row.lastGlobalSequence, db)
  else do
    ensure (row.lastGlobalSequence = command.expectedCursor)
      "ExecAss outbox cursor changed before delivery commit"
    ensure (row.cursorRevision + 1 ≤ I64_MAX) "ExecAss outbox cursor revision overflow"
    let db ← db.advanceCursor command.consumer.consumerId command.globalSequence
      (row.cursorRevision + 1) command.publishedAt
    db.finishDelivery command

/-- The first delivery to a consumer. -/
def Db.commitFirst (db : Db) (command : OutboxDeliveryCommit) :
    Anyhow (OutboxDeliveryCommitOutcome × Db) := do
  ensure (command.expectedCursor = 0)
    "ExecAss outbox consumer cursor disappeared before first delivery"
  let db ← db.insertCursor ⟨command.consumer.consumerId, command.consumer.principalId,
    command.consumer.clientIdDigest, command.globalSequence, 1, command.publishedAt⟩
  db.finishDelivery command

def commitOutboxDelivery (db : Db) (command : OutboxDeliveryCommit) :
    Anyhow (OutboxDeliveryCommitOutcome × Db) := do
  validateConsumer command.consumer
  ensure (0 ≤ command.expectedCursor ∧ 0 < command.globalSequence ∧ 0 < command.publishedAt ∧
      command.expectedCursor + 1 ≤ I64_MAX ∧
      command.globalSequence = command.expectedCursor + 1)
    "invalid ExecAss outbox delivery commit boundary"
  match db.cursors.find? command.consumer.consumerId with
  | some row => db.commitAfter command row
  | none => db.commitFirst command

end Transport

end CarsinOS.Transport
