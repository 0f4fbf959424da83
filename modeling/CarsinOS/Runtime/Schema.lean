import CarsinOS.Receipt.Append
import CarsinOS.Delegation.Rebuild

/-! The tables of the runtime host: the generations of hosts, their leases and their states, with
the statements and queries on them. Every row is of the one ownership scope. -/
namespace CarsinOS.Runtime
open CarsinOS.Lib CarsinOS.Integrity CarsinOS.Receipt
open CarsinOS.Delegation (NewOutboxEvent requireText)

inductive RuntimeActualState where
  | stopped | starting | runningAppBound | handoff | runningBackground | draining | faulted
  deriving DecidableEq

def RuntimeActualState.asStr : RuntimeActualState → String
  | .stopped => "stopped"
  | .starting => "starting"
  | .runningAppBound => "running_app_bound"
  | .handoff => "handoff"
  | .runningBackground => "running_background"
  | .draining => "draining"
  | .faulted => "faulted"

inductive RuntimeDesiredMode where
  | appBound | background
  deriving DecidableEq

def RuntimeDesiredMode.asStr : RuntimeDesiredMode → String
  | .appBound => "app_bound"
  | .background => "background"

inductive RuntimeHostTransition where
  | reachDesiredMode | beginHandoff | beginDrain | recordFault | completeStop
  deriving DecidableEq

/-- The name `Debug` gives it. -/
def RuntimeHostTransition.debug : RuntimeHostTransition → String
  | .reachDesiredMode => "ReachDesiredMode"
  | .beginHandoff => "BeginHandoff"
  | .beginDrain => "BeginDrain"
  | .recordFault => "RecordFault"
  | .completeStop => "CompleteStop"

inductive RuntimeHostTransitionReason where
  | desiredModeReached | desiredModeRequiresHandoff | orderlyShutdownRequested
  | hostFaultRecorded | orderlyShutdownCompleted
  deriving DecidableEq

structure RuntimeHostLeaseRecord where
  leaseId : Text
  stateRootGeneration : Int
  generation : Int
  hostInstanceId : Text
  fencingToken : Int
  acquiredAt : Int
  expiresAt : Int
  deriving DecidableEq

structure RuntimeHostTransitionOutcome where
  fromState : RuntimeActualState
  actualState : RuntimeActualState
  reason : RuntimeHostTransitionReason
  deriving DecidableEq

/-- The part of a confirmation authority a host is activated under. -/
structure ConfirmationAuthorityIdentity where
  canonicalRootIdentity : Text
  stateRootGeneration : Nat
  installationIdentity : Text
  osUserIdentityDigest : Text
  deriving DecidableEq

/-- A row of `execass_runtime_host_generations`. -/
structure GenerationRow where
  generation : Int
  stateRootGeneration : Int
  installationIdentity : Text
  osUserIdentityDigest : Text
  hostInstanceId : Text
  startedAt : Int
  endedAt : Option Int
  endReason : Option Text
  deriving DecidableEq

/-- A row of `execass_runtime_host_leases`. -/
structure LeaseRow where
  leaseId : Text
  generation : Int
  hostInstanceId : Text
  fencingToken : Int
  acquiredAt : Int
  expiresAt : Int
  releasedAt : Option Int
  deriving DecidableEq

/-- A row of `execass_runtime_host_states`. -/
structure StateRow where
  generation : Int
  hostInstanceId : Text
  fencingToken : Int
  stateRootGeneration : Int
  actualState : RuntimeActualState
  updatedAt : Int
  deriving DecidableEq

def StateRow.key (row : StateRow) : Int × Text × Int :=
  (row.generation, row.hostInstanceId, row.fencingToken)

inductive AttentionStatus where
  | actionable | resolved | superseded
  deriving DecidableEq

structure RuntimePausedAttentionRecord where
  attentionId : Text
  status : AttentionStatus
  reason : Text
  recommendation : Text
  /-- The items of the JSON array its column holds. -/
  alternatives : List Text
  requiredAssurance : Text
  runtimeHostGeneration : Int
  runtimeHostInstanceId : Text
  runtimeFencingToken : Int
  runtimeActualState : RuntimeActualState
  runtimeEndReason : Text
  activeWorkBindingDigest : Text
  outboxEventId : Text
  receiptId : Text
  createdAt : Int
  resolvedAt : Option Int
  deriving DecidableEq

structure ReceiptRuntimeBinding where
  hostGeneration : Int
  hostInstanceId : Text
  fencingToken : Int
  deriving DecidableEq

structure RuntimeReceiptCommand where
  receiptId : Text
  transactionId : Text
  stateRootGeneration : Int
  expectedGlobalCount : Int
  expectedGlobalHeadDigest : Option Text
  subjectGeneration : Int
  causationId : Text
  causationEventId : Text
  actorIdentity : Text
  authorityProvenanceId : Text
  runtime : ReceiptRuntimeBinding
  key : ReceiptKeyRef
  redactedSummary : Text
  occurredAt : Int
  deriving DecidableEq

/-- A row of `execass_receipts` of the kind `runtime_recovery`. -/
structure RuntimeReceiptRow where
  command : RuntimeReceiptCommand
  globalSequence : Int
  appendIdentity : Text
  globalParentReceiptId : Option Text
  sealed : SealedReceipt

/-- The singleton of `execass_receipt_journal_state`. -/
structure JournalState where
  receiptCount : Int
  receiptHeadDigest : Option Text
  latestReceiptId : Option Text
  deriving DecidableEq

structure Db where
  generations : Table GenerationRow.generation
  leases : Table LeaseRow.leaseId
  states : Table StateRow.key
  attentionItems : Table RuntimePausedAttentionRecord.attentionId
  outboxEvents : Table NewOutboxEvent.eventId
  receipts : Table fun row : RuntimeReceiptRow => row.command.receiptId
  journal : JournalState
  /-- The desired modes of the settings revisions, the newest last. -/
  settings : List RuntimeDesiredMode

def Db.empty : Db := ⟨.empty, .empty, .empty, .empty, .empty, .empty, ⟨0, none, none⟩, []⟩

def I64_MAX : Int := 2 ^ 63 - 1

/-! The statements. -/

/-- `COALESCE(MAX(column),0)+1`, read as an `i64`. -/
def nextNumber (column : List Int) : Anyhow Int := do
  let next := column.max?.getD 0 + 1
  ensure (next ≤ I64_MAX) "Invalid column type Real"
  .ok next

def Db.insertGeneration (db : Db) (row : GenerationRow) : Anyhow Db := do
  ensure (0 < row.stateRootGeneration) "CHECK constraint failed: state_root_generation > 0"
  ensure (∀ other ∈ db.generations.rows, other.hostInstanceId ≠ row.hostInstanceId)
    "UNIQUE constraint failed: execass_runtime_host_generations.host_instance_id"
  match db.generations.insert? row with
  | some generations => .ok { db with generations }
  | none => bail "UNIQUE constraint failed: execass_runtime_host_generations.generation"

def Db.insertLease (db : Db) (row : LeaseRow) : Anyhow Db := do
  ensure (0 < row.fencingToken) "CHECK constraint failed: fencing_token > 0"
  ensure (row.acquiredAt < row.expiresAt) "CHECK constraint failed: expires_at > acquired_at"
  ensure (∀ other ∈ db.leases.rows,
      (other.generation, other.fencingToken) ≠ (row.generation, row.fencingToken) ∧
        other.releasedAt ≠ none)
    "UNIQUE constraint failed: execass_runtime_host_leases"
  ensure (∃ g ∈ db.generations.rows, g.generation = row.generation ∧
      g.hostInstanceId = row.hostInstanceId) "FOREIGN KEY constraint failed"
  match db.leases.insert? row with
  | some leases => .ok { db with leases }
  | none => bail "UNIQUE constraint failed: execass_runtime_host_leases.lease_id"

/-- `INSERT OR IGNORE`, which passes over a row that a check or a key refuses. -/
def Db.insertOrIgnoreState (db : Db) (row : StateRow) : Anyhow Db :=
  if row.fencingToken ≤ 0 ∨ row.stateRootGeneration ≤ 0 ∨ row.updatedAt ≤ 0 then .ok db
  else match db.states.insert? row with
    | none => .ok db
    | some states => do
      ensure (∃ g ∈ db.generations.rows, g.generation = row.generation ∧
        g.hostInstanceId = row.hostInstanceId) "FOREIGN KEY constraint failed"
      .ok { db with states }

/-- The release of the live leases that meet a condition, with their number. -/
def Db.releaseLeases (db : Db) (p : LeaseRow → Bool) (now : Int) : Nat × Db :=
  let live := fun row : LeaseRow => p row && row.releasedAt.isNone
  (db.leases.matched live,
    { db with
      leases := db.leases.update live (fun row => { row with releasedAt := some now })
        fun _ => rfl })

/-- The end of the open generations that meet a condition, with their number. -/
def Db.endGenerations (db : Db) (p : GenerationRow → Bool) (now : Int) (reason : Text) :
    Nat × Db :=
  let open' := fun row : GenerationRow => p row && row.endedAt.isNone
  (db.generations.matched open',
    { db with
      generations := db.generations.update open'
        (fun row => { row with endedAt := some now, endReason := some reason }) fun _ => rfl })

def Db.updateStates (db : Db) (p : StateRow → Bool) (actualState : RuntimeActualState)
    (now : Int) : Nat × Db :=
  (db.states.matched p,
    { db with
      states := db.states.update p
        (fun row => { row with actualState := actualState, updatedAt := now }) fun _ => rfl })

def Db.insertOutbox (db : Db) (event : NewOutboxEvent) : Anyhow Db := do
  ensure (0 < event.aggregateRevision) "CHECK constraint failed: aggregate_revision > 0"
  ensure (∀ other ∈ db.outboxEvents.rows, other.duplicateIdentity ≠ event.duplicateIdentity ∧
      (other.eventName, other.aggregateId, other.aggregateRevision, other.causationId) ≠
        (event.eventName, event.aggregateId, event.aggregateRevision, event.causationId))
    "UNIQUE constraint failed: execass_outbox_events"
  match db.outboxEvents.insert? event with
  | some outboxEvents => .ok { db with outboxEvents }
  | none => bail "UNIQUE constraint failed: execass_outbox_events.event_id"

def isActiveWorkDigest (digest : Text) : Bool :=
  digest.take 7 = "sha256:".toList && utf8Length digest = 71 &&
    (digest.drop 7).all fun c => c.isDigit || ('a' ≤ c && c ≤ 'f')

/-- `insert_runtime_paused_attention_in_tx`. -/
def Db.insertRuntimePausedAttention (db : Db) (item : RuntimePausedAttentionRecord) :
    Anyhow Db := do
  requireText "runtime attention_id" item.attentionId
  requireText "runtime attention host_instance_id" item.runtimeHostInstanceId
  requireText "runtime attention reason" item.reason
  requireText "runtime attention recommendation" item.recommendation
  requireText "runtime attention required_assurance" item.requiredAssurance
  requireText "runtime attention end_reason" item.runtimeEndReason
  requireText "runtime attention outbox_event_id" item.outboxEventId
  requireText "runtime attention receipt_id" item.receiptId
  ensure (item.status = .actionable ∧ item.resolvedAt = none ∧ 0 < item.runtimeHostGeneration ∧
      0 < item.runtimeFencingToken ∧ 0 < item.createdAt ∧ item.runtimeActualState ≠ .stopped ∧
      isActiveWorkDigest item.activeWorkBindingDigest = true)
    "runtime-paused attention is not a closed canonical item"
  ensure (∀ other ∈ db.attentionItems.rows,
      other.runtimeHostGeneration ≠ item.runtimeHostGeneration)
    "ExecAss runtime generation already has canonical attention"
  ensure (∃ event ∈ db.outboxEvents.rows, event.eventId = item.outboxEventId)
    "FOREIGN KEY constraint failed"
  ensure (∃ g ∈ db.generations.rows, g.generation = item.runtimeHostGeneration ∧
      g.hostInstanceId = item.runtimeHostInstanceId) "FOREIGN KEY constraint failed"
  match db.attentionItems.insert? item with
  | some attentionItems => .ok { db with attentionItems }
  | none => bail "UNIQUE constraint failed: execass_attention_items.attention_id"

/-! The queries. -/

/-- The live lease, with the identities its generation was activated under. -/
def Db.currentActivation (db : Db) : Option (RuntimeHostLeaseRecord × Text × Text) :=
  db.leases.rows.findSome? fun l =>
    if l.releasedAt.isNone then
      (db.generations.rows.find? fun g => decide (g.generation = l.generation) &&
          decide (g.hostInstanceId = l.hostInstanceId) && g.endedAt.isNone).map fun g =>
        (⟨l.leaseId, g.stateRootGeneration, l.generation, l.hostInstanceId, l.fencingToken,
          l.acquiredAt, l.expiresAt⟩, g.installationIdentity, g.osUserIdentityDigest)
    else none

/-- Whether a state row is that of a host. -/
def IsStateOf (host : RuntimeHostLeaseRecord) (row : StateRow) : Bool :=
  decide (row.key = (host.generation, host.hostInstanceId, host.fencingToken)) &&
    decide (row.stateRootGeneration = host.stateRootGeneration)

def Db.loadRuntimeHostState (db : Db) (host : RuntimeHostLeaseRecord) : Option StateRow :=
  db.states.rows.find? (IsStateOf host)

def Db.loadDesiredMode (db : Db) : Option RuntimeDesiredMode := db.settings.getLast?

def Db.requireCurrentRuntimeHost (db : Db) (host : RuntimeHostLeaseRecord) (now : Int) :
    Anyhow Unit :=
  ensure (∃ l ∈ db.leases.rows, ∃ g ∈ db.generations.rows, g.generation = l.generation ∧
      g.hostInstanceId = l.hostInstanceId ∧ l.leaseId = host.leaseId ∧
      l.generation = host.generation ∧ l.hostInstanceId = host.hostInstanceId ∧
      l.fencingToken = host.fencingToken ∧ l.acquiredAt = host.acquiredAt ∧
      l.expiresAt = host.expiresAt ∧ g.stateRootGeneration = host.stateRootGeneration ∧
      l.releasedAt = none ∧ g.endedAt = none ∧ now < l.expiresAt)
    "runtime host transition is fenced to a different current generation"

end CarsinOS.Runtime
