import CarsinOS.Runtime.Schema

/-! The activation of the runtime host, its transitions, and the calls any host may make. -/
namespace CarsinOS.Runtime
open CarsinOS.Lib CarsinOS.Integrity CarsinOS.Receipt
open CarsinOS.Delegation (NewOutboxEvent requireText)

/-! The transitions. -/

def resolveTransition (current : RuntimeActualState) (desired : RuntimeDesiredMode)
    (transition : RuntimeHostTransition) :
    Anyhow (RuntimeActualState × RuntimeHostTransitionReason) :=
  let runningDesired := match desired with
    | .appBound => RuntimeActualState.runningAppBound
    | .background => .runningBackground
  match transition, current, desired with
  | .reachDesiredMode, .starting, _ | .reachDesiredMode, .handoff, _ =>
    .ok (runningDesired, .desiredModeReached)
  | .beginHandoff, .runningAppBound, .background | .beginHandoff, .runningBackground, .appBound =>
    .ok (.handoff, .desiredModeRequiresHandoff)
  | .beginDrain, .starting, _ | .beginDrain, .runningAppBound, _ | .beginDrain, .handoff, _
  | .beginDrain, .runningBackground, _ => .ok (.draining, .orderlyShutdownRequested)
  | .recordFault, .starting, _ | .recordFault, .runningAppBound, _ | .recordFault, .handoff, _
  | .recordFault, .runningBackground, _ | .recordFault, .draining, _ =>
    .ok (.faulted, .hostFaultRecorded)
  | .completeStop, .draining, _ => .ok (.stopped, .orderlyShutdownCompleted)
  | _, _, _ => bail ("runtime host transition " ++ transition.debug ++ " is forbidden from " ++
      current.asStr ++ " for desired mode " ++ desired.asStr)

/-- The stop of the host's lease and generation, once its state is `stopped`. -/
def Db.completeStop (db : Db) (host : RuntimeHostLeaseRecord) (now : Int) : Anyhow Db := do
  let (released, db) := db.releaseLeases (fun l => decide (l.leaseId = host.leaseId) &&
    decide (l.generation = host.generation) && decide (l.hostInstanceId = host.hostInstanceId) &&
    decide (l.fencingToken = host.fencingToken)) now
  let (ended, db) := db.endGenerations (fun g => decide (g.generation = host.generation) &&
    decide (g.hostInstanceId = host.hostInstanceId)) now "host_state_stopped".toList
  ensure (released = 1 ∧ ended = 1) "runtime host lost its generation fence while stopping"
  .ok db

def Db.finishTransition (db : Db) (host : RuntimeHostLeaseRecord) (next : RuntimeActualState)
    (now : Int) : Anyhow Db :=
  if next = .stopped then db.completeStop host now else .ok db

def transitionRuntimeHost (db : Db) (host : RuntimeHostLeaseRecord)
    (transition : RuntimeHostTransition) (now : Int) :
    Anyhow (RuntimeHostTransitionOutcome × Db) := do
  ensure (0 < now) "runtime host transition requires a positive trusted clock"
  db.requireCurrentRuntimeHost host now
  let current ← required "current runtime host state is missing" (db.loadRuntimeHostState host)
  let desired := db.loadDesiredMode.getD .appBound
  let (next, reason) ← resolveTransition current.actualState desired transition
  ensure (current.updatedAt ≤ now) "runtime host transition clock moved backwards"
  let (updated, db) := db.updateStates
    (fun row => IsStateOf host row && decide (row.updatedAt ≤ now)) next now
  ensure (updated = 1) "runtime host state write did not match the exact current generation"
  let db ← db.finishTransition host next now
  .ok (⟨current.actualState, next, reason⟩, db)

/-! The activations. -/

section Activation
variable (C : Crates)

/-- `i64::to_le_bytes`. -/
def i64LeBytes (value : Int) : List UInt8 := (i64Bytes value).reverse

def runtimeLeaseId (hostInstanceId : Text) (generation fencingToken : Int) : Text :=
  "runtime-lease-".toList ++
    (C.sha256 (utf8Bytes "carsinos.execass.runtime_host_lease.v1".toList ++ [0] ++
      utf8Bytes hostInstanceId ++ [0] ++ i64LeBytes generation ++ i64LeBytes fencingToken)).val

def runtimeIncidentIdentity (predecessor : RuntimeHostLeaseRecord) : Text :=
  (C.sha256 (utf8Bytes "carsinos.execass.runtime_recovery_incident.v1".toList ++ [0] ++
    i64LeBytes predecessor.generation ++ utf8Bytes predecessor.hostInstanceId ++ [0] ++
    i64LeBytes predecessor.fencingToken)).val

/-- `ensure_runtime_host_state`. -/
def Db.ensureRuntimeHostState (db : Db) (host : RuntimeHostLeaseRecord)
    (actualState : RuntimeActualState) (now : Int) : Anyhow Db :=
  db.insertOrIgnoreState ⟨host.generation, host.hostInstanceId, host.fencingToken,
    host.stateRootGeneration, actualState, now⟩

/-- The repeated activation of the live host. -/
def Db.replayActivation (db : Db) (authority : ConfirmationAuthorityIdentity)
    (current : RuntimeHostLeaseRecord × Text × Text) (now : Int) :
    Anyhow (RuntimeHostLeaseRecord × Db) := do
  let (record, installationIdentity, osUserIdentityDigest) := current
  ensure (record.stateRootGeneration = authority.stateRootGeneration ∧
      installationIdentity = authority.installationIdentity ∧
      osUserIdentityDigest = authority.osUserIdentityDigest ∧ now < record.expiresAt)
    "current runtime host activation conflicts with its authority identity"
  let db ← db.ensureRuntimeHostState record .starting now
  .ok (record, db)

/-- The rows of a new generation. -/
def Db.startGeneration (db : Db) (authority : ConfirmationAuthorityIdentity)
    (hostInstanceId : Text) (now : Int) : Anyhow (RuntimeHostLeaseRecord × Db) := do
  let generation ← nextNumber (db.generations.rows.map (·.generation))
  let fencingToken ← nextNumber (db.leases.rows.map (·.fencingToken))
  let leaseId := runtimeLeaseId C hostInstanceId generation fencingToken
  let db ← db.insertGeneration ⟨generation, authority.stateRootGeneration,
    authority.installationIdentity, authority.osUserIdentityDigest, hostInstanceId, now, none,
    none⟩
  let db ← db.insertLease ⟨leaseId, generation, hostInstanceId, fencingToken, now, I64_MAX, none⟩
  let record : RuntimeHostLeaseRecord := ⟨leaseId, authority.stateRootGeneration, generation,
    hostInstanceId, fencingToken, now, I64_MAX⟩
  let db ← db.ensureRuntimeHostState record .starting now
  .ok (record, db)

/-- The checks both activations make before they read the store. -/
def validateActivation (rootIdentity : Text) (authority : ConfirmationAuthorityIdentity)
    (hostInstanceId : Text) (now : Int) : Anyhow Unit := do
  requireText "host_instance_id" hostInstanceId
  ensure (0 < now) "runtime host activation requires a positive trusted clock"
  ensure (authority.canonicalRootIdentity = rootIdentity)
    "runtime host authority belongs to a different state root"
  ensure ((authority.stateRootGeneration : Int) ≤ I64_MAX)
    "runtime host state-root generation exceeds storage range"

/-- The release of the live lease, whatever the state of its host. -/
def Db.releasePredecessor (db : Db) (record : RuntimeHostLeaseRecord) (now : Int) : Db :=
  let (_, db) := db.releaseLeases (fun l => decide (l.leaseId = record.leaseId)) now
  (db.endGenerations (fun g => decide (g.generation = record.generation)) now
    "gateway_lock_takeover".toList).2

def activateRuntimeHost (rootIdentity : Text) (db : Db)
    (authority : ConfirmationAuthorityIdentity) (hostInstanceId : Text) (now : Int) :
    Anyhow (RuntimeHostLeaseRecord × Db) := do
  validateActivation rootIdentity authority hostInstanceId now
  match db.currentActivation with
  | none => db.startGeneration C authority hostInstanceId now
  | some current =>
    if current.1.hostInstanceId = hostInstanceId then db.replayActivation authority current now
    else (db.releasePredecessor current.1 now).startGeneration C authority hostInstanceId now

/-- What the activation with recovery takes from outside these tables: the receipt keys, the
redactor, the append guards, the active work and the anchor of the journal. -/
structure Custody where
  redaction : RedactionCrates
  currentAppendKey : Anyhow (Option ReceiptKeyRef)
  actorIdentity : Anyhow Text
  receiptSummary : Anyhow Text
  appendAvailable : Anyhow Unit
  activeWork : Anyhow (Int × Text)
  sealReceipt : RuntimeReceiptCommand → Int → Anyhow SealedReceipt
  finalizeAnchor : Text → Anyhow Unit

/-- The end reason of an interrupted generation. -/
def interruptionEndReason : RuntimeActualState → Anyhow Text
  | .faulted => .ok "gateway_fault_takeover".toList
  | .draining => .ok "gateway_drain_interrupted_takeover".toList
  | .stopped => bail "a stopped predecessor cannot retain a live runtime lease"
  | _ => .ok "gateway_forced_exit_takeover".toList

/-- The fault of a predecessor that had not recorded one. -/
def Db.faultPredecessor (db : Db) (predecessor : RuntimeHostLeaseRecord)
    (actualState : RuntimeActualState) (now : Int) : Anyhow Db :=
  if actualState = .faulted then .ok db
  else do
    let (changed, db) := db.updateStates (fun row =>
      decide (row.key =
        (predecessor.generation, predecessor.hostInstanceId, predecessor.fencingToken)) &&
      decide (row.actualState = actualState) && decide (row.updatedAt ≤ now)) .faulted now
    ensure (changed = 1) "predecessor runtime state changed during fenced takeover"
    .ok db

/-- The interruption of a live predecessor, with its end reason. -/
def Db.interruptPredecessor (db : Db) (predecessor : RuntimeHostLeaseRecord)
    (actualState : RuntimeActualState) (now : Int) : Anyhow (Text × Db) := do
  let endReason ← interruptionEndReason actualState
  let db ← db.faultPredecessor predecessor actualState now
  let (released, db) := db.releaseLeases (fun l => decide (l.leaseId = predecessor.leaseId) &&
    decide (l.generation = predecessor.generation) &&
    decide (l.hostInstanceId = predecessor.hostInstanceId) &&
    decide (l.fencingToken = predecessor.fencingToken)) now
  let (ended, db) := db.endGenerations (fun g =>
    decide (g.generation = predecessor.generation) &&
    decide (g.hostInstanceId = predecessor.hostInstanceId)) now endReason
  ensure (released = 1 ∧ ended = 1) "predecessor runtime generation lost its takeover fence"
  .ok (endReason, db)

def integerText (i : Int) : Text :=
  if i < 0 then '-' :: Nat.toDigits 10 i.natAbs else Nat.toDigits 10 i.natAbs

def recoveryEvent (identity : Text) (predecessor successor : RuntimeHostLeaseRecord)
    (actualState : RuntimeActualState) (endReason : Text) (activeWork : Int × Text) (now : Int) :
    NewOutboxEvent where
  eventId := "runtime-recovery-event-".toList ++ identity
  eventName := .runtimeHostChanged
  aggregateId := "execass-runtime-host".toList
  aggregateRevision := predecessor.generation
  correlationId := "runtime-recovery-correlation-".toList ++ identity
  causationId := "runtime-recovery-cause-".toList ++ identity
  occurredAt := now
  safePayloadJson := (Json.obj [
    ("active_work_binding_digest".toList, .str activeWork.2),
    ("active_work_count".toList, .num (integerText activeWork.1)),
    ("end_reason".toList, .str endReason),
    ("predecessor_actual_state".toList, .str actualState.asStr.toList),
    ("predecessor_generation".toList, .num (integerText predecessor.generation)),
    ("successor_generation".toList, .num (integerText successor.generation))]).print
  duplicateIdentity := "runtime-recovery-".toList ++ identity

def recoveryAttention (identity : Text) (predecessor : RuntimeHostLeaseRecord)
    (actualState : RuntimeActualState) (endReason activeWorkDigest eventId : Text) (now : Int) :
    RuntimePausedAttentionRecord where
  attentionId := "runtime-paused-".toList ++ identity
  status := .actionable
  reason := "The ExecAss runtime stopped unexpectedly.".toList
  recommendation := "Review the recovery evidence and any interrupted work.".toList
  alternatives := []
  requiredAssurance := "local_owner".toList
  runtimeHostGeneration := predecessor.generation
  runtimeHostInstanceId := predecessor.hostInstanceId
  runtimeFencingToken := predecessor.fencingToken
  runtimeActualState := actualState
  runtimeEndReason := endReason
  activeWorkBindingDigest := activeWorkDigest
  outboxEventId := eventId
  receiptId := "runtime-recovery-receipt-".toList ++ identity
  createdAt := now
  resolvedAt := none

/-- The checks of a receipt command against the event, the successor and the predecessor. -/
def Db.validateRuntimeReceipt (db : Db) (custody : Custody) (command : RuntimeReceiptCommand) :
    Anyhow Unit := do
  cleanIdentity custody.redaction "receipt_id" command.receiptId
  cleanIdentity custody.redaction "transaction_id" command.transactionId
  cleanIdentity custody.redaction "causation_id" command.causationId
  cleanIdentity custody.redaction "causation_event_id" command.causationEventId
  cleanIdentity custody.redaction "authority_provenance_id" command.authorityProvenanceId
  cleanIdentity custody.redaction "host_instance_id" command.runtime.hostInstanceId
  ensure (0 < command.stateRootGeneration ∧ 0 < command.subjectGeneration ∧
      0 < command.runtime.hostGeneration ∧ 0 < command.runtime.fencingToken ∧
      0 < command.occurredAt ∧ command.expectedGlobalCount = db.journal.receiptCount ∧
      command.expectedGlobalHeadDigest = db.journal.receiptHeadDigest)
    "runtime recovery receipt command is invalid"
  validateDigestOpt command.expectedGlobalHeadDigest
  let event ← required "runtime recovery outbox event does not exist"
    (db.outboxEvents.find? command.causationEventId)
  ensure (event.eventName = .runtimeHostChanged ∧
      event.aggregateId = "execass-runtime-host".toList ∧
      event.aggregateRevision = command.subjectGeneration ∧
      event.causationId = command.causationId ∧ event.occurredAt = command.occurredAt)
    "runtime recovery receipt does not bind its exact outbox event"
  ensure (∃ g ∈ db.generations.rows, ∃ l ∈ db.leases.rows, l.generation = g.generation ∧
      l.hostInstanceId = g.hostInstanceId ∧ g.generation = command.runtime.hostGeneration ∧
      g.hostInstanceId = command.runtime.hostInstanceId ∧
      l.fencingToken = command.runtime.fencingToken ∧ l.releasedAt = none ∧ g.endedAt = none ∧
      command.occurredAt < l.expiresAt)
    "runtime recovery receipt is not fenced to the current successor"
  ensure ((∃ g ∈ db.generations.rows, g.generation = command.subjectGeneration ∧
      g.endedAt = some command.occurredAt ∧
      (g.endReason = some "gateway_forced_exit_takeover".toList ∨
        g.endReason = some "gateway_fault_takeover".toList ∨
        g.endReason = some "gateway_drain_interrupted_takeover".toList)) ∧
      command.subjectGeneration < command.runtime.hostGeneration)
    "runtime recovery receipt subject is not the exact ended predecessor generation"

def runtimeAppendIdentity (command : RuntimeReceiptCommand) : Text :=
  (C.sha256 (lengthPrefix APPEND_DOMAIN ++
    lengthPrefix (utf8Bytes "runtime_host".toList) ++
    lengthPrefix (utf8Bytes "execass-runtime-host".toList) ++
    lengthPrefix (utf8Bytes command.causationEventId) ++
    i64Bytes command.subjectGeneration)).val

/-- The append of a runtime receipt to the journal. -/
def Db.appendRuntimeReceipt (db : Db) (custody : Custody) (command : RuntimeReceiptCommand) :
    Anyhow Db := do
  db.validateRuntimeReceipt custody command
  let globalSequence := db.journal.receiptCount + 1
  ensure (globalSequence ≤ I64_MAX) "global receipt sequence overflow"
  let appendIdentity := runtimeAppendIdentity C command
  ensure (∀ other ∈ db.receipts.rows, other.appendIdentity ≠ appendIdentity ∧
      other.command.causationEventId ≠ command.causationEventId)
    "runtime recovery receipt identity already exists"
  let sealed ← custody.sealReceipt command globalSequence
  ensure (∀ other ∈ db.receipts.rows, other.globalSequence ≠ globalSequence ∧
      other.sealed.receiptDigest ≠ sealed.receiptDigest)
    "UNIQUE constraint failed: execass_receipts"
  match db.receipts.insert? ⟨command, globalSequence, appendIdentity,
      db.journal.latestReceiptId, sealed⟩ with
  | none => bail "UNIQUE constraint failed: execass_receipts.receipt_id"
  | some receipts => .ok { db with
      receipts := receipts
      journal := ⟨globalSequence, some sealed.receiptDigest, some command.receiptId⟩ }

/-- The event, the attention item and the receipt of an interrupted predecessor. -/
def Db.recordInterruption (db : Db) (custody : Custody) (key : Option ReceiptKeyRef)
    (actorIdentity summary : Text) (predecessor : RuntimeHostLeaseRecord)
    (actualState : RuntimeActualState) (endReason : Text) (successor : RuntimeHostLeaseRecord)
    (now : Int) : Anyhow Db := do
  let activeWork ← custody.activeWork
  let identity := runtimeIncidentIdentity C predecessor
  let event := recoveryEvent identity predecessor successor actualState endReason activeWork now
  let db ← db.insertOutbox event
  let db ← db.insertRuntimePausedAttention (recoveryAttention identity predecessor actualState
    endReason activeWork.2 event.eventId now)
  let key ← required "forced runtime takeover requires an active receipt key" key
  db.appendRuntimeReceipt C custody {
    receiptId := "runtime-recovery-receipt-".toList ++ identity
    transactionId := "runtime-recovery-transaction-".toList ++ identity
    stateRootGeneration := successor.stateRootGeneration
    expectedGlobalCount := db.journal.receiptCount
    expectedGlobalHeadDigest := db.journal.receiptHeadDigest
    subjectGeneration := predecessor.generation
    causationId := event.causationId
    causationEventId := event.eventId
    actorIdentity := actorIdentity
    authorityProvenanceId := "execass-global-control-carrier-authority".toList
    runtime := ⟨successor.generation, successor.hostInstanceId, successor.fencingToken⟩
    key := key
    redactedSummary := summary
    occurredAt := now }

/-- The takeover from a live predecessor, with its incident on record. -/
def Db.takeOver (db : Db) (custody : Custody) (key : Option ReceiptKeyRef)
    (actorIdentity summary : Text) (authority : ConfirmationAuthorityIdentity)
    (predecessor : RuntimeHostLeaseRecord) (hostInstanceId : Text) (now : Int) :
    Anyhow (RuntimeHostLeaseRecord × Db) := do
  let state ← required "live predecessor runtime state is missing"
    (db.loadRuntimeHostState predecessor)
  let (endReason, db) ← db.interruptPredecessor predecessor state.actualState now
  let (successor, db) ← db.startGeneration C authority hostInstanceId now
  let db ← db.recordInterruption C custody key actorIdentity summary predecessor
    state.actualState endReason successor now
  .ok (successor, db)

/-- The transaction of the activation with recovery, and whether a receipt was appended. -/
def activateInTransaction (rootIdentity : Text) (custody : Custody) (db : Db)
    (authority : ConfirmationAuthorityIdentity) (hostInstanceId : Text) (now : Int) :
    Anyhow (RuntimeHostLeaseRecord × Option Text × Db) := do
  validateActivation rootIdentity authority hostInstanceId now
  let key ← custody.currentAppendKey
  let actorIdentity ← custody.actorIdentity
  let summary ← custody.receiptSummary
  custody.appendAvailable
  match db.currentActivation with
  | none => do
    let (successor, db) ← db.startGeneration C authority hostInstanceId now
    .ok (successor, none, db)
  | some current =>
    if current.1.hostInstanceId = hostInstanceId then do
      let (record, db) ← db.replayActivation authority current now
      .ok (record, none, db)
    else do
      let (successor, db) ← db.takeOver C custody key actorIdentity summary authority current.1
        hostInstanceId now
      .ok (successor,
        some ("runtime-recovery-transaction-".toList ++ runtimeIncidentIdentity C current.1), db)

/-- The anchor is finalized once the transaction is committed, so it may fail where the store has
changed. -/
def activateRuntimeHostWithRecovery (rootIdentity : Text) (custody : Custody) (db : Db)
    (authority : ConfirmationAuthorityIdentity) (hostInstanceId : Text) (now : Int) :
    Anyhow RuntimeHostLeaseRecord × Db :=
  match activateInTransaction C rootIdentity custody db authority hostInstanceId now with
  | .error e => (.error e, db)
  | .ok (record, none, db) => (.ok record, db)
  | .ok (record, some transactionId, db) =>
    match custody.finalizeAnchor transactionId with
    | .error e => (.error e, db)
    | .ok () => (.ok record, db)

end Activation

/-! The calls any host may make, in any order. -/

inductive Call where
  | activate (authority : ConfirmationAuthorityIdentity) (hostInstanceId : Text) (now : Int)
  | activateWithRecovery (custody : Custody) (authority : ConfirmationAuthorityIdentity)
      (hostInstanceId : Text) (now : Int)
  | transition (host : RuntimeHostLeaseRecord) (transition : RuntimeHostTransition) (now : Int)
  /-- A settings revision of the owner. -/
  | configure (desired : RuntimeDesiredMode)

/-- What a call returns. -/
inductive Reply where
  | lease (record : RuntimeHostLeaseRecord)
  | moved (outcome : RuntimeHostTransitionOutcome)
  | configured
  deriving DecidableEq

/-- A call and the store after it. -/
def serve (C : Crates) (rootIdentity : Text) (db : Db) : Call → Anyhow Reply × Db
  | .activate authority hostInstanceId now =>
    match activateRuntimeHost C rootIdentity db authority hostInstanceId now with
    | .ok (record, db) => (.ok (.lease record), db)
    | .error e => (.error e, db)
  | .activateWithRecovery custody authority hostInstanceId now =>
    match activateRuntimeHostWithRecovery C rootIdentity custody db authority hostInstanceId now
      with
    | (.ok record, db) => (.ok (.lease record), db)
    | (.error e, db) => (.error e, db)
  | .transition host transition now =>
    match transitionRuntimeHost db host transition now with
    | .ok (outcome, db) => (.ok (.moved outcome), db)
    | .error e => (.error e, db)
  | .configure desired => (.ok .configured, { db with settings := db.settings ++ [desired] })

/-- A step is a call with what it returned. -/
def HostStep (C : Crates) (rootIdentity : Text) (db : Db) (label : Call × Anyhow Reply) (db' : Db) :
    Prop :=
  serve C rootIdentity db label.1 = (label.2, db')

end CarsinOS.Runtime
