import CarsinOS.Delegation.Settle

/-! The import of evidence the effect recorder signed. The signature and the key of the evidence are
checked when it is verified; here it meets the attempt, the effect and the claim. -/
namespace CarsinOS.Delegation
open CarsinOS.Lib CarsinOS.Integrity CarsinOS.Receipt

/-- The fields of a signed observation these tables meet. -/
structure RecorderObservation where
  recordDigest : Text
  sequence : Int
  kind : RecorderEvidenceResult
  source : RecorderObservationSource
  attemptId : Text
  logicalEffectId : Text
  providerIdentity : Text
  providerVersion : Text
  providerRequestDigest : Text
  providerIdempotencyKeyDigest : Option Text
  reconciliationKeyDigest : Option Text
  remoteEffectId : Option Text
  responseDigest : Option Text
  providerErrorClass : Option Text
  technicalResourceActuals : List TechnicalResourceActualInput
  reconciliationWindowStart : Option Int
  observedAt : Int

structure VerifiedRecorderEvidence where
  observation : RecorderObservation
  signedPayloadJson : Text
  signature : Text
  verifiedAt : Int

structure ReconcileRecorderEvidenceCommand where
  write : WriteContext
  claimIdentity : ContinuationClaimIdentity
  trustedNow : Int
  verifiedEvidence : VerifiedRecorderEvidence
  outboxEvent : NewOutboxEvent
  receipt : AppendReceiptCommand

/-- What an import reads of other tables: that the runtime authority is the stored one, that the
active recorder key is the one of the evidence, and that the stored receipt is the commanded one. -/
structure ImportOutside where
  runtimeReceiptActor : Anyhow Unit
  activeRecorderKey : Anyhow Unit
  receiptMatches : Bool

inductive ImportMutationOutcome where
  | applied (identity : ContinuationClaimIdentity) (result : RecorderEvidenceResult)
  | replayed (identity : ContinuationClaimIdentity) (result : RecorderEvidenceResult)
  | conflict
  | lost (reason : ContinuationStaleReason)

inductive RecorderEvidenceImportOutcome where
  | applied (identity : ContinuationClaimIdentity) (result : RecorderEvidenceResult)
  | replayed (identity : ContinuationClaimIdentity) (result : RecorderEvidenceResult)
  | conflict
  | lost (reason : ContinuationStaleReason)
  | stale

def RecorderEvidenceResult.name : RecorderEvidenceResult → Text
  | .present => "present".toList
  | .absent => "absent".toList
  | .unknown => "unknown".toList

/-- The status of the continuation after an import. -/
def resultStatus : RecorderEvidenceResult → ContinuationStatus
  | .present => .terminal
  | .absent => .superseded
  | .unknown => .uncertain

/-- Whether an import is of the definite failure of one attempt. -/
def RecorderObservation.failsAttempt (observation : RecorderObservation) : Bool :=
  observation.source = .execution && observation.kind = .absent

def canonicalImportPayload (observation : RecorderObservation) : Text :=
  (Json.obj [
    ("attempt_id".toList, .str observation.attemptId),
    ("logical_effect_id".toList, .str observation.logicalEffectId),
    ("recorder_record_digest".toList, .str observation.recordDigest),
    ("result".toList, .str observation.kind.name)]).print

def canonicalEffectOutcome (observation : RecorderObservation) (state : LogicalEffectState) :
    EffectOutcome :=
  ⟨state, observation.responseDigest, observation.providerErrorClass, observation.remoteEffectId,
    observation.recordDigest⟩

/-! The checks of an import. -/

/-- The row of the latest attempt of an effect. -/
def Store.latestAttemptRow (s : Store) (logicalEffectId : Text) : Option ProviderAttemptRow :=
  highest (fun first second => first.attemptNumber < second.attemptNumber)
    (s.providerAttempts.rows.filter (·.logicalEffectId = logicalEffectId))

/-- The attempt with its effect, where it is the latest of the effect. -/
def Store.loadAttemptFacts (s : Store) (attemptId : Text) :
    Option (ProviderAttemptRow × LogicalEffectRecord) := do
  let attempt ← s.providerAttempts.find? attemptId
  let effect ← s.logicalEffects.find? attempt.logicalEffectId
  guard (effect.delegationId = attempt.delegationId ∧
    s.latestAttemptRow attempt.logicalEffectId = some attempt)
  some (attempt, effect)

/-- The states an observation may be imported over. -/
def attemptStateMatches (observation : RecorderObservation) (attempt : ProviderAttemptStatus)
    (effect : LogicalEffectState) : Bool :=
  match observation.source, observation.kind with
  | _, .unknown => (attempt = .invoking || attempt = .outcomeUnknown) &&
      (effect = .invoking || effect = .outcomeUnknown)
  | .execution, _ => attempt = .invoking && effect = .invoking
  | .reconciliation, _ => attempt = .outcomeUnknown && effect = .outcomeUnknown

section Import
variable (K : FenceCrates) (J : Coordinator) (setDigest : ReservationSetDigest)

def stableKeyDigest (value : Text) : Text := "sha256:".toList ++ K.sha256 (utf8Bytes value)

def validateAttemptBinding (observation : RecorderObservation) (attempt : ProviderAttemptRow)
    (effect : LogicalEffectRecord) : Anyhow Unit := do
  let provider := effect.providerIdentity.getD []
  ensure (observation.logicalEffectId = attempt.logicalEffectId ∧
      observation.providerIdentity = provider ∧
      (provider = "carsinos.local-fs.exact-overwrite".toList →
        observation.providerVersion = "v1".toList) ∧
      observation.providerRequestDigest = attempt.providerRequestDigest ∧
      attempt.startedAt ≤ observation.observedAt ∧
      (∀ start ∈ observation.reconciliationWindowStart, attempt.startedAt ≤ start) ∧
      observation.providerIdempotencyKeyDigest =
        effect.providerIdempotencyKey.map (stableKeyDigest K) ∧
      observation.reconciliationKeyDigest = effect.reconciliationKey.map (stableKeyDigest K))
    "attempt_provider_binding_mismatch"
  ensure (attemptStateMatches observation attempt.status effect.state = true)
    "attempt_effect_state_mismatch"

/-- Whether an observation of a source may consume a reservation. -/
def consumable (source : RecorderObservationSource) (status : ReservationStatus) : Bool :=
  match source with
  | .execution => status = .reserved || status = .reconciliationRequired
  | .reconciliation => status = .reconciliationRequired

def validDigest (value : Text) : Bool :=
  utf8Length value = 71 && "sha256:".toList.isPrefixOf value &&
    (value.drop 7).all fun c => c.isDigit || ('a' ≤ c && c ≤ 'f')

def Store.validateSignedActuals (s : Store) (observation : RecorderObservation) : Anyhow Unit := do
  let reservations := s.reservations.rows.filter
    (·.identity.logicalEffectId = observation.logicalEffectId)
  let actuals := observation.technicalResourceActuals
  ensure (reservations ≠ []) "reservation_set_empty"
  match observation.kind with
  | .present => do
    ensure (actuals.length = reservations.length) "actual_count_mismatch"
    ensure ((actuals.map (·.reservationId)).Nodup) "actual_duplicate"
    ensure (∀ row ∈ reservations, ∃ actual ∈ actuals,
        actual.reservationId = row.identity.reservationId ∧ 0 ≤ actual.amountActual ∧
        actual.amountActual ≤ row.identity.amountReserved ∧
        validDigest actual.evidenceDigest = true ∧
        consumable observation.source row.status = true) "actual_binding_invalid"
  | .absent => do
    let live : ReservationStatus :=
      if observation.source = .execution then .reserved else .reconciliationRequired
    ensure (∀ row ∈ reservations, row.status = live) "absent_reservation_state_mismatch"
  | .unknown => do
    ensure (∀ row ∈ reservations, row.status = .reserved ∨ row.status = .reconciliationRequired)
      "unknown_reservation_state_mismatch"

def validateRecorderImportCommand (command : ReconcileRecorderEvidenceCommand) : Anyhow Unit := do
  validateIdentity command.claimIdentity
  validateWriteOutboxReceipt K command.write command.outboxEvent command.receipt
    command.claimIdentity.continuationId command.trustedNow
  let observation := command.verifiedEvidence.observation
  ensure (command.verifiedEvidence.verifiedAt = command.trustedNow ∧
      command.write.occurredAt = command.trustedNow ∧
      command.write.causationId = observation.recordDigest ∧
      command.receipt.causationId = observation.recordDigest ∧
      command.receipt.evidence.isEmpty ∧
      command.outboxEvent.aggregateId = command.claimIdentity.delegationId ∧
      command.receipt.delegationId = command.claimIdentity.delegationId ∧
      command.outboxEvent.aggregateRevision = command.receipt.expectedStateRevision ∧
      command.receipt.subject.revision = command.receipt.expectedStateRevision ∧
      command.receipt.stateRootGeneration = command.claimIdentity.stateRootGeneration)
    "recorder evidence import command identity is not exact"
  ensure (command.outboxEvent.safePayloadJson = canonicalImportPayload observation)
    "recorder evidence outbox payload is not storage-derived canonical evidence"

/-- The claim an attempt was made under. -/
def Store.authoritativeClaimForAttempt (s : Store) (attemptId : Text) :
    Option ContinuationClaimIdentity := do
  let attempt ← s.providerAttempts.find? attemptId
  let h ← loadOperationHistory s attempt.claimEventId .claim
  guard (h.resultStatus = .executing ∧
    setDigest h.resourceSet = h.identity.technicalResourceReservationSetDigest)
  some h.identity

def Store.revalidateVerified (s : Store) (outside : ImportOutside)
    (observation : RecorderObservation) : Anyhow Unit := do
  outside.activeRecorderKey
  let (attempt, effect) ← required "verified recorder attempt disappeared"
    (s.loadAttemptFacts observation.attemptId)
  validateAttemptBinding K observation attempt effect
  s.validateSignedActuals observation

/-! The writes of an import. -/

/-- `execass_effect_recorder_evidence_insert_guard`, as far as the attempt and the effect go. -/
def EvidenceHasAttempt (s : Store) (row : RecorderEvidenceRow) : Prop :=
  ∃ attempt ∈ s.providerAttempts.rows, attempt.attemptId = row.attemptId ∧
    s.latestAttemptRow row.logicalEffectId = some attempt ∧
    ∃ effect ∈ s.logicalEffects.rows, effect.logicalEffectId = row.logicalEffectId ∧
      effect.delegationId = attempt.delegationId ∧
      if row.journalSource = .execution then
        (effect.state = .invoking ∨ effect.state = .outcomeUnknown) ∧
          (attempt.status = .invoking ∨ attempt.status = .outcomeUnknown)
      else effect.state = .outcomeUnknown ∧ attempt.status = .outcomeUnknown

instance (s : Store) (row : RecorderEvidenceRow) : Decidable (EvidenceHasAttempt s row) := by
  unfold EvidenceHasAttempt
  infer_instance

def Store.insertRecorderEvidence (s : Store) (evidence : VerifiedRecorderEvidence) :
    Anyhow Store := do
  let observation := evidence.observation
  let row : RecorderEvidenceRow := {
    recorderRecordDigest := observation.recordDigest
    journalSequence := observation.sequence
    journalKind := observation.kind
    journalSource := observation.source
    attemptId := observation.attemptId
    logicalEffectId := observation.logicalEffectId
    responseDigest := observation.responseDigest
    providerErrorClass := observation.providerErrorClass
    remoteEffectId := observation.remoteEffectId
    observedAt := observation.observedAt
    signedPayloadJson := evidence.signedPayloadJson
    signature := evidence.signature }
  ensure (EvidenceHasAttempt s row)
    "ExecAss recorder evidence lacks exact active key/attempt/effect provenance"
  match s.recorderEvidence.insert? row with
  | some recorderEvidence => .ok { s with recorderEvidence }
  | none => bail "UNIQUE constraint failed: execass_effect_recorder_evidence"

def importedActualId (recordDigest reservationId : Text) : Text :=
  "technical-actual-".toList ++ K.sha256 (
    utf8Bytes "carsinos.execass.recorder-evidence-actual.v1".toList ++ [0] ++
    utf8Bytes recordDigest ++ [0] ++ utf8Bytes reservationId)

/-- A reservation whose effect is present is settled with the signed actual. -/
def Store.consumeReservation (observation : RecorderObservation) (s : Store)
    (reservation : TechnicalResourceReservationRecord) : Anyhow Store := do
  let id := reservation.identity.reservationId
  ensure (consumable observation.source reservation.status = true)
    "present recorder evidence found an invalid reservation state"
  let actual ← required "present recorder evidence omitted a reservation"
    (observation.technicalResourceActuals.find? (·.reservationId = id))
  let s ← s.insertActual {
    technicalResourceActualId := importedActualId K observation.recordDigest id
    delegationId := reservation.delegationId
    reservationId := id
    amountActual := actual.amountActual
    continuationFencingToken := reservation.continuationFencingToken
    runtimeHostGeneration := reservation.runtimeHostGeneration
    runtimeFencingToken := reservation.runtimeFencingToken
    evidenceDigest := actual.evidenceDigest
    recordedAt := observation.observedAt }
  s.moveReservation id reservation.status .settled (some observation.observedAt)
    "present recorder evidence lost a reservation transition"

/-- A reservation whose effect is absent is kept for a retry, or released. -/
def Store.absentReservation (observation : RecorderObservation) (s : Store)
    (reservation : TechnicalResourceReservationRecord) : Anyhow Store :=
  match observation.source with
  | .execution => do
    ensure (reservation.status = .reserved)
      "definite execution failure requires a live reserved resource set"
    .ok s
  | .reconciliation => do
    ensure (reservation.status = .reconciliationRequired)
      "absent recorder evidence found an invalid reservation state"
    s.moveReservation reservation.identity.reservationId .reconciliationRequired .released
      (some observation.observedAt) "absent recorder evidence lost a reservation transition"

/-- A reservation whose effect is unknown stays for a reconciliation. -/
def Store.unknownReservation (s : Store) (reservation : TechnicalResourceReservationRecord) :
    Anyhow Store :=
  match reservation.status with
  | .reserved => s.moveReservation reservation.identity.reservationId .reserved
      .reconciliationRequired none "unknown recorder evidence lost a reservation transition"
  | .reconciliationRequired => .ok s
  | _ => bail "unknown recorder evidence found a terminal reservation"

/-- The attempt and its effect reach one state together. -/
def Store.transitionAttemptAndEffect (s : Store) (observation : RecorderObservation)
    (attemptStatus : ProviderAttemptStatus) (effectState : LogicalEffectState)
    (nextStatus : ProviderAttemptStatus) (nextState : LogicalEffectState) : Anyhow Store := do
  let s ← s.updateAttempts (fun row => row.attemptId = observation.attemptId &&
      row.logicalEffectId = observation.logicalEffectId && row.status = attemptStatus)
    (fun row => { row with
      status := nextStatus
      providerResponseDigest := observation.responseDigest
      providerErrorClass := observation.providerErrorClass
      remoteEffectId := observation.remoteEffectId
      finishedAt := some observation.observedAt }) (fun _ => rfl)
    "recorder evidence lost its provider-attempt transition"
  s.updateEffects (fun row => row.logicalEffectId = observation.logicalEffectId &&
      row.state = effectState)
    (fun row => { row with
      state := nextState
      outcome := some (canonicalEffectOutcome observation nextState)
      updatedAt := observation.observedAt }) (fun _ => rfl)
    "recorder evidence lost its logical-effect transition"

/-- The states of the observed attempt and of its effect. -/
def Store.observedStates (s : Store) (observation : RecorderObservation) :
    Anyhow (ProviderAttemptStatus × LogicalEffectState) := do
  let attempt ← required "Query returned no rows" (s.providerAttempts.find? observation.attemptId)
  let effect ← required "Query returned no rows"
    (s.logicalEffects.find? observation.logicalEffectId)
  .ok (attempt.status, effect.state)

def Store.transitionPresent (s : Store) (observation : RecorderObservation) : Anyhow Store := do
  let (status, state) ← s.observedStates observation
  if observation.source = .execution ∧ status = .invoking ∧ state = .invoking then
    s.transitionAttemptAndEffect observation status state .succeeded .succeeded
  else s.transitionAttemptAndEffect observation status state .reconciledPresent .reconciledPresent

def Store.transitionAbsent (s : Store) (observation : RecorderObservation) : Anyhow Store := do
  let (status, state) ← s.observedStates observation
  ensure (status = .invoking ∧ state = .invoking → observation.source = .execution)
    "only execution evidence may settle an invoking effect as absent"
  match observation.source with
  | .execution => s.transitionAttemptAndEffect observation status state .failed .failed
  | .reconciliation =>
    s.transitionAttemptAndEffect observation status state .reconciledAbsent .reconciledAbsent

def Store.keepAttemptUnknown (s : Store) (observation : RecorderObservation) :
    ProviderAttemptStatus → Anyhow Store
  | .invoking => s.updateAttempts
      (fun row => row.attemptId = observation.attemptId && row.status = .invoking)
      (fun row => { row with
        status := .outcomeUnknown
        providerResponseDigest := observation.responseDigest
        remoteEffectId := none
        finishedAt := some observation.observedAt }) (fun _ => rfl)
      "unknown recorder evidence lost its provider-attempt transition"
  | .outcomeUnknown => .ok s
  | _ => bail "unknown recorder evidence found a terminal provider attempt"

def Store.keepEffectUnknown (s : Store) (observation : RecorderObservation) :
    LogicalEffectState → Anyhow Store
  | .invoking => s.updateEffects
      (fun row => row.logicalEffectId = observation.logicalEffectId && row.state = .invoking)
      (fun row => { row with
        state := .outcomeUnknown
        outcome := some (canonicalEffectOutcome observation .outcomeUnknown)
        updatedAt := observation.observedAt }) (fun _ => rfl)
      "unknown recorder evidence lost its logical-effect transition"
  | .outcomeUnknown => .ok s
  | _ => bail "unknown recorder evidence found a terminal logical effect"

def Store.keepUnknown (s : Store) (observation : RecorderObservation) : Anyhow Store := do
  let (status, state) ← s.observedStates observation
  let s ← s.keepAttemptUnknown observation status
  s.keepEffectUnknown observation state

/-- The continuation and its action leave the claim, and its job is closed. -/
theorem closed_job (row : JobRecord) :
    { row with
      enabled := false
      nextRunAt := none
      leaseOwner := none
      leaseExpiresAt := none : JobRecord }.jobId = row.jobId := rfl

def Store.leaveClaim (s : Store) (command : ReconcileRecorderEvidenceCommand)
    (continuation : ContinuationRecord) (action : ActionBranchRecord)
    (status : ContinuationStatus) : Anyhow Store := do
  let hit (row : ContinuationRecord) : Bool := row.continuationId = continuation.continuationId &&
    row.status = continuation.status &&
    row.fencingToken = command.claimIdentity.continuationFencingToken
  let next ← s.updateContinuations hit (fun row => { row with
    status
    leaseOwner := none
    leaseExpiresAt := none
    updatedAt := command.write.occurredAt
    completedAt := terminalAt status command.write.occurredAt }) fun _ => rfl
  ensure (s.continuations.matched hit = 1)
    "recorder evidence lost its exact continuation transition"
  let s ← next.updateActionStatus action status command.write.occurredAt
  .ok { s with jobs := s.jobs.update (fun row => row.jobId = command.claimIdentity.jobId &&
      row.payload.mode = some EXECASS_CONTINUATION_JOB_MODE) (fun row => { row with
    enabled := false, nextRunAt := none, leaseOwner := none, leaseExpiresAt := none }) closed_job }

def checkClosable (continuation : ContinuationRecord) (action : ActionBranchRecord) : Anyhow Unit :=
  match continuation.status with
  | .executing => ensure (action.status = .executing)
      "recorder execution evidence found a mismatched action state"
  | .uncertain => ensure (action.status = .uncertain ∧ continuation.leaseOwner = none ∧
        continuation.leaseExpiresAt = none)
      "recorder reconciliation evidence found a leased or mismatched uncertain state"
  | _ => bail "recorder evidence found a terminal continuation"

def Store.closeRecorderContinuation (s : Store) (command : ReconcileRecorderEvidenceCommand)
    (continuation : ContinuationRecord) (action : ActionBranchRecord)
    (status : ContinuationStatus) : Anyhow Store := do
  checkClosable continuation action
  s.leaveClaim command continuation action status

def Store.keepContinuationUncertain (s : Store) (command : ReconcileRecorderEvidenceCommand)
    (continuation : ContinuationRecord) (action : ActionBranchRecord) : Anyhow Store :=
  match continuation.status with
  | .executing => do
    ensure (action.status = .executing)
      "unknown recorder evidence lost its continuation transition"
    s.leaveClaim command continuation action .uncertain
  | .uncertain => do
    ensure (action.status = .uncertain ∧ continuation.leaseOwner = none ∧
        continuation.leaseExpiresAt = none)
      "unknown recorder evidence found divergent uncertain state"
    .ok s
  | _ => bail "unknown recorder evidence found a terminal continuation"

/-- What the result of an observation makes of the claim, its attempt and its effect. -/
def Store.converge (s : Store) (command : ReconcileRecorderEvidenceCommand)
    (continuation : ContinuationRecord) (action : ActionBranchRecord)
    (reservations : List TechnicalResourceReservationRecord) : Anyhow Store :=
  let observation := command.verifiedEvidence.observation
  match observation.kind with
  | .present => do
    let s ← reservations.foldlM (Store.consumeReservation K observation) s
    let s ← s.transitionPresent observation
    s.closeRecorderContinuation command continuation action .terminal
  | .absent => do
    let s ← reservations.foldlM (Store.absentReservation observation) s
    let s ← s.transitionAbsent observation
    match observation.source with
    | .reconciliation => s.closeRecorderContinuation command continuation action .superseded
    | .execution => do
      ensure (continuation.status = .executing ∧ action.status = .executing)
        "definite execution failure requires a live executing continuation"
      .ok s
  | .unknown => do
    let s ← reservations.foldlM Store.unknownReservation s
    let s ← s.keepUnknown observation
    s.keepContinuationUncertain command continuation action

def Store.applyAtomicConvergence (s : Store) (command : ReconcileRecorderEvidenceCommand)
    (continuation : ContinuationRecord) : Anyhow Store := do
  let observation := command.verifiedEvidence.observation
  let action ← required "recorder evidence action disappeared"
    (s.loadAction continuation.actionId)
  let reservations := s.loadResourceReservations command.claimIdentity.claimEventId
  ensure (reservations ≠ [] ∧ ∀ row ∈ reservations,
      row.identity.logicalEffectId = observation.logicalEffectId)
    "recorder evidence lost its exact reservation/effect set"
  let s ← s.converge K command continuation action reservations
  ensure (observation.failsAttempt = true ∨ s.jobs.rows.countP (fun row =>
      row.jobId = command.claimIdentity.jobId && !row.enabled && row.nextRunAt = none &&
        row.leaseOwner = none && row.leaseExpiresAt = none &&
        row.payload.mode = some EXECASS_CONTINUATION_JOB_MODE) = 1)
    "recorder evidence convergence found a live continuation job"
  .ok s

/-- The definite failure of an attempt leaves the claim executing: it takes no place in the history
of the claim. -/
def Store.recordImport (s : Store) (command : ReconcileRecorderEvidenceCommand)
    (resourceSet : List TechnicalResourceReservationIdentity) : Anyhow Store :=
  let observation := command.verifiedEvidence.observation
  if observation.failsAttempt then .ok s
  else s.insertOperationHistory {
    eventId := command.outboxEvent.eventId
    operation := if observation.source = .execution then .settle else .reconcile
    resultStatus := resultStatus observation.kind
    identity := command.claimIdentity
    resourceSet
    resourceEvidenceDigest := some observation.recordDigest
    recordedAt := command.write.occurredAt }

/-- The writes of an import. -/
def writeImport (command : ReconcileRecorderEvidenceCommand) (continuation : ContinuationRecord)
    (s : Store) : Anyhow Store := do
  let observation := command.verifiedEvidence.observation
  let s ← s.insertRecorderEvidence command.verifiedEvidence
  let s ← s.insertOutbox command.outboxEvent
  let resourceSet ← claimResourceSet s command.claimIdentity
  let s ← s.recordImport command resourceSet
  let s ← s.applyAtomicConvergence K command continuation
  .ok { s with receiptEvidenceRefs := s.receiptEvidenceRefs ++ [(command.receipt.receiptId,
    command.claimIdentity.delegationId, observation.recordDigest)] }

/-! The command. -/

/-- A repeated import, against what the first one left. -/
def inspectReplay (outside : ImportOutside) (command : ReconcileRecorderEvidenceCommand)
    (s : Store) : ImportMutationOutcome :=
  let observation := command.verifiedEvidence.observation
  let expectedHistory := if observation.failsAttempt then none else
    some (some observation.recordDigest, resultStatus observation.kind)
  if (s.recorderEvidence.rows.any fun row => row.recorderRecordDigest = observation.recordDigest &&
        row.signedPayloadJson = command.verifiedEvidence.signedPayloadJson &&
        row.signature = command.verifiedEvidence.signature) = true ∧
      s.receiptEvidenceRefs.count (command.receipt.receiptId, command.claimIdentity.delegationId,
        observation.recordDigest) = 1 ∧
      (s.operationHistory.find? command.outboxEvent.eventId).map (fun h =>
        (h.resourceEvidenceDigest, h.resultStatus)) = expectedHistory ∧
      s.outboxEvents.find? command.outboxEvent.eventId = some command.outboxEvent ∧
      command.write.idempotencyKey = command.outboxEvent.duplicateIdentity ∧
      command.write.correlationId = command.outboxEvent.correlationId ∧
      command.write.causationId = command.outboxEvent.causationId ∧
      command.write.occurredAt = command.outboxEvent.occurredAt ∧
      s.authoritativeClaimForAttempt setDigest observation.attemptId = some command.claimIdentity ∧
      outside.receiptMatches = true then
    .replayed command.claimIdentity observation.kind
  else .conflict

def importMutation (outside : ImportOutside) (command : ReconcileRecorderEvidenceCommand)
    (s : Store) : Anyhow (AtomicReceiptMutation ImportMutationOutcome × Store) :=
  let observation := command.verifiedEvidence.observation
  match s.receiptByCausationEvent command.outboxEvent.eventId with
  | some _ => .ok (.noAppend (inspectReplay setDigest outside command s), s)
  | none =>
    if (s.recorderEvidence.find? observation.recordDigest).isSome then
      .ok (.noAppend .conflict, s)
    else match s.authoritativeClaimForAttempt setDigest observation.attemptId with
    | none => .ok (.noAppend (.lost .claimIdentityMismatch), s)
    | some claim =>
      if claim ≠ command.claimIdentity ∨ s.validateClaimProvenance setDigest claim = false then
        .ok (.noAppend (.lost .claimIdentityMismatch), s)
      else do
        let continuation ← required "recorder evidence continuation disappeared"
          (s.getContinuation command.claimIdentity.continuationId)
        if continuation.delegationId ≠ command.claimIdentity.delegationId ∨
            continuation.actionId ≠ command.claimIdentity.actionId ∨
            continuation.fencingToken ≠ command.claimIdentity.continuationFencingToken then
          .ok (.noAppend (.lost .claimIdentityMismatch), s)
        else do
          let runtime ← required "recorder evidence import requires a current runtime host"
            (s.currentRuntimeLease command.trustedNow)
          ensure (receiptRuntimeMismatch command.receipt runtime = false)
            "recorder evidence receipt is not from the current runtime host"
          let d ← required "recorder evidence delegation disappeared"
            (s.getDelegation command.claimIdentity.delegationId)
          ensure (command.receipt.actor = derivedRuntimeActor K runtime d.policyRevision)
            "continuation receipt actor is not the server-derived runtime authority"
          outside.runtimeReceiptActor
          s.revalidateVerified K outside observation
          let s ← writeImport K command continuation s
          .ok (.append (.applied claim observation.kind), s)

def importOutcome : AtomicWrite ImportMutationOutcome → Anyhow RecorderEvidenceImportOutcome
  | .appended (.applied identity result) => .ok (.applied identity result)
  | .noAppend (.replayed identity result) => .ok (.replayed identity result)
  | .noAppend .conflict => .ok .conflict
  | .noAppend (.lost reason) => .ok (.lost reason)
  | .stale => .ok .stale
  | _ => bail "recorder evidence receipt coordinator returned an impossible outcome"

/-- `reconcile_recorder_evidence_atomically`. -/
def reconcileRecorderEvidence (outside : ImportOutside)
    (command : ReconcileRecorderEvidenceCommand) (s : Store) :
    Anyhow (RecorderEvidenceImportOutcome × Store) := do
  if (s.recorderEvidence.find? command.verifiedEvidence.observation.recordDigest).isSome then
    .ok (← importOutcome (.noAppend (inspectReplay setDigest outside command s)), s)
  else do
    validateRecorderImportCommand K command
    let (written, s) ← mutateWithAtomicReceipt J command.receipt
      (importMutation K setDigest outside command) s
    .ok (← importOutcome written, s)

end Import

end CarsinOS.Delegation
