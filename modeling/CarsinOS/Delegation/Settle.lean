import CarsinOS.Delegation.Attempt

/-! The settlement of a claim, and the resolution of the resources of one that was abandoned. -/
namespace CarsinOS.Delegation
open CarsinOS.Lib CarsinOS.Integrity CarsinOS.Receipt

structure TechnicalResourceActualInput where
  reservationId : Text
  amountActual : Int
  evidenceDigest : Text
  deriving DecidableEq

structure ContinuationSettleCommand where
  write : WriteContext
  identity : ContinuationClaimIdentity
  trustedNow : Int
  resultStatus : ContinuationStatus
  technicalResourceActuals : List TechnicalResourceActualInput
  outboxEvent : NewOutboxEvent
  receipt : AppendReceiptCommand

inductive TechnicalResourceLifecycleResolution where
  | expireUndispatched | recoverPossiblyInvoked | reconcileAbsent | reconcilePresent
  deriving DecidableEq

structure TechnicalResourceLifecycleCommand where
  write : WriteContext
  identity : ContinuationClaimIdentity
  trustedNow : Int
  resolution : TechnicalResourceLifecycleResolution
  evidenceDigest : Text
  technicalResourceActuals : List TechnicalResourceActualInput
  outboxEvent : NewOutboxEvent
  receipt : AppendReceiptCommand

/-- What a settlement or a resolution reads of other tables: that the runtime authority its receipt
names is the stored one. -/
structure SettleOutside where
  runtimeReceiptActor : Anyhow Unit

structure SettleDraft where
  continuation : ContinuationRecord
  action : ActionBranchRecord
  identity : ContinuationClaimIdentity

inductive SettleMutationOutcome where
  | settled (draft : SettleDraft)
  | replayed (identity : ContinuationClaimIdentity) (resultStatus : ContinuationStatus)
  | superseded (reason : ContinuationStaleReason)
  | lost (reason : ContinuationStaleReason)

inductive ContinuationSettleOutcome where
  | settled (draft : SettleDraft)
  | replayed (identity : ContinuationClaimIdentity) (resultStatus : ContinuationStatus)
  | superseded (reason : ContinuationStaleReason)
  | lost (reason : ContinuationStaleReason)
  | stale

inductive ResourceLifecycleOutcome where
  | applied (identity : ContinuationClaimIdentity)
  | replayed (identity : ContinuationClaimIdentity)
  | lost (reason : ContinuationStaleReason)
  | stale

section Digests
variable (K : FenceCrates)

/-- The set of actuals, checked and in the order of its reservations. -/
def technicalResourceActualSetDigest (actuals : List TechnicalResourceActualInput) :
    Anyhow Text := do
  actuals.forM fun actual => do
    requireText "technical actual reservation_id" actual.reservationId
    requireText "technical actual evidence_digest" actual.evidenceDigest
    ensure (0 ≤ actual.amountActual) "technical resource actual cannot be negative"
  ensure (actuals.map (·.reservationId)).Nodup
    "technical resource actual set contains a duplicate reservation"
  let canonical := actuals.insertionSort fun first second =>
    first.reservationId ≤ second.reservationId
  let tree (actual : TechnicalResourceActualInput) : Json := .arr [.str actual.reservationId,
    .num (toString actual.amountActual).toList, .str actual.evidenceDigest]
  .ok ("sha256:".toList ++ K.sha256 (
    utf8Bytes "carsinos.execass.technical-resource.actual-set.v1".toList ++ [0] ++
    utf8Bytes (Json.arr (canonical.map tree)).print))

def technicalResourceLifecycleEvidenceDigest (command : TechnicalResourceLifecycleCommand) :
    Anyhow Text := do
  let actualSetDigest ← technicalResourceActualSetDigest K command.technicalResourceActuals
  .ok ("sha256:".toList ++ K.sha256 (
    utf8Bytes "carsinos.execass.technical-resource.lifecycle-evidence.v1".toList ++ [0] ++
    utf8Bytes command.evidenceDigest ++ [0] ++ utf8Bytes actualSetDigest))

def technicalResourceLifecycleEvidenceReferenceDigest (evidence : List ReceiptEvidenceInput) :
    Anyhow Text :=
  match evidence with
  | [item] => do
    requireText "technical lifecycle authority_link_id" item.authorityLinkId
    requireText "technical lifecycle evidence source_id" item.sourceId
    ensure (item.authoritativeRevision = 0)
      "technical lifecycle evidence must use the canonical source revision"
    .ok ("sha256:".toList ++ K.sha256 (
      utf8Bytes "carsinos.execass.technical-resource.evidence-reference.v1".toList ++ [0] ++
      [item.kind, item.sourceId, item.authorityLinkId].flatMap (fun part =>
        lengthPrefix (utf8Bytes part)) ++ i64Bytes item.authoritativeRevision))
  | _ => bail "technical resource lifecycle requires exactly one authoritative evidence reference"

end Digests

def receiptRuntimeMismatchIdentity (receipt : AppendReceiptCommand)
    (identity : ContinuationClaimIdentity) : Bool :=
  receipt.stateRootGeneration ≠ identity.stateRootGeneration ||
    receipt.runtime.hostGeneration ≠ identity.runtimeHostGeneration ||
    receipt.runtime.hostInstanceId ≠ identity.runtimeHostInstanceId ||
    receipt.runtime.fencingToken ≠ identity.runtimeFencingToken

/-- The resource set of a claim, as its history keeps it. -/
def claimResourceSet (s : Store) (identity : ContinuationClaimIdentity) :
    Anyhow (List TechnicalResourceReservationIdentity) := do
  let h ← required "immutable claim resource set disappeared"
    (loadOperationHistory s identity.claimEventId .claim)
  ensure (h.identity = identity ∧ h.resultStatus = .executing)
    "immutable claim resource set identity changed"
  .ok h.resourceSet

def Store.moveEffect (s : Store) (delegationId logicalEffectId : Text)
    (old new : LogicalEffectState) (occurredAt : Int) (lost : String) : Anyhow Store :=
  s.updateEffects (fun row => row.delegationId = delegationId &&
      row.logicalEffectId = logicalEffectId && row.state = old)
    (fun row => { row with state := new, updatedAt := occurredAt }) (fun _ => rfl) lost

/-! The settlement. -/

section Settle
variable (K : FenceCrates) (J : Coordinator) (setDigest : ReservationSetDigest)

def validateSettleCommand (command : ContinuationSettleCommand) : Anyhow Unit := do
  validateIdentity command.identity
  validateWriteOutboxReceipt K command.write command.outboxEvent command.receipt
    command.identity.continuationId command.trustedNow
  ensure (command.resultStatus ∈ [.waiting, .uncertain, .terminal, .superseded])
    "settle status must be waiting, uncertain, terminal, or superseded"

def validateSettleReceiptIdentity (command : ContinuationSettleCommand)
    (continuation : ContinuationRecord) : Anyhow Unit :=
  ensure (command.outboxEvent.aggregateId = continuation.delegationId ∧
      command.outboxEvent.aggregateRevision = continuation.targetDelegationRevision ∧
      command.receipt.delegationId = continuation.delegationId ∧
      command.receipt.expectedStateRevision = continuation.targetDelegationRevision ∧
      command.receipt.subject.revision = continuation.targetDelegationRevision)
    "settle receipt does not target the exact continuation delegation revision"

def loadSettleReplay (s : Store) (command : ContinuationSettleCommand) (actualSetDigest : Text) :
    Option (ContinuationClaimIdentity × ContinuationStatus) :=
  match loadOperationHistory s command.outboxEvent.eventId .settle with
  | none => none
  | some h =>
    if h.identity = command.identity ∧ h.resultStatus = command.resultStatus ∧
        h.resourceEvidenceDigest = some actualSetDigest ∧
        s.outboxEvents.find? command.outboxEvent.eventId = some command.outboxEvent ∧
        (s.receiptByCausationEvent command.outboxEvent.eventId).map (·.receiptId) =
          some command.receipt.receiptId then some (h.identity, h.resultStatus)
    else none

def settleEffectState (state : LogicalEffectState) :
    ContinuationStatus → Anyhow LogicalEffectState
  | .terminal => .ok .succeeded
  | .uncertain => .ok .outcomeUnknown
  | .waiting => .ok (if state = .claimed then .failed else .outcomeUnknown)
  | .superseded => .ok (if state = .claimed then .failed else .outcomeUnknown)
  | _ => bail "unsupported technical resource settle status"

def Store.transitionClaimEffectOnSettle (s : Store)
    (reservations : List TechnicalResourceReservationRecord) (resultStatus : ContinuationStatus)
    (occurredAt : Int) : Anyhow (Option LogicalEffectState × Store) := do
  match ← singleClaimEffect reservations with
  | none => .ok (none, s)
  | some (delegationId, logicalEffectId) => do
    let state ← required "Query returned no rows" (s.effectState delegationId logicalEffectId)
    let next ← settleEffectState state resultStatus
    ensure (state = .claimed ∨ state = .invoking)
      "technical resource settlement lacks durable claimed-or-invoking effect proof"
    let s ← s.moveEffect delegationId logicalEffectId state next occurredAt
      "logical effect lost its atomic settlement transition"
    .ok (some state, s)

def technicalActualId (settlementEventId : Text) (reservationId : Text) (amountActual : Int)
    (evidenceDigest : Text) : Text :=
  "technical-actual-".toList ++ K.sha256 (
    utf8Bytes "carsinos.execass.technical-resource.actual.v1".toList ++ [0] ++
    utf8Bytes settlementEventId ++ [0] ++ utf8Bytes reservationId ++ [0] ++
    i64Bytes amountActual ++ [0] ++ utf8Bytes evidenceDigest)

/-- A reservation of a claim that was carried out: its actual is recorded with it. -/
def Store.settleReservation (identity : ContinuationClaimIdentity)
    (actuals : List TechnicalResourceActualInput) (settlementEventId : Text) (settledAt : Int)
    (s : Store) (reservation : TechnicalResourceReservationRecord) : Anyhow Store := do
  let id := reservation.identity.reservationId
  let actual ← required "terminal technical resource settlement omitted a reservation actual"
    (actuals.find? (·.reservationId = id))
  ensure (0 ≤ actual.amountActual ∧ actual.amountActual ≤ reservation.identity.amountReserved ∧
      trimChars actual.evidenceDigest ≠ [] ∧
      trimChars actual.evidenceDigest = actual.evidenceDigest ∧
      actuals.countP (·.reservationId = id) = 1)
    "terminal technical resource actual is invalid or duplicated"
  let s ← s.insertActual {
    technicalResourceActualId :=
      technicalActualId K settlementEventId id actual.amountActual actual.evidenceDigest
    delegationId := reservation.delegationId
    reservationId := id
    amountActual := actual.amountActual
    continuationFencingToken := identity.continuationFencingToken
    runtimeHostGeneration := identity.runtimeHostGeneration
    runtimeFencingToken := identity.runtimeFencingToken
    evidenceDigest := actual.evidenceDigest
    recordedAt := settledAt }
  s.moveReservation id .reserved .settled (some settledAt)
    "technical resource reservation lost its settle race"

/-- A reservation of a claim that was not carried out to its end. -/
def Store.releaseReservation (provenNotDispatched : Bool) (settledAt : Int) (s : Store)
    (reservation : TechnicalResourceReservationRecord) : Anyhow Store :=
  s.moveReservation reservation.identity.reservationId .reserved
    (if provenNotDispatched then .released else .reconciliationRequired)
    (if provenNotDispatched then some settledAt else none)
    "technical resource reservation lost its nonterminal transition race"

def Store.transitionReservationsOnSettle (s : Store) (identity : ContinuationClaimIdentity)
    (resultStatus : ContinuationStatus) (actuals : List TechnicalResourceActualInput)
    (settlementEventId : Text) (settledAt : Int) : Anyhow Store := do
  let reservations := s.loadResourceReservations identity.claimEventId
  ensure (resultStatus = .terminal → reservations.length = actuals.length)
    "terminal technical resource settlement requires one actual per reservation"
  ensure (resultStatus ≠ .terminal → actuals = [])
    "nonterminal technical resource settlement cannot record actual consumption"
  let (state, s) ← s.transitionClaimEffectOnSettle reservations resultStatus settledAt
  if resultStatus = .terminal then
    reservations.foldlM (Store.settleReservation K identity actuals settlementEventId settledAt) s
  else
    reservations.foldlM (Store.releaseReservation
      (state = some .claimed && (resultStatus = .waiting || resultStatus = .superseded))
      settledAt) s

/-- The settlement of a claim that has drifted. -/
def supersedeWithReceiptFromSettle (command : ContinuationSettleCommand) (actualSetDigest : Text)
    (continuation : ContinuationRecord) (action : ActionBranchRecord) (s : Store) :
    Anyhow Store := do
  validateSettleReceiptIdentity command continuation
  let resourceSet ← claimResourceSet s command.identity
  let s ← s.insertOutbox command.outboxEvent
  let s ← s.insertOperationHistory {
    eventId := command.outboxEvent.eventId
    operation := .settle
    resultStatus := .superseded
    identity := command.identity
    resourceSet
    resourceEvidenceDigest := some actualSetDigest
    recordedAt := command.write.occurredAt }
  let s ← s.transitionReservationsOnSettle K command.identity .superseded []
    command.outboxEvent.eventId command.write.occurredAt
  s.supersedeContinuationAndAction continuation action command.write.occurredAt
    command.identity.workerId command.identity.jobLeaseExpiresAt

/-- The writes of a settlement that has not drifted. -/
def writeSettle (command : ContinuationSettleCommand) (actualSetDigest : Text)
    (continuation : ContinuationRecord) (action : ActionBranchRecord) (s : Store) :
    Anyhow (SettleDraft × Store) := do
  validateSettleReceiptIdentity command continuation
  let resourceSet ← claimResourceSet s command.identity
  let s ← s.insertOutbox command.outboxEvent
  let s ← s.insertOperationHistory {
    eventId := command.outboxEvent.eventId
    operation := .settle
    resultStatus := command.resultStatus
    identity := command.identity
    resourceSet
    resourceEvidenceDigest := some actualSetDigest
    recordedAt := command.write.occurredAt }
  let s ← s.transitionReservationsOnSettle K command.identity command.resultStatus
    command.technicalResourceActuals command.outboxEvent.eventId command.write.occurredAt
  let hit (row : ContinuationRecord) : Bool :=
    row.continuationId = continuation.continuationId &&
      row.delegationId = continuation.delegationId && row.jobId = some command.identity.jobId &&
      row.status = .executing && row.leaseOwner = some command.identity.workerId &&
      row.leaseExpiresAt = some command.identity.jobLeaseExpiresAt &&
      row.fencingToken = command.identity.continuationFencingToken &&
      row.hostGeneration = command.identity.runtimeHostGeneration &&
      row.stopEpoch = continuation.stopEpoch && row.globalStopEpoch = continuation.globalStopEpoch
  let next ← s.updateContinuations hit (fun row => { row with
    status := command.resultStatus
    leaseOwner := none
    leaseExpiresAt := none
    updatedAt := command.write.occurredAt
    completedAt := terminalAt command.resultStatus command.write.occurredAt }) fun _ => rfl
  ensure (s.continuations.matched hit = 1) "continuation lost its settle race"
  let s ← next.updateActionStatus action command.resultStatus command.write.occurredAt
  let s ← s.closeJob (some command.identity.jobId) command.identity.workerId
    command.identity.jobLeaseExpiresAt "continuation job lost its settle lease race"
  let settled ← required "settled continuation disappeared"
    (s.getContinuation continuation.continuationId)
  let settledAction ← required "settled action disappeared" (s.loadAction action.actionId)
  .ok (⟨settled, settledAction, command.identity⟩, s)

def settleMutation (outside : SettleOutside) (command : ContinuationSettleCommand)
    (actualSetDigest : Text) (s : Store) :
    Anyhow (AtomicReceiptMutation SettleMutationOutcome × Store) :=
  match s.receiptByCausationEvent command.outboxEvent.eventId with
  | some _ =>
    match loadSettleReplay s command actualSetDigest with
    | some (identity, status) => .ok (.noAppend (.replayed identity status), s)
    | none => .ok (.noAppend (.lost .claimIdentityMismatch), s)
  | none =>
    match s.validateClaimIdentityLive K setDigest command.identity command.trustedNow with
    | .error reason => .ok (.noAppend (.lost reason), s)
    | .ok (continuation, action) => do
      ensure (receiptRuntimeMismatchIdentity command.receipt command.identity = false)
        "settle receipt runtime is not the exact claim identity"
      ensure (command.receipt.actor = ⟨"runtime".toList, command.identity.runtimeActorIdentity,
          command.identity.runtimeAuthorityProvenanceId⟩)
        "settle receipt actor is not the exact claimed runtime authority"
      outside.runtimeReceiptActor
      match s.objectiveDrift continuation action .executing with
      | some reason => do
        let s ← supersedeWithReceiptFromSettle K command actualSetDigest continuation action s
        .ok (.append (.superseded reason), s)
      | none => do
        let (draft, s) ← writeSettle K command actualSetDigest continuation action s
        .ok (.append (.settled draft), s)

def settleOutcome : AtomicWrite SettleMutationOutcome → Anyhow ContinuationSettleOutcome
  | .appended (.settled draft) => .ok (.settled draft)
  | .noAppend (.replayed identity status) => .ok (.replayed identity status)
  | .appended (.superseded reason) => .ok (.superseded reason)
  | .noAppend (.lost reason) => .ok (.lost reason)
  | .stale => .ok .stale
  | _ => bail "atomic settle receipt coordinator returned an impossible outcome"

def settleContinuation (outside : SettleOutside) (command : ContinuationSettleCommand) (s : Store) :
    Anyhow (ContinuationSettleOutcome × Store) := do
  validateSettleCommand K command
  let actualSetDigest ← technicalResourceActualSetDigest K command.technicalResourceActuals
  let (written, s) ←
    mutateWithAtomicReceipt J command.receipt
      (settleMutation K setDigest outside command actualSetDigest) s
  .ok (← settleOutcome written, s)

end Settle

/-! The resolution of technical resources. A caller may choose that an undispatched claim expires or
that a possible invocation is recovered; a reconciliation needs recorder evidence. -/

section Resolve
variable (K : FenceCrates) (J : Coordinator) (setDigest : ReservationSetDigest)

inductive OpenResolution where
  | expireUndispatched | recoverPossiblyInvoked
  deriving DecidableEq

def openResolution : TechnicalResourceLifecycleResolution → Anyhow OpenResolution
  | .expireUndispatched => .ok .expireUndispatched
  | .recoverPossiblyInvoked => .ok .recoverPossiblyInvoked
  | _ => bail "caller-selected technical resource reconciliation is forbidden"

def OpenResolution.operation : OpenResolution → ContinuationOperation
  | .expireUndispatched => .expire
  | .recoverPossiblyInvoked => .recover

def OpenResolution.resultStatus : OpenResolution → ContinuationStatus
  | .expireUndispatched => .superseded
  | .recoverPossiblyInvoked => .uncertain

/-- The effect states a resolution leads from and to. -/
def OpenResolution.effectStates : OpenResolution → LogicalEffectState × LogicalEffectState
  | .expireUndispatched => (.claimed, .failed)
  | .recoverPossiblyInvoked => (.invoking, .outcomeUnknown)

def validateResourceLifecycleCommand (command : TechnicalResourceLifecycleCommand) :
    Anyhow Unit := do
  validateIdentity command.identity
  validateWriteOutboxReceipt K command.write command.outboxEvent command.receipt
    command.identity.continuationId command.trustedNow
  let authoritative ←
    technicalResourceLifecycleEvidenceReferenceDigest K command.receipt.evidence
  ensure (command.evidenceDigest = authoritative)
    "technical resource lifecycle evidence digest does not match its exact authoritative reference"
  ensure (command.technicalResourceActuals = [])
    "non-present technical resource lifecycle operation cannot record technical actuals"

def loadResourceLifecycleReplay (s : Store) (command : TechnicalResourceLifecycleCommand)
    (resolution : OpenResolution) (evidenceDigest : Text) : Option ContinuationClaimIdentity :=
  match loadOperationHistory s command.outboxEvent.eventId resolution.operation with
  | none => none
  | some h =>
    if h.identity = command.identity ∧ h.resultStatus = resolution.resultStatus ∧
        h.resourceSet = (s.loadResourceReservations command.identity.claimEventId).map
          (·.identity) ∧
        s.outboxEvents.find? command.outboxEvent.eventId = some command.outboxEvent ∧
        h.resourceEvidenceDigest = some evidenceDigest then some h.identity
    else none

/-- A host and a worker that still hold the claim. -/
def stillHeld (identity : ContinuationClaimIdentity) (trustedNow : Int)
    (runtime : RuntimeLease) (continuation : ContinuationRecord) (job : JobRecord) : Bool :=
  runtime.generation = identity.runtimeHostGeneration &&
    runtime.hostInstanceId = identity.runtimeHostInstanceId &&
    runtime.fencingToken = identity.runtimeFencingToken &&
    trustedNow < identity.jobLeaseExpiresAt &&
    continuation.leaseOwner = some identity.workerId &&
    continuation.leaseExpiresAt = some identity.jobLeaseExpiresAt &&
    jobLeaseMatches job identity.workerId identity.jobLeaseExpiresAt trustedNow

def Store.checkAbandoned (s : Store) (command : TechnicalResourceLifecycleCommand) :
    Anyhow Unit := do
  let runtime ← required "possible-invocation recovery requires a current runtime host"
    (s.currentRuntimeLease command.trustedNow)
  let continuation ← required "possible-invocation recovery lost its continuation"
    (s.getContinuation command.identity.continuationId)
  let job ← required "possible-invocation recovery lost its continuation job"
    (s.loadJobLease command.identity.jobId)
  ensure (stillHeld command.identity command.trustedNow runtime continuation job = false)
    "live possible invocation cannot be recovered as abandoned"

/-- An expiry needs no more: its reservations prove their deadline. -/
def Store.checkResolvable (s : Store) (command : TechnicalResourceLifecycleCommand) :
    OpenResolution → Anyhow Unit
  | .expireUndispatched => .ok ()
  | .recoverPossiblyInvoked => s.checkAbandoned command

def Store.resolveReservation (command : TechnicalResourceLifecycleCommand)
    (resolution : OpenResolution) (s : Store) (reservation : TechnicalResourceReservationRecord) :
    Anyhow Store :=
  match resolution with
  | .expireUndispatched => do
    ensure (reservation.status = .reserved ∧ reservation.expiresAt ≤ command.trustedNow)
      "technical reservation cannot expire without elapsed deadline and durable no-dispatch proof"
    s.moveReservation reservation.identity.reservationId .reserved .expired
      (some command.write.occurredAt) "technical resource reservation lost its expiry race"
  | .recoverPossiblyInvoked => do
    ensure (reservation.status = .reserved)
      "possible-invocation recovery requires a live reservation"
    s.moveReservation reservation.identity.reservationId .reserved .reconciliationRequired none
      "technical resource reservation lost its recovery race"

/-- The latest attempt of a recovered effect loses its outcome. -/
def Store.transitionAttemptForLifecycle (s : Store) (command : TechnicalResourceLifecycleCommand)
    (resolution : OpenResolution) (logicalEffectId : Text) : Anyhow Store :=
  match highest (fun first second => first.attemptNumber < second.attemptNumber)
      (s.providerAttempts.rows.filter (·.logicalEffectId = logicalEffectId)) with
  | none => .ok s
  | some latest =>
    match resolution with
    | .expireUndispatched => .ok s
    | .recoverPossiblyInvoked => do
      ensure (latest.status = .invoking)
        "possible-invocation recovery requires the latest provider attempt to be invoking"
      s.updateAttempts (fun row => row.attemptId = latest.attemptId && row.status = .invoking)
        (fun row => { row with
          status := .outcomeUnknown
          providerResponseDigest := some command.evidenceDigest
          finishedAt := some command.write.occurredAt }) (fun _ => rfl)
        "provider attempt lost its technical resource lifecycle transition"

def Store.applyResourceLifecycleTransition (s : Store)
    (command : TechnicalResourceLifecycleCommand) (resolution : OpenResolution) :
    Anyhow Store := do
  let reservations := s.loadResourceReservations command.identity.claimEventId
  let (delegationId, logicalEffectId) ←
    required "technical resource lifecycle operation requires a nonempty reservation set"
      (← singleClaimEffect reservations)
  let state ← required "Query returned no rows" (s.effectState delegationId logicalEffectId)
  ensure (state = resolution.effectStates.1)
    "technical resource lifecycle operation lacks the required durable effect proof"
  s.checkResolvable command resolution
  let s ← reservations.foldlM (Store.resolveReservation command resolution) s
  let s ← s.transitionAttemptForLifecycle command resolution logicalEffectId
  s.moveEffect delegationId logicalEffectId resolution.effectStates.1 resolution.effectStates.2
    command.write.occurredAt "logical effect lost its technical resource lifecycle transition"

def Store.closeResourceLifecycleContinuation (s : Store)
    (command : TechnicalResourceLifecycleCommand) (resolution : OpenResolution)
    (continuation : ContinuationRecord) (action : ActionBranchRecord) : Anyhow Store :=
  match resolution with
  | .expireUndispatched => s.supersedeContinuationAndAction continuation action
      command.write.occurredAt command.identity.workerId command.identity.jobLeaseExpiresAt
  | .recoverPossiblyInvoked => do
    ensure (continuation.status = .executing ∧ action.status = .executing)
      "possible-invocation recovery requires an executing continuation and action"
    let hit (row : ContinuationRecord) : Bool :=
      row.continuationId = continuation.continuationId &&
        row.delegationId = continuation.delegationId &&
        row.jobId = some command.identity.jobId && row.status = .executing &&
        row.leaseOwner = some command.identity.workerId &&
        row.leaseExpiresAt = some command.identity.jobLeaseExpiresAt &&
        row.fencingToken = command.identity.continuationFencingToken &&
        row.hostGeneration = command.identity.runtimeHostGeneration
    let next ← s.updateContinuations hit (fun row => { row with
      status := .uncertain
      leaseOwner := none
      leaseExpiresAt := none
      updatedAt := command.write.occurredAt
      completedAt := none }) fun _ => rfl
    ensure (s.continuations.matched hit = 1)
      "continuation lost its possible-invocation recovery race"
    let s ← next.updateActionStatus action .uncertain command.write.occurredAt
    s.closeJob (some command.identity.jobId) command.identity.workerId
      command.identity.jobLeaseExpiresAt
      "continuation job lost its possible-invocation recovery race"

/-- The writes of a resolution. -/
def writeResolution (command : TechnicalResourceLifecycleCommand) (resolution : OpenResolution)
    (evidenceDigest : Text) (continuation : ContinuationRecord) (action : ActionBranchRecord)
    (s : Store) : Anyhow Store := do
  let resourceSet ← claimResourceSet s command.identity
  let s ← s.insertOutbox command.outboxEvent
  let s ← s.insertOperationHistory {
    eventId := command.outboxEvent.eventId
    operation := resolution.operation
    resultStatus := resolution.resultStatus
    identity := command.identity
    resourceSet
    resourceEvidenceDigest := some evidenceDigest
    recordedAt := command.write.occurredAt }
  let s ← s.applyResourceLifecycleTransition command resolution
  s.closeResourceLifecycleContinuation command resolution continuation action

def resolveMutation (outside : SettleOutside) (command : TechnicalResourceLifecycleCommand)
    (resolution : OpenResolution) (evidenceDigest : Text) (s : Store) :
    Anyhow (AtomicReceiptMutation ResourceLifecycleOutcome × Store) :=
  match s.receiptByCausationEvent command.outboxEvent.eventId with
  | some _ =>
    match loadResourceLifecycleReplay s command resolution evidenceDigest with
    | some identity => .ok (.noAppend (.replayed identity), s)
    | none => .ok (.noAppend (.lost .claimIdentityMismatch), s)
  | none =>
    if s.validateClaimProvenance setDigest command.identity = false then
      .ok (.noAppend (.lost .claimIdentityMismatch), s)
    else do
      let continuation ← required "resource lifecycle continuation disappeared"
        (s.getContinuation command.identity.continuationId)
      if continuation.delegationId ≠ command.identity.delegationId ∨
          continuation.actionId ≠ command.identity.actionId ∨
          continuation.fencingToken ≠ command.identity.continuationFencingToken then
        .ok (.noAppend (.lost .claimIdentityMismatch), s)
      else match s.currentRuntimeLease command.trustedNow with
      | none => .ok (.noAppend (.lost .runtimeHostLeaseLostOrExpired), s)
      | some runtime => do
        ensure (receiptRuntimeMismatch command.receipt runtime = false)
          "resource lifecycle receipt is not from the current runtime host"
        let d ← required "resource lifecycle delegation disappeared"
          (s.getDelegation command.identity.delegationId)
        ensure (command.receipt.actor = derivedRuntimeActor K runtime d.policyRevision)
          "continuation receipt actor is not the server-derived runtime authority"
        outside.runtimeReceiptActor
        let action ← required "resource lifecycle action disappeared"
          (s.loadAction continuation.actionId)
        let s ← writeResolution command resolution evidenceDigest continuation action s
        .ok (.append (.applied command.identity), s)

def resolveOutcome : AtomicWrite ResourceLifecycleOutcome → Anyhow ResourceLifecycleOutcome
  | .appended (.applied identity) => .ok (.applied identity)
  | .noAppend (.replayed identity) => .ok (.replayed identity)
  | .noAppend (.lost reason) => .ok (.lost reason)
  | .stale => .ok .stale
  | _ => bail "resource lifecycle receipt coordinator returned an impossible outcome"

def resolveTechnicalResources (outside : SettleOutside)
    (command : TechnicalResourceLifecycleCommand) (s : Store) :
    Anyhow (ResourceLifecycleOutcome × Store) := do
  let resolution ← openResolution command.resolution
  validateResourceLifecycleCommand K command
  let evidenceDigest ← technicalResourceLifecycleEvidenceDigest K command
  let (written, s) ← mutateWithAtomicReceipt J command.receipt
    (resolveMutation K setDigest outside command resolution evidenceDigest) s
  .ok (← resolveOutcome written, s)

end Resolve

end CarsinOS.Delegation
