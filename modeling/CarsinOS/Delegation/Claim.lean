import Mathlib.Data.Prod.Lex
import CarsinOS.Receipt.Append
import CarsinOS.Delegation.Rebuild

/-! The claim of a continuation and the check before its dispatch. -/
namespace CarsinOS.Delegation
open CarsinOS.Lib CarsinOS.Integrity CarsinOS.Receipt

/-- The parts of third-party crates the fence uses. -/
structure FenceCrates where
  sha256 : List UInt8 → Text
  validJson : Text → Bool

inductive ContinuationStaleReason where
  | notFound | jobBindingMismatch | jobLeaseLostOrExpired | jobPayloadMismatch
  | continuationNotRunnable | continuationNotExecuting | claimIdentityMismatch | actionStateDrift
  | delegationRevisionDrift | planRevisionDrift | policyRevisionDrift | missingCurrentCriteria
  | delegationRunControlDrift | delegationStopEpochDrift | globalStopEngaged
  | globalStopEpochDrift | technicalQuotaPolicyDrift | technicalQuotaSnapshotDrift
  | technicalResourceUnavailable | technicalReservationMissingOrChanged
  | technicalReservationExpired | runtimeHostLeaseLostOrExpired
  deriving DecidableEq

/-! The mutation that appends a receipt, as the tables of a delegation see it. -/

/-- What the receipt coordinator finds outside of these tables: whether the anchor and the keys are
usable, whether the chain heads are the expected ones, and whether the receipt can be written. -/
structure Coordinator where
  available : Bool
  headsMatch : Bool
  appends : Bool

inductive AtomicWrite (T : Type) where
  | appended (value : T)
  | noAppend (value : T)
  | stale

def receiptRowOf (command : AppendReceiptCommand) : ReceiptRow where
  receiptId := command.receiptId
  causationEventId := command.causationEventId
  continuationSubject :=
    if command.receiptKind = .continuation ∧ command.subject.kind = .continuation then
      some command.subject.subjectId
    else none
  runtimeActor :=
    if command.actor.actorType = "runtime".toList then
      some (command.actor.actorIdentity, command.actor.authorityProvenanceId)
    else none
  hostGeneration := command.runtime.hostGeneration
  hostInstanceId := command.runtime.hostInstanceId
  fencingToken := command.runtime.fencingToken

def mutateWithAtomicReceiptAtRevision {T : Type} (J : Coordinator) (command : AppendReceiptCommand)
    (expectedPreStateRevision : Int) (precheckRevisionBeforeMutation : Bool)
    (mutation : Store → Anyhow (AtomicReceiptMutation T × Store)) (s : Store) :
    Anyhow (AtomicWrite T × Store) := do
  ensure (J.available = true) "receipt integrity is not available"
  match s.receiptByCausationEvent command.causationEventId with
  | some _ => do
    let (mutated, next) ← mutation s
    match mutated with
    | .noAppend value => .ok (.noAppend value, next)
    | .append _ => bail "existing atomic receipt cannot be appended again"
  | none =>
    match s.getDelegation command.delegationId with
    | none => bail "ExecAss receipt delegation does not exist"
    | some before => do
      let snapshotMatches := before.stateRevision = expectedPreStateRevision && J.headsMatch
      if precheckRevisionBeforeMutation && !snapshotMatches then .ok (.stale, s)
      else do
        let (mutated, next) ← mutation s
        match mutated with
        | .noAppend value => .ok (.noAppend value, next)
        | .append value =>
          if snapshotMatches = false then .ok (.stale, s)
          else
            match next.getDelegation command.delegationId with
            | none => bail "Query returned no rows"
            | some after => do
              ensure (after.stateRevision = command.expectedStateRevision)
                "atomic aggregate mutation did not produce the receipt revision"
              ensure (J.appends = true) "failed inserting canonical atomic ExecAss receipt"
              .ok (.appended value, { next with receipts := next.receipts ++ [receiptRowOf command] })

def mutateWithAtomicReceipt {T : Type} (J : Coordinator) (command : AppendReceiptCommand)
    (mutation : Store → Anyhow (AtomicReceiptMutation T × Store)) (s : Store) :
    Anyhow (AtomicWrite T × Store) :=
  mutateWithAtomicReceiptAtRevision J command command.expectedStateRevision false mutation s

def mutateWithAdvancingAtomicReceipt {T : Type} (J : Coordinator)
    (expectedPreStateRevision : Int) (command : AppendReceiptCommand)
    (mutation : Store → Anyhow (AtomicReceiptMutation T × Store)) (s : Store) :
    Anyhow (AtomicWrite T × Store) :=
  mutateWithAtomicReceiptAtRevision J command expectedPreStateRevision true mutation s

/-! The commands of the fence. -/

structure ContinuationClaimCommand where
  write : WriteContext
  continuationId : Text
  jobId : Text
  workerId : Text
  jobLeaseExpiresAt : Int
  trustedNow : Int
  outboxEvent : NewOutboxEvent
  receipt : AppendReceiptCommand

structure ContinuationDispatchValidationCommand where
  identity : ContinuationClaimIdentity
  trustedNow : Int

structure RuntimeLease where
  stateRootGeneration : Int
  generation : Int
  hostInstanceId : Text
  fencingToken : Int

structure ResourceBundleDraft where
  logicalEffectId : Option Text
  quotaSnapshotId : Option Text
  identities : List TechnicalResourceReservationIdentity
  digest : Text

structure ClaimDraft where
  continuation : ContinuationRecord
  action : ActionBranchRecord
  identity : ContinuationClaimIdentity

inductive ClaimMutationOutcome where
  | claimed (draft : ClaimDraft)
  | replayed (identity : ContinuationClaimIdentity) (resultStatus : ContinuationStatus)
  | superseded (reason : ContinuationStaleReason)
  | lost (reason : ContinuationStaleReason)

inductive ContinuationClaimOutcome where
  | claimed (draft : ClaimDraft)
  | replayed (identity : ContinuationClaimIdentity) (resultStatus : ContinuationStatus)
  | superseded (reason : ContinuationStaleReason)
  | lost (reason : ContinuationStaleReason)
  | stale

inductive ContinuationDispatchValidationOutcome where
  | valid
  | stale (reason : ContinuationStaleReason)

/-! What the fence compares. -/

def jobLeaseMatches (job : JobRecord) (worker : Text) (expiresAt trustedNow : Int) : Bool :=
  job.leaseOwner = some worker && job.leaseExpiresAt = some expiresAt && trustedNow < expiresAt

def EXECASS_CONTINUATION_JOB_MODE : Text := "execass.continuation".toList

def jobPayloadMatches (payload : JobPayload) (continuation : ContinuationRecord) : Bool :=
  payload.mode = some EXECASS_CONTINUATION_JOB_MODE &&
    payload.continuationId = some continuation.continuationId &&
    payload.delegationId = some continuation.delegationId &&
    payload.actionId = some continuation.actionId &&
    payload.targetDelegationRevision = some continuation.targetDelegationRevision &&
    payload.targetPlanRevision = some continuation.targetPlanRevision &&
    payload.branchKind = some continuation.branchKind &&
    payload.causationKind = some continuation.causationKind &&
    payload.causationId = some continuation.causationId

def Store.loadJobLease (s : Store) (jobId : Text) : Option JobRecord :=
  (s.jobs.find? jobId).filter (!·.deleted)

/-- The leases of the running host, with the generation each belongs to. -/
def Store.liveLeases (s : Store) (trustedNow : Int) : List RuntimeLease :=
  s.hostLeases.flatMap fun lease =>
    (s.hostGenerations.filter fun g => g.generation = lease.generation &&
      g.hostInstanceId = lease.hostInstanceId && g.endedAt = none && lease.releasedAt = none &&
      trustedNow < lease.expiresAt).map fun g =>
        ⟨g.stateRootGeneration, lease.generation, lease.hostInstanceId, lease.fencingToken⟩

def Store.currentRuntimeLease (s : Store) (trustedNow : Int) : Option RuntimeLease :=
  highest (fun first second => first.generation < second.generation ||
    first.generation = second.generation && first.fencingToken < second.fencingToken)
    (s.liveLeases trustedNow)

def Store.exactRuntimeLease (s : Store) (identity : ContinuationClaimIdentity) (trustedNow : Int) :
    Bool :=
  (s.liveLeases trustedNow).any fun lease => lease.generation = identity.runtimeHostGeneration &&
    lease.hostInstanceId = identity.runtimeHostInstanceId &&
    lease.fencingToken = identity.runtimeFencingToken &&
    lease.stateRootGeneration = identity.stateRootGeneration

def receiptRuntimeMismatch (receipt : AppendReceiptCommand) (runtime : RuntimeLease) : Bool :=
  receipt.stateRootGeneration ≠ runtime.stateRootGeneration ||
    receipt.runtime.hostGeneration ≠ runtime.generation ||
    receipt.runtime.hostInstanceId ≠ runtime.hostInstanceId ||
    receipt.runtime.fencingToken ≠ runtime.fencingToken

/-- The drift of a continuation from the delegation and the controls it was frozen for. -/
def Store.objectiveDrift (s : Store) (continuation : ContinuationRecord)
    (action : ActionBranchRecord) (expectedActionStatus : ContinuationStatus) :
    Option ContinuationStaleReason :=
  match s.getDelegation continuation.delegationId with
  | none => some .notFound
  | some d =>
    if d.currentPlanRevision ≠ some continuation.targetPlanRevision then some .planRevisionDrift
    else if d.currentCriteriaRevision = none then some .missingCurrentCriteria
    else match s.plans.find? (continuation.delegationId, continuation.targetPlanRevision) with
      | none => some .planRevisionDrift
      | some plan =>
        if plan.policyRevision ≠ d.policyRevision then some .policyRevisionDrift
        else if d.runControl ≠ .running then some .delegationRunControlDrift
        else if d.stopEpoch ≠ continuation.stopEpoch then some .delegationStopEpochDrift
        else if d.stateRevision ≠ continuation.targetDelegationRevision then
          some .delegationRevisionDrift
        else if s.globalControl.engaged then some .globalStopEngaged
        else if s.globalControl.globalStopEpoch ≠ continuation.globalStopEpoch then
          some .globalStopEpochDrift
        else if action.delegationId ≠ continuation.delegationId ∨
            action.actionId ≠ continuation.actionId ∨
            action.targetDelegationRevision ≠ continuation.targetDelegationRevision ∨
            action.targetPlanRevision ≠ continuation.targetPlanRevision ∨
            action.stopEpoch ≠ continuation.stopEpoch ∨
            action.branchKind ≠ continuation.branchKind ∨
            action.status ≠ expectedActionStatus then some .actionStateDrift
        else none

/-- A continuation that has not drifted targets the revision and the epochs that are live. -/
theorem objectiveDrift_none {s : Store} {continuation : ContinuationRecord}
    {action : ActionBranchRecord} {expected : ContinuationStatus}
    (current : s.objectiveDrift continuation action expected = none) :
    ∃ d, s.getDelegation continuation.delegationId = some d ∧ d.runControl = .running ∧
      d.stopEpoch = continuation.stopEpoch ∧
      d.stateRevision = continuation.targetDelegationRevision ∧
      s.globalControl.engaged = false ∧
      s.globalControl.globalStopEpoch = continuation.globalStopEpoch ∧ action.status = expected := by
  unfold Store.objectiveDrift at current
  split at current
  · cases current
  · rename_i d found
    refine ⟨d, found, ?_⟩
    split at current
    · cases current
    split at current
    · cases current
    split at current
    · cases current
    split at current
    · cases current
    split at current
    · cases current
    split at current
    · cases current
    split at current
    · cases current
    split at current
    · cases current
    split at current
    · cases current
    split at current
    · cases current
    · rename_i running epoch revision engaged globalEpoch action
      simp only [not_or, not_not, ne_eq] at *
      simp_all

/-! The checks on the commands. -/

section Commands
variable (K : FenceCrates)

def validateOutbox (event : NewOutboxEvent) : Anyhow Unit := do
  requireText "event_id" event.eventId
  requireText "outbox.aggregate_id" event.aggregateId
  requireText "outbox.correlation_id" event.correlationId
  requireText "outbox.causation_id" event.causationId
  requireText "outbox.duplicate_identity" event.duplicateIdentity
  ensure (K.validJson event.safePayloadJson = true) "safe_payload_json must contain valid JSON"

def validateWriteOutboxReceipt (write : WriteContext) (outbox : NewOutboxEvent)
    (receipt : AppendReceiptCommand) (continuationId : Text) (trustedNow : Int) : Anyhow Unit := do
  requireText "write.idempotency_key" write.idempotencyKey
  requireText "write.correlation_id" write.correlationId
  requireText "write.causation_id" write.causationId
  ensure (0 < trustedNow ∧ 0 < write.occurredAt)
    "continuation operation requires positive trusted times"
  validateOutbox K outbox
  ensure (outbox.eventName = .continuationClaimedOrResultRecorded ∧
      outbox.causationId = write.causationId ∧ outbox.duplicateIdentity = write.idempotencyKey ∧
      outbox.correlationId = write.correlationId ∧ outbox.occurredAt = write.occurredAt ∧
      receipt.receiptKind = .continuation ∧ receipt.subject.kind = .continuation ∧
      receipt.subject.subjectId = continuationId ∧ receipt.causationId = write.causationId ∧
      receipt.causationEventId = outbox.eventId ∧ receipt.occurredAt = write.occurredAt ∧
      write.occurredAt ≤ receipt.committedAt)
    "continuation write, outbox, and receipt identities do not match"

def validateClaimCommand (command : ContinuationClaimCommand) : Anyhow Unit := do
  requireText "continuation_id" command.continuationId
  requireText "job_id" command.jobId
  requireText "worker_id" command.workerId
  validateWriteOutboxReceipt K command.write command.outboxEvent command.receipt
    command.continuationId command.trustedNow
  ensure (command.trustedNow < command.jobLeaseExpiresAt)
    "claim cannot accept an expired job lease or the expiry boundary"

def validateClaimReceiptIdentity (command : ContinuationClaimCommand)
    (continuation : ContinuationRecord) : Anyhow Unit :=
  ensure (command.outboxEvent.aggregateId = continuation.delegationId ∧
      command.outboxEvent.aggregateRevision = continuation.targetDelegationRevision ∧
      command.receipt.delegationId = continuation.delegationId ∧
      command.receipt.expectedStateRevision = continuation.targetDelegationRevision ∧
      command.receipt.subject.revision = continuation.targetDelegationRevision)
    "claim receipt does not target the exact continuation delegation revision"

def validateIdentity (identity : ContinuationClaimIdentity) : Anyhow Unit := do
  requireText "identity.claim_event_id" identity.claimEventId
  requireText "identity.claim_receipt_id" identity.claimReceiptId
  requireText "identity.continuation_id" identity.continuationId
  requireText "identity.delegation_id" identity.delegationId
  requireText "identity.action_id" identity.actionId
  requireText "identity.job_id" identity.jobId
  requireText "identity.worker_id" identity.workerId
  requireText "identity.runtime_host_instance_id" identity.runtimeHostInstanceId
  requireText "identity.runtime_authority_provenance_id" identity.runtimeAuthorityProvenanceId
  requireText "identity.runtime_actor_identity" identity.runtimeActorIdentity
  requireText "identity.technical_quota_policy_digest" identity.technicalQuotaPolicyDigest
  ensure (0 < identity.jobLeaseExpiresAt ∧ 0 < identity.continuationFencingToken ∧
      0 < identity.runtimeHostGeneration ∧ 0 < identity.runtimeFencingToken ∧
      0 < identity.stateRootGeneration ∧ 0 < identity.policyRevision ∧
      0 ≤ identity.globalStopEpoch) "claim identity has invalid lease, fence, host, or epoch"

def technicalQuotaPolicyDigest (policyRevision : Int) (effectiveAuthorityJson : Text) : Text :=
  "sha256:".toList ++ K.sha256 (utf8Bytes "carsinos.execass.technical_quota_policy.v1".toList ++
    [0] ++ i64Bytes policyRevision ++ [0] ++ utf8Bytes effectiveAuthorityJson)

/-- The digest in the names of the runtime authority of a policy revision. -/
def runtimeIdentityHex (runtime : RuntimeLease) (policyRevision : Int) : Text :=
  K.sha256 (utf8Bytes "carsinos.execass.runtime_actor.v1".toList ++ [0] ++
    i64Bytes runtime.generation ++ [0] ++ utf8Bytes runtime.hostInstanceId ++ [0] ++
    i64Bytes runtime.fencingToken ++ [0] ++ i64Bytes policyRevision)

def derivedRuntimeActor (runtime : RuntimeLease) (policyRevision : Int) : ReceiptActorBinding where
  actorType := "runtime".toList
  actorIdentity := "execass-runtime-".toList ++ runtimeIdentityHex K runtime policyRevision
  authorityProvenanceId := "runtime-authority-".toList ++ runtimeIdentityHex K runtime policyRevision

def identityFromParts (continuation : ContinuationRecord) (action : ActionBranchRecord)
    (command : ContinuationClaimCommand) (runtime : RuntimeLease) (d : DelegationRecord)
    (bundle : ResourceBundleDraft) : Anyhow ContinuationClaimIdentity := do
  let continuationFencingToken ←
    checkedNext continuation.fencingToken "continuation fencing token overflow"
  .ok {
    claimEventId := command.outboxEvent.eventId
    claimReceiptId := command.receipt.receiptId
    continuationId := continuation.continuationId
    delegationId := continuation.delegationId
    actionId := action.actionId
    jobId := command.jobId
    workerId := command.workerId
    jobLeaseExpiresAt := command.jobLeaseExpiresAt
    continuationFencingToken
    runtimeHostGeneration := runtime.generation
    runtimeHostInstanceId := runtime.hostInstanceId
    runtimeFencingToken := runtime.fencingToken
    stateRootGeneration := runtime.stateRootGeneration
    runtimeAuthorityProvenanceId :=
      (derivedRuntimeActor K runtime d.policyRevision).authorityProvenanceId
    runtimeActorIdentity := (derivedRuntimeActor K runtime d.policyRevision).actorIdentity
    policyRevision := d.policyRevision
    globalStopEpoch := continuation.globalStopEpoch
    technicalQuotaPolicyDigest :=
      technicalQuotaPolicyDigest K d.policyRevision d.effectiveAuthorityJson
    technicalQuotaSnapshotId := bundle.quotaSnapshotId
    technicalResourceReservationSetDigest := bundle.digest }

end Commands

/-! The writes of a claim. -/

def terminalAt (status : ContinuationStatus) (occurredAt : Int) : Option Int :=
  if status = .terminal ∨ status = .superseded then some occurredAt else none

def Store.updateActionStatus (s : Store) (action : ActionBranchRecord) (status : ContinuationStatus)
    (occurredAt : Int) : Anyhow Store := do
  let hit (row : ActionBranchRecord) : Bool := row.actionId = action.actionId &&
    row.delegationId = action.delegationId && row.status = action.status
  let next ← s.updateBranches hit (fun row => { row with
    status, updatedAt := occurredAt, terminalAt := terminalAt status occurredAt }) fun _ => rfl
  ensure (s.actionBranches.matched hit = 1) "action branch lost its continuation status race"
  .ok next

def Store.closeJob (s : Store) (jobId : Option Text) (worker : Text) (expiresAt : Int)
    (lost : String) : Anyhow Store := do
  let hit (row : JobRecord) : Bool := some row.jobId = jobId && row.leaseOwner = some worker &&
    row.leaseExpiresAt = some expiresAt && row.payload.mode = some EXECASS_CONTINUATION_JOB_MODE
  ensure (s.jobs.matched hit = 1) lost
  .ok { s with jobs := s.jobs.update hit (fun row => { row with
    enabled := false, nextRunAt := none, leaseOwner := none, leaseExpiresAt := none }) fun _ => rfl }

def Store.supersedeContinuationAndAction (s : Store) (continuation : ContinuationRecord)
    (action : ActionBranchRecord) (occurredAt : Int) (workerId : Text) (jobLeaseExpiresAt : Int) :
    Anyhow Store := do
  let s ← s.updateContinuations (fun row => row.continuationId = continuation.continuationId &&
      row.delegationId = continuation.delegationId && isCurrent row)
    (fun row => { row with
      status := .superseded, leaseOwner := none, leaseExpiresAt := none
      updatedAt := occurredAt, completedAt := some occurredAt }) fun _ => rfl
  let s ← s.updateActionStatus action .superseded occurredAt
  s.closeJob continuation.jobId workerId jobLeaseExpiresAt
    "continuation job lost its supersede lease race"

def Store.insertOperationHistory (s : Store) (row : OperationHistoryRecord) : Anyhow Store := do
  ensure (∀ other ∈ s.operationHistory.rows, row.operation ≠ .reconcile →
      (other.identity.continuationId, other.identity.continuationFencingToken, other.operation) ≠
        (row.identity.continuationId, row.identity.continuationFencingToken, row.operation))
    "failed inserting immutable continuation operation history"
  match s.operationHistory.insert? row with
  | some operationHistory => .ok { s with operationHistory }
  | none => bail "failed inserting immutable continuation operation history"

def Store.insertResourceReservations (s : Store) (claim : ContinuationClaimIdentity)
    (identities : List TechnicalResourceReservationIdentity) (createdAt : Int) : Anyhow Store :=
  identities.foldlM (fun s identity => s.insertReservation {
    identity
    delegationId := claim.delegationId
    continuationId := claim.continuationId
    claimEventId := claim.claimEventId
    claimReceiptId := claim.claimReceiptId
    status := .reserved
    continuationFencingToken := claim.continuationFencingToken
    runtimeHostGeneration := claim.runtimeHostGeneration
    runtimeFencingToken := claim.runtimeFencingToken
    createdAt
    expiresAt := claim.jobLeaseExpiresAt
    settledAt := none }) s

def Store.claimLogicalEffect (s : Store) (delegationId : Text) (logicalEffectId : Option Text)
    (occurredAt : Int) : Anyhow Store :=
  match logicalEffectId with
  | none => .ok s
  | some id => do
    let hit (row : LogicalEffectRecord) : Bool := row.delegationId = delegationId &&
      row.logicalEffectId = id && row.state = .planned
    ensure (s.logicalEffects.matched hit = 1) "logical effect lost its atomic claim transition"
    .ok { s with logicalEffects := s.logicalEffects.update hit (fun row => { row with
      state := .claimed, updatedAt := occurredAt }) fun _ => rfl }

/-- What a claim reads of other tables: that the derived runtime authority is the stored one, and
what the quota of the delegation grants. -/
structure ClaimOutside where
  runtimeReceiptActor : Anyhow Unit
  resourceBundle : Anyhow (Option ResourceBundleDraft)

section Claim
variable (K : FenceCrates) (J : Coordinator)

def loadOperationHistory (s : Store) (eventId : Text) (operation : ContinuationOperation) :
    Option OperationHistoryRecord :=
  (s.operationHistory.find? eventId).filter (·.operation = operation)

def loadClaimReplay (s : Store) (command : ContinuationClaimCommand) :
    Option (ContinuationClaimIdentity × ContinuationStatus) :=
  match loadOperationHistory s command.outboxEvent.eventId .claim with
  | none => none
  | some h =>
    if h.resultStatus = .executing ∧ h.identity.continuationId = command.continuationId ∧
        h.identity.jobId = command.jobId ∧ h.identity.workerId = command.workerId ∧
        h.identity.jobLeaseExpiresAt = command.jobLeaseExpiresAt ∧
        h.identity.claimEventId = command.outboxEvent.eventId ∧
        h.identity.claimReceiptId = command.receipt.receiptId ∧
        h.identity.stateRootGeneration = command.receipt.stateRootGeneration ∧
        h.identity.runtimeHostGeneration = command.receipt.runtime.hostGeneration ∧
        h.identity.runtimeHostInstanceId = command.receipt.runtime.hostInstanceId ∧
        h.identity.runtimeFencingToken = command.receipt.runtime.fencingToken ∧
        h.identity.runtimeAuthorityProvenanceId = command.receipt.actor.authorityProvenanceId ∧
        h.identity.runtimeActorIdentity = command.receipt.actor.actorIdentity ∧
        s.outboxEvents.find? command.outboxEvent.eventId = some command.outboxEvent ∧
        (s.receiptByCausationEvent command.outboxEvent.eventId).map (·.receiptId) =
          some command.receipt.receiptId then some (h.identity, h.resultStatus)
    else none

/-- The writes of a claim that has not drifted. -/
def writeClaim (command : ContinuationClaimCommand) (continuation : ContinuationRecord)
    (action : ActionBranchRecord) (identity : ContinuationClaimIdentity)
    (bundle : ResourceBundleDraft) (s : Store) : Anyhow (ClaimDraft × Store) := do
  let s ← s.insertOperationHistory {
    eventId := command.outboxEvent.eventId
    operation := .claim
    resultStatus := .executing
    identity
    resourceSet := bundle.identities
    resourceEvidenceDigest := none
    recordedAt := command.write.occurredAt }
  let s ← s.insertResourceReservations identity bundle.identities command.write.occurredAt
  let s ← s.claimLogicalEffect continuation.delegationId bundle.logicalEffectId
    command.write.occurredAt
  let hit (row : ContinuationRecord) : Bool :=
    row.continuationId = continuation.continuationId &&
      row.delegationId = continuation.delegationId && row.jobId = some command.jobId &&
      row.status = .runnable && row.fencingToken = continuation.fencingToken &&
      row.stopEpoch = continuation.stopEpoch && row.globalStopEpoch = continuation.globalStopEpoch
  let next ← s.updateContinuations hit (fun row => { row with
    status := .executing
    leaseOwner := some command.workerId
    leaseExpiresAt := some command.jobLeaseExpiresAt
    fencingToken := identity.continuationFencingToken
    hostGeneration := identity.runtimeHostGeneration
    updatedAt := command.write.occurredAt }) fun _ => rfl
  ensure (s.continuations.matched hit = 1) "continuation lost its claim race"
  let s ← next.updateActionStatus action .executing command.write.occurredAt
  let claimed ← required "claimed continuation disappeared"
    (s.getContinuation continuation.continuationId)
  let claimedAction ← required "claimed action disappeared" (s.loadAction action.actionId)
  .ok (⟨claimed, claimedAction, identity⟩, s)

/-- The claim of a runnable continuation whose job is leased. -/
def claimRunnable (outside : ClaimOutside) (command : ContinuationClaimCommand)
    (continuation : ContinuationRecord) (s : Store) :
    Anyhow (AtomicReceiptMutation ClaimMutationOutcome × Store) :=
  match s.loadAction continuation.actionId with
  | none => .ok (.noAppend (.lost .actionStateDrift), s)
  | some action =>
    match s.currentRuntimeLease command.trustedNow with
    | none => .ok (.noAppend (.lost .runtimeHostLeaseLostOrExpired), s)
    | some runtime => do
      ensure (receiptRuntimeMismatch command.receipt runtime = false)
        "claim receipt runtime is not the current live host lease"
      let d ← required "claim delegation disappeared" (s.getDelegation continuation.delegationId)
      ensure (command.receipt.actor = derivedRuntimeActor K runtime d.policyRevision)
        "continuation receipt actor is not the server-derived runtime authority"
      outside.runtimeReceiptActor
      match s.objectiveDrift continuation action .runnable with
      | some reason => do
        validateClaimReceiptIdentity command continuation
        let s ← s.insertOutbox command.outboxEvent
        let s ← s.supersedeContinuationAndAction continuation action command.write.occurredAt
          command.workerId command.jobLeaseExpiresAt
        .ok (.append (.superseded reason), s)
      | none => do
        validateClaimReceiptIdentity command continuation
        match ← outside.resourceBundle with
        | none => .ok (.noAppend (.lost .technicalResourceUnavailable), s)
        | some bundle => do
          let s ← s.insertOutbox command.outboxEvent
          let identity ← identityFromParts K continuation action command runtime d bundle
          let (draft, s) ← writeClaim command continuation action identity bundle s
          .ok (.append (.claimed draft), s)

def claimMutation (outside : ClaimOutside) (command : ContinuationClaimCommand) (s : Store) :
    Anyhow (AtomicReceiptMutation ClaimMutationOutcome × Store) :=
  match s.receiptByCausationEvent command.outboxEvent.eventId with
  | some _ =>
    match loadClaimReplay s command with
    | some (identity, status) => .ok (.noAppend (.replayed identity status), s)
    | none => .ok (.noAppend (.lost .claimIdentityMismatch), s)
  | none =>
    match s.loadJobLease command.jobId with
    | none => .ok (.noAppend (.lost .jobBindingMismatch), s)
    | some job =>
      if jobLeaseMatches job command.workerId command.jobLeaseExpiresAt command.trustedNow = false
      then .ok (.noAppend (.lost .jobLeaseLostOrExpired), s)
      else
        match s.getContinuation command.continuationId with
        | none => .ok (.noAppend (.lost .notFound), s)
        | some continuation =>
          if continuation.jobId ≠ some command.jobId ∨
              jobPayloadMatches job.payload continuation = false then
            .ok (.noAppend (.lost .jobPayloadMismatch), s)
          else if continuation.status ≠ .runnable then
            .ok (.noAppend (.lost .continuationNotRunnable), s)
          else claimRunnable K outside command continuation s

def claimOutcome : AtomicWrite ClaimMutationOutcome → Anyhow ContinuationClaimOutcome
  | .appended (.claimed draft) => .ok (.claimed draft)
  | .noAppend (.replayed identity status) => .ok (.replayed identity status)
  | .appended (.superseded reason) => .ok (.superseded reason)
  | .noAppend (.lost reason) => .ok (.lost reason)
  | .stale => .ok .stale
  | _ => bail "atomic claim receipt coordinator returned an impossible outcome"

def claimContinuation (outside : ClaimOutside) (command : ContinuationClaimCommand) (s : Store) :
    Anyhow (ContinuationClaimOutcome × Store) := do
  validateClaimCommand K command
  let (written, s) ←
    mutateWithAtomicReceipt J command.receipt (claimMutation K outside command) s
  .ok (← claimOutcome written, s)

end Claim

/-! The check of a claim identity. -/

section Live
variable (K : FenceCrates)

/-- The digest of a set of reservations. -/
abbrev ReservationSetDigest := List TechnicalResourceReservationIdentity → Text

def resourceIdentitySetDigest : ReservationSetDigest := fun identities =>
  let tree (identity : TechnicalResourceReservationIdentity) : Json := .obj [
    ("reservation_id".toList, .str identity.reservationId),
    ("quota_snapshot_id".toList, .str identity.quotaSnapshotId),
    ("logical_effect_id".toList, .str identity.logicalEffectId),
    ("technical_resource_kind".toList, .str identity.technicalResourceKind),
    ("unit".toList, .str identity.unit),
    ("amount_reserved".toList, .num (toString identity.amountReserved).toList)]
  "sha256:".toList ++ K.sha256 (
    utf8Bytes "carsinos.execass.technical-resource.reservation-set.v1".toList ++ [0] ++
    utf8Bytes (Json.arr (identities.map tree)).print)

variable (setDigest : ReservationSetDigest)

/-- The identities of a claim's reservations, in the order of their kind and unit. -/
def Store.loadResourceReservations (s : Store) (claimEventId : Text) :
    List TechnicalResourceReservationRecord :=
  (s.reservations.rows.filter (·.claimEventId = claimEventId)).insertionSort fun first second =>
    toLex (first.identity.technicalResourceKind, first.identity.unit) ≤
      toLex (second.identity.technicalResourceKind, second.identity.unit)

def Store.validateClaimProvenance (s : Store) (identity : ContinuationClaimIdentity) : Bool :=
  match loadOperationHistory s identity.claimEventId .claim with
  | none => false
  | some h => h.identity = identity && h.resultStatus = .executing &&
      setDigest h.resourceSet = identity.technicalResourceReservationSetDigest &&
      s.receipts.any fun row => row.receiptId = identity.claimReceiptId &&
        row.causationEventId = identity.claimEventId &&
        row.continuationSubject = some identity.continuationId &&
        row.runtimeActor = some (identity.runtimeActorIdentity,
          identity.runtimeAuthorityProvenanceId) &&
        row.hostGeneration = identity.runtimeHostGeneration &&
        row.hostInstanceId = identity.runtimeHostInstanceId &&
        row.fencingToken = identity.runtimeFencingToken &&
        s.hostGenerations.any fun g => g.generation = row.hostGeneration &&
          g.hostInstanceId = row.hostInstanceId &&
          g.stateRootGeneration = identity.stateRootGeneration

def reservationChanged (identity : ContinuationClaimIdentity)
    (row : TechnicalResourceReservationRecord) : Bool :=
  some row.identity.quotaSnapshotId ≠ identity.technicalQuotaSnapshotId ||
    row.delegationId ≠ identity.delegationId || row.continuationId ≠ identity.continuationId ||
    row.claimReceiptId ≠ identity.claimReceiptId ||
    row.continuationFencingToken ≠ identity.continuationFencingToken ||
    row.runtimeHostGeneration ≠ identity.runtimeHostGeneration ||
    row.runtimeFencingToken ≠ identity.runtimeFencingToken || row.status ≠ .reserved

def firstReservationDrift (identity : ContinuationClaimIdentity) (trustedNow : Int) :
    List TechnicalResourceReservationRecord → Option ContinuationStaleReason
  | [] => none
  | row :: rest =>
    if reservationChanged identity row then some .technicalReservationMissingOrChanged
    else if row.expiresAt ≤ trustedNow then some .technicalReservationExpired
    else firstReservationDrift identity trustedNow rest

def Store.validateClaimReservationsLive (s : Store) (identity : ContinuationClaimIdentity)
    (trustedNow : Int) : Option ContinuationStaleReason :=
  let reservations := s.loadResourceReservations identity.claimEventId
  let liveIdentities := reservations.map (·.identity)
  match loadOperationHistory s identity.claimEventId .claim with
  | none => some .technicalReservationMissingOrChanged
  | some h =>
    if h.identity ≠ identity ∨ h.resultStatus ≠ .executing ∨ h.resourceSet ≠ liveIdentities ∨
        setDigest liveIdentities ≠ identity.technicalResourceReservationSetDigest then
      some .technicalReservationMissingOrChanged
    else if identity.technicalQuotaSnapshotId.isNone ≠ reservations.isEmpty then
      some .technicalQuotaSnapshotDrift
    else firstReservationDrift identity trustedNow reservations

def Store.validateClaimIdentityLive (s : Store) (identity : ContinuationClaimIdentity)
    (trustedNow : Int) :
    Except ContinuationStaleReason (ContinuationRecord × ActionBranchRecord) :=
  if s.validateClaimProvenance setDigest identity = false then .error .claimIdentityMismatch
  else match s.validateClaimReservationsLive setDigest identity trustedNow with
  | some reason => .error reason
  | none =>
    if identity.jobLeaseExpiresAt ≤ trustedNow then .error .jobLeaseLostOrExpired
    else match s.loadJobLease identity.jobId with
    | none => .error .jobBindingMismatch
    | some job =>
      if jobLeaseMatches job identity.workerId identity.jobLeaseExpiresAt trustedNow = false then
        .error .jobLeaseLostOrExpired
      else match s.getContinuation identity.continuationId with
      | none => .error .notFound
      | some continuation =>
        if continuation.delegationId ≠ identity.delegationId ∨
            continuation.actionId ≠ identity.actionId ∨
            continuation.jobId ≠ some identity.jobId ∨
            jobPayloadMatches job.payload continuation = false then .error .jobPayloadMismatch
        else if continuation.status ≠ .executing then .error .continuationNotExecuting
        else if continuation.leaseOwner ≠ some identity.workerId ∨
            continuation.leaseExpiresAt ≠ some identity.jobLeaseExpiresAt ∨
            continuation.fencingToken ≠ identity.continuationFencingToken ∨
            continuation.hostGeneration ≠ identity.runtimeHostGeneration ∨
            continuation.globalStopEpoch ≠ identity.globalStopEpoch then
          .error .claimIdentityMismatch
        else if s.exactRuntimeLease identity trustedNow = false then
          .error .runtimeHostLeaseLostOrExpired
        else match s.getDelegation identity.delegationId with
        | none => .error .notFound
        | some d =>
          if d.policyRevision ≠ identity.policyRevision then .error .policyRevisionDrift
          else if technicalQuotaPolicyDigest K d.policyRevision d.effectiveAuthorityJson ≠
              identity.technicalQuotaPolicyDigest then .error .technicalQuotaPolicyDrift
          else match s.loadAction identity.actionId with
          | none => .error .actionStateDrift
          | some action => .ok (continuation, action)

/-- The continuation of a live claim is the one its identity names. -/
theorem validateClaimIdentityLive_ok {s : Store} {identity : ContinuationClaimIdentity}
    {trustedNow : Int} {continuation : ContinuationRecord} {action : ActionBranchRecord}
    (live : s.validateClaimIdentityLive K setDigest identity trustedNow =
      .ok (continuation, action)) :
    s.getContinuation identity.continuationId = some continuation ∧
      continuation.delegationId = identity.delegationId ∧ continuation.status = .executing ∧
      continuation.fencingToken = identity.continuationFencingToken := by
  unfold Store.validateClaimIdentityLive at live
  split at live
  · cases live
  split at live
  · cases live
  split at live
  · cases live
  split at live
  · cases live
  split at live
  · cases live
  split at live
  · cases live
  rename_i found
  split at live
  · cases live
  rename_i bound
  split at live
  · cases live
  rename_i executing
  split at live
  · cases live
  rename_i leased
  split at live
  · cases live
  split at live
  · cases live
  split at live
  · cases live
  split at live
  · cases live
  split at live
  · cases live
  · cases live
    simp only [not_or, not_not, ne_eq] at bound executing leased
    exact ⟨found, bound.1, executing, leased.2.2.1⟩

/-- The only effect of a claim's reservations. -/
def singleClaimEffect (reservations : List TechnicalResourceReservationRecord) :
    Anyhow (Option (Text × Text)) :=
  match reservations with
  | [] => .ok none
  | first :: _ => do
    ensure (∀ row ∈ reservations, row.delegationId = first.delegationId ∧
        row.identity.logicalEffectId = first.identity.logicalEffectId)
      "one continuation claim cannot span multiple logical effects"
    .ok (some (first.delegationId, first.identity.logicalEffectId))

def Store.effectState (s : Store) (delegationId logicalEffectId : Text) :
    Option LogicalEffectState :=
  ((s.logicalEffects.find? logicalEffectId).filter (·.delegationId = delegationId)).map (·.state)

/-- The claimed effect of a live claim goes to `invoking`. -/
def Store.markClaimEffectInvoking (s : Store) (identity : ContinuationClaimIdentity)
    (occurredAt : Int) : Anyhow (Bool × Store) := do
  match ← singleClaimEffect (s.loadResourceReservations identity.claimEventId) with
  | none => .ok (true, s)
  | some (delegationId, logicalEffectId) => do
    let state ← required "Query returned no rows" (s.effectState delegationId logicalEffectId)
    if state = .invoking then .ok (true, s)
    else do
      ensure (state = .claimed) "pre-dispatch validation lacks durable claimed-effect proof"
      let held := s.exactRuntimeLease identity occurredAt &&
        s.continuations.rows.any fun c => c.delegationId = delegationId &&
          c.continuationId = identity.continuationId && c.actionId = identity.actionId &&
          c.status = .executing && c.leaseOwner = some identity.workerId &&
          c.leaseExpiresAt = some identity.jobLeaseExpiresAt &&
          c.fencingToken = identity.continuationFencingToken &&
          c.hostGeneration = identity.runtimeHostGeneration && c.jobId = some identity.jobId &&
          s.jobs.rows.any fun j => j.jobId = identity.jobId &&
            j.leaseOwner = some identity.workerId &&
            j.leaseExpiresAt = some identity.jobLeaseExpiresAt
      let hit (row : LogicalEffectRecord) : Bool := row.delegationId = delegationId &&
        row.logicalEffectId = logicalEffectId && row.state = .claimed && held
      .ok (s.logicalEffects.matched hit = 1, { s with
        logicalEffects := s.logicalEffects.update hit (fun row => { row with
          state := .invoking, updatedAt := occurredAt }) fun _ => rfl })

def validateContinuationPreDispatch (command : ContinuationDispatchValidationCommand) (s : Store) :
    Anyhow (ContinuationDispatchValidationOutcome × Store) := do
  validateIdentity command.identity
  ensure (0 < command.trustedNow) "pre-dispatch validation requires a positive trusted clock"
  match s.validateClaimIdentityLive K setDigest command.identity command.trustedNow with
  | .error reason => .ok (.stale reason, s)
  | .ok (continuation, action) =>
    match s.objectiveDrift continuation action .executing with
    | some reason => .ok (.stale reason, s)
    | none => do
      let (marked, s) ← s.markClaimEffectInvoking command.identity command.trustedNow
      .ok (if marked then .valid else .stale .runtimeHostLeaseLostOrExpired, s)

end Live

end CarsinOS.Delegation
