import CarsinOS.Integrity.Anchor
import CarsinOS.Lib.Table

/-! The rows of a delegation: its projection, its plans and action branches, its continuations with
the claims and provider attempts made for them, and the history of its lifecycle. -/
namespace CarsinOS.Delegation
open CarsinOS.Lib

inductive DelegationPhase where
  | accepted | planning | inMotion | waitingForUser | waitingExternal | recovering | completed
  | partiallyCompleted | failed
  deriving DecidableEq

def DelegationPhase.isTerminal : DelegationPhase → Bool
  | .completed | .partiallyCompleted | .failed => true
  | _ => false

inductive RunControlState where
  | running | stopRequested | stopped
  deriving DecidableEq

inductive ContinuationStatus where
  | runnable | executing | waiting | uncertain | terminal | superseded
  deriving DecidableEq

inductive ActionBranchKind where
  | ordinary | recovery
  deriving DecidableEq

inductive ContinuationCausationKind where
  | intake | plan | amendment | decision | actionResult | recovery | resume | routineOccurrence
  deriving DecidableEq

inductive AttentionKind where
  | confirmation | clarification | reply | recoveryChoice | runtimePaused
  deriving DecidableEq

inductive AttentionStatus where
  | actionable | resolved | superseded
  deriving DecidableEq

inductive ExternalWaitKind where
  | externalParty | system | time
  deriving DecidableEq

inductive ExternalWaitStatus where
  | waiting | resolved | superseded
  deriving DecidableEq

inductive CompletionAssessmentKind where
  | completed | partiallyCompleted | failed
  deriving DecidableEq

def CompletionAssessmentKind.phase : CompletionAssessmentKind → DelegationPhase
  | .completed => .completed
  | .partiallyCompleted => .partiallyCompleted
  | .failed => .failed

inductive PreActionablePhase where
  | accepted | planning
  deriving DecidableEq

def PreActionablePhase.phase : PreActionablePhase → DelegationPhase
  | .accepted => .accepted
  | .planning => .planning

inductive LogicalEffectState where
  | planned | claimed | invoking | succeeded | failed | outcomeUnknown | reconciledAbsent
  | reconciledPresent
  deriving DecidableEq

inductive ProviderAttemptStatus where
  | prepared | invoking | succeeded | failed | outcomeUnknown | reconciledAbsent
  | reconciledPresent
  deriving DecidableEq

inductive RecoveryDirective where
  | retrySameEffect (notBeforeMs : Int)
  | replanWithinOriginalAuthority
  | waitUntil (notBeforeMs : Int)
  | waitingExternal | waitingForUser | partiallyCompleted | failed
  deriving DecidableEq

structure WriteContext where
  idempotencyKey : Text
  correlationId : Text
  causationId : Text
  occurredAt : Int
  deriving DecidableEq

inductive OutboxEventName where
  | delegationTransitioned | decisionRecorded | continuationClaimedOrResultRecorded
  | recoveryUpdated | completionAssessed | summaryChanged | policyChanged | runtimeHostChanged
  | receiptIntegrityFailed | notificationScheduled | globalStopChanged
  deriving DecidableEq

structure NewOutboxEvent where
  eventId : Text
  eventName : OutboxEventName
  aggregateId : Text
  aggregateRevision : Int
  correlationId : Text
  causationId : Text
  occurredAt : Int
  safePayloadJson : Text
  duplicateIdentity : Text
  deriving DecidableEq

structure DelegationRecord where
  delegationId : Text
  phase : DelegationPhase
  runControl : RunControlState
  stateRevision : Int
  currentPlanRevision : Option Int
  currentCriteriaRevision : Option Int
  policyRevision : Int
  effectiveAuthorityJson : Text
  authorityProvenanceId : Text
  pendingDecisionId : Option Text
  externalWaitJson : Option Text
  stopEpoch : Int
  completionAssessmentJson : Option Text
  updatedAt : Int
  terminalAt : Option Int
  deriving DecidableEq

structure PlanRecord where
  planId : Text
  delegationId : Text
  planRevision : Int
  basedOnDelegationRevision : Int
  policyRevision : Int
  planSummary : Text
  resolvedLeafManifestJson : Text
  manifestDigest : Text
  createdByAuthorityProvenanceId : Text
  deriving DecidableEq

structure OutcomeCriterionRecord where
  criterionId : Text
  delegationId : Text
  criteriaRevision : Int
  criterionKey : Text
  description : Text
  expectedPredicateJson : Text
  authoritativeSourceKind : Text
  deriving DecidableEq

structure ActionBranchRecord where
  actionId : Text
  delegationId : Text
  actionRevision : Int
  targetDelegationRevision : Int
  targetPlanRevision : Int
  stopEpoch : Int
  branchKind : ActionBranchKind
  status : ContinuationStatus
  actionSummary : Text
  createdAt : Int
  updatedAt : Int
  terminalAt : Option Int
  deriving DecidableEq

structure ContinuationRecord where
  continuationId : Text
  delegationId : Text
  targetDelegationRevision : Int
  targetPlanRevision : Int
  actionId : Text
  branchKind : ActionBranchKind
  causationKind : ContinuationCausationKind
  causationId : Text
  status : ContinuationStatus
  jobId : Option Text
  leaseOwner : Option Text
  leaseExpiresAt : Option Int
  fencingToken : Int
  hostGeneration : Int
  stopEpoch : Int
  globalStopEpoch : Int
  createdAt : Int
  updatedAt : Int
  completedAt : Option Int
  deriving DecidableEq

structure AttentionItemRecord where
  attentionId : Text
  delegationId : Text
  actionId : Option Text
  kind : AttentionKind
  status : AttentionStatus
  reason : Text
  recommendation : Text
  alternativesJson : Text
  requiredAssurance : Text
  decisionId : Option Text
  delegationRevision : Int
  createdAt : Int
  resolvedAt : Option Int
  deriving DecidableEq

structure ExternalWaitRecord where
  externalWaitId : Text
  delegationId : Text
  actionId : Option Text
  kind : ExternalWaitKind
  status : ExternalWaitStatus
  reason : Text
  detailsJson : Text
  delegationRevision : Int
  createdAt : Int
  resolvedAt : Option Int
  deriving DecidableEq

structure CompletionAssessmentRecord where
  assessmentId : Text
  delegationId : Text
  assessmentRevision : Int
  criteriaRevision : Int
  kind : CompletionAssessmentKind
  materialPassCount : Int
  materialFailCount : Int
  materialUnknownCount : Int
  usefulOutcome : Bool
  exactUnmetPortion : Option Text
  noRemainingPath : Bool
  assessmentJson : Text
  assessedAt : Int
  deriving DecidableEq

/-- What a transition records of the projection. -/
structure ProjectionSnapshot where
  phase : DelegationPhase
  runControl : RunControlState
  stateRevision : Int
  currentPlanRevision : Option Int
  currentCriteriaRevision : Option Int
  pendingDecisionId : Option Text
  externalWaitJson : Option Text
  completionAssessmentJson : Option Text
  stopEpoch : Int
  updatedAt : Int
  terminalAt : Option Int
  transitionContinuationId : Option Text
  branches : List ActionBranchRecord
  continuations : List ContinuationRecord
  attentionItems : List AttentionItemRecord
  externalWaits : List ExternalWaitRecord
  completionAssessments : List CompletionAssessmentRecord
  deriving DecidableEq

structure ResumeProof where
  planRevision : Int
  policyRevision : Int
  authorityProvenanceId : Text
  budgetSnapshotDigest : Text
  globalStopEpoch : Int
  deriving DecidableEq

structure LifecycleSnapshotCommand where
  write : WriteContext
  transitionId : Text
  delegationId : Text
  expectedStateRevision : Int
  preActionablePhase : Option PreActionablePhase
  selectedRunControl : RunControlState
  resumeProof : Option ResumeProof
  actionBranches : List ActionBranchRecord
  attentionItems : List AttentionItemRecord
  externalWaits : List ExternalWaitRecord
  assessment : Option CompletionAssessmentRecord
  continuation : Option ContinuationRecord
  reason : Text
  outboxEvent : NewOutboxEvent
  deriving DecidableEq

structure AmendLifecycleCommand where
  write : WriteContext
  delegationId : Text
  expectedStateRevision : Int
  transitionId : Text
  amendmentId : Text
  normalizedAmendment : Text
  authorityProvenanceId : Text
  plan : PlanRecord
  outcomeCriteria : List OutcomeCriterionRecord
  outboxEvent : NewOutboxEvent
  deriving DecidableEq

/-- The command a transition was recorded for. -/
inductive CommandIdentity where
  | genesis
  | lifecycle (command : LifecycleSnapshotCommand)
  | amendment (command : AmendLifecycleCommand)
  | other
  deriving DecidableEq

structure LifecycleTransitionRecord where
  transitionId : Text
  delegationId : Text
  stateRevision : Int
  previousPhase : DelegationPhase
  selectedPhase : DelegationPhase
  previousRunControl : RunControlState
  selectedRunControl : RunControlState
  commandIdentity : CommandIdentity
  projectionSnapshot : ProjectionSnapshot
  reason : Text
  outboxEventId : Text
  occurredAt : Int
  deriving DecidableEq

structure GlobalRuntimeControl where
  engaged : Bool
  globalStopEpoch : Int
  currentPolicyRevision : Int
  updatedAt : Int
  deriving DecidableEq

/-- The payload of a continuation's job; the fields another job's payload lacks are `none`. -/
structure JobPayload where
  mode : Option Text
  continuationId : Option Text
  delegationId : Option Text
  actionId : Option Text
  targetDelegationRevision : Option Int
  targetPlanRevision : Option Int
  branchKind : Option ActionBranchKind
  causationKind : Option ContinuationCausationKind
  causationId : Option Text
  deriving DecidableEq

structure JobRecord where
  jobId : Text
  payload : JobPayload
  enabled : Bool
  runAt : Option Int
  nextRunAt : Option Int
  leaseOwner : Option Text
  leaseExpiresAt : Option Int
  deleted : Bool
  deriving DecidableEq

structure RuntimeHostGeneration where
  generation : Int
  hostInstanceId : Text
  stateRootGeneration : Int
  endedAt : Option Int
  deriving DecidableEq

structure RuntimeHostLease where
  generation : Int
  hostInstanceId : Text
  fencingToken : Int
  acquiredAt : Int
  expiresAt : Int
  releasedAt : Option Int
  deriving DecidableEq

structure TechnicalResourceReservationIdentity where
  reservationId : Text
  quotaSnapshotId : Text
  logicalEffectId : Text
  technicalResourceKind : Text
  unit : Text
  amountReserved : Int
  deriving DecidableEq

inductive ReservationStatus where
  | reserved | settled | released | expired | reconciliationRequired
  deriving DecidableEq

structure TechnicalResourceReservationRecord where
  identity : TechnicalResourceReservationIdentity
  delegationId : Text
  continuationId : Text
  claimEventId : Text
  claimReceiptId : Text
  status : ReservationStatus
  continuationFencingToken : Int
  runtimeHostGeneration : Int
  runtimeFencingToken : Int
  createdAt : Int
  expiresAt : Int
  settledAt : Option Int
  deriving DecidableEq

structure ContinuationClaimIdentity where
  claimEventId : Text
  claimReceiptId : Text
  continuationId : Text
  delegationId : Text
  actionId : Text
  jobId : Text
  workerId : Text
  jobLeaseExpiresAt : Int
  continuationFencingToken : Int
  runtimeHostGeneration : Int
  runtimeHostInstanceId : Text
  runtimeFencingToken : Int
  stateRootGeneration : Int
  runtimeAuthorityProvenanceId : Text
  runtimeActorIdentity : Text
  policyRevision : Int
  globalStopEpoch : Int
  technicalQuotaPolicyDigest : Text
  technicalQuotaSnapshotId : Option Text
  technicalResourceReservationSetDigest : Text
  deriving DecidableEq

inductive ContinuationOperation where
  | claim | settle | expire | recover | reconcile
  deriving DecidableEq

structure OperationHistoryRecord where
  eventId : Text
  operation : ContinuationOperation
  resultStatus : ContinuationStatus
  identity : ContinuationClaimIdentity
  resourceSet : List TechnicalResourceReservationIdentity
  resourceEvidenceDigest : Option Text
  recordedAt : Int
  deriving DecidableEq

/-- `outcome_json` of an effect, as the recorder's evidence gives it. -/
structure EffectOutcome where
  state : LogicalEffectState
  responseDigest : Option Text
  providerErrorClass : Option Text
  remoteEffectId : Option Text
  recorderRecordDigest : Text
  deriving DecidableEq

structure LogicalEffectRecord where
  logicalEffectId : Text
  delegationId : Text
  continuationId : Text
  state : LogicalEffectState
  internalIdempotencyKey : Text
  providerIdentity : Option Text
  providerIdempotencyKey : Option Text
  reconciliationKey : Option Text
  manifestDigest : Text
  payloadDigest : Text
  outcome : Option EffectOutcome := none
  updatedAt : Int
  deriving DecidableEq

structure ProviderAttemptRow where
  attemptId : Text
  delegationId : Text
  logicalEffectId : Text
  continuationId : Text
  actionId : Text
  claimEventId : Text
  claimReceiptId : Text
  attemptNumber : Int
  fencingToken : Int
  hostGeneration : Int
  hostInstanceId : Text
  runtimeFencingToken : Int
  status : ProviderAttemptStatus
  providerRequestDigest : Text
  providerResponseDigest : Option Text
  providerErrorClass : Option Text := none
  remoteEffectId : Option Text
  startedAt : Int
  finishedAt : Option Int
  deriving DecidableEq

structure RecoveryEvaluationRecord where
  recoveryEvaluationId : Text
  recoveryEpisodeId : Text
  delegationId : Text
  logicalEffectId : Text
  predecessorAttemptId : Text
  evaluationRevision : Int
  recoveryStateRevision : Int
  objectiveFactsDigest : Text
  directive : RecoveryDirective
  outboxEventId : Text
  deriving DecidableEq

/-- An entry of an immutable quota snapshot. -/
structure QuotaEntryRecord where
  quotaSnapshotId : Text
  technicalResourceKind : Text
  unit : Text
  amountLimit : Int
  deriving DecidableEq

structure TechnicalResourceActualRecord where
  technicalResourceActualId : Text
  delegationId : Text
  reservationId : Text
  amountActual : Int
  continuationFencingToken : Int
  runtimeHostGeneration : Int
  runtimeFencingToken : Int
  evidenceDigest : Text
  recordedAt : Int
  deriving DecidableEq

inductive RecorderEvidenceResult where
  | present | absent | unknown
  deriving DecidableEq

inductive RecorderObservationSource where
  | execution | reconciliation
  deriving DecidableEq

/-- The columns of imported recorder evidence that later statements compare. -/
structure RecorderEvidenceRow where
  recorderRecordDigest : Text
  journalSequence : Int
  journalKind : RecorderEvidenceResult
  journalSource : RecorderObservationSource
  attemptId : Text
  logicalEffectId : Text
  responseDigest : Option Text
  providerErrorClass : Option Text
  remoteEffectId : Option Text
  observedAt : Int
  signedPayloadJson : Text
  signature : Text
  deriving DecidableEq

/-- The columns of a receipt the claim fence reads. -/
structure ReceiptRow where
  receiptId : Text
  causationEventId : Text
  continuationSubject : Option Text
  runtimeActor : Option (Text × Text)
  hostGeneration : Int
  hostInstanceId : Text
  fencingToken : Int
  deriving DecidableEq

/-- Rows of other tables that keep a row from being deleted. -/
structure Dependents where
  continuationIds : List Text
  actionIds : List Text
  attentionIds : List Text

structure Store where
  delegations : Table DelegationRecord.delegationId
  plans : Table fun plan : PlanRecord => (plan.delegationId, plan.planRevision)
  actionBranches : Table ActionBranchRecord.actionId
  continuations : Table ContinuationRecord.continuationId
  attentionItems : Table AttentionItemRecord.attentionId
  externalWaits : Table ExternalWaitRecord.externalWaitId
  completionAssessments : Table CompletionAssessmentRecord.assessmentId
  transitions : Table LifecycleTransitionRecord.transitionId
  globalControl : GlobalRuntimeControl
  jobs : Table JobRecord.jobId
  hostGenerations : List RuntimeHostGeneration
  hostLeases : List RuntimeHostLease
  operationHistory : Table OperationHistoryRecord.eventId
  reservations : Table fun row : TechnicalResourceReservationRecord => row.identity.reservationId
  actuals : Table TechnicalResourceActualRecord.technicalResourceActualId
  quotaEntries : Table fun row : QuotaEntryRecord =>
    (row.quotaSnapshotId, row.technicalResourceKind, row.unit)
  recorderEvidence : Table RecorderEvidenceRow.recorderRecordDigest
  logicalEffects : Table LogicalEffectRecord.logicalEffectId
  providerAttempts : Table ProviderAttemptRow.attemptId
  recoveryEvaluations : Table RecoveryEvaluationRecord.recoveryEvaluationId
  outboxEvents : Table NewOutboxEvent.eventId
  receipts : List ReceiptRow
  /-- The receipts of imported evidence: receipt, delegation and record digest. -/
  receiptEvidenceRefs : List (Text × Text × Text)
  dependents : Dependents

def MAX_REVISION : Int := 2 ^ 63 - 1

/-- A column of the database is a 64-bit integer. -/
def checkedNext (value : Int) (message : String) : Anyhow Int :=
  if value < MAX_REVISION then .ok (value + 1) else bail message

theorem checkedNext_ok {value next : Int} {message : String}
    (counted : checkedNext value message = .ok next) : next = value + 1 := by
  unfold checkedNext at counted
  split at counted
  · cases counted
    rfl
  · cases counted

def Store.getDelegation (s : Store) (id : Text) : Option DelegationRecord := s.delegations.find? id

def Store.getContinuation (s : Store) (id : Text) : Option ContinuationRecord :=
  s.continuations.find? id

def Store.loadAction (s : Store) (id : Text) : Option ActionBranchRecord := s.actionBranches.find? id

def Store.receiptByCausationEvent (s : Store) (eventId : Text) : Option ReceiptRow :=
  s.receipts.find? (·.causationEventId = eventId)

end CarsinOS.Delegation
