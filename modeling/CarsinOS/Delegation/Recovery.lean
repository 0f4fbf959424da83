import CarsinOS.Delegation.Attempt
import CarsinOS.Delegation.Control

/-! The recovery of a provider attempt, and the lifecycle transition it writes. -/
namespace CarsinOS.Delegation
open CarsinOS.Lib CarsinOS.Integrity CarsinOS.Receipt

structure ProviderRecoveryCommand where
  write : WriteContext
  logicalEffectId : Text
  trustedNow : Int
  expectedPreStateRevision : Int
  receipt : AppendReceiptCommand

structure ObjectiveRecoveryEvaluation where
  recoveryEvaluationId : Text
  directive : RecoveryDirective
  retryAuthorization : Option ProviderRetryAuthorization
  objectiveFactsDigest : Text
  recoveryStateRevision : Int

/-- What the planner makes of the facts of other tables, and the verified criteria a terminal
directive counts. -/
structure RecoveryFacts where
  directive : RecoveryDirective
  objectiveFactsDigest : Text
  directiveDigest : Text
  assessment : CompletionAssessmentRecord

inductive ProviderRecoveryOutcome where
  | applied (evaluation : ObjectiveRecoveryEvaluation) (selectedPhase : DelegationPhase)
  | replayed
  | stale

inductive RecoveryMutationOutcome where
  | applied (evaluation : ObjectiveRecoveryEvaluation) (selectedPhase : DelegationPhase)
  | replayed

section Recovery
variable (K : FenceCrates) (J : Coordinator)

def domainDigest (domain : String) (value : List UInt8) : Text :=
  "sha256:".toList ++ K.sha256 (utf8Bytes domain.toList ++ [0] ++ value)

def validateRecoveryCommand (command : ProviderRecoveryCommand) : Anyhow Unit := do
  requireText "logical_effect_id" command.logicalEffectId
  ensure (0 < command.trustedNow ∧ 0 < command.expectedPreStateRevision ∧
      command.write.occurredAt = command.trustedNow ∧ command.receipt.receiptKind = .recovery ∧
      command.receipt.subject.kind = .outboxEvent ∧
      command.receipt.subject.subjectId = command.receipt.causationEventId ∧
      command.receipt.subject.revision = command.expectedPreStateRevision + 1 ∧
      command.receipt.expectedStateRevision = command.expectedPreStateRevision + 1 ∧
      command.receipt.occurredAt = command.trustedNow ∧
      command.trustedNow ≤ command.receipt.committedAt ∧
      command.receipt.causationId = command.write.causationId)
    "atomic provider recovery command identities are invalid"

def ProviderAttemptStatus.isTerminal : ProviderAttemptStatus → Bool
  | .failed | .outcomeUnknown | .reconciledAbsent | .reconciledPresent => true
  | _ => false

def retryAuthorizationOf (directive : RecoveryDirective) (recoveryEvaluationId : Text)
    (attempt : ProviderAttemptRecord) (logicalEffectId objectiveFactsDigest : Text)
    (recoveryStateRevision : Int) : Option ProviderRetryAuthorization :=
  match directive with
  | .retrySameEffect notBeforeMs => some {
      recoveryEvaluationId
      logicalEffectId
      predecessorAttemptId := attempt.attemptId
      authorizedAttemptNumber := attempt.attemptNumber + 1
      notBeforeMs
      objectiveFactsDigest
      recoveryStateRevision }
  | _ => none

/-- The next revision of a recovery episode. -/
def Store.nextEvaluationRevision (s : Store) (episodeId : Text) : Int :=
  ((s.recoveryEvaluations.rows.filter (·.recoveryEpisodeId = episodeId)).map
    (·.evaluationRevision)).foldl max 0 + 1

def Store.insertRecoveryEvaluation (s : Store) (row : RecoveryEvaluationRecord) : Anyhow Store := do
  ensure (∀ other ∈ s.recoveryEvaluations.rows, other.outboxEventId ≠ row.outboxEventId)
    "UNIQUE constraint failed: execass_recovery_evaluations.outbox_event_id"
  match s.recoveryEvaluations.insert? row with
  | some recoveryEvaluations => .ok { s with recoveryEvaluations }
  | none => bail "UNIQUE constraint failed: execass_recovery_evaluations.recovery_evaluation_id"

/-- The evaluation of the latest attempt: the one recorded for the same facts, else a new one bound
to the revision the recovery advances to. -/
def evaluateProviderRecovery (planned : Anyhow RecoveryFacts) (payload : Text)
    (command : ProviderRecoveryCommand) (postRevision : Int) (s : Store) :
    Anyhow (ObjectiveRecoveryEvaluation × Store) := do
  let effect ← required "objective recovery requires an existing effect attempt"
    (s.logicalEffects.find? command.logicalEffectId)
  let attempt ← required "objective recovery requires an existing effect attempt"
    (s.latestAttempt command.logicalEffectId)
  ensure (attempt.status.isTerminal = true)
    "objective recovery requires a terminal provider attempt"
  ensure (attempt.attemptNumber = s.providerAttempts.matched fun row =>
    row.logicalEffectId = command.logicalEffectId) "provider attempt history is not gap-free"
  let facts ← planned
  let episodeId := domainDigest K "carsinos.execass.recovery-episode.v1"
    (utf8Bytes command.logicalEffectId)
  let finish (recoveryEvaluationId : Text) (revision : Int) : ObjectiveRecoveryEvaluation := {
    recoveryEvaluationId
    directive := facts.directive
    retryAuthorization := retryAuthorizationOf facts.directive recoveryEvaluationId attempt
      command.logicalEffectId facts.objectiveFactsDigest revision
    objectiveFactsDigest := facts.objectiveFactsDigest
    recoveryStateRevision := revision }
  match s.recoveryEvaluations.rows.find? fun row => row.recoveryEpisodeId = episodeId &&
      row.objectiveFactsDigest = facts.objectiveFactsDigest && row.directive = facts.directive with
  | some existing =>
    .ok (finish existing.recoveryEvaluationId existing.recoveryStateRevision, s)
  | none => do
    let revision := s.nextEvaluationRevision episodeId
    let recoveryEvaluationId := domainDigest K "carsinos.execass.recovery-evaluation.v1"
      (utf8Bytes episodeId ++ [0] ++ utf8Bytes (toString revision).toList ++ [0] ++
        utf8Bytes facts.objectiveFactsDigest ++ [0] ++ utf8Bytes facts.directiveDigest)
    let s ← s.insertOutbox {
      eventId := command.receipt.causationEventId
      eventName := .recoveryUpdated
      aggregateId := effect.delegationId
      aggregateRevision := postRevision
      correlationId := command.write.correlationId
      causationId := command.write.causationId
      occurredAt := command.trustedNow
      safePayloadJson := payload
      duplicateIdentity := command.receipt.causationEventId }
    let s ← s.insertRecoveryEvaluation {
      recoveryEvaluationId
      recoveryEpisodeId := episodeId
      delegationId := effect.delegationId
      logicalEffectId := command.logicalEffectId
      predecessorAttemptId := attempt.attemptId
      evaluationRevision := revision
      recoveryStateRevision := postRevision
      objectiveFactsDigest := facts.objectiveFactsDigest
      directive := facts.directive
      outboxEventId := command.receipt.causationEventId }
    .ok (finish recoveryEvaluationId postRevision, s)

def RecoveryDirective.phase : RecoveryDirective → DelegationPhase
  | .retrySameEffect _ | .waitUntil _ | .replanWithinOriginalAuthority => .recovering
  | .waitingExternal => .waitingExternal
  | .waitingForUser => .waitingForUser
  | .partiallyCompleted => .partiallyCompleted
  | .failed => .failed

def RecoveryDirective.sourceActionStatus : RecoveryDirective → ContinuationStatus
  | .replanWithinOriginalAuthority => .superseded
  | .waitingExternal => .uncertain
  | .partiallyCompleted | .failed => .terminal
  | .retrySameEffect _ | .waitUntil _ | .waitingForUser => .waiting

/-- The action of the recovered effect leaves its execution. -/
def Store.leaveRecoverySource (s : Store) (actionId : Text) (directive : RecoveryDirective)
    (trustedNow : Int) : Anyhow Store := do
  let hit (row : ActionBranchRecord) : Bool := row.actionId = actionId && isOpen row.status
  let next ← s.updateBranches hit (fun row => { row with
    status := directive.sourceActionStatus
    updatedAt := trustedNow
    terminalAt := terminalAt directive.sourceActionStatus trustedNow }) fun _ => rfl
  ensure (s.actionBranches.matched hit = 1) "recovery source action is no longer active"
  .ok next

theorem superseded_action (trustedNow : Int) (row : ActionBranchRecord) :
    { row with
      status := .superseded
      updatedAt := trustedNow
      terminalAt := some trustedNow : ActionBranchRecord }.actionId = row.actionId := rfl

def Store.supersedeRecoveryBranches (s : Store) (delegationId : Text) (firstAttemptAt : Int)
    (trustedNow : Int) : Anyhow Store :=
  s.updateBranches (fun row => row.delegationId = delegationId && row.branchKind = .recovery &&
      firstAttemptAt < row.createdAt && isOpen row.status)
    (fun row => { row with
      status := .superseded, updatedAt := trustedNow, terminalAt := some trustedNow })
    (superseded_action trustedNow)

def Store.nextActionRevision (s : Store) (delegationId : Text) : Int :=
  ((s.actionBranches.rows.filter (·.delegationId = delegationId)).map
    (·.actionRevision)).foldl max 0 + 1

/-- A retry or a wait opens a recovery branch for the revision the recovery advances to. -/
def Store.openRecoveryBranch (s : Store) (d : DelegationRecord) (plan : Int)
    (evaluation : ObjectiveRecoveryEvaluation) (firstAttemptAt postRevision trustedNow : Int) :
    Anyhow Store := do
  let s ← s.supersedeRecoveryBranches d.delegationId firstAttemptAt trustedNow
  s.insertBranch {
    actionId := domainDigest K "carsinos.execass.recovery-action.v1"
      (utf8Bytes evaluation.recoveryEvaluationId)
    delegationId := d.delegationId
    actionRevision := s.nextActionRevision d.delegationId
    targetDelegationRevision := postRevision
    targetPlanRevision := plan
    stopEpoch := d.stopEpoch
    branchKind := .recovery
    status := .runnable
    actionSummary := "Objective recovery for existing logical effect".toList
    createdAt := trustedNow
    updatedAt := trustedNow
    terminalAt := none }

def Store.promoteReplanCandidate (s : Store) (d : DelegationRecord) (plan : Int)
    (actionId : Text) (firstAttemptAt trustedNow : Int) : Anyhow Store := do
  let s ← s.supersedeRecoveryBranches d.delegationId firstAttemptAt trustedNow
  let candidate ← required "canonical replan candidate disappeared before projection"
    (s.actionBranches.rows.find? fun row => row.delegationId = d.delegationId &&
      row.branchKind = .recovery && (row.status = .waiting || row.status = .runnable) &&
      row.targetPlanRevision = plan && row.stopEpoch = d.stopEpoch && row.actionId ≠ actionId &&
      row.createdAt ≤ firstAttemptAt)
  s.updateBranches (fun row => row.actionId = candidate.actionId &&
      (row.status = .waiting || row.status = .runnable))
    (fun row => { row with status := .runnable, updatedAt := trustedNow, terminalAt := none })
    fun _ => rfl

def recoveryWaitDetails (evaluation : ObjectiveRecoveryEvaluation) (logicalEffectId : Text) : Text :=
  (Json.obj [("logical_effect_id".toList, .str logicalEffectId),
    ("objective_facts_digest".toList, .str evaluation.objectiveFactsDigest),
    ("recovery_evaluation_id".toList, .str evaluation.recoveryEvaluationId)]).print

def Store.insertRecoveryAttention (s : Store) (d : DelegationRecord) (actionId : Text)
    (evaluation : ObjectiveRecoveryEvaluation) (postRevision trustedNow : Int) : Anyhow Store :=
  let existing := s.attentionItems.matched fun row => row.delegationId = d.delegationId &&
    row.kind = .recoveryChoice && row.status = .actionable
  if existing = 0 then s.insertAttention {
      attentionId := domainDigest K "carsinos.execass.recovery-attention.v1"
        (utf8Bytes evaluation.recoveryEvaluationId)
      delegationId := d.delegationId
      actionId := some actionId
      kind := .recoveryChoice
      status := .actionable
      reason := "No safe autonomous recovery path remains".toList
      recommendation := "Review the bounded recovery choices".toList
      alternativesJson := "[]".toList
      requiredAssurance := "human_local_or_remote".toList
      decisionId := none
      delegationRevision := postRevision
      createdAt := trustedNow
      resolvedAt := none }
  else do
    ensure (existing = 1) "recovery found multiple actionable recovery choices"
    .ok s

/-- The rows a directive writes beside the delegation's own: the wait details and the assessment
the delegation then shows. -/
def Store.projectDirective (s : Store) (d : DelegationRecord) (plan : Int) (actionId : Text)
    (facts : RecoveryFacts) (evaluation : ObjectiveRecoveryEvaluation)
    (command : ProviderRecoveryCommand) (firstAttemptAt postRevision : Int) :
    Anyhow ((Option Text × Option Text) × Store) :=
  match evaluation.directive with
  | .retrySameEffect _ | .waitUntil _ => do
    let s ← s.openRecoveryBranch K d plan evaluation firstAttemptAt postRevision
      command.trustedNow
    .ok ((none, none), s)
  | .replanWithinOriginalAuthority => do
    let s ← s.promoteReplanCandidate d plan actionId firstAttemptAt command.trustedNow
    .ok ((none, none), s)
  | .waitingExternal => do
    let details := recoveryWaitDetails evaluation command.logicalEffectId
    let s ← s.insertWait {
      externalWaitId := domainDigest K "carsinos.execass.recovery-wait.v1"
        (utf8Bytes evaluation.recoveryEvaluationId)
      delegationId := d.delegationId
      actionId := some actionId
      kind := .system
      status := .waiting
      reason := "Independent effect reconciliation is pending".toList
      detailsJson := details
      delegationRevision := postRevision
      createdAt := command.trustedNow
      resolvedAt := none }
    .ok ((some details, none), s)
  | .waitingForUser => do
    let s ← s.insertRecoveryAttention K d actionId evaluation postRevision command.trustedNow
    .ok ((none, none), s)
  | .partiallyCompleted | .failed => do
    let criteria ← required "terminal recovery requires current outcome criteria"
      d.currentCriteriaRevision
    let s ← s.insertAssessment { facts.assessment with
      assessmentId := domainDigest K "carsinos.execass.recovery-assessment.v1"
        (utf8Bytes evaluation.recoveryEvaluationId)
      delegationId := d.delegationId
      criteriaRevision := criteria
      assessedAt := command.trustedNow }
    .ok ((none, some facts.assessment.assessmentJson), s)

def projectRecoveryLifecycle (facts : RecoveryFacts) (command : ProviderRecoveryCommand)
    (evaluation : ObjectiveRecoveryEvaluation) (postRevision : Int) (s : Store) :
    Anyhow (DelegationPhase × Store) := do
  let effect ← required "failed reading recovery lifecycle source"
    (s.logicalEffects.find? command.logicalEffectId)
  let d ← required "failed reading recovery lifecycle source" (s.getDelegation effect.delegationId)
  let c ← required "failed reading recovery lifecycle source"
    (s.getContinuation effect.continuationId)
  let first ← required "failed reading recovery lifecycle source"
    (s.providerAttempts.rows.find? fun row => row.logicalEffectId = command.logicalEffectId &&
      row.attemptNumber = 1)
  let plan ← required "recovery delegation has no current plan" d.currentPlanRevision
  ensure (d.phase.isTerminal = false ∧ d.runControl = .running ∧
      postRevision = command.expectedPreStateRevision + 1)
    "recovery lifecycle source is not a current running nonterminal delegation"
  let phase := evaluation.directive.phase
  let s ← s.leaveRecoverySource c.actionId evaluation.directive command.trustedNow
  let ((waitJson, assessmentJson), s) ← s.projectDirective K d plan c.actionId facts evaluation
    command first.startedAt postRevision
  let s ← s.advanceDelegation (fun row => row.delegationId = d.delegationId &&
      row.stateRevision = command.expectedPreStateRevision && row.runControl = .running)
    (fun row => { row with
      phase
      stateRevision := postRevision
      pendingDecisionId := none
      externalWaitJson := waitJson
      completionAssessmentJson := assessmentJson
      updatedAt := command.trustedNow
      terminalAt := if phase.isTerminal then some command.trustedNow else none }) (fun _ => rfl)
    "recovery lifecycle CAS lost its canonical delegation revision"
  let s ← s.recordTransition d (domainDigest K "carsinos.execass.recovery-transition.v1"
      (utf8Bytes evaluation.recoveryEvaluationId)) phase d.runControl .other none postRevision
    "objective_recovery".toList command.receipt.causationEventId command.trustedNow
  .ok (phase, s)

def recoveryMutation (planned : Anyhow RecoveryFacts) (payload : Text)
    (command : ProviderRecoveryCommand) (s : Store) :
    Anyhow (AtomicReceiptMutation RecoveryMutationOutcome × Store) :=
  match s.receiptByCausationEvent command.receipt.causationEventId with
  | some _ => .ok (.noAppend .replayed, s)
  | none => do
    let postRevision := command.expectedPreStateRevision + 1
    let (evaluation, s) ← evaluateProviderRecovery K planned payload command postRevision s
    let facts ← planned
    let (phase, s) ← projectRecoveryLifecycle K facts command evaluation postRevision s
    ensure ((s.outboxEvents.find? command.receipt.causationEventId).isSome = true)
      "atomic recovery outbox event disappeared"
    .ok (.append (.applied evaluation phase), s)

def recoveryOutcome : AtomicWrite RecoveryMutationOutcome → Anyhow ProviderRecoveryOutcome
  | .appended (.applied evaluation phase) => .ok (.applied evaluation phase)
  | .noAppend .replayed => .ok .replayed
  | .stale => .ok .stale
  | _ => bail "atomic recovery receipt coordinator returned an impossible outcome"

def applyProviderRecovery (planned : Anyhow RecoveryFacts) (payload : Text)
    (command : ProviderRecoveryCommand) (s : Store) : Anyhow (ProviderRecoveryOutcome × Store) := do
  validateRecoveryCommand command
  let (written, s) ← mutateWithAdvancingAtomicReceipt J command.expectedPreStateRevision
    command.receipt (recoveryMutation K planned payload command) s
  .ok (← recoveryOutcome written, s)

end Recovery

end CarsinOS.Delegation
