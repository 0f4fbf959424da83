import CarsinOS.Delegation.Lifecycle

/-! The transitions of a delegation's lifecycle and the amendments of its plan. -/
namespace CarsinOS.Delegation
open CarsinOS.Lib CarsinOS.Integrity CarsinOS.Receipt

/-! What a transition reads back. -/

/-- A delegation as a snapshot recorded it. -/
def ProjectionSnapshot.over (snapshot : ProjectionSnapshot) (d : DelegationRecord) :
    DelegationRecord :=
  { d with
    phase := snapshot.phase
    runControl := snapshot.runControl
    stateRevision := snapshot.stateRevision
    currentPlanRevision := snapshot.currentPlanRevision
    currentCriteriaRevision := snapshot.currentCriteriaRevision
    pendingDecisionId := snapshot.pendingDecisionId
    externalWaitJson := snapshot.externalWaitJson
    completionAssessmentJson := snapshot.completionAssessmentJson
    stopEpoch := snapshot.stopEpoch
    updatedAt := snapshot.updatedAt
    terminalAt := snapshot.terminalAt }

def ProjectionSnapshot.transitionContinuation (snapshot : ProjectionSnapshot) :
    Anyhow (Option ContinuationRecord) :=
  match snapshot.transitionContinuationId with
  | none => .ok none
  | some id => do
    let c ← required "snapshot transition continuation is missing"
      (snapshot.continuations.find? (·.continuationId = id))
    .ok (some c)

def Store.readSnapshot (s : Store) (delegationId transitionId : Text) :
    Anyhow (Option LifecycleSnapshot) :=
  match s.getDelegation delegationId,
      (s.transitions.find? transitionId).filter (·.delegationId = delegationId) with
  | some d, some transition => do
    let outboxEvent ← required "lifecycle transition outbox missing"
      (s.outboxEvents.find? transition.outboxEventId)
    let continuation ← transition.projectionSnapshot.transitionContinuation
    .ok (some ⟨transition.projectionSnapshot.over d, transition, continuation, outboxEvent⟩)
  | _, _ => .ok none

def Store.replayedSnapshot (s : Store) (command : LifecycleSnapshotCommand) :
    Anyhow (Option LifecycleSnapshot) :=
  match s.transitions.find? command.transitionId with
  | none => .ok none
  | some transition => do
    let outbox ← required "stored lifecycle replay is missing its outbox event"
      (s.outboxEvents.find? transition.outboxEventId)
    ensure (transition.delegationId = command.delegationId ∧
        transition.commandIdentity = .lifecycle command ∧ outbox = command.outboxEvent)
      "lifecycle transition identity conflicts with an immutable prior write"
    s.readSnapshot command.delegationId command.transitionId

/-! The checks of a transition. -/

section Checks
variable (K : FenceCrates)

def validateSnapshot (command : LifecycleSnapshotCommand) : Anyhow Unit := do
  requireText "transition_id" command.transitionId
  requireText "delegation_id" command.delegationId
  requireText "reason" command.reason
  requireText "write.idempotency_key" command.write.idempotencyKey
  requireText "write.correlation_id" command.write.correlationId
  requireText "write.causation_id" command.write.causationId
  ensure (1 ≤ command.expectedStateRevision) "lifecycle CAS requires a positive expected revision"
  ensure (∀ c ∈ command.continuation, c.status = .runnable)
    "a lifecycle mutation may create only one runnable continuation"

def Store.executingContinuations (s : Store) (delegationId : Text) : Nat :=
  s.continuations.matched fun row => row.delegationId = delegationId && row.status = .executing

def ResumeProof.binds (proof : ResumeProof) (d : DelegationRecord) : Bool :=
  d.currentPlanRevision = some proof.planRevision && proof.policyRevision = d.policyRevision &&
    proof.authorityProvenanceId = d.authorityProvenanceId &&
    trimChars proof.budgetSnapshotDigest ≠ [] && 0 ≤ proof.globalStopEpoch

/-- The next stop epoch: it moves where a stop begins and where a stopped delegation resumes. -/
def Store.validateRunControl (s : Store) (current : DelegationRecord)
    (command : LifecycleSnapshotCommand) : Anyhow Int := do
  let next := command.selectedRunControl
  ensure (current.runControl = .stopped → next = .running)
    "stopped delegation requires explicit resume to running"
  ensure (next = .stopped → current.runControl = .stopRequested)
    "stopped requires a prior stop_requested drain"
  ensure (next = .stopped → s.executingContinuations current.delegationId = 0 ∧
      ∀ row ∈ s.actionBranches.rows, row.delegationId = current.delegationId →
        row.status = .executing → command.actionBranches.any (fun branch =>
          branch.actionId = row.actionId &&
            (branch.status = .terminal || branch.status = .superseded)) = true)
    "stop drain cannot expose stopped while an action is executing"
  ensure (next = .stopRequested → current.runControl = .running)
    "stop_requested may only begin from running"
  ensure (next = .running → current.runControl ≠ .stopRequested)
    "stop_requested must drain to stopped before explicit resume"
  if next = .running ∧ current.runControl = .stopped then do
    let proof ← required "resume requires a fresh exact resume proof" command.resumeProof
    ensure (proof.binds current = true) "resume proof is stale or incomplete"
    ensure (command.continuation ≠ none)
      "resume requires exactly one current runnable continuation"
    .ok (current.stopEpoch + 1)
  else do
    ensure (command.resumeProof = none)
      "resume proof is only legal for stopped-to-running resume"
    .ok (if next = .stopRequested then current.stopEpoch + 1 else current.stopEpoch)

def sameBranchIdentity (stored branch : ActionBranchRecord) : Bool :=
  stored.actionRevision = branch.actionRevision &&
    stored.targetDelegationRevision = branch.targetDelegationRevision &&
    stored.targetPlanRevision = branch.targetPlanRevision &&
    stored.stopEpoch = branch.stopEpoch && stored.branchKind = branch.branchKind &&
    stored.actionSummary = branch.actionSummary && stored.createdAt = branch.createdAt

def Store.validateActionBranch (s : Store) (current : DelegationRecord)
    (control : RunControlState) (nextStopEpoch : Int) (branch : ActionBranchRecord) :
    Anyhow Unit := do
  requireText "action_id" branch.actionId
  requireText "action_summary" branch.actionSummary
  let plan ← required "delegation has no active plan" current.currentPlanRevision
  ensure (branch.delegationId = current.delegationId ∧ branch.targetPlanRevision = plan)
    "action branch must bind the current delegation and plan revision"
  match s.loadAction branch.actionId with
  | some stored => do
    ensure (sameBranchIdentity stored branch = true)
      "action branch identity conflicts with an immutable prior record"
    ensure ((stored.status = .terminal ∨ stored.status = .superseded) →
        branch.status = stored.status) "terminal action branch cannot be reopened"
  | none =>
    ensure (branch.targetDelegationRevision = current.stateRevision + 1 ∧
        branch.stopEpoch = nextStopEpoch)
      "new action branch must bind the exact next revision and stop epoch"
  ensure (control ≠ .running → branch.status ≠ .runnable ∧ branch.status ≠ .executing)
    "stop_requested/stopped blocks new runnable or executing action branches"

def Store.upsertActionBranch (s : Store) (record : ActionBranchRecord) : Anyhow Store :=
  match s.loadAction record.actionId with
  | none => s.insertBranch record
  | some _ => s.updateBranches (fun row => row.actionId = record.actionId &&
      row.delegationId = record.delegationId && row.branchKind = record.branchKind)
      (fun row => { row with
        status := record.status, updatedAt := record.updatedAt, terminalAt := record.terminalAt
        stopEpoch := record.stopEpoch }) fun _ => rfl

def Store.applyActionBranch (current : DelegationRecord) (control : RunControlState)
    (nextStopEpoch : Int) (s : Store) (branch : ActionBranchRecord) : Anyhow Store := do
  s.validateActionBranch current control nextStopEpoch branch
  s.upsertActionBranch branch

def Store.applyAttention (current : DelegationRecord) (s : Store) (item : AttentionItemRecord) :
    Anyhow Store := do
  requireText "attention_id" item.attentionId
  requireText "attention.reason" item.reason
  requireText "attention.recommendation" item.recommendation
  ensure (item.delegationId = current.delegationId ∧
      item.delegationRevision = current.stateRevision + 1)
    "attention item must bind the mutation's exact next delegation revision"
  ensure (K.validJson item.alternativesJson = true) "attention alternatives_json must be JSON"
  match s.attentionItems.find? item.attentionId with
  | none => s.insertAttention item
  | some stored => do
    ensure (SameAttention stored item)
      "attention item identity conflicts with an immutable prior record"
    s.updateAttention (·.attentionId = item.attentionId)
      (fun row => { row with status := item.status, resolvedAt := item.resolvedAt }) fun _ => rfl

def Store.applyExternalWait (current : DelegationRecord) (s : Store) (item : ExternalWaitRecord) :
    Anyhow Store := do
  requireText "external_wait_id" item.externalWaitId
  requireText "external_wait.reason" item.reason
  ensure (item.delegationId = current.delegationId ∧
      item.delegationRevision = current.stateRevision + 1)
    "external wait must bind the mutation's exact next delegation revision"
  ensure (K.validJson item.detailsJson = true) "external wait details_json must be JSON"
  match s.externalWaits.find? item.externalWaitId with
  | none => s.insertWait item
  | some stored => do
    ensure (SameWait stored item)
      "external wait identity conflicts with an immutable prior record"
    s.updateWaits (·.externalWaitId = item.externalWaitId)
      (fun row => { row with status := item.status, resolvedAt := item.resolvedAt }) fun _ => rfl

def validateAssessment (current : DelegationRecord) (assessment : CompletionAssessmentRecord) :
    Anyhow Unit := do
  requireText "assessment_id" assessment.assessmentId
  let criteria ← required "delegation has no active criteria" current.currentCriteriaRevision
  ensure (assessment.delegationId = current.delegationId ∧ assessment.criteriaRevision = criteria)
    "completion assessment must bind current delegation criteria"
  ensure (K.validJson assessment.assessmentJson = true) "assessment_json must be JSON"
  match assessment.kind with
  | .completed =>
    ensure (assessment.materialFailCount = 0 ∧ assessment.materialUnknownCount = 0)
      "completed requires no material failure or unknown"
  | .partiallyCompleted =>
    ensure (assessment.usefulOutcome = true ∧ assessment.noRemainingPath = true ∧
        (assessment.exactUnmetPortion.getD []) ≠ [])
      "partial completion requires useful result, exact gaps, and no remaining path"
  | .failed =>
    ensure (assessment.usefulOutcome = false) "failed requires no useful requested outcome"

def Store.validateSnapshotContinuation (s : Store) (current : DelegationRecord)
    (command : LifecycleSnapshotCommand) (nextStopEpoch : Int) (c : ContinuationRecord) :
    Anyhow Unit := do
  validateContinuation c
  let plan ← required "delegation has no active plan" current.currentPlanRevision
  ensure (c.delegationId = current.delegationId ∧
      c.targetDelegationRevision = current.stateRevision + 1 ∧ c.targetPlanRevision = plan ∧
      c.stopEpoch = nextStopEpoch ∧ command.selectedRunControl = .running)
    "continuation must target the exact running next revision and current plan"
  let branch ← required "continuation action branch is missing" (s.loadAction c.actionId)
  ensure (branch.branchKind = c.branchKind ∧
      branch.targetDelegationRevision = current.stateRevision + 1 ∧
      branch.targetPlanRevision = c.targetPlanRevision ∧ branch.stopEpoch = nextStopEpoch ∧
      branch.status = .runnable)
    "continuation must bind a current runnable branch at exact plan and stop epoch"
  ensure (s.continuations.matched (fun row => row.delegationId = current.delegationId &&
      row.targetDelegationRevision = current.stateRevision + 1 && row.status = .runnable) = 0)
    "transition already has a current runnable continuation"

end Checks

/-! The phase a transition selects, from the rows of the delegation. -/

def Store.activeBranches (s : Store) (d : DelegationRecord) (plan stopEpoch : Int)
    (kind : ActionBranchKind) : Bool :=
  s.actionBranches.rows.any fun row => row.delegationId = d.delegationId &&
    row.branchKind = kind && row.targetPlanRevision = plan && row.stopEpoch = stopEpoch &&
    (row.status = .runnable || row.status = .executing)

def Store.selectorInput (s : Store) (d : DelegationRecord) (pre : Option PreActionablePhase)
    (assessment : Option CompletionAssessmentRecord) (stopEpoch : Int) :
    Anyhow LifecycleSelectorInput := do
  let plan ← required "delegation has no active plan" d.currentPlanRevision
  .ok {
    completionAssessment := assessment.map (·.kind)
    preActionablePhase := pre
    ordinaryRunnableOrExecuting := s.activeBranches d plan stopEpoch .ordinary
    recoveryRunnableOrExecuting := s.activeBranches d plan stopEpoch .recovery
    actionableAttention := s.attentionItems.rows.any fun row =>
      row.delegationId = d.delegationId && row.status = .actionable
    externalWait := s.externalWaits.rows.any fun row =>
      row.delegationId = d.delegationId && row.status = .waiting }

/-- The decision of the oldest actionable attention item that has one. -/
def Store.firstActionableDecision (s : Store) (id : Text) : Option Text :=
  ((s.attentionItems.rows.filter fun row => row.delegationId = id && row.status = .actionable &&
    row.decisionId ≠ none).insertionSort fun first second =>
      toLex (first.createdAt, first.attentionId) ≤
        toLex (second.createdAt, second.attentionId)).head?.bind (·.decisionId)

def Store.firstWaitDetails (s : Store) (id : Text) : Option Text :=
  ((s.externalWaits.rows.filter fun row => row.delegationId = id &&
    row.status = .waiting).insertionSort fun first second =>
      toLex (first.createdAt, first.externalWaitId) ≤
        toLex (second.createdAt, second.externalWaitId)).head?.map (·.detailsJson)

/-! The writes of a transition. -/

def Store.insertAssessment (s : Store) (item : CompletionAssessmentRecord) : Anyhow Store := do
  ensure (∀ other ∈ s.completionAssessments.rows, (other.delegationId, other.assessmentRevision) ≠
      (item.delegationId, item.assessmentRevision))
    "UNIQUE constraint failed: execass_completion_assessments"
  match s.completionAssessments.insert? item with
  | some completionAssessments => .ok { s with completionAssessments }
  | none => bail "UNIQUE constraint failed: execass_completion_assessments.assessment_id"

/-- The lifecycle projection a transition writes. -/
def Store.projectTransition (s : Store) (current : DelegationRecord)
    (command : LifecycleSnapshotCommand) (phase : DelegationPhase) (nextStopEpoch : Int) :
    Anyhow Store :=
  s.updateDelegations (fun row => row.delegationId = current.delegationId &&
      row.stateRevision = current.stateRevision)
    (fun row => { row with
      phase
      runControl := command.selectedRunControl
      stateRevision := current.stateRevision + 1
      pendingDecisionId := s.firstActionableDecision current.delegationId
      externalWaitJson := s.firstWaitDetails current.delegationId
      completionAssessmentJson := command.assessment.map (·.assessmentJson)
      updatedAt := command.write.occurredAt
      terminalAt := if phase.isTerminal then some command.write.occurredAt else none
      stopEpoch := nextStopEpoch }) fun _ => rfl

section Transition
variable (K : FenceCrates)

/-- The transition of a delegation that is where the command expects it. -/
def applyTransition (current : DelegationRecord) (command : LifecycleSnapshotCommand) (s : Store) :
    Anyhow (LifecycleWriteOutcome × Store) := do
  ensure (current.phase.isTerminal = false)
    "terminal delegation cannot transition; record a terminal correction instead"
  let nextStopEpoch ← s.validateRunControl current command
  let s ← command.actionBranches.foldlM
    (Store.applyActionBranch current command.selectedRunControl nextStopEpoch) s
  let s ← command.attentionItems.foldlM (Store.applyAttention K current) s
  let s ← command.externalWaits.foldlM (Store.applyExternalWait K current) s
  checkOptional (validateAssessment K current) command.assessment
  let selectorStopEpoch :=
    if command.selectedRunControl = .stopRequested then current.stopEpoch else nextStopEpoch
  let input ← s.selectorInput current command.preActionablePhase command.assessment
    selectorStopEpoch
  let phase ← selectLifecyclePhase input
  ensure (phase.isTerminal = command.assessment.isSome)
    "only a valid completion assessment may select a terminal phase"
  checkOptional (s.validateSnapshotContinuation current command nextStopEpoch)
    command.continuation
  validateOutbox K command.outboxEvent
  ensure (command.outboxEvent.eventName = .delegationTransitioned ∧
      EventBound command.write command.outboxEvent current.delegationId (current.stateRevision + 1))
    "lifecycle transition must bind one exact outbox event to its next revision"
  let s ← s.insertOutbox command.outboxEvent
  let s ← s.projectTransition current command phase nextStopEpoch
  let s ← s.insertOptional Store.insertAssessment command.assessment
  let s ← s.insertOptional Store.insertContinuation command.continuation
  let s ← s.recordTransition current command.transitionId phase command.selectedRunControl
    (.lifecycle command) (command.continuation.map (·.continuationId)) (current.stateRevision + 1)
    command.reason command.outboxEvent.eventId command.write.occurredAt
  let snapshot ← required "applied lifecycle snapshot disappeared"
    (← s.readSnapshot command.delegationId command.transitionId)
  .ok (.applied snapshot, s)

/-- Whether the receipt history is trusted is read outside of the database. -/
def applyLifecycleSnapshot (trustedHistory : Anyhow Unit) (command : LifecycleSnapshotCommand)
    (s : Store) : Anyhow (LifecycleWriteOutcome × Store) := do
  validateSnapshot command
  checkOptional (fun _ => trustedHistory) command.assessment
  match ← s.replayedSnapshot command with
  | some replayed => .ok (.replayed replayed, s)
  | none =>
    match s.getDelegation command.delegationId with
    | none => .ok (.notFound, s)
    | some current =>
      if current.stateRevision ≠ command.expectedStateRevision then
        .ok (.stale current.stateRevision, s)
      else applyTransition K current command s

end Transition

/-! Amendments. -/

def isOpen (status : ContinuationStatus) : Bool := status ≠ .terminal && status ≠ .superseded

/-- An amendment ends the open work of the plan it replaces. -/
def Store.supersedeOpenWork (s : Store) (id : Text) (occurredAt : Int) : Anyhow Store := do
  let s ← s.updateContinuations (fun row => row.delegationId = id && isOpen row.status)
    (fun row => { row with
      status := .superseded, completedAt := some occurredAt, updatedAt := occurredAt }) fun _ => rfl
  let s ← s.updateBranches (fun row => row.delegationId = id && isOpen row.status)
    (fun row => { row with
      status := .superseded, terminalAt := some occurredAt, updatedAt := occurredAt }) fun _ => rfl
  let s ← s.updateAttention (fun row => row.delegationId = id && row.status = .actionable)
    (fun row => { row with status := .superseded, resolvedAt := some occurredAt }) fun _ => rfl
  s.updateWaits (fun row => row.delegationId = id && row.status = .waiting)
    (fun row => { row with status := .superseded, resolvedAt := some occurredAt }) fun _ => rfl

def Store.projectAmendment (s : Store) (current : DelegationRecord) (command : AmendLifecycleCommand)
    (criteriaRevision : Int) : Anyhow Store :=
  s.updateDelegations (fun row => row.delegationId = current.delegationId &&
      row.stateRevision = current.stateRevision)
    (fun row => { row with
      phase := .planning
      stateRevision := current.stateRevision + 1
      currentPlanRevision := some command.plan.planRevision
      currentCriteriaRevision := some criteriaRevision
      pendingDecisionId := none
      externalWaitJson := none
      updatedAt := command.write.occurredAt }) fun _ => rfl

section Amendment
variable (K : FenceCrates)

def validateAmendment (command : AmendLifecycleCommand) : Anyhow Unit := do
  requireText "amendment_id" command.amendmentId
  requireText "transition_id" command.transitionId
  requireText "normalized_amendment" command.normalizedAmendment
  validatePlan K command.plan
  ensure (command.outcomeCriteria ≠ []) "amendment requires replacement outcome criteria"
  command.outcomeCriteria.forM (validateCriterion K)

/-- The amendment of a delegation that is where the command expects it. The rows of the criteria,
the amendment and the decisions are outside of these tables. -/
def applyAmendment (otherRows : Anyhow Unit) (current : DelegationRecord)
    (command : AmendLifecycleCommand) (criterion : OutcomeCriterionRecord) (s : Store) :
    Anyhow (LifecycleWriteOutcome × Store) := do
  ensure (current.phase.isTerminal = false) "terminal delegation cannot be amended"
  let oldPlan ← required "delegation has no current plan" current.currentPlanRevision
  let oldCriteria ← required "delegation has no current criteria" current.currentCriteriaRevision
  ensure (command.plan.delegationId = current.delegationId ∧ oldPlan < command.plan.planRevision ∧
      command.plan.basedOnDelegationRevision = current.stateRevision + 1 ∧
      command.plan.policyRevision = current.policyRevision ∧
      command.plan.createdByAuthorityProvenanceId = command.authorityProvenanceId ∧
      oldCriteria < criterion.criteriaRevision ∧
      ∀ item ∈ command.outcomeCriteria, item.delegationId = current.delegationId ∧
        item.criteriaRevision = criterion.criteriaRevision)
    "amendment plan/criteria are not bound to the exact next revision"
  ensure (command.outboxEvent.eventName = .delegationTransitioned ∧
      EventBound command.write command.outboxEvent current.delegationId (current.stateRevision + 1))
    "amendment requires one exact next-revision transition event"
  let s ← s.insertPlan command.plan
  otherRows
  let s ← s.supersedeOpenWork current.delegationId command.write.occurredAt
  let s ← s.insertOutbox command.outboxEvent
  let s ← s.projectAmendment current command criterion.criteriaRevision
  let s ← s.recordTransition current command.transitionId .planning current.runControl
    (.amendment command) none (current.stateRevision + 1) "amendment".toList
    command.outboxEvent.eventId command.write.occurredAt
  let snapshot ← required "amendment snapshot disappeared"
    (← s.readSnapshot current.delegationId command.transitionId)
  .ok (.applied snapshot, s)

def amendLifecycle (otherRows : Anyhow Unit) (command : AmendLifecycleCommand) (s : Store) :
    Anyhow (LifecycleWriteOutcome × Store) := do
  validateAmendment K command
  match ← s.readSnapshot command.delegationId command.transitionId with
  | some snapshot => do
    ensure (snapshot.transition.commandIdentity = .amendment command ∧
        snapshot.outboxEvent = command.outboxEvent)
      "amendment transition conflicts with immutable prior write"
    .ok (.replayed snapshot, s)
  | none =>
    match s.getDelegation command.delegationId with
    | none => .ok (.notFound, s)
    | some current =>
      if current.stateRevision ≠ command.expectedStateRevision then
        .ok (.stale current.stateRevision, s)
      else do
        let criterion ← required "amendment requires replacement outcome criteria"
          command.outcomeCriteria.head?
        applyAmendment otherRows current command criterion s

inductive VerifiedFollowUpAmendmentOutcome where
  | applied (snapshot : LifecycleSnapshot)
  | replayed (snapshot : LifecycleSnapshot)
  | stale (currentStateRevision : Int)
  | notFound

/-- A follow-up the owner signed. Its authority and its manifest are checked outside of these
tables. -/
def applyVerifiedFollowUpAmendment (J : Coordinator) (authorised otherRows : Anyhow Unit)
    (command : AmendLifecycleCommand) (receipt : AppendReceiptCommand) (s : Store) :
    Anyhow (AtomicWrite VerifiedFollowUpAmendmentOutcome × Store) := do
  mutateWithAdvancingAtomicReceipt J command.expectedStateRevision receipt (fun s => do
    match ← s.readSnapshot command.delegationId command.transitionId with
    | some _ => do
      let (outcome, s) ← amendLifecycle K otherRows command s
      match outcome with
      | .replayed snapshot => do
        ensure ((s.receiptByCausationEvent receipt.causationEventId).isSome = true)
          "existing amendment transition is missing its required receipt"
        .ok (.noAppend (.replayed snapshot), s)
      | _ => bail "existing amendment transition did not replay exactly"
    | none =>
      match s.getDelegation command.delegationId with
      | none => .ok (.noAppend .notFound, s)
      | some current =>
        if current.stateRevision ≠ command.expectedStateRevision then
          .ok (.noAppend (.stale current.stateRevision), s)
        else do
          authorised
          let (outcome, s) ← amendLifecycle K otherRows command s
          match outcome with
          | .applied snapshot => .ok (.append (.applied snapshot), s)
          | .replayed snapshot => .ok (.noAppend (.replayed snapshot), s)
          | .stale revision => .ok (.noAppend (.stale revision), s)
          | .notFound => .ok (.noAppend .notFound, s)) s

end Amendment

end CarsinOS.Delegation
