import CarsinOS.Delegation.Claim

/-! The lifecycle of a delegation: its foundation, its transitions and amendments, and the jobs of
its runnable continuations. -/
namespace CarsinOS.Delegation
open CarsinOS.Lib CarsinOS.Integrity CarsinOS.Receipt

structure LifecycleSelectorInput where
  completionAssessment : Option CompletionAssessmentKind
  preActionablePhase : Option PreActionablePhase
  ordinaryRunnableOrExecuting : Bool
  recoveryRunnableOrExecuting : Bool
  actionableAttention : Bool
  externalWait : Bool

def selectLifecyclePhase (input : LifecycleSelectorInput) : Anyhow DelegationPhase :=
  match input.completionAssessment, input.preActionablePhase with
  | some assessment, _ => .ok assessment.phase
  | none, some preActionable => .ok preActionable.phase
  | none, none =>
    if input.ordinaryRunnableOrExecuting then .ok .inMotion
    else if input.recoveryRunnableOrExecuting then .ok .recovering
    else if input.actionableAttention then .ok .waitingForUser
    else if input.externalWait then .ok .waitingExternal
    else bail "delegation has no honest lifecycle path"

structure LifecycleSnapshot where
  delegation : DelegationRecord
  transition : LifecycleTransitionRecord
  continuation : Option ContinuationRecord
  outboxEvent : NewOutboxEvent

inductive LifecycleWriteOutcome where
  | applied (snapshot : LifecycleSnapshot)
  | replayed (snapshot : LifecycleSnapshot)
  | stale (currentStateRevision : Int)
  | notFound

section Checks
variable (K : FenceCrates)

def validateJson (field : String) (value : Text) : Anyhow Unit :=
  ensure (K.validJson value = true) (field ++ " must contain valid JSON")

/-- A check of a value that may be absent. -/
def checkOptional {T : Type} (check : T → Anyhow Unit) : Option T → Anyhow Unit
  | none => .ok ()
  | some value => check value

theorem checkOptional_some {T : Type} {check : T → Anyhow Unit} {item : Option T} {u : Unit}
    (done : checkOptional check item = .ok u) {value : T} (present : item = some value) :
    check value = .ok () := by
  subst present
  exact done

def validateWriteContext (context : WriteContext) : Anyhow Unit := do
  requireText "write.idempotency_key" context.idempotencyKey
  requireText "write.correlation_id" context.correlationId
  requireText "write.causation_id" context.causationId

def validatePlan (record : PlanRecord) : Anyhow Unit := do
  requireText "plan_id" record.planId
  requireText "plan.delegation_id" record.delegationId
  requireText "plan_summary" record.planSummary
  requireText "manifest_digest" record.manifestDigest
  requireText "plan.created_by_authority_provenance_id" record.createdByAuthorityProvenanceId
  validateJson K "resolved_leaf_manifest_json" record.resolvedLeafManifestJson

def validateCriterion (record : OutcomeCriterionRecord) : Anyhow Unit := do
  requireText "criterion_id" record.criterionId
  requireText "criterion.delegation_id" record.delegationId
  requireText "criterion_key" record.criterionKey
  requireText "criterion.description" record.description
  requireText "criterion.authoritative_source_kind" record.authoritativeSourceKind
  validateJson K "expected_predicate_json" record.expectedPredicateJson

def validateContinuation (record : ContinuationRecord) : Anyhow Unit := do
  requireText "continuation_id" record.continuationId
  requireText "continuation.delegation_id" record.delegationId
  requireText "continuation.action_id" record.actionId
  requireText "continuation.causation_id" record.causationId
  ensure (0 < record.targetDelegationRevision ∧ 0 < record.targetPlanRevision ∧
      0 ≤ record.fencingToken ∧ 0 < record.hostGeneration ∧ 0 ≤ record.stopEpoch ∧
      0 ≤ record.globalStopEpoch ∧ 0 < record.createdAt ∧ record.createdAt ≤ record.updatedAt)
    "continuation has invalid revision, fence, epoch, or timestamp"

/-- The event a write context owns, for one revision of a delegation. -/
def EventBound (write : WriteContext) (event : NewOutboxEvent) (delegationId : Text)
    (revision : Int) : Prop :=
  event.aggregateId = delegationId ∧ event.aggregateRevision = revision ∧
    event.duplicateIdentity = write.idempotencyKey ∧ event.correlationId = write.correlationId ∧
    event.causationId = write.causationId ∧ event.occurredAt = write.occurredAt

instance (write : WriteContext) (event : NewOutboxEvent) (delegationId : Text) (revision : Int) :
    Decidable (EventBound write event delegationId revision) := by
  unfold EventBound
  infer_instance

end Checks

/-- A transition of a delegation, under the revision the delegation has now. -/
def Store.recordTransition (s : Store) (previous : DelegationRecord) (transitionId : Text)
    (phase : DelegationPhase) (runControl : RunControlState) (identity : CommandIdentity)
    (continuationId : Option Text) (revision : Int) (reason outboxEventId : Text)
    (occurredAt : Int) : Anyhow Store := do
  let snapshot ← s.projectionSnapshot previous.delegationId continuationId
  s.insertTransition {
    transitionId
    delegationId := previous.delegationId
    stateRevision := revision
    previousPhase := previous.phase
    selectedPhase := phase
    previousRunControl := previous.runControl
    selectedRunControl := runControl
    commandIdentity := identity
    projectionSnapshot := snapshot
    reason
    outboxEventId
    occurredAt }

def Store.insertOptional {T : Type} (insert : Store → T → Anyhow Store) (s : Store) :
    Option T → Anyhow Store
  | none => .ok s
  | some row => insert s row

/-! The foundation. -/

structure CreateFoundationCommand where
  write : WriteContext
  ingressIdempotencyKey : Text
  delegation : DelegationRecord
  plan : PlanRecord
  outcomeCriteria : List OutcomeCriterionRecord
  initialContinuation : Option ContinuationRecord
  outboxEvent : NewOutboxEvent

inductive FoundationWriteOutcome where
  | created (delegation : DelegationRecord)
  | replayed (delegation : DelegationRecord)
  | conflict (existing : Option Text)

/-- What a foundation reads and writes of other tables: the provenance of its authority, the intake
of its delegation, and the criteria. -/
structure FoundationOutside where
  provenance : Anyhow Unit
  idempotentDelegation : Option Text
  matchesCommand : Bool
  criterionTaken : Bool
  inserted : Anyhow Unit

section Foundation
variable (K : FenceCrates)

def validateFoundationRecords (command : CreateFoundationCommand) : Anyhow Unit := do
  validateWriteContext command.write
  requireText "delegation_id" command.delegation.delegationId
  validateJson K "effective_authority_json" command.delegation.effectiveAuthorityJson
  validatePlan K command.plan
  validateOutbox K command.outboxEvent
  ensure (command.outcomeCriteria ≠ [])
    "an ExecAss foundation requires at least one outcome criterion"
  ensure ((command.outcomeCriteria.map (·.criterionId)).Nodup)
    "duplicate criterion_id in one mutation command"
  command.outcomeCriteria.forM (validateCriterion K)
  checkOptional validateContinuation command.initialContinuation

def validateFoundationBindings (command : CreateFoundationCommand)
    (expectedContinuationCausation : ContinuationCausationKind) : Anyhow Unit := do
  let d := command.delegation
  let plan := command.plan
  ensure (plan.policyRevision = d.policyRevision)
    "foundation authority, delegation, and plan policy revisions do not match"
  ensure (plan.createdByAuthorityProvenanceId = d.authorityProvenanceId ∧
      plan.delegationId = d.delegationId ∧ plan.basedOnDelegationRevision = d.stateRevision ∧
      d.currentPlanRevision = some plan.planRevision)
    "foundation plan is not exactly bound to the admitted delegation revision"
  ensure (∀ criterion ∈ command.outcomeCriteria, criterion.delegationId = d.delegationId ∧
      d.currentCriteriaRevision = some criterion.criteriaRevision)
    "foundation criteria do not share the exact admitted criteria revision"
  ensure (∀ c ∈ command.initialContinuation, c.delegationId = d.delegationId ∧
      c.targetDelegationRevision = d.stateRevision ∧
      c.targetPlanRevision = plan.planRevision ∧
      c.causationKind = expectedContinuationCausation ∧ c.causationId = command.write.causationId ∧
      c.stopEpoch = d.stopEpoch ∧ c.branchKind = .ordinary)
    "initial continuation is not exactly bound to foundation causation"
  ensure (command.write.idempotencyKey = command.ingressIdempotencyKey ∧
      command.outboxEvent.eventName = .delegationTransitioned ∧
      EventBound command.write command.outboxEvent d.delegationId d.stateRevision)
    "foundation outbox identity is not exactly bound to intake"

def validateFoundationCommandForCausation (outside : FoundationOutside)
    (command : CreateFoundationCommand)
    (expectedContinuationCausation : ContinuationCausationKind) : Anyhow Unit := do
  validateFoundationRecords K command
  outside.provenance
  validateFoundationBindings command expectedContinuationCausation

def initialBranch (c : ContinuationRecord) : ActionBranchRecord where
  actionId := c.actionId
  delegationId := c.delegationId
  actionRevision := 1
  targetDelegationRevision := c.targetDelegationRevision
  targetPlanRevision := c.targetPlanRevision
  stopEpoch := c.stopEpoch
  branchKind := c.branchKind
  status := c.status
  actionSummary := "initial durable continuation".toList
  createdAt := c.createdAt
  updatedAt := c.updatedAt
  terminalAt := c.completedAt

def Store.insertPlan (s : Store) (plan : PlanRecord) : Anyhow Store := do
  ensure (∀ other ∈ s.plans.rows, other.planId ≠ plan.planId)
    "failed inserting immutable ExecAss plan"
  match s.plans.insert? plan with
  | some plans => .ok { s with plans }
  | none => bail "failed inserting immutable ExecAss plan"

def Store.insertInitialContinuation (s : Store) (c : ContinuationRecord) : Anyhow Store := do
  let s ← s.insertBranch (initialBranch c)
  s.insertContinuation c

def Store.recordGenesisLifecycleHistory (s : Store) (command : CreateFoundationCommand) :
    Anyhow Store :=
  s.recordTransition command.delegation ("genesis:".toList ++ command.delegation.delegationId)
    command.delegation.phase command.delegation.runControl .genesis
    (command.initialContinuation.map (·.continuationId)) command.delegation.stateRevision
    "genesis".toList command.outboxEvent.eventId command.write.occurredAt

def createFoundationInTx (outside : FoundationOutside) (command : CreateFoundationCommand)
    (s : Store) : Anyhow (FoundationWriteOutcome × Store) :=
  match outside.idempotentDelegation with
  | some existing =>
    if outside.matchesCommand then do
      let current ← required "idempotent ExecAss foundation disappeared" (s.getDelegation existing)
      .ok (.replayed current, s)
    else .ok (.conflict (some existing), s)
  | none =>
    if (s.getDelegation command.delegation.delegationId).isSome ∨
        s.plans.rows.any (·.planId = command.plan.planId) ∨
        (s.outboxEvents.find? command.outboxEvent.eventId).isSome ∨
        command.initialContinuation.any (fun c => (s.getContinuation c.continuationId).isSome) ∨
        outside.criterionTaken then
      .ok (.conflict ((s.getDelegation command.delegation.delegationId).map (·.delegationId)), s)
    else do
      outside.inserted
      let s ← s.insertDelegation command.delegation
      let s ← s.insertPlan command.plan
      let s ← s.insertOptional Store.insertInitialContinuation command.initialContinuation
      let s ← s.insertOutbox command.outboxEvent
      let s ← s.recordGenesisLifecycleHistory command
      let d ← required "created ExecAss foundation could not be reloaded"
        (s.getDelegation command.delegation.delegationId)
      .ok (.created d, s)

def createFoundation (outside : FoundationOutside) (causation : ContinuationCausationKind)
    (command : CreateFoundationCommand) (s : Store) : Anyhow (FoundationWriteOutcome × Store) := do
  validateFoundationCommandForCausation K outside command causation
  createFoundationInTx outside command s

end Foundation

/-! The jobs of runnable continuations. -/

section Jobs
variable (K : FenceCrates)

def deterministicContinuationJobId (continuationId : Text) : Text :=
  "execass-job-".toList ++ K.sha256 (utf8Bytes "carsinos.execass.continuation_job.v1".toList ++ [0] ++
    utf8Bytes continuationId)

def continuationJobPayload (c : ContinuationRecord) : JobPayload where
  mode := some EXECASS_CONTINUATION_JOB_MODE
  continuationId := some c.continuationId
  delegationId := some c.delegationId
  actionId := some c.actionId
  targetDelegationRevision := some c.targetDelegationRevision
  targetPlanRevision := some c.targetPlanRevision
  branchKind := some c.branchKind
  causationKind := some c.causationKind
  causationId := some c.causationId

def continuationJob (c : ContinuationRecord) (scheduledAt : Int) : JobRecord where
  jobId := deterministicContinuationJobId K c.continuationId
  payload := continuationJobPayload c
  enabled := true
  runAt := some scheduledAt
  nextRunAt := some scheduledAt
  leaseOwner := none
  leaseExpiresAt := none
  deleted := false

/-- `INSERT OR IGNORE`, after which the row must be the job asked for. -/
def Store.insertContinuationJob (s : Store) (job : JobRecord) : Anyhow Store := do
  let s := match s.jobs.insert? job with
    | some jobs => { s with jobs }
    | none => s
  let stored ← required "deterministic continuation job identity collision" (s.jobs.find? job.jobId)
  ensure ({ stored with leaseOwner := none, leaseExpiresAt := none } = job)
    "deterministic continuation job identity collision"
  .ok s

/-- The event of the continuation's revision, or a new one. -/
def Store.insertAuthorityEvent (s : Store) (c : ContinuationRecord) (jobId : Text)
    (scheduledAt : Int) : Anyhow Store :=
  if s.outboxEvents.rows.any (fun e => e.aggregateId = c.delegationId &&
      e.aggregateRevision = c.targetDelegationRevision &&
      e.eventName = .delegationTransitioned) then .ok s
  else s.insertOutbox {
    eventId := "continuation-job-authority-event-".toList ++ jobId
    eventName := .delegationTransitioned
    aggregateId := c.delegationId
    aggregateRevision := c.targetDelegationRevision
    correlationId := "continuation-job-authority-correlation-".toList ++ jobId
    causationId := "continuation-job-authority-cause-".toList ++ jobId
    occurredAt := scheduledAt
    safePayloadJson := (Json.obj [("continuation_id".toList, .str c.continuationId),
      ("job_id".toList, .str jobId),
      ("operation".toList, .str "continuation_job_materialized".toList)]).print
    duplicateIdentity := "continuation-job-authority-write-".toList ++ jobId }

/-- The link of the binding to its event must name the live revision. -/
def Store.linkContinuationJob (s : Store) (c : ContinuationRecord) (jobId : Text)
    (scheduledAt : Int) : Anyhow Store := do
  let d ← required "FOREIGN KEY constraint failed" (s.getDelegation c.delegationId)
  let s ← s.insertAuthorityEvent c jobId scheduledAt
  ensure (d.stateRevision = c.targetDelegationRevision)
    "authority link must bind the resulting delegation revision"
  .ok s

def Store.bindContinuationJob (scheduledAt : Int) (s : Store) (c : ContinuationRecord) :
    Anyhow Store := do
  requireText "continuation_id" c.continuationId
  requireText "delegation_id" c.delegationId
  let job := continuationJob K c scheduledAt
  let s ← s.insertContinuationJob job
  let hit (row : ContinuationRecord) : Bool := row.continuationId = c.continuationId &&
    row.delegationId = c.delegationId && row.status = .runnable && row.completedAt = none &&
    row.jobId = none
  let next ← s.updateContinuations hit (fun row => { row with
    jobId := some job.jobId, updatedAt := max row.updatedAt scheduledAt }) fun _ => rfl
  ensure (s.continuations.matched hit = 1) "runnable continuation changed during job reconciliation"
  next.linkContinuationJob c job.jobId scheduledAt

/-- The runnable continuations without a job, the oldest first. -/
def Store.unboundContinuations (s : Store) (limit : Nat) : List ContinuationRecord :=
  ((s.continuations.rows.filter fun row =>
    row.status = .runnable && row.completedAt = none && row.jobId = none).insertionSort
      fun first second => toLex (first.createdAt, toLex (first.delegationId, first.continuationId)) ≤
        toLex (second.createdAt, toLex (second.delegationId, second.continuationId))).take limit

/-- The agent the jobs are for is read from another table. -/
def materializeRunnableContinuationJobs (agentAvailable : Bool) (scheduledAt : Int) (limit : Nat)
    (s : Store) : Anyhow Store := do
  ensure (0 < scheduledAt) "scheduled_at must be positive"
  ensure (0 < limit ∧ limit ≤ 1000) "limit must be between 1 and 1000"
  ensure (agentAvailable = true) "canonical ExecAss job agent is unavailable"
  (s.unboundContinuations limit).foldlM (Store.bindContinuationJob K scheduledAt) s

end Jobs

end CarsinOS.Delegation
