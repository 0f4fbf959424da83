import CarsinOS.Confirmation.Binding

/-! The admission of one claimed occurrence of a saved routine, and the other statements that write
the occurrences. -/
namespace CarsinOS.Routine
open CarsinOS.Lib CarsinOS.Actor CarsinOS.Manifest CarsinOS.Danger CarsinOS.Integrity
open CarsinOS.Confirmation CarsinOS.Delegation

def EXECASS_ROUTINE_TRIGGER_MODE : Text := "execass.routine_trigger".toList

def EXECASS_ROUTINE_TRIGGER_SCHEDULE_KIND : Text := "execass_routine_trigger".toList

inductive RoutineOccurrenceStatus where
  | planned | admissionPlanned | skipped | settled
  deriving DecidableEq

structure RoutineOccurrenceRecord where
  occurrenceId : Text
  routineId : Text
  routineVersion : Int
  scheduledInstantMs : Int
  effectivePolicyRevision : Int
  status : RoutineOccurrenceStatus
  admissionPlanJson : Option Text
  admittedDelegationId : Option Text
  updatedAt : Int
  deriving DecidableEq

structure RoutineVersionRecord where
  routineId : Text
  routineVersion : Int
  sourceDelegationId : Text
  savedOwnerAuthorityProvenanceId : Text
  normalizedOriginalIntent : Text
  savedSelectorJson : Text
  acceptedConfirmationGrantId : Option Text
  effectivePolicySnapshotJson : Text
  effectivePolicyRevision : Int
  stableLeafDigest : Text
  deriving DecidableEq

/-- The columns of `execass_routines` that an admission reads. -/
structure RoutineRow where
  routineId : Text
  currentVersion : Int
  enabled : Bool
  updatedAt : Int
  deriving DecidableEq

structure AuthorityRow where
  authorityProvenanceId : Text
  policyRevision : Int
  sourceCorrelationId : Text
  deriving DecidableEq

/-- A row of `jobs` that triggers an occurrence. -/
structure TriggerJob where
  jobId : Text
  scheduleKind : Text
  payloadJson : Text
  enabled : Bool
  nextRunAt : Option Int
  leaseOwner : Option Text
  leaseExpiresAt : Option Int
  updatedAt : Int
  deleted : Bool
  deriving DecidableEq

inductive TriggerOperation where
  | settleTrigger | advanceDriver
  deriving DecidableEq

structure TriggerOperationRow where
  operationId : Text
  occurrenceId : Option Text
  jobId : Text
  operation : TriggerOperation
  leaseOwner : Text
  leaseExpiresAt : Int
  occurredAt : Int
  deriving DecidableEq

structure Db where
  store : Store
  /-- The normalized original intent of a delegation. -/
  originalIntent : Text → Text
  criteria : List OutcomeCriterionRecord
  authorities : Table AuthorityRow.authorityProvenanceId
  grants : Table AcceptedConfirmationGrantRecord.grantId
  routines : Table RoutineRow.routineId
  versions : Table fun row : RoutineVersionRecord => (row.routineId, row.routineVersion)
  occurrences : Table RoutineOccurrenceRecord.occurrenceId
  jobBindings : List (Text × Text)
  driverJobs : List Text
  jobs : Table TriggerJob.jobId
  operations : Table TriggerOperationRow.operationId

structure RoutineAdmissionRequest where
  occurrenceId : Text
  triggerJobId : Text
  triggerLeaseOwner : Text
  triggerLeaseExpiresAt : Int
  trustedNow : Int

inductive RoutineOccurrenceDispatchOutcome where
  | admitted (occurrenceId delegationId continuationId : Text)
  | replayed (occurrenceId delegationId : Text)
  | refused (reason : String)

/-! The schema of the reserved trigger jobs. -/

def jobBound (db : Db) (jobId : Text) : Bool := db.jobBindings.any (·.2 = jobId)

def recordedAt (db : Db) (operation : TriggerOperation) (job : TriggerJob) : Bool :=
  db.operations.rows.any fun row =>
    row.jobId = job.jobId && row.operation = operation && row.occurredAt = job.updatedAt

def released (job : TriggerJob) : Bool := job.leaseOwner = none && job.leaseExpiresAt = none

/-- `execass_reserved_routine_job_immutable`, of an update that only ends the job. A next run that
is null is not different from any other in SQL. -/
def reservedJobRefused (db : Db) (new : TriggerJob) : Bool :=
  (jobBound db new.jobId || db.driverJobs.contains new.jobId) &&
    !(jobBound db new.jobId && !new.enabled && new.nextRunAt = none && released new &&
      recordedAt db .settleTrigger new) &&
    !(db.driverJobs.contains new.jobId && released new && recordedAt db .advanceDriver new &&
      new.nextRunAt.all (· = new.updatedAt + 60000))

def endJob (trustedNow : Int) (job : TriggerJob) : TriggerJob :=
  { job with
    enabled := false, nextRunAt := none, leaseOwner := none, leaseExpiresAt := none
    updatedAt := max job.updatedAt trustedNow }

def Db.endJobs (db : Db) (hit : TriggerJob → Bool) (trustedNow : Int) : Anyhow Db := do
  ensure (∀ job ∈ db.jobs.rows, hit job = true →
      reservedJobRefused db (endJob trustedNow job) = false)
    "ExecAss reserved routine trigger job is immutable"
  .ok { db with jobs := db.jobs.update hit (endJob trustedNow) fun _ => rfl }

def Db.insertOperation (db : Db) (row : TriggerOperationRow) : Anyhow Db := do
  ensure (∀ other ∈ db.operations.rows,
      row.occurrenceId = none ∨ other.occurrenceId ≠ row.occurrenceId)
    "UNIQUE constraint failed: execass_routine_trigger_operations.occurrence_id"
  match db.operations.insert? row with
  | some operations => .ok { db with operations }
  | none => bail "UNIQUE constraint failed: execass_routine_trigger_operations.operation_id"

def Db.updateOccurrences (db : Db) (hit : RoutineOccurrenceRecord → Bool)
    (f : RoutineOccurrenceRecord → RoutineOccurrenceRecord)
    (keeps : ∀ row, (f row).occurrenceId = row.occurrenceId) : Anyhow Db := do
  ensure (∀ row ∈ db.occurrences.rows, hit row = true → (f row).admittedDelegationId = none ∨
      ∀ other ∈ db.occurrences.rows, other.occurrenceId ≠ row.occurrenceId →
        other.admittedDelegationId ≠ (f row).admittedDelegationId)
    "UNIQUE constraint failed: execass_routine_occurrences.admitted_delegation_id"
  .ok { db with occurrences := db.occurrences.update hit f keeps }

/-! The admission. -/

section Admission
variable (C : Crates) (validJson : Text → Bool)

def fenceCrates : FenceCrates := ⟨plainDigestHex C, validJson⟩

def deterministicId (domain : String) (occurrenceId : Text) (suffix : Option Text) : Text :=
  domain.toList ++ '-' :: plainDigestHex C (ascii "carsinos.execass.routine.admission.v1" ++ [0] ++
    ascii domain ++ [0] ++ utf8Bytes occurrenceId ++
    match suffix with
    | some suffix => 0 :: utf8Bytes suffix
    | none => [])

def deterministicRoutineOccurrenceActionId (occurrenceId : Text) : Text :=
  deterministicId C "routine_action" occurrenceId none

def number (value : Int) : Json := .num (toString value).toList

def routineTriggerPayload (occurrence : RoutineOccurrenceRecord) : Text :=
  (Json.obj [
    ("mode".toList, .str EXECASS_ROUTINE_TRIGGER_MODE),
    ("occurrence_id".toList, .str occurrence.occurrenceId),
    ("routine_id".toList, .str occurrence.routineId),
    ("routine_version".toList, number occurrence.routineVersion),
    ("scheduled_instant_ms".toList, number occurrence.scheduledInstantMs)]).print

/-- The job that holds the lease of the request, bound to the occurrence. -/
def leased (db : Db) (request : RoutineAdmissionRequest) (occurrence : RoutineOccurrenceRecord)
    (job : TriggerJob) : Bool :=
  db.jobBindings.contains (occurrence.occurrenceId, job.jobId) && job.jobId = request.triggerJobId &&
    job.payloadJson = routineTriggerPayload occurrence &&
    job.leaseOwner = some request.triggerLeaseOwner &&
    job.leaseExpiresAt = some request.triggerLeaseExpiresAt &&
    request.trustedNow < request.triggerLeaseExpiresAt && !job.deleted

def triggerMatches (db : Db) (request : RoutineAdmissionRequest)
    (occurrence : RoutineOccurrenceRecord) : Bool :=
  db.jobs.rows.any fun job => leased db request occurrence job &&
    job.scheduleKind = EXECASS_ROUTINE_TRIGGER_SCHEDULE_KIND && job.enabled

def policyChanged (db : Db) (occurrence : RoutineOccurrenceRecord) (version : RoutineVersionRecord) :
    Bool :=
  db.store.globalControl.currentPolicyRevision ≠ version.effectivePolicyRevision ||
    occurrence.effectivePolicyRevision ≠ db.store.globalControl.currentPolicyRevision

/-- The first fact of the routine, the policy or the trigger that does not stand now. -/
def refusal (db : Db) (request : RoutineAdmissionRequest) (occurrence : RoutineOccurrenceRecord)
    (version : RoutineVersionRecord) (routine : RoutineRow) : Option String :=
  if routine.enabled = false then some "routine_paused"
  else if routine.currentVersion ≠ occurrence.routineVersion then some "routine_version_superseded"
  else if db.store.globalControl.engaged then some "global_stop_engaged"
  else if policyChanged db occurrence version then some "current_policy_changed"
  else if triggerMatches db request occurrence = false then some "trigger_lease_or_binding_invalid"
  else none

/-- The leaf is the one the owner saved. -/
structure SavedLeaf (occurrence : RoutineOccurrenceRecord) (version : RoutineVersionRecord)
    (leaf : CanonicalLeafAction) : Prop where
  action : leaf.logicalActionId = deterministicRoutineOccurrenceActionId C occurrence.occurrenceId
  authority : leaf.ownerAuthority.authorityProvenanceId = version.savedOwnerAuthorityProvenanceId
  intent : ownerNormalizedIntentDigest C version.normalizedOriginalIntent =
    some leaf.ownerAuthority.normalizedIntentDigest.val
  stable : savedRoutineStableLeafDigest C leaf = version.stableLeafDigest

instance (occurrence : RoutineOccurrenceRecord) (version : RoutineVersionRecord)
    (leaf : CanonicalLeafAction) : Decidable (SavedLeaf C occurrence version leaf) :=
  decidable_of_iff (_ ∧ _ ∧ _ ∧ _)
    ⟨fun ⟨action, authority, intent, stable⟩ => ⟨action, authority, intent, stable⟩,
      fun saved => ⟨saved.action, saved.authority, saved.intent, saved.stable⟩⟩

def confirmationForLeaf (route : DangerRoute) (leaf : CanonicalLeafAction) :
    Option DangerAssessment :=
  if route.canonicalLeafDigest ≠ leafDigest leaf then none
  else match route.kind with
    | .ordinary => none
    | .requiresOneConfirmation assessment => some assessment

def requirePinnedSavedRoutineGrantInTx (db : Db) (version : RoutineVersionRecord)
    (manifest : CanonicalLeafManifest) (leaf : CanonicalLeafAction) (declaredConsequence : Text) :
    Anyhow AcceptedConfirmationGrantRecord := do
  ensure (savedRoutineStableLeafDigest C leaf = version.stableLeafDigest)
    "routine occurrence materially differs from its saved stable leaf"
  let grantId ← required "dangerous routine occurrence has no pinned accepted confirmation grant"
    version.acceptedConfirmationGrantId
  let binding ← exactBindingWithSavedParts C version.normalizedOriginalIntent manifest leaf
    declaredConsequence (some ⟨version.routineId, version.savedSelectorJson⟩)
  let grant ← required "pinned routine confirmation grant does not exist" (db.grants.find? grantId)
  ensure (covers grant version.sourceDelegationId binding = true)
    "pinned routine confirmation grant does not cover the exact current action"
  .ok grant

/-- What an admission finds outside of these tables: whether the proof carries a signature of the
active storage pin, and what its foundation reads. -/
structure AdmissionOutside where
  signed : Anyhow Unit
  foundation : FoundationOutside

def verifyDangerAdmission (outside : AdmissionOutside) (proof : DangerAdmissionProof)
    (manifest : CanonicalLeafManifest) : Anyhow DangerAdmissionState := do
  outside.signed
  match validateForManifest proof manifest with
  | .ok state => .ok state
  | .error _ => bail "invalid gateway danger-admission proof"

def requireConfirmation (db : Db) (version : RoutineVersionRecord) (manifest : CanonicalLeafManifest)
    (leaf : CanonicalLeafAction) (proof : DangerAdmissionProof) : DangerAdmissionState → Anyhow Unit
  | .ordinary => .ok ()
  | .requiresOneConfirmation => do
    let assessment ← required "dangerous routine leaf has no exact consequence disclosure"
      (proof.routesInManifestOrder.head?.bind fun route => confirmationForLeaf route leaf)
    let _ ← requirePinnedSavedRoutineGrantInTx C db version manifest leaf
      assessment.declaredConsequence
    .ok ()

/-- The criteria of a revision, by their keys. -/
def criteriaOf (db : Db) (delegationId : Text) (revision : Int) : List OutcomeCriterionRecord :=
  (db.criteria.filter fun row =>
    row.delegationId = delegationId && row.criteriaRevision = revision).insertionSort
      fun first second => toLex (first.criterionKey, first.criterionId) ≤
        toLex (second.criterionKey, second.criterionId)

def occurrenceCriterion (occurrenceId delegationId : Text) (row : OutcomeCriterionRecord)
    (index : Nat) : OutcomeCriterionRecord :=
  { row with
    criterionId := deterministicId C "routine_criterion" occurrenceId
      (some ((toString index).toList ++ ':' :: row.criterionKey))
    delegationId
    criteriaRevision := 1 }

/-- The records of the distinct delegation of an occurrence. -/
def foundationCommand (occurrence : RoutineOccurrenceRecord) (version : RoutineVersionRecord)
    (manifest : CanonicalLeafManifest) (leaf : CanonicalLeafAction) (authority : AuthorityRow)
    (source : DelegationRecord) (sourcePlan : PlanRecord) (criteria : List OutcomeCriterionRecord)
    (globalStopEpoch trustedNow : Int) : CreateFoundationCommand :=
  let id := occurrence.occurrenceId
  let delegationId := deterministicId C "routine_delegation" id none
  let idempotencyKey := deterministicId C "routine_idempotency" id none
  { write := ⟨idempotencyKey, authority.sourceCorrelationId, id, trustedNow⟩
    ingressIdempotencyKey := idempotencyKey
    delegation := {
      delegationId
      phase := .inMotion
      runControl := .running
      stateRevision := 1
      currentPlanRevision := some 1
      currentCriteriaRevision := some 1
      policyRevision := version.effectivePolicyRevision
      effectiveAuthorityJson := source.effectiveAuthorityJson
      authorityProvenanceId := authority.authorityProvenanceId
      pendingDecisionId := none
      externalWaitJson := none
      stopEpoch := 0
      completionAssessmentJson := none
      updatedAt := trustedNow
      terminalAt := none }
    plan := {
      planId := deterministicId C "routine_plan" id none
      delegationId
      planRevision := 1
      basedOnDelegationRevision := 1
      policyRevision := version.effectivePolicyRevision
      planSummary := "saved routine occurrence from plan ".toList ++
        (toString sourcePlan.planRevision).toList ++ ": ".toList ++ sourcePlan.planSummary
      resolvedLeafManifestJson := manifest.canonical.bytes
      manifestDigest := manifest.canonical.digest.val
      createdByAuthorityProvenanceId := authority.authorityProvenanceId }
    outcomeCriteria := criteria.zipIdx.map fun row =>
      occurrenceCriterion C id delegationId row.1 row.2
    initialContinuation := some {
      continuationId := deterministicId C "routine_continuation" id none
      delegationId
      targetDelegationRevision := 1
      targetPlanRevision := 1
      actionId := leaf.logicalActionId
      branchKind := .ordinary
      causationKind := .routineOccurrence
      causationId := id
      status := .runnable
      jobId := none
      leaseOwner := none
      leaseExpiresAt := none
      fencingToken := 0
      hostGeneration := 1
      stopEpoch := 0
      globalStopEpoch
      createdAt := trustedNow
      updatedAt := trustedNow
      completedAt := none }
    outboxEvent := {
      eventId := deterministicId C "routine_outbox" id none
      eventName := .delegationTransitioned
      aggregateId := delegationId
      aggregateRevision := 1
      correlationId := authority.sourceCorrelationId
      causationId := id
      occurredAt := trustedNow
      safePayloadJson := (Json.obj [
        ("delegation_id".toList, .str delegationId),
        ("occurrence_id".toList, .str id),
        ("routine_id".toList, .str occurrence.routineId),
        ("summary".toList, .str "saved routine occurrence admitted".toList)]).print
      duplicateIdentity := idempotencyKey } }

def buildFoundationCommand (db : Db) (occurrence : RoutineOccurrenceRecord)
    (version : RoutineVersionRecord) (manifest : CanonicalLeafManifest) (leaf : CanonicalLeafAction)
    (trustedNow : Int) : Anyhow CreateFoundationCommand := do
  let authority ← required "saved routine owner authority does not exist"
    (db.authorities.find? version.savedOwnerAuthorityProvenanceId)
  let source ← required "saved routine source delegation does not exist"
    (db.store.getDelegation version.sourceDelegationId)
  ensure (source.authorityProvenanceId = authority.authorityProvenanceId ∧
      db.originalIntent source.delegationId = version.normalizedOriginalIntent ∧
      source.policyRevision = version.effectivePolicyRevision ∧
      authority.policyRevision = version.effectivePolicyRevision)
    "saved routine source authority or policy binding changed"
  let sourcePlan ← required "Query returned no rows" (source.currentPlanRevision.bind fun revision =>
    db.store.plans.find? (source.delegationId, revision))
  let sourceCriteriaRevision ← required "saved routine source has no current criteria"
    source.currentCriteriaRevision
  let criteria := criteriaOf db source.delegationId sourceCriteriaRevision
  ensure (criteria ≠ []) "saved routine source has no outcome criteria"
  .ok (foundationCommand C occurrence version manifest leaf authority source sourcePlan criteria
    db.store.globalControl.globalStopEpoch trustedNow)

def requireCreated : FoundationWriteOutcome → Anyhow Unit
  | .created _ => .ok ()
  | .replayed _ | .conflict _ =>
    bail "unsettled routine occurrence collided with an existing foundation"

def admissionJson (occurrence : RoutineOccurrenceRecord) (manifest : CanonicalLeafManifest)
    (delegationId : Text) : Text :=
  (Json.obj [
    ("delegation_id".toList, .str delegationId),
    ("kind".toList, .str "execass.routine_occurrence_admission.v1".toList),
    ("manifest_digest".toList, .str manifest.canonical.digest.val),
    ("occurrence_id".toList, .str occurrence.occurrenceId),
    ("routine_id".toList, .str occurrence.routineId),
    ("routine_version".toList, number occurrence.routineVersion)]).print

def settleOccurrence (plan delegationId : Text) (trustedNow : Int) (row : RoutineOccurrenceRecord) :
    RoutineOccurrenceRecord :=
  { row with
    status := .settled, admissionPlanJson := some plan, admittedDelegationId := some delegationId
    updatedAt := max row.updatedAt trustedNow }

/-- The foundation in its tables. -/
def Db.found (db : Db) (outside : FoundationOutside) (version : RoutineVersionRecord)
    (command : CreateFoundationCommand) : Anyhow Db := do
  let (outcome, store) ← createFoundationInTx outside command db.store
  requireCreated outcome
  .ok { db with
    store
    originalIntent := fun id => if id = command.delegation.delegationId then
      version.normalizedOriginalIntent else db.originalIntent id
    criteria := db.criteria ++ command.outcomeCriteria }

/-- The occurrence settled and its trigger ended, one row each. -/
def Db.settle (db : Db) (request : RoutineAdmissionRequest) (occurrence : RoutineOccurrenceRecord)
    (manifest : CanonicalLeafManifest) (delegationId : Text) : Anyhow Db := do
  let db ← db.insertOperation {
    operationId := deterministicId C "routine_trigger_settlement" occurrence.occurrenceId none
    occurrenceId := some occurrence.occurrenceId
    jobId := request.triggerJobId
    operation := .settleTrigger
    leaseOwner := request.triggerLeaseOwner
    leaseExpiresAt := request.triggerLeaseExpiresAt
    occurredAt := request.trustedNow }
  let open_ (row : RoutineOccurrenceRecord) : Bool :=
    row.occurrenceId = occurrence.occurrenceId &&
      (row.status = .planned || row.status = .admissionPlanned) && row.admittedDelegationId = none
  let held (job : TriggerJob) : Bool := job.jobId = request.triggerJobId &&
    job.leaseOwner = some request.triggerLeaseOwner &&
    job.leaseExpiresAt = some request.triggerLeaseExpiresAt
  let settled ← db.updateOccurrences open_
    (settleOccurrence (admissionJson occurrence manifest delegationId) delegationId
      request.trustedNow) fun _ => rfl
  let ended ← settled.endJobs held request.trustedNow
  ensure (db.occurrences.matched open_ = 1 ∧ db.jobs.matched held = 1)
    "routine occurrence or trigger changed before atomic settlement"
  .ok ended

def admitOccurrence (request : RoutineAdmissionRequest) (manifest : CanonicalLeafManifest)
    (proof : DangerAdmissionProof) (outside : AdmissionOutside)
    (occurrence : RoutineOccurrenceRecord) (version : RoutineVersionRecord)
    (leaf : CanonicalLeafAction) (db : Db) : Anyhow (RoutineOccurrenceDispatchOutcome × Db) := do
  ensure (SavedLeaf C occurrence version leaf)
    "routine occurrence action or owner authority materially drifted"
  let state ← verifyDangerAdmission outside proof manifest
  requireConfirmation C db version manifest leaf proof state
  let command ← buildFoundationCommand C db occurrence version manifest leaf request.trustedNow
  ensure (command.write.causationId = occurrence.occurrenceId)
    "routine foundation causation must be the exact occurrence identity"
  validateFoundationCommandForCausation (fenceCrates C validJson) outside.foundation command
    .routineOccurrence
  let continuation ← required "routine occurrence foundation has no continuation"
    command.initialContinuation
  let founded ← db.found outside.foundation version command
  let settled ← founded.settle C request occurrence manifest command.delegation.delegationId
  .ok (.admitted request.occurrenceId command.delegation.delegationId continuation.continuationId,
    settled)

def admitUnsettled (request : RoutineAdmissionRequest) (manifest : CanonicalLeafManifest)
    (proof : DangerAdmissionProof) (outside : AdmissionOutside)
    (occurrence : RoutineOccurrenceRecord) (leaf : CanonicalLeafAction) (db : Db) :
    Anyhow (RoutineOccurrenceDispatchOutcome × Db) := do
  let version ← required "routine occurrence version does not exist"
    (db.versions.find? (occurrence.routineId, occurrence.routineVersion))
  let routine ← required "Query returned no rows" (db.routines.find? occurrence.routineId)
  match refusal db request occurrence version routine with
  | some reason => .ok (.refused reason, db)
  | none => admitOccurrence C validJson request manifest proof outside occurrence version leaf db

def dispatchOccurrence (request : RoutineAdmissionRequest) (manifest : CanonicalLeafManifest)
    (proof : DangerAdmissionProof) (outside : AdmissionOutside)
    (occurrence : RoutineOccurrenceRecord) (leaf : CanonicalLeafAction) (db : Db) :
    Anyhow (RoutineOccurrenceDispatchOutcome × Db) :=
  match occurrence.status with
  | .settled => do
    let delegationId ← required "settled routine occurrence has no admitted delegation"
      occurrence.admittedDelegationId
    .ok (.replayed request.occurrenceId delegationId, db)
  | .skipped => .ok (.refused "occurrence_not_admissible", db)
  | .planned | .admissionPlanned =>
    admitUnsettled C validJson request manifest proof outside occurrence leaf db

def checkRequest (request : RoutineAdmissionRequest) : Anyhow Unit := do
  requireText "occurrence_id" request.occurrenceId
  requireText "trigger_job_id" request.triggerJobId
  requireText "trigger_lease_owner" request.triggerLeaseOwner
  ensure (0 < request.trustedNow ∧ request.trustedNow < request.triggerLeaseExpiresAt)
    "routine occurrence admission requires a live positive trigger lease"

def soleLeaf (manifest : CanonicalLeafManifest) : Anyhow CanonicalLeafAction :=
  match manifest.leaves with
  | [leaf] => .ok leaf
  | _ => bail "a saved routine occurrence must resolve to exactly one canonical leaf"

def admitClaimedRoutineOccurrence (request : RoutineAdmissionRequest)
    (manifest : CanonicalLeafManifest) (proof : DangerAdmissionProof) (outside : AdmissionOutside)
    (db : Db) : Anyhow (RoutineOccurrenceDispatchOutcome × Db) := do
  checkRequest request
  let leaf ← soleLeaf manifest
  let occurrence ← required "routine occurrence does not exist"
    (db.occurrences.find? request.occurrenceId)
  dispatchOccurrence C validJson request manifest proof outside occurrence leaf db

end Admission

end CarsinOS.Routine
