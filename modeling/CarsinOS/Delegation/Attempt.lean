import CarsinOS.Delegation.Claim

/-! The provider attempts of a logical effect: their preparation and the begin of their
invocation. -/
namespace CarsinOS.Delegation
open CarsinOS.Lib CarsinOS.Integrity CarsinOS.Receipt

structure LogicalEffectDispatchIdentity where
  logicalEffectId : Text
  delegationId : Text
  continuationId : Text
  actionId : Text
  claimEventId : Text
  claimReceiptId : Text
  continuationFencingToken : Int
  runtimeHostGeneration : Int
  runtimeHostInstanceId : Text
  runtimeFencingToken : Int
  internalIdempotencyKey : Text
  providerIdentity : Option Text
  providerIdempotencyKey : Option Text
  reconciliationKey : Option Text
  manifestDigest : Text
  payloadDigest : Text
  deriving DecidableEq

structure ProviderAttemptRecord where
  attemptId : Text
  attemptNumber : Int
  status : ProviderAttemptStatus
  dispatch : LogicalEffectDispatchIdentity
  providerRequestDigest : Text
  providerResponseDigest : Option Text
  remoteEffectId : Option Text
  startedAt : Int
  finishedAt : Option Int

structure ProviderRetryAuthorization where
  recoveryEvaluationId : Text
  logicalEffectId : Text
  predecessorAttemptId : Text
  authorizedAttemptNumber : Int
  notBeforeMs : Int
  objectiveFactsDigest : Text
  recoveryStateRevision : Int
  deriving DecidableEq

structure PrepareProviderAttemptCommand where
  claim : ContinuationClaimIdentity
  trustedNow : Int
  retryAuthorization : Option ProviderRetryAuthorization

structure BeginProviderAttemptInvocationCommand where
  claim : ContinuationClaimIdentity
  attemptId : Text
  trustedNow : Int

inductive PrepareProviderAttemptOutcome where
  | prepared (attempt : ProviderAttemptRecord)
  | replayed (attempt : ProviderAttemptRecord)
  | stale (reason : ContinuationStaleReason)
  | conflict

inductive BeginProviderAttemptInvocationOutcome where
  | began (attempt : ProviderAttemptRecord)
  | alreadyInvoking (attempt : ProviderAttemptRecord)
  | stale (reason : ContinuationStaleReason)
  | conflict
  | notFound

/-- The logical effect of a claim, with the action the claim is for. -/
structure EffectRow where
  record : LogicalEffectRecord
  actionId : Text

def Store.loadEffectForClaim (s : Store) (claim : ContinuationClaimIdentity) (actionId : Text) :
    Option EffectRow :=
  (s.logicalEffects.rows.find? fun row => row.delegationId = claim.delegationId &&
    row.continuationId = claim.continuationId).map fun record => ⟨record, actionId⟩

def dispatchIdentity (effect : EffectRow) (claim : ContinuationClaimIdentity) :
    LogicalEffectDispatchIdentity where
  logicalEffectId := effect.record.logicalEffectId
  delegationId := effect.record.delegationId
  continuationId := effect.record.continuationId
  actionId := effect.actionId
  claimEventId := claim.claimEventId
  claimReceiptId := claim.claimReceiptId
  continuationFencingToken := claim.continuationFencingToken
  runtimeHostGeneration := claim.runtimeHostGeneration
  runtimeHostInstanceId := claim.runtimeHostInstanceId
  runtimeFencingToken := claim.runtimeFencingToken
  internalIdempotencyKey := effect.record.internalIdempotencyKey
  providerIdentity := effect.record.providerIdentity
  providerIdempotencyKey := effect.record.providerIdempotencyKey
  reconciliationKey := effect.record.reconciliationKey
  manifestDigest := effect.record.manifestDigest
  payloadDigest := effect.record.payloadDigest

/-- The stored dispatch under another claim; the effect and its keys stay the stored ones. -/
def dispatchFromClaim (persisted : LogicalEffectDispatchIdentity)
    (claim : ContinuationClaimIdentity) : LogicalEffectDispatchIdentity :=
  { persisted with
    continuationId := claim.continuationId
    actionId := claim.actionId
    claimEventId := claim.claimEventId
    claimReceiptId := claim.claimReceiptId
    continuationFencingToken := claim.continuationFencingToken
    runtimeHostGeneration := claim.runtimeHostGeneration
    runtimeHostInstanceId := claim.runtimeHostInstanceId
    runtimeFencingToken := claim.runtimeFencingToken }

/-- An attempt row with the keys of its effect. -/
def Store.attemptRecord (s : Store) (row : ProviderAttemptRow) : Option ProviderAttemptRecord :=
  ((s.logicalEffects.find? row.logicalEffectId).filter (·.delegationId = row.delegationId)).map
    fun effect => {
      attemptId := row.attemptId
      attemptNumber := row.attemptNumber
      status := row.status
      dispatch := {
        logicalEffectId := row.logicalEffectId
        delegationId := row.delegationId
        continuationId := row.continuationId
        actionId := row.actionId
        claimEventId := row.claimEventId
        claimReceiptId := row.claimReceiptId
        continuationFencingToken := row.fencingToken
        runtimeHostGeneration := row.hostGeneration
        runtimeHostInstanceId := row.hostInstanceId
        runtimeFencingToken := row.runtimeFencingToken
        internalIdempotencyKey := effect.internalIdempotencyKey
        providerIdentity := effect.providerIdentity
        providerIdempotencyKey := effect.providerIdempotencyKey
        reconciliationKey := effect.reconciliationKey
        manifestDigest := effect.manifestDigest
        payloadDigest := effect.payloadDigest }
      providerRequestDigest := row.providerRequestDigest
      providerResponseDigest := row.providerResponseDigest
      remoteEffectId := row.remoteEffectId
      startedAt := row.startedAt
      finishedAt := row.finishedAt }

def Store.attemptById (s : Store) (attemptId : Text) : Option ProviderAttemptRecord :=
  (s.providerAttempts.find? attemptId).bind s.attemptRecord

/-- `.. ORDER BY attempt_number DESC LIMIT 1`. -/
def Store.latestAttempt (s : Store) (logicalEffectId : Text) : Option ProviderAttemptRecord :=
  (highest (fun first second => first.attemptNumber < second.attemptNumber)
    (s.providerAttempts.rows.filter (·.logicalEffectId = logicalEffectId))).bind fun row =>
      s.attemptById row.attemptId

section Attempts
variable (K : FenceCrates) (setDigest : ReservationSetDigest)

def providerRequestDigest (dispatch : LogicalEffectDispatchIdentity) : Text :=
  let part (value : Text) : List UInt8 := lengthPrefix (utf8Bytes value)
  "sha256:".toList ++ K.sha256 (utf8Bytes "carsinos.execass.provider-request.v1".toList ++ [0] ++
    part dispatch.internalIdempotencyKey ++ part (dispatch.providerIdentity.getD []) ++
    part (dispatch.providerIdempotencyKey.getD []) ++ part (dispatch.reconciliationKey.getD []) ++
    part dispatch.manifestDigest ++ part dispatch.payloadDigest ++
    if dispatch.providerIdentity = some "carsinos.local-fs.exact-overwrite".toList then
      utf8Bytes "carsinos.execass.provider-request.exact-overwrite-operand.v1".toList ++ [0] ++
        part dispatch.payloadDigest
    else [])

def attemptId (dispatch : LogicalEffectDispatchIdentity) (attemptNumber : Int) : Text :=
  "provider-attempt-".toList ++ K.sha256 (
    utf8Bytes "carsinos.execass.provider-attempt.v1".toList ++ [0] ++
    utf8Bytes dispatch.claimEventId ++ [0] ++ utf8Bytes dispatch.logicalEffectId ++ [0] ++
    i64Bytes attemptNumber)

def createAttempt (command : PrepareProviderAttemptCommand) (effect : EffectRow)
    (attemptNumber : Int) (s : Store) : Anyhow (PrepareProviderAttemptOutcome × Store) :=
  if effect.record.state = .outcomeUnknown ∨ effect.record.state = .reconciledPresent then
    .ok (.conflict, s)
  else if 1 < attemptNumber ∧ effect.record.state ≠ .failed then .ok (.conflict, s)
  else do
    let dispatch := dispatchIdentity effect command.claim
    let row : ProviderAttemptRow := {
      attemptId := attemptId K dispatch attemptNumber
      delegationId := dispatch.delegationId
      logicalEffectId := dispatch.logicalEffectId
      continuationId := dispatch.continuationId
      actionId := dispatch.actionId
      claimEventId := dispatch.claimEventId
      claimReceiptId := dispatch.claimReceiptId
      attemptNumber
      fencingToken := dispatch.continuationFencingToken
      hostGeneration := dispatch.runtimeHostGeneration
      hostInstanceId := dispatch.runtimeHostInstanceId
      runtimeFencingToken := dispatch.runtimeFencingToken
      status := .prepared
      providerRequestDigest := providerRequestDigest K dispatch
      providerResponseDigest := none
      remoteEffectId := none
      startedAt := command.trustedNow
      finishedAt := none }
    let s ← s.insertAttempt row
    let attempt ← required "prepared provider attempt disappeared" (s.attemptById row.attemptId)
    .ok (.prepared attempt, s)

/-- A retry authorization stands where its evaluation is the latest of its episode and the
delegation is still in the recovery it was granted for. -/
def Store.retryAuthorizationMatches (s : Store) (authorization : ProviderRetryAuthorization)
    (effect : EffectRow) (existing : ProviderAttemptRecord) (trustedNow : Int) : Bool :=
  (s.recoveryEvaluations.rows.any fun e =>
    e.recoveryEvaluationId = authorization.recoveryEvaluationId &&
      e.logicalEffectId = authorization.logicalEffectId &&
      e.predecessorAttemptId = authorization.predecessorAttemptId &&
      e.objectiveFactsDigest = authorization.objectiveFactsDigest &&
      e.directive = .retrySameEffect authorization.notBeforeMs &&
      e.recoveryStateRevision = authorization.recoveryStateRevision &&
      (s.delegations.rows.any fun d => d.delegationId = e.delegationId &&
        d.stateRevision = authorization.recoveryStateRevision && d.phase = .recovering) &&
      s.recoveryEvaluations.rows.all fun latest =>
        latest.recoveryEpisodeId ≠ e.recoveryEpisodeId ||
          latest.evaluationRevision ≤ e.evaluationRevision) &&
    authorization.logicalEffectId = effect.record.logicalEffectId &&
    authorization.predecessorAttemptId = existing.attemptId &&
    authorization.authorizedAttemptNumber = existing.attemptNumber + 1 &&
    authorization.notBeforeMs ≤ trustedNow && 0 < authorization.recoveryStateRevision &&
    "sha256:".toList.isPrefixOf authorization.objectiveFactsDigest &&
    utf8Length authorization.objectiveFactsDigest = 71

def prepareAgainstExisting (command : PrepareProviderAttemptCommand) (effect : EffectRow)
    (existing : ProviderAttemptRecord) (s : Store) :
    Anyhow (PrepareProviderAttemptOutcome × Store) :=
  let dispatch := dispatchIdentity effect command.claim
  if existing.dispatch ≠ dispatch ∨
      existing.providerRequestDigest ≠ providerRequestDigest K dispatch then .ok (.conflict, s)
  else match existing.status, command.retryAuthorization with
    | .failed, some authorization =>
      if s.retryAuthorizationMatches authorization effect existing command.trustedNow = false then
        .ok (.conflict, s)
      else createAttempt K command effect (existing.attemptNumber + 1) s
    | .outcomeUnknown, some _ => .ok (.conflict, s)
    | .reconciledAbsent, some _ => .ok (.conflict, s)
    | .reconciledPresent, some _ => .ok (.conflict, s)
    | _, _ => .ok (.replayed existing, s)

def prepareProviderAttempt (command : PrepareProviderAttemptCommand) (s : Store) :
    Anyhow (PrepareProviderAttemptOutcome × Store) := do
  ensure (0 < command.trustedNow)
    "provider attempt preparation requires a positive trusted clock"
  match s.validateClaimIdentityLive K setDigest command.claim command.trustedNow with
  | .error reason => .ok (.stale reason, s)
  | .ok (_, action) =>
    match s.loadEffectForClaim command.claim action.actionId with
    | none => .ok (.conflict, s)
    | some effect =>
      match s.latestAttempt effect.record.logicalEffectId with
      | some existing => prepareAgainstExisting K command effect existing s
      | none => createAttempt K command effect 1 s

def beginProviderAttemptInvocation (command : BeginProviderAttemptInvocationCommand) (s : Store) :
    Anyhow (BeginProviderAttemptInvocationOutcome × Store) := do
  requireText "attempt_id" command.attemptId
  ensure (0 < command.trustedNow) "provider invocation requires a positive trusted clock"
  match s.attemptById command.attemptId with
  | none => .ok (.notFound, s)
  | some existing =>
    if existing.dispatch ≠ dispatchFromClaim existing.dispatch command.claim then
      .ok (.conflict, s)
    else if existing.status = .invoking then .ok (.alreadyInvoking existing, s)
    else if existing.status ≠ .prepared then .ok (.conflict, s)
    else match s.validateClaimIdentityLive K setDigest command.claim command.trustedNow with
    | .error reason => .ok (.stale reason, s)
    | .ok (continuation, action) =>
      match s.objectiveDrift continuation action .executing with
      | some reason => .ok (.stale reason, s)
      | none =>
        let hit (row : LogicalEffectRecord) : Bool :=
          row.delegationId = existing.dispatch.delegationId &&
            row.logicalEffectId = existing.dispatch.logicalEffectId &&
            (row.state = .claimed || row.state = .failed)
        if s.logicalEffects.matched hit ≠ 1 then .ok (.conflict, s)
        else do
          let waiting (row : ProviderAttemptRow) : Bool :=
            row.attemptId = command.attemptId && row.status = .prepared
          ensure (s.providerAttempts.matched waiting = 1)
            "provider attempt lost its begin-invocation race"
          let s := { s with
            logicalEffects := s.logicalEffects.update hit (fun row => { row with
              state := .invoking, updatedAt := command.trustedNow }) fun _ => rfl
            providerAttempts := s.providerAttempts.update waiting (fun row => { row with
              status := .invoking }) fun _ => rfl }
          let attempt ← required "begun provider attempt disappeared"
            (s.attemptById command.attemptId)
          .ok (.began attempt, s)

end Attempts

end CarsinOS.Delegation
