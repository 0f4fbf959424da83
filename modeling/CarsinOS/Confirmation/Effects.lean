import CarsinOS.Policy.Quota
import CarsinOS.Lib.LengthPrefix
import CarsinOS.Delegation.Work

/-! The effect a dangerous confirmation prepares: its continuation, its quota snapshot and what it
requires of it, and the check of that quota when the continuation is claimed. -/
namespace CarsinOS.Confirmation
open CarsinOS.Lib CarsinOS.Integrity CarsinOS.Receipt CarsinOS.Policy
open CarsinOS.Delegation hiding DecisionRecord

inductive DecisionKind where
  | clarification | dangerousActionConfirmation | ownerConfiguredCheckpoint | recoveryChoice
  | duplicateRiskRetry | stop | policyChange
  deriving DecidableEq

inductive DecisionStatus where
  | pending | resolved | superseded | expired
  deriving DecidableEq

structure DecisionRecord extends Delegation.DecisionRecord where
  decisionRevision : Int
  policyRevision : I64
  decisionKind : DecisionKind
  status : DecisionStatus
  manifestDigest : Text

/-- What the pending challenge of a decision presents of one action. -/
structure ChallengeAlternative where
  confirmedLogicalActionIdentity : Text
  manifestDigest : Text
  payloadDigest : Text
  connectorToolIdentity : Text
  connectorToolVersion : Text

/-- What the presented leaf gives for its effect: the digest the recorder will check and the key of
its reconciliation. -/
structure LeafMaterial where
  payloadDigest : Text
  reconciliationKey : Text

/-- What a confirmation reads of other tables: its decision, the alternative of the selected action,
whether the presented leaf is the one of its manifest and payload, and the signed attestation. -/
structure DangerOutside where
  decision : Option DecisionRecord
  alternative : Text → Option ChallengeAlternative
  leaf : ChallengeAlternative → Anyhow LeafMaterial
  confirmation : Anyhow Unit

structure PreparedExactDangerousEffect where
  continuation : ContinuationRecord
  logicalEffect : LogicalEffectRecord
  technicalQuotaSnapshot : CanonicalTechnicalQuotaSnapshot
  technicalResourceRequirements : CanonicalTechnicalResourceRequirementSet

def EXACT_OVERWRITE_TOOL_ID : Text := "carsinos.local-fs".toList

def EXACT_OVERWRITE_TOOL_VERSION : Text := "exact-overwrite.v1".toList

def EXACT_OVERWRITE_PROVIDER_IDENTITY : Text := "carsinos.local-fs.exact-overwrite".toList

def integerText (value : Int) : Text := (toString value).toList

/-- `map_err` of a compilation. -/
def compiled {α : Type} (invalid : String) : Except String α → Anyhow α
  | .ok value => .ok value
  | .error detail => bail (invalid ++ detail)

section Prepare
variable (C : Crates) (K : FenceCrates)

def exactOverwriteDerivedIdentity (purpose : String) (parts : List Text) : Text :=
  (C.sha256 (utf8Bytes "carsinos.execass.exact-overwrite-identity.v1".toList ++ [0] ++
    partsInRow ((purpose.toList :: parts).map utf8Bytes))).val

def technicalEffectiveAuthorityDigest (canonicalJson : Text) : Except String Text :=
  if trimChars canonicalJson = [] ∨ trimChars canonicalJson ≠ canonicalJson then
    .error "effective authority must be nonempty canonical JSON text"
  else if K.validJson canonicalJson = false then .error "effective authority is not valid JSON"
  else .ok (domainDigest C ("carsinos.execass.technical-quota.authority.v1".toList ++ [nul])
    canonicalJson)

/-- The unit in which the calls of the exact-overwrite tool are counted. -/
def quotaUnit : Text :=
  "connector:".toList ++
    (C.sha256 (utf8Bytes (EXACT_OVERWRITE_TOOL_ID ++ nul :: EXACT_OVERWRITE_TOOL_VERSION))).val

def quotaEntry : TechnicalQuotaEntry := ⟨.connectorCalls, quotaUnit C, ⟨1, I64.one_fits⟩⟩

def requirement : TechnicalResourceRequirement := ⟨.connectorCalls, quotaUnit C, ⟨1, I64.one_fits⟩⟩

def delegationScope : Text := "delegation".toList

/-- The delegation of a decision, as long as it has the revisions the decision was made for. -/
def currentDelegation (s : Store) (decision : DecisionRecord) : Option DelegationRecord :=
  (s.getDelegation decision.delegationId).filter fun d =>
    d.stateRevision = decision.delegationRevision && d.policyRevision = decision.policyRevision.val

/-- The current plan of a delegation has this manifest. -/
def planHasManifest (s : Store) (d : DelegationRecord) (manifestDigest : Text) : Bool :=
  d.currentPlanRevision.any fun revision =>
    (s.plans.find? (d.delegationId, revision)).any (·.manifestDigest = manifestDigest)

def waitingAction (s : Store) (decision : DecisionRecord) (actionId : Text) :
    Option ActionBranchRecord :=
  (s.loadAction actionId).filter fun action => action.delegationId = decision.delegationId &&
    action.targetDelegationRevision = decision.delegationRevision &&
    action.targetPlanRevision = decision.planRevision && action.status = .waiting

def decisionContinuation (decision : DecisionRecord) (action : ActionBranchRecord)
    (continuationId : Text) (occurredAt runtimeHostGeneration globalStopEpoch : Int) :
    ContinuationRecord where
  continuationId
  delegationId := decision.delegationId
  targetDelegationRevision := action.targetDelegationRevision
  targetPlanRevision := action.targetPlanRevision
  actionId := action.actionId
  branchKind := action.branchKind
  causationKind := .decision
  causationId := decision.decisionId
  status := .runnable
  jobId := none
  leaseOwner := none
  leaseExpiresAt := none
  fencingToken := 0
  hostGeneration := runtimeHostGeneration
  stopEpoch := action.stopEpoch
  globalStopEpoch
  createdAt := occurredAt
  updatedAt := occurredAt
  completedAt := none

/-- The effect of a decision's waiting action, under the alternative and the leaf that were
checked. -/
def deriveExactDangerousEffect (decision : DecisionRecord) (d : DelegationRecord)
    (a : ChallengeAlternative) (material : LeafMaterial) (action : ActionBranchRecord)
    (occurredAt runtimeHostGeneration globalStopEpoch : Int) :
    Anyhow PreparedExactDangerousEffect := do
  let continuationIdentity := exactOverwriteDerivedIdentity C "continuation" [decision.decisionId,
    integerText decision.decisionRevision, decision.delegationId,
    integerText decision.delegationRevision, integerText decision.planRevision, action.actionId,
    a.confirmedLogicalActionIdentity, a.manifestDigest, a.payloadDigest]
  let continuationId := "decision-continuation-".toList ++ continuationIdentity
  let effectIdentity := exactOverwriteDerivedIdentity C "logical-effect" [decision.decisionId,
    continuationId, a.confirmedLogicalActionIdentity, a.manifestDigest, a.payloadDigest]
  let logicalEffectId := "exact-overwrite-effect-".toList ++ effectIdentity
  let authorityDigest ← compiled "invalid exact-overwrite technical authority: "
    (technicalEffectiveAuthorityDigest C K d.effectiveAuthorityJson)
  let technicalQuotaSnapshot ← compiled "invalid exact-overwrite quota snapshot: "
    (compileTechnicalQuotaSnapshot C decision.delegationId decision.policyRevision authorityDigest
      delegationScope [quotaEntry C])
  let technicalResourceRequirements ← compiled "invalid exact-overwrite resource requirements: "
    (compileTechnicalResourceRequirements C technicalQuotaSnapshot logicalEffectId action.actionId
      a.manifestDigest [requirement C])
  .ok {
    continuation := decisionContinuation decision action continuationId occurredAt
      runtimeHostGeneration globalStopEpoch
    logicalEffect := {
      logicalEffectId
      delegationId := decision.delegationId
      continuationId
      state := .planned
      internalIdempotencyKey := "exact-overwrite-internal-".toList ++
        exactOverwriteDerivedIdentity C "internal-idempotency" [effectIdentity, a.payloadDigest]
      providerIdentity := some EXACT_OVERWRITE_PROVIDER_IDENTITY
      providerIdempotencyKey := none
      reconciliationKey := some material.reconciliationKey
      manifestDigest := a.manifestDigest
      payloadDigest := material.payloadDigest
      updatedAt := occurredAt }
    technicalQuotaSnapshot
    technicalResourceRequirements }

def prepareExactDangerousEffectFromConn (outside : DangerOutside) (selectedLogicalActionId : Text)
    (occurredAt runtimeHostGeneration globalStopEpoch : Int) (s : Store) :
    Anyhow (Option PreparedExactDangerousEffect) :=
  match outside.decision with
  | none => .ok none
  | some decision =>
    if decision.decisionKind ≠ .dangerousActionConfirmation then .ok none
    else do
      ensure (decision.status = .pending)
        "exact dangerous effect preparation requires its pending decision"
      match outside.alternative selectedLogicalActionId, currentDelegation s decision with
      | some a, some d =>
        if planHasManifest s d a.manifestDigest = false ∨
            a.connectorToolIdentity ≠ EXACT_OVERWRITE_TOOL_ID ∨
            a.connectorToolVersion ≠ EXACT_OVERWRITE_TOOL_VERSION then .ok none
        else do
          ensure (a.manifestDigest = decision.manifestDigest)
            "exact-overwrite manifest digest binding is invalid"
          let material ← outside.leaf a
          let action ← required "exact-overwrite decision has no exact waiting action"
            (waitingAction s decision selectedLogicalActionId)
          let prepared ← deriveExactDangerousEffect C K decision d a material action occurredAt
            runtimeHostGeneration globalStopEpoch
          .ok (some prepared)
      | _, _ => .ok none

end Prepare

/-! The tables of the quota, beside those of the fence. -/

structure TechnicalQuotaSnapshotRecord where
  quotaSnapshotId : Text
  delegationId : Text
  policyRevision : Int
  effectiveAuthorityDigest : Text
  scopeKey : Text
  canonicalEntriesDigest : Text
  deriving DecidableEq

structure ResourceStore where
  fence : Store
  quotaSnapshots : Table TechnicalQuotaSnapshotRecord.quotaSnapshotId
  requirementSets : Table CanonicalTechnicalResourceRequirementSet.requirementSetId
  /-- What the runtime has prepared for the retries it is about to resolve. -/
  preparedRetries : List (CanonicalTechnicalQuotaSnapshot × CanonicalTechnicalResourceRequirementSet)

namespace ResourceStore

def initial : ResourceStore := ⟨Store.initial, .empty, .empty, []⟩

def requirementsForEffect (s : ResourceStore) (logicalEffectId : Text) :
    Option CanonicalTechnicalResourceRequirementSet :=
  s.requirementSets.rows.find? (·.logicalEffectId = logicalEffectId)

def snapshotRow (snapshot : CanonicalTechnicalQuotaSnapshot) : TechnicalQuotaSnapshotRecord :=
  ⟨snapshot.quotaSnapshotId, snapshot.delegationId, snapshot.policyRevision.val,
    snapshot.effectiveAuthorityDigest, snapshot.scopeKey, snapshot.canonicalEntriesDigest⟩

def entryRow (quotaSnapshotId : Text) (entry : TechnicalQuotaEntry) : QuotaEntryRecord :=
  ⟨quotaSnapshotId, entry.kind.asStr.toList, entry.unit, entry.limit.val⟩

/-- `ON CONFLICT DO NOTHING`. -/
def insertQuotaEntry (quotaSnapshotId : Text) (s : ResourceStore) (entry : TechnicalQuotaEntry) :
    Anyhow ResourceStore :=
  if (s.fence.quotaEntries.find? (quotaSnapshotId, entry.kind.asStr.toList, entry.unit)).isSome then
    .ok s
  else do
    let fence ← s.fence.insertQuotaEntry (entryRow quotaSnapshotId entry)
    .ok { s with fence }

def insertSnapshotRow (row : TechnicalQuotaSnapshotRecord) (s : ResourceStore) :
    Anyhow ResourceStore :=
  if (s.quotaSnapshots.find? row.quotaSnapshotId).isSome then .ok s
  else do
    ensure ((s.fence.getDelegation row.delegationId).isSome = true) "FOREIGN KEY constraint failed"
    ensure (0 < row.policyRevision ∧ row.scopeKey = delegationScope)
      "CHECK constraint failed: execass_technical_resource_quota_snapshots"
    ensure (∀ other ∈ s.quotaSnapshots.rows,
        { other with quotaSnapshotId := row.quotaSnapshotId } ≠ row)
      "UNIQUE constraint failed: execass_technical_resource_quota_snapshots"
    let quotaSnapshots ← required "failed inserting ExecAss technical quota snapshot"
      (s.quotaSnapshots.insert? row)
    .ok { s with quotaSnapshots }

def insertTechnicalQuotaSnapshot (snapshot : CanonicalTechnicalQuotaSnapshot) (s : ResourceStore) :
    Anyhow ResourceStore := do
  let s ← s.insertSnapshotRow (snapshotRow snapshot)
  snapshot.entries.foldlM (insertQuotaEntry snapshot.quotaSnapshotId) s

/-- `execass_technical_resource_requirement_set_insert_guard`. -/
def SetBound (s : ResourceStore) (set : CanonicalTechnicalResourceRequirementSet) : Prop :=
  (∃ e ∈ s.fence.logicalEffects.rows, e.logicalEffectId = set.logicalEffectId ∧
    e.delegationId = set.delegationId ∧ e.manifestDigest = set.manifestDigest ∧
    ∃ c ∈ s.fence.continuations.rows, c.continuationId = e.continuationId ∧
      c.delegationId = e.delegationId ∧ c.actionId = set.actionId) ∧
  ∃ q ∈ s.quotaSnapshots.rows, q.quotaSnapshotId = set.quotaSnapshotId ∧
    q.delegationId = set.delegationId

instance (s : ResourceStore) (set : CanonicalTechnicalResourceRequirementSet) :
    Decidable (s.SetBound set) := by
  unfold SetBound
  infer_instance

def insertTechnicalResourceRequirements (set : CanonicalTechnicalResourceRequirementSet)
    (s : ResourceStore) : Anyhow ResourceStore := do
  ensure (s.SetBound set)
    "ExecAss technical resource requirement set lacks exact snapshot/effect/action/manifest binding"
  ensure (∀ other ∈ s.requirementSets.rows, other.logicalEffectId ≠ set.logicalEffectId)
    "UNIQUE constraint failed: execass_technical_resource_requirement_sets.logical_effect_id"
  ensure (∀ requirement ∈ set.requirements, 0 < requirement.amount.val ∧
      (s.fence.quotaEntries.find? (set.quotaSnapshotId, requirement.kind.asStr.toList,
        requirement.unit)).isSome = true)
    "failed inserting ExecAss technical resource requirement"
  let requirementSets ← required "failed inserting ExecAss technical resource requirement set"
    (s.requirementSets.insert? set)
  .ok { s with requirementSets }

/-- The tables after a resolution, with the quota of the effect it created. -/
def insertResources (snapshot : Option CanonicalTechnicalQuotaSnapshot)
    (requirements : Option CanonicalTechnicalResourceRequirementSet) (s : ResourceStore) :
    Anyhow ResourceStore := do
  let s ← match snapshot with
    | some snapshot => s.insertTechnicalQuotaSnapshot snapshot
    | none => .ok s
  match requirements with
  | some requirements => s.insertTechnicalResourceRequirements requirements
  | none => .ok s

end ResourceStore

/-! The resolution of a dangerous confirmation, and of a retry at the risk of a duplicate. -/

structure AtomicResourceResolutionCommand extends AtomicDecisionResolutionCommand where
  decisionRevision : Int
  technicalQuotaSnapshot : Option CanonicalTechnicalQuotaSnapshot
  technicalResourceRequirements : Option CanonicalTechnicalResourceRequirementSet

def validateEffectParts (command : AtomicResourceResolutionCommand) : Anyhow Unit := do
  ensure (command.logicalEffect.isSome = true → command.continuation.isSome = true)
    "a planned decision effect requires its exact continuation"
  ensure (command.logicalEffect.isSome = command.technicalQuotaSnapshot.isSome)
    "a planned decision effect requires exactly one technical quota snapshot"
  ensure (command.logicalEffect.isSome = command.technicalResourceRequirements.isSome)
    "a planned decision effect requires exactly one technical resource requirement set"

section Resolve
variable (C : Crates) (K : FenceCrates) (J : Coordinator)

def validateDangerousEffect (outside : DangerOutside) (command : AtomicResourceResolutionCommand)
    (s : Store) : Anyhow Unit :=
  match command.continuation with
  | none => .ok ()
  | some continuation => do
    let expected ← prepareExactDangerousEffectFromConn C K outside continuation.actionId
      command.write.occurredAt continuation.hostGeneration continuation.globalStopEpoch s
    match command.logicalEffect with
    | none =>
      ensure (expected.isNone = true)
        "installed exact-overwrite confirmation must create its logical effect"
    | some effect => do
      let expected ← required
        "only the installed exact-overwrite dangerous leaf may create an effect" expected
      ensure (continuation = expected.continuation ∧ effect = expected.logicalEffect ∧
          command.technicalQuotaSnapshot = some expected.technicalQuotaSnapshot ∧
          command.technicalResourceRequirements = some expected.technicalResourceRequirements)
        "dangerous exact-overwrite effect is not the storage-derived shape"

/-- The decision a confirmation resolves, where it is the pending one it was signed for. -/
def pendingConfirmation (outside : DangerOutside) (command : AtomicResourceResolutionCommand) :
    Option DecisionRecord :=
  outside.decision.filter fun decision =>
    decision.decisionRevision = command.decisionRevision && decision.status = .pending &&
      decision.decisionKind = .dangerousActionConfirmation &&
      command.outboxEvent.aggregateId = decision.delegationId &&
      command.outboxEvent.aggregateRevision = decision.delegationRevision &&
      command.receipt.delegationId = decision.delegationId &&
      command.receipt.expectedStateRevision = decision.delegationRevision

/-- What an appended resolution adds to its quota. -/
def withResources (command : AtomicResourceResolutionCommand) (written : AtomicWrite Bool)
    (s : ResourceStore) : Anyhow ResourceStore :=
  match written with
  | .appended _ =>
    s.insertResources command.technicalQuotaSnapshot command.technicalResourceRequirements
  | _ => .ok s

def confirmDangerousActionAttestedAtomically (outside : DangerOutside)
    (command : AtomicResourceResolutionCommand) (s : ResourceStore) :
    Anyhow (AtomicWrite Bool × ResourceStore) := do
  validateEffectParts command
  let (written, fence) ← resolveDecision J
    ⟨(pendingConfirmation outside command).map DecisionRecord.toDecisionRecord, do
      validateDangerousEffect C K outside command s.fence
      outside.confirmation⟩ command.toAtomicDecisionResolutionCommand s.fence
  let s ← withResources command written { s with fence }
  .ok (written, s)

def entryOfRow (row : QuotaEntryRecord) : Anyhow TechnicalQuotaEntry := do
  let kind ← required "invalid technical resource kind"
    ([TechnicalResourceKind.tokens, .timeMs, .connectorCalls, .resourceUnits].find?
      (·.asStr.toList = row.technicalResourceKind))
  let limit ← required "integer out of range" (I64.ofInt? row.amountLimit)
  .ok ⟨kind, row.unit, limit⟩

/-- The quota of a successor effect: the limits and the requirements of its predecessor, under the
authority of the decision. -/
def prepareDuplicateRiskResources (decision : DecisionRecord)
    (predecessorLogicalEffectId logicalEffectId actionId : Text) (s : ResourceStore) :
    Anyhow (CanonicalTechnicalQuotaSnapshot × CanonicalTechnicalResourceRequirementSet) := do
  let predecessorRequirements ← required
    "duplicate-risk predecessor has no technical resource requirements"
    (s.requirementsForEffect predecessorLogicalEffectId)
  let predecessorSnapshot ← required "duplicate-risk predecessor has no technical quota snapshot"
    (s.quotaSnapshots.find? predecessorRequirements.quotaSnapshotId)
  ensure (predecessorRequirements.manifestDigest = decision.manifestDigest)
    "duplicate-risk predecessor resource authority does not match the decision"
  let d ← required "Query returned no rows" (currentDelegation s.fence decision)
  let authorityDigest ← compiled "invalid technical authority snapshot: "
    (technicalEffectiveAuthorityDigest C K d.effectiveAuthorityJson)
  let entries ← (s.fence.quotaEntries.rows.filter
    (·.quotaSnapshotId = predecessorSnapshot.quotaSnapshotId)).mapM entryOfRow
  let snapshot ← compiled "invalid duplicate-risk quota snapshot: "
    (compileTechnicalQuotaSnapshot C decision.delegationId decision.policyRevision authorityDigest
      delegationScope entries)
  let requirements ← compiled "invalid duplicate-risk resource requirements: "
    (compileTechnicalResourceRequirements C snapshot logicalEffectId actionId
      decision.manifestDigest predecessorRequirements.requirements)
  .ok (snapshot, requirements)

/-- The runtime resolves a retry with what the storage has prepared for it. -/
def resolveDuplicateRisk (outside : DecisionOutside) (command : AtomicResourceResolutionCommand)
    (s : ResourceStore) : Anyhow (AtomicWrite Bool × ResourceStore) := do
  validateEffectParts command
  ensure (∃ resources ∈ s.preparedRetries, command.technicalQuotaSnapshot = some resources.1 ∧
      command.technicalResourceRequirements = some resources.2)
    "duplicate-risk resolution was not prepared"
  let (written, fence) ← resolveDecision J outside command.toAtomicDecisionResolutionCommand s.fence
  let s ← withResources command written { s with fence }
  .ok (written, s)

end Resolve

/-! The resource check of a claim. -/

section Bundle
variable (C : Crates) (K : FenceCrates) (setDigest : ReservationSetDigest)

def reservationId (logicalEffectId quotaSnapshotId kind unit : Text) : Text :=
  "technical-reservation-".toList ++ K.sha256 (
    utf8Bytes "carsinos.execass.technical-resource.reservation.v1".toList ++ [0] ++
    utf8Bytes (joined nul [logicalEffectId, quotaSnapshotId, kind, unit]))

/-- The loop over the requirements: the use of each entry is what is reserved and what was used under
the snapshot, by whatever effect. -/
def reserveRequirements (s : Store) (logicalEffectId quotaSnapshotId : Text) :
    List TechnicalResourceRequirement →
      Anyhow (Option (List TechnicalResourceReservationIdentity))
  | [] => .ok (some [])
  | requirement :: rest => do
    let kind := requirement.kind.asStr.toList
    let entry ← required "technical resource requirement has no quota entry"
      (s.quotaEntries.find? (quotaSnapshotId, kind, requirement.unit))
    let total := s.used (quotaSnapshotId, kind, requirement.unit) + requirement.amount.val
    ensure (total ≤ MAX_REVISION) "technical resource use overflow"
    if entry.amountLimit < total then .ok none
    else do
      match ← reserveRequirements s logicalEffectId quotaSnapshotId rest with
      | none => .ok none
      | some identities => .ok (some (⟨reservationId K logicalEffectId quotaSnapshotId kind
          requirement.unit, quotaSnapshotId, logicalEffectId, kind, requirement.unit,
          requirement.amount.val⟩ :: identities))

/-- What was frozen for the planned effect of a continuation, where it has not drifted. -/
def frozenResources (continuation : ContinuationRecord) (action : ActionBranchRecord)
    (d : DelegationRecord) (effect : LogicalEffectRecord) (s : ResourceStore) :
    Anyhow CanonicalTechnicalResourceRequirementSet := do
  let requirements ← required
    "planned logical effect has no immutable technical resource requirement set"
    (s.requirementsForEffect effect.logicalEffectId)
  let snapshot ← required "technical resource requirement set has no immutable quota snapshot"
    (s.quotaSnapshots.find? requirements.quotaSnapshotId)
  let plan ← required "technical quota snapshot plan disappeared"
    (s.fence.plans.find? (continuation.delegationId, continuation.targetPlanRevision))
  let authorityDigest ← compiled "invalid effective authority for quota: "
    (technicalEffectiveAuthorityDigest C K d.effectiveAuthorityJson)
  ensure (snapshot.delegationId = continuation.delegationId ∧
      snapshot.policyRevision = d.policyRevision ∧
      snapshot.effectiveAuthorityDigest = authorityDigest ∧ snapshot.scopeKey = delegationScope ∧
      requirements.delegationId = continuation.delegationId ∧
      requirements.actionId = action.actionId ∧
      requirements.manifestDigest = effect.manifestDigest ∧
      requirements.manifestDigest = plan.manifestDigest)
    "technical quota or requirement set drifted from its exact action/effect authority"
  .ok requirements

def plannedEffects (s : Store) (continuation : ContinuationRecord) : List LogicalEffectRecord :=
  s.logicalEffects.rows.filter fun e => e.delegationId = continuation.delegationId &&
    e.continuationId = continuation.continuationId && e.state = .planned

def prepareResourceBundle (continuation : ContinuationRecord) (action : ActionBranchRecord)
    (d : DelegationRecord) (s : ResourceStore) : Anyhow (Option ResourceBundleDraft) :=
  match plannedEffects s.fence continuation with
  | [] => .ok (some ⟨none, none, [], setDigest []⟩)
  | [effect] => do
    let requirements ← frozenResources C K continuation action d effect s
    match ← reserveRequirements K s.fence effect.logicalEffectId requirements.quotaSnapshotId
        requirements.requirements with
    | none => .ok none
    | some identities =>
      let identities := identities.insertionSort fun first second =>
        toLex (first.technicalResourceKind, first.unit) ≤
          toLex (second.technicalResourceKind, second.unit)
      .ok (some ⟨some effect.logicalEffectId, some requirements.quotaSnapshotId, identities,
        setDigest identities⟩)
  | _ => bail "continuation has multiple planned logical effects"

/-- What a claim reads of the quota, for the continuation, the action and the delegation it has
loaded. -/
def claimOutside (actor : Anyhow Unit) (continuationId : Text) (s : ResourceStore) :
    ClaimOutside where
  runtimeReceiptActor := actor
  resourceBundle := do
    let continuation ← required "continuation disappeared" (s.fence.getContinuation continuationId)
    let action ← required "action disappeared" (s.fence.loadAction continuation.actionId)
    let d ← required "claim delegation disappeared" (s.fence.getDelegation continuation.delegationId)
    prepareResourceBundle C K setDigest continuation action d s

end Bundle

end CarsinOS.Confirmation
