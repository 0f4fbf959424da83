import CarsinOS.Lib.JsonEq
import CarsinOS.Lib.Table
import CarsinOS.Manifest.Pinned
import CarsinOS.Routine.Admission

/-! What an amendment does to the grants that were accepted before it. -/
namespace CarsinOS.Confirmation
open CarsinOS.Lib CarsinOS.Actor CarsinOS.Manifest CarsinOS.Danger CarsinOS.Integrity
open CarsinOS.Routine (confirmationForLeaf)

inductive AcceptedConfirmationGrantInvalidation where
  | materialTargetDrift
  | materialScopeDrift
  | materialPayloadDrift
  | materialToolDrift
  | materialConsequenceDrift
  | explicitActionSpecificOwnerAmendment
  | explicitActionSpecificOwnerRevocation
  | explicitActionSpecificOwnerCancellation
  deriving DecidableEq

/-- A row of the grants, with the action its decision presented. -/
structure GrantRow where
  grant : AcceptedConfirmationGrantRecord
  decisionId : Text
  acceptedByAuthorityProvenanceId : Text
  confirmationAttestationDigest : Text
  acceptedAt : Int
  invalidationReason : Option AcceptedConfirmationGrantInvalidation
  invalidatedByAuthorityProvenanceId : Option Text
  exactPresentedActionJson : Text
  deriving DecidableEq

def GrantRow.invalidated (row : GrantRow) (invalidatedAt : Int)
    (reason : AcceptedConfirmationGrantInvalidation) (invalidatedBy : Option Text) : GrantRow :=
  { row with
    grant := { row.grant with invalidatedAt := some invalidatedAt }
    invalidationReason := some reason
    invalidatedByAuthorityProvenanceId := invalidatedBy }

abbrev Grants := Table fun row : GrantRow => row.grant.grantId

/-- The grants, and the normalized original intents of the delegations. -/
structure GrantStore where
  intents : Text → Option Text
  grants : Grants

/-! The comparison of a grant with the binding of a replacing action. -/

/-- `Value::get`. -/
def field (key : Text) : Json → Option Json
  | .obj fields => (fields.find? (·.1 = key)).map Prod.snd
  | _ => none

def asStr : Json → Option Text
  | .str text => some text
  | _ => none

def grantMatchesBinding (grant : AcceptedConfirmationGrantRecord)
    (binding : ExactConfirmationBinding) : Bool :=
  grant.confirmedLogicalActionIdentity = binding.confirmedLogicalActionIdentity &&
    grant.canonicalActionEnvelopeOrSelectorJson = binding.canonicalActionEnvelopeOrSelectorJson &&
    grant.payloadAndMaterialOperandsJson = binding.payloadAndMaterialOperandsJson &&
    grant.payloadAndMaterialOperandsDigest = binding.payloadDigest &&
    grant.connectorToolIdentity = some binding.connectorToolIdentity &&
    grant.connectorToolVersion = some binding.connectorToolVersion &&
    grant.declaredConsequence = binding.declaredConsequence

def confirmationActionScope (envelope : Json) : Json :=
  .obj (["action_kind".toList, "mode".toList, "routine_id".toList, "selector".toList].filterMap
    fun key => (field key envelope).map fun value => (key, value))

def withoutJsonField (value : Json) (removed : Text) : Anyhow Json :=
  match value with
  | .obj fields => .ok (.obj (fields.filter (·.1 ≠ removed)))
  | _ => bail "confirmation payload binding is not an object"

section Reconcile
variable (C : Crates) (S : SerdeJson)

def materialDriftReason (grant : AcceptedConfirmationGrantRecord)
    (binding : ExactConfirmationBinding) : Anyhow AcceptedConfirmationGrantInvalidation := do
  let oldPayload ← required "accepted grant payload binding is not canonical JSON"
    (S.value grant.payloadAndMaterialOperandsJson)
  let newPayload ← required "replacement action payload binding is not canonical JSON"
    (S.value binding.payloadAndMaterialOperandsJson)
  if field "target_snapshot".toList oldPayload ≠ field "target_snapshot".toList newPayload then
    .ok .materialTargetDrift
  else do
    let oldEnvelope ← required "accepted grant scope binding is not canonical JSON"
      (S.value grant.canonicalActionEnvelopeOrSelectorJson)
    let newEnvelope ← required "replacement action scope binding is not canonical JSON"
      (S.value binding.canonicalActionEnvelopeOrSelectorJson)
    if confirmationActionScope oldEnvelope ≠ confirmationActionScope newEnvelope then
      .ok .materialScopeDrift
    else do
      let oldPayloadWithoutTarget ← withoutJsonField oldPayload "target_snapshot".toList
      let newPayloadWithoutTarget ← withoutJsonField newPayload "target_snapshot".toList
      if oldPayloadWithoutTarget ≠ newPayloadWithoutTarget then .ok .materialPayloadDrift
      else if grant.connectorToolIdentity ≠ some binding.connectorToolIdentity ∨
          grant.connectorToolVersion ≠ some binding.connectorToolVersion then .ok .materialToolDrift
      else if grant.declaredConsequence ≠ binding.declaredConsequence then
        .ok .materialConsequenceDrift
      else .ok .materialPayloadDrift

/-- The leaves of a manifest that their routes call dangerous. -/
def dangerousLeaves (leaves : List CanonicalLeafAction) (routes : List DangerRoute) :
    List (CanonicalLeafAction × DangerAssessment) :=
  (leaves.zip routes).filterMap fun pair =>
    (confirmationForLeaf pair.2 pair.1).map fun assessment => (pair.1, assessment)

def replacementBindings (normalizedIntent : Text) (manifest : CanonicalLeafManifest)
    (routes : List DangerRoute) : Anyhow (List (Text × ExactConfirmationBinding)) :=
  (dangerousLeaves manifest.leaves routes).mapM fun (leaf, assessment) => do
    let binding ← exactBindingWithSavedParts C normalizedIntent manifest leaf
      assessment.declaredConsequence none
    .ok (leaf.logicalActionId, binding)

/-- The last binding that was collected under an identity. -/
def bindingOf (bindings : List (Text × ExactConfirmationBinding)) (logicalActionId : Text) :
    Option ExactConfirmationBinding :=
  (bindings.reverse.find? (·.1 = logicalActionId)).map Prod.snd

def presentedAction (row : GrantRow) : Anyhow Text := do
  let action ← required "accepted grant action identity is not canonical JSON"
    (S.value row.exactPresentedActionJson)
  required "accepted grant action identity is absent"
    ((field "logical_action_id".toList action).bind asStr)

def reconcileGrant (bindings : List (Text × ExactConfirmationBinding)) (invalidatedAt : Int)
    (grants : Grants) (row : GrantRow) : Anyhow Grants := do
  let logicalActionId ← presentedAction S row
  match bindingOf bindings logicalActionId with
  | none => .ok grants
  | some next =>
    if grantMatchesBinding row.grant next then .ok grants
    else do
      let reason ← materialDriftReason S row.grant next
      let hit (other : GrantRow) : Bool :=
        other.grant.grantId = row.grant.grantId && other.grant.invalidatedAt = none
      ensure (grants.matched hit = 1)
        "accepted confirmation grant changed during amendment reconciliation"
      .ok (grants.update hit (fun other => other.invalidated invalidatedAt reason none)
        fun _ => rfl)

/-- `reconcile_accepted_confirmation_grants_for_amendment_in_tx`. -/
def GrantStore.reconcile (s : GrantStore) (delegationId : Text) (manifest : CanonicalLeafManifest)
    (routes : List DangerRoute) (invalidatedAt : Int) : Anyhow GrantStore := do
  ensure (routes.length = manifest.leaves.length)
    "amendment danger routes do not cover the exact replacement manifest"
  let normalizedIntent ← required "Query returned no rows" (s.intents delegationId)
  let bindings ← replacementBindings C normalizedIntent manifest routes
  let active := s.grants.rows.filter fun row =>
    row.grant.delegationId = delegationId && row.grant.invalidatedAt = none
  let grants ← active.foldlM (reconcileGrant S bindings invalidatedAt) s.grants
  .ok { s with grants }

end Reconcile

/-! Grants over time. -/

section Runs
variable (C : Crates) (S : SerdeJson)

/-- The owner confirmed this leaf of a manifest, as it is or, with saved parts, for a routine. -/
def Confirmed (intent : Text) (leaf : CanonicalLeafAction) (consequence : Text)
    (saved : Option SavedRoutineBindingParts) (row : GrantRow) : Prop :=
  ∃ manifest binding, Produced C S manifest ∧ leaf ∈ manifest.leaves ∧
    exactBindingWithSavedParts C intent manifest leaf consequence saved = .ok binding ∧
    row.exactPresentedActionJson = binding.exactPresentedActionJson ∧
    grantMatchesBinding row.grant binding = true

/-- What happens to the grants. No row leaves the table, and its columns are immutable but for
those of the invalidation. -/
inductive GrantStep : GrantStore → GrantStore → Prop
  | created {s : GrantStore} {delegationId intent : Text} (fresh : s.intents delegationId = none) :
      GrantStep s { s with intents := Function.update s.intents delegationId (some intent) }
  | accepted {s : GrantStore} {row : GrantRow} {grants : Grants} {intent consequence : Text}
      {leaf : CanonicalLeafAction} {saved : Option SavedRoutineBindingParts}
      (known : s.intents row.grant.delegationId = some intent)
      (confirmed : Confirmed C S intent leaf consequence saved row)
      (active : row.grant.invalidatedAt = none)
      (inserted : s.grants.insert? row = some grants) : GrantStep s { s with grants }
  | amended {s s' : GrantStore} {delegationId : Text} {manifest : CanonicalLeafManifest}
      {routes : List DangerRoute} {invalidatedAt : Int}
      (reconciled : s.reconcile C S delegationId manifest routes invalidatedAt = .ok s') :
      GrantStep s s'
  | withdrawn {s : GrantStore} {grantId invalidatedBy : Text} {invalidatedAt : Int}
      {reason : AcceptedConfirmationGrantInvalidation} : GrantStep s { s with
        grants := s.grants.update
          (fun row => row.grant.grantId = grantId && row.grant.invalidatedAt = none)
          (fun row => row.invalidated invalidatedAt reason (some invalidatedBy)) fun _ => rfl }

abbrev GrantRun : GrantStore → GrantStore → Prop := Relation.ReflTransGen (GrantStep C S)

def GrantStore.empty : GrantStore := ⟨fun _ => none, .empty⟩

end Runs
end CarsinOS.Confirmation
