import CarsinOS.Danger.Routing
import CarsinOS.Lib.LengthPrefix
import CarsinOS.Delegation.Lifecycle

/-! What the owner confirms of one leaf: its exact binding, and the grant that was accepted for it. -/
namespace CarsinOS.Confirmation
open CarsinOS.Lib CarsinOS.Actor CarsinOS.Manifest CarsinOS.Danger CarsinOS.Integrity
open CarsinOS.Delegation (requireText)

structure SavedRoutineBindingParts where
  routineId : Text
  canonicalSelectorJson : Text

structure ExactConfirmationBinding where
  normalizedIntent : Text
  exactPresentedActionJson : Text
  confirmedLogicalActionIdentity : Text
  manifestDigest : Text
  payloadDigest : Text
  payloadAndMaterialOperandsJson : Text
  targetAudiencePathJson : Text
  connectorToolIdentity : Text
  connectorToolVersion : Text
  canonicalActionEnvelopeOrSelectorJson : Text
  declaredConsequence : Text
  deriving DecidableEq

structure AcceptedConfirmationGrantRecord where
  grantId : Text
  delegationId : Text
  confirmedLogicalActionIdentity : Text
  canonicalActionEnvelopeOrSelectorJson : Text
  payloadAndMaterialOperandsJson : Text
  payloadAndMaterialOperandsDigest : Text
  connectorToolIdentity : Option Text
  connectorToolVersion : Option Text
  declaredConsequence : Text
  invalidatedAt : Option Int
  deriving DecidableEq

/-- `serde_json::to_string` of a string. -/
def quoted (text : Text) : Text := (Json.str text).print

section Digests
variable (C : Crates)

def framedDigest (parts : List (List UInt8)) : Text :=
  plainDigestHex C (ascii "carsinos.execass.confirmation_action_identity.v1" ++ partsInRow parts)

def savedRoutineStableLeafDigest (leaf : CanonicalLeafAction) : Text :=
  plainDigestHex C (ascii "carsinos.execass.saved_routine_stable_leaf.v1" ++ partsInRow [
    utf8Bytes leaf.actionKind, utf8Bytes leaf.tool.toolId, utf8Bytes leaf.tool.version,
    utf8Bytes leaf.operands.bytes, utf8Bytes leaf.ownerAuthority.normalizedScope.bytes,
    (leaf.materialDigest.map fun digest => utf8Bytes digest.val).getD []])

def ownerResolutionManifestDigest (manifestBytes : List UInt8) : Option Text :=
  if manifestBytes = [] then none else some (plainDigestHex C manifestBytes)

def payloadJson (leaf : CanonicalLeafAction) (savedRoutine : Option SavedRoutineBindingParts) : Text :=
  let material := match leaf.materialDigest with
    | some digest => quoted digest.val
    | none => "null".toList
  "\x7b\"material_digest\":".toList ++ material ++ ",\"operands\":".toList ++ leaf.operands.bytes ++
    match savedRoutine with
    | some _ => "\x7d".toList
    | none => ",\"target_snapshot\":".toList ++ leaf.targetSnapshot.bytes ++ "\x7d".toList

def envelopeJson (leaf : CanonicalLeafAction) (payloadDigest : Text) :
    Option SavedRoutineBindingParts → Text
  | some selector =>
    "\x7b\"action_kind\":".toList ++ quoted leaf.actionKind ++
      ",\"mode\":\"saved_routine\",\"payload_and_material_operands_digest\":".toList ++
      quoted payloadDigest ++ ",\"routine_id\":".toList ++ quoted selector.routineId ++
      ",\"selector\":".toList ++ selector.canonicalSelectorJson ++ "\x7d".toList
  | none =>
    "\x7b\"action_kind\":".toList ++ quoted leaf.actionKind ++
      ",\"mode\":\"exact\",\"payload_and_material_operands_digest\":".toList ++
      quoted payloadDigest ++ "\x7d".toList

def exactBindingWithSavedParts (normalizedIntent : Text) (manifest : CanonicalLeafManifest)
    (leaf : CanonicalLeafAction) (declaredConsequence : Text)
    (savedRoutine : Option SavedRoutineBindingParts) : Anyhow ExactConfirmationBinding := do
  requireText "normalized_intent" normalizedIntent
  requireText "declared_consequence" declaredConsequence
  let payloadAndMaterialOperandsJson := payloadJson leaf savedRoutine
  let payloadDigest := plainDigestHex C (utf8Bytes payloadAndMaterialOperandsJson)
  let canonicalActionEnvelopeOrSelectorJson := envelopeJson leaf payloadDigest savedRoutine
  let manifestDigest ← required "manifest is empty"
    (ownerResolutionManifestDigest C (utf8Bytes manifest.canonical.bytes))
  .ok {
    normalizedIntent
    exactPresentedActionJson := leaf.canonical.bytes
    confirmedLogicalActionIdentity := framedDigest C [
      utf8Bytes normalizedIntent, utf8Bytes leaf.actionKind, utf8Bytes leaf.tool.toolId,
      utf8Bytes leaf.tool.version, utf8Bytes payloadDigest,
      utf8Bytes canonicalActionEnvelopeOrSelectorJson, utf8Bytes declaredConsequence]
    manifestDigest
    payloadDigest
    payloadAndMaterialOperandsJson
    targetAudiencePathJson := leaf.targetSnapshot.bytes
    connectorToolIdentity := leaf.tool.toolId
    connectorToolVersion := leaf.tool.version
    canonicalActionEnvelopeOrSelectorJson
    declaredConsequence }

end Digests

/-- The grant was accepted for this delegation and action, and is still active. -/
structure Covers (grant : AcceptedConfirmationGrantRecord) (delegationId : Text)
    (binding : ExactConfirmationBinding) : Prop where
  delegation : grant.delegationId = delegationId
  active : grant.invalidatedAt = none
  action : grant.confirmedLogicalActionIdentity = binding.confirmedLogicalActionIdentity
  envelope : grant.canonicalActionEnvelopeOrSelectorJson =
    binding.canonicalActionEnvelopeOrSelectorJson
  operands : grant.payloadAndMaterialOperandsJson = binding.payloadAndMaterialOperandsJson
  payload : grant.payloadAndMaterialOperandsDigest = binding.payloadDigest
  tool : grant.connectorToolIdentity = some binding.connectorToolIdentity
  version : grant.connectorToolVersion = some binding.connectorToolVersion
  consequence : grant.declaredConsequence = binding.declaredConsequence

def covers (grant : AcceptedConfirmationGrantRecord) (delegationId : Text)
    (binding : ExactConfirmationBinding) : Bool :=
  !(grant.delegationId ≠ delegationId || grant.invalidatedAt.isSome ||
    grant.confirmedLogicalActionIdentity ≠ binding.confirmedLogicalActionIdentity ||
    grant.canonicalActionEnvelopeOrSelectorJson ≠ binding.canonicalActionEnvelopeOrSelectorJson ||
    grant.payloadAndMaterialOperandsJson ≠ binding.payloadAndMaterialOperandsJson ||
    grant.payloadAndMaterialOperandsDigest ≠ binding.payloadDigest ||
    grant.connectorToolIdentity ≠ some binding.connectorToolIdentity ||
    grant.connectorToolVersion ≠ some binding.connectorToolVersion ||
    grant.declaredConsequence ≠ binding.declaredConsequence)

theorem covers_iff {grant : AcceptedConfirmationGrantRecord} {delegationId : Text}
    {binding : ExactConfirmationBinding} :
    covers grant delegationId binding = true ↔ Covers grant delegationId binding := by
  constructor
  · intro accepted
    simp only [covers, Bool.not_eq_true', Bool.or_eq_false_iff, decide_eq_false_iff_not, not_not,
      Option.isSome_eq_false_iff, Option.isNone_iff_eq_none] at accepted
    obtain ⟨⟨⟨⟨⟨⟨⟨⟨delegation, active⟩, action⟩, envelope⟩, operands⟩, payload⟩, tool⟩, version⟩,
      consequence⟩ := accepted
    exact ⟨delegation, active, action, envelope, operands, payload, tool, version, consequence⟩
  · intro same
    simp [covers, same.delegation, same.active, same.action, same.envelope, same.operands,
      same.payload, same.tool, same.version, same.consequence]

end CarsinOS.Confirmation
