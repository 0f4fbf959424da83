import CarsinOS.Actor.Authority
import CarsinOS.Manifest.Value

/-! Leaf actions: their input, their canonical form and the bytes that are frozen for them. -/
namespace CarsinOS.Manifest
open CarsinOS.Lib CarsinOS.Actor

structure ToolIdentityInput where
  toolId : Text
  version : Text

structure ResolvedLeafInput where
  logicalActionId : Text
  actionKind : Text
  tool : ToolIdentityInput
  operands : CanonicalValue
  targetSnapshot : TargetSnapshotInput
  materialDigest : Option Text
  ownerAuthority : VerifiedOwnerAuthority

/-- `Alias` is spelled `aliased` here, since the source's word is a keyword. -/
inductive IndirectionDescriptor where
  | aliased (name : Text)
  | plugin (pluginId version : Text)
  | shell (shellId shellVersion command : Text)
  | child (childIdentity version : Text)
deriving DecidableEq

structure CanonicalResolutionStep where
  descriptor : IndirectionDescriptor
  targetNodeId : Text
  resolverId : Text
  resolverVersion : Text
  resolutionMaterialDigest : Sha256Digest
deriving DecidableEq

structure CanonicalToolIdentity where
  toolId : Text
  version : Text
deriving DecidableEq

inductive CanonicalOwnerEvidence where
  | localInteractive (authenticatedClientId authenticatedIngress channelAssurance
      requestCorrelationId : Text) (sourceMessageId : Option Text)
  | remoteAuthenticated (adapterId providerAccountId authenticatedIngress channelAssurance
      sourceMessageId requestCorrelationId : Text)
deriving DecidableEq

structure CanonicalOwnerAuthority where
  ownerEvidence : CanonicalOwnerEvidence
  authorityProvenanceId : Text
  normalizedIntentDigest : Sha256Digest
  instructionRevision : Text
  instructionDigest : Sha256Digest
  ownerEnvelopeRevision : Text
  ownerEnvelopeDigest : Sha256Digest
  authorityKind : Text
  normalizedScope : FrozenBytes
  policyRevision : I64
  boundDecisionId : Option Text
  boundDecisionRevision : Option I64
  boundManifestDigest : Option Sha256Digest
  boundChallengeNonceDigest : Option Sha256Digest
  evidenceDigest : Sha256Digest
  createdAt : I64
  expiresAt : Option I64
deriving DecidableEq

structure CanonicalLeafAction where
  nodeId : Text
  logicalActionId : Text
  actionKind : Text
  tool : CanonicalToolIdentity
  operands : FrozenBytes
  targetSnapshot : FrozenBytes
  materialDigest : Option Sha256Digest
  resolutionPath : List CanonicalResolutionStep
  ownerAuthority : CanonicalOwnerAuthority
  canonical : FrozenBytes
deriving DecidableEq

section Encoding
variable (C : Crates)

def normalizedDescriptor : IndirectionDescriptor → Except String IndirectionDescriptor
  | .aliased name => do
    let name ← normalizedIdentifier C name
    .ok (.aliased name)
  | .plugin pluginId version => do
    let pluginId ← normalizedIdentifier C pluginId
    let version ← normalizedIdentifier C version
    .ok (.plugin pluginId version)
  | .shell shellId shellVersion command =>
    if command = [] then .error "shell command cannot be empty"
    else if utf8Length command > MAX_CANONICAL_STRING_BYTES then
      .error "shell command exceeds byte limit"
    else do
      let shellId ← normalizedIdentifier C shellId
      let shellVersion ← normalizedIdentifier C shellVersion
      .ok (.shell shellId shellVersion command)
  | .child childIdentity version => do
    let childIdentity ← normalizedIdentifier C childIdentity
    let version ← normalizedIdentifier C version
    .ok (.child childIdentity version)

/-- `Option::map` and `transpose`. -/
def transposed {α β : Type} (f : α → Except String β) : Option α → Except String (Option β)
  | none => .ok none
  | some a => do .ok (some (← f a))

def canonicalizeOwnerEvidence : VerifiedHumanEvidence → Except String CanonicalOwnerEvidence
  | .local authenticatedClientId authenticatedIngress channelAssurance requestCorrelationId
      sourceMessageId => do
    let authenticatedClientId ← normalizedIdentifier C authenticatedClientId
    let authenticatedIngress ← normalizedIdentifier C authenticatedIngress
    let channelAssurance ← normalizedIdentifier C channelAssurance
    let requestCorrelationId ← normalizedIdentifier C requestCorrelationId
    let sourceMessageId ← transposed (normalizedIdentifier C) sourceMessageId
    .ok (.localInteractive authenticatedClientId authenticatedIngress channelAssurance
      requestCorrelationId sourceMessageId)
  | .remote adapterId providerAccountId authenticatedIngress channelAssurance sourceMessageId
      requestCorrelationId _ _ _ => do
    let adapterId ← normalizedIdentifier C adapterId
    let providerAccountId ← normalizedIdentifier C providerAccountId
    let authenticatedIngress ← normalizedIdentifier C authenticatedIngress
    let channelAssurance ← normalizedIdentifier C channelAssurance
    let sourceMessageId ← normalizedIdentifier C sourceMessageId
    let requestCorrelationId ← normalizedIdentifier C requestCorrelationId
    .ok (.remoteAuthenticated adapterId providerAccountId authenticatedIngress channelAssurance
      sourceMessageId requestCorrelationId)

def canonicalizeOwnerAuthority (input : VerifiedOwnerAuthority) :
    Except String CanonicalOwnerAuthority :=
  if utf8Length input.normalizedScopeJson > MAX_CANONICAL_VALUE_BYTES then
    .error "normalized authority scope exceeds canonical byte limit"
  else do
    let ownerEvidence ← canonicalizeOwnerEvidence C input.evidence
    let authorityProvenanceId ← normalizedIdentifier C input.authorityProvenanceId
    let normalizedIntentDigest ← parseDigest input.normalizedIntentDigest
    let instructionRevision ← normalizedIdentifier C input.instructionRevision
    let instructionDigest ← parseDigest input.instructionDigest
    let ownerEnvelopeRevision ← normalizedIdentifier C input.ownerEnvelopeRevision
    let ownerEnvelopeDigest ← parseDigest input.ownerEnvelopeDigest
    let authorityKind ← normalizedIdentifier C input.authorityKind
    let normalizedScope := freeze C input.normalizedScopeJson
    let boundDecisionId ← transposed (normalizedIdentifier C) input.boundDecisionId
    let boundManifestDigest ← transposed parseDigest input.boundManifestDigest
    let boundChallengeNonceDigest ← transposed parseDigest input.boundChallengeNonceDigest
    let evidenceDigest ← parseDigest input.evidenceDigest
    .ok {
      ownerEvidence, authorityProvenanceId, normalizedIntentDigest, instructionRevision
      instructionDigest, ownerEnvelopeRevision, ownerEnvelopeDigest, authorityKind
      normalizedScope, policyRevision := input.policyRevision, boundDecisionId
      boundDecisionRevision := input.boundDecisionRevision, boundManifestDigest
      boundChallengeNonceDigest, evidenceDigest, createdAt := input.createdAt
      expiresAt := input.expiresAt }

/-! The bytes of a leaf. -/

def optionalString (value : Option Text) : Text :=
  match value with
  | some value => pushJsonString C value
  | none => "null".toList

def optionalDigest (value : Option Sha256Digest) : Text := optionalString C (value.map (·.val))

def optionalInteger (value : Option I64) : Text :=
  match value with
  | some value => value.toText
  | none => "null".toList

def canonicalDescriptorBytes : IndirectionDescriptor → Text
  | .aliased name =>
    "\x7b\"alias\":".toList ++ pushJsonString C name ++ ",\"kind\":\"alias\"\x7d".toList
  | .plugin pluginId version =>
    "\x7b\"kind\":\"plugin\",\"plugin_id\":".toList ++ pushJsonString C pluginId ++
      ",\"version\":".toList ++ pushJsonString C version ++ "\x7d".toList
  | .shell shellId shellVersion command =>
    "\x7b\"command\":".toList ++ pushJsonString C command ++
      ",\"kind\":\"shell\",\"shell_id\":".toList ++ pushJsonString C shellId ++
      ",\"shell_version\":".toList ++ pushJsonString C shellVersion ++ "\x7d".toList
  | .child childIdentity version =>
    "\x7b\"child_identity\":".toList ++ pushJsonString C childIdentity ++
      ",\"kind\":\"child\",\"version\":".toList ++ pushJsonString C version ++ "\x7d".toList

def canonicalResolutionStepBytes (step : CanonicalResolutionStep) : Text :=
  "\x7b\"descriptor\":".toList ++ canonicalDescriptorBytes C step.descriptor ++
    ",\"resolution_material_digest\":".toList ++
    pushJsonString C step.resolutionMaterialDigest.val ++
    ",\"resolver_id\":".toList ++ pushJsonString C step.resolverId ++
    ",\"resolver_version\":".toList ++ pushJsonString C step.resolverVersion ++
    ",\"target_node_id\":".toList ++ pushJsonString C step.targetNodeId ++ "\x7d".toList

def canonicalEvidenceBytes : CanonicalOwnerEvidence → Text
  | .localInteractive authenticatedClientId authenticatedIngress channelAssurance
      requestCorrelationId sourceMessageId =>
    "\"authenticated_client_id\":".toList ++ pushJsonString C authenticatedClientId ++
      ",\"authenticated_ingress\":".toList ++ pushJsonString C authenticatedIngress ++
      ",\"channel_assurance\":".toList ++ pushJsonString C channelAssurance ++
      ",\"kind\":\"local_interactive\",\"request_correlation_id\":".toList ++
      pushJsonString C requestCorrelationId ++
      ",\"source_message_id\":".toList ++ optionalString C sourceMessageId
  | .remoteAuthenticated adapterId providerAccountId authenticatedIngress channelAssurance
      sourceMessageId requestCorrelationId =>
    "\"adapter_id\":".toList ++ pushJsonString C adapterId ++
      ",\"authenticated_ingress\":".toList ++ pushJsonString C authenticatedIngress ++
      ",\"channel_assurance\":".toList ++ pushJsonString C channelAssurance ++
      ",\"kind\":\"remote_authenticated\",\"provider_account_id\":".toList ++
      pushJsonString C providerAccountId ++
      ",\"request_correlation_id\":".toList ++ pushJsonString C requestCorrelationId ++
      ",\"source_message_id\":".toList ++ pushJsonString C sourceMessageId

def canonicalAuthorityBytes (value : CanonicalOwnerAuthority) : Text :=
  "\x7b\"authority_kind\":".toList ++ pushJsonString C value.authorityKind ++
    ",\"authority_provenance_id\":".toList ++ pushJsonString C value.authorityProvenanceId ++
    ",\"bound_challenge_nonce_digest\":".toList ++
    optionalDigest C value.boundChallengeNonceDigest ++
    ",\"bound_decision_id\":".toList ++ optionalString C value.boundDecisionId ++
    ",\"bound_decision_revision\":".toList ++ optionalInteger value.boundDecisionRevision ++
    ",\"bound_manifest_digest\":".toList ++ optionalDigest C value.boundManifestDigest ++
    ",\"created_at\":".toList ++ value.createdAt.toText ++
    ",\"evidence_digest\":".toList ++ pushJsonString C value.evidenceDigest.val ++
    ",\"expires_at\":".toList ++ optionalInteger value.expiresAt ++
    ",\"instruction_digest\":".toList ++ pushJsonString C value.instructionDigest.val ++
    ",\"instruction_revision\":".toList ++ pushJsonString C value.instructionRevision ++
    ",\"normalized_intent_digest\":".toList ++
    pushJsonString C value.normalizedIntentDigest.val ++
    ",\"normalized_scope\":".toList ++ value.normalizedScope.bytes ++
    ",\"owner_envelope_digest\":".toList ++ pushJsonString C value.ownerEnvelopeDigest.val ++
    ",\"owner_envelope_revision\":".toList ++ pushJsonString C value.ownerEnvelopeRevision ++
    ",\"owner_evidence\":\x7b".toList ++ canonicalEvidenceBytes C value.ownerEvidence ++
    "\x7d,\"policy_revision\":".toList ++ value.policyRevision.toText ++ "\x7d".toList

structure LeafCanonicalInputs where
  nodeId : Text
  logicalActionId : Text
  actionKind : Text
  tool : CanonicalToolIdentity
  operands : FrozenBytes
  targetSnapshot : FrozenBytes
  materialDigest : Option Sha256Digest
  resolutionPath : List CanonicalResolutionStep
  authority : CanonicalOwnerAuthority

def CanonicalLeafAction.inputs (leaf : CanonicalLeafAction) : LeafCanonicalInputs where
  nodeId := leaf.nodeId
  logicalActionId := leaf.logicalActionId
  actionKind := leaf.actionKind
  tool := leaf.tool
  operands := leaf.operands
  targetSnapshot := leaf.targetSnapshot
  materialDigest := leaf.materialDigest
  resolutionPath := leaf.resolutionPath
  authority := leaf.ownerAuthority

def canonicalLeafBytes (input : LeafCanonicalInputs) : Text :=
  "\x7b\"action_kind\":".toList ++ pushJsonString C input.actionKind ++
    ",\"logical_action_id\":".toList ++ pushJsonString C input.logicalActionId ++
    ",\"material_digest\":".toList ++ optionalDigest C input.materialDigest ++
    ",\"node_id\":".toList ++ pushJsonString C input.nodeId ++
    ",\"operands\":".toList ++ input.operands.bytes ++
    ",\"owner_authority\":".toList ++ canonicalAuthorityBytes C input.authority ++
    ",\"resolution_path\":[".toList ++
    commaSeparated (input.resolutionPath.map (canonicalResolutionStepBytes C)) ++
    "],\"schema\":\"carsinos.execass.leaf_action.v2\"".toList ++
    ",\"target_snapshot\":".toList ++ input.targetSnapshot.bytes ++
    ",\"tool\":\x7b\"tool_id\":".toList ++ pushJsonString C input.tool.toolId ++
    ",\"version\":".toList ++ pushJsonString C input.tool.version ++ "\x7d\x7d".toList

def canonicalManifestBytes (leaves : List CanonicalLeafAction) : Except String Text :=
  if leaves = [] then .error "manifest contains no resolved leaves"
  else .ok ("\x7b\"leaves\":[".toList ++ commaSeparated (leaves.map (·.canonical.bytes)) ++
    "],\"schema\":\"carsinos.execass.leaf_action_manifest.v2\"\x7d".toList)

/-- `canonical_leaf`, up to the pause reason its errors are wrapped in. -/
def canonicalLeaf (nodeId : Text) (input : ResolvedLeafInput)
    (resolutionPath : List CanonicalResolutionStep) : Except String CanonicalLeafAction := do
  let logicalActionId ← normalizedIdentifier C input.logicalActionId
  let actionKind ← normalizedIdentifier C input.actionKind
  let toolId ← normalizedIdentifier C input.tool.toolId
  let version ← normalizedIdentifier C input.tool.version
  let tool : CanonicalToolIdentity := { toolId, version }
  let operands ← canonicalValueBytes C input.operands
  let operands := freeze C operands
  let targetSnapshot ← canonicalTargetsBytes C input.targetSnapshot
  let targetSnapshot := freeze C targetSnapshot
  let materialDigest ← transposed parseDigest input.materialDigest
  let ownerAuthority ← canonicalizeOwnerAuthority C input.ownerAuthority
  let bytes := canonicalLeafBytes C {
    nodeId, logicalActionId, actionKind, tool, operands, targetSnapshot, materialDigest
    resolutionPath, authority := ownerAuthority }
  .ok {
    nodeId, logicalActionId, actionKind, tool, operands, targetSnapshot, materialDigest
    resolutionPath, ownerAuthority, canonical := freeze C bytes }

end Encoding
end CarsinOS.Manifest
