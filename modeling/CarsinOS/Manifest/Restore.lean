import CarsinOS.Manifest.Persisted
import CarsinOS.Manifest.Request

/-! The leaves of a persisted manifest are restored by normalizing what was read. -/
namespace CarsinOS.Manifest
open CarsinOS.Lib CarsinOS.Actor

section Restoring
variable (C : Crates)

def restoreOwnerEvidence : CanonicalOwnerEvidence → Except String CanonicalOwnerEvidence
  | .localInteractive authenticatedClientId authenticatedIngress channelAssurance
      requestCorrelationId sourceMessageId => do
    let authenticatedClientId ← normalizedIdentifier C authenticatedClientId
    let authenticatedIngress ← normalizedIdentifier C authenticatedIngress
    let channelAssurance ← normalizedIdentifier C channelAssurance
    let requestCorrelationId ← normalizedIdentifier C requestCorrelationId
    let sourceMessageId ← transposed (normalizedIdentifier C) sourceMessageId
    .ok (.localInteractive authenticatedClientId authenticatedIngress channelAssurance
      requestCorrelationId sourceMessageId)
  | .remoteAuthenticated adapterId providerAccountId authenticatedIngress channelAssurance
      sourceMessageId requestCorrelationId => do
    let adapterId ← normalizedIdentifier C adapterId
    let providerAccountId ← normalizedIdentifier C providerAccountId
    let authenticatedIngress ← normalizedIdentifier C authenticatedIngress
    let channelAssurance ← normalizedIdentifier C channelAssurance
    let sourceMessageId ← normalizedIdentifier C sourceMessageId
    let requestCorrelationId ← normalizedIdentifier C requestCorrelationId
    .ok (.remoteAuthenticated adapterId providerAccountId authenticatedIngress channelAssurance
      sourceMessageId requestCorrelationId)

def restoreOwnerAuthority (input : PersistedOwnerAuthority) :
    Except String CanonicalOwnerAuthority := do
  let ownerEvidence ← restoreOwnerEvidence C input.ownerEvidence
  let authorityProvenanceId ← normalizedIdentifier C input.authorityProvenanceId
  let normalizedIntentDigest ← parseDigest input.normalizedIntentDigest
  let instructionRevision ← normalizedIdentifier C input.instructionRevision
  let instructionDigest ← parseDigest input.instructionDigest
  let ownerEnvelopeRevision ← normalizedIdentifier C input.ownerEnvelopeRevision
  let ownerEnvelopeDigest ← parseDigest input.ownerEnvelopeDigest
  let authorityKind ← normalizedIdentifier C input.authorityKind
  let scope ← canonicalValueBytes C input.normalizedScope
  let normalizedScope := freeze C scope
  let boundDecisionId ← transposed (normalizedIdentifier C) input.boundDecisionId
  let boundManifestDigest ← transposed parseDigest input.boundManifestDigest
  let boundChallengeNonceDigest ← transposed parseDigest input.boundChallengeNonceDigest
  let evidenceDigest ← parseDigest input.evidenceDigest
  .ok {
    ownerEvidence, authorityProvenanceId, normalizedIntentDigest, instructionRevision
    instructionDigest, ownerEnvelopeRevision, ownerEnvelopeDigest, authorityKind
    normalizedScope, policyRevision := input.policyRevision, boundDecisionId
    boundDecisionRevision := input.boundDecisionRevision, boundManifestDigest
    boundChallengeNonceDigest, evidenceDigest, createdAt := input.createdAt
    expiresAt := input.expiresAt }

def restoreResolutionStep (input : PersistedResolutionStep) :
    Except String CanonicalResolutionStep := do
  let descriptor ← normalizedDescriptor C input.descriptor
  let targetNodeId ← normalizedIdentifier C input.targetNodeId
  let resolverId ← normalizedIdentifier C input.resolverId
  let resolverVersion ← normalizedIdentifier C input.resolverVersion
  let resolutionMaterialDigest ← parseDigest input.resolutionMaterialDigest
  .ok { descriptor, targetNodeId, resolverId, resolverVersion, resolutionMaterialDigest }

def restorePersistedLeaf (input : PersistedLeaf) : Except String CanonicalLeafAction :=
  if input.schema ≠ "carsinos.execass.leaf_action.v2".toList then
    .error "unsupported persisted leaf schema"
  else if input.resolutionPath.length > ABSOLUTE_MAX_DEPTH then
    .error "persisted resolution path exceeds depth limit"
  else do
    let nodeId ← normalizedIdentifier C input.nodeId
    let logicalActionId ← normalizedIdentifier C input.logicalActionId
    let actionKind ← normalizedIdentifier C input.actionKind
    let toolId ← normalizedIdentifier C input.tool.toolId
    let version ← normalizedIdentifier C input.tool.version
    let tool : CanonicalToolIdentity := { toolId, version }
    let operands ← canonicalValueBytes C input.operands
    let operands := freeze C operands
    let targetSnapshot ← canonicalTargetsBytes C input.targetSnapshot
    let targetSnapshot := freeze C targetSnapshot
    let materialDigest ← transposed parseDigest input.materialDigest
    let resolutionPath ← input.resolutionPath.mapM (restoreResolutionStep C)
    let ownerAuthority ← restoreOwnerAuthority C input.ownerAuthority
    let bytes := canonicalLeafBytes C {
      nodeId, logicalActionId, actionKind, tool, operands, targetSnapshot, materialDigest
      resolutionPath, authority := ownerAuthority }
    .ok {
      nodeId, logicalActionId, actionKind, tool, operands, targetSnapshot, materialDigest
      resolutionPath, ownerAuthority, canonical := freeze C bytes }

/-- A leaf that is restored has a value for a scope as well. -/
structure RestoredLeaf (leaf : CanonicalLeafAction) : Prop extends NormalLeaf C leaf where
  scopeValue : ∃ t, Sized t ∧ leaf.ownerAuthority.normalizedScope = freeze C t.print

end Restoring

section Restored
variable {C : Crates}

theorem restoreOwnerEvidence_normal {evidence restored : CanonicalOwnerEvidence}
    (made : restoreOwnerEvidence C evidence = .ok restored) : NormalEvidence C restored := by
  cases evidence with
  | localInteractive =>
    simp only [restoreOwnerEvidence, bind_ok] at made
    obtain ⟨_, h₁, _, h₂, _, h₃, _, h₄, _, h₅, made⟩ := made
    cases made
    exact ⟨normal_of_normalized h₁, normal_of_normalized h₂, normal_of_normalized h₃,
      normal_of_normalized h₄, normal_of_transposed h₅⟩
  | remoteAuthenticated =>
    simp only [restoreOwnerEvidence, bind_ok] at made
    obtain ⟨_, h₁, _, h₂, _, h₃, _, h₄, _, h₅, _, h₆, made⟩ := made
    cases made
    exact ⟨normal_of_normalized h₁, normal_of_normalized h₂, normal_of_normalized h₃,
      normal_of_normalized h₄, normal_of_normalized h₅, normal_of_normalized h₆⟩

theorem restoreResolutionStep_normal {input : PersistedResolutionStep}
    {step : CanonicalResolutionStep} (made : restoreResolutionStep C input = .ok step) :
    NormalStep C step := by
  simp only [restoreResolutionStep, bind_ok] at made
  obtain ⟨_, descriptor, _, target, _, resolver, _, version, _, _, made⟩ := made
  cases made
  exact ⟨normalizedDescriptor_again descriptor, normal_of_normalized target,
    normal_of_normalized resolver, normal_of_normalized version⟩

theorem restoreOwnerAuthority_normal {input : PersistedOwnerAuthority}
    {authority : CanonicalOwnerAuthority} (made : restoreOwnerAuthority C input = .ok authority) :
    NormalAuthority C authority ∧
      ∃ t, Sized t ∧ authority.normalizedScope = freeze C t.print := by
  simp only [restoreOwnerAuthority, bind_ok] at made
  obtain ⟨_, evidence, _, provenance, _, _, _, instruction, _, _, _, envelope, _, _, _, kind, _,
    scope, _, decision, _, _, _, _, _, _, made⟩ := made
  cases made
  obtain ⟨sized, rfl⟩ := canonicalValueBytes_ok.mp scope
  refine ⟨?_, _, sized, rfl⟩
  exact {
    evidence := restoreOwnerEvidence_normal evidence
    provenance := normal_of_normalized provenance
    instructionRevision := normal_of_normalized instruction
    ownerEnvelopeRevision := normal_of_normalized envelope
    authorityKind := normal_of_normalized kind
    decision := normal_of_transposed decision
    scope := rfl
    scopeShort := sized.2
    scopeText := ⟨_, written_spelled sized.1.2, rfl⟩ }

theorem restorePersistedLeaf_restored {input : PersistedLeaf} {leaf : CanonicalLeafAction}
    (made : restorePersistedLeaf C input = .ok leaf) : RestoredLeaf C leaf := by
  unfold restorePersistedLeaf at made
  split at made
  · contradiction
  split at made
  · contradiction
  rename_i short
  simp only [bind_ok, mapM_ok] at made
  obtain ⟨_, node, _, logical, _, kind, _, tool, _, version, _, operands, _, targets, _, _, _,
    path, _, authority, made⟩ := made
  cases made
  obtain ⟨normal, scope⟩ := restoreOwnerAuthority_normal authority
  exact {
    nodeId := normal_of_normalized node
    logicalActionId := normal_of_normalized logical
    actionKind := normal_of_normalized kind
    toolId := normal_of_normalized tool
    version := normal_of_normalized version
    operands := by
      obtain ⟨sized, rfl⟩ := canonicalValueBytes_ok.mp operands
      exact ⟨_, sized, rfl⟩
    targets := by
      obtain ⟨sized, rfl⟩ := canonicalTargetsBytes_ok.mp targets
      exact ⟨_, sized, rfl⟩
    path := by
      rw [← path.length_eq]
      exact Nat.not_lt.mp short
    steps := by
      intro step member
      obtain ⟨i, inside, rfl⟩ := List.mem_iff_getElem.mp member
      exact restoreResolutionStep_normal (path.get (path.length_eq ▸ inside) inside)
    authority := normal
    canonical := rfl
    scopeValue := scope }

theorem transposed_normal {id : Option Text} (normal : ∀ i ∈ id, Normal C i) :
    transposed (normalizedIdentifier C) id = .ok id := by
  cases id with
  | none => rfl
  | some id => simp [transposed, show normalizedIdentifier C id = .ok id from normal id rfl]

theorem transposed_digest (digest : Option Sha256Digest) :
    transposed parseDigest (digest.map (·.val)) = .ok digest := by
  cases digest with
  | none => rfl
  | some digest => simp [transposed, parseDigest_digest]

theorem restoreOwnerEvidence_again {evidence : CanonicalOwnerEvidence}
    (normal : NormalEvidence C evidence) : restoreOwnerEvidence C evidence = .ok evidence := by
  cases evidence with
  | localInteractive =>
    obtain ⟨client, ingress, channel, request, message⟩ := normal
    simp only [Normal] at client ingress channel request
    simp [restoreOwnerEvidence, client, ingress, channel, request, transposed_normal message]
  | remoteAuthenticated =>
    obtain ⟨adapter, account, ingress, channel, message, request⟩ := normal
    simp only [Normal] at adapter account ingress channel message request
    simp [restoreOwnerEvidence, adapter, account, ingress, channel, message, request]

theorem restoreResolutionStep_persisted {step : CanonicalResolutionStep}
    (normal : NormalStep C step) : restoreResolutionStep C step.persisted = .ok step := by
  obtain ⟨descriptor, target, resolver, version⟩ := normal
  simp only [Normal] at target resolver version
  simp [restoreResolutionStep, CanonicalResolutionStep.persisted, descriptor, target, resolver,
    version, parseDigest_digest]

theorem restoreOwnerAuthority_persisted {authority : CanonicalOwnerAuthority}
    {scope : CanonicalValue} (normal : NormalAuthority C authority)
    (made : canonicalValueBytes C scope = .ok authority.normalizedScope.bytes) :
    restoreOwnerAuthority C (authority.persisted scope) = .ok authority := by
  have evidence := restoreOwnerEvidence_again normal.evidence
  have decision := transposed_normal normal.decision
  have provenance : normalizedIdentifier C _ = _ := normal.provenance
  have instruction : normalizedIdentifier C _ = _ := normal.instructionRevision
  have envelope : normalizedIdentifier C _ = _ := normal.ownerEnvelopeRevision
  have kind : normalizedIdentifier C _ = _ := normal.authorityKind
  simp only [restoreOwnerAuthority, CanonicalOwnerAuthority.persisted, evidence, decision,
    provenance, instruction, envelope, kind, made, parseDigest_digest, transposed_digest, ok_bind]
  rw [← normal.scope]

theorem restorePersistedLeaf_persisted {leaf : CanonicalLeafAction} {operands scope : CanonicalValue}
    {targets : List CanonicalValue} (normal : RestoredLeaf C leaf)
    (operandsMade : canonicalValueBytes C operands = .ok leaf.operands.bytes)
    (targetsMade : canonicalTargetsBytes C ⟨targets⟩ = .ok leaf.targetSnapshot.bytes)
    (scopeMade : canonicalValueBytes C scope = .ok leaf.ownerAuthority.normalizedScope.bytes) :
    restorePersistedLeaf C (leaf.persisted operands targets scope) = .ok leaf := by
  have authority := restoreOwnerAuthority_persisted normal.authority scopeMade
  have node : normalizedIdentifier C _ = _ := normal.nodeId
  have logical : normalizedIdentifier C _ = _ := normal.logicalActionId
  have kind : normalizedIdentifier C _ = _ := normal.actionKind
  have tool : normalizedIdentifier C _ = _ := normal.toolId
  have version : normalizedIdentifier C _ = _ := normal.version
  have path : (leaf.resolutionPath.map CanonicalResolutionStep.persisted).mapM
      (restoreResolutionStep C) = .ok leaf.resolutionPath := by
    rw [mapM_ok, List.forall₂_map_left_iff, List.forall₂_same]
    exact fun step member => restoreResolutionStep_persisted (normal.steps step member)
  have short : ¬ (leaf.resolutionPath.map CanonicalResolutionStep.persisted).length >
      ABSOLUTE_MAX_DEPTH := by
    rw [List.length_map]
    exact Nat.not_lt.mpr normal.path
  obtain ⟨_, -, operandsFrozen⟩ := normal.operands
  obtain ⟨_, -, targetsFrozen⟩ := normal.targets
  have operandsKept : freeze C leaf.operands.bytes = leaf.operands := by rw [operandsFrozen]; rfl
  have targetsKept : freeze C leaf.targetSnapshot.bytes = leaf.targetSnapshot := by
    rw [targetsFrozen]
    rfl
  unfold restorePersistedLeaf CanonicalLeafAction.persisted
  rw [if_neg (fun other => other rfl), if_neg short]
  simp only [node, logical, kind, tool, version, operandsMade, targetsMade, transposed_digest, path,
    authority, ok_bind, operandsKept, targetsKept]
  exact congrArg Except.ok (congrArg (fun canonical => { leaf with canonical }) normal.canonical.symm)

end Restored
end CarsinOS.Manifest
