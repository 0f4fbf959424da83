import CarsinOS.Manifest.Decode
import CarsinOS.Manifest.Leaf

/-! A manifest as it is persisted, and how its text is read. -/
namespace CarsinOS.Manifest
open CarsinOS.Lib CarsinOS.Actor

structure PersistedOwnerAuthority where
  authorityKind : Text
  authorityProvenanceId : Text
  boundChallengeNonceDigest : Option Text
  boundDecisionId : Option Text
  boundDecisionRevision : Option I64
  boundManifestDigest : Option Text
  createdAt : I64
  evidenceDigest : Text
  expiresAt : Option I64
  instructionDigest : Text
  instructionRevision : Text
  normalizedIntentDigest : Text
  normalizedScope : CanonicalValue
  ownerEnvelopeDigest : Text
  ownerEnvelopeRevision : Text
  /-- Not normalized yet. -/
  ownerEvidence : CanonicalOwnerEvidence
  policyRevision : I64

structure PersistedResolutionStep where
  /-- Not normalized yet. -/
  descriptor : IndirectionDescriptor
  resolutionMaterialDigest : Text
  resolverId : Text
  resolverVersion : Text
  targetNodeId : Text

structure PersistedLeaf where
  actionKind : Text
  logicalActionId : Text
  materialDigest : Option Text
  nodeId : Text
  operands : CanonicalValue
  ownerAuthority : PersistedOwnerAuthority
  resolutionPath : List PersistedResolutionStep
  schema : Text
  targetSnapshot : TargetSnapshotInput
  tool : ToolIdentityInput

structure PersistedManifest where
  leaves : List PersistedLeaf
  schema : Text

/-! The derived deserializers. A field of an option may be missing or null. -/

def string : Json → Option Text
  | .str value => some value
  | _ => none

def integer : Json → Option I64
  | .num lexeme => integerValue lexeme
  | _ => none

def mandatory {α : Type} (read : Json → Option α) (entry : Option Json) : Option α := entry.bind read

def nullable {α : Type} (read : Json → Option α) : Option Json → Option (Option α)
  | none => some none
  | some .null => some none
  | some t => (read t).map some

/-- An enumeration tagged by its field `kind`, with the content that remains. -/
def tagged : Json → Option (Text × Json)
  | .obj entries =>
    match entries.filter fun entry => entry.1 = "kind".toList with
    | [(_, .str tag)] => some (tag, .obj (entries.filter fun entry => entry.1 ≠ "kind".toList))
    | _ => none
  | .arr (.str tag :: items) => some (tag, .arr items)
  | _ => none

def persistedTool (t : Json) : Option ToolIdentityInput := do
  let [toolId, version] ← record ["tool_id".toList, "version".toList] t | none
  some { toolId := ← mandatory string toolId, version := ← mandatory string version }

def persistedDescriptor (t : Json) : Option IndirectionDescriptor := do
  let (kind, content) ← tagged t
  if kind = "alias".toList then
    let [name] ← record ["alias".toList] content | none
    some (.aliased (← mandatory string name))
  else if kind = "plugin".toList then
    let [pluginId, version] ← record ["plugin_id".toList, "version".toList] content | none
    some (.plugin (← mandatory string pluginId) (← mandatory string version))
  else if kind = "shell".toList then
    let [command, shellId, shellVersion] ←
      record ["command".toList, "shell_id".toList, "shell_version".toList] content | none
    let command ← mandatory string command
    some (.shell (← mandatory string shellId) (← mandatory string shellVersion) command)
  else if kind = "child".toList then
    let [childIdentity, version] ← record ["child_identity".toList, "version".toList] content
      | none
    some (.child (← mandatory string childIdentity) (← mandatory string version))
  else none

def persistedStep (t : Json) : Option PersistedResolutionStep := do
  let [descriptor, digest, resolverId, resolverVersion, targetNodeId] ←
    record ["descriptor".toList, "resolution_material_digest".toList, "resolver_id".toList,
      "resolver_version".toList, "target_node_id".toList] t | none
  some {
    descriptor := ← mandatory persistedDescriptor descriptor
    resolutionMaterialDigest := ← mandatory string digest
    resolverId := ← mandatory string resolverId
    resolverVersion := ← mandatory string resolverVersion
    targetNodeId := ← mandatory string targetNodeId }

def persistedEvidence (t : Json) : Option CanonicalOwnerEvidence := do
  let (kind, content) ← tagged t
  if kind = "local_interactive".toList then
    let [client, ingress, assurance, correlation, message] ←
      record ["authenticated_client_id".toList, "authenticated_ingress".toList,
        "channel_assurance".toList, "request_correlation_id".toList,
        "source_message_id".toList] content | none
    some (.localInteractive (← mandatory string client) (← mandatory string ingress)
      (← mandatory string assurance) (← mandatory string correlation) (← nullable string message))
  else if kind = "remote_authenticated".toList then
    let [adapter, ingress, assurance, account, correlation, message] ←
      record ["adapter_id".toList, "authenticated_ingress".toList, "channel_assurance".toList,
        "provider_account_id".toList, "request_correlation_id".toList,
        "source_message_id".toList] content | none
    some (.remoteAuthenticated (← mandatory string adapter) (← mandatory string account)
      (← mandatory string ingress) (← mandatory string assurance) (← mandatory string message)
      (← mandatory string correlation))
  else none

def persistedAuthority (t : Json) : Option PersistedOwnerAuthority := do
  let [kind, provenance, nonce, decision, revision, manifest, created, evidenceDigest, expires,
      instructionDigest, instructionRevision, intent, scope, envelopeDigest, envelopeRevision,
      evidence, policy] ←
    record ["authority_kind".toList, "authority_provenance_id".toList,
      "bound_challenge_nonce_digest".toList, "bound_decision_id".toList,
      "bound_decision_revision".toList, "bound_manifest_digest".toList, "created_at".toList,
      "evidence_digest".toList, "expires_at".toList, "instruction_digest".toList,
      "instruction_revision".toList, "normalized_intent_digest".toList, "normalized_scope".toList,
      "owner_envelope_digest".toList, "owner_envelope_revision".toList, "owner_evidence".toList,
      "policy_revision".toList] t | none
  some {
    authorityKind := ← mandatory string kind
    authorityProvenanceId := ← mandatory string provenance
    boundChallengeNonceDigest := ← nullable string nonce
    boundDecisionId := ← nullable string decision
    boundDecisionRevision := ← nullable integer revision
    boundManifestDigest := ← nullable string manifest
    createdAt := ← mandatory integer created
    evidenceDigest := ← mandatory string evidenceDigest
    expiresAt := ← nullable integer expires
    instructionDigest := ← mandatory string instructionDigest
    instructionRevision := ← mandatory string instructionRevision
    normalizedIntentDigest := ← mandatory string intent
    normalizedScope := ← mandatory deserialize scope
    ownerEnvelopeDigest := ← mandatory string envelopeDigest
    ownerEnvelopeRevision := ← mandatory string envelopeRevision
    ownerEvidence := ← mandatory persistedEvidence evidence
    policyRevision := ← mandatory integer policy }

def persistedLeaf (t : Json) : Option PersistedLeaf := do
  let [actionKind, logicalActionId, materialDigest, nodeId, operands, ownerAuthority,
      resolutionPath, schema, targetSnapshot, tool] ←
    record ["action_kind".toList, "logical_action_id".toList, "material_digest".toList,
      "node_id".toList, "operands".toList, "owner_authority".toList, "resolution_path".toList,
      "schema".toList, "target_snapshot".toList, "tool".toList] t | none
  some {
    actionKind := ← mandatory string actionKind
    logicalActionId := ← mandatory string logicalActionId
    materialDigest := ← nullable string materialDigest
    nodeId := ← mandatory string nodeId
    operands := ← mandatory deserialize operands
    ownerAuthority := ← mandatory persistedAuthority ownerAuthority
    resolutionPath := ← (← mandatory elements resolutionPath).mapM persistedStep
    schema := ← mandatory string schema
    targetSnapshot := ⟨← mandatory deserializeTargets targetSnapshot⟩
    tool := ← mandatory persistedTool tool }

def persistedManifest (t : Json) : Option PersistedManifest := do
  let [leaves, schema] ← record ["leaves".toList, "schema".toList] t | none
  some {
    leaves := ← (← mandatory elements leaves).mapM persistedLeaf
    schema := ← mandatory string schema }

/-! The trees of the encoders are read back. -/

theorem record_obj {names : List Text} {entries : List (Text × Json)}
    (listed : Entries.keys entries = names) (increasing : names.IsChain (· < ·)) :
    record names (.obj entries) = some (entries.map fun entry => some entry.2) := by
  have distinct : (Entries.keys entries).Nodup := by
    rw [listed]
    exact (List.isChain_iff_pairwise.mp increasing).imp fun less => less.ne
  have found : ∀ es : List (Text × Json), (Entries.keys es).Nodup →
      (Entries.keys es).map (fun name => es.lookup name) = es.map fun entry => some entry.2 := by
    intro es
    induction es with
    | nil => simp
    | cons e es ih =>
      obtain ⟨key, value⟩ := e
      intro apart
      rw [Entries.keys_cons, List.nodup_cons] at apart
      rw [Entries.keys_cons, List.map_cons, List.map_cons, List.lookup_cons_self, ← ih apart.2]
      congr 1
      refine List.map_congr_left fun name member => ?_
      have other : name ≠ key := fun same => apart.1 (same ▸ member)
      rw [List.lookup_cons, beq_eq_false_iff_ne.mpr other]
  have known : ∀ key ∈ Entries.keys entries, key ∈ names := fun key member => listed ▸ member
  rw [record, if_pos ⟨distinct, known⟩, ← listed, found entries distinct]

theorem mandatory_some {α : Type} (read : Json → Option α) (t : Json) :
    mandatory read (some t) = read t := rfl

@[simp] theorem mandatory_str (s : Text) : mandatory string (some (.str s)) = some s := rfl

@[simp] theorem mandatory_integer (i : I64) :
    mandatory integer (some (.num i.toText)) = some i := integerValue_toText i

@[simp] theorem mandatory_elements (ts : List Json) :
    mandatory elements (some (.arr ts)) = some ts := rfl

@[simp] theorem nullable_optional (value : Option Text) :
    nullable string (some (Json.optional value)) = some value := by
  cases value <;> rfl

@[simp] theorem nullable_digest (value : Option Sha256Digest) :
    nullable string (some (optionalDigestTree value)) = some (value.map (·.val)) :=
  nullable_optional _

@[simp] theorem nullable_integer (value : Option I64) :
    nullable integer (some (optionalIntegerTree value)) = some value := by
  cases value with
  | none => rfl
  | some i => simp [optionalIntegerTree, nullable, integer, integerValue_toText]

theorem persistedTool_tree (toolId version : Text) :
    persistedTool (.obj [("tool_id".toList, .str toolId), ("version".toList, .str version)]) =
      some ⟨toolId, version⟩ := by
  rw [persistedTool, record_obj (by simp only [Entries.keys_cons, Entries.keys_nil]) (by decide)]
  simp

theorem persistedDescriptor_tree (descriptor : IndirectionDescriptor) :
    persistedDescriptor (descriptorTree descriptor) = some descriptor := by
  cases descriptor with
  | aliased name =>
    have content : tagged (descriptorTree (.aliased name)) =
        some ("alias".toList, .obj [("alias".toList, .str name)]) := by
      simp [descriptorTree, tagged]
    rw [persistedDescriptor, content, Option.bind_eq_bind, Option.bind_some]
    dsimp only
    rw [if_pos rfl, record_obj (by simp only [Entries.keys_cons, Entries.keys_nil]) (by decide)]
    simp
  | plugin pluginId version =>
    have content : tagged (descriptorTree (.plugin pluginId version)) = some ("plugin".toList,
        .obj [("plugin_id".toList, .str pluginId), ("version".toList, .str version)]) := by
      simp [descriptorTree, tagged]
    have other : "plugin".toList ≠ "alias".toList := by decide
    rw [persistedDescriptor, content, Option.bind_eq_bind, Option.bind_some]
    dsimp only
    rw [if_neg other, if_pos rfl,
      record_obj (by simp only [Entries.keys_cons, Entries.keys_nil]) (by decide)]
    simp
  | shell shellId shellVersion command =>
    have content : tagged (descriptorTree (.shell shellId shellVersion command)) =
        some ("shell".toList, .obj [("command".toList, .str command),
          ("shell_id".toList, .str shellId), ("shell_version".toList, .str shellVersion)]) := by
      simp [descriptorTree, tagged]
    have others : "shell".toList ≠ "alias".toList ∧ "shell".toList ≠ "plugin".toList := by decide
    rw [persistedDescriptor, content, Option.bind_eq_bind, Option.bind_some]
    dsimp only
    rw [if_neg others.1, if_neg others.2, if_pos rfl,
      record_obj (by simp only [Entries.keys_cons, Entries.keys_nil]) (by decide)]
    simp
  | child childIdentity version =>
    have content : tagged (descriptorTree (.child childIdentity version)) =
        some ("child".toList, .obj [("child_identity".toList, .str childIdentity),
          ("version".toList, .str version)]) := by
      simp [descriptorTree, tagged]
    have others : "child".toList ≠ "alias".toList ∧ "child".toList ≠ "plugin".toList ∧
        "child".toList ≠ "shell".toList := by decide
    rw [persistedDescriptor, content, Option.bind_eq_bind, Option.bind_some]
    dsimp only
    rw [if_neg others.1, if_neg others.2.1, if_neg others.2.2, if_pos rfl,
      record_obj (by simp only [Entries.keys_cons, Entries.keys_nil]) (by decide)]
    simp

theorem persistedStep_tree (step : CanonicalResolutionStep) :
    persistedStep (stepTree step) = some {
      descriptor := step.descriptor
      resolutionMaterialDigest := step.resolutionMaterialDigest.val
      resolverId := step.resolverId
      resolverVersion := step.resolverVersion
      targetNodeId := step.targetNodeId } := by
  have descriptor : mandatory persistedDescriptor (some (descriptorTree step.descriptor)) =
      some step.descriptor := by rw [mandatory_some, persistedDescriptor_tree]
  rw [persistedStep, stepTree,
    record_obj (by simp only [Entries.keys_cons, Entries.keys_nil]) (by decide)]
  simp [descriptor]

theorem persistedEvidence_tree (evidence : CanonicalOwnerEvidence) :
    persistedEvidence (evidenceTree evidence) = some evidence := by
  cases evidence with
  | localInteractive client ingress assurance correlation message =>
    have content : tagged (evidenceTree (.localInteractive client ingress assurance correlation
        message)) = some ("local_interactive".toList,
          .obj [("authenticated_client_id".toList, .str client),
            ("authenticated_ingress".toList, .str ingress),
            ("channel_assurance".toList, .str assurance),
            ("request_correlation_id".toList, .str correlation),
            ("source_message_id".toList, Json.optional message)]) := by
      simp [evidenceTree, tagged]
    rw [persistedEvidence, content, Option.bind_eq_bind, Option.bind_some]
    dsimp only
    rw [if_pos rfl, record_obj (by simp only [Entries.keys_cons, Entries.keys_nil]) (by decide)]
    simp only [List.map_cons, List.map_nil, Option.bind_eq_bind, Option.bind_some, mandatory_str,
      nullable_optional]
  | remoteAuthenticated adapter account ingress assurance message correlation =>
    have content : tagged (evidenceTree (.remoteAuthenticated adapter account ingress assurance
        message correlation)) = some ("remote_authenticated".toList,
          .obj [("adapter_id".toList, .str adapter),
            ("authenticated_ingress".toList, .str ingress),
            ("channel_assurance".toList, .str assurance),
            ("provider_account_id".toList, .str account),
            ("request_correlation_id".toList, .str correlation),
            ("source_message_id".toList, .str message)]) := by
      simp [evidenceTree, tagged]
    have other : "remote_authenticated".toList ≠ "local_interactive".toList := by decide
    rw [persistedEvidence, content, Option.bind_eq_bind, Option.bind_some]
    dsimp only
    rw [if_neg other, if_pos rfl,
      record_obj (by simp only [Entries.keys_cons, Entries.keys_nil]) (by decide)]
    simp only [List.map_cons, List.map_nil, Option.bind_eq_bind, Option.bind_some, mandatory_str]

/-- The authority that is read back, with the scope as the value its tree stands for. -/
def CanonicalOwnerAuthority.persisted (authority : CanonicalOwnerAuthority)
    (scope : CanonicalValue) : PersistedOwnerAuthority where
  authorityKind := authority.authorityKind
  authorityProvenanceId := authority.authorityProvenanceId
  boundChallengeNonceDigest := authority.boundChallengeNonceDigest.map (·.val)
  boundDecisionId := authority.boundDecisionId
  boundDecisionRevision := authority.boundDecisionRevision
  boundManifestDigest := authority.boundManifestDigest.map (·.val)
  createdAt := authority.createdAt
  evidenceDigest := authority.evidenceDigest.val
  expiresAt := authority.expiresAt
  instructionDigest := authority.instructionDigest.val
  instructionRevision := authority.instructionRevision
  normalizedIntentDigest := authority.normalizedIntentDigest.val
  normalizedScope := scope
  ownerEnvelopeDigest := authority.ownerEnvelopeDigest.val
  ownerEnvelopeRevision := authority.ownerEnvelopeRevision
  ownerEvidence := authority.ownerEvidence
  policyRevision := authority.policyRevision

set_option maxRecDepth 4000 in
theorem persistedAuthority_tree {scope : Json} {value : CanonicalValue}
    (read : deserialize scope = some value) (authority : CanonicalOwnerAuthority) :
    persistedAuthority (authorityTree scope authority) = some (authority.persisted value) := by
  have scopeRead : mandatory deserialize (some scope) = some value := read
  have evidence : mandatory persistedEvidence (some (evidenceTree authority.ownerEvidence)) =
      some authority.ownerEvidence := by rw [mandatory_some, persistedEvidence_tree]
  rw [persistedAuthority, authorityTree,
    record_obj (by simp only [Entries.keys_cons, Entries.keys_nil]) (by decide)]
  simp only [List.map_cons, List.map_nil]
  rw [Option.bind_eq_bind, Option.bind_some]
  dsimp only
  simp only [Option.bind_eq_bind, Option.bind_some, mandatory_str, mandatory_integer,
    nullable_optional, nullable_digest, nullable_integer, scopeRead, evidence]
  rfl

def CanonicalResolutionStep.persisted (step : CanonicalResolutionStep) :
    PersistedResolutionStep where
  descriptor := step.descriptor
  resolutionMaterialDigest := step.resolutionMaterialDigest.val
  resolverId := step.resolverId
  resolverVersion := step.resolverVersion
  targetNodeId := step.targetNodeId

/-- The leaf that is read back, with values for its trees. -/
def CanonicalLeafAction.persisted (leaf : CanonicalLeafAction) (operands : CanonicalValue)
    (targets : List CanonicalValue) (scope : CanonicalValue) : PersistedLeaf where
  actionKind := leaf.actionKind
  logicalActionId := leaf.logicalActionId
  materialDigest := leaf.materialDigest.map (·.val)
  nodeId := leaf.nodeId
  operands := operands
  ownerAuthority := leaf.ownerAuthority.persisted scope
  resolutionPath := leaf.resolutionPath.map CanonicalResolutionStep.persisted
  schema := "carsinos.execass.leaf_action.v2".toList
  targetSnapshot := ⟨targets⟩
  tool := ⟨leaf.tool.toolId, leaf.tool.version⟩

theorem persistedPath_trees (path : List CanonicalResolutionStep) :
    (path.map stepTree).mapM persistedStep =
      some (path.map CanonicalResolutionStep.persisted) := by
  induction path with
  | nil => rfl
  | cons step path ih =>
    rw [List.map_cons, List.mapM_cons, persistedStep_tree, ih]
    rfl

theorem persistedLeaf_tree {operands targets scope : Json} {operandsValue scopeValue : CanonicalValue}
    {targetValues : List CanonicalValue} (operandsRead : deserialize operands = some operandsValue)
    (targetsRead : deserializeTargets targets = some targetValues)
    (scopeRead : deserialize scope = some scopeValue) (leaf : CanonicalLeafAction) :
    persistedLeaf (leafTree operands targets scope leaf) =
      some (leaf.persisted operandsValue targetValues scopeValue) := by
  have first : mandatory deserialize (some operands) = some operandsValue := operandsRead
  have second : mandatory deserializeTargets (some targets) = some targetValues := targetsRead
  have third : mandatory persistedAuthority (some (authorityTree scope leaf.ownerAuthority)) =
      some (leaf.ownerAuthority.persisted scopeValue) := by
    rw [mandatory_some, persistedAuthority_tree scopeRead]
  have tool : mandatory persistedTool (some (.obj [("tool_id".toList, .str leaf.tool.toolId),
      ("version".toList, .str leaf.tool.version)])) = some ⟨leaf.tool.toolId, leaf.tool.version⟩ := by
    rw [mandatory_some, persistedTool_tree]
  rw [persistedLeaf, leafTree,
    record_obj (by simp only [Entries.keys_cons, Entries.keys_nil]) (by decide)]
  simp only [List.map_cons, List.map_nil]
  rw [Option.bind_eq_bind, Option.bind_some]
  dsimp only
  simp only [Option.bind_eq_bind, Option.bind_some, mandatory_str, nullable_digest, mandatory_elements,
    persistedPath_trees, first, second, third, tool]
  rfl

end CarsinOS.Manifest
