import CarsinOS.Actor.Mint
import CarsinOS.Manifest.Expansion
import CarsinOS.Manifest.Tree

/-! What the leaves of a compiled manifest satisfy: every part of them is in normal form, so
that it is accepted again as it is. -/
namespace CarsinOS.Manifest
open CarsinOS.Lib CarsinOS.Actor

section Normal
variable (C : Crates)

def Normal (id : Text) : Prop := normalizedIdentifier C id = .ok id

structure NormalStep (step : CanonicalResolutionStep) : Prop where
  descriptor : normalizedDescriptor C step.descriptor = .ok step.descriptor
  targetNodeId : Normal C step.targetNodeId
  resolverId : Normal C step.resolverId
  resolverVersion : Normal C step.resolverVersion

def NormalEvidence : CanonicalOwnerEvidence → Prop
  | .localInteractive authenticatedClientId authenticatedIngress channelAssurance
      requestCorrelationId sourceMessageId =>
    Normal C authenticatedClientId ∧ Normal C authenticatedIngress ∧
      Normal C channelAssurance ∧ Normal C requestCorrelationId ∧ ∀ id ∈ sourceMessageId, Normal C id
  | .remoteAuthenticated adapterId providerAccountId authenticatedIngress channelAssurance
      sourceMessageId requestCorrelationId =>
    Normal C adapterId ∧ Normal C providerAccountId ∧ Normal C authenticatedIngress ∧
      Normal C channelAssurance ∧ Normal C sourceMessageId ∧ Normal C requestCorrelationId

/-- The scope is some JSON text of bounded length; the encoder does not look into it. -/
structure NormalAuthority (authority : CanonicalOwnerAuthority) : Prop where
  evidence : NormalEvidence C authority.ownerEvidence
  provenance : Normal C authority.authorityProvenanceId
  instructionRevision : Normal C authority.instructionRevision
  ownerEnvelopeRevision : Normal C authority.ownerEnvelopeRevision
  authorityKind : Normal C authority.authorityKind
  decision : ∀ id ∈ authority.boundDecisionId, Normal C id
  scope : authority.normalizedScope = freeze C authority.normalizedScope.bytes
  scopeShort : utf8Length authority.normalizedScope.bytes ≤ MAX_CANONICAL_VALUE_BYTES
  scopeText : ∃ t : Json, t.Everywhere Spelled ∧ authority.normalizedScope.bytes = t.print

structure NormalLeaf (leaf : CanonicalLeafAction) : Prop where
  nodeId : Normal C leaf.nodeId
  logicalActionId : Normal C leaf.logicalActionId
  actionKind : Normal C leaf.actionKind
  toolId : Normal C leaf.tool.toolId
  version : Normal C leaf.tool.version
  operands : ∃ t, Sized t ∧ leaf.operands = freeze C t.print
  targets : ∃ ts, SizedTargets ts ∧ leaf.targetSnapshot = freeze C (targetsTree ts).print
  path : leaf.resolutionPath.length ≤ ABSOLUTE_MAX_DEPTH
  steps : ∀ step ∈ leaf.resolutionPath, NormalStep C step
  authority : NormalAuthority C leaf.ownerAuthority
  canonical : leaf.canonical = freeze C (canonicalLeafBytes C leaf.inputs)

structure NormalManifest (m : CanonicalLeafManifest) : Prop where
  leaves : ∀ leaf ∈ m.leaves, NormalLeaf C leaf
  count : m.leaves.length ≤ ABSOLUTE_MAX_LEAVES
  distinct : (m.leaves.map (·.logicalActionId)).Nodup
  canonical : ∃ bytes, canonicalManifestBytes m.leaves = .ok bytes ∧ m.canonical = freeze C bytes

end Normal

section Compiled
variable {C : Crates}

theorem Normal.nfc {id : Text} (normal : Normal C id) : C.normalization.nfc id = id := by
  unfold Normal normalizedIdentifier at normal
  simp only at normal
  split at normal
  · contradiction
  · split at normal
    · contradiction
    · have same := Except.ok.inj normal
      rw [← same, C.normalization.idempotent]

theorem normal_of_normalized {value id : Text} (made : normalizedIdentifier C value = .ok id) :
    Normal C id := normalizedIdentifier_again made

theorem normal_of_transposed {value id : Option Text}
    (made : transposed (normalizedIdentifier C) value = .ok id) : ∀ i ∈ id, Normal C i := by
  cases value with
  | none =>
    cases made
    simp
  | some value =>
    obtain ⟨i, known, made⟩ := bind_ok.mp made
    cases made
    simpa using normal_of_normalized known

/-- A descriptor that was normalized is its own normal form. -/
theorem normalizedDescriptor_again {descriptor normal : IndirectionDescriptor}
    (made : normalizedDescriptor C descriptor = .ok normal) :
    normalizedDescriptor C normal = .ok normal := by
  cases descriptor with
  | aliased name =>
    obtain ⟨n, known, made⟩ := bind_ok.mp made
    cases made
    simp [normalizedDescriptor, normalizedIdentifier_again known]
  | plugin pluginId version =>
    simp only [normalizedDescriptor, bind_ok] at made
    obtain ⟨p, first, v, second, made⟩ := made
    cases made
    simp [normalizedDescriptor, normalizedIdentifier_again first,
      normalizedIdentifier_again second]
  | shell shellId shellVersion command =>
    rw [normalizedDescriptor] at made
    split at made
    · contradiction
    split at made
    · contradiction
    rename_i present short
    simp only [bind_ok] at made
    obtain ⟨s, first, v, second, made⟩ := made
    cases made
    simp [normalizedDescriptor, present, short, normalizedIdentifier_again first,
      normalizedIdentifier_again second]
  | child childIdentity version =>
    simp only [normalizedDescriptor, bind_ok] at made
    obtain ⟨c, first, v, second, made⟩ := made
    cases made
    simp [normalizedDescriptor, normalizedIdentifier_again first,
      normalizedIdentifier_again second]

theorem normalEvidence {evidence : VerifiedHumanEvidence} {canonical : CanonicalOwnerEvidence}
    (made : canonicalizeOwnerEvidence C evidence = .ok canonical) : NormalEvidence C canonical := by
  cases evidence with
  | «local» =>
    simp only [canonicalizeOwnerEvidence, bind_ok] at made
    obtain ⟨_, h₁, _, h₂, _, h₃, _, h₄, _, h₅, made⟩ := made
    cases made
    exact ⟨normal_of_normalized h₁, normal_of_normalized h₂, normal_of_normalized h₃,
      normal_of_normalized h₄, normal_of_transposed h₅⟩
  | remote =>
    simp only [canonicalizeOwnerEvidence, bind_ok] at made
    obtain ⟨_, h₁, _, h₂, _, h₃, _, h₄, _, h₅, _, h₆, made⟩ := made
    cases made
    exact ⟨normal_of_normalized h₁, normal_of_normalized h₂, normal_of_normalized h₃,
      normal_of_normalized h₄, normal_of_normalized h₅, normal_of_normalized h₆⟩

theorem normalAuthority {input : VerifiedOwnerAuthority} {authority : CanonicalOwnerAuthority}
    (scope : ScopeText input) (made : canonicalizeOwnerAuthority C input = .ok authority) :
    NormalAuthority C authority := by
  unfold canonicalizeOwnerAuthority at made
  split at made
  · contradiction
  rename_i short
  simp only [bind_ok] at made
  obtain ⟨_, evidence, _, provenance, _, _, _, instruction, _, _, _, envelope, _, _, _, kind, _,
    decision, _, _, _, _, _, _, made⟩ := made
  cases made
  exact {
    evidence := normalEvidence evidence
    provenance := normal_of_normalized provenance
    instructionRevision := normal_of_normalized instruction
    ownerEnvelopeRevision := normal_of_normalized envelope
    authorityKind := normal_of_normalized kind
    decision := normal_of_transposed decision
    scope := rfl
    scopeShort := by simpa [freeze] using short
    scopeText := scope }

theorem normalLeaf {nodeId : Text} {input : ResolvedLeafInput}
    {path : List CanonicalResolutionStep} {leaf : CanonicalLeafAction} (node : Normal C nodeId)
    (scope : ScopeText input.ownerAuthority) (short : path.length ≤ ABSOLUTE_MAX_DEPTH)
    (steps : ∀ step ∈ path, NormalStep C step)
    (made : canonicalLeaf C nodeId input path = .ok leaf) : NormalLeaf C leaf := by
  simp only [canonicalLeaf, bind_ok] at made
  obtain ⟨_, logical, _, kind, _, tool, _, version, o, operands, t, targets, _, _, _, authority,
    made⟩ := made
  cases made
  exact {
    nodeId := node
    logicalActionId := normal_of_normalized logical
    actionKind := normal_of_normalized kind
    toolId := normal_of_normalized tool
    version := normal_of_normalized version
    operands := by
      obtain ⟨sized, rfl⟩ := canonicalValueBytes_ok.mp operands
      exact ⟨_, sized, rfl⟩
    targets := by
      obtain ⟨sized, rfl⟩ := canonicalTargetsBytes_ok.mp targets
      exact ⟨_, sized, rfl⟩
    path := short
    steps := steps
    authority := normalAuthority scope authority
    canonical := rfl }

/-! A registry only holds targets that were normalized when they were registered. -/

structure NormalTarget (C : Crates) (target : ResolutionTarget) : Prop where
  targetNodeId : Normal C target.targetNodeId
  resolverId : Normal C target.resolverId
  resolverVersion : Normal C target.resolverVersion

def NormalRegistry (C : Crates) (registry : ServerResolutionRegistry) : Prop :=
  ∀ entry ∈ registry.entries, ∀ target ∈ entry.2, NormalTarget C target

theorem push_targets {descriptor : IndirectionDescriptor} {target : ResolutionTarget}
    {entries : List (IndirectionDescriptor × List ResolutionTarget)}
    (normal : ∀ entry ∈ entries, ∀ t ∈ entry.2, NormalTarget C t) (new : NormalTarget C target) :
    ∀ entry ∈ ServerResolutionRegistry.push descriptor target entries, ∀ t ∈ entry.2,
      NormalTarget C t := by
  induction entries with
  | nil => simpa [ServerResolutionRegistry.push] using new
  | cons entry entries ih =>
    obtain ⟨here, rest⟩ := List.forall_mem_cons.mp normal
    unfold ServerResolutionRegistry.push
    split
    · refine List.forall_mem_cons.mpr ⟨List.forall_mem_append.mpr ⟨here, ?_⟩, rest⟩
      simpa using new
    · exact List.forall_mem_cons.mpr ⟨here, ih rest⟩

theorem addEntry_normal {registry next : ServerResolutionRegistry}
    {entry : ServerResolutionEntryInput} (normal : NormalRegistry C registry)
    (added : registry.addEntry C entry = .ok next) : NormalRegistry C next := by
  simp only [ServerResolutionRegistry.addEntry, bind_ok] at added
  obtain ⟨_, _, _, targetNode, _, resolver, _, version, _, _, added⟩ := added
  split at added
  · contradiction
  · cases added
    exact push_targets normal ⟨normal_of_normalized targetNode, normal_of_normalized resolver,
      normal_of_normalized version⟩

theorem addEntries_normal {inputs : List ServerResolutionEntryInput}
    {start registry : ServerResolutionRegistry} (normal : NormalRegistry C start)
    (made : inputs.foldlM (ServerResolutionRegistry.addEntry C) start = .ok registry) :
    NormalRegistry C registry := by
  induction inputs generalizing start with
  | nil =>
    cases made
    exact normal
  | cons input inputs ih =>
    rw [List.foldlM_cons] at made
    obtain ⟨next, added, rest⟩ := bind_ok.mp made
    exact ih (addEntry_normal normal added) rest

theorem tryNew_normal {inputs : List ServerResolutionEntryInput}
    {registry : ServerResolutionRegistry}
    (made : ServerResolutionRegistry.tryNew C inputs = .ok registry) :
    NormalRegistry C registry :=
  addEntries_normal (fun _ none => absurd none List.not_mem_nil) made

theorem get_mem {registry : ServerResolutionRegistry} {descriptor : IndirectionDescriptor}
    {targets : List ResolutionTarget} (registered : registry.get descriptor = some targets) :
    (descriptor, targets) ∈ registry.entries := by
  obtain ⟨before, after, split, -⟩ := List.lookup_eq_some_iff.mp registered
  rw [split]
  exact List.mem_append_right _ List.mem_cons_self

/-! A compiled manifest is normal. -/

theorem content_leaf {K : Compiler} {nodeId : Text} {leaf : CanonicalLeafAction}
    (known : K.content nodeId = some (.leaf leaf)) :
    ∃ input, K.lookup nodeId = some (.resolvedLeaf input) ∧
      canonicalLeaf K.crates nodeId input [] = .ok leaf := by
  unfold Compiler.content at known
  obtain ⟨action, found, stands⟩ := Option.bind_eq_some_iff.mp known
  cases action <;> simp [actionContent, toOption_some, reference_some] at stands
  exact ⟨_, found, stands⟩

theorem content_step {K : Compiler} {nodeId target : Text} {step : CanonicalResolutionStep}
    (registered : NormalRegistry K.crates K.resolutions)
    (link : K.content nodeId = some (.link step target)) : NormalStep K.crates step := by
  have normal : ∀ descriptor, reference K.crates K.resolutions descriptor =
      some (.link step target) → NormalStep K.crates step := by
    intro descriptor known
    obtain ⟨normal, found, _, made, unique, _, same⟩ := reference_some.mp known
    cases same
    have target := registered _ (get_mem unique) found List.mem_cons_self
    exact ⟨normalizedDescriptor_again made, target.targetNodeId, target.resolverId,
      target.resolverVersion⟩
  unfold Compiler.content at link
  obtain ⟨action, _, stands⟩ := Option.bind_eq_some_iff.mp link
  cases action with
  | resolvedLeaf leaf => simp [actionContent] at stands
  | composite children => simp [actionContent] at stands
  | aliased name => exact normal _ stands
  | plugin pluginId version => exact normal _ stands
  | shell shellId shellVersion command => exact normal _ stands
  | child childIdentity version => exact normal _ stands

/-- Only distinct nodes are indexed. -/
theorem indexNodes_distinct {nodes : List DispatchNode} {known lookup : List (Text × DispatchAction)}
    (indexed : indexNodes C known nodes = .ok lookup) :
    DistinctNodes C nodes ∧ ∀ node ∈ nodes, ∀ nodeId,
      normalizedIdentifier C node.nodeId = .ok nodeId → nodeId ∉ known.map Prod.fst := by
  induction nodes generalizing known with
  | nil => simp [DistinctNodes]
  | cons node nodes ih =>
    unfold indexNodes at indexed
    split at indexed
    · contradiction
    rename_i nodeId identity
    split at indexed
    · contradiction
    rename_i unknown
    obtain ⟨distinct, fresh⟩ := ih indexed
    constructor
    · refine ⟨List.forall_mem_cons.mpr ⟨⟨nodeId, identity⟩, distinct.1⟩, ?_⟩
      rw [List.map_cons, List.nodup_cons]
      refine ⟨?_, distinct.2⟩
      intro again
      obtain ⟨other, member, same⟩ := List.mem_map.mp again
      rw [identity] at same
      exact fresh other member nodeId (toOption_some.mp same) List.mem_cons_self
    · intro other member id same old
      rcases List.mem_cons.mp member with rfl | member
      · cases identity.symm.trans same
        exact unknown old
      · exact fresh other member id same (List.mem_cons_of_mem _ old)

theorem compileDispatch_distinct_of_ready {tree : DispatchTree}
    {registry : ServerResolutionRegistry} {m : CanonicalLeafManifest}
    (ready : compileDispatch C tree registry = .ready m) : DistinctNodes C tree.nodes := by
  unfold compileDispatch compileDispatchWithLimits at ready
  simp only at ready
  split at ready
  · contradiction
  split at ready
  · contradiction
  · rename_i indexed
    exact (indexNodes_distinct indexed).1

theorem compileDispatch_normal {tree : DispatchTree} {registry : ServerResolutionRegistry}
    {m : CanonicalLeafManifest} (registered : NormalRegistry C registry)
    (scopes : ∀ node ∈ tree.nodes, ∀ leaf, node.action = .resolvedLeaf leaf →
      ScopeText leaf.ownerAuthority)
    (ready : compileDispatch C tree registry = .ready m) : NormalManifest C m := by
  have distinct := compileDispatch_distinct_of_ready ready
  obtain ⟨rootId, e, bytes, admitted, made, rfl⟩ := (compileDispatch_ready distinct).mp ready
  refine ⟨?_, ?_, ?_, bytes, made, rfl⟩
  · intro leaf member
    obtain ⟨l, inside, rfl⟩ := List.mem_map.mp member
    obtain ⟨short, links, nodeId, known⟩ := unfolds_reached admitted.expands l inside
    obtain ⟨input, action, plain⟩ := @content_leaf (compilerOf C tree registry) _ _ known
    obtain ⟨node, present, identity, resolved⟩ := (actionOf_some distinct).mp action
    have steps : ∀ step ∈ l.1, NormalStep C step := by
      intro step crossed
      obtain ⟨_, _, link⟩ := links step crossed
      exact @content_step (compilerOf C tree registry) _ _ _ registered link
    exact normalLeaf (normal_of_normalized identity) (scopes node present input resolved)
      (short.trans admitted.depth) steps (canonicalLeaf_path.mpr ⟨l.2, plain, rfl⟩)
  · simpa [leavesOf] using admitted.leaves
  · simpa [leavesOf, Function.comp_def, CanonicalLeafAction.withPath] using admitted.distinct

end Compiled
end CarsinOS.Manifest
