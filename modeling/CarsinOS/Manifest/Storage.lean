import CarsinOS.Canonical.Stored
import CarsinOS.Manifest.Request

/-! What the storage canonicaliser does with the bytes of a compiled manifest. -/
namespace CarsinOS.Manifest
open CarsinOS.Lib CarsinOS.Canonical CarsinOS.Actor

section Stored
variable {N : Normalization} {n : Nat}

theorem stored_str {s : Text} : Stored N (n + 1) (.str s) ↔ N.nfc s = s := by
  simp [stored_iff, Kept, Json.children]

theorem stored_ascii {s : Text} (plain : Ascii s) : Stored N (n + 1) (.str s) :=
  stored_str.mpr (N.ascii s plain)

theorem stored_integer (i : I64) : Stored N (n + 1) (.num i.toText) := by
  simp [stored_iff, Kept, Json.children]

theorem stored_null : Stored N (n + 1) .null := by
  simp [stored_iff, Kept, Json.children]

theorem stored_array {ts : List Json} :
    Stored N (n + 1) (.arr ts) ↔ ts.length ≤ 1024 ∧ ∀ t ∈ ts, Stored N n t := by
  simp [stored_iff, Kept, Json.children]

/-- Names an object of the encoders has: few, ASCII and in order. -/
def Names (names : List Text) : Prop :=
  names.length ≤ 256 ∧ (∀ name ∈ names, Ascii name) ∧ names.IsChain (· < ·)

instance (names : List Text) : Decidable (Names names) :=
  inferInstanceAs (Decidable (_ ∧ _ ∧ _))

theorem stored_object {fields : List (Text × Json)} (named : Names (Entries.keys fields)) :
    Stored N (n + 1) (.obj fields) ↔ ∀ f ∈ fields, Stored N n f.2 := by
  obtain ⟨few, plain, increasing⟩ := named
  have fixed : ∀ f ∈ fields, N.nfc f.1 = f.1 := fun f member =>
    N.ascii f.1 (plain f.1 (List.mem_map_of_mem member))
  have short : fields.length ≤ 256 := by simpa [Entries.keys] using few
  have sorted : Entries.Sorted fields := List.isChain_iff_pairwise.mp increasing
  rw [stored_iff]
  simp only [Kept, short, true_and, Json.children, List.forall_mem_map]
  exact ⟨fun stored => stored.2, fun inside => ⟨⟨fixed, sorted⟩, inside⟩⟩

theorem stored_optional {value : Option Text} :
    Stored N (n + 1) (Json.optional value) ↔ ∀ s ∈ value, N.nfc s = s := by
  cases value with
  | none => simp [Json.optional, stored_null]
  | some value => simp [Json.optional, stored_str]

theorem stored_digest (digest : Sha256Digest) : Stored N (n + 1) (.str digest.val) := by
  apply stored_ascii
  intro c member
  have range := hexdigit_range (List.all_eq_true.mp digest.property.2.1 c member)
  omega

theorem stored_optionalDigest (digest : Option Sha256Digest) :
    Stored N (n + 1) (optionalDigestTree digest) := by
  cases digest with
  | none => exact stored_null
  | some digest => exact stored_digest digest

theorem stored_optionalInteger (value : Option I64) :
    Stored N (n + 1) (optionalIntegerTree value) := by
  cases value with
  | none => exact stored_null
  | some value => exact stored_integer value

end Stored

section Trees
variable {C : Crates} {n : Nat}

theorem Normal.stored {id : Text} (normal : Normal C id) :
    Stored C.normalization (n + 1) (.str id) :=
  stored_str.mpr normal.nfc

theorem Normal.stored_optional {id : Option Text} (normal : ∀ i ∈ id, Normal C i) :
    Stored C.normalization (n + 1) (Json.optional id) :=
  Manifest.stored_optional.mpr fun i member => (normal i member).nfc

/-- The only text of a step that is not normalized is the command of a shell. -/
def CommandFixed (N : Normalization) : IndirectionDescriptor → Prop
  | .shell _ _ command => N.nfc command = command
  | _ => True

/-- The parts of a descriptor that is its own normal form. -/
def NormalDescriptor (C : Crates) : IndirectionDescriptor → Prop
  | .aliased name => Normal C name
  | .plugin pluginId version => Normal C pluginId ∧ Normal C version
  | .shell shellId shellVersion _ => Normal C shellId ∧ Normal C shellVersion
  | .child childIdentity version => Normal C childIdentity ∧ Normal C version

theorem normalDescriptor {descriptor : IndirectionDescriptor}
    (normal : normalizedDescriptor C descriptor = .ok descriptor) :
    NormalDescriptor C descriptor := by
  cases descriptor with
  | aliased name => simpa [normalizedDescriptor, bind_ok, NormalDescriptor, Normal] using normal
  | plugin pluginId version =>
    simp only [normalizedDescriptor, bind_ok] at normal
    obtain ⟨_, first, _, second, made⟩ := normal
    cases made
    exact ⟨first, second⟩
  | shell shellId shellVersion command =>
    rw [normalizedDescriptor] at normal
    split at normal
    · cases normal
    split at normal
    · cases normal
    simp only [bind_ok] at normal
    obtain ⟨_, first, _, second, made⟩ := normal
    cases made
    exact ⟨first, second⟩
  | child childIdentity version =>
    simp only [normalizedDescriptor, bind_ok] at normal
    obtain ⟨_, first, _, second, made⟩ := normal
    cases made
    exact ⟨first, second⟩

theorem stored_descriptor {descriptor : IndirectionDescriptor}
    (normal : NormalDescriptor C descriptor) :
    Stored C.normalization (n + 2) (descriptorTree descriptor) ↔
      CommandFixed C.normalization descriptor := by
  unfold descriptorTree
  cases descriptor with
  | aliased name =>
    have kind : Stored C.normalization (n + 1) (.str "alias".toList) := stored_ascii (by decide)
    rw [stored_object (by simp only [Entries.keys_cons, Entries.keys_nil]; decide)]
    simp [-String.reduceToList, CommandFixed, kind, normal.stored]
  | plugin pluginId version =>
    have kind : Stored C.normalization (n + 1) (.str "plugin".toList) := stored_ascii (by decide)
    rw [stored_object (by simp only [Entries.keys_cons, Entries.keys_nil]; decide)]
    simp [-String.reduceToList, CommandFixed, kind, normal.1.stored, normal.2.stored]
  | shell shellId shellVersion command =>
    have kind : Stored C.normalization (n + 1) (.str "shell".toList) := stored_ascii (by decide)
    rw [stored_object (by simp only [Entries.keys_cons, Entries.keys_nil]; decide)]
    simp [-String.reduceToList, CommandFixed, kind, normal.1.stored, normal.2.stored, stored_str]
  | child childIdentity version =>
    have kind : Stored C.normalization (n + 1) (.str "child".toList) := stored_ascii (by decide)
    rw [stored_object (by simp only [Entries.keys_cons, Entries.keys_nil]; decide)]
    simp [-String.reduceToList, CommandFixed, kind, normal.1.stored, normal.2.stored]

theorem stored_step {step : CanonicalResolutionStep} (normal : NormalStep C step) :
    Stored C.normalization (n + 3) (stepTree step) ↔
      CommandFixed C.normalization step.descriptor := by
  unfold stepTree
  rw [stored_object (by simp only [Entries.keys_cons, Entries.keys_nil]; decide)]
  simp [stored_descriptor (normalDescriptor normal.descriptor), stored_digest,
    normal.resolverId.stored, normal.resolverVersion.stored, normal.targetNodeId.stored]

theorem stored_evidence {evidence : CanonicalOwnerEvidence} (normal : NormalEvidence C evidence) :
    Stored C.normalization (n + 2) (evidenceTree evidence) := by
  unfold evidenceTree
  cases evidence with
  | localInteractive =>
    obtain ⟨client, ingress, channel, request, message⟩ := normal
    have kind : Stored C.normalization (n + 1) (.str "local_interactive".toList) :=
      stored_ascii (by decide)
    rw [stored_object (by simp only [Entries.keys_cons, Entries.keys_nil]; decide)]
    simp [-String.reduceToList, kind, client.stored, ingress.stored, channel.stored, request.stored,
      Normal.stored_optional message]
  | remoteAuthenticated =>
    obtain ⟨adapter, account, ingress, channel, message, request⟩ := normal
    have kind : Stored C.normalization (n + 1) (.str "remote_authenticated".toList) :=
      stored_ascii (by decide)
    rw [stored_object (by simp only [Entries.keys_cons, Entries.keys_nil]; decide)]
    simp [-String.reduceToList, kind, adapter.stored, account.stored, ingress.stored, channel.stored, request.stored,
      message.stored]

set_option maxRecDepth 4000 in
theorem stored_authority {authority : CanonicalOwnerAuthority} {scope : Json}
    (normal : NormalAuthority C authority) :
    Stored C.normalization (n + 3) (authorityTree scope authority) ↔
      Stored C.normalization (n + 2) scope := by
  unfold authorityTree
  rw [stored_object (by simp only [Entries.keys_cons, Entries.keys_nil]; decide)]
  simp only [List.forall_mem_cons, normal.authorityKind.stored, normal.provenance.stored,
    stored_optionalDigest, Normal.stored_optional normal.decision, stored_optionalInteger,
    stored_integer, stored_digest, normal.instructionRevision.stored,
    normal.ownerEnvelopeRevision.stored, stored_evidence normal.evidence, true_and]
  simp

theorem stored_leaf {leaf : CanonicalLeafAction} {operands targets scope : Json}
    (normal : NormalLeaf C leaf) :
    Stored C.normalization (n + 5) (leafTree operands targets scope leaf) ↔
      Stored C.normalization (n + 4) operands ∧ Stored C.normalization (n + 4) targets ∧
        Stored C.normalization (n + 3) scope ∧
        ∀ step ∈ leaf.resolutionPath, CommandFixed C.normalization step.descriptor := by
  have path : Stored C.normalization (n + 4) (.arr (leaf.resolutionPath.map stepTree)) ↔
      ∀ step ∈ leaf.resolutionPath, CommandFixed C.normalization step.descriptor := by
    have short : leaf.resolutionPath.length ≤ 1024 := normal.path.trans (by decide)
    simp only [stored_array, List.length_map, short, true_and, List.forall_mem_map]
    exact forall₂_congr fun step member => stored_step (normal.steps step member)
  have schema : Stored C.normalization (n + 4) (.str "carsinos.execass.leaf_action.v2".toList) :=
    stored_ascii (by decide)
  have tool : Stored C.normalization (n + 4) (.obj [("tool_id".toList, .str leaf.tool.toolId),
      ("version".toList, .str leaf.tool.version)]) := by
    rw [stored_object (by simp only [Entries.keys_cons, Entries.keys_nil]; decide)]
    simp [normal.toolId.stored, normal.version.stored]
  unfold leafTree
  rw [stored_object (by simp only [Entries.keys_cons, Entries.keys_nil]; decide)]
  simp only [List.forall_mem_cons, normal.actionKind.stored, normal.logicalActionId.stored,
    stored_optionalDigest, normal.nodeId.stored, stored_authority normal.authority, path, schema,
    tool, true_and]
  simp only [List.not_mem_nil, false_implies, implies_true, and_true]
  tauto

theorem stored_targets {ts : List Json} :
    Stored C.normalization (n + 2) (targetsTree ts) ↔
      ts.length ≤ 1024 ∧ ∀ t ∈ ts, Stored C.normalization n t := by
  unfold targetsTree
  rw [stored_object (by simp only [Entries.keys_cons, Entries.keys_nil]; decide)]
  simp [stored_array]

theorem stored_manifest {leaves : List Json} (few : leaves.length ≤ 1024) :
    Stored C.normalization (n + 3) (manifestTree leaves) ↔
      ∀ leaf ∈ leaves, Stored C.normalization (n + 1) leaf := by
  have schema : Stored C.normalization (n + 2)
      (.str "carsinos.execass.leaf_action_manifest.v2".toList) := stored_ascii (by decide)
  unfold manifestTree
  rw [stored_object (by simp only [Entries.keys_cons, Entries.keys_nil]; decide)]
  simp [-String.reduceToList, stored_array, schema, few]

/-- A leaf all parts of which are stored at the depth they have in a manifest. -/
structure Storable (N : Normalization) (leaf : CanonicalLeafAction) : Prop where
  operands : ∃ t, Stored N 29 t ∧ leaf.operands.bytes = t.print
  targets : ∃ ts : List Json, (ts.length ≤ 1024 ∧ ∀ t ∈ ts, Stored N 27 t) ∧
    leaf.targetSnapshot.bytes = (targetsTree ts).print
  scope : ∃ t, Stored N 28 t ∧ leaf.ownerAuthority.normalizedScope.bytes = t.print
  commands : ∀ step ∈ leaf.resolutionPath, CommandFixed N step.descriptor

/-- A text that is printed has only one well-spelled tree. -/
theorem stored_of_print {t : Json} {bytes : Text} (spelled : t.Everywhere Spelled)
    (printed : bytes = t.print) :
    (∃ u, Stored C.normalization n u ∧ bytes = u.print) ↔ Stored C.normalization n t := by
  constructor
  · rintro ⟨u, stored, same⟩
    rwa [Json.print_injective spelled (stored_spelled stored.2) (printed.symm.trans same)]
  · exact fun stored => ⟨t, stored, printed⟩

theorem stored_of_targets_print {ts : List Json} {bytes : Text}
    (spelled : ∀ t ∈ ts, t.Everywhere Spelled) (printed : bytes = (targetsTree ts).print) :
    (∃ us : List Json, (us.length ≤ 1024 ∧ ∀ u ∈ us, Stored C.normalization n u) ∧
      bytes = (targetsTree us).print) ↔ ts.length ≤ 1024 ∧ ∀ t ∈ ts, Stored C.normalization n t := by
  constructor
  · rintro ⟨us, stored, same⟩
    have others : (targetsTree us).Everywhere Spelled :=
      targets_spelled fun u member => stored_spelled (stored.2 u member).2
    have trees := Json.print_injective (targets_spelled spelled) others (printed.symm.trans same)
    simp only [targetsTree, Json.obj.injEq, List.cons.injEq, Prod.mk.injEq, Json.arr.injEq, true_and,
      and_true] at trees
    rwa [trees]
  · exact fun stored => ⟨ts, stored, printed⟩

/-- The tree of a leaf, and when it is stored at the depth of a leaf. -/
theorem NormalLeaf.tree {leaf : CanonicalLeafAction} (normal : NormalLeaf C leaf) :
    ∃ t : Json, t.Everywhere Spelled ∧ leaf.canonical.bytes = t.print ∧
      (Stored C.normalization 30 t ↔ Storable C.normalization leaf) := by
  obtain ⟨operands, sized, operandsKnown⟩ := normal.operands
  obtain ⟨targets, sizedTargets, targetsKnown⟩ := normal.targets
  obtain ⟨scope, scopeSpelled, scopeKnown⟩ := normal.authority.scopeText
  have operandsText : leaf.operands.bytes = operands.print := by rw [operandsKnown]; rfl
  have targetsText : leaf.targetSnapshot.bytes = (targetsTree targets).print := by
    rw [targetsKnown]
    rfl
  have operandsSpelled := written_spelled sized.1.2
  have targetSpelled : ∀ t ∈ targets, t.Everywhere Spelled := fun t member =>
    written_spelled (sizedTargets.sized t member).1.2
  refine ⟨leafTree operands (targetsTree targets) scope leaf,
    leaf_spelled operandsSpelled (targets_spelled targetSpelled) scopeSpelled leaf, ?_, ?_⟩
  · rw [normal.canonical]
    exact leaf_print leaf operandsText targetsText scopeKnown
  · rw [stored_leaf normal, stored_targets, ← stored_of_print operandsSpelled operandsText,
      ← stored_of_targets_print targetSpelled targetsText,
      ← stored_of_print scopeSpelled scopeKnown]
    exact ⟨fun ⟨a, b, c, d⟩ => ⟨a, b, c, d⟩, fun ⟨a, b, c, d⟩ => ⟨a, b, c, d⟩⟩

theorem canonicalJson_manifest {m : CanonicalLeafManifest} (normal : NormalManifest C m) :
    Canonical.canonicalJson C.normalization m.canonical.bytes = .ok m.canonical.bytes ↔
      ∀ leaf ∈ m.leaves, Storable C.normalization leaf := by
  obtain ⟨bytes, made, canonical⟩ := normal.canonical
  choose! tree spelled printed stored using fun leaf member => (normal.leaves leaf member).tree
  have text : bytes = (manifestTree (m.leaves.map tree)).print := by
    refine manifest_print ?_ made
    rw [List.map_map]
    exact List.map_congr_left printed
  have few : (m.leaves.map tree).length ≤ 1024 := by
    rw [List.length_map]
    exact normal.count.trans (by decide)
  have wellSpelled : (manifestTree (m.leaves.map tree)).Everywhere Spelled :=
    manifest_spelled (List.forall_mem_map.mpr spelled)
  have whole : m.canonical.bytes = bytes := by rw [canonical]; rfl
  rw [whole, text, canonicalJson_print wellSpelled, stored_manifest few, List.forall_mem_map]
  exact forall₂_congr stored

end Trees

/-! The manifest of a saved routine. -/
section Routine
variable (C : Crates)

/-- The checks `validate_create` makes of a manifest digest. -/
def validateManifestDigest (resolvedLeafManifestJson manifestDigest : Text) : Anyhow Unit :=
  if !isLowerHexDigest manifestDigest then
    bail "routine manifest digest must be lowercase SHA-256 hex"
  else if (C.sha256 (utf8Bytes resolvedLeafManifestJson)).val ≠ manifestDigest then
    bail "routine manifest digest does not match canonical manifest bytes"
  else .ok ()

/-- The comparison `validate_source_anchor` makes with the manifest of the admitted plan. -/
def validateSourceManifest (planManifestJson planManifestDigest resolvedLeafManifestJson
    manifestDigest : Text) : Anyhow Unit := do
  let planManifestJson ← Canonical.canonicalJson C.normalization planManifestJson
  if planManifestJson ≠ resolvedLeafManifestJson ∨ planManifestDigest ≠ manifestDigest then
    bail "routine manifest does not match the source delegation current plan"
  else .ok ()

/-- What `create_routine` makes of the manifest of a command, whose source plan has the same. -/
def saveRoutineManifest (manifestJson manifestDigest : Text) : Anyhow Text := do
  let resolvedLeafManifestJson ← Canonical.canonicalJson C.normalization manifestJson
  validateManifestDigest C resolvedLeafManifestJson manifestDigest
  validateSourceManifest C manifestJson manifestDigest resolvedLeafManifestJson manifestDigest
  .ok resolvedLeafManifestJson

end Routine

section Agreement
variable {C : Crates} {S : SerdeJson}

theorem lowerHexdigit : ∀ n ≤ 102, isAsciiHexdigit (Char.ofNat n) = true →
    (Char.ofNat n).toLower = Char.ofNat n →
    ((Char.ofNat n).isDigit || ('a' ≤ Char.ofNat n && Char.ofNat n ≤ 'f')) = true := by decide

theorem digest_lowerHex (digest : Sha256Digest) : isLowerHexDigest digest.val = true := by
  obtain ⟨length, hex, lower⟩ := digest.property
  simp only [isLowerHexDigest, length, decide_true, Bool.true_and, List.all_eq_true]
  intro c member
  have same : c.toLower = c := List.map_inj_left.mp (lower.trans (List.map_id _).symm) c member
  have digit := List.all_eq_true.mp hex c member
  rw [← Char.ofNat_toNat c] at same digit ⊢
  exact lowerHexdigit c.toNat (hexdigit_range (by simpa using digit)).2 digit same

theorem saveRoutineManifest_ok {m : CanonicalLeafManifest} (normal : NormalManifest C m)
    (kept : Canonical.canonicalJson C.normalization m.canonical.bytes = .ok m.canonical.bytes) :
    saveRoutineManifest C m.canonical.bytes m.canonical.digest.val = .ok m.canonical.bytes := by
  obtain ⟨bytes, -, canonical⟩ := normal.canonical
  have digest : m.canonical.digest = C.sha256 (utf8Bytes m.canonical.bytes) := by
    rw [canonical]
    rfl
  simp [saveRoutineManifest, kept, validateManifestDigest, validateSourceManifest, digest,
    digest_lowerHex]

theorem canonicalJson_bytes {N : Normalization} {bytes : Text} :
    Canonical.canonicalJson N bytes = .ok bytes ↔ ∃ v, parseStrictJson N bytes = .ok v ∧
      v.toBytes = (String.ofList bytes).toByteArray := by
  simp only [Canonical.canonicalJson, bind_ok, Except.ok.injEq, Canonical.CanonicalValue.toBytes,
    String.toByteArray_inj, String.ofList_inj]

/-- The storage canonicaliser is the identity on a compiled manifest exactly when every leaf is
storable, and then the manifest can be saved as a routine under its own digest. -/
theorem manifest_kept_iff_storable {entries : List ServerResolutionEntryInput} {tree : DispatchTree}
    {registry : ServerResolutionRegistry} {m : CanonicalLeafManifest}
    (registered : ServerResolutionRegistry.tryNew C entries = .ok registry)
    (minted : ∀ node ∈ tree.nodes, ∀ leaf, node.action = .resolvedLeaf leaf →
      Minted C S leaf.ownerAuthority)
    (ready : compileDispatch C tree registry = .ready m) :
    ((∃ v, parseStrictJson C.normalization m.canonical.bytes = .ok v ∧
        v.toBytes = (String.ofList m.canonical.bytes).toByteArray) ↔
      ∀ leaf ∈ m.leaves, Storable C.normalization leaf) ∧
    ((∀ leaf ∈ m.leaves, Storable C.normalization leaf) →
      saveRoutineManifest C m.canonical.bytes m.canonical.digest.val = .ok m.canonical.bytes) := by
  have normal := compileDispatch_normal (tryNew_normal registered)
    (fun node member leaf action => minted_scope (minted node member leaf action)) ready
  constructor
  · rw [← canonicalJson_bytes, canonicalJson_manifest normal]
  · intro storable
    exact saveRoutineManifest_ok normal ((canonicalJson_manifest normal).mpr storable)

end Agreement

/-! One leaf under an original request, with operands that are nested arrays. -/

def nestedArrays : Nat → CanonicalValue
  | 0 => .null
  | n + 1 => .array [nestedArrays n]

theorem nestedArrays_tree (n : Nat) :
    (valueTree (nestedArrays n)).depth = n + 1 ∧
      (valueTree (nestedArrays n)).Everywhere Writable ∧
      utf8Length (valueTree (nestedArrays n)).print = 2 * n + 4 := by
  induction n with
  | zero => exact ⟨rfl, trivial, rfl⟩
  | succ n ih =>
    obtain ⟨depth, writable, length⟩ := ih
    rw [nestedArrays, valueTree, itemTrees_map]
    refine ⟨by simp [Json.depth, Json.depthItems, depth], ⟨?_, writable, trivial⟩, ?_⟩
    · simp [Writable, MAX_CANONICAL_ARRAY_ITEMS]
    · simp only [utf8Length] at length
      have brackets : '['.utf8Size = 1 ∧ ']'.utf8Size = 1 := by decide
      simp [Json.print, Json.printItems, utf8Length, length, brackets]
      omega

theorem nestedArrays_sized {n : Nat} (shallow : n ≤ 32) : Sized (valueTree (nestedArrays n)) := by
  obtain ⟨depth, writable, length⟩ := nestedArrays_tree n
  refine ⟨⟨?_, writable⟩, ?_⟩
  · rw [depth]
    exact Nat.succ_le_succ shallow
  · rw [length, MAX_CANONICAL_VALUE_BYTES]
    omega

theorem requestedTree_minted {operands : CanonicalValue} :
    ∀ node ∈ (requestedTree operands (Json.obj []).print).nodes, ∀ leaf,
      node.action = .resolvedLeaf leaf → Minted asciiCrates printedJson leaf.ownerAuthority := by
  intro node member leaf action
  cases List.mem_singleton.mp member
  cases action
  exact scopedRequest_minted (by simp [Json.Everywhere, Json.EveryField, Spelled])

theorem requestedTree_ready {operands : CanonicalValue} (sized : Sized (valueTree operands)) :
    ∃ m leaf, compileDispatch asciiCrates (requestedTree operands (Json.obj []).print) ⟨[]⟩ =
        .ready m ∧ m.leaves = [leaf] ∧ leaf.operands.bytes = (valueTree operands).print ∧
      leaf.targetSnapshot.bytes = (targetsTree [.str ['x']]).print ∧
      leaf.ownerAuthority.normalizedScope.bytes = (Json.obj []).print ∧
      leaf.resolutionPath = [] := by
  obtain ⟨leaf, made, parts⟩ := requestedLeaf_ok sized (by decide : utf8Length (Json.obj []).print ≤ _)
  obtain ⟨m, ready, leaves⟩ := @compileDispatch_single asciiCrates _ _ _ ⟨[]⟩
    (show Normal asciiCrates ['l'] from rfl) made
  exact ⟨m, leaf, ready, leaves, parts⟩

theorem manifest_kept_iff_storable_null :
    ∃ m, compileDispatch asciiCrates (requestedTree .null (Json.obj []).print) ⟨[]⟩ = .ready m ∧
      ∃ v, parseStrictJson asciiNormalization m.canonical.bytes = .ok v ∧
        v.toBytes = (String.ofList m.canonical.bytes).toByteArray := by
  have sized : Sized (valueTree .null) := nestedArrays_sized (Nat.zero_le 32)
  obtain ⟨m, leaf, ready, leaves, operands, targets, scope, path⟩ := requestedTree_ready sized
  refine ⟨m, ready, (@manifest_kept_iff_storable _ _ [] _ _ _ rfl requestedTree_minted ready).1.mpr ?_⟩
  rw [leaves, List.forall_mem_singleton]
  exact {
    operands := ⟨.null, stored_null, operands⟩
    targets := ⟨_, ⟨by decide, by simp [stored_ascii (by decide : Ascii ['x'])]⟩, targets⟩
    scope := ⟨.obj [], by simp [stored_iff, Kept, Json.children, Entries.Sorted], scope⟩
    commands := by simp [path] }

theorem deep_operands_not_kept :
    (∀ node ∈ (requestedTree (nestedArrays 30) (Json.obj []).print).nodes, ∀ leaf,
      node.action = .resolvedLeaf leaf → Minted asciiCrates printedJson leaf.ownerAuthority) ∧
    ∃ m, compileDispatch asciiCrates (requestedTree (nestedArrays 30) (Json.obj []).print) ⟨[]⟩ =
        .ready m ∧
      ¬ ∃ v, parseStrictJson asciiNormalization m.canonical.bytes = .ok v ∧
        v.toBytes = (String.ofList m.canonical.bytes).toByteArray := by
  obtain ⟨m, leaf, ready, leaves, operands, -⟩ :=
    requestedTree_ready (nestedArrays_sized (by decide : 30 ≤ 32))
  have scopes : ∀ node ∈ (requestedTree (nestedArrays 30) (Json.obj []).print).nodes, ∀ leaf,
      node.action = .resolvedLeaf leaf → ScopeText leaf.ownerAuthority :=
    fun node member leaf action => minted_scope (requestedTree_minted node member leaf action)
  have registered : NormalRegistry asciiCrates ⟨[]⟩ := fun _ none => absurd none List.not_mem_nil
  have normal := compileDispatch_normal registered scopes ready
  refine ⟨requestedTree_minted, m, ready, ?_⟩
  rw [← canonicalJson_bytes]
  intro kept
  have storable := (canonicalJson_manifest normal).mp kept leaf (by rw [leaves]; simp)
  obtain ⟨depth, writable, -⟩ := nestedArrays_tree 30
  have shallow := (stored_of_print (written_spelled writable) operands).mp storable.operands
  have deep := shallow.1
  rw [depth] at deep
  omega

end CarsinOS.Manifest
