import CarsinOS.Confirmation.Binding
import CarsinOS.Manifest.Restore

/-! A persisted manifest of a routine is rebound to one occurrence of the routine: only the
logical identities and the targets of its leaves are replaced. -/
namespace CarsinOS.Manifest
open CarsinOS.Lib CarsinOS.Actor

def MAX_JSON_ESCAPED_IDENTIFIER_BYTES : Nat := MAX_IDENTIFIER_BYTES * 6

def MAX_PERSISTED_LEAF_BYTES : Nat :=
  3 * MAX_CANONICAL_VALUE_BYTES +
    (16 + 6 * ABSOLUTE_MAX_DEPTH) * MAX_JSON_ESCAPED_IDENTIFIER_BYTES + 128 * 1024

def MAX_PERSISTED_MANIFEST_BYTES : Nat := 1024 + ABSOLUTE_MAX_LEAVES * MAX_PERSISTED_LEAF_BYTES

structure RoutineOccurrenceLeafBinding where
  persistedLogicalActionId : Text
  occurrenceLogicalActionId : Text
  targetSnapshot : TargetSnapshotInput

section Rebinding
variable (C : Crates) (S : SerdeJson)

def parsePersistedManifestWithLimit (persistedCanonicalJson : Text) (byteLimit : Nat) :
    Except String PersistedManifest :=
  if utf8Length persistedCanonicalJson > byteLimit then
    .error "persisted manifest exceeds byte limit"
  else match (S.read persistedCanonicalJson).bind persistedManifest with
    | some persisted => .ok persisted
    | none => .error "invalid persisted manifest JSON"

/-- The loop over the persisted leaves, with the identities it has met. -/
def restoreLeaves (persistedLogicalIds : List Text) :
    List PersistedLeaf → Except String (List CanonicalLeafAction)
  | [] => .ok []
  | leaf :: rest => do
    let leaf ← restorePersistedLeaf C leaf
    if leaf.logicalActionId ∈ persistedLogicalIds then
      .error "persisted manifest has duplicate logical action identity"
    else
      let leaves ← restoreLeaves (leaf.logicalActionId :: persistedLogicalIds) rest
      .ok (leaf :: leaves)

/-- The first part of `rebind_persisted_manifest_for_routine_occurrence`: the leaves of the
persisted manifest, which must be the exact canonical text of them. -/
def restorePersistedManifest (persistedCanonicalJson expectedManifestDigest : Text) :
    Except String (List CanonicalLeafAction) := do
  let expectedManifestDigest ← parseDigest expectedManifestDigest
  let persisted ←
    parsePersistedManifestWithLimit S persistedCanonicalJson MAX_PERSISTED_MANIFEST_BYTES
  if persisted.schema ≠ "carsinos.execass.leaf_action_manifest.v2".toList then
    .error "unsupported persisted manifest schema"
  else if persisted.leaves = [] ∨ persisted.leaves.length > ABSOLUTE_MAX_LEAVES then
    .error "persisted manifest leaf count is outside allowed bounds"
  else
    let leaves ← restoreLeaves C [] persisted.leaves
    let bytes ← canonicalManifestBytes leaves
    let canonical := freeze C bytes
    if canonical.bytes ≠ persistedCanonicalJson then
      .error "persisted manifest is not exact canonical JSON"
    else if canonical.digest ≠ expectedManifestDigest then
      .error "persisted manifest digest mismatch"
    else .ok leaves

/-- The bindings by the identity they name. The order of the map is never looked at. -/
def bindingsById (known : List (Text × RoutineOccurrenceLeafBinding)) :
    List RoutineOccurrenceLeafBinding → Except String (List (Text × RoutineOccurrenceLeafBinding))
  | [] => .ok known
  | binding :: rest => do
    let persistedId ← normalizedIdentifier C binding.persistedLogicalActionId
    if persistedId ≠ binding.persistedLogicalActionId then
      .error "persisted logical action identity is not canonical"
    else if persistedId ∈ Entries.keys known then
      .error "duplicate routine occurrence leaf binding"
    else bindingsById ((persistedId, binding) :: known) rest

/-- The leaf with another identity and other targets, and the text that follows from them. -/
def CanonicalLeafAction.rebind (leaf : CanonicalLeafAction) (occurrenceId targets : Text) :
    CanonicalLeafAction :=
  let leaf := { leaf with logicalActionId := occurrenceId, targetSnapshot := freeze C targets }
  { leaf with canonical := freeze C (canonicalLeafBytes C leaf.inputs) }

/-- The loop over the restored leaves, with the bindings that are left when it ends. -/
def rebindLeaves (bindings : List (Text × RoutineOccurrenceLeafBinding))
    (occurrenceIds : List Text) : List CanonicalLeafAction →
    Except String (List (Text × RoutineOccurrenceLeafBinding) × List CanonicalLeafAction)
  | [] => .ok (bindings, [])
  | leaf :: rest =>
    match bindings.lookup leaf.logicalActionId with
    | none => .error "routine occurrence binding does not match persisted leaf"
    | some binding => do
      let occurrenceId ← normalizedIdentifier C binding.occurrenceLogicalActionId
      if occurrenceId ≠ binding.occurrenceLogicalActionId then
        .error "occurrence logical action identity is not canonical"
      else if occurrenceId ∈ occurrenceIds then
        .error "duplicate occurrence logical action identity"
      else
        let targets ← canonicalTargetsBytes C binding.targetSnapshot
        let (left, leaves) ←
          rebindLeaves (bindings.filter fun entry => entry.1 ≠ leaf.logicalActionId)
            (occurrenceId :: occurrenceIds) rest
        .ok (left, leaf.rebind C occurrenceId targets :: leaves)

def rebindPersistedManifestForRoutineOccurrence (persistedCanonicalJson : Text)
    (expectedManifestDigest : Text) (bindings : List RoutineOccurrenceLeafBinding) :
    Except String CanonicalLeafManifest := do
  let leaves ← restorePersistedManifest C S persistedCanonicalJson expectedManifestDigest
  let byId ← bindingsById C [] bindings
  if byId.length ≠ leaves.length then
    .error "routine occurrence bindings must cover every persisted leaf"
  else
    let (left, leaves) ← rebindLeaves C byId [] leaves
    if left ≠ [] then .error "routine occurrence binding does not match persisted leaf"
    else
      let bytes ← canonicalManifestBytes leaves
      .ok { leaves, canonical := freeze C bytes }

end Rebinding

section Restored
variable {C : Crates} {S : SerdeJson}

theorem restoreLeaves_ok {ids : List Text} {inputs : List PersistedLeaf}
    {leaves : List CanonicalLeafAction} : restoreLeaves C ids inputs = .ok leaves ↔
      List.Forall₂ (fun input leaf => restorePersistedLeaf C input = .ok leaf) inputs leaves ∧
        (leaves.map (·.logicalActionId)).Nodup ∧ ∀ leaf ∈ leaves, leaf.logicalActionId ∉ ids := by
  induction inputs generalizing ids leaves with
  | nil =>
    simp only [restoreLeaves, Except.ok.injEq, List.forall₂_nil_left_iff]
    constructor
    · rintro rfl
      simp
    · exact fun made => made.1.symm
  | cons input inputs ih =>
    simp only [restoreLeaves, bind_ok, List.forall₂_cons_left_iff]
    constructor
    · rintro ⟨leaf, made, rest⟩
      split at rest
      · contradiction
      rename_i fresh
      obtain ⟨leaves, restored, whole⟩ := bind_ok.mp rest
      cases whole
      obtain ⟨each, distinct, apart⟩ := ih.mp restored
      refine ⟨⟨leaf, leaves, made, each, rfl⟩, ?_, ?_⟩
      · rw [List.map_cons, List.nodup_cons]
        refine ⟨fun again => ?_, distinct⟩
        obtain ⟨other, member, same⟩ := List.mem_map.mp again
        exact apart other member (same ▸ List.mem_cons_self)
      · rw [List.forall_mem_cons]
        exact ⟨fresh, fun other member old => apart other member (List.mem_cons_of_mem _ old)⟩
    · rintro ⟨⟨leaf, rest, made, each, rfl⟩, distinct, apart⟩
      rw [List.forall_mem_cons] at apart
      rw [List.map_cons, List.nodup_cons] at distinct
      refine ⟨leaf, made, ?_⟩
      rw [if_neg apart.1]
      refine bind_ok.mpr ⟨rest, ih.mpr ⟨each, distinct.2, ?_⟩, rfl⟩
      intro other member known
      rcases List.mem_cons.mp known with same | old
      · exact distinct.1 (same ▸ List.mem_map_of_mem member)
      · exact apart.2 other member old

theorem leafTree_depth {operands targets scope : Json} {n : Nat} (first : operands.depth ≤ n + 5)
    (second : targets.depth ≤ n + 5) (third : scope.depth ≤ n + 4) (leaf : CanonicalLeafAction) :
    (leafTree operands targets scope leaf).depth ≤ n + 6 := by
  have optional : ∀ value : Option Text, (Json.optional value).depth ≤ n + 4 := by
    rintro (_ | value) <;> simp [Json.optional, Json.depth]
  have number : ∀ value : Option I64, (optionalIntegerTree value).depth ≤ n + 4 := by
    rintro (_ | value) <;> simp [optionalIntegerTree, Json.depth]
  have material : (optionalDigestTree leaf.materialDigest).depth ≤ n + 5 :=
    (optional _).trans (by omega)
  have evidence : (evidenceTree leaf.ownerAuthority.ownerEvidence).depth ≤ n + 4 := by
    rw [Json.depth_le]
    cases leaf.ownerAuthority.ownerEvidence with
    | localInteractive client ingress assurance correlation message =>
      cases message <;> simp [evidenceTree, Json.children, Json.depth, Json.optional]
    | remoteAuthenticated => simp [evidenceTree, Json.children, Json.depth]
  have authority : (authorityTree scope leaf.ownerAuthority).depth ≤ n + 5 := by
    rw [Json.depth_le]
    simp [authorityTree, Json.children, optionalDigestTree, optional, number, evidence, third,
      Json.depth]
  have path : Json.depthItems (leaf.resolutionPath.map stepTree) ≤ n + 4 := by
    rw [Json.depthItems_le, List.forall_mem_map]
    intro step _
    rw [Json.depth_le]
    unfold stepTree descriptorTree
    cases step.descriptor <;> simp [Json.children, Json.depth, Json.depthFields]
  rw [Json.depth_le]
  simp [leafTree, Json.children, material, first, second, authority, path, Json.depth,
    Json.depthFields]

/-- The tree of a restored leaf, from which the leaf is restored again. -/
theorem RestoredLeaf.read {leaf : CanonicalLeafAction} (restored : RestoredLeaf C leaf) :
    ∃ t : Json, ∃ input, t.Everywhere Spelled ∧ t.depth ≤ 36 ∧ leaf.canonical.bytes = t.print ∧
      persistedLeaf t = some input ∧ restorePersistedLeaf C input = .ok leaf := by
  obtain ⟨operands, sized, operandsKnown⟩ := restored.operands
  obtain ⟨targets, sizedTargets, targetsKnown⟩ := restored.targets
  obtain ⟨scope, sizedScope, scopeKnown⟩ := restored.scopeValue
  have operandsText : leaf.operands.bytes = operands.print := by rw [operandsKnown]; rfl
  have targetsText : leaf.targetSnapshot.bytes = (targetsTree targets).print := by
    rw [targetsKnown]
    rfl
  have scopeText : leaf.ownerAuthority.normalizedScope.bytes = scope.print := by
    rw [scopeKnown]
    rfl
  have writable : ∀ t ∈ targets, t.Everywhere Writable := fun t member =>
    (sizedTargets.sized t member).1.2
  obtain ⟨operandsValue, operandsRead, rfl⟩ := deserialize_writable sized.1.2
  obtain ⟨targetValues, targetsRead, rfl⟩ := deserializeTargets_tree writable
  obtain ⟨scopeValue, scopeRead, rfl⟩ := deserialize_writable sizedScope.1.2
  have shallow : (targetsTree (itemTrees targetValues)).depth ≤ 33 + 2 :=
    targetsTree_depth fun t member => (sizedTargets.sized t member).1.1
  refine ⟨_, _, leaf_spelled (written_spelled sized.1.2)
      (targets_spelled fun t member => written_spelled (writable t member))
      (written_spelled sizedScope.1.2) leaf,
    @leafTree_depth _ _ _ 30 (sized.1.1.trans (by decide)) shallow (sizedScope.1.1.trans (by decide))
      leaf, ?_, persistedLeaf_tree operandsRead targetsRead scopeRead leaf,
    restorePersistedLeaf_persisted restored ?_ ?_ ?_⟩
  · rw [restored.canonical]
    exact leaf_print leaf operandsText targetsText scopeText
  · exact canonicalValueBytes_ok.mpr ⟨sized, operandsText⟩
  · refine canonicalTargetsBytes_ok.mpr ?_
    simp only [← itemTrees_map, sortByText_sorted sizedTargets.increasing]
    exact ⟨sizedTargets, targetsText⟩
  · exact canonicalValueBytes_ok.mpr ⟨sizedScope, scopeText⟩

/-- What is restored: normal leaves under distinct identities, whose text has the given digest. -/
structure Restorable (C : Crates) (bytes digest : Text) (leaves : List CanonicalLeafAction) :
    Prop where
  digest : parseDigest digest = .ok (digestBytes C bytes)
  short : utf8Length bytes ≤ MAX_PERSISTED_MANIFEST_BYTES
  count : leaves.length ≤ ABSOLUTE_MAX_LEAVES
  restored : ∀ leaf ∈ leaves, RestoredLeaf C leaf
  distinct : (leaves.map (·.logicalActionId)).Nodup
  canonical : canonicalManifestBytes leaves = .ok bytes

theorem parsePersistedManifest_ok {bytes : Text} {limit : Nat} {persisted : PersistedManifest} :
    parsePersistedManifestWithLimit S bytes limit = .ok persisted ↔
      utf8Length bytes ≤ limit ∧ (S.read bytes).bind persistedManifest = some persisted := by
  unfold parsePersistedManifestWithLimit
  split
  · rename_i long
    simp [Nat.not_le.mpr long]
  · rename_i short
    split
    · rename_i read
      simp [read, Nat.not_lt.mp short]
    · rename_i read
      simp [read]

theorem manifestTree_depth {trees : List Json} {n : Nat} (below : ∀ t ∈ trees, t.depth ≤ n) :
    (manifestTree trees).depth ≤ n + 2 := by
  rw [manifestTree, Json.depth_le]
  simp only [Json.children, List.map_cons, List.map_nil, List.forall_mem_cons]
  refine ⟨?_, by simp [Json.depth], by simp⟩
  rw [Json.depth_le]
  exact below

theorem leaves_read {leaves : List CanonicalLeafAction}
    (restored : ∀ leaf ∈ leaves, RestoredLeaf C leaf) :
    ∃ trees : List Json, ∃ inputs, (∀ t ∈ trees, t.Everywhere Spelled ∧ t.depth ≤ 36) ∧
      leaves.map (·.canonical.bytes) = trees.map Json.print ∧
      trees.mapM persistedLeaf = some inputs ∧
      List.Forall₂ (fun input leaf => restorePersistedLeaf C input = .ok leaf) inputs leaves := by
  induction leaves with
  | nil => exact ⟨[], [], by simp, rfl, rfl, .nil⟩
  | cons leaf leaves ih =>
    rw [List.forall_mem_cons] at restored
    obtain ⟨t, input, spelled, shallow, printed, read, made⟩ := restored.1.read
    obtain ⟨trees, inputs, good, texts, reads, mades⟩ := ih restored.2
    refine ⟨t :: trees, input :: inputs, List.forall_mem_cons.mpr ⟨⟨spelled, shallow⟩, good⟩, ?_, ?_,
      .cons made mades⟩
    · rw [List.map_cons, List.map_cons, printed, texts]
    · rw [List.mapM_cons, read, reads]
      rfl

theorem restorePersistedManifest_ok {bytes digest : Text} {leaves : List CanonicalLeafAction} :
    restorePersistedManifest C S bytes digest = .ok leaves ↔ Restorable C bytes digest leaves := by
  simp only [restorePersistedManifest, bind_ok, parsePersistedManifest_ok]
  constructor
  · rintro ⟨expected, parsed, persisted, ⟨short, -⟩, made⟩
    split at made
    · contradiction
    split at made
    · contradiction
    rename_i bounded
    obtain ⟨restored, each, made⟩ := bind_ok.mp made
    obtain ⟨text, written, made⟩ := bind_ok.mp made
    obtain ⟨each, distinct, -⟩ := restoreLeaves_ok.mp each
    split at made
    · contradiction
    rename_i kept
    split at made
    · contradiction
    rename_i matching
    cases made
    have same : text = bytes := not_not.mp kept
    subst same
    refine ⟨parsed.trans (congrArg Except.ok (not_not.mp matching).symm), short, ?_, ?_, distinct,
      written⟩
    · rw [← each.length_eq]
      exact Nat.not_lt.mp (not_or.mp bounded).2
    · intro leaf member
      obtain ⟨i, inside, rfl⟩ := List.mem_iff_getElem.mp member
      exact restorePersistedLeaf_restored (each.get (each.length_eq ▸ inside) inside)
  · intro restorable
    obtain ⟨trees, inputs, good, texts, reads, each⟩ := @leaves_read C _ restorable.restored
    have printed := manifest_print texts restorable.canonical
    have spelled : (manifestTree trees).Everywhere Spelled :=
      manifest_spelled fun t member => (good t member).1
    have shallow : (manifestTree trees).depth ≤ 36 + 2 :=
      manifestTree_depth fun t member => (good t member).2
    have read : S.read bytes = some (manifestTree trees) := by
      rw [printed]
      exact S.read_print _ spelled (shallow.trans (by decide))
    obtain ⟨schema, known⟩ : ∃ s, s = "carsinos.execass.leaf_action_manifest.v2".toList := ⟨_, rfl⟩
    have whole : persistedManifest (manifestTree trees) = some ⟨inputs, schema⟩ := by
      rw [known, persistedManifest, manifestTree,
        record_obj (by simp only [Entries.keys_cons, Entries.keys_nil]) (by decide)]
      simp only [List.map_cons, List.map_nil, Option.bind_eq_bind, Option.bind_some, mandatory_str,
        mandatory_elements, reads]
    have count : inputs.length ≤ ABSOLUTE_MAX_LEAVES := each.length_eq ▸ restorable.count
    have some : inputs ≠ [] := by
      rintro rfl
      cases each
      have written := restorable.canonical
      simp [canonicalManifestBytes] at written
    refine ⟨_, restorable.digest, ⟨inputs, schema⟩, ⟨restorable.short, ?_⟩, ?_⟩
    · rw [read, Option.bind_some, whole]
    rw [if_neg (not_not.mpr known), if_neg (not_or.mpr ⟨some, Nat.not_lt.mpr count⟩)]
    refine bind_ok.mpr ⟨leaves, restoreLeaves_ok.mpr ⟨each, restorable.distinct, by simp⟩, ?_⟩
    refine bind_ok.mpr ⟨bytes, restorable.canonical, ?_⟩
    simp [freeze]

/-! Bindings. -/

theorem bindingsById_ok {known index : List (Text × RoutineOccurrenceLeafBinding)}
    {bindings : List RoutineOccurrenceLeafBinding} :
    bindingsById C known bindings = .ok index ↔
      (∀ binding ∈ bindings, Normal C binding.persistedLogicalActionId ∧
        binding.persistedLogicalActionId ∉ Entries.keys known) ∧
      (bindings.map (·.persistedLogicalActionId)).Nodup ∧
      index = (bindings.map fun binding =>
        (binding.persistedLogicalActionId, binding)).reverse ++ known := by
  induction bindings generalizing known with
  | nil => simp [bindingsById, eq_comm]
  | cons binding bindings ih =>
    simp only [bindingsById, bind_ok]
    constructor
    · rintro ⟨id, normal, rest⟩
      split at rest
      · contradiction
      rename_i same
      split at rest
      · contradiction
      rename_i fresh
      have fixed := not_not.mp same
      subst fixed
      obtain ⟨each, distinct, rfl⟩ := ih.mp rest
      refine ⟨List.forall_mem_cons.mpr ⟨⟨normal, fresh⟩, fun other member => ?_⟩, ?_, by simp⟩
      · refine ⟨(each other member).1, fun old => (each other member).2 ?_⟩
        rw [Entries.keys_cons]
        exact List.mem_cons_of_mem _ old
      · rw [List.map_cons, List.nodup_cons]
        refine ⟨fun again => ?_, distinct⟩
        obtain ⟨other, member, same⟩ := List.mem_map.mp again
        refine (each other member).2 ?_
        rw [same, Entries.keys_cons]
        exact List.mem_cons_self
    · rintro ⟨each, distinct, rfl⟩
      rw [List.forall_mem_cons] at each
      rw [List.map_cons, List.nodup_cons] at distinct
      refine ⟨binding.persistedLogicalActionId, each.1.1, ?_⟩
      rw [if_neg (not_not.mpr rfl), if_neg each.1.2]
      refine ih.mpr ⟨fun other member => ⟨(each.2 other member).1, ?_⟩, distinct.2, by simp⟩
      rw [Entries.keys_cons, List.mem_cons, not_or]
      refine ⟨fun same => distinct.1 ?_, (each.2 other member).2⟩
      rw [← show other.persistedLogicalActionId = binding.persistedLogicalActionId from same]
      exact List.mem_map_of_mem member

theorem lookup_filter {es : List (Text × RoutineOccurrenceLeafBinding)} {key id : Text}
    (other : id ≠ key) : (es.filter fun entry => entry.1 ≠ key).lookup id = es.lookup id := by
  induction es with
  | nil => rfl
  | cons e es ih =>
    obtain ⟨k, b⟩ := e
    by_cases here : k = key
    · subst here
      rw [List.filter_cons_of_neg (by simp), ih, List.lookup_cons, beq_eq_false_iff_ne.mpr other]
    · rw [List.filter_cons_of_pos (by simpa using here), List.lookup_cons, List.lookup_cons, ih]

/-- One leaf under the binding that names it. -/
def Occurs (C : Crates) (binding : RoutineOccurrenceLeafBinding)
    (leaf rebound : CanonicalLeafAction) : Prop :=
  Normal C binding.occurrenceLogicalActionId ∧ ∃ targets,
    canonicalTargetsBytes C binding.targetSnapshot = .ok targets ∧
      rebound = leaf.rebind C binding.occurrenceLogicalActionId targets

theorem bound_filter {index : List (Text × RoutineOccurrenceLeafBinding)} {key : Text}
    {leaves rebound : List CanonicalLeafAction} (absent : key ∉ leaves.map (·.logicalActionId)) :
    List.Forall₂ (fun leaf new => ∃ binding,
      (index.filter fun entry => entry.1 ≠ key).lookup leaf.logicalActionId = some binding ∧
        Occurs C binding leaf new) leaves rebound ↔
    List.Forall₂ (fun leaf new => ∃ binding,
      index.lookup leaf.logicalActionId = some binding ∧ Occurs C binding leaf new) leaves rebound := by
  induction leaves generalizing rebound with
  | nil => simp
  | cons leaf leaves ih =>
    rw [List.map_cons, List.mem_cons, not_or] at absent
    simp only [List.forall₂_cons_left_iff, lookup_filter (Ne.symm absent.1), ih absent.2]

theorem rebindLeaves_ok {index left : List (Text × RoutineOccurrenceLeafBinding)} {ids : List Text}
    {leaves rebound : List CanonicalLeafAction} (distinct : (leaves.map (·.logicalActionId)).Nodup) :
    rebindLeaves C index ids leaves = .ok (left, rebound) ↔
      List.Forall₂ (fun leaf new => ∃ binding,
        index.lookup leaf.logicalActionId = some binding ∧ Occurs C binding leaf new) leaves rebound ∧
      (rebound.map (·.logicalActionId)).Nodup ∧ (∀ new ∈ rebound, new.logicalActionId ∉ ids) ∧
      left = index.filter fun entry => entry.1 ∉ leaves.map (·.logicalActionId) := by
  induction leaves generalizing index left ids rebound with
  | nil =>
    simp only [rebindLeaves, Except.ok.injEq, Prod.mk.injEq, List.forall₂_nil_left_iff]
    constructor
    · rintro ⟨rfl, rfl⟩
      simp
    · rintro ⟨rfl, -, -, rfl⟩
      simp
  | cons leaf leaves ih =>
    rw [List.map_cons, List.nodup_cons] at distinct
    have remaining : index.filter (fun entry => entry.1 ∉ (leaf :: leaves).map (·.logicalActionId)) =
        (index.filter fun entry => entry.1 ≠ leaf.logicalActionId).filter
          fun entry => entry.1 ∉ leaves.map (·.logicalActionId) := by
      rw [List.filter_filter]
      refine List.filter_congr fun entry _ => ?_
      simp only [List.map_cons, List.mem_cons, not_or, Bool.decide_and, ne_eq]
      exact Bool.and_comm _ _
    rw [remaining, rebindLeaves, List.forall₂_cons_left_iff]
    constructor
    · intro made
      split at made
      · contradiction
      rename_i binding found
      obtain ⟨id, normal, made⟩ := bind_ok.mp made
      split at made
      · contradiction
      rename_i same
      split at made
      · contradiction
      rename_i fresh
      have fixed := not_not.mp same
      subst fixed
      obtain ⟨targets, encoded, made⟩ := bind_ok.mp made
      obtain ⟨⟨rest, news⟩, later, made⟩ := bind_ok.mp made
      cases made
      obtain ⟨each, apart, others, rfl⟩ := (ih distinct.2).mp later
      refine ⟨⟨_, news, ⟨binding, found, normal, targets, encoded, rfl⟩,
        (bound_filter distinct.1).mp each, rfl⟩, ?_, ?_, rfl⟩
      · rw [List.map_cons, List.nodup_cons]
        refine ⟨fun again => ?_, apart⟩
        obtain ⟨other, member, same⟩ := List.mem_map.mp again
        exact others other member (same ▸ List.mem_cons_self)
      · rw [List.forall_mem_cons]
        exact ⟨fresh, fun other member old => others other member (List.mem_cons_of_mem _ old)⟩
    · rintro ⟨⟨new, news, ⟨binding, found, normal, targets, encoded, rfl⟩, each, rfl⟩, apart, others,
        rfl⟩
      rw [List.map_cons, List.nodup_cons] at apart
      rw [List.forall_mem_cons] at others
      simp only [found]
      refine bind_ok.mpr ⟨binding.occurrenceLogicalActionId, normal, ?_⟩
      rw [if_neg (not_not.mpr rfl), if_neg (by simpa [CanonicalLeafAction.rebind] using others.1)]
      refine bind_ok.mpr ⟨targets, encoded, bind_ok.mpr ⟨(_, news), (ih distinct.2).mpr
        ⟨(bound_filter distinct.1).mpr each, apart.2, ?_, rfl⟩, rfl⟩⟩
      intro other member known
      rcases List.mem_cons.mp known with same | old
      · exact apart.1 (List.mem_map.mpr ⟨other, member, same⟩)
      · exact others.2 other member old

theorem lookup_bindings {bindings : List RoutineOccurrenceLeafBinding} {id : Text}
    {binding : RoutineOccurrenceLeafBinding}
    (distinct : (bindings.map (·.persistedLogicalActionId)).Nodup) :
    (bindings.map fun b => (b.persistedLogicalActionId, b)).reverse.lookup id = some binding ↔
      binding ∈ bindings ∧ binding.persistedLogicalActionId = id := by
  have listed : ∀ es : List (Text × RoutineOccurrenceLeafBinding), (Entries.keys es).Nodup →
      (es.lookup id = some binding ↔ (id, binding) ∈ es) := by
    intro es
    induction es with
    | nil => simp
    | cons e es ih =>
      intro apart
      rw [Entries.keys_cons, List.nodup_cons] at apart
      rw [List.lookup_cons, List.mem_cons]
      by_cases here : id = e.1
      · have absent : (id, binding) ∉ es := fun member =>
          apart.1 (here ▸ List.mem_map_of_mem (f := Prod.fst) member)
        obtain ⟨k, b⟩ := e
        subst here
        simp [absent, eq_comm]
      · have other : (id, binding) ≠ e := fun same => here (congrArg Prod.fst same)
        simp [beq_eq_false_iff_ne.mpr here, other, ih apart.2]
  have keys : (Entries.keys (bindings.map fun b => (b.persistedLogicalActionId, b)).reverse).Nodup := by
    rw [Entries.keys, List.map_reverse, List.nodup_reverse, List.map_map]
    exact distinct
  rw [listed _ keys, List.mem_reverse, List.mem_map]
  constructor
  · rintro ⟨b, member, same⟩
    cases same
    exact ⟨member, rfl⟩
  · rintro ⟨member, rfl⟩
    exact ⟨binding, member, rfl⟩

/-- What the bindings make of the restored leaves. -/
structure Rebinds (C : Crates) (bindings : List RoutineOccurrenceLeafBinding)
    (leaves : List CanonicalLeafAction) (m : CanonicalLeafManifest) : Prop where
  covers : (bindings.map (·.persistedLogicalActionId)).Perm (leaves.map (·.logicalActionId))
  each : List.Forall₂ (fun leaf new => ∃ binding ∈ bindings,
    binding.persistedLogicalActionId = leaf.logicalActionId ∧ Occurs C binding leaf new)
    leaves m.leaves
  distinct : (m.leaves.map (·.logicalActionId)).Nodup
  canonical : ∃ bytes, canonicalManifestBytes m.leaves = .ok bytes ∧ m.canonical = freeze C bytes

theorem rebind_ok {bytes digest : Text} {bindings : List RoutineOccurrenceLeafBinding}
    {m : CanonicalLeafManifest} :
    rebindPersistedManifestForRoutineOccurrence C S bytes digest bindings = .ok m ↔
      ∃ leaves, Restorable C bytes digest leaves ∧ Rebinds C bindings leaves m := by
  simp only [rebindPersistedManifestForRoutineOccurrence, bind_ok, restorePersistedManifest_ok,
    bindingsById_ok]
  constructor
  · rintro ⟨leaves, restorable, index, ⟨-, keys, rfl⟩, made⟩
    split at made
    · contradiction
    rename_i count
    obtain ⟨⟨left, rebound⟩, made, rest⟩ := bind_ok.mp made
    obtain ⟨each, distinct, -, -⟩ := (rebindLeaves_ok restorable.distinct).mp made
    split at rest
    · contradiction
    obtain ⟨text, written, whole⟩ := bind_ok.mp rest
    cases whole
    have bound : List.Forall₂ (fun leaf new => ∃ binding ∈ bindings,
        binding.persistedLogicalActionId = leaf.logicalActionId ∧ Occurs C binding leaf new)
        leaves rebound := by
      refine each.imp fun leaf new => ?_
      rintro ⟨binding, found, occurs⟩
      rw [List.append_nil] at found
      obtain ⟨member, named⟩ := (lookup_bindings keys).mp found
      exact ⟨binding, member, named, occurs⟩
    refine ⟨leaves, restorable, ?_, bound, distinct, text, written, rfl⟩
    have inside : leaves.map (·.logicalActionId) ⊆ bindings.map (·.persistedLogicalActionId) := by
      intro id member
      obtain ⟨leaf, leafMember, rfl⟩ := List.mem_map.mp member
      obtain ⟨i, small, rfl⟩ := List.mem_iff_getElem.mp leafMember
      obtain ⟨binding, known, named, -⟩ := bound.get small (bound.length_eq ▸ small)
      exact List.mem_map.mpr ⟨binding, known, named⟩
    refine ((List.subperm_of_subset restorable.distinct inside).perm_of_length_le ?_).symm
    simpa using (not_not.mp count).le
  · rintro ⟨leaves, restorable, covers, each, distinct, text, written, frozen⟩
    have keys : (bindings.map (·.persistedLogicalActionId)).Nodup :=
      covers.nodup_iff.mpr restorable.distinct
    have normal : ∀ binding ∈ bindings, Normal C binding.persistedLogicalActionId := by
      intro binding member
      obtain ⟨leaf, known, same⟩ := List.mem_map.mp
        (covers.mem_iff.mp (List.mem_map_of_mem (f := (·.persistedLogicalActionId)) member))
      rw [← same]
      exact (restorable.restored leaf known).logicalActionId
    refine ⟨leaves, restorable, _, ⟨fun binding member => ⟨normal binding member, by simp⟩, keys,
      rfl⟩, ?_⟩
    have count : bindings.length = leaves.length := by simpa using covers.length_eq
    rw [if_neg (not_not.mpr (by simpa using count))]
    refine bind_ok.mpr ⟨([], m.leaves), (rebindLeaves_ok restorable.distinct).mpr
      ⟨?_, distinct, by simp, ?_⟩, ?_⟩
    · refine each.imp fun leaf new => ?_
      rintro ⟨binding, member, named, occurs⟩
      refine ⟨binding, ?_, occurs⟩
      rw [List.append_nil]
      exact (lookup_bindings keys).mpr ⟨member, named⟩
    · symm
      rw [List.append_nil, List.filter_eq_nil_iff]
      intro entry member
      obtain ⟨binding, known, rfl⟩ := List.mem_map.mp (List.mem_reverse.mp member)
      have named := covers.mem_iff.mp (List.mem_map_of_mem (f := (·.persistedLogicalActionId)) known)
      simpa using named
    · rw [if_neg (not_not.mpr rfl)]
      refine bind_ok.mpr ⟨text, written, ?_⟩
      rw [← frozen]

/-! Bindings that follow one another. -/

/-- The bindings that lead at once where the first lead and then the second. -/
def composedBindings (first second : List RoutineOccurrenceLeafBinding) :
    List RoutineOccurrenceLeafBinding :=
  first.filterMap fun binding =>
    (second.find? fun next =>
      next.persistedLogicalActionId = binding.occurrenceLogicalActionId).map fun next => {
        persistedLogicalActionId := binding.persistedLogicalActionId
        occurrenceLogicalActionId := next.occurrenceLogicalActionId
        targetSnapshot := next.targetSnapshot }

theorem find_binding {bindings : List RoutineOccurrenceLeafBinding} {id : Text}
    {binding : RoutineOccurrenceLeafBinding}
    (distinct : (bindings.map (·.persistedLogicalActionId)).Nodup) :
    bindings.find? (fun next => next.persistedLogicalActionId = id) = some binding ↔
      binding ∈ bindings ∧ binding.persistedLogicalActionId = id := by
  induction bindings with
  | nil => simp
  | cons first bindings ih =>
    rw [List.map_cons, List.nodup_cons] at distinct
    by_cases here : first.persistedLogicalActionId = id
    · rw [List.find?_cons_of_pos (by simpa using here), List.mem_cons, Option.some.injEq]
      constructor
      · rintro rfl
        exact ⟨.inl rfl, here⟩
      · rintro ⟨rfl | member, named⟩
        · rfl
        · exact absurd (here.trans named.symm ▸ List.mem_map_of_mem member) distinct.1
    · rw [List.find?_cons_of_neg (by simpa using here), ih distinct.2, List.mem_cons]
      constructor
      · rintro ⟨member, named⟩
        exact ⟨.inr member, named⟩
      · rintro ⟨rfl | member, named⟩
        · exact absurd named here
        · exact ⟨member, named⟩

theorem same_binding {bindings : List RoutineOccurrenceLeafBinding}
    {binding other : RoutineOccurrenceLeafBinding}
    (distinct : (bindings.map (·.persistedLogicalActionId)).Nodup) (member : binding ∈ bindings)
    (also : other ∈ bindings)
    (named : binding.persistedLogicalActionId = other.persistedLogicalActionId) :
    binding = other :=
  List.inj_on_of_nodup_map distinct member also named

theorem rebind_canonical (leaf : CanonicalLeafAction) (id targets : Text) :
    (leaf.rebind C id targets).canonical =
      freeze C (canonicalLeafBytes C (leaf.rebind C id targets).inputs) := by
  simp only [CanonicalLeafAction.rebind, CanonicalLeafAction.inputs]

theorem rebind_rebind (leaf : CanonicalLeafAction) (id targets next others : Text) :
    (leaf.rebind C id targets).rebind C next others = leaf.rebind C next others := by
  simp only [CanonicalLeafAction.rebind, CanonicalLeafAction.inputs]

theorem Occurs.restored {binding : RoutineOccurrenceLeafBinding} {leaf new : CanonicalLeafAction}
    (occurs : Occurs C binding leaf new) (restored : RestoredLeaf C leaf) : RestoredLeaf C new := by
  obtain ⟨normal, targets, encoded, rfl⟩ := occurs
  obtain ⟨sized, rfl⟩ := canonicalTargetsBytes_ok.mp encoded
  exact {
    nodeId := restored.nodeId
    logicalActionId := normal
    actionKind := restored.actionKind
    toolId := restored.toolId
    version := restored.version
    operands := restored.operands
    targets := ⟨_, sized, rfl⟩
    path := restored.path
    steps := restored.steps
    authority := restored.authority
    canonical := rebind_canonical _ _ _
    scopeValue := restored.scopeValue }

theorem Rebinds.restored {bindings : List RoutineOccurrenceLeafBinding}
    {leaves : List CanonicalLeafAction} {m : CanonicalLeafManifest}
    (rebinds : Rebinds C bindings leaves m) (restored : ∀ leaf ∈ leaves, RestoredLeaf C leaf) :
    ∀ leaf ∈ m.leaves, RestoredLeaf C leaf := by
  intro leaf member
  obtain ⟨i, inside, rfl⟩ := List.mem_iff_getElem.mp member
  have before : i < leaves.length := rebinds.each.length_eq ▸ inside
  obtain ⟨_, -, -, occurs⟩ := rebinds.each.get before inside
  exact occurs.restored (restored _ (List.getElem_mem before))

/-- A rebound manifest that is short enough is restored under its own digest. -/
theorem Rebinds.restorable {bytes digest : Text} {bindings : List RoutineOccurrenceLeafBinding}
    {leaves : List CanonicalLeafAction} {m : CanonicalLeafManifest}
    (rebinds : Rebinds C bindings leaves m) (restorable : Restorable C bytes digest leaves)
    (short : utf8Length m.canonical.bytes ≤ MAX_PERSISTED_MANIFEST_BYTES) :
    Restorable C m.canonical.bytes m.canonical.digest.val m.leaves := by
  obtain ⟨text, written, frozen⟩ := rebinds.canonical
  have whole : m.canonical.bytes = text := by rw [frozen]; rfl
  refine ⟨?_, short, rebinds.each.length_eq ▸ restorable.count,
    rebinds.restored restorable.restored, rebinds.distinct, whole ▸ written⟩
  rw [parseDigest_digest, whole, frozen]
  rfl

theorem Restorable.unique {bytes digest : Text} {leaves others : List CanonicalLeafAction}
    {S : SerdeJson} (first : Restorable C bytes digest leaves)
    (second : Restorable C bytes digest others) : leaves = others :=
  Except.ok.inj (((@restorePersistedManifest_ok C S _ _ _).mpr first).symm.trans
    (restorePersistedManifest_ok.mpr second))

theorem forall₂_through {α β γ : Type} {R : α → β → Prop} {Q : β → γ → Prop} {P : α → γ → Prop}
    {as : List α} {bs : List β} {cs : List γ} (related : List.Forall₂ R as bs)
    (through : ∀ a b c, R a b → (Q b c ↔ P a c)) : List.Forall₂ Q bs cs ↔ List.Forall₂ P as cs := by
  induction related generalizing cs with
  | nil => simp
  | @cons a b as bs first rest ih =>
    simp only [List.forall₂_cons_left_iff, through a b _ first, ih]

/-- The bindings that follow are looked up under the identities the first bindings gave. -/
theorem Rebinds.then {first second : List RoutineOccurrenceLeafBinding}
    {leaves : List CanonicalLeafAction} {m next : CanonicalLeafManifest}
    (rebinds : Rebinds C first leaves m) (distinct : (leaves.map (·.logicalActionId)).Nodup)
    (covers : (second.map (·.persistedLogicalActionId)).Perm (m.leaves.map (·.logicalActionId))) :
    Rebinds C second m.leaves next ↔ Rebinds C (composedBindings first second) leaves next := by
  have keys : (first.map (·.persistedLogicalActionId)).Nodup :=
    rebinds.covers.nodup_iff.mpr distinct
  have nextKeys : (second.map (·.persistedLogicalActionId)).Nodup :=
    covers.nodup_iff.mpr rebinds.distinct
  have composed : ∀ c, c ∈ composedBindings first second ↔ ∃ b ∈ first, ∃ d ∈ second,
      d.persistedLogicalActionId = b.occurrenceLogicalActionId ∧
        c = ⟨b.persistedLogicalActionId, d.occurrenceLogicalActionId, d.targetSnapshot⟩ := by
    intro c
    simp only [composedBindings, List.mem_filterMap, Option.map_eq_some_iff, find_binding nextKeys]
    constructor
    · rintro ⟨b, member, d, ⟨known, named⟩, rfl⟩
      exact ⟨b, member, d, known, named, rfl⟩
    · rintro ⟨b, member, d, known, named, rfl⟩
      exact ⟨b, member, d, ⟨known, named⟩, rfl⟩
  have each : List.Forall₂ (fun leaf new => ∃ binding ∈ second,
      binding.persistedLogicalActionId = leaf.logicalActionId ∧ Occurs C binding leaf new)
        m.leaves next.leaves ↔
      List.Forall₂ (fun leaf new => ∃ binding ∈ composedBindings first second,
        binding.persistedLogicalActionId = leaf.logicalActionId ∧ Occurs C binding leaf new)
        leaves next.leaves := by
    refine forall₂_through rebinds.each ?_
    rintro leaf mid new ⟨b, member, named, normal, targets, encoded, moved⟩
    have identity : mid.logicalActionId = b.occurrenceLogicalActionId := by rw [moved]; rfl
    have again : ∀ id others, mid.rebind C id others = leaf.rebind C id others := fun id others => by
      rw [moved, rebind_rebind]
    constructor
    · rintro ⟨d, known, follows, occurs, others, written, made⟩
      exact ⟨_, (composed _).mpr ⟨b, member, d, known, follows.trans identity, rfl⟩, named, occurs,
        others, written, made.trans (again _ _)⟩
    · rintro ⟨c, inside, called, occurs, others, written, made⟩
      obtain ⟨b', also, d, known, follows, rfl⟩ := (composed c).mp inside
      cases same_binding keys member also (named.trans called.symm)
      exact ⟨d, known, follows.trans identity.symm, occurs, others, written,
        made.trans (again _ _).symm⟩
  have whole : ((composedBindings first second).map (·.persistedLogicalActionId)).Perm
      (leaves.map (·.logicalActionId)) := by
    have names : (composedBindings first second).map (·.persistedLogicalActionId) =
        first.map (·.persistedLogicalActionId) := by
      rw [composedBindings, List.map_filterMap, ← List.filterMap_eq_map]
      refine List.filterMap_congr fun b member => ?_
      obtain ⟨leaf, leafMember, same⟩ := List.mem_map.mp
        (rebinds.covers.mem_iff.mp (List.mem_map_of_mem (f := (·.persistedLogicalActionId)) member))
      obtain ⟨i, small, rfl⟩ := List.mem_iff_getElem.mp leafMember
      have inside : i < m.leaves.length := rebinds.each.length_eq ▸ small
      obtain ⟨b', also, named, -, _, -, moved⟩ := rebinds.each.get small inside
      cases same_binding keys member also (same.symm.trans named.symm)
      obtain ⟨d, known, follows⟩ := List.mem_map.mp
        (covers.mem_iff.mpr (List.mem_map_of_mem (f := (·.logicalActionId)) (List.getElem_mem inside)))
      have identity : m.leaves[i].logicalActionId = b.occurrenceLogicalActionId := by
        have placed : m.leaves.get ⟨i, inside⟩ = m.leaves[i] := rfl
        rw [← placed, moved]
        rfl
      rw [(find_binding nextKeys).mpr ⟨known, follows.trans identity⟩]
      rfl
    rw [names]
    exact rebinds.covers
  exact ⟨fun ⟨_, a, b, c⟩ => ⟨whole, each.mp a, b, c⟩, fun ⟨_, a, b, c⟩ => ⟨covers, each.mpr a, b, c⟩⟩

theorem Rebinds.perm {bindings others : List RoutineOccurrenceLeafBinding}
    {leaves : List CanonicalLeafAction} {m : CanonicalLeafManifest} (perm : others.Perm bindings)
    (rebinds : Rebinds C bindings leaves m) : Rebinds C others leaves m := by
  refine ⟨(perm.map _).trans rebinds.covers, ?_, rebinds.distinct, rebinds.canonical⟩
  refine rebinds.each.imp fun leaf new => ?_
  rintro ⟨binding, member, rest⟩
  exact ⟨binding, perm.mem_iff.mpr member, rest⟩

/-- A leaf of an occurrence: its identity, its targets and the text that follows are new, every
other field and the digest of the saved routine are kept. -/
structure Moved (C : Crates) (leaf new : CanonicalLeafAction) : Prop where
  frame : new = { leaf with
    logicalActionId := new.logicalActionId
    targetSnapshot := new.targetSnapshot
    canonical := new.canonical }
  canonical : new.canonical = freeze C (canonicalLeafBytes C new.inputs)
  stable : Confirmation.savedRoutineStableLeafDigest C new =
    Confirmation.savedRoutineStableLeafDigest C leaf

theorem Occurs.moved {binding : RoutineOccurrenceLeafBinding} {leaf new : CanonicalLeafAction}
    (occurs : Occurs C binding leaf new) : Moved C leaf new := by
  obtain ⟨-, targets, -, rfl⟩ := occurs
  refine ⟨?_, rebind_canonical _ _ _, ?_⟩
  · simp only [CanonicalLeafAction.rebind]
  · simp only [CanonicalLeafAction.rebind, Confirmation.savedRoutineStableLeafDigest]

/-- Rebinding moves every leaf in its place, does not look at the order of the bindings, and two
rebindings are one under the composed bindings. -/
theorem rebind_exact {bytes digest : Text} {bindings : List RoutineOccurrenceLeafBinding}
    {m : CanonicalLeafManifest}
    (rebound : rebindPersistedManifestForRoutineOccurrence C S bytes digest bindings = .ok m) :
    (∃ leaves, restorePersistedManifest C S bytes digest = .ok leaves ∧
      leaves.length = m.leaves.length ∧ List.Forall₂ (Moved C) leaves m.leaves) ∧
    (∃ text, canonicalManifestBytes m.leaves = .ok text ∧ m.canonical = freeze C text) ∧
    (m.leaves.map (·.logicalActionId)).Nodup ∧
    (∀ others, others.Perm bindings →
      rebindPersistedManifestForRoutineOccurrence C S bytes digest others = .ok m) ∧
    (utf8Length m.canonical.bytes ≤ MAX_PERSISTED_MANIFEST_BYTES → ∀ again,
      (again.map (·.persistedLogicalActionId)).Perm (m.leaves.map (·.logicalActionId)) → ∀ next,
      (rebindPersistedManifestForRoutineOccurrence C S m.canonical.bytes m.canonical.digest.val again =
          .ok next ↔
        rebindPersistedManifestForRoutineOccurrence C S bytes digest
          (composedBindings bindings again) = .ok next)) := by
  obtain ⟨leaves, restorable, rebinds⟩ := rebind_ok.mp rebound
  have restored : restorePersistedManifest C S bytes digest = .ok leaves :=
    restorePersistedManifest_ok.mpr restorable
  refine ⟨⟨leaves, restored, rebinds.each.length_eq, ?_⟩, rebinds.canonical, rebinds.distinct, ?_, ?_⟩
  · refine rebinds.each.imp fun leaf new => ?_
    rintro ⟨binding, -, -, occurs⟩
    exact occurs.moved
  · intro others perm
    exact rebind_ok.mpr ⟨leaves, restorable, rebinds.perm perm⟩
  · intro short again covers next
    have kept := rebinds.restorable restorable short
    rw [rebind_ok, rebind_ok]
    constructor
    · rintro ⟨others, known, made⟩
      rw [← @Restorable.unique _ _ _ _ _ S kept known] at made
      exact ⟨leaves, restorable, (rebinds.then restorable.distinct covers).mp made⟩
    · rintro ⟨others, known, made⟩
      rw [← @Restorable.unique _ _ _ _ _ S restorable known] at made
      exact ⟨m.leaves, kept, (rebinds.then restorable.distinct covers).mpr made⟩

end Restored

/-! The saved manifest of one leaf, rebound to one occurrence. -/

theorem zeros_digest : utf8Length (List.replicate 64 '0') = 64 ∧
    (List.replicate 64 '0').all isAsciiHexdigit = true ∧
      (List.replicate 64 '0').map Char.toLower = List.replicate 64 '0' := by decide

def zeroDigest : Sha256Digest := ⟨List.replicate 64 '0', zeros_digest⟩

def savedAuthority : CanonicalOwnerAuthority where
  ownerEvidence := .localInteractive ['c'] ['i'] ['a'] ['r'] none
  authorityProvenanceId := ['p']
  normalizedIntentDigest := zeroDigest
  instructionRevision := ['1']
  instructionDigest := zeroDigest
  ownerEnvelopeRevision := ['1']
  ownerEnvelopeDigest := zeroDigest
  authorityKind := ['k']
  normalizedScope := freeze asciiCrates (Json.obj []).print
  policyRevision := ⟨1, I64.one_fits⟩
  boundDecisionId := none
  boundDecisionRevision := none
  boundManifestDigest := none
  boundChallengeNonceDigest := none
  evidenceDigest := zeroDigest
  createdAt := ⟨0, I64.zero_fits⟩
  expiresAt := none

def savedInputs : LeafCanonicalInputs where
  nodeId := ['l']
  logicalActionId := ['1']
  actionKind := ['k']
  tool := ⟨['t'], ['1']⟩
  operands := freeze asciiCrates Json.null.print
  targetSnapshot := freeze asciiCrates (targetsTree [.str ['x']]).print
  materialDigest := none
  resolutionPath := []
  authority := savedAuthority

def savedLeaf : CanonicalLeafAction where
  nodeId := savedInputs.nodeId
  logicalActionId := savedInputs.logicalActionId
  actionKind := savedInputs.actionKind
  tool := savedInputs.tool
  operands := savedInputs.operands
  targetSnapshot := savedInputs.targetSnapshot
  materialDigest := savedInputs.materialDigest
  resolutionPath := savedInputs.resolutionPath
  ownerAuthority := savedInputs.authority
  canonical := freeze asciiCrates (canonicalLeafBytes asciiCrates savedInputs)

theorem savedInputs_short : utf8Length (canonicalLeafBytes asciiCrates savedInputs) ≤ 4096 := by
  decide +kernel

theorem savedLeaf_restored : RestoredLeaf asciiCrates savedLeaf where
  nodeId := (rfl : normalizedIdentifier asciiCrates ['l'] = .ok ['l'])
  logicalActionId := (rfl : normalizedIdentifier asciiCrates ['1'] = .ok ['1'])
  actionKind := (rfl : normalizedIdentifier asciiCrates ['k'] = .ok ['k'])
  toolId := (rfl : normalizedIdentifier asciiCrates ['t'] = .ok ['t'])
  version := (rfl : normalizedIdentifier asciiCrates ['1'] = .ok ['1'])
  operands := ⟨.null, ⟨⟨by simp [Json.depth], trivial⟩, by decide⟩, rfl⟩
  targets := ⟨[.str ['x']], ⟨by simp, by
    rw [List.forall_mem_singleton]
    exact ⟨⟨by simp [Json.depth], (by decide : utf8Length ['x'] ≤ _)⟩, by decide⟩, by simp,
    by decide⟩, rfl⟩
  path := Nat.zero_le _
  steps := by simp [savedLeaf, savedInputs]
  authority := {
    evidence := ⟨rfl, rfl, rfl, rfl, by simp⟩
    provenance := (rfl : normalizedIdentifier asciiCrates ['p'] = .ok ['p'])
    instructionRevision := (rfl : normalizedIdentifier asciiCrates ['1'] = .ok ['1'])
    ownerEnvelopeRevision := (rfl : normalizedIdentifier asciiCrates ['1'] = .ok ['1'])
    authorityKind := (rfl : normalizedIdentifier asciiCrates ['k'] = .ok ['k'])
    decision := by simp [savedLeaf, savedInputs, savedAuthority]
    scope := rfl
    scopeShort := by decide
    scopeText := ⟨.obj [], by simp [Json.Everywhere, Json.EveryField, Spelled], rfl⟩ }
  canonical := rfl
  scopeValue := ⟨.obj [], ⟨⟨by simp [Json.depth, Json.depthFields], by
    simp [Json.Everywhere, Json.EveryField, Writable, Entries.Sorted, Entries.keys]⟩, by decide⟩, rfl⟩

/-- The occurrence of the saved leaf under another identity and on another target. -/
def savedBinding : RoutineOccurrenceLeafBinding := ⟨['1'], ['2'], ⟨[.string ['y']]⟩⟩

theorem savedManifest_restorable : ∃ bytes,
    Restorable asciiCrates bytes (digestBytes asciiCrates bytes).val [savedLeaf] := by
  obtain ⟨text, whole⟩ : ∃ text, text = canonicalLeafBytes asciiCrates savedInputs := ⟨_, rfl⟩
  have short : utf8Length text ≤ 4096 := whole ▸ savedInputs_short
  have leafText : savedLeaf.canonical.bytes = text := whole ▸ rfl
  have frame : utf8Length "\x7b\"leaves\":[".toList = 11 ∧
      utf8Length "],\"schema\":\"carsinos.execass.leaf_action_manifest.v2\"\x7d".toList = 54 := by
    simp only [String.reduceToList]
    decide
  refine ⟨_, parseDigest_digest _, ?_, by decide, ?_, by decide, rfl⟩
  · rw [List.map_singleton, leafText]
    simp only [utf8Length] at short frame
    simp only [commaSeparated, utf8Length, List.map_append, List.sum_append, frame]
    exact le_trans (by omega : _ ≤ 8192) (by decide)
  · rw [List.forall_mem_singleton]
    exact savedLeaf_restored

theorem rebind_exact_saved : ∃ bytes digest m,
    rebindPersistedManifestForRoutineOccurrence asciiCrates printedJson bytes digest [savedBinding] =
      .ok m ∧ (m.leaves.map (·.logicalActionId)).Nodup := by
  obtain ⟨bytes, restorable⟩ := savedManifest_restorable
  have encoded : canonicalTargetsBytes asciiCrates ⟨[.string ['y']]⟩ =
      .ok (targetsTree [.str ['y']]).print := rfl
  obtain ⟨text, written⟩ : ∃ text, canonicalManifestBytes
      [savedLeaf.rebind asciiCrates ['2'] (targetsTree [.str ['y']]).print] = .ok text := ⟨_, rfl⟩
  have rebinds : Rebinds asciiCrates [savedBinding] [savedLeaf]
      ⟨[savedLeaf.rebind asciiCrates ['2'] (targetsTree [.str ['y']]).print],
        freeze asciiCrates text⟩ := by
    refine ⟨List.Perm.refl _, .cons ⟨savedBinding, List.mem_singleton_self _, rfl, ?_⟩ .nil,
      by simp, text, written, rfl⟩
    exact ⟨(rfl : normalizedIdentifier asciiCrates ['2'] = .ok ['2']), _, encoded, rfl⟩
  have rebound := (@rebind_ok asciiCrates printedJson _ _ _ _).mpr ⟨_, restorable, rebinds⟩
  exact ⟨bytes, _, _, rebound, (rebind_exact rebound).2.2.1⟩

end CarsinOS.Manifest
