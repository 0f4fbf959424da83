import CarsinOS.Manifest.Rebind
import CarsinOS.Manifest.Storage
import CarsinOS.Utf8

/-! The digest of a leaf pins every field of it. -/
namespace CarsinOS.Manifest
open CarsinOS.Lib CarsinOS.Actor

/-! The trees of the encoders are equal only for equal parts. -/

theorem toText_injective {i j : I64} (same : i.toText = j.toText) : i = j := by
  have values := congrArg integerValue same
  rw [integerValue_toText, integerValue_toText] at values
  exact Option.some.inj values

theorem optional_injective {a b : Option Text} (same : Json.optional a = Json.optional b) :
    a = b := by
  cases a <;> cases b <;> simp_all [Json.optional]

theorem optionalDigestTree_injective {a b : Option Sha256Digest}
    (same : optionalDigestTree a = optionalDigestTree b) : a = b :=
  Option.map_injective Subtype.val_injective (optional_injective same)

theorem optionalIntegerTree_injective {a b : Option I64}
    (same : optionalIntegerTree a = optionalIntegerTree b) : a = b := by
  cases a <;> cases b <;> simp_all [optionalIntegerTree]
  exact toText_injective same

theorem descriptorTree_injective {a b : IndirectionDescriptor}
    (same : descriptorTree a = descriptorTree b) : a = b := by
  have read := persistedDescriptor_tree a
  rw [same, persistedDescriptor_tree] at read
  exact (Option.some.inj read).symm

theorem evidenceTree_injective {a b : CanonicalOwnerEvidence}
    (same : evidenceTree a = evidenceTree b) : a = b := by
  have read := persistedEvidence_tree a
  rw [same, persistedEvidence_tree] at read
  exact (Option.some.inj read).symm

theorem stepTree_injective : Function.Injective stepTree := by
  intro a b same
  have read := persistedStep_tree a
  rw [same, persistedStep_tree] at read
  obtain ⟨d, digest, r, v, target⟩ := PersistedResolutionStep.mk.inj (Option.some.inj read)
  cases a
  cases b
  simp only at d digest r v target
  rw [d, Subtype.ext digest, r, v, target]

/-- All fields of two authorities agree when their trees do, the scopes as far as their trees are
those that were frozen. -/
theorem authorityTree_injective {scope other : Json} {a b : CanonicalOwnerAuthority}
    (same : authorityTree scope a = authorityTree other b)
    (frozen : scope = other → a.normalizedScope = b.normalizedScope) : a = b := by
  simp only [authorityTree, Json.obj.injEq, List.cons.injEq, Prod.mk.injEq, true_and, and_true,
    Json.str.injEq, Json.num.injEq] at same
  obtain ⟨kind, provenance, nonce, decision, revision, manifest, created, evidenceDigest, expires,
    instructionDigest, instructionRevision, intent, scopes, envelopeDigest, envelopeRevision,
    evidence, policy⟩ := same
  cases a
  cases b
  rw [CanonicalOwnerAuthority.mk.injEq]
  exact ⟨evidenceTree_injective evidence, provenance, Subtype.ext intent, instructionRevision,
    Subtype.ext instructionDigest, envelopeRevision, Subtype.ext envelopeDigest, kind, frozen scopes,
    toText_injective policy, optional_injective decision, optionalIntegerTree_injective revision,
    optionalDigestTree_injective manifest, optionalDigestTree_injective nonce,
    Subtype.ext evidenceDigest, toText_injective created, optionalIntegerTree_injective expires⟩

section Pinned
variable {C : Crates} {S : SerdeJson}

/-- A normal leaf, with the trees its frozen parts are the texts of. -/
structure Treed (C : Crates) (operands targets scope : Json) (leaf : CanonicalLeafAction) : Prop where
  spelled : (leafTree operands targets scope leaf).Everywhere Spelled
  operandsFrozen : leaf.operands = freeze C operands.print
  targetsFrozen : leaf.targetSnapshot = freeze C targets.print
  scopeFrozen : leaf.ownerAuthority.normalizedScope = freeze C scope.print
  text : leaf.canonical.bytes = (leafTree operands targets scope leaf).print
  canonical : leaf.canonical = freeze C leaf.canonical.bytes

theorem NormalLeaf.treed {leaf : CanonicalLeafAction} (normal : NormalLeaf C leaf) :
    ∃ operands targets scope, Treed C operands targets scope leaf := by
  obtain ⟨operands, sized, operandsKnown⟩ := normal.operands
  obtain ⟨targets, sizedTargets, targetsKnown⟩ := normal.targets
  obtain ⟨scope, scopeSpelled, scopeKnown⟩ := normal.authority.scopeText
  refine ⟨operands, targetsTree targets, scope, ?_, operandsKnown, targetsKnown,
    scopeKnown ▸ normal.authority.scope, ?_, ?_⟩
  · exact leaf_spelled (written_spelled sized.1.2) (targets_spelled fun t member =>
      written_spelled (sizedTargets.sized t member).1.2) scopeSpelled leaf
  · rw [normal.canonical]
    refine leaf_print leaf ?_ ?_ scopeKnown
    · rw [operandsKnown, freeze]
    · rw [targetsKnown, freeze]
  · rw [normal.canonical, freeze, freeze]

/-- The text of a leaf has one reading, so that it determines every field. -/
theorem NormalLeaf.pinned {leaf other : CanonicalLeafAction} (normal : NormalLeaf C leaf)
    (alsoNormal : NormalLeaf C other) (texts : leaf.canonical.bytes = other.canonical.bytes) :
    leaf = other := by
  obtain ⟨operands, targets, scope, treed⟩ := normal.treed
  obtain ⟨_, _, _, also⟩ := alsoNormal.treed
  have trees := Json.print_injective treed.spelled also.spelled
    (treed.text.symm.trans (texts.trans also.text))
  have canonical : leaf.canonical = other.canonical := by
    rw [treed.canonical, also.canonical, texts]
  have operandsFrozen := treed.operandsFrozen
  have targetsFrozen := treed.targetsFrozen
  simp only [leafTree, Json.obj.injEq, List.cons.injEq, Prod.mk.injEq, true_and, and_true,
    Json.str.injEq, Json.arr.injEq] at trees
  obtain ⟨kind, logical, material, node, rfl, authority, path, rfl, tool, version⟩ := trees
  have owner := authorityTree_injective authority fun scopes => by
    rw [treed.scopeFrozen, also.scopeFrozen, scopes]
  cases leaf with
  | mk _ _ _ leafTool =>
    cases other with
    | mk _ _ _ otherTool =>
      cases leafTool
      cases otherTool
      rw [CanonicalLeafAction.mk.injEq, CanonicalToolIdentity.mk.injEq]
      exact ⟨node, logical, kind, ⟨tool, version⟩, operandsFrozen.trans also.operandsFrozen.symm,
        targetsFrozen.trans also.targetsFrozen.symm, optionalDigestTree_injective material,
        List.map_injective_iff.mpr stepTree_injective path, owner, canonical⟩

theorem leaves_pinned {leaves others : List CanonicalLeafAction}
    (normal : ∀ leaf ∈ leaves, NormalLeaf C leaf) (alsoNormal : ∀ leaf ∈ others, NormalLeaf C leaf)
    (texts : leaves.map (·.canonical.bytes) = others.map (·.canonical.bytes)) :
    leaves = others := by
  induction leaves generalizing others with
  | nil => exact (List.map_eq_nil_iff.mp texts.symm).symm
  | cons leaf leaves ih =>
    cases others with
    | nil => cases texts
    | cons other others =>
      rw [List.map_cons, List.map_cons, List.cons.injEq] at texts
      rw [List.forall_mem_cons] at normal alsoNormal
      rw [normal.1.pinned alsoNormal.1 texts.1, ih normal.2 alsoNormal.2 texts.2]

theorem manifest_pinned {leaves others : List CanonicalLeafAction} {bytes : Text}
    (normal : ∀ leaf ∈ leaves, NormalLeaf C leaf) (alsoNormal : ∀ leaf ∈ others, NormalLeaf C leaf)
    (written : canonicalManifestBytes leaves = .ok bytes)
    (alsoWritten : canonicalManifestBytes others = .ok bytes) : leaves = others := by
  choose! tree spelled printed _ using fun leaf member => (normal leaf member).tree
  choose! another alsoSpelled alsoPrinted _ using fun leaf member => (alsoNormal leaf member).tree
  have texts : leaves.map (·.canonical.bytes) = (leaves.map tree).map Json.print := by
    rw [List.map_map]
    exact List.map_congr_left printed
  have alsoTexts : others.map (·.canonical.bytes) = (others.map another).map Json.print := by
    rw [List.map_map]
    exact List.map_congr_left alsoPrinted
  have trees := Json.print_injective (manifest_spelled (List.forall_mem_map.mpr spelled))
    (manifest_spelled (List.forall_mem_map.mpr alsoSpelled))
    ((manifest_print texts written).symm.trans (manifest_print alsoTexts alsoWritten))
  simp only [manifestTree, Json.obj.injEq, List.cons.injEq, Prod.mk.injEq, Json.arr.injEq, true_and,
    and_true] at trees
  exact leaves_pinned normal alsoNormal (by rw [texts, alsoTexts, trees])

/-- The manifests the compiler and the rebinding of a saved routine make. -/
inductive Produced (C : Crates) (S : SerdeJson) : CanonicalLeafManifest → Prop where
  | compiled {entries : List ServerResolutionEntryInput} {registry : ServerResolutionRegistry}
      {tree : DispatchTree} {m : CanonicalLeafManifest}
      (registered : ServerResolutionRegistry.tryNew C entries = .ok registry)
      (minted : ∀ node ∈ tree.nodes, ∀ leaf, node.action = .resolvedLeaf leaf →
        Minted C S leaf.ownerAuthority)
      (ready : compileDispatch C tree registry = .ready m) : Produced C S m
  | rebound {bytes digest : Text} {bindings : List RoutineOccurrenceLeafBinding}
      {m : CanonicalLeafManifest}
      (made : rebindPersistedManifestForRoutineOccurrence C S bytes digest bindings = .ok m) :
      Produced C S m

theorem Produced.normal {m : CanonicalLeafManifest} (produced : Produced C S m) :
    (∀ leaf ∈ m.leaves, NormalLeaf C leaf) ∧
      ∃ bytes, canonicalManifestBytes m.leaves = .ok bytes ∧ m.canonical = freeze C bytes := by
  cases produced with
  | compiled registered minted ready =>
    have normal := compileDispatch_normal (tryNew_normal registered)
      (fun node member leaf action => minted_scope (minted node member leaf action)) ready
    exact ⟨normal.leaves, normal.canonical⟩
  | rebound made =>
    obtain ⟨leaves, restorable, rebinds⟩ := rebind_ok.mp made
    exact ⟨fun leaf member => (rebinds.restored restorable.restored leaf member).toNormalLeaf,
      rebinds.canonical⟩

/-- Equal texts of leaves are equal leaves, equal texts of manifests are equal leaves in the same
order, and a digest without collision tells every two leaves apart. -/
theorem leaf_digest_pins_fields {m n : CanonicalLeafManifest} (produced : Produced C S m)
    (alsoProduced : Produced C S n) :
    (∀ leaf ∈ m.leaves, ∀ other ∈ n.leaves,
      leaf.canonical.bytes = other.canonical.bytes → leaf = other) ∧
    (m.canonical.bytes = n.canonical.bytes → m.leaves = n.leaves) ∧
    ∀ leaf ∈ m.leaves, ∀ other ∈ n.leaves,
      (C.sha256 (utf8Bytes leaf.canonical.bytes) = C.sha256 (utf8Bytes other.canonical.bytes) →
        utf8Bytes leaf.canonical.bytes = utf8Bytes other.canonical.bytes) →
      leaf ≠ other → leaf.canonical.digest ≠ other.canonical.digest := by
  obtain ⟨normal, bytes, written, frozen⟩ := produced.normal
  obtain ⟨alsoNormal, others, alsoWritten, alsoFrozen⟩ := alsoProduced.normal
  have pinned : ∀ leaf ∈ m.leaves, ∀ other ∈ n.leaves,
      leaf.canonical.bytes = other.canonical.bytes → leaf = other := fun leaf member other known =>
    (normal leaf member).pinned (alsoNormal other known)
  refine ⟨pinned, ?_, ?_⟩
  · intro texts
    rw [frozen, alsoFrozen] at texts
    exact manifest_pinned normal alsoNormal written
      ((show bytes = others from texts) ▸ alsoWritten)
  · intro leaf member other known free apart same
    have digested : ∀ l : CanonicalLeafAction, NormalLeaf C l →
        l.canonical.digest = C.sha256 (utf8Bytes l.canonical.bytes) := by
      intro l good
      rw [good.canonical, freeze, digestBytes]
    rw [digested leaf (normal leaf member), digested other (alsoNormal other known)] at same
    exact apart (pinned leaf member other known (utf8Bytes_injective (free same)))

end Pinned

/-- Manifests that differ in the operands of their leaf have different texts. -/
theorem leaf_digest_pins_fields_operands : ∃ m n, Produced asciiCrates printedJson m ∧
    Produced asciiCrates printedJson n ∧ m.canonical.bytes ≠ n.canonical.bytes := by
  have nullSized : Sized (valueTree .null) := nestedArrays_sized (Nat.zero_le 32)
  have trueSized : Sized (valueTree (.bool true)) :=
    ⟨⟨by simp [valueTree, Json.depth], trivial⟩, by decide⟩
  obtain ⟨m, leaf, ready, leaves, operands, -⟩ := requestedTree_ready nullSized
  obtain ⟨n, other, alsoReady, others, alsoOperands, -⟩ := requestedTree_ready trueSized
  have first : Produced asciiCrates printedJson m :=
    @Produced.compiled _ _ [] _ _ _ rfl requestedTree_minted ready
  have second : Produced asciiCrates printedJson n :=
    @Produced.compiled _ _ [] _ _ _ rfl requestedTree_minted alsoReady
  refine ⟨m, n, first, second, fun texts => ?_⟩
  have same := (leaf_digest_pins_fields first second).2.1 texts
  rw [leaves, others, List.cons.injEq] at same
  rw [same.1, alsoOperands] at operands
  exact absurd operands (by decide)

end CarsinOS.Manifest
