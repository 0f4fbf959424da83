import CarsinOS.Manifest.Normal

/-! The manifest of one leaf, under the authority of an original request. -/
namespace CarsinOS.Manifest
open CarsinOS.Lib CarsinOS.Actor

section Single
variable {C : Crates}

theorem digest_ascii (digest : Sha256Digest) : Ascii digest.val := by
  intro c member
  have range := hexdigit_range (List.all_eq_true.mp digest.property.2.1 c member)
  omega

theorem digest_trimmed (digest : Sha256Digest) : trimChars digest.val = digest.val :=
  trimChars_of_trimmed (trimmed_of_visible fun c member =>
    hexdigit_visible (List.all_eq_true.mp digest.property.2.1 c member))

/-- The text of a digest is read as that digest. -/
theorem parseDigest_digest (digest : Sha256Digest) : parseDigest digest.val = .ok digest := by
  unfold parseDigest
  simp only [digest_trimmed, digest.property.2.2]
  rw [dif_pos ⟨digest.property.1, digest.property.2.1⟩]

theorem normal_digest (digest : Sha256Digest) : Normal C digest.val := by
  have some : digest.val ≠ [] := by
    intro empty
    have length := digest.property.1
    rw [empty] at length
    cases length
  unfold Normal normalizedIdentifier
  simp only [digest_trimmed, C.normalization.ascii _ (digest_ascii digest), some, if_false,
    digest.property.1]
  rfl

/-- A tree that is one leaf compiles when its leaf is canonical. -/
theorem compileDispatch_single {nodeId : Text} {input : ResolvedLeafInput}
    {leaf : CanonicalLeafAction} {registry : ServerResolutionRegistry} (normal : Normal C nodeId)
    (made : canonicalLeaf C nodeId input [] = .ok leaf) :
    ∃ m, compileDispatch C ⟨nodeId, [⟨nodeId, .resolvedLeaf input⟩]⟩ registry = .ready m ∧
      m.leaves = [leaf] := by
  have distinct : DistinctNodes C [⟨nodeId, .resolvedLeaf input⟩] :=
    ⟨by simpa using ⟨nodeId, normal⟩, by simp⟩
  have expands : Expands C ⟨nodeId, [⟨nodeId, .resolvedLeaf input⟩]⟩ registry nodeId (.leaf leaf) :=
    expands_leaf (actionOf_head normal) made
  have admitted : Admitted C ⟨nodeId, [⟨nodeId, .resolvedLeaf input⟩]⟩ registry nodeId
      (.leaf leaf) := {
    root := normal
    expands
    depth := Nat.zero_le _
    nodes := Nat.le_of_ble_eq_true rfl
    leaves := Nat.le_of_ble_eq_true rfl
    distinct := List.nodup_singleton _ }
  have leaves : leavesOf C (.leaf leaf) = [leaf] := by
    obtain ⟨plain, again, same⟩ := canonicalLeaf_path.mp made
    cases made.symm.trans again
    exact congrArg (fun l => [l]) same.symm
  obtain ⟨bytes, written⟩ := canonicalManifestBytes_ok.mpr (leavesOf_nonempty admitted)
  exact ⟨_, (compileDispatch_ready distinct).mpr ⟨nodeId, _, bytes, admitted, written, rfl⟩, leaves⟩

end Single

/-- An owner who is authenticated locally. -/
def localOwner : ActorAssurance where
  maySubmitOrAmendOwnerIntent := true
  humanEvidence := some (.local ['c'] ['i'] ['a'] ['r'] none)

def scopedRequest (scope : Text) : OriginalRequestAuthoritySource where
  normalizedIntent := ['n']
  instructionRevision := ['1']
  instructionBytes := [0]
  ownerEnvelopeRevision := ['1']
  canonicalOwnerEnvelopeJson := (Json.obj []).print
  canonicalScopeJson := scope
  policyRevision := ⟨1, I64.one_fits⟩
  createdAtMs := ⟨0, I64.zero_fits⟩
  expiresAtMs := none

/-- A leaf on one target, under an original request. -/
def requestedLeaf (operands : CanonicalValue) (scope : Text) : ResolvedLeafInput where
  logicalActionId := ['1']
  actionKind := ['k']
  tool := ⟨['t'], ['1']⟩
  operands
  targetSnapshot := ⟨[.string ['x']]⟩
  materialDigest := none
  ownerAuthority := originalRequestAuthority asciiCrates (.local ['c'] ['i'] ['a'] ['r'] none)
    (scopedRequest scope)

def requestedTree (operands : CanonicalValue) (scope : Text) : DispatchTree :=
  ⟨['l'], [⟨['l'], .resolvedLeaf (requestedLeaf operands scope)⟩]⟩

theorem scopedRequest_built {fields : List (Text × Json)}
    (spelled : (Json.obj fields).Everywhere Spelled) :
    (scopedRequest (Json.obj fields).print).build printedJson =
      .ok (scopedRequest (Json.obj fields).print) := by
  have canonical : ∀ fields : List (Text × Json), (Json.obj fields).Everywhere Spelled →
      isCanonicalJsonObject printedJson (Json.obj fields).print = true := by
    intro fields spelled
    have read : printedJson.value (Json.obj fields).print = some (.obj fields) :=
      ofPrint_some.mpr ⟨spelled, rfl⟩
    simp [isCanonicalJsonObject, read]
  have envelope := canonical [] (by simp [Json.Everywhere, Json.EveryField, Spelled])
  have scope := canonical fields spelled
  have words : allExactPresent [['n'], ['1'], ['1']] = true := by decide
  apply if_neg
  simp [scopedRequest, scope, envelope, words]

theorem scopedRequest_minted {fields : List (Text × Json)}
    (spelled : (Json.obj fields).Everywhere Spelled) :
    Minted asciiCrates printedJson (originalRequestAuthority asciiCrates
      (.local ['c'] ['i'] ['a'] ['r'] none) (scopedRequest (Json.obj fields).print)) := by
  have built := scopedRequest_built spelled
  exact .originalRequest built (@bindOriginalRequest_ok _ _ localOwner _ _ _ rfl rfl built)

theorem requestedLeaf_ok {operands : CanonicalValue} {scope : Text}
    (sized : Sized (valueTree operands)) (short : utf8Length scope ≤ MAX_CANONICAL_VALUE_BYTES) :
    ∃ leaf, canonicalLeaf asciiCrates ['l'] (requestedLeaf operands scope) [] = .ok leaf ∧
      leaf.operands.bytes = (valueTree operands).print ∧
      leaf.targetSnapshot.bytes = (targetsTree [.str ['x']]).print ∧
      leaf.ownerAuthority.normalizedScope.bytes = scope ∧ leaf.resolutionPath = [] := by
  have encoded : canonicalValueBytes asciiCrates operands = .ok (valueTree operands).print :=
    canonicalValueBytes_ok.mpr ⟨sized, rfl⟩
  have targets : canonicalTargetsBytes asciiCrates ⟨[.string ['x']]⟩ =
      .ok (targetsTree [.str ['x']]).print := rfl
  have authority : ∃ authority, canonicalizeOwnerAuthority asciiCrates
      (requestedLeaf operands scope).ownerAuthority = .ok authority ∧
        authority.normalizedScope.bytes = scope := by
    have fits : ¬ utf8Length (requestedLeaf operands scope).ownerAuthority.normalizedScopeJson >
        MAX_CANONICAL_VALUE_BYTES := Nat.not_lt.mpr short
    have hash : ∀ domain bytes, parseDigest (digestHex asciiCrates domain bytes) = .ok _ :=
      fun _ _ => parseDigest_digest _
    have provenance : ∀ domain bytes, normalizedIdentifier asciiCrates
        (digestHex asciiCrates domain bytes) = .ok _ := fun _ _ => normal_digest _
    unfold canonicalizeOwnerAuthority
    rw [if_neg fits]
    simp only [requestedLeaf, originalRequestAuthority, authorityProvenanceId, hash, provenance]
    exact ⟨_, rfl, rfl⟩
  obtain ⟨canonical, made, bytes⟩ := authority
  simp only [canonicalLeaf, requestedLeaf, encoded, targets] at made ⊢
  simp only [made]
  exact ⟨_, rfl, rfl, rfl, bytes, rfl⟩

end CarsinOS.Manifest
