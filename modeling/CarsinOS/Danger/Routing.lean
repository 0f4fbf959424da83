import CarsinOS.Manifest.Compile

/-! Danger routing for exact resolved leaves: what resolvers and models report of a leaf, the route
of the leaf and the proof that admits a manifest. -/
namespace CarsinOS.Danger
open CarsinOS.Lib CarsinOS.Manifest

/-- `KnownDangerCategory`; a fact has the category it names. -/
inductive DangerCategory where
  | wholeDriveVolumeBootRecoveryOrCoreOsTree
  | wholeUserProfileOrHome
  | completeCarsinosProtectedSystem
  | wholeConnectedExternalAccountOrTenant
  | lastAdministrativeRecoveryOrDecryptionPath
deriving DecidableEq

structure VerifiedDangerFact where
  category : DangerCategory
  resolvedTarget : Text
deriving DecidableEq

def DangerCategory.rank : DangerCategory → Nat
  | .wholeDriveVolumeBootRecoveryOrCoreOsTree => 0
  | .wholeUserProfileOrHome => 1
  | .completeCarsinosProtectedSystem => 2
  | .wholeConnectedExternalAccountOrTenant => 3
  | .lastAdministrativeRecoveryOrDecryptionPath => 4

def VerifiedDangerFact.consequence (fact : VerifiedDangerFact) : Text :=
  match fact.category with
  | .wholeDriveVolumeBootRecoveryOrCoreOsTree =>
    "This will erase or make unusable the entire drive, volume, boot/recovery environment, or core operating-system target `".toList ++
      fact.resolvedTarget ++ "`, including the operating system and data it contains.".toList
  | .wholeUserProfileOrHome =>
    "This will erase or make unusable the entire operating-system user profile or home `".toList ++
      fact.resolvedTarget ++ "`, including all data stored in it.".toList
  | .completeCarsinosProtectedSystem =>
    "This will erase, corrupt, or disable the complete CarsinOS protected state `".toList ++
      fact.resolvedTarget ++
      "`, including the integrity, runtime-enforcement, stop/fencing, or recovery information required to recover it.".toList
  | .wholeConnectedExternalAccountOrTenant =>
    "This will erase or close the entire connected external account or tenant `".toList ++
      fact.resolvedTarget ++ "` and make all resources owned only by it unavailable.".toList
  | .lastAdministrativeRecoveryOrDecryptionPath =>
    "This will destroy the last verified administrative, recovery, or decryption path `".toList ++
      fact.resolvedTarget ++ "` for owner data that is otherwise unrecoverable.".toList

structure VerifiedDangerSystemMetadata where
  canonicalLeafDigest : Text
  facts : List VerifiedDangerFact

structure CredibleModelDangerSignal where
  canonicalLeafDigest : Text
  resolvedTarget : Text
  materialResult : Text

inductive AuthoritativeModelDangerResult where
  | destroyExactTarget
  | renderExactTargetUnusable
  | irreversiblyRemoveAccessToExactTarget

def AuthoritativeModelDangerResult.materialResult : AuthoritativeModelDangerResult → Text
  | .destroyExactTarget => "destroy the exact target".toList
  | .renderExactTargetUnusable => "render the exact target unusable".toList
  | .irreversiblyRemoveAccessToExactTarget =>
    "irreversibly remove access to the exact target".toList

inductive DangerSource where
  | knownCategory
  | modelCredibleDanger
deriving DecidableEq

structure DangerAssessment where
  source : DangerSource
  knownCategory : Option DangerCategory
  declaredConsequence : Text
  requiresOneConfirmation : Bool
deriving DecidableEq

inductive DangerRouteKind where
  | ordinary
  | requiresOneConfirmation (assessment : DangerAssessment)
deriving DecidableEq

structure DangerRoute where
  canonicalLeafDigest : Text
  kind : DangerRouteKind
deriving DecidableEq

structure DangerAdmissionProof where
  canonicalManifestDigest : Text
  routesInManifestOrder : List DangerRoute

inductive DangerAdmissionState where
  | ordinary
  | requiresOneConfirmation
deriving DecidableEq

inductive DangerAdmissionProofError where
  | leafCountMismatch
  | leafRouteMismatch
  | manifestMismatch

inductive DangerRoutingError where
  | metadataLeafMismatch
  | modelSignalLeafMismatch
  | modelSignalTargetMismatch

/-- `panicked` is an `expect` on a snapshot that is not an object with an array of targets. -/
inductive ProductionDangerIssuanceError where
  | emptyFacts
  | invalidResolvedTarget
  | targetNotInCanonicalSnapshot
  | targetSnapshotNotExact
  | panicked

/-- The hexadecimal digest of a leaf, which binds everything to it. -/
def leafDigest (leaf : CanonicalLeafAction) : Text := leaf.canonical.digest.val

/-! Issuing. -/

section Issuing
variable (S : SerdeJson)

/-- `snapshot.get("targets")`, as an array. -/
def snapshotTargets (leaf : CanonicalLeafAction) : Option (List Json) :=
  match S.value leaf.targetSnapshot.bytes with
  | some (.obj fields) =>
    match fields.find? (·.1 = "targets".toList) with
    | some (_, .arr targets) => some targets
    | _ => none
  | _ => none

/-- `target.as_str() == Some(resolved_target)`. -/
def isTarget (resolvedTarget : Text) : Json → Bool
  | .str target => target = resolvedTarget
  | _ => false

def isExactSnapshotTarget (leaf : CanonicalLeafAction) (resolvedTarget : Text) : Bool :=
  match snapshotTargets S leaf with
  | some [target] => isTarget resolvedTarget target
  | _ => false

def issueAuthoritativeModelDangerSignal (leaf : CanonicalLeafAction) (resolvedTarget : Text)
    (materialResult : AuthoritativeModelDangerResult) :
    Except ProductionDangerIssuanceError CredibleModelDangerSignal :=
  if trimChars resolvedTarget = [] then .error .invalidResolvedTarget
  else if !isExactSnapshotTarget S leaf resolvedTarget then .error .targetSnapshotNotExact
  else .ok ⟨leafDigest leaf, resolvedTarget, materialResult.materialResult⟩

def checkFact (targets : List Json) (fact : VerifiedDangerFact) :
    Except ProductionDangerIssuanceError VerifiedDangerFact :=
  if trimChars fact.resolvedTarget = [] then .error .invalidResolvedTarget
  else if !targets.any (isTarget fact.resolvedTarget) then .error .targetNotInCanonicalSnapshot
  else .ok fact

/-- An authoritative fact and the verified fact made of it are the same here: both are a category
and a target. -/
def issueAuthoritativeDangerMetadata (leaf : CanonicalLeafAction) (facts : List VerifiedDangerFact) :
    Except ProductionDangerIssuanceError VerifiedDangerSystemMetadata :=
  if facts = [] then .error .emptyFacts
  else
    match snapshotTargets S leaf with
    | none => .error .panicked
    | some targets => do
      let verified ← facts.mapM (checkFact targets)
      .ok ⟨leafDigest leaf, verified⟩

def issueAuthoritativeOrdinaryMetadata (leaf : CanonicalLeafAction) : VerifiedDangerSystemMetadata :=
  ⟨leafDigest leaf, []⟩

end Issuing

/-! Routing. -/

/-- `Iterator::min_by_key` of the rank: the first of the smallest. -/
def minByRank : List VerifiedDangerFact → Option VerifiedDangerFact
  | [] => none
  | fact :: facts =>
    some (facts.foldl (fun best fact =>
      if fact.category.rank < best.category.rank then fact else best) fact)

/-- `Vec::dedup`. -/
def dedup : List Text → List Text
  | [] => []
  | [text] => [text]
  | text :: next :: texts =>
    if text = next then dedup (next :: texts) else text :: dedup (next :: texts)

def combinedConsequence (facts : List VerifiedDangerFact) : Text :=
  [' '].intercalate (dedup ((facts.map (·.consequence)).insertionSort (· ≤ ·)))

def matchKnownDanger (leaf : CanonicalLeafAction) (metadata : VerifiedDangerSystemMetadata) :
    Except DangerRoutingError DangerRoute :=
  if metadata.canonicalLeafDigest ≠ leafDigest leaf then .error .metadataLeafMismatch
  else
    match minByRank metadata.facts with
    | none => .ok ⟨leafDigest leaf, .ordinary⟩
    | some primary =>
      .ok {
        canonicalLeafDigest := leafDigest leaf
        kind := .requiresOneConfirmation {
          source := .knownCategory
          knownCategory := some primary.category
          declaredConsequence := combinedConsequence metadata.facts
          requiresOneConfirmation := true } }

def modelConsequence (signal : CredibleModelDangerSignal) : Text :=
  "This will ".toList ++ signal.materialResult ++ " for the resolved target `".toList ++
    signal.resolvedTarget ++ "`.".toList

def routeCredibleModelDanger (S : SerdeJson) (leaf : CanonicalLeafAction) (current : DangerRoute)
    (signal : Option CredibleModelDangerSignal) : Except DangerRoutingError DangerRoute :=
  if current.canonicalLeafDigest ≠ leafDigest leaf then .error .metadataLeafMismatch
  else
    match signal with
    | none => .ok current
    | some signal =>
      if signal.canonicalLeafDigest ≠ leafDigest leaf then .error .modelSignalLeafMismatch
      else if !isExactSnapshotTarget S leaf signal.resolvedTarget then
        .error .modelSignalTargetMismatch
      else
        match current.kind with
        | .requiresOneConfirmation _ => .ok current
        | .ordinary =>
          .ok {
            canonicalLeafDigest := leafDigest leaf
            kind := .requiresOneConfirmation {
              source := .modelCredibleDanger
              knownCategory := none
              declaredConsequence := modelConsequence signal
              requiresOneConfirmation := true } }

/-! Admission. -/

def mismatched (leaves : List CanonicalLeafAction) (routes : List DangerRoute) : Bool :=
  (leaves.zip routes).any fun (leaf, route) => route.canonicalLeafDigest ≠ leafDigest leaf

def bindDangerAdmission (manifest : CanonicalLeafManifest) (routes : List DangerRoute) :
    Except DangerAdmissionProofError DangerAdmissionProof :=
  if manifest.leaves.length ≠ routes.length then .error .leafCountMismatch
  else if mismatched manifest.leaves routes then .error .leafRouteMismatch
  else .ok ⟨manifest.canonical.digest.val, routes⟩

def DangerRouteKind.confirms : DangerRouteKind → Bool
  | .ordinary => false
  | .requiresOneConfirmation _ => true

def validateForManifest (proof : DangerAdmissionProof) (manifest : CanonicalLeafManifest) :
    Except DangerAdmissionProofError DangerAdmissionState :=
  if proof.canonicalManifestDigest ≠ manifest.canonical.digest.val then .error .manifestMismatch
  else if proof.routesInManifestOrder.length ≠ manifest.leaves.length then
    .error .leafCountMismatch
  else if mismatched manifest.leaves proof.routesInManifestOrder then .error .leafRouteMismatch
  else if proof.routesInManifestOrder.any (·.kind.confirms) then .ok .requiresOneConfirmation
  else .ok .ordinary

end CarsinOS.Danger
