import CarsinOS.Crates

/-! Owner authority that is bound to authenticated human evidence. -/
namespace CarsinOS.Actor
open CarsinOS.Lib

inductive VerifiedHumanEvidence where
  | local (authenticatedClientId authenticatedIngress channelAssurance requestCorrelationId : Text)
      (sourceMessageId : Option Text)
  | remote (adapterId providerAccountId authenticatedIngress channelAssurance sourceMessageId
      requestCorrelationId : Text) (providerEventId : Option Text)
      (providerEventObservedAtMs serverVerifiedAtMs : Option I64)

structure VerifiedOwnerAuthority where
  evidence : VerifiedHumanEvidence
  authorityProvenanceId : Text
  normalizedIntentDigest : Text
  instructionRevision : Text
  instructionDigest : Text
  ownerEnvelopeRevision : Text
  ownerEnvelopeDigest : Text
  authorityKind : Text
  normalizedScopeJson : Text
  policyRevision : I64
  boundDecisionId : Option Text
  boundDecisionRevision : Option I64
  boundManifestDigest : Option Text
  boundChallengeNonceDigest : Option Text
  evidenceDigest : Text
  createdAt : I64
  expiresAt : Option I64

/-- The part of an actor's assurance that binds authority. -/
structure ActorAssurance where
  maySubmitOrAmendOwnerIntent : Bool
  humanEvidence : Option VerifiedHumanEvidence

structure OwnerAuthoritySourceInput where
  normalizedIntent : Text
  instructionRevision : Text
  instructionBytes : List UInt8
  ownerEnvelopeRevision : Text
  ownerEnvelopeJson : Text
  authorityKind : Text
  normalizedScopeJson : Text
  policyRevision : I64
  boundDecisionId : Option Text
  boundDecisionRevision : Option I64
  boundManifestBytes : Option (List UInt8)
  challengeNonceBytes : Option (List UInt8)
  createdAt : I64
  expiresAt : Option I64

inductive OwnerAuthorityBindingError where
  | nonHumanActor
  | invalidField
deriving DecidableEq

abbrev Bound (α : Type) := Except OwnerAuthorityBindingError α

/-- `char::is_control`. -/
def isControl (c : Char) : Bool := c.toNat < 0x20 || (0x7F ≤ c.toNat && c.toNat ≤ 0x9F)

def allPresent (values : List Text) : Bool := values.all fun value => trimChars value ≠ []

def allExactPresent (values : List Text) : Bool :=
  values.all fun value => value ≠ [] && trimChars value = value && !value.any isControl

def isLowerHexDigest (value : Text) : Bool :=
  utf8Length value = 64 && value.all fun c => c.isDigit || ('a' ≤ c && c ≤ 'f')

/-! The bytes digests are taken of. -/

/-- `push_bytes` and `push_vec_bytes`: the length as a `u64`, then the bytes. -/
def pushVecBytes (bytes : List UInt8) : List UInt8 := bigEndian bytes.length 8 ++ bytes

def pushOptionalVecBytes : Option (List UInt8) → List UInt8
  | some bytes => 1 :: pushVecBytes bytes
  | none => [0]

/-- `i64::to_be_bytes`. -/
def i64Bytes (value : I64) : List UInt8 := bigEndian (value.val % 2 ^ 64).toNat 8

def optionalI64Bytes : Option I64 → List UInt8
  | some value => 1 :: i64Bytes value
  | none => [0]

def ascii (text : String) : List UInt8 := utf8Bytes text.toList

def canonicalHumanEvidenceBytes : VerifiedHumanEvidence → List UInt8
  | .local authenticatedClientId authenticatedIngress channelAssurance requestCorrelationId
      sourceMessageId =>
    pushVecBytes (ascii "local") ++ pushVecBytes (utf8Bytes authenticatedClientId) ++
      pushVecBytes (utf8Bytes authenticatedIngress) ++ pushVecBytes (utf8Bytes channelAssurance) ++
      pushVecBytes (utf8Bytes requestCorrelationId) ++
      pushOptionalVecBytes (sourceMessageId.map utf8Bytes)
  | .remote adapterId providerAccountId authenticatedIngress channelAssurance sourceMessageId
      requestCorrelationId providerEventId providerEventObservedAtMs serverVerifiedAtMs =>
    pushVecBytes (ascii "remote") ++ pushVecBytes (utf8Bytes adapterId) ++
      pushVecBytes (utf8Bytes providerAccountId) ++ pushVecBytes (utf8Bytes authenticatedIngress) ++
      pushVecBytes (utf8Bytes channelAssurance) ++ pushVecBytes (utf8Bytes sourceMessageId) ++
      pushVecBytes (utf8Bytes requestCorrelationId) ++
      pushOptionalVecBytes (providerEventId.map utf8Bytes) ++
      optionalI64Bytes providerEventObservedAtMs ++ optionalI64Bytes serverVerifiedAtMs

section Bind
variable (C : Crates) (S : SerdeJson)

def digestHex (domain bytes : List UInt8) : Text :=
  (C.sha256 (pushVecBytes domain ++ pushVecBytes bytes)).val

def plainDigestHex (bytes : List UInt8) : Text := (C.sha256 bytes).val

def ownerNormalizedIntentDigest (normalizedIntent : Text) : Option Text :=
  if trimChars normalizedIntent = [] then none
  else some (digestHex C (ascii "carsinos.execass.normalized_intent.v1")
    (utf8Bytes normalizedIntent))

def ownerInstructionDigest (instructionBytes : List UInt8) : Option Text :=
  if instructionBytes = [] then none
  else some (digestHex C (ascii "carsinos.execass.owner_instruction.v1") instructionBytes)

/-- `canonical_json`, which is only called on texts that were parsed before. -/
def canonicalJson (value : Text) : Text :=
  match S.value value with
  | some value => value.print
  | none => []

def isCanonicalJsonObject (value : Text) : Bool :=
  match S.value value with
  | some (.obj fields) => (Json.obj fields).print = value
  | _ => false

def authorityProvenanceId (evidenceDigest normalizedIntentDigest : Text)
    (source : OwnerAuthoritySourceInput)
    (instructionDigest ownerEnvelopeDigest normalizedScopeJson : Text)
    (boundManifestDigest boundChallengeNonceDigest : Option Text) : Text :=
  digestHex C (ascii "carsinos.execass.authority_provenance.v1")
    (pushVecBytes (utf8Bytes evidenceDigest) ++ pushVecBytes (utf8Bytes normalizedIntentDigest) ++
      pushVecBytes (utf8Bytes source.instructionRevision) ++
      pushVecBytes (utf8Bytes instructionDigest) ++
      pushVecBytes (utf8Bytes source.ownerEnvelopeRevision) ++
      pushVecBytes (utf8Bytes ownerEnvelopeDigest) ++
      pushVecBytes (utf8Bytes source.authorityKind) ++
      pushVecBytes (utf8Bytes normalizedScopeJson) ++ i64Bytes source.policyRevision ++
      pushOptionalVecBytes (source.boundDecisionId.map utf8Bytes) ++
      optionalI64Bytes source.boundDecisionRevision ++
      pushOptionalVecBytes (boundManifestDigest.map utf8Bytes) ++
      pushOptionalVecBytes (boundChallengeNonceDigest.map utf8Bytes) ++
      i64Bytes source.createdAt ++ optionalI64Bytes source.expiresAt)

def authorityKinds : List Text :=
  ["original_request", "decision_resolution", "action_specific_owner_amendment",
    "policy_snapshot", "runtime_settings_snapshot", "runtime_safety_state"].map String.toList

/-- The conditions under which a source is refused. -/
def sourceInvalid (actor : ActorAssurance) (source : OwnerAuthoritySourceInput)
    (verifiedManifestDigest verifiedChallengeNonceDigest : Option Text) : Bool :=
  !actor.maySubmitOrAmendOwnerIntent ||
  !allPresent [source.normalizedIntent, source.instructionRevision, source.ownerEnvelopeRevision,
    source.authorityKind, source.normalizedScopeJson, source.ownerEnvelopeJson] ||
  source.instructionBytes = [] ||
  !authorityKinds.contains source.authorityKind ||
  source.policyRevision.val < 0 ||
  verifiedManifestDigest.any (!isLowerHexDigest ·) ||
  verifiedChallengeNonceDigest.any (!isLowerHexDigest ·) ||
  (verifiedManifestDigest.isSome && source.boundManifestBytes.isSome) ||
  (verifiedChallengeNonceDigest.isSome && source.challengeNonceBytes.isSome) ||
  source.expiresAt.any (·.val ≤ source.createdAt.val) ||
  source.boundDecisionId.isSome != source.boundDecisionRevision.isSome ||
  source.boundDecisionRevision.any (·.val < 0) ||
  source.boundManifestBytes.any (·.isEmpty) ||
  source.challengeNonceBytes.any (·.isEmpty) ||
  (S.value source.normalizedScopeJson).isNone ||
  (S.value source.ownerEnvelopeJson).isNone

def bindVerifiedOwnerAuthorityWithBoundDigests (actor : ActorAssurance)
    (source : OwnerAuthoritySourceInput)
    (verifiedManifestDigest verifiedChallengeNonceDigest : Option Text) :
    Bound VerifiedOwnerAuthority :=
  match actor.humanEvidence with
  | none => .error .nonHumanActor
  | some evidence =>
    if sourceInvalid S actor source verifiedManifestDigest verifiedChallengeNonceDigest then
      .error .invalidField
    else
      let normalizedScopeJson := canonicalJson S source.normalizedScopeJson
      let ownerEnvelopeJson := canonicalJson S source.ownerEnvelopeJson
      let evidenceDigest := digestHex C (ascii "carsinos.execass.owner_evidence.v1")
        (canonicalHumanEvidenceBytes evidence)
      match ownerNormalizedIntentDigest C source.normalizedIntent,
        ownerInstructionDigest C source.instructionBytes with
      | some normalizedIntentDigest, some instructionDigest =>
        let ownerEnvelopeDigest := digestHex C (ascii "carsinos.execass.owner_envelope.v1")
          (utf8Bytes ownerEnvelopeJson)
        let boundManifestDigest :=
          verifiedManifestDigest <|> source.boundManifestBytes.map (plainDigestHex C)
        let boundChallengeNonceDigest := verifiedChallengeNonceDigest <|>
          source.challengeNonceBytes.map (digestHex C (ascii "carsinos.execass.challenge_nonce.v1"))
        .ok {
          evidence
          authorityProvenanceId := authorityProvenanceId C evidenceDigest normalizedIntentDigest
            source instructionDigest ownerEnvelopeDigest normalizedScopeJson boundManifestDigest
            boundChallengeNonceDigest
          normalizedIntentDigest
          instructionRevision := source.instructionRevision
          instructionDigest
          ownerEnvelopeRevision := source.ownerEnvelopeRevision
          ownerEnvelopeDigest
          authorityKind := source.authorityKind
          normalizedScopeJson
          policyRevision := source.policyRevision
          boundDecisionId := source.boundDecisionId
          boundDecisionRevision := source.boundDecisionRevision
          boundManifestDigest
          boundChallengeNonceDigest
          evidenceDigest
          createdAt := source.createdAt
          expiresAt := source.expiresAt }
      | _, _ => .error .invalidField

def bindVerifiedOwnerAuthority (actor : ActorAssurance) (source : OwnerAuthoritySourceInput) :
    Bound VerifiedOwnerAuthority :=
  bindVerifiedOwnerAuthorityWithBoundDigests C S actor source none none

end Bind
end CarsinOS.Actor
