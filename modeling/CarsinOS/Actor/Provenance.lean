import CarsinOS.Manifest.Request
import CarsinOS.Utf8

/-! The provenance of an owner authority pins all of it. -/
namespace CarsinOS.Actor
open CarsinOS.Lib

/-- Two byte strings that a digest is taken of do not collide. -/
def CollisionFree (C : Crates) (first second : List UInt8) : Prop :=
  C.sha256 first = C.sha256 second → first = second

def VerifiedHumanEvidence.texts : VerifiedHumanEvidence → List Text
  | .local authenticatedClientId authenticatedIngress channelAssurance requestCorrelationId
      sourceMessageId =>
    [authenticatedClientId, authenticatedIngress, channelAssurance, requestCorrelationId] ++
      sourceMessageId.toList
  | .remote adapterId providerAccountId authenticatedIngress channelAssurance sourceMessageId
      requestCorrelationId providerEventId _ _ =>
    [adapterId, providerAccountId, authenticatedIngress, channelAssurance, sourceMessageId,
      requestCorrelationId] ++ providerEventId.toList

/-- The texts of an authority are slices in memory. -/
structure Stored (authority : VerifiedOwnerAuthority) : Prop where
  evidence : ∀ text ∈ authority.evidence.texts, InMemory text
  instructionRevision : InMemory authority.instructionRevision
  ownerEnvelopeRevision : InMemory authority.ownerEnvelopeRevision
  authorityKind : InMemory authority.authorityKind
  normalizedScopeJson : InMemory authority.normalizedScopeJson
  boundDecisionId : ∀ id ∈ authority.boundDecisionId, InMemory id

section Fields
variable {rest other : List UInt8}

theorem optional_append {a b : Option Text} (short : ∀ text ∈ a, InMemory text)
    (alsoShort : ∀ text ∈ b, InMemory text)
    (same : pushOptionalVecBytes (a.map utf8Bytes) ++ rest =
      pushOptionalVecBytes (b.map utf8Bytes) ++ other) : a = b ∧ rest = other := by
  cases a with
  | none =>
    cases b with
    | none => exact ⟨rfl, (List.cons.inj same).2⟩
    | some b => exact absurd (List.cons.inj same).1 (by decide)
  | some a =>
    cases b with
    | none => exact absurd (List.cons.inj same).1 (by decide)
    | some b =>
      obtain ⟨rfl, rests⟩ := text_append (short a rfl) (alsoShort b rfl) (List.cons.inj same).2
      exact ⟨rfl, rests⟩

theorem i64_append {a b : I64} (same : i64Bytes a ++ rest = i64Bytes b ++ other) :
    a = b ∧ rest = other := by
  obtain ⟨a, low, high⟩ := a
  obtain ⟨b, alsoLow, alsoHigh⟩ := b
  obtain ⟨words, rests⟩ := bigEndian_append (by omega) (by omega) same
  refine ⟨Subtype.ext ?_, rests⟩
  simp only at words ⊢
  omega

theorem optionalI64_append {a b : Option I64}
    (same : optionalI64Bytes a ++ rest = optionalI64Bytes b ++ other) : a = b ∧ rest = other := by
  cases a with
  | none =>
    cases b with
    | none => exact ⟨rfl, (List.cons.inj same).2⟩
    | some b => exact absurd (List.cons.inj same).1 (by decide)
  | some a =>
    cases b with
    | none => exact absurd (List.cons.inj same).1 (by decide)
    | some b =>
      obtain ⟨rfl, rests⟩ := i64_append (List.cons.inj same).2
      exact ⟨rfl, rests⟩

end Fields

/-- The bytes of human evidence are read back in one way. -/
theorem evidence_append {a b : VerifiedHumanEvidence} {rest other : List UInt8}
    (short : ∀ text ∈ a.texts, InMemory text) (alsoShort : ∀ text ∈ b.texts, InMemory text)
    (same : canonicalHumanEvidenceBytes a ++ rest = canonicalHumanEvidenceBytes b ++ other) :
    a = b ∧ rest = other := by
  have variant {name alsoName : String} {tail alsoTail : List UInt8}
      (few : (ascii name).length < 256 ^ 8) (alsoFew : (ascii alsoName).length < 256 ^ 8)
      (same : pushVecBytes (ascii name) ++ tail = pushVecBytes (ascii alsoName) ++ alsoTail) :
      ascii name = ascii alsoName ∧ tail = alsoTail := lengthPrefixed_append few alsoFew same
  have locals : (ascii "local").length < 256 ^ 8 := by decide
  have remotes : (ascii "remote").length < 256 ^ 8 := by decide
  have apart : ascii "local" ≠ ascii "remote" := by decide
  cases a with
  | «local» client ingress channel request message =>
    cases b with
    | «local» client' ingress' channel' request' message' =>
      simp only [VerifiedHumanEvidence.texts, List.cons_append, List.nil_append,
        List.forall_mem_cons, Option.mem_toList] at short alsoShort
      obtain ⟨c, i, h, r, m⟩ := short
      obtain ⟨c', i', h', r', m'⟩ := alsoShort
      simp only [canonicalHumanEvidenceBytes, List.append_assoc] at same
      obtain ⟨client, same⟩ := text_append c c' (List.append_cancel_left same)
      obtain ⟨ingress, same⟩ := text_append i i' same
      obtain ⟨channel, same⟩ := text_append h h' same
      obtain ⟨request, same⟩ := text_append r r' same
      obtain ⟨message, same⟩ := optional_append m m' same
      exact ⟨by rw [client, ingress, channel, request, message], same⟩
    | remote =>
      simp only [canonicalHumanEvidenceBytes, List.append_assoc] at same
      exact absurd (variant locals remotes same).1 apart
  | remote adapter account ingress channel message request event observed verified =>
    cases b with
    | «local» =>
      simp only [canonicalHumanEvidenceBytes, List.append_assoc] at same
      exact absurd (variant remotes locals same).1 apart.symm
    | remote adapter' account' ingress' channel' message' request' event' observed' verified' =>
      simp only [VerifiedHumanEvidence.texts, List.cons_append, List.nil_append,
        List.forall_mem_cons, Option.mem_toList] at short alsoShort
      obtain ⟨a, c, i, h, m, r, e⟩ := short
      obtain ⟨a', c', i', h', m', r', e'⟩ := alsoShort
      simp only [canonicalHumanEvidenceBytes, List.append_assoc] at same
      obtain ⟨adapter, same⟩ := text_append a a' (List.append_cancel_left same)
      obtain ⟨account, same⟩ := text_append c c' same
      obtain ⟨ingress, same⟩ := text_append i i' same
      obtain ⟨channel, same⟩ := text_append h h' same
      obtain ⟨message, same⟩ := text_append m m' same
      obtain ⟨request, same⟩ := text_append r r' same
      obtain ⟨event, same⟩ := optional_append e e' same
      obtain ⟨observed, same⟩ := optionalI64_append same
      obtain ⟨verified, same⟩ := optionalI64_append same
      exact ⟨by rw [adapter, account, ingress, channel, message, request, event, observed,
        verified], same⟩

/-! The provenance. -/

/-- The bytes that the provenance of an authority is the digest of. -/
def provenanceBytes (authority : VerifiedOwnerAuthority) : List UInt8 :=
  pushVecBytes (utf8Bytes authority.evidenceDigest) ++
    pushVecBytes (utf8Bytes authority.normalizedIntentDigest) ++
    pushVecBytes (utf8Bytes authority.instructionRevision) ++
    pushVecBytes (utf8Bytes authority.instructionDigest) ++
    pushVecBytes (utf8Bytes authority.ownerEnvelopeRevision) ++
    pushVecBytes (utf8Bytes authority.ownerEnvelopeDigest) ++
    pushVecBytes (utf8Bytes authority.authorityKind) ++
    pushVecBytes (utf8Bytes authority.normalizedScopeJson) ++ i64Bytes authority.policyRevision ++
    pushOptionalVecBytes (authority.boundDecisionId.map utf8Bytes) ++
    optionalI64Bytes authority.boundDecisionRevision ++
    pushOptionalVecBytes (authority.boundManifestDigest.map utf8Bytes) ++
    pushOptionalVecBytes (authority.boundChallengeNonceDigest.map utf8Bytes) ++
    i64Bytes authority.createdAt ++ optionalI64Bytes authority.expiresAt

/-- The framed input of a digest in a domain. -/
def framed (domain : String) (bytes : List UInt8) : List UInt8 :=
  pushVecBytes (ascii domain) ++ pushVecBytes bytes

/-- What binding makes of the digests of an authority. -/
structure Digested (C : Crates) (authority : VerifiedOwnerAuthority) : Prop where
  provenance : authority.authorityProvenanceId =
    (C.sha256 (framed "carsinos.execass.authority_provenance.v1" (provenanceBytes authority))).val
  evidence : authority.evidenceDigest = (C.sha256 (framed "carsinos.execass.owner_evidence.v1"
    (canonicalHumanEvidenceBytes authority.evidence))).val
  intent : utf8Length authority.normalizedIntentDigest = 64
  instruction : utf8Length authority.instructionDigest = 64
  envelope : utf8Length authority.ownerEnvelopeDigest = 64
  manifest : ∀ digest ∈ authority.boundManifestDigest, utf8Length digest = 64
  nonce : ∀ digest ∈ authority.boundChallengeNonceDigest, utf8Length digest = 64

section Binding
variable {C : Crates} {S : SerdeJson}

theorem bound_digested {actor : ActorAssurance} {source : OwnerAuthoritySourceInput}
    {manifestDigest nonceDigest : Option Text} {authority : VerifiedOwnerAuthority}
    (bound : bindVerifiedOwnerAuthorityWithBoundDigests C S actor source manifestDigest
      nonceDigest = .ok authority) : Digested C authority := by
  unfold bindVerifiedOwnerAuthorityWithBoundDigests at bound
  split at bound
  · cases bound
  split at bound
  · cases bound
  rename_i evidence _ valid
  dsimp only at bound
  split at bound
  · rename_i intent instruction intended instructed
    cases bound
    simp only [sourceInvalid, Bool.or_eq_true, not_or] at valid
    have manifest := valid.1.1.1.1.1.1.1.1.1.1.2
    have nonce := valid.1.1.1.1.1.1.1.1.1.2
    have hex {digest : Text} (lower : isLowerHexDigest digest = true) : utf8Length digest = 64 := by
      simp only [isLowerHexDigest, Bool.and_eq_true, decide_eq_true_eq] at lower
      exact lower.1
    have either {verified computed : Option Text}
        (given : ¬ verified.any (!isLowerHexDigest ·) = true)
        (made : ∀ digest ∈ computed, utf8Length digest = 64) :
        ∀ digest ∈ verified <|> computed, utf8Length digest = 64 := by
      intro digest member
      cases verified with
      | none => exact made digest member
      | some value =>
        cases member
        exact hex (by simpa using given)
    have taken {value : Option (List UInt8)} {digest : List UInt8 → Text}
        (sized : ∀ bytes, utf8Length (digest bytes) = 64) :
        ∀ text ∈ value.map digest, utf8Length text = 64 := by
      intro text member
      obtain ⟨bytes, -, rfl⟩ := Option.mem_map.mp member
      exact sized bytes
    refine ⟨rfl, rfl, ?_, ?_, (C.sha256 _).property.1, ?_, ?_⟩
    · unfold ownerNormalizedIntentDigest at intended
      split at intended
      · cases intended
      · cases intended
        exact (C.sha256 _).property.1
    · unfold ownerInstructionDigest at instructed
      split at instructed
      · cases instructed
      · cases instructed
        exact (C.sha256 _).property.1
    · exact either manifest (taken fun _ => (C.sha256 _).property.1)
    · exact either nonce (taken fun _ => (C.sha256 _).property.1)
  · cases bound

theorem framed_inj {domain : String} {first second : List UInt8}
    (same : framed domain first = framed domain second) : first = second :=
  (List.append_inj' (List.append_cancel_left same) (by
    have length := congrArg List.length (List.append_cancel_left same)
    simpa [pushVecBytes] using length)).2

theorem digest_inMemory {text : Text} (sized : utf8Length text = 64) : InMemory text :=
  inMemory_of_length (by omega)

/-- What the bytes of a provenance pin. -/
theorem provenance_fields {a b : VerifiedOwnerAuthority} (first : Digested C a)
    (second : Digested C b) (stored : Stored a) (alsoStored : Stored b)
    (same : provenanceBytes a = provenanceBytes b) :
    a.evidenceDigest = b.evidenceDigest ∧
      a = { b with evidence := a.evidence, authorityProvenanceId := a.authorityProvenanceId } := by
  have sized {digest : Sha256Digest} : InMemory digest.val := digest_inMemory digest.property.1
  have evidenceDigest : InMemory a.evidenceDigest ∧ InMemory b.evidenceDigest := by
    rw [first.evidence, second.evidence]
    exact ⟨sized, sized⟩
  have whole : provenanceBytes a ++ [] = provenanceBytes b ++ [] := by rw [same]
  simp only [provenanceBytes, List.append_assoc] at whole
  obtain ⟨evidence, whole⟩ := text_append evidenceDigest.1 evidenceDigest.2 whole
  obtain ⟨intent, whole⟩ := text_append (digest_inMemory first.intent)
    (digest_inMemory second.intent) whole
  obtain ⟨instructionRevision, whole⟩ := text_append stored.instructionRevision
    alsoStored.instructionRevision whole
  obtain ⟨instruction, whole⟩ := text_append (digest_inMemory first.instruction)
    (digest_inMemory second.instruction) whole
  obtain ⟨envelopeRevision, whole⟩ := text_append stored.ownerEnvelopeRevision
    alsoStored.ownerEnvelopeRevision whole
  obtain ⟨envelope, whole⟩ := text_append (digest_inMemory first.envelope)
    (digest_inMemory second.envelope) whole
  obtain ⟨kind, whole⟩ := text_append stored.authorityKind alsoStored.authorityKind whole
  obtain ⟨scope, whole⟩ := text_append stored.normalizedScopeJson alsoStored.normalizedScopeJson
    whole
  obtain ⟨policy, whole⟩ := i64_append whole
  obtain ⟨decision, whole⟩ := optional_append stored.boundDecisionId alsoStored.boundDecisionId
    whole
  obtain ⟨decisionRevision, whole⟩ := optionalI64_append whole
  obtain ⟨manifest, whole⟩ := optional_append
    (fun digest member => digest_inMemory (first.manifest digest member))
    (fun digest member => digest_inMemory (second.manifest digest member)) whole
  obtain ⟨nonce, whole⟩ := optional_append
    (fun digest member => digest_inMemory (first.nonce digest member))
    (fun digest member => digest_inMemory (second.nonce digest member)) whole
  obtain ⟨created, whole⟩ := i64_append whole
  obtain ⟨expires, -⟩ := optionalI64_append whole
  refine ⟨evidence, ?_⟩
  cases a
  cases b
  simp_all

/-- Two canonical authorities of one provenance stand for authorities of one provenance. -/
theorem canonical_provenance {authority : VerifiedOwnerAuthority}
    {canonical : Manifest.CanonicalOwnerAuthority} (digested : Digested C authority)
    (made : Manifest.canonicalizeOwnerAuthority C authority = .ok canonical) :
    canonical.authorityProvenanceId = authority.authorityProvenanceId := by
  unfold Manifest.canonicalizeOwnerAuthority at made
  split at made
  · cases made
  simp only [bind_ok] at made
  obtain ⟨_, -, _, provenance, _, -, _, -, _, -, _, -, _, -, _, -, _, -, _, -, _, -, _, -, made⟩ :=
    made
  cases made
  rw [digested.provenance] at provenance ⊢
  exact Except.ok.inj (provenance.symm.trans (Manifest.normal_digest _))

/-- Where the two digests of provenance and evidence do not collide, authorities of one provenance
are one authority; and authorities of different provenance stay apart in canonical form. -/
theorem provenance_pins_authority {actor otherActor : ActorAssurance}
    {source otherSource : OwnerAuthoritySourceInput}
    {manifestDigest nonceDigest otherManifestDigest otherNonceDigest : Option Text}
    {authority other : VerifiedOwnerAuthority}
    (bound : bindVerifiedOwnerAuthorityWithBoundDigests C S actor source manifestDigest
      nonceDigest = .ok authority)
    (alsoBound : bindVerifiedOwnerAuthorityWithBoundDigests C S otherActor otherSource
      otherManifestDigest otherNonceDigest = .ok other)
    (stored : Stored authority) (alsoStored : Stored other)
    (provenanceFree : CollisionFree C
      (framed "carsinos.execass.authority_provenance.v1" (provenanceBytes authority))
      (framed "carsinos.execass.authority_provenance.v1" (provenanceBytes other)))
    (evidenceFree : CollisionFree C
      (framed "carsinos.execass.owner_evidence.v1" (canonicalHumanEvidenceBytes authority.evidence))
      (framed "carsinos.execass.owner_evidence.v1" (canonicalHumanEvidenceBytes other.evidence))) :
    (authority.authorityProvenanceId = other.authorityProvenanceId → authority = other) ∧
      ∀ canonical otherCanonical,
        Manifest.canonicalizeOwnerAuthority C authority = .ok canonical →
        Manifest.canonicalizeOwnerAuthority C other = .ok otherCanonical →
        authority.authorityProvenanceId ≠ other.authorityProvenanceId →
        canonical ≠ otherCanonical := by
  have first := bound_digested bound
  have second := bound_digested alsoBound
  constructor
  · intro same
    have digests := same
    rw [first.provenance, second.provenance] at digests
    have bytes := framed_inj (provenanceFree (Subtype.ext digests))
    obtain ⟨evidenceDigest, fields⟩ := provenance_fields first second stored alsoStored bytes
    rw [first.evidence, second.evidence] at evidenceDigest
    have whole := framed_inj (evidenceFree (Subtype.ext evidenceDigest))
    have evidence : authority.evidence = other.evidence :=
      (evidence_append stored.evidence alsoStored.evidence (congrArg (· ++ []) whole)).1
    rw [fields, evidence, same]
  · intro canonical otherCanonical made alsoMade apart same
    apply apart
    rw [← canonical_provenance first made, ← canonical_provenance second alsoMade, same]

end Binding

/-- The authority of an owner's request. -/
def requestAuthority : VerifiedOwnerAuthority :=
  originalRequestAuthority asciiCrates (.local ['c'] ['i'] ['a'] ['r'] none)
    (Manifest.scopedRequest (Json.obj []).print)

theorem requestAuthority_stored : Stored requestAuthority := by
  have letter {text : Text} (short : utf8Length text ≤ 64) : InMemory text :=
    inMemory_of_length (short.trans (by decide))
  refine ⟨?_, letter (by decide), letter (by decide), letter (by decide), letter (by decide), ?_⟩
  · intro text member
    have texts : ∀ text ∈ [['c'], ['i'], ['a'], ['r']], utf8Length text ≤ 64 := by decide
    exact letter (texts text member)
  · intro id none
    cases none

theorem provenance_pins_request :
    (∃ source, bindVerifiedOwnerAuthorityWithBoundDigests asciiCrates printedJson
      Manifest.localOwner source none none = .ok requestAuthority) ∧
    ¬ (requestAuthority.authorityProvenanceId = requestAuthority.authorityProvenanceId ∧
      requestAuthority ≠ requestAuthority) := by
  have bound : bindVerifiedOwnerAuthorityWithBoundDigests asciiCrates printedJson
      Manifest.localOwner _ none none = .ok requestAuthority :=
    @bindOriginalRequest_ok asciiCrates printedJson Manifest.localOwner
      (.local ['c'] ['i'] ['a'] ['r'] none) _ _ rfl rfl (@Manifest.scopedRequest_built []
        (by simp [Json.Everywhere, Json.EveryField, Spelled]))
  have pinned := provenance_pins_authority bound bound requestAuthority_stored
    requestAuthority_stored (fun _ => rfl) fun _ => rfl
  exact ⟨⟨_, bound⟩, fun both => both.2 (pinned.1 both.1)⟩

end CarsinOS.Actor
