import CarsinOS.Actor.Authority

/-! The public functions that bind an authenticated owner to one source each. -/
namespace CarsinOS.Actor
open CarsinOS.Lib

structure OriginalRequestAuthoritySource where
  normalizedIntent : Text
  instructionRevision : Text
  instructionBytes : List UInt8
  ownerEnvelopeRevision : Text
  canonicalOwnerEnvelopeJson : Text
  canonicalScopeJson : Text
  policyRevision : I64
  createdAtMs : I64
  expiresAtMs : Option I64

structure FollowUpAmendmentAuthoritySource where
  targetDelegationId : Text
  expectedDelegationRevision : I64
  expectedPlanRevision : I64
  normalizedIntent : Text
  instructionRevision : Text
  instructionBytes : List UInt8
  ownerEnvelopeRevision : Text
  canonicalOwnerEnvelopeJson : Text
  policyRevision : I64
  createdAtMs : I64

inductive DecisionResult where
  | confirmAndContinue
  | revise
  | decline
  | stop

def DecisionResult.name : DecisionResult → Text
  | .confirmAndContinue => "confirm_and_continue".toList
  | .revise => "revise".toList
  | .decline => "decline".toList
  | .stop => "stop".toList

structure DecisionResolutionAuthoritySource where
  normalizedIntent : Text
  canonicalManifestJson : Text
  canonicalManifestDigest : Text
  decisionId : Text
  decisionRevision : I64
  policyRevision : I64
  selectedLogicalActionId : Text
  decisionResult : DecisionResult
  requestCorrelationId : Text
  idempotencyKey : Text
  revisionTextDigest : Option Text
  challengeResponseDigest : Option Text
  challengeNonceDigest : Text
  createdAtMs : I64
  expiresAtMs : I64

structure PolicySnapshotAuthoritySource where
  canonicalMutationBytes : List UInt8
  canonicalSafeSnapshotJson : Text
  policyRevision : I64
  policySnapshotDigest : Text
  createdAtMs : I64

structure RuntimeSettingsSnapshotAuthoritySource where
  canonicalMutationBytes : List UInt8
  canonicalSafeSnapshotJson : Text
  settingsRevision : I64
  settingsDigest : Text
  policyRevision : I64
  createdAtMs : I64

section Bind
variable (C : Crates) (S : SerdeJson)

/-- `build` of a source whose fields were all given. -/
def OriginalRequestAuthoritySource.build (source : OriginalRequestAuthoritySource) :
    Bound OriginalRequestAuthoritySource :=
  if !allExactPresent [source.normalizedIntent, source.instructionRevision,
      source.ownerEnvelopeRevision] || source.instructionBytes = [] ||
      source.policyRevision.val < 0 || source.createdAtMs.val < 0 ||
      source.expiresAtMs.any (·.val ≤ source.createdAtMs.val) ||
      !isCanonicalJsonObject S source.canonicalOwnerEnvelopeJson ||
      !isCanonicalJsonObject S source.canonicalScopeJson then .error .invalidField
  else .ok source

def FollowUpAmendmentAuthoritySource.build (source : FollowUpAmendmentAuthoritySource) :
    Bound FollowUpAmendmentAuthoritySource :=
  if !allExactPresent [source.targetDelegationId, source.normalizedIntent,
      source.instructionRevision, source.ownerEnvelopeRevision] ||
      source.expectedDelegationRevision.val ≤ 0 || source.expectedPlanRevision.val ≤ 0 ||
      source.instructionBytes = [] || source.policyRevision.val ≤ 0 ||
      source.createdAtMs.val < 0 ||
      !isCanonicalJsonObject S source.canonicalOwnerEnvelopeJson then .error .invalidField
  else .ok source

def bindOriginalRequestOwnerAuthority (actor : ActorAssurance)
    (source : OriginalRequestAuthoritySource) : Bound VerifiedOwnerAuthority :=
  bindVerifiedOwnerAuthority C S actor {
    normalizedIntent := source.normalizedIntent
    instructionRevision := source.instructionRevision
    instructionBytes := source.instructionBytes
    ownerEnvelopeRevision := source.ownerEnvelopeRevision
    ownerEnvelopeJson := source.canonicalOwnerEnvelopeJson
    authorityKind := "original_request".toList
    normalizedScopeJson := source.canonicalScopeJson
    policyRevision := source.policyRevision
    boundDecisionId := none
    boundDecisionRevision := none
    boundManifestBytes := none
    challengeNonceBytes := none
    createdAt := source.createdAtMs
    expiresAt := source.expiresAtMs }

def bindFollowUpAmendmentOwnerAuthority (actor : ActorAssurance)
    (source : FollowUpAmendmentAuthoritySource) : Bound VerifiedOwnerAuthority :=
  bindVerifiedOwnerAuthority C S actor {
    normalizedIntent := source.normalizedIntent
    instructionRevision := source.instructionRevision
    instructionBytes := source.instructionBytes
    ownerEnvelopeRevision := source.ownerEnvelopeRevision
    ownerEnvelopeJson := source.canonicalOwnerEnvelopeJson
    authorityKind := "action_specific_owner_amendment".toList
    normalizedScopeJson := (Json.obj [
      ("delegation_id".toList, .str source.targetDelegationId),
      ("delegation_revision".toList, .num source.expectedDelegationRevision.toText),
      ("plan_revision".toList, .num source.expectedPlanRevision.toText)]).print
    policyRevision := source.policyRevision
    boundDecisionId := none
    boundDecisionRevision := none
    boundManifestBytes := none
    challengeNonceBytes := none
    createdAt := source.createdAtMs
    expiresAt := none }

def bindDecisionResolutionOwnerAuthority (actor : ActorAssurance)
    (source : DecisionResolutionAuthoritySource) : Bound VerifiedOwnerAuthority :=
  if !allExactPresent [source.normalizedIntent, source.canonicalManifestJson, source.decisionId,
      source.selectedLogicalActionId, source.requestCorrelationId, source.idempotencyKey] ||
      source.decisionRevision.val ≤ 0 || source.policyRevision.val ≤ 0 ||
      source.createdAtMs.val ≤ 0 || source.expiresAtMs.val ≤ source.createdAtMs.val ||
      !isLowerHexDigest source.canonicalManifestDigest ||
      !isLowerHexDigest source.challengeNonceDigest ||
      (S.value source.canonicalManifestJson).isNone ||
      source.revisionTextDigest.any (!isLowerHexDigest ·) ||
      source.challengeResponseDigest.any (!isLowerHexDigest ·) then .error .invalidField
  else
    let canonicalResolution := canonicalJson S (Json.obj [
      ("challenge_nonce_digest".toList, .str source.challengeNonceDigest),
      ("challenge_response_digest".toList, Json.optional source.challengeResponseDigest),
      ("decision_id".toList, .str source.decisionId),
      ("decision_result".toList, .str source.decisionResult.name),
      ("decision_revision".toList, .num source.decisionRevision.toText),
      ("idempotency_key".toList, .str source.idempotencyKey),
      ("request_correlation_id".toList, .str source.requestCorrelationId),
      ("revision_text_digest".toList, Json.optional source.revisionTextDigest),
      ("selected_logical_action_id".toList, .str source.selectedLogicalActionId)]).print
    bindVerifiedOwnerAuthorityWithBoundDigests C S actor {
      normalizedIntent := source.normalizedIntent
      instructionRevision := "execass-decision-resolution-v1".toList
      instructionBytes := utf8Bytes canonicalResolution
      ownerEnvelopeRevision := "execass-decision-resolution-v1".toList
      ownerEnvelopeJson := canonicalResolution
      authorityKind := "decision_resolution".toList
      normalizedScopeJson := canonicalResolution
      policyRevision := source.policyRevision
      boundDecisionId := some source.decisionId
      boundDecisionRevision := some source.decisionRevision
      boundManifestBytes := none
      challengeNonceBytes := none
      createdAt := source.createdAtMs
      expiresAt := some source.expiresAtMs
    } (some source.canonicalManifestDigest) (some source.challengeNonceDigest)

/-- The authority of one snapshot of server settings. -/
def bindSnapshotOwnerAuthority (actor : ActorAssurance) (intent instruction envelope kind : String)
    (scope : Json) (mutationBytes : List UInt8) (safeSnapshotJson : Text)
    (policyRevision createdAtMs : I64) : Bound VerifiedOwnerAuthority :=
  bindVerifiedOwnerAuthority C S actor {
    normalizedIntent := intent.toList
    instructionRevision := instruction.toList
    instructionBytes := mutationBytes
    ownerEnvelopeRevision := envelope.toList
    ownerEnvelopeJson := safeSnapshotJson
    authorityKind := kind.toList
    normalizedScopeJson := scope.print
    policyRevision
    boundDecisionId := none
    boundDecisionRevision := none
    boundManifestBytes := none
    challengeNonceBytes := none
    createdAt := createdAtMs
    expiresAt := none }

def bindPolicySnapshotOwnerAuthority (actor : ActorAssurance)
    (source : PolicySnapshotAuthoritySource) : Bound VerifiedOwnerAuthority :=
  if source.policyRevision.val ≤ 0 || utf8Length source.policySnapshotDigest != 64 then
    .error .invalidField
  else
    bindSnapshotOwnerAuthority C S actor "update ExecAss policy snapshot"
      "execass-policy-update-v1" "execass-policy-snapshot-v1" "policy_snapshot"
      (.obj [("policy_revision".toList, .num source.policyRevision.toText),
        ("policy_snapshot_digest".toList, .str source.policySnapshotDigest)])
      source.canonicalMutationBytes source.canonicalSafeSnapshotJson source.policyRevision
      source.createdAtMs

def bindRuntimeSettingsSnapshotOwnerAuthority (actor : ActorAssurance)
    (source : RuntimeSettingsSnapshotAuthoritySource) : Bound VerifiedOwnerAuthority :=
  if source.settingsRevision.val ≤ 0 || source.policyRevision.val ≤ 0 ||
      utf8Length source.settingsDigest != 64 then .error .invalidField
  else
    bindSnapshotOwnerAuthority C S actor "update ExecAss runtime settings snapshot"
      "execass-runtime-settings-update-v1" "execass-runtime-settings-snapshot-v1"
      "runtime_settings_snapshot"
      (.obj [("settings_digest".toList, .str source.settingsDigest),
        ("settings_revision".toList, .num source.settingsRevision.toText)])
      source.canonicalMutationBytes source.canonicalSafeSnapshotJson source.policyRevision
      source.createdAtMs

/-- An authority some binding function made. -/
inductive Minted : VerifiedOwnerAuthority → Prop where
  | originalRequest {actor : ActorAssurance} {source built : OriginalRequestAuthoritySource}
      {authority : VerifiedOwnerAuthority} : source.build S = .ok built →
      bindOriginalRequestOwnerAuthority C S actor built = .ok authority → Minted authority
  | followUpAmendment {actor : ActorAssurance} {source built : FollowUpAmendmentAuthoritySource}
      {authority : VerifiedOwnerAuthority} : source.build S = .ok built →
      bindFollowUpAmendmentOwnerAuthority C S actor built = .ok authority → Minted authority
  | decisionResolution {actor : ActorAssurance} {source : DecisionResolutionAuthoritySource}
      {authority : VerifiedOwnerAuthority} :
      bindDecisionResolutionOwnerAuthority C S actor source = .ok authority → Minted authority
  | policySnapshot {actor : ActorAssurance} {source : PolicySnapshotAuthoritySource}
      {authority : VerifiedOwnerAuthority} :
      bindPolicySnapshotOwnerAuthority C S actor source = .ok authority → Minted authority
  | runtimeSettingsSnapshot {actor : ActorAssurance}
      {source : RuntimeSettingsSnapshotAuthoritySource} {authority : VerifiedOwnerAuthority} :
      bindRuntimeSettingsSnapshotOwnerAuthority C S actor source = .ok authority →
      Minted authority

end Bind

section Scope
variable {C : Crates} {S : SerdeJson} {authority : VerifiedOwnerAuthority}

/-- The scope of an authority is the compact text of some JSON tree. -/
def ScopeText (authority : VerifiedOwnerAuthority) : Prop :=
  ∃ t : Json, t.Everywhere Spelled ∧ authority.normalizedScopeJson = t.print

theorem bind_scope {actor : ActorAssurance} {source : OwnerAuthoritySourceInput}
    {manifestDigest nonceDigest : Option Text}
    (bound : bindVerifiedOwnerAuthorityWithBoundDigests C S actor source manifestDigest nonceDigest
      = .ok authority) : ScopeText authority := by
  unfold bindVerifiedOwnerAuthorityWithBoundDigests at bound
  split at bound
  · contradiction
  split at bound
  · contradiction
  rename_i valid
  dsimp only at bound
  split at bound
  · cases bound
    have parsed : (S.value source.normalizedScopeJson).isSome = true := by
      simp only [sourceInvalid, Bool.or_eq_true, not_or] at valid
      exact Option.isSome_iff_ne_none.mpr (by simpa using valid.1.2)
    obtain ⟨t, known⟩ := Option.isSome_iff_exists.mp parsed
    exact ⟨t, S.value_spelled _ t known, by simp [canonicalJson, known]⟩
  · contradiction

theorem minted_scope (minted : Minted C S authority) : ScopeText authority := by
  cases minted with
  | originalRequest _ bound => exact bind_scope bound
  | followUpAmendment _ bound => exact bind_scope bound
  | decisionResolution bound =>
    unfold bindDecisionResolutionOwnerAuthority at bound
    split at bound
    · contradiction
    · exact bind_scope bound
  | policySnapshot bound =>
    unfold bindPolicySnapshotOwnerAuthority at bound
    split at bound
    · contradiction
    · exact bind_scope bound
  | runtimeSettingsSnapshot bound =>
    unfold bindRuntimeSettingsSnapshotOwnerAuthority at bound
    split at bound
    · contradiction
    · exact bind_scope bound

end Scope

section Request
variable {C : Crates} {S : SerdeJson}

/-- The authority of an original request. -/
def originalRequestAuthority (C : Crates) (evidence : VerifiedHumanEvidence)
    (source : OriginalRequestAuthoritySource) : VerifiedOwnerAuthority :=
  let evidenceDigest := digestHex C (ascii "carsinos.execass.owner_evidence.v1")
    (canonicalHumanEvidenceBytes evidence)
  let normalizedIntentDigest := digestHex C (ascii "carsinos.execass.normalized_intent.v1")
    (utf8Bytes source.normalizedIntent)
  let instructionDigest := digestHex C (ascii "carsinos.execass.owner_instruction.v1")
    source.instructionBytes
  let ownerEnvelopeDigest := digestHex C (ascii "carsinos.execass.owner_envelope.v1")
    (utf8Bytes source.canonicalOwnerEnvelopeJson)
  { evidence
    authorityProvenanceId := authorityProvenanceId C evidenceDigest normalizedIntentDigest {
      normalizedIntent := source.normalizedIntent
      instructionRevision := source.instructionRevision
      instructionBytes := source.instructionBytes
      ownerEnvelopeRevision := source.ownerEnvelopeRevision
      ownerEnvelopeJson := source.canonicalOwnerEnvelopeJson
      authorityKind := "original_request".toList
      normalizedScopeJson := source.canonicalScopeJson
      policyRevision := source.policyRevision
      boundDecisionId := none
      boundDecisionRevision := none
      boundManifestBytes := none
      challengeNonceBytes := none
      createdAt := source.createdAtMs
      expiresAt := source.expiresAtMs
    } instructionDigest ownerEnvelopeDigest source.canonicalScopeJson none none
    normalizedIntentDigest
    instructionRevision := source.instructionRevision
    instructionDigest
    ownerEnvelopeRevision := source.ownerEnvelopeRevision
    ownerEnvelopeDigest
    authorityKind := "original_request".toList
    normalizedScopeJson := source.canonicalScopeJson
    policyRevision := source.policyRevision
    boundDecisionId := none
    boundDecisionRevision := none
    boundManifestDigest := none
    boundChallengeNonceDigest := none
    evidenceDigest
    createdAt := source.createdAtMs
    expiresAt := source.expiresAtMs }

theorem canonical_object {text : Text} (canonical : isCanonicalJsonObject S text = true) :
    (S.value text).isNone = false ∧ canonicalJson S text = text ∧ trimChars text ≠ [] := by
  unfold isCanonicalJsonObject at canonical
  split at canonical
  · rename_i fields parsed
    have printed : (Json.obj fields).print = text := by simpa using canonical
    refine ⟨by rw [parsed]; rfl, ?_, ?_⟩
    · simpa only [canonicalJson, parsed] using printed
    · have brace : '{' ∈ text := by
        rw [← printed]
        exact List.mem_cons_self
      exact List.ne_nil_of_mem (mem_trimChars brace (by decide))
  · contradiction

theorem exact_present {values : List Text} (exact : allExactPresent values = true) :
    ∀ value ∈ values, trimChars value ≠ [] := by
  intro value member
  have present := List.all_eq_true.mp exact value member
  simp only [Bool.and_eq_true, decide_eq_true_eq] at present
  rw [present.1.2]
  exact present.1.1

/-- The request of an owner that was built is bound. -/
theorem bindOriginalRequest_ok {actor : ActorAssurance} {evidence : VerifiedHumanEvidence}
    {source built : OriginalRequestAuthoritySource} (owner : actor.maySubmitOrAmendOwnerIntent = true)
    (human : actor.humanEvidence = some evidence) (valid : source.build S = .ok built) :
    bindOriginalRequestOwnerAuthority C S actor built =
      .ok (originalRequestAuthority C evidence built) := by
  unfold OriginalRequestAuthoritySource.build at valid
  split at valid
  · contradiction
  rename_i accepted
  cases valid
  simp only [Bool.or_eq_true, not_or, Bool.not_eq_true, Bool.not_eq_false'] at accepted
  obtain ⟨⟨⟨⟨⟨⟨exact, instruction⟩, policy⟩, created⟩, expires⟩, envelope⟩, scope⟩ := accepted
  obtain ⟨envelopeParsed, envelopeSame, envelopePresent⟩ := canonical_object envelope
  obtain ⟨scopeParsed, scopeSame, scopePresent⟩ := canonical_object scope
  have present := exact_present exact
  simp only [List.forall_mem_cons] at present
  obtain ⟨intent, revision, envelopeRevision, -⟩ := present
  have texts : allPresent [source.normalizedIntent, source.instructionRevision,
      source.ownerEnvelopeRevision, "original_request".toList, source.canonicalScopeJson,
      source.canonicalOwnerEnvelopeJson] = true := by
    have kind : trimChars "original_request".toList ≠ [] := by decide
    simp [-String.reduceToList, allPresent, intent, revision, envelopeRevision, scopePresent, envelopePresent, kind]
  have kind : authorityKinds.contains "original_request".toList = true := by decide
  unfold bindOriginalRequestOwnerAuthority bindVerifiedOwnerAuthority
    bindVerifiedOwnerAuthorityWithBoundDigests
  have fine : sourceInvalid S actor {
      normalizedIntent := source.normalizedIntent
      instructionRevision := source.instructionRevision
      instructionBytes := source.instructionBytes
      ownerEnvelopeRevision := source.ownerEnvelopeRevision
      ownerEnvelopeJson := source.canonicalOwnerEnvelopeJson
      authorityKind := "original_request".toList
      normalizedScopeJson := source.canonicalScopeJson
      policyRevision := source.policyRevision
      boundDecisionId := none
      boundDecisionRevision := none
      boundManifestBytes := none
      challengeNonceBytes := none
      createdAt := source.createdAtMs
      expiresAt := source.expiresAtMs } none none = false := by
    simp only [sourceInvalid, owner, texts, kind, policy, instruction, expires, scopeParsed,
      envelopeParsed]
    rfl
  have words : ownerNormalizedIntentDigest C source.normalizedIntent =
      some (digestHex C (ascii "carsinos.execass.normalized_intent.v1")
        (utf8Bytes source.normalizedIntent)) := if_neg intent
  have bytes : ownerInstructionDigest C source.instructionBytes =
      some (digestHex C (ascii "carsinos.execass.owner_instruction.v1")
        source.instructionBytes) := if_neg (by simpa using instruction)
  simp only [human, fine, Bool.false_eq_true, if_false, words, bytes, scopeSame, envelopeSame]
  rfl

end Request
end CarsinOS.Actor
