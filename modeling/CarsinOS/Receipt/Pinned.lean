import CarsinOS.Canonical.Stored
import CarsinOS.Lib.HashChain
import CarsinOS.Receipt.Boundary
import CarsinOS.Receipt.History

/-! What two databases with one receipt count and one head digest have in common. -/
namespace CarsinOS.Receipt
open CarsinOS.Lib CarsinOS.Canonical

/-! What a receipt that passes says about its columns. -/

structure Bound (row : PersistedReceipt) (payload : Json) : Prop where
  receiptId : jsonStr payload ["receipt_id"] = some row.receiptId
  appendIdentity : jsonStr payload ["append_identity"] = row.appendIdentity
  receiptKind : jsonStr payload ["receipt_kind"] = row.receiptKind
  causationId : jsonStr payload ["causation", "id"] = some row.causationId
  causationEventId : jsonStr payload ["event", "event_id"] = some row.causationEventId
  subjectKind : jsonStr payload ["subject", "kind"] = row.subjectKind
  subjectId : jsonStr payload ["subject", "id"] = row.subjectId
  actorType : jsonStr payload ["actor", "actor_type"] = some row.actorType
  actorIdentity : jsonStr payload ["actor", "actor_identity"] = some row.actorIdentity
  provenance :
    jsonStr payload ["actor", "authority_provenance_id"] = row.actorAuthorityProvenanceId
  hostInstance : jsonStr payload ["runtime", "host_instance_id"] = row.runtimeHostInstanceId
  summary : jsonStr payload ["redacted_summary"] = some row.redactedSummary
  keyId : jsonStr payload ["key", "key_id"] = some row.key.keyId
  stateRevision : jsonI64 payload ["state_revision"] = some row.stateRevision
  subjectRevision : jsonI64 payload ["subject", "revision"] = row.subjectRevision
  hostGeneration : jsonI64 payload ["runtime", "host_generation"] = some row.runtimeHostGeneration
  fencingToken : jsonI64 payload ["runtime", "fencing_token"] = row.runtimeFencingToken
  occurredAt : jsonI64 payload ["occurred_at_ms"] = some row.occurredAt
  committedAt : jsonI64 payload ["committed_at_ms"] = some row.committedAt
  keyGeneration : jsonI64 payload ["key", "key_generation"] = some row.key.keyGeneration
  scope : scopeMatches row payload = true
  parent : jsonOptionalString payload ["delegation_parent_digest"] = row.previousReceiptDigest
  globalParent : jsonOptionalString payload ["global_parent_digest"] =
    row.globalPreviousReceiptDigest

structure Placed (progress : Progress) (expectedGlobalSequence : Int) (row : PersistedReceipt) :
    Prop where
  sequence : row.globalSequence = expectedGlobalSequence
  version : row.serializationVersion = SERIALIZATION_VERSION
  algorithm : row.hashAlgorithm = HASH_ALGORITHM
  globalDigest : row.globalPreviousReceiptDigest = progress.globalHead
  globalId : row.globalParentReceiptId = progress.globalHeadId
  delegation : ∀ d, row.delegationId = some d →
    row.receiptSequence = some ((progress.delegationHeads.lookup d).elim 0 (·.count) + 1) ∧
    row.parentReceiptId = (progress.delegationHeads.lookup d).bind (·.headReceiptId)
  runtime : row.delegationId = none → row.receiptSequence = none ∧ row.parentReceiptId = none

section Rows
variable {ω : Type} {C : ReceiptCrates} {custody : KeyCustody} {db other : Database ω}

/-- The payload that canonical bytes are read as. -/
def payloadOf (C : ReceiptCrates) (bytes : List UInt8) : Option Json :=
  (fromUtf8 bytes).bind C.json.value

structure Verified (C : ReceiptCrates) (custody : KeyCustody) (db : Database ω)
    (expectedStateRootGeneration : Int) (progress : Progress) (expectedGlobalSequence : Int)
    (row : PersistedReceipt) (payload : Json) : Prop where
  placed : Placed progress expectedGlobalSequence row
  read : payloadOf C row.canonicalPayload = some payload
  digest : digestHex C DIGEST_DOMAIN row.canonicalPayload = row.receiptDigest
  bound : Bound row payload
  generation : jsonI64 payload ["state_root_generation"] = some expectedStateRootGeneration
  key : ∃ registered,
    verifyKey C custody db row expectedStateRootGeneration = .ok registered ∧
    verifyRotation C custody progress.previousKey row registered expectedStateRootGeneration
      payload = .ok ()
  evidence : verifyEvidenceBinding db row payload = .ok ()

/-- The receipts of a delegation, in the order of the rows. -/
def ofDelegation (d : Text) (rows : List PersistedReceipt) : List PersistedReceipt :=
  rows.filter (·.delegationId = some d)

/-- The byte strings whose digests are the digests of the receipts. -/
def hashedBytes (db : Database ω) : List (List UInt8) :=
  db.orderedReceipts.map fun row =>
    lengthPrefix DIGEST_DOMAIN ++ lengthPrefix row.canonicalPayload

def CollisionFree (C : ReceiptCrates) (db other : Database ω) : Prop :=
  ∀ a ∈ hashedBytes db, ∀ b ∈ hashedBytes other, C.sha256 a = C.sha256 b → a = b

end Rows

/-! A store with one receipt and a second delegation that has none. -/

/-- The crates with any digest and any tag. -/
noncomputable def sampleCrates (sha256 : List UInt8 → Sha256Digest)
    (hmacSha256 : List UInt8 → List UInt8 → Sha256Digest) : ReceiptCrates where
  toCrates := { asciiCrates with sha256 }
  hmacSha256
  json := printedJson

def sampleCustody : KeyCustody where
  rootIdentity := "sha256:root".toList
  loadKey _ := .ok (List.replicate 32 0)

def sampleKey : ReceiptKeyRef := ⟨"key-1".toList, 1⟩

def one : Json := .num ['1']

def samplePayload : Json := .obj [
  ("actor".toList, .obj [("actor_identity".toList, .str "owner".toList),
    ("actor_type".toList, .str "human_local".toList),
    ("authenticated_ingress".toList, .str "desktop".toList),
    ("authority_provenance_id".toList, .str "authority-1".toList),
    ("channel_assurance".toList, .str "local".toList),
    ("credential_identity".toList, .str "owner".toList)]),
  ("append_identity".toList, .str "append-1".toList),
  ("causation".toList, .obj [("id".toList, .str "cause-1".toList),
    ("kind".toList, .str "plan".toList)]),
  ("committed_at_ms".toList, one),
  ("delegation_id".toList, .str "delegation-1".toList),
  ("delegation_parent_digest".toList, .null),
  ("delegation_sequence".toList, one),
  ("event".toList, .obj [("aggregate_id".toList, .str "delegation-1".toList),
    ("aggregate_revision".toList, one), ("causation_id".toList, .str "cause-1".toList),
    ("correlation_id".toList, .str "correlation-1".toList),
    ("event_id".toList, .str "event-1".toList),
    ("event_name".toList, .str "execass.v1.delegation.transitioned".toList), ("global_sequence".toList, one),
    ("occurred_at_ms".toList, one), ("schema_version".toList, .str "1".toList)]),
  ("evidence_refs".toList, .arr []),
  ("global_parent_digest".toList, .null),
  ("global_sequence".toList, one),
  ("key".toList, .obj [("key_generation".toList, one), ("key_id".toList, .str "key-1".toList),
    ("tag_algorithm".toList, .str TAG_ALGORITHM)]),
  ("occurred_at_ms".toList, one),
  ("receipt_id".toList, .str "receipt-1".toList),
  ("receipt_kind".toList, .str "plan".toList),
  ("redacted_summary".toList, .str "done".toList),
  ("rotation".toList, .null),
  ("runtime".toList, .obj [("fencing_token".toList, one), ("host_generation".toList, one),
    ("host_instance_id".toList, .str "host-1".toList),
    ("installation_identity".toList, .str "installation-1".toList),
    ("os_user_identity_digest".toList, .str "user-1".toList),
    ("ownership_scope".toList, .str "user".toList)]),
  ("schema".toList, .str "carsinos.execass.receipt".toList),
  ("state_revision".toList, one),
  ("state_root_generation".toList, one),
  ("subject".toList, .obj [("id".toList, .str "delegation-1".toList),
    ("kind".toList, .str "delegation".toList), ("revision".toList, one)]),
  ("transaction_id".toList, .str "transaction-1".toList),
  ("version".toList, one)]

theorem samplePayload_stored : Stored asciiNormalization 32 samplePayload := by
  have unit : ∃ i : I64, ['1'] = i.toText := ⟨⟨1, by decide⟩, rfl⟩
  refine ⟨by decide, ?_⟩
  simp only [samplePayload, one, Json.Everywhere, Json.EveryItem, Json.EveryField, Kept,
    asciiNormalization, id_eq, unit, List.length_nil, Nat.zero_le, and_true, true_and,
    implies_true, Entries.Sorted]
  decide

theorem samplePayload_spelled : samplePayload.Everywhere Spelled :=
  stored_spelled samplePayload_stored.2

def sampleBytes : List UInt8 := utf8Bytes samplePayload.print

theorem small_hexdigits : ∀ n < 103, isAsciiHexdigit (Char.ofNat n) = true →
    (Char.ofNat n).toLower = Char.ofNat n →
    ((Char.ofNat n).isDigit || ('a' ≤ Char.ofNat n && Char.ofNat n ≤ 'f')) = true := by decide

theorem lower_hexdigit {c : Char} (digit : isAsciiHexdigit c = true) (fixed : c.toLower = c) :
    (c.isDigit || ('a' ≤ c && c ≤ 'f')) = true := by
  have range := hexdigit_range digit
  have known := small_hexdigits c.toNat (by omega)
  rw [Char.ofNat_toNat] at known
  exact known digit fixed

theorem digest_lower (digest : Sha256Digest) : validateDigest digest.val = .ok () := by
  obtain ⟨long, digits, low⟩ := digest.property
  have small : digest.val.all (fun c => c.isDigit || ('a' ≤ c && c ≤ 'f')) = true := by
    rw [List.all_eq_true] at digits ⊢
    intro c member
    have fixed : c.toLower = c := by
      have same : digest.val.map Char.toLower = digest.val.map id := by rw [low, List.map_id]
      exact List.map_inj_left.mp same c member
    exact lower_hexdigit (digits c member) fixed
  rw [validateDigest, if_neg (by simp [long, small])]

theorem receiptTag_signed (C : ReceiptCrates) (key domain : List UInt8) (rootIdentity : Text)
    (stateRootGeneration : Int) (keyRef : ReceiptKeyRef) (digest : Sha256Digest) :
    receiptTag C key domain rootIdentity stateRootGeneration keyRef digest.val =
      .ok (C.hmacSha256 key (lengthPrefix domain ++ lengthPrefix (utf8Bytes rootIdentity) ++
        i64Bytes stateRootGeneration ++ lengthPrefix (utf8Bytes keyRef.keyId) ++
        i64Bytes keyRef.keyGeneration ++ lengthPrefix (hexPairs digest.val))).val := by
  rw [receiptTag, decodeHex, digest_lower]
  rfl

section Sample
variable (sha256 : List UInt8 → Sha256Digest)
  (hmacSha256 : List UInt8 → List UInt8 → Sha256Digest)

noncomputable def sampleDigest : Text := (sha256 (lengthPrefix DIGEST_DOMAIN ++
  lengthPrefix sampleBytes)).val

noncomputable def sampleTag : Text := (hmacSha256 (List.replicate 32 0)
  (lengthPrefix TAG_DOMAIN ++ lengthPrefix (utf8Bytes sampleCustody.rootIdentity) ++ i64Bytes 1 ++
    lengthPrefix (utf8Bytes sampleKey.keyId) ++ i64Bytes sampleKey.keyGeneration ++
    lengthPrefix (hexPairs (sampleDigest sha256)))).val

noncomputable def sampleReceipt : PersistedReceipt where
  receiptId := "receipt-1".toList
  delegationId := some "delegation-1".toList
  receiptSequence := some 1
  globalSequence := 1
  appendIdentity := some "append-1".toList
  receiptKind := some "plan".toList
  causationId := "cause-1".toList
  causationEventId := "event-1".toList
  parentReceiptId := none
  globalParentReceiptId := none
  subjectKind := some "delegation".toList
  subjectId := some "delegation-1".toList
  subjectRevision := some 1
  actorType := "human_local".toList
  actorIdentity := "owner".toList
  actorAuthorityProvenanceId := some "authority-1".toList
  runtimeHostGeneration := 1
  runtimeHostInstanceId := some "host-1".toList
  runtimeFencingToken := some 1
  stateRevision := 1
  canonicalPayload := sampleBytes
  serializationVersion := SERIALIZATION_VERSION
  hashAlgorithm := HASH_ALGORITHM
  key := sampleKey
  previousReceiptDigest := none
  globalPreviousReceiptDigest := none
  receiptDigest := sampleDigest sha256
  keyedIntegrityTag := sampleTag sha256 hmacSha256
  previousKeyIntegrityTag := none
  redactedSummary := "done".toList
  occurredAt := 1
  committedAt := 1

noncomputable def sampleAnchor : AnchorRow where
  rootIdentity := sampleCustody.rootIdentity
  stateRootGeneration := 1
  anchorGeneration := 1
  status := .finalized
  receiptCount := 1
  receiptHeadDigest := some (sampleDigest sha256)
  key := sampleKey
  transactionId := "transaction-1".toList
  externalReceiptDigest := sampleDigest sha256
  preparedDocumentDigest := sampleDigest sha256
  receiptCommitConfirmed := true
  receiptCommittedAt := some 1
  receiptCommitConfirmationTag := some (sampleTag sha256 hmacSha256)
  finalizedDocumentDigest := some (sampleDigest sha256)
  preparedAt := 1

noncomputable def sampleKeyRow : ReceiptKeyRegistryRow where
  keyId := sampleKey.keyId
  keyGeneration := 1
  status := .active
  rotatedFromKeyId := none
  rotatedFromKeyGeneration := none
  createdAt := 1
  registryIntegrityTag := receiptKeyRegistryIntegrityTag (sampleCrates sha256 hmacSha256) (List.replicate 32 0)
    sampleCustody.rootIdentity sampleKey none none 1
  activatedAnchorGeneration := some 1

/-- The second delegation's row holds the given chain. -/
noncomputable def sampleDatabase (count : Int) (head : Option Text) : Database Unit where
  receipts := [sampleReceipt sha256 hmacSha256]
  evidence := []
  anchors := [sampleAnchor sha256 hmacSha256]
  keys := [sampleKeyRow sha256 hmacSha256]
  journal := ⟨1, some (sampleDigest sha256), some "receipt-1".toList⟩
  delegations := [⟨"delegation-1".toList, 1, 1, some (sampleDigest sha256)⟩,
    ⟨"delegation-2".toList, 1, count, head⟩]
  others := ()

theorem payload_accepted {C : ReceiptCrates} {row : PersistedReceipt} {tree : Json}
    (normalization : C.normalization = asciiNormalization) (json : C.json = printedJson)
    (stored : Stored asciiNormalization 32 tree)
    (bytes : row.canonicalPayload = utf8Bytes tree.print)
    (digest : digestHex C DIGEST_DOMAIN row.canonicalPayload = row.receiptDigest) :
    verifyPayload C row = .ok tree := by
  have spelled := stored_spelled stored.2
  have read : fromUtf8 (utf8Bytes tree.print) = some tree.print := fromUtf8_utf8Bytes _
  obtain ⟨fits, same⟩ := stored_fits stored
  have parsed := parse_of_denotes (print_denotes spelled fits)
  have value : C.json.value tree.print = some tree := by
    rw [json]
    exact ofPrint_some.mpr ⟨spelled, rfl⟩
  unfold verifyPayload
  simp only [bytes] at digest ⊢
  simp only [read, normalization, parsed, writeValue_print, same, value, digest, ne_eq,
    not_true_eq_false, if_false]

theorem sample_payload : verifyPayload (sampleCrates sha256 hmacSha256)
    (sampleReceipt sha256 hmacSha256) = .ok samplePayload :=
  payload_accepted rfl rfl samplePayload_stored rfl rfl

theorem sample_key (count : Int) (head : Option Text) :
    verifyKey (sampleCrates sha256 hmacSha256) sampleCustody
      (sampleDatabase sha256 hmacSha256 count head) (sampleReceipt sha256 hmacSha256) 1 =
      .ok (sampleKeyRow sha256 hmacSha256) := by
  have registered : (sampleDatabase sha256 hmacSha256 count head).receiptKeyRecord sampleKey =
      some (sampleKeyRow sha256 hmacSha256) := rfl
  have latest : (sampleDatabase sha256 hmacSha256 count head).latestFinalizedKey =
      some sampleKey := rfl
  have first : (sampleDatabase sha256 hmacSha256 count head).firstAnchorGeneration sampleKey =
      some 1 := rfl
  have signed := receiptTag_signed (sampleCrates sha256 hmacSha256) (List.replicate 32 0)
    TAG_DOMAIN sampleCustody.rootIdentity 1 sampleKey
    (sha256 (lengthPrefix DIGEST_DOMAIN ++ lengthPrefix sampleBytes))
  have tagged : (sampleReceipt sha256 hmacSha256).keyedIntegrityTag =
      sampleTag sha256 hmacSha256 := rfl
  have keyed : (sampleReceipt sha256 hmacSha256).key = sampleKey := rfl
  have digested : (sampleReceipt sha256 hmacSha256).receiptDigest =
      (sha256 (lengthPrefix DIGEST_DOMAIN ++ lengthPrefix sampleBytes)).val := rfl
  have loaded : sampleCustody.loadKey sampleKey = .ok (List.replicate 32 0) := rfl
  have status : (sampleKeyRow sha256 hmacSha256).status = .active := rfl
  have activated : (sampleKeyRow sha256 hmacSha256).activatedAnchorGeneration = some 1 := rfl
  simp only [verifyKey, keyed, registered, expectedKeyStatus, latest, first, status, activated,
    loaded, digested, signed, tagged, if_true, ne_eq, not_true_eq_false, Option.isNone_some,
    Bool.false_eq_true, or_self, if_false]
  exact if_neg (not_not.mpr rfl)

theorem sample_row (count : Int) (head : Option Text) :
    verifyRow (sampleCrates sha256 hmacSha256) sampleCustody
      (sampleDatabase sha256 hmacSha256 count head) 1 .start 1
      (sampleReceipt sha256 hmacSha256) =
      .ok (Progress.start.advance (sampleReceipt sha256 hmacSha256)) := by
  have chain : verifyChain .start 1 (sampleReceipt sha256 hmacSha256) = .ok () := rfl
  have binding : verifyPayloadBinding (sampleReceipt sha256 hmacSha256) samplePayload = .ok () :=
    rfl
  have generation : jsonI64 samplePayload ["state_root_generation"] = some 1 := rfl
  have rotation : verifyRotation (sampleCrates sha256 hmacSha256) sampleCustody none
      (sampleReceipt sha256 hmacSha256) (sampleKeyRow sha256 hmacSha256) 1 samplePayload =
      .ok () := rfl
  have evidence : verifyEvidenceBinding (sampleDatabase sha256 hmacSha256 count head)
      (sampleReceipt sha256 hmacSha256) samplePayload = .ok () := rfl
  have previous : Progress.start.previousKey = none := rfl
  simp only [verifyRow, chain, sample_payload, binding, generation, sample_key, previous, rotation,
    evidence, ok_bind, ne_eq, not_true_eq_false, if_false]

theorem sample_verified (count : Int) (head : Option Text) :
    verifyReceiptHistory (sampleCrates sha256 hmacSha256) sampleCustody
      (sampleDatabase sha256 hmacSha256 count head) 1 1 (some (sampleDigest sha256)) = .ok () := by
  have ordered : (sampleDatabase sha256 hmacSha256 count head).orderedReceipts =
      [sampleReceipt sha256 hmacSha256] := rfl
  have registry : receiptKeyRegistryHistoryIsExact (sampleCrates sha256 hmacSha256) sampleCustody
      (sampleDatabase sha256 hmacSha256 count head) = true := by
    have latest : (sampleDatabase sha256 hmacSha256 count head).latestFinalizedKey =
        some sampleKey := rfl
    have keys : (sampleDatabase sha256 hmacSha256 count head).keysByGeneration =
        [sampleKeyRow sha256 hmacSha256] := rfl
    have first : (sampleDatabase sha256 hmacSha256 count head).firstAnchorGeneration
        (sampleKeyRow sha256 hmacSha256).key = some 1 := rfl
    have loaded : sampleCustody.loadKey (sampleKeyRow sha256 hmacSha256).key =
        .ok (List.replicate 32 0) := rfl
    have newest : decide ((sampleKeyRow sha256 hmacSha256).key = sampleKey) = true := rfl
    have status : (sampleKeyRow sha256 hmacSha256).status = .active := rfl
    simp only [receiptKeyRegistryHistoryIsExact, latest, keys, registryRowsAreExact,
      registryRowIsExact, loaded, first, newest, status]
    simp [sampleKeyRow, ReceiptKeyRegistryRow.key, sampleKey]
  have journal : (sampleDatabase sha256 hmacSha256 count head).journal =
      ⟨1, some (sampleDigest sha256), some "receipt-1".toList⟩ := rfl
  have stored : (sampleDatabase sha256 hmacSha256 count head).storedHead "delegation-1".toList =
      some (1, some (sampleDigest sha256)) := rfl
  have advanced : Progress.start.advance (sampleReceipt sha256 hmacSha256) =
      ⟨some (sampleDigest sha256), some "receipt-1".toList,
        [("delegation-1".toList, ⟨1, some (sampleDigest sha256), some "receipt-1".toList⟩)],
        some sampleKey⟩ := rfl
  simp only [verifyReceiptHistory, ordered, verifyRows, sample_row, ok_bind, registry, advanced,
    journal, verifyDelegationHeads, stored, List.length_singleton, Nat.cast_one, ne_eq,
    not_true_eq_false, or_self, Bool.true_eq_false, if_false]

end Sample

def sha256Hex (bytes : List UInt8) : Sha256Digest := asciiCrates.sha256 bytes

def hmacHex (key message : List UInt8) : Sha256Digest :=
  ⟨Sha256.hex (Sha256.hmac key message), by
    simpa only [Sha256.hmac_length] using hex_digest (Sha256.hmac key message)⟩

end CarsinOS.Receipt
