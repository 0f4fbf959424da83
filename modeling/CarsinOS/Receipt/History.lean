import CarsinOS.Integer
import CarsinOS.Receipt.Database
import CarsinOS.Receipt.Redaction

/-! The verification of the whole receipt history. -/
namespace CarsinOS.Receipt
open CarsinOS.Lib CarsinOS.Canonical

def SERIALIZATION_VERSION : Text := "carsinos.execass.receipt.cjson.v1".toList
def HASH_ALGORITHM : Text := "sha256".toList
def TAG_ALGORITHM : Text := "hmac-sha256".toList
def DIGEST_DOMAIN : List UInt8 := utf8Bytes "carsinos.execass.receipt.digest.v1".toList
def TAG_DOMAIN : List UInt8 := utf8Bytes "carsinos.execass.receipt.tag.v1".toList
def ROTATION_DOMAIN : List UInt8 := utf8Bytes "carsinos.execass.receipt.rotation.previous.v1".toList
def KEY_REGISTRY_INTEGRITY_DOMAIN : List UInt8 :=
  utf8Bytes "carsinos.execass.key-registry.v1".toList ++ [0]

/-- What the receipt store takes from third-party crates: the tag of bytes under a key, as
hexadecimal digits, and JSON. -/
structure ReceiptCrates extends Crates where
  hmacSha256 : List UInt8 → List UInt8 → Sha256Digest
  json : SerdeJson

/-- The custody of the receipt keys of a state root. -/
structure KeyCustody where
  rootIdentity : Text
  loadKey : ReceiptKeyRef → Anyhow (List UInt8)

def lengthPrefix (value : List UInt8) : List UInt8 := bigEndian value.length 8 ++ value

/-- `i64::to_be_bytes`. -/
def i64Bytes (value : Int) : List UInt8 := bigEndian (value % 2 ^ 64).toNat 8

def validateDigest (value : Text) : Anyhow Unit :=
  if utf8Length value ≠ 64 ∨ ¬ value.all (fun c => c.isDigit || ('a' ≤ c && c ≤ 'f')) then
    bail "digest must be lowercase SHA-256 hex"
  else .ok ()

def hexPairs : Text → List UInt8
  | high :: low :: rest =>
    UInt8.ofNat ((toDigit 16 high).getD 0 * 16 + (toDigit 16 low).getD 0) :: hexPairs rest
  | _ => []

def decodeHex (value : Text) : Anyhow (List UInt8) := do
  validateDigest value
  .ok (hexPairs value)

section Tags
variable (C : ReceiptCrates)

def digestHex (domain payload : List UInt8) : Text :=
  (C.sha256 (lengthPrefix domain ++ lengthPrefix payload)).val

def receiptTag (key domain : List UInt8) (rootIdentity : Text) (stateRootGeneration : Int)
    (keyRef : ReceiptKeyRef) (digest : Text) : Anyhow Text := do
  let digest ← decodeHex digest
  .ok (C.hmacSha256 key (lengthPrefix domain ++ lengthPrefix (utf8Bytes rootIdentity) ++
    i64Bytes stateRootGeneration ++ lengthPrefix (utf8Bytes keyRef.keyId) ++
    i64Bytes keyRef.keyGeneration ++ lengthPrefix digest)).val

def integerTree (value : Int) : Json :=
  .num (if value < 0 then '-' :: Nat.toDigits 10 value.natAbs else Nat.toDigits 10 value.natAbs)

def optionalIntegerTree : Option Int → Json
  | some value => integerTree value
  | none => .null

/-- `ReceiptKeyRegistryIdentity`, as it is serialized. -/
def registryIdentityTree (rootIdentity : Text) (key : ReceiptKeyRef)
    (rotatedFromKeyId : Option Text) (rotatedFromKeyGeneration : Option Int) (createdAt : Int) :
    Json :=
  .obj [("root_identity".toList, .str rootIdentity), ("key_id".toList, .str key.keyId),
    ("key_generation".toList, integerTree key.keyGeneration),
    ("rotated_from_key_id".toList, Json.optional rotatedFromKeyId),
    ("rotated_from_key_generation".toList, optionalIntegerTree rotatedFromKeyGeneration),
    ("created_at".toList, integerTree createdAt)]

def receiptKeyRegistryIntegrityTag (material : List UInt8) (rootIdentity : Text)
    (key : ReceiptKeyRef) (rotatedFromKeyId : Option Text)
    (rotatedFromKeyGeneration : Option Int) (createdAt : Int) : Text :=
  (C.hmacSha256 material (KEY_REGISTRY_INTEGRITY_DOMAIN ++ utf8Bytes (registryIdentityTree
    rootIdentity key rotatedFromKeyId rotatedFromKeyGeneration createdAt).print)).val

end Tags

/-! The fields of a payload. -/

def jsonGet (key : String) : Json → Option Json
  | .obj fields => fields.lookup key.toList
  | _ => none

def jsonAt (value : Json) (path : List String) : Option Json :=
  path.foldlM (fun current key => jsonGet key current) value

def asStr : Json → Option Text
  | .str s => some s
  | _ => none

def asI64 : Json → Option Int
  | .num lexeme => (integerValue lexeme).map (·.val)
  | _ => none

def jsonStr (value : Json) (path : List String) : Option Text := (jsonAt value path).bind asStr

def jsonI64 (value : Json) (path : List String) : Option Int := (jsonAt value path).bind asI64

def isNull : Option Json → Bool
  | some .null => true
  | _ => false

def jsonOptionalString (value : Json) (path : List String) : Option Text :=
  match jsonAt value path with
  | some (.str text) => some text
  | _ => none

/-- The columns that give a receipt its place: in a delegation, or in the runtime scope. -/
def scopeMatches (row : PersistedReceipt) (payload : Json) : Bool :=
  match row.delegationId, row.receiptSequence with
  | some delegationId, some receiptSequence =>
    jsonStr payload ["delegation_id"] = some delegationId &&
      jsonI64 payload ["delegation_sequence"] = some receiptSequence &&
      (jsonGet "scope_kind" payload).isNone && (jsonGet "scope_id" payload).isNone
  | none, none =>
    isNull (jsonGet "delegation_id" payload) && isNull (jsonGet "delegation_sequence" payload) &&
      jsonStr payload ["scope_kind"] = some "runtime_host".toList &&
      jsonStr payload ["scope_id"] = some "execass-runtime-host".toList
  | _, _ => false

def expectedStrings (row : PersistedReceipt) : List (List String × Option Text) := [
  (["schema"], some "carsinos.execass.receipt".toList),
  (["receipt_id"], some row.receiptId),
  (["append_identity"], row.appendIdentity),
  (["receipt_kind"], row.receiptKind),
  (["causation", "kind"], row.receiptKind),
  (["causation", "id"], some row.causationId),
  (["event", "event_id"], some row.causationEventId),
  (["subject", "kind"], row.subjectKind),
  (["subject", "id"], row.subjectId),
  (["actor", "actor_type"], some row.actorType),
  (["actor", "actor_identity"], some row.actorIdentity),
  (["actor", "authority_provenance_id"], row.actorAuthorityProvenanceId),
  (["runtime", "host_instance_id"], row.runtimeHostInstanceId),
  (["redacted_summary"], some row.redactedSummary),
  (["key", "key_id"], some row.key.keyId),
  (["key", "tag_algorithm"], some TAG_ALGORITHM)]

def expectedIntegers (row : PersistedReceipt) : List (List String × Option Int) := [
  (["version"], some 1),
  (["global_sequence"], some row.globalSequence),
  (["state_revision"], some row.stateRevision),
  (["subject", "revision"], row.subjectRevision),
  (["runtime", "host_generation"], some row.runtimeHostGeneration),
  (["runtime", "fencing_token"], row.runtimeFencingToken),
  (["occurred_at_ms"], some row.occurredAt),
  (["committed_at_ms"], some row.committedAt),
  (["key", "key_generation"], some row.key.keyGeneration)]

def verifyPayloadBinding (row : PersistedReceipt) (payload : Json) : Except String Unit :=
  if (expectedStrings row).any fun e => jsonStr payload e.1 ≠ e.2 then
    .error "receipt_payload_binding_mismatch"
  else if (expectedIntegers row).any fun e => jsonI64 payload e.1 ≠ e.2 then
    .error "receipt_payload_binding_mismatch"
  else if scopeMatches row payload = false then .error "receipt_payload_binding_mismatch"
  else if jsonOptionalString payload ["delegation_parent_digest"] ≠ row.previousReceiptDigest ∨
      jsonOptionalString payload ["global_parent_digest"] ≠ row.globalPreviousReceiptDigest then
    .error "receipt_payload_binding_mismatch"
  else .ok ()

/-- An item of a payload's evidence against an evidence row. -/
def evidenceMatches (expected : Json) (actual : EvidenceRef) : Bool :=
  (jsonGet "authority_kind" expected).bind asStr = some actual.authorityKind &&
    (jsonGet "source_id" expected).bind asStr = some actual.sourceId &&
    (jsonGet "authoritative_revision" expected).bind asI64 = some actual.authoritativeRevision &&
    (jsonGet "authority_link_id" expected).bind asStr = some actual.authorityLinkId &&
    (jsonGet "observation_digest" expected).bind asStr = some actual.observationDigest &&
    (jsonGet "deep_link" expected).bind asStr = some actual.deepLink

def verifyEvidenceBinding {ω : Type} (db : Database ω) (row : PersistedReceipt) (payload : Json) :
    Except String Unit :=
  match jsonGet "evidence_refs" payload with
  | some (.arr expected) =>
    if expected.length ≠ (db.evidenceOf row.receiptId).length then
      .error "receipt_evidence_count_mismatch"
    else if (expected.zip (db.evidenceOf row.receiptId)).all fun pair =>
        evidenceMatches pair.1 pair.2 then .ok ()
    else .error "receipt_evidence_binding_mismatch"
  | _ => .error "receipt_evidence_binding_mismatch"

structure ReceiptHistoryFailure where
  category : String
  reason : String
  firstGlobalSequence : Option Int
  firstReceiptId : Option Text
  firstDelegationId : Option Text
  firstDelegationSequence : Option Int
  deriving DecidableEq

def historyFailure (reason : String) (firstGlobalSequence : Option Int)
    (firstReceiptId firstDelegationId : Option Text) (firstDelegationSequence : Option Int) :
    ReceiptHistoryFailure :=
  ⟨"receipt_history", reason, firstGlobalSequence, firstReceiptId, firstDelegationId,
    firstDelegationSequence⟩

structure VerifiedDelegationHead where
  count : Int
  headDigest : Option Text
  headReceiptId : Option Text
  deriving DecidableEq

/-- What the loop over the receipts carries from one to the next. -/
structure Progress where
  globalHead : Option Text
  globalHeadId : Option Text
  delegationHeads : List (Text × VerifiedDelegationHead)
  previousKey : Option ReceiptKeyRef

def Progress.start : Progress := ⟨none, none, [], none⟩

/-- The place of a receipt in the global chain and in the chain of its delegation. -/
def verifyChain (progress : Progress) (expectedGlobalSequence : Int) (row : PersistedReceipt) :
    Except String Unit :=
  if row.globalSequence ≠ expectedGlobalSequence then .error "receipt_global_sequence_mismatch"
  else if row.serializationVersion ≠ SERIALIZATION_VERSION then
    .error "receipt_serialization_version_mismatch"
  else if row.hashAlgorithm ≠ HASH_ALGORITHM then .error "receipt_hash_algorithm_mismatch"
  else if row.globalPreviousReceiptDigest ≠ progress.globalHead ∨
      row.globalParentReceiptId ≠ progress.globalHeadId then
    .error "receipt_global_chain_mismatch"
  else
    match row.delegationId with
    | some delegationId =>
      let expected := progress.delegationHeads.lookup delegationId
      if row.receiptSequence ≠ some (expected.elim 0 (·.count) + 1) ∨
          row.previousReceiptDigest ≠ expected.bind (·.headDigest) ∨
          row.parentReceiptId ≠ expected.bind (·.headReceiptId) then
        .error "receipt_delegation_chain_mismatch"
      else .ok ()
    | none =>
      if row.receiptSequence.isSome ∨ row.previousReceiptDigest.isSome ∨
          row.parentReceiptId.isSome ∨
          row.subjectKind ≠ some "runtime_host_generation".toList then
        .error "receipt_runtime_scope_mismatch"
      else .ok ()

section Verification
variable {ω : Type} (C : ReceiptCrates) (custody : KeyCustody) (db : Database ω)

/-- The payload of a receipt, read from its canonical bytes. -/
def verifyPayload (row : PersistedReceipt) : Except String Json :=
  match fromUtf8 row.canonicalPayload with
  | none => .error "receipt_canonical_payload_invalid"
  | some payloadText =>
    match parseStrictJson C.normalization payloadText with
    | .error _ => .error "receipt_canonical_payload_invalid"
    | .ok canonical =>
      if utf8Bytes (writeValue canonical) ≠ row.canonicalPayload then
        .error "receipt_canonical_payload_noncanonical"
      else
        match C.json.value payloadText with
        | none => .error "receipt_canonical_payload_invalid"
        | some payload =>
          if digestHex C DIGEST_DOMAIN row.canonicalPayload ≠ row.receiptDigest then
            .error "receipt_digest_mismatch"
          else .ok payload

def expectedKeyStatus (key : ReceiptKeyRef) : KeyStatus :=
  if db.latestFinalizedKey = some key then .active else .retired

/-- The key of a receipt: its registry row, and the tag under it. -/
def verifyKey (row : PersistedReceipt) (stateRootGeneration : Int) :
    Except String ReceiptKeyRegistryRow :=
  match db.receiptKeyRecord row.key with
  | none => .error "receipt_key_registry_mismatch"
  | some registered =>
    if registered.status ≠ expectedKeyStatus db row.key ∨
        (db.firstAnchorGeneration row.key).isNone ∨
        registered.activatedAnchorGeneration ≠ db.firstAnchorGeneration row.key then
      .error "receipt_key_registry_state_mismatch"
    else
      match custody.loadKey row.key with
      | .error _ => .error "receipt_key_unavailable"
      | .ok currentKey =>
        match receiptTag C currentKey TAG_DOMAIN custody.rootIdentity stateRootGeneration row.key
            row.receiptDigest with
        | .error _ => .error "receipt_keyed_tag_mismatch"
        | .ok expectedTag =>
          if expectedTag ≠ row.keyedIntegrityTag then .error "receipt_keyed_tag_mismatch"
          else .ok registered

/-- The rotation a receipt says it made against the key before it. -/
def rotationMatches (previous : ReceiptKeyRef) (row : PersistedReceipt)
    (registered : ReceiptKeyRegistryRow) (rotation : Json) : Bool :=
  previous ≠ row.key && row.key.keyGeneration = previous.keyGeneration + 1 &&
    (jsonGet "previous_key_id" rotation).bind asStr = some previous.keyId &&
    (jsonGet "previous_key_generation" rotation).bind asI64 = some previous.keyGeneration &&
    (jsonGet "new_key_id" rotation).bind asStr = some row.key.keyId &&
    (jsonGet "new_key_generation" rotation).bind asI64 = some row.key.keyGeneration &&
    registered.rotatedFromKeyId = some previous.keyId &&
    registered.rotatedFromKeyGeneration = some previous.keyGeneration

def verifyRotation (previousKey : Option ReceiptKeyRef) (row : PersistedReceipt)
    (registered : ReceiptKeyRegistryRow) (stateRootGeneration : Int) (payload : Json) :
    Except String Unit :=
  match previousKey, jsonGet "rotation" payload with
  | none, some .null =>
    if row.key.keyGeneration = 1 ∧ row.previousKeyIntegrityTag.isNone ∧
        registered.rotatedFromKeyId.isNone ∧ registered.rotatedFromKeyGeneration.isNone then
      .ok ()
    else .error "receipt_key_generation_mismatch"
  | some previous, some .null =>
    if previous = row.key ∧ row.previousKeyIntegrityTag.isNone then .ok ()
    else .error "receipt_key_generation_mismatch"
  | some previous, some (.obj fields) =>
    if rotationMatches previous row registered (.obj fields) then
      match custody.loadKey previous with
      | .error _ => .error "receipt_previous_key_unavailable"
      | .ok previousMaterial =>
        match receiptTag C previousMaterial ROTATION_DOMAIN custody.rootIdentity
            stateRootGeneration previous row.receiptDigest with
        | .error _ => .error "receipt_rotation_cross_signature_mismatch"
        | .ok expectedRotationTag =>
          if row.previousKeyIntegrityTag ≠ some expectedRotationTag then
            .error "receipt_rotation_cross_signature_mismatch"
          else .ok ()
    else .error "receipt_key_generation_mismatch"
  | _, _ => .error "receipt_key_generation_mismatch"

def Progress.advance (progress : Progress) (row : PersistedReceipt) : Progress where
  globalHead := some row.receiptDigest
  globalHeadId := some row.receiptId
  delegationHeads :=
    match row.delegationId, row.receiptSequence with
    | some delegationId, some receiptSequence =>
      Entries.insert delegationId ⟨receiptSequence, some row.receiptDigest, some row.receiptId⟩
        progress.delegationHeads
    | _, _ => progress.delegationHeads
  previousKey := some row.key

/-- The body of the loop, with the reason it fails for. -/
def verifyRow (expectedStateRootGeneration : Int) (progress : Progress)
    (expectedGlobalSequence : Int) (row : PersistedReceipt) : Except String Progress := do
  verifyChain progress expectedGlobalSequence row
  let payload ← verifyPayload C row
  verifyPayloadBinding row payload
  match jsonI64 payload ["state_root_generation"] with
  | none => .error "receipt_payload_binding_mismatch"
  | some stateRootGeneration =>
    if stateRootGeneration ≠ expectedStateRootGeneration then
      .error "receipt_state_root_generation_mismatch"
    else do
      let registered ← verifyKey C custody db row stateRootGeneration
      verifyRotation C custody progress.previousKey row registered stateRootGeneration payload
      verifyEvidenceBinding db row payload
      .ok (progress.advance row)

def verifyRows (expectedStateRootGeneration : Int) :
    Progress → Int → List PersistedReceipt → Except ReceiptHistoryFailure Progress
  | progress, _, [] => .ok progress
  | progress, expectedGlobalSequence, row :: rows =>
    match verifyRow C custody db expectedStateRootGeneration progress expectedGlobalSequence
        row with
    | .error reason => .error (historyFailure reason (some expectedGlobalSequence)
        (some row.receiptId) row.delegationId row.receiptSequence)
    | .ok next =>
      verifyRows expectedStateRootGeneration next (expectedGlobalSequence + 1) rows

/-- A registry row with the row before it, the latest key and whether it is the last row. -/
def registryRowIsExact (latest : ReceiptKeyRef) (previous : Option ReceiptKeyRegistryRow)
    (expectedGeneration : Int) (isLast : Bool) (row : ReceiptKeyRegistryRow) : Bool :=
  row.keyGeneration = expectedGeneration &&
  (match previous with
    | none => row.rotatedFromKeyId.isNone && row.rotatedFromKeyGeneration.isNone
    | some previous => row.rotatedFromKeyId = some previous.keyId &&
      row.rotatedFromKeyGeneration = some previous.keyGeneration) &&
  (match custody.loadKey row.key with
    | .error _ => false
    | .ok material => row.registryIntegrityTag = receiptKeyRegistryIntegrityTag C material
        custody.rootIdentity row.key row.rotatedFromKeyId row.rotatedFromKeyGeneration
        row.createdAt) &&
  (match db.firstAnchorGeneration row.key, decide (row.key = latest), row.status with
    | some first, true, .active => row.activatedAnchorGeneration = some first
    | some first, false, .retired => row.activatedAnchorGeneration = some first
    | none, false, .provisioned => isLast && latest.keyGeneration + 1 = row.keyGeneration &&
      row.rotatedFromKeyId = some latest.keyId &&
      row.rotatedFromKeyGeneration = some latest.keyGeneration &&
      row.activatedAnchorGeneration.isNone
    | _, _, _ => false)

def registryRowsAreExact (latest : ReceiptKeyRef) :
    Option ReceiptKeyRegistryRow → Int → List ReceiptKeyRegistryRow → Bool
  | _, _, [] => true
  | previous, expectedGeneration, row :: rows =>
    registryRowIsExact C custody db latest previous expectedGeneration rows.isEmpty row &&
      registryRowsAreExact latest (some row) (expectedGeneration + 1) rows

def receiptKeyRegistryHistoryIsExact : Bool :=
  match db.latestFinalizedKey with
  | none => false
  | some latest => db.keysByGeneration ≠ [] &&
    registryRowsAreExact C custody db latest none 1 db.keysByGeneration

/-- The stored head of every delegation that has receipts. -/
def verifyDelegationHeads :
    List (Text × VerifiedDelegationHead) → Except ReceiptHistoryFailure Unit
  | [] => .ok ()
  | (delegationId, verified) :: heads =>
    match db.storedHead delegationId with
    | none => .error (historyFailure "receipt_delegation_head_query_failed" none
        verified.headReceiptId (some delegationId) (some verified.count))
    | some stored =>
      if stored ≠ (verified.count, verified.headDigest) then
        .error (historyFailure "receipt_delegation_head_mismatch" none verified.headReceiptId
          (some delegationId) (some verified.count))
      else verifyDelegationHeads heads

def verifyReceiptHistory (expectedStateRootGeneration expectedCount : Int)
    (expectedHeadDigest : Option Text) : Except ReceiptHistoryFailure Unit := do
  let rows := db.orderedReceipts
  let last ← verifyRows C custody db expectedStateRootGeneration .start 1 rows
  if receiptKeyRegistryHistoryIsExact C custody db = false then
    .error (historyFailure "receipt_key_registry_state_mismatch" none none none none)
  else if (rows.length : Int) ≠ expectedCount ∨ last.globalHead ≠ expectedHeadDigest then
    .error (historyFailure "receipt_anchor_count_head_mismatch" (some (rows.length + 1)) none none
      none)
  else if db.journal ≠ ⟨rows.length, last.globalHead, last.globalHeadId⟩ then
    .error (historyFailure "receipt_global_head_mismatch" (some (max rows.length 1))
      last.globalHeadId none none)
  else verifyDelegationHeads db last.delegationHeads

end Verification
end CarsinOS.Receipt
