import CarsinOS.Runtime.Host

/-! The receipt of a mutation of the runtime host: it stands in the journal and under the anchor of
all receipts, and in the chain of no delegation. -/
namespace CarsinOS.Runtime
open CarsinOS.Lib CarsinOS.Canonical CarsinOS.Integrity CarsinOS.Receipt

inductive RuntimeAtomicReceiptMutation (T : Type) where
  | append (value : T) (command : RuntimeReceiptCommand)
  | noAppend (value : T)

/-- What a runtime receipt is checked against in the other tables. -/
structure RuntimeLookups (ω : Type) where
  loadRuntimeEvent : ω → RuntimeReceiptCommand → Anyhow EventBinding
  validateRuntimeReceiptActor : ω → RuntimeReceiptCommand → Anyhow ActorFacts
  validateRuntimeReceiptHost : ω → RuntimeReceiptCommand → Anyhow RuntimeFacts
  validateRuntimeReceiptSubject : ω → RuntimeReceiptCommand → Anyhow Unit
  insertGuard : ω → PersistedReceipt → Anyhow Unit

section
variable {ω : Type} (C : ReceiptCrates) (custody : KeyCustody) (failpoints : Failpoints)
  (P : RedactionCrates) (redactor : ReceiptRedactor) (lookups : RuntimeLookups ω)

/-- The command carries the actor type `runtime` always. -/
def validateRuntimeReceiptCommand (command : RuntimeReceiptCommand)
    (journal : Receipt.JournalState) : Anyhow Unit := do
  cleanIdentity P "receipt_id" command.receiptId
  cleanIdentity P "transaction_id" command.transactionId
  cleanIdentity P "causation_id" command.causationId
  cleanIdentity P "causation_event_id" command.causationEventId
  cleanIdentity P "authority_provenance_id" command.authorityProvenanceId
  cleanIdentity P "host_instance_id" command.runtime.hostInstanceId
  ensure (0 < command.stateRootGeneration ∧ 0 < command.subjectGeneration ∧
      0 < command.runtime.hostGeneration ∧ 0 < command.runtime.fencingToken ∧
      0 < command.occurredAt ∧ command.expectedGlobalCount = journal.receiptCount ∧
      command.expectedGlobalHeadDigest = journal.receiptHeadDigest)
    "runtime recovery receipt command is invalid"
  validateDigestOpt command.expectedGlobalHeadDigest

def text (value : String) : Json := .str value.toList

def runtimePayloadTree (command : RuntimeReceiptCommand) (appendIdentity : Text)
    (journal : Receipt.JournalState) (event : EventBinding) (actor : ActorFacts)
    (runtime : RuntimeFacts) : Json :=
  .obj [("actor".toList, .obj [
      ("actor_identity".toList, .str command.actorIdentity),
      ("actor_type".toList, text "runtime"),
      ("authenticated_ingress".toList, .str actor.authenticatedIngress),
      ("authority_provenance_id".toList, .str command.authorityProvenanceId),
      ("channel_assurance".toList, .str actor.channelAssurance),
      ("credential_identity".toList, .str actor.credentialIdentity)]),
    ("append_identity".toList, .str appendIdentity),
    ("causation".toList, .obj [("id".toList, .str command.causationId),
      ("kind".toList, text "runtime_recovery")]),
    ("committed_at_ms".toList, integerTree command.occurredAt),
    ("delegation_id".toList, .null), ("delegation_parent_digest".toList, .null),
    ("delegation_sequence".toList, .null),
    ("event".toList, .obj [
      ("aggregate_id".toList, .str event.aggregateId),
      ("aggregate_revision".toList, integerTree event.aggregateRevision),
      ("causation_id".toList, .str event.causationId),
      ("correlation_id".toList, .str event.correlationId),
      ("event_id".toList, .str command.causationEventId),
      ("event_name".toList, .str event.eventName),
      ("global_sequence".toList, integerTree event.globalSequence),
      ("occurred_at_ms".toList, integerTree event.occurredAt),
      ("schema_version".toList, .str event.schemaVersion)]),
    ("evidence_refs".toList, .arr []),
    ("global_parent_digest".toList, Json.optional journal.receiptHeadDigest),
    ("global_parent_receipt_id".toList, Json.optional journal.latestReceiptId),
    ("global_sequence".toList, integerTree (journal.receiptCount + 1)),
    ("key".toList, .obj [("key_generation".toList, integerTree command.key.keyGeneration),
      ("key_id".toList, .str command.key.keyId), ("tag_algorithm".toList, .str TAG_ALGORITHM)]),
    ("occurred_at_ms".toList, integerTree command.occurredAt),
    ("receipt_id".toList, .str command.receiptId),
    ("receipt_kind".toList, text "runtime_recovery"),
    ("redacted_summary".toList, .str command.redactedSummary), ("rotation".toList, .null),
    ("runtime".toList, .obj [
      ("fencing_token".toList, integerTree command.runtime.fencingToken),
      ("host_generation".toList, integerTree command.runtime.hostGeneration),
      ("host_instance_id".toList, .str command.runtime.hostInstanceId),
      ("installation_identity".toList, .str runtime.installationIdentity),
      ("os_user_identity_digest".toList, .str runtime.osUserIdentityDigest),
      ("ownership_scope".toList, .str runtime.ownershipScope)]),
    ("schema".toList, text "carsinos.execass.receipt"),
    ("scope_id".toList, text "execass-runtime-host"),
    ("scope_kind".toList, text "runtime_host"),
    ("state_revision".toList, integerTree command.subjectGeneration),
    ("state_root_generation".toList, integerTree command.stateRootGeneration),
    ("subject".toList, .obj [("id".toList, text "execass-runtime-host"),
      ("kind".toList, text "runtime_host_generation"),
      ("revision".toList, integerTree command.subjectGeneration)]),
    ("transaction_id".toList, .str command.transactionId), ("version".toList, integerTree 1)]

def buildRuntimePayload (command : RuntimeReceiptCommand) (appendIdentity : Text)
    (journal : Receipt.JournalState) (event : EventBinding) (actor : ActorFacts)
    (runtime : RuntimeFacts) : Anyhow (List UInt8) := do
  let value ← parseStrictJson C.normalization
    (runtimePayloadTree command appendIdentity journal event actor runtime).print
  .ok (utf8Bytes (writeValue value))

def validateRuntimeIntegrityProgression (current : IntegrityStatus)
    (command : RuntimeReceiptCommand) : Anyhow Int :=
  match current with
  | .uninitialized =>
    if command.expectedGlobalCount = 0 ∧ command.expectedGlobalHeadDigest = none then .ok 1
    else bail "receipt anchor and runtime recovery journal do not match"
  | .trusted anchorGeneration receiptCount receiptHeadDigest key =>
    if receiptCount = command.expectedGlobalCount ∧
        receiptHeadDigest = command.expectedGlobalHeadDigest ∧ key = command.key then do
      ensure (anchorGeneration < I64_MAX) "receipt anchor generation overflow"
      .ok (anchorGeneration + 1)
    else bail "receipt anchor and runtime recovery journal do not match"
  | _ => bail "receipt anchor and runtime recovery journal do not match"

/-- The payload with its digest and tag: a runtime receipt rotates no key. -/
def sealRuntimeReceipt (command : RuntimeReceiptCommand) (journal : Receipt.JournalState)
    (event : EventBinding) (actor : ActorFacts) (runtime : RuntimeFacts) :
    Anyhow SealedReceipt := do
  let canonicalPayload ← buildRuntimePayload C command (runtimeAppendIdentity C.toCrates command)
    journal event actor runtime
  redactor.rejectSensitiveBytes canonicalPayload
  let receiptDigest := digestHex C DIGEST_DOMAIN canonicalPayload
  let currentKey ← withContext "runtime recovery receipt signing key is unavailable"
    (custody.loadKey command.key)
  let keyedIntegrityTag ← receiptTag C currentKey TAG_DOMAIN custody.rootIdentity
    command.stateRootGeneration command.key receiptDigest
  .ok ⟨canonicalPayload, receiptDigest, keyedIntegrityTag, none⟩

def runtimeReceiptRow (command : RuntimeReceiptCommand) (journal : Receipt.JournalState)
    (receipt : SealedReceipt) : PersistedReceipt where
  receiptId := command.receiptId
  delegationId := none
  receiptSequence := none
  globalSequence := journal.receiptCount + 1
  appendIdentity := some (runtimeAppendIdentity C.toCrates command)
  receiptKind := some "runtime_recovery".toList
  causationId := command.causationId
  causationEventId := command.causationEventId
  parentReceiptId := none
  globalParentReceiptId := journal.latestReceiptId
  subjectKind := some "runtime_host_generation".toList
  subjectId := some "execass-runtime-host".toList
  subjectRevision := some command.subjectGeneration
  actorType := "runtime".toList
  actorIdentity := command.actorIdentity
  actorAuthorityProvenanceId := some command.authorityProvenanceId
  runtimeHostGeneration := command.runtime.hostGeneration
  runtimeHostInstanceId := some command.runtime.hostInstanceId
  runtimeFencingToken := some command.runtime.fencingToken
  stateRevision := command.subjectGeneration
  canonicalPayload := receipt.canonicalPayload
  serializationVersion := SERIALIZATION_VERSION
  hashAlgorithm := HASH_ALGORITHM
  key := command.key
  previousReceiptDigest := none
  globalPreviousReceiptDigest := journal.receiptHeadDigest
  receiptDigest := receipt.receiptDigest
  keyedIntegrityTag := receipt.keyedIntegrityTag
  previousKeyIntegrityTag := none
  redactedSummary := command.redactedSummary
  occurredAt := command.occurredAt
  committedAt := command.occurredAt

def runtimeAnchorInput (command : RuntimeReceiptCommand) (journal : Receipt.JournalState)
    (receipt : SealedReceipt) (anchorGeneration : Int) : AnchorCommitInput where
  stateRootGeneration := command.stateRootGeneration
  anchorGeneration
  receiptCount := journal.receiptCount + 1
  receiptHeadDigest := some receipt.receiptDigest
  key := command.key
  transactionId := command.transactionId
  externalReceiptDigest := receipt.receiptDigest
  occurredAt := command.occurredAt

/-- The writes of a mutation, which is shown the head of the journal. -/
abbrev RuntimeMutation (ω T : Type) :=
  ω → List DelegationRow → Int → Option Text →
    Anyhow (RuntimeAtomicReceiptMutation T × ω × List DelegationRow)

/-- What a runtime mutation has computed before it prepares its anchor. -/
inductive RuntimePlan (ω T : Type) where
  | close (value : T) (db : Database ω)
  | prepare (value : T) (command : RuntimeReceiptCommand) (anchorGeneration : Int)
    (receipt : SealedReceipt) (db : Database ω)

def planRuntimeReceipt {T : Type} (s : Store ω) (db : Database ω) (value : T)
    (command : RuntimeReceiptCommand) : Anyhow (RuntimePlan ω T) := do
  let journal := db.journal
  validateRuntimeReceiptCommand P command journal
  let event ← lookups.loadRuntimeEvent db.others command
  let actor ← lookups.validateRuntimeReceiptActor db.others command
  let runtime ← lookups.validateRuntimeReceiptHost db.others command
  lookups.validateRuntimeReceiptSubject db.others command
  ensure (journal.receiptCount < I64_MAX) "global receipt sequence overflow"
  ensure (db.receipts.all fun row =>
      row.appendIdentity ≠ some (runtimeAppendIdentity C.toCrates command) ∧
        row.causationEventId ≠ command.causationEventId)
    "runtime recovery receipt identity already exists"
  let receipt ← sealRuntimeReceipt C custody redactor command journal event actor runtime
  let anchorGeneration ← validateRuntimeIntegrityProgression (status C custody s) command
  .ok (.prepare value command anchorGeneration receipt db)

def planRuntime {T : Type} (s : Store ω) (mutation : RuntimeMutation ω T) :
    Anyhow (RuntimePlan ω T) := do
  let (mutated, others, delegations) ←
    mutation s.db.others s.db.delegations s.db.journal.receiptCount s.db.journal.receiptHeadDigest
  let db := { s.db with others, delegations }
  match mutated with
  | .noAppend value => .ok (.close value db)
  | .append value command => planRuntimeReceipt C custody P redactor lookups s db value command

/-- The update of the global head, which must be the expected one. -/
def advanceRuntimeJournal (command : RuntimeReceiptCommand) (digest : Text) (db : Database ω) :
    Anyhow (Database ω) := do
  ensure (db.journal.receiptCount = command.expectedGlobalCount ∧
      db.journal.receiptHeadDigest = command.expectedGlobalHeadDigest)
    "global receipt journal changed during runtime recovery append"
  .ok { db with
    journal := ⟨db.journal.receiptCount + 1, some digest, some command.receiptId⟩ }

def writeRuntimeReceipt (command : RuntimeReceiptCommand) (receipt : SealedReceipt)
    (db : Database ω) : Anyhow (Database ω) := do
  let row := runtimeReceiptRow C command db.journal receipt
  lookups.insertGuard db.others row
  let db ← insertReceipt row db
  let db ← advanceRuntimeJournal command receipt.receiptDigest db
  confirmPreparedAnchorInTransaction C custody db command.transactionId row.globalSequence
    (some receipt.receiptDigest) command.occurredAt

/-- The value of the mutation, and the transaction of its anchor where it has one. -/
def runtimeTransaction {T : Type} (mutation : RuntimeMutation ω T) :
    Integral ω (T × Option Text) := do
  let plan ← Durable.reading fun s =>
    planRuntime C custody P redactor lookups s mutation
  match plan with
  | .close value db => do
    commitDb db
    pure (value, none)
  | .prepare value command anchorGeneration receipt db => do
    let (_, db) ← prepareAnchorInTransaction C custody failpoints db
      (runtimeAnchorInput command db.journal receipt anchorGeneration)
    let db ← check (writeRuntimeReceipt C custody lookups command receipt db)
    commitDb db
    pure (value, some command.transactionId)

def mutateWithRuntimeAtomicReceipt {T : Type} (mutation : RuntimeMutation ω T) :
    Integral ω T := do
  Durable.reading fun s => requireReceiptIntegrityAvailable (status C custody s)
  let result ← Durable.attempt
    (runtimeTransaction C custody failpoints P redactor lookups mutation)
  match result with
  | .ok (value, some transactionId) => do
    finalizeAnchor C custody failpoints transactionId
    pure value
  | .ok (value, none) => pure value
  | .error error => do
    let _ ← Durable.attempt (recoverIntegrity C custody failpoints)
    Durable.raise error

end
end CarsinOS.Runtime
