import CarsinOS.Integrity.Store

/-! The receipt journal: the payload of a receipt, the transaction that appends it, and the
mutations that append one in their own transaction. -/
namespace CarsinOS.Receipt
open CarsinOS.Lib CarsinOS.Canonical CarsinOS.Integrity

def APPEND_DOMAIN : List UInt8 := utf8Bytes "carsinos.execass.receipt.append.v1".toList

inductive ReceiptKind where
  | intake | plan | amendment | decision | continuation | action | effect | verifier | recovery
  | resume | budget | completion | terminalCorrection | authorityLink | keyRotation | globalStop
  | runControl | policy | runtimeSettings | runtimeRecovery
  deriving DecidableEq

def ReceiptKind.asStr : ReceiptKind → Text
  | .intake => "intake".toList
  | .plan => "plan".toList
  | .amendment => "amendment".toList
  | .decision => "decision".toList
  | .continuation => "continuation".toList
  | .action => "action".toList
  | .effect => "effect".toList
  | .verifier => "verifier".toList
  | .recovery => "recovery".toList
  | .resume => "resume".toList
  | .budget => "budget".toList
  | .completion => "completion".toList
  | .terminalCorrection => "terminal_correction".toList
  | .authorityLink => "authority_link".toList
  | .keyRotation => "key_rotation".toList
  | .globalStop => "global_stop".toList
  | .runControl => "run_control".toList
  | .policy => "policy".toList
  | .runtimeSettings => "runtime_settings".toList
  | .runtimeRecovery => "runtime_recovery".toList

inductive ReceiptSubjectKind where
  | delegation | plan | planAmendment | decision | continuation | actionBranch | verifierResult
  | completionAssessment | terminalCorrection | authorityLink | recoveryEvaluation | outboxEvent
  | globalRuntimeControl | policyRevision | runtimeSettingsRevision | runtimeHostGeneration
  deriving DecidableEq

def ReceiptSubjectKind.asStr : ReceiptSubjectKind → Text
  | .delegation => "delegation".toList
  | .plan => "plan".toList
  | .planAmendment => "plan_amendment".toList
  | .decision => "decision".toList
  | .continuation => "continuation".toList
  | .actionBranch => "action_branch".toList
  | .verifierResult => "verifier_result".toList
  | .completionAssessment => "completion_assessment".toList
  | .terminalCorrection => "terminal_correction".toList
  | .authorityLink => "authority_link".toList
  | .recoveryEvaluation => "recovery_evaluation".toList
  | .outboxEvent => "outbox_event".toList
  | .globalRuntimeControl => "global_runtime_control".toList
  | .policyRevision => "policy_revision".toList
  | .runtimeSettingsRevision => "runtime_settings_revision".toList
  | .runtimeHostGeneration => "runtime_host_generation".toList

structure ReceiptSubject where
  kind : ReceiptSubjectKind
  subjectId : Text
  revision : Int

structure ReceiptActorBinding where
  actorType : Text
  actorIdentity : Text
  authorityProvenanceId : Text
  deriving DecidableEq

structure ReceiptRuntimeBinding where
  hostGeneration : Int
  hostInstanceId : Text
  fencingToken : Int

structure ReceiptEvidenceInput where
  authorityLinkId : Text
  kind : Text
  sourceId : Text
  authoritativeRevision : Int

structure ReceiptRotation where
  transitionId : Text
  reason : Text
  previousKey : ReceiptKeyRef

structure AppendReceiptCommand where
  receiptId : Text
  transactionId : Text
  stateRootGeneration : Int
  delegationId : Text
  expectedStateRevision : Int
  expectedGlobalCount : Int
  expectedGlobalHeadDigest : Option Text
  expectedDelegationCount : Int
  expectedDelegationHeadDigest : Option Text
  receiptKind : ReceiptKind
  subject : ReceiptSubject
  causationId : Text
  causationEventId : Text
  actor : ReceiptActorBinding
  runtime : ReceiptRuntimeBinding
  key : ReceiptKeyRef
  rotation : Option ReceiptRotation
  evidence : List ReceiptEvidenceInput
  redactedSummary : Text
  occurredAt : Int
  committedAt : Int

structure EventBinding where
  globalSequence : Int
  eventName : Text
  aggregateId : Text
  aggregateRevision : Int
  correlationId : Text
  causationId : Text
  occurredAt : Int
  schemaVersion : Text
  deriving DecidableEq

structure ActorFacts where
  credentialIdentity : Text
  authenticatedIngress : Text
  channelAssurance : Text

structure RuntimeFacts where
  installationIdentity : Text
  osUserIdentityDigest : Text
  ownershipScope : Text

structure Facts where
  event : EventBinding
  actor : ActorFacts
  runtime : RuntimeFacts
  evidence : List EvidenceRef

/-- What the journal reads of the other tables, and what its insert triggers read of them. -/
structure Lookups (ω : Type) where
  loadEvent : ω → AppendReceiptCommand → Anyhow EventBinding
  validateActor : ω → AppendReceiptCommand → Anyhow ActorFacts
  validateRuntime : ω → AppendReceiptCommand → Anyhow RuntimeFacts
  validateSubject : ω → List DelegationRow → AppendReceiptCommand → Anyhow Unit
  normalizeAndValidateEvidence : ω → AppendReceiptCommand → Anyhow (List EvidenceRef)
  insertGuard : ω → PersistedReceipt → List EvidenceRef → Anyhow Unit

structure ChainPosition where
  globalSequence : Int
  delegationSequence : Int
  globalParentId : Option Text
  delegationParentId : Option Text
  globalParentDigest : Option Text
  delegationParentDigest : Option Text

structure Snapshot where
  stateRevision : Int
  globalCount : Int
  globalHead : Option Text
  globalParentId : Option Text
  delegationCount : Int
  delegationHead : Option Text
  delegationParentId : Option Text

structure ReceiptRecord where
  receiptId : Text
  delegationId : Option Text
  delegationSequence : Option Int
  globalSequence : Int
  appendIdentity : Option Text
  receiptDigest : Text
  keyedIntegrityTag : Text
  previousKeyIntegrityTag : Option Text
  canonicalPayload : List UInt8
  deriving DecidableEq

def recordOf (row : PersistedReceipt) : ReceiptRecord where
  receiptId := row.receiptId
  delegationId := row.delegationId
  delegationSequence := row.receiptSequence
  globalSequence := row.globalSequence
  appendIdentity := row.appendIdentity
  receiptDigest := row.receiptDigest
  keyedIntegrityTag := row.keyedIntegrityTag
  previousKeyIntegrityTag := row.previousKeyIntegrityTag
  canonicalPayload := row.canonicalPayload

/-! The payload. -/

/-- A column of the database is a 64-bit integer. -/
def canonicalInteger (value : Int) : Anyhow CanonicalValue :=
  match I64.ofInt? value with
  | some i => .ok (.integer i)
  | none => bail "global receipt sequence overflow"

def canonicalObject (N : Normalization) (entries : List (String × Anyhow CanonicalValue)) :
    Anyhow CanonicalValue := do
  let entries ← entries.mapM fun e => do .ok (e.1.toList, ← e.2)
  CanonicalValue.ofEntries N entries

section Payload
variable (N : Normalization)

def canonicalString (value : Text) : Anyhow CanonicalValue := .ok (CanonicalValue.ofStr N value)

def optionString : Option Text → Anyhow CanonicalValue
  | some value => canonicalString N value
  | none => .ok .null

def eventAggregateMatches (command : AppendReceiptCommand) (event : EventBinding) : Bool :=
  match command.subject.kind with
  | .globalRuntimeControl => event.aggregateId = "global-stop-all".toList &&
    event.aggregateRevision = command.subject.revision
  | .policyRevision => event.aggregateId = "execass-policy".toList &&
    event.aggregateRevision = command.subject.revision
  | .runtimeSettingsRevision => event.aggregateId = "execass-runtime-host".toList &&
    event.aggregateRevision = command.subject.revision
  | .runtimeHostGeneration => event.aggregateId = "execass-runtime-host".toList &&
    event.aggregateRevision = command.subject.revision
  | _ => event.aggregateId = command.delegationId &&
    event.aggregateRevision = command.expectedStateRevision

def evidenceItem (item : EvidenceRef) : Anyhow CanonicalValue :=
  canonicalObject N [("authority_kind", canonicalString N item.authorityKind),
    ("source_id", canonicalString N item.sourceId),
    ("authoritative_revision", canonicalInteger item.authoritativeRevision),
    ("authority_link_id", canonicalString N item.authorityLinkId),
    ("observation_digest", canonicalString N item.observationDigest),
    ("deep_link", canonicalString N item.deepLink)]

def rotationValue (command : AppendReceiptCommand) : Anyhow CanonicalValue :=
  match command.rotation with
  | some rotation => canonicalObject N [("transition_id", canonicalString N rotation.transitionId),
      ("reason", canonicalString N rotation.reason),
      ("previous_key_id", canonicalString N rotation.previousKey.keyId),
      ("previous_key_generation", canonicalInteger rotation.previousKey.keyGeneration),
      ("new_key_id", canonicalString N command.key.keyId),
      ("new_key_generation", canonicalInteger command.key.keyGeneration)]
  | none => .ok .null

def eventValue (command : AppendReceiptCommand) (event : EventBinding) : Anyhow CanonicalValue :=
  canonicalObject N [("event_id", canonicalString N command.causationEventId),
    ("event_name", canonicalString N event.eventName),
    ("aggregate_id", canonicalString N event.aggregateId),
    ("aggregate_revision", canonicalInteger event.aggregateRevision),
    ("global_sequence", canonicalInteger event.globalSequence),
    ("correlation_id", canonicalString N event.correlationId),
    ("causation_id", canonicalString N event.causationId),
    ("occurred_at_ms", canonicalInteger event.occurredAt),
    ("schema_version", canonicalString N event.schemaVersion)]

def actorValue (command : AppendReceiptCommand) (actor : ActorFacts) : Anyhow CanonicalValue :=
  canonicalObject N [("actor_type", canonicalString N command.actor.actorType),
    ("actor_identity", canonicalString N command.actor.actorIdentity),
    ("credential_identity", canonicalString N actor.credentialIdentity),
    ("authenticated_ingress", canonicalString N actor.authenticatedIngress),
    ("channel_assurance", canonicalString N actor.channelAssurance),
    ("authority_provenance_id", canonicalString N command.actor.authorityProvenanceId)]

def runtimeValue (command : AppendReceiptCommand) (runtime : RuntimeFacts) :
    Anyhow CanonicalValue :=
  canonicalObject N [("installation_identity", canonicalString N runtime.installationIdentity),
    ("os_user_identity_digest", canonicalString N runtime.osUserIdentityDigest),
    ("host_generation", canonicalInteger command.runtime.hostGeneration),
    ("host_instance_id", canonicalString N command.runtime.hostInstanceId),
    ("fencing_token", canonicalInteger command.runtime.fencingToken),
    ("ownership_scope", canonicalString N runtime.ownershipScope)]

def payloadValue (command : AppendReceiptCommand) (appendIdentity : Text)
    (position : ChainPosition) (facts : Facts) : Anyhow CanonicalValue := do
  let evidence ← facts.evidence.mapM (evidenceItem N)
  canonicalObject N [("schema", canonicalString N "carsinos.execass.receipt".toList),
    ("version", canonicalInteger 1),
    ("receipt_id", canonicalString N command.receiptId),
    ("transaction_id", canonicalString N command.transactionId),
    ("receipt_kind", canonicalString N command.receiptKind.asStr),
    ("append_identity", canonicalString N appendIdentity),
    ("delegation_id", canonicalString N command.delegationId),
    ("delegation_sequence", canonicalInteger position.delegationSequence),
    ("global_sequence", canonicalInteger position.globalSequence),
    ("state_revision", canonicalInteger command.expectedStateRevision),
    ("event", eventValue N command facts.event),
    ("causation", canonicalObject N [("kind", canonicalString N command.receiptKind.asStr),
      ("id", canonicalString N command.causationId)]),
    ("subject", canonicalObject N [("kind", canonicalString N command.subject.kind.asStr),
      ("id", canonicalString N command.subject.subjectId),
      ("revision", canonicalInteger command.subject.revision)]),
    ("actor", actorValue N command facts.actor),
    ("runtime", runtimeValue N command facts.runtime),
    ("occurred_at_ms", canonicalInteger command.occurredAt),
    ("committed_at_ms", canonicalInteger command.committedAt),
    ("evidence_refs", .ok (.array evidence)),
    ("redacted_summary", canonicalString N command.redactedSummary),
    ("delegation_parent_digest", optionString N position.delegationParentDigest),
    ("global_parent_digest", optionString N position.globalParentDigest),
    ("key", canonicalObject N [("key_id", canonicalString N command.key.keyId),
      ("key_generation", canonicalInteger command.key.keyGeneration),
      ("tag_algorithm", canonicalString N TAG_ALGORITHM)]),
    ("rotation", rotationValue N command),
    ("state_root_generation", canonicalInteger command.stateRootGeneration)]

def buildPayload (command : AppendReceiptCommand) (appendIdentity : Text)
    (position : ChainPosition) (facts : Facts) : Anyhow (List UInt8) := do
  ensure (eventAggregateMatches command facts.event = true ∧
      facts.event.causationId = command.causationId ∧
      facts.event.occurredAt = command.occurredAt)
    "receipt event/delegation/causation binding mismatch"
  let value ← payloadValue N command appendIdentity position facts
  .ok (utf8Bytes (writeValue value))

end Payload

/-! What the journal reads of its own tables. -/

section Journal
variable {ω : Type}

def loadSnapshot (db : Database ω) (delegationId : Text) : Option Snapshot :=
  (db.delegations.find? (·.delegationId = delegationId)).map fun row => {
    stateRevision := row.stateRevision
    globalCount := db.journal.receiptCount
    globalHead := db.journal.receiptHeadDigest
    globalParentId := db.journal.latestReceiptId
    delegationCount := row.receiptChainCount
    delegationHead := row.receiptChainHeadDigest
    delegationParentId := (((db.receipts.filter (·.delegationId = some delegationId)).insertionSort
      fun first second => first.receiptSequence.getD 0 ≤ second.receiptSequence.getD 0).getLast?).map
        (·.receiptId) }

def nextPosition (snapshot : Snapshot) : ChainPosition where
  globalSequence := snapshot.globalCount + 1
  delegationSequence := snapshot.delegationCount + 1
  globalParentId := snapshot.globalParentId
  delegationParentId := snapshot.delegationParentId
  globalParentDigest := snapshot.globalHead
  delegationParentDigest := snapshot.delegationHead

def snapshotMatchesAtRevision (command : AppendReceiptCommand) (snapshot : Snapshot)
    (expectedStateRevision : Int) : Bool :=
  snapshot.stateRevision = expectedStateRevision &&
    snapshot.globalCount = command.expectedGlobalCount &&
    snapshot.globalHead = command.expectedGlobalHeadDigest &&
    snapshot.delegationCount = command.expectedDelegationCount &&
    snapshot.delegationHead = command.expectedDelegationHeadDigest

def snapshotMatches (command : AppendReceiptCommand) (snapshot : Snapshot) : Bool :=
  snapshotMatchesAtRevision command snapshot command.expectedStateRevision

def positionOf (row : PersistedReceipt) : ChainPosition where
  globalSequence := row.globalSequence
  delegationSequence := row.receiptSequence.getD 0
  globalParentId := row.globalParentReceiptId
  delegationParentId := row.parentReceiptId
  globalParentDigest := row.globalPreviousReceiptDigest
  delegationParentDigest := row.previousReceiptDigest

def replayExpectationsMatch (command : AppendReceiptCommand) (position : ChainPosition) : Bool :=
  command.expectedGlobalCount = position.globalSequence - 1 &&
    command.expectedGlobalHeadDigest = position.globalParentDigest &&
    command.expectedDelegationCount = position.delegationSequence - 1 &&
    command.expectedDelegationHeadDigest = position.delegationParentDigest

def receiptByAppendIdentity (db : Database ω) (identity : Text) : Option PersistedReceipt :=
  db.receipts.find? (·.appendIdentity = some identity)

def receiptByCausationEvent (db : Database ω) (eventId : Text) : Option PersistedReceipt :=
  db.receipts.find? (·.causationEventId = eventId)

/-- The insert of a receipt, under the unique columns of its table and its trigger. -/
def insertReceipt (row : PersistedReceipt) (db : Database ω) : Anyhow (Database ω) := do
  ensure (row.globalSequence = db.journal.receiptCount + 1)
    "ExecAss global receipt sequence must be gap-free"
  ensure (row.globalPreviousReceiptDigest = db.journal.receiptHeadDigest)
    "ExecAss global receipt parent digest mismatch"
  ensure (row.globalParentReceiptId = db.journal.latestReceiptId)
    "ExecAss global receipt parent identity mismatch"
  match row.delegationId.bind (loadSnapshot db) with
  | some snapshot => do
    ensure (row.receiptSequence = some (snapshot.delegationCount + 1))
      "ExecAss delegation receipt sequence must be gap-free"
    ensure (row.previousReceiptDigest = snapshot.delegationHead)
      "ExecAss delegation receipt parent digest mismatch"
    ensure (row.parentReceiptId = snapshot.delegationParentId)
      "ExecAss delegation receipt parent identity mismatch"
  | none => .ok ()
  ensure (db.receipts.all fun other => other.receiptId ≠ row.receiptId ∧
      other.globalSequence ≠ row.globalSequence ∧ other.appendIdentity ≠ row.appendIdentity ∧
      other.causationEventId ≠ row.causationEventId ∧ other.receiptDigest ≠ row.receiptDigest)
    "failed inserting canonical ExecAss receipt"
  .ok { db with receipts := db.receipts ++ [row] }

def evidenceRows (receiptId : Text) (evidence : List EvidenceRef) : List EvidenceRow :=
  evidence.mapIdx fun ordinal reference => ⟨receiptId, ordinal, reference⟩

def insertEvidence (receiptId : Text) (evidence : List EvidenceRef) (db : Database ω) :
    Anyhow (Database ω) := do
  ensure (evidence.Pairwise fun first second =>
      (first.authorityKind, first.sourceId, first.authoritativeRevision) ≠
        (second.authorityKind, second.sourceId, second.authoritativeRevision))
    "UNIQUE constraint failed: execass_receipt_evidence_refs"
  .ok { db with evidence := db.evidence ++ evidenceRows receiptId evidence }

/-- The update of the global head changes nothing where the head is not the expected one. -/
def advanceJournal (command : AppendReceiptCommand) (position : ChainPosition) (digest : Text)
    (db : Database ω) : Database ω :=
  if db.journal.receiptCount = command.expectedGlobalCount ∧
      db.journal.receiptHeadDigest = command.expectedGlobalHeadDigest then
    { db with journal := ⟨position.globalSequence, some digest, some command.receiptId⟩ }
  else db

def atExpectedHead (command : AppendReceiptCommand) (row : DelegationRow) : Bool :=
  row.delegationId = command.delegationId && row.stateRevision = command.expectedStateRevision &&
    row.receiptChainCount = command.expectedDelegationCount &&
    row.receiptChainHeadDigest = command.expectedDelegationHeadDigest

def advanceDelegation (command : AppendReceiptCommand) (position : ChainPosition) (digest : Text)
    (db : Database ω) : Anyhow (Database ω) := do
  ensure (db.delegations.any (atExpectedHead command))
    "delegation receipt head changed during append"
  .ok { db with delegations := db.delegations.map fun row =>
    if atExpectedHead command row then
      { row with
        receiptChainCount := position.delegationSequence
        receiptChainHeadDigest := some digest }
    else row }

end Journal

/-! The commands. -/

inductive AppendReceiptOutcome where
  | appended (record : ReceiptRecord)
  | replayed (record : ReceiptRecord)
  | stale (snapshot : Snapshot)
  | conflict (appendIdentity : Text)

inductive AtomicReceiptMutation (T : Type) where
  | append (value : T)
  | noAppend (value : T)

inductive AtomicReceiptWriteOutcome (T : Type) where
  | appended (value : T) (receipt : ReceiptRecord)
  | noAppend (value : T)
  | stale (snapshot : Snapshot)

/-- What a receipt is signed with before its row is inserted. -/
structure SealedReceipt where
  canonicalPayload : List UInt8
  receiptDigest : Text
  keyedIntegrityTag : Text
  previousKeyIntegrityTag : Option Text

section Commands
variable {ω : Type} (C : ReceiptCrates) (custody : KeyCustody) (failpoints : Failpoints)
  (P : RedactionCrates) (redactor : ReceiptRedactor) (lookups : Lookups ω)

/-- `char::is_control`. -/
def isControl (c : Char) : Bool := c.toNat < 0x20 || (0x7F ≤ c.toNat && c.toNat ≤ 0x9F)

def cleanIdentity (name : String) (value : Text) : Anyhow Unit := do
  ensure (value ≠ [] ∧ utf8Length value ≤ 256 ∧ ¬ value.any isControl) (name ++ " is invalid")
  let safe ← redactText P value [] MAX_TEXT_BYTES
  ensure (safe = value) (name ++ " contains sensitive content")

def validateDigestOpt : Option Text → Anyhow Unit
  | some value => Receipt.validateDigest value
  | none => .ok ()

def validateCommand (command : AppendReceiptCommand) : Anyhow Unit := do
  cleanIdentity P "receipt_id" command.receiptId
  cleanIdentity P "transaction_id" command.transactionId
  cleanIdentity P "delegation_id" command.delegationId
  cleanIdentity P "causation_id" command.causationId
  cleanIdentity P "causation_event_id" command.causationEventId
  cleanIdentity P "subject_id" command.subject.subjectId
  cleanIdentity P "authority_provenance_id" command.actor.authorityProvenanceId
  cleanIdentity P "host_instance_id" command.runtime.hostInstanceId
  ensure (0 < command.stateRootGeneration ∧ 0 < command.expectedStateRevision ∧
      0 ≤ command.subject.revision ∧ 0 < command.runtime.hostGeneration ∧
      0 < command.runtime.fencingToken ∧ 0 ≤ command.occurredAt ∧
      command.occurredAt ≤ command.committedAt ∧ command.evidence.length ≤ 64)
    "canonical receipt command is invalid"
  ensure (0 ≤ command.expectedGlobalCount ∧ 0 ≤ command.expectedDelegationCount ∧
      (command.expectedGlobalCount = 0 ↔ command.expectedGlobalHeadDigest = none) ∧
      (command.expectedDelegationCount = 0 ↔ command.expectedDelegationHeadDigest = none))
    "canonical receipt expected head is invalid"
  validateDigestOpt command.expectedGlobalHeadDigest
  validateDigestOpt command.expectedDelegationHeadDigest
  ensure (command.rotation.isSome ↔ command.receiptKind = .keyRotation)
    "receipt rotation binding is inconsistent"

def appendIdentity (command : AppendReceiptCommand) : Text :=
  (C.sha256 (lengthPrefix APPEND_DOMAIN ++ lengthPrefix (utf8Bytes command.delegationId) ++
    lengthPrefix (utf8Bytes command.causationEventId) ++
    lengthPrefix (utf8Bytes command.subject.kind.asStr) ++
    lengthPrefix (utf8Bytes command.subject.subjectId) ++ i64Bytes command.subject.revision)).val

def loadFacts (db : Database ω) (command : AppendReceiptCommand) : Anyhow Facts := do
  let event ← lookups.loadEvent db.others command
  let actor ← lookups.validateActor db.others command
  let runtime ← lookups.validateRuntime db.others command
  lookups.validateSubject db.others db.delegations command
  let evidence ← lookups.normalizeAndValidateEvidence db.others command
  .ok ⟨event, actor, runtime, evidence⟩

def rotationTag (db : Database ω) (command : AppendReceiptCommand) (digest : Text) :
    Anyhow (Option Text) :=
  match command.rotation with
  | none => .ok none
  | some rotation => do
    cleanIdentity P "rotation transition_id" rotation.transitionId
    let parent := (db.keys.find? fun row => row.key = command.key ∧ row.status = .provisioned).map
      fun row => (row.rotatedFromKeyId, row.rotatedFromKeyGeneration)
    ensure (parent = some (some rotation.previousKey.keyId,
        some rotation.previousKey.keyGeneration))
      "receipt rotation does not match the immutable key registry"
    let old ← withContext "previous receipt key is unavailable for rotation"
      (custody.loadKey rotation.previousKey)
    let tag ← receiptTag C old ROTATION_DOMAIN custody.rootIdentity command.stateRootGeneration
      rotation.previousKey digest
    .ok (some tag)

/-- The payload of the receipt with its digest and tags. -/
def sealReceipt (db : Database ω) (command : AppendReceiptCommand) (position : ChainPosition)
    (facts : Facts) : Anyhow SealedReceipt := do
  let canonicalPayload ←
    buildPayload C.normalization command (appendIdentity C command) position facts
  redactor.rejectSensitiveBytes canonicalPayload
  let receiptDigest := digestHex C DIGEST_DOMAIN canonicalPayload
  let currentKey ← withContext "receipt signing key is unavailable" (custody.loadKey command.key)
  let keyedIntegrityTag ← receiptTag C currentKey TAG_DOMAIN custody.rootIdentity
    command.stateRootGeneration command.key receiptDigest
  let previousKeyIntegrityTag ← rotationTag C custody P db command receiptDigest
  .ok ⟨canonicalPayload, receiptDigest, keyedIntegrityTag, previousKeyIntegrityTag⟩

def receiptRow (command : AppendReceiptCommand) (position : ChainPosition)
    (receipt : SealedReceipt) : PersistedReceipt where
  receiptId := command.receiptId
  delegationId := some command.delegationId
  receiptSequence := some position.delegationSequence
  globalSequence := position.globalSequence
  appendIdentity := some (appendIdentity C command)
  receiptKind := some command.receiptKind.asStr
  causationId := command.causationId
  causationEventId := command.causationEventId
  parentReceiptId := position.delegationParentId
  globalParentReceiptId := position.globalParentId
  subjectKind := some command.subject.kind.asStr
  subjectId := some command.subject.subjectId
  subjectRevision := some command.subject.revision
  actorType := command.actor.actorType
  actorIdentity := command.actor.actorIdentity
  actorAuthorityProvenanceId := some command.actor.authorityProvenanceId
  runtimeHostGeneration := command.runtime.hostGeneration
  runtimeHostInstanceId := some command.runtime.hostInstanceId
  runtimeFencingToken := some command.runtime.fencingToken
  stateRevision := command.expectedStateRevision
  canonicalPayload := receipt.canonicalPayload
  serializationVersion := SERIALIZATION_VERSION
  hashAlgorithm := HASH_ALGORITHM
  key := command.key
  previousReceiptDigest := position.delegationParentDigest
  globalPreviousReceiptDigest := position.globalParentDigest
  receiptDigest := receipt.receiptDigest
  keyedIntegrityTag := receipt.keyedIntegrityTag
  previousKeyIntegrityTag := receipt.previousKeyIntegrityTag
  redactedSummary := command.redactedSummary
  occurredAt := command.occurredAt
  committedAt := command.committedAt

def requireReceiptIntegrityAvailable (current : IntegrityStatus) : Anyhow Unit :=
  match current with
  | .uninitialized => .ok ()
  | .trusted .. => .ok ()
  | .prepared .. =>
    bail "receipt integrity has an interrupted prepared commit; recovery is required"
  | .keyLost _ => bail "receipt integrity key is unavailable"
  | .mismatch _ => bail "receipt integrity is quarantined"
  | .quarantined _ => bail "receipt integrity is quarantined"

/-- The generation of the next anchor. -/
def validateIntegrityProgression (current : IntegrityStatus) (command : AppendReceiptCommand) :
    Anyhow Int :=
  match current with
  | .uninitialized =>
    if command.expectedGlobalCount = 0 ∧ command.expectedGlobalHeadDigest = none then .ok 1
    else bail "receipt anchor and receipt journal do not match"
  | .trusted anchorGeneration receiptCount receiptHeadDigest key =>
    if receiptCount = command.expectedGlobalCount ∧
        receiptHeadDigest = command.expectedGlobalHeadDigest ∧
        (key = command.key ∨ ∃ rotation ∈ command.rotation, rotation.previousKey = key) then
      .ok (anchorGeneration + 1)
    else bail "receipt anchor and receipt journal do not match"
  | .prepared .. =>
    bail "receipt integrity has an interrupted prepared commit; recovery is required"
  | .keyLost _ => bail "receipt integrity key is unavailable"
  | .mismatch _ => bail "receipt integrity is quarantined"
  | .quarantined _ => bail "receipt integrity is quarantined"

def anchorInput (command : AppendReceiptCommand) (position : ChainPosition)
    (receipt : SealedReceipt) (anchorGeneration : Int) : AnchorCommitInput where
  stateRootGeneration := command.stateRootGeneration
  anchorGeneration
  receiptCount := position.globalSequence
  receiptHeadDigest := some receipt.receiptDigest
  key := command.key
  transactionId := command.transactionId
  externalReceiptDigest := receipt.receiptDigest
  occurredAt := command.committedAt

/-- The writes of a receipt, from its row to the confirmation of its anchor. -/
def writeReceipt (command : AppendReceiptCommand) (position : ChainPosition)
    (receipt : SealedReceipt) (evidence : List EvidenceRef) (db : Database ω) :
    Anyhow (ReceiptRecord × Database ω) := do
  let row := receiptRow C command position receipt
  lookups.insertGuard db.others row evidence
  let db ← insertReceipt row db
  let db ← insertEvidence command.receiptId evidence db
  let db := advanceJournal command position receipt.receiptDigest db
  let db ← advanceDelegation command position receipt.receiptDigest db
  let db ← confirmPreparedAnchorInTransaction C custody db command.transactionId
    position.globalSequence (some receipt.receiptDigest) command.committedAt
  let record ← required "canonical receipt disappeared before commit"
    (db.receipts.find? (·.receiptId = command.receiptId))
  ensure (record.canonicalPayload = receipt.canonicalPayload ∧
    record.receiptDigest = receipt.receiptDigest) "canonical receipt reconstruction mismatch"
  .ok (recordOf record, db)

/-- The transaction of an append, after its anchor is prepared. -/
def receiptTransaction (db : Database ω) (command : AppendReceiptCommand)
    (position : ChainPosition) (facts : Facts) (receipt : SealedReceipt) :
    Anyhow (AppendReceiptOutcome × Database ω) := do
  let current ← required "ExecAss receipt delegation disappeared"
    (loadSnapshot db command.delegationId)
  if snapshotMatches command current = false then
    match receiptByAppendIdentity db (appendIdentity C command) with
    | some row =>
      if replayExpectationsMatch command position ∧
          row.canonicalPayload = receipt.canonicalPayload then .ok (.replayed (recordOf row), db)
      else .ok (.conflict (appendIdentity C command), db)
    | none => .ok (.stale current, db)
  else do
    let again ← loadFacts lookups db command
    ensure (again.event = facts.event) "receipt event changed before append"
    let (record, db) ← writeReceipt C custody lookups command position receipt facts.evidence db
    .ok (.appended record, db)

/-- The replay of a command whose receipt is already there. -/
def replayReceipt (command : AppendReceiptCommand) (row : PersistedReceipt) (facts : Facts) :
    Anyhow AppendReceiptOutcome := do
  let candidate ← buildPayload C.normalization command (appendIdentity C command) (positionOf row)
    facts
  if replayExpectationsMatch command (positionOf row) ∧ candidate = row.canonicalPayload then
    .ok (.replayed (recordOf row))
  else .ok (.conflict (appendIdentity C command))

/-- What an append has computed before it prepares its anchor. -/
inductive AppendPlan where
  | finished (outcome : AppendReceiptOutcome)
  | prepare (input : AnchorCommitInput) (position : ChainPosition) (facts : Facts)
    (receipt : SealedReceipt)

def planAppend (s : Store ω) (command : AppendReceiptCommand) : Anyhow AppendPlan := do
  requireReceiptIntegrityAvailable (status C custody s)
  validateCommand P command
  let facts ← loadFacts lookups s.db command
  match receiptByAppendIdentity s.db (appendIdentity C command) with
  | some row => do .ok (.finished (← replayReceipt C command row facts))
  | none => do
    let snapshot ← required "ExecAss receipt delegation does not exist"
      (loadSnapshot s.db command.delegationId)
    if snapshotMatches command snapshot = false then .ok (.finished (.stale snapshot))
    else do
      let position := nextPosition snapshot
      let receipt ← sealReceipt C custody P redactor s.db command position facts
      let anchorGeneration ← validateIntegrityProgression (status C custody s) command
      .ok (.prepare (anchorInput command position receipt anchorGeneration) position facts receipt)

/-- The transaction of an append, committed where it wrote the receipt. -/
def commitReceipt (command : AppendReceiptCommand) (position : ChainPosition) (facts : Facts)
    (receipt : SealedReceipt) : Integral ω AppendReceiptOutcome := do
  let (outcome, db) ← Durable.reading fun s : Store ω =>
    receiptTransaction C custody lookups s.db command position facts receipt
  match outcome with
  | .appended _ => do
    commitDb db
    pure outcome
  | _ => pure outcome

def appendReceipt (command : AppendReceiptCommand) : Integral ω AppendReceiptOutcome := do
  let plan ← Durable.reading fun s => planAppend C custody P redactor lookups s command
  match plan with
  | .finished outcome => pure outcome
  | .prepare input position facts receipt => do
    let _ ← prepareAnchor C custody failpoints input
    let result ←
      Durable.attempt (commitReceipt C custody lookups command position facts receipt)
    match result with
    | .ok (.appended record) => do
      finalizeAnchor C custody failpoints command.transactionId
      pure (.appended record)
    | .ok outcome => do
      let _ ← Durable.attempt (recoverIntegrity C custody failpoints)
      pure outcome
    | .error error => do
      let _ ← Durable.attempt (recoverIntegrity C custody failpoints)
      Durable.raise error

/-- What an atomic mutation has computed before it prepares its anchor. -/
inductive AtomicPlan (ω T : Type) where
  | close (value : T) (db : Database ω)
  | stale (snapshot : Snapshot)
  | prepare (value : T) (input : AnchorCommitInput) (position : ChainPosition) (facts : Facts)
    (receipt : SealedReceipt) (db : Database ω)

/-- The writes of a mutation, in an open transaction: to the other tables and the delegations. -/
abbrev Mutation (ω T : Type) :=
  ω → List DelegationRow → Anyhow (AtomicReceiptMutation T × ω × List DelegationRow)

/-- The receipt of a mutation, over the open transaction the mutation has written to. -/
def planReceipt {T : Type} (s : Store ω) (db : Database ω) (command : AppendReceiptCommand)
    (snapshot : Snapshot) (value : T) : Anyhow (AtomicPlan ω T) := do
  let resulting ← required "failed reading the delegation revision"
    (db.delegations.find? (·.delegationId = command.delegationId))
  ensure (resulting.stateRevision = command.expectedStateRevision)
    "atomic aggregate mutation did not produce the receipt revision"
  ensure (receiptByAppendIdentity db (appendIdentity C command) = none)
    "atomic receipt append identity already exists after a new mutation"
  let facts ← loadFacts lookups db command
  let position := nextPosition snapshot
  let receipt ← sealReceipt C custody P redactor db command position facts
  let anchorGeneration ← validateIntegrityProgression (status C custody s) command
  .ok (.prepare value (anchorInput command position receipt anchorGeneration) position facts
    receipt db)

def planAtomic {T : Type} (s : Store ω) (command : AppendReceiptCommand)
    (expectedPreStateRevision : Int) (precheckRevisionBeforeMutation : Bool)
    (mutation : Mutation ω T) : Anyhow (AtomicPlan ω T) :=
  match receiptByCausationEvent s.db command.causationEventId with
  | some _ => do
    let (mutated, others, delegations) ← mutation s.db.others s.db.delegations
    match mutated with
    | .noAppend value => .ok (.close value { s.db with others, delegations })
    | .append _ => bail "existing atomic receipt cannot be appended again"
  | none => do
    let snapshot ← required "ExecAss receipt delegation does not exist"
      (loadSnapshot s.db command.delegationId)
    let snapshotMatches := snapshotMatchesAtRevision command snapshot expectedPreStateRevision
    if precheckRevisionBeforeMutation && !snapshotMatches then .ok (.stale snapshot)
    else do
      let (mutated, others, delegations) ← mutation s.db.others s.db.delegations
      let db := { s.db with others, delegations }
      match mutated with
      | .noAppend value => .ok (.close value db)
      | .append value =>
        if snapshotMatches = false then .ok (.stale snapshot)
        else planReceipt C custody P redactor lookups s db command snapshot value

def atomicTransaction {T : Type} (command : AppendReceiptCommand) (expectedPreStateRevision : Int)
    (precheckRevisionBeforeMutation : Bool) (mutation : Mutation ω T) :
    Integral ω (AtomicReceiptWriteOutcome T) := do
  let plan ← Durable.reading fun s => planAtomic C custody P redactor lookups s command
    expectedPreStateRevision precheckRevisionBeforeMutation mutation
  match plan with
  | .close value db => do
    commitDb db
    pure (.noAppend value)
  | .stale snapshot => pure (.stale snapshot)
  | .prepare value input position facts receipt db => do
    let (_, db) ← prepareAnchorInTransaction C custody failpoints db input
    let (record, db) ←
      check (writeReceipt C custody lookups command position receipt facts.evidence db)
    commitDb db
    pure (.appended value record)

def mutateWithAtomicReceiptAtRevision {T : Type} (command : AppendReceiptCommand)
    (expectedPreStateRevision : Int) (precheckRevisionBeforeMutation : Bool)
    (mutation : Mutation ω T) : Integral ω (AtomicReceiptWriteOutcome T) := do
  Durable.reading fun s => do
    requireReceiptIntegrityAvailable (status C custody s)
    validateCommand P command
  let result ← Durable.attempt (atomicTransaction C custody failpoints P redactor lookups command
    expectedPreStateRevision precheckRevisionBeforeMutation mutation)
  match result with
  | .ok (.appended value record) => do
    finalizeAnchor C custody failpoints command.transactionId
    pure (.appended value record)
  | .ok outcome => pure outcome
  | .error error => do
    let _ ← Durable.attempt (recoverIntegrity C custody failpoints)
    Durable.raise error

def mutateWithAtomicReceipt {T : Type} (command : AppendReceiptCommand)
    (mutation : Mutation ω T) : Integral ω (AtomicReceiptWriteOutcome T) :=
  mutateWithAtomicReceiptAtRevision C custody failpoints P redactor lookups command
    command.expectedStateRevision false mutation

def mutateWithAdvancingAtomicReceipt {T : Type} (expectedPreStateRevision : Int)
    (command : AppendReceiptCommand) (mutation : Mutation ω T) :
    Integral ω (AtomicReceiptWriteOutcome T) := do
  check (ensure (0 < expectedPreStateRevision ∧
      command.expectedStateRevision = expectedPreStateRevision + 1)
    "advancing atomic receipt requires exactly one lifecycle revision")
  mutateWithAtomicReceiptAtRevision C custody failpoints P redactor lookups command
    expectedPreStateRevision true mutation

end Commands
end CarsinOS.Receipt
