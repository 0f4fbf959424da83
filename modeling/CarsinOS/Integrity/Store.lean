import CarsinOS.Integrity.Anchor
import CarsinOS.Lib.Durable

/-! The receipt-integrity store: the database beside the external anchor files, its status, and
the operations that move the anchor. Files hold documents; a document is serialized canonically
and is far below the size limit. -/
namespace CarsinOS.Integrity
open CarsinOS.Lib CarsinOS.Receipt

/-- The anchor directory. Versioned files are named by generation and transaction. -/
structure Files where
  prepared : List ((Int × Text) × AnchorDocument)
  finalized : Int × Text → Option AnchorDocument
  current : Option AnchorDocument
  quarantine : Option String

structure Store (ω : Type) where
  db : Database ω
  files : Files

namespace Files
variable (files : Files)

def readPrepared (name : Int × Text) : Option AnchorDocument :=
  (files.prepared.find? (·.1 = name)).map (·.2)

def removePrepared (name : Int × Text) : Files :=
  { files with prepared := files.prepared.filter (·.1 ≠ name) }

def writePrepared (name : Int × Text) (document : AnchorDocument) : Files :=
  { files with prepared := files.prepared.filter (·.1 ≠ name) ++ [(name, document)] }

def writeFinalized (name : Int × Text) (document : AnchorDocument) : Files :=
  { files with finalized := Function.update files.finalized name (some document) }

def writeCurrent (document : Option AnchorDocument) : Files := { files with current := document }

def writeQuarantine (reason : String) : Files := { files with quarantine := some reason }

end Files

section
variable {ω : Type}

namespace Store

def setFiles (s : Store ω) (files : Files) : Store ω := { s with files }

def setDb (s : Store ω) (db : Database ω) : Store ω := { s with db }

end Store

/-- The name of an anchor row's versioned files. -/
def fileName (row : AnchorRow) : Int × Text := (row.anchorGeneration, row.transactionId)

def latestAnchorRow (db : Database ω) : Option AnchorRow := db.allAnchorRows.getLast?

def anchorRowByTransaction (db : Database ω) (transactionId : Text) : Option AnchorRow :=
  db.anchors.find? (·.transactionId = transactionId)

def priorFinalizedAnchorRow (db : Database ω) (anchorGeneration : Int) : Option AnchorRow :=
  (db.finalizedAnchorRows.filter (·.anchorGeneration < anchorGeneration)).getLast?

/-- A document that must be there. -/
def readExactDocument : Option AnchorDocument → Anyhow AnchorDocument
  | some document => .ok document
  | none => bail "failed opening the configured receipt anchor"

def required {α : Type} (message : String) : Option α → Anyhow α
  | some a => .ok a
  | none => bail message

@[simp] theorem required_ok {α : Type} {message : String} {x : Option α} {a : α} :
    required message x = .ok a ↔ x = some a := by
  cases x <;> simp [required, bail]

inductive IntegrityStatus where
  | uninitialized
  | prepared (transactionId : Text) (anchorGeneration : Int)
  | trusted (anchorGeneration receiptCount : Int) (receiptHeadDigest : Option Text)
    (key : ReceiptKeyRef)
  | keyLost (key : ReceiptKeyRef)
  | mismatch (reason : String)
  | quarantined (reason : String)
  deriving DecidableEq

inductive IntegrityRecovery where
  | healthy
  | finalizedInterruptedCommit (transactionId : Text)
  | restoredLastProvenPair (anchorGeneration : Option Int)
  | quarantined (reason : String)
  deriving DecidableEq

structure PreparedAnchor where
  transactionId : Text
  anchorGeneration : Int
  preparedDocumentDigest : Text

/-- `ReceiptHistoryFailure::reason_code`. -/
def reasonCode (failure : ReceiptHistoryFailure) : String :=
  match failure.firstGlobalSequence with
  | some sequence => failure.reason ++ "_at_global_sequence_" ++ toString sequence
  | none => failure.reason

section Status
variable (C : ReceiptCrates) (custody : KeyCustody)

/-- The key of the row before, where it is another key. -/
def crossSigningKey (prior : Option AnchorRow) (key : ReceiptKeyRef) (message : String) :
    Anyhow (Option (List UInt8)) :=
  match prior with
  | some prior =>
    if prior.key = key then .ok none
    else do .ok (some (← withContext message (custody.loadKey prior.key)))
  | none => .ok none

def verifyFinalizedRow (s : Store ω) (row : AnchorRow) : Anyhow Unit := do
  ensure (row.rootIdentity = custody.rootIdentity) "receipt anchor root identity mismatch"
  let current ← readExactDocument s.files.current
  verifyFinalizedDocument row current
  let currentKey ← withContext "receipt anchor key is unavailable" (custody.loadKey row.key)
  verifyReceiptCommitConfirmation C row currentKey
  let previousKey ← crossSigningKey custody (priorFinalizedAnchorRow s.db row.anchorGeneration)
    row.key "previous receipt key is unavailable for rotation verification"
  verifyAnchorDocumentIntegrity C current currentKey previousKey
  ensure (row.finalizedDocumentDigest = some (documentDigest C current))
    "finalized receipt-anchor document digest mismatch"
  let versioned ← readExactDocument (s.files.finalized (fileName row))
  ensure (versioned = current) "current and versioned receipt anchors differ"

/-- A row of the history against the row before it and that row's document digest. -/
def verifyHistoryRow (files : Files) (expectedGeneration : Int)
    (previous : Option (AnchorRow × Text)) (row : AnchorRow) : Anyhow Text := do
  ensure (row.anchorGeneration = expectedGeneration) "receipt anchor generation is not contiguous"
  ensure (row.status = .finalized) "receipt anchor history contains a non-finalized predecessor"
  ensure (row.rootIdentity = custody.rootIdentity) "receipt anchor root identity mismatch"
  match previous with
  | some (prior, _) => do
    ensure (prior.stateRootGeneration ≤ row.stateRootGeneration)
      "receipt anchor state-root generation moved backwards"
    ensure (prior.receiptCount ≤ row.receiptCount ∧ (row.receiptCount = prior.receiptCount →
      row.receiptHeadDigest = prior.receiptHeadDigest)) "receipt anchor count/head history mismatch"
    ensure (row.key = prior.key ∨ row.key.keyGeneration = prior.key.keyGeneration + 1)
      "receipt anchor key generation history mismatch"
  | none => ensure (row.key.keyGeneration = 1) "first receipt anchor key generation is not one"
  let document ← readExactDocument (files.finalized (fileName row))
  verifyFinalizedDocument row document
  let currentKey ← withContext "receipt anchor key is unavailable" (custody.loadKey row.key)
  let previousKey ← crossSigningKey custody (previous.map (·.1)) row.key
    "previous receipt key is unavailable for rotation verification"
  verifyReceiptCommitConfirmation C row currentKey
  verifyAnchorDocumentIntegrity C document currentKey previousKey
  ensure (row.finalizedDocumentDigest = some (documentDigest C document))
    "finalized receipt-anchor document digest mismatch"
  ensure (document.previousFinalizedDocumentDigest = previous.map (·.2))
    "receipt anchor finalized-document chain mismatch"
  .ok (documentDigest C document)

def verifyHistoryRows (files : Files) :
    Int → Option (AnchorRow × Text) → List AnchorRow → Anyhow (Option (AnchorRow × Text))
  | _, previous, [] => .ok previous
  | expectedGeneration, previous, row :: rows => do
    let digest ← verifyHistoryRow C custody files expectedGeneration previous row
    verifyHistoryRows files (expectedGeneration + 1) (some (row, digest)) rows

def verifyAnchorHistory (s : Store ω) (latest : AnchorRow) : Anyhow Unit := do
  let last ← required "receipt anchor history is empty"
    (← verifyHistoryRows C custody s.files 1 none s.db.allAnchorRows)
  ensure (last.1.transactionId = latest.transactionId ∧
    last.1.anchorGeneration = latest.anchorGeneration)
    "receipt anchor latest-row identity mismatch"
  let current ← readExactDocument s.files.current
  let latestVersioned ← readExactDocument (s.files.finalized (fileName latest))
  ensure (current = latestVersioned) "current and versioned receipt anchors differ"

def preparedStatus (row : AnchorRow) : IntegrityStatus :=
  match custody.loadKey row.key with
  | .error _ => .keyLost row.key
  | .ok key =>
    if row.receiptCommitConfirmed = false ∨ verifyReceiptCommitConfirmation C row key = .ok () then
      .prepared row.transactionId row.anchorGeneration
    else .mismatch "receipt_commit_confirmation_mismatch"

def finalizedStatus (s : Store ω) (row : AnchorRow) : IntegrityStatus :=
  match custody.loadKey row.key with
  | .error _ => .keyLost row.key
  | .ok _ =>
    match verifyAnchorHistory C custody s row with
    | .error error => .mismatch (classifyIntegrityError error)
    | .ok () =>
      match verifyReceiptHistory C custody s.db row.stateRootGeneration row.receiptCount
          row.receiptHeadDigest with
      | .error failure => .mismatch (reasonCode failure)
      | .ok () =>
        .trusted row.anchorGeneration row.receiptCount row.receiptHeadDigest row.key

def status (s : Store ω) : IntegrityStatus :=
  match s.files.quarantine with
  | some reason => .quarantined reason
  | none =>
    match latestAnchorRow s.db with
    | none =>
      if s.db.receipts ≠ [] then .mismatch "receipt_rows_without_database_anchor"
      else if s.files.current.isSome then .mismatch "external_anchor_without_database_state"
      else .uninitialized
    | some row =>
      if row.rootIdentity ≠ custody.rootIdentity then .mismatch "root_identity_mismatch"
      else
        match row.status with
        | .quarantined => .quarantined "database_integrity_quarantine"
        | .prepared => preparedStatus C custody row
        | .finalized => finalizedStatus C custody s row

end Status

/-! The changes of the database. -/

def setKeyStatus (key : ReceiptKeyRef) (before after : KeyStatus) (activated : Option Int)
    (keys : List ReceiptKeyRegistryRow) : List ReceiptKeyRegistryRow :=
  keys.map fun row =>
    if row.key = key ∧ row.status = before then
      { row with
        status := after
        activatedAnchorGeneration := activated.or row.activatedAnchorGeneration }
    else row

def hasKey (key : ReceiptKeyRef) (expected : KeyStatus) (keys : List ReceiptKeyRegistryRow) :
    Bool :=
  keys.any fun row => row.key = key ∧ row.status = expected

/-- The key of the anchor that becomes final: it replaces the key it was rotated from. -/
def activateKeyForAnchor (db : Database ω) (key : ReceiptKeyRef) (anchorGeneration : Int) :
    Anyhow (Database ω) := do
  let record ← required "receipt anchor key is absent from the immutable registry"
    (db.receiptKeyRecord key)
  match record.status with
  | .active =>
    ensure record.activatedAnchorGeneration.isSome
      "receipt anchor key cannot be activated from registry status active"
    .ok db
  | .provisioned => do
    let keys ← match record.rotatedFromKeyId, record.rotatedFromKeyGeneration with
      | some parentId, some parentGeneration => do
        ensure (hasKey ⟨parentId, parentGeneration⟩ .active db.keys)
          "receipt key rotation parent is not the active key"
        .ok (setKeyStatus ⟨parentId, parentGeneration⟩ .active .retired none db.keys)
      | _, _ => .ok db.keys
    ensure (keys.all fun row => row.status ≠ .active)
      "UNIQUE constraint failed: execass_receipt_keys.status"
    .ok { db with keys := setKeyStatus key .provisioned .active (some anchorGeneration) keys }
  | .retired => bail "receipt anchor key cannot be activated from registry status retired"
  | .lost => bail "receipt anchor key cannot be activated from registry status lost"

def validateKeyForAnchor (db : Database ω) (previous : Option AnchorRow) (key : ReceiptKeyRef) :
    Anyhow Unit := do
  let record ← required "receipt anchor key is absent from the immutable registry"
    (db.receiptKeyRecord key)
  let valid : Bool := match previous with
    | none => record.status = .provisioned && key.keyGeneration = 1
    | some previous =>
      (previous.key = key && record.status = .active) ||
      (record.status = .provisioned && record.rotatedFromKeyId = some previous.key.keyId &&
        record.rotatedFromKeyGeneration = some previous.key.keyGeneration)
  ensure valid "receipt anchor key is not valid for this anchor transition"

/-- The anchor rows with the row of a transaction changed. -/
def updateAnchor (transactionId : Text) (change : AnchorRow → AnchorRow) (db : Database ω) :
    Database ω :=
  { db with anchors := db.anchors.map fun row =>
      if row.transactionId = transactionId then change row else row }

/-- The insert of a prepared row, under the unique columns of its table. -/
def insertAnchor (row : AnchorRow) (db : Database ω) : Anyhow (Database ω) := do
  ensure (db.anchors.all fun other => other.transactionId ≠ row.transactionId ∧
      (other.rootIdentity, other.stateRootGeneration, other.anchorGeneration) ≠
        (row.rootIdentity, row.stateRootGeneration, row.anchorGeneration))
    "failed recording prepared receipt anchor"
  .ok { db with anchors := db.anchors ++ [row] }

/-- `IntegrityFailpoints`: the points of an operation by name. One that fails stands for an
input or output error there. -/
abbrev Failpoints := String → Anyhow Unit

def noFailpoints : Failpoints := fun _ => .ok ()

section Operations
variable (C : ReceiptCrates) (custody : KeyCustody) (failpoints : Failpoints)

abbrev Integral (ω α : Type) := Durable (Store ω) Failure α

def check {α : Type} (x : Anyhow α) : Integral ω α := Durable.reading fun _ => x

def changeFiles (f : Files → Files) : Integral ω Unit :=
  Durable.commit fun s => s.setFiles (f s.files)

def hit (name : String) : Integral ω Unit := check (failpoints name)

/-- The file is replaced by a rename, so that a failure leaves the old file or the new one. -/
def durableWriteAtomic (area : String) (f : Files → Files) : Integral ω Unit := do
  hit failpoints (area ++ ".write.before")
  hit failpoints (area ++ ".write.after")
  hit failpoints (area ++ ".sync.after")
  changeFiles f
  hit failpoints (area ++ ".rename.after")
  hit failpoints (area ++ ".dir_sync.after")

def commitDb (db : Database ω) : Integral ω Unit := Durable.commit fun s => s.setDb db

def preparedDocument (input : AnchorCommitInput) (previous : Option AnchorRow)
    (currentKey : List UInt8) (previousKey : Option (List UInt8)) : AnchorDocument :=
  signAnchorDocument C {
    documentVersion := ANCHOR_DOCUMENT_VERSION
    phase := .prepared
    rootIdentity := custody.rootIdentity
    stateRootGeneration := input.stateRootGeneration
    anchorGeneration := input.anchorGeneration
    receiptCount := input.receiptCount
    receiptHeadDigest := input.receiptHeadDigest
    keyId := input.key.keyId
    keyGeneration := input.key.keyGeneration
    transactionId := input.transactionId
    externalReceiptDigest := input.externalReceiptDigest
    previousFinalizedDocumentDigest := previous.bind (·.finalizedDocumentDigest)
    preparedDocumentDigest := none
    occurredAt := input.occurredAt
    integrityAlgorithm := ANCHOR_INTEGRITY_ALGORITHM
    integrityTag := none
    previousKeyIntegrityTag := none } currentKey previousKey

def preparedRow (input : AnchorCommitInput) (document : AnchorDocument) : AnchorRow where
  rootIdentity := custody.rootIdentity
  stateRootGeneration := input.stateRootGeneration
  anchorGeneration := input.anchorGeneration
  status := .prepared
  receiptCount := input.receiptCount
  receiptHeadDigest := input.receiptHeadDigest
  key := input.key
  transactionId := input.transactionId
  externalReceiptDigest := input.externalReceiptDigest
  preparedDocumentDigest := documentDigest C document
  receiptCommitConfirmed := false
  receiptCommittedAt := none
  receiptCommitConfirmationTag := none
  finalizedDocumentDigest := none
  preparedAt := input.occurredAt

/-- What is checked before the prepared document is written, and the document. -/
def prepareChecks (s : Store ω) (transaction : Database ω) (input : AnchorCommitInput) :
    Anyhow AnchorDocument := do
  validateAnchorInput input
  ensure (s.files.quarantine = none) "receipt integrity is quarantined"
  let previous := latestAnchorRow transaction
  validateAnchorProgression previous input custody.rootIdentity
  validateKeyForAnchor transaction previous input.key
  let currentKey ← withContext "receipt anchor key is unavailable" (custody.loadKey input.key)
  let previousKey ← crossSigningKey custody previous input.key
    "previous receipt key is unavailable for rotation cross-signing"
  match previous with
  | some previous => do
    withContext "current receipt anchor is not trusted for advancement"
      (verifyFinalizedRow C custody s previous)
    let _ ← withContext "current receipt key is unavailable for advancement"
      (custody.loadKey previous.key)
    .ok ()
  | none =>
    ensure (s.files.current = none)
      "external receipt anchor exists without database high-water state"
  .ok (preparedDocument C custody input previous currentKey previousKey)

/-- Prepares the anchor through an open transaction, whose database is returned: its commit is
the caller's. -/
def prepareAnchorInTransaction (transaction : Database ω) (input : AnchorCommitInput) :
    Integral ω (PreparedAnchor × Database ω) := do
  let document ← Durable.reading fun s => prepareChecks C custody s transaction input
  let name := (input.anchorGeneration, input.transactionId)
  let result ← Durable.attempt do
    hit failpoints "anchor.prepare.begin"
    durableWriteAtomic failpoints "anchor.prepare" (·.writePrepared name document)
    hit failpoints "db.prepare.before"
    check (insertAnchor (preparedRow C custody input document) transaction)
  match result with
  | .ok db =>
    pure (⟨input.transactionId, input.anchorGeneration, documentDigest C document⟩, db)
  | .error error => do
    changeFiles (·.removePrepared name)
    Durable.raise error

def prepareAnchor (input : AnchorCommitInput) : Integral ω PreparedAnchor := do
  let s ← Durable.storage
  let (prepared, db) ← prepareAnchorInTransaction C custody failpoints s.db input
  commitDb db
  hit failpoints "db.prepare.after"
  pure prepared

def confirmPreparedAnchorInTransaction (transaction : Database ω) (transactionId : Text)
    (receiptCount : Int) (receiptHeadDigest : Option Text) (committedAt : Int) :
    Anyhow (Database ω) := do
  validateIdentifier "transaction_id" transactionId
  ensure (0 ≤ receiptCount ∧ 0 < committedAt) "receipt commit confirmation values are invalid"
  ensure (receiptCount = 0 ↔ receiptHeadDigest = none)
    "receipt commit confirmation count/head pair is inconsistent"
  match receiptHeadDigest with
  | some digest => validateDigest "receipt_head_digest" digest
  | none => .ok ()
  let row ← required "prepared receipt anchor does not exist"
    (anchorRowByTransaction transaction transactionId)
  ensure (row.status = .prepared ∧ row.receiptCommitConfirmed = false ∧
      row.receiptCount = receiptCount ∧ row.receiptHeadDigest = receiptHeadDigest)
    "prepared receipt anchor cannot be confirmed for these committed receipts"
  let key ← withContext "receipt key is unavailable for commit confirmation"
    (custody.loadKey row.key)
  .ok (updateAnchor transactionId (fun row => { row with
    receiptCommitConfirmed := true
    receiptCommittedAt := some committedAt
    receiptCommitConfirmationTag := some (receiptCommitConfirmationTag C row committedAt key) })
    transaction)

def validateCurrentBeforeFinalize (s : Store ω) (pending : AnchorRow) (proposed : AnchorDocument) :
    Anyhow Unit :=
  match s.files.current with
  | none => ensure (pending.anchorGeneration = 1) "prior external receipt anchor is missing"
  | some current =>
    if current = proposed then .ok ()
    else do
      let prior ← required "external receipt anchor does not match a prior finalized database row"
        (priorFinalizedAnchorRow s.db pending.anchorGeneration)
      verifyFinalizedDocument prior current
      ensure (prior.finalizedDocumentDigest = some (documentDigest C current))
        "prior external receipt-anchor digest mismatch"
      ensure (s.files.finalized (fileName prior) = some current)
        "prior current and versioned receipt anchors differ"

/-- The current document, where it is not the proposed one, under the keys of its own row. -/
def verifyCurrentIntegrity (s : Store ω) (pending : AnchorRow) (proposed : AnchorDocument) :
    Anyhow Unit :=
  match s.files.current with
  | none => .ok ()
  | some current =>
    if current = proposed then .ok ()
    else do
      let prior ← required "external receipt anchor has no prior finalized database row"
        (priorFinalizedAnchorRow s.db pending.anchorGeneration)
      let priorKey ← withContext "prior receipt anchor key is unavailable"
        (custody.loadKey prior.key)
      let beforePriorKey ← crossSigningKey custody
        (priorFinalizedAnchorRow s.db prior.anchorGeneration) prior.key
        "prior rotation cross-signing key is unavailable"
      verifyAnchorDocumentIntegrity C current priorKey beforePriorKey

def finalizedDocument (row : AnchorRow) (prepared : AnchorDocument) (currentKey : List UInt8)
    (previousKey : Option (List UInt8)) : AnchorDocument :=
  signAnchorDocument C { prepared with
    phase := .finalized
    preparedDocumentDigest := some row.preparedDocumentDigest
    integrityTag := none
    previousKeyIntegrityTag := none } currentKey previousKey

/-- What is checked before the finalized document is written, and the document. -/
def finalizeChecks (s : Store ω) (row : AnchorRow) : Anyhow AnchorDocument := do
  let prepared ← readExactDocument (s.files.readPrepared (fileName row))
  verifyPreparedDocument row prepared
  let currentKey ← withContext "receipt anchor key is unavailable during finalization"
    (custody.loadKey row.key)
  verifyReceiptCommitConfirmation C row currentKey
  let previousKey ← crossSigningKey custody (priorFinalizedAnchorRow s.db row.anchorGeneration)
    row.key "previous receipt key is unavailable during rotation finalization"
  verifyAnchorDocumentIntegrity C prepared currentKey previousKey
  ensure (documentDigest C prepared = row.preparedDocumentDigest)
    "prepared receipt-anchor document digest mismatch"
  let finalized := finalizedDocument C row prepared currentKey previousKey
  verifyCurrentIntegrity C custody s row finalized
  validateCurrentBeforeFinalize C s row finalized
  .ok finalized

/-- The database with the anchor final. -/
def finalizeRow (db : Database ω) (row : AnchorRow) (finalized : AnchorDocument) :
    Anyhow (Database ω) := do
  let db ← activateKeyForAnchor db row.key row.anchorGeneration
  .ok (updateAnchor row.transactionId (fun row => { row with
    status := .finalized
    finalizedDocumentDigest := some (documentDigest C finalized) }) db)

def finalizeSteps (row : AnchorRow) : Integral ω Unit := do
  let finalized ← Durable.reading fun s => finalizeChecks C custody s row
  durableWriteAtomic failpoints "anchor.finalized_version" (·.writeFinalized (fileName row) finalized)
  durableWriteAtomic failpoints "anchor.current" (·.writeCurrent (some finalized))
  hit failpoints "db.finalize.before"
  let db ← Durable.reading fun s => finalizeRow C s.db row finalized
  commitDb db

def finalizeAnchor (transactionId : Text) : Integral ω Unit := do
  check (validateIdentifier "transaction_id" transactionId)
  let s ← Durable.storage
  let row ← check (required "prepared receipt anchor does not exist"
    (anchorRowByTransaction s.db transactionId))
  match row.status with
  | .finalized => check (verifyFinalizedRow C custody s row)
  | .quarantined => Durable.raise ["receipt anchor is not eligible for finalization"]
  | .prepared =>
    if row.receiptCommitConfirmed = false ∨ row.receiptCommittedAt = none then
      Durable.raise ["receipt anchor cannot finalize before its receipt commit is confirmed"]
    else do
      let result ← Durable.attempt (finalizeSteps C custody failpoints row)
      match result with
      | .error error => do
        changeFiles (·.writeCurrent s.files.current)
        Durable.raise error
      | .ok () => do
        hit failpoints "db.finalize.after"
        let done ← Durable.storage
        let finalizedRow ← check (required "finalized receipt anchor disappeared"
          (anchorRowByTransaction done.db transactionId))
        check (verifyFinalizedRow C custody done finalizedRow)
        changeFiles (·.removePrepared (fileName row))

/-! Recovery. -/

def discardUnconfirmedPrepared (row : AnchorRow) : Integral ω IntegrityRecovery := do
  let s ← Durable.storage
  let isPending (other : AnchorRow) : Bool := other.transactionId = row.transactionId ∧
    other.status = .prepared ∧ other.receiptCommitConfirmed = false
  check (ensure (s.db.anchors.any isPending)
    "unconfirmed prepared receipt anchor changed during recovery")
  commitDb { s.db with anchors := s.db.anchors.filter fun other => !isPending other }
  changeFiles (·.removePrepared (fileName row))
  let discarded ← Durable.storage
  match latestAnchorRow discarded.db with
  | some prior =>
    if prior.status = .finalized then do
      let document ← check (readExactDocument (discarded.files.finalized (fileName prior)))
      changeFiles (·.writeCurrent (some document))
      Durable.reading fun s => verifyFinalizedRow C custody s prior
    else Durable.raise ["unconfirmed anchor recovery found no prior finalized state"]
    pure (.restoredLastProvenPair (some prior.anchorGeneration))
  | none => do
    changeFiles (·.writeCurrent none)
    pure (.restoredLastProvenPair none)

/-- The latest anchor row and its key as a quarantine leaves them. -/
def quarantineDb (reason : String) (db : Database ω) : Database ω :=
  match latestAnchorRow db with
  | none => db
  | some latest =>
    { db with
      keys := if reason = "receipt_key_unavailable" then
          db.keys.map fun key =>
            if key.key = latest.key ∧ (key.status = .provisioned ∨ key.status = .active) then
              { key with status := .lost }
            else key
        else db.keys
      anchors := db.anchors.map fun row =>
        if row.transactionId = latest.transactionId then { row with status := .quarantined }
        else row }

def quarantine (reason : String) : Integral ω IntegrityRecovery := do
  let safeReason := sanitizeReason reason
  durableWriteAtomic failpoints "anchor.quarantine" (·.writeQuarantine safeReason)
  let s ← Durable.storage
  commitDb (quarantineDb safeReason s.db)
  pure (.quarantined safeReason)

/-- Removes one prepared file after the other, but for the one of a prepared latest row. -/
def removeFiles : List (Int × Text) → Integral ω Unit
  | [] => pure ()
  | name :: names => do
    changeFiles (·.removePrepared name)
    removeFiles names

def removeOrphanPreparedFiles : Integral ω Bool := do
  let s ← Durable.storage
  let represented := (latestAnchorRow s.db).bind fun row =>
    if row.status = .prepared then some (fileName row) else none
  let known := s.db.anchors.map fileName
  let orphans := (s.files.prepared.map (·.1)).filter fun name => represented ≠ some name
  removeFiles orphans
  pure (orphans.any fun name => name ∉ known)

def recoverIntegrity : Integral ω IntegrityRecovery := do
  let s ← Durable.storage
  match status C custody s with
  | .uninitialized => do
    if ← removeOrphanPreparedFiles then pure (.restoredLastProvenPair none) else pure .healthy
  | .trusted .. => do
    if ← removeOrphanPreparedFiles then
      pure (.restoredLastProvenPair ((latestAnchorRow s.db).map (·.anchorGeneration)))
    else pure .healthy
  | .prepared transactionId _ => do
    let row ← check (required "prepared receipt anchor disappeared during recovery"
      (anchorRowByTransaction s.db transactionId))
    if row.receiptCommitConfirmed = false then discardUnconfirmedPrepared C custody row
    else do
      match ← Durable.attempt (finalizeAnchor C custody failpoints transactionId) with
      | .ok () => pure (.finalizedInterruptedCommit transactionId)
      | .error error => quarantine failpoints (classifyIntegrityError error)
  | .keyLost _ => quarantine failpoints "receipt_key_unavailable"
  | .mismatch reason => quarantine failpoints reason
  | .quarantined reason => pure (.quarantined reason)

end Operations
end
end CarsinOS.Integrity
