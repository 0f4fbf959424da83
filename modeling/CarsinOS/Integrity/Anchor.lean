import CarsinOS.Receipt.History

/-! The documents of the external receipt anchor, their tags, and the checks of an anchor row
against its document. -/
namespace CarsinOS.Integrity
open CarsinOS.Lib CarsinOS.Receipt

def ANCHOR_DOCUMENT_VERSION : Text := "carsinos.execass.anchor.v1".toList
def ANCHOR_INTEGRITY_ALGORITHM : Text := "hmac-sha256".toList
def ANCHOR_INTEGRITY_DOMAIN : List UInt8 :=
  utf8Bytes "carsinos.execass.anchor.document.v1".toList ++ [0]
def ANCHOR_ROTATION_DOMAIN : List UInt8 :=
  utf8Bytes "carsinos.execass.anchor.rotation.previous.v1".toList ++ [0]
def RECEIPT_COMMIT_CONFIRMATION_DOMAIN : List UInt8 :=
  utf8Bytes "carsinos.execass.receipt-commit-confirmation.v1".toList ++ [0]

inductive AnchorPhase where
  | prepared
  | finalized
  deriving DecidableEq

def AnchorPhase.asStr : AnchorPhase → Text
  | .prepared => "prepared".toList
  | .finalized => "finalized".toList

structure AnchorDocument where
  documentVersion : Text
  phase : AnchorPhase
  rootIdentity : Text
  stateRootGeneration : Int
  anchorGeneration : Int
  receiptCount : Int
  receiptHeadDigest : Option Text
  keyId : Text
  keyGeneration : Int
  transactionId : Text
  externalReceiptDigest : Text
  previousFinalizedDocumentDigest : Option Text
  preparedDocumentDigest : Option Text
  occurredAt : Int
  integrityAlgorithm : Text
  integrityTag : Option Text
  previousKeyIntegrityTag : Option Text
  deriving DecidableEq

structure AnchorCommitInput where
  stateRootGeneration : Int
  anchorGeneration : Int
  receiptCount : Int
  receiptHeadDigest : Option Text
  key : ReceiptKeyRef
  transactionId : Text
  externalReceiptDigest : Text
  occurredAt : Int

/-- A check that stops with a message. -/
def ensure (holds : Prop) [Decidable holds] (message : String) : Anyhow Unit :=
  if holds then .ok () else bail message

@[simp] theorem ensure_ok {holds : Prop} [Decidable holds] {message : String} {u : Unit} :
    ensure holds message = .ok u ↔ holds := by
  unfold ensure
  split <;> simp_all

@[simp] theorem ensure_true {message : String} : ensure True message = .ok () := by simp

def documentTree (document : AnchorDocument) : Json := .obj [
  ("document_version".toList, .str document.documentVersion),
  ("phase".toList, .str document.phase.asStr),
  ("root_identity".toList, .str document.rootIdentity),
  ("state_root_generation".toList, integerTree document.stateRootGeneration),
  ("anchor_generation".toList, integerTree document.anchorGeneration),
  ("receipt_count".toList, integerTree document.receiptCount),
  ("receipt_head_digest".toList, Json.optional document.receiptHeadDigest),
  ("key_id".toList, .str document.keyId),
  ("key_generation".toList, integerTree document.keyGeneration),
  ("transaction_id".toList, .str document.transactionId),
  ("external_receipt_digest".toList, .str document.externalReceiptDigest),
  ("previous_finalized_document_digest".toList,
    Json.optional document.previousFinalizedDocumentDigest),
  ("prepared_document_digest".toList, Json.optional document.preparedDocumentDigest),
  ("occurred_at".toList, integerTree document.occurredAt),
  ("integrity_algorithm".toList, .str document.integrityAlgorithm),
  ("integrity_tag".toList, Json.optional document.integrityTag),
  ("previous_key_integrity_tag".toList, Json.optional document.previousKeyIntegrityTag)]

def serializeDocument (document : AnchorDocument) : List UInt8 :=
  utf8Bytes (documentTree document).print

def unsignedAnchorDocumentBytes (document : AnchorDocument) : List UInt8 :=
  serializeDocument { document with integrityTag := none, previousKeyIntegrityTag := none }

/-- `ReceiptCommitConfirmation`, as it is serialized. -/
def receiptCommitConfirmationBytes (row : AnchorRow) (committedAt : Int) : List UInt8 :=
  utf8Bytes (Json.print (.obj [
    ("document_version".toList, .str "carsinos.execass.receipt-commit-confirmation.v1".toList),
    ("root_identity".toList, .str row.rootIdentity),
    ("state_root_generation".toList, integerTree row.stateRootGeneration),
    ("anchor_generation".toList, integerTree row.anchorGeneration),
    ("transaction_id".toList, .str row.transactionId),
    ("receipt_count".toList, integerTree row.receiptCount),
    ("receipt_head_digest".toList, Json.optional row.receiptHeadDigest),
    ("key_id".toList, .str row.key.keyId),
    ("key_generation".toList, integerTree row.key.keyGeneration),
    ("prepared_document_digest".toList, .str row.preparedDocumentDigest),
    ("committed_at".toList, integerTree committedAt)]))

def validateIdentifier (label : String) (value : Text) : Anyhow Unit :=
  ensure (value ≠ [] ∧ utf8Length value ≤ 128 ∧
      value.all (fun c => c.isAlphanum || c = '-' || c = '_' || c = '.') = true)
    (label ++ " is not a safe receipt-integrity identifier")

def validateDigest (label : String) (value : Text) : Anyhow Unit :=
  ensure (utf8Length value = 64 ∧
      value.all (fun c => c.isDigit || ('a' ≤ c && c ≤ 'f')) = true)
    (label ++ " must be a lowercase SHA-256 hex digest")

section Tags
variable (C : ReceiptCrates)

def sha256Hex (bytes : List UInt8) : Text := (C.sha256 bytes).val

def documentDigest (document : AnchorDocument) : Text := sha256Hex C (serializeDocument document)

def hmacHex (key domain payload : List UInt8) : Text := (C.hmacSha256 key (domain ++ payload)).val

/-- The tag is decoded from hexadecimal digits without capital letters. -/
def verifyHmacHex (key domain payload : List UInt8) (tag : Text) : Anyhow Unit := do
  validateDigest "integrity_tag" tag
  ensure (tag = hmacHex C key domain payload) "HMAC verification failed"

def signAnchorDocument (document : AnchorDocument) (currentKey : List UInt8)
    (previousKey : Option (List UInt8)) : AnchorDocument :=
  let unsigned := { document with integrityAlgorithm := ANCHOR_INTEGRITY_ALGORITHM }
  let bytes := unsignedAnchorDocumentBytes unsigned
  { unsigned with
    integrityTag := some (hmacHex C currentKey ANCHOR_INTEGRITY_DOMAIN bytes)
    previousKeyIntegrityTag :=
      previousKey.map fun key => hmacHex C key ANCHOR_ROTATION_DOMAIN bytes }

def verifyAnchorDocumentIntegrity (document : AnchorDocument) (currentKey : List UInt8)
    (previousKey : Option (List UInt8)) : Anyhow Unit := do
  ensure (document.integrityAlgorithm = ANCHOR_INTEGRITY_ALGORITHM)
    "receipt-anchor integrity algorithm is unsupported"
  match document.integrityTag with
  | none => bail "receipt-anchor keyed integrity tag is missing"
  | some currentTag =>
    let unsigned := unsignedAnchorDocumentBytes document
    withContext "receipt-anchor keyed integrity mismatch"
      (verifyHmacHex C currentKey ANCHOR_INTEGRITY_DOMAIN unsigned currentTag)
    match previousKey, document.previousKeyIntegrityTag with
    | some key, some tag =>
      withContext "receipt-anchor rotation cross-signature mismatch"
        (verifyHmacHex C key ANCHOR_ROTATION_DOMAIN unsigned tag)
    | some _, none => bail "receipt-anchor rotation cross-signature is missing"
    | none, some _ => bail "receipt-anchor has an unexpected previous-key signature"
    | none, none => .ok ()

def receiptCommitConfirmationTag (row : AnchorRow) (committedAt : Int) (key : List UInt8) : Text :=
  hmacHex C key RECEIPT_COMMIT_CONFIRMATION_DOMAIN (receiptCommitConfirmationBytes row committedAt)

def verifyReceiptCommitConfirmation (row : AnchorRow) (key : List UInt8) : Anyhow Unit := do
  ensure (row.receiptCommitConfirmed = true) "receipt commit has not been confirmed"
  match row.receiptCommittedAt, row.receiptCommitConfirmationTag with
  | none, _ => bail "receipt commit timestamp is missing"
  | some _, none => bail "receipt commit confirmation tag is missing"
  | some committedAt, some tag =>
    withContext "receipt commit confirmation HMAC mismatch"
      (verifyHmacHex C key RECEIPT_COMMIT_CONFIRMATION_DOMAIN
        (receiptCommitConfirmationBytes row committedAt) tag)

end Tags

def verifyAnchorDocumentBinding (row : AnchorRow) (document : AnchorDocument) : Anyhow Unit := do
  ensure (document.rootIdentity = row.rootIdentity) "receipt anchor root identity mismatch"
  ensure (document.stateRootGeneration = row.stateRootGeneration)
    "receipt anchor state-root generation mismatch"
  ensure (document.anchorGeneration = row.anchorGeneration) "receipt anchor generation mismatch"
  ensure (document.receiptCount = row.receiptCount ∧
    document.receiptHeadDigest = row.receiptHeadDigest) "receipt anchor count/head mismatch"
  ensure (document.keyId = row.key.keyId ∧ document.keyGeneration = row.key.keyGeneration)
    "receipt anchor key generation mismatch"
  ensure (document.transactionId = row.transactionId)
    "receipt anchor transaction identity mismatch"
  ensure (document.externalReceiptDigest = row.externalReceiptDigest)
    "receipt anchor external receipt digest mismatch"
  ensure (document.occurredAt = row.preparedAt) "receipt anchor occurrence timestamp mismatch"
  ensure (document.integrityAlgorithm = ANCHOR_INTEGRITY_ALGORITHM ∧
    document.integrityTag.isSome) "receipt anchor integrity algorithm or tag mismatch"

def verifyPreparedDocument (row : AnchorRow) (document : AnchorDocument) : Anyhow Unit := do
  ensure (document.documentVersion = ANCHOR_DOCUMENT_VERSION ∧ document.phase = .prepared)
    "prepared receipt-anchor document version or phase mismatch"
  verifyAnchorDocumentBinding row document
  ensure (document.preparedDocumentDigest = none)
    "prepared receipt-anchor document unexpectedly binds a prepared digest"

def verifyFinalizedDocument (row : AnchorRow) (document : AnchorDocument) : Anyhow Unit := do
  ensure (document.documentVersion = ANCHOR_DOCUMENT_VERSION ∧ document.phase = .finalized)
    "finalized receipt-anchor document version or phase mismatch"
  verifyAnchorDocumentBinding row document
  ensure (document.preparedDocumentDigest = some row.preparedDocumentDigest)
    "finalized receipt-anchor prepared digest mismatch"

def validateAnchorInput (input : AnchorCommitInput) : Anyhow Unit := do
  ensure (0 < input.stateRootGeneration ∧ 0 < input.anchorGeneration)
    "receipt anchor generations must be positive integers"
  ensure (0 ≤ input.receiptCount ∧ 0 ≤ input.occurredAt)
    "receipt anchor count and timestamp cannot be negative"
  ensure (input.receiptCount = 0 ↔ input.receiptHeadDigest = none)
    "receipt anchor count/head pair is inconsistent"
  match input.receiptHeadDigest with
  | some head => validateDigest "receipt_head_digest" head
  | none => .ok ()
  validateIdentifier "key_id" input.key.keyId
  validateIdentifier "transaction_id" input.transactionId
  ensure (0 < input.key.keyGeneration) "receipt key generation must be positive"
  validateDigest "external_receipt_digest" input.externalReceiptDigest

def validateAnchorProgression (previous : Option AnchorRow) (input : AnchorCommitInput)
    (rootIdentity : Text) : Anyhow Unit :=
  match previous with
  | none => do
    ensure (input.anchorGeneration = 1) "first receipt anchor generation must be one"
    ensure (input.key.keyGeneration = 1) "first receipt key generation must be one"
  | some previous => do
    ensure (previous.status = .finalized)
      "a receipt anchor transition is already in progress or quarantined"
    ensure (previous.rootIdentity = rootIdentity) "receipt anchor root identity changed"
    ensure (input.anchorGeneration = previous.anchorGeneration + 1)
      "receipt anchor generation is not contiguous"
    ensure (previous.stateRootGeneration ≤ input.stateRootGeneration)
      "state-root generation cannot move backwards"
    ensure (previous.receiptCount ≤ input.receiptCount)
      "receipt high-water count cannot move backwards"
    ensure (input.receiptCount = previous.receiptCount →
      input.receiptHeadDigest = previous.receiptHeadDigest)
      "receipt head changed without a count advance"
    ensure (input.key = previous.key ∨
      input.key.keyGeneration = previous.key.keyGeneration + 1)
      "receipt key generation is neither current nor one-step rotation"

def containsText (message part : String) : Bool :=
  message.toList.tails.any part.toList.isPrefixOf

def classifyIntegrityError (error : Failure) : String :=
  let message := toAsciiLowercase (error.headD "")
  let contains := containsText message
  if contains "key" && (contains "unavailable" || contains "not found") then
    "receipt_key_unavailable"
  else if contains "root identity" then "root_identity_mismatch"
  else if contains "state-root generation" then "state_root_generation_mismatch"
  else if contains "key generation" then "key_generation_mismatch"
  else if contains "rotation cross-signature" then "anchor_rotation_cross_signature_mismatch"
  else if contains "commit confirmation hmac" then "receipt_commit_confirmation_mismatch"
  else if contains "keyed integrity" || contains "integrity algorithm or tag" then
    "anchor_keyed_integrity_mismatch"
  else if contains "count/head" then "anchor_count_head_mismatch"
  else if contains "generation" then "anchor_generation_mismatch"
  else if contains "finalized-document chain" then "anchor_history_chain_mismatch"
  else if contains "digest" then "anchor_digest_mismatch"
  else if contains "current" || contains "versioned" then "anchor_document_mismatch"
  else "anchor_recovery_mismatch"

def sanitizeReason (reason : String) : String :=
  let safe := (reason.toList.filter fun c => c.isLower || c.isDigit || c = '_').take 96
  if safe = [] then "integrity_mismatch" else String.ofList safe

end CarsinOS.Integrity
