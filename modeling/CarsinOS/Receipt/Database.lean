import Mathlib.Data.Char
import Mathlib.Data.List.Lex
import Mathlib.Data.List.Sort
import CarsinOS.Crates

/-! The rows the receipt store keeps in its database, and the queries over them. -/
namespace CarsinOS.Receipt
open CarsinOS.Lib

structure ReceiptKeyRef where
  keyId : Text
  keyGeneration : Int
  deriving DecidableEq

@[ext]
structure PersistedReceipt where
  receiptId : Text
  delegationId : Option Text
  receiptSequence : Option Int
  globalSequence : Int
  appendIdentity : Option Text
  receiptKind : Option Text
  causationId : Text
  causationEventId : Text
  parentReceiptId : Option Text
  globalParentReceiptId : Option Text
  subjectKind : Option Text
  subjectId : Option Text
  subjectRevision : Option Int
  actorType : Text
  actorIdentity : Text
  actorAuthorityProvenanceId : Option Text
  runtimeHostGeneration : Int
  runtimeHostInstanceId : Option Text
  runtimeFencingToken : Option Int
  stateRevision : Int
  canonicalPayload : List UInt8
  serializationVersion : Text
  hashAlgorithm : Text
  key : ReceiptKeyRef
  previousReceiptDigest : Option Text
  globalPreviousReceiptDigest : Option Text
  receiptDigest : Text
  keyedIntegrityTag : Text
  previousKeyIntegrityTag : Option Text
  redactedSummary : Text
  occurredAt : Int
  committedAt : Int
  deriving DecidableEq

/-- What an evidence row says, without the receipt and the place it belongs to. -/
structure EvidenceRef where
  authorityKind : Text
  sourceId : Text
  authoritativeRevision : Int
  authorityLinkId : Text
  observationDigest : Text
  deepLink : Text
  deriving DecidableEq

structure EvidenceRow where
  receiptId : Text
  ordinal : Int
  reference : EvidenceRef
  deriving DecidableEq

inductive AnchorStatus where
  | prepared
  | finalized
  | quarantined
  deriving DecidableEq

structure AnchorRow where
  rootIdentity : Text
  stateRootGeneration : Int
  anchorGeneration : Int
  status : AnchorStatus
  receiptCount : Int
  receiptHeadDigest : Option Text
  key : ReceiptKeyRef
  transactionId : Text
  externalReceiptDigest : Text
  preparedDocumentDigest : Text
  receiptCommitConfirmed : Bool
  receiptCommittedAt : Option Int
  receiptCommitConfirmationTag : Option Text
  finalizedDocumentDigest : Option Text
  preparedAt : Int
  deriving DecidableEq

inductive KeyStatus where
  | provisioned
  | active
  | retired
  | lost
  deriving DecidableEq

structure ReceiptKeyRegistryRow where
  keyId : Text
  keyGeneration : Int
  status : KeyStatus
  rotatedFromKeyId : Option Text
  rotatedFromKeyGeneration : Option Int
  createdAt : Int
  registryIntegrityTag : Text
  activatedAnchorGeneration : Option Int
  deriving DecidableEq

def ReceiptKeyRegistryRow.key (row : ReceiptKeyRegistryRow) : ReceiptKeyRef :=
  ⟨row.keyId, row.keyGeneration⟩

structure JournalState where
  receiptCount : Int
  receiptHeadDigest : Option Text
  latestReceiptId : Option Text
  deriving DecidableEq

/-- The columns of a delegation row that receipts are bound to. -/
structure DelegationRow where
  delegationId : Text
  stateRevision : Int
  receiptChainCount : Int
  receiptChainHeadDigest : Option Text
  deriving DecidableEq

/-- The tables of the receipts beside the other tables. -/
structure Database (ω : Type) where
  receipts : List PersistedReceipt
  evidence : List EvidenceRow
  anchors : List AnchorRow
  keys : List ReceiptKeyRegistryRow
  journal : JournalState
  delegations : List DelegationRow
  others : ω

namespace Database
variable {ω : Type} (db : Database ω)

/-- `ORDER BY global_sequence,receipt_id`. -/
def orderedReceipts : List PersistedReceipt :=
  db.receipts.insertionSort fun first second =>
    first.globalSequence < second.globalSequence ∨
      (first.globalSequence = second.globalSequence ∧ first.receiptId ≤ second.receiptId)

/-- The evidence rows of a receipt, `ORDER BY ordinal`. -/
def evidenceOf (receiptId : Text) : List EvidenceRef :=
  ((db.evidence.filter (·.receiptId = receiptId)).insertionSort
    fun first second => first.ordinal ≤ second.ordinal).map (·.reference)

/-- `all_anchor_rows_with_conn`. -/
def allAnchorRows : List AnchorRow :=
  db.anchors.insertionSort fun first second => first.anchorGeneration ≤ second.anchorGeneration

def finalizedAnchorRows : List AnchorRow := db.allAnchorRows.filter (·.status = .finalized)

def latestFinalizedKey : Option ReceiptKeyRef :=
  db.finalizedAnchorRows.getLast?.map (·.key)

/-- The first finalized anchor under a key. -/
def firstAnchorGeneration (key : ReceiptKeyRef) : Option Int :=
  ((db.anchors.filter fun row => row.status = .finalized ∧ row.key = key).map
    (·.anchorGeneration)).min?

def receiptKeyRecord (key : ReceiptKeyRef) : Option ReceiptKeyRegistryRow :=
  db.keys.find? (·.key = key)

def keysByGeneration : List ReceiptKeyRegistryRow :=
  db.keys.insertionSort fun first second => first.keyGeneration ≤ second.keyGeneration

/-- The chain count and head stored for a delegation. -/
def storedHead (delegationId : Text) : Option (Int × Option Text) :=
  (db.delegations.find? (·.delegationId = delegationId)).map fun row =>
    (row.receiptChainCount, row.receiptChainHeadDigest)

end Database
end CarsinOS.Receipt
