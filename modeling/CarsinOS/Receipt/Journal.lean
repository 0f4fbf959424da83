import CarsinOS.Lib.Logged
import CarsinOS.Receipt.Append

/-! The chains of the receipts: the journal of all of them, and the chain of each delegation. -/
namespace CarsinOS.Receipt
open CarsinOS.Lib CarsinOS.Integrity

/-- A receipt that comes after the receipts before it in the journal. -/
structure Succeeds (before : List PersistedReceipt) (row : PersistedReceipt) : Prop where
  number : row.globalSequence = before.length + 1
  digest : row.globalPreviousReceiptDigest = before.getLast?.map (·.receiptDigest)
  parent : row.globalParentReceiptId = before.getLast?.map (·.receiptId)
  distinct : ∀ other ∈ before, other.receiptId ≠ row.receiptId ∧
    other.appendIdentity ≠ row.appendIdentity ∧ other.causationEventId ≠ row.causationEventId ∧
    other.receiptDigest ≠ row.receiptDigest

/-- A receipt that comes after those before it in the chain of its delegation. -/
structure SucceedsInChain (before : List PersistedReceipt) (row : PersistedReceipt) : Prop where
  number : row.receiptSequence = some (before.length + 1)
  digest : row.previousReceiptDigest = before.getLast?.map (·.receiptDigest)
  parent : row.parentReceiptId = before.getLast?.map (·.receiptId)

def headOf (receipts : List PersistedReceipt) : JournalState where
  receiptCount := receipts.length
  receiptHeadDigest := receipts.getLast?.map (·.receiptDigest)
  latestReceiptId := receipts.getLast?.map (·.receiptId)

def chainOf (delegationId : Text) (receipts : List PersistedReceipt) : List PersistedReceipt :=
  receipts.filter (·.delegationId = some delegationId)

/-- The delegation row has the head of its chain. -/
structure Heads (row : DelegationRow) (chain : List PersistedReceipt) : Prop where
  count : row.receiptChainCount = chain.length
  digest : row.receiptChainHeadDigest = chain.getLast?.map (·.receiptDigest)

structure Chained {ω : Type} (db : Database ω) : Prop where
  journal : Logged Succeeds db.receipts
  head : db.journal = headOf db.receipts
  distinct : (db.delegations.map (·.delegationId)).Nodup
  chains : ∀ row ∈ db.delegations, Logged SucceedsInChain (chainOf row.delegationId db.receipts) ∧
    Heads row (chainOf row.delegationId db.receipts)
  owned : ∀ receipt ∈ db.receipts, ∀ delegationId, receipt.delegationId = some delegationId →
    ∃ row ∈ db.delegations, row.delegationId = delegationId

section
variable {ω : Type} {db next : Database ω} {row : PersistedReceipt}

/-- The checks of the table at the insert of a receipt. -/
structure Inserts (db : Database ω) (row : PersistedReceipt) : Prop where
  number : row.globalSequence = db.journal.receiptCount + 1
  digest : row.globalPreviousReceiptDigest = db.journal.receiptHeadDigest
  parent : row.globalParentReceiptId = db.journal.latestReceiptId
  chain : ∀ snapshot, row.delegationId.bind (loadSnapshot db) = some snapshot →
    row.receiptSequence = some (snapshot.delegationCount + 1) ∧
      row.previousReceiptDigest = snapshot.delegationHead ∧
      row.parentReceiptId = snapshot.delegationParentId
  distinct : ∀ other ∈ db.receipts, other.receiptId ≠ row.receiptId ∧
    other.appendIdentity ≠ row.appendIdentity ∧ other.causationEventId ≠ row.causationEventId ∧
    other.receiptDigest ≠ row.receiptDigest

/-- A delegation row after a receipt: its own receipt is its new head. -/
structure Advances (row : PersistedReceipt) (before after : DelegationRow) : Prop where
  same : after.delegationId = before.delegationId
  mine : row.delegationId = some before.delegationId →
    some after.receiptChainCount = row.receiptSequence ∧
      after.receiptChainHeadDigest = some row.receiptDigest
  other : row.delegationId ≠ some before.delegationId →
    after.receiptChainCount = before.receiptChainCount ∧
      after.receiptChainHeadDigest = before.receiptChainHeadDigest

/-- Rows of delegations after writes that leave the receipt heads alone: a delegation keeps its
head, and a new one has none. -/
structure KeepsHeads (before after : List DelegationRow) : Prop where
  distinct : (before.map (·.delegationId)).Nodup → (after.map (·.delegationId)).Nodup
  kept : ∀ row ∈ before, ∃ next ∈ after, next.delegationId = row.delegationId
  heads : ∀ next ∈ after, (∃ row ∈ before, row.delegationId = next.delegationId ∧
      row.receiptChainCount = next.receiptChainCount ∧
      row.receiptChainHeadDigest = next.receiptChainHeadDigest) ∨
    ((∀ row ∈ before, row.delegationId ≠ next.delegationId) ∧ next.receiptChainCount = 0 ∧
      next.receiptChainHeadDigest = none)

end
end CarsinOS.Receipt
