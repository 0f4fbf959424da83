import CarsinOS.Integrity.Settling
import CarsinOS.Receipt.Journal
import CarsinOS.Runtime.Receipt

/-! The receipts beside their anchors: one anchor row for each receipt, and at most one more. -/
namespace CarsinOS.Receipt
open CarsinOS.Lib CarsinOS.Integrity

/-- A confirmed anchor row names the number and the digest of its receipt. -/
structure StandsFor (row : AnchorRow) (receipt : PersistedReceipt) : Prop where
  confirmed : row.receiptCommitConfirmed = true
  count : row.receiptCount = receipt.globalSequence
  generation : row.anchorGeneration = receipt.globalSequence
  head : row.receiptHeadDigest = some receipt.receiptDigest

/-- A row after the anchors of the receipts, for a receipt that is not committed. -/
structure Pending (receipts : List PersistedReceipt) (row : AnchorRow) : Prop where
  unconfirmed : row.receiptCommitConfirmed = false
  unsettled : row.status ≠ .finalized
  count : row.receiptCount = receipts.length + 1
  generation : row.anchorGeneration = receipts.length + 1

inductive Paired (receipts : List PersistedReceipt) : List AnchorRow → Prop
  | settled {anchors : List AnchorRow} : List.Forall₂ StandsFor anchors receipts →
      Paired receipts anchors
  | pending {anchors : List AnchorRow} {row : AnchorRow} :
    List.Forall₂ StandsFor anchors receipts → Pending receipts row →
      Paired receipts (anchors ++ [row])

variable {receipts : List PersistedReceipt} {anchors before : List AnchorRow}
  {row changed : AnchorRow} {receipt : PersistedReceipt}

structure Journaled {ω : Type} (db : Database ω) : Prop where
  chained : Chained db
  anchored : Anchored db.anchors
  paired : Paired db.receipts db.anchors

section
variable {ω : Type} {C : ReceiptCrates} {custody : KeyCustody} {db next : Database ω} {s : Store ω}

/-- The tables of the receipts and all tables but those of the anchors and keys. -/
structure SameContent (db next : Database ω) : Prop where
  receipts : next.receipts = db.receipts
  evidence : next.evidence = db.evidence
  journal : next.journal = db.journal
  delegations : next.delegations = db.delegations
  others : next.others = db.others

theorem SameContent.trans {middle : Database ω} (first : SameContent db middle)
    (second : SameContent middle next) : SameContent db next :=
  ⟨second.receipts.trans first.receipts, second.evidence.trans first.evidence,
    second.journal.trans first.journal, second.delegations.trans first.delegations,
    second.others.trans first.others⟩

/-- What the transaction of a receipt writes, from the insert of its row to the confirmation of
its anchor. -/
structure Writes (db next : Database ω) (row : PersistedReceipt) (evidence : List EvidenceRow)
    (advance : DelegationRow → DelegationRow) : Prop where
  inserts : Inserts db row
  receipts : next.receipts = db.receipts ++ [row]
  evidence : next.evidence = db.evidence ++ evidence
  journal : next.journal = ⟨row.globalSequence, some row.receiptDigest, some row.receiptId⟩
  delegations : next.delegations = db.delegations.map advance
  advances : ∀ before ∈ db.delegations, Advances row before (advance before)
  owner : ∀ delegationId, row.delegationId = some delegationId →
    ∃ before ∈ db.delegations, before.delegationId = delegationId
  others : next.others = db.others
  confirmed : ∃ before pending changed, db.anchors = before ++ [pending] ∧
    next.anchors = before ++ [changed] ∧ pending.receiptCommitConfirmed = false ∧
    changed.receiptCommitConfirmed = true ∧ changed.receiptCount = pending.receiptCount ∧
    changed.anchorGeneration = pending.anchorGeneration ∧
    changed.transactionId = pending.transactionId ∧
    changed.receiptHeadDigest = some row.receiptDigest

end
end CarsinOS.Receipt
