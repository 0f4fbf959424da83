import CarsinOS.Receipt.Paired

/-! What each of the writers of receipts does to the database, in every durable step. -/
namespace CarsinOS.Receipt
open CarsinOS.Lib CarsinOS.Lib.Durable CarsinOS.Integrity CarsinOS.Runtime

section
variable {ω : Type} {C : ReceiptCrates} {custody : KeyCustody} {failpoints : Failpoints}
  {P : RedactionCrates} {redactor : ReceiptRedactor} {lookups : Lookups ω}
  {runtimeLookups : RuntimeLookups ω} {db next : Database ω} {s : Store ω}

/-- The row that a receipt leaves in its delegation. -/
def advanced (command : AppendReceiptCommand) (position : ChainPosition) (digest : Text)
    (row : DelegationRow) : DelegationRow :=
  if atExpectedHead command row then
    { row with
      receiptChainCount := position.delegationSequence
      receiptChainHeadDigest := some digest }
  else row

/-- The receipts and their evidence are kept, and what is added is sound. -/
structure Grows (db next : Database ω) : Prop where
  journaled : Journaled next
  receipts : db.receipts <+: next.receipts
  evidence : db.evidence <+: next.evidence

/-- The program leaves the content of the database in every durable step. -/
def Quiet {α : Type} (x : Integral ω α) (s : Store ω) : Prop :=
  Walk (fun a b => Grows a.db b.db ∧ SameContent a.db b.db) x s
    fun _ t => Journaled t.db ∧ SameContent s.db t.db

end
end CarsinOS.Receipt
