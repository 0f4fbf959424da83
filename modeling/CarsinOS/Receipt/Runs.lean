import CarsinOS.Receipt.Written

/-! Runs of the receipt store: any calls, under any failures, in a process that may stop after any
of their durable steps. -/
namespace CarsinOS.Receipt
open CarsinOS.Lib CarsinOS.Lib.Durable CarsinOS.Integrity CarsinOS.Runtime

def AppendReceiptOutcome.records : AppendReceiptOutcome → List ReceiptRecord
  | .appended record => [record]
  | .replayed record => [record]
  | .stale _ => []
  | .conflict _ => []

def AtomicReceiptWriteOutcome.records {T : Type} : AtomicReceiptWriteOutcome T → List ReceiptRecord
  | .appended _ receipt => [receipt]
  | .noAppend _ => []
  | .stale _ => []

def Recorded {ω : Type} (records : List ReceiptRecord) (db : Database ω) : Prop :=
  ∀ record ∈ records, ∃ row ∈ db.receipts, recordOf row = record

section
variable {ω : Type} {C : ReceiptCrates} {custody : KeyCustody} {failpoints : Failpoints}
  {P : RedactionCrates} {redactor : ReceiptRedactor} {lookups : Lookups ω}
  {runtimeLookups : RuntimeLookups ω} {db next : Database ω} {s : Store ω}

end
end CarsinOS.Receipt
