import CarsinOS.Receipt.Runs

/-! A mutation and its receipt are committed together. -/
namespace CarsinOS.Receipt
open CarsinOS.Lib CarsinOS.Lib.Durable CarsinOS.Integrity CarsinOS.Runtime

/-- The mutation leaves the receipt heads of the delegations alone. -/
def Keeping {ω T : Type} (mutation : Mutation ω T) : Prop :=
  ∀ others delegations result, mutation others delegations = .ok result →
    KeepsHeads delegations result.2.2

structure KeepingMutation (ω T : Type) where
  run : Mutation ω T
  keeps : Keeping run

section
variable {ω T : Type}

/-- The content after a mutation that needs no receipt. -/
def Closed (db : Database ω) (mutation : Mutation ω T) (value : T) (next : Database ω) : Prop :=
  ∃ others delegations, mutation db.others db.delegations = .ok (.noAppend value, others, delegations) ∧
    SameContent { db with others, delegations } next

/-- The content after a mutation with its receipt: one receipt more, which names the heads before
it and is the head now. -/
structure Appended (db : Database ω) (command : AppendReceiptCommand) (mutation : Mutation ω T)
    (value : T) (record : ReceiptRecord) (next : Database ω) : Prop where
  fresh : receiptByCausationEvent db command.causationEventId = none
  written : ∃ others delegations row evidence position,
    mutation db.others db.delegations = .ok (.append value, others, delegations) ∧
    Inserts { db with others, delegations } row ∧
    recordOf row = record ∧ row.delegationId = some command.delegationId ∧
    row.causationEventId = command.causationEventId ∧
    SameContent { db with
      receipts := db.receipts ++ [row]
      evidence := db.evidence ++ evidenceRows command.receiptId evidence
      journal := ⟨row.globalSequence, some row.receiptDigest, some row.receiptId⟩
      delegations := delegations.map (advanced command position row.receiptDigest)
      others } next

/-- What a mutation leaves under its result. An error leaves all of it where the receipt is
committed and its anchor is not final. -/
def Leaves (db : Database ω) (command : AppendReceiptCommand) (mutation : Mutation ω T)
    (result : Except Failure (AtomicReceiptWriteOutcome T)) (next : Database ω) : Prop :=
  match result with
  | .ok (.appended value record) => Appended db command mutation value record next
  | .ok (.noAppend value) => Closed db mutation value next
  | .ok (.stale _) => SameContent db next
  | .error _ => SameContent db next ∨ ∃ value record, Appended db command mutation value record next

variable {C : ReceiptCrates} {custody : KeyCustody} {failpoints : Failpoints}
  {P : RedactionCrates} {redactor : ReceiptRedactor} {lookups : Lookups ω}
  {command : AppendReceiptCommand} {mutation : Mutation ω T} {db next after : Database ω}
  {s : Store ω}

end
end CarsinOS.Receipt
