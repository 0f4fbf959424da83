import CarsinOS.Receipt.Atomic

/-! The reachable states of the receipt store. -/
namespace CarsinOS.Receipt
open CarsinOS.Lib CarsinOS.Lib.Durable CarsinOS.Integrity CarsinOS.Runtime

/-- A runtime mutation that leaves the receipt heads of the delegations alone. -/
structure KeepingRuntimeMutation (ω T : Type) where
  run : RuntimeMutation ω T
  keeps : ∀ {others : ω} {delegations : List DelegationRow} {count : Int} {head : Option Text} {result},
    run others delegations count head = .ok result → KeepsHeads delegations result.2.2

/-- A write of another part of the program. -/
structure KeepingWrite (ω : Type) where
  run : ω → List DelegationRow → List ReceiptKeyRegistryRow →
    ω × List DelegationRow × List ReceiptKeyRegistryRow
  keeps : ∀ others delegations keys, KeepsHeads delegations (run others delegations keys).2.1

section
variable {ω : Type} {C : ReceiptCrates} {custody : KeyCustody} {failpoints : Failpoints}
  {P : RedactionCrates} {redactor : ReceiptRedactor} {lookups : Lookups ω}
  {runtimeLookups : RuntimeLookups ω} {s : Store ω}

/-! The runtime receipt. -/

end

/-! Calls. -/

/-- What a store is run with. -/
structure Setting (ω : Type) where
  crates : ReceiptCrates
  custody : KeyCustody
  redaction : RedactionCrates
  redactor : ReceiptRedactor
  lookups : Lookups ω
  runtimeLookups : RuntimeLookups ω

inductive Command (ω : Type) : Type 1
  | append (command : AppendReceiptCommand)
  | mutate {T : Type} (command : AppendReceiptCommand) (expectedPreStateRevision : Int)
    (precheckRevisionBeforeMutation : Bool) (mutation : KeepingMutation ω T)
  | runtime {T : Type} (mutation : KeepingRuntimeMutation ω T)
  | recover
  | write (writes : KeepingWrite ω)

/-- A command under its failpoints, in a process that stops after some durable steps. -/
structure Call (ω : Type) : Type 1 where
  command : Command ω
  failpoints : Failpoints
  steps : Nat

/-- A store before its first receipt, over any files. -/
structure Fresh (ω : Type) where
  db : Database ω
  files : Files
  receipts : db.receipts = []
  anchors : db.anchors = []
  journal : db.journal = ⟨0, none, none⟩
  distinct : (db.delegations.map (·.delegationId)).Nodup
  heads : ∀ row ∈ db.delegations, row.receiptChainCount = 0 ∧ row.receiptChainHeadDigest = none

def Fresh.store {ω : Type} (start : Fresh ω) : Store ω := ⟨start.db, start.files⟩

section
variable {ω : Type} (E : Setting ω)

def writeOther (writes : KeepingWrite ω) : Integral ω Unit := do
  let s ← Durable.storage
  let (others, delegations, keys) := writes.run s.db.others s.db.delegations s.db.keys
  commitDb { s.db with others, delegations, keys }

/-- The program of a command, with the receipts it reports. -/
def program (failpoints : Failpoints) : Command ω → Integral ω (List ReceiptRecord)
  | .append command => do
    let outcome ← appendReceipt E.crates E.custody failpoints E.redaction E.redactor E.lookups command
    pure outcome.records
  | .mutate command revision precheck mutation => do
    let outcome ← mutateWithAtomicReceiptAtRevision E.crates E.custody failpoints E.redaction
      E.redactor E.lookups command revision precheck mutation.run
    pure outcome.records
  | .runtime mutation => do
    let _ ← mutateWithRuntimeAtomicReceipt E.crates E.custody failpoints E.redaction E.redactor
      E.runtimeLookups mutation.run
    pure []
  | .recover => do
    let _ ← recoverIntegrity E.crates E.custody failpoints
    pure []
  | .write writes => do
    writeOther writes
    pure []

def course (s : Store ω) (call : Call ω) : Course (Store ω) Failure (List ReceiptRecord) :=
  program E call.failpoints call.command s

def path (s : Store ω) (call : Call ω) : List (Store ω) := (course E s call).visited.take call.steps

/-- What the caller is told, where the process has not stopped. -/
def reported (s : Store ω) (call : Call ω) : List ReceiptRecord :=
  match (course E s call).result with
  | .ok records => if (course E s call).visited.length ≤ call.steps then records else []
  | .error _ => []

/-- The store after some calls. -/
def after (s : Store ω) : List (Call ω) → Store ω
  | [] => s
  | call :: calls => after (lastOf s (path E s call)) calls

/-- Every state some calls go through. -/
def states (s : Store ω) : List (Call ω) → List (Store ω)
  | [] => [s]
  | call :: calls => s :: (path E s call ++ states (lastOf s (path E s call)) calls)

variable {E} {s : Store ω}

/-- What has grown over a path. -/
structure GrownTo (s t : Store ω) : Prop where
  journaled : Journaled t.db
  receipts : s.db.receipts <+: t.db.receipts
  evidence : s.db.evidence <+: t.db.evidence

theorem GrownTo.trans {t u : Store ω} (first : GrownTo s t) (second : GrownTo t u) : GrownTo s u :=
  ⟨second.journaled, first.receipts.trans second.receipts, first.evidence.trans second.evidence⟩

/-- A recovery that may stop after some durable steps. -/
def recovery (failpoints : Failpoints) (steps : Nat) : Call ω := ⟨.recover, failpoints, steps⟩

end
end CarsinOS.Receipt
