import CarsinOS.Recorder.Record

/-! The journal of the effect recorder: its file, the records read from it and their index. An
append may fail after any part of its frame was written. -/
namespace CarsinOS.Recorder
open CarsinOS.Lib

structure Journal where
  file : List UInt8
  records : List JournalRecord
  byAttempt : AttemptKey → Option (List Nat)

/-- How many bytes of a frame are written before the write fails; `none` is no failure. -/
abbrev Fault := Option Nat

/-- An operation on the journal: what it returns and the journal it leaves. -/
abbrev Operation (α : Type) := Journal → Except JournalError α × Journal

namespace Journal

def empty : Journal := ⟨[], [], fun _ => none⟩

def headDigest (j : Journal) : Text := (j.records.getLast?.map (·.recordDigest)).getD zeroDigest

/-- The records an index names. -/
def named (j : Journal) (indices : List Nat) : List JournalRecord :=
  indices.filterMap fun index => j.records[index]?

def recordsFor (j : Journal) (key : AttemptKey) (digest : Text) :
    Except JournalError (List JournalRecord) :=
  match j.byAttempt key with
  | none => .ok []
  | some indices =>
    let records := j.named indices
    if records.head?.any (·.commandDigest ≠ digest) then .error .commandConflict
    else .ok records

def latestFor (j : Journal) (key : AttemptKey) (digest : Text) :
    Except JournalError (Option JournalRecord) := do
  let records ← j.recordsFor key digest
  .ok records.getLast?

def query (j : Journal) (key : AttemptKey) (expectedCommandDigest : Option Text) :
    Except JournalError (Option JournalRecord) :=
  match j.byAttempt key with
  | none => .ok none
  | some indices =>
    let records := j.named indices
    if expectedCommandDigest.any fun expected => records.head?.any (expected ≠ ·.commandDigest) then
      .error .commandConflict
    else .ok records.getLast?

def indexRecord (record : JournalRecord) (j : Journal) : Except JournalError Journal :=
  let pushed (indices : List Nat) : Journal := {
    j with
    records := j.records ++ [record]
    byAttempt := Function.update j.byAttempt record.key (some (indices ++ [j.records.length])) }
  match j.byAttempt record.key with
  | some indices =>
    if (j.named indices).head?.any (·.commandDigest ≠ record.commandDigest) then
      .error .commandConflict
    else .ok (pushed indices)
  | none =>
    if record.kind ≠ .accepted then .error (.corrupt "attempt chain does not begin with Accepted")
    else .ok (pushed [])

end Journal

section Operations
variable (R : RecorderCrates)

def append (fault : Fault) (record : JournalRecord) : Operation Unit := fun j =>
  match encoded (R.encode record) with
  | .error error => (.error error, j)
  | .ok payload =>
    if payload.length > MAX_RECORD_BYTES then
      (.error (.encoding "journal record is too large"), j)
    else
      let frame := (framing R).frame payload
      match fault with
      | some written => (.error .io, { j with file := j.file ++ frame.take written })
      | none =>
        let written := { j with file := j.file ++ frame }
        match written.indexRecord record with
        | .error error => (.error error, written)
        | .ok indexed => (.ok (), indexed)

/-- What an execution has to say of its provider. -/
structure Evidence where
  responseDigest : Option Text
  remoteEffectId : Option Text
  evidencePayloadDigest : Option Text
  providerErrorClass : Option ProviderFailureClass
  technicalResourceActuals : List TechnicalResourceActual

def noEvidence : Evidence := ⟨none, none, none, none, []⟩

/-- `format!("{}\0{}\0{sequence}")`. -/
def recordIdText (attemptId commandDigest : Text) (sequence : Nat) (suffix : Text) : Text :=
  attemptId ++ Char.ofNat 0 :: (commandDigest ++ Char.ofNat 0 :: (Nat.toDigits 10 sequence ++ suffix))

def recordId (text : Text) : Text :=
  "recorder-record-".toList ++ Sha256.hex (R.sha256 (utf8Bytes text))

def newRecord (j : Journal) (command : ExecuteOnce) (commandDigest : Text) (kind : ObservationKind)
    (evidence : Evidence) (observedAtMs : I64) : Except JournalError JournalRecord :=
  sealRecord R {
    journalVersion
    sequence := j.records.length + 1
    recordId := recordId R (recordIdText command.attemptId commandDigest (j.records.length + 1) [])
    canonicalRootIdentity := command.binding.canonicalRootIdentity
    installationId := command.binding.installationId
    stateRootGeneration := command.binding.stateRootGeneration
    osUserIdentityDigest := command.binding.osUserIdentityDigest
    attemptId := command.attemptId
    logicalEffectId := command.logicalEffectId
    commandDigest
    kind
    source := .execution
    providerIdentity := command.providerIdentity
    providerVersion := command.providerVersion
    providerRequestDigest := command.providerRequestDigest
    providerIdempotencyKeyDigest := command.providerIdempotencyKey.map (stableKeyDigest R)
    reconciliationKeyDigest := command.reconciliationKey.map (stableKeyDigest R)
    remoteEffectId := evidence.remoteEffectId
    responseDigest := evidence.responseDigest
    evidencePayloadDigest := evidence.evidencePayloadDigest
    providerErrorClass := evidence.providerErrorClass
    technicalResourceActuals := evidence.technicalResourceActuals
    reconciliationWindowStartMs := none
    reconciliationWindowEndMs := none
    observedAtMs
    previousRecordDigest := j.headDigest
    recorderKeyId := R.identity.keyId
    recorderKeyGeneration := R.identity.keyGeneration }

/-- Appends a record that was made without touching the journal. -/
def appendMade (fault : Fault) (made : Except JournalError JournalRecord) :
    Operation JournalRecord := fun j =>
  match made with
  | .error error => (.error error, j)
  | .ok record =>
    match append R fault record j with
    | (.error error, j) => (.error error, j)
    | (.ok (), j) => (.ok record, j)

/-- The record an attempt is accepted with, or the latest one when it was accepted before. -/
def accept (fault : Fault) (command : ExecuteOnce) (observedAtMs : I64) :
    Operation (Bool × JournalRecord) := fun j =>
  let found := do
    let digest ← commandDigest R command
    let existing ← j.latestFor command.key digest
    .ok (digest, existing)
  match found with
  | .error error => (.error error, j)
  | .ok (_, some existing) => (.ok (true, existing), j)
  | .ok (digest, none) =>
    match appendMade R fault (newRecord R j command digest .accepted noEvidence observedAtMs) j with
    | (.error error, j) => (.error error, j)
    | (.ok record, j) => (.ok (false, record), j)

def isStartedOrTerminal (record : JournalRecord) : Bool :=
  record.kind = .invocationStarted || record.kind = .present || record.kind = .absent ||
    record.kind = .unknown

def isTerminal (kind : ObservationKind) : Bool :=
  kind = .present || kind = .absent || kind = .unknown

def startedRecord (j : Journal) (command : ExecuteOnce) (observedAtMs : I64) :
    Except JournalError JournalRecord := do
  let digest ← commandDigest R command
  let records ← j.recordsFor command.key digest
  if records = [] then .error .notAccepted
  else if records.any isStartedOrTerminal then .error .alreadyStarted
  else newRecord R j command digest .invocationStarted noEvidence observedAtMs

def markInvocationStarted (fault : Fault) (command : ExecuteOnce) (observedAtMs : I64) :
    Operation JournalRecord := fun j =>
  appendMade R fault (startedRecord R j command observedAtMs) j

inductive AdmissionOutcome where
  | freshStarted
  | replay (record : JournalRecord)

/-- `admit_verified_execution` of a verified command, with the faults of its two appends. -/
def admitVerifiedExecution (accepting starting : Fault) (command : ExecuteOnce)
    (acceptedAtMs startedAtMs : I64) : Operation AdmissionOutcome := fun j =>
  let found := do
    let digest ← commandDigest R command
    j.latestFor command.key digest
  match found with
  | .error error => (.error error, j)
  | .ok (some existing) => (.ok (.replay existing), j)
  | .ok none =>
    match accept R accepting command acceptedAtMs j with
    | (.error error, j) => (.error error, j)
    | (.ok _, j) =>
      match markInvocationStarted R starting command startedAtMs j with
      | (.error error, j) => (.error error, j)
      | (.ok _, j) => (.ok .freshStarted, j)

def terminalRecord (j : Journal) (command : ExecuteOnce) (kind : ObservationKind)
    (evidence : Evidence) (observedAtMs : I64) : Except JournalError JournalRecord := do
  if !isTerminal kind then .error (.encoding "terminal kind is not terminal")
  validateShape kind .execution evidence.providerErrorClass
  let digest ← commandDigest R command
  let records ← j.recordsFor command.key digest
  if !records.any (·.kind = .invocationStarted) then .error .notAccepted
  else if records.any (isTerminal ·.kind) then .error .alreadyTerminal
  else newRecord R j command digest kind evidence observedAtMs

def recordTerminal (fault : Fault) (command : ExecuteOnce) (kind : ObservationKind)
    (evidence : Evidence) (observedAtMs : I64) : Operation JournalRecord := fun j =>
  appendMade R fault (terminalRecord R j command kind evidence observedAtMs) j

/-- What a reconciliation has found. -/
structure Reconciliation where
  kind : ObservationKind
  responseDigest : Text
  evidencePayloadDigest : Text
  remoteEffectId : Option Text
  technicalResourceActuals : List TechnicalResourceActual
  windowStartMs : I64
  windowEndMs : I64

def reconciliationRecord (j : Journal) (key : AttemptKey) (expectedCommandDigest : Text)
    (found : Reconciliation) (observedAtMs : I64) : Except JournalError JournalRecord := do
  if !isTerminal found.kind then
    .error (.encoding "reconciliation result is not an evidence state")
  let base ← j.query key (some expectedCommandDigest)
  match base with
  | none => .error .notAccepted
  | some base =>
    if base.kind = .present || base.kind = .absent then .error .alreadyTerminal
    else sealRecord R {
      base.toUnsignedRecord with
      journalVersion
      sequence := j.records.length + 1
      recordId := recordId R (recordIdText base.attemptId base.commandDigest
        (j.records.length + 1) (Char.ofNat 0 :: "reconcile".toList))
      kind := found.kind
      source := .reconciliation
      remoteEffectId := found.remoteEffectId
      responseDigest := some found.responseDigest
      evidencePayloadDigest := some found.evidencePayloadDigest
      providerErrorClass := none
      technicalResourceActuals := found.technicalResourceActuals
      reconciliationWindowStartMs := some found.windowStartMs
      reconciliationWindowEndMs := some found.windowEndMs
      observedAtMs
      previousRecordDigest := j.headDigest
      recorderKeyId := R.identity.keyId
      recorderKeyGeneration := R.identity.keyGeneration }

def recordReconciliation (fault : Fault) (key : AttemptKey) (expectedCommandDigest : Text)
    (found : Reconciliation) (observedAtMs : I64) : Operation JournalRecord := fun j =>
  appendMade R fault (reconciliationRecord R j key expectedCommandDigest found observedAtMs) j

/-! Opening a journal. -/

def verifyRecord (record : JournalRecord) (j : Journal) : Except JournalError Unit := do
  if record.journalVersion ≠ journalVersion ∨ record.sequence ≠ j.records.length + 1 ∨
      record.previousRecordDigest ≠ j.headDigest ∨ record.recorderKeyId ≠ R.identity.keyId ∨
      record.recorderKeyGeneration ≠ R.identity.keyGeneration then
    .error (.corrupt "record identity or chain mismatch")
  let bytes ← encoded (R.unsignedBytes record.toUnsignedRecord)
  if record.recordDigest ≠ sha256Text R bytes then .error (.corrupt "record digest mismatch")
  match validateShape record.kind record.source record.providerErrorClass with
  | .error _ => .error (.corrupt "record failure-class shape is invalid")
  | .ok () => .ok ()
  let observation ← encoded (R.signedBytes record.toUnsignedRecord record.recordDigest)
  match R.verify R.identity.verifyingKeyHex observation record.signatureHex with
  | .error detail => .error (.corrupt detail)
  | .ok () => .ok ()

/-- `scan_and_recover_torn_tail`, on the part of the file that is not read yet; the file of the
journal is the part that is. -/
def scan (j : Journal) (bytes : List UInt8) : Except JournalError Journal :=
  match _read : (framing R).next bytes with
  | .done | .torn => .ok j
  | .tooLong => .error (.corrupt "record length exceeds limit")
  | .badChecksum => .error (.corrupt "record checksum mismatch")
  | .payload payload rest =>
    match R.decode payload with
    | none => .error (.corrupt "record JSON is invalid")
    | some record =>
      match verifyRecord R record j with
      | .error error => .error error
      | .ok () =>
        match ({ j with file := j.file ++ (framing R).frame payload } : Journal).indexRecord
            record with
        | .error error => .error error
        | .ok j => scan j rest
termination_by bytes.length
decreasing_by exact Framing.next_rest_length _read

def openJournal (file : List UInt8) : Except JournalError Journal := scan R Journal.empty file

end Operations
end CarsinOS.Recorder
