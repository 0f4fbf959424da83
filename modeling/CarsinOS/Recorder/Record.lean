import CarsinOS.Lib.Frames
import CarsinOS.Lib.Json
import CarsinOS.Lib.Sha256
import CarsinOS.Number

/-! The commands the effect recorder takes, the records of its journal and what it takes from
third-party crates. -/
namespace CarsinOS.Recorder
open CarsinOS.Lib

structure RecorderBinding where
  protocolVersion : Text
  canonicalRootIdentity : Text
  installationId : Text
  stateRootGeneration : I64
  osUserIdentityDigest : Text
  runtimeHostGeneration : I64
  runtimeHostInstanceId : Text
  runtimeFencingToken : I64

/-- The operand envelope is only known by its JSON value here. -/
structure ExecuteOnce where
  binding : RecorderBinding
  requestId : Text
  claimEventId : Text
  claimReceiptId : Text
  continuationFencingToken : I64
  delegationId : Text
  continuationId : Text
  actionId : Text
  logicalEffectId : Text
  internalIdempotencyKey : Text
  attemptId : Text
  attemptNumber : I64
  providerIdentity : Text
  providerVersion : Text
  adapterIdentity : Text
  adapterArtifactDigest : Text
  providerRequestDigest : Text
  providerIdempotencyKey : Option Text
  reconciliationKey : Option Text
  manifestDigest : Text
  payloadDigest : Text
  operandEnvelope : Json
  deadlineMs : I64
  clientNonce : Text
  commandMac : Text

inductive ObservationKind where
  | accepted
  | invocationStarted
  | present
  | absent
  | unknown
deriving DecidableEq

inductive ObservationSource where
  | execution
  | reconciliation
deriving DecidableEq

inductive ProviderFailureClass where
  | transient
  | rateLimited
  | authentication
  | permanent
  | unknown
deriving DecidableEq

structure TechnicalResourceActual where
  reservationId : Text
  amountActual : I64
  evidenceDigest : Text
deriving DecidableEq

structure UnsignedRecord where
  journalVersion : Text
  sequence : Nat
  recordId : Text
  canonicalRootIdentity : Text
  installationId : Text
  stateRootGeneration : I64
  osUserIdentityDigest : Text
  attemptId : Text
  logicalEffectId : Text
  commandDigest : Text
  kind : ObservationKind
  source : ObservationSource
  providerIdentity : Text
  providerVersion : Text
  providerRequestDigest : Text
  providerIdempotencyKeyDigest : Option Text
  reconciliationKeyDigest : Option Text
  remoteEffectId : Option Text
  responseDigest : Option Text
  evidencePayloadDigest : Option Text
  providerErrorClass : Option ProviderFailureClass
  technicalResourceActuals : List TechnicalResourceActual
  reconciliationWindowStartMs : Option I64
  reconciliationWindowEndMs : Option I64
  observedAtMs : I64
  previousRecordDigest : Text
  recorderKeyId : Text
  recorderKeyGeneration : Nat
deriving DecidableEq

structure JournalRecord extends UnsignedRecord where
  recordDigest : Text
  signatureHex : Text
deriving DecidableEq

/-- `installation_id`, `state_root_generation` and `attempt_id`. -/
abbrev AttemptKey := Text × I64 × Text

def UnsignedRecord.key (record : UnsignedRecord) : AttemptKey :=
  (record.installationId, record.stateRootGeneration, record.attemptId)

def ExecuteOnce.key (command : ExecuteOnce) : AttemptKey :=
  (command.binding.installationId, command.binding.stateRootGeneration, command.attemptId)

inductive JournalError where
  | io
  | encoding (detail : String)
  | corrupt (detail : String)
  | commandConflict
  | notAccepted
  | alreadyStarted
  | alreadyTerminal
deriving DecidableEq

structure RecorderIdentity where
  keyId : Text
  keyGeneration : Nat
  verifyingKeyHex : Text

/-- What the journal takes from other crates: the SHA-256 digest, the JSON bytes of commands and
records, and the signatures of the credential it was opened with. -/
structure RecorderCrates where
  sha256 : List UInt8 → List UInt8
  sha256_length : ∀ bytes, (sha256 bytes).length = 32
  commandBytes : ExecuteOnce → Except String (List UInt8)
  unsignedBytes : UnsignedRecord → Except String (List UInt8)
  signedBytes : UnsignedRecord → Text → Except String (List UInt8)
  encode : JournalRecord → Except String (List UInt8)
  decode : List UInt8 → Option JournalRecord
  /-- `serde_json` reads what it wrote. -/
  decode_encode : ∀ record bytes, encode record = .ok bytes → decode bytes = some record
  identity : RecorderIdentity
  signatureHex : List UInt8 → Text
  verify : Text → List UInt8 → Text → Except String Unit
  /-- A signature of the credential verifies under its own key. -/
  verify_signature : ∀ bytes, verify identity.verifyingKeyHex bytes (signatureHex bytes) = .ok ()

def MAX_RECORD_BYTES : Nat := 256 * 1024

def journalVersion : Text := "carsinos.execass.effect-recorder.journal.v1".toList

def zeroDigest : Text := "sha256:".toList ++ List.replicate 64 '0'

section Digests
variable (R : RecorderCrates)

def framing : Framing where
  checksum := R.sha256
  width := 32
  checksum_length := R.sha256_length
  limit := MAX_RECORD_BYTES
  limit_fits := by decide

def sha256Text (bytes : List UInt8) : Text := "sha256:".toList ++ Sha256.hex (R.sha256 bytes)

def stableKeyDigest (value : Text) : Text := sha256Text R (utf8Bytes value)

def encoded {α : Type} : Except String α → Except JournalError α
  | .ok a => .ok a
  | .error detail => .error (.encoding detail)

/-- Transport freshness is not part of the identity of a command. -/
def commandDigest (command : ExecuteOnce) : Except JournalError Text := do
  let command : ExecuteOnce := {
    command with requestId := [], clientNonce := [], deadlineMs := ⟨0, I64.zero_fits⟩, commandMac := [] }
  let bytes ← encoded (R.commandBytes command)
  .ok (sha256Text R bytes)

/-- `SignedRecorderObservationV1::validate_shape`. -/
def validateShape (kind : ObservationKind) (source : ObservationSource)
    (providerErrorClass : Option ProviderFailureClass) : Except JournalError Unit :=
  let classRequired := source = .execution ∧ kind = .absent
  let classForbidden := source = .reconciliation ∨ kind ≠ .absent
  if (classRequired ∧ providerErrorClass = none) ∨ (classForbidden ∧ providerErrorClass ≠ none) then
    .error (.encoding "recorder request contains an invalid field")
  else .ok ()

/-- A record with the digest of its bytes and the signature of its observation. -/
def sealRecord (record : UnsignedRecord) : Except JournalError JournalRecord := do
  let bytes ← encoded (R.unsignedBytes record)
  let recordDigest := sha256Text R bytes
  let observation ← encoded (R.signedBytes record recordDigest)
  .ok { record with recordDigest, signatureHex := R.signatureHex observation }

end Digests
end CarsinOS.Recorder
