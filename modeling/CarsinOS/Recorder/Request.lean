import Mathlib.Data.List.TakeWhile
import CarsinOS.Lib.LengthPrefix
import CarsinOS.Recorder.Wire

/-! The checks on an execute-once request, and the digest of what it asks of a provider: as the
protocol derives it and as the store computes it from its attempt row. -/
namespace CarsinOS.Recorder
open CarsinOS.Lib

def RECORDER_PROTOCOL_VERSION : Text := "carsinos.execass.effect-recorder.v1".toList
def PROVIDER_REQUEST_DOMAIN : List UInt8 :=
  utf8Bytes "carsinos.execass.provider-request.v1".toList ++ [0]
def EXACT_OVERWRITE_OPERAND_DOMAIN : List UInt8 :=
  utf8Bytes "carsinos.execass.provider-request.exact-overwrite-operand.v1".toList ++ [0]
def EXACT_OVERWRITE_PROVIDER : Text := "carsinos.local-fs.exact-overwrite".toList

inductive RecorderProtocolError where
  | invalidField
deriving DecidableEq

structure OpaqueSecretHandle where
  version : I64
  backend : Text
  opaqueId : Text
  purpose : Text
  capabilityClass : Text

/-- `char::is_control`. -/
def isControl (c : Char) : Bool := c.toNat < 0x20 || (0x7F ≤ c.toNat && c.toNat ≤ 0x9F)

def validText (value : Text) (max : Nat) : Bool :=
  trimChars value ≠ [] && utf8Length value ≤ max && !value.any isControl

def validOption (value : Option Text) : Bool := value.all fun field => validText field 4096

def validHandle (handle : OpaqueSecretHandle) : Bool :=
  handle.version.val = 1 &&
    [handle.backend, handle.opaqueId, handle.purpose, handle.capabilityClass].all
      fun field => validText field 256

def validBinding (binding : RecorderBinding) (requestId : Text) : Bool :=
  binding.protocolVersion = RECORDER_PROTOCOL_VERSION && 0 < binding.stateRootGeneration.val &&
    0 < binding.runtimeHostGeneration.val && 0 < binding.runtimeFencingToken.val &&
    validText binding.canonicalRootIdentity 256 && validText binding.installationId 256 &&
    validText binding.osUserIdentityDigest 128 && validText binding.runtimeHostInstanceId 256 &&
    validText requestId 256

def requiredFields (command : ExecuteOnce) : List Text := [
  command.claimEventId, command.claimReceiptId, command.delegationId, command.continuationId,
  command.actionId, command.logicalEffectId, command.internalIdempotencyKey, command.attemptId,
  command.providerIdentity, command.providerVersion, command.adapterIdentity,
  command.adapterArtifactDigest, command.providerRequestDigest, command.manifestDigest,
  command.payloadDigest, command.clientNonce]

/-- The parts of a provider request, and the operand once more for the exact-overwrite provider. -/
def requestBytes (parts : List Text) (exactOverwrite : Bool) (payloadDigest : Text) : List UInt8 :=
  PROVIDER_REQUEST_DOMAIN ++ partsInRow (parts.map utf8Bytes) ++
    if exactOverwrite then EXACT_OVERWRITE_OPERAND_DOMAIN ++ lengthPrefixed (utf8Bytes payloadDigest)
    else []

def requestParts (command : ExecuteOnce) : List Text := [
  command.internalIdempotencyKey, command.providerIdentity,
  command.providerIdempotencyKey.getD [], command.reconciliationKey.getD [],
  command.manifestDigest, command.payloadDigest]

def providerRequestBytes (command : ExecuteOnce) : List UInt8 :=
  requestBytes (requestParts command) (command.providerIdentity = EXACT_OVERWRITE_PROVIDER)
    command.payloadDigest

section Digest
variable (R : RecorderCrates)

def derivedProviderRequestDigest (command : ExecuteOnce) : Text :=
  sha256Text R (providerRequestBytes command)

/-- `RecorderRequestV1::validate` of an execute-once request with the secret handles of its
envelope. -/
def validateExecuteOnce (command : ExecuteOnce) (secretHandles : List OpaqueSecretHandle) :
    Except RecorderProtocolError Unit :=
  if validBinding command.binding command.requestId = false then .error .invalidField
  else if command.continuationFencingToken.val ≤ 0 ∨ command.attemptNumber.val ≤ 0 ∨
      command.deadlineMs.val ≤ 0 ∨
      (requiredFields command).all (fun field => validText field 4096) = false ∨
      validOption command.providerIdempotencyKey = false ∨
      validOption command.reconciliationKey = false ∨
      secretHandles.all validHandle = false ∨
      derivedProviderRequestDigest R command ≠ command.providerRequestDigest then
    .error .invalidField
  else .ok ()

/-- The row of a provider attempt with its logical effect. -/
structure LogicalEffectDispatchIdentity where
  logicalEffectId : Text
  delegationId : Text
  continuationId : Text
  actionId : Text
  claimEventId : Text
  claimReceiptId : Text
  continuationFencingToken : Int
  runtimeHostGeneration : Int
  runtimeHostInstanceId : Text
  runtimeFencingToken : Int
  internalIdempotencyKey : Text
  providerIdentity : Option Text
  providerIdempotencyKey : Option Text
  reconciliationKey : Option Text
  manifestDigest : Text
  payloadDigest : Text
deriving DecidableEq

def dispatchParts (dispatch : LogicalEffectDispatchIdentity) : List Text := [
  dispatch.internalIdempotencyKey, dispatch.providerIdentity.getD [],
  dispatch.providerIdempotencyKey.getD [], dispatch.reconciliationKey.getD [],
  dispatch.manifestDigest, dispatch.payloadDigest]

def providerRequestDigest (dispatch : LogicalEffectDispatchIdentity) : Text :=
  sha256Text R (requestBytes (dispatchParts dispatch)
    (dispatch.providerIdentity = some EXACT_OVERWRITE_PROVIDER) dispatch.payloadDigest)

/-- The attempt row a request was made from. -/
def ExecuteOnce.dispatch (command : ExecuteOnce) : LogicalEffectDispatchIdentity where
  logicalEffectId := command.logicalEffectId
  delegationId := command.delegationId
  continuationId := command.continuationId
  actionId := command.actionId
  claimEventId := command.claimEventId
  claimReceiptId := command.claimReceiptId
  continuationFencingToken := command.continuationFencingToken.val
  runtimeHostGeneration := command.binding.runtimeHostGeneration.val
  runtimeHostInstanceId := command.binding.runtimeHostInstanceId
  runtimeFencingToken := command.binding.runtimeFencingToken.val
  internalIdempotencyKey := command.internalIdempotencyKey
  providerIdentity := some command.providerIdentity
  providerIdempotencyKey := command.providerIdempotencyKey
  reconciliationKey := command.reconciliationKey
  manifestDigest := command.manifestDigest
  payloadDigest := command.payloadDigest

/-- The fields of a request that its digest is about. -/
structure SameRequest (command other : ExecuteOnce) : Prop where
  internalIdempotencyKey : command.internalIdempotencyKey = other.internalIdempotencyKey
  providerIdentity : command.providerIdentity = other.providerIdentity
  providerIdempotencyKey : command.providerIdempotencyKey = other.providerIdempotencyKey
  reconciliationKey : command.reconciliationKey = other.reconciliationKey
  manifestDigest : command.manifestDigest = other.manifestDigest
  payloadDigest : command.payloadDigest = other.payloadDigest

variable {R} {command other : ExecuteOnce} {secretHandles otherHandles : List OpaqueSecretHandle}

theorem validText_ne_nil {value : Text} {max : Nat} (valid : validText value max = true) :
    value ≠ [] := by
  rintro rfl
  simp [validText, trimChars] at valid

theorem validText_short {value : Text} {max : Nat} (valid : validText value max = true) :
    utf8Length value ≤ max := by
  simp only [validText, Bool.and_eq_true, decide_eq_true_eq] at valid
  exact valid.1.2

theorem valid_texts (valid : validateExecuteOnce R command secretHandles = .ok ()) :
    (∀ field ∈ requiredFields command, validText field 4096 = true) ∧
      validOption command.providerIdempotencyKey = true ∧
      validOption command.reconciliationKey = true := by
  unfold validateExecuteOnce at valid
  split at valid
  · contradiction
  · split at valid
    · contradiction
    · rename_i passes
      simp only [not_or, Bool.not_eq_false] at passes
      obtain ⟨-, -, -, fields, provider, reconciliation, -⟩ := passes
      exact ⟨List.all_eq_true.mp fields, provider, reconciliation⟩

/-- An absent key and an empty one are digested alike; a valid key is not empty. -/
theorem valid_option {key otherKey : Option Text} (valid : validOption key = true)
    (alsoValid : validOption otherKey = true) (same : key.getD [] = otherKey.getD []) :
    key = otherKey := by
  cases key with
  | none =>
    cases otherKey with
    | none => rfl
    | some other => exact absurd same.symm (validText_ne_nil alsoValid)
  | some value =>
    cases otherKey with
    | none => exact absurd same (validText_ne_nil valid)
    | some other => exact congrArg some same

theorem parts_short (valid : validateExecuteOnce R command secretHandles = .ok ()) :
    ∀ part ∈ (requestParts command).map utf8Bytes, part.length < 256 ^ 8 := by
  obtain ⟨fields, provider, reconciliation⟩ := valid_texts valid
  have keys {key : Option Text} (valid : validOption key = true) : utf8Length (key.getD []) ≤ 4096 := by
    cases key with
    | none => simp [utf8Length]
    | some value => exact validText_short valid
  have short {field : Text} (inside : field ∈ requiredFields command) : utf8Length field ≤ 4096 :=
    validText_short (fields field inside)
  intro part inside
  obtain ⟨text, member, rfl⟩ := List.mem_map.mp inside
  refine inMemory_of_length ?_
  simp only [requestParts, List.mem_cons, List.not_mem_nil, or_false] at member
  rcases member with rfl | rfl | rfl | rfl | rfl | rfl
  · exact short (by simp [requiredFields])
  · exact short (by simp [requiredFields])
  · exact keys provider
  · exact keys reconciliation
  · exact short (by simp [requiredFields])
  · exact short (by simp [requiredFields])

theorem providerRequestBytes_congr (same : SameRequest command other) :
    providerRequestBytes command = providerRequestBytes other := by
  obtain ⟨internal, provider, idempotency, reconciliation, manifest, payload⟩ := same
  simp only [providerRequestBytes, requestParts, internal, provider, idempotency, reconciliation,
    manifest, payload]

/-- The bytes that are hashed determine the request. -/
theorem providerRequestBytes_determine (valid : validateExecuteOnce R command secretHandles = .ok ())
    (alsoValid : validateExecuteOnce R other otherHandles = .ok ())
    (same : providerRequestBytes command = providerRequestBytes other) :
    SameRequest command other := by
  simp only [providerRequestBytes, requestBytes, List.append_assoc] at same
  obtain ⟨parts, -⟩ := partsInRow_append (parts_short valid) (parts_short alsoValid) rfl
    (List.append_cancel_left same)
  have texts := List.map_injective_iff.mpr utf8Bytes_injective parts
  simp only [requestParts, List.cons.injEq, and_true] at texts
  obtain ⟨internal, provider, idempotency, reconciliation, manifest, payload⟩ := texts
  obtain ⟨-, hasKey, hasReconciliation⟩ := valid_texts valid
  obtain ⟨-, alsoKey, alsoReconciliation⟩ := valid_texts alsoValid
  exact ⟨internal, provider, valid_option hasKey alsoKey idempotency,
    valid_option hasReconciliation alsoReconciliation reconciliation, manifest, payload⟩

theorem hexDigit_injective {m n : Nat} (same : Sha256.hexDigit m = Sha256.hexDigit n) :
    m % 16 = n % 16 := by
  have digits : ∀ i < 16, ∀ j < 16, Sha256.hexDigit i = Sha256.hexDigit j → i = j := by decide
  refine digits _ (Nat.mod_lt m (by decide)) _ (Nat.mod_lt n (by decide)) ?_
  simpa only [Sha256.hexDigit, Nat.mod_mod] using same

theorem hex_injective {a b : List UInt8} (same : Sha256.hex a = Sha256.hex b) : a = b := by
  induction a generalizing b with
  | nil =>
    cases b with
    | nil => rfl
    | cons byte b => simp [Sha256.hex] at same
  | cons byte a ih =>
    cases b with
    | nil => simp [Sha256.hex] at same
    | cons other b =>
      simp only [Sha256.hex, List.flatMap_cons, List.cons_append, List.nil_append,
        List.cons.injEq] at same
      obtain ⟨high, low, rest⟩ := same
      have high := hexDigit_injective high
      have low := hexDigit_injective low
      have small := byte.toNat_lt
      have alsoSmall := other.toNat_lt
      have equal : byte = other := UInt8.toNat_inj.mp (by omega)
      rw [equal, ih rest]

theorem sha256Text_injective {a b : List UInt8} (same : sha256Text R a = sha256Text R b) :
    R.sha256 a = R.sha256 b :=
  hex_injective (List.append_cancel_left same)

/-- The store computes the digest that the protocol derives, and the digest pins the request where
the hashed bytes of the two requests do not collide. -/
theorem request_digest_agrees (valid : validateExecuteOnce R command secretHandles = .ok ()) :
    providerRequestDigest R command.dispatch = derivedProviderRequestDigest R command ∧
    ∀ other otherHandles, validateExecuteOnce R other otherHandles = .ok () →
      (R.sha256 (providerRequestBytes command) = R.sha256 (providerRequestBytes other) →
        providerRequestBytes command = providerRequestBytes other) →
      derivedProviderRequestDigest R command = derivedProviderRequestDigest R other →
      SameRequest command other := by
  constructor
  · simp [providerRequestDigest, derivedProviderRequestDigest, providerRequestBytes, requestParts,
      dispatchParts, ExecuteOnce.dispatch]
  · intro other otherHandles alsoValid collisionFree same
    exact providerRequestBytes_determine valid alsoValid (collisionFree (sha256Text_injective same))

theorem hex_printable (bytes : List UInt8) : (Sha256.hex bytes).any isControl = false := by
  have digit (n : Nat) : isControl (Sha256.hexDigit n) = false := by
    have digits : ∀ i < 16, isControl (Sha256.hexDigit i) = false := by decide
    rw [← digits _ (Nat.mod_lt n (by decide))]
    simp only [Sha256.hexDigit, Nat.mod_mod]
  induction bytes with
  | nil => rfl
  | cons byte bytes ih =>
    simp only [Sha256.hex] at ih
    simp [Sha256.hex, digit, ih]

theorem labelled_valid {text : Text} (size : utf8Length text = 64)
    (printable : text.any isControl = false) :
    validText ("sha256:".toList ++ text) 4096 = true := by
  have label : "sha256:".toList = ['s', 'h', 'a', '2', '5', '6', ':'] := by decide
  have visible : trimChars ("sha256:".toList ++ text) ≠ [] := by
    intro blank
    have kept : ("sha256:".toList ++ text).dropWhile isWhitespace = "sha256:".toList ++ text := by
      rw [label]
      exact List.dropWhile_cons_of_neg (by decide)
    simp only [trimChars, kept, List.reverse_eq_nil_iff, List.dropWhile_eq_nil_iff,
      List.mem_reverse] at blank
    exact absurd (blank 's' (by simp [label])) (by decide)
  have short : utf8Length ("sha256:".toList ++ text) = 71 := by
    simp only [utf8Length] at size
    simp only [utf8Length, label, List.map_append, List.sum_append, size]
    decide
  have plain : ("sha256:".toList ++ text).any isControl = false := by
    rw [List.any_append, printable, label]
    decide
  simp only [validText, Bool.and_eq_true, decide_eq_true_eq, Bool.not_eq_true']
  exact ⟨⟨visible, by omega⟩, plain⟩

/-- A digest is a text that requests may carry. -/
theorem sha256Text_valid (bytes : List UInt8) : validText (sha256Text R bytes) 4096 = true := by
  have digits := (hex_digest (R.sha256 bytes)).1
  rw [R.sha256_length] at digits
  exact labelled_valid digits (hex_printable _)

/-- A request that carries its own digest. -/
noncomputable def sampleRequest : ExecuteOnce :=
  { sampleCommand "attempt-1".toList with
    providerRequestDigest := derivedProviderRequestDigest wireCrates (sampleCommand "attempt-1".toList) }

theorem sampleRequest_valid : validateExecuteOnce wireCrates sampleRequest [] = .ok () := by
  have binding : validBinding sampleRequest.binding sampleRequest.requestId = true := by decide
  have digest : validText sampleRequest.providerRequestDigest 4096 = true := sha256Text_valid _
  have fields : (requiredFields sampleRequest).all (fun field => validText field 4096) = true := by
    simp only [requiredFields, List.all_cons, digest, Bool.true_and]
    decide +kernel
  have derived : derivedProviderRequestDigest wireCrates sampleRequest =
      sampleRequest.providerRequestDigest := by
    have same : SameRequest sampleRequest (sampleCommand "attempt-1".toList) :=
      ⟨rfl, rfl, rfl, rfl, rfl, rfl⟩
    exact congrArg (sha256Text wireCrates) (providerRequestBytes_congr same)
  have keys : validOption sampleRequest.providerIdempotencyKey = true ∧
      validOption sampleRequest.reconciliationKey = true := ⟨rfl, rfl⟩
  have positive : ¬ sampleRequest.continuationFencingToken.val ≤ 0 ∧
      ¬ sampleRequest.attemptNumber.val ≤ 0 ∧ ¬ sampleRequest.deadlineMs.val ≤ 0 := by decide
  unfold validateExecuteOnce
  rw [if_neg (by rw [binding]; decide), if_neg]
  rintro (low | low | low | missing | missing | missing | missing | wrong)
  · exact positive.1 low
  · exact positive.2.1 low
  · exact positive.2.2 low
  · exact absurd missing (by rw [fields]; decide)
  · exact absurd missing (by rw [keys.1]; decide)
  · exact absurd missing (by rw [keys.2]; decide)
  · exact absurd missing (by decide)
  · exact wrong derived

theorem request_digest_agrees_sample :
    providerRequestDigest wireCrates sampleRequest.dispatch =
      derivedProviderRequestDigest wireCrates sampleRequest ∧
    SameRequest sampleRequest sampleRequest := by
  obtain ⟨agrees, pins⟩ := request_digest_agrees sampleRequest_valid
  exact ⟨agrees, pins sampleRequest [] sampleRequest_valid (fun _ => rfl) rfl⟩

end Digest
end CarsinOS.Recorder
