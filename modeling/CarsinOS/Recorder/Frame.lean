import CarsinOS.Lib.Members
import CarsinOS.Recorder.ExactOverwrite

/-! The requests of the recorder's wire, and the frames they are sent in. -/
namespace CarsinOS.Recorder
open CarsinOS.Lib CarsinOS.Lib.Members

def RECORDER_MAX_FRAME_BYTES : Nat := 1024 * 1024

/-- What the values of `serde_json` keep: an object has its names in order. -/
def ValueNode : Json → Prop
  | .num lexeme => NumberText lexeme
  | .obj fields => Entries.Sorted fields
  | _ => True

/-- `serde_json::Value`, where a number is known by how it is shown. -/
abbrev Value := { tree : Json // tree.Everywhere ValueNode }

/-- What is taken from `serde_json`: the tree a payload spells, whatever its nesting, and how the
number is shown that it makes of a spelling. -/
structure RecorderJson where
  tree : List UInt8 → Option Json
  tree_print : ∀ t, t.Everywhere Spelled → tree (utf8Bytes t.print) = some t
  number : Text → Option Text
  number_text : ∀ lexeme shown, number lexeme = some shown → NumberText shown
  number_integer : ∀ i : I64, number i.toText = some i.toText
  number_natural : ∀ n < 2 ^ 64, number (Nat.toDigits 10 n) = some (Nat.toDigits 10 n)

/-- An envelope whose non-secret operand is a value of the crate. -/
abbrev OperandEnvelope :=
  { envelope : OpaqueOperandEnvelope // envelope.nonSecret.Everywhere ValueNode }

structure QueryOnly where
  binding : RecorderBinding
  requestId : Text
  attemptId : Text
  expectedCommandDigest : Option Text
  knownJournalHead : Option Text
  clientNonce : Text
  commandMac : Text

structure Reconcile where
  binding : RecorderBinding
  requestId : Text
  attemptId : Text
  expectedCommandDigest : Text
  reconciliationKey : Text
  reconciliationKeyDigest : Text
  consistencyWindowStartMs : I64
  consistencyWindowEndMs : I64
  clientNonce : Text
  commandMac : Text

def queryTree (query : QueryOnly) : Json :=
  .obj [
    ("binding".toList, bindingTree query.binding),
    ("request_id".toList, .str query.requestId),
    ("attempt_id".toList, .str query.attemptId),
    ("expected_command_digest".toList, nullable .str query.expectedCommandDigest),
    ("known_journal_head".toList, nullable .str query.knownJournalHead),
    ("client_nonce".toList, .str query.clientNonce),
    ("command_mac".toList, .str query.commandMac)]

def reconcileTree (reconcile : Reconcile) : Json :=
  .obj [
    ("binding".toList, bindingTree reconcile.binding),
    ("request_id".toList, .str reconcile.requestId),
    ("attempt_id".toList, .str reconcile.attemptId),
    ("expected_command_digest".toList, .str reconcile.expectedCommandDigest),
    ("reconciliation_key".toList, .str reconcile.reconciliationKey),
    ("reconciliation_key_digest".toList, .str reconcile.reconciliationKeyDigest),
    ("consistency_window_start_ms".toList, integer reconcile.consistencyWindowStartMs),
    ("consistency_window_end_ms".toList, integer reconcile.consistencyWindowEndMs),
    ("client_nonce".toList, .str reconcile.clientNonce),
    ("command_mac".toList, .str reconcile.commandMac)]

/-- A request, with the envelope its command carries as a tree. -/
inductive RecorderRequest where
  | executeOnce (command : ExecuteOnce) (envelope : OperandEnvelope)
      (enclosed : command.operandEnvelope = envelopeTree envelope.val)
  | queryOnly (query : QueryOnly)
  | reconcile (reconcile : Reconcile)

def EXECUTE_ONCE : Text := "execute_once".toList
def QUERY_ONLY : Text := "query_only".toList
def RECONCILE : Text := "reconcile".toList

def RecorderRequest.operation : RecorderRequest → Text
  | .executeOnce .. => EXECUTE_ONCE
  | .queryOnly _ => QUERY_ONLY
  | .reconcile _ => RECONCILE

def RecorderRequest.payload : RecorderRequest → Json
  | .executeOnce command .. => commandTree command
  | .queryOnly query => queryTree query
  | .reconcile window => reconcileTree window

def requestTree (request : RecorderRequest) : Json :=
  .obj [("operation".toList, .str request.operation), ("payload".toList, request.payload)]

/-- The errors of the codec, without the text of the parser's. -/
inductive FrameError where
  | frameTooLarge
  | truncatedFrame
  | invalidJson
deriving DecidableEq

def encodeFrame (request : RecorderRequest) : Except FrameError (List UInt8) :=
  let payload := canonicalJsonBytes (requestTree request)
  if payload.length > RECORDER_MAX_FRAME_BYTES ∨ payload.length > 2 ^ 32 - 1 then
    .error .frameTooLarge
  else .ok (bigEndian payload.length 4 ++ payload)

/-! How `serde` reads the types of the wire. -/

def requestNames : List Text := ["operation".toList, "payload".toList]

def bindingNames : List Text := [
  "protocol_version".toList, "canonical_root_identity".toList, "installation_id".toList,
  "state_root_generation".toList, "os_user_identity_digest".toList,
  "runtime_host_generation".toList, "runtime_host_instance_id".toList,
  "runtime_fencing_token".toList]

def handleNames : List Text := [
  "version".toList, "backend".toList, "opaque_id".toList, "purpose".toList,
  "capability_class".toList]

def envelopeNames : List Text := ["non_secret".toList, "secret_handles".toList]

def commandNames : List Text := [
  "binding".toList, "request_id".toList, "claim_event_id".toList, "claim_receipt_id".toList,
  "continuation_fencing_token".toList, "delegation_id".toList, "continuation_id".toList,
  "action_id".toList, "logical_effect_id".toList, "internal_idempotency_key".toList,
  "attempt_id".toList, "attempt_number".toList, "provider_identity".toList,
  "provider_version".toList, "adapter_identity".toList, "adapter_artifact_digest".toList,
  "provider_request_digest".toList, "provider_idempotency_key".toList,
  "reconciliation_key".toList, "manifest_digest".toList, "payload_digest".toList,
  "operand_envelope".toList, "deadline_ms".toList, "client_nonce".toList, "command_mac".toList]

def queryNames : List Text := [
  "binding".toList, "request_id".toList, "attempt_id".toList, "expected_command_digest".toList,
  "known_journal_head".toList, "client_nonce".toList, "command_mac".toList]

def reconcileNames : List Text := [
  "binding".toList, "request_id".toList, "attempt_id".toList, "expected_command_digest".toList,
  "reconciliation_key".toList, "reconciliation_key_digest".toList,
  "consistency_window_start_ms".toList, "consistency_window_end_ms".toList,
  "client_nonce".toList, "command_mac".toList]

def textOf : Json → Option Text
  | .str text => some text
  | _ => none

def integerOf : Json → Option I64
  | .num lexeme => integerValue lexeme
  | _ => none

/-- A member that is null or absent is `None`. -/
def optionalText (members : List (Text × Json)) (name : Text) : Option (Option Text) :=
  defaulted members name none (nullOr textOf)

def bindingOf (tree : Json) : Option RecorderBinding := do
  let members ← closed bindingNames 0 tree
  some {
    protocolVersion := ← required members "protocol_version".toList textOf
    canonicalRootIdentity := ← required members "canonical_root_identity".toList textOf
    installationId := ← required members "installation_id".toList textOf
    stateRootGeneration := ← required members "state_root_generation".toList integerOf
    osUserIdentityDigest := ← required members "os_user_identity_digest".toList textOf
    runtimeHostGeneration := ← required members "runtime_host_generation".toList integerOf
    runtimeHostInstanceId := ← required members "runtime_host_instance_id".toList textOf
    runtimeFencingToken := ← required members "runtime_fencing_token".toList integerOf }

def handleOf (tree : Json) : Option OpaqueSecretHandle := do
  let members ← closed handleNames 0 tree
  some {
    version := ← required members "version".toList integerOf
    backend := ← required members "backend".toList textOf
    opaqueId := ← required members "opaque_id".toList textOf
    purpose := ← required members "purpose".toList textOf
    capabilityClass := ← required members "capability_class".toList textOf }

def handlesOf : Json → Option (List OpaqueSecretHandle)
  | .arr items => items.mapM handleOf
  | _ => none

section Reading
variable (J : RecorderJson)

/-! The `Value` of a tree: of equal names in an object the last one counts. -/
mutual
def valueTree : Json → Option Json
  | .num lexeme => (J.number lexeme).map .num
  | .arr items => (valueItems items).map .arr
  | .obj fields => (valueFields fields).map fun fields => .obj (Entries.insertAll [] fields)
  | other => some other

def valueItems : List Json → Option (List Json)
  | [] => some []
  | item :: items => do some ((← valueTree item) :: (← valueItems items))

def valueFields : List (Text × Json) → Option (List (Text × Json))
  | [] => some []
  | (name, value) :: fields => do some ((name, ← valueTree value) :: (← valueFields fields))
end

theorem valueItems_node {items values : List Json}
    (each : ∀ item ∈ items, ∀ {value}, valueTree J item = some value → value.Everywhere ValueNode)
    (known : valueItems J items = some values) : ∀ value ∈ values, value.Everywhere ValueNode := by
  induction items generalizing values with
  | nil =>
    cases known
    simp
  | cons item items ih =>
    rw [List.forall_mem_cons] at each
    obtain ⟨first, read, known⟩ := Option.bind_eq_some_iff.mp known
    obtain ⟨rest, later, known⟩ := Option.bind_eq_some_iff.mp known
    cases known
    exact List.forall_mem_cons.mpr ⟨each.1 read, ih each.2 later⟩

theorem valueFields_node {fields values : List (Text × Json)}
    (each : ∀ tree ∈ fields.map Prod.snd, ∀ {value}, valueTree J tree = some value →
      value.Everywhere ValueNode)
    (known : valueFields J fields = some values) :
    ∀ field ∈ values, field.2.Everywhere ValueNode := by
  induction fields generalizing values with
  | nil =>
    cases known
    simp
  | cons field fields ih =>
    rw [List.map_cons, List.forall_mem_cons] at each
    obtain ⟨first, read, known⟩ := Option.bind_eq_some_iff.mp known
    obtain ⟨rest, later, known⟩ := Option.bind_eq_some_iff.mp known
    cases known
    exact List.forall_mem_cons.mpr ⟨each.1 read, ih each.2 later⟩

/-- What is read is a value of the crate. -/
theorem valueTree_node {tree value : Json} (known : valueTree J tree = some value) :
    value.Everywhere ValueNode := by
  induction tree using Json.children_induction generalizing value with
  | step tree ih =>
    cases tree with
    | num lexeme =>
      obtain ⟨shown, read, rfl⟩ := Option.map_eq_some_iff.mp known
      exact J.number_text lexeme shown read
    | arr items =>
      obtain ⟨read, each, rfl⟩ := Option.map_eq_some_iff.mp known
      exact ⟨trivial, Json.everyItem.mpr (valueItems_node J ih each)⟩
    | obj fields =>
      obtain ⟨read, each, rfl⟩ := Option.map_eq_some_iff.mp known
      refine ⟨Entries.sorted_insertAll Entries.sorted_nil, Json.everyField.mpr ?_⟩
      intro field inside
      rcases Entries.mem_insertAll inside with inside | inside
      · exact absurd inside List.not_mem_nil
      · exact valueFields_node J ih each field inside
    | _ =>
      cases known
      trivial

def valueOf (tree : Json) : Option Value :=
  match known : valueTree J tree with
  | some value => some ⟨value, valueTree_node J known⟩
  | none => none

/-- `secret_handles` is empty by default. -/
def envelopeOf (tree : Json) : Option OperandEnvelope := do
  let members ← closed envelopeNames 1 tree
  let nonSecret ← required members "non_secret".toList (valueOf J)
  let secretHandles ← defaulted members "secret_handles".toList [] handlesOf
  some ⟨{ nonSecret := nonSecret.val, secretHandles }, nonSecret.property⟩

def executeOnceOf (tree : Json) : Option RecorderRequest := do
  let members ← closed commandNames 0 tree
  let binding ← required members "binding".toList bindingOf
  let requestId ← required members "request_id".toList textOf
  let claimEventId ← required members "claim_event_id".toList textOf
  let claimReceiptId ← required members "claim_receipt_id".toList textOf
  let continuationFencingToken ← required members "continuation_fencing_token".toList integerOf
  let delegationId ← required members "delegation_id".toList textOf
  let continuationId ← required members "continuation_id".toList textOf
  let actionId ← required members "action_id".toList textOf
  let logicalEffectId ← required members "logical_effect_id".toList textOf
  let internalIdempotencyKey ← required members "internal_idempotency_key".toList textOf
  let attemptId ← required members "attempt_id".toList textOf
  let attemptNumber ← required members "attempt_number".toList integerOf
  let providerIdentity ← required members "provider_identity".toList textOf
  let providerVersion ← required members "provider_version".toList textOf
  let adapterIdentity ← required members "adapter_identity".toList textOf
  let adapterArtifactDigest ← required members "adapter_artifact_digest".toList textOf
  let providerRequestDigest ← required members "provider_request_digest".toList textOf
  let providerIdempotencyKey ← optionalText members "provider_idempotency_key".toList
  let reconciliationKey ← optionalText members "reconciliation_key".toList
  let manifestDigest ← required members "manifest_digest".toList textOf
  let payloadDigest ← required members "payload_digest".toList textOf
  let envelope ← required members "operand_envelope".toList (envelopeOf J)
  let deadlineMs ← required members "deadline_ms".toList integerOf
  let clientNonce ← required members "client_nonce".toList textOf
  let commandMac ← required members "command_mac".toList textOf
  some (.executeOnce {
    binding, requestId, claimEventId, claimReceiptId, continuationFencingToken, delegationId,
    continuationId, actionId, logicalEffectId, internalIdempotencyKey, attemptId, attemptNumber,
    providerIdentity, providerVersion, adapterIdentity, adapterArtifactDigest,
    providerRequestDigest, providerIdempotencyKey, reconciliationKey, manifestDigest,
    payloadDigest, operandEnvelope := envelopeTree envelope.val, deadlineMs, clientNonce,
    commandMac } envelope rfl)

end Reading

def queryOnlyOf (tree : Json) : Option QueryOnly := do
  let members ← closed queryNames 0 tree
  some {
    binding := ← required members "binding".toList bindingOf
    requestId := ← required members "request_id".toList textOf
    attemptId := ← required members "attempt_id".toList textOf
    expectedCommandDigest := ← optionalText members "expected_command_digest".toList
    knownJournalHead := ← optionalText members "known_journal_head".toList
    clientNonce := ← required members "client_nonce".toList textOf
    commandMac := ← required members "command_mac".toList textOf }

def reconcileOf (tree : Json) : Option Reconcile := do
  let members ← closed reconcileNames 0 tree
  some {
    binding := ← required members "binding".toList bindingOf
    requestId := ← required members "request_id".toList textOf
    attemptId := ← required members "attempt_id".toList textOf
    expectedCommandDigest := ← required members "expected_command_digest".toList textOf
    reconciliationKey := ← required members "reconciliation_key".toList textOf
    reconciliationKeyDigest := ← required members "reconciliation_key_digest".toList textOf
    consistencyWindowStartMs := ← required members "consistency_window_start_ms".toList integerOf
    consistencyWindowEndMs := ← required members "consistency_window_end_ms".toList integerOf
    clientNonce := ← required members "client_nonce".toList textOf
    commandMac := ← required members "command_mac".toList textOf }

section Decoding
variable (J : RecorderJson)

/-- The content of a request with this tag. -/
def payloadOf (operation : Text) (payload : Json) : Option RecorderRequest :=
  if operation = EXECUTE_ONCE then executeOnceOf J payload
  else if operation = QUERY_ONLY then (queryOnlyOf payload).map .queryOnly
  else if operation = RECONCILE then (reconcileOf payload).map .reconcile
  else none

/-- How deep the containers in a request can be nested, where the parser counts to 127. -/
def PAYLOAD_NESTING : Nat := 126

/-- What the parser passes over it does not count. -/
def requestOf (tree : Json) : Option RecorderRequest := do
  let members ← opened requestNames tree
  let operation ← required members "operation".toList textOf
  let payload ← required members "payload".toList some
  if nesting payload ≤ PAYLOAD_NESTING then payloadOf J operation payload else none

/-- The length the first four bytes declare. -/
def declared (frame : List UInt8) : Nat := fromBigEndian (frame.take 4)

def decodeFrame (frame : List UInt8) : Except FrameError RecorderRequest :=
  if frame.length < 4 then .error .truncatedFrame
  else if declared frame > RECORDER_MAX_FRAME_BYTES then .error .frameTooLarge
  else if frame.length ≠ 4 + declared frame then .error .truncatedFrame
  else ((J.tree (frame.drop 4)).bind (requestOf J)).elim (.error .invalidJson) .ok

def Rejected (frame : List UInt8) : Prop := ∃ error, decodeFrame J frame = .error error

/-- The payload is as long as declared, and not too long. -/
structure Whole (frame : List UInt8) : Prop where
  size : frame.length = 4 + declared frame
  limit : declared frame ≤ RECORDER_MAX_FRAME_BYTES

variable {J} {frame shorter more : List UInt8} {request : RecorderRequest}

/-- A payload behind its length is a whole frame. -/
theorem whole_framed {payload : List UInt8} (fits : payload.length ≤ RECORDER_MAX_FRAME_BYTES) :
    Whole (bigEndian payload.length 4 ++ payload) ∧
      (bigEndian payload.length 4 ++ payload).drop 4 = payload := by
  have width := bigEndian_length payload.length 4
  have limit : RECORDER_MAX_FRAME_BYTES < 256 ^ 4 := by decide
  have length : declared (bigEndian payload.length 4 ++ payload) = payload.length := by
    rw [declared, List.take_left' width]
    exact fromBigEndian_bigEndian (Nat.lt_of_le_of_lt fits limit)
  refine ⟨⟨?_, ?_⟩, List.drop_left' width⟩
  · rw [length, List.length_append, width]
  · rwa [length]

theorem encodeFrame_ok (made : encodeFrame request = .ok frame) :
    Whole frame ∧ frame.drop 4 = canonicalJsonBytes (requestTree request) := by
  unfold encodeFrame at made
  generalize canonicalJsonBytes (requestTree request) = payload at made ⊢
  simp only at made
  split at made
  · contradiction
  · rename_i fits
    simp only [not_or, Nat.not_lt] at fits
    cases made
    exact whole_framed fits.1

theorem encodeFrame_short
    (short : (canonicalJsonBytes (requestTree request)).length ≤ RECORDER_MAX_FRAME_BYTES) :
    ∃ frame, encodeFrame request = .ok frame := by
  have limit : RECORDER_MAX_FRAME_BYTES ≤ 2 ^ 32 - 1 := by decide
  have long := short.trans limit
  exact ⟨_, if_neg (not_or.mpr ⟨Nat.not_lt.mpr short, Nat.not_lt.mpr long⟩)⟩

theorem decodeFrame_whole (whole : Whole frame) : decodeFrame J frame =
    ((J.tree (frame.drop 4)).bind (requestOf J)).elim (.error .invalidJson) .ok := by
  have size := whole.size
  rw [decodeFrame, if_neg (by omega), if_neg (Nat.not_lt.mpr whole.limit), if_neg (by omega)]

theorem decodeFrame_ok : decodeFrame J frame = .ok request ↔
    Whole frame ∧ (J.tree (frame.drop 4)).bind (requestOf J) = some request := by
  constructor
  · intro known
    have whole : Whole frame := by
      unfold decodeFrame at known
      split at known
      · contradiction
      · split at known
        · contradiction
        · split at known
          · contradiction
          · rename_i fits size
            exact ⟨not_not.mp size, Nat.not_lt.mp fits⟩
    rw [decodeFrame_whole whole] at known
    cases read : (J.tree (frame.drop 4)).bind (requestOf J) with
    | none => simp [read] at known
    | some other =>
      rw [read] at known
      cases known
      exact ⟨whole, rfl⟩
  · rintro ⟨whole, read⟩
    rw [decodeFrame_whole whole, read]
    rfl

theorem rejected_iff : Rejected J frame ↔ ∀ request, decodeFrame J frame ≠ .ok request := by
  unfold Rejected
  cases decodeFrame J frame <;> simp

/-- Only a whole frame is decoded. -/
theorem rejected_of_broken (broken : ¬ Whole frame) : Rejected J frame :=
  rejected_iff.mpr fun _ known => broken (decodeFrame_ok.mp known).1

theorem prefix_declared (part : shorter <+: frame) (four : 4 ≤ shorter.length) :
    declared shorter = declared frame := by
  obtain ⟨rest, rfl⟩ := part
  rw [declared, declared, List.take_append_of_le_length four]

/-- A frame has the length of its first four bytes. -/
theorem whole_unique (whole : Whole frame) (alsoWhole : Whole shorter) (part : shorter <+: frame) :
    shorter = frame := by
  have size := whole.size
  have alsoSize := alsoWhole.size
  have same := prefix_declared part (by omega)
  exact part.eq_of_length (by omega)

theorem shorter_rejected (whole : Whole frame) (part : shorter <+: frame)
    (strict : shorter ≠ frame) : Rejected J shorter :=
  rejected_of_broken fun alsoWhole => strict (whole_unique whole alsoWhole part)

theorem longer_rejected (whole : Whole frame) (some : more ≠ []) : Rejected J (frame ++ more) := by
  refine rejected_of_broken fun alsoWhole => some ?_
  have same := whole_unique alsoWhole whole (List.prefix_append frame more)
  exact List.append_right_eq_self.mp same.symm

end Decoding
end CarsinOS.Recorder
