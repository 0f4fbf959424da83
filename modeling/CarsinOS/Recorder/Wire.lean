import Mathlib.Data.Char
import CarsinOS.Crates
import CarsinOS.Integer
import CarsinOS.Utf8
import CarsinOS.Lib.Entries
import CarsinOS.Recorder.Growth

/-! The bytes commands and records have on the wire and in the journal. -/
namespace CarsinOS.Recorder
open CarsinOS.Lib

def nullable {α : Type} (tree : α → Json) : Option α → Json
  | some value => tree value
  | none => .null

def integer (i : I64) : Json := .num i.toText

def natural (n : Nat) : Json := .num (Nat.toDigits 10 n)

def ObservationKind.asStr : ObservationKind → Text
  | .accepted => "accepted".toList
  | .invocationStarted => "invocation_started".toList
  | .present => "present".toList
  | .absent => "absent".toList
  | .unknown => "unknown".toList

def ObservationSource.asStr : ObservationSource → Text
  | .execution => "execution".toList
  | .reconciliation => "reconciliation".toList

def ProviderFailureClass.asStr : ProviderFailureClass → Text
  | .transient => "transient".toList
  | .rateLimited => "rate_limited".toList
  | .authentication => "authentication".toList
  | .permanent => "permanent".toList
  | .unknown => "unknown".toList

def actualTree (actual : TechnicalResourceActual) : Json :=
  .obj [
    ("reservation_id".toList, .str actual.reservationId),
    ("amount_actual".toList, integer actual.amountActual),
    ("evidence_digest".toList, .str actual.evidenceDigest)]

/-- The fields of a record without its version, digest and signature. -/
def observationFields (record : UnsignedRecord) : List (Text × Json) := [
  ("sequence".toList, natural record.sequence),
  ("record_id".toList, .str record.recordId),
  ("canonical_root_identity".toList, .str record.canonicalRootIdentity),
  ("installation_id".toList, .str record.installationId),
  ("state_root_generation".toList, integer record.stateRootGeneration),
  ("os_user_identity_digest".toList, .str record.osUserIdentityDigest),
  ("attempt_id".toList, .str record.attemptId),
  ("logical_effect_id".toList, .str record.logicalEffectId),
  ("command_digest".toList, .str record.commandDigest),
  ("kind".toList, .str record.kind.asStr),
  ("source".toList, .str record.source.asStr),
  ("provider_identity".toList, .str record.providerIdentity),
  ("provider_version".toList, .str record.providerVersion),
  ("provider_request_digest".toList, .str record.providerRequestDigest),
  ("provider_idempotency_key_digest".toList, nullable .str record.providerIdempotencyKeyDigest),
  ("reconciliation_key_digest".toList, nullable .str record.reconciliationKeyDigest),
  ("remote_effect_id".toList, nullable .str record.remoteEffectId),
  ("response_digest".toList, nullable .str record.responseDigest),
  ("evidence_payload_digest".toList, nullable .str record.evidencePayloadDigest),
  ("provider_error_class".toList, nullable (.str ·.asStr) record.providerErrorClass),
  ("technical_resource_actuals".toList, .arr (record.technicalResourceActuals.map actualTree)),
  ("reconciliation_window_start_ms".toList, nullable integer record.reconciliationWindowStartMs),
  ("reconciliation_window_end_ms".toList, nullable integer record.reconciliationWindowEndMs),
  ("observed_at_ms".toList, integer record.observedAtMs),
  ("previous_record_digest".toList, .str record.previousRecordDigest)]

def keyFields (record : UnsignedRecord) : List (Text × Json) := [
  ("recorder_key_id".toList, .str record.recorderKeyId),
  ("recorder_key_generation".toList, natural record.recorderKeyGeneration)]

def versionField (record : UnsignedRecord) : Text × Json :=
  ("journal_version".toList, .str record.journalVersion)

def recordTree (record : JournalRecord) : Json :=
  .obj (versionField record.toUnsignedRecord :: (observationFields record.toUnsignedRecord ++
    ("record_digest".toList, .str record.recordDigest) :: (keyFields record.toUnsignedRecord ++
      [("signature_hex".toList, .str record.signatureHex)])))

mutual
/-- `canonicalize`: the fields of every object in the order of their names. -/
def canonicalize : Json → Json
  | .arr items => .arr (canonicalizeItems items)
  | .obj fields => .obj (Entries.sortByKey (canonicalizeFields fields))
  | other => other

def canonicalizeItems : List Json → List Json
  | [] => []
  | item :: items => canonicalize item :: canonicalizeItems items

def canonicalizeFields : List (Text × Json) → List (Text × Json)
  | [] => []
  | (name, value) :: fields => (name, canonicalize value) :: canonicalizeFields fields
end

def canonicalJsonBytes (tree : Json) : List UInt8 := utf8Bytes (canonicalize tree).print

def unsignedTree (record : UnsignedRecord) : Json :=
  .obj (versionField record :: (observationFields record ++ keyFields record))

/-- The observation of a record whose signature is cleared. -/
def signedTree (record : UnsignedRecord) (recordDigest : Text) : Json :=
  .obj (observationFields record ++ ("record_digest".toList, .str recordDigest) ::
    (keyFields record ++ [("signature_hex".toList, .str [])]))

def bindingTree (binding : RecorderBinding) : Json :=
  .obj [
    ("protocol_version".toList, .str binding.protocolVersion),
    ("canonical_root_identity".toList, .str binding.canonicalRootIdentity),
    ("installation_id".toList, .str binding.installationId),
    ("state_root_generation".toList, integer binding.stateRootGeneration),
    ("os_user_identity_digest".toList, .str binding.osUserIdentityDigest),
    ("runtime_host_generation".toList, integer binding.runtimeHostGeneration),
    ("runtime_host_instance_id".toList, .str binding.runtimeHostInstanceId),
    ("runtime_fencing_token".toList, integer binding.runtimeFencingToken)]

def commandTree (command : ExecuteOnce) : Json :=
  .obj [
    ("binding".toList, bindingTree command.binding),
    ("request_id".toList, .str command.requestId),
    ("claim_event_id".toList, .str command.claimEventId),
    ("claim_receipt_id".toList, .str command.claimReceiptId),
    ("continuation_fencing_token".toList, integer command.continuationFencingToken),
    ("delegation_id".toList, .str command.delegationId),
    ("continuation_id".toList, .str command.continuationId),
    ("action_id".toList, .str command.actionId),
    ("logical_effect_id".toList, .str command.logicalEffectId),
    ("internal_idempotency_key".toList, .str command.internalIdempotencyKey),
    ("attempt_id".toList, .str command.attemptId),
    ("attempt_number".toList, integer command.attemptNumber),
    ("provider_identity".toList, .str command.providerIdentity),
    ("provider_version".toList, .str command.providerVersion),
    ("adapter_identity".toList, .str command.adapterIdentity),
    ("adapter_artifact_digest".toList, .str command.adapterArtifactDigest),
    ("provider_request_digest".toList, .str command.providerRequestDigest),
    ("provider_idempotency_key".toList, nullable .str command.providerIdempotencyKey),
    ("reconciliation_key".toList, nullable .str command.reconciliationKey),
    ("manifest_digest".toList, .str command.manifestDigest),
    ("payload_digest".toList, .str command.payloadDigest),
    ("operand_envelope".toList, command.operandEnvelope),
    ("deadline_ms".toList, integer command.deadlineMs),
    ("client_nonce".toList, .str command.clientNonce),
    ("command_mac".toList, .str command.commandMac)]

/-! Records can be read back. -/

theorem integer_injective : Function.Injective integer := by
  intro i j same
  have texts : i.toText = j.toText := Json.num.inj same
  have values := congrArg signedValue texts
  rw [signedValue_toText, signedValue_toText] at values
  exact Subtype.ext values

theorem natural_injective : Function.Injective natural := by
  intro m n same
  have texts : Nat.toDigits 10 m = Nat.toDigits 10 n := Json.num.inj same
  have values := congrArg (Nat.ofDigitChars 10 · 0) texts
  simpa only [Nat.ofDigitChars_ten_toDigits] using values

theorem nullable_injective {α : Type} {tree : α → Json} (injective : Function.Injective tree)
    (some : ∀ a, tree a ≠ .null) : Function.Injective (nullable tree) := by
  intro a b same
  cases a with
  | none =>
    cases b with
    | none => rfl
    | some b => exact absurd same.symm (some b)
  | some a =>
    cases b with
    | none => exact absurd same (some a)
    | some b => exact congrArg Option.some (injective same)

theorem str_injective : Function.Injective Json.str := fun _ _ => Json.str.inj

theorem kind_injective : Function.Injective ObservationKind.asStr := by
  intro first second same
  cases first <;> cases second <;> first | rfl | exact absurd same (by decide)

theorem source_injective : Function.Injective ObservationSource.asStr := by
  intro first second same
  cases first <;> cases second <;> first | rfl | exact absurd same (by decide)

theorem class_injective : Function.Injective fun c : ProviderFailureClass => Json.str c.asStr := by
  intro first second same
  have same := Json.str.inj same
  cases first <;> cases second <;> first | rfl | exact absurd same (by decide)

theorem actual_injective : Function.Injective actualTree := by
  intro first second same
  simp only [actualTree, Json.obj.injEq, List.cons.injEq, Prod.mk.injEq, true_and, and_true,
    Json.str.injEq, integer_injective.eq_iff] at same
  cases first
  cases second
  simp_all

theorem unsigned_injective {first second : UnsignedRecord}
    (version : versionField first = versionField second)
    (observed : observationFields first = observationFields second)
    (keys : keyFields first = keyFields second) : first = second := by
  have strings := nullable_injective str_injective (fun _ => by simp)
  have integers := nullable_injective integer_injective (fun _ => by simp [integer])
  have classes := nullable_injective class_injective (fun _ => by simp)
  have actuals := List.map_injective_iff.mpr actual_injective
  have value := fun index => congrArg (fun fields => (fields.getD index ([], .null)).2) observed
  have key := fun index => congrArg (fun fields => (fields.getD index ([], .null)).2) keys
  have journalVersion : first.journalVersion = second.journalVersion :=
    Json.str.inj (congrArg Prod.snd version)
  have sequence : first.sequence = second.sequence := natural_injective (value 0)
  have recordId : first.recordId = second.recordId := Json.str.inj (value 1)
  have canonicalRootIdentity :
      first.canonicalRootIdentity = second.canonicalRootIdentity := Json.str.inj (value 2)
  have installationId : first.installationId = second.installationId := Json.str.inj (value 3)
  have stateRootGeneration :
      first.stateRootGeneration = second.stateRootGeneration := integer_injective (value 4)
  have osUserIdentityDigest :
      first.osUserIdentityDigest = second.osUserIdentityDigest := Json.str.inj (value 5)
  have attemptId : first.attemptId = second.attemptId := Json.str.inj (value 6)
  have logicalEffectId : first.logicalEffectId = second.logicalEffectId := Json.str.inj (value 7)
  have commandDigest : first.commandDigest = second.commandDigest := Json.str.inj (value 8)
  have kind : first.kind = second.kind := kind_injective (Json.str.inj (value 9))
  have source : first.source = second.source := source_injective (Json.str.inj (value 10))
  have providerIdentity :
      first.providerIdentity = second.providerIdentity := Json.str.inj (value 11)
  have providerVersion : first.providerVersion = second.providerVersion := Json.str.inj (value 12)
  have providerRequestDigest :
      first.providerRequestDigest = second.providerRequestDigest := Json.str.inj (value 13)
  have providerIdempotencyKeyDigest :
      first.providerIdempotencyKeyDigest = second.providerIdempotencyKeyDigest := strings (value 14)
  have reconciliationKeyDigest :
      first.reconciliationKeyDigest = second.reconciliationKeyDigest := strings (value 15)
  have remoteEffectId : first.remoteEffectId = second.remoteEffectId := strings (value 16)
  have responseDigest : first.responseDigest = second.responseDigest := strings (value 17)
  have evidencePayloadDigest :
      first.evidencePayloadDigest = second.evidencePayloadDigest := strings (value 18)
  have providerErrorClass :
      first.providerErrorClass = second.providerErrorClass := classes (value 19)
  have technicalResourceActuals :
      first.technicalResourceActuals = second.technicalResourceActuals := actuals (Json.arr.inj (value 20))
  have reconciliationWindowStartMs :
      first.reconciliationWindowStartMs = second.reconciliationWindowStartMs := integers (value 21)
  have reconciliationWindowEndMs :
      first.reconciliationWindowEndMs = second.reconciliationWindowEndMs := integers (value 22)
  have observedAtMs : first.observedAtMs = second.observedAtMs := integer_injective (value 23)
  have previousRecordDigest :
      first.previousRecordDigest = second.previousRecordDigest := Json.str.inj (value 24)
  have recorderKeyId : first.recorderKeyId = second.recorderKeyId := Json.str.inj (key 0)
  have recorderKeyGeneration : first.recorderKeyGeneration = second.recorderKeyGeneration :=
    natural_injective (key 1)
  cases first
  cases second
  simp only at *
  subst_vars
  rfl

theorem recordTree_injective : Function.Injective recordTree := by
  intro first second same
  simp only [recordTree, Json.obj.injEq, List.cons.injEq] at same
  obtain ⟨version, rest⟩ := same
  obtain ⟨observed, rest⟩ := List.append_inj rest rfl
  simp only [List.cons.injEq, Prod.mk.injEq, true_and, Json.str.injEq] at rest
  obtain ⟨digest, rest⟩ := rest
  obtain ⟨keys, rest⟩ := List.append_inj rest rfl
  simp only [List.cons.injEq, Prod.mk.injEq, true_and, and_true, Json.str.injEq] at rest
  have fields := unsigned_injective version observed keys
  cases first
  cases second
  simp_all

theorem integer_spelled (i : I64) : (integer i).Everywhere Spelled := toText_number i

theorem natural_spelled (n : Nat) : (natural n).Everywhere Spelled :=
  @signed_number false _ (toDigits_intText n)

theorem str_spelled (s : Text) : (Json.str s).Everywhere Spelled := trivial

theorem object_spelled {fields : List (Text × Json)}
    (spelled : ∀ field ∈ fields, field.2.Everywhere Spelled) :
    (Json.obj fields).Everywhere Spelled := ⟨trivial, Json.everyField.mpr spelled⟩

theorem nullable_spelled {α : Type} {tree : α → Json}
    (spelled : ∀ a, (tree a).Everywhere Spelled) (value : Option α) :
    (nullable tree value).Everywhere Spelled := by
  cases value with
  | none => exact trivial
  | some a => exact spelled a

theorem actual_spelled (actual : TechnicalResourceActual) :
    (actualTree actual).Everywhere Spelled := by
  apply object_spelled
  simp only [List.forall_mem_cons, List.not_mem_nil, false_implies, implies_true, and_true]
  exact ⟨str_spelled _, integer_spelled _, str_spelled _⟩

theorem observation_spelled (record : UnsignedRecord) :
    ∀ field ∈ observationFields record, field.2.Everywhere Spelled := by
  have strings := nullable_spelled str_spelled
  have integers := nullable_spelled integer_spelled
  have actuals : (Json.arr (record.technicalResourceActuals.map actualTree)).Everywhere Spelled := by
    refine ⟨trivial, Json.everyItem.mpr ?_⟩
    intro tree member
    obtain ⟨actual, _, rfl⟩ := List.mem_map.mp member
    exact actual_spelled actual
  simp only [observationFields, List.forall_mem_cons, List.not_mem_nil, false_implies,
    implies_true, and_true]
  exact ⟨natural_spelled _, str_spelled _, str_spelled _, str_spelled _, integer_spelled _,
    str_spelled _, str_spelled _, str_spelled _, str_spelled _, str_spelled _, str_spelled _,
    str_spelled _, str_spelled _, str_spelled _, strings _, strings _, strings _, strings _,
    strings _, nullable_spelled (fun _ => str_spelled _) _, actuals, integers _, integers _,
    integer_spelled _, str_spelled _⟩

theorem recordTree_spelled (record : JournalRecord) : (recordTree record).Everywhere Spelled := by
  have keys : ∀ field ∈ keyFields record.toUnsignedRecord, field.2.Everywhere Spelled := by
    intro field member
    rcases List.mem_cons.mp member with rfl | member
    · exact str_spelled _
    · rw [List.mem_singleton.mp member]
      exact natural_spelled _
  apply object_spelled
  intro field member
  rcases List.mem_cons.mp member with rfl | member
  · exact str_spelled _
  rcases List.mem_append.mp member with member | member
  · exact observation_spelled _ field member
  rcases List.mem_cons.mp member with rfl | member
  · exact str_spelled _
  rcases List.mem_append.mp member with member | member
  · exact keys field member
  · rw [List.mem_singleton.mp member]
    exact str_spelled _

def recordBytes (record : JournalRecord) : List UInt8 := utf8Bytes (recordTree record).print

theorem recordBytes_injective : Function.Injective recordBytes := by
  intro first second same
  have trees := Json.print_injective (recordTree_spelled first) (recordTree_spelled second)
    (utf8Bytes_injective same)
  exact recordTree_injective trees

open Classical in
/-- The record with these bytes. -/
noncomputable def recordOf (bytes : List UInt8) : Option JournalRecord :=
  if h : ∃ record, recordBytes record = bytes then some h.choose else none

theorem recordOf_bytes (record : JournalRecord) : recordOf (recordBytes record) = some record := by
  have known : ∃ other, recordBytes other = recordBytes record := ⟨record, rfl⟩
  rw [recordOf, dif_pos known]
  exact congrArg some (recordBytes_injective known.choose_spec)

/-- The crates as they are used here. A signature is as long as one of Ed25519, and only
the bytes it was made of verify it. -/
noncomputable def wireCrates : RecorderCrates where
  sha256 := Sha256.digest
  sha256_length := Sha256.digest_length
  commandBytes command := .ok (canonicalJsonBytes (commandTree command))
  unsignedBytes record := .ok (canonicalJsonBytes (unsignedTree record))
  signedBytes record recordDigest := .ok (canonicalJsonBytes (signedTree record recordDigest))
  encode record := .ok (recordBytes record)
  decode := recordOf
  decode_encode record bytes made := by
    cases made
    exact recordOf_bytes record
  identity := ⟨"recorder-key-1".toList, 1, List.replicate 64 'a'⟩
  signatureHex bytes := Sha256.hex (Sha256.digest bytes ++ Sha256.digest bytes)
  verify _ bytes signature :=
    if signature = Sha256.hex (Sha256.digest bytes ++ Sha256.digest bytes) then .ok ()
    else .error "record signature is invalid"
  verify_signature bytes := by simp

/-! A record of short texts is short. -/

theorem escape_length (c : Char) : (Json.escape c).length ≤ 6 := by
  unfold Json.escape
  split_ifs <;> simp

theorem quote_length (s : Text) : (Json.quote s).length ≤ 6 * s.length + 2 := by
  have body : (s.flatMap Json.escape).length ≤ 6 * s.length := by
    induction s with
    | nil => simp
    | cons c s ih =>
      have head := escape_length c
      simp only [List.flatMap_cons, List.length_append, List.length_cons]
      omega
  simp only [Json.quote, List.length_cons, List.length_append, List.length_nil]
  omega

theorem utf8Bytes_length (s : Text) : (utf8Bytes s).length ≤ 4 * s.length := by
  induction s with
  | nil => simp [utf8Bytes]
  | cons c s ih =>
    have size := c.utf8Size_le_four
    rw [utf8Bytes] at ih ⊢
    rw [List.flatMap_cons, List.length_append, String.length_utf8EncodeChar, List.length_cons]
    omega

/-- A field that takes at most 1500 characters. -/
def Brief (field : Text × Json) : Prop := field.1.length ≤ 40 ∧ field.2.print.length ≤ 1202

theorem brief_fields {fields : List (Text × Json)} (brief : ∀ field ∈ fields, Brief field) :
    (Json.printFields fields).length ≤ 1500 * fields.length := by
  induction fields with
  | nil => simp [Json.printFields]
  | cons field fields ih =>
    have rest := ih fun other member => brief other (List.mem_cons_of_mem _ member)
    obtain ⟨name, value⟩ := brief field List.mem_cons_self
    have quoted := quote_length field.1
    cases fields with
    | nil =>
      simp only [Json.printFields, List.length_append, List.length_cons, List.length_nil]
      omega
    | cons next fields =>
      simp only [Json.printFields, List.length_append, List.length_cons] at rest ⊢
      omega

theorem hex_length (bytes : List UInt8) : (Sha256.hex bytes).length = 2 * bytes.length := by
  induction bytes with
  | nil => rfl
  | cons byte bytes ih =>
    simp only [Sha256.hex, List.flatMap_cons, List.length_append, List.length_cons,
      List.length_nil] at ih ⊢
    omega

theorem sha256Text_length (bytes : List UInt8) : (sha256Text wireCrates bytes).length = 71 := by
  have label : "sha256:".toList.length = 7 := by simp
  have digits := hex_length (wireCrates.sha256 bytes)
  have size := wireCrates.sha256_length bytes
  unfold sha256Text
  -- the digest is made opaque, or its rounds are unfolded
  generalize Sha256.hex (wireCrates.sha256 bytes) = hex at digits ⊢
  generalize wireCrates.sha256 bytes = digest at digits size
  rw [List.length_append]
  omega

/-- A record of short texts that says nothing of a provider's answer. -/
structure BriefRecord (record : JournalRecord) : Prop where
  texts : ∀ text ∈ [record.journalVersion, record.recordId, record.canonicalRootIdentity,
    record.installationId, record.osUserIdentityDigest, record.attemptId, record.logicalEffectId,
    record.commandDigest, record.providerIdentity, record.providerVersion,
    record.providerRequestDigest, record.previousRecordDigest, record.recordDigest,
    record.recorderKeyId, record.signatureHex], text.length ≤ 200
  numbers : ∀ tree ∈ [natural record.sequence, integer record.stateRootGeneration,
    integer record.observedAtMs, natural record.recorderKeyGeneration], tree.print.length ≤ 1202
  unanswered : record.providerIdempotencyKeyDigest = none ∧ record.reconciliationKeyDigest = none ∧
    record.remoteEffectId = none ∧ record.responseDigest = none ∧
    record.evidencePayloadDigest = none ∧ record.providerErrorClass = none ∧
    record.technicalResourceActuals = [] ∧ record.reconciliationWindowStartMs = none ∧
    record.reconciliationWindowEndMs = none

theorem kind_short (kind : ObservationKind) : kind.asStr.length ≤ 200 := by
  unfold ObservationKind.asStr
  split <;> simp

theorem source_short (source : ObservationSource) : source.asStr.length ≤ 200 := by
  unfold ObservationSource.asStr
  split <;> simp

theorem observation_names (record : UnsignedRecord) :
    ∀ field ∈ observationFields record, field.1.length ≤ 40 := by
  have names : ∀ name ∈ (observationFields record).map Prod.fst, name.length ≤ 40 := by
    unfold observationFields
    simp
  intro field member
  exact names field.1 (List.mem_map_of_mem member)

theorem str_print {text : Text} (short : text.length ≤ 200) :
    (Json.str text).print.length ≤ 1202 := by
  have quoted := quote_length text
  simp only [Json.print]
  omega

theorem observation_values {record : JournalRecord} (brief : BriefRecord record) :
    ∀ field ∈ observationFields record.toUnsignedRecord, field.2.print.length ≤ 1202 := by
  obtain ⟨texts, numbers, a, b, c, d, e, f, g, h, i⟩ := brief
  simp only [List.forall_mem_cons] at texts numbers
  obtain ⟨_, id, root, installation, user, attempt, effect, command, provider, version, request,
    previous, _⟩ := texts
  obtain ⟨sequence, generation, observed, _⟩ := numbers
  have empty : (Json.arr []).print.length ≤ 1202 := by simp [Json.print, Json.printItems]
  have null : Json.null.print.length ≤ 1202 := by simp [Json.print]
  unfold observationFields
  simp only [List.forall_mem_cons, a, b, c, d, e, f, g, h, i, nullable, List.map_nil]
  exact ⟨sequence, str_print id, str_print root, str_print installation, generation,
    str_print user, str_print attempt, str_print effect, str_print command,
    str_print (kind_short _), str_print (source_short _), str_print provider, str_print version,
    str_print request, null, null, null, null, null, null, empty, null, null, observed,
    str_print previous, by simp⟩

theorem recordBytes_short {record : JournalRecord} (brief : BriefRecord record) :
    (recordBytes record).length ≤ MAX_RECORD_BYTES := by
  have texts := brief.texts
  have numbers := brief.numbers
  simp only [List.forall_mem_cons] at texts numbers
  obtain ⟨version, _, _, _, _, _, _, _, _, _, _, _, digest, keyId, signature, _⟩ := texts
  obtain ⟨_, _, _, generation, _⟩ := numbers
  have fields : ∀ field ∈ versionField record.toUnsignedRecord ::
      (observationFields record.toUnsignedRecord ++
        ("record_digest".toList, .str record.recordDigest) ::
          (keyFields record.toUnsignedRecord ++
            [("signature_hex".toList, .str record.signatureHex)])), Brief field := by
    intro field member
    rcases List.mem_cons.mp member with rfl | member
    · exact ⟨by unfold versionField; simp, str_print version⟩
    rcases List.mem_append.mp member with member | member
    · exact ⟨observation_names _ field member, observation_values brief field member⟩
    rcases List.mem_cons.mp member with rfl | member
    · exact ⟨by simp, str_print digest⟩
    rcases List.mem_append.mp member with member | member
    · rcases List.mem_cons.mp member with rfl | member
      · exact ⟨by simp, str_print keyId⟩
      · rw [List.mem_singleton.mp member]
        exact ⟨by simp, generation⟩
    · rw [List.mem_singleton.mp member]
      exact ⟨by simp, str_print signature⟩
  have text := brief_fields fields
  have count : (observationFields record.toUnsignedRecord).length = 25 := rfl
  have keys : (keyFields record.toUnsignedRecord).length = 2 := rfl
  have bytes := utf8Bytes_length (recordTree record).print
  rw [List.length_cons, List.length_append, List.length_cons, List.length_append, count, keys,
    List.length_singleton] at text
  rw [recordTree, Json.print, List.length_cons, List.length_append, List.length_singleton] at bytes
  have limit : MAX_RECORD_BYTES = 262144 := rfl
  rw [limit, recordBytes]
  exact Nat.le_trans bytes (by omega)

/-! A command whose attempt can be chosen, and what accepting it first does. -/

def sampleBinding : RecorderBinding where
  protocolVersion := "carsinos.execass.effect-recorder.v1".toList
  canonicalRootIdentity := "root-1".toList
  installationId := "installation-1".toList
  stateRootGeneration := ⟨1, I64.one_fits⟩
  osUserIdentityDigest := zeroDigest
  runtimeHostGeneration := ⟨1, I64.one_fits⟩
  runtimeHostInstanceId := "host-1".toList
  runtimeFencingToken := ⟨1, I64.one_fits⟩

def sampleCommand (attemptId : Text) : ExecuteOnce where
  binding := sampleBinding
  requestId := "request-1".toList
  claimEventId := "event-1".toList
  claimReceiptId := "receipt-1".toList
  continuationFencingToken := ⟨1, I64.one_fits⟩
  delegationId := "delegation-1".toList
  continuationId := "continuation-1".toList
  actionId := "action-1".toList
  logicalEffectId := "effect-1".toList
  internalIdempotencyKey := "idempotency-1".toList
  attemptId
  attemptNumber := ⟨1, I64.one_fits⟩
  providerIdentity := "provider-1".toList
  providerVersion := "1".toList
  adapterIdentity := "adapter-1".toList
  adapterArtifactDigest := zeroDigest
  providerRequestDigest := zeroDigest
  providerIdempotencyKey := none
  reconciliationKey := none
  manifestDigest := zeroDigest
  payloadDigest := zeroDigest
  operandEnvelope := .obj [("non_secret".toList, .null), ("secret_handles".toList, .arr [])]
  deadlineMs := ⟨1, I64.one_fits⟩
  clientNonce := "nonce-1".toList
  commandMac := List.replicate 64 'a'

def sampleTime : I64 := ⟨1, I64.one_fits⟩

theorem zeroDigest_length : zeroDigest.length = 71 := by
  unfold zeroDigest
  simp

theorem recordId_length (text : Text) : (recordId wireCrates text).length = 80 := by
  have label : "recorder-record-".toList.length = 16 := by simp
  have digits := hex_length (wireCrates.sha256 (utf8Bytes text))
  have size := wireCrates.sha256_length (utf8Bytes text)
  unfold recordId
  generalize Sha256.hex (wireCrates.sha256 (utf8Bytes text)) = hex at digits ⊢
  generalize wireCrates.sha256 (utf8Bytes text) = digest at digits size
  rw [List.length_append]
  omega

theorem signature_length (bytes : List UInt8) : (wireCrates.signatureHex bytes).length = 128 := by
  have size := wireCrates.sha256_length bytes
  have digits := hex_length (wireCrates.sha256 bytes ++ wireCrates.sha256 bytes)
  have shown : wireCrates.signatureHex bytes =
    Sha256.hex (wireCrates.sha256 bytes ++ wireCrates.sha256 bytes) := rfl
  rw [shown]
  generalize wireCrates.sha256 bytes = digest at digits size ⊢
  rw [digits, List.length_append]
  omega

theorem sealRecord_lengths {unsigned : UnsignedRecord} {record : JournalRecord}
    (made : sealRecord wireCrates unsigned = .ok record) :
    record.recordDigest.length = 71 ∧ record.signatureHex.length = 128 := by
  obtain ⟨bytes, _, made⟩ := bind_ok.mp made
  obtain ⟨observation, _, made⟩ := bind_ok.mp made
  cases made
  exact ⟨sha256Text_length bytes, signature_length observation⟩

theorem natural_print {n : Nat} (small : n < 10 ^ 20) : (natural n).print.length ≤ 1202 := by
  have digits : (Nat.toDigits 10 n).length ≤ 20 :=
    (Nat.length_toDigits_le_iff (by decide) (by decide)).mpr small
  exact digits.trans (by decide)

theorem sample_brief {j : Journal} {attempt digest : Text} {kind : ObservationKind}
    {record : JournalRecord} (head : j.headDigest.length ≤ 200) (count : j.records.length < 1000)
    (short : attempt.length ≤ 200) (text : digest.length = 71)
    (made : newRecord wireCrates j (sampleCommand attempt) digest kind noEvidence sampleTime =
      .ok record) : BriefRecord record := by
  have zero := zeroDigest_length
  have fields := sealRecord_fields made
  have lengths := sealRecord_lengths made
  have id := recordId_length (recordIdText attempt digest (j.records.length + 1) [])
  have one : (integer ⟨1, by decide⟩).print.length ≤ 1202 := by decide
  have sequence := natural_print (n := j.records.length + 1) (by omega)
  have literals : "root-1".toList.length ≤ 200 ∧ "installation-1".toList.length ≤ 200 ∧
      "effect-1".toList.length ≤ 200 ∧ "provider-1".toList.length ≤ 200 ∧ "1".toList.length ≤ 200 ∧
      "recorder-key-1".toList.length ≤ 200 := by simp
  have version : journalVersion.length ≤ 200 := by
    unfold journalVersion
    simp
  obtain ⟨root, installation, effect, provider, providerVersion, key⟩ := literals
  constructor
  · simp only [fields, List.forall_mem_cons]
    exact ⟨version, id.trans_le (by decide), root, installation, zero.trans_le (by decide), short,
      effect, text.trans_le (by decide), provider, providerVersion, zero.trans_le (by decide), head,
      lengths.1.trans_le (by decide), key, lengths.2.trans_le (by decide), by simp⟩
  · simp only [fields, List.forall_mem_cons]
    exact ⟨sequence, one, one, natural_print (by decide), by simp⟩
  · rw [fields]
    exact ⟨rfl, rfl, rfl, rfl, rfl, rfl, rfl, rfl, rfl⟩

theorem appendMade_brief {j : Journal} {record : JournalRecord} (sound : Sound j)
    (extend : Extends wireCrates j record) (brief : BriefRecord record) :
    Continues wireCrates j record (recordBytes record) ∧
      appendMade wireCrates none (.ok record) j =
        (.ok record, j.push wireCrates record (recordBytes record)) ∧
      ∀ written, appendMade wireCrates (some written) (.ok record) j =
        (.error .io, { j with
          file := j.file ++ ((framing wireCrates).frame (recordBytes record)).take written }) := by
  have short := recordBytes_short brief
  have bytes : wireCrates.encode record = .ok (recordBytes record) := rfl
  have next : Continues wireCrates j record (recordBytes record) :=
    { extend with encoded := bytes, short }
  have long : ¬ (recordBytes record).length > MAX_RECORD_BYTES := Nat.not_lt.mpr short
  refine ⟨next, ?_, ?_⟩
  · simp [appendMade, append, encoded, bytes, long, next.indexRecord sound.indexed]
  · intro written
    simp [appendMade, append, encoded, bytes, long]

/-- The record a journal without records accepts a sample command with. -/
structure FirstRecord (attempt : Text) (record : JournalRecord) : Prop where
  sequence : record.sequence = 1
  key : record.key = (sampleCommand attempt).key
  digest : commandDigest wireCrates (sampleCommand attempt) = .ok record.commandDigest
  kind : record.kind = .accepted
  length : record.commandDigest.length = 71 ∧ record.recordDigest.length = 71

/-- The first command of a journal without records is accepted, or its frame is torn. -/
theorem sample_accepted {j : Journal} {attempt : Text} (sound : Sound j) (none : j.records = [])
    (short : attempt.length ≤ 200) :
    ∃ record payload, Continues wireCrates j record payload ∧ FirstRecord attempt record ∧
      accept wireCrates Option.none (sampleCommand attempt) sampleTime j =
        (.ok (false, record), j.push wireCrates record payload) ∧
      ∀ written, accept wireCrates (some written) (sampleCommand attempt) sampleTime j =
        (.error .io, { j with file := j.file ++ ((framing wireCrates).frame payload).take written }) := by
  have fresh : j.forKey (sampleCommand attempt).key = [] := by simp [Journal.forKey, none]
  have head : j.headDigest.length ≤ 200 := by
    simp [Journal.headDigest, none, zeroDigest_length]
  obtain ⟨digest, known, text⟩ : ∃ digest, commandDigest wireCrates (sampleCommand attempt) =
      .ok digest ∧ digest.length = 71 := ⟨_, rfl, sha256Text_length _⟩
  obtain ⟨record, made⟩ : ∃ record, newRecord wireCrates j (sampleCommand attempt) digest .accepted
      noEvidence sampleTime = .ok record := ⟨_, rfl⟩
  obtain ⟨extend, key, named, evidential⟩ := accepted_extends fresh made
  have brief := sample_brief head (by simp [none]) short text made
  obtain ⟨next, written, torn⟩ := appendMade_brief sound extend brief
  refine ⟨record, recordBytes record, next, ?_, ?_, ?_⟩
  · exact {
      sequence := by
        rw [sealRecord_fields made]
        simp [none]
      key
      digest := named ▸ known
      kind := congrArg Prod.fst evidential
      length := ⟨named ▸ text, (sealRecord_lengths made).1⟩ }
  · rw [accept_fresh sound.indexed _ _ fresh known, made, written]
    rfl
  · intro count
    rw [accept_fresh sound.indexed _ _ fresh known, made, torn]
    rfl

/-- An empty journal lets the sample command start. -/
theorem sample_started {attempt : Text} (short : attempt.length ≤ 200) :
    (admitVerifiedExecution wireCrates none none (sampleCommand attempt) sampleTime sampleTime
      Journal.empty).1 = .ok .freshStarted := by
  obtain ⟨first, payload, next, facts, accepted, _⟩ :=
    @sample_accepted _ attempt empty_sound rfl short
  have pushed := empty_sound.push next
  have own : (Journal.empty.push wireCrates first payload).forKey (sampleCommand attempt).key =
      [first] := by
    rw [← facts.key, Journal.forKey_push_same]
    rfl
  have found : (Journal.empty.push wireCrates first payload).recordsFor
      (sampleCommand attempt).key first.commandDigest = .ok [first] := by
    rw [Journal.recordsFor_eq pushed.indexed, own]
    simp
  have calm : isStartedOrTerminal first = false := by simp [isStartedOrTerminal, facts.kind]
  obtain ⟨second, made⟩ : ∃ second, newRecord wireCrates
      (Journal.empty.push wireCrates first payload) (sampleCommand attempt) first.commandDigest
      .invocationStarted noEvidence sampleTime = .ok second := ⟨_, rfl⟩
  have starts : startedRecord wireCrates (Journal.empty.push wireCrates first payload)
      (sampleCommand attempt) sampleTime = .ok second := by
    simp [startedRecord, facts.digest, found, calm, made]
  have head : (Journal.empty.push wireCrates first payload).headDigest.length ≤ 200 :=
    facts.length.2.trans_le (by decide)
  have brief := sample_brief head (by simp [Journal.push, Journal.empty]) short facts.length.1 made
  have extend := (startedRecord_extends pushed.indexed pushed.agreed starts).1
  obtain ⟨_, written, _⟩ := appendMade_brief pushed extend brief
  simp only [admitVerifiedExecution, facts.digest, ok_bind,
    @latestFor_none _ empty_sound.indexed (sampleCommand attempt).key rfl, accepted,
    markInvocationStarted, starts, written]

end CarsinOS.Recorder
