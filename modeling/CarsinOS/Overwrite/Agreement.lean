import CarsinOS.Overwrite.Shape

/-! Exact-overwrite material in the storage crate and in the recorder: the same key, the same
digest, and the same operands accepted. -/
namespace CarsinOS.Overwrite
open CarsinOS.Lib CarsinOS.Canonical CarsinOS.Recorder

def operandsTree (operand : ExactOverwriteOperand) : Json := .obj [
  ("contract_version".toList, .str operand.contractVersion),
  ("expected_preimage_sha256".toList, .str operand.expectedPreimageSha256),
  ("replacement_hex".toList, .str operand.replacementHex),
  ("replacement_sha256".toList, .str operand.replacementSha256),
  ("target_identity".toList, .str operand.targetIdentity),
  ("target_path".toList, .str operand.targetPath)]

theorem operandsTree_eq (operand : ExactOverwriteOperand) :
    toTree (.object (operandsEntries operand)) = operandsTree operand := rfl

theorem valueOf_operands (operand : ExactOverwriteOperand) :
    valueOf (operandsTree operand) = operandsTree operand := rfl

theorem operandOfTree_operands (operand : ExactOverwriteOperand) :
    operandOfTree (operandsTree operand) = some operand := rfl

theorem operandOfTree_tree (operand : ExactOverwriteOperand) :
    operandOfTree (operandTree operand) = some operand := rfl

theorem canonicalize_operands (operand : ExactOverwriteOperand) :
    canonicalize (operandsTree operand) = canonicalize (operandTree operand) := rfl

theorem canonicalize_key (key : ExactOverwriteReconciliationKey) :
    canonicalize (keyTree key) = .obj [
  ("contract_version".toList, .str key.contractVersion),
  ("expected_preimage_sha256".toList, .str key.expectedPreimageSha256),
  ("replacement_sha256".toList, .str key.replacementSha256),
  ("target_identity".toList, .str key.targetIdentity),
  ("target_path".toList, .str key.targetPath)] := rfl

variable {C : Crates} {S : SerdeJson} {F : Files}

/-! The key and the digest. -/

theorem entry_fixed {N : Normalization} {n : Nat} {es : List (Text × CanonicalValue)} {key s : Text}
    (here : Stored N (n + 1) (toTree (.object es))) (member : (key, .string s) ∈ es) :
    N.nfc s = s :=
  (Json.everywhere.mp (object_entry here member).2).1

/-- The texts of the operands of a payload are normalized. -/
structure Normal (N : Normalization) (operand : ExactOverwriteOperand) : Prop where
  path : N.nfc operand.targetPath = operand.targetPath
  identity : N.nfc operand.targetIdentity = operand.targetIdentity
  preimage : N.nfc operand.expectedPreimageSha256 = operand.expectedPreimageSha256
  replacement : N.nfc operand.replacementSha256 = operand.replacementSha256

theorem payload_normal {N : Normalization} {payloadJson : Text} {operand : ExactOverwriteOperand}
    {targets : List CanonicalValue}
    (parsed : parseStrictJson N payloadJson = .ok (payloadValue operand targets)) :
    Normal N operand := by
  have operands : Stored N 31 (toTree (.object (operandsEntries operand))) :=
    object_entry (parse_stored parsed) (e := ("operands".toList, _)) (by simp [payloadEntries])
  have fixed {key s : Text} (member : (key, .string s) ∈ operandsEntries operand) : N.nfc s = s :=
    entry_fixed operands member
  constructor
  · exact @fixed "target_path".toList _ (by simp [operandsEntries])
  · exact @fixed "target_identity".toList _ (by simp [operandsEntries])
  · exact @fixed "expected_preimage_sha256".toList _ (by simp [operandsEntries])
  · exact @fixed "replacement_sha256".toList _ (by simp [operandsEntries])

theorem reconciliation_key_agrees {operand : ExactOverwriteOperand}
    (normal : Normal C.normalization operand) :
    exactOverwriteReconciliationKey C (stored operand) =
      .ok (Recorder.exactOverwriteReconciliationKey operand) := by
  have ascii {text : Text} (ascii : Ascii text) : C.normalization.nfc text = text :=
    C.normalization.ascii text ascii
  have made : CanonicalValue.ofEntries C.normalization [
      ("contract_version".toList,
        .ofStr C.normalization EXACT_OVERWRITE_RECONCILIATION_CONTRACT),
      ("expected_preimage_sha256".toList,
        .ofStr C.normalization (stored operand).expectedPreimageSha256),
      ("replacement_sha256".toList, .ofStr C.normalization (stored operand).replacementSha256),
      ("target_identity".toList, .ofStr C.normalization (stored operand).targetIdentity),
      ("target_path".toList, .ofStr C.normalization (stored operand).targetPath)] =
      .ok (.object [
        ("contract_version".toList, .string EXACT_OVERWRITE_RECONCILIATION_CONTRACT),
        ("expected_preimage_sha256".toList, .string operand.expectedPreimageSha256),
        ("replacement_sha256".toList, .string operand.replacementSha256),
        ("target_identity".toList, .string operand.targetIdentity),
        ("target_path".toList, .string operand.targetPath)]) := by
    have fixed : C.normalization.nfc EXACT_OVERWRITE_RECONCILIATION_CONTRACT =
        EXACT_OVERWRITE_RECONCILIATION_CONTRACT := ascii (by decide)
    simp only [CanonicalValue.ofEntries, CanonicalValue.ofStr, stored, normal.path, normal.identity,
      normal.preimage, normal.replacement, fixed, List.foldlM_cons, List.foldlM_nil,
      @ascii "contract_version".toList (by decide),
      @ascii "expected_preimage_sha256".toList (by decide),
      @ascii "replacement_sha256".toList (by decide), @ascii "target_identity".toList (by decide),
      @ascii "target_path".toList (by decide)]
    rfl
  rw [exactOverwriteReconciliationKey, made, ok_bind, writeValue_print,
    Recorder.exactOverwriteReconciliationKey, canonicalize_key]
  rfl

theorem envelope_of_payload {payloadJson : Text} {operand : ExactOverwriteOperand}
    {targets : List CanonicalValue}
    (parsed : parseStrictJson C.normalization payloadJson = .ok (payloadValue operand targets))
    (canonical : writeValue (payloadValue operand targets) = payloadJson) :
    exactOverwriteOperandEnvelope C S payloadJson = .ok ⟨operandsTree operand, []⟩ := by
  have held : (payloadEntries operand targets).lookup "operands".toList =
      some (.object (operandsEntries operand)) := rfl
  have shallow : (operandsTree operand).depth ≤ 127 := by
    have two : (operandsTree operand).depth = 2 := rfl
    omega
  have read : S.read (writeValue (.object (operandsEntries operand))) = some (operandsTree operand) := by
    rw [writeValue_print]
    exact S.read_print _ (toTree_spelled (.object (operandsEntries operand))) shallow
  rw [exactOverwriteOperandEnvelope, parsed, ok_bind, if_neg (not_not.mpr canonical), payloadValue,
    canonicalValueObject, ok_bind, held, present, ok_bind, read, present, ok_bind]
  rfl

theorem canonicalize_envelope {tree other : Json} (same : canonicalize tree = canonicalize other) :
    canonicalJsonBytes (envelopeTree ⟨tree, []⟩) = canonicalJsonBytes (envelopeTree ⟨other, []⟩) := by
  have trees : canonicalize (envelopeTree ⟨tree, []⟩) = canonicalize (envelopeTree ⟨other, []⟩) := by
    simp only [envelopeTree, canonicalize, canonicalizeFields, same]
  rw [canonicalJsonBytes, trees, canonicalJsonBytes]

/-! The recorder's checks. -/

/-- The path of the operands is that of the file they identify. -/
structure Stands (F : Files) (operand : ExactOverwriteOperand) : Prop where
  absolute : F.isAbsolute (F.ofText operand.targetPath) = true
  canonical : ∃ resolved, canonicalExactOverwriteTarget F (F.ofText operand.targetPath) = .ok resolved ∧
    F.toText resolved = some operand.targetPath
  identity : exactOverwriteTargetIdentity F (F.ofText operand.targetPath) = .ok operand.targetIdentity

theorem validateOperand_iff {F : Files} {operand : ExactOverwriteOperand}
    (accepted : Accepted C operand) (stands : Stands F operand) :
    validateOperand F operand = .ok () ↔
      operand.expectedPreimageSha256 ≠ operand.replacementSha256 := by
  obtain ⟨absolute, ⟨resolved, canonical, text⟩, -⟩ := stands
  unfold validateOperand
  constructor
  · intro valid
    split at valid
    · cases valid
    · rename_i checks
      simp only [not_or] at checks
      exact checks.2.2.2
  · intro apart
    rw [if_neg (by simp [accepted.contract, accepted.preimage, accepted.replacement, apart])]
    simp [absolute, canonical, pathText, text, present]

theorem replacement_valid {operand : ExactOverwriteOperand} (accepted : Accepted C operand) :
    ∃ replacement, Recorder.decodeLowerHex operand.replacementHex = .ok replacement ∧
      validateReplacement replacement = .ok () ∧
      digestBytes C replacement = operand.replacementSha256 := by
  obtain ⟨replacement, decoded, some, short, digest⟩ := accepted.bytes
  refine ⟨replacement, decodeLowerHex_agrees decoded short, ?_, digest⟩
  exact if_neg (not_or.mpr ⟨some, Nat.not_lt.mpr short⟩)

/-- The command names the adapter and holds what the store keeps for the payload. -/
structure Addressed (command : ExecuteOnce) (payloadDigest reconciliationKey : Text) : Prop where
  provider : command.providerIdentity = EXACT_OVERWRITE_PROVIDER
  providerVersion : command.providerVersion = EXACT_OVERWRITE_PROVIDER_VERSION
  adapter : command.adapterIdentity = EXACT_OVERWRITE_ADAPTER_IDENTITY
  artifact : command.adapterArtifactDigest = EXACT_OVERWRITE_ADAPTER_ARTIFACT_DIGEST
  unkeyed : command.providerIdempotencyKey = none
  digest : command.payloadDigest = payloadDigest
  key : command.reconciliationKey = some reconciliationKey

theorem validatedCommand_iff {F : Files} {operand : ExactOverwriteOperand} {command : ExecuteOnce}
    (accepted : Accepted C operand) (stands : Stands F operand)
    (addressed : Addressed command (exactOverwritePayloadDigest C ⟨operandsTree operand, []⟩)
      (Recorder.exactOverwriteReconciliationKey operand)) :
    (∃ validated, validatedCommand C F command ⟨operandsTree operand, []⟩ = .ok validated) ↔
      operand.expectedPreimageSha256 ≠ operand.replacementSha256 := by
  obtain ⟨provider, providerVersion, adapter, artifact, unkeyed, digest, key⟩ := addressed
  obtain ⟨replacement, decoded, bounded, same⟩ := replacement_valid accepted
  rw [← validateOperand_iff accepted stands]
  unfold validatedCommand
  rw [if_neg (by simp [provider, providerVersion, adapter, artifact, unkeyed])]
  simp only [operandOfTree_operands, present, ok_bind, bind_ok, decoded, bounded, same, digest, key]
  constructor
  · rintro ⟨_, _, valid, -⟩
    exact valid
  · intro valid
    exact ⟨_, (), valid, by rw [if_neg (by simp), if_neg (by simp)]⟩

/-! Material that the recorder built, placed in a payload. -/

/-- The payload of the operands with its target snapshot and its material digest. -/
def placed (N : Normalization) (operand : ExactOverwriteOperand) (targets : List Text) :
    Anyhow CanonicalValue := do
  let operands ← CanonicalValue.ofEntries N [
    ("contract_version".toList, .ofStr N operand.contractVersion),
    ("target_path".toList, .ofStr N operand.targetPath),
    ("target_identity".toList, .ofStr N operand.targetIdentity),
    ("expected_preimage_sha256".toList, .ofStr N operand.expectedPreimageSha256),
    ("replacement_hex".toList, .ofStr N operand.replacementHex),
    ("replacement_sha256".toList, .ofStr N operand.replacementSha256)]
  let snapshot ← CanonicalValue.ofEntries N [
    ("targets".toList, .array (targets.map (.ofStr N)))]
  CanonicalValue.ofEntries N [
    ("operands".toList, operands),
    ("target_snapshot".toList, snapshot),
    ("material_digest".toList, .ofStr N (operand.replacementSha256.drop 7))]

def normalized (N : Normalization) (operand : ExactOverwriteOperand) : ExactOverwriteOperand where
  contractVersion := N.nfc operand.contractVersion
  targetPath := N.nfc operand.targetPath
  targetIdentity := N.nfc operand.targetIdentity
  expectedPreimageSha256 := N.nfc operand.expectedPreimageSha256
  replacementHex := N.nfc operand.replacementHex
  replacementSha256 := N.nfc operand.replacementSha256

theorem digits_ascii {text : Text} (digits : text.all isLowerHex = true) : Ascii text := by
  intro c member
  have digit := List.all_eq_true.mp digits c member
  rw [← lower_hex, Bool.and_eq_true] at digit
  have range := hexdigit_range digit.1
  omega

theorem digest_ascii {value : Text} (valid : validDigest value = true) : Ascii value := by
  simp only [validDigest, Bool.and_eq_true] at valid
  obtain ⟨⟨-, labelled⟩, digits⟩ := valid
  obtain ⟨rest, rfl⟩ := List.isPrefixOf_iff_prefix.mp labelled
  have label : Ascii "sha256:".toList := by decide
  intro c member
  rcases List.mem_append.mp member with left | right
  · exact label c left
  · have inside : rest.all isLowerHex = true := by simpa using digits
    exact digits_ascii inside c right

theorem placed_ok {N : Normalization} {operand : ExactOverwriteOperand} {targets : List Text}
    (valid : validDigest operand.replacementSha256 = true) :
    placed N operand targets =
      .ok (payloadValue (normalized N operand) (targets.map (.ofStr N))) := by
  have ascii {text : Text} (ascii : Ascii text) : N.nfc text = text := N.ascii text ascii
  have whole := digest_ascii valid
  have tail : Ascii (operand.replacementSha256.drop 7) := fun c member =>
    whole c (List.mem_of_mem_drop member)
  simp only [placed, CanonicalValue.ofEntries, CanonicalValue.ofStr, List.foldlM_cons,
    List.foldlM_nil, ascii tail, @ascii "contract_version".toList (by decide),
    @ascii "expected_preimage_sha256".toList (by decide),
    @ascii "replacement_hex".toList (by decide), @ascii "targets".toList (by decide),
    @ascii "operands".toList (by decide), @ascii "target_snapshot".toList (by decide),
    @ascii "material_digest".toList (by decide),
    @ascii "replacement_sha256".toList (by decide), @ascii "target_identity".toList (by decide),
    @ascii "target_path".toList (by decide)]
  simp only [payloadValue, payloadEntries, operandsEntries, normalized, ascii whole]
  rfl

theorem kept_object {N : Normalization} {es : List (Text × CanonicalValue)}
    (small : es.length ≤ 256) (names : ∀ name ∈ Entries.keys es, Ascii name)
    (sorted : Entries.Sorted es) : Canonical.Kept N (.obj (entryTrees es)) := by
  rw [entryTrees_map]
  refine ⟨by simpa using small, ?_, Entries.sorted_map sorted⟩
  intro f member
  obtain ⟨e, inside, rfl⟩ := List.mem_map.mp member
  exact N.ascii e.1 (names e.1 (List.mem_map_of_mem inside))

theorem payload_kept {N : Normalization} {operand : ExactOverwriteOperand} {targets : List Text}
    (short : targets.length ≤ 1024) (valid : validDigest operand.replacementSha256 = true) :
    Stored N 32 (toTree (payloadValue (normalized N operand) (targets.map (.ofStr N)))) := by
  have whole := digest_ascii valid
  have tail : Ascii (operand.replacementSha256.drop 7) := fun c member =>
    whole c (List.mem_of_mem_drop member)
  have material : N.nfc ((N.nfc operand.replacementSha256).drop 7) =
      (N.nfc operand.replacementSha256).drop 7 := by
    rw [N.ascii _ whole, N.ascii _ tail]
  have operandNames : ∀ name ∈ (["contract_version".toList, "expected_preimage_sha256".toList,
      "replacement_hex".toList, "replacement_sha256".toList, "target_identity".toList,
      "target_path".toList] : List Text), Ascii name := by decide
  have payloadNames : ∀ name ∈ (["material_digest".toList, "operands".toList,
      "target_snapshot".toList] : List Text), Ascii name := by decide
  have inner : Canonical.Kept N (.obj (entryTrees (operandsEntries (normalized N operand)))) :=
    kept_object (by simp [operandsEntries]) operandNames (operands_sorted _)
  have outer : Canonical.Kept N (.obj (entryTrees (payloadEntries (normalized N operand)
      (targets.map (.ofStr N))))) :=
    kept_object (by simp [payloadEntries]) payloadNames (payload_sorted _ _)
  have snapshot : Canonical.Kept N (.obj (entryTrees [("targets".toList,
      CanonicalValue.array (targets.map (.ofStr N)))])) :=
    kept_object (by simp) (by simp only [Entries.keys_cons, Entries.keys_nil,
      List.forall_mem_singleton]; decide) (List.pairwise_singleton _ _)
  have row : Canonical.Kept N (.arr (elementTrees (targets.map (.ofStr N)))) := by
    rw [elementTrees_map]
    simpa [Canonical.Kept] using short
  have named : Json.EveryItem (Canonical.Kept N) (elementTrees (targets.map (.ofStr N))) := by
    rw [Json.everyItem, elementTrees_map]
    simp only [List.map_map, List.forall_mem_map, Function.comp_apply]
    exact fun target _ => N.idempotent target
  have low : Json.depthItems (elementTrees (targets.map (.ofStr N))) ≤ 1 := by
    rw [Json.depthItems_le, elementTrees_map]
    simp [CanonicalValue.ofStr, toTree, Json.depth]
  constructor
  · simp only [payloadValue, payloadEntries, operandsEntries, toTree, entryTrees, Json.depth,
      Json.depthFields]
    omega
  · exact ⟨outer, material, ⟨inner, N.idempotent _, N.idempotent _, N.idempotent _,
      N.idempotent _, N.idempotent _, N.idempotent _, trivial⟩, ⟨snapshot, ⟨row, named⟩, trivial⟩,
      trivial⟩

theorem payload_parses {N : Normalization} {operand : ExactOverwriteOperand} {targets : List Text}
    (short : targets.length ≤ 1024) (valid : validDigest operand.replacementSha256 = true) :
    parseStrictJson N (writeValue (payloadValue (normalized N operand) (targets.map (.ofStr N)))) =
      .ok (payloadValue (normalized N operand) (targets.map (.ofStr N))) := by
  have ascii {text : Text} (ascii : Ascii text) : N.nfc text = text := N.ascii text ascii
  have whole := digest_ascii valid
  have tail : Ascii (operand.replacementSha256.drop 7) := fun c member =>
    whole c (List.mem_of_mem_drop member)
  have fits := (stored_fits (@payload_kept N operand targets short valid)).1
  have denotes := print_denotes (toTree_spelled _) fits
  rw [← writeValue_print] at denotes
  rw [parse_of_denotes denotes]
  have named : meaningItems N (elementTrees (targets.map (.ofStr N))) = targets.map (.ofStr N) := by
    rw [meaningItems_map, elementTrees_map, List.map_map, List.map_map]
    refine List.map_congr_left fun target _ => ?_
    simp [CanonicalValue.ofStr, toTree, meaning, N.idempotent]
  simp only [payloadValue, payloadEntries, operandsEntries, normalized, toTree, entryTrees, meaning,
    meaningFields, N.idempotent, named, ascii whole, ascii tail,
    @ascii "contract_version".toList (by decide),
    @ascii "expected_preimage_sha256".toList (by decide),
    @ascii "replacement_hex".toList (by decide), @ascii "targets".toList (by decide),
    @ascii "operands".toList (by decide), @ascii "target_snapshot".toList (by decide),
    @ascii "material_digest".toList (by decide),
    @ascii "replacement_sha256".toList (by decide), @ascii "target_identity".toList (by decide),
    @ascii "target_path".toList (by decide)]
  rfl

theorem lower_digit {c : Char} (hex : isAsciiHexdigit c = true) (lower : c.toLower = c) :
    isLowerHex c = true := by
  rw [← lower_hex, hex, Bool.true_and, Bool.not_eq_true']
  by_contra upper
  simp only [isUpper, Bool.not_eq_false, Bool.and_eq_true, decide_eq_true_eq, char_le] at upper
  have codes : 'A'.toNat = 65 ∧ 'Z'.toNat = 90 := by decide
  have moved : ∀ n < 91, 65 ≤ n → (Char.ofNat n).toLower ≠ Char.ofNat n := by decide
  have here := moved c.toNat (by omega) (by omega)
  rw [Char.ofNat_toNat] at here
  exact here lower

theorem labelled_digest {hex : Text} (size : utf8Length hex = 64)
    (lower : hex.all isLowerHex = true) : validDigest ("sha256:".toList ++ hex) = true := by
  have whole : utf8Length ("sha256:".toList ++ hex) = 71 := by
    have seven : utf8Length "sha256:".toList = 7 := by decide
    simp only [utf8Length, List.map_append, List.sum_append] at seven size ⊢
    omega
  have labelled : "sha256:".toList.isPrefixOf ("sha256:".toList ++ hex) = true :=
    List.isPrefixOf_iff_prefix.mpr ⟨hex, rfl⟩
  have rest : ("sha256:".toList ++ hex).drop "sha256:".toList.length = hex := List.drop_left
  simp only [validDigest, whole, labelled, decide_true, Bool.true_and]
  exact (congrArg (List.all · isLowerHex) rest).trans lower

theorem digestBytes_valid (bytes : List UInt8) : validDigest (digestBytes C bytes) = true := by
  obtain ⟨size, digits, lower⟩ := (C.sha256 bytes).property
  apply labelled_digest size
  rw [List.all_eq_true]
  intro c member
  have fixed : ∀ c ∈ (C.sha256 bytes).val, c.toLower = c :=
    List.map_eq_map_iff.mp (lower.trans (List.map_id' _).symm)
  exact lower_digit (List.all_eq_true.mp digits c member) (fixed c member)

theorem hex_ascii (bytes : List UInt8) : Ascii (Sha256.hex bytes) := by
  intro c member
  have range := hexdigit_range (List.all_eq_true.mp (hex_digest bytes).2.1 c member)
  omega

theorem identity_ascii (id : FileId) : Ascii id.text := by
  have join {first second : Text} (left : Ascii first) (right : Ascii second) :
      Ascii (first ++ second) := fun c member =>
    (List.mem_append.mp member).elim (left c) (right c)
  cases id with
  | unix dev ino =>
    exact join (by decide) (join (hex_ascii _) (join (by decide) (hex_ascii _)))
  | windows volume index =>
    exact join (by decide) (join (hex_ascii _) (join (by decide) (hex_ascii _)))

theorem labelled_visible {c : Char} {label : Text} (first : c ∈ label)
    (visible : isWhitespace c = false) (rest : Text) : trimChars (label ++ rest) ≠ [] :=
  visible_of_mem (List.mem_append_left rest first) visible

theorem identity_visible (id : FileId) : trimChars id.text ≠ [] := by
  have unix : 'u' ∈ "unix-device:".toList := by decide
  have windows : 'w' ∈ "windows-volume:".toList := by decide
  cases id with
  | unix dev ino => exact labelled_visible unix (by decide) _
  | windows volume index => exact labelled_visible windows (by decide) _

theorem hex_visible {bytes : List UInt8} (some : bytes ≠ []) : trimChars (Sha256.hex bytes) ≠ [] := by
  cases bytes with
  | nil => exact absurd rfl some
  | cons byte bytes =>
    apply visible_of_mem (c := Sha256.hexDigit (byte.toNat / 16))
    · simp [Sha256.hex]
    · exact hexdigit_visible (hexDigit_digest _).2.1

theorem resolved_absolute {target resolved : F.Path}
    (known : canonicalExactOverwriteTarget F target = .ok resolved) :
    F.isAbsolute resolved = true := by
  unfold canonicalExactOverwriteTarget at known
  split at known
  · cases known
  · simp only [bind_ok, present_ok] at known
    obtain ⟨name, named, parent, -, directory, canonical, _, -, _, -, _, -, _, -, same⟩ := known
    cases same
    exact F.join_absolute directory target name (F.canonicalize_absolute parent directory canonical)
      named

/-- What the recorder builds material from. -/
theorem build_operand {target : F.Path} {replacement : List UInt8} {material : ExactOverwriteMaterial}
    (built : buildExactOverwriteMaterial C F target replacement = .ok material) :
    ∃ operand id content, material = materialFromOperand C operand ∧
      operand.contractVersion = EXACT_OVERWRITE_OPERAND_CONTRACT ∧
      trimChars operand.targetPath ≠ [] ∧ operand.targetIdentity = FileId.text id ∧
      operand.expectedPreimageSha256 = digestBytes C content ∧
      operand.replacementHex = Sha256.hex replacement ∧
      operand.replacementSha256 = digestBytes C replacement ∧ replacement ≠ [] ∧
      replacement.length ≤ MAX_EXACT_OVERWRITE_REPLACEMENT_BYTES := by
  simp only [buildExactOverwriteMaterial, fileIdentity, hashOpenFile, bind_ok] at built
  obtain ⟨_, bounded, resolved, canonical, file, -, _, -, identity, ⟨id, -, spelled⟩, rest⟩ := built
  obtain ⟨preimage, ⟨content, -, hashed⟩, rest⟩ := rest
  cases spelled
  cases hashed
  split at rest
  · cases rest
  · simp only [pathText, bind_ok, present_ok] at rest
    obtain ⟨path, text, made⟩ := rest
    cases made
    unfold validateReplacement at bounded
    split at bounded
    · cases bounded
    · rename_i size
      simp only [not_or, Nat.not_lt] at size
      refine ⟨_, id, content, rfl, rfl, ?_, rfl, rfl, rfl, rfl, size.1, size.2⟩
      exact F.absolute_visible resolved path (resolved_absolute canonical) text

/-- Material that the recorder built is accepted by the storage crate. -/
theorem built_accepted {operand : ExactOverwriteOperand} {id : FileId} {content replacement : List UInt8}
    (visible : ∀ text, trimChars text ≠ [] → trimChars (C.normalization.nfc text) ≠ [])
    (contract : operand.contractVersion = EXACT_OVERWRITE_OPERAND_CONTRACT)
    (path : trimChars operand.targetPath ≠ []) (identity : operand.targetIdentity = id.text)
    (preimage : operand.expectedPreimageSha256 = digestBytes C content)
    (hex : operand.replacementHex = Sha256.hex replacement)
    (digest : operand.replacementSha256 = digestBytes C replacement) (some : replacement ≠ [])
    (short : replacement.length ≤ MAX_EXACT_OVERWRITE_REPLACEMENT_BYTES) :
    Accepted C (normalized C.normalization operand) := by
  have ascii {text : Text} (ascii : Ascii text) : C.normalization.nfc text = text :=
    C.normalization.ascii text ascii
  have digits := ascii (hex_ascii replacement)
  have whole := ascii (digest_ascii (digestBytes_valid (C := C) replacement))
  constructor
  · rw [normalized, contract]
    exact ascii (by decide)
  · exact visible _ path
  · rw [normalized, identity, ascii (identity_ascii id)]
    exact identity_visible id
  · rw [normalized, preimage, ascii (digest_ascii (digestBytes_valid content))]
    exact digestBytes_valid content
  · rw [normalized, digest, whole]
    exact digestBytes_valid replacement
  · rw [normalized, hex, digits]
    exact hex_visible some
  · refine ⟨replacement, ?_, some, short, ?_⟩
    · rw [normalized, hex, digits]
      exact decodeLowerHex_hex replacement
    · rw [normalized, digest, whole]

/-- The store keeps the key and the digest that the recorder makes of the operands. -/
structure Agrees (C : Crates) (S : SerdeJson) (payloadJson : Text)
    (operands : ExactOverwriteOperands) (envelope : OpaqueOperandEnvelope)
    (operand : ExactOverwriteOperand) : Prop where
  made : exactOverwriteOperandEnvelope C S payloadJson = .ok envelope
  read : operandOfTree envelope.nonSecret = some operand
  same : operands = stored operand
  key : exactOverwriteReconciliationKey C operands =
    .ok (Recorder.exactOverwriteReconciliationKey operand)
  digest : exactOverwriteEnvelopePayloadDigest C S payloadJson =
    .ok (exactOverwritePayloadDigest C envelope)
  material : exactOverwritePayloadDigest C envelope =
    (materialFromOperand C operand).payloadDigest

/-- The recorder refuses no effect for its operands. -/
structure Accepts (C : Crates) (F : Files) (envelope : OpaqueOperandEnvelope)
    (operand : ExactOverwriteOperand) : Prop where
  valid : validateOperand F operand = .ok ()
  bounded : ∃ replacement, Recorder.decodeLowerHex operand.replacementHex = .ok replacement ∧
    validateReplacement replacement = .ok ()
  validated : ∀ command, Addressed command (exactOverwritePayloadDigest C envelope)
    (Recorder.exactOverwriteReconciliationKey operand) →
    ∃ validated, validatedCommand C F command envelope = .ok validated

theorem payload_agrees {payloadJson : Text} {operand : ExactOverwriteOperand}
    {targets : List CanonicalValue}
    (parsed : parseStrictJson C.normalization payloadJson = .ok (payloadValue operand targets))
    (canonical : writeValue (payloadValue operand targets) = payloadJson) :
    Agrees C S payloadJson (stored operand) ⟨operandsTree operand, []⟩ operand := by
  have envelope := envelope_of_payload (S := S) parsed canonical
  constructor
  · exact envelope
  · exact operandOfTree_operands operand
  · rfl
  · exact reconciliation_key_agrees (payload_normal parsed)
  · rw [exactOverwriteEnvelopePayloadDigest, envelope, ok_bind]
    rfl
  · rw [exactOverwritePayloadDigest, canonicalize_envelope (canonicalize_operands operand)]
    rfl

theorem accepts_iff {operand : ExactOverwriteOperand} (accepted : Accepted C operand)
    (stands : Stands F operand) :
    Accepts C F ⟨operandsTree operand, []⟩ operand ↔
      operand.expectedPreimageSha256 ≠ operand.replacementSha256 := by
  constructor
  · intro accepts
    exact (validateOperand_iff accepted stands).mp accepts.valid
  · intro apart
    obtain ⟨replacement, decoded, bounded, -⟩ := replacement_valid accepted
    constructor
    · exact (validateOperand_iff accepted stands).mpr apart
    · exact ⟨replacement, decoded, bounded⟩
    · intro command addressed
      exact (validatedCommand_iff accepted stands addressed).mpr apart

theorem stands_of_stored {operand other : ExactOverwriteOperand} (same : stored operand = stored other)
    (stands : Stands F operand) : Stands F other := by
  have path : operand.targetPath = other.targetPath :=
    congrArg ExactOverwriteOperands.targetPath same
  have identity : operand.targetIdentity = other.targetIdentity :=
    congrArg ExactOverwriteOperands.targetIdentity same
  obtain ⟨absolute, canonical, identified⟩ := stands
  rw [path] at absolute canonical identified
  rw [identity] at identified
  exact ⟨absolute, canonical, identified⟩

theorem targets_named {N : Normalization} {operand : ExactOverwriteOperand} {targets : List Text}
    (order : targets.Perm [operand.targetIdentity, operand.targetPath]) :
    Targets (normalized N operand) (targets.map (.ofStr N)) := by
  have named {text : Text} (member : text ∈ targets) :
      (targets.map (CanonicalValue.ofStr N)).any (names (N.nfc text)) = true := by
    rw [List.any_map]
    refine List.any_eq_true.mpr ⟨text, member, ?_⟩
    simp [CanonicalValue.ofStr, names]
  refine ⟨by simpa using order.length_eq, ?_⟩
  simp only [List.all_cons, List.all_nil, Bool.and_true, Bool.and_eq_true, normalized]
  exact ⟨named (order.mem_iff.mpr (by simp)), named (order.mem_iff.mpr (by simp))⟩

/-- The two crates agree on exact-overwrite material, but for a replacement that is the preimage. -/
theorem overwrite_material_agrees (C : Crates) (S : SerdeJson)
    (visible : ∀ text, trimChars text ≠ [] → trimChars (C.normalization.nfc text) ≠ []) :
    (∀ payloadJson operands, parseExactOverwritePayload C payloadJson = .ok operands →
      ∃ envelope operand, Agrees C S payloadJson operands envelope operand ∧
        ∀ F, Stands F operand → (Accepts C F envelope operand ↔
          operands.expectedPreimageSha256 ≠ operands.replacementSha256)) ∧
    ∀ F target replacement material,
      buildExactOverwriteMaterial C F target replacement = .ok material →
      ∃ operand, operandOfTree material.operandEnvelope.nonSecret = some operand ∧
        ∀ targets, targets.Perm [operand.targetIdentity, operand.targetPath] →
          ∃ payload operands, placed C.normalization operand targets = .ok payload ∧
            parseExactOverwritePayload C (writeValue payload) = .ok operands := by
  constructor
  · intro payloadJson operands read
    obtain ⟨operand, targets, parsed, canonical, rfl, accepted, -⟩ := parse_inverts read
    refine ⟨_, operand, payload_agrees parsed canonical, ?_⟩
    intro F stands
    exact accepts_iff accepted stands
  · intro F target replacement material built
    obtain ⟨operand, id, content, rfl, contract, path, identity, preimage, hex, digest, some, short⟩ :=
      build_operand built
    refine ⟨operand, operandOfTree_tree operand, ?_⟩
    intro targets order
    have valid : validDigest operand.replacementSha256 = true := by
      rw [digest]
      exact digestBytes_valid replacement
    have few : targets.length ≤ 1024 := by
      simp [order.length_eq]
    refine ⟨_, stored (normalized C.normalization operand), placed_ok valid, ?_⟩
    exact parse_accepts (payload_parses few valid) rfl
      (built_accepted visible contract path identity preimage hex digest some short)
      (targets_named order)

/-! One file below the root of the host. -/

def sampleFile : OpenFile := ⟨.ok ⟨false, true, false⟩, .ok (.unix 1 2), .ok [0x62]⟩

def sampleFiles : Files where
  Path := Text
  ofText := id
  toText := some
  isAbsolute path := path.head? = some '/'
  fileName path :=
    let name := (path.reverse.takeWhile (· ≠ '/')).reverse
    if name = [] then none else some name
  parent path := some (path.reverse.dropWhile (· ≠ '/')).reverse
  join directory name :=
    if directory.getLast? = some '/' then directory ++ name else directory ++ '/' :: name
  canonicalize path := if path.head? = some '/' then .ok path else bail "no such file"
  symlinkMetadata _ := .ok ⟨false, true, false⟩
  openNoFollow _ := .ok sampleFile
  canonicalize_absolute path resolved canonical := by
    split at canonical
    · cases canonical
      simpa
    · cases canonical
  join_absolute directory path name absolute _ := by
    cases directory with
    | nil => cases absolute
    | cons c rest => split <;> simpa using absolute
  absolute_visible path text absolute same := by
    cases same
    apply visible_of_mem (c := '/')
    · exact List.mem_of_mem_head? (by simpa using absolute)
    · decide

def sampleOperand (preimage : Text) : ExactOverwriteOperand where
  contractVersion := EXACT_OVERWRITE_OPERAND_CONTRACT
  targetPath := "/a".toList
  targetIdentity := FileId.text (.unix 1 2)
  expectedPreimageSha256 := preimage
  replacementHex := Sha256.hex [0x61]
  replacementSha256 := digestBytes asciiCrates [0x61]

def samplePayload (preimage : Text) : CanonicalValue :=
  payloadValue (sampleOperand preimage)
    [.string "/a".toList, .string (FileId.text (.unix 1 2))]

theorem samplePayload_parses (preimage : Text) :
    parseStrictJson asciiNormalization (writeValue (samplePayload preimage)) =
      .ok (samplePayload preimage) :=
  @payload_parses asciiNormalization (sampleOperand preimage)
    ["/a".toList, FileId.text (.unix 1 2)] (by decide) (digestBytes_valid _)

theorem samplePayload_accepted {preimage : Text} (valid : validDigest preimage = true) :
    parseExactOverwritePayload asciiCrates (writeValue (samplePayload preimage)) =
      .ok (stored (sampleOperand preimage)) := by
  have path : trimChars "/a".toList ≠ [] := by decide
  have accepted : Accepted asciiCrates (sampleOperand preimage) := {
    contract := rfl
    path
    identity := identity_visible (.unix 1 2)
    preimage := valid
    replacement := digestBytes_valid [0x61]
    hex := @hex_visible [0x61] (by decide)
    bytes := ⟨[0x61], decodeLowerHex_hex [0x61], by decide, by decide, rfl⟩ }
  exact parse_accepts (samplePayload_parses preimage) rfl accepted
    (@targets_named asciiNormalization (sampleOperand preimage)
      ["/a".toList, FileId.text (.unix 1 2)] (List.Perm.swap _ _ _))

theorem sample_stands (preimage : Text) : Stands sampleFiles (sampleOperand preimage) where
  absolute := rfl
  canonical := ⟨"/a".toList, rfl, rfl⟩
  identity := rfl

theorem overwrite_material_agrees_sample :
    ∃ envelope operand, Agrees asciiCrates printedJson
      (writeValue (samplePayload (digestBytes asciiCrates [0x62])))
      (stored (sampleOperand (digestBytes asciiCrates [0x62]))) envelope operand ∧
      Accepts asciiCrates sampleFiles envelope operand := by
  have apart : digestBytes asciiCrates [0x62] ≠ digestBytes asciiCrates [0x61] := by decide +kernel
  obtain ⟨envelope, operand, agrees, accepts⟩ :=
    (overwrite_material_agrees asciiCrates printedJson fun _ visible => visible).1 _ _
      (samplePayload_accepted (digestBytes_valid [0x62]))
  refine ⟨envelope, operand, agrees, (accepts sampleFiles ?_).mpr apart⟩
  exact stands_of_stored agrees.same (sample_stands _)

/-- A replacement that is the preimage is accepted from the owner, and its effect is refused. -/
theorem unchanged_overwrite_refused :
    ∃ payloadJson operands envelope operand,
      parseExactOverwritePayload asciiCrates payloadJson = .ok operands ∧
      exactOverwriteOperandEnvelope asciiCrates printedJson payloadJson = .ok envelope ∧
      operandOfTree envelope.nonSecret = some operand ∧ Stands sampleFiles operand ∧
      validateOperand sampleFiles operand ≠ .ok () := by
  let digest := digestBytes asciiCrates [0x61]
  have agrees : Agrees asciiCrates printedJson (writeValue (samplePayload digest))
      (stored (sampleOperand digest)) ⟨operandsTree (sampleOperand digest), []⟩
      (sampleOperand digest) := payload_agrees (samplePayload_parses digest) rfl
  refine ⟨_, _, _, _, samplePayload_accepted (digestBytes_valid [0x61]), agrees.made, agrees.read,
    sample_stands digest, ?_⟩
  intro valid
  have same : (sampleOperand digest).expectedPreimageSha256 =
      (sampleOperand digest).replacementSha256 := rfl
  unfold validateOperand at valid
  rw [if_pos (Or.inr (Or.inr (Or.inr same)))] at valid
  cases valid

end CarsinOS.Overwrite
