import CarsinOS.Overwrite.Payload

/-! What is accepted of a payload: it holds its operands, their targets and nothing else, and the
recorder decodes the same bytes of it. -/
namespace CarsinOS.Overwrite
open CarsinOS.Lib CarsinOS.Canonical CarsinOS.Recorder

theorem lower_hex (c : Char) : (isAsciiHexdigit c && !isUpper c) = isLowerHex c := by
  have codes : '0'.toNat = 48 ∧ '9'.toNat = 57 ∧ 'a'.toNat = 97 ∧ 'f'.toNat = 102 ∧
      'A'.toNat = 65 ∧ 'F'.toNat = 70 ∧ 'Z'.toNat = 90 := by decide
  rw [Bool.eq_iff_iff]
  simp only [isAsciiHexdigit, isUpper, isLowerHex, Bool.and_eq_true, Bool.or_eq_true,
    decide_eq_true_eq, Bool.not_eq_true', Bool.and_eq_false_iff, decide_eq_false_iff_not, char_le,
    codes]
  omega

theorem requireSha256Hex_ok {label : String} {value : Text}
    (passed : requireSha256Hex label value = .ok ()) :
    validDigest value = true ∧ afterLabel "sha256:".toList value = some (value.drop 7) := by
  unfold requireSha256Hex afterLabel at passed
  unfold afterLabel
  by_cases labelled : "sha256:".toList.isPrefixOf value = true
  · simp only [labelled, if_true] at passed
    split at passed
    · cases passed
    · rename_i checks
      simp only [not_or, not_not, Bool.not_eq_false, lower_hex] at checks
      obtain ⟨size, digits⟩ := checks
      refine ⟨?_, by rw [if_pos labelled]; rfl⟩
      obtain ⟨rest, rfl⟩ := List.isPrefixOf_iff_prefix.mp labelled
      have whole : utf8Length ("sha256:".toList ++ rest) = 71 := by
        have seven : utf8Length "sha256:".toList = 7 := by decide
        simp only [utf8Length, List.map_append, List.sum_append] at seven size ⊢
        rw [List.drop_left] at size
        omega
      simp only [validDigest, whole, labelled, decide_true, Bool.true_and]
      exact digits
  · simp only [labelled] at passed
    cases passed

theorem requireSha256Hex_valid {label : String} {value : Text} (valid : validDigest value = true) :
    requireSha256Hex label value = .ok () := by
  simp only [validDigest, Bool.and_eq_true, decide_eq_true_eq] at valid
  obtain ⟨⟨size, labelled⟩, digits⟩ := valid
  obtain ⟨rest, rfl⟩ := List.isPrefixOf_iff_prefix.mp labelled
  have left : utf8Length rest = 64 := by
    have seven : utf8Length "sha256:".toList = 7 := by decide
    simp only [utf8Length, List.map_append, List.sum_append] at seven size ⊢
    omega
  have dropped : ("sha256:".toList ++ rest).drop "sha256:".toList.length = rest := List.drop_left
  have lower : rest.all isLowerHex = true := by simpa using digits
  simpa [requireSha256Hex, afterLabel, left, lower_hex] using lower

/-! Hexadecimal bytes. -/

def hexBytes : List UInt8 := [48, 49, 50, 51, 52, 53, 54, 55, 56, 57, 97, 98, 99, 100, 101, 102]

theorem nibble_some {byte digit : UInt8} (known : nibble byte = some digit) : byte ∈ hexBytes := by
  have every : ∀ n < 256, (nibble (UInt8.ofNat n)).isSome = true → UInt8.ofNat n ∈ hexBytes := by
    decide +kernel
  have here := every byte.toNat byte.toNat_lt
  rw [UInt8.ofNat_toNat] at here
  exact here (by rw [known]; rfl)

theorem hexBytes_lower : ∀ byte ∈ hexBytes, isLowerHexByte byte = true := by decide +kernel

theorem pair_agrees : ∀ high ∈ hexBytes, ∀ low ∈ hexBytes,
    byteOfPair high low = .ok (((nibble high).getD 0 <<< 4) ||| (nibble low).getD 0) := by
  decide +kernel

/-- The two crates read the same bytes. -/
theorem decodePairs_agree {bytes decoded : List UInt8} (even : bytes.length % 2 = 0)
    (read : decodePairs bytes = .ok decoded) :
    (∀ byte ∈ bytes, isLowerHexByte byte = true) ∧ hexChunks bytes = .ok decoded ∧
      bytes.length = 2 * decoded.length := by
  induction bytes using decodePairs.induct generalizing decoded with
  | case1 high low rest ih =>
    simp only [decodePairs, bind_ok, present_ok] at read
    obtain ⟨h, first, l, second, tail, more, whole⟩ := read
    cases whole
    have fewer : rest.length % 2 = 0 := by
      simp only [List.length_cons] at even
      omega
    obtain ⟨digits, same, size⟩ := ih fewer more
    have highHex := nibble_some first
    have lowHex := nibble_some second
    refine ⟨?_, ?_, ?_⟩
    · intro byte member
      rcases List.mem_cons.mp member with rfl | member
      · exact hexBytes_lower _ highHex
      · rcases List.mem_cons.mp member with rfl | member
        · exact hexBytes_lower _ lowHex
        · exact digits byte member
    · simp only [hexChunks, pair_agrees high highHex low lowHex, first, second, same,
        Except.mapError, ok_bind, Option.getD_some]
    · simp only [List.length_cons, size]
      omega
  | case2 bytes short =>
    cases bytes with
    | nil =>
      cases read
      simp [hexChunks]
    | cons byte rest =>
      cases rest with
      | nil => simp at even
      | cons other rest => exact absurd rfl (short byte other rest)

theorem hexDigit_byte : ∀ m < 16, String.utf8EncodeChar (Sha256.hexDigit m) =
    [(hexBytes.getD m 0)] := by decide +kernel

theorem hexPair_nibbles : ∀ n < 256,
    (((nibble (hexBytes.getD (n / 16) 0)).getD 0 <<< 4) ||| (nibble (hexBytes.getD (n % 16) 0)).getD 0) =
      UInt8.ofNat n ∧ (nibble (hexBytes.getD (n / 16) 0)).isSome = true ∧
      (nibble (hexBytes.getD (n % 16) 0)).isSome = true := by
  decide +kernel

theorem decodePairs_hex (bytes : List UInt8) :
    decodePairs (utf8Bytes (Sha256.hex bytes)) = .ok bytes := by
  induction bytes with
  | nil => rfl
  | cons byte bytes ih =>
    have low : Sha256.hexDigit byte.toNat = Sha256.hexDigit (byte.toNat % 16) := by
      simp [Sha256.hexDigit]
    have small := byte.toNat_lt
    have spelled : utf8Bytes (Sha256.hex (byte :: bytes)) =
        hexBytes.getD (byte.toNat / 16) 0 :: hexBytes.getD (byte.toNat % 16) 0 ::
          utf8Bytes (Sha256.hex bytes) := by
      simp only [utf8Bytes, Sha256.hex, List.flatMap_cons, List.flatMap_append, low,
        hexDigit_byte _ (Nat.mod_lt byte.toNat (by decide : 16 > 0)),
        hexDigit_byte (byte.toNat / 16) (by omega)]
      simp
    obtain ⟨value, high, some⟩ := hexPair_nibbles byte.toNat small
    obtain ⟨h, first⟩ := Option.isSome_iff_exists.mp high
    obtain ⟨l, second⟩ := Option.isSome_iff_exists.mp some
    rw [first, second, UInt8.ofNat_toNat] at value
    rw [spelled, decodePairs, first, second, ih]
    exact congrArg Except.ok (congrArg (· :: bytes) value)

theorem utf8Bytes_size (text : Text) : (utf8Bytes text).length = utf8Length text := by
  simp only [utf8Bytes, utf8Length, List.length_flatMap, String.length_utf8EncodeChar]

theorem decodeLowerHex_hex (bytes : List UInt8) :
    decodeLowerHex (Sha256.hex bytes) = .ok bytes := by
  have even : utf8Length (Sha256.hex bytes) % 2 = 0 := by
    rw [(hex_digest bytes).1]
    omega
  rw [decodeLowerHex, if_neg (by omega)]
  exact decodePairs_hex bytes

/-- What the storage crate decodes within the bound is decoded by the recorder. -/
theorem decodeLowerHex_agrees {value : Text} {replacement : List UInt8}
    (read : decodeLowerHex value = .ok replacement)
    (bounded : replacement.length ≤ EXACT_OVERWRITE_MAX_REPLACEMENT_BYTES) :
    Recorder.decodeLowerHex value = .ok replacement := by
  unfold decodeLowerHex at read
  split at read
  · cases read
  · rename_i even
    have size := utf8Bytes_size value
    obtain ⟨digits, same, twice⟩ := decodePairs_agree (by omega) read
    unfold Recorder.decodeLowerHex
    rw [if_neg, same]
    rintro (odd | long | other)
    · exact even odd
    · omega
    · obtain ⟨byte, member, bad⟩ := List.any_eq_true.mp other
      rw [digits byte member] at bad
      cases bad

/-! The shape of a payload that is accepted. -/

def operandsEntries (operand : ExactOverwriteOperand) : List (Text × CanonicalValue) := [
  ("contract_version".toList, .string operand.contractVersion),
  ("expected_preimage_sha256".toList, .string operand.expectedPreimageSha256),
  ("replacement_hex".toList, .string operand.replacementHex),
  ("replacement_sha256".toList, .string operand.replacementSha256),
  ("target_identity".toList, .string operand.targetIdentity),
  ("target_path".toList, .string operand.targetPath)]

def payloadEntries (operand : ExactOverwriteOperand) (targets : List CanonicalValue) :
    List (Text × CanonicalValue) := [
  ("material_digest".toList, .string (operand.replacementSha256.drop 7)),
  ("operands".toList, .object (operandsEntries operand)),
  ("target_snapshot".toList, .object [("targets".toList, .array targets)])]

/-- The payload that holds these operands and targets. -/
def payloadValue (operand : ExactOverwriteOperand) (targets : List CanonicalValue) :
    CanonicalValue := .object (payloadEntries operand targets)

def stored (operand : ExactOverwriteOperand) : ExactOverwriteOperands where
  targetPath := operand.targetPath
  targetIdentity := operand.targetIdentity
  expectedPreimageSha256 := operand.expectedPreimageSha256
  replacementSha256 := operand.replacementSha256

/-- What the storage crate asks of the operands. -/
structure Accepted (C : Crates) (operand : ExactOverwriteOperand) : Prop where
  contract : operand.contractVersion = EXACT_OVERWRITE_OPERAND_CONTRACT
  path : trimChars operand.targetPath ≠ []
  identity : trimChars operand.targetIdentity ≠ []
  preimage : validDigest operand.expectedPreimageSha256 = true
  replacement : validDigest operand.replacementSha256 = true
  hex : trimChars operand.replacementHex ≠ []
  bytes : ∃ replacement, decodeLowerHex operand.replacementHex = .ok replacement ∧
    replacement ≠ [] ∧ replacement.length ≤ MAX_EXACT_OVERWRITE_REPLACEMENT_BYTES ∧
    digestBytes C replacement = operand.replacementSha256

/-- The snapshot names the file by its identity and its path. -/
def Targets (operand : ExactOverwriteOperand) (targets : List CanonicalValue) : Prop :=
  targets.length = 2 ∧ ([operand.targetIdentity, operand.targetPath].all fun expected =>
    targets.any (names expected)) = true

theorem parse_stored {N : Normalization} {s : Text} {v : CanonicalValue}
    (read : parseStrictJson N s = .ok v) : Stored N 32 (toTree v) := by
  obtain ⟨-, t, -, fits, rfl⟩ := parseStrictJson_ok.mp read
  exact fits_stored fits

theorem object_sorted {N : Normalization} {n : Nat} {es : List (Text × CanonicalValue)}
    (here : Stored N n (toTree (.object es))) : Entries.Sorted es := by
  obtain ⟨kept, -⟩ := Json.everywhere.mp here.2
  have sorted := kept.2.2
  rw [entryTrees_map] at sorted
  simpa only [Entries.Sorted, Entries.keys, List.map_map, Function.comp_def] using sorted

theorem object_entry {N : Normalization} {n : Nat} {es : List (Text × CanonicalValue)}
    {e : Text × CanonicalValue} (here : Stored N (n + 1) (toTree (.object es))) (member : e ∈ es) :
    Stored N n (toTree e.2) := by
  have inside := (stored_iff.mp here).2
  apply inside
  simp only [toTree, entryTrees_map, Json.children, List.map_map, List.mem_map]
  exact ⟨e, member, rfl⟩

theorem canonicalString_ok {object : List (Text × CanonicalValue)} {key : String} {value : Text}
    (read : canonicalString object key = .ok value) :
    (key.toList, .string value) ∈ object ∧ trimChars value ≠ [] := by
  unfold canonicalString at read
  split at read
  · rename_i found
    split at read
    · rename_i visible
      cases read
      exact ⟨Entries.mem_of_lookup found, visible⟩
    · cases read
  · cases read

theorem canonicalValueObject_ok {label : String} {value : CanonicalValue}
    {entries : List (Text × CanonicalValue)}
    (read : canonicalValueObject label value = .ok entries) : value = .object entries := by
  cases value <;> simp_all [canonicalValueObject]

theorem snapshotTargets_ok {value : Option CanonicalValue} {targets : List CanonicalValue}
    (read : snapshotTargets value = .ok targets) :
    value = some (.object [("targets".toList, .array targets)]) := by
  unfold snapshotTargets at read
  split at read
  · rename_i snapshot
    split at read
    · rename_i single
      split at read
      · rename_i found
        cases read
        obtain ⟨entry, rfl⟩ := List.length_eq_one_iff.mp single
        have same := List.mem_singleton.mp (Entries.mem_of_lookup found)
        rw [← same]
      · cases read
    · cases read
  · cases read

theorem operands_sorted (operand : ExactOverwriteOperand) :
    Entries.Sorted (operandsEntries operand) := by
  have order : (["contract_version".toList, "expected_preimage_sha256".toList,
      "replacement_hex".toList, "replacement_sha256".toList, "target_identity".toList,
      "target_path".toList] : List Text).Pairwise (· < ·) := by decide
  exact order

theorem payload_sorted (operand : ExactOverwriteOperand) (targets : List CanonicalValue) :
    Entries.Sorted (payloadEntries operand targets) := by
  have order : (["material_digest".toList, "operands".toList, "target_snapshot".toList] :
      List Text).Pairwise (· < ·) := by decide
  exact order

variable {C : Crates}

/-- The checks leave no room: an accepted payload is the one that holds its operands. -/
theorem parse_inverts {payloadJson : Text} {operands : ExactOverwriteOperands}
    (read : parseExactOverwritePayload C payloadJson = .ok operands) :
    ∃ operand targets,
      parseStrictJson C.normalization payloadJson = .ok (payloadValue operand targets) ∧
      writeValue (payloadValue operand targets) = payloadJson ∧ operands = stored operand ∧
      Accepted C operand ∧ Targets operand targets := by
  simp only [parseExactOverwritePayload, bind_ok] at read
  obtain ⟨payload, parsed, read⟩ := read
  split at read
  · cases read
  rename_i canonical
  simp only [bind_ok] at read
  obtain ⟨entries, object, read⟩ := read
  cases canonicalValueObject_ok object
  split at read
  · cases read
  rename_i three
  simp only [bind_ok, present_ok] at read
  obtain ⟨inner, found, fields, innerObject, read⟩ := read
  cases canonicalValueObject_ok innerObject
  obtain ⟨path, pathRead, identity, identityRead, preimage, preimageRead, read⟩ := read
  obtain ⟨replacement, replacementRead, hex, hexRead, contract, contractRead, read⟩ := read
  split at read
  · cases read
  rename_i six
  simp only [bind_ok] at read
  obtain ⟨_, preimageHex, _, replacementHex, bytes, decoded, read⟩ := read
  split at read
  · cases read
  rename_i bounded
  simp only [bind_ok] at read
  obtain ⟨digest, digestRead, read⟩ := read
  split at read
  · cases read
  rename_i material
  simp only [bind_ok] at read
  obtain ⟨targets, targetsRead, read⟩ := read
  split at read
  · cases read
  rename_i snapshot
  cases read
  simp only [not_or, not_not, Nat.not_lt, Bool.not_eq_false] at canonical three six bounded material snapshot
  have kept := parse_stored parsed
  have held := Entries.mem_of_lookup found
  let operand : ExactOverwriteOperand := ⟨contract, path, identity, preimage, hex, replacement⟩
  have inside : fields = operandsEntries operand := by
    refine Entries.eq_of_subset (object_sorted (object_entry kept held)) (operands_sorted operand) six.1 ?_
    intro f member
    simp only [operandsEntries, List.mem_cons, List.not_mem_nil, or_false, operand] at member
    rcases member with rfl | rfl | rfl | rfl | rfl | rfl
    · exact (canonicalString_ok contractRead).1
    · exact (canonicalString_ok preimageRead).1
    · exact (canonicalString_ok hexRead).1
    · exact (canonicalString_ok replacementRead).1
    · exact (canonicalString_ok identityRead).1
    · exact (canonicalString_ok pathRead).1
  obtain ⟨replacementValid, replacementRest⟩ := requireSha256Hex_ok replacementHex
  have outside : entries = payloadEntries operand targets := by
    refine Entries.eq_of_subset (object_sorted kept) (payload_sorted operand targets) three ?_
    intro f member
    simp only [payloadEntries, List.mem_cons, List.not_mem_nil, or_false] at member
    rcases member with rfl | rfl | rfl
    · have same : replacement.drop 7 = digest := by
        rw [replacementRest] at material
        exact Option.some.inj material
      unfold materialDigest at digestRead
      split at digestRead
      · rename_i value here
        cases digestRead
        rw [show operand.replacementSha256 = replacement from rfl, same]
        exact Entries.mem_of_lookup here
      · cases digestRead
    · rw [← inside]
      exact held
    · exact Entries.mem_of_lookup (snapshotTargets_ok targetsRead)
  subst outside
  refine ⟨operand, targets, parsed, canonical, rfl, ?_, snapshot.1, snapshot.2⟩
  exact {
    contract := six.2
    path := (canonicalString_ok pathRead).2
    identity := (canonicalString_ok identityRead).2
    preimage := (requireSha256Hex_ok preimageHex).1
    replacement := replacementValid
    hex := (canonicalString_ok hexRead).2
    bytes := ⟨bytes, decoded, bounded.1, bounded.2.1, bounded.2.2⟩ }

theorem canonicalString_read {object : List (Text × CanonicalValue)} {key : String} {value : Text}
    (found : object.lookup key.toList = some (.string value)) (visible : trimChars value ≠ []) :
    canonicalString object key = .ok value := by
  rw [canonicalString, found]
  exact if_pos visible

theorem visible_of_mem {text : Text} {c : Char} (member : c ∈ text)
    (visible : isWhitespace c = false) : trimChars text ≠ [] := by
  intro blank
  have kept := mem_trimChars member visible
  rw [blank] at kept
  cases kept

theorem digest_visible {value : Text} (valid : validDigest value = true) :
    trimChars value ≠ [] := by
  simp only [validDigest, Bool.and_eq_true] at valid
  obtain ⟨rest, rfl⟩ := List.isPrefixOf_iff_prefix.mp valid.1.2
  apply @visible_of_mem _ 's'
  · simp
  · decide

/-- A payload that holds its operands and passes their checks is accepted. -/
theorem parse_accepts {payloadJson : Text} {operand : ExactOverwriteOperand}
    {targets : List CanonicalValue}
    (parsed : parseStrictJson C.normalization payloadJson = .ok (payloadValue operand targets))
    (canonical : writeValue (payloadValue operand targets) = payloadJson)
    (accepted : Accepted C operand) (snapshot : Targets operand targets) :
    parseExactOverwritePayload C payloadJson = .ok (stored operand) := by
  obtain ⟨contract, path, identity, preimage, replacement, hex, bytes, decoded, some, short, digest⟩ :=
    accepted
  have contractVisible : trimChars operand.contractVersion ≠ [] := by
    rw [contract]
    decide
  have labelled : "sha256:".toList.isPrefixOf operand.replacementSha256 = true := by
    simp only [validDigest, Bool.and_eq_true] at replacement
    exact replacement.1.2
  have after : afterLabel "sha256:".toList operand.replacementSha256 =
      Option.some (operand.replacementSha256.drop 7) := if_pos labelled
  have field {key : String} {value : Text} (found : (operandsEntries operand).lookup key.toList =
      Option.some (.string value)) (visible : trimChars value ≠ []) :
      canonicalString (operandsEntries operand) key = .ok value := canonicalString_read found visible
  have six : ¬ ((operandsEntries operand).length ≠ 6 ∨
      operand.contractVersion ≠ EXACT_OVERWRITE_OPERAND_CONTRACT) := by
    simp [operandsEntries, contract]
  have bounded : ¬ (bytes = [] ∨ bytes.length > MAX_EXACT_OVERWRITE_REPLACEMENT_BYTES ∨
      "sha256:".toList ++ (C.sha256 bytes).val ≠ operand.replacementSha256) := by
    rintro (none | long | other)
    · exact some none
    · exact absurd short (Nat.not_le.mpr long)
    · exact other digest
  have held : (payloadEntries operand targets).lookup "operands".toList =
      Option.some (.object (operandsEntries operand)) := rfl
  have material : materialDigest ((payloadEntries operand targets).lookup "material_digest".toList) =
      .ok (operand.replacementSha256.drop 7) := rfl
  have named : snapshotTargets ((payloadEntries operand targets).lookup "target_snapshot".toList) =
      .ok targets := rfl
  have complete : ¬ (targets.length ≠ 2 ∨ ([operand.targetIdentity, operand.targetPath].all
      fun expected => targets.any (names expected)) = false) := by
    rintro (size | missing)
    · exact size snapshot.1
    · rw [snapshot.2] at missing
      cases missing
  rw [parseExactOverwritePayload, parsed, ok_bind, if_neg (not_not.mpr canonical), payloadValue,
    canonicalValueObject, ok_bind, if_neg (by simp [payloadEntries]), held, present, ok_bind,
    canonicalValueObject, ok_bind, field rfl path, ok_bind, field rfl identity, ok_bind,
    field rfl (digest_visible preimage), ok_bind, field rfl (digest_visible replacement), ok_bind, field rfl hex, ok_bind,
    field rfl contractVisible, ok_bind, if_neg six, requireSha256Hex_valid preimage, ok_bind,
    requireSha256Hex_valid replacement, ok_bind, decoded, ok_bind, if_neg bounded, material,
    ok_bind, if_neg (not_not.mpr after), named, ok_bind, if_neg complete]
  rfl

end CarsinOS.Overwrite
