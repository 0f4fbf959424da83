import CarsinOS.Canonical.Stored
import CarsinOS.Recorder.ExactOverwrite

/-! The exact-overwrite payload of the storage crate: what is accepted of an owner's payload, and
the key and the digest that are stored for it. -/
namespace CarsinOS.Overwrite
open CarsinOS.Lib CarsinOS.Canonical
open CarsinOS.Recorder (OpaqueOperandEnvelope present EXACT_OVERWRITE_OPERAND_CONTRACT
  EXACT_OVERWRITE_RECONCILIATION_CONTRACT canonicalJsonBytes envelopeTree digestBytes)

def MAX_EXACT_OVERWRITE_REPLACEMENT_BYTES : Nat := 4096

structure ExactOverwriteOperands where
  targetPath : Text
  targetIdentity : Text
  expectedPreimageSha256 : Text
  replacementSha256 : Text

def canonicalValueObject (label : String) : CanonicalValue → Anyhow (List (Text × CanonicalValue))
  | .object entries => .ok entries
  | _ => bail s!"{label} must be a canonical JSON object"

def canonicalString (object : List (Text × CanonicalValue)) (key : String) : Anyhow Text :=
  match object.lookup key.toList with
  | some (.string value) =>
    if trimChars value ≠ [] then .ok value
    else bail s!"exact-overwrite canonical operands require nonempty {key}"
  | _ => bail s!"exact-overwrite canonical operands require nonempty {key}"

/-- `str::strip_prefix`. -/
def afterLabel (label value : Text) : Option Text :=
  if label.isPrefixOf value then some (value.drop label.length) else none

def isUpper (c : Char) : Bool := 'A' ≤ c && c ≤ 'Z'

def requireSha256Hex (label : String) (value : Text) : Anyhow Unit :=
  match afterLabel "sha256:".toList value with
  | none => bail s!"exact-overwrite {label} must use sha256:<lowercase hex>"
  | some value =>
    if utf8Length value ≠ 64 ∨ value.all (fun c => isAsciiHexdigit c && !isUpper c) = false then
      bail s!"exact-overwrite {label} must be lowercase SHA-256 hex"
    else .ok ()

def nibble (byte : UInt8) : Option UInt8 :=
  if 48 ≤ byte && byte ≤ 57 then some (byte - 48)
  else if 97 ≤ byte && byte ≤ 102 then some (byte - 97 + 10)
  else none

def decodePairs : List UInt8 → Anyhow (List UInt8)
  | first :: second :: rest => do
    let high ← present "exact-overwrite replacement_hex is not lowercase hex" (nibble first)
    let low ← present "exact-overwrite replacement_hex is not lowercase hex" (nibble second)
    let bytes ← decodePairs rest
    .ok (((high <<< 4) ||| low) :: bytes)
  | _ => .ok []

def decodeLowerHex (value : Text) : Anyhow (List UInt8) :=
  if utf8Length value % 2 ≠ 0 then bail "exact-overwrite replacement_hex has odd length"
  else decodePairs (utf8Bytes value)

def materialDigest : Option CanonicalValue → Anyhow Text
  | some (.string value) => .ok value
  | _ => bail "exact-overwrite payload requires its replacement material digest"

def snapshotTargets : Option CanonicalValue → Anyhow (List CanonicalValue)
  | some (.object snapshot) =>
    if snapshot.length = 1 then
      match snapshot.lookup "targets".toList with
      | some (.array targets) => .ok targets
      | _ => bail "exact-overwrite target snapshot has no canonical targets"
    else bail "exact-overwrite payload has no canonical target snapshot"
  | _ => bail "exact-overwrite payload has no canonical target snapshot"

def names (expected : Text) : CanonicalValue → Bool
  | .string actual => actual = expected
  | _ => false

section Payload
variable (C : Crates) (S : SerdeJson)

def parseExactOverwritePayload (payloadJson : Text) : Anyhow ExactOverwriteOperands := do
  let payload ← parseStrictJson C.normalization payloadJson
  if writeValue payload ≠ payloadJson then bail "exact-overwrite payload is not canonical JSON"
  else do
    let payload ← canonicalValueObject "exact-overwrite payload" payload
    if payload.length ≠ 3 then bail "exact-overwrite payload has an unexpected field set"
    else do
      let operands ← present "exact-overwrite payload has no operands"
        (payload.lookup "operands".toList)
      let operands ← canonicalValueObject "exact-overwrite operands" operands
      let targetPath ← canonicalString operands "target_path"
      let targetIdentity ← canonicalString operands "target_identity"
      let expectedPreimageSha256 ← canonicalString operands "expected_preimage_sha256"
      let replacementSha256 ← canonicalString operands "replacement_sha256"
      let replacementHex ← canonicalString operands "replacement_hex"
      let contractVersion ← canonicalString operands "contract_version"
      if operands.length ≠ 6 ∨ contractVersion ≠ EXACT_OVERWRITE_OPERAND_CONTRACT then
        bail "exact-overwrite canonical operands have an unexpected field set"
      else do
        requireSha256Hex "expected preimage digest" expectedPreimageSha256
        requireSha256Hex "replacement digest" replacementSha256
        let replacement ← decodeLowerHex replacementHex
        if replacement = [] ∨ replacement.length > MAX_EXACT_OVERWRITE_REPLACEMENT_BYTES ∨
            "sha256:".toList ++ (C.sha256 replacement).val ≠ replacementSha256 then
          bail "exact-overwrite replacement bytes do not match their bounded digest"
        else do
          let digest ← materialDigest (payload.lookup "material_digest".toList)
          if afterLabel "sha256:".toList replacementSha256 ≠ some digest then
            bail "exact-overwrite material digest is not the replacement digest"
          else do
            let targets ← snapshotTargets (payload.lookup "target_snapshot".toList)
            if targets.length ≠ 2 ∨ ([targetIdentity, targetPath].all fun expected =>
                targets.any (names expected)) = false then
              bail "exact-overwrite target snapshot is not the exact path and stable identity"
            else .ok { targetPath, targetIdentity, expectedPreimageSha256, replacementSha256 }

/-! `serde_json` reads a text into a value: the members of an object are put into an ordered
map. -/
mutual
def valueOf : Json → Json
  | .arr items => .arr (itemValues items)
  | .obj fields => .obj (Entries.insertAll [] (fieldValues fields))
  | other => other

def itemValues : List Json → List Json
  | [] => []
  | item :: items => valueOf item :: itemValues items

def fieldValues : List (Text × Json) → List (Text × Json)
  | [] => []
  | (name, value) :: fields => (name, valueOf value) :: fieldValues fields
end

def exactOverwriteOperandEnvelope (payloadJson : Text) : Anyhow OpaqueOperandEnvelope := do
  let payload ← parseStrictJson C.normalization payloadJson
  if writeValue payload ≠ payloadJson then bail "exact-overwrite payload is not canonical JSON"
  else do
    let payload ← canonicalValueObject "exact-overwrite payload" payload
    let operands ← present "exact-overwrite payload has no operands"
      (payload.lookup "operands".toList)
    let tree ← present "invalid JSON" (S.read (writeValue operands))
    .ok ⟨valueOf tree, []⟩

def exactOverwriteEnvelopePayloadDigest (payloadJson : Text) : Anyhow Text := do
  let envelope ← exactOverwriteOperandEnvelope C S payloadJson
  .ok ("sha256:".toList ++ (C.sha256 (canonicalJsonBytes (envelopeTree envelope))).val)

def exactOverwriteReconciliationKey (operands : ExactOverwriteOperands) : Anyhow Text := do
  let value ← CanonicalValue.ofEntries C.normalization [
    ("contract_version".toList,
      .ofStr C.normalization EXACT_OVERWRITE_RECONCILIATION_CONTRACT),
    ("expected_preimage_sha256".toList,
      .ofStr C.normalization operands.expectedPreimageSha256),
    ("replacement_sha256".toList, .ofStr C.normalization operands.replacementSha256),
    ("target_identity".toList, .ofStr C.normalization operands.targetIdentity),
    ("target_path".toList, .ofStr C.normalization operands.targetPath)]
  .ok (writeValue value)

end Payload
end CarsinOS.Overwrite
