import CarsinOS.Recorder.Request

/-! The exact-overwrite adapter of the recorder: the operands it takes, the key and the digest it
derives from them, and its checks against the file. -/
namespace CarsinOS.Recorder
open CarsinOS.Lib

def EXACT_OVERWRITE_PROVIDER_VERSION : Text := "v1".toList
def EXACT_OVERWRITE_ADAPTER_IDENTITY : Text := "carsinos.effect-recorder.exact-overwrite.v1".toList
def EXACT_OVERWRITE_OPERAND_CONTRACT : Text :=
  "carsinos.local-fs.exact-overwrite.operand.v1".toList
def EXACT_OVERWRITE_RECONCILIATION_CONTRACT : Text :=
  "carsinos.local-fs.exact-overwrite.reconciliation.v1".toList
def EXACT_OVERWRITE_ADAPTER_ARTIFACT_DIGEST : Text :=
  "sha256:ca57c48273a5dbcf8627d893612e56c2bff85d5e895f2c81e89156cedc90c72e".toList
def EXACT_OVERWRITE_MAX_REPLACEMENT_BYTES : Nat := 4096

structure OpaqueOperandEnvelope where
  nonSecret : Json
  secretHandles : List OpaqueSecretHandle

structure ExactOverwriteOperand where
  contractVersion : Text
  targetPath : Text
  targetIdentity : Text
  expectedPreimageSha256 : Text
  replacementHex : Text
  replacementSha256 : Text
deriving DecidableEq

structure ExactOverwriteReconciliationKey where
  contractVersion : Text
  targetPath : Text
  targetIdentity : Text
  expectedPreimageSha256 : Text
  replacementSha256 : Text

structure ExactOverwriteMaterial where
  operandEnvelope : OpaqueOperandEnvelope
  payloadDigest : Text
  reconciliationKey : Text
  reconciliationKeyDigest : Text

/-! What `serde_json` makes of these, and back. -/

def handleTree (handle : OpaqueSecretHandle) : Json :=
  .obj [
    ("version".toList, integer handle.version),
    ("backend".toList, .str handle.backend),
    ("opaque_id".toList, .str handle.opaqueId),
    ("purpose".toList, .str handle.purpose),
    ("capability_class".toList, .str handle.capabilityClass)]

def envelopeTree (envelope : OpaqueOperandEnvelope) : Json :=
  .obj [
    ("non_secret".toList, envelope.nonSecret),
    ("secret_handles".toList, .arr (envelope.secretHandles.map handleTree))]

def operandTree (operand : ExactOverwriteOperand) : Json :=
  .obj [
    ("contract_version".toList, .str operand.contractVersion),
    ("target_path".toList, .str operand.targetPath),
    ("target_identity".toList, .str operand.targetIdentity),
    ("expected_preimage_sha256".toList, .str operand.expectedPreimageSha256),
    ("replacement_hex".toList, .str operand.replacementHex),
    ("replacement_sha256".toList, .str operand.replacementSha256)]

def keyTree (key : ExactOverwriteReconciliationKey) : Json :=
  .obj [
    ("contract_version".toList, .str key.contractVersion),
    ("target_path".toList, .str key.targetPath),
    ("target_identity".toList, .str key.targetIdentity),
    ("expected_preimage_sha256".toList, .str key.expectedPreimageSha256),
    ("replacement_sha256".toList, .str key.replacementSha256)]

def operandNames : List Text := [
  "contract_version".toList, "target_path".toList, "target_identity".toList,
  "expected_preimage_sha256".toList, "replacement_hex".toList, "replacement_sha256".toList]

def textField (fields : List (Text × Json)) (name : String) : Option Text :=
  match fields.lookup name.toList with
  | some (.str value) => some value
  | _ => none

/-- The operands of an object that has no other field, or of the row of their values. -/
def operandOfTree : Json → Option ExactOverwriteOperand
  | .obj fields =>
    if fields.all fun field => field.1 ∈ operandNames then do
      let contractVersion ← textField fields "contract_version"
      let targetPath ← textField fields "target_path"
      let targetIdentity ← textField fields "target_identity"
      let expectedPreimageSha256 ← textField fields "expected_preimage_sha256"
      let replacementHex ← textField fields "replacement_hex"
      let replacementSha256 ← textField fields "replacement_sha256"
      some { contractVersion, targetPath, targetIdentity, expectedPreimageSha256, replacementHex,
             replacementSha256 }
    else none
  | .arr [.str contractVersion, .str targetPath, .str targetIdentity,
      .str expectedPreimageSha256, .str replacementHex, .str replacementSha256] =>
    some { contractVersion, targetPath, targetIdentity, expectedPreimageSha256, replacementHex,
           replacementSha256 }
  | _ => none

/-! Paths and files. -/

structure Metadata where
  isSymlink : Bool
  isFile : Bool
  isReparsePoint : Bool

/-- What the operating system tells a file apart by. -/
inductive FileId where
  | unix (dev ino : UInt64)
  | windows (volumeSerialNumber : UInt32) (index : UInt64)

structure OpenFile where
  metadata : Anyhow Metadata
  id : Anyhow FileId
  content : Anyhow (List UInt8)

/-- The paths of the standard library and the files of the host. A canonical path is absolute,
and so is a file name below an absolute path; an absolute path is not blank. -/
structure Files where
  Path : Type
  ofText : Text → Path
  toText : Path → Option Text
  isAbsolute : Path → Bool
  fileName : Path → Option Path
  parent : Path → Option Path
  join : Path → Path → Path
  canonicalize : Path → Anyhow Path
  symlinkMetadata : Path → Anyhow Metadata
  openNoFollow : Path → Anyhow OpenFile
  canonicalize_absolute : ∀ path resolved, canonicalize path = .ok resolved →
    isAbsolute resolved = true
  join_absolute : ∀ directory path name, isAbsolute directory = true →
    fileName path = some name → isAbsolute (join directory name) = true
  absolute_visible : ∀ path text, isAbsolute path = true → toText path = some text →
    trimChars text ≠ []

def present {α : Type} (message : String) : Option α → Anyhow α
  | some a => .ok a
  | none => bail message

theorem present_ok {α : Type} {message : String} {x : Option α} {a : α} :
    present message x = .ok a ↔ x = some a := by
  cases x <;> simp [present]

def rejectPathMetadata (metadata : Metadata) : Anyhow Unit :=
  if metadata.isSymlink ∨ metadata.isFile = false then
    bail "exact-overwrite target is not a no-follow regular file"
  else if metadata.isReparsePoint then bail "exact-overwrite target is a reparse point"
  else .ok ()

def checkedFileMetadata (file : OpenFile) : Anyhow Metadata := do
  let metadata ← file.metadata
  rejectPathMetadata metadata
  .ok metadata

/-- The numbers are written with all their hexadecimal digits. -/
def FileId.text : FileId → Text
  | .unix dev ino =>
    "unix-device:".toList ++ (Sha256.hex (bigEndian dev.toNat 8) ++
      (":inode:".toList ++ Sha256.hex (bigEndian ino.toNat 8)))
  | .windows volumeSerialNumber index =>
    "windows-volume:".toList ++ (Sha256.hex (bigEndian volumeSerialNumber.toNat 4) ++
      (":file:".toList ++ Sha256.hex (bigEndian index.toNat 8)))

def fileIdentity (file : OpenFile) : Anyhow Text := do
  let id ← file.id
  .ok id.text

section Targets
variable (F : Files)

def pathText (path : F.Path) : Anyhow Text :=
  present "exact-overwrite target path is not UTF-8" (F.toText path)

def canonicalExactOverwriteTarget (target : F.Path) : Anyhow F.Path :=
  if F.isAbsolute target = false then bail "exact-overwrite target must be absolute"
  else do
    let fileName ← present "exact-overwrite target must name one file" (F.fileName target)
    let parent ← present "exact-overwrite target has no parent" (F.parent target)
    let canonicalParent ← F.canonicalize parent
    let resolved := F.join canonicalParent fileName
    let metadata ← F.symlinkMetadata resolved
    rejectPathMetadata metadata
    let file ← F.openNoFollow resolved
    let _ ← checkedFileMetadata file
    .ok resolved

def exactOverwriteTargetIdentity (target : F.Path) : Anyhow Text := do
  let target ← canonicalExactOverwriteTarget F target
  let file ← F.openNoFollow target
  let _ ← checkedFileMetadata file
  fileIdentity file

end Targets

/-! Digests and replacement bytes. -/

def isLowerHex (c : Char) : Bool := ('0' ≤ c && c ≤ '9') || ('a' ≤ c && c ≤ 'f')

def validDigest (value : Text) : Bool :=
  utf8Length value = 71 && "sha256:".toList.isPrefixOf value && (value.drop 7).all isLowerHex

def isLowerHexByte (byte : UInt8) : Bool := (48 ≤ byte && byte ≤ 57) || (97 ≤ byte && byte ≤ 102)

def u8OfInt? (i : Int) : Option UInt8 :=
  if 0 ≤ i ∧ i < 256 then some (UInt8.ofNat i.toNat) else none

/-- `u8::from_str_radix` of two ASCII digits. -/
def byteOfPair (high low : UInt8) : Except String UInt8 :=
  fromStrRadix 16 false u8OfInt? [Char.ofNat high.toNat, Char.ofNat low.toNat]

def hexChunks : List UInt8 → Anyhow (List UInt8)
  | high :: low :: rest => do
    let byte ← (byteOfPair high low).mapError fun error => [error]
    let bytes ← hexChunks rest
    .ok (byte :: bytes)
  | _ => .ok []

def decodeLowerHex (value : Text) : Anyhow (List UInt8) :=
  if utf8Length value % 2 ≠ 0 ∨ utf8Length value > EXACT_OVERWRITE_MAX_REPLACEMENT_BYTES * 2 ∨
      ((utf8Bytes value).any fun byte => !isLowerHexByte byte) = true then
    bail "replacement hex is not bounded canonical lowercase hex"
  else hexChunks (utf8Bytes value)

def validateReplacement (replacement : List UInt8) : Anyhow Unit :=
  if replacement = [] ∨ replacement.length > EXACT_OVERWRITE_MAX_REPLACEMENT_BYTES then
    bail "exact-overwrite replacement is empty or exceeds the fixed bound"
  else .ok ()

section Material
variable (C : Crates) (F : Files)

def digestBytes (bytes : List UInt8) : Text := "sha256:".toList ++ (C.sha256 bytes).val

def hashOpenFile (file : OpenFile) : Anyhow Text := do
  let content ← file.content
  .ok (digestBytes C content)

def exactOverwritePayloadDigest (envelope : OpaqueOperandEnvelope) : Text :=
  digestBytes C (canonicalJsonBytes (envelopeTree envelope))

/-- The canonical bytes of the key, which are UTF-8. -/
def exactOverwriteReconciliationKey (operand : ExactOverwriteOperand) : Text :=
  (canonicalize (keyTree {
    contractVersion := EXACT_OVERWRITE_RECONCILIATION_CONTRACT
    targetPath := operand.targetPath
    targetIdentity := operand.targetIdentity
    expectedPreimageSha256 := operand.expectedPreimageSha256
    replacementSha256 := operand.replacementSha256 })).print

def materialFromOperand (operand : ExactOverwriteOperand) : ExactOverwriteMaterial :=
  let reconciliationKey := exactOverwriteReconciliationKey operand
  let operandEnvelope : OpaqueOperandEnvelope := ⟨operandTree operand, []⟩
  { operandEnvelope
    payloadDigest := exactOverwritePayloadDigest C operandEnvelope
    reconciliationKey
    reconciliationKeyDigest := digestBytes C (utf8Bytes reconciliationKey) }

def buildExactOverwriteMaterial (target : F.Path) (replacement : List UInt8) :
    Anyhow ExactOverwriteMaterial := do
  validateReplacement replacement
  let targetPath ← canonicalExactOverwriteTarget F target
  let file ← F.openNoFollow targetPath
  let _ ← checkedFileMetadata file
  let targetIdentity ← fileIdentity file
  let expectedPreimageSha256 ← hashOpenFile C file
  let replacementSha256 := digestBytes C replacement
  if expectedPreimageSha256 = replacementSha256 then
    bail "replacement must differ from the exact preimage"
  else do
    let targetPath ← pathText F targetPath
    .ok (materialFromOperand C {
      contractVersion := EXACT_OVERWRITE_OPERAND_CONTRACT
      targetPath
      targetIdentity
      expectedPreimageSha256
      replacementHex := Sha256.hex replacement
      replacementSha256 })

def validateOperand (operand : ExactOverwriteOperand) : Anyhow Unit :=
  if operand.contractVersion ≠ EXACT_OVERWRITE_OPERAND_CONTRACT ∨
      validDigest operand.expectedPreimageSha256 = false ∨
      validDigest operand.replacementSha256 = false ∨
      operand.expectedPreimageSha256 = operand.replacementSha256 then
    bail "invalid exact-overwrite operand contract"
  else
    let target := F.ofText operand.targetPath
    if F.isAbsolute target = false then
      bail "exact-overwrite target is not the canonical absolute path"
    else do
      let resolved ← canonicalExactOverwriteTarget F target
      let path ← pathText F resolved
      if path ≠ operand.targetPath then
        bail "exact-overwrite target is not the canonical absolute path"
      else .ok ()

structure ValidatedExactOverwrite where
  operand : ExactOverwriteOperand
  replacement : List UInt8
  reconciliationKey : Text

/-- `validated_command` for a command that carries this operand envelope. -/
def validatedCommand (command : ExecuteOnce) (envelope : OpaqueOperandEnvelope) :
    Anyhow ValidatedExactOverwrite :=
  if command.providerIdentity ≠ EXACT_OVERWRITE_PROVIDER ∨
      command.providerVersion ≠ EXACT_OVERWRITE_PROVIDER_VERSION ∨
      command.adapterIdentity ≠ EXACT_OVERWRITE_ADAPTER_IDENTITY ∨
      command.adapterArtifactDigest ≠ EXACT_OVERWRITE_ADAPTER_ARTIFACT_DIGEST ∨
      command.providerIdempotencyKey.isSome ∨ envelope.secretHandles ≠ [] then
    bail "exact-overwrite fixed identity does not match"
  else do
    let operand ← present "invalid exact-overwrite operand" (operandOfTree envelope.nonSecret)
    validateOperand F operand
    let replacement ← decodeLowerHex operand.replacementHex
    validateReplacement replacement
    if digestBytes C replacement ≠ operand.replacementSha256 ∨
        exactOverwritePayloadDigest C envelope ≠ command.payloadDigest then
      bail "exact-overwrite replacement or envelope digest does not match"
    else
      let reconciliationKey := exactOverwriteReconciliationKey operand
      if command.reconciliationKey ≠ some reconciliationKey then
        bail "exact-overwrite reconciliation key does not match operands"
      else .ok { operand, replacement, reconciliationKey }

end Material
end CarsinOS.Recorder
