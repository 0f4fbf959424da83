import CarsinOS.Canonical.NormalForm
import CarsinOS.Lib.Base64
import CarsinOS.Lib.Replace
import CarsinOS.Lib.Sha256

/-! Redaction before receipts are stored: the forms a registered secret is looked for in, the
texts and values that are redacted and the scan of the bytes of a receipt. -/
namespace CarsinOS.Receipt
open CarsinOS.Lib CarsinOS.Canonical

/-- What redaction takes from elsewhere: the built-in patterns, which the `regex` crate replaces,
and the lower case of a character. -/
structure RedactionCrates where
  redactBuiltinSecretPatterns : Text → Text
  toLowercase : Char → Text

def REDACTED : Text := ['[', 'R', 'E', 'D', 'A', 'C', 'T', 'E', 'D', ']']

def MAX_TEXT_BYTES : Nat := 64 * 1024

def MAX_SUMMARY_BYTES : Nat := 2 * 1024

def unsafeContent : String := "sensitive content could not be stored safely"

/-! The encoded forms of a secret. -/

def hexByte (upper : Bool) (byte : UInt8) : Text :=
  let digit (n : Nat) : Char :=
    if upper then (Sha256.hexDigit n).toUpper else Sha256.hexDigit n
  [digit (byte.toNat / 16), digit (byte.toNat % 16)]

def hex (bytes : List UInt8) (upper : Bool) : Text := bytes.flatMap (hexByte upper)

def isUnreserved (byte : UInt8) : Bool :=
  let c := Char.ofNat byte.toNat
  byte < 128 && (c.isAlphanum || c = '-' || c = '.' || c = '_' || c = '~')

def percentByte (upper : Bool) (byte : UInt8) : Text := '%' :: hexByte upper byte

def percent (bytes : List UInt8) (upper : Bool) : Text :=
  bytes.flatMap fun byte =>
    if isUnreserved byte then [Char.ofNat byte.toNat] else percentByte upper byte

def percentAll (bytes : List UInt8) (upper : Bool) : Text := bytes.flatMap (percentByte upper)

def quotePlus (bytes : List UInt8) : Text :=
  bytes.flatMap fun byte =>
    if byte = 32 then ['+']
    else if isUnreserved byte then [Char.ofNat byte.toNat]
    else percentByte true byte

/-- `str::encode_utf16`. -/
def encodeUtf16 (text : Text) : List Nat :=
  text.flatMap fun c =>
    if c.toNat < 0x10000 then [c.toNat]
    else [0xD800 + (c.toNat - 0x10000) / 0x400, 0xDC00 + (c.toNat - 0x10000) % 0x400]

def toLeBytes (unit : Nat) : List UInt8 := [UInt8.ofNat unit, UInt8.ofNat (unit / 256)]

def toBeBytes (unit : Nat) : List UInt8 := [UInt8.ofNat (unit / 256), UInt8.ofNat unit]

def encodedForms (bytes : List UInt8) : List (List UInt8) := [
  bytes,
  utf8Bytes (hex bytes false),
  utf8Bytes (hex bytes true),
  utf8Bytes (Base64.encode false true bytes),
  utf8Bytes (Base64.encode false false bytes),
  utf8Bytes (Base64.encode true true bytes),
  utf8Bytes (Base64.encode true false bytes)]

def secretVariants (secret : Text) : List (List UInt8) :=
  let bytes := utf8Bytes secret
  let percentUpper := utf8Bytes (percent bytes true)
  let utf16le := (encodeUtf16 secret).flatMap toLeBytes
  let utf16be := (encodeUtf16 secret).flatMap toBeBytes
  encodedForms bytes ++ [
    percentUpper,
    utf8Bytes (percent bytes false),
    utf8Bytes (percentAll bytes true),
    utf8Bytes (percentAll bytes false),
    utf8Bytes (quotePlus bytes),
    utf8Bytes (percent percentUpper true)] ++
  [utf16le, [0xff, 0xfe] ++ utf16le, utf16be, [0xfe, 0xff] ++ utf16be].flatMap encodedForms

/-- `BTreeSet::insert`. -/
def insertBytes (bytes : List UInt8) : List (List UInt8) → List (List UInt8)
  | [] => [bytes]
  | next :: rest =>
    if bytes = next then next :: rest
    else if bytes < next then bytes :: next :: rest
    else next :: insertBytes bytes rest

def knownSecretByteVariants : List Text → Anyhow (List (List UInt8)) :=
  List.foldlM (fun output secret =>
    if utf8Length secret < 4 then bail unsafeContent
    else .ok ((secretVariants secret).foldl (fun output bytes => insertBytes bytes output) output)) []

def containsBytes (haystack needle : List UInt8) : Bool :=
  needle ≠ [] && haystack.tails.any needle.isPrefixOf

/-- `String::from_utf8`. -/
def fromUtf8 (bytes : List UInt8) : Option Text :=
  (String.fromUTF8? bytes.toByteArray).map (·.toList)

section Redaction
variable (C : RedactionCrates)

/-- Longer variants are replaced before shorter ones. -/
def redactText (raw : Text) (knownSecrets : List Text) (limit : Nat) : Anyhow Text :=
  if utf8Length raw > limit then bail unsafeContent
  else do
    let variants ← knownSecretByteVariants knownSecrets
    let variants := (variants.filterMap fromUtf8).insertionSort
      fun first second => utf8Length second ≤ utf8Length first
    let output := variants.foldl
      (fun output variant => if variant = [] then output else replaceAll variant REDACTED output)
      (C.redactBuiltinSecretPatterns raw)
    if utf8Length output > limit then bail unsafeContent
    else .ok output

def deniedKeys : List Text := [
  "authorization".toList, "proxyauthorization".toList, "cookie".toList, "setcookie".toList,
  "token".toList, "accesstoken".toList, "refreshtoken".toList, "idtoken".toList,
  "bearertoken".toList, "apikey".toList, "clientsecret".toList, "secret".toList,
  "password".toList, "passwd".toList, "pwd".toList, "credential".toList, "privatekey".toList,
  "signingkey".toList, "sessionkey".toList, "oauthcode".toList, "authcode".toList,
  "codeverifier".toList, "otp".toList, "recoverycode".toList]

def sensitiveKey (key : Text) : Bool :=
  let normalized := (key.filter fun c => !(c = '_' || c = '-' || c = '.' || c = ' ')).flatMap
    C.toLowercase
  deniedKeys.any fun denied => normalized = denied || denied.isSuffixOf normalized

mutual
def redactValue (secrets : List Text) (depth : Nat) : CanonicalValue → Anyhow CanonicalValue
  | .string value =>
    if depth > 32 then bail unsafeContent
    else do .ok (.string (← redactText C value secrets MAX_TEXT_BYTES))
  | .array values =>
    if depth > 32 then bail unsafeContent
    else if values.length > 1024 then bail unsafeContent
    else do .ok (.array (← redactValues secrets (depth + 1) values))
  | .object entries =>
    if depth > 32 then bail unsafeContent
    else if entries.length > 256 then bail unsafeContent
    else do .ok (.object (← redactEntries secrets (depth + 1) entries))
  | other => if depth > 32 then bail unsafeContent else .ok other

def redactValues (secrets : List Text) (depth : Nat) :
    List CanonicalValue → Anyhow (List CanonicalValue)
  | [] => .ok []
  | value :: values => do
    let value ← redactValue secrets depth value
    let values ← redactValues secrets depth values
    .ok (value :: values)

def redactEntries (secrets : List Text) (depth : Nat) :
    List (Text × CanonicalValue) → Anyhow (List (Text × CanonicalValue))
  | [] => .ok []
  | (key, value) :: entries => do
    let value ← if sensitiveKey C key then .ok (.string REDACTED)
      else redactValue secrets depth value
    let entries ← redactEntries secrets depth entries
    .ok ((key, value) :: entries)
end

/-- The registered secrets: at least one, and each long enough. -/
structure ReceiptRedactor where
  secrets : List Text
  some : secrets ≠ []
  known : ∃ variants, knownSecretByteVariants secrets = .ok variants

namespace ReceiptRedactor
variable (R : ReceiptRedactor)

/-- `SafeText::new` with the registered secrets. -/
def text (raw : Text) : Anyhow Text := redactText C raw R.secrets MAX_TEXT_BYTES

def summary (raw : Text) : Anyhow Text := redactText C raw R.secrets MAX_SUMMARY_BYTES

/-- `SafeJson::from_str` with the registered secrets. -/
def json (N : Normalization) (raw : Text) : Anyhow CanonicalValue :=
  if utf8Length raw > MAX_TEXT_BYTES then bail unsafeContent
  else
    match parseStrictJson N raw with
    | .error _ => bail unsafeContent
    | .ok value => redactValue C R.secrets 0 value

def rejectSensitiveBytes (bytes : List UInt8) : Anyhow Unit := do
  let variants ← knownSecretByteVariants R.secrets
  if variants.any (containsBytes bytes) then bail unsafeContent
  else .ok ()

end ReceiptRedactor
end Redaction
end CarsinOS.Receipt
