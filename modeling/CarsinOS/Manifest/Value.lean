import Mathlib.Data.Char
import Mathlib.Data.List.Sort
import CarsinOS.Crates
import CarsinOS.Lib.Entries

/-! The values, identifiers and digests a leaf manifest is made of. A vector of bytes that is
the UTF-8 encoding of a text is that text here; its length is counted in bytes. -/
namespace CarsinOS.Manifest
open CarsinOS.Lib

def MAX_CANONICAL_VALUE_DEPTH : Nat := 32
def MAX_CANONICAL_ARRAY_ITEMS : Nat := 1024
def MAX_CANONICAL_OBJECT_FIELDS : Nat := 1024
def MAX_CANONICAL_STRING_BYTES : Nat := 16 * 1024
def MAX_CANONICAL_VALUE_BYTES : Nat := 64 * 1024
def MAX_IDENTIFIER_BYTES : Nat := 256

/-- Fields keep the order they were given in. -/
inductive CanonicalValue where
  | null
  | bool (value : Bool)
  | integer (value : I64)
  | string (value : Text)
  | array (values : List CanonicalValue)
  | object (fields : List (Text × CanonicalValue))

structure TargetSnapshotInput where
  targets : List CanonicalValue

structure FrozenBytes where
  bytes : Text
  digest : Sha256Digest
deriving DecidableEq

section Encoding
variable (C : Crates)

def digestBytes (bytes : Text) : Sha256Digest := C.sha256 (utf8Bytes bytes)

def freeze (bytes : Text) : FrozenBytes := ⟨bytes, digestBytes C bytes⟩

theorem toLower_toLower (c : Char) : c.toLower.toLower = c.toLower := by
  unfold Char.toLower
  grind

def parseDigest (value : Text) : Except String Sha256Digest :=
  let value := (trimChars value).map Char.toLower
  if valid : utf8Length value = 64 ∧ value.all isAsciiHexdigit = true then
    .ok ⟨value, valid.1, valid.2, by simp [value, Function.comp_def, toLower_toLower]⟩
  else .error "digest must be a 64-character SHA-256 hex value"

def normalizedIdentifier (value : Text) : Except String Text :=
  let value := C.normalization.nfc (trimChars value)
  if value = [] then .error "value cannot be empty"
  else if utf8Length value > MAX_IDENTIFIER_BYTES then .error "identifier exceeds byte limit"
  else .ok value

def pushJsonString (value : Text) : Text := C.jsonString value

/-- Some neighbours of the list are equal. -/
def hasEqualNeighbours {α : Type} [DecidableEq α] : List α → Bool
  | a :: b :: rest => a = b || hasEqualNeighbours (b :: rest)
  | _ => false

/-- `levels` counts the depths that are still allowed. -/
def canonicalValueInto : Nat → CanonicalValue → Except String Text
  | 0, _ => .error "canonical value exceeds depth limit"
  | _ + 1, .null => .ok "null".toList
  | _ + 1, .bool value => .ok (if value then "true".toList else "false".toList)
  | _ + 1, .integer value => .ok value.toText
  | _ + 1, .string value =>
    if utf8Length value > MAX_CANONICAL_STRING_BYTES then
      .error "canonical string exceeds byte limit"
    else .ok (pushJsonString C value)
  | levels + 1, .array values =>
    if values.length > MAX_CANONICAL_ARRAY_ITEMS then
      .error "canonical array exceeds item limit"
    else do
      let items ← values.mapM (canonicalValueInto levels)
      .ok ('[' :: (commaSeparated items ++ [']']))
  | levels + 1, .object fields =>
    if fields.length > MAX_CANONICAL_OBJECT_FIELDS then
      .error "canonical object exceeds field limit"
    else do
      let normalized ← fields.mapM fun field =>
        if field.1 = [] then .error "object key cannot be empty"
        else if utf8Length field.1 > MAX_CANONICAL_STRING_BYTES then
          .error "object key exceeds byte limit"
        else do
          let nested ← canonicalValueInto levels field.2
          .ok (field.1, nested)
      let normalized := normalized.insertionSort (fun left right => left.1 ≤ right.1)
      if hasEqualNeighbours (normalized.map Prod.fst) then .error "object has duplicate exact keys"
      else
        let entries := normalized.map fun entry => pushJsonString C entry.1 ++ ':' :: entry.2
        .ok ('{' :: (commaSeparated entries ++ ['}']))

def canonicalValueBytes (value : CanonicalValue) : Except String Text := do
  let out ← canonicalValueInto C (MAX_CANONICAL_VALUE_DEPTH + 1) value
  if utf8Length out > MAX_CANONICAL_VALUE_BYTES then .error "canonical value exceeds byte limit"
  else .ok out

/-- Encodings are sorted by their bytes, which is the order of their scalar values. -/
def canonicalTargetsBytes (input : TargetSnapshotInput) : Except String Text :=
  if input.targets = [] then .error "target snapshot cannot be empty"
  else do
    let targets ← input.targets.mapM (canonicalValueBytes C)
    let targets := targets.insertionSort (· ≤ ·)
    if hasEqualNeighbours targets then .error "target snapshot has duplicate canonical targets"
    else
      let out := "\x7b\"targets\":[".toList ++ commaSeparated targets ++ "]\x7d".toList
      if utf8Length out > MAX_CANONICAL_VALUE_BYTES then
        .error "target snapshot exceeds canonical byte limit"
      else .ok out

end Encoding
end CarsinOS.Manifest
