import Mathlib.Data.Char
import CarsinOS.Number
import CarsinOS.Lib.Entries

/-! The canonical values of the storage crate and their bytes. -/
namespace CarsinOS.Canonical
open CarsinOS.Lib

/-- An object's entries are in increasing key order. -/
inductive CanonicalValue where
  | null
  | bool (b : Bool)
  | integer (i : I64)
  | string (s : List Char)
  | array (values : List CanonicalValue)
  | object (entries : List (List Char × CanonicalValue))

namespace CanonicalValue

def ofStr (N : Normalization) (value : List Char) : CanonicalValue := .string (N.nfc value)

def insertFresh (key : List Char) (value : CanonicalValue)
    (object : List (List Char × CanonicalValue)) (message : String) :
    Anyhow (List (List Char × CanonicalValue)) :=
  if key ∈ Entries.keys object then bail message
  else .ok (Entries.insert key value object)

def ofEntries (N : Normalization) (entries : List (List Char × CanonicalValue)) :
    Anyhow CanonicalValue := do
  let object ← entries.foldlM (fun object e => insertFresh (N.nfc e.1) e.2 object
    "canonical object contains a duplicate normalized key") []
  .ok (.object object)

end CanonicalValue

def writeCharacter (character : Char) : List Char :=
  if character = '"' then ['\\', '"']
  else if character = '\\' then ['\\', '\\']
  else if character = Char.ofNat 0x08 then ['\\', 'b']
  else if character = Char.ofNat 0x0C then ['\\', 'f']
  else if character = '\n' then ['\\', 'n']
  else if character = '\r' then ['\\', 'r']
  else if character = '\t' then ['\\', 't']
  else if character ≤ Char.ofNat 0x1F then
    let hex := Nat.toDigits 16 character.toNat
    ['\\', 'u'] ++ List.replicate (4 - hex.length) '0' ++ hex
  else [character]

def writeString (value : List Char) : List Char := '"' :: (value.flatMap writeCharacter ++ ['"'])

mutual
def writeValue : CanonicalValue → List Char
  | .null => ['n', 'u', 'l', 'l']
  | .bool value => if value then ['t', 'r', 'u', 'e'] else ['f', 'a', 'l', 's', 'e']
  | .integer value => value.toText
  | .string value => writeString value
  | .array values => '[' :: (writeElements values ++ [']'])
  | .object entries => '{' :: (writeEntries entries ++ ['}'])

def writeElements : List CanonicalValue → List Char
  | [] => []
  | [value] => writeValue value
  | value :: values => writeValue value ++ ',' :: writeElements values

def writeEntries : List (List Char × CanonicalValue) → List Char
  | [] => []
  | [(key, value)] => writeString key ++ ':' :: writeValue value
  | (key, value) :: entries =>
    writeString key ++ ':' :: (writeValue value ++ ',' :: writeEntries entries)
end

/-- The UTF-8 bytes of the written text. -/
def CanonicalValue.toBytes (value : CanonicalValue) : ByteArray :=
  (String.ofList (writeValue value)).toByteArray

end CarsinOS.Canonical
