import CarsinOS.Canonical.Value
import CarsinOS.Lib.JsonText

/-! The strict JSON parser of the storage crate. The parser's state is the text that is still
to be read; `levels` counts down from the nesting limit and `room` from a container's limit. -/
namespace CarsinOS.Canonical
open CarsinOS.Lib

def whitespace (cs : List Char) : List Char := cs.dropWhile isBlank

def consume (byte : Char) : List Char → Option (List Char)
  | c :: rest => if c = byte then some rest else none
  | [] => none

def take (byte : Char) (cs : List Char) : Anyhow (List Char) :=
  match consume byte cs with
  | some rest => .ok rest
  | none => bail "canonical JSON delimiter is invalid"

def literal (value : List Char) (cs : List Char) : Anyhow (List Char) :=
  if value.isPrefixOf cs then .ok (cs.drop value.length)
  else bail "canonical JSON literal is invalid"

/-- An error of the standard library, under the parser's context if it gives one. -/
def orFail {α : Type} (context : List String) : Except String α → Anyhow α
  | .ok a => .ok a
  | .error e => .error (context ++ [e])

def hex4 (cs : List Char) : Anyhow (Nat × List Char) :=
  if utf8Length cs < 4 then bail "canonical JSON Unicode escape is incomplete"
  else do
    let (value, rest) ← orFail [] (utf8Slice 0 4 cs)
    let unit ← orFail ["canonical JSON Unicode escape is invalid"]
      (fromStrRadix 16 false u16OfInt? value)
    .ok (unit, rest)

/-- `char::from_u32`. -/
def charFromU32 (scalar : Nat) : Anyhow Char :=
  if scalar.isValidChar then .ok (Char.ofNat scalar)
  else bail "canonical JSON Unicode scalar is invalid"

def unicodeEscape (cs : List Char) : Anyhow (Char × List Char) := do
  let (first, cs) ← hex4 cs
  if isHigh first then
    let cs ← take '\\' cs
    let cs ← take 'u' cs
    let (second, cs) ← hex4 cs
    if isLow second then
      let scalar ← charFromU32 (0x10000 + ((first - 0xD800) <<< 10) + (second - 0xDC00))
      .ok (scalar, cs)
    else bail "canonical JSON has an invalid surrogate pair"
  else if isLow first then bail "canonical JSON has an unpaired low surrogate"
  else
    let scalar ← charFromU32 first
    .ok (scalar, cs)

def escapeSequence : List Char → Anyhow (Char × List Char)
  | [] => bail "canonical JSON escape is incomplete"
  | '"' :: rest => .ok ('"', rest)
  | '\\' :: rest => .ok ('\\', rest)
  | '/' :: rest => .ok ('/', rest)
  | 'b' :: rest => .ok (Char.ofNat 0x08, rest)
  | 'f' :: rest => .ok (Char.ofNat 0x0C, rest)
  | 'n' :: rest => .ok ('\n', rest)
  | 'r' :: rest => .ok ('\r', rest)
  | 't' :: rest => .ok ('\t', rest)
  | 'u' :: rest => unicodeEscape rest
  | _ => bail "canonical JSON escape is invalid"

/-- The loop of `string`. Every round reads a character at least, so rounds for every
character that is left are enough. -/
def stringLoop : Nat → List Char → List Char → Anyhow (List Char × List Char)
  | 0, _, _ => bail "canonical JSON string is unterminated"
  | rounds + 1, output, cs =>
    match cs with
    | [] => bail "canonical JSON string is unterminated"
    | byte :: rest =>
      if byte = '"' then .ok (output, rest)
      else if byte = '\\' then do
        let (character, rest) ← escapeSequence rest
        stringLoop rounds (output ++ [character]) rest
      else if byte.toNat < 0x20 then
        bail "canonical JSON string contains an unescaped control byte"
      else stringLoop rounds (output ++ [byte]) rest

def string (N : Normalization) (cs : List Char) : Anyhow (List Char × List Char) := do
  let cs ← take '"' cs
  let (output, rest) ← stringLoop (cs.length + 1) [] cs
  .ok (N.nfc output, rest)

def forbidsFloats (cs : List Char) : Bool :=
  match cs with
  | c :: _ => c = '.' || c = 'e' || c = 'E' || c = '+'
  | [] => false

def startsWithDigit (cs : List Char) : Bool :=
  match cs with
  | c :: _ => c.isDigit
  | [] => false

/-- The digits of an integer, read after its sign, and the text after them. -/
def integerDigits (negative : Bool) (cs : List Char) : Anyhow (List Char × List Char) :=
  match consume '0' cs with
  | some rest =>
    if negative then bail "canonical JSON forbids negative zero"
    else if startsWithDigit rest then bail "canonical JSON forbids leading zeroes"
    else .ok (['0'], rest)
  | none =>
    match cs with
    | [] => bail "canonical JSON integer is incomplete"
    | first :: rest =>
      if '1' ≤ first ∧ first ≤ '9' then
        .ok (first :: rest.takeWhile Char.isDigit, rest.dropWhile Char.isDigit)
      else bail "canonical JSON integer is invalid"

def integer (cs : List Char) : Anyhow (I64 × List Char) := do
  let (negative, cs) := match consume '-' cs with
    | some rest => (true, rest)
    | none => (false, cs)
  let (digits, rest) ← integerDigits negative cs
  if forbidsFloats rest then bail "canonical JSON forbids floats and exponents"
  else
    let value ← orFail ["canonical JSON integer exceeds i64"]
      (parseI64 (if negative then '-' :: digits else digits))
    .ok (value, rest)

section Containers
variable (N : Normalization) (value : List Char → Anyhow (CanonicalValue × List Char))

def arrayLoop : Nat → List CanonicalValue → List Char →
    Anyhow (List CanonicalValue × List Char)
  | 0, _, _ => bail "canonical JSON array exceeds 1024 elements"
  | room + 1, values, cs => do
    let (v, cs) ← value cs
    let cs := whitespace cs
    match consume ']' cs with
    | some rest => .ok (values ++ [v], rest)
    | none =>
      let cs ← take ',' cs
      arrayLoop room (values ++ [v]) cs

def array (cs : List Char) : Anyhow (List CanonicalValue × List Char) := do
  let cs ← take '[' cs
  let cs := whitespace cs
  match consume ']' cs with
  | some rest => .ok ([], rest)
  | none => arrayLoop value 1024 [] cs

def objectLoop : Nat → List (List Char × CanonicalValue) → List Char →
    Anyhow (List (List Char × CanonicalValue) × List Char)
  | 0, _, _ => bail "canonical JSON object exceeds 256 keys"
  | room + 1, values, cs => do
    let (key, cs) ← string N (whitespace cs)
    let cs ← take ':' (whitespace cs)
    let (v, cs) ← value cs
    let values ← CanonicalValue.insertFresh key v values
      "canonical JSON contains a duplicate normalized key"
    let cs := whitespace cs
    match consume '}' cs with
    | some rest => .ok (values, rest)
    | none =>
      let cs ← take ',' cs
      objectLoop room values cs

def object (cs : List Char) : Anyhow (List (List Char × CanonicalValue) × List Char) := do
  let cs ← take '{' cs
  let cs := whitespace cs
  match consume '}' cs with
  | some rest => .ok ([], rest)
  | none => objectLoop N value 256 [] cs

end Containers

def value (N : Normalization) : Nat → List Char → Anyhow (CanonicalValue × List Char)
  | 0, _ => bail "canonical JSON nesting exceeds 32 levels"
  | levels + 1, cs =>
    let cs := whitespace cs
    match cs with
    | [] => bail "canonical JSON contains an invalid value"
    | byte :: _ =>
      if byte = 'n' then do .ok (.null, ← literal ['n', 'u', 'l', 'l'] cs)
      else if byte = 't' then do .ok (.bool true, ← literal ['t', 'r', 'u', 'e'] cs)
      else if byte = 'f' then do .ok (.bool false, ← literal ['f', 'a', 'l', 's', 'e'] cs)
      else if byte = '"' then do
        let (s, rest) ← string N cs
        .ok (.string s, rest)
      else if byte = '[' then do
        let (values, rest) ← array (value N levels) cs
        .ok (.array values, rest)
      else if byte = '{' then do
        let (entries, rest) ← object N (value N levels) cs
        .ok (.object entries, rest)
      else if byte = '-' || byte.isDigit then do
        let (i, rest) ← integer cs
        .ok (.integer i, rest)
      else bail "canonical JSON contains an invalid value"

def parseStrictJson (N : Normalization) (input : List Char) : Anyhow CanonicalValue :=
  if input.head? = some (Char.ofNat 0xFEFF) then bail "canonical JSON must not contain a BOM"
  else do
    let (v, rest) ← value N 32 input
    if whitespace rest = [] then .ok v
    else bail "canonical JSON has trailing data"

end CarsinOS.Canonical
