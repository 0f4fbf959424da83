import Mathlib.Algebra.Group.Int.Defs
import Mathlib.Algebra.GroupWithZero.Nat
import CarsinOS.Text

/-! Integer types of the Rust standard library and how they are read and shown. -/
namespace CarsinOS

abbrev I64 := { i : Int // -2 ^ 63 ≤ i ∧ i < 2 ^ 63 }

theorem I64.zero_fits : -2 ^ 63 ≤ (0 : Int) ∧ (0 : Int) < 2 ^ 63 := by decide

theorem I64.one_fits : -2 ^ 63 ≤ (1 : Int) ∧ (1 : Int) < 2 ^ 63 := by decide

def I64.ofInt? (i : Int) : Option I64 :=
  if fits : -2 ^ 63 ≤ i ∧ i < 2 ^ 63 then some ⟨i, fits⟩ else none

@[simp] theorem I64.ofInt?_val (i : I64) : I64.ofInt? i.val = some i :=
  dif_pos i.property

theorem I64.ofInt?_some {i : Int} {j : I64} : I64.ofInt? i = some j ↔ i = j.val := by
  constructor
  · intro known
    unfold I64.ofInt? at known
    split at known
    · cases known
      rfl
    · cases known
  · rintro rfl
    exact I64.ofInt?_val j

def u16OfInt? (i : Int) : Option Nat :=
  if 0 ≤ i ∧ i < 2 ^ 16 then some i.toNat else none

/-- `char::to_digit`. -/
def toDigit (radix : Nat) (c : Char) : Option Nat :=
  let d := if c.isDigit then c.toNat - 48
    else if 'a' ≤ c && c ≤ 'z' then c.toNat - 87
    else if 'A' ≤ c && c ≤ 'Z' then c.toNat - 55
    else radix
  if d < radix then some d else none

def magnitude (radix : Nat) (total : Nat) : List Char → Option Nat
  | [] => some total
  | c :: cs => (toDigit radix c).bind fun d => magnitude radix (total * radix + d) cs

/-- The sign an integer text starts with. Only a signed type reads a minus, every type reads
a plus. -/
def splitSign (signed : Bool) : List Char → Bool × List Char
  | '+' :: digits => (false, digits)
  | '-' :: digits => if signed then (true, digits) else (false, '-' :: digits)
  | digits => (false, digits)

/-- `from_str_radix`, for the integer type whose values `fits` converts to. -/
def fromStrRadix {T : Type} (radix : Nat) (signed : Bool) (fits : Int → Option T)
    (s : List Char) : Except String T :=
  if s = [] then .error "cannot parse integer from empty string"
  else
    let (negative, digits) := splitSign signed s
    match if digits = [] then none else magnitude radix 0 digits with
    | none => .error "invalid digit found in string"
    | some n =>
      match fits (if negative then -(n : Int) else n) with
      | some value => .ok value
      | none =>
        .error (if negative then "number too small to fit in target type"
          else "number too large to fit in target type")

theorem fromStrRadix_ok {T : Type} {radix : Nat} {signed : Bool} {fits : Int → Option T}
    {s : List Char} {t : T} :
    fromStrRadix radix signed fits s = .ok t ↔
      (splitSign signed s).2 ≠ [] ∧ ∃ n, magnitude radix 0 (splitSign signed s).2 = some n ∧
        fits (if (splitSign signed s).1 then -(n : Int) else n) = some t := by
  unfold fromStrRadix
  by_cases empty : s = []
  · simp [empty, splitSign]
  · rw [if_neg empty]
    obtain ⟨negative, digits⟩ := splitSign signed s
    by_cases bare : digits = []
    · simp [bare]
    · cases size : magnitude radix 0 digits with
      | none => simp [bare, size]
      | some n =>
        simp only [bare, if_false, size, ne_eq, not_false_eq_true, true_and, Option.some.injEq,
          exists_eq_left']
        cases fits (if negative then -(n : Int) else n) <;> simp

/-- `str::parse::<i64>`. -/
def parseI64 (s : List Char) : Except String I64 := fromStrRadix 10 true I64.ofInt? s

/-- `i64::to_string`. -/
def I64.toText (i : I64) : List Char :=
  if i.val < 0 then '-' :: Nat.toDigits 10 i.val.natAbs else Nat.toDigits 10 i.val.natAbs

def utf8Bytes (cs : List Char) : List UInt8 := cs.flatMap String.utf8EncodeChar

def utf8Length (cs : List Char) : Nat := (cs.map Char.utf8Size).sum

/-- `str::from_utf8` of the next bytes of a text, with the text after them. A slice may end
inside a character, which is the only way it can fail. -/
def utf8Slice (start : Nat) : Nat → List Char → Except String (List Char × List Char)
  | 0, cs => .ok ([], cs)
  | _ + 1, [] => .ok ([], [])
  | n + 1, c :: cs =>
    if c.utf8Size ≤ n + 1 then
      match utf8Slice (start + c.utf8Size) (n + 1 - c.utf8Size) cs with
      | .ok (slice, rest) => .ok (c :: slice, rest)
      | .error e => .error e
    else .error s!"incomplete utf-8 byte sequence from index {start}"

end CarsinOS
