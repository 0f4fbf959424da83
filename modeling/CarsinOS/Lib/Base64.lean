import Mathlib.Data.List.Basic

/-! Base64, of either alphabet, with or without padding. -/
namespace CarsinOS.Lib.Base64

def digit (urlSafe : Bool) (n : Nat) : Char :=
  if n < 26 then Char.ofNat (65 + n)
  else if n < 52 then Char.ofNat (97 + (n - 26))
  else if n < 62 then Char.ofNat (48 + (n - 52))
  else if n = 62 then (if urlSafe then '-' else '+')
  else (if urlSafe then '_' else '/')

def encode (urlSafe padded : Bool) : List UInt8 → List Char
  | [] => []
  | [a] =>
    let n := a.toNat * 2 ^ 4
    digit urlSafe (n / 64) :: digit urlSafe (n % 64) :: if padded then ['=', '='] else []
  | [a, b] =>
    let n := (a.toNat * 2 ^ 8 + b.toNat) * 2 ^ 2
    digit urlSafe (n / 64 ^ 2) :: digit urlSafe (n / 64 % 64) :: digit urlSafe (n % 64) ::
      if padded then ['='] else []
  | a :: b :: c :: rest =>
    let n := a.toNat * 2 ^ 16 + b.toNat * 2 ^ 8 + c.toNat
    digit urlSafe (n / 64 ^ 3) :: digit urlSafe (n / 64 ^ 2 % 64) :: digit urlSafe (n / 64 % 64) ::
      digit urlSafe (n % 64) :: encode urlSafe padded rest

example : encode false true [0x4D, 0x61, 0x6E, 0xFB] = ['T', 'W', 'F', 'u', '+', 'w', '=', '='] := by
  decide

end CarsinOS.Lib.Base64
