import Mathlib.Data.List.Basic
import Mathlib.Algebra.Order.Group.Nat
import Mathlib.Tactic.Ring

/-! Numbers as bytes, the most significant byte first. -/
namespace CarsinOS.Lib

def bigEndian (n : Nat) : Nat → List UInt8
  | 0 => []
  | width + 1 => UInt8.ofNat (n / 256 ^ width) :: bigEndian n width

@[simp] theorem bigEndian_length (n width : Nat) : (bigEndian n width).length = width := by
  induction width with
  | zero => rfl
  | succ width ih => simp [bigEndian, ih]

def fromBigEndian (bytes : List UInt8) : Nat :=
  bytes.foldl (fun total byte => total * 256 + byte.toNat) 0

theorem foldl_bigEndian (total n width : Nat) :
    (bigEndian n width).foldl (fun total byte => total * 256 + byte.toNat) total =
      total * 256 ^ width + n % 256 ^ width := by
  induction width generalizing total with
  | zero => simp [bigEndian, Nat.mod_one]
  | succ width ih =>
    have digit : (UInt8.ofNat (n / 256 ^ width)).toNat = n / 256 ^ width % 256 := by simp
    have split : n % 256 ^ (width + 1) =
        256 ^ width * (n / 256 ^ width % 256) + n % 256 ^ width := by
      rw [pow_succ, Nat.mod_mul]
      ring
    rw [bigEndian, List.foldl_cons, ih, digit, split]
    ring

theorem fromBigEndian_bigEndian {n width : Nat} (small : n < 256 ^ width) :
    fromBigEndian (bigEndian n width) = n := by
  rw [fromBigEndian, foldl_bigEndian, Nat.mod_eq_of_lt small]
  simp

end CarsinOS.Lib
