import CarsinOS.Lib.Sha256

/-! The SHA-256 digest in a form the kernel computes fast: words are numbers, each of them is
computed before it is used, and the state is passed on in arguments. -/
namespace CarsinOS.Lib.Sha256

/-- The value of a function at a number that is computed first. -/
def strict {α : Type} (n : Nat) (f : Nat → α) : α :=
  Nat.rec (motive := fun _ => α) (f 0) (fun m _ => f (Nat.succ m)) n

theorem strict_eq {α : Type} (n : Nat) (f : Nat → α) : strict n f = f n := by
  cases n <;> rfl

/-- A rotation to the right by `right`, where `left` is the rest of the word. -/
def rotateNat (x right left : Nat) : Nat :=
  Nat.lor (Nat.shiftRight x right) (Nat.mod (Nat.shiftLeft x left) 4294967296)

def firstNat (e f g h constant word : Nat) : Nat :=
  Nat.mod (Nat.add (Nat.add (Nat.add (Nat.add h
    (Nat.xor (Nat.xor (rotateNat e 6 26) (rotateNat e 11 21)) (rotateNat e 25 7)))
    (Nat.xor (Nat.land e f) (Nat.land (Nat.sub 4294967295 e) g))) constant) word) 4294967296

def secondNat (a b c : Nat) : Nat :=
  Nat.add (Nat.xor (Nat.xor (rotateNat a 2 30) (rotateNat a 13 19)) (rotateNat a 22 10))
    (Nat.xor (Nat.xor (Nat.land a b) (Nat.land a c)) (Nat.land b c))

def nextNat (w0 w1 w9 w14 : Nat) : Nat :=
  Nat.mod (Nat.add (Nat.add (Nat.add w0
    (Nat.xor (Nat.xor (rotateNat w1 7 25) (rotateNat w1 18 14)) (Nat.shiftRight w1 3))) w9)
    (Nat.xor (Nat.xor (rotateNat w14 17 15) (rotateNat w14 19 13)) (Nat.shiftRight w14 10)))
    4294967296

def sumNat (x y : Nat) : Nat := Nat.mod (Nat.add x y) 4294967296

/-- What takes a window of sixteen words and a state of eight. -/
abbrev OnWords (α : Type) : Type :=
  Nat → Nat → Nat → Nat → Nat → Nat → Nat → Nat → Nat → Nat → Nat → Nat → Nat → Nat → Nat → Nat →
    Nat → Nat → Nat → Nat → Nat → Nat → Nat → Nat → α

abbrev OnState (α : Type) : Type := Nat → Nat → Nat → Nat → Nat → Nat → Nat → Nat → α

def roundsNat {α : Type} (k : OnState α) (constants : List Nat) : OnWords α :=
  List.rec (motive := fun _ => OnWords α)
    (fun _ _ _ _ _ _ _ _ _ _ _ _ _ _ _ _ a b c d e f g h => k a b c d e f g h)
    (fun constant _ more w0 w1 w2 w3 w4 w5 w6 w7 w8 w9 w10 w11 w12 w13 w14 w15 a b c d e f g h =>
      strict (nextNat w0 w1 w9 w14) fun w16 =>
      strict (firstNat e f g h constant w0) fun first =>
      strict (sumNat first (secondNat a b c)) fun a' =>
      strict (sumNat d first) fun e' =>
      more w1 w2 w3 w4 w5 w6 w7 w8 w9 w10 w11 w12 w13 w14 w15 w16 a' a b c e' e f g) constants

theorem rotateRight_nat (x : UInt32) {right left : Nat} (n : UInt32) (small : n.toNat % 32 = right)
    (rest : (32 - n).toNat % 32 = left) :
    (rotateRight x n).toNat = rotateNat x.toNat right left := by
  simp only [rotateRight, rotateNat, UInt32.toNat_or, UInt32.toNat_shiftRight,
    UInt32.toNat_shiftLeft, small, rest]
  rfl

theorem nextWord_nat (window : List UInt32) : (nextWord window).toNat =
    nextNat (window.getD 0 0).toNat (window.getD 1 0).toNat (window.getD 9 0).toNat
      (window.getD 14 0).toNat := by
  simp only [nextWord, nextNat, UInt32.toNat_add, UInt32.toNat_xor,
    rotateRight_nat _ 7 rfl rfl, rotateRight_nat _ 18 rfl rfl, rotateRight_nat _ 17 rfl rfl,
    rotateRight_nat _ 19 rfl rfl, UInt32.toNat_shiftRight]
  simp
  rfl

theorem first_nat (s : State) (constant word : UInt32) :
    (s.h + (rotateRight s.e 6 ^^^ rotateRight s.e 11 ^^^ rotateRight s.e 25) +
      ((s.e &&& s.f) ^^^ (~~~s.e &&& s.g)) + constant + word).toNat =
      firstNat s.e.toNat s.f.toNat s.g.toNat s.h.toNat constant.toNat word.toNat := by
  simp only [firstNat, UInt32.toNat_add, UInt32.toNat_xor, UInt32.toNat_and, UInt32.toNat_not,
    rotateRight_nat _ 6 rfl rfl, rotateRight_nat _ 11 rfl rfl, rotateRight_nat _ 25 rfl rfl]
  simp
  rfl

theorem second_nat (a b c first : UInt32) :
    (first + ((rotateRight a 2 ^^^ rotateRight a 13 ^^^ rotateRight a 22) +
      ((a &&& b) ^^^ (a &&& c) ^^^ (b &&& c)))).toNat =
      sumNat first.toNat (secondNat a.toNat b.toNat c.toNat) := by
  simp only [sumNat, secondNat, UInt32.toNat_add, UInt32.toNat_xor, UInt32.toNat_and,
    rotateRight_nat _ 2 rfl rfl, rotateRight_nat _ 13 rfl rfl, rotateRight_nat _ 22 rfl rfl]
  simp
  rfl

theorem sum_nat (x y : UInt32) : (x + y).toNat = sumNat x.toNat y.toNat := UInt32.toNat_add x y

/-- What takes a state, at the numbers of its words. -/
def State.give {α : Type} (s : State) (k : OnState α) : α :=
  k s.a.toNat s.b.toNat s.c.toNat s.d.toNat s.e.toNat s.f.toNat s.g.toNat s.h.toNat

theorem rounds_nat {α : Type} (k : OnState α) (constants : List UInt32)
    (w0 w1 w2 w3 w4 w5 w6 w7 w8 w9 w10 w11 w12 w13 w14 w15 : UInt32) (s : State) :
    roundsNat k (constants.map UInt32.toNat) w0.toNat w1.toNat w2.toNat w3.toNat w4.toNat w5.toNat
      w6.toNat w7.toNat w8.toNat w9.toNat w10.toNat w11.toNat w12.toNat w13.toNat w14.toNat
      w15.toNat s.a.toNat s.b.toNat s.c.toNat s.d.toNat s.e.toNat s.f.toNat s.g.toNat s.h.toNat =
    (rounds constants [w0, w1, w2, w3, w4, w5, w6, w7, w8, w9, w10, w11, w12, w13, w14, w15]
      s).give k := by
  induction constants generalizing w0 w1 w2 w3 w4 w5 w6 w7 w8 w9 w10 w11 w12 w13 w14 w15 s with
  | nil => rfl
  | cons constant constants ih =>
    rw [rounds]
    refine Eq.trans ?_ (ih w1 w2 w3 w4 w5 w6 w7 w8 w9 w10 w11 w12 w13 w14 w15 _ _)
    have first := first_nat s constant w0
    have second := second_nat s.a s.b s.c
    have fifth := sum_nat s.d
    simp only [round, List.getD_cons_zero, second, fifth, first, nextWord_nat]
    simp only [roundsNat, List.map_cons, strict_eq]
    rfl

def constantsNat : List Nat := [
  0x428a2f98, 0x71374491, 0xb5c0fbcf, 0xe9b5dba5, 0x3956c25b, 0x59f111f1, 0x923f82a4, 0xab1c5ed5,
  0xd807aa98, 0x12835b01, 0x243185be, 0x550c7dc3, 0x72be5d74, 0x80deb1fe, 0x9bdc06a7, 0xc19bf174,
  0xe49b69c1, 0xefbe4786, 0x0fc19dc6, 0x240ca1cc, 0x2de92c6f, 0x4a7484aa, 0x5cb0a9dc, 0x76f988da,
  0x983e5152, 0xa831c66d, 0xb00327c8, 0xbf597fc7, 0xc6e00bf3, 0xd5a79147, 0x06ca6351, 0x14292967,
  0x27b70a85, 0x2e1b2138, 0x4d2c6dfc, 0x53380d13, 0x650a7354, 0x766a0abb, 0x81c2c92e, 0x92722c85,
  0xa2bfe8a1, 0xa81a664b, 0xc24b8b70, 0xc76c51a3, 0xd192e819, 0xd6990624, 0xf40e3585, 0x106aa070,
  0x19a4c116, 0x1e376c08, 0x2748774c, 0x34b0bcb5, 0x391c0cb3, 0x4ed8aa4a, 0x5b9cca4f, 0x682e6ff3,
  0x748f82ee, 0x78a5636f, 0x84c87814, 0x8cc70208, 0x90befffa, 0xa4506ceb, 0xbef9a3f7, 0xc67178f2]

theorem roundConstants_nat : roundConstants.map UInt32.toNat = constantsNat := rfl

/-- The sums of two states. -/
def sumsNat {α : Type} (k : OnState α) (a b c d e f g h a' b' c' d' e' f' g' h' : Nat) : α :=
  strict (sumNat a a') fun a => strict (sumNat b b') fun b => strict (sumNat c c') fun c =>
  strict (sumNat d d') fun d => strict (sumNat e e') fun e => strict (sumNat f f') fun f =>
  strict (sumNat g g') fun g => strict (sumNat h h') fun h => k a b c d e f g h

def compressAllNat {α : Type} (k : OnState α) : Nat → List Nat → OnState α
  | blocks + 1, w0 :: w1 :: w2 :: w3 :: w4 :: w5 :: w6 :: w7 :: w8 :: w9 :: w10 ::
      w11 :: w12 :: w13 :: w14 :: w15 :: rest, a, b, c, d, e, f, g, h =>
    strict w0 fun w0 => strict w1 fun w1 => strict w2 fun w2 => strict w3 fun w3 =>
    strict w4 fun w4 => strict w5 fun w5 => strict w6 fun w6 => strict w7 fun w7 =>
    strict w8 fun w8 => strict w9 fun w9 => strict w10 fun w10 => strict w11 fun w11 =>
    strict w12 fun w12 => strict w13 fun w13 => strict w14 fun w14 => strict w15 fun w15 =>
    roundsNat (sumsNat (compressAllNat k blocks rest) a b c d e f g h) constantsNat
      w0 w1 w2 w3 w4 w5 w6 w7 w8 w9 w10 w11 w12 w13 w14 w15 a b c d e f g h
  | _, _, a, b, c, d, e, f, g, h => k a b c d e f g h

theorem sixteen_words {words : List UInt32} {n : Nat} (size : words.length = n + 16) :
    ∃ w0 w1 w2 w3 w4 w5 w6 w7 w8 w9 w10 w11 w12 w13 w14 w15 rest, words = w0 :: w1 :: w2 :: w3 ::
      w4 :: w5 :: w6 :: w7 :: w8 :: w9 :: w10 :: w11 :: w12 :: w13 :: w14 :: w15 :: rest ∧
      rest.length = n := by
  obtain ⟨w0, t0, rfl, size0⟩ := List.length_eq_succ_iff.mp size
  obtain ⟨w1, t1, rfl, size1⟩ := List.length_eq_succ_iff.mp size0
  obtain ⟨w2, t2, rfl, size2⟩ := List.length_eq_succ_iff.mp size1
  obtain ⟨w3, t3, rfl, size3⟩ := List.length_eq_succ_iff.mp size2
  obtain ⟨w4, t4, rfl, size4⟩ := List.length_eq_succ_iff.mp size3
  obtain ⟨w5, t5, rfl, size5⟩ := List.length_eq_succ_iff.mp size4
  obtain ⟨w6, t6, rfl, size6⟩ := List.length_eq_succ_iff.mp size5
  obtain ⟨w7, t7, rfl, size7⟩ := List.length_eq_succ_iff.mp size6
  obtain ⟨w8, t8, rfl, size8⟩ := List.length_eq_succ_iff.mp size7
  obtain ⟨w9, t9, rfl, size9⟩ := List.length_eq_succ_iff.mp size8
  obtain ⟨w10, t10, rfl, size10⟩ := List.length_eq_succ_iff.mp size9
  obtain ⟨w11, t11, rfl, size11⟩ := List.length_eq_succ_iff.mp size10
  obtain ⟨w12, t12, rfl, size12⟩ := List.length_eq_succ_iff.mp size11
  obtain ⟨w13, t13, rfl, size13⟩ := List.length_eq_succ_iff.mp size12
  obtain ⟨w14, t14, rfl, size14⟩ := List.length_eq_succ_iff.mp size13
  obtain ⟨w15, t15, rfl, size15⟩ := List.length_eq_succ_iff.mp size14
  exact ⟨w0, w1, w2, w3, w4, w5, w6, w7, w8, w9, w10, w11, w12, w13, w14, w15, t15, rfl, size15⟩

/-- The blocks of sixteen words, under any compression. -/
def compressWith (f : State → List UInt32 → State) : Nat → List UInt32 → State → State
  | 0, _, s => s
  | blocks + 1, words, s => compressWith f blocks (words.drop 16) (f s (words.take 16))

theorem compressAll_eq : compressAll = compressWith compress := by
  delta compressAll compressWith
  rfl

theorem compressWith_next (f : State → List UInt32 → State) (blocks : Nat)
    (w0 w1 w2 w3 w4 w5 w6 w7 w8 w9 w10 w11 w12 w13 w14 w15 : UInt32) (rest : List UInt32)
    (s : State) :
    compressWith f (blocks + 1) (w0 :: w1 :: w2 :: w3 :: w4 :: w5 :: w6 :: w7 :: w8 :: w9 :: w10 ::
      w11 :: w12 :: w13 :: w14 :: w15 :: rest) s =
    compressWith f blocks rest (f s [w0, w1, w2, w3, w4, w5, w6, w7, w8, w9, w10, w11, w12,
      w13, w14, w15]) := rfl

theorem compressAll_nat {α : Type} (k : OnState α) {blocks : Nat} {words : List UInt32}
    (size : words.length = 16 * blocks) (s : State) :
    s.give (compressAllNat k blocks (words.map UInt32.toNat)) =
      (compressAll blocks words s).give k := by
  rw [compressAll_eq]
  induction blocks generalizing words s with
  | zero => rfl
  | succ blocks ih =>
    obtain ⟨w0, w1, w2, w3, w4, w5, w6, w7, w8, w9, w10, w11, w12, w13, w14, w15, rest, rfl, size⟩ :=
      sixteen_words size
    have rest_size : rest.length = 16 * blocks := by omega
    rw [compressWith_next, ← ih rest_size]
    simp only [List.map_cons, State.give, compressAllNat, strict_eq, ← roundConstants_nat, rounds_nat]
    simp only [sumsNat, strict_eq, compress, sum_nat]

def wordNat (a b c d : Nat) : Nat :=
  Nat.lor (Nat.lor (Nat.lor (Nat.mod (Nat.shiftLeft a 24) 4294967296)
    (Nat.mod (Nat.shiftLeft b 16) 4294967296)) (Nat.mod (Nat.shiftLeft c 8) 4294967296)) d

def toWordsNat : List UInt8 → List Nat
  | a :: b :: c :: d :: rest => wordNat a.toNat b.toNat c.toNat d.toNat :: toWordsNat rest
  | _ => []

theorem toWords_nat (bytes : List UInt8) : (toWords bytes).map UInt32.toNat = toWordsNat bytes := by
  induction bytes using toWords.induct with
  | case1 a b c d rest ih =>
    rw [toWords, toWordsNat, List.map_cons, ih]
    simp [wordNat]
    rfl
  | case2 bytes short =>
    match bytes, short with
    | [], _ => rfl
    | [_], _ => rfl
    | [_, _], _ => rfl
    | [_, _, _], _ => rfl
    | a :: b :: c :: d :: rest, short => exact (short a b c d rest rfl).elim

theorem toWords_length {bytes : List UInt8} {words : Nat} (size : bytes.length = 4 * words) :
    (toWords bytes).length = words := by
  induction words generalizing bytes with
  | zero =>
    rw [List.length_eq_zero_iff.mp size]
    rfl
  | succ words ih =>
    match bytes, size with
    | a :: b :: c :: d :: rest, size =>
      have rest_size : rest.length = 4 * words := by
        simp only [List.length_cons] at size
        omega
      rw [toWords, List.length_cons, ih rest_size]

def digestNat (message : List UInt8) : List UInt8 :=
  let padded := pad message
  initial.give (compressAllNat (fun a b c d e f g h =>
    [a, b, c, d, e, f, g, h].flatMap fun word => bigEndian word 4) (padded.length / 64)
      (toWordsNat padded))

theorem pad_length (message : List UInt8) : (pad message).length % 64 = 0 := by
  simp only [pad, List.length_append, List.length_cons, List.length_replicate, bigEndian_length]
  omega

theorem digest_nat (message : List UInt8) : digest message = digestNat message := by
  have whole := pad_length message
  have size : (toWords (pad message)).length = 16 * ((pad message).length / 64) :=
    toWords_length (by omega)
  rw [digestNat, ← toWords_nat, compressAll_nat _ size]
  simp only [digest, State.give, List.flatMap_cons, List.flatMap_nil]

end CarsinOS.Lib.Sha256
