import Mathlib.Data.List.Induction
import CarsinOS.Number
import CarsinOS.Lib.JsonText

/-! Integers as JSON numbers. -/
namespace CarsinOS
open CarsinOS.Lib

/-- The integer a number without fraction and exponent spells. -/
def signedValue : List Char → Int
  | '-' :: digits => -(Nat.ofDigitChars 10 digits 0 : Int)
  | digits => Nat.ofDigitChars 10 digits 0

def PlainInteger (w : List Char) : Prop :=
  (∀ c ∈ w, c ≠ '.' ∧ c ≠ 'e' ∧ c ≠ 'E') ∧ w ≠ ['-', '0'] ∧
    -2 ^ 63 ≤ signedValue w ∧ signedValue w < 2 ^ 63

theorem intText_digits {w : List Char} (whole : IntText w) : Digits w ∧ w ≠ [] := by
  cases whole with
  | zero => exact ⟨List.forall_mem_singleton.mpr rfl, by simp⟩
  | positive first nonzero rest =>
    exact ⟨List.forall_mem_cons.mpr ⟨first, rest⟩, by simp⟩

theorem signedValue_positive {w : List Char} (whole : IntText w) :
    signedValue w = Nat.ofDigitChars 10 w 0 := by
  unfold signedValue
  split
  · cases whole with
    | positive digit => exact absurd digit (by decide)
  · rfl

/-- The text of an integer with its sign. -/
def signed (negative : Bool) (digits : List Char) : List Char :=
  if negative then '-' :: digits else digits

theorem plain_number {w : List Char} (number : NumberText w)
    (plain : ∀ c ∈ w, c ≠ '.' ∧ c ≠ 'e' ∧ c ≠ 'E') :
    ∃ negative digits, IntText digits ∧ w = signed negative digits := by
  obtain ⟨sign, whole, fraction, exponent⟩ := number
  cases fraction with
  | some => exact absurd rfl (plain '.' (by simp)).1
  | none =>
    cases exponent with
    | some letter =>
      rename_i e _ _ _ _ _
      have other := (plain e (by simp)).2
      rcases letter with rfl | rfl
      · exact absurd rfl other.1
      · exact absurd rfl other.2
    | none =>
      rename_i minus digits
      rcases sign with rfl | rfl
      · exact ⟨false, digits, whole, by simp [signed]⟩
      · exact ⟨true, digits, whole, by simp [signed]⟩

theorem signed_number {negative : Bool} {digits : List Char} (whole : IntText digits) :
    NumberText (signed negative digits) := by
  cases negative with
  | true => simpa [signed] using NumberText.number (.inr rfl) whole .none .none
  | false => simpa [signed] using NumberText.number (.inl rfl) whole .none .none

theorem signed_plain {negative : Bool} {digits : List Char} (whole : IntText digits) :
    ∀ c ∈ signed negative digits, c ≠ '.' ∧ c ≠ 'e' ∧ c ≠ 'E' := by
  have inside : ∀ c ∈ digits, c ≠ '.' ∧ c ≠ 'e' ∧ c ≠ 'E' := by
    intro c member
    have digit := (intText_digits whole).1 c member
    refine ⟨?_, ?_, ?_⟩ <;> rintro rfl <;> exact absurd digit (by decide)
  cases negative with
  | true => exact List.forall_mem_cons.mpr ⟨by decide, inside⟩
  | false => exact inside

theorem signed_zero {negative : Bool} {digits : List Char} (whole : IntText digits)
    (zero : signed negative digits = ['-', '0']) : negative = true ∧ digits = ['0'] := by
  cases negative with
  | true => exact ⟨rfl, (List.cons.inj zero).2⟩
  | false =>
    rw [signed, if_neg Bool.false_ne_true] at zero
    cases zero ▸ whole with
    | positive digit => exact absurd digit (by decide)

theorem signed_append {negative : Bool} {digits rest : List Char} :
    signed negative (digits ++ rest) = signed negative digits ++ rest := by
  cases negative <;> rfl

/-! The text of an integer type. -/

theorem digitChar_digit {d : Nat} (small : d < 10) : (Nat.digitChar d).isDigit = true := by
  rw [Nat.isDigit_digitChar]
  exact decide_eq_true small

theorem toDigits_positive {n : Nat} (positive : 0 < n) : ∃ d w,
    Nat.toDigits 10 n = d :: w ∧ d.isDigit = true ∧ d ≠ '0' ∧ Digits w := by
  induction n using Nat.strongRecOn with
  | ind n ih =>
    by_cases small : n < 10
    · refine ⟨Nat.digitChar n, [], Nat.toDigits_of_lt_base small, digitChar_digit small, ?_, ?_⟩
      · simpa using Nat.ne_of_gt positive
      · exact fun c member => absurd member List.not_mem_nil
    · obtain ⟨d, w, front, digit, nonzero, digits⟩ := ih (n / 10) (by omega) (by omega)
      refine ⟨d, w ++ [Nat.digitChar (n % 10)], ?_, digit, nonzero, ?_⟩
      · rw [Nat.toDigits_of_base_le (by decide) (Nat.not_lt.mp small), front, List.cons_append]
      · intro c member
        rcases List.mem_append.mp member with inside | last
        · exact digits c inside
        · rw [List.mem_singleton.mp last]
          exact digitChar_digit (Nat.mod_lt n (by decide))

theorem toDigits_intText (n : Nat) : IntText (Nat.toDigits 10 n) := by
  rcases Nat.eq_zero_or_pos n with rfl | positive
  · exact .zero
  · obtain ⟨d, w, shape, digit, nonzero, digits⟩ := toDigits_positive positive
    exact shape ▸ .positive digit nonzero digits

theorem toText_signed (i : I64) :
    i.toText = signed (decide (i.val < 0)) (Nat.toDigits 10 i.val.natAbs) := by
  unfold I64.toText signed
  split <;> simp_all

theorem signedValue_toText (i : I64) : signedValue i.toText = i.val := by
  have digits : (Nat.ofDigitChars 10 (Nat.toDigits 10 i.val.natAbs) 0 : Int) = i.val.natAbs := by
    rw [Nat.ofDigitChars_ten_toDigits]
  unfold I64.toText
  split
  · rw [signedValue, digits]
    omega
  · rw [signedValue_positive (toDigits_intText _), digits]
    omega

theorem toText_number (i : I64) : NumberText i.toText := by
  rw [toText_signed]
  exact signed_number (toDigits_intText _)

theorem toText_plain (i : I64) : PlainInteger i.toText := by
  refine ⟨?_, ?_, ?_⟩
  · rw [toText_signed]
    exact signed_plain (toDigits_intText _)
  · intro zero
    have value := signedValue_toText i
    rw [zero] at value
    have nonnegative : ¬ i.val < 0 := by
      rw [← value]
      decide
    rw [I64.toText, if_neg nonnegative] at zero
    have digit := (intText_digits (toDigits_intText i.val.natAbs)).1 '-' (zero ▸ by simp)
    exact absurd digit (by decide)
  · rw [signedValue_toText]
    exact i.property

theorem digitChar_toNat {d : Char} (digit : d.isDigit = true) :
    d.toNat - 48 < 10 ∧ Nat.digitChar (d.toNat - 48) = d := by
  have table : ∀ n < 10, Nat.digitChar n = Char.ofNat (n + 48) := by decide
  obtain ⟨above, below⟩ : 48 ≤ d.toNat ∧ d.toNat ≤ 57 := Char.isDigit_iff_toNat.mp digit
  have small : d.toNat - 48 < 10 := by omega
  refine ⟨small, ?_⟩
  rw [table _ small, Nat.sub_add_cancel above, Char.ofNat_toNat]

/-- Digits without a leading zero are the digits of the number they spell. -/
theorem toDigits_ofDigitChars {d : Char} {w : List Char} (digit : d.isDigit = true)
    (nonzero : d ≠ '0') (digits : Digits w) :
    0 < Nat.ofDigitChars 10 (d :: w) 0 ∧
      Nat.toDigits 10 (Nat.ofDigitChars 10 (d :: w) 0) = d :: w := by
  induction w using List.reverseRecOn with
  | nil =>
    obtain ⟨small, shown⟩ := digitChar_toNat digit
    have value : Nat.ofDigitChars 10 [d] 0 = d.toNat - 48 := by simp [Nat.ofDigitChars_cons]
    rw [value, Nat.toDigits_of_lt_base small, shown]
    refine ⟨Nat.pos_of_ne_zero ?_, rfl⟩
    intro zero
    rw [zero] at shown
    exact nonzero shown.symm
  | append_singleton w e ih =>
    have front : Digits w := fun c member => digits c (List.mem_append_left _ member)
    obtain ⟨small, shown⟩ := digitChar_toNat (digits e (by simp))
    obtain ⟨positive, same⟩ := ih front
    obtain ⟨n, value⟩ : ∃ n, Nat.ofDigitChars 10 (d :: w) 0 = n := ⟨_, rfl⟩
    rw [value] at positive same
    have total : Nat.ofDigitChars 10 (d :: (w ++ [e])) 0 = 10 * n + (e.toNat - 48) := by
      rw [← List.cons_append, Nat.ofDigitChars_append, value]
      simp [Nat.ofDigitChars_cons]
    rw [total]
    refine ⟨by omega, ?_⟩
    rw [Nat.toDigits_of_base_le (by decide) (by omega),
      show (10 * n + (e.toNat - 48)) / 10 = n by omega,
      show (10 * n + (e.toNat - 48)) % 10 = e.toNat - 48 by omega, same, shown, List.cons_append]

theorem toDigits_intText_value {digits : List Char} (whole : IntText digits) :
    Nat.toDigits 10 (Nat.ofDigitChars 10 digits 0) = digits := by
  cases whole with
  | zero => rfl
  | positive digit nonzero rest => exact (toDigits_ofDigitChars digit nonzero rest).2

/-- A plain integer is spelled the way its value is shown. -/
theorem plain_toText {w : List Char} (number : NumberText w) (plain : PlainInteger w) :
    w = I64.toText ⟨signedValue w, plain.2.2⟩ := by
  obtain ⟨negative, digits, whole, rfl⟩ := plain_number number plain.1
  have shown := toDigits_intText_value whole
  have positive : digits ≠ ['0'] → 0 < Nat.ofDigitChars 10 digits 0 := by
    intro other
    cases whole with
    | zero => exact absurd rfl other
    | positive digit nonzero rest => exact (toDigits_ofDigitChars digit nonzero rest).1
  rw [toText_signed]
  cases negative with
  | true =>
    have value : signedValue (signed true digits) = -(Nat.ofDigitChars 10 digits 0 : Int) := rfl
    have some : digits ≠ ['0'] := fun zero => plain.2.1 (by rw [zero]; rfl)
    have below : decide (signedValue (signed true digits) < 0) = true := by
      have more := positive some
      simp only [value, decide_eq_true_eq]
      omega
    simp only [below]
    simp only [value, Int.natAbs_neg, Int.natAbs_natCast, shown]
  | false =>
    have value : signedValue (signed false digits) = Nat.ofDigitChars 10 digits 0 :=
      signedValue_positive whole
    have above : decide (signedValue (signed false digits) < 0) = false := by
      simp only [value, decide_eq_false_iff_not]
      omega
    simp only [above]
    simp only [value, Int.natAbs_natCast, shown]

/-- The integer a number is deserialized as, if it is one. -/
def integerValue (w : List Char) : Option I64 :=
  if w.any (fun c => c = '.' || c = 'e' || c = 'E') || w = ['-', '0'] then none
  else I64.ofInt? (signedValue w)

theorem integerValue_toText (i : I64) : integerValue i.toText = some i := by
  obtain ⟨plain, positive, -⟩ := toText_plain i
  have whole : (i.toText.any fun c => c = '.' || c = 'e' || c = 'E') = false := by
    simpa [not_or, and_assoc] using plain
  rw [integerValue, whole, signedValue_toText]
  simp [positive]

theorem integerValue_some {w : List Char} {i : I64} (number : NumberText w) :
    integerValue w = some i ↔ w = i.toText := by
  constructor
  · intro known
    unfold integerValue at known
    split at known
    · contradiction
    · rename_i plain
      have value := I64.ofInt?_some.mp known
      have whole : PlainInteger w := by
        simp only [Bool.or_eq_true, decide_eq_true_eq, List.any_eq_true, not_or, not_exists,
          not_and, and_assoc] at plain
        exact ⟨plain.1, plain.2, value ▸ i.property⟩
      have shown := plain_toText number whole
      simpa [value] using shown
  · rintro rfl
    exact integerValue_toText i

end CarsinOS
