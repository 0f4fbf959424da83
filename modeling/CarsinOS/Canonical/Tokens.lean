import CarsinOS.Canonical.Grammar

/-! The tokens of the strict parser: white space, fixed words, integers and strings. Each
reader is described on the mended text, where the grammar has its four hexadecimal digits. -/
namespace CarsinOS.Canonical
open CarsinOS.Lib

/-! White space and fixed words. -/

theorem blank_plain {w : List Char} (blank : Blank w) : '\\' ∉ w :=
  fun member => absurd (blank _ member) (by decide)

theorem mend_whitespace (cs : List Char) : whitespace (mend cs) = mend (whitespace cs) := by
  induction cs with
  | nil => rfl
  | cons c cs ih =>
    cases blank : isBlank c with
    | false =>
      have stays : ∀ tail, whitespace (c :: tail) = c :: tail := by simp [whitespace, blank]
      rw [stays]
      exact stays _
    | true =>
      have plain : c ≠ '\\' := by
        rintro rfl
        exact absurd blank (by decide)
      have skips : ∀ tail, whitespace (c :: tail) = whitespace tail := by
        simp [whitespace, blank]
      rw [mend_cons plain, skips, skips, ih]

theorem whitespace_blank {w cs : List Char} (blank : Blank w) :
    whitespace (w ++ cs) = whitespace cs :=
  List.dropWhile_append_of_pos blank

theorem whitespace_stops {c : Char} {cs : List Char} (stops : isBlank c = false) :
    whitespace (c :: cs) = c :: cs := by
  simp [whitespace, stops]

theorem whitespace_split (cs : List Char) :
    ∃ before, Blank before ∧ mend cs = before ++ mend (whitespace cs) := by
  have blank : Blank (cs.takeWhile isBlank) := List.all_eq_true.mp List.all_takeWhile
  refine ⟨cs.takeWhile isBlank, blank, ?_⟩
  rw [whitespace, ← mend_append (blank_plain blank), List.takeWhile_append_dropWhile]

/-- Past white space the parser stands at a character that the grammar asks for. -/
theorem whitespace_reaches {before cs ds : List Char} {c : Char} (blank : Blank before)
    (stops : isBlank c = false) (plain : c ≠ '\\') (shape : mend cs = before ++ c :: ds) :
    ∃ rest, whitespace cs = c :: rest ∧ mend rest = ds := by
  rw [← mend_eq_cons plain, ← mend_whitespace, shape, whitespace_blank blank,
    whitespace_stops stops]

theorem consume_some {c : Char} {cs rest : List Char} :
    consume c cs = some rest ↔ cs = c :: rest := by
  cases cs with
  | nil => simp [consume]
  | cons d cs => simp [consume]

theorem take_ok {c : Char} {cs rest : List Char} : take c cs = .ok rest ↔ cs = c :: rest := by
  rw [← consume_some, take]
  cases consume c cs <;> simp

theorem literal_ok {w cs rest : List Char} : literal w cs = .ok rest ↔ cs = w ++ rest := by
  unfold literal
  split
  · rename_i agrees
    obtain ⟨tail, rfl⟩ := List.isPrefixOf_iff_prefix.mp agrees
    simp
  · rename_i differs
    constructor
    · intro read
      cases read
    · rintro rfl
      exact absurd (List.isPrefixOf_iff_prefix.mpr (List.prefix_append w rest)) differs

/-! Integers. -/

/-- The text cannot continue a number. -/
def Delimited (cs : List Char) : Prop := startsWithDigit cs = false ∧ forbidsFloats cs = false

theorem delimited_nil : Delimited [] := ⟨rfl, rfl⟩

theorem delimited_mend {cs : List Char} : Delimited (mend cs) ↔ Delimited cs := by
  cases cs <;> rfl

theorem toDigit_ten {c : Char} (digit : c.isDigit = true) :
    toDigit 10 c = some (c.toNat - '0'.toNat) := by
  have range := Char.isDigit_iff_toNat.mp digit
  have small : c.toNat - 48 < 10 := Nat.sub_lt_left_of_lt_add range.1 (Nat.lt_succ_of_le range.2)
  simp [toDigit, digit, small]

theorem magnitude_digits {w : List Char} (digits : Digits w) (total : Nat) :
    magnitude 10 total w = some (Nat.ofDigitChars 10 w total) := by
  induction w generalizing total with
  | nil => rfl
  | cons c w ih =>
    rw [magnitude, toDigit_ten (digits c List.mem_cons_self), Option.bind_some,
      ih (fun d member => digits d (List.mem_cons_of_mem _ member)), Nat.mul_comm]
    rfl

theorem startsWithDigit_dropWhile (cs : List Char) :
    startsWithDigit (cs.dropWhile Char.isDigit) = false := by
  have stops := dropWhile_head (p := Char.isDigit) cs
  cases shape : cs.dropWhile Char.isDigit with
  | nil => rfl
  | cons c rest =>
    rw [shape] at stops
    exact stops c rfl

theorem digits_stop {w rest : List Char} (digits : Digits w)
    (stops : startsWithDigit rest = false) :
    (w ++ rest).takeWhile Char.isDigit = w ∧ (w ++ rest).dropWhile Char.isDigit = rest := by
  rw [List.takeWhile_append_of_pos digits, List.dropWhile_append_of_pos digits]
  cases rest with
  | nil => simp
  | cons c rest =>
    have final : c.isDigit = false := stops
    simp [final]

theorem isDigit_positive {c : Char} :
    ('1' ≤ c ∧ c ≤ '9') ↔ c.isDigit = true ∧ c ≠ '0' := by
  rw [Char.isDigit_iff_toNat, Char.le_def, Char.le_def, UInt32.le_iff_toNat_le,
    UInt32.le_iff_toNat_le, ne_eq, ← Char.toNat_inj]
  change 49 ≤ c.toNat ∧ c.toNat ≤ 57 ↔ (48 ≤ c.toNat ∧ c.toNat ≤ 57) ∧ ¬ c.toNat = 48
  omega

theorem integerDigits_ok {negative : Bool} {cs digits rest : List Char} :
    integerDigits negative cs = .ok (digits, rest) ↔
      cs = digits ++ rest ∧ IntText digits ∧ startsWithDigit rest = false ∧
        ¬ (negative = true ∧ digits = ['0']) := by
  constructor
  · intro read
    unfold integerDigits at read
    split at read
    · rename_i tail found
      cases negative with
      | true => simp at read
      | false =>
        simp only [Bool.false_eq_true, if_false] at read
        split at read
        · simp at read
        · rename_i stops
          cases read
          exact ⟨consume_some.mp found, .zero, by simpa using stops, by simp⟩
    · rename_i missing
      cases cs with
      | nil => simp at read
      | cons first tail =>
        simp only at read
        split at read
        · rename_i range
          obtain ⟨digit, nonzero⟩ := isDigit_positive.mp range
          cases read
          refine ⟨by simp, .positive digit nonzero (List.all_eq_true.mp List.all_takeWhile),
            startsWithDigit_dropWhile tail, ?_⟩
          rintro ⟨-, zero⟩
          exact nonzero (List.cons.inj zero).1
        · simp at read
  · rintro ⟨rfl, whole, stops, positive⟩
    cases whole with
    | zero =>
      have sign : negative = false := by
        cases negative with
        | false => rfl
        | true => exact absurd ⟨rfl, rfl⟩ positive
      simp [integerDigits, consume, sign, stops]
    | @positive d w digit nonzero digits =>
      have range := isDigit_positive.mpr ⟨digit, nonzero⟩
      have ends := digits_stop digits stops
      simp [integerDigits, consume, nonzero, range, ends]

theorem splitSign_positive {signed : Bool} {w : List Char} (whole : IntText w) :
    splitSign signed w = (false, w) := by
  unfold splitSign
  split
  · cases whole with
    | positive digit => exact absurd digit (by decide)
  · cases whole with
    | positive digit => exact absurd digit (by decide)
  · rfl

theorem parseI64_ok {negative : Bool} {w : List Char} {i : I64} (whole : IntText w) :
    parseI64 (signed negative w) = .ok i ↔ signedValue (signed negative w) = i.val := by
  obtain ⟨digits, some⟩ := intText_digits whole
  have size := magnitude_digits digits 0
  rw [parseI64, fromStrRadix_ok]
  cases negative with
  | true => simp [signed, splitSign, size, some, signedValue, I64.ofInt?_some]
  | false =>
    simp [signed, splitSign_positive whole, signedValue_positive whole, size, some,
      I64.ofInt?_some]

theorem orFail_ok {α : Type} {context : List String} {x : Except String α} {a : α} :
    orFail context x = .ok a ↔ x = .ok a := by
  cases x <;> simp [orFail]

/-- The first step of `integer`: whatever sign the text has, its digits follow. -/
theorem integer_sign {cs rest : List Char} {i : I64} :
    integer cs = .ok (i, rest) ↔ ∃ negative tail, cs = signed negative tail ∧
      (do
        let (digits, rest) ← integerDigits negative tail
        if forbidsFloats rest then bail "canonical JSON forbids floats and exponents"
        else
          let value ← orFail ["canonical JSON integer exceeds i64"]
            (parseI64 (signed negative digits))
          .ok (value, rest) : Anyhow (I64 × List Char)) = .ok (i, rest) := by
  constructor
  · intro read
    cases cs with
    | nil => exact ⟨false, [], rfl, read⟩
    | cons c tail =>
      by_cases minus : c = '-'
      · refine ⟨true, tail, by rw [minus]; rfl, ?_⟩
        simpa [integer, consume, minus, signed] using read
      · refine ⟨false, c :: tail, rfl, ?_⟩
        simpa [integer, consume, minus, signed] using read
  · rintro ⟨negative, tail, rfl, read⟩
    cases negative with
    | true => simpa [integer, consume, signed] using read
    | false =>
      cases tail with
      | nil => exact read
      | cons c tail =>
        by_cases minus : c = '-'
        · subst minus
          simp [integerDigits, consume] at read
        · simpa [integer, consume, minus, signed] using read

theorem integer_ok {cs rest : List Char} {i : I64} :
    integer cs = .ok (i, rest) ↔
      ∃ w, cs = w ++ rest ∧ NumberText w ∧ PlainInteger w ∧ signedValue w = i.val ∧
        Delimited rest := by
  rw [integer_sign]
  constructor
  · rintro ⟨negative, tail, rfl, read⟩
    obtain ⟨⟨digits, left⟩, found, parsing⟩ := bind_ok.mp read
    obtain ⟨rfl, whole, stops, positive⟩ := integerDigits_ok.mp found
    simp only at parsing
    split at parsing
    · simp at parsing
    · rename_i integral
      obtain ⟨j, parsed, same⟩ := bind_ok.mp parsing
      cases same
      have value := (parseI64_ok whole).mp (orFail_ok.mp parsed)
      refine ⟨signed negative digits, signed_append, signed_number whole, ⟨?_, ?_, ?_⟩,
        value, stops, by simpa using integral⟩
      · exact signed_plain whole
      · rintro zero
        exact positive (signed_zero whole zero)
      · rw [value]
        exact i.property
  · rintro ⟨w, rfl, number, ⟨plain, nonzero, -⟩, value, stops, integral⟩
    obtain ⟨negative, digits, whole, rfl⟩ := plain_number number plain
    have read : integerDigits negative (digits ++ rest) = .ok (digits, rest) := by
      refine integerDigits_ok.mpr ⟨rfl, whole, stops, ?_⟩
      rintro ⟨rfl, rfl⟩
      exact nonzero rfl
    have parsed : orFail ["canonical JSON integer exceeds i64"]
        (parseI64 (signed negative digits)) = .ok i :=
      orFail_ok.mpr ((parseI64_ok whole).mpr value)
    refine ⟨negative, digits ++ rest, signed_append.symm, ?_⟩
    simp only [read, ok_bind, integral, Bool.false_eq_true, if_false, parsed]

theorem digits_plain {w : List Char} (digits : Digits w) : '\\' ∉ w :=
  fun member => absurd (digits _ member) (by decide)

theorem fraction_plain {w : List Char} (text : FractionText w) : '\\' ∉ w := by
  cases text with
  | none => exact List.not_mem_nil
  | some _ digits => simpa using digits_plain digits

theorem exponent_plain {w : List Char} (text : ExponentText w) : '\\' ∉ w := by
  cases text with
  | none => exact List.not_mem_nil
  | some letter sign _ digits =>
    have rest := digits_plain digits
    rcases letter with rfl | rfl <;> rcases sign with rfl | rfl | rfl <;> simpa using rest

theorem number_plain {w : List Char} (text : NumberText w) : '\\' ∉ w := by
  obtain ⟨sign, whole, fraction, exponent⟩ := text
  have rest : '\\' ∉ _ := digits_plain (intText_digits whole).1
  simp only [List.mem_append, not_or]
  refine ⟨?_, rest, fraction_plain fraction, exponent_plain exponent⟩
  rcases sign with rfl | rfl <;> decide

end CarsinOS.Canonical
