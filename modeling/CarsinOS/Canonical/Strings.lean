import CarsinOS.Canonical.Tokens

/-! Strings and their escapes: the reader returns the scalar values the grammar gives to the
mended text, and it reads every such text. -/
namespace CarsinOS.Canonical
open CarsinOS.Lib

theorem isDigit_range {c : Char} : c.isDigit = true ↔ 48 ≤ c.toNat ∧ c.toNat ≤ 57 :=
  Char.isDigit_iff_toNat

theorem isHexDigit_range {c : Char} :
    c.isHexDigit = true ↔ (48 ≤ c.toNat ∧ c.toNat ≤ 57) ∨ (97 ≤ c.toNat ∧ c.toNat ≤ 102) ∨
      (65 ≤ c.toNat ∧ c.toNat ≤ 70) := by
  simp only [Char.isHexDigit, Bool.or_eq_true, Bool.and_eq_true, decide_eq_true_eq,
    UInt32.le_iff_toNat_le, ge_iff_le, isDigit_range, or_assoc]
  rfl

theorem toDigit_sixteen {c : Char} {d : Nat} :
    toDigit 16 c = some d ↔ c.isHexDigit = true ∧ hexDigit c = d := by
  have lower : ('a' ≤ c) ↔ 97 ≤ c.toNat := char_le
  have upper : ('A' ≤ c) ↔ 65 ≤ c.toNat := char_le
  have last : (c ≤ 'z') ↔ c.toNat ≤ 122 := char_le
  have final : (c ≤ 'Z') ↔ c.toNat ≤ 90 := char_le
  simp only [toDigit, hexDigit, isHexDigit_range, isDigit_range, Bool.and_eq_true,
    decide_eq_true_eq, lower, upper, last, final]
  grind

theorem utf8Size_hexDigit {c : Char} (hex : c.isHexDigit = true) : c.utf8Size = 1 := by
  have range := isHexDigit_range.mp hex
  have small : c.val ≤ 0x7F := by
    rw [UInt32.le_iff_toNat_le]
    change c.toNat ≤ 127
    omega
  simp [Char.utf8Size, small]

theorem utf8Slice_ok {start n : Nat} {cs slice rest : List Char}
    (read : utf8Slice start n cs = .ok (slice, rest)) (enough : n ≤ utf8Length cs) :
    cs = slice ++ rest ∧ utf8Length slice = n := by
  induction cs generalizing start n slice with
  | nil =>
    cases n with
    | zero =>
      cases read
      exact ⟨rfl, rfl⟩
    | succ n => simp [utf8Length] at enough
  | cons c cs ih =>
    cases n with
    | zero =>
      cases read
      exact ⟨rfl, rfl⟩
    | succ n =>
      rw [utf8Slice] at read
      split at read
      · rename_i inside
        split at read
        · rename_i found
          cases read
          simp only [utf8Length, List.map_cons, List.sum_cons] at enough ih
          obtain ⟨rfl, size⟩ := ih found (by omega)
          refine ⟨rfl, ?_⟩
          simp only [utf8Length, List.map_cons, List.sum_cons]
          omega
        · cases read
      · cases read

theorem magnitude_sixteen {w : List Char} {total n : Nat} :
    magnitude 16 total w = some n ↔ (∀ c ∈ w, c.isHexDigit = true) ∧
      w.foldl (fun sum c => sum * 16 + hexDigit c) total = n := by
  induction w generalizing total with
  | nil => simp [magnitude]
  | cons c w ih =>
    simp only [magnitude, Option.bind_eq_some_iff, toDigit_sixteen, ih, List.forall_mem_cons,
      List.foldl_cons]
    constructor
    · rintro ⟨d, ⟨hex, rfl⟩, rest, sum⟩
      exact ⟨⟨hex, rest⟩, sum⟩
    · rintro ⟨⟨hex, rest⟩, sum⟩
      exact ⟨_, ⟨hex, rfl⟩, rest, sum⟩

theorem utf8Length_hex {w : List Char} (hex : ∀ c ∈ w, c.isHexDigit = true) :
    utf8Length w = w.length := by
  induction w with
  | nil => rfl
  | cons c w ih =>
    obtain ⟨here, rest⟩ := List.forall_mem_cons.mp hex
    have tail := ih rest
    simp only [utf8Length] at tail
    simp only [utf8Length, List.map_cons, List.sum_cons, utf8Size_hexDigit here, tail,
      List.length_cons]
    omega

/-- A plus sign before three digits is read like a zero. -/
def mendPlus (c : Char) : Char := if c = '+' then '0' else c

theorem splitSign_unsigned (s : List Char) :
    splitSign false s = (false, if s.head? = some '+' then s.tail else s) := by
  unfold splitSign
  split
  · rfl
  · rfl
  · rename_i unsigned _
    cases s with
    | nil => rfl
    | cons c s =>
      have other : c ≠ '+' := by
        rintro rfl
        exact unsigned s rfl
      simp [other]

theorem u16OfInt?_some {n unit : Nat} : u16OfInt? n = some unit ↔ n < 2 ^ 16 ∧ n = unit := by
  unfold u16OfInt?
  split
  · simp only [Int.toNat_natCast, Option.some.injEq]
    omega
  · simp only [reduceCtorEq, false_iff]
    omega

theorem u16_read {s : List Char} {unit : Nat} :
    fromStrRadix 16 false u16OfInt? s = .ok unit ↔
      ∃ w, w = (if s.head? = some '+' then s.tail else s) ∧ w ≠ [] ∧
        (∀ c ∈ w, c.isHexDigit = true) ∧ unit < 2 ^ 16 ∧
        w.foldl (fun sum c => sum * 16 + hexDigit c) 0 = unit := by
  simp only [fromStrRadix_ok, splitSign_unsigned, magnitude_sixteen, Bool.false_eq_true,
    if_false, u16OfInt?_some, exists_eq_left]
  constructor
  · rintro ⟨some, n, ⟨hex, sum⟩, small, rfl⟩
    exact ⟨some, hex, small, sum⟩
  · rintro ⟨some, hex, small, sum⟩
    exact ⟨some, unit, ⟨hex, sum⟩, small, rfl⟩

theorem hexDigit_lt {c : Char} (hex : c.isHexDigit = true) : hexDigit c < 16 := by
  have range := isHexDigit_range.mp hex
  have lower : ('a' ≤ c) ↔ 97 ≤ c.toNat := char_le
  simp only [hexDigit, isDigit_range, lower]
  split
  · omega
  · split <;> omega

theorem hex4_iff {a b c d : Char} {unit : Nat} :
    Hex4 [a, b, c, d] unit ↔ (∀ e ∈ [a, b, c, d], e.isHexDigit = true) ∧
      [a, b, c, d].foldl (fun sum e => sum * 16 + hexDigit e) 0 = unit := by
  constructor
  · rintro ⟨ha, hb, hc, hd⟩
    simp [ha, hb, hc, hd]
  · rintro ⟨hex, rfl⟩
    simp only [List.forall_mem_cons, List.not_mem_nil, false_imp_iff, implies_true,
      and_true] at hex
    obtain ⟨ha, hb, hc, hd⟩ := hex
    simpa using Hex4.digits ha hb hc hd

theorem hex4_lt {g : List Char} {unit : Nat} (group : Hex4 g unit) : unit < 2 ^ 16 := by
  cases group with
  | digits ha hb hc hd =>
    have := hexDigit_lt ha
    have := hexDigit_lt hb
    have := hexDigit_lt hc
    have := hexDigit_lt hd
    omega

theorem u16_group {a b c d : Char} {unit : Nat} :
    fromStrRadix 16 false u16OfInt? [a, b, c, d] = .ok unit ↔
      Hex4 [mendPlus a, b, c, d] unit := by
  rw [u16_read]
  constructor
  · rintro ⟨w, rfl, -, hex, -, sum⟩
    by_cases plus : a = '+'
    · subst plus
      refine hex4_iff.mpr ⟨List.forall_mem_cons.mpr ⟨by decide, hex⟩, ?_⟩
      simpa [mendPlus, hexDigit] using sum
    · simp only [List.head?_cons, Option.some.injEq, plus, if_false] at hex sum
      simpa only [mendPlus, if_neg plus] using hex4_iff.mpr ⟨hex, sum⟩
  · intro group
    have small := hex4_lt group
    obtain ⟨hex, sum⟩ := hex4_iff.mp group
    refine ⟨_, rfl, ?_⟩
    by_cases plus : a = '+'
    · subst plus
      refine ⟨by simp, (List.forall_mem_cons.mp hex).2, small, ?_⟩
      simpa [mendPlus, hexDigit] using sum
    · simp only [mendPlus, if_neg plus] at hex sum
      simp only [List.head?_cons, Option.some.injEq, plus, if_false]
      exact ⟨by simp, hex, small, sum⟩

theorem utf8Size_group {a b c d : Char} {unit : Nat} (group : Hex4 [mendPlus a, b, c, d] unit) :
    a.utf8Size = 1 ∧ b.utf8Size = 1 ∧ c.utf8Size = 1 ∧ d.utf8Size = 1 := by
  have hex := (hex4_iff.mp group).1
  simp only [List.forall_mem_cons, List.not_mem_nil, false_imp_iff, implies_true,
    and_true] at hex
  refine ⟨?_, utf8Size_hexDigit hex.2.1, utf8Size_hexDigit hex.2.2.1,
    utf8Size_hexDigit hex.2.2.2⟩
  by_cases plus : a = '+'
  · subst plus
    rfl
  · exact utf8Size_hexDigit (by simpa [mendPlus, plus] using hex.1)

theorem u16_length {s : List Char} {unit : Nat}
    (read : fromStrRadix 16 false u16OfInt? s = .ok unit) : utf8Length s = s.length := by
  obtain ⟨w, shape, -, hex, -⟩ := u16_read.mp read
  have size := utf8Length_hex hex
  split at shape
  · rename_i plus
    cases s with
    | nil => rfl
    | cons c s =>
      cases plus
      cases shape
      simp only [utf8Length, List.tail_cons] at size
      simp only [utf8Length, List.map_cons, List.sum_cons, size, List.length_cons]
      rw [show Char.utf8Size '+' = 1 from rfl, Nat.add_comm]
  · exact shape ▸ size

theorem hex4_ok {cs rest : List Char} {unit : Nat} :
    hex4 cs = .ok (unit, rest) ↔
      ∃ a b c d, cs = a :: b :: c :: d :: rest ∧ Hex4 [mendPlus a, b, c, d] unit := by
  constructor
  · intro read
    unfold hex4 at read
    split at read
    · simp at read
    · rename_i enough
      obtain ⟨⟨slice, tail⟩, found, parsing⟩ := bind_ok.mp read
      obtain ⟨value, parsed, same⟩ := bind_ok.mp parsing
      cases same
      obtain ⟨rfl, size⟩ := utf8Slice_ok (orFail_ok.mp found) (by omega)
      have group := orFail_ok.mp parsed
      rw [u16_length group] at size
      match slice, size, group with
      | [a, b, c, d], _, group => exact ⟨a, b, c, d, rfl, u16_group.mp group⟩
  · rintro ⟨a, b, c, d, rfl, group⟩
    obtain ⟨sa, sb, sc, sd⟩ := utf8Size_group group
    have enough : ¬ utf8Length (a :: b :: c :: d :: rest) < 4 := by
      simp only [utf8Length, List.map_cons, List.sum_cons, sa, sb, sc, sd]
      omega
    have slice : utf8Slice 0 4 (a :: b :: c :: d :: rest) = .ok ([a, b, c, d], rest) := by
      simp [utf8Slice, sa, sb, sc, sd]
    rw [hex4, if_neg enough, slice]
    simp [orFail, u16_group.mpr group]

theorem group_plain {g : List Char} {unit : Nat} (group : Hex4 g unit) : '\\' ∉ g := by
  cases group with
  | digits ha hb hc hd =>
    intro member
    simp only [List.mem_cons, List.not_mem_nil, or_false] at member
    rcases member with rfl | rfl | rfl | rfl <;> contradiction

theorem mend_group {a : Char} {cs : List Char} (plain : a ≠ '\\') :
    mendFrom .group (a :: cs) = mendPlus a :: mend cs := by
  simp [mendFrom, mendPlus, mend, plain]

theorem hex4_sound {cs rest : List Char} {unit : Nat} (read : hex4 cs = .ok (unit, rest)) :
    ∃ g, Hex4 g unit ∧ mendFrom .group cs = g ++ mend rest := by
  obtain ⟨a, b, c, d, rfl, group⟩ := hex4_ok.mp read
  have plain := group_plain group
  simp only [List.mem_cons, not_or] at plain
  have first : a ≠ '\\' := by
    rintro rfl
    exact plain.1 rfl
  have others : '\\' ∉ [b, c, d] := by simp [plain.2.1, plain.2.2.1, plain.2.2.2.1]
  refine ⟨[mendPlus a, b, c, d], group, ?_⟩
  rw [mend_group first]
  exact congrArg (mendPlus a :: ·) (mend_append (w := [b, c, d]) others)

/-- Four hexadecimal digits are left as they are. -/
theorem mendFrom_group {g cs : List Char} {unit : Nat} (group : Hex4 g unit) :
    mendFrom .group (g ++ cs) = g ++ mend cs := by
  have plain := group_plain group
  cases group with
  | @digits a b c d ha hb hc hd =>
    have first : a ≠ '\\' := by
      rintro rfl
      exact plain List.mem_cons_self
    have digit : mendPlus a = a := by
      refine if_neg ?_
      rintro rfl
      exact absurd ha (by decide)
    have others : '\\' ∉ [b, c, d] := fun member => plain (List.mem_cons_of_mem _ member)
    rw [List.cons_append, mend_group first, digit, mend_append others]
    rfl

theorem hex4_complete {g cs ds : List Char} {unit : Nat} (group : Hex4 g unit)
    (shape : mendFrom .group cs = g ++ ds) : ∃ rest, hex4 cs = .ok (unit, rest) ∧ mend rest = ds := by
  have plain := group_plain group
  cases group with
  | @digits a b c d ha hb hc hd =>
    cases cs with
    | nil => simp [mendFrom] at shape
    | cons e cs =>
      have first : e ≠ '\\' := by
        rintro rfl
        exact plain (List.mem_cons.mpr (.inl (List.cons.inj shape).1))
      rw [mend_group first] at shape
      obtain ⟨rfl, tail⟩ := List.cons.inj shape
      have others : '\\' ∉ [b, c, d] := fun member => plain (List.mem_cons_of_mem _ member)
      obtain ⟨rest, rfl, last⟩ := (mend_eq_append others).mp tail
      exact ⟨rest, hex4_ok.mpr ⟨e, b, c, d, rfl, .digits ha hb hc hd⟩, last⟩

theorem charFromU32_ok {scalar : Nat} {c : Char} :
    charFromU32 scalar = .ok c ↔ c.toNat = scalar := by
  unfold charFromU32
  split
  · rename_i valid
    constructor
    · intro read
      cases read
      rw [Char.ofNat, dif_pos valid]
      rfl
    · rintro rfl
      rw [Char.ofNat_toNat]
  · rename_i invalid
    simp only [bail_ne_ok, false_iff]
    rintro rfl
    exact invalid c.valid

theorem unicodeEscape_sound {cs rest : List Char} {c : Char}
    (read : unicodeEscape cs = .ok (c, rest)) :
    ∃ w, CharText c ('\\' :: 'u' :: w) ∧ mendFrom .group cs = w ++ mend rest := by
  obtain ⟨⟨first, afterFirst⟩, found, reading⟩ := bind_ok.mp read
  obtain ⟨g, group, shape⟩ := hex4_sound found
  simp only at reading
  split at reading
  · rename_i high
    obtain ⟨afterSlash, slash, reading⟩ := bind_ok.mp reading
    obtain ⟨afterLetter, letter, reading⟩ := bind_ok.mp reading
    obtain ⟨⟨second, afterSecond⟩, found, reading⟩ := bind_ok.mp reading
    obtain ⟨h, other, tail⟩ := hex4_sound found
    simp only at reading
    split at reading
    · rename_i low
      obtain ⟨scalar, known, same⟩ := bind_ok.mp reading
      cases same
      have value := charFromU32_ok.mp known
      rw [take_ok.mp slash, take_ok.mp letter] at shape
      refine ⟨g ++ '\\' :: 'u' :: h, .pair group other high low ?_, ?_⟩
      · rw [value, Nat.shiftLeft_eq, Nat.add_assoc]
      · rw [shape, List.append_assoc]
        exact congrArg (fun tail => g ++ '\\' :: 'u' :: tail) tail
    · simp at reading
  · split at reading
    · simp at reading
    · obtain ⟨scalar, known, same⟩ := bind_ok.mp reading
      cases same
      exact ⟨g, .unit (charFromU32_ok.mp known ▸ group), shape⟩

theorem not_surrogate (c : Char) : isHigh c.toNat = false ∧ isLow c.toNat = false := by
  have valid : c.toNat < 0xD800 ∨ 0xDFFF < c.toNat ∧ c.toNat < 0x110000 := c.valid
  simp only [isHigh, isLow, Bool.and_eq_false_iff, decide_eq_false_iff_not]
  omega

theorem unicodeEscape_complete {w cs ds : List Char} {c : Char}
    (text : CharText c ('\\' :: 'u' :: w)) (shape : mendFrom .group cs = w ++ ds) :
    ∃ rest, unicodeEscape cs = .ok (c, rest) ∧ mend rest = ds := by
  cases text with
  | short member => simp [shortEscapes] at member
  | unit group =>
    obtain ⟨rest, read, last⟩ := hex4_complete group shape
    have known : charFromU32 c.toNat = .ok c := charFromU32_ok.mpr rfl
    refine ⟨rest, ?_, last⟩
    simp [unicodeEscape, read, not_surrogate c, known]
  | @pair g h high low _ group other isHigh isLow value =>
    rw [List.append_assoc] at shape
    obtain ⟨afterFirst, first, between⟩ := hex4_complete group shape
    obtain ⟨afterPair, rfl, tail⟩ : ∃ afterPair, afterFirst = '\\' :: 'u' :: afterPair ∧
        mendFrom .group afterPair = h ++ ds := by
      rcases afterFirst with _ | ⟨a, _ | ⟨b, afterPair⟩⟩
      · cases between
      · cases between
      · obtain ⟨rfl, between⟩ := List.cons.inj between
        obtain ⟨rfl, tail⟩ := List.cons.inj between
        exact ⟨afterPair, rfl, tail⟩
    obtain ⟨rest, second, last⟩ := hex4_complete other tail
    have known : charFromU32 (0x10000 + ((high - 0xD800) <<< 10) + (low - 0xDC00)) = .ok c := by
      rw [charFromU32_ok, value, Nat.shiftLeft_eq, Nat.add_assoc]
    refine ⟨rest, ?_, last⟩
    simp [unicodeEscape, first, isHigh, take, consume, second, isLow, known]

theorem escapeSequence_sound {cs rest : List Char} {c : Char}
    (read : escapeSequence cs = .ok (c, rest)) :
    ∃ w, CharText c ('\\' :: w) ∧ mendFrom .escaped cs = w ++ mend rest := by
  unfold escapeSequence at read
  split at read
  case h_10 tail =>
    obtain ⟨w, text, shape⟩ := unicodeEscape_sound read
    exact ⟨'u' :: w, text, congrArg ('u' :: ·) shape⟩
  case h_1 => simp at read
  case h_11 => simp at read
  all_goals
    cases read
    exact ⟨[_], .short (by simp [shortEscapes]), rfl⟩

theorem escapeSequence_complete {w cs ds : List Char} {c : Char}
    (text : CharText c ('\\' :: w)) (shape : mendFrom .escaped cs = w ++ ds) :
    ∃ rest, escapeSequence cs = .ok (c, rest) ∧ mend rest = ds := by
  cases cs with
  | nil =>
    cases text with
    | unescaped _ _ slash => exact absurd rfl slash
    | short => simp [mendFrom] at shape
    | unit => simp [mendFrom] at shape
    | pair => simp [mendFrom] at shape
  | cons d cs =>
    cases text with
    | unescaped _ _ slash => exact absurd rfl slash
    | short member =>
      obtain ⟨rfl, tail⟩ := List.cons.inj shape
      refine ⟨cs, ?_, ?_⟩
      · simp only [shortEscapes, List.mem_cons, Prod.mk.injEq, List.not_mem_nil, or_false] at member
        rcases member with ⟨rfl, rfl⟩ | ⟨rfl, rfl⟩ | ⟨rfl, rfl⟩ | ⟨rfl, rfl⟩ | ⟨rfl, rfl⟩ |
          ⟨rfl, rfl⟩ | ⟨rfl, rfl⟩ | ⟨rfl, rfl⟩ <;> rfl
      · have other : d ≠ 'u' := by
          rintro rfl
          simp [shortEscapes] at member
        simpa [other, mend] using tail
    | unit group =>
      obtain ⟨rfl, tail⟩ := List.cons.inj shape
      exact unicodeEscape_complete (.unit group) tail
    | pair group other high low value =>
      obtain ⟨rfl, tail⟩ := List.cons.inj shape
      exact unicodeEscape_complete (.pair group other high low value) tail

theorem charText_length {c : Char} {w : List Char} (text : CharText c w) : 0 < w.length := by
  cases text <;> simp

/-- A text of one character starts a backslash escape exactly when it does not stand for
itself. -/
theorem charText_cases {c : Char} {w : List Char} (text : CharText c w) :
    (w = [c] ∧ 0x20 ≤ c.toNat ∧ c ≠ '"' ∧ c ≠ '\\') ∨ ∃ tail, w = '\\' :: tail := by
  cases text with
  | unescaped printable quote slash => exact .inl ⟨rfl, printable, quote, slash⟩
  | short => exact .inr ⟨_, rfl⟩
  | unit => exact .inr ⟨_, rfl⟩
  | pair => exact .inr ⟨_, rfl⟩

theorem mend_escaped (cs : List Char) : mend ('\\' :: cs) = '\\' :: mendFrom .escaped cs := rfl

theorem stringLoop_sound {rounds : Nat} {output cs s rest : List Char}
    (read : stringLoop rounds output cs = .ok (s, rest)) :
    ∃ chars body, BodyText chars body ∧ s = output ++ chars ∧
      mend cs = body ++ '"' :: mend rest := by
  induction rounds generalizing output cs with
  | zero => simp [stringLoop] at read
  | succ rounds ih =>
    unfold stringLoop at read
    split at read
    · simp at read
    · rename_i byte tail
      split at read
      · rename_i closing
        cases read
        subst closing
        exact ⟨[], [], .nil, by simp, by rw [mend_cons (by decide)]; rfl⟩
      · rename_i inside
        split at read
        · rename_i slash
          obtain ⟨⟨c, after⟩, escape, reading⟩ := bind_ok.mp read
          obtain ⟨w, text, shape⟩ := escapeSequence_sound escape
          obtain ⟨chars, body, inner, same, left⟩ := ih reading
          refine ⟨c :: chars, '\\' :: w ++ body, .cons text inner, by simp [same], ?_⟩
          rw [slash, mend_escaped, shape, left]
          simp
        · rename_i plain
          split at read
          · simp at read
          · rename_i printable
            obtain ⟨chars, body, inner, same, left⟩ := ih read
            refine ⟨byte :: chars, [byte] ++ body,
              .cons (.unescaped (by omega) inside plain) inner, by simp [same], ?_⟩
            rw [mend_cons plain, left]
            simp

theorem stringLoop_complete {chars body : List Char} (inner : BodyText chars body)
    {rounds : Nat} {output cs ds : List Char} (enough : cs.length < rounds)
    (shape : mend cs = body ++ '"' :: ds) :
    ∃ rest, stringLoop rounds output cs = .ok (output ++ chars, rest) ∧ mend rest = ds := by
  induction inner generalizing rounds output cs with
  | nil =>
    obtain ⟨rest, rfl, last⟩ := (mend_eq_cons (by decide)).mp shape
    obtain ⟨n, rfl⟩ : ∃ n, rounds = n + 1 := ⟨rounds - 1, by omega⟩
    exact ⟨rest, by simp [stringLoop], last⟩
  | @cons c chars w body text inner ih =>
    obtain ⟨n, rfl⟩ : ∃ n, rounds = n + 1 := ⟨rounds - 1, by omega⟩
    have size := congrArg List.length shape
    simp only [length_mend, List.length_append, List.length_cons] at size
    have some := charText_length text
    rw [List.append_assoc] at shape
    rcases charText_cases text with ⟨rfl, printable, quote, slash⟩ | ⟨tail, rfl⟩
    · obtain ⟨rest, rfl, left⟩ : ∃ rest, cs = c :: rest ∧ mend rest = body ++ '"' :: ds :=
        (mend_eq_cons slash).mp shape
      have sizes := congrArg List.length left
      simp only [length_mend, List.length_append, List.length_cons] at sizes enough
      obtain ⟨after, read, last⟩ := @ih n (output ++ [c]) rest (by omega) left
      refine ⟨after, ?_, last⟩
      simp [stringLoop, quote, slash, Nat.not_lt.mpr printable, read]
    · obtain ⟨escape, rfl, tailShape⟩ : ∃ escape, cs = '\\' :: escape ∧
          mendFrom .escaped escape = tail ++ (body ++ '"' :: ds) := by
        cases cs with
        | nil => simp at shape
        | cons d escape =>
          obtain ⟨rfl, tailShape⟩ := List.cons.inj shape
          exact ⟨escape, rfl, tailShape⟩
      obtain ⟨after, found, left⟩ := escapeSequence_complete text tailShape
      have sizes := congrArg List.length left
      simp only [length_mend, List.length_append, List.length_cons] at sizes enough size some
      obtain ⟨rest, read, last⟩ := @ih n (output ++ [c]) after (by omega) left
      refine ⟨rest, ?_, last⟩
      simp [stringLoop, found, read]

theorem string_sound {N : Normalization} {cs s rest : List Char}
    (read : string N cs = .ok (s, rest)) :
    ∃ chars w, StringText chars w ∧ s = N.nfc chars ∧ mend cs = w ++ mend rest := by
  obtain ⟨inside, opened, reading⟩ := bind_ok.mp read
  obtain ⟨⟨output, after⟩, loop, same⟩ := bind_ok.mp reading
  cases same
  obtain ⟨chars, body, inner, rfl, shape⟩ := stringLoop_sound loop
  refine ⟨_, '"' :: (body ++ ['"']), .quoted inner, rfl, ?_⟩
  rw [take_ok.mp opened, mend_cons (by decide), shape]
  simp

theorem string_complete {N : Normalization} {cs chars w ds : List Char}
    (text : StringText chars w) (shape : mend cs = w ++ ds) :
    ∃ rest, string N cs = .ok (N.nfc chars, rest) ∧ mend rest = ds := by
  cases text with
  | @quoted body inner =>
    rw [List.cons_append, List.append_assoc] at shape
    obtain ⟨inside, rfl, left⟩ := (mend_eq_cons (by decide)).mp shape
    obtain ⟨rest, read, last⟩ :=
      @stringLoop_complete _ _ inner _ [] _ _ (Nat.lt_succ_self _) left
    refine ⟨rest, ?_, last⟩
    simp [string, take, consume, read]

end CarsinOS.Canonical
