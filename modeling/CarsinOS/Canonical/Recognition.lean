import CarsinOS.Canonical.Containers

/-! The strict parser accepts the mended texts of the grammar and returns what they denote.
A text is read as the grammar has it unless a `\u` escape in it has a plus sign. -/
namespace CarsinOS.Canonical
open CarsinOS.Lib

theorem value_sound {N : Normalization} {n : Nat} (reads : ReadsValues N n (value N n))
    {cs rest : List Char} {v : CanonicalValue} (read : value N (n + 1) cs = .ok (v, rest)) :
    ∃ t w, ValueText t w ∧ Fits N (n + 1) t ∧ meaning N t = v ∧
      mend (whitespace cs) = w ++ mend rest := by
  simp only [value] at read
  split at read
  · simp at read
  · rename_i byte tail shape
    split at read
    · obtain ⟨after, word, same⟩ := bind_ok.mp read
      cases same
      refine ⟨.null, _, .null, fits_iff.mpr ⟨trivial, by simp [Json.children]⟩, rfl, ?_⟩
      rw [literal_ok.mp word, mend_append (by decide)]
    split at read
    · obtain ⟨after, word, same⟩ := bind_ok.mp read
      cases same
      refine ⟨.bool true, _, .yes, fits_iff.mpr ⟨trivial, by simp [Json.children]⟩, rfl, ?_⟩
      rw [literal_ok.mp word, mend_append (by decide)]
    split at read
    · obtain ⟨after, word, same⟩ := bind_ok.mp read
      cases same
      refine ⟨.bool false, _, .no, fits_iff.mpr ⟨trivial, by simp [Json.children]⟩, rfl, ?_⟩
      rw [literal_ok.mp word, mend_append (by decide)]
    split at read
    · obtain ⟨⟨s, after⟩, quoted, same⟩ := bind_ok.mp read
      cases same
      obtain ⟨chars, w, text, rfl, split⟩ := string_sound quoted
      exact ⟨.str chars, w, .str text, fits_iff.mpr ⟨trivial, by simp [Json.children]⟩, rfl, split⟩
    split at read
    · obtain ⟨⟨vs, after⟩, items, same⟩ := bind_ok.mp read
      cases same
      obtain ⟨ts, w, text, fits, rfl, split⟩ := array_sound reads items
      exact ⟨.arr ts, w, text, fits, by rw [meaning, meaningItems_map], split⟩
    split at read
    · obtain ⟨⟨es, after⟩, fields, same⟩ := bind_ok.mp read
      cases same
      obtain ⟨fs, w, text, fits, rfl, split⟩ := object_sound reads fields
      exact ⟨.obj fs, w, text, fits, by rw [meaning], split⟩
    split at read
    · obtain ⟨⟨i, after⟩, number, same⟩ := bind_ok.mp read
      cases same
      obtain ⟨w, split, text, plain, known, -⟩ := integer_ok.mp number
      refine ⟨.num w, w, .num text, fits_iff.mpr ⟨plain, by simp [Json.children]⟩, ?_, ?_⟩
      · rw [meaning, known, I64.ofInt?_val]
        rfl
      · rw [split, mend_append (number_plain text)]
    · simp at read

theorem number_head {w : List Char} (text : NumberText w) :
    ∃ c tail, w = c :: tail ∧ (c = '-' ∨ c.isDigit = true) := by
  obtain ⟨sign, whole, -, -⟩ := text
  rcases sign with rfl | rfl
  · cases whole with
    | zero => exact ⟨'0', _, rfl, .inr rfl⟩
    | positive digit => exact ⟨_, _, rfl, .inr digit⟩
  · exact ⟨'-', _, rfl, .inl rfl⟩

/-- A value that starts like a number is read as one. -/
theorem value_number {N : Normalization} {n : Nat} {cs w rest : List Char}
    (head : ∃ c tail, w = c :: tail ∧ (c = '-' ∨ c.isDigit = true))
    (opens : whitespace cs = w ++ rest) :
    value N (n + 1) cs = (integer (w ++ rest) >>= fun p => .ok (.integer p.1, p.2)) := by
  obtain ⟨c, tail, rfl, first⟩ := head
  have other : ∀ d : Char, d ≠ '-' → d.isDigit = false → c ≠ d := by
    rintro d minus digit rfl
    rcases first with rfl | yes
    · exact minus rfl
    · rw [digit] at yes
      cases yes
  have number : (c = '-' || c.isDigit) = true := by
    rcases first with rfl | yes
    · rfl
    · simp [yes]
  simp only [value, opens, List.cons_append]
  rw [if_neg (other 'n' (by decide) rfl), if_neg (other 't' (by decide) rfl),
    if_neg (other 'f' (by decide) rfl), if_neg (other '"' (by decide) rfl),
    if_neg (other '[' (by decide) rfl), if_neg (other '{' (by decide) rfl), if_pos number]

theorem value_complete {N : Normalization} {n : Nat} (reads : ReadsValues N n (value N n))
    {t : Json} {before w cs ds : List Char} (blank : Blank before) (text : ValueText t w)
    (fits : Fits N (n + 1) t) (ends : Delimited ds) (shape : mend cs = before ++ (w ++ ds)) :
    ∃ rest, value N (n + 1) cs = .ok (meaning N t, rest) ∧ mend rest = ds := by
  have inner := whitespace_trims blank (value_starts text) shape
  cases text with
  | null =>
    obtain ⟨rest, opens, last⟩ := (mend_eq_append (by decide)).mp inner
    exact ⟨rest, by simp [value, opens, literal, meaning], last⟩
  | yes =>
    obtain ⟨rest, opens, last⟩ := (mend_eq_append (by decide)).mp inner
    exact ⟨rest, by simp [value, opens, literal, meaning], last⟩
  | no =>
    obtain ⟨rest, opens, last⟩ := (mend_eq_append (by decide)).mp inner
    exact ⟨rest, by simp [value, opens, literal, meaning], last⟩
  | @num w number =>
    obtain ⟨rest, opens, last⟩ := (mend_eq_append (number_plain number)).mp inner
    obtain ⟨plain, nonzero, range⟩ := (fits_iff.mp fits).1
    have read : integer (w ++ rest) = .ok (⟨signedValue w, range⟩, rest) :=
      integer_ok.mpr ⟨w, rfl, number, ⟨plain, nonzero, range⟩, rfl,
        delimited_mend.mp (last ▸ ends)⟩
    have known : I64.ofInt? (signedValue w) = some ⟨signedValue w, range⟩ :=
      I64.ofInt?_some.mpr rfl
    refine ⟨rest, ?_, last⟩
    rw [value_number (number_head number) opens, read, meaning, known, Option.getD_some, ok_bind]
  | str quoted =>
    obtain ⟨rest, read, last⟩ := string_complete (N := N) quoted inner
    cases quoted with
    | quoted body =>
      obtain ⟨tail, opens, -⟩ := (mend_eq_cons (by decide)).mp inner
      rw [opens] at read
      exact ⟨rest, by simp [value, opens, read, meaning], last⟩
  | @emptyArr w blank =>
    obtain ⟨rest, read, last⟩ := array_complete reads (.emptyArr blank) fits inner
    obtain ⟨tail, opens, -⟩ := (mend_eq_cons (by decide)).mp inner
    rw [opens] at read
    exact ⟨rest, by simp [value, opens, read, meaning, meaningItems], last⟩
  | @arr ts w texts =>
    obtain ⟨rest, read, last⟩ := array_complete reads (.arr texts) fits inner
    obtain ⟨tail, opens, -⟩ := (mend_eq_cons (by decide)).mp inner
    rw [opens] at read
    exact ⟨rest, by simp [value, opens, read, meaning, meaningItems_map], last⟩
  | @emptyObj w blank =>
    obtain ⟨rest, read, last⟩ := object_complete reads (.emptyObj blank) fits inner
    obtain ⟨tail, opens, -⟩ := (mend_eq_cons (by decide)).mp inner
    rw [opens] at read
    exact ⟨rest, by simp [value, opens, read, meaning], last⟩
  | @obj fs w texts =>
    obtain ⟨rest, read, last⟩ := object_complete reads (.obj texts) fits inner
    obtain ⟨tail, opens, -⟩ := (mend_eq_cons (by decide)).mp inner
    rw [opens] at read
    exact ⟨rest, by simp [value, opens, read, meaning], last⟩

/-- The reader of a value, at every nesting level that is left. -/
theorem value_reads (N : Normalization) (levels : Nat) : ReadsValues N levels (value N levels) := by
  induction levels with
  | zero =>
    constructor
    · intro cs v rest read
      simp [value] at read
    · intro t before w cs ds _ _ fits
      obtain ⟨n, same⟩ := fits_pos fits
      cases same
  | succ n reads =>
    constructor
    · intro cs v rest read
      obtain ⟨before, blank, split⟩ := whitespace_split cs
      obtain ⟨t, w, text, fits, same, shape⟩ := value_sound reads read
      exact ⟨t, before, w, blank, text, fits, same, by rw [split, shape]⟩
    · intro t before w cs ds
      exact value_complete reads

theorem blank_delimits {cs : List Char} (blank : Blank cs) : Delimited cs := by
  cases cs with
  | nil => exact delimited_nil
  | cons b before =>
    have first := blank b List.mem_cons_self
    simp only [isBlank, Bool.or_eq_true, decide_eq_true_eq] at first
    rcases first with ((rfl | rfl) | rfl) | rfl <;> exact ⟨rfl, rfl⟩

theorem blank_whitespace {cs : List Char} (blank : Blank cs) : whitespace cs = [] := by
  have all : whitespace (cs ++ []) = whitespace [] := whitespace_blank blank
  rwa [List.append_nil] at all

theorem parseStrictJson_ok {N : Normalization} {s : List Char} {v : CanonicalValue} :
    parseStrictJson N s = .ok v ↔ Denotes N (mend s) v := by
  unfold parseStrictJson Denotes
  rw [mend_head]
  split
  · rename_i bom
    simp [bom]
  · rename_i clear
    constructor
    · intro read
      obtain ⟨⟨u, rest⟩, found, ending⟩ := bind_ok.mp read
      simp only at ending
      split at ending
      · rename_i finished
        cases ending
        obtain ⟨t, before, w, blank, text, fits, same, shape⟩ := (value_reads N 32).sound found
        obtain ⟨after, alsoBlank, tail⟩ := whitespace_split rest
        rw [finished, mend_nil, List.append_nil] at tail
        rw [shape, tail]
        exact ⟨clear, t, .padded blank text alsoBlank, fits, same⟩
      · simp at ending
    · rintro ⟨-, t, text, fits, rfl⟩
      obtain ⟨m, shape⟩ : ∃ m, mend s = m := ⟨_, rfl⟩
      rw [shape] at text
      obtain ⟨blank, inner, after⟩ := text
      obtain ⟨rest, read, last⟩ :=
        (value_reads N 32).complete blank inner fits (blank_delimits after) shape
      have finished : whitespace rest = [] := by
        rw [← mend_eq_nil, ← mend_whitespace, last, blank_whitespace after]
      simp [read, finished]

/-! Texts of the grammar have four hexadecimal digits in every escape already. -/

/-- The text is left as it is, whatever follows it. -/
def Settled (w : List Char) : Prop := ∀ rest, mend (w ++ rest) = w ++ mend rest

theorem settled_plain {w : List Char} (plain : '\\' ∉ w) : Settled w :=
  fun _ => mend_append plain

theorem settled_append {v w : List Char} (first : Settled v) (second : Settled w) :
    Settled (v ++ w) := by
  intro rest
  rw [List.append_assoc, first, second, List.append_assoc]

theorem settled_cons {c : Char} {w : List Char} (plain : c ≠ '\\') (tail : Settled w) :
    Settled (c :: w) := by
  intro rest
  rw [List.cons_append, mend_cons plain, tail, List.cons_append]

theorem settled_character {c : Char} {w : List Char} (text : CharText c w) : Settled w := by
  intro rest
  cases text with
  | unescaped _ _ slash => exact mend_cons slash
  | @short e c member =>
    have other : e ≠ 'u' := by
      rintro rfl
      simp [shortEscapes] at member
    simp [mend, mendFrom, other]
  | unit group => exact congrArg ('\\' :: 'u' :: ·) (mendFrom_group group)
  | @pair g h _ _ _ group other =>
    have second : mend ('\\' :: 'u' :: (h ++ rest)) = '\\' :: 'u' :: (h ++ mend rest) :=
      congrArg ('\\' :: 'u' :: ·) (mendFrom_group other)
    have first : mend ('\\' :: 'u' :: (g ++ '\\' :: 'u' :: (h ++ rest))) = _ :=
      congrArg ('\\' :: 'u' :: ·) (mendFrom_group group)
    simpa [second] using first

theorem settled_body {s body : List Char} (text : BodyText s body) : Settled body := by
  induction text with
  | nil => exact settled_plain List.not_mem_nil
  | cons here _ ih => exact settled_append (settled_character here) ih

theorem settled_string {s w : List Char} (text : StringText s w) : Settled w := by
  cases text with
  | quoted body =>
    exact settled_cons (by decide) (settled_append (settled_body body) (settled_plain (by decide)))

mutual
theorem settled_value {t : Json} {w : List Char} : ValueText t w → Settled w
  | .null => settled_plain (by decide)
  | .yes => settled_plain (by decide)
  | .no => settled_plain (by decide)
  | .num number => settled_plain (number_plain number)
  | .str quoted => settled_string quoted
  | .emptyArr blank => settled_cons (by decide)
      (settled_append (settled_plain (blank_plain blank)) (settled_plain (by decide)))
  | .arr items => settled_cons (by decide)
      (settled_append (settled_items items) (settled_plain (by decide)))
  | .emptyObj blank => settled_cons (by decide)
      (settled_append (settled_plain (blank_plain blank)) (settled_plain (by decide)))
  | .obj fields => settled_cons (by decide)
      (settled_append (settled_fields fields) (settled_plain (by decide)))

theorem settled_item {t : Json} {w : List Char} : ItemText t w → Settled w
  | .padded blank inner alsoBlank => settled_append (settled_plain (blank_plain blank))
      (settled_append (settled_value inner) (settled_plain (blank_plain alsoBlank)))

theorem settled_items {ts : List Json} {w : List Char} : ItemsText ts w → Settled w
  | .one item => settled_item item
  | .more item items =>
    settled_append (settled_item item) (settled_cons (by decide) (settled_items items))

theorem settled_field {f : List Char × Json} {w : List Char} : FieldText f w → Settled w
  | .field blank name alsoBlank item => settled_append (settled_plain (blank_plain blank))
      (settled_append (settled_string name) (settled_append (settled_plain (blank_plain alsoBlank))
        (settled_cons (by decide) (settled_item item))))

theorem settled_fields {fs : List (List Char × Json)} {w : List Char} :
    FieldsText fs w → Settled w
  | .one field => settled_field field
  | .more field fields =>
    settled_append (settled_field field) (settled_cons (by decide) (settled_fields fields))
end

theorem mend_of_denotes {N : Normalization} {s : List Char} {v : CanonicalValue}
    (denotes : Denotes N s v) : mend s = s := by
  obtain ⟨-, t, text, -⟩ := denotes
  simpa using settled_item text []

/-- Every text of the grammar is read as the value it denotes. -/
theorem parse_of_denotes {N : Normalization} {s : List Char} {v : CanonicalValue}
    (denotes : Denotes N s v) : parseStrictJson N s = .ok v := by
  rw [parseStrictJson_ok, mend_of_denotes denotes]
  exact denotes

/-- The parser and the grammar agree on a text: the same values, and the same rejection. -/
def ReadAsWritten (N : Normalization) (s : List Char) : Prop :=
  ∀ v, parseStrictJson N s = .ok v ↔ Denotes N s v

/-- The strict parser follows the grammar on every text but those that become texts of the
grammar only once a plus sign after `\u` is respelled as a zero. -/
theorem read_as_written_iff (N : Normalization) (s : List Char) :
    ReadAsWritten N s ↔ mend s = s ∨ ¬ ∃ v, Denotes N (mend s) v := by
  constructor
  · intro agree
    by_cases settled : mend s = s
    · exact .inl settled
    · refine .inr ?_
      rintro ⟨v, denotes⟩
      exact settled (mend_of_denotes ((agree v).mp (parseStrictJson_ok.mpr denotes)))
  · rintro (settled | foreign) v
    · rw [parseStrictJson_ok, settled]
    · constructor
      · intro read
        exact absurd ⟨v, parseStrictJson_ok.mp read⟩ foreign
      · intro denotes
        rw [mend_of_denotes denotes] at foreign
        exact absurd ⟨v, denotes⟩ foreign

theorem plus_escape_not_as_written :
    parseStrictJson asciiNormalization "\"\\u+041\"".toList = .ok (.string ['A']) ∧
      ¬ ReadAsWritten asciiNormalization "\"\\u+041\"".toList := by
  have read : parseStrictJson asciiNormalization "\"\\u+041\"".toList = .ok (.string ['A']) := rfl
  refine ⟨read, ?_⟩
  intro agree
  have settled := mend_of_denotes ((agree _).mp read)
  exact absurd settled (by decide)

end CarsinOS.Canonical
