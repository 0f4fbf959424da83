import CarsinOS.Lib.Json

/-! The JSON grammar of RFC 8259, as a relation between a tree and its texts. A string of the
tree is the sequence of scalar values its text denotes, so a text with an escaped surrogate
that is not part of a pair has no tree. -/
namespace CarsinOS.Lib

def isBlank (c : Char) : Bool := c = ' ' || c = '\n' || c = '\r' || c = '\t'

def Blank (w : List Char) : Prop := ∀ c ∈ w, isBlank c = true

/-! Numbers: `[ minus ] int [ frac ] [ exp ]`. -/

def Digits (w : List Char) : Prop := ∀ c ∈ w, c.isDigit = true

inductive IntText : List Char → Prop where
  | zero : IntText ['0']
  | positive {d : Char} {w : List Char} :
      d.isDigit = true → d ≠ '0' → Digits w → IntText (d :: w)

inductive FractionText : List Char → Prop where
  | none : FractionText []
  | some {w : List Char} : w ≠ [] → Digits w → FractionText ('.' :: w)

inductive ExponentText : List Char → Prop where
  | none : ExponentText []
  | some {e : Char} {sign w : List Char} :
      e = 'e' ∨ e = 'E' → sign = [] ∨ sign = ['+'] ∨ sign = ['-'] → w ≠ [] → Digits w →
      ExponentText (e :: (sign ++ w))

inductive NumberText : List Char → Prop where
  | number {minus whole fraction exponent : List Char} :
      minus = [] ∨ minus = ['-'] → IntText whole → FractionText fraction →
      ExponentText exponent → NumberText (minus ++ (whole ++ (fraction ++ exponent)))

/-! Strings. -/

def hexDigit (c : Char) : Nat :=
  if c.isDigit then c.toNat - 48 else if 'a' ≤ c then c.toNat - 87 else c.toNat - 55

/-- Four hexadecimal digits and the code unit they spell. -/
inductive Hex4 : List Char → Nat → Prop where
  | digits {a b c d : Char} :
      a.isHexDigit → b.isHexDigit → c.isHexDigit → d.isHexDigit →
      Hex4 [a, b, c, d]
        (((hexDigit a * 16 + hexDigit b) * 16 + hexDigit c) * 16 + hexDigit d)

/-- The letters that may follow a backslash, with the character each one stands for. -/
def shortEscapes : List (Char × Char) :=
  [('"', '"'), ('\\', '\\'), ('/', '/'), ('b', Char.ofNat 0x08), ('f', Char.ofNat 0x0C),
    ('n', '\n'), ('r', '\r'), ('t', '\t')]

def isHigh (unit : Nat) : Bool := 0xD800 ≤ unit && unit ≤ 0xDBFF

def isLow (unit : Nat) : Bool := 0xDC00 ≤ unit && unit ≤ 0xDFFF

inductive CharText : Char → List Char → Prop where
  | unescaped {c : Char} : 0x20 ≤ c.toNat → c ≠ '"' → c ≠ '\\' → CharText c [c]
  | short {e c : Char} : (e, c) ∈ shortEscapes → CharText c ['\\', e]
  | unit {g : List Char} {c : Char} : Hex4 g c.toNat → CharText c ('\\' :: 'u' :: g)
  | pair {g h : List Char} {high low : Nat} {c : Char} :
      Hex4 g high → Hex4 h low → isHigh high = true → isLow low = true →
      c.toNat = 0x10000 + ((high - 0xD800) * 0x400 + (low - 0xDC00)) →
      CharText c ('\\' :: 'u' :: (g ++ '\\' :: 'u' :: h))

inductive BodyText : List Char → List Char → Prop where
  | nil : BodyText [] []
  | cons {c : Char} {s w body : List Char} :
      CharText c w → BodyText s body → BodyText (c :: s) (w ++ body)

inductive StringText : List Char → List Char → Prop where
  | quoted {s body : List Char} : BodyText s body → StringText s ('"' :: (body ++ ['"']))

/-! Values; an item is a value with the white space around it. -/
mutual
inductive ValueText : Json → List Char → Prop where
  | null : ValueText .null ['n', 'u', 'l', 'l']
  | yes : ValueText (.bool true) ['t', 'r', 'u', 'e']
  | no : ValueText (.bool false) ['f', 'a', 'l', 's', 'e']
  | num {w : List Char} : NumberText w → ValueText (.num w) w
  | str {s w : List Char} : StringText s w → ValueText (.str s) w
  | emptyArr {w : List Char} : Blank w → ValueText (.arr []) ('[' :: (w ++ [']']))
  | arr {ts : List Json} {w : List Char} :
      ItemsText ts w → ValueText (.arr ts) ('[' :: (w ++ [']']))
  | emptyObj {w : List Char} : Blank w → ValueText (.obj []) ('{' :: (w ++ ['}']))
  | obj {fs : List (List Char × Json)} {w : List Char} :
      FieldsText fs w → ValueText (.obj fs) ('{' :: (w ++ ['}']))

inductive ItemText : Json → List Char → Prop where
  | padded {t : Json} {before w after : List Char} :
      Blank before → ValueText t w → Blank after → ItemText t (before ++ (w ++ after))

inductive ItemsText : List Json → List Char → Prop where
  | one {t : Json} {w : List Char} : ItemText t w → ItemsText [t] w
  | more {t : Json} {ts : List Json} {w rest : List Char} :
      ItemText t w → ItemsText ts rest → ItemsText (t :: ts) (w ++ ',' :: rest)

inductive FieldText : List Char × Json → List Char → Prop where
  | field {k : List Char} {t : Json} {before name after w : List Char} :
      Blank before → StringText k name → Blank after → ItemText t w →
      FieldText (k, t) (before ++ (name ++ (after ++ ':' :: w)))

inductive FieldsText : List (List Char × Json) → List Char → Prop where
  | one {f : List Char × Json} {w : List Char} : FieldText f w → FieldsText [f] w
  | more {f : List Char × Json} {fs : List (List Char × Json)} {w rest : List Char} :
      FieldText f w → FieldsText fs rest → FieldsText (f :: fs) (w ++ ',' :: rest)
end

/-- A JSON text: a value with white space around it. -/
def JsonText (t : Json) (s : List Char) : Prop := ItemText t s

theorem blank_nil : Blank [] := fun _ member => absurd member List.not_mem_nil

theorem blank_append {v w : List Char} (first : Blank v) (second : Blank w) : Blank (v ++ w) :=
  fun c member => (List.mem_append.mp member).elim (first c) (second c)

theorem item_padded {t : Json} {before w : List Char} (blank : Blank before)
    (text : ItemText t w) : ItemText t (before ++ w) := by
  obtain ⟨alsoBlank, inner, after⟩ := text
  simpa using ItemText.padded (blank_append blank alsoBlank) inner after

theorem items_padded {ts : List Json} {before w : List Char} (blank : Blank before)
    (texts : ItemsText ts w) : ItemsText ts (before ++ w) := by
  cases texts with
  | one text => exact .one (item_padded blank text)
  | more text texts => simpa using ItemsText.more (item_padded blank text) texts

theorem field_padded {f : List Char × Json} {before w : List Char} (blank : Blank before)
    (text : FieldText f w) : FieldText f (before ++ w) := by
  obtain ⟨alsoBlank, name, between, inner⟩ := text
  simpa using FieldText.field (blank_append blank alsoBlank) name between inner

theorem fields_padded {fs : List (List Char × Json)} {before w : List Char}
    (blank : Blank before) (texts : FieldsText fs w) : FieldsText fs (before ++ w) := by
  cases texts with
  | one text => exact .one (field_padded blank text)
  | more text texts => simpa using FieldsText.more (field_padded blank text) texts

/-- A value starts with an ASCII character that is neither white space nor the end of a
container. -/
def Starts (w : List Char) : Prop :=
  ∃ c tail, w = c :: tail ∧ isBlank c = false ∧ c ≠ ']' ∧ c ≠ '}' ∧ c.toNat < 128

theorem starts_digit {c : Char} {tail : List Char} (digit : c.isDigit = true) :
    Starts (c :: tail) := by
  have range := Char.isDigit_iff_toNat.mp digit
  refine ⟨c, tail, rfl, ?_, ?_, ?_, Nat.lt_of_le_of_lt range.2 (by decide)⟩
  · cases blank : isBlank c with
    | false => rfl
    | true =>
      simp only [isBlank, Bool.or_eq_true, decide_eq_true_eq] at blank
      rcases blank with ((rfl | rfl) | rfl) | rfl <;> exact absurd digit (by decide)
  · rintro rfl
    exact absurd digit (by decide)
  · rintro rfl
    exact absurd digit (by decide)

theorem number_starts {w : List Char} (text : NumberText w) : Starts w := by
  obtain ⟨sign, whole, -, -⟩ := text
  rcases sign with rfl | rfl
  · cases whole with
    | zero => exact starts_digit rfl
    | positive digit => exact starts_digit digit
  · exact ⟨'-', _, rfl, by decide⟩

theorem value_starts {t : Json} {w : List Char} (text : ValueText t w) : Starts w := by
  cases text with
  | null => exact ⟨'n', _, rfl, by decide⟩
  | yes => exact ⟨'t', _, rfl, by decide⟩
  | no => exact ⟨'f', _, rfl, by decide⟩
  | num number => exact number_starts number
  | str quoted =>
    cases quoted
    exact ⟨'"', _, rfl, by decide⟩
  | emptyArr => exact ⟨'[', _, rfl, by decide⟩
  | arr => exact ⟨'[', _, rfl, by decide⟩
  | emptyObj => exact ⟨'{', _, rfl, by decide⟩
  | obj => exact ⟨'{', _, rfl, by decide⟩

theorem starts_append {w rest : List Char} (starts : Starts w) : Starts (w ++ rest) := by
  obtain ⟨c, tail, rfl, clear⟩ := starts
  exact ⟨c, tail ++ rest, rfl, clear⟩

/-- The white space in front of a list of items can be taken off. -/
theorem items_trimmed {ts : List Json} {w : List Char} (texts : ItemsText ts w) :
    ∃ before v, Blank before ∧ w = before ++ v ∧ ItemsText ts v ∧ Starts v := by
  cases texts with
  | one text =>
    obtain ⟨blank, inner, after⟩ := text
    exact ⟨_, _, blank, rfl, .one (.padded blank_nil inner after),
      starts_append (value_starts inner)⟩
  | @more t ts _ rest text texts =>
    obtain ⟨blank, inner, after⟩ := text
    refine ⟨_, _, blank, List.append_assoc _ _ _, ?_,
      starts_append (starts_append (value_starts inner))⟩
    exact .more (.padded blank_nil inner after) texts

theorem field_trimmed {f : List Char × Json} {w : List Char} (text : FieldText f w) :
    ∃ before v, Blank before ∧ w = before ++ v ∧ FieldText f v ∧ Starts v := by
  obtain ⟨blank, name, between, inner⟩ := text
  refine ⟨_, _, blank, rfl, .field blank_nil name between inner, ?_⟩
  cases name
  exact ⟨'"', _, rfl, by decide⟩

theorem fields_trimmed {fs : List (List Char × Json)} {w : List Char} (texts : FieldsText fs w) :
    ∃ before v, Blank before ∧ w = before ++ v ∧ FieldsText fs v ∧ Starts v := by
  cases texts with
  | one text =>
    obtain ⟨before, v, blank, rfl, text, starts⟩ := field_trimmed text
    exact ⟨before, v, blank, rfl, .one text, starts⟩
  | more text texts =>
    obtain ⟨before, v, blank, rfl, text, starts⟩ := field_trimmed text
    exact ⟨before, _, blank, by simp, .more text texts, starts_append starts⟩

/-! The compact text of a tree is one of its texts. -/

theorem digitChar_hex : ∀ n < 16, (Nat.digitChar n).isHexDigit = true ∧
    hexDigit (Nat.digitChar n) = n := by decide

theorem escape_text (c : Char) : CharText c (Json.escape c) := by
  unfold Json.escape
  split
  · rename_i same
    subst same
    exact .short (by simp [shortEscapes])
  split
  · rename_i same
    subst same
    exact .short (by simp [shortEscapes])
  split
  · rename_i code
    have same : c = Char.ofNat 0x08 := by rw [← code, Char.ofNat_toNat]
    subst same
    exact .short (by simp [shortEscapes])
  split
  · rename_i code
    have same : c = Char.ofNat 0x0C := by rw [← code, Char.ofNat_toNat]
    subst same
    exact .short (by simp [shortEscapes])
  split
  · rename_i same
    subst same
    exact .short (by simp [shortEscapes])
  split
  · rename_i same
    subst same
    exact .short (by simp [shortEscapes])
  split
  · rename_i same
    subst same
    exact .short (by simp [shortEscapes])
  split
  · rename_i control
    obtain ⟨highHex, high⟩ := digitChar_hex (c.toNat / 16) (by omega)
    obtain ⟨lowHex, low⟩ := digitChar_hex (c.toNat % 16) (by omega)
    have group := Hex4.digits (a := '0') (b := '0') rfl rfl highHex lowHex
    have value : ((hexDigit '0' * 16 + hexDigit '0') * 16 + c.toNat / 16) * 16 + c.toNat % 16 =
        c.toNat := by
      have zero : hexDigit '0' = 0 := rfl
      omega
    rw [high, low, value] at group
    exact .unit group
  · rename_i quote slash _ _ _ _ _ printable
    exact .unescaped (by omega) quote slash

theorem quote_text (s : List Char) : StringText s (Json.quote s) := by
  refine .quoted ?_
  induction s with
  | nil => exact .nil
  | cons c s ih => exact .cons (escape_text c) ih

/-- The numbers of a tree are spelled as JSON numbers. -/
def Spelled : Json → Prop
  | .num w => NumberText w
  | _ => True

theorem item_of_value {t : Json} {w : List Char} (text : ValueText t w) : ItemText t w := by
  simpa using ItemText.padded blank_nil text blank_nil

theorem field_of_value {k : List Char} {t : Json} {w : List Char} (text : ValueText t w) :
    FieldText (k, t) (Json.quote k ++ ':' :: w) :=
  .field blank_nil (quote_text k) blank_nil (item_of_value text)

theorem printItems_text (t : Json) (ts : List Json)
    (texts : ∀ u ∈ t :: ts, ValueText u u.print) :
    ItemsText (t :: ts) (Json.printItems (t :: ts)) := by
  obtain ⟨here, rest⟩ := List.forall_mem_cons.mp texts
  induction ts generalizing t with
  | nil => exact .one (item_of_value here)
  | cons u us ih =>
    obtain ⟨next, others⟩ := List.forall_mem_cons.mp rest
    exact .more (item_of_value here) (ih u rest next others)

theorem printFields_text (f : List Char × Json) (fs : List (List Char × Json))
    (texts : ∀ u ∈ (f :: fs).map Prod.snd, ValueText u u.print) :
    FieldsText (f :: fs) (Json.printFields (f :: fs)) := by
  obtain ⟨here, rest⟩ := List.forall_mem_cons.mp texts
  induction fs generalizing f with
  | nil => exact .one (field_of_value here)
  | cons g fs ih =>
    obtain ⟨next, others⟩ := List.forall_mem_cons.mp rest
    simpa [Json.printFields] using
      FieldsText.more (field_of_value here) (ih g rest next others)

theorem print_text (t : Json) (spelled : t.Everywhere Spelled) : ValueText t t.print := by
  induction t using Json.children_induction with
  | step t ih =>
    obtain ⟨here, inside⟩ := Json.everywhere.mp spelled
    have texts : ∀ u ∈ t.children, ValueText u u.print := fun u member =>
      ih u member (inside u member)
    match t with
    | .null => exact .null
    | .bool true => exact .yes
    | .bool false => exact .no
    | .num w => exact .num here
    | .str s => exact .str (quote_text s)
    | .arr [] => exact .emptyArr blank_nil
    | .arr (u :: us) => exact .arr (printItems_text u us texts)
    | .obj [] => exact .emptyObj blank_nil
    | .obj (f :: fs) => exact .obj (printFields_text f fs texts)

end CarsinOS.Lib
