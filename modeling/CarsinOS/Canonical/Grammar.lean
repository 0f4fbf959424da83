import CarsinOS.Canonical.Parser
import CarsinOS.Integer

/-! What the strict parser is meant to accept: the JSON texts whose tree stays within the
limits of a receipt, each standing for one canonical value. -/
namespace CarsinOS.Canonical
open CarsinOS.Lib

/-- What the receipt format asks of a single value. -/
def Admissible (N : Normalization) : Json → Prop
  | .num w => PlainInteger w
  | .arr items => items.length ≤ 1024
  | .obj fields => fields.length ≤ 256 ∧ (fields.map fun f => N.nfc f.1).Nodup
  | _ => True

def Fits (N : Normalization) (levels : Nat) (t : Json) : Prop :=
  t.depth ≤ levels ∧ t.Everywhere (Admissible N)

/-! The value a tree stands for. -/
mutual
def meaning (N : Normalization) : Json → CanonicalValue
  | .null => .null
  | .bool b => .bool b
  | .num w => .integer ((I64.ofInt? (signedValue w)).getD ⟨0, by decide⟩)
  | .str s => .string (N.nfc s)
  | .arr items => .array (meaningItems N items)
  | .obj fields => .object (Entries.insertAll [] (meaningFields N fields))

def meaningItems (N : Normalization) : List Json → List CanonicalValue
  | [] => []
  | t :: ts => meaning N t :: meaningItems N ts

def meaningFields (N : Normalization) :
    List (List Char × Json) → List (List Char × CanonicalValue)
  | [] => []
  | (k, t) :: fs => (N.nfc k, meaning N t) :: meaningFields N fs
end

/-- The text is one of the grammar and denotes the value. -/
def Denotes (N : Normalization) (s : List Char) (v : CanonicalValue) : Prop :=
  s.head? ≠ some (Char.ofNat 0xFEFF) ∧ ∃ t, JsonText t s ∧ Fits N 32 t ∧ meaning N t = v

theorem meaningItems_map (N : Normalization) (ts : List Json) :
    meaningItems N ts = ts.map (meaning N) := by
  induction ts with
  | nil => rfl
  | cons t ts ih => rw [meaningItems, ih, List.map_cons]

theorem meaningFields_map (N : Normalization) (fs : List (List Char × Json)) :
    meaningFields N fs = fs.map fun f => (N.nfc f.1, meaning N f.2) := by
  induction fs with
  | nil => rfl
  | cons f fs ih => rw [meaningFields, ih, List.map_cons]

theorem fits_pos {N : Normalization} {levels : Nat} {t : Json} (fits : Fits N levels t) :
    ∃ n, levels = n + 1 :=
  ⟨levels - 1, by have := t.depth_pos; have := fits.1; omega⟩

theorem fits_iff {N : Normalization} {n : Nat} {t : Json} :
    Fits N (n + 1) t ↔ Admissible N t ∧ ∀ u ∈ t.children, Fits N n u := by
  unfold Fits
  rw [Json.depth_le, Json.everywhere]
  constructor
  · rintro ⟨shallow, here, below⟩
    exact ⟨here, fun u member => ⟨shallow u member, below u member⟩⟩
  · rintro ⟨here, below⟩
    exact ⟨fun u member => (below u member).1, here, fun u member => (below u member).2⟩

/-! A plus sign in front of the digits of a `\u` escape, read as a zero. -/

/-- Where the reader of a text stands: after a backslash, after `\u`, or elsewhere. -/
inductive Place where
  | plain
  | escaped
  | group

def mendFrom : Place → List Char → List Char
  | _, [] => []
  | .plain, c :: cs => c :: mendFrom (if c = '\\' then .escaped else .plain) cs
  | .escaped, c :: cs => c :: mendFrom (if c = 'u' then .group else .plain) cs
  | .group, c :: cs =>
    (if c = '+' then '0' else c) :: mendFrom (if c = '\\' then .escaped else .plain) cs

/-- The text with every escape `\u+hhh` respelled as `\u0hhh`. -/
def mend (cs : List Char) : List Char := mendFrom .plain cs

@[simp] theorem mend_nil : mend [] = [] := rfl

@[simp] theorem length_mendFrom (place : Place) (cs : List Char) :
    (mendFrom place cs).length = cs.length := by
  induction cs generalizing place with
  | nil => cases place <;> rfl
  | cons c cs ih => cases place <;> simp [mendFrom, ih]

@[simp] theorem length_mend (cs : List Char) : (mend cs).length = cs.length :=
  length_mendFrom .plain cs

@[simp] theorem mend_eq_nil {cs : List Char} : mend cs = [] ↔ cs = [] := by
  rw [← List.length_eq_zero_iff, length_mend, List.length_eq_zero_iff]

theorem mend_cons {c : Char} {cs : List Char} (plain : c ≠ '\\') :
    mend (c :: cs) = c :: mend cs := by
  simp [mend, mendFrom, plain]

theorem mend_head (cs : List Char) : (mend cs).head? = cs.head? := by
  cases cs <;> rfl

theorem mend_eq_cons {c : Char} {cs ds : List Char} (plain : c ≠ '\\') :
    mend cs = c :: ds ↔ ∃ rest, cs = c :: rest ∧ mend rest = ds := by
  cases cs with
  | nil => simp
  | cons d cs =>
    constructor
    · intro shape
      obtain ⟨same, tail⟩ := List.cons.inj shape
      subst same
      rw [if_neg plain] at tail
      exact ⟨cs, rfl, tail⟩
    · rintro ⟨rest, shape, rfl⟩
      cases shape
      exact mend_cons plain

theorem mend_append {w cs : List Char} (plain : '\\' ∉ w) : mend (w ++ cs) = w ++ mend cs := by
  induction w with
  | nil => rfl
  | cons c w ih =>
    simp only [List.mem_cons, not_or] at plain
    rw [List.cons_append, mend_cons (Ne.symm plain.1), ih plain.2, List.cons_append]

theorem mend_eq_append {w cs ds : List Char} (plain : '\\' ∉ w) :
    mend cs = w ++ ds ↔ ∃ rest, cs = w ++ rest ∧ mend rest = ds := by
  induction w generalizing cs with
  | nil => simp
  | cons c w ih =>
    simp only [List.mem_cons, not_or] at plain
    rw [List.cons_append, mend_eq_cons (Ne.symm plain.1)]
    constructor
    · rintro ⟨tail, rfl, shape⟩
      obtain ⟨rest, rfl, last⟩ := (ih plain.2).mp shape
      exact ⟨rest, rfl, last⟩
    · rintro ⟨rest, rfl, last⟩
      exact ⟨w ++ rest, rfl, (ih plain.2).mpr ⟨rest, rfl, last⟩⟩

end CarsinOS.Canonical
