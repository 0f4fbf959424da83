import Mathlib.Data.List.Basic

/-! JSON trees with numbers kept as they are spelled, and the compact text of a tree. -/
namespace CarsinOS.Lib

/-- The items with a comma between neighbours. -/
def commaSeparated : List (List Char) → List Char
  | [] => []
  | [item] => item
  | item :: items => item ++ ',' :: commaSeparated items

theorem commaSeparated_cons (item : List Char) (items : List (List Char)) :
    commaSeparated (item :: items) = item ++ items.flatMap (',' :: ·) := by
  induction items generalizing item with
  | nil => simp [commaSeparated]
  | cons next items ih =>
    rw [commaSeparated, ih next, List.flatMap_cons]
    · rfl
    · simp

inductive Json where
  | null
  | bool (b : Bool)
  | num (lexeme : List Char)
  | str (s : List Char)
  | arr (items : List Json)
  | obj (fields : List (List Char × Json))

namespace Json

instance : Inhabited Json := ⟨.null⟩

/-- The members of a container, in order. -/
def children : Json → List Json
  | .arr items => items
  | .obj fields => fields.map Prod.snd
  | _ => []

/-! Induction on the values inside a tree. -/
mutual
theorem children_induction {motive : Json → Prop}
    (step : ∀ t, (∀ u ∈ t.children, motive u) → motive t) : (t : Json) → motive t
  | .null => step _ (by simp [children])
  | .bool _ => step _ (by simp [children])
  | .num _ => step _ (by simp [children])
  | .str _ => step _ (by simp [children])
  | .arr items => step _ (items_induction step items)
  | .obj fields => step _ (fields_induction step fields)

theorem items_induction {motive : Json → Prop}
    (step : ∀ t, (∀ u ∈ t.children, motive u) → motive t) :
    (ts : List Json) → ∀ t ∈ ts, motive t
  | [] => by simp
  | t :: ts => List.forall_mem_cons.mpr ⟨children_induction step t, items_induction step ts⟩

theorem fields_induction {motive : Json → Prop}
    (step : ∀ t, (∀ u ∈ t.children, motive u) → motive t) :
    (fs : List (List Char × Json)) → ∀ t ∈ fs.map Prod.snd, motive t
  | [] => by simp
  | (_, t) :: fs => List.forall_mem_cons.mpr ⟨children_induction step t, fields_induction step fs⟩
end

/-! The number of nested values on the longest path; a scalar counts as one. -/
mutual
def depth : Json → Nat
  | .arr items => depthItems items + 1
  | .obj fields => depthFields fields + 1
  | _ => 1

def depthItems : List Json → Nat
  | [] => 0
  | t :: ts => max (depth t) (depthItems ts)

def depthFields : List (List Char × Json) → Nat
  | [] => 0
  | (_, t) :: fs => max (depth t) (depthFields fs)
end

theorem depthItems_le {ts : List Json} {n : Nat} :
    depthItems ts ≤ n ↔ ∀ t ∈ ts, t.depth ≤ n := by
  induction ts with
  | nil => simp [depthItems]
  | cons t ts ih => rw [depthItems, Nat.max_le, ih, List.forall_mem_cons]

theorem depthFields_le {fs : List (List Char × Json)} {n : Nat} :
    depthFields fs ≤ n ↔ ∀ f ∈ fs, f.2.depth ≤ n := by
  induction fs with
  | nil => simp [depthFields]
  | cons f fs ih => rw [depthFields, Nat.max_le, ih, List.forall_mem_cons]

theorem depth_le {t : Json} {n : Nat} :
    t.depth ≤ n + 1 ↔ ∀ u ∈ t.children, u.depth ≤ n := by
  cases t with
  | arr items => simp [depth, children, depthItems_le]
  | obj fields => simp only [depth, children, Nat.add_le_add_iff_right, depthFields_le,
      List.forall_mem_map]
  | _ => simp [depth, children]

theorem depth_pos (t : Json) : 0 < t.depth := by
  cases t <;> simp [depth]

/-! A property of every value of a tree. -/
mutual
def Everywhere (p : Json → Prop) : Json → Prop
  | .arr items => p (.arr items) ∧ EveryItem p items
  | .obj fields => p (.obj fields) ∧ EveryField p fields
  | t => p t

def EveryItem (p : Json → Prop) : List Json → Prop
  | [] => True
  | t :: ts => Everywhere p t ∧ EveryItem p ts

def EveryField (p : Json → Prop) : List (List Char × Json) → Prop
  | [] => True
  | (_, t) :: fs => Everywhere p t ∧ EveryField p fs
end

theorem everyItem {p : Json → Prop} {ts : List Json} :
    EveryItem p ts ↔ ∀ t ∈ ts, Everywhere p t := by
  induction ts with
  | nil => simp [EveryItem]
  | cons t ts ih => simp [EveryItem, ih]

theorem everyField {p : Json → Prop} {fs : List (List Char × Json)} :
    EveryField p fs ↔ ∀ f ∈ fs, Everywhere p f.2 := by
  induction fs with
  | nil => simp [EveryField]
  | cons f fs ih => simp [EveryField, ih]

theorem everywhere {p : Json → Prop} {t : Json} :
    Everywhere p t ↔ p t ∧ ∀ u ∈ t.children, Everywhere p u := by
  cases t with
  | arr items => simp [Everywhere, everyItem, children]
  | obj fields => simp only [Everywhere, everyField, children, List.forall_mem_map]
  | _ => simp [Everywhere, children]

/-! The compact text. Only the characters that must be escaped are. -/

def escape (c : Char) : List Char :=
  if c = '"' then ['\\', '"']
  else if c = '\\' then ['\\', '\\']
  else if c.toNat = 0x08 then ['\\', 'b']
  else if c.toNat = 0x0C then ['\\', 'f']
  else if c = '\n' then ['\\', 'n']
  else if c = '\r' then ['\\', 'r']
  else if c = '\t' then ['\\', 't']
  else if c.toNat < 0x20 then
    ['\\', 'u', '0', '0', Nat.digitChar (c.toNat / 16), Nat.digitChar (c.toNat % 16)]
  else [c]

def quote (s : List Char) : List Char := '"' :: (s.flatMap escape ++ ['"'])

/-- The character stands for itself in a string. -/
def isPlain (c : Char) : Bool := c != '"' && c != '\\' && 0x20 ≤ c.toNat

theorem quote_plain {s : List Char} (plain : s.all isPlain = true) :
    quote s = '"' :: (s ++ ['"']) := by
  have same : s.flatMap escape = s := by
    induction s with
    | nil => rfl
    | cons c s ih =>
      simp only [List.all_cons, Bool.and_eq_true] at plain
      have code := plain.1
      simp only [isPlain, Bool.and_eq_true, bne_iff_ne, decide_eq_true_eq] at code
      obtain ⟨⟨quote, slash⟩, visible⟩ := code
      have short : ∀ d : Char, d.toNat < 0x20 → c ≠ d := by
        rintro d low rfl
        omega
      have single : escape c = [c] := by
        rw [escape, if_neg quote, if_neg slash, if_neg (by omega), if_neg (by omega),
          if_neg (short '\n' (by decide)), if_neg (short '\r' (by decide)),
          if_neg (short '\t' (by decide)), if_neg (by omega)]
      rw [List.flatMap_cons, ih plain.2, single, List.singleton_append]
  rw [quote, same]

mutual
def print : Json → List Char
  | .null => ['n', 'u', 'l', 'l']
  | .bool true => ['t', 'r', 'u', 'e']
  | .bool false => ['f', 'a', 'l', 's', 'e']
  | .num lexeme => lexeme
  | .str s => quote s
  | .arr items => '[' :: (printItems items ++ [']'])
  | .obj fields => '{' :: (printFields fields ++ ['}'])

def printItems : List Json → List Char
  | [] => []
  | [t] => print t
  | t :: ts => print t ++ ',' :: printItems ts

def printFields : List (List Char × Json) → List Char
  | [] => []
  | [(k, t)] => quote k ++ ':' :: print t
  | (k, t) :: fs => quote k ++ ':' :: (print t ++ ',' :: printFields fs)
end

theorem printItems_commas (ts : List Json) : printItems ts = commaSeparated (ts.map print) := by
  induction ts with
  | nil => rfl
  | cons t ts ih =>
    cases ts with
    | nil => rfl
    | cons u us =>
      rw [printItems, ih]
      · rfl
      · simp

def printField (f : List Char × Json) : List Char := quote f.1 ++ ':' :: print f.2

theorem printFields_commas (fs : List (List Char × Json)) :
    printFields fs = commaSeparated (fs.map printField) := by
  induction fs with
  | nil => rfl
  | cons f fs ih =>
    cases fs with
    | nil => rfl
    | cons g gs =>
      rw [printFields, ih]
      · simp [printField, commaSeparated]
      · simp

def optional : Option (List Char) → Json
  | some value => .str value
  | none => .null

end Json
end CarsinOS.Lib
