import CarsinOS.Lib.Entries
import CarsinOS.Lib.Json

/-! JSON objects read by the names of their members. A closed record names every member it may
have; an open one passes the others over. An array stands for the values of a record in order. -/
namespace CarsinOS.Lib.Members
open Entries (keys)

variable {names : List (List Char)} {name : List Char} {tree value : Json}
  {members fields : List (List Char × Json)} {missing : Nat}

/-- The members of a tree. The values of an array have the names in order. -/
def entries (names : List (List Char)) : Json → List (List Char × Json)
  | .obj fields => fields
  | .arr items => names.zip items
  | _ => []

def Stranger (names : List (List Char)) (tree : Json) : Prop :=
  ∃ entry ∈ entries names tree, entry.1 ∉ names

/-- The members of a closed record. An array may lack as many of its last values as `missing`. -/
def closed (names : List (List Char)) (missing : Nat) : Json → Option (List (List Char × Json))
  | .obj fields =>
    if (∀ field ∈ fields, field.1 ∈ names) ∧ (keys fields).Nodup then some fields else none
  | .arr items =>
    if items.length ≤ names.length ∧ names.length ≤ items.length + missing then
      some (names.zip items)
    else none
  | _ => none

/-- The members of an open record. -/
def opened (names : List (List Char)) : Json → Option (List (List Char × Json))
  | .obj fields =>
    if (keys (fields.filter (·.1 ∈ names))).Nodup then some (fields.filter (·.1 ∈ names)) else none
  | .arr items => if items.length = names.length then some (names.zip items) else none
  | _ => none

def required {α : Type} (members : List (List Char × Json)) (name : List Char)
    (read : Json → Option α) : Option α := (members.lookup name).bind read

/-- A member that may be absent. -/
def defaulted {α : Type} (members : List (List Char × Json)) (name : List Char) (default : α)
    (read : Json → Option α) : Option α :=
  match members.lookup name with
  | none => some default
  | some tree => read tree

/-- What may be null. -/
def nullOr {α : Type} (read : Json → Option α) : Json → Option (Option α)
  | .null => some none
  | tree => (read tree).map some

theorem zip_keys (items : List Json) : (keys (names.zip items)).Sublist names := by
  induction names generalizing items with
  | nil => simp
  | cons name names ih =>
    cases items with
    | nil => simp
    | cons item items => simpa using ih items

/-- The members of a closed record are all it has. -/
theorem closed_entries (distinct : names.Nodup)
    (known : closed names missing tree = some members) :
    members = entries names tree ∧ (keys members).Nodup ∧ ¬ Stranger names tree := by
  unfold closed at known
  split at known
  · split at known
    · rename_i all
      cases known
      exact ⟨rfl, all.2, fun ⟨entry, inside, strange⟩ => strange (all.1 entry inside)⟩
    · contradiction
  · split at known
    · cases known
      refine ⟨rfl, (zip_keys _).nodup distinct, ?_⟩
      rintro ⟨entry, inside, strange⟩
      exact strange ((zip_keys _).subset (List.mem_map_of_mem inside))
    · contradiction
  · contradiction

theorem opened_entries (distinct : names.Nodup) (known : opened names tree = some members) :
    (keys members).Nodup ∧
      ∀ entry ∈ entries names tree, entry.1 ∈ names → entry ∈ members := by
  unfold opened at known
  split at known
  · split at known
    · rename_i apart
      cases known
      refine ⟨apart, fun entry inside named => List.mem_filter.mpr ⟨inside, ?_⟩⟩
      exact decide_eq_true named
    · contradiction
  · split at known
    · cases known
      exact ⟨(zip_keys _).nodup distinct, fun _ inside _ => inside⟩
    · contradiction
  · contradiction

theorem lookup_member (distinct : (keys members).Nodup) (inside : (name, value) ∈ members) :
    members.lookup name = some value := by
  induction members with
  | nil => exact absurd inside List.not_mem_nil
  | cons entry members ih =>
    rw [Entries.keys_cons, List.nodup_cons] at distinct
    rcases List.mem_cons.mp inside with rfl | later
    · rw [List.lookup_cons, beq_self_eq_true]
    · have other : name ≠ entry.1 := by
        intro same
        exact distinct.1 (List.mem_map.mpr ⟨_, later, same⟩)
      rw [List.lookup_cons, beq_eq_false_iff_ne.mpr other]
      exact ih distinct.2 later

theorem required_member {α : Type} {read : Json → Option α} {a : α}
    (distinct : (keys members).Nodup) (known : required members name read = some a)
    (inside : (name, value) ∈ members) : read value = some a := by
  rwa [required, lookup_member distinct inside] at known

theorem required_found {α : Type} {read : Json → Option α} {a : α}
    (known : required members name read = some a) :
    ∃ value, (name, value) ∈ members ∧ read value = some a := by
  obtain ⟨value, found, read⟩ := Option.bind_eq_some_iff.mp known
  obtain ⟨before, after, rfl, -⟩ := List.lookup_eq_some_iff.mp found
  exact ⟨value, by simp, read⟩

theorem defaulted_member {α : Type} {read : Json → Option α} {default a : α}
    (distinct : (keys members).Nodup) (known : defaulted members name default read = some a)
    (inside : (name, value) ∈ members) : read value = some a := by
  rwa [defaulted, lookup_member distinct inside] at known

/-- A record is read from any order of its members. -/
theorem closed_perm (perm : fields.Perm members) (named : keys members = names)
    (distinct : names.Nodup) : closed names missing (.obj fields) = some fields := by
  have same : (keys fields).Perm names := named ▸ perm.map Prod.fst
  refine if_pos ⟨fun field inside => ?_, same.nodup_iff.mpr distinct⟩
  exact same.subset (List.mem_map_of_mem inside)

theorem opened_perm (perm : fields.Perm members) (named : keys members = names)
    (distinct : names.Nodup) : opened names (.obj fields) = some fields := by
  have same : (keys fields).Perm names := named ▸ perm.map Prod.fst
  have all : fields.filter (·.1 ∈ names) = fields := by
    refine List.filter_eq_self.mpr fun field inside => decide_eq_true ?_
    exact same.subset (List.mem_map_of_mem inside)
  rw [opened, all, if_pos (same.nodup_iff.mpr distinct)]

/-- A member that no record of these names has does not matter to an open one. -/
theorem opened_stranger {before after : List (List Char × Json)} (other : name ∉ names) :
    opened names (.obj (before ++ (name, value) :: after)) =
      opened names (.obj (before ++ after)) := by
  unfold opened
  simp only [List.filter_append]
  rw [List.filter_cons_of_neg (by simpa using other)]

/-! How deep the containers of a tree are nested. -/
mutual
def nesting : Json → Nat
  | .arr items => nestingItems items + 1
  | .obj fields => nestingFields fields + 1
  | _ => 0

def nestingItems : List Json → Nat
  | [] => 0
  | item :: items => max (nesting item) (nestingItems items)

def nestingFields : List (List Char × Json) → Nat
  | [] => 0
  | (_, value) :: fields => max (nesting value) (nestingFields fields)
end

theorem nestingItems_le {items : List Json} {n : Nat} :
    nestingItems items ≤ n ↔ ∀ item ∈ items, nesting item ≤ n := by
  induction items with
  | nil => simp [nestingItems]
  | cons item items ih => rw [nestingItems, Nat.max_le, ih, List.forall_mem_cons]

theorem nestingFields_le {n : Nat} :
    nestingFields fields ≤ n ↔ ∀ field ∈ fields, nesting field.2 ≤ n := by
  induction fields with
  | nil => simp [nestingFields]
  | cons field fields ih => rw [nestingFields, Nat.max_le, ih, List.forall_mem_cons]

theorem nesting_arr {items : List Json} {n : Nat} :
    nesting (.arr items) ≤ n + 1 ↔ ∀ item ∈ items, nesting item ≤ n := by
  rw [nesting, Nat.add_le_add_iff_right, nestingItems_le]

theorem nesting_obj {n : Nat} :
    nesting (.obj fields) ≤ n + 1 ↔ ∀ field ∈ fields, nesting field.2 ≤ n := by
  rw [nesting, Nat.add_le_add_iff_right, nestingFields_le]

end CarsinOS.Lib.Members
