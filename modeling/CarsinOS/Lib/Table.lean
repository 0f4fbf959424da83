import Mathlib.Data.List.Nodup
import Mathlib.Data.List.Basic

/-! Tables with a primary key. The rows stand in the order of their insertion and their keys are
distinct; a statement that would give two rows one key is refused. -/
namespace CarsinOS.Lib

/-- The first row that is below no other. -/
def highest {ρ : Type} (below : ρ → ρ → Bool) : List ρ → Option ρ
  | [] => none
  | row :: rest =>
    match highest below rest with
    | none => some row
    | some best => if below row best then some best else some row

theorem highest_mem {ρ : Type} {below : ρ → ρ → Bool} {rows : List ρ} {row : ρ}
    (found : highest below rows = some row) : row ∈ rows := by
  induction rows with
  | nil => cases found
  | cons first rest ih =>
    simp only [highest] at found
    split at found
    · cases found
      exact List.mem_cons_self
    · rename_i best later
      split at found
      · cases found
        exact List.mem_cons_of_mem _ (ih later)
      · cases found
        exact List.mem_cons_self

theorem highest_alone {ρ : Type} {below : ρ → ρ → Bool} {rows : List ρ} {row : ρ}
    (present : row ∈ rows) (only : ∀ other ∈ rows, other = row) :
    highest below rows = some row := by
  cases found : highest below rows with
  | some other => rw [only other (highest_mem found)]
  | none =>
    cases rows with
    | nil => cases present
    | cons first rest =>
      simp only [highest] at found
      split at found
      · cases found
      · split at found <;> cases found

theorem find_one {ρ : Type} {rows : List ρ} {p : ρ → Bool} {row : ρ} (present : row ∈ rows)
    (hit : p row = true) (only : ∀ other ∈ rows, p other = true → other = row) :
    rows.find? p = some row := by
  cases found : rows.find? p with
  | none => exact absurd hit (List.find?_eq_none.mp found row present)
  | some other =>
    rw [only other (List.mem_of_find?_eq_some found) (List.find?_some found)]

/-- The rows of one key, where keys are distinct. -/
theorem filter_key {κ ρ : Type} [DecidableEq κ] {key : ρ → κ} {rows : List ρ} {row : ρ}
    (distinct : (rows.map key).Nodup) (member : row ∈ rows) :
    rows.filter (fun other => decide (key other = key row)) = [row] := by
  induction rows with
  | nil => cases member
  | cons first rest ih =>
    rw [List.map_cons, List.nodup_cons] at distinct
    obtain ⟨fresh, distinct⟩ := distinct
    rcases List.mem_cons.mp member with rfl | later
    · rw [List.filter_cons_of_pos (by simp), List.filter_eq_nil_iff.mpr]
      intro other present same
      exact fresh (of_decide_eq_true same ▸ List.mem_map_of_mem present)
    · rw [List.filter_cons_of_neg, ih distinct later]
      intro same
      exact fresh (of_decide_eq_true same ▸ List.mem_map_of_mem later)

structure Table {κ ρ : Type} (key : ρ → κ) where
  rows : List ρ
  distinct : (rows.map key).Nodup

namespace Table
variable {κ ρ : Type} {key : ρ → κ}

def empty : Table key := ⟨[], List.nodup_nil⟩

/-- `UPDATE .. SET f WHERE p`, of columns outside the key. -/
def update (t : Table key) (p : ρ → Bool) (f : ρ → ρ) (keeps : ∀ row, key (f row) = key row) :
    Table key where
  rows := t.rows.map fun row => if p row then f row else row
  distinct := by
    have same : (t.rows.map fun row => if p row then f row else row).map key = t.rows.map key := by
      rw [List.map_map]
      apply List.map_congr_left
      intro row _
      simp only [Function.comp]
      split
      · exact keeps row
      · rfl
    rw [same]
    exact t.distinct

/-- The number of rows an update changes. -/
def matched (t : Table key) (p : ρ → Bool) : Nat := t.rows.countP p

/-- `DELETE .. WHERE p`. -/
def delete (t : Table key) (p : ρ → Bool) : Table key where
  rows := t.rows.filter fun row => !p row
  distinct := t.distinct.sublist (List.Sublist.map key List.filter_sublist)

section Keyed
variable [DecidableEq κ]

def find? (t : Table key) (k : κ) : Option ρ := t.rows.find? fun row => decide (key row = k)

/-- `INSERT`, refused where the key is taken. -/
def insert? (t : Table key) (row : ρ) : Option (Table key) :=
  if fresh : key row ∉ t.rows.map key then
    some ⟨t.rows ++ [row], by
      rw [List.map_append, List.nodup_append]
      refine ⟨t.distinct, List.nodup_singleton _, ?_⟩
      intro k taken other same
      rw [List.map_singleton, List.mem_singleton] at same
      rintro rfl
      exact fresh (same ▸ taken)⟩
  else none

theorem find?_mem {t : Table key} {k : κ} {row : ρ} (found : t.find? k = some row) :
    row ∈ t.rows :=
  List.mem_of_find?_eq_some found

theorem find?_key {t : Table key} {k : κ} {row : ρ} (found : t.find? k = some row) :
    key row = k := by
  simpa using List.find?_some found

theorem insert?_rows {t t' : Table key} {row : ρ} (inserted : t.insert? row = some t') :
    t'.rows = t.rows ++ [row] := by
  unfold insert? at inserted
  split at inserted
  · cases inserted
    rfl
  · cases inserted

end Keyed

/-- Two rows of one key are one row. -/
theorem eq_of_key {t : Table key} {first second : ρ} (one : first ∈ t.rows)
    (two : second ∈ t.rows) (same : key first = key second) : first = second :=
  List.inj_on_of_nodup_map t.distinct one two same

theorem find?_of_mem [DecidableEq κ] {t : Table key} {row : ρ} (member : row ∈ t.rows) :
    t.find? (key row) = some row := by
  cases found : t.find? (key row) with
  | none =>
    have missed := List.find?_eq_none.mp found row member
    simp at missed
  | some other => rw [eq_of_key (find?_mem found) member (find?_key found)]

/-- An update changes the row of a key where it hits it. -/
theorem find?_update [DecidableEq κ] {t : Table key} {p : ρ → Bool} {f : ρ → ρ}
    {keeps : ∀ row, key (f row) = key row} {k : κ} :
    (t.update p f keeps).find? k = (t.find? k).map fun row => if p row then f row else row := by
  have same : ((fun row => decide (key row = k)) ∘ fun row => if p row then f row else row) =
      fun row => decide (key row = k) := by
    funext row
    simp only [Function.comp]
    split
    · rw [keeps]
    · rfl
  simp only [find?, update, List.find?_map, same]

theorem find?_insert [DecidableEq κ] {t t' : Table key} {row : ρ} {k : κ}
    (inserted : t.insert? row = some t') :
    t'.find? k = if key row = k then some row else t.find? k := by
  unfold insert? at inserted
  split at inserted
  · rename_i fresh
    cases inserted
    simp only [find?, List.find?_append, List.find?_cons, List.find?_nil]
    by_cases same : key row = k
    · have missed : t.rows.find? (fun row => decide (key row = k)) = none := by
        apply List.find?_eq_none.mpr
        intro other member taken
        apply fresh
        rw [same, ← of_decide_eq_true taken]
        exact List.mem_map_of_mem member
      simp [missed, same]
    · simp [same]
  · cases inserted

theorem ext_rows {t t' : Table key} (same : t.rows = t'.rows) : t = t' := by
  cases t
  cases t'
  cases same
  rfl

theorem mem_update {t : Table key} {p : ρ → Bool} {f : ρ → ρ} {keeps : ∀ row, key (f row) = key row}
    {row : ρ} : row ∈ (t.update p f keeps).rows ↔
      ∃ old ∈ t.rows, row = if p old then f old else old := by
  simp only [update, List.mem_map]
  constructor
  · rintro ⟨old, member, rfl⟩
    exact ⟨old, member, rfl⟩
  · rintro ⟨old, member, rfl⟩
    exact ⟨old, member, rfl⟩

/-- An update that sets what is there already changes nothing. -/
theorem update_fixed {t : Table key} {p : ρ → Bool} {f : ρ → ρ}
    {keeps : ∀ row, key (f row) = key row} (fixed : ∀ row ∈ t.rows, p row = true → f row = row) :
    t.update p f keeps = t := by
  apply ext_rows
  simp only [update]
  conv_rhs => rw [← List.map_id t.rows]
  apply List.map_congr_left
  intro row member
  simp only [id]
  split
  · rename_i hit
    exact fixed row member hit
  · rfl

/-- An update of the newest row alone. -/
theorem update_last {t : Table key} {p : ρ → Bool} {f : ρ → ρ}
    {keeps : ∀ row, key (f row) = key row} {older : List ρ} {newest : ρ}
    (rows : t.rows = older ++ [newest]) (others : ∀ row ∈ older, p row = false)
    (hit : p newest = true) : (t.update p f keeps).rows = older ++ [f newest] := by
  have kept : older.map (fun row => if p row then f row else row) = older := by
    conv_rhs => rw [← List.map_id older]
    apply List.map_congr_left
    intro row member
    simp [others row member]
  simp only [update, rows, List.map_append, kept, List.map_cons, List.map_nil, hit, if_true]

theorem matched_last {t : Table key} {p : ρ → Bool} {older : List ρ} {newest : ρ}
    (rows : t.rows = older ++ [newest]) (others : ∀ row ∈ older, p row = false)
    (hit : p newest = true) : t.matched p = 1 := by
  have none : older.countP p = 0 := by
    apply List.countP_eq_zero.mpr
    intro row member
    simp [others row member]
  simp [matched, rows, none, hit]

theorem insert_fresh [DecidableEq κ] {t : Table key} {row : ρ}
    (fresh : ∀ other ∈ t.rows, key other ≠ key row) : ∃ next, t.insert? row = some next := by
  refine ⟨_, dif_pos ?_⟩
  simpa using fresh

theorem find?_fresh [DecidableEq κ] {t : Table key} {k : κ}
    (fresh : ∀ other ∈ t.rows, key other ≠ k) : t.find? k = none := by
  apply List.find?_eq_none.mpr
  simpa using fresh

theorem matched_one [DecidableEq κ] {t : Table key} {row : ρ} {p : ρ → Bool}
    (present : row ∈ t.rows) (hit : p row = true)
    (only : ∀ other ∈ t.rows, p other = true → key other = key row) : t.matched p = 1 := by
  have same : t.rows.countP p = t.rows.countP fun other => decide (key other = key row) := by
    apply List.countP_congr
    intro other member
    constructor
    · exact fun taken => decide_eq_true (only other member taken)
    · intro taken
      rw [eq_of_key member present (of_decide_eq_true taken)]
      exact hit
  rw [matched, same, List.countP_eq_length_filter, filter_key t.distinct present]
  rfl

/-- An update that names one key and hits one row has changed the row of that key. -/
theorem updated_once [DecidableEq κ] {t : Table key} {k : κ} {p : ρ → Bool} {f : ρ → ρ}
    (keeps : ∀ row, key (f row) = key row) (named : ∀ row, p row = true → key row = k)
    (once : t.matched p = 1) :
    ∃ row ∈ t.rows, p row = true ∧ (t.update p f keeps).find? k = some (f row) := by
  have positive : 0 < t.rows.countP p := by
    unfold matched at once
    omega
  obtain ⟨row, member, hit⟩ := List.countP_pos_iff.mp positive
  refine ⟨row, member, hit, ?_⟩
  have found : t.find? k = some row := by
    rw [← named row hit]
    exact find?_of_mem member
  rw [find?_update, found]
  simp [hit]

theorem mem_delete {t : Table key} {p : ρ → Bool} {row : ρ} :
    row ∈ (t.delete p).rows ↔ row ∈ t.rows ∧ p row = false := by
  simp [delete]

theorem delete_none {t : Table key} {p : ρ → Bool} (kept : ∀ row ∈ t.rows, p row = false) :
    t.delete p = t := by
  apply ext_rows
  simp only [delete]
  rw [List.filter_eq_self]
  intro row member
  rw [kept row member]
  rfl

end Table

end CarsinOS.Lib
