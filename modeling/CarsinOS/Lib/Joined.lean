import Mathlib.Algebra.GroupWithZero.Nat
import Mathlib.Data.List.Basic
import Mathlib.Data.List.Nodup
import Mathlib.Data.List.Sort

/-! Items in the order of a key, and texts joined by a separator: two ways of writing several
things as one. -/
namespace CarsinOS.Lib

section Sorting
variable {α K : Type*} [LinearOrder K]

def sortOn (key : α → K) (items : List α) : List α :=
  items.insertionSort fun left right => key left ≤ key right

theorem sortOn_perm (key : α → K) (items : List α) : (sortOn key items).Perm items :=
  List.perm_insertionSort _ items

theorem sortOn_pairwise (key : α → K) (items : List α) :
    (sortOn key items).Pairwise fun left right => key left ≤ key right := by
  have total : Std.Total fun left right : α => key left ≤ key right :=
    ⟨fun left right => le_total (key left) (key right)⟩
  have trans : IsTrans α fun left right => key left ≤ key right := ⟨fun _ _ _ => le_trans⟩
  exact List.pairwise_insertionSort _ items

/-- Under distinct keys the order the items are given in does not matter. -/
theorem sortOn_eq_of_perm {key : α → K} {items others : List α} (perm : items.Perm others)
    (distinct : (items.map key).Nodup) : sortOn key items = sortOn key others := by
  have across := ((sortOn_perm key items).trans perm).trans (sortOn_perm key others).symm
  refine across.eq_of_pairwise ?_ (sortOn_pairwise key items) (sortOn_pairwise key others)
  intro a b inside other below above
  have inItems : a ∈ items := (sortOn_perm key items).mem_iff.mp inside
  have inOthers : b ∈ items := perm.mem_iff.mpr ((sortOn_perm key others).mem_iff.mp other)
  exact List.inj_on_of_nodup_map distinct inItems inOthers (le_antisymm below above)

end Sorting

section Joining
variable {α : Type*} (separator : α)

def joined : List (List α) → List α
  | [] => []
  | [part] => part
  | part :: parts => part ++ separator :: joined parts

variable [DecidableEq α]

/-- What stands before and after each separator of a text. -/
def cuts : List α → List (List α × List α)
  | [] => []
  | c :: rest =>
    (if c = separator then [([], rest)] else []) ++
      (cuts rest).map fun (before, after) => (c :: before, after)

variable {separator}

theorem mem_cuts {text before after : List α} :
    (before, after) ∈ cuts separator text ↔ text = before ++ separator :: after := by
  induction text generalizing before with
  | nil => simp [cuts]
  | cons c rest ih =>
    have here : (before, after) ∈ (if c = separator then [(([] : List α), rest)] else []) ↔
        c = separator ∧ before = [] ∧ after = rest := by
      split <;> simp_all
    simp only [cuts, List.mem_append, here, List.mem_map, Prod.mk.injEq, Prod.exists]
    cases before with
    | nil => simp [eq_comm]
    | cons d before =>
      simp only [reduceCtorEq, false_and, and_false, false_or, List.cons.injEq, List.cons_append]
      constructor
      · rintro ⟨front, back, inside, ⟨rfl, rfl⟩, rfl⟩
        exact ⟨rfl, ih.mp inside⟩
      · rintro ⟨rfl, same⟩
        exact ⟨before, after, ih.mpr same, ⟨rfl, rfl⟩, rfl⟩

theorem append_separator_inj {first second rest more : List α} (plain : separator ∉ first)
    (also : separator ∉ second) :
    first ++ separator :: rest = second ++ separator :: more ↔ first = second ∧ rest = more := by
  induction first generalizing second with
  | nil =>
    cases second with
    | nil => simp
    | cons c second =>
      simp only [List.mem_cons, not_or] at also
      simp [also.1]
  | cons c first ih =>
    cases second with
    | nil =>
      simp only [List.mem_cons, not_or] at plain
      simp [Ne.symm plain.1]
    | cons d second =>
      have rest := ih (fun inside => plain (List.mem_cons_of_mem _ inside))
        (fun inside => also (List.mem_cons_of_mem _ inside))
      simp only [List.cons_append, List.cons.injEq, rest]
      tauto

theorem joined_count (parts : List (List α)) : (joined separator parts).count separator =
    (parts.map (List.count separator)).sum + (parts.length - 1) := by
  induction parts with
  | nil => rfl
  | cons part parts ih =>
    cases parts with
    | nil => simp [joined]
    | cons next parts =>
      simp only [joined, List.count_append, List.count_cons_self, ih, List.map_cons, List.sum_cons,
        List.length_cons]
      omega

theorem joined_inj {parts others : List (List α)} (size : others.length = parts.length)
    (plain : ∀ part ∈ parts, separator ∉ part) (also : ∀ part ∈ others, separator ∉ part)
    (same : joined separator others = joined separator parts) : others = parts := by
  induction parts generalizing others with
  | nil => exact List.length_eq_zero_iff.mp size
  | cons part parts ih =>
    obtain ⟨other, others, rfl⟩ := List.exists_cons_of_length_eq_add_one size
    have sizes : others.length = parts.length := Nat.succ.inj size
    cases parts with
    | nil =>
      rw [List.length_eq_zero_iff.mp sizes] at same ⊢
      exact congrArg (· :: []) same
    | cons next parts =>
      obtain ⟨next', others, rfl⟩ := List.exists_cons_of_length_eq_add_one sizes
      obtain ⟨here, rest⟩ := List.forall_mem_cons.mp plain
      obtain ⟨alsoHere, alsoRest⟩ := List.forall_mem_cons.mp also
      obtain ⟨rfl, tails⟩ := (append_separator_inj alsoHere here).mp same
      rw [ih sizes rest alsoRest tails]

/-- Parts without a separator are found again in any equally many that are joined to the same
text. -/
theorem joined_sole {parts others : List (List α)} (size : others.length = parts.length)
    (plain : ∀ part ∈ parts, separator ∉ part)
    (same : joined separator others = joined separator parts) : others = parts := by
  have counts := congrArg (List.count separator) same
  rw [joined_count, joined_count, size] at counts
  have none : (parts.map (List.count separator)).sum = 0 := by
    rw [List.sum_eq_zero_iff_forall_eq_nat]
    intro n inside
    obtain ⟨part, member, rfl⟩ := List.mem_map.mp inside
    exact List.count_eq_zero.mpr (plain part member)
  have also : (others.map (List.count separator)).sum = 0 := by omega
  refine joined_inj size plain ?_ same
  intro part member
  have zero := List.sum_eq_zero_iff_forall_eq_nat.mp also _ (List.mem_map_of_mem member)
  exact List.count_eq_zero.mp zero

end Joining
end CarsinOS.Lib
