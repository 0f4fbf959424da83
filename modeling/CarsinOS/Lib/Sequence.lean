import Mathlib.Data.List.Basic

/-! Rows under consecutive numbers. -/
namespace CarsinOS.Lib

variable {ρ : Type}

/-- The rows are numbered one after the other, from the number after `start`. -/
def Follow (number : ρ → Int) : Int → List ρ → Prop
  | _, [] => True
  | start, row :: rows => number row = start + 1 ∧ Follow number (start + 1) rows

variable {number : ρ → Int} {start : Int} {rows : List ρ}

theorem follow_append {more : List ρ} : Follow number start (rows ++ more) ↔
    Follow number start rows ∧ Follow number (start + rows.length) more := by
  induction rows generalizing start with
  | nil => simp [Follow]
  | cons row rows ih =>
    have shift : start + 1 + (rows.length : Int) = start + ((rows.length : Int) + 1) := by omega
    simp only [List.cons_append, Follow, ih, List.length_cons, Int.natCast_add, Int.natCast_one,
      shift, and_assoc]

theorem follow_within (follows : Follow number start rows) {row : ρ} (member : row ∈ rows) :
    start < number row ∧ number row ≤ start + rows.length := by
  induction rows generalizing start with
  | nil => cases member
  | cons first rows ih =>
    obtain ⟨here, rest⟩ := follows
    rw [List.length_cons]
    rcases List.mem_cons.mp member with rfl | later
    · omega
    · have within := ih rest later
      omega

theorem follow_sorted (follows : Follow number start rows) :
    rows.Pairwise fun first second => number first < number second := by
  induction rows generalizing start with
  | nil => exact List.Pairwise.nil
  | cons row rows ih =>
    obtain ⟨here, rest⟩ := follows
    apply List.Pairwise.cons _ (ih rest)
    intro later member
    have above := (follow_within rest member).1
    omega

theorem follow_map {f : ρ → ρ} (keeps : ∀ row, number (f row) = number row)
    (follows : Follow number start rows) : Follow number start (rows.map f) := by
  induction rows generalizing start with
  | nil => trivial
  | cons row rows ih => exact ⟨(keeps row).trans follows.1, ih follows.2⟩

/-- Every number of the range is taken. -/
theorem follow_taken (follows : Follow number start rows) {n : Int} (above : start < n)
    (within : n ≤ start + rows.length) : ∃ row ∈ rows, number row = n := by
  induction rows generalizing start with
  | nil =>
    simp only [List.length_nil, Int.natCast_zero] at within
    omega
  | cons row rows ih =>
    obtain ⟨here, rest⟩ := follows
    rw [List.length_cons] at within
    by_cases first : n = start + 1
    · exact ⟨row, List.mem_cons_self, by rw [here, first]⟩
    · obtain ⟨later, member, same⟩ := ih rest (by omega) (by omega)
      exact ⟨later, List.mem_cons_of_mem _ member, same⟩

/-- The rows above a number of the range follow it. -/
theorem follow_above (follows : Follow number start rows) {n : Int} (above : start ≤ n)
    (within : n ≤ start + rows.length) :
    Follow number n (rows.filter fun row => decide (n < number row)) := by
  induction rows generalizing start with
  | nil => trivial
  | cons row rows ih =>
    obtain ⟨here, rest⟩ := follows
    rw [List.length_cons] at within
    by_cases first : n = start
    · subst first
      have all : (row :: rows).filter (fun row => decide (n < number row)) = row :: rows := by
        apply List.filter_eq_self.mpr
        intro other member
        have whole : Follow number n (row :: rows) := ⟨here, rest⟩
        exact decide_eq_true (follow_within whole member).1
      rw [all]
      exact ⟨here, rest⟩
    · rw [List.filter_cons_of_neg (by simp only [here, decide_eq_true_eq]; omega)]
      exact ih rest (by omega) (by omega)

end CarsinOS.Lib
