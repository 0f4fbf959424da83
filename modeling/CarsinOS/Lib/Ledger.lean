import CarsinOS.Lib.Sequence
import CarsinOS.Lib.Table

/-! Ledgers: the tries of a subject are numbered from one on, and a try is made when the one before
it is settled. -/
namespace CarsinOS.Lib

variable {ρ κ : Type} [DecidableEq κ]

/-- The rows of a subject, the oldest first. -/
def triesOf (subject : ρ → κ) (k : κ) (rows : List ρ) : List ρ :=
  rows.filter fun row => decide (subject row = k)

structure Ledger (subject : ρ → κ) (number : ρ → Int) (settled : ρ → Prop) (rows : List ρ) :
    Prop where
  numbered : ∀ k, Follow number 0 (triesOf subject k rows)
  settled : ∀ k, (triesOf subject k rows).Pairwise fun earlier _ => settled earlier

variable {subject : ρ → κ} {number : ρ → Int} {settled : ρ → Prop} {rows : List ρ}

theorem mem_tries {k : κ} {row : ρ} :
    row ∈ triesOf subject k rows ↔ row ∈ rows ∧ subject row = k := by
  rw [triesOf, List.mem_filter, decide_eq_true_iff]

theorem tries_append {k : κ} {row : ρ} : triesOf subject k (rows ++ [row]) =
    triesOf subject k rows ++ if subject row = k then [row] else [] := by
  rw [triesOf, List.filter_append]
  by_cases same : subject row = k <;> simp [triesOf, same]

theorem tries_map {f : ρ → ρ} (keeps : ∀ row, subject (f row) = subject row) (k : κ) :
    triesOf subject k (rows.map f) = (triesOf subject k rows).map f := by
  rw [triesOf, triesOf, List.filter_map]
  congr 1
  exact List.filter_congr fun row _ => by rw [Function.comp, keeps]

theorem ledger_empty : Ledger subject number settled [] :=
  ⟨fun _ => trivial, fun _ => List.Pairwise.nil⟩

/-- A subject is tried first under number one, and again when its last try is settled. -/
def NextTry (subject : ρ → κ) (number : ρ → Int) (settled : ρ → Prop) (rows : List ρ) (row : ρ) :
    Prop :=
  match (triesOf subject (subject row) rows).getLast? with
  | none => number row = 1
  | some last => settled last ∧ number row = number last + 1

theorem follow_last {start : Int} {last : ρ} (follows : Follow number start rows)
    (found : rows.getLast? = some last) : number last = start + rows.length := by
  obtain ⟨before, rfl⟩ := List.getLast?_eq_some_iff.mp found
  rw [follow_append] at follows
  have here : number last = start + before.length + 1 := follows.2.1
  rw [here, List.length_append, List.length_singleton]
  omega

theorem ledger_append {row : ρ} (ledger : Ledger subject number settled rows)
    (next : NextTry subject number settled rows row) :
    Ledger subject number settled (rows ++ [row]) := by
  constructor
  · intro k
    rw [tries_append, follow_append]
    refine ⟨ledger.numbered k, ?_⟩
    split
    · rename_i same
      subst same
      refine ⟨?_, trivial⟩
      unfold NextTry at next
      split at next
      · rename_i none
        rw [List.getLast?_eq_none_iff.mp none, next]
        rfl
      · rename_i last found
        rw [next.2, follow_last (ledger.numbered _) found]
    · trivial
  · intro k
    rw [tries_append]
    refine List.pairwise_append.mpr ⟨ledger.settled k, ?_, ?_⟩
    · split
      · exact List.pairwise_singleton ..
      · exact List.Pairwise.nil
    · intro earlier member other new
      split at new
      · rename_i same
        subst same
        unfold NextTry at next
        split at next
        · rename_i none
          rw [List.getLast?_eq_none_iff.mp none] at member
          cases member
        · rename_i last found
          obtain ⟨before, split⟩ := List.getLast?_eq_some_iff.mp found
          have order := ledger.settled (subject row)
          rw [split] at member order
          rcases List.mem_append.mp member with early | late
          · exact (List.pairwise_append.mp order).2.2 earlier early last (List.mem_singleton_self _)
          · cases List.mem_singleton.mp late
            exact next.1
      · cases new

theorem ledger_map {f : ρ → ρ} (ledger : Ledger subject number settled rows)
    (subjects : ∀ row, subject (f row) = subject row) (numbers : ∀ row, number (f row) = number row)
    (stays : ∀ row ∈ rows, settled row → settled (f row)) :
    Ledger subject number settled (rows.map f) := by
  constructor
  · intro k
    rw [tries_map subjects]
    exact follow_map numbers (ledger.numbered k)
  · intro k
    rw [tries_map subjects, List.pairwise_map]
    refine (ledger.settled k).imp_of_mem ?_
    intro earlier _ member _ done
    exact stays earlier (mem_tries.mp member).1 done

/-- A try that is not settled is the last of its subject. -/
theorem ledger_open {row : ρ} (ledger : Ledger subject number settled rows) (member : row ∈ rows)
    (unsettled : ¬settled row) :
    ∃ before, triesOf subject (subject row) rows = before ++ [row] := by
  have inside : row ∈ triesOf subject (subject row) rows := mem_tries.mpr ⟨member, rfl⟩
  obtain ⟨before, after, split⟩ := List.append_of_mem inside
  cases after with
  | nil => exact ⟨before, split⟩
  | cons next after =>
    have order := ledger.settled (subject row)
    rw [split, List.pairwise_append, List.pairwise_cons] at order
    exact absurd (order.2.1.1 next List.mem_cons_self) unsettled

/-- What holds of every row with one after it holds of all but the last. -/
theorem pairwise_dropLast {P : ρ → Prop} (earlier : rows.Pairwise fun first _ => P first) :
    ∀ row ∈ rows.dropLast, P row := by
  rcases List.eq_nil_or_concat' rows with rfl | ⟨before, last, rfl⟩
  · exact fun row none => absurd none (List.not_mem_nil)
  · intro row member
    rw [List.dropLast_concat] at member
    exact (List.pairwise_append.mp earlier).2.2 row member last (List.mem_singleton_self last)

/-- The try with the highest number is the last one. -/
theorem highest_last {start : Int} (follows : Follow number start rows) :
    highest (fun first second => decide (number first < number second)) rows = rows.getLast? := by
  induction rows generalizing start with
  | nil => rfl
  | cons row rows ih =>
    obtain ⟨here, rest⟩ := follows
    rw [highest, ih rest]
    cases rows with
    | nil => rfl
    | cons second rows =>
      obtain ⟨last, found⟩ := List.getLast?_isSome.mpr (List.cons_ne_nil second rows) |>
        Option.isSome_iff_exists.mp
      have above := (follow_within rest (List.mem_of_getLast? found)).1
      rw [List.getLast?_cons_cons, found]
      simp only [here, decide_eq_true_eq, if_pos above]

end CarsinOS.Lib
