import Mathlib.Data.List.Basic

/-! Runs of a labelled transition relation. A guard restricts the labels a run may take,
so an invariant that only holds under a condition on the state before each step is still
one induction. -/
namespace CarsinOS.Lib

variable {S L : Type*}

/-- A finite run, the newest label last. -/
inductive Run (Step : S → L → S → Prop) : S → List L → S → Prop where
  | nil (s : S) : Run Step s [] s
  | snoc {s t u : S} {ls : List L} {l : L} :
      Run Step s ls t → Step t l u → Run Step s (ls ++ [l]) u

/-- The steps of a relation that also meet a condition on the state they leave. -/
def Guarded (Step : S → L → S → Prop) (guard : S → L → Prop) (s : S) (l : L) (t : S) : Prop :=
  guard s l ∧ Step s l t

/-- A deterministic step function seen as a relation. -/
def Computes (step : S → L → S) (s : S) (l : L) (t : S) : Prop := step s l = t

theorem run_invariant {Step : S → L → S → Prop} {Inv : S → Prop}
    (preserved : ∀ s l t, Inv s → Step s l t → Inv t) {s t : S} {ls : List L}
    (initial : Inv s) (reached : Run Step s ls t) : Inv t := by
  induction reached with
  | nil => exact initial
  | snoc _ taken ih => exact preserved _ _ _ ih taken

/-- An invariant of the state and of the labels read so far. -/
theorem run_history {Step : S → L → S → Prop} {Inv : List L → S → Prop}
    (preserved : ∀ ls s l t, Inv ls s → Step s l t → Inv (ls ++ [l]) t) {s t : S} {ls : List L}
    (initial : Inv [] s) (reached : Run Step s ls t) : Inv ls t := by
  induction reached with
  | nil => exact initial
  | snoc _ taken ih => exact preserved _ _ _ _ ih taken

theorem run_append {Step : S → L → S → Prop} {s t u : S} {ls ms : List L}
    (first : Run Step s ls t) (second : Run Step t ms u) : Run Step s (ls ++ ms) u := by
  induction second with
  | nil => simpa using first
  | snoc _ taken ih => simpa [← List.append_assoc] using ih.snoc taken

theorem run_mono {Step Wider : S → L → S → Prop} (wider : ∀ s l t, Step s l t → Wider s l t)
    {s t : S} {ls : List L} (reached : Run Step s ls t) : Run Wider s ls t := by
  induction reached with
  | nil => exact .nil _
  | snoc _ taken ih => exact ih.snoc (wider _ _ _ taken)

end CarsinOS.Lib
