import CarsinOS.Lib.Run

/-! What held at a moment of a run. -/
namespace CarsinOS.Lib

variable {S L : Type*} {Step : S → L → S → Prop} {s t u : S} {ls ms : List L} {P Q : S → Prop}

/-- A run passed through a state with a property. -/
def Passed (Step : S → L → S → Prop) (s : S) (ls : List L) (t : S) (P : S → Prop) : Prop :=
  ∃ before after u, ls = before ++ after ∧ Run Step s before u ∧ Run Step u after t ∧ P u

theorem Passed.now (reached : Run Step s ls t) (holds : P t) : Passed Step s ls t P :=
  ⟨ls, [], t, (List.append_nil ls).symm, reached, .nil t, holds⟩

/-- What was passed stays behind a run that goes on. -/
theorem Passed.snoc {l : L} (passed : Passed Step s ls t P) (taken : Step t l u) :
    Passed Step s (ls ++ [l]) u P := by
  obtain ⟨before, after, v, rfl, first, second, holds⟩ := passed
  exact ⟨before, after ++ [l], v, List.append_assoc .., first, second.snoc taken, holds⟩

theorem Passed.mono (passed : Passed Step s ls t P) (weaker : ∀ u, P u → Q u) :
    Passed Step s ls t Q := by
  obtain ⟨before, after, u, split, first, second, holds⟩ := passed
  exact ⟨before, after, u, split, first, second, weaker u holds⟩

/-- A run is a run of the system it is projected to, of the labels that are not silent. -/
theorem run_project {T M : Type*} {Below : T → M → T → Prop} (state : S → T) (label : L → Option M)
    (projects : ∀ s l t, Step s l t → (∀ m ∈ label l, Below (state s) m (state t)) ∧
      (label l = none → state t = state s))
    (reached : Run Step s ls t) : Run Below (state s) (ls.filterMap label) (state t) := by
  induction reached with
  | nil => exact .nil _
  | @snoc t u ls l _ taken ih =>
    obtain ⟨loud, silent⟩ := projects _ _ _ taken
    cases visible : label l with
    | none => simpa [visible, silent visible] using ih
    | some m => simpa [visible] using ih.snoc (loud m visible)

end CarsinOS.Lib
