import Mathlib.Data.List.Induction

/-! Logs that grow at their end, where each entry fits the entries before it. -/
namespace CarsinOS.Lib

variable {ρ : Type*}

inductive Logged (fits : List ρ → ρ → Prop) : List ρ → Prop
  | empty : Logged fits []
  | entry {before : List ρ} {row : ρ} : Logged fits before → fits before row →
      Logged fits (before ++ [row])

variable {fits : List ρ → ρ → Prop} {before rows : List ρ} {row : ρ}

end CarsinOS.Lib
