import CarsinOS.Lib.Bytes

/-! Parts in a row, each behind its length in eight bytes. -/
namespace CarsinOS.Lib

def lengthPrefixed (part : List UInt8) : List UInt8 := bigEndian part.length 8 ++ part

def partsInRow (parts : List (List UInt8)) : List UInt8 := parts.flatMap lengthPrefixed

/-- A part ends where its length says. -/
theorem lengthPrefixed_append {a b rest other : List UInt8} (short : a.length < 256 ^ 8)
    (alsoShort : b.length < 256 ^ 8) (same : lengthPrefixed a ++ rest = lengthPrefixed b ++ other) :
    a = b ∧ rest = other := by
  simp only [lengthPrefixed, List.append_assoc] at same
  obtain ⟨lengths, tails⟩ := List.append_inj same (by simp)
  have equal := congrArg fromBigEndian lengths
  rw [fromBigEndian_bigEndian short, fromBigEndian_bigEndian alsoShort] at equal
  exact List.append_inj tails equal

theorem partsInRow_append {parts others : List (List UInt8)} {rest other : List UInt8}
    (short : ∀ part ∈ parts, part.length < 256 ^ 8)
    (alsoShort : ∀ part ∈ others, part.length < 256 ^ 8) (count : parts.length = others.length)
    (same : partsInRow parts ++ rest = partsInRow others ++ other) :
    parts = others ∧ rest = other := by
  induction parts generalizing others with
  | nil =>
    cases List.length_eq_zero_iff.mp count.symm
    exact ⟨rfl, same⟩
  | cons part parts ih =>
    cases others with
    | nil => simp at count
    | cons first others =>
      simp only [partsInRow, List.flatMap_cons, List.append_assoc] at same
      obtain ⟨rfl, tails⟩ := lengthPrefixed_append (short part (by simp)) (alsoShort first (by simp))
        same
      obtain ⟨rfl, rests⟩ := ih (fun p inside => short p (by simp [inside]))
        (fun p inside => alsoShort p (by simp [inside])) (by simpa using count) tails
      exact ⟨rfl, rests⟩

end CarsinOS.Lib
