import CarsinOS.Number
import Mathlib.Data.List.Infix

/-! Texts sliced at byte offsets, and patterns looked for in the slices. A slice that is out of
bounds or off a character boundary is none. -/
namespace CarsinOS.Lib

/-- `&text[i..]`. -/
def sliceFrom : Text → Nat → Option Text
  | text, 0 => some text
  | [], _ + 1 => none
  | c :: text, i + 1 => if c.utf8Size ≤ i + 1 then sliceFrom text (i + 1 - c.utf8Size) else none

/-- `&text[..i]`. -/
def sliceTo : Text → Nat → Option Text
  | _, 0 => some []
  | [], _ + 1 => none
  | c :: text, i + 1 =>
    if c.utf8Size ≤ i + 1 then (sliceTo text (i + 1 - c.utf8Size)).map (c :: ·) else none

/-- `&text[i..j]`. -/
def slice (text : Text) (i j : Nat) : Option Text := (sliceTo text j).bind (sliceFrom · i)

/-- `str::find`. -/
def find (pattern : Text) : Text → Option Nat
  | [] => if pattern = [] then some 0 else none
  | c :: text =>
    if pattern.isPrefixOf (c :: text) then some 0 else (find pattern text).map (c.utf8Size + ·)

/-- `str::rfind`. -/
def rfind (pattern : Text) : Text → Option Nat
  | [] => if pattern = [] then some 0 else none
  | c :: text =>
    match rfind pattern text with
    | some i => some (c.utf8Size + i)
    | none => if pattern.isPrefixOf (c :: text) then some 0 else none

/-- `text[i..].find(pattern)`, as an offset into the whole text. -/
def findFrom (pattern text : Text) (i : Nat) : Option (Option Nat) :=
  (sliceFrom text i).map fun tail => (find pattern tail).map (i + ·)

/-- `text[..i].rfind(pattern)`. -/
def rfindTo (pattern text : Text) (i : Nat) : Option (Option Nat) :=
  (sliceTo text i).map (rfind pattern)

/-- The pattern stands at an offset. -/
def At (pattern text : Text) (i : Nat) : Prop :=
  ∃ before after, text = before ++ (pattern ++ after) ∧ utf8Length before = i

abbrev Boundary (text : Text) (i : Nat) : Prop := At [] text i

@[simp] theorem utf8Length_nil : utf8Length [] = 0 := rfl

@[simp] theorem utf8Length_cons (c : Char) (text : Text) :
    utf8Length (c :: text) = c.utf8Size + utf8Length text := by
  simp [utf8Length]

@[simp] theorem utf8Length_append (first second : Text) :
    utf8Length (first ++ second) = utf8Length first + utf8Length second := by
  simp [utf8Length]

theorem length_le_utf8 (text : Text) : text.length ≤ utf8Length text := by
  induction text with
  | nil => exact Nat.zero_le _
  | cons c text ih =>
    have size := c.utf8Size_pos
    rw [List.length_cons, utf8Length_cons]
    omega

/-- Of two beginnings of a text, the one with fewer bytes begins the other. -/
theorem prefix_of_length {first second text : Text} (one : first <+: text) (two : second <+: text)
    (short : utf8Length first ≤ utf8Length second) : first <+: second := by
  rcases List.prefix_or_prefix_of_prefix one two with before | ⟨rest, rfl⟩
  · exact before
  · have empty : rest = [] := by
      have size := length_le_utf8 rest
      rw [utf8Length_append] at short
      exact List.eq_nil_of_length_eq_zero (by omega)
    rw [empty, List.append_nil]

/-- Two beginnings of a text with the same number of bytes. -/
theorem same_prefix {first second text : Text} (one : first <+: text) (two : second <+: text)
    (same : utf8Length first = utf8Length second) : first = second := by
  obtain ⟨rest, rfl⟩ := prefix_of_length one two same.le
  have size := length_le_utf8 rest
  rw [utf8Length_append] at same
  have empty : rest = [] := List.eq_nil_of_length_eq_zero (by omega)
  rw [empty, List.append_nil]

theorem sliceFrom_some {text tail : Text} {i : Nat} :
    sliceFrom text i = some tail ↔ ∃ before, text = before ++ tail ∧ utf8Length before = i := by
  induction text generalizing i with
  | nil =>
    cases i with
    | zero =>
      rw [sliceFrom, Option.some.injEq]
      constructor
      · rintro rfl
        exact ⟨[], rfl, rfl⟩
      · rintro ⟨before, whole, -⟩
        exact (List.append_eq_nil_iff.mp whole.symm).2.symm
    | succ i =>
      simp only [sliceFrom, reduceCtorEq, false_iff, not_exists, not_and]
      intro before whole
      rw [(List.append_eq_nil_iff.mp whole.symm).1]
      simp
  | cons c text ih =>
    have size := c.utf8Size_pos
    cases i with
    | zero =>
      rw [sliceFrom, Option.some.injEq]
      constructor
      · rintro rfl
        exact ⟨[], rfl, rfl⟩
      · rintro ⟨before, whole, length⟩
        cases before with
        | nil => exact whole
        | cons d before =>
          have positive := d.utf8Size_pos
          rw [utf8Length_cons] at length
          omega
    | succ i =>
      rw [sliceFrom]
      constructor
      · intro sliced
        split at sliced
        · rename_i fits
          obtain ⟨before, rfl, length⟩ := ih.mp sliced
          refine ⟨c :: before, rfl, ?_⟩
          rw [utf8Length_cons]
          omega
        · cases sliced
      · rintro ⟨before, whole, length⟩
        cases before with
        | nil => cases length
        | cons d before =>
          cases whole
          rw [utf8Length_cons] at length
          rw [if_pos (by omega)]
          exact ih.mpr ⟨before, rfl, by omega⟩

theorem sliceTo_some {text head : Text} {i : Nat} :
    sliceTo text i = some head ↔ ∃ after, text = head ++ after ∧ utf8Length head = i := by
  induction text generalizing i head with
  | nil =>
    cases i with
    | zero =>
      rw [sliceTo, Option.some.injEq]
      constructor
      · rintro rfl
        exact ⟨[], rfl, rfl⟩
      · rintro ⟨after, whole, -⟩
        exact (List.append_eq_nil_iff.mp whole.symm).1.symm
    | succ i =>
      simp only [sliceTo, reduceCtorEq, false_iff, not_exists, not_and]
      intro after whole
      rw [(List.append_eq_nil_iff.mp whole.symm).1]
      simp
  | cons c text ih =>
    have size := c.utf8Size_pos
    cases i with
    | zero =>
      rw [sliceTo, Option.some.injEq]
      constructor
      · rintro rfl
        exact ⟨c :: text, rfl, rfl⟩
      · rintro ⟨after, whole, length⟩
        cases head with
        | nil => rfl
        | cons d head =>
          have positive := d.utf8Size_pos
          rw [utf8Length_cons] at length
          omega
    | succ i =>
      rw [sliceTo]
      constructor
      · intro sliced
        split at sliced
        · rename_i fits
          obtain ⟨rest, cut, rfl⟩ := Option.map_eq_some_iff.mp sliced
          obtain ⟨after, rfl, length⟩ := ih.mp cut
          refine ⟨after, rfl, ?_⟩
          rw [utf8Length_cons]
          omega
        · cases sliced
      · rintro ⟨after, whole, length⟩
        cases head with
        | nil => cases length
        | cons d head =>
          cases whole
          rw [utf8Length_cons] at length
          rw [if_pos (by omega), ih.mpr ⟨after, rfl, by omega⟩]
          rfl

section Occurrences
variable {pattern text : Text} {i j k : Nat}

theorem At.boundary (here : At pattern text i) : Boundary text i := by
  obtain ⟨before, after, whole, length⟩ := here
  exact ⟨before, pattern ++ after, whole, length⟩

theorem At.ends (here : At pattern text i) : Boundary text (i + utf8Length pattern) := by
  obtain ⟨before, after, rfl, rfl⟩ := here
  exact ⟨before ++ pattern, after, by simp, by simp⟩

theorem At.within (here : At pattern text i) : i + utf8Length pattern ≤ utf8Length text := by
  obtain ⟨before, after, rfl, rfl⟩ := here
  simp only [utf8Length_append]
  omega

theorem boundary_sliceFrom (inside : Boundary text i) : ∃ tail, sliceFrom text i = some tail := by
  obtain ⟨before, after, whole, length⟩ := inside
  exact ⟨after, sliceFrom_some.mpr ⟨before, whole, length⟩⟩

theorem boundary_sliceTo (inside : Boundary text i) : ∃ head, sliceTo text i = some head := by
  obtain ⟨before, after, whole, length⟩ := inside
  exact ⟨before, sliceTo_some.mpr ⟨after, whole, length⟩⟩

theorem boundary_slice (first : Boundary text i) (last : Boundary text j) (ordered : i ≤ j) :
    ∃ part, slice text i j = some part := by
  obtain ⟨before, after, rfl, rfl⟩ := last
  obtain ⟨earlier, rest, whole, rfl⟩ := first
  have cut : sliceTo (before ++ ([] ++ after)) (utf8Length before) = some before :=
    sliceTo_some.mpr ⟨after, rfl, rfl⟩
  obtain ⟨part, rfl⟩ := prefix_of_length (whole ▸ List.prefix_append earlier _)
    (List.prefix_append before _) ordered
  exact ⟨part, by rw [slice, cut]; exact sliceFrom_some.mpr ⟨earlier, rfl, rfl⟩⟩

/-- An occurrence in a tail is one of the whole text. -/
theorem at_tail {tail : Text} (sliced : sliceFrom text i = some tail) :
    At pattern tail j ↔ At pattern text (i + j) := by
  obtain ⟨before, rfl, rfl⟩ := sliceFrom_some.mp sliced
  constructor
  · rintro ⟨more, after, rfl, rfl⟩
    exact ⟨before ++ more, after, by simp, by simp⟩
  · rintro ⟨other, after, whole, length⟩
    obtain ⟨more, rfl⟩ := prefix_of_length (List.prefix_append before tail)
      (whole ▸ List.prefix_append other _) (by omega)
    rw [List.append_assoc] at whole
    rw [utf8Length_append] at length
    exact ⟨more, after, List.append_cancel_left whole, by omega⟩

/-- An occurrence in a head is one of the whole text that ends in it. -/
theorem at_head {head : Text} (sliced : sliceTo text i = some head) :
    At pattern head j ↔ At pattern text j ∧ j + utf8Length pattern ≤ i := by
  obtain ⟨rest, rfl, rfl⟩ := sliceTo_some.mp sliced
  constructor
  · intro here
    refine ⟨?_, here.within⟩
    obtain ⟨before, after, rfl, rfl⟩ := here
    exact ⟨before, after ++ rest, by simp, rfl⟩
  · rintro ⟨⟨before, after, whole, rfl⟩, fits⟩
    have early : before ++ pattern <+: head ++ rest := by
      rw [whole, ← List.append_assoc]
      exact List.prefix_append _ _
    obtain ⟨more, rfl⟩ := prefix_of_length early (List.prefix_append head rest)
      (by rw [utf8Length_append]; exact fits)
    exact ⟨before, more, by simp, rfl⟩

theorem at_cons {c : Char} : At pattern (c :: text) i ↔
    (pattern <+: c :: text ∧ i = 0) ∨ ∃ j, i = c.utf8Size + j ∧ At pattern text j := by
  constructor
  · rintro ⟨before, after, whole, rfl⟩
    cases before with
    | nil => exact .inl ⟨⟨after, whole.symm⟩, rfl⟩
    | cons d before =>
      cases whole
      exact .inr ⟨utf8Length before, by simp, before, after, rfl, rfl⟩
  · rintro (⟨⟨after, whole⟩, rfl⟩ | ⟨j, rfl, before, after, rfl, rfl⟩)
    · exact ⟨[], after, whole.symm, rfl⟩
    · exact ⟨c :: before, after, rfl, by simp⟩

theorem at_nil : At pattern [] i ↔ pattern = [] ∧ i = 0 := by
  constructor
  · rintro ⟨before, after, whole, rfl⟩
    obtain ⟨rfl, rest⟩ := List.append_eq_nil_iff.mp whole.symm
    exact ⟨(List.append_eq_nil_iff.mp rest).1, rfl⟩
  · rintro ⟨rfl, rfl⟩
    exact ⟨[], [], rfl, rfl⟩

theorem find_iff : find pattern text = some i ↔
    At pattern text i ∧ ∀ j, At pattern text j → i ≤ j := by
  induction text generalizing i with
  | nil =>
    unfold find
    by_cases empty : pattern = []
    · simp only [empty, if_true, Option.some.injEq, at_nil, true_and]
      constructor
      · rintro rfl
        exact ⟨rfl, fun j _ => Nat.zero_le j⟩
      · rintro ⟨rfl, -⟩
        rfl
    · simp [empty, at_nil]
  | cons c text ih =>
    have size := c.utf8Size_pos
    unfold find
    by_cases starts : pattern <+: c :: text
    · rw [if_pos (List.isPrefixOf_iff_prefix.mpr starts), Option.some.injEq]
      constructor
      · rintro rfl
        exact ⟨at_cons.mpr (.inl ⟨starts, rfl⟩), fun j _ => Nat.zero_le j⟩
      · rintro ⟨-, least⟩
        have first := least 0 (at_cons.mpr (.inl ⟨starts, rfl⟩))
        omega
    · rw [if_neg (mt List.isPrefixOf_iff_prefix.mp starts), Option.map_eq_some_iff]
      constructor
      · rintro ⟨j, found, rfl⟩
        obtain ⟨here, least⟩ := ih.mp found
        refine ⟨at_cons.mpr (.inr ⟨j, rfl, here⟩), fun k other => ?_⟩
        rcases at_cons.mp other with ⟨begins, -⟩ | ⟨l, rfl, inside⟩
        · exact absurd begins starts
        · have := least l inside
          omega
      · rintro ⟨here, least⟩
        rcases at_cons.mp here with ⟨begins, -⟩ | ⟨j, rfl, inside⟩
        · exact absurd begins starts
        · refine ⟨j, ih.mpr ⟨inside, fun k other => ?_⟩, rfl⟩
          have := least (c.utf8Size + k) (at_cons.mpr (.inr ⟨k, rfl, other⟩))
          omega

theorem find_none : find pattern text = none ↔ ∀ j, ¬ At pattern text j := by
  induction text with
  | nil => by_cases empty : pattern = [] <;> simp [find, empty, at_nil]
  | cons c text ih =>
    unfold find
    by_cases starts : pattern <+: c :: text
    · rw [if_pos (List.isPrefixOf_iff_prefix.mpr starts)]
      simp only [reduceCtorEq, false_iff, not_forall, not_not]
      exact ⟨0, at_cons.mpr (.inl ⟨starts, rfl⟩)⟩
    · rw [if_neg (mt List.isPrefixOf_iff_prefix.mp starts), Option.map_eq_none_iff, ih]
      simp only [at_cons, starts, false_and, false_or, not_exists, not_and]
      constructor
      · rintro missing j k rfl
        exact missing k
      · intro missing j
        exact missing _ j rfl

theorem rfind_none : rfind pattern text = none ↔ ∀ j, ¬ At pattern text j := by
  induction text with
  | nil => by_cases empty : pattern = [] <;> simp [rfind, empty, at_nil]
  | cons c text ih =>
    unfold rfind
    cases later : rfind pattern text with
    | some k =>
      have somewhere : ¬ ∀ j, ¬ At pattern text j := fun missing => by
        rw [ih.mpr missing] at later
        cases later
      obtain ⟨j, here⟩ := not_forall_not.mp somewhere
      simp only [reduceCtorEq, false_iff, not_forall, not_not]
      exact ⟨_, at_cons.mpr (.inr ⟨j, rfl, here⟩)⟩
    | none =>
      have missing := ih.mp later
      by_cases starts : pattern <+: c :: text
      · rw [if_pos (List.isPrefixOf_iff_prefix.mpr starts)]
        simp only [reduceCtorEq, false_iff, not_forall, not_not]
        exact ⟨0, at_cons.mpr (.inl ⟨starts, rfl⟩)⟩
      · rw [if_neg (mt List.isPrefixOf_iff_prefix.mp starts)]
        simp [at_cons, starts, missing]

theorem rfind_iff : rfind pattern text = some i ↔
    At pattern text i ∧ ∀ j, At pattern text j → j ≤ i := by
  induction text generalizing i with
  | nil =>
    unfold rfind
    by_cases empty : pattern = []
    · simp only [empty, if_true, Option.some.injEq, at_nil, true_and]
      constructor
      · rintro rfl
        exact ⟨rfl, fun j none => none.le⟩
      · rintro ⟨rfl, -⟩
        rfl
    · simp [empty, at_nil]
  | cons c text ih =>
    unfold rfind
    cases later : rfind pattern text with
    | some k =>
      obtain ⟨there, greatest⟩ := ih.mp later
      simp only [Option.some.injEq]
      have bound : ∀ j, At pattern (c :: text) j → j ≤ c.utf8Size + k := by
        intro j other
        rcases at_cons.mp other with ⟨-, rfl⟩ | ⟨l, rfl, inside⟩
        · exact Nat.zero_le _
        · have := greatest l inside
          omega
      constructor
      · rintro rfl
        exact ⟨at_cons.mpr (.inr ⟨k, rfl, there⟩), bound⟩
      · rintro ⟨here, greatest⟩
        have above := greatest _ (at_cons.mpr (.inr ⟨k, rfl, there⟩))
        have below := bound i here
        omega
    | none =>
      have missing := rfind_none.mp later
      by_cases starts : pattern <+: c :: text
      · rw [if_pos (List.isPrefixOf_iff_prefix.mpr starts), Option.some.injEq]
        simp only [at_cons, starts, true_and, missing, and_false, exists_false, or_false]
        constructor
        · rintro rfl
          exact ⟨rfl, fun j none => none.le⟩
        · rintro ⟨rfl, -⟩
          rfl
      · rw [if_neg (mt List.isPrefixOf_iff_prefix.mp starts)]
        simp [at_cons, starts, missing]

/-- The first occurrence from an offset on. -/
structure First (pattern text : Text) (i k : Nat) : Prop where
  here : At pattern text k
  after : i ≤ k
  least : ∀ j, At pattern text j → i ≤ j → k ≤ j

/-- The last occurrence that ends before an offset. -/
structure Last (pattern text : Text) (i k : Nat) : Prop where
  here : At pattern text k
  before : k + utf8Length pattern ≤ i
  greatest : ∀ j, At pattern text j → j + utf8Length pattern ≤ i → j ≤ k

theorem findFrom_some (inside : Boundary text i) :
    findFrom pattern text i = some (some k) ↔ First pattern text i k := by
  obtain ⟨tail, sliced⟩ := boundary_sliceFrom inside
  simp only [findFrom, sliced, Option.map_some, Option.some.injEq, Option.map_eq_some_iff, find_iff]
  constructor
  · rintro ⟨j, ⟨here, least⟩, rfl⟩
    refine ⟨(at_tail sliced).mp here, by omega, fun l other after => ?_⟩
    obtain ⟨m, rfl⟩ := Nat.exists_eq_add_of_le after
    have := least m ((at_tail sliced).mpr other)
    omega
  · rintro ⟨here, after, least⟩
    obtain ⟨j, rfl⟩ := Nat.exists_eq_add_of_le after
    refine ⟨j, ⟨(at_tail sliced).mpr here, fun m other => ?_⟩, rfl⟩
    have := least (i + m) ((at_tail sliced).mp other) (by omega)
    omega

theorem findFrom_none (inside : Boundary text i) :
    findFrom pattern text i = some none ↔ ∀ j, At pattern text j → j < i := by
  obtain ⟨tail, sliced⟩ := boundary_sliceFrom inside
  simp only [findFrom, sliced, Option.map_some, Option.some.injEq, Option.map_eq_none_iff,
    find_none]
  constructor
  · intro missing j here
    by_contra after
    obtain ⟨m, rfl⟩ := Nat.exists_eq_add_of_le (Nat.le_of_not_lt after)
    exact missing m ((at_tail sliced).mpr here)
  · intro missing m here
    have := missing _ ((at_tail sliced).mp here)
    omega

theorem rfindTo_some (inside : Boundary text i) :
    rfindTo pattern text i = some (some k) ↔ Last pattern text i k := by
  obtain ⟨head, sliced⟩ := boundary_sliceTo inside
  simp only [rfindTo, sliced, Option.map_some, Option.some.injEq, rfind_iff, at_head sliced]
  constructor
  · rintro ⟨⟨here, before⟩, greatest⟩
    exact ⟨here, before, fun j other fits => greatest j ⟨other, fits⟩⟩
  · rintro ⟨here, before, greatest⟩
    exact ⟨⟨here, before⟩, fun j other => greatest j other.1 other.2⟩

theorem rfindTo_none (inside : Boundary text i) :
    rfindTo pattern text i = some none ↔
      ∀ j, At pattern text j → i < j + utf8Length pattern := by
  obtain ⟨head, sliced⟩ := boundary_sliceTo inside
  simp only [rfindTo, sliced, Option.map_some, Option.some.injEq, rfind_none, at_head sliced,
    not_and, not_le]

theorem findFrom_ok (pattern : Text) (inside : Boundary text i) :
    ∃ found, findFrom pattern text i = some found := by
  obtain ⟨tail, sliced⟩ := boundary_sliceFrom inside
  exact ⟨_, by rw [findFrom, sliced]; rfl⟩

theorem rfindTo_ok (pattern : Text) (inside : Boundary text i) :
    ∃ found, rfindTo pattern text i = some found := by
  obtain ⟨head, sliced⟩ := boundary_sliceTo inside
  exact ⟨_, by rw [rfindTo, sliced]; rfl⟩

/-- An occurrence in a slice is one of the whole text. -/
theorem at_slice {part : Text} (sliced : slice text i j = some part) (here : At pattern part k) :
    At pattern text (i + k) := by
  obtain ⟨head, cut, rest⟩ := Option.bind_eq_some_iff.mp sliced
  exact ((at_head cut).mp ((at_tail rest).mp here)).1

theorem boundary_end : Boundary text (utf8Length text) :=
  ⟨text, [], (List.append_nil text).symm, rfl⟩

/-- A character that is not in a pattern stands before or behind it. -/
theorem at_behind {c : Char} (here : At pattern text i) (there : At [c] text k)
    (other : c ∉ pattern) (after : i ≤ k) : i + utf8Length pattern ≤ k := by
  by_contra inside
  obtain ⟨before, rest, rfl, rfl⟩ := here
  obtain ⟨more, tail, whole, rfl⟩ := there
  obtain ⟨middle, rfl⟩ := prefix_of_length (List.prefix_append before _)
    (whole ▸ List.prefix_append more _) after
  rw [List.append_assoc] at whole
  have same := List.append_cancel_left whole
  rw [utf8Length_append] at inside
  obtain ⟨left, rfl⟩ := prefix_of_length (same ▸ List.prefix_append middle _)
    (List.prefix_append pattern rest) (by omega)
  rw [List.append_assoc] at same
  have next := List.append_cancel_left same
  cases left with
  | nil => simp at inside
  | cons d left =>
    have first : d = c := (List.cons.inj next).1
    exact other (first ▸ List.mem_append_right _ List.mem_cons_self)

/-- Two occurrences at one place. -/
theorem First.unique {k l : Nat} (one : First pattern text i k) (two : First pattern text i l) :
    k = l :=
  Nat.le_antisymm (one.least l two.here two.after) (two.least k one.here one.after)

theorem Last.unique {k l : Nat} (one : Last pattern text i k) (two : Last pattern text i l) :
    k = l :=
  Nat.le_antisymm (two.greatest k one.here one.before) (one.greatest l two.here two.before)

end Occurrences
end CarsinOS.Lib
