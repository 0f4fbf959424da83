import Mathlib.Data.List.Infix

/-! Replacing the occurrences of a pattern in a list by a mark. What is left between two marks is a
part of the list without the pattern; a word that cannot overlap the mark is only found in such a
part. -/
namespace CarsinOS.Lib

variable {α : Type*} [DecidableEq α]

/-- The parts between the occurrences of a pattern, from left to right. `skip` items of the last
occurrence are still to be passed over. -/
def parts (pattern : List α) : Nat → List α → List (List α)
  | _, [] => [[]]
  | skip + 1, _ :: rest => parts pattern skip rest
  | 0, a :: rest =>
    if pattern.isPrefixOf (a :: rest) then [] :: parts pattern (pattern.length - 1) rest
    else
      match parts pattern 0 rest with
      | [] => [[a]]
      | part :: more => (a :: part) :: more

def replaceAll (pattern mark text : List α) : List α := mark.intercalate (parts pattern 0 text)

theorem parts_head {pattern part : List α} {more : List (List α)} {text : List α}
    (found : parts pattern 0 text = part :: more) : part <+: text := by
  induction text generalizing part more with
  | nil =>
    cases found
    exact List.prefix_rfl
  | cons a rest ih =>
    rw [parts] at found
    split at found
    · cases found
      exact List.nil_prefix
    · split at found
      · rename_i none
        cases found
        exact List.prefix_cons_inj a |>.mpr List.nil_prefix
      · rename_i tail others same
        cases found
        exact (List.prefix_cons_inj a).mpr (ih same)

theorem parts_within {pattern part : List α} {skip : Nat} {text : List α}
    (member : part ∈ parts pattern skip text) : part <:+: text := by
  induction text generalizing skip part with
  | nil =>
    rw [parts] at member
    rw [List.mem_singleton.mp member]
  | cons a rest ih =>
    cases skip with
    | succ skip => exact (ih member).trans (List.suffix_cons a rest).isInfix
    | zero =>
      rw [parts] at member
      split at member
      · rcases List.mem_cons.mp member with rfl | member
        · exact List.nil_infix
        · exact (ih member).trans (List.suffix_cons a rest).isInfix
      · split at member
        · rw [List.mem_singleton.mp member]
          exact ((List.prefix_cons_inj a).mpr List.nil_prefix).isInfix
        · rename_i tail more same
          rcases List.mem_cons.mp member with rfl | member
          · exact ((List.prefix_cons_inj a).mpr (parts_head same)).isInfix
          · have inside : part ∈ parts pattern 0 rest := by
              rw [same]
              exact List.mem_cons_of_mem _ member
            exact (ih inside).trans (List.suffix_cons a rest).isInfix

theorem parts_free {pattern part : List α} {skip : Nat} {text : List α} (some : pattern ≠ [])
    (member : part ∈ parts pattern skip text) : ¬ pattern <:+: part := by
  have empty : ¬ pattern <:+: [] := fun inside => some (List.eq_nil_of_infix_nil inside)
  induction text generalizing skip part with
  | nil =>
    rw [parts] at member
    rw [List.mem_singleton.mp member]
    exact empty
  | cons a rest ih =>
    cases skip with
    | succ skip => exact ih member
    | zero =>
      rw [parts] at member
      split at member
      · rcases List.mem_cons.mp member with rfl | member
        · exact empty
        · exact ih member
      · rename_i absent
        rw [List.isPrefixOf_iff_prefix] at absent
        -- a part that starts here is a prefix of the text, which does not start with the pattern
        have starts : ∀ tail, tail <+: rest → ¬ pattern <:+: tail → ¬ pattern <:+: a :: tail := by
          intro tail before clean inside
          rcases List.infix_cons_iff.mp inside with head | inside
          · exact absent (head.trans ((List.prefix_cons_inj a).mpr before))
          · exact clean inside
        split at member
        · rw [List.mem_singleton.mp member]
          exact starts [] List.nil_prefix empty
        · rename_i tail more same
          have inside : ∀ other ∈ tail :: more, ¬ pattern <:+: other := by
            intro other found
            exact ih (same ▸ found)
          rcases List.mem_cons.mp member with rfl | member
          · exact starts tail (parts_head same) (inside tail List.mem_cons_self)
          · exact inside part (List.mem_cons_of_mem _ member)

/-- No end of one word is a beginning of the other, and neither is inside the other. -/
structure Apart (mark word : List α) : Prop where
  before : ∀ u, u ≠ [] → u <+: mark → ¬ u <:+ word
  after : ∀ u, u ≠ [] → u <:+ mark → ¬ u <+: word
  inside : ¬ word <:+: mark
  around : ¬ mark <:+: word

section Apart
omit [DecidableEq α]

theorem apart_append {mark word x y : List α} (apart : Apart mark word)
    (found : word <:+: x ++ (mark ++ y)) : word <:+: x ∨ word <:+: y := by
  obtain ⟨a, b, same⟩ := found
  rw [List.append_assoc] at same
  rcases List.append_eq_append_iff.mp same with ⟨t, front, back⟩ | ⟨t, front, back⟩
  · -- the word begins in the first part, so it ends there or it overlaps the mark
    rcases List.append_eq_append_iff.mp back with ⟨r, inner, _⟩ | ⟨r, inner, outer⟩
    · exact .inl ⟨a, r, by rw [front, inner, List.append_assoc]⟩
    · by_cases none : r = []
      · rw [none, List.append_nil] at inner
        exact .inl ⟨a, [], by rw [front, inner, List.append_nil]⟩
      · exfalso
        rcases List.append_eq_append_iff.mp outer with ⟨q, left, _⟩ | ⟨q, left, _⟩
        · exact apart.around ⟨t, q, by rw [inner, left, List.append_assoc]⟩
        · exact apart.before r none ⟨q, left.symm⟩ ⟨t, inner.symm⟩
  · -- the word begins in the mark or after it
    rcases List.append_eq_append_iff.mp back with ⟨r, inner, outer⟩ | ⟨r, inner, outer⟩
    · exact .inr ⟨r, b, by rw [outer, List.append_assoc]⟩
    · by_cases none : r = []
      · rw [none, List.nil_append] at outer
        exact .inr ⟨[], b, by rw [List.nil_append, outer]⟩
      · exfalso
        rcases List.append_eq_append_iff.mp outer with ⟨q, left, _⟩ | ⟨q, left, _⟩
        · exact apart.inside ⟨t, q, by rw [inner, left, List.append_assoc]⟩
        · exact apart.after r none ⟨t, inner.symm⟩ ⟨q, left.symm⟩

theorem apart_some {mark word : List α} (apart : Apart mark word) : word ≠ [] := by
  rintro rfl
  exact apart.inside List.nil_infix

theorem apart_intercalate {mark word : List α} {pieces : List (List α)} (apart : Apart mark word)
    (found : word <:+: mark.intercalate pieces) : ∃ part ∈ pieces, word <:+: part := by
  induction pieces with
  | nil => exact absurd (List.eq_nil_of_infix_nil found) (apart_some apart)
  | cons part pieces ih =>
    cases pieces with
    | nil => exact ⟨part, List.mem_singleton_self part, by simpa using found⟩
    | cons next pieces =>
      have whole : mark.intercalate (part :: next :: pieces) =
          part ++ (mark ++ mark.intercalate (next :: pieces)) := by
        simp [List.intercalate]
      rw [whole] at found
      rcases apart_append apart found with here | later
      · exact ⟨part, List.mem_cons_self, here⟩
      · obtain ⟨other, member, inside⟩ := ih later
        exact ⟨other, List.mem_cons_of_mem _ member, inside⟩

/-- Words without a common item are apart. -/
theorem apart_of_disjoint {mark word : List α} (some : mark ≠ []) (long : word ≠ [])
    (disjoint : ∀ a ∈ mark, a ∉ word) : Apart mark word := by
  have common : ∀ u, u ≠ [] → u ⊆ mark → ¬ u ⊆ word := by
    intro u none first second
    obtain ⟨a, member⟩ := List.exists_mem_of_ne_nil u none
    exact disjoint a (first member) (second member)
  constructor
  · exact fun u none starts ends => common u none starts.subset ends.subset
  · exact fun u none ends starts => common u none ends.subset starts.subset
  · exact fun inside => common word long inside.subset (List.Subset.refl _)
  · exact fun around => common mark some (List.Subset.refl _) around.subset

end Apart

/-- A word that cannot overlap the mark is gone once it is replaced. -/
theorem replaceAll_free {mark word text : List α} (apart : Apart mark word) :
    ¬ word <:+: replaceAll word mark text := by
  intro found
  obtain ⟨part, member, inside⟩ := apart_intercalate apart found
  exact parts_free (apart_some apart) member inside

/-- Replacing another pattern does not bring it back. -/
theorem replaceAll_keeps {mark word pattern text : List α} (apart : Apart mark word)
    (absent : ¬ word <:+: text) : ¬ word <:+: replaceAll pattern mark text := by
  intro found
  obtain ⟨part, member, inside⟩ := apart_intercalate apart found
  exact absent (inside.trans (parts_within member))

end CarsinOS.Lib
