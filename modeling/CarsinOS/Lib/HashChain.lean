import Mathlib.Data.List.Induction

/-! Lists of items that name the digest of the item before them. -/
namespace CarsinOS.Lib.HashChain

variable {α β D : Type*} (digest : α → D) (parent : α → Option D)

/-- The head of a chain after the items, from a head before them. -/
def headAfter : Option D → List α → Option D
  | head, [] => head
  | _, a :: items => headAfter (some (digest a)) items

def Linked : Option D → List α → Prop
  | _, [] => True
  | head, a :: items => parent a = head ∧ Linked (some (digest a)) items

variable {digest parent}

@[simp] theorem headAfter_last {head : Option D} {items : List α} {a : α} :
    headAfter digest head (items ++ [a]) = some (digest a) := by
  induction items generalizing head with
  | nil => rfl
  | cons b items ih => exact ih

theorem linked_last {head : Option D} {items : List α} {a : α} :
    Linked digest parent head (items ++ [a]) ↔
      Linked digest parent head items ∧ parent a = headAfter digest head items := by
  induction items generalizing head with
  | nil => simp [Linked, headAfter]
  | cons b items ih =>
    rw [List.cons_append, Linked, Linked, ih, headAfter, and_assoc]

/-- The head of a chain fixes the whole chain, where a digest fixes an item's content and the
digest it names. -/
theorem pinned {content : α → β} {start : Option D} {first second : List α}
    (determined : ∀ a ∈ first, ∀ b ∈ second, digest a = digest b →
      content a = content b ∧ parent a = parent b)
    (linked : Linked digest parent start first) (alsoLinked : Linked digest parent start second)
    (long : first.length = second.length)
    (head : headAfter digest start first = headAfter digest start second) :
    first.map content = second.map content := by
  induction first using List.reverseRecOn generalizing second with
  | nil =>
    have empty : second = [] := List.length_eq_zero_iff.mp long.symm
    rw [empty]
  | append_singleton items a ih =>
    cases second using List.reverseRecOn with
    | nil => simp at long
    | append_singleton others b =>
      rw [headAfter_last, headAfter_last, Option.some.injEq] at head
      obtain ⟨same, back⟩ := determined a (by simp) b (by simp) head
      obtain ⟨before, named⟩ := linked_last.mp linked
      obtain ⟨alsoBefore, alsoNamed⟩ := linked_last.mp alsoLinked
      have rest := ih
        (fun c member d other => determined c (by simp [member]) d (by simp [other]))
        before alsoBefore (by simpa using long) (named.symm.trans (back.trans alsoNamed))
      rw [List.map_append, List.map_append, rest, List.map_singleton, List.map_singleton, same]

end CarsinOS.Lib.HashChain
