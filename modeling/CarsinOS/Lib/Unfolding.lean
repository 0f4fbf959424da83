import Mathlib.Data.List.Basic

/-! Finite unfoldings of a graph of references. A reference stands for a leaf, for several
other references in order, or for another reference behind a labelled link. -/
namespace CarsinOS.Lib

inductive Content (I A S : Type*) where
  | leaf (a : A)
  | branch (children : List I)
  | link (step : S) (target : I)

/-- What a finite unfolding amounts to: its leaves from left to right, each with the links
crossed on the way to it, the number of edges on its longest path and of its nodes. -/
structure Extent (A S : Type*) where
  leaves : List (List S × A)
  depth : Nat
  visits : Nat

namespace Extent
variable {A S : Type*}

def none : Extent A S := ⟨[], 0, 0⟩

def leaf (a : A) : Extent A S := ⟨[([], a)], 0, 1⟩

def beside (e f : Extent A S) : Extent A S :=
  ⟨e.leaves ++ f.leaves, max e.depth f.depth, e.visits + f.visits⟩

def below (e : Extent A S) : Extent A S := ⟨e.leaves, e.depth + 1, e.visits + 1⟩

def across (step : S) (e : Extent A S) : Extent A S :=
  ⟨e.leaves.map fun l => (step :: l.1, l.2), e.depth + 1, e.visits + 1⟩

end Extent

variable {I A S : Type*} (content : I → Option (Content I A S))

/-! An unfolding exists exactly when it is finite, every reference in it stands for
something, and no branch is empty. -/
mutual
inductive Unfolds : I → Extent A S → Prop where
  | leaf {i : I} {a : A} : content i = some (.leaf a) → Unfolds i (.leaf a)
  | branch {i : I} {children : List I} {e : Extent A S} :
      content i = some (.branch children) → children ≠ [] → UnfoldsEach children e →
      Unfolds i e.below
  | link {i target : I} {step : S} {e : Extent A S} :
      content i = some (.link step target) → Unfolds target e → Unfolds i (e.across step)

inductive UnfoldsEach : List I → Extent A S → Prop where
  | nil : UnfoldsEach [] .none
  | cons {i : I} {is : List I} {e f : Extent A S} :
      Unfolds i e → UnfoldsEach is f → UnfoldsEach (i :: is) (e.beside f)
end

variable {content}

mutual
theorem unfolds_unique {i : I} {e f : Extent A S} :
    Unfolds content i e → Unfolds content i f → e = f
  | .leaf first, .leaf second => by
    rw [first] at second
    cases second
    rfl
  | .leaf first, .branch second _ _ => by
    rw [first] at second
    cases second
  | .leaf first, .link second _ => by
    rw [first] at second
    cases second
  | .branch first _ each, other => by
    cases other with
    | leaf second =>
      rw [first] at second
      cases second
    | branch second _ same =>
      rw [first] at second
      cases second
      rw [unfoldsEach_unique each same]
    | link second =>
      rw [first] at second
      cases second
  | .link first inner, other => by
    cases other with
    | leaf second =>
      rw [first] at second
      cases second
    | branch second =>
      rw [first] at second
      cases second
    | link second same =>
      rw [first] at second
      cases second
      rw [unfolds_unique inner same]

theorem unfoldsEach_unique {is : List I} {e f : Extent A S} :
    UnfoldsEach content is e → UnfoldsEach content is f → e = f
  | .nil, .nil => rfl
  | .cons first rest, .cons second other => by
    rw [unfolds_unique first second, unfoldsEach_unique rest other]
end

mutual
theorem unfolds_leaves {i : I} {e : Extent A S} : Unfolds content i e → e.leaves ≠ []
  | .leaf _ => List.cons_ne_nil _ _
  | .branch _ nonempty each => by
    have leaves := unfoldsEach_leaves nonempty each
    exact leaves
  | .link _ inner => fun empty => unfolds_leaves inner (List.map_eq_nil_iff.mp empty)

theorem unfoldsEach_leaves {is : List I} {e : Extent A S} (nonempty : is ≠ []) :
    UnfoldsEach content is e → e.leaves ≠ []
  | .nil => absurd rfl nonempty
  | .cons first _ => fun empty => unfolds_leaves first (List.append_eq_nil_iff.mp empty).1
end

theorem unfoldsEach_depth {is : List I} {e : Extent A S} {n : Nat}
    (each : UnfoldsEach content is e) :
    e.depth ≤ n ↔ ∀ i ∈ is, ∀ f, Unfolds content i f → f.depth ≤ n := by
  induction is generalizing e with
  | nil =>
    cases each
    simp [Extent.none]
  | cons i is ih =>
    cases each with
    | cons first rest =>
      simp only [Extent.beside, Nat.max_le, ih rest, List.forall_mem_cons]
      constructor
      · rintro ⟨here, others⟩
        exact ⟨fun f unfolds => unfolds_unique first unfolds ▸ here, others⟩
      · rintro ⟨here, others⟩
        exact ⟨here _ first, others⟩

/-- A leaf of an unfolding, and the links crossed on the way to it. -/
structure Reached (content : I → Option (Content I A S)) (e : Extent A S) (l : List S × A) :
    Prop where
  short : l.1.length ≤ e.depth
  links : ∀ step ∈ l.1, ∃ i target, content i = some (.link step target)
  leaf : ∃ i, content i = some (.leaf l.2)

mutual
theorem unfolds_reached {i : I} {e : Extent A S} :
    Unfolds content i e → ∀ l ∈ e.leaves, Reached content e l
  | .leaf known => by
    intro l member
    cases List.mem_singleton.mp member
    exact ⟨Nat.zero_le _, fun step none => absurd none List.not_mem_nil, ⟨i, known⟩⟩
  | .branch _ _ each => by
    intro l member
    obtain ⟨short, links, leaf⟩ := unfoldsEach_reached each l member
    exact ⟨Nat.le_succ_of_le short, links, leaf⟩
  | .link known inner => by
    intro l member
    obtain ⟨k, old, rfl⟩ := List.mem_map.mp member
    obtain ⟨short, links, leaf⟩ := unfolds_reached inner k old
    exact ⟨Nat.succ_le_succ short, List.forall_mem_cons.mpr ⟨⟨i, _, known⟩, links⟩, leaf⟩

theorem unfoldsEach_reached {is : List I} {e : Extent A S} :
    UnfoldsEach content is e → ∀ l ∈ e.leaves, Reached content e l
  | .nil => fun l none => absurd none List.not_mem_nil
  | .cons first rest => by
    intro l member
    rcases List.mem_append.mp member with here | later
    · obtain ⟨short, links, leaf⟩ := unfolds_reached first l here
      exact ⟨Nat.le_trans short (Nat.le_max_left _ _), links, leaf⟩
    · obtain ⟨short, links, leaf⟩ := unfoldsEach_reached rest l later
      exact ⟨Nat.le_trans short (Nat.le_max_right _ _), links, leaf⟩
end

end CarsinOS.Lib
