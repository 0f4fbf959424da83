import Mathlib.Data.List.Basic

/-! Programs over durable storage that may stop after any of their durable steps. -/
namespace CarsinOS.Lib

/-- The course of a program: the states its durable steps leave, and its result. -/
structure Course (σ ε α : Type) where
  visited : List σ
  result : Except ε α

def Durable (σ ε α : Type) := σ → Course σ ε α

namespace Durable
variable {σ ε α β : Type}

/-- The last state of a path, from a state before it. -/
def lastOf : σ → List σ → σ
  | s, [] => s
  | _, t :: ts => lastOf t ts

def final (x : Durable σ ε α) (s : σ) : σ := lastOf s (x s).visited

protected def pure (a : α) : Durable σ ε α := fun _ => ⟨[], .ok a⟩

protected def bind (x : Durable σ ε α) (f : α → Durable σ ε β) : Durable σ ε β := fun s =>
  match (x s).result with
  | .ok a =>
    ⟨(x s).visited ++ (f a (x.final s)).visited, (f a (x.final s)).result⟩
  | .error e => ⟨(x s).visited, .error e⟩

instance : Monad (Durable σ ε) where
  pure := Durable.pure
  bind := Durable.bind

/-- A value computed from the storage, which is left as it is. -/
def reading (f : σ → Except ε α) : Durable σ ε α := fun s => ⟨[], f s⟩

def storage : Durable σ ε σ := fun s => ⟨[], .ok s⟩

def raise (e : ε) : Durable σ ε α := fun _ => ⟨[], .error e⟩

/-- One durable step. -/
def commit (f : σ → σ) : Durable σ ε Unit := fun s => ⟨[f s], .ok ()⟩

/-- The program, with its error as a value. -/
def attempt (x : Durable σ ε α) : Durable σ ε (Except ε α) := fun s =>
  ⟨(x s).visited, .ok (x s).result⟩

/-- The process stops after some of the durable steps. -/
def Stops (x : Durable σ ε α) (s : σ) (past : List σ) (t : σ) : Prop :=
  past <+: (x s).visited ∧ t = lastOf s past

theorem stops_final (x : Durable σ ε α) (s : σ) : Stops x s (x s).visited (x.final s) :=
  ⟨List.prefix_rfl, rfl⟩

/-- Each state of a path follows from the state before it. -/
def Path (M : σ → σ → Prop) : σ → List σ → Prop
  | _, [] => True
  | s, t :: ts => M s t ∧ Path M t ts

theorem lastOf_append (s : σ) (ts us : List σ) : lastOf s (ts ++ us) = lastOf (lastOf s ts) us := by
  induction ts generalizing s with
  | nil => rfl
  | cons t ts ih => exact ih t

theorem path_append {M : σ → σ → Prop} {s : σ} {ts us : List σ} :
    Path M s (ts ++ us) ↔ Path M s ts ∧ Path M (lastOf s ts) us := by
  induction ts generalizing s with
  | nil => simp [Path, lastOf]
  | cons t ts ih => simp only [List.cons_append, Path, ih, lastOf, and_assoc]

/-- The durable steps of a program are moves, and its result and last state have a property. -/
def Walk (M : σ → σ → Prop) (x : Durable σ ε α) (s : σ) (Q : Except ε α → σ → Prop) : Prop :=
  Path M s (x s).visited ∧ Q (x s).result (x.final s)

variable {M : σ → σ → Prop} {x : Durable σ ε α} {f : α → Durable σ ε β} {s : σ}
  {Q : Except ε α → σ → Prop}

example : Walk (fun s t : Nat => t = s + 1)
    (do commit (· + 1); let s ← storage; reading fun t => .ok (s + t)) 0
    fun result t => result = (.ok 2 : Except Unit Nat) ∧ t = 1 := by
  simp [Walk, pure, Durable.pure, bind, Durable.bind, reading, storage, raise, commit, Path, final,
    lastOf]

@[simp] theorem walk_pure {a : α} : Walk M (pure a) s Q ↔ Q (.ok a) s := by
  simp [Walk, pure, Durable.pure, Path, final, lastOf]

@[simp] theorem walk_reading {g : σ → Except ε α} : Walk M (reading g) s Q ↔ Q (g s) s := by
  simp [Walk, reading, Path, final, lastOf]

@[simp] theorem walk_storage {Q : Except ε σ → σ → Prop} : Walk M storage s Q ↔ Q (.ok s) s := by
  simp [Walk, storage, Path, final, lastOf]

@[simp] theorem walk_raise {e : ε} : Walk M (raise e) s Q ↔ Q (.error e) s := by
  simp [Walk, raise, Path, final, lastOf]

@[simp] theorem walk_commit {g : σ → σ} {Q : Except ε Unit → σ → Prop} :
    Walk M (commit g) s Q ↔ M s (g s) ∧ Q (.ok ()) (g s) := by
  simp [Walk, commit, Path, final, lastOf]

@[simp] theorem walk_attempt {Q : Except ε (Except ε α) → σ → Prop} :
    Walk M (attempt x) s Q ↔ Walk M x s fun result t => Q (.ok result) t := Iff.rfl

/-- What a sequence does, from what its parts do. -/
@[simp] theorem walk_bind {Q : Except ε β → σ → Prop} :
    Walk M (x >>= f) s Q ↔ Walk M x s fun result t =>
      match result with
      | .ok a => Walk M (f a) t Q
      | .error e => Q (.error e) t := by
  simp only [Walk, final, bind, Durable.bind]
  cases (x s).result with
  | ok a => simp only [path_append, lastOf_append, and_assoc]
  | error e => rfl

theorem walk_mono {N : σ → σ → Prop} {R : Except ε α → σ → Prop} (walk : Walk M x s Q)
    (moves : ∀ t u, M t u → N t u) (ends : ∀ result t, Q result t → R result t) : Walk N x s R := by
  refine ⟨?_, ends _ _ walk.2⟩
  have path := walk.1
  generalize (x s).visited = ts at path ⊢
  clear walk
  induction ts generalizing s with
  | nil => trivial
  | cons t ts ih => exact ⟨moves s t path.1, ih path.2⟩

/-- Where the process stops, it went along the path of the program. -/
theorem stops_path (walk : Walk M x s Q) {past : List σ} {t : σ} (stops : Stops x s past t) :
    Path M s past ∧ t = lastOf s past := by
  obtain ⟨⟨rest, whole⟩, rfl⟩ := stops
  have path := walk.1
  rw [← whole, path_append] at path
  exact ⟨path.1, rfl⟩

/-- An invariant of the moves holds wherever a path leads. -/
theorem path_invariant {I : σ → Prop} (preserved : ∀ t u, M t u → I t → I u) {ts : List σ}
    (path : Path M s ts) (initial : I s) : I (lastOf s ts) ∧ ∀ t ∈ ts, I t := by
  induction ts generalizing s with
  | nil => exact ⟨initial, by simp⟩
  | cons t ts ih =>
    have next := preserved s t path.1 initial
    obtain ⟨last, inside⟩ := ih path.2 next
    exact ⟨last, List.forall_mem_cons.mpr ⟨next, inside⟩⟩

end Durable
end CarsinOS.Lib
