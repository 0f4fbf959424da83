import Mathlib.Data.List.Lex
import Mathlib.Data.List.Sort

/-! Finite maps as association lists in strictly increasing key order, the order in which an
ordered map is iterated. Two such maps are equal exactly when the lists are. -/
namespace CarsinOS.Lib.Entries

/-- Keys that are texts compare by one named instance, in every module alike. -/
instance lawfulTexts : LawfulBEq (List Char) := inferInstance

variable {K V W : Type*}

def keys (es : List (K × V)) : List K := es.map Prod.fst

@[simp] theorem keys_nil : keys ([] : List (K × V)) = [] := rfl

@[simp] theorem keys_cons (e : K × V) (es : List (K × V)) : keys (e :: es) = e.1 :: keys es := rfl

@[simp] theorem keys_append (es fs : List (K × V)) : keys (es ++ fs) = keys es ++ keys fs :=
  List.map_append

variable [LinearOrder K]

/-- Ordered insertion; an entry under the same key is replaced. -/
def insert (k : K) (v : V) : List (K × V) → List (K × V)
  | [] => [(k, v)]
  | (l, w) :: es =>
    if k < l then (k, v) :: (l, w) :: es
    else if k = l then (k, v) :: es
    else (l, w) :: insert k v es

/-- The map a list of entries builds when they are inserted from the left. -/
def insertAll (es fs : List (K × V)) : List (K × V) :=
  fs.foldl (fun m e => insert e.1 e.2 m) es

def Sorted (es : List (K × V)) : Prop := (keys es).Pairwise (· < ·)

theorem sorted_nil : Sorted ([] : List (K × V)) := List.Pairwise.nil

theorem sorted_cons {e : K × V} {es : List (K × V)} :
    Sorted (e :: es) ↔ (∀ l ∈ keys es, e.1 < l) ∧ Sorted es := by
  simp [Sorted]

theorem mem_keys_insert {k l : K} {v : V} {es : List (K × V)} :
    l ∈ keys (insert k v es) ↔ l = k ∨ l ∈ keys es := by
  induction es with
  | nil => simp [insert]
  | cons e es ih =>
    simp only [insert]
    split
    · simp
    · split
      · rename_i same
        simp [same]
      · simp only [keys_cons, List.mem_cons, ih]
        tauto

theorem mem_insert {k : K} {v : V} {es : List (K × V)} {f : K × V}
    (member : f ∈ insert k v es) : f = (k, v) ∨ f ∈ es := by
  induction es with
  | nil => simpa [insert] using member
  | cons e es ih =>
    simp only [insert] at member
    split at member
    · simpa using member
    · split at member
      · rcases List.mem_cons.mp member with here | later
        · exact .inl here
        · exact .inr (List.mem_cons_of_mem _ later)
      · rcases List.mem_cons.mp member with here | later
        · exact .inr (here ▸ List.mem_cons_self)
        · rcases ih later with new | old
          · exact .inl new
          · exact .inr (List.mem_cons_of_mem _ old)

theorem sorted_insert {k : K} {v : V} {es : List (K × V)} (sorted : Sorted es) :
    Sorted (insert k v es) := by
  induction es with
  | nil => simp [insert, Sorted]
  | cons e es ih =>
    obtain ⟨above, rest⟩ := sorted_cons.mp sorted
    simp only [insert]
    split
    · rename_i before
      refine sorted_cons.mpr ⟨?_, sorted⟩
      intro l member
      rcases List.mem_cons.mp member with here | later
      · exact here ▸ before
      · exact before.trans (above l later)
    · split
      · rename_i same
        exact sorted_cons.mpr ⟨fun l member => same ▸ above l member, rest⟩
      · rename_i behind apart
        refine sorted_cons.mpr ⟨?_, ih rest⟩
        intro l member
        rcases mem_keys_insert.mp member with here | later
        · exact here ▸ lt_of_le_of_ne (not_lt.mp behind) (Ne.symm apart)
        · exact above l later

theorem insert_last {k : K} {v : V} {es : List (K × V)} (last : ∀ l ∈ keys es, l < k) :
    insert k v es = es ++ [(k, v)] := by
  induction es with
  | nil => rfl
  | cons e es ih =>
    have behind := last e.1 (by simp)
    rw [insert, if_neg behind.not_gt, if_neg behind.ne',
      ih fun l member => last l (List.mem_cons_of_mem _ member)]
    rfl

theorem mem_keys_insertAll {es fs : List (K × V)} {l : K} :
    l ∈ keys (insertAll es fs) ↔ l ∈ keys es ∨ l ∈ keys fs := by
  induction fs generalizing es with
  | nil => simp [insertAll]
  | cons f fs ih =>
    have step : insertAll es (f :: fs) = insertAll (insert f.1 f.2 es) fs := rfl
    rw [step, ih, mem_keys_insert, keys_cons, List.mem_cons]
    tauto

theorem mem_insertAll {es fs : List (K × V)} {e : K × V} (member : e ∈ insertAll es fs) :
    e ∈ es ∨ e ∈ fs := by
  induction fs generalizing es with
  | nil => exact .inl member
  | cons f fs ih =>
    rcases @ih (insert f.1 f.2 es) member with old | later
    · rcases mem_insert old with here | old
      · exact .inr (here ▸ List.mem_cons_self)
      · exact .inl old
    · exact .inr (List.mem_cons_of_mem _ later)

theorem sorted_insertAll {es fs : List (K × V)} (sorted : Sorted es) :
    Sorted (insertAll es fs) := by
  induction fs generalizing es with
  | nil => exact sorted
  | cons f fs ih => exact ih (sorted_insert sorted)

theorem length_insert_fresh {k : K} {v : V} {es : List (K × V)} (fresh : k ∉ keys es) :
    (insert k v es).length = es.length + 1 := by
  induction es with
  | nil => rfl
  | cons e es ih =>
    simp only [keys_cons, List.mem_cons, not_or] at fresh
    simp only [insert]
    split
    · rfl
    · simp [fresh.1, ih fresh.2]

theorem length_insertAll_fresh {es fs : List (K × V)} (apart : (keys fs).Nodup)
    (fresh : ∀ k ∈ keys fs, k ∉ keys es) :
    (insertAll es fs).length = es.length + fs.length := by
  induction fs generalizing es with
  | nil => rfl
  | cons f fs ih =>
    rw [keys_cons, List.nodup_cons] at apart
    have later : ∀ k ∈ keys fs, k ∉ keys (insert f.1 f.2 es) := by
      intro k member old
      rcases mem_keys_insert.mp old with here | old
      · exact apart.1 (here ▸ member)
      · exact fresh k (List.mem_cons_of_mem _ member) old
    have count : (insertAll (insert f.1 f.2 es) fs).length = _ := ih apart.2 later
    rw [length_insert_fresh (fresh f.1 List.mem_cons_self)] at count
    simp only [List.length_cons]
    exact count.trans (by omega)

/-- Inserting entries that are already in order rebuilds them. -/
theorem insertAll_sorted {es fs : List (K × V)} (sorted : Sorted (es ++ fs)) :
    insertAll es fs = es ++ fs := by
  induction fs generalizing es with
  | nil => simp [insertAll]
  | cons f fs ih =>
    have below : ∀ l ∈ keys es, l < f.1 := by
      intro l member
      have cross := (List.pairwise_append.mp (by simpa [Sorted] using sorted)).2.2
      exact cross l member f.1 (by simp)
    have step : insertAll es (f :: fs) = insertAll (es ++ [f]) fs := by
      rw [← insert_last (v := f.2) below]
      rfl
    rw [step, ih (by simpa using sorted)]
    simp

theorem sorted_map {es : List (K × V)} {f : V → W} (sorted : Sorted es) :
    Sorted (es.map fun e => (e.1, f e.2)) := by
  have same : keys (es.map fun e => (e.1, f e.2)) = keys es := by simp [keys, Function.comp_def]
  simpa [Sorted, same] using sorted

theorem nodup_of_sorted {es : List (K × V)} (sorted : Sorted es) : (keys es).Nodup :=
  sorted.imp fun below => below.ne

/-- The entries by key, where equal keys stay in the order they were in. -/
def sortByKey (es : List (K × V)) : List (K × V) := es.insertionSort fun l r => l.1 ≤ r.1

theorem sortByKey_perm (es : List (K × V)) : (sortByKey es).Perm es :=
  List.perm_insertionSort _ es

theorem sortByKey_map (es : List (K × V)) (f : V → W) :
    (sortByKey es).map (fun e => (e.1, f e.2)) = sortByKey (es.map fun e => (e.1, f e.2)) :=
  List.map_insertionSort _ _ _ _ fun _ _ _ _ => Iff.rfl

theorem sortByKey_pairwise (es : List (K × V)) :
    (sortByKey es).Pairwise fun l r => l.1 ≤ r.1 := by
  have total : Std.Total fun l r : K × V => l.1 ≤ r.1 := ⟨fun l r => le_total l.1 r.1⟩
  have trans : IsTrans (K × V) fun l r => l.1 ≤ r.1 := ⟨fun _ _ _ => le_trans⟩
  exact List.pairwise_insertionSort _ es

theorem sortByKey_sorted {es : List (K × V)} (sorted : Sorted es) : sortByKey es = es := by
  have weak : es.Pairwise fun l r => l.1 ≤ r.1 :=
    (List.pairwise_map.mp sorted).imp fun less => le_of_lt less
  exact weak.insertionSort_eq

theorem sortByKey_distinct {es : List (K × V)} (distinct : (keys es).Nodup) :
    Sorted (sortByKey es) := by
  have apart : (keys (sortByKey es)).Nodup := ((sortByKey_perm es).map Prod.fst).nodup_iff.mpr distinct
  have weak : (keys (sortByKey es)).Pairwise (· ≤ ·) :=
    List.pairwise_map.mpr (sortByKey_pairwise es)
  exact weak.imp₂ (fun _ _ le ne => lt_of_le_of_ne le ne) apart

theorem eq_of_subset {es fs : List (K × V)} (sorted : Sorted es)
    (alsoSorted : Sorted fs) (size : es.length = fs.length) (inside : ∀ f ∈ fs, f ∈ es) :
    es = fs := by
  have distinct : fs.Nodup := (nodup_of_sorted alsoSorted).of_map
  have perm : fs.Perm es := (List.subperm_of_subset distinct inside).perm_of_length_le size.le
  have byKey {gs : List (K × V)} (sorted : Sorted gs) :
      gs.Pairwise fun l r => l.1 < r.1 := List.pairwise_map.mp sorted
  refine (perm.eq_of_pairwise ?_ (byKey alsoSorted) (byKey sorted)).symm
  intro a b _ _ less more
  exact absurd (less.trans more) (lt_irrefl _)

/-- The order entries are given in does not matter when their keys are distinct. -/
theorem sortByKey_eq_of_perm {es fs : List (K × V)} (perm : es.Perm fs)
    (distinct : (keys es).Nodup) : sortByKey es = sortByKey fs := by
  have across := ((sortByKey_perm es).trans perm).trans (sortByKey_perm fs).symm
  have alsoDistinct : (keys fs).Nodup := (perm.map Prod.fst).nodup_iff.mp distinct
  exact eq_of_subset (sortByKey_distinct distinct) (sortByKey_distinct alsoDistinct)
    across.length_eq fun f member => across.mem_iff.mpr member

theorem mem_of_lookup [BEq K] [LawfulBEq K] {es : List (K × V)} {k : K} {v : V}
    (found : es.lookup k = some v) : (k, v) ∈ es := by
  obtain ⟨before, after, rfl, -⟩ := List.lookup_eq_some_iff.mp found
  simp

end CarsinOS.Lib.Entries
