import CarsinOS.Canonical.NormalForm
import CarsinOS.Lib.JsonUnique

/-! The compact texts that the storage canonicaliser leaves as they are. -/
namespace CarsinOS.Canonical
open CarsinOS.Lib

/-- `canonical_json`; the bytes that are written are UTF-8. -/
def canonicalJson (N : Normalization) (value : List Char) : Anyhow (List Char) := do
  let value ← parseStrictJson N value
  .ok (writeValue value)

/-- What a value must be like to be written as it was read. -/
def Kept (N : Normalization) : Json → Prop
  | .num w => ∃ i : I64, w = i.toText
  | .str s => N.nfc s = s
  | .arr items => items.length ≤ 1024
  | .obj fields => fields.length ≤ 256 ∧ (∀ f ∈ fields, N.nfc f.1 = f.1) ∧ Entries.Sorted fields
  | _ => True

def Stored (N : Normalization) (levels : Nat) (t : Json) : Prop :=
  t.depth ≤ levels ∧ t.Everywhere (Kept N)

theorem stored_iff {N : Normalization} {n : Nat} {t : Json} :
    Stored N (n + 1) t ↔ Kept N t ∧ ∀ u ∈ t.children, Stored N n u := by
  unfold Stored
  rw [Json.depth_le, Json.everywhere]
  constructor
  · rintro ⟨shallow, here, below⟩
    exact ⟨here, fun u member => ⟨shallow u member, below u member⟩⟩
  · rintro ⟨here, below⟩
    exact ⟨fun u member => (below u member).1, here, fun u member => (below u member).2⟩

theorem stored_spelled {N : Normalization} {t : Json} (kept : t.Everywhere (Kept N)) :
    t.Everywhere Spelled := by
  induction t using Json.children_induction with
  | step t ih =>
    obtain ⟨here, inside⟩ := Json.everywhere.mp kept
    refine Json.everywhere.mpr ⟨?_, fun u member => ih u member (inside u member)⟩
    cases t with
    | num w =>
      obtain ⟨i, rfl⟩ := here
      exact toText_number i
    | _ => trivial

theorem kept_fields {N : Normalization} {fs : List (List Char × Json)}
    (fixed : ∀ f ∈ fs, N.nfc f.1 = f.1) (sorted : Entries.Sorted fs) :
    Entries.insertAll [] (meaningFields N fs) = fs.map fun f => (f.1, meaning N f.2) := by
  have same : meaningFields N fs = fs.map fun f => (f.1, meaning N f.2) := by
    rw [meaningFields_map]
    exact List.map_congr_left fun f member => by rw [fixed f member]
  rw [same, Entries.insertAll_sorted (by simpa using Entries.sorted_map sorted), List.nil_append]

/-- A stored tree is within the limits of the parser, and written again it is itself. -/
theorem stored_fits {N : Normalization} {n : Nat} {t : Json} (stored : Stored N n t) :
    Fits N n t ∧ toTree (meaning N t) = t := by
  induction n generalizing t with
  | zero =>
    have positive := t.depth_pos
    have shallow := stored.1
    omega
  | succ n ih =>
    obtain ⟨here, inside⟩ := stored_iff.mp stored
    have below : ∀ u ∈ t.children, Fits N n u := fun u member => (ih (inside u member)).1
    cases t with
    | null => exact ⟨fits_iff.mpr ⟨trivial, below⟩, rfl⟩
    | bool b => exact ⟨fits_iff.mpr ⟨trivial, below⟩, rfl⟩
    | num w =>
      obtain ⟨i, rfl⟩ := here
      refine ⟨fits_iff.mpr ⟨toText_plain i, below⟩, ?_⟩
      simp [meaning, toTree, signedValue_toText]
    | str s => exact ⟨fits_iff.mpr ⟨trivial, below⟩, congrArg Json.str here⟩
    | arr ts =>
      refine ⟨fits_iff.mpr ⟨here, below⟩, ?_⟩
      have same : ts.map (fun t => toTree (meaning N t)) = ts.map id :=
        List.map_congr_left fun t member => (ih (inside t member)).2
      simpa [meaning, toTree, elementTrees_map, meaningItems_map, Function.comp_def] using same
    | obj fs =>
      obtain ⟨short, fixed, sorted⟩ := here
      have names : fs.map (fun f => N.nfc f.1) = Entries.keys fs := List.map_congr_left fixed
      refine ⟨fits_iff.mpr ⟨⟨short, ?_⟩, below⟩, ?_⟩
      · rw [names]
        exact Entries.nodup_of_sorted sorted
      · have same : fs.map (fun f => (f.1, toTree (meaning N f.2))) = fs.map id :=
          List.map_congr_left fun f member => by
            rw [(ih (inside f.2 (List.mem_map_of_mem member))).2]
            rfl
        simpa [meaning, toTree, entryTrees_map, kept_fields fixed sorted, Function.comp_def]
          using same

/-- What is written for a tree within the limits is stored. -/
theorem fits_stored {N : Normalization} {n : Nat} {t : Json} (fits : Fits N n t) :
    Stored N n (toTree (meaning N t)) := by
  induction n generalizing t with
  | zero =>
    obtain ⟨m, same⟩ := fits_pos fits
    cases same
  | succ n ih =>
    obtain ⟨here, inside⟩ := fits_iff.mp fits
    cases t with
    | null => exact stored_iff.mpr ⟨trivial, by simp [toTree, meaning, Json.children]⟩
    | bool b => exact stored_iff.mpr ⟨trivial, by simp [toTree, meaning, Json.children]⟩
    | num w => exact stored_iff.mpr ⟨⟨_, rfl⟩, by simp [toTree, meaning, Json.children]⟩
    | str s => exact stored_iff.mpr ⟨N.idempotent s, by simp [toTree, meaning, Json.children]⟩
    | arr ts =>
      refine stored_iff.mpr ⟨?_, ?_⟩
      · have short : ts.length ≤ 1024 := here
        simpa [toTree, meaning, elementTrees_map, meaningItems_map, Kept] using short
      · simp only [toTree, meaning, elementTrees_map, meaningItems_map, Json.children,
          List.map_map, List.forall_mem_map, Function.comp_apply]
        exact fun t member => ih (inside t member)
    | obj fs =>
      obtain ⟨short, distinct⟩ := here
      have below : ∀ f ∈ fs, Fits N n f.2 := List.forall_mem_map.mp inside
      have written : ∀ e ∈ Entries.insertAll [] (meaningFields N fs),
          N.nfc e.1 = e.1 ∧ Stored N n (toTree e.2) := by
        intro e member
        obtain ⟨f, old, rfl⟩ := entry_of_object member
        exact ⟨N.idempotent f.1, ih (below f old)⟩
      refine stored_iff.mpr ⟨⟨?_, ?_, ?_⟩, ?_⟩
      · simpa [entryTrees_map, length_object distinct] using short
      · simp only [entryTrees_map, List.forall_mem_map]
        exact fun e member => (written e member).1
      · rw [entryTrees_map]
        exact Entries.sorted_map (Entries.sorted_insertAll Entries.sorted_nil)
      · simp only [toTree, meaning, entryTrees_map, Json.children, List.map_map,
          List.forall_mem_map, Function.comp_apply]
        exact fun e member => (written e member).2

/-- The canonicaliser leaves a compact text as it is exactly when its tree is stored. -/
theorem canonicalJson_print {N : Normalization} {t : Json} (spelled : t.Everywhere Spelled) :
    canonicalJson N t.print = .ok t.print ↔ Stored N 32 t := by
  unfold canonicalJson
  rw [bind_ok]
  constructor
  · rintro ⟨v, read, written⟩
    have settled : mend t.print = t.print := by
      simpa using settled_value (print_text t spelled) []
    have denotes := parseStrictJson_ok.mp read
    rw [settled] at denotes
    obtain ⟨-, u, -, fits, rfl⟩ := denotes
    rw [Except.ok.injEq, writeValue_print] at written
    rw [← Json.print_injective (toTree_spelled _) spelled written]
    exact fits_stored fits
  · intro stored
    obtain ⟨fits, same⟩ := stored_fits stored
    refine ⟨_, parse_of_denotes (print_denotes spelled fits), ?_⟩
    rw [writeValue_print, same]

end CarsinOS.Canonical
