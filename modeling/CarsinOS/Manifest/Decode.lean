import Mathlib.Data.List.Perm.Basic
import CarsinOS.Canonical.Strings
import CarsinOS.Manifest.Tree

/-! The values that are read back from JSON, and the order of fields that the encoding forgets. -/
namespace CarsinOS.Manifest
open CarsinOS.Lib

/-! `CanonicalValue::deserialize` on the tree of a text. Its errors carry the position of the
parser, and are left out. -/
mutual
def deserialize : Json → Option CanonicalValue
  | .null => some .null
  | .bool value => some (.bool value)
  | .num lexeme => (integerValue lexeme).map .integer
  | .str value => some (.string value)
  | .arr items => do
    let values ← deserializeItems items
    if values.length > MAX_CANONICAL_ARRAY_ITEMS then none else some (.array values)
  | .obj entries => do
    let fields ← deserializeFields entries
    if ¬ (Entries.keys fields).Nodup then none
    else if fields.length > MAX_CANONICAL_OBJECT_FIELDS then none
    else some (.object fields)

def deserializeItems : List Json → Option (List CanonicalValue)
  | [] => some []
  | t :: ts => do some ((← deserialize t) :: (← deserializeItems ts))

def deserializeFields : List (Text × Json) → Option (List (Text × CanonicalValue))
  | [] => some []
  | (key, t) :: fs => do some ((key, ← deserialize t) :: (← deserializeFields fs))
end

/-- The fields of a derived record that denies unknown fields, in the order they are declared in.
A record can also be written as an array. -/
def record (names : List Text) : Json → Option (List (Option Json))
  | .obj entries =>
    if (Entries.keys entries).Nodup ∧ ∀ key ∈ Entries.keys entries, key ∈ names then
      some (names.map fun name => entries.lookup name)
    else none
  | .arr items => if items.length = names.length then some (items.map some) else none
  | _ => none

/-- The elements of a vector. -/
def elements : Json → Option (List Json)
  | .arr items => some items
  | _ => none

/-- `PersistedTargetSnapshot`. -/
def deserializeTargets (t : Json) : Option (List CanonicalValue) := do
  let [targets] ← record ["targets".toList] t | none
  deserializeItems (← elements (← targets))

section Reading
variable (S : SerdeJson)

def valueFromSlice (bytes : Text) : Option CanonicalValue := (S.read bytes).bind deserialize

def targetsFromSlice (bytes : Text) : Option (List CanonicalValue) :=
  (S.read bytes).bind deserializeTargets

end Reading

/-! Two values are the same up to the order of the fields of their objects, at every depth. -/
mutual
def Reordered : CanonicalValue → CanonicalValue → Prop
  | .null, .null => True
  | .bool a, .bool b => a = b
  | .integer a, .integer b => a = b
  | .string a, .string b => a = b
  | .array vs, .array ws => ReorderedItems vs ws
  | .object fs, .object gs => ∃ hs, ReorderedFields fs hs ∧ hs.Perm gs
  | _, _ => False

def ReorderedItems : List CanonicalValue → List CanonicalValue → Prop
  | [], [] => True
  | v :: vs, w :: ws => Reordered v w ∧ ReorderedItems vs ws
  | _, _ => False

def ReorderedFields : List (Text × CanonicalValue) → List (Text × CanonicalValue) → Prop
  | [], [] => True
  | (k, v) :: fs, (l, w) :: gs => k = l ∧ Reordered v w ∧ ReorderedFields fs gs
  | _, _ => False
end

/-- The same targets in some order. -/
def ReorderedTargets (vs ws : List CanonicalValue) : Prop :=
  ∃ us, ReorderedItems vs us ∧ us.Perm ws

theorem reorderedItems_forall₂ {vs ws : List CanonicalValue} :
    ReorderedItems vs ws ↔ List.Forall₂ Reordered vs ws := by
  induction vs generalizing ws with
  | nil => cases ws <;> simp [ReorderedItems]
  | cons v vs ih => cases ws <;> simp [ReorderedItems, ih]

theorem reorderedFields_forall₂ {fs gs : List (Text × CanonicalValue)} :
    ReorderedFields fs gs ↔ List.Forall₂ (fun f g => f.1 = g.1 ∧ Reordered f.2 g.2) fs gs := by
  induction fs generalizing gs with
  | nil => cases gs <;> simp [ReorderedFields]
  | cons f fs ih => cases gs <;> simp [ReorderedFields, ih, and_assoc]

/-! The trees of two values are equal when they differ in the order of fields only. -/
mutual
theorem Reordered.tree {v w : CanonicalValue} (same : Reordered v w)
    (writable : (valueTree v).Everywhere Writable) : valueTree w = valueTree v := by
  cases v with
  | array vs =>
    cases w with
    | array ws =>
      rw [valueTree, valueTree, ReorderedItems.trees same]
      simpa [valueTree, Json.children] using (Json.everywhere.mp writable).2
    | _ => simp [Reordered] at same
  | object fs =>
    cases w with
    | object gs =>
      obtain ⟨hs, fields, perm⟩ := same
      obtain ⟨⟨-, -, sorted⟩, inside⟩ := Json.everywhere.mp writable
      have below : ∀ f ∈ fieldTrees fs, f.2.Everywhere Writable := fun f member =>
        inside f.2 (List.mem_map_of_mem ((Entries.sortByKey_perm _).mem_iff.mpr member))
      have moved : (fieldTrees fs).Perm (fieldTrees gs) := by
        rw [← ReorderedFields.trees fields below, fieldTrees_map, fieldTrees_map]
        exact perm.map _
      have distinct : (Entries.keys (fieldTrees fs)).Nodup :=
        ((Entries.sortByKey_perm _).map Prod.fst).nodup_iff.mp (Entries.nodup_of_sorted sorted)
      rw [valueTree, valueTree, Entries.sortByKey_eq_of_perm moved distinct]
    | _ => simp [Reordered] at same
  | _ => cases w <;> simp_all [Reordered]

theorem ReorderedItems.trees {vs ws : List CanonicalValue} (same : ReorderedItems vs ws)
    (writable : ∀ t ∈ itemTrees vs, t.Everywhere Writable) : itemTrees ws = itemTrees vs := by
  cases vs with
  | nil => cases ws <;> simp_all [ReorderedItems]
  | cons v vs =>
    cases ws with
    | nil => simp [ReorderedItems] at same
    | cons w ws =>
      rw [itemTrees, List.forall_mem_cons] at writable
      rw [itemTrees, itemTrees, Reordered.tree same.1 writable.1,
        ReorderedItems.trees same.2 writable.2]

theorem ReorderedFields.trees {fs gs : List (Text × CanonicalValue)} (same : ReorderedFields fs gs)
    (writable : ∀ f ∈ fieldTrees fs, f.2.Everywhere Writable) : fieldTrees gs = fieldTrees fs := by
  cases fs with
  | nil => cases gs <;> simp_all [ReorderedFields]
  | cons f fs =>
    cases gs with
    | nil => simp [ReorderedFields] at same
    | cons g gs =>
      obtain ⟨k, v⟩ := f
      obtain ⟨l, w⟩ := g
      obtain ⟨rfl, first, rest⟩ := same
      rw [fieldTrees, List.forall_mem_cons] at writable
      rw [fieldTrees, fieldTrees, Reordered.tree first writable.1,
        ReorderedFields.trees rest writable.2]
end

/-! Values with the same tree differ in the order of fields only. -/
mutual
theorem reordered_of_tree {v w : CanonicalValue} (same : valueTree v = valueTree w) :
    Reordered v w := by
  cases v with
  | array vs =>
    cases w with
    | array ws => exact reorderedItems_of_trees (by simpa [valueTree] using same)
    | _ => simp [valueTree] at same
  | object fs =>
    cases w with
    | object gs =>
      rw [valueTree, valueTree, Json.obj.injEq] at same
      have perm : (fieldTrees fs).Perm (fieldTrees gs) :=
        (Entries.sortByKey_perm _).symm.trans (same ▸ Entries.sortByKey_perm _)
      rw [fieldTrees_map gs] at perm
      obtain ⟨hs, trees, moved⟩ := (congrFun₂ (List.eq_map_comp_perm _) _ _).mpr perm
      exact ⟨hs, reorderedFields_of_trees (trees.trans (fieldTrees_map hs).symm), moved⟩
    | _ => simp [valueTree] at same
  | integer a =>
    cases w with
    | integer b =>
      have values := congrArg integerValue (Json.num.inj (by simpa [valueTree] using same))
      simpa [integerValue_toText, Reordered] using values
    | _ => simp [valueTree] at same
  | _ => cases w <;> simp_all [Reordered, valueTree]

theorem reorderedItems_of_trees {vs ws : List CanonicalValue} (same : itemTrees vs = itemTrees ws) :
    ReorderedItems vs ws := by
  cases vs with
  | nil => cases ws <;> simp_all [ReorderedItems, itemTrees]
  | cons v vs =>
    cases ws with
    | nil => simp [itemTrees] at same
    | cons w ws =>
      rw [itemTrees, itemTrees, List.cons.injEq] at same
      exact ⟨reordered_of_tree same.1, reorderedItems_of_trees same.2⟩

theorem reorderedFields_of_trees {fs gs : List (Text × CanonicalValue)}
    (same : fieldTrees fs = fieldTrees gs) : ReorderedFields fs gs := by
  cases fs with
  | nil => cases gs <;> simp_all [ReorderedFields, fieldTrees]
  | cons f fs =>
    cases gs with
    | nil => simp [fieldTrees] at same
    | cons g gs =>
      obtain ⟨k, v⟩ := f
      obtain ⟨l, w⟩ := g
      simp only [fieldTrees, List.cons.injEq, Prod.mk.injEq] at same
      exact ⟨same.1.1, reordered_of_tree same.1.2, reorderedFields_of_trees same.2⟩
end

/-! What the encoder writes is read back. -/
mutual
theorem deserialize_writable {t : Json} (writable : t.Everywhere Writable) :
    ∃ v, deserialize t = some v ∧ valueTree v = t := by
  obtain ⟨here, inside⟩ := Json.everywhere.mp writable
  cases t with
  | num w =>
    obtain ⟨i, rfl⟩ := here
    exact ⟨.integer i, by simp [deserialize, integerValue_toText], rfl⟩
  | arr ts =>
    obtain ⟨vs, read, trees⟩ := deserializeItems_writable (show ∀ t ∈ ts, _ from inside)
    have count : vs.length = ts.length := by rw [← trees, itemTrees_map, List.length_map]
    refine ⟨.array vs, ?_, by rw [valueTree, trees]⟩
    have few : ¬ vs.length > MAX_CANONICAL_ARRAY_ITEMS := by
      rw [count]
      exact Nat.not_lt.mpr here
    simp [deserialize, read, few]
  | obj es =>
    obtain ⟨few, -, sorted⟩ := here
    obtain ⟨fs, read, trees⟩ := deserializeFields_writable
      (show ∀ e ∈ es, _ from fun e member => inside e.2 (List.mem_map_of_mem member))
    have count : fs.length = es.length := by rw [← trees, fieldTrees_map, List.length_map]
    have names : Entries.keys fs = Entries.keys es := by
      rw [← trees, fieldTrees_map, Entries.keys, Entries.keys, List.map_map]
      rfl
    refine ⟨.object fs, ?_, by rw [valueTree, trees, Entries.sortByKey_sorted sorted]⟩
    have distinct : (Entries.keys fs).Nodup := names ▸ Entries.nodup_of_sorted sorted
    have short : ¬ fs.length > MAX_CANONICAL_OBJECT_FIELDS := by
      rw [count]
      exact Nat.not_lt.mpr few
    simp [deserialize, read, distinct, short]
  | null => exact ⟨.null, rfl, rfl⟩
  | bool b => exact ⟨.bool b, rfl, rfl⟩
  | str s => exact ⟨.string s, rfl, rfl⟩

theorem deserializeItems_writable {ts : List Json} (writable : ∀ t ∈ ts, t.Everywhere Writable) :
    ∃ vs, deserializeItems ts = some vs ∧ itemTrees vs = ts := by
  cases ts with
  | nil => exact ⟨[], rfl, rfl⟩
  | cons t ts =>
    rw [List.forall_mem_cons] at writable
    obtain ⟨v, first, tree⟩ := deserialize_writable writable.1
    obtain ⟨vs, rest, trees⟩ := deserializeItems_writable writable.2
    exact ⟨v :: vs, by simp [deserializeItems, first, rest], by rw [itemTrees, tree, trees]⟩

theorem deserializeFields_writable {fs : List (Text × Json)}
    (writable : ∀ f ∈ fs, f.2.Everywhere Writable) :
    ∃ gs, deserializeFields fs = some gs ∧ fieldTrees gs = fs := by
  cases fs with
  | nil => exact ⟨[], rfl, rfl⟩
  | cons f fs =>
    obtain ⟨k, t⟩ := f
    rw [List.forall_mem_cons] at writable
    obtain ⟨v, first, tree⟩ := deserialize_writable writable.1
    obtain ⟨gs, rest, trees⟩ := deserializeFields_writable writable.2
    exact ⟨(k, v) :: gs, by simp [deserializeFields, first, rest], by rw [fieldTrees, tree, trees]⟩
end

section Encoding
variable {C : Crates} {S : SerdeJson}

theorem valueFromSlice_print {t : Json} (sized : Sized t) :
    ∃ v, valueFromSlice S t.print = some v ∧ valueTree v = t := by
  have shallow : t.depth ≤ 127 := sized.1.1.trans (by decide)
  obtain ⟨v, made, tree⟩ := deserialize_writable sized.1.2
  refine ⟨v, ?_, tree⟩
  rw [valueFromSlice, S.read_print t (written_spelled sized.1.2) shallow]
  exact made

theorem targetsTree_depth {ts : List Json} {n : Nat} (below : ∀ t ∈ ts, t.depth ≤ n) :
    (targetsTree ts).depth ≤ n + 2 := by
  rw [targetsTree, Json.depth_le]
  simp only [Json.children, List.map_cons, List.map_nil, List.forall_mem_singleton]
  rw [Json.depth_le]
  exact below

/-- The tree of a target snapshot is read back, whatever the number of its targets. -/
theorem targets_read {ts : List Json} (sized : SizedTargets ts) :
    S.read (targetsTree ts).print = some (targetsTree ts) := by
  have shallow : (targetsTree ts).depth ≤ 33 + 2 :=
    targetsTree_depth fun t member => (sized.sized t member).1.1
  exact S.read_print _ (targets_spelled fun t member => written_spelled (sized.sized t member).1.2)
    (shallow.trans (by decide))

theorem deserializeTargets_tree {ts : List Json} (writable : ∀ t ∈ ts, t.Everywhere Writable) :
    ∃ vs, deserializeTargets (targetsTree ts) = some vs ∧ itemTrees vs = ts := by
  obtain ⟨vs, made, trees⟩ := deserializeItems_writable writable
  refine ⟨vs, ?_, trees⟩
  simp [targetsTree, deserializeTargets, record, Entries.keys, elements, made]

theorem targetsFromSlice_print {ts : List Json} (sized : SizedTargets ts) :
    ∃ vs, targetsFromSlice S (targetsTree ts).print = some vs ∧ itemTrees vs = ts := by
  obtain ⟨vs, made, trees⟩ := deserializeTargets_tree fun t member => (sized.sized t member).1.2
  refine ⟨vs, ?_, trees⟩
  rw [targetsFromSlice, targets_read sized]
  exact made

/-- The decoder of single values counts the targets, which the encoder of snapshots does not. -/
theorem targetsFromSlice_value {ts : List Json} {vs : List CanonicalValue} (sized : SizedTargets ts)
    (made : targetsFromSlice S (targetsTree ts).print = some vs) :
    valueFromSlice S (targetsTree ts).print =
      if vs.length ≤ MAX_CANONICAL_ARRAY_ITEMS then
        some (.object [("targets".toList, .array vs)])
      else none := by
  have items : deserializeItems ts = some vs := by
    rw [targetsFromSlice, targets_read sized] at made
    simpa [targetsTree, deserializeTargets, record, Entries.keys, elements] using made
  rw [valueFromSlice, targets_read sized]
  simp only [Option.bind_some, targetsTree, deserialize, deserializeFields, items]
  split
  · rename_i few
    simp [Nat.not_lt.mpr few, Entries.keys, MAX_CANONICAL_OBJECT_FIELDS]
  · rename_i many
    simp [Nat.lt_of_not_le many]

/-- The order of the texts does not depend on the order the targets are given in. -/
theorem sortByText_eq_of_perm {ts us : List Json} (perm : ts.Perm us)
    (spelled : ∀ t ∈ ts, t.Everywhere Spelled) : sortByText ts = sortByText us := by
  have across := ((sortByText_perm ts).trans perm).trans (sortByText_perm us).symm
  have total : Std.Total fun t u : Json => t.print ≤ u.print := ⟨fun t u => le_total _ _⟩
  have trans : IsTrans Json fun t u => t.print ≤ u.print := ⟨fun _ _ _ => le_trans⟩
  refine across.eq_of_pairwise ?_ (List.pairwise_insertionSort _ ts)
    (List.pairwise_insertionSort _ us)
  intro t u first second less more
  have one := spelled t ((sortByText_perm ts).mem_iff.mp first)
  have two := spelled u (perm.mem_iff.mpr ((sortByText_perm us).mem_iff.mp second))
  exact Json.print_injective one two (le_antisymm less more)

theorem Reordered.bytes {v w : CanonicalValue} {bytes : Text} (same : Reordered v w)
    (made : canonicalValueBytes C v = .ok bytes) : canonicalValueBytes C w = .ok bytes := by
  obtain ⟨sized, rfl⟩ := canonicalValueBytes_ok.mp made
  rw [canonicalValueBytes_ok, same.tree sized.1.2]
  exact ⟨sized, rfl⟩

theorem ReorderedTargets.trees {vs ws : List CanonicalValue} (same : ReorderedTargets vs ws)
    (writable : ∀ t ∈ vs.map valueTree, t.Everywhere Writable) :
    sortByText (ws.map valueTree) = sortByText (vs.map valueTree) := by
  obtain ⟨us, items, perm⟩ := same
  have trees : us.map valueTree = vs.map valueTree := by
    rw [← itemTrees_map, ← itemTrees_map]
    exact items.trees (by rwa [itemTrees_map])
  rw [← trees]
  refine (sortByText_eq_of_perm (perm.map valueTree) ?_).symm
  rw [trees]
  exact fun t member => written_spelled (writable t member)

theorem reorderedTargets_of_trees {vs ws : List CanonicalValue}
    (perm : (vs.map valueTree).Perm (ws.map valueTree)) : ReorderedTargets vs ws := by
  obtain ⟨us, trees, moved⟩ := (congrFun₂ (List.eq_map_comp_perm _) _ _).mpr perm
  refine ⟨us, reorderedItems_of_trees ?_, moved⟩
  rw [itemTrees_map, itemTrees_map, trees]

theorem canonicalTargetsBytes_sized {vs : List CanonicalValue}
    (sized : SizedTargets (sortByText (vs.map valueTree))) : canonicalTargetsBytes C ⟨vs⟩ =
      .ok (targetsTree (sortByText (vs.map valueTree))).print :=
  canonicalTargetsBytes_ok.mpr ⟨sized, rfl⟩

theorem ReorderedTargets.bytes {vs ws : List CanonicalValue} {bytes : Text}
    (same : ReorderedTargets vs ws) (made : canonicalTargetsBytes C ⟨vs⟩ = .ok bytes) :
    canonicalTargetsBytes C ⟨ws⟩ = .ok bytes := by
  obtain ⟨sized, rfl⟩ := canonicalTargetsBytes_ok.mp made
  have writable : ∀ t ∈ vs.map valueTree, t.Everywhere Writable := fun t member =>
    (sized.sized t ((sortByText_perm _).mem_iff.mpr member)).1.2
  rw [canonicalTargetsBytes_ok, same.trees writable]
  exact ⟨sized, rfl⟩

/-- Equal bytes are equal values up to the order of their fields, and the bytes are read back to
such a value. A target snapshot is read back by its record; as a single value only while its
targets are no more than the items of an array may be. -/
theorem canonical_bytes_up_to_order :
    (∀ v w bytes others, canonicalValueBytes C v = .ok bytes →
      canonicalValueBytes C w = .ok others → (bytes = others ↔ Reordered v w)) ∧
    (∀ v w bytes, Reordered v w → canonicalValueBytes C v = .ok bytes →
      canonicalValueBytes C w = .ok bytes) ∧
    (∀ v bytes, canonicalValueBytes C v = .ok bytes →
      ∃ w, valueFromSlice S bytes = some w ∧ Reordered v w) ∧
    (∀ vs ws bytes others, canonicalTargetsBytes C ⟨vs⟩ = .ok bytes →
      canonicalTargetsBytes C ⟨ws⟩ = .ok others → (bytes = others ↔ ReorderedTargets vs ws)) ∧
    (∀ vs ws bytes, ReorderedTargets vs ws → canonicalTargetsBytes C ⟨vs⟩ = .ok bytes →
      canonicalTargetsBytes C ⟨ws⟩ = .ok bytes) ∧
    (∀ vs bytes, canonicalTargetsBytes C ⟨vs⟩ = .ok bytes → ∃ ws,
      targetsFromSlice S bytes = some ws ∧ ReorderedTargets vs ws ∧
      valueFromSlice S bytes =
        if vs.length ≤ MAX_CANONICAL_ARRAY_ITEMS then
          some (.object [("targets".toList, .array ws)])
        else none) := by
  refine ⟨?_, fun v w bytes same made => same.bytes made, ?_, ?_,
    fun vs ws bytes same made => same.bytes made, ?_⟩
  · intro v w bytes others made also
    constructor
    · rintro rfl
      obtain ⟨sized, printed⟩ := canonicalValueBytes_ok.mp made
      obtain ⟨alsoSized, alsoPrinted⟩ := canonicalValueBytes_ok.mp also
      exact reordered_of_tree (Json.print_injective (written_spelled sized.1.2)
        (written_spelled alsoSized.1.2) (printed.symm.trans alsoPrinted))
    · exact fun same => Except.ok.inj ((same.bytes made).symm.trans also)
  · intro v bytes made
    obtain ⟨sized, rfl⟩ := canonicalValueBytes_ok.mp made
    obtain ⟨w, read, tree⟩ := @valueFromSlice_print S _ sized
    exact ⟨w, read, reordered_of_tree tree.symm⟩
  · intro vs ws bytes others made also
    constructor
    · rintro rfl
      obtain ⟨sized, printed⟩ := canonicalTargetsBytes_ok.mp made
      obtain ⟨alsoSized, alsoPrinted⟩ := canonicalTargetsBytes_ok.mp also
      have trees := Json.print_injective
        (targets_spelled fun t member => written_spelled (sized.sized t member).1.2)
        (targets_spelled fun t member => written_spelled (alsoSized.sized t member).1.2)
        (printed.symm.trans alsoPrinted)
      simp only [targetsTree, Json.obj.injEq, List.cons.injEq, Prod.mk.injEq, Json.arr.injEq,
        true_and, and_true] at trees
      exact reorderedTargets_of_trees
        ((sortByText_perm _).symm.trans (trees ▸ sortByText_perm _))
    · exact fun same => Except.ok.inj ((same.bytes made).symm.trans also)
  · intro vs bytes made
    obtain ⟨sized, rfl⟩ := canonicalTargetsBytes_ok.mp made
    obtain ⟨ws, read, trees⟩ := @targetsFromSlice_print S _ sized
    have perm : (vs.map valueTree).Perm (ws.map valueTree) := by
      rw [← itemTrees_map ws, trees]
      exact (sortByText_perm _).symm
    have count : vs.length = ws.length := by simpa using perm.length_eq
    refine ⟨ws, read, reorderedTargets_of_trees perm, ?_⟩
    rw [count]
    exact targetsFromSlice_value sized read

end Encoding

/-! Fields in another order, and a snapshot with more targets than the items of an array may be. -/

theorem canonical_bytes_up_to_order_swapped :
    ∃ bytes, canonicalValueBytes asciiCrates (.object [(['b'], .null), (['a'], .bool true)]) =
        .ok bytes ∧
      canonicalValueBytes asciiCrates (.object [(['a'], .bool true), (['b'], .null)]) =
        .ok bytes := by
  have made : canonicalValueBytes asciiCrates (.object [(['b'], .null), (['a'], .bool true)]) =
      .ok "\x7b\"a\":true,\"b\":null\x7d".toList := rfl
  refine ⟨_, made, (canonical_bytes_up_to_order (S := printedJson)).2.1 _ _ _ ?_ made⟩
  exact ⟨[(['b'], .null), (['a'], .bool true)], ⟨rfl, trivial, rfl, rfl, trivial⟩,
    List.Perm.swap _ _ _⟩

def counted (n : Nat) : I64 := ⟨((n % 2 ^ 62 : Nat) : Int), by omega, by omega⟩

def manyTargets : List CanonicalValue := (List.range 1025).map fun n => .integer (counted n)

theorem counted_short {n : Nat} (small : n < 1025) : utf8Length (counted n).toText ≤ 4 := by
  have value : (counted n).val = (n : Int) := by
    simp only [counted]
    omega
  have text : (counted n).toText = Nat.toDigits 10 n := by
    rw [I64.toText, value, if_neg (by omega), Int.natAbs_natCast]
  have digits : ∀ c ∈ Nat.toDigits 10 n, c.isHexDigit = true := fun c member => by
    have digit := Nat.isDigit_of_mem_toDigits (by decide) (by decide) member
    simp [Char.isHexDigit, digit]
  rw [text, Canonical.utf8Length_hex digits]
  exact (Nat.length_toDigits_le_iff (by decide) (by decide)).mpr (by omega)

theorem counted_injective {n m : Nat} (small : n < 1025) (alsoSmall : m < 1025)
    (same : (counted n).toText = (counted m).toText) : n = m := by
  have values := congrArg integerValue same
  rw [integerValue_toText, integerValue_toText] at values
  have integers := congrArg Subtype.val (Option.some.inj values)
  simp only [counted] at integers
  omega

/-- Items of bounded length are short together. -/
theorem commaSeparated_length {items : List Text} {n : Nat}
    (short : ∀ item ∈ items, utf8Length item ≤ n) :
    utf8Length (commaSeparated items) ≤ items.length * (n + 1) := by
  have comma : ','.utf8Size = 1 := rfl
  have rest : ∀ items : List Text, (∀ item ∈ items, utf8Length item ≤ n) →
      utf8Length (items.flatMap (',' :: ·)) ≤ items.length * (n + 1) := by
    intro items
    induction items with
    | nil => simp [utf8Length]
    | cons item items ih =>
      intro short
      rw [List.forall_mem_cons] at short
      have tail := ih short.2
      have head := short.1
      simp only [utf8Length] at head tail
      simp only [utf8Length, List.flatMap_cons, List.cons_append, List.map_cons, List.map_append,
        List.sum_cons, List.sum_append, comma, List.length_cons, Nat.succ_mul]
      omega
  cases items with
  | nil => simp [commaSeparated, utf8Length]
  | cons item items =>
    rw [List.forall_mem_cons] at short
    have tail := rest items short.2
    have head := short.1
    simp only [utf8Length] at head tail
    simp only [commaSeparated_cons, utf8Length, List.map_append, List.sum_append,
      List.length_cons, Nat.succ_mul]
    omega

theorem manyTargets_sized : SizedTargets (sortByText (manyTargets.map valueTree)) := by
  have members : ∀ t ∈ sortByText (manyTargets.map valueTree), ∃ n < 1025,
      t = .num (counted n).toText := by
    intro t member
    have given := (sortByText_perm _).mem_iff.mp member
    simp only [manyTargets, List.map_map, List.mem_map, List.mem_range] at given
    obtain ⟨n, small, rfl⟩ := given
    exact ⟨n, small, rfl⟩
  have count : (sortByText (manyTargets.map valueTree)).length = 1025 := by
    rw [(sortByText_perm _).length_eq]
    rw [List.length_map, manyTargets, List.length_map, List.length_range]
  have lengths : ∀ t ∈ sortByText (manyTargets.map valueTree), utf8Length t.print ≤ 4 := by
    intro t member
    obtain ⟨n, small, rfl⟩ := members t member
    exact counted_short small
  constructor
  · intro empty
    rw [empty] at count
    cases count
  · intro t member
    obtain ⟨n, small, rfl⟩ := members t member
    exact ⟨⟨by simp [Json.depth], ⟨_, rfl⟩⟩, (lengths _ member).trans (by decide)⟩
  · have weak := sortByText_map (manyTargets.map valueTree) ▸
      List.pairwise_insertionSort (· ≤ ·) ((manyTargets.map valueTree).map Json.print)
    have distinct : ((sortByText (manyTargets.map valueTree)).map Json.print).Nodup := by
      rw [((sortByText_perm _).map Json.print).nodup_iff, manyTargets, List.map_map, List.map_map]
      refine List.Nodup.map_on ?_ List.nodup_range
      intro n first m second same
      exact counted_injective (List.mem_range.mp first) (List.mem_range.mp second) same
    exact weak.imp₂ (fun _ _ le ne => lt_of_le_of_ne le ne) distinct
  · have items := commaSeparated_length (List.forall_mem_map.mpr lengths)
    have brackets : utf8Length "\x7b\"targets\":[".toList = 12 ∧ utf8Length "]\x7d".toList = 2 :=
      ⟨rfl, rfl⟩
    rw [List.length_map, count] at items
    rw [← targets_print]
    simp only [utf8Length] at items brackets
    simp only [utf8Length, List.map_append, List.sum_append, brackets, MAX_CANONICAL_VALUE_BYTES]
    omega

theorem many_targets_not_one_value :
    ∃ bytes, canonicalTargetsBytes asciiCrates ⟨manyTargets⟩ = .ok bytes ∧
      valueFromSlice printedJson bytes = none := by
  have made := @canonicalTargetsBytes_sized asciiCrates _ manyTargets_sized
  obtain ⟨ws, read, trees⟩ := @targetsFromSlice_print printedJson _ manyTargets_sized
  have count : ws.length = 1025 := by
    have lengths := congrArg List.length trees
    rw [(sortByText_perm _).length_eq, itemTrees_map, List.length_map, List.length_map,
      manyTargets, List.length_map, List.length_range] at lengths
    exact lengths
  refine ⟨_, made, ?_⟩
  rw [targetsFromSlice_value manyTargets_sized read, count]
  exact if_neg (by decide)

end CarsinOS.Manifest
