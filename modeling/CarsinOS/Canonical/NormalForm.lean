import CarsinOS.Canonical.Recognition

/-! The written bytes of a value that was read are its normal form: reading them gives the
value back, and different values have different bytes. -/
namespace CarsinOS.Canonical
open CarsinOS.Lib

/-! The tree whose compact text is written for a value. -/
mutual
def toTree : CanonicalValue → Json
  | .null => .null
  | .bool b => .bool b
  | .integer i => .num i.toText
  | .string s => .str s
  | .array values => .arr (elementTrees values)
  | .object entries => .obj (entryTrees entries)

def elementTrees : List CanonicalValue → List Json
  | [] => []
  | v :: vs => toTree v :: elementTrees vs

def entryTrees : List (List Char × CanonicalValue) → List (List Char × Json)
  | [] => []
  | (k, v) :: es => (k, toTree v) :: entryTrees es
end

theorem elementTrees_map (vs : List CanonicalValue) : elementTrees vs = vs.map toTree := by
  induction vs with
  | nil => rfl
  | cons v vs ih => rw [elementTrees, ih, List.map_cons]

theorem entryTrees_map (es : List (List Char × CanonicalValue)) :
    entryTrees es = es.map fun e => (e.1, toTree e.2) := by
  induction es with
  | nil => rfl
  | cons e es ih => rw [entryTrees, ih, List.map_cons]

/-! The writer's escapes are the compact ones. -/

theorem control_escape : ∀ n < 32,
    ['\\', 'u'] ++ List.replicate (4 - (Nat.toDigits 16 n).length) '0' ++ Nat.toDigits 16 n =
      ['\\', 'u', '0', '0', Nat.digitChar (n / 16), Nat.digitChar (n % 16)] := by decide

theorem char_eq_ofNat {c : Char} {n : Nat} (valid : n.isValidChar) :
    c = Char.ofNat n ↔ c.toNat = n := by
  rw [← charFromU32_ok, charFromU32, if_pos valid, Except.ok.injEq, eq_comm]

theorem writeCharacter_escape (c : Char) : writeCharacter c = Json.escape c := by
  have backspace : c = Char.ofNat 0x08 ↔ c.toNat = 0x08 := char_eq_ofNat (by decide)
  have formFeed : c = Char.ofNat 0x0C ↔ c.toNat = 0x0C := char_eq_ofNat (by decide)
  have control : c ≤ Char.ofNat 0x1F ↔ c.toNat < 0x20 := char_le.trans Nat.lt_succ_iff.symm
  simp only [writeCharacter, Json.escape, backspace, formFeed, control]
  by_cases low : c.toNat < 0x20
  · simp only [if_pos low, control_escape c.toNat low]
  · simp only [if_neg low]

theorem writeString_quote (s : List Char) : writeString s = Json.quote s := by
  rw [writeString, Json.quote, funext writeCharacter_escape]

mutual
theorem writeValue_print : (v : CanonicalValue) → writeValue v = (toTree v).print
  | .null => rfl
  | .bool true => rfl
  | .bool false => rfl
  | .integer _ => rfl
  | .string s => writeString_quote s
  | .array vs => by rw [writeValue, toTree, Json.print, writeElements_print vs]
  | .object es => by rw [writeValue, toTree, Json.print, writeEntries_print es]

theorem writeElements_print : (vs : List CanonicalValue) →
    writeElements vs = Json.printItems (elementTrees vs)
  | [] => rfl
  | [v] => writeValue_print v
  | v :: w :: vs => by
    have tail := writeElements_print (w :: vs)
    rw [writeElements, writeValue_print v, tail]
    · rfl
    · simp

theorem writeEntries_print : (es : List (List Char × CanonicalValue)) →
    writeEntries es = Json.printFields (entryTrees es)
  | [] => rfl
  | [(k, v)] => by
    rw [writeEntries, writeString_quote, writeValue_print v]
    rfl
  | (k, v) :: (l, w) :: es => by
    have tail := writeEntries_print ((l, w) :: es)
    rw [writeEntries, writeString_quote, writeValue_print v, tail]
    · rfl
    · simp
end

/-! What was read fits the limits again when it is written. -/

theorem entry_of_object {N : Normalization} {fs : List (List Char × Json)}
    {e : List Char × CanonicalValue}
    (member : e ∈ Entries.insertAll [] (meaningFields N fs)) :
    ∃ f ∈ fs, e = (N.nfc f.1, meaning N f.2) := by
  rcases Entries.mem_insertAll member with old | new
  · exact absurd old List.not_mem_nil
  · rw [meaningFields_map] at new
    obtain ⟨f, inside, rfl⟩ := List.mem_map.mp new
    exact ⟨f, inside, rfl⟩

theorem length_object {N : Normalization} {fs : List (List Char × Json)}
    (distinct : (fs.map fun f => N.nfc f.1).Nodup) :
    (Entries.insertAll [] (meaningFields N fs)).length = fs.length := by
  have apart : (Entries.keys (meaningFields N fs)).Nodup := by
    simpa [Entries.keys, meaningFields_map, Function.comp_def] using distinct
  rw [Entries.length_insertAll_fresh apart (by simp), meaningFields_map]
  simp

theorem written_again {N : Normalization} {n : Nat} {t : Json} (fits : Fits N n t) :
    Fits N n (toTree (meaning N t)) ∧ meaning N (toTree (meaning N t)) = meaning N t := by
  induction n generalizing t with
  | zero =>
    obtain ⟨m, same⟩ := fits_pos fits
    cases same
  | succ n ih =>
    obtain ⟨here, inside⟩ := fits_iff.mp fits
    cases t with
    | null => exact ⟨fits, rfl⟩
    | bool b => exact ⟨fits, rfl⟩
    | num w =>
      refine ⟨fits_iff.mpr ⟨toText_plain _, by simp [toTree, meaning, Json.children]⟩, ?_⟩
      simp [meaning, toTree, signedValue_toText]
    | str s =>
      refine ⟨fits_iff.mpr ⟨trivial, by simp [toTree, meaning, Json.children]⟩, ?_⟩
      rw [meaning, toTree, meaning, N.idempotent]
    | arr ts =>
      have again : ∀ t ∈ ts, meaning N (toTree (meaning N t)) = meaning N t :=
        fun t member => (ih (inside t member)).2
      constructor
      · refine fits_iff.mpr ⟨?_, ?_⟩
        · simpa [toTree, meaning, elementTrees_map, meaningItems_map, Admissible] using here
        · intro u member
          simp only [toTree, meaning, elementTrees_map, meaningItems_map, Json.children,
            List.map_map, List.mem_map, Function.comp_apply] at member
          obtain ⟨t, old, rfl⟩ := member
          exact (ih (inside t old)).1
      · simp only [meaning, toTree, elementTrees_map, meaningItems_map, List.map_map]
        exact congrArg CanonicalValue.array (List.map_congr_left again)
    | obj fs =>
      obtain ⟨short, distinct⟩ := here
      have below : ∀ f ∈ fs, Fits N n f.2 := List.forall_mem_map.mp inside
      obtain ⟨es, object⟩ : ∃ es, Entries.insertAll [] (meaningFields N fs) = es := ⟨_, rfl⟩
      have size : es.length = fs.length := object ▸ length_object distinct
      have sorted : Entries.Sorted es := object ▸ Entries.sorted_insertAll Entries.sorted_nil
      have again : ∀ e ∈ es, N.nfc e.1 = e.1 ∧ Fits N n (toTree e.2) ∧
          meaning N (toTree e.2) = e.2 := by
        intro e member
        obtain ⟨f, old, rfl⟩ := entry_of_object (object ▸ member)
        exact ⟨N.idempotent f.1, ih (below f old)⟩
      have names : es.map (fun e => N.nfc e.1) = Entries.keys es :=
        List.map_congr_left fun e member => (again e member).1
      simp only [meaning, toTree, entryTrees_map, object]
      constructor
      · refine fits_iff.mpr ⟨⟨by simpa [size] using short, ?_⟩, ?_⟩
        · simpa [Function.comp_def, names] using Entries.nodup_of_sorted sorted
        · simp only [Json.children, List.map_map, List.forall_mem_map, Function.comp_apply]
          exact fun e member => (again e member).2.1
      · have fields : meaningFields N (es.map fun e => (e.1, toTree e.2)) = es := by
          rw [meaningFields_map, List.map_map]
          conv_rhs => rw [← List.map_id es]
          refine List.map_congr_left fun e member => ?_
          obtain ⟨name, -, value⟩ := again e member
          simp [name, value]
        rw [fields, Entries.insertAll_sorted (by simpa using sorted), List.nil_append]

mutual
theorem toTree_spelled : (v : CanonicalValue) → (toTree v).Everywhere Spelled
  | .null => trivial
  | .bool _ => trivial
  | .integer i => toText_number i
  | .string _ => trivial
  | .array vs => ⟨trivial, elementTrees_spelled vs⟩
  | .object es => ⟨trivial, entryTrees_spelled es⟩

theorem elementTrees_spelled : (vs : List CanonicalValue) →
    Json.EveryItem Spelled (elementTrees vs)
  | [] => trivial
  | v :: vs => ⟨toTree_spelled v, elementTrees_spelled vs⟩

theorem entryTrees_spelled : (es : List (List Char × CanonicalValue)) →
    Json.EveryField Spelled (entryTrees es)
  | [] => trivial
  | (_, v) :: es => ⟨toTree_spelled v, entryTrees_spelled es⟩
end

/-- The compact text of a tree within the limits denotes its meaning. -/
theorem print_denotes {N : Normalization} {t : Json} (spelled : t.Everywhere Spelled)
    (fits : Fits N 32 t) : Denotes N t.print (meaning N t) := by
  have text := print_text t spelled
  refine ⟨?_, t, item_of_value text, fits, rfl⟩
  obtain ⟨c, tail, shape, -, -, -, ascii⟩ := value_starts text
  rw [shape, List.head?_cons]
  intro bom
  rw [Option.some.inj bom] at ascii
  exact absurd ascii (by decide)

/-- The text written for a value that some text denotes denotes it too. -/
theorem written_denotes {N : Normalization} {s : List Char} {v : CanonicalValue}
    (denotes : Denotes N s v) : Denotes N (writeValue v) v := by
  obtain ⟨-, t, -, fits, rfl⟩ := denotes
  obtain ⟨again, same⟩ := written_again fits
  have written := print_denotes (toTree_spelled (meaning N t)) again
  rwa [same, ← writeValue_print] at written

/-- The value the parser reads from bytes. -/
def parseBytes (N : Normalization) (bytes : ByteArray) : Option CanonicalValue :=
  (String.fromUTF8? bytes).bind fun text => (parseStrictJson N text.toList).toOption

theorem parseBytes_toBytes {N : Normalization} {s : List Char} {v : CanonicalValue}
    (read : parseStrictJson N s = .ok v) : parseBytes N v.toBytes = some v := by
  have valid := (String.ofList (writeValue v)).isValidUTF8
  have again := parse_of_denotes (written_denotes (parseStrictJson_ok.mp read))
  have text : String.fromUTF8? v.toBytes = some (String.ofList (writeValue v)) :=
    dif_pos valid
  rw [parseBytes, text, Option.bind_some, String.toList_ofList, again]
  rfl

end CarsinOS.Canonical
