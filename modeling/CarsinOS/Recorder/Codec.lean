import CarsinOS.Recorder.Frame

/-! What a frame is decoded to that a request was encoded to. -/
namespace CarsinOS.Recorder
open CarsinOS.Lib CarsinOS.Lib.Members
open Entries (keys sortByKey)

variable {names : List Text} {fields : List (Text × Json)} {name : Text} {value : Json} {i : Nat}

theorem canonicalizeItems_map (items : List Json) :
    canonicalizeItems items = items.map canonicalize := by
  induction items with
  | nil => rfl
  | cons item items ih => rw [canonicalizeItems, ih, List.map_cons]

theorem canonicalizeFields_map (fields : List (Text × Json)) :
    canonicalizeFields fields = fields.map fun field => (field.1, canonicalize field.2) := by
  induction fields with
  | nil => rfl
  | cons field fields ih => rw [canonicalizeFields, ih, List.map_cons]

theorem canonicalizeFields_keys (fields : List (Text × Json)) :
    keys (canonicalizeFields fields) = keys fields := by
  rw [canonicalizeFields_map, keys, List.map_map]
  rfl

/-- The members of a canonical object. -/
def canonicalMembers (fields : List (Text × Json)) : List (Text × Json) :=
  sortByKey (canonicalizeFields fields)

theorem canonicalMembers_perm (fields : List (Text × Json)) :
    (canonicalMembers fields).Perm (canonicalizeFields fields) := Entries.sortByKey_perm _

theorem mem_canonicalMembers {field : Text × Json} : field ∈ canonicalMembers fields ↔
    ∃ other ∈ fields, (other.1, canonicalize other.2) = field := by
  rw [(canonicalMembers_perm fields).mem_iff, canonicalizeFields_map, List.mem_map]

theorem closed_canonical {missing : Nat} (tree : Json) (shape : tree = .obj (entries [] tree))
    (named : keys (entries [] tree) = names) (distinct : names.Nodup) :
    closed names missing (canonicalize tree) = some (canonicalMembers (entries [] tree)) := by
  have perm := canonicalMembers_perm (entries [] tree)
  rw [shape]
  exact closed_perm perm ((canonicalizeFields_keys _).trans named) distinct

theorem lookup_canonical (named : keys fields = names) (distinct : names.Nodup)
    (place : fields[i]? = some (name, value)) :
    (canonicalMembers fields).lookup name = some (canonicalize value) := by
  have same : (keys (canonicalMembers fields)).Perm names :=
    named ▸ canonicalizeFields_keys fields ▸ (canonicalMembers_perm fields).map Prod.fst
  have apart : (keys (canonicalMembers fields)).Nodup := same.nodup_iff.mpr distinct
  exact lookup_member apart (mem_canonicalMembers.mpr ⟨_, List.mem_of_getElem? place, rfl⟩)

theorem canonical_spelled {tree : Json} (spelled : tree.Everywhere Spelled) :
    (canonicalize tree).Everywhere Spelled := by
  induction tree using Json.children_induction with
  | step tree ih =>
    have below := (Json.everywhere.mp spelled).2
    cases tree with
    | arr items =>
      refine ⟨trivial, Json.everyItem.mpr ?_⟩
      rw [canonicalizeItems_map, List.forall_mem_map]
      exact fun item inside => ih item inside (below item inside)
    | obj fields =>
      refine object_spelled fun field inside => ?_
      obtain ⟨other, member, rfl⟩ := mem_canonicalMembers.mp inside
      have child : other.2 ∈ fields.map Prod.snd := List.mem_map_of_mem member
      exact ih other.2 child (below other.2 child)
    | _ => exact spelled

/-- A value of the crate is canonical. -/
theorem canonical_value {tree : Json} (known : tree.Everywhere ValueNode) :
    canonicalize tree = tree := by
  induction tree using Json.children_induction with
  | step tree ih =>
    obtain ⟨node, below⟩ := Json.everywhere.mp known
    cases tree with
    | arr items =>
      have same : items.map canonicalize = items :=
        (List.map_congr_left fun item inside => ih item inside (below item inside)).trans
          (List.map_id' items)
      rw [canonicalize, canonicalizeItems_map, same]
    | obj fields =>
      have same : canonicalizeFields fields = fields := by
        rw [canonicalizeFields_map]
        refine (List.map_congr_left fun field inside => ?_).trans (List.map_id' fields)
        have child : field.2 ∈ fields.map Prod.snd := List.mem_map_of_mem inside
        rw [ih field.2 child (below field.2 child)]
      rw [canonicalize, same, Entries.sortByKey_sorted node]
    | _ => rfl

theorem value_spelled {tree : Json} (known : tree.Everywhere ValueNode) :
    tree.Everywhere Spelled := by
  induction tree using Json.children_induction with
  | step tree ih =>
    obtain ⟨node, below⟩ := Json.everywhere.mp known
    refine Json.everywhere.mpr ⟨?_, fun child inside => ih child inside (below child inside)⟩
    cases tree with
    | num lexeme => exact node
    | _ => trivial

/-! The names of each type are distinct. -/

theorem requestNames_distinct : requestNames.Nodup := by decide
theorem bindingNames_distinct : bindingNames.Nodup := by decide
theorem handleNames_distinct : handleNames.Nodup := by decide
theorem envelopeNames_distinct : envelopeNames.Nodup := by decide
theorem commandNames_distinct : commandNames.Nodup := by decide
theorem queryNames_distinct : queryNames.Nodup := by decide
theorem reconcileNames_distinct : reconcileNames.Nodup := by decide

/-! Reading the canonical form of each type. -/

theorem integerOf_integer (i : I64) : integerOf (canonicalize (integer i)) = some i :=
  integerValue_toText i

theorem nullOr_nullable (text : Option Text) :
    nullOr textOf (canonicalize (nullable .str text)) = some text := by
  cases text <;> rfl

section Canonical
variable {α : Type} {read : Json → Option α} (named : keys fields = names)
  (distinct : names.Nodup)
include named distinct

theorem required_canonical (i : Nat) (place : fields[i]? = some (name, value)) :
    required (canonicalMembers fields) name read = read (canonicalize value) := by
  rw [required, lookup_canonical named distinct place, Option.bind_some]

theorem required_text {text : Text} (i : Nat) (place : fields[i]? = some (name, .str text)) :
    required (canonicalMembers fields) name textOf = some text :=
  required_canonical named distinct i place

theorem required_integer {number : I64} (i : Nat)
    (place : fields[i]? = some (name, integer number)) :
    required (canonicalMembers fields) name integerOf = some number :=
  (required_canonical named distinct i place).trans (integerOf_integer number)

theorem optional_canonical {text : Option Text} (i : Nat)
    (place : fields[i]? = some (name, nullable .str text)) :
    optionalText (canonicalMembers fields) name = some text := by
  rw [optionalText, defaulted, lookup_canonical named distinct place]
  exact nullOr_nullable text

end Canonical

theorem bindingOf_tree (binding : RecorderBinding) :
    bindingOf (canonicalize (bindingTree binding)) = some binding := by
  have named : keys (entries [] (bindingTree binding)) = bindingNames := rfl
  have apart := bindingNames_distinct
  unfold bindingOf
  rw [closed_canonical (bindingTree binding) rfl named apart]
  simp only [Option.bind_eq_bind, Option.bind_some,
    required_text named apart 0 rfl, required_text named apart 1 rfl,
    required_text named apart 2 rfl, required_integer named apart 3 rfl,
    required_text named apart 4 rfl, required_integer named apart 5 rfl,
    required_text named apart 6 rfl, required_integer named apart 7 rfl]

theorem handleOf_tree (handle : OpaqueSecretHandle) :
    handleOf (canonicalize (handleTree handle)) = some handle := by
  have named : keys (entries [] (handleTree handle)) = handleNames := rfl
  have apart := handleNames_distinct
  unfold handleOf
  rw [closed_canonical (handleTree handle) rfl named apart]
  simp only [Option.bind_eq_bind, Option.bind_some,
    required_integer named apart 0 rfl, required_text named apart 1 rfl,
    required_text named apart 2 rfl, required_text named apart 3 rfl,
    required_text named apart 4 rfl]

theorem handlesOf_trees (handles : List OpaqueSecretHandle) :
    handlesOf (canonicalize (.arr (handles.map handleTree))) = some handles := by
  rw [canonicalize, canonicalizeItems_map, List.map_map, handlesOf]
  induction handles with
  | nil => rfl
  | cons handle handles ih =>
    rw [List.map_cons, List.mapM_cons, ih, Function.comp_apply, handleOf_tree]
    rfl

section Reading
variable (J : RecorderJson)

/-- The envelope with another operand. -/
theorem value_node (value : Value) : value.val.Everywhere ValueNode := value.property

def withOperand (envelope : OperandEnvelope) (value : Value) : OperandEnvelope :=
  ⟨{ envelope.val with nonSecret := value.val }, value_node value⟩

theorem envelopeOf_tree (envelope : OperandEnvelope) :
    envelopeOf J (canonicalize (envelopeTree envelope.val)) =
      (valueOf J envelope.val.nonSecret).map (withOperand envelope) := by
  have named : keys (entries [] (envelopeTree envelope.val)) = envelopeNames := rfl
  have apart := envelopeNames_distinct
  have handles : defaulted (canonicalMembers (entries [] (envelopeTree envelope.val)))
      "secret_handles".toList [] handlesOf = some envelope.val.secretHandles := by
    rw [defaulted, lookup_canonical (i := 1) named apart rfl]
    exact handlesOf_trees envelope.val.secretHandles
  unfold envelopeOf
  rw [closed_canonical (envelopeTree envelope.val) rfl named apart]
  simp only [Option.bind_eq_bind, Option.bind_some, handles,
    required_canonical named apart 0 rfl, canonical_value envelope.property]
  cases valueOf J envelope.val.nonSecret <;> rfl

theorem executeOnceOf_tree {command : ExecuteOnce} {envelope : OperandEnvelope}
    (enclosed : command.operandEnvelope = envelopeTree envelope.val) :
    executeOnceOf J (canonicalize (commandTree command)) =
      (valueOf J envelope.val.nonSecret).map fun value =>
        .executeOnce
          { command with operandEnvelope := envelopeTree (withOperand envelope value).val }
          (withOperand envelope value) rfl := by
  have named : keys (entries [] (commandTree command)) = commandNames := rfl
  have apart := commandNames_distinct
  have some_step {α β : Type} (a : α) (f : α → Option β) : (some a >>= f) = f a := rfl
  unfold executeOnceOf
  rw [closed_canonical (commandTree command) rfl named apart, some_step,
    required_canonical named apart 0 rfl, bindingOf_tree, some_step,
    required_text named apart 1 rfl, some_step,
    required_text named apart 2 rfl, some_step,
    required_text named apart 3 rfl, some_step,
    required_integer named apart 4 rfl, some_step,
    required_text named apart 5 rfl, some_step,
    required_text named apart 6 rfl, some_step,
    required_text named apart 7 rfl, some_step,
    required_text named apart 8 rfl, some_step,
    required_text named apart 9 rfl, some_step,
    required_text named apart 10 rfl, some_step,
    required_integer named apart 11 rfl, some_step,
    required_text named apart 12 rfl, some_step,
    required_text named apart 13 rfl, some_step,
    required_text named apart 14 rfl, some_step,
    required_text named apart 15 rfl, some_step,
    required_text named apart 16 rfl, some_step,
    optional_canonical named apart 17 rfl, some_step,
    optional_canonical named apart 18 rfl, some_step,
    required_text named apart 19 rfl, some_step,
    required_text named apart 20 rfl, some_step,
    required_canonical named apart 21 rfl, enclosed, envelopeOf_tree]
  cases valueOf J envelope.val.nonSecret with
  | none => rfl
  | some value =>
    rw [Option.map_some, Option.map_some, some_step,
      required_integer named apart 22 rfl, some_step,
      required_text named apart 23 rfl, some_step,
      required_text named apart 24 rfl, some_step]

theorem queryOnlyOf_tree (query : QueryOnly) :
    queryOnlyOf (canonicalize (queryTree query)) = some query := by
  have named : keys (entries [] (queryTree query)) = queryNames := rfl
  have apart := queryNames_distinct
  unfold queryOnlyOf
  rw [closed_canonical (queryTree query) rfl named apart]
  simp only [Option.bind_eq_bind, Option.bind_some,
    required_canonical named apart 0 rfl, bindingOf_tree, required_text named apart 1 rfl,
    required_text named apart 2 rfl, optional_canonical named apart 3 rfl,
    optional_canonical named apart 4 rfl, required_text named apart 5 rfl,
    required_text named apart 6 rfl]

theorem reconcileOf_tree (window : Reconcile) :
    reconcileOf (canonicalize (reconcileTree window)) = some window := by
  have named : keys (entries [] (reconcileTree window)) = reconcileNames := rfl
  have apart := reconcileNames_distinct
  unfold reconcileOf
  rw [closed_canonical (reconcileTree window) rfl named apart]
  simp only [Option.bind_eq_bind, Option.bind_some,
    required_canonical named apart 0 rfl, bindingOf_tree, required_text named apart 1 rfl,
    required_text named apart 2 rfl, required_text named apart 3 rfl,
    required_text named apart 4 rfl, required_text named apart 5 rfl,
    required_integer named apart 6 rfl, required_integer named apart 7 rfl,
    required_text named apart 8 rfl, required_text named apart 9 rfl]

/-- The number is read as it is spelled; an integer always is. -/
def ReadBack : Json → Prop
  | .num lexeme =>
    (∃ i : I64, lexeme = i.toText) ∨ (∃ n < 2 ^ 64, lexeme = Nat.toDigits 10 n) ∨
      J.number lexeme = some lexeme
  | _ => True

theorem readBack_num {lexeme : Text} :
    ReadBack J (.num lexeme) ↔ J.number lexeme = some lexeme := by
  constructor
  · rintro (⟨i, rfl⟩ | ⟨n, small, rfl⟩ | known)
    · exact J.number_integer i
    · exact J.number_natural n small
    · exact known
  · exact fun known => .inr (.inr known)

theorem valueItems_self {items : List Json} :
    valueItems J items = some items ↔ ∀ item ∈ items, valueTree J item = some item := by
  induction items with
  | nil => simp [valueItems]
  | cons item items ih =>
    rw [List.forall_mem_cons, ← ih, valueItems]
    cases valueTree J item <;> cases valueItems J items <;> simp

theorem valueFields_self {fields : List (Text × Json)} :
    valueFields J fields = some fields ↔ ∀ field ∈ fields, valueTree J field.2 = some field.2 := by
  induction fields with
  | nil => simp [valueFields]
  | cons field fields ih =>
    rw [List.forall_mem_cons, ← ih, valueFields]
    cases valueTree J field.2 <;> cases valueFields J fields <;> simp [Prod.ext_iff]

theorem valueFields_keys {fields values : List (Text × Json)}
    (known : valueFields J fields = some values) : keys values = keys fields := by
  induction fields generalizing values with
  | nil =>
    cases known
    rfl
  | cons field fields ih =>
    obtain ⟨first, read, known⟩ := Option.bind_eq_some_iff.mp known
    obtain ⟨rest, later, known⟩ := Option.bind_eq_some_iff.mp known
    cases known
    rw [Entries.keys_cons, Entries.keys_cons, ih later]

/-- A value is read as itself when its numbers are. -/
theorem valueTree_self {tree : Json} (known : tree.Everywhere ValueNode) :
    valueTree J tree = some tree ↔ tree.Everywhere (ReadBack J) := by
  induction tree using Json.children_induction with
  | step tree ih =>
    obtain ⟨node, below⟩ := Json.everywhere.mp known
    have each : (∀ child ∈ tree.children, valueTree J child = some child) ↔
        ∀ child ∈ tree.children, child.Everywhere (ReadBack J) :=
      forall₂_congr fun child inside => ih child inside (below child inside)
    rw [Json.everywhere, ← each]
    cases tree with
    | num lexeme => simp [valueTree, readBack_num, Json.children]
    | arr items => simp [valueTree, ReadBack, Json.children, valueItems_self]
    | obj fields =>
      simp only [ReadBack, true_and, Json.children, List.forall_mem_map]
      rw [← valueFields_self, valueTree]
      cases read : valueFields J fields with
      | none => simp
      | some values =>
        have sorted : Entries.Sorted values := by
          rw [Entries.Sorted, valueFields_keys J read]
          exact node
        have same : Entries.insertAll [] values = values := Entries.insertAll_sorted sorted
        simp [same]
    | _ => simp [valueTree, ReadBack, Json.children]

theorem valueOf_self {value : Value} :
    valueOf J value.val = some value ↔ value.val.Everywhere (ReadBack J) := by
  rw [← valueTree_self J value.property]
  unfold valueOf
  split
  · rename_i known
    simp [known, Subtype.ext_iff]
  · rename_i known
    simp [known]

end Reading

theorem nesting_canonicalize (tree : Json) (n : Nat) :
    nesting (canonicalize tree) ≤ n ↔ nesting tree ≤ n := by
  induction tree using Json.children_induction generalizing n with
  | step tree ih =>
    cases tree with
    | arr items =>
      rw [canonicalize, canonicalizeItems_map]
      cases n with
      | zero => simp [nesting]
      | succ n =>
        rw [nesting_arr, nesting_arr, List.forall_mem_map]
        exact forall₂_congr fun item inside => ih item inside n
    | obj fields =>
      rw [canonicalize]
      cases n with
      | zero => simp [nesting]
      | succ n =>
        rw [nesting_obj, nesting_obj]
        constructor
        · intro each field inside
          have child : field.2 ∈ fields.map Prod.snd := List.mem_map_of_mem inside
          exact (ih field.2 child n).mp (each _ (mem_canonicalMembers.mpr ⟨field, inside, rfl⟩))
        · intro each field inside
          obtain ⟨other, member, rfl⟩ := mem_canonicalMembers.mp inside
          have child : other.2 ∈ fields.map Prod.snd := List.mem_map_of_mem member
          exact (ih other.2 child n).mpr (each other member)
    | _ => rfl

theorem nesting_nullable (text : Option Text) : nesting (nullable .str text) = 0 := by
  cases text <;> rfl

theorem nesting_handles (handles : List OpaqueSecretHandle) :
    nesting (.arr (handles.map handleTree)) ≤ 2 := by
  rw [nesting_arr, List.forall_mem_map]
  intro handle _
  simp [handleTree, integer, nesting, nestingFields]

theorem nesting_command {command : ExecuteOnce} {envelope : OperandEnvelope}
    (enclosed : command.operandEnvelope = envelopeTree envelope.val) :
    nesting (commandTree command) ≤ PAYLOAD_NESTING ↔ nesting envelope.val.nonSecret ≤ 124 := by
  have handles := nesting_handles envelope.val.secretHandles
  have limit : PAYLOAD_NESTING = 126 := rfl
  simp only [commandTree, bindingTree, integer, nesting, nestingFields, nesting_nullable, enclosed,
    envelopeTree, limit] at handles ⊢
  omega

theorem nesting_query (query : QueryOnly) : nesting (queryTree query) ≤ PAYLOAD_NESTING := by
  simp [queryTree, bindingTree, integer, nesting, nestingFields, nesting_nullable, PAYLOAD_NESTING]

theorem nesting_reconcile (window : Reconcile) :
    nesting (reconcileTree window) ≤ PAYLOAD_NESTING := by
  simp [reconcileTree, bindingTree, integer, nesting, nestingFields, PAYLOAD_NESTING]

section Requests
variable (J : RecorderJson) {request : RecorderRequest} {frame : List UInt8}

/-- The non-secret operand of a command is not nested too deep, and its numbers are read back. -/
def Readable : RecorderRequest → Prop
  | .executeOnce _ envelope _ =>
    nesting envelope.val.nonSecret ≤ 124 ∧ envelope.val.nonSecret.Everywhere (ReadBack J)
  | _ => True

theorem payloadOf_tree : payloadOf J request.operation (canonicalize request.payload) =
    some request ↔ match request with
      | .executeOnce _ envelope _ => envelope.val.nonSecret.Everywhere (ReadBack J)
      | _ => True := by
  have apart : QUERY_ONLY ≠ EXECUTE_ONCE ∧ RECONCILE ≠ EXECUTE_ONCE ∧ RECONCILE ≠ QUERY_ONLY := by
    decide
  cases request with
  | executeOnce command envelope enclosed =>
    simp only [payloadOf, RecorderRequest.operation, RecorderRequest.payload, if_true]
    rw [executeOnceOf_tree J enclosed, ← @valueOf_self J ⟨_, envelope.property⟩]
    cases read : valueOf J envelope.val.nonSecret with
    | none => simp
    | some value =>
      constructor
      · intro known
        have same := (RecorderRequest.executeOnce.inj (Option.some.inj known)).2
        have operand := congrArg (fun other : OperandEnvelope => other.val.nonSecret) same
        exact congrArg some (Subtype.ext operand)
      · intro known
        cases known
        have same : withOperand envelope ⟨_, envelope.property⟩ = envelope := rfl
        simp only [Option.map_some, same, ← enclosed]
  | queryOnly query =>
    simp [payloadOf, RecorderRequest.operation, RecorderRequest.payload, apart, queryOnlyOf_tree]
  | reconcile window =>
    simp [payloadOf, RecorderRequest.operation, RecorderRequest.payload, apart, reconcileOf_tree]

theorem requestOf_tree :
    requestOf J (canonicalize (requestTree request)) = some request ↔ Readable J request := by
  have named : keys (entries [] (requestTree request)) = requestNames := rfl
  have apart := requestNames_distinct
  have members : opened requestNames (canonicalize (requestTree request)) =
      some (canonicalMembers (entries [] (requestTree request))) :=
    opened_perm (canonicalMembers_perm _) ((canonicalizeFields_keys _).trans named) apart
  have content := @payloadOf_tree J request
  unfold requestOf
  rw [members]
  simp only [Option.bind_eq_bind, Option.bind_some, required_text named apart 0 rfl,
    required_canonical named apart 1 rfl, nesting_canonicalize, Option.ite_none_right_eq_some]
  rw [content]
  cases request with
  | executeOnce command envelope enclosed => exact and_congr_left' (nesting_command enclosed)
  | queryOnly query => exact and_iff_right (nesting_query query)
  | reconcile window => exact and_iff_right (nesting_reconcile window)

theorem binding_spelled (binding : RecorderBinding) :
    (bindingTree binding).Everywhere Spelled := by
  apply object_spelled
  simp only [List.forall_mem_cons, List.not_mem_nil, false_implies, implies_true, and_true]
  exact ⟨str_spelled _, str_spelled _, str_spelled _, integer_spelled _, str_spelled _,
    integer_spelled _, str_spelled _, integer_spelled _⟩

theorem handle_spelled (handle : OpaqueSecretHandle) :
    (handleTree handle).Everywhere Spelled := by
  apply object_spelled
  simp only [List.forall_mem_cons, List.not_mem_nil, false_implies, implies_true, and_true]
  exact ⟨integer_spelled _, str_spelled _, str_spelled _, str_spelled _, str_spelled _⟩

theorem envelope_spelled (envelope : OperandEnvelope) :
    (envelopeTree envelope.val).Everywhere Spelled := by
  have handles : (Json.arr (envelope.val.secretHandles.map handleTree)).Everywhere Spelled := by
    refine ⟨trivial, Json.everyItem.mpr ?_⟩
    rw [List.forall_mem_map]
    exact fun handle _ => handle_spelled handle
  apply object_spelled
  simp only [List.forall_mem_cons, List.not_mem_nil, false_implies, implies_true, and_true]
  exact ⟨value_spelled envelope.property, handles⟩

theorem payload_spelled : request.payload.Everywhere Spelled := by
  have strings := nullable_spelled str_spelled
  cases request with
  | executeOnce command envelope enclosed =>
    have operand : command.operandEnvelope.Everywhere Spelled :=
      enclosed ▸ envelope_spelled envelope
    apply object_spelled
    simp only [List.forall_mem_cons, List.not_mem_nil, false_implies, implies_true, and_true]
    exact ⟨binding_spelled _, str_spelled _, str_spelled _, str_spelled _, integer_spelled _,
      str_spelled _, str_spelled _, str_spelled _, str_spelled _, str_spelled _, str_spelled _,
      integer_spelled _, str_spelled _, str_spelled _, str_spelled _, str_spelled _, str_spelled _,
      strings _, strings _, str_spelled _, str_spelled _, operand, integer_spelled _,
      str_spelled _, str_spelled _⟩
  | queryOnly query =>
    apply object_spelled
    simp only [List.forall_mem_cons, List.not_mem_nil, false_implies, implies_true, and_true]
    exact ⟨binding_spelled _, str_spelled _, str_spelled _, strings _, strings _, str_spelled _,
      str_spelled _⟩
  | reconcile window =>
    apply object_spelled
    simp only [List.forall_mem_cons, List.not_mem_nil, false_implies, implies_true, and_true]
    exact ⟨binding_spelled _, str_spelled _, str_spelled _, str_spelled _, str_spelled _,
      str_spelled _, integer_spelled _, integer_spelled _, str_spelled _, str_spelled _⟩

theorem request_spelled : (requestTree request).Everywhere Spelled := by
  apply object_spelled
  simp only [List.forall_mem_cons, List.not_mem_nil, false_implies, implies_true, and_true]
  exact ⟨str_spelled _, payload_spelled⟩

/-- The frame of a request is decoded to it when the request is readable. -/
theorem decode_encode (made : encodeFrame request = .ok frame) :
    decodeFrame J frame = .ok request ↔ Readable J request := by
  obtain ⟨whole, payload⟩ := encodeFrame_ok made
  have tree := J.tree_print _ (canonical_spelled (@request_spelled request))
  rw [decodeFrame_ok, payload, canonicalJsonBytes, tree, Option.bind_some, requestOf_tree]
  exact and_iff_right whole

end Requests
end CarsinOS.Recorder
