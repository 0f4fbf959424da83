import CarsinOS.Recorder.Codec

/-! Which members a request may have, and when the codec of the wire keeps its contract. -/
namespace CarsinOS.Recorder
open CarsinOS.Lib CarsinOS.Lib.Members

def payloadNames (operation : Text) : List Text :=
  if operation = EXECUTE_ONCE then commandNames
  else if operation = QUERY_ONLY then queryNames
  else if operation = RECONCILE then reconcileNames
  else []

def EnvelopeStranger (envelope : Json) : Prop :=
  Stranger envelopeNames envelope ∨ ∃ handles handle,
    ("secret_handles".toList, .arr handles) ∈ entries envelopeNames envelope ∧ handle ∈ handles ∧
      Stranger handleNames handle

/-- An unknown field of the payload or of what it holds. -/
def PayloadStranger (operation : Text) (payload : Json) : Prop :=
  Stranger (payloadNames operation) payload ∨
    (∃ binding, ("binding".toList, binding) ∈ entries (payloadNames operation) payload ∧
      Stranger bindingNames binding) ∨
    operation = EXECUTE_ONCE ∧ ∃ envelope,
      ("operand_envelope".toList, envelope) ∈ entries commandNames payload ∧
        EnvelopeStranger envelope

/-- An unknown field, beside the payload or inside it. -/
def UnknownField (tree : Json) : Prop :=
  Stranger requestNames tree ∨ ∃ operation payload,
    ("operation".toList, .str operation) ∈ entries requestNames tree ∧
      ("payload".toList, payload) ∈ entries requestNames tree ∧ PayloadStranger operation payload

/-- A request without the members that are neither its operation nor its payload. -/
def withoutStrangers : Json → Json
  | .obj fields => .obj (fields.filter (·.1 ∈ requestNames))
  | tree => tree

section Reading
variable {J : RecorderJson} {tree : Json} {request : RecorderRequest}

theorem bindingOf_closed {binding : RecorderBinding} (known : bindingOf tree = some binding) :
    ¬ Stranger bindingNames tree := by
  obtain ⟨members, read, -⟩ := Option.bind_eq_some_iff.mp known
  exact (closed_entries bindingNames_distinct read).2.2

theorem handleOf_closed {handle : OpaqueSecretHandle} (known : handleOf tree = some handle) :
    ¬ Stranger handleNames tree := by
  obtain ⟨members, read, -⟩ := Option.bind_eq_some_iff.mp known
  exact (closed_entries handleNames_distinct read).2.2

theorem handles_closed {items : List Json} {handles : List OpaqueSecretHandle}
    (known : handlesOf (.arr items) = some handles) :
    ∀ item ∈ items, ¬ Stranger handleNames item := by
  rw [handlesOf] at known
  induction items generalizing handles with
  | nil => simp
  | cons item items ih =>
    rw [List.mapM_cons] at known
    obtain ⟨first, read, known⟩ := Option.bind_eq_some_iff.mp known
    obtain ⟨rest, later, -⟩ := Option.bind_eq_some_iff.mp known
    exact List.forall_mem_cons.mpr ⟨handleOf_closed read, ih later⟩

theorem envelopeOf_closed {envelope : OperandEnvelope}
    (known : envelopeOf J tree = some envelope) : ¬ EnvelopeStranger tree := by
  obtain ⟨members, read, known⟩ := Option.bind_eq_some_iff.mp known
  obtain ⟨same, distinct, none⟩ := closed_entries envelopeNames_distinct read
  obtain ⟨_, -, known⟩ := Option.bind_eq_some_iff.mp known
  obtain ⟨handles, listed, -⟩ := Option.bind_eq_some_iff.mp known
  rintro (strange | ⟨items, handle, inside, member, strange⟩)
  · exact none strange
  · exact handles_closed (defaulted_member distinct listed (same ▸ inside)) handle member strange

theorem binding_closed {names : List Text} {members : List (Text × Json)}
    {binding : RecorderBinding} (apart : names.Nodup) (read : closed names 0 tree = some members)
    (bound : required members "binding".toList bindingOf = some binding) :
    ¬ Stranger names tree ∧ ∀ other, ("binding".toList, other) ∈ entries names tree →
      ¬ Stranger bindingNames other := by
  obtain ⟨same, distinct, none⟩ := closed_entries apart read
  exact ⟨none, fun other inside =>
    bindingOf_closed (required_member distinct bound (same ▸ inside))⟩

theorem executeOnceOf_closed (known : executeOnceOf J tree = some request) :
    ¬ PayloadStranger EXECUTE_ONCE tree := by
  obtain ⟨members, read, known⟩ := Option.bind_eq_some_iff.mp known
  obtain ⟨_, bound, known⟩ := Option.bind_eq_some_iff.mp known
  -- the twenty fields between the binding and the envelope
  iterate 20 obtain ⟨_, -, known⟩ := Option.bind_eq_some_iff.mp known
  obtain ⟨envelope, enclosed, -⟩ := Option.bind_eq_some_iff.mp known
  obtain ⟨same, distinct, -⟩ := closed_entries commandNames_distinct read
  obtain ⟨none, bindings⟩ := binding_closed commandNames_distinct read bound
  rintro (strange | ⟨binding, inside, strange⟩ | ⟨-, other, inside, strange⟩)
  · exact none strange
  · exact bindings binding inside strange
  · exact envelopeOf_closed (required_member distinct enclosed (same ▸ inside)) strange

theorem queryOnlyOf_closed {query : QueryOnly} (known : queryOnlyOf tree = some query) :
    ¬ PayloadStranger QUERY_ONLY tree := by
  obtain ⟨members, read, known⟩ := Option.bind_eq_some_iff.mp known
  obtain ⟨_, bound, -⟩ := Option.bind_eq_some_iff.mp known
  obtain ⟨none, bindings⟩ := binding_closed queryNames_distinct read bound
  rintro (strange | ⟨binding, inside, strange⟩ | ⟨other, -⟩)
  · exact none strange
  · exact bindings binding inside strange
  · exact absurd other (by decide)

theorem reconcileOf_closed {window : Reconcile} (known : reconcileOf tree = some window) :
    ¬ PayloadStranger RECONCILE tree := by
  obtain ⟨members, read, known⟩ := Option.bind_eq_some_iff.mp known
  obtain ⟨_, bound, -⟩ := Option.bind_eq_some_iff.mp known
  obtain ⟨none, bindings⟩ := binding_closed reconcileNames_distinct read bound
  rintro (strange | ⟨binding, inside, strange⟩ | ⟨other, -⟩)
  · exact none strange
  · exact bindings binding inside strange
  · exact absurd other (by decide)

theorem payloadOf_closed {operation : Text} (known : payloadOf J operation tree = some request) :
    ¬ PayloadStranger operation tree := by
  unfold payloadOf at known
  split at known
  · rename_i same
    exact same ▸ executeOnceOf_closed known
  split at known
  · rename_i same
    obtain ⟨query, read, -⟩ := Option.map_eq_some_iff.mp known
    exact same ▸ queryOnlyOf_closed read
  split at known
  · rename_i same
    obtain ⟨window, read, -⟩ := Option.map_eq_some_iff.mp known
    exact same ▸ reconcileOf_closed read
  · contradiction

/-- A request has no unknown field inside its payload. -/
theorem requestOf_closed (known : requestOf J tree = some request) {operation : Text}
    {payload : Json} (tag : ("operation".toList, .str operation) ∈ entries requestNames tree)
    (content : ("payload".toList, payload) ∈ entries requestNames tree) :
    ¬ PayloadStranger operation payload := by
  obtain ⟨members, read, known⟩ := Option.bind_eq_some_iff.mp known
  obtain ⟨first, named, known⟩ := Option.bind_eq_some_iff.mp known
  obtain ⟨second, held, known⟩ := Option.bind_eq_some_iff.mp known
  obtain ⟨distinct, kept⟩ := opened_entries requestNames_distinct read
  have tag := required_member distinct named (kept _ tag (by simp [requestNames]))
  have content := required_member distinct held (kept _ content (by simp [requestNames]))
  cases tag
  cases content
  split at known
  · exact payloadOf_closed known
  · contradiction

/-- Members beside the operation and the payload are passed over. -/
theorem requestOf_withoutStrangers : requestOf J (withoutStrangers tree) = requestOf J tree := by
  have same : opened requestNames (withoutStrangers tree) = opened requestNames tree := by
    cases tree with
    | obj fields => simp [withoutStrangers, opened, List.filter_filter]
    | _ => rfl
  rw [requestOf, requestOf, same]

end Reading

section Contract
variable (J : RecorderJson)

/-- A frame that is a request but for members beside its operation and payload. -/
def OnlyStrangers (frame : List UInt8) (tree : Json) : Prop :=
  Whole frame ∧ Stranger requestNames tree ∧ (requestOf J (withoutStrangers tree)).isSome

theorem unknown_rejected {frame : List UInt8} {tree : Json}
    (spelled : J.tree (frame.drop 4) = some tree) :
    (UnknownField tree → Rejected J frame) ↔ ¬ OnlyStrangers J frame tree := by
  have accepted (request : RecorderRequest) :
      decodeFrame J frame = .ok request ↔ Whole frame ∧ requestOf J tree = some request := by
    rw [decodeFrame_ok, spelled, Option.bind_some]
  constructor
  · rintro rejected ⟨whole, strange, read⟩
    rw [requestOf_withoutStrangers] at read
    obtain ⟨request, read⟩ := Option.isSome_iff_exists.mp read
    exact rejected_iff.mp (rejected (.inl strange)) request ((accepted request).mpr ⟨whole, read⟩)
  · intro others unknown
    refine rejected_iff.mpr fun request known => ?_
    obtain ⟨whole, read⟩ := (accepted request).mp known
    rcases unknown with strange | ⟨operation, payload, tag, content, strange⟩
    · refine others ⟨whole, strange, ?_⟩
      rw [requestOf_withoutStrangers, read]
      rfl
    · exact requestOf_closed read tag content strange

theorem frame_codec :
    (∀ request frame, encodeFrame request = .ok frame →
      (decodeFrame J frame = .ok request ↔ Readable J request) ∧
      (∀ shorter, shorter <+: frame → shorter ≠ frame → Rejected J shorter) ∧
      ∀ more, more ≠ [] → Rejected J (frame ++ more)) ∧
    (∀ frame, frame.length ≠ 4 + declared frame ∨ RECORDER_MAX_FRAME_BYTES < declared frame →
      Rejected J frame) ∧
    ∀ frame tree, J.tree (frame.drop 4) = some tree →
      ((UnknownField tree → Rejected J frame) ↔ ¬ OnlyStrangers J frame tree) := by
  refine ⟨?_, ?_, ?_⟩
  · intro request frame made
    have whole := (encodeFrame_ok made).1
    exact ⟨decode_encode J made, fun shorter part strict => shorter_rejected whole part strict,
      fun more some => longer_rejected whole some⟩
  · intro frame broken
    refine rejected_of_broken fun whole => ?_
    rcases broken with size | long
    · exact size whole.size
    · exact absurd whole.limit (Nat.not_le.mpr long)
  · intro frame tree spelled
    exact unknown_rejected J spelled

end Contract

/-! A request that is encoded and not decoded, and a payload with an unknown field that is. -/

open Classical in
/-- The crate on payloads that were printed. -/
noncomputable def printedRecorder : RecorderJson where
  tree bytes :=
    if h : ∃ t : Json, t.Everywhere Spelled ∧ utf8Bytes t.print = bytes then some h.choose else none
  tree_print t spelled := by
    have known : ∃ u : Json, u.Everywhere Spelled ∧ utf8Bytes u.print = utf8Bytes t.print :=
      ⟨t, spelled, rfl⟩
    obtain ⟨alsoSpelled, same⟩ := known.choose_spec
    rw [dif_pos known]
    exact congrArg some (Json.print_injective alsoSpelled spelled (utf8Bytes_injective same))
  number lexeme := if NumberText lexeme then some lexeme else none
  number_text lexeme shown known := by
    split at known
    · rename_i spelled
      cases known
      exact spelled
    · contradiction
  number_integer i := if_pos (toText_number i)
  number_natural n _ := if_pos (natural_spelled n)

/-- Arrays inside each other. -/
def nestedArrays : Nat → Json
  | 0 => .arr []
  | n + 1 => .arr [nestedArrays n]

theorem nestedArrays_node (n : Nat) : (nestedArrays n).Everywhere ValueNode := by
  induction n with
  | zero => exact ⟨trivial, trivial⟩
  | succ n ih => exact ⟨trivial, ih, trivial⟩

theorem nestedArrays_nesting (n : Nat) : nesting (nestedArrays n) = n + 1 := by
  induction n with
  | zero => rfl
  | succ n ih => rw [nestedArrays, nesting, nestingItems, nestingItems, ih, Nat.max_zero]

def deepEnvelope : OperandEnvelope := ⟨⟨nestedArrays 124, []⟩, nestedArrays_node 124⟩

def deepRequest : RecorderRequest :=
  .executeOnce
    { sampleCommand "attempt-1".toList with operandEnvelope := envelopeTree deepEnvelope.val }
    deepEnvelope rfl

theorem deepRequest_short :
    (canonicalJsonBytes (requestTree deepRequest)).length ≤ RECORDER_MAX_FRAME_BYTES := by
  decide +kernel

def sampleQuery : RecorderRequest :=
  .queryOnly ⟨sampleBinding, "request-1".toList, "attempt-1".toList, none, none,
    "nonce-1".toList, List.replicate 64 'a'⟩

/-- The sample query with one more member in front. -/
def strangeTree : Json :=
  .obj (("extra".toList, .null) :: entries [] (canonicalize (requestTree sampleQuery)))

def strangePayload : List UInt8 := utf8Bytes strangeTree.print

theorem strangePayload_short : strangePayload.length ≤ RECORDER_MAX_FRAME_BYTES := by
  decide +kernel

theorem strangeTree_spelled : strangeTree.Everywhere Spelled := by
  have spelled := canonical_spelled (@request_spelled sampleQuery)
  refine object_spelled (List.forall_mem_cons.mpr ⟨trivial, ?_⟩)
  exact Json.everyField.mp spelled.2

theorem strangeTree_request : requestOf printedRecorder strangeTree = some sampleQuery := by
  have known : requestOf printedRecorder (canonicalize (requestTree sampleQuery)) =
      some sampleQuery := (requestOf_tree printedRecorder).mpr trivial
  have other : "extra".toList ∉ requestNames := by decide
  rw [← known, strangeTree, requestOf, requestOf]
  exact congrArg (· >>= _) (@opened_stranger _ _ _ [] _ other)

theorem codec_broken :
    (∃ frame, encodeFrame deepRequest = .ok frame ∧
      decodeFrame printedRecorder frame ≠ .ok deepRequest) ∧
    ∃ frame tree, printedRecorder.tree (frame.drop 4) = some tree ∧ UnknownField tree ∧
      decodeFrame printedRecorder frame = .ok sampleQuery := by
  constructor
  · obtain ⟨frame, made⟩ := encodeFrame_short deepRequest_short
    refine ⟨frame, made, fun known => ?_⟩
    have deep := ((decode_encode printedRecorder made).mp known).1
    rw [deepEnvelope, nestedArrays_nesting] at deep
    omega
  · obtain ⟨whole, payload⟩ := whole_framed strangePayload_short
    have spelled : printedRecorder.tree strangePayload = some strangeTree :=
      printedRecorder.tree_print _ strangeTree_spelled
    refine ⟨_, strangeTree, payload.symm ▸ spelled, .inl ⟨_, List.mem_cons_self, by decide⟩, ?_⟩
    rw [decodeFrame_ok, payload, spelled, Option.bind_some]
    exact ⟨whole, strangeTree_request⟩

end CarsinOS.Recorder
