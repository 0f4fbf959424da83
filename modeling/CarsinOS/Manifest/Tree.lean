import CarsinOS.Integer
import CarsinOS.Manifest.Leaf

/-! The JSON trees whose compact text the canonical encoders write. -/
namespace CarsinOS.Manifest
open CarsinOS.Lib

mutual
def valueTree : CanonicalValue → Json
  | .null => .null
  | .bool value => .bool value
  | .integer value => .num value.toText
  | .string value => .str value
  | .array values => .arr (itemTrees values)
  | .object fields => .obj (Entries.sortByKey (fieldTrees fields))

def itemTrees : List CanonicalValue → List Json
  | [] => []
  | v :: vs => valueTree v :: itemTrees vs

def fieldTrees : List (Text × CanonicalValue) → List (Text × Json)
  | [] => []
  | (k, v) :: fs => (k, valueTree v) :: fieldTrees fs
end

theorem itemTrees_map (vs : List CanonicalValue) : itemTrees vs = vs.map valueTree := by
  induction vs with
  | nil => rfl
  | cons v vs ih => rw [itemTrees, ih, List.map_cons]

theorem fieldTrees_map (fs : List (Text × CanonicalValue)) :
    fieldTrees fs = fs.map fun f => (f.1, valueTree f.2) := by
  induction fs with
  | nil => rfl
  | cons f fs ih => rw [fieldTrees, ih, List.map_cons]

/-- What the encoder asks of a single value. -/
def Writable : Json → Prop
  | .num w => ∃ i : I64, w = i.toText
  | .str s => utf8Length s ≤ MAX_CANONICAL_STRING_BYTES
  | .arr items => items.length ≤ MAX_CANONICAL_ARRAY_ITEMS
  | .obj fields => fields.length ≤ MAX_CANONICAL_OBJECT_FIELDS ∧
      (∀ f ∈ fields, f.1 ≠ [] ∧ utf8Length f.1 ≤ MAX_CANONICAL_STRING_BYTES) ∧
      Entries.Sorted fields
  | _ => True

def Written (levels : Nat) (t : Json) : Prop := t.depth ≤ levels ∧ t.Everywhere Writable

/-- The trees of the values that are encoded on their own. -/
def Sized (t : Json) : Prop :=
  Written (MAX_CANONICAL_VALUE_DEPTH + 1) t ∧ utf8Length t.print ≤ MAX_CANONICAL_VALUE_BYTES

theorem written_iff {n : Nat} {t : Json} :
    Written (n + 1) t ↔ Writable t ∧ ∀ u ∈ t.children, Written n u := by
  unfold Written
  rw [Json.depth_le, Json.everywhere]
  constructor
  · rintro ⟨shallow, here, below⟩
    exact ⟨here, fun u member => ⟨shallow u member, below u member⟩⟩
  · rintro ⟨here, below⟩
    exact ⟨fun u member => (below u member).1, here, fun u member => (below u member).2⟩

theorem written_spelled {t : Json} (writable : t.Everywhere Writable) : t.Everywhere Spelled := by
  induction t using Json.children_induction with
  | step t ih =>
    obtain ⟨here, inside⟩ := Json.everywhere.mp writable
    refine Json.everywhere.mpr ⟨?_, fun u member => ih u member (inside u member)⟩
    cases t with
    | num w =>
      obtain ⟨i, rfl⟩ := here
      exact toText_number i
    | _ => trivial

/-- Sorted keys without equal neighbours increase strictly. -/
theorem hasEqualNeighbours_sorted {α : Type} [LinearOrder α] [DecidableEq α] {as : List α}
    (sorted : as.Pairwise (· ≤ ·)) : hasEqualNeighbours as = false ↔ as.Pairwise (· < ·) := by
  induction as with
  | nil => simp [hasEqualNeighbours]
  | cons a as ih =>
    obtain ⟨least, rest⟩ := List.pairwise_cons.mp sorted
    cases as with
    | nil => simp [hasEqualNeighbours]
    | cons b bs =>
      simp only [hasEqualNeighbours, Bool.or_eq_false_iff, decide_eq_false_iff_not, ih rest]
      constructor
      · rintro ⟨other, increasing⟩
        refine List.pairwise_cons.mpr ⟨fun c member => ?_, increasing⟩
        have first := lt_of_le_of_ne (least b List.mem_cons_self) other
        rcases List.mem_cons.mp member with rfl | member
        · exact first
        · exact first.trans ((List.pairwise_cons.mp increasing).1 c member)
      · intro increasing
        obtain ⟨below, increasing⟩ := List.pairwise_cons.mp increasing
        exact ⟨ne_of_lt (below b List.mem_cons_self), increasing⟩

section Encoding
variable {C : Crates}

theorem pushJsonString_quote (value : Text) : pushJsonString C value = Json.quote value :=
  C.jsonString_compact value

/-- The field of an object, when the encoder accepts it. -/
theorem field_ok {levels : Nat} {field : Text × CanonicalValue} {normalized : Text × Text}
    (inside : ∀ text, canonicalValueInto C levels field.2 = .ok text ↔
      Written levels (valueTree field.2) ∧ text = (valueTree field.2).print) :
    (if field.1 = [] then Except.error "object key cannot be empty"
      else if utf8Length field.1 > MAX_CANONICAL_STRING_BYTES then
        .error "object key exceeds byte limit"
      else do
        let nested ← canonicalValueInto C levels field.2
        .ok (field.1, nested)) = .ok normalized ↔
      (field.1 ≠ [] ∧ utf8Length field.1 ≤ MAX_CANONICAL_STRING_BYTES ∧
        Written levels (valueTree field.2)) ∧
      normalized = (field.1, (valueTree field.2).print) := by
  split
  · simp [*]
  · split
    · rename_i long
      simp [Nat.not_le.mpr long]
    · rename_i present short
      have fits : utf8Length field.1 ≤ MAX_CANONICAL_STRING_BYTES := by omega
      simp only [bind_ok, inside, Except.ok.injEq, present, ne_eq, not_false_eq_true, fits,
        true_and]
      constructor
      · rintro ⟨_, ⟨written, rfl⟩, rfl⟩
        exact ⟨written, rfl⟩
      · rintro ⟨written, rfl⟩
        exact ⟨_, ⟨written, rfl⟩, rfl⟩

/-- The end of the encoding of an object, whose fields are encoded already. -/
theorem object_ok {levels : Nat} {fs : List (Text × Json)} {text : Text}
    (few : fs.length ≤ MAX_CANONICAL_OBJECT_FIELDS) :
    (∃ normalized, ((∀ f ∈ fs, f.1 ≠ [] ∧ utf8Length f.1 ≤ MAX_CANONICAL_STRING_BYTES ∧
        Written levels f.2) ∧ normalized = fs.map fun f => (f.1, f.2.print)) ∧
      (let sorted := normalized.insertionSort (fun left right => left.1 ≤ right.1)
        if hasEqualNeighbours (sorted.map Prod.fst) then
          (Except.error "object has duplicate exact keys" : Except String Text)
        else
          let entries := sorted.map fun entry => pushJsonString C entry.1 ++ ':' :: entry.2
          .ok ('{' :: (commaSeparated entries ++ ['}']))) = .ok text) ↔
      (Writable (.obj (Entries.sortByKey fs)) ∧
        ∀ u ∈ (Json.obj (Entries.sortByKey fs)).children, Written levels u) ∧
      text = (Json.obj (Entries.sortByKey fs)).print := by
  have sorted : (fs.map fun f => (f.1, f.2.print)).insertionSort
      (fun left right => left.1 ≤ right.1) =
      (Entries.sortByKey fs).map fun f => (f.1, f.2.print) := (Entries.sortByKey_map fs _).symm
  have keys : ((Entries.sortByKey fs).map fun f => (f.1, f.2.print)).map Prod.fst =
      Entries.keys (Entries.sortByKey fs) := by simp [Entries.keys]
  have increasing : hasEqualNeighbours (Entries.keys (Entries.sortByKey fs)) = false ↔
      Entries.Sorted (Entries.sortByKey fs) :=
    hasEqualNeighbours_sorted (List.pairwise_map.mpr (Entries.sortByKey_pairwise fs))
  have written : commaSeparated (((Entries.sortByKey fs).map fun f => (f.1, f.2.print)).map
      fun entry => pushJsonString C entry.1 ++ ':' :: entry.2) =
      Json.printFields (Entries.sortByKey fs) := by
    rw [Json.printFields_commas, List.map_map]
    exact congrArg commaSeparated
      (List.map_congr_left fun f _ => by simp [pushJsonString_quote, Json.printField])
  have members : ∀ p : Text × Json → Prop,
      (∀ f ∈ Entries.sortByKey fs, p f) ↔ ∀ f ∈ fs, p f := fun p => by
    simp only [(Entries.sortByKey_perm fs).mem_iff]
  simp only [and_assoc, Writable, (Entries.sortByKey_perm fs).length_eq, few, true_and,
    Json.children, List.forall_mem_map, members, Json.print]
  constructor
  · rintro ⟨_, fields, rfl, made⟩
    simp only [sorted, keys] at made
    split at made
    · contradiction
    · rename_i apart
      rw [written] at made
      cases made
      exact ⟨fun f member => ⟨(fields f member).1, (fields f member).2.1⟩,
        increasing.mp (by simpa using apart), fun f member => (fields f member).2.2, rfl⟩
  · rintro ⟨names, apart, inside, rfl⟩
    refine ⟨_, fun f member => ⟨(names f member).1, (names f member).2, inside f member⟩, rfl, ?_⟩
    simp only [sorted, keys, increasing.mpr apart, Bool.false_eq_true, if_false, written]

/-- The encoder writes the compact text of the tree of a value, and refuses no other value than
those whose tree is outside its limits. -/
theorem canonicalValueInto_ok {levels : Nat} {value : CanonicalValue} {text : Text} :
    canonicalValueInto C levels value = .ok text ↔
      Written levels (valueTree value) ∧ text = (valueTree value).print := by
  induction levels generalizing value text with
  | zero =>
    have positive := (valueTree value).depth_pos
    constructor
    · intro impossible
      cases value <;> contradiction
    · rintro ⟨⟨shallow, _⟩, _⟩
      omega
  | succ levels ih =>
    rw [written_iff]
    cases value with
    | null => simp [canonicalValueInto, valueTree, Writable, Json.children, Json.print, eq_comm]
    | bool b => cases b <;>
        simp [canonicalValueInto, valueTree, Writable, Json.children, Json.print, eq_comm]
    | integer i =>
      simp [canonicalValueInto, valueTree, Writable, Json.children, Json.print, eq_comm]
    | string s =>
      simp only [canonicalValueInto, valueTree, Writable, Json.children, Json.print,
        pushJsonString_quote]
      split
      · simp
        omega
      · simp [eq_comm]
        omega
    | array vs =>
      have below : ∀ us : List CanonicalValue,
          (∀ u ∈ (Json.arr (us.map valueTree)).children, Written levels u) ↔
            ∀ v ∈ us, Written levels (valueTree v) := fun us => by simp [Json.children]
      simp only [canonicalValueInto, valueTree, itemTrees_map, Writable, List.length_map, below]
      split
      · simp
        omega
      · rename_i short
        have few : vs.length ≤ MAX_CANONICAL_ARRAY_ITEMS := by omega
        simp only [bind_ok, mapM_determined fun _ _ => ih, Except.ok.injEq, few, true_and,
          Json.print, Json.printItems_commas, List.map_map]
        constructor
        · rintro ⟨_, ⟨inside, rfl⟩, rfl⟩
          exact ⟨inside, rfl⟩
        · rintro ⟨inside, rfl⟩
          exact ⟨_, ⟨inside, rfl⟩, rfl⟩
    | object fs =>
      simp only [canonicalValueInto, valueTree]
      split
      · rename_i long
        have more : ¬ (Entries.sortByKey (fieldTrees fs)).length ≤ MAX_CANONICAL_OBJECT_FIELDS := by
          rw [(Entries.sortByKey_perm _).length_eq, fieldTrees_map, List.length_map]
          omega
        simp [Writable, more]
      · rename_i short
        have few : (fieldTrees fs).length ≤ MAX_CANONICAL_OBJECT_FIELDS := by
          rw [fieldTrees_map, List.length_map]
          omega
        simp only [bind_ok, mapM_determined fun _ _ => field_ok fun _ => ih]
        have named : fs.map (fun f => (f.1, (valueTree f.2).print)) =
            (fieldTrees fs).map fun f => (f.1, f.2.print) := by simp [fieldTrees_map]
        have inside : (∀ f ∈ fs, f.1 ≠ [] ∧ utf8Length f.1 ≤ MAX_CANONICAL_STRING_BYTES ∧
            Written levels (valueTree f.2)) ↔
            ∀ f ∈ fieldTrees fs, f.1 ≠ [] ∧ utf8Length f.1 ≤ MAX_CANONICAL_STRING_BYTES ∧
              Written levels f.2 := by rw [fieldTrees_map, List.forall_mem_map]
        rw [inside, named]
        exact object_ok few

theorem canonicalValueBytes_ok {value : CanonicalValue} {text : Text} :
    canonicalValueBytes C value = .ok text ↔ Sized (valueTree value) ∧
      text = (valueTree value).print := by
  simp only [canonicalValueBytes, bind_ok, canonicalValueInto_ok, Sized]
  constructor
  · rintro ⟨_, ⟨written, rfl⟩, made⟩
    split at made
    · contradiction
    · cases made
      exact ⟨⟨written, by omega⟩, rfl⟩
  · rintro ⟨⟨written, short⟩, rfl⟩
    refine ⟨_, ⟨written, rfl⟩, ?_⟩
    rw [if_neg (by omega)]

end Encoding

def targetsTree (targets : List Json) : Json := .obj [("targets".toList, .arr targets)]

def sortByText (ts : List Json) : List Json := ts.insertionSort fun t u => t.print ≤ u.print

/-- The trees of a target snapshot, in the order of their texts. -/
structure SizedTargets (ts : List Json) : Prop where
  nonempty : ts ≠ []
  sized : ∀ t ∈ ts, Sized t
  increasing : (ts.map Json.print).Pairwise (· < ·)
  short : utf8Length (targetsTree ts).print ≤ MAX_CANONICAL_VALUE_BYTES

theorem sortByText_map (ts : List Json) :
    (ts.map Json.print).insertionSort (· ≤ ·) = (sortByText ts).map Json.print :=
  (List.map_insertionSort _ _ Json.print ts fun _ _ _ _ => Iff.rfl).symm

theorem sortByText_perm (ts : List Json) : (sortByText ts).Perm ts := List.perm_insertionSort _ ts

theorem sortByText_sorted {ts : List Json} (increasing : (ts.map Json.print).Pairwise (· < ·)) :
    sortByText ts = ts := by
  have weak : ts.Pairwise fun t u => t.print ≤ u.print :=
    (List.pairwise_map.mp increasing).imp fun less => le_of_lt less
  exact weak.insertionSort_eq

theorem targets_print (ts : List Json) :
    "\x7b\"targets\":[".toList ++ commaSeparated (ts.map Json.print) ++ "]\x7d".toList =
      (targetsTree ts).print := by
  unfold targetsTree
  simp (disch := decide) only [Json.printItems_commas, String.reduceToList, Json.print,
    Json.printFields_commas, Json.printField, List.map_cons, List.map_nil, commaSeparated_cons,
    List.flatMap_nil, Json.quote_plain, List.append_assoc, List.cons_append, List.nil_append,
    List.append_nil]

/-- The targets are encoded one by one, sorted and refused when two are the same. -/
theorem canonicalTargetsBytes_ok {C : Crates} {input : TargetSnapshotInput} {text : Text} :
    canonicalTargetsBytes C input = .ok text ↔
      SizedTargets (sortByText (input.targets.map valueTree)) ∧
        text = (targetsTree (sortByText (input.targets.map valueTree))).print := by
  obtain ⟨ts, sorted⟩ : ∃ ts, sortByText (input.targets.map valueTree) = ts := ⟨_, rfl⟩
  have perm : ts.Perm (input.targets.map valueTree) := sorted ▸ sortByText_perm _
  have empty : input.targets = [] ↔ ts = [] := by
    rw [← List.map_eq_nil_iff (f := valueTree), ← List.length_eq_zero_iff, ← perm.length_eq,
      List.length_eq_zero_iff]
  have sized : (∀ v ∈ input.targets, Sized (valueTree v)) ↔ ∀ t ∈ ts, Sized t := by
    simp only [perm.mem_iff, List.forall_mem_map]
  have encoded : (input.targets.map fun v => (valueTree v).print).insertionSort (· ≤ ·) =
      ts.map Json.print := by
    rw [← sorted, ← sortByText_map, List.map_map]
    rfl
  have weak : (ts.map Json.print).Pairwise (· ≤ ·) :=
    encoded ▸ List.pairwise_insertionSort _ _
  have apart := hasEqualNeighbours_sorted weak
  rw [sorted, canonicalTargetsBytes]
  split
  · rename_i none
    simp only [reduceCtorEq, false_iff]
    rintro ⟨made, -⟩
    exact made.nonempty (empty.mp none)
  · rename_i some
    simp only [bind_ok, mapM_determined fun _ _ => canonicalValueBytes_ok, sized]
    constructor
    · rintro ⟨_, ⟨inside, rfl⟩, made⟩
      simp only [encoded, targets_print] at made
      split at made
      · cases made
      split at made
      · cases made
      rename_i distinct short
      exact ⟨⟨fun none => some (empty.mpr none), inside, apart.mp (by simpa using distinct),
        Nat.not_lt.mp short⟩, (Except.ok.inj made).symm⟩
    · rintro ⟨made, rfl⟩
      refine ⟨_, ⟨made.sized, rfl⟩, ?_⟩
      simp only [encoded, targets_print]
      rw [apart.mpr made.increasing, if_neg Bool.false_ne_true, if_neg (Nat.not_lt.mpr made.short)]

def descriptorTree : IndirectionDescriptor → Json
  | .aliased name => .obj [("alias".toList, .str name), ("kind".toList, .str "alias".toList)]
  | .plugin pluginId version =>
    .obj [("kind".toList, .str "plugin".toList), ("plugin_id".toList, .str pluginId),
      ("version".toList, .str version)]
  | .shell shellId shellVersion command =>
    .obj [("command".toList, .str command), ("kind".toList, .str "shell".toList),
      ("shell_id".toList, .str shellId), ("shell_version".toList, .str shellVersion)]
  | .child childIdentity version =>
    .obj [("child_identity".toList, .str childIdentity), ("kind".toList, .str "child".toList),
      ("version".toList, .str version)]

def stepTree (step : CanonicalResolutionStep) : Json :=
  .obj [("descriptor".toList, descriptorTree step.descriptor),
    ("resolution_material_digest".toList, .str step.resolutionMaterialDigest.val),
    ("resolver_id".toList, .str step.resolverId),
    ("resolver_version".toList, .str step.resolverVersion),
    ("target_node_id".toList, .str step.targetNodeId)]

def evidenceTree : CanonicalOwnerEvidence → Json
  | .localInteractive authenticatedClientId authenticatedIngress channelAssurance
      requestCorrelationId sourceMessageId =>
    .obj [("authenticated_client_id".toList, .str authenticatedClientId),
      ("authenticated_ingress".toList, .str authenticatedIngress),
      ("channel_assurance".toList, .str channelAssurance),
      ("kind".toList, .str "local_interactive".toList),
      ("request_correlation_id".toList, .str requestCorrelationId),
      ("source_message_id".toList, Json.optional sourceMessageId)]
  | .remoteAuthenticated adapterId providerAccountId authenticatedIngress channelAssurance
      sourceMessageId requestCorrelationId =>
    .obj [("adapter_id".toList, .str adapterId),
      ("authenticated_ingress".toList, .str authenticatedIngress),
      ("channel_assurance".toList, .str channelAssurance),
      ("kind".toList, .str "remote_authenticated".toList),
      ("provider_account_id".toList, .str providerAccountId),
      ("request_correlation_id".toList, .str requestCorrelationId),
      ("source_message_id".toList, .str sourceMessageId)]

def optionalIntegerTree : Option I64 → Json
  | some value => .num value.toText
  | none => .null

def optionalDigestTree (value : Option Sha256Digest) : Json := Json.optional (value.map (·.val))

def authorityTree (scope : Json) (value : CanonicalOwnerAuthority) : Json :=
  .obj [("authority_kind".toList, .str value.authorityKind),
    ("authority_provenance_id".toList, .str value.authorityProvenanceId),
    ("bound_challenge_nonce_digest".toList, optionalDigestTree value.boundChallengeNonceDigest),
    ("bound_decision_id".toList, Json.optional value.boundDecisionId),
    ("bound_decision_revision".toList, optionalIntegerTree value.boundDecisionRevision),
    ("bound_manifest_digest".toList, optionalDigestTree value.boundManifestDigest),
    ("created_at".toList, .num value.createdAt.toText),
    ("evidence_digest".toList, .str value.evidenceDigest.val),
    ("expires_at".toList, optionalIntegerTree value.expiresAt),
    ("instruction_digest".toList, .str value.instructionDigest.val),
    ("instruction_revision".toList, .str value.instructionRevision),
    ("normalized_intent_digest".toList, .str value.normalizedIntentDigest.val),
    ("normalized_scope".toList, scope),
    ("owner_envelope_digest".toList, .str value.ownerEnvelopeDigest.val),
    ("owner_envelope_revision".toList, .str value.ownerEnvelopeRevision),
    ("owner_evidence".toList, evidenceTree value.ownerEvidence),
    ("policy_revision".toList, .num value.policyRevision.toText)]

def leafTree (operands targets scope : Json) (leaf : CanonicalLeafAction) : Json :=
  .obj [("action_kind".toList, .str leaf.actionKind),
    ("logical_action_id".toList, .str leaf.logicalActionId),
    ("material_digest".toList, optionalDigestTree leaf.materialDigest),
    ("node_id".toList, .str leaf.nodeId),
    ("operands".toList, operands),
    ("owner_authority".toList, authorityTree scope leaf.ownerAuthority),
    ("resolution_path".toList, .arr (leaf.resolutionPath.map stepTree)),
    ("schema".toList, .str "carsinos.execass.leaf_action.v2".toList),
    ("target_snapshot".toList, targets),
    ("tool".toList, .obj [("tool_id".toList, .str leaf.tool.toolId),
      ("version".toList, .str leaf.tool.version)])]

def manifestTree (leaves : List Json) : Json :=
  .obj [("leaves".toList, .arr leaves),
    ("schema".toList, .str "carsinos.execass.leaf_action_manifest.v2".toList)]

/-! The trees have well-spelled numbers. -/

theorem optional_spelled (value : Option Text) : (Json.optional value).Everywhere Spelled := by
  cases value <;> trivial

theorem optionalInteger_spelled (value : Option I64) :
    (optionalIntegerTree value).Everywhere Spelled := by
  cases value with
  | none => trivial
  | some value => exact toText_number value

theorem targets_spelled {ts : List Json} (spelled : ∀ t ∈ ts, t.Everywhere Spelled) :
    (targetsTree ts).Everywhere Spelled := by
  simpa [targetsTree, Json.Everywhere, Json.EveryField, Json.everyItem, Spelled] using spelled

theorem step_spelled (step : CanonicalResolutionStep) : (stepTree step).Everywhere Spelled := by
  unfold stepTree descriptorTree
  cases step.descriptor <;> simp [Json.Everywhere, Json.EveryField, Spelled]

theorem authority_spelled {scope : Json} (spelled : scope.Everywhere Spelled)
    (authority : CanonicalOwnerAuthority) :
    (authorityTree scope authority).Everywhere Spelled := by
  unfold authorityTree evidenceTree
  cases authority.ownerEvidence <;>
    simp [Json.Everywhere, Json.EveryField, Spelled, spelled, optionalDigestTree, optional_spelled,
      optionalInteger_spelled, toText_number]

theorem leaf_spelled {operands targets scope : Json} (first : operands.Everywhere Spelled)
    (second : targets.Everywhere Spelled) (third : scope.Everywhere Spelled)
    (leaf : CanonicalLeafAction) : (leafTree operands targets scope leaf).Everywhere Spelled := by
  simp [leafTree, Json.Everywhere, Json.EveryField, Json.everyItem, Spelled, first, second,
    authority_spelled third, optionalDigestTree, optional_spelled, step_spelled]

theorem manifest_spelled {leaves : List Json} (spelled : ∀ t ∈ leaves, t.Everywhere Spelled) :
    (manifestTree leaves).Everywhere Spelled := by
  simpa [manifestTree, Json.Everywhere, Json.EveryField, Json.everyItem, Spelled] using spelled

section Encoding
variable {C : Crates}

theorem descriptor_print (descriptor : IndirectionDescriptor) :
    canonicalDescriptorBytes C descriptor = (descriptorTree descriptor).print := by
  unfold canonicalDescriptorBytes descriptorTree
  cases descriptor <;>
    simp (disch := decide) only [String.reduceToList, Json.print, Json.printFields_commas,
      Json.printField, List.map_cons, List.map_nil, commaSeparated_cons, List.flatMap_cons,
      List.flatMap_nil, pushJsonString_quote, Json.quote_plain, List.append_assoc,
      List.cons_append, List.nil_append, List.append_nil]

theorem optionalString_print (value : Option Text) :
    optionalString C value = (Json.optional value).print := by
  cases value with
  | none => rfl
  | some value => exact pushJsonString_quote value

theorem optionalDigest_print (value : Option Sha256Digest) :
    optionalDigest C value = (optionalDigestTree value).print :=
  optionalString_print _

theorem optionalInteger_print (value : Option I64) :
    optionalInteger value = (optionalIntegerTree value).print := by
  cases value <;> rfl

theorem step_print (step : CanonicalResolutionStep) :
    canonicalResolutionStepBytes C step = (stepTree step).print := by
  unfold canonicalResolutionStepBytes stepTree
  simp (disch := decide) only [descriptor_print, String.reduceToList, Json.print, Json.printFields_commas,
    Json.printField, List.map_cons, List.map_nil, commaSeparated_cons, List.flatMap_cons,
    List.flatMap_nil, pushJsonString_quote, Json.quote_plain, List.append_assoc, List.cons_append,
    List.nil_append, List.append_nil]

set_option maxRecDepth 4000 in
theorem evidence_print (evidence : CanonicalOwnerEvidence) :
    "\x7b".toList ++ canonicalEvidenceBytes C evidence ++ "\x7d".toList =
      (evidenceTree evidence).print := by
  unfold canonicalEvidenceBytes evidenceTree
  cases evidence <;>
    simp (disch := decide) only [optionalString_print, String.reduceToList, Json.print, Json.printFields_commas,
    Json.printField, List.map_cons, List.map_nil, commaSeparated_cons, List.flatMap_cons,
    List.flatMap_nil, pushJsonString_quote, Json.quote_plain, List.append_assoc, List.cons_append,
    List.nil_append, List.append_nil]

set_option maxRecDepth 4000 in
theorem authority_print (authority : CanonicalOwnerAuthority) {scope : Json}
    (known : authority.normalizedScope.bytes = scope.print) :
    canonicalAuthorityBytes C authority = (authorityTree scope authority).print := by
  have evidence := @evidence_print C authority.ownerEvidence
  simp only [String.reduceToList, List.cons_append, List.nil_append] at evidence
  unfold canonicalAuthorityBytes authorityTree
  simp (disch := decide) only [known, ← evidence, optionalString_print, optionalDigest_print,
    optionalInteger_print, String.reduceToList, Json.print, Json.printFields_commas,
    Json.printField, List.map_cons, List.map_nil, commaSeparated_cons, List.flatMap_cons,
    List.flatMap_nil, pushJsonString_quote, Json.quote_plain, List.append_assoc, List.cons_append,
    List.nil_append, List.append_nil]

theorem path_print (path : List CanonicalResolutionStep) :
    commaSeparated (path.map (canonicalResolutionStepBytes C)) =
      Json.printItems (path.map stepTree) := by
  rw [Json.printItems_commas, List.map_map]
  exact congrArg commaSeparated (List.map_congr_left fun step _ => step_print step)

set_option maxRecDepth 4000 in
theorem leaf_print (leaf : CanonicalLeafAction) {operands targets scope : Json}
    (operandsKnown : leaf.operands.bytes = operands.print)
    (targetsKnown : leaf.targetSnapshot.bytes = targets.print)
    (scopeKnown : leaf.ownerAuthority.normalizedScope.bytes = scope.print) :
    canonicalLeafBytes C leaf.inputs = (leafTree operands targets scope leaf).print := by
  have authority := @authority_print C leaf.ownerAuthority scope scopeKnown
  unfold canonicalLeafBytes leafTree CanonicalLeafAction.inputs
  simp (disch := decide) only [operandsKnown, targetsKnown, authority, path_print,
    optionalDigest_print, String.reduceToList, Json.print, Json.printFields_commas,
    Json.printField, List.map_cons, List.map_nil, commaSeparated_cons, List.flatMap_cons,
    List.flatMap_nil, pushJsonString_quote, Json.quote_plain, List.append_assoc, List.cons_append,
    List.nil_append, List.append_nil]

theorem manifest_print {leaves : List CanonicalLeafAction} {trees : List Json} {bytes : Text}
    (known : leaves.map (·.canonical.bytes) = trees.map Json.print)
    (made : canonicalManifestBytes leaves = .ok bytes) : bytes = (manifestTree trees).print := by
  unfold canonicalManifestBytes at made
  split at made
  · contradiction
  · cases made
    unfold manifestTree
    simp (disch := decide) only [known, Json.printItems_commas, String.reduceToList, Json.print,
      Json.printFields_commas, Json.printField, List.map_cons, List.map_nil, commaSeparated_cons,
      List.flatMap_cons, List.flatMap_nil, Json.quote_plain, List.append_assoc, List.cons_append,
      List.nil_append, List.append_nil]

end Encoding
end CarsinOS.Manifest
