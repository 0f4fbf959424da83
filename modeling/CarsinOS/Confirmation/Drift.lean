import CarsinOS.Confirmation.Reconcile

/-! What two bindings of one grant have in common, and what the reason names when they differ. -/
namespace CarsinOS.Confirmation
open CarsinOS.Lib CarsinOS.Actor CarsinOS.Manifest CarsinOS.Danger CarsinOS.Integrity
open CarsinOS.Routine (confirmationForLeaf)

/-! The texts of a binding as trees. -/

/-- A tree `serde_json` reads as it printed it. -/
def Whole : Json → Prop
  | .num w => ∃ i : I64, w = i.toText
  | .obj fields => Entries.Sorted fields
  | _ => True

theorem whole_of_writable {t : Json} (writable : t.Everywhere Writable) : t.Everywhere Whole := by
  induction t using Json.children_induction with
  | step t ih =>
    obtain ⟨here, inside⟩ := Json.everywhere.mp writable
    refine Json.everywhere.mpr ⟨?_, fun u member => ih u member (inside u member)⟩
    cases t with
    | num w => exact here
    | obj fields => exact here.2.2
    | _ => trivial

/-- What `serde_json` is known to do with a text that was printed: a tree of texts and 64-bit
integers is read as it was, and the texts of an object as they were. -/
structure ReadsBack (S : SerdeJson) : Prop where
  whole : ∀ t : Json, t.Everywhere Whole → t.depth ≤ 127 → S.value t.print = some t
  member : ∀ fields read, (Json.obj fields).Everywhere Spelled → Entries.Sorted fields →
    S.value (Json.obj fields).print = some read → ∀ key text, (key, Json.str text) ∈ fields →
      field key read = some (.str text)

def payloadTree (operands : Json) (material : Option Sha256Digest) (targets : Option Json) : Json :=
  .obj ([("material_digest".toList, optionalDigestTree material), ("operands".toList, operands)] ++
    targets.toList.map fun targets => ("target_snapshot".toList, targets))

def envelopeTree (actionKind payloadDigest : Text) : Json :=
  .obj [("action_kind".toList, .str actionKind), ("mode".toList, .str "exact".toList),
    ("payload_and_material_operands_digest".toList, .str payloadDigest)]

theorem payload_exact {leaf : CanonicalLeafAction} {operands targets : Json}
    (operandsKnown : leaf.operands.bytes = operands.print)
    (targetsKnown : leaf.targetSnapshot.bytes = targets.print) :
    payloadJson leaf none = (payloadTree operands leaf.materialDigest (some targets)).print := by
  unfold payloadJson payloadTree
  cases leaf.materialDigest <;>
    simp (disch := decide) only [operandsKnown, targetsKnown, quoted, optionalDigestTree,
      Json.optional, Option.map_none, Option.map_some, Option.toList_some, String.reduceToList,
      Json.print, Json.printFields_commas, Json.printField, List.map_cons, List.map_nil,
      commaSeparated_cons, List.flatMap_cons, List.flatMap_nil, Json.quote_plain,
      List.append_assoc, List.cons_append, List.nil_append, List.append_nil]

theorem payload_saved {leaf : CanonicalLeafAction} {operands : Json}
    {saved : SavedRoutineBindingParts} (operandsKnown : leaf.operands.bytes = operands.print) :
    payloadJson leaf (some saved) = (payloadTree operands leaf.materialDigest none).print := by
  unfold payloadJson payloadTree
  cases leaf.materialDigest <;>
    simp (disch := decide) only [operandsKnown, quoted, optionalDigestTree,
      Json.optional, Option.map_none, Option.map_some, Option.toList_none, String.reduceToList,
      Json.print, Json.printFields_commas, Json.printField, List.map_cons, List.map_nil,
      commaSeparated_cons, List.flatMap_cons, List.flatMap_nil, Json.quote_plain,
      List.append_assoc, List.cons_append, List.nil_append, List.append_nil]

theorem envelope_exact {leaf : CanonicalLeafAction} {payloadDigest : Text} :
    envelopeJson leaf payloadDigest none = (envelopeTree leaf.actionKind payloadDigest).print := by
  unfold envelopeJson envelopeTree quoted
  simp (disch := decide) only [String.reduceToList, Json.print, Json.printFields_commas,
    Json.printField, List.map_cons, List.map_nil, commaSeparated_cons, List.flatMap_cons,
    List.flatMap_nil, Json.quote_plain, List.append_assoc, List.cons_append, List.nil_append,
    List.append_nil]

theorem whole_spelled {t : Json} (whole : t.Everywhere Whole) : t.Everywhere Spelled := by
  induction t using Json.children_induction with
  | step t ih =>
    obtain ⟨here, inside⟩ := Json.everywhere.mp whole
    refine Json.everywhere.mpr ⟨?_, fun u member => ih u member (inside u member)⟩
    cases t with
    | num w =>
      obtain ⟨i, rfl⟩ := here
      exact toText_number i
    | _ => trivial

section Bindings
variable {C : Crates} {S : SerdeJson}

/-- The trees of a leaf's operands and targets. -/
structure Payload (C : Crates) (leaf : CanonicalLeafAction) (operands targets : Json) : Prop where
  operandsFrozen : leaf.operands = freeze C operands.print
  targetsFrozen : leaf.targetSnapshot = freeze C targets.print
  operandsWhole : operands.Everywhere Whole ∧ operands.depth ≤ 33
  targetsWhole : targets.Everywhere Whole ∧ targets.depth ≤ 35

theorem payload_of_normal {leaf : CanonicalLeafAction} (normal : NormalLeaf C leaf) :
    ∃ operands targets, Payload C leaf operands targets := by
  obtain ⟨operands, sized, operandsKnown⟩ := normal.operands
  obtain ⟨targets, sizedTargets, targetsKnown⟩ := normal.targets
  refine ⟨operands, targetsTree targets, operandsKnown, targetsKnown,
    ⟨whole_of_writable sized.1.2, sized.1.1⟩, ?_, ?_⟩
  · have items : ∀ t ∈ targets, t.Everywhere Whole := fun t member =>
      whole_of_writable (sizedTargets.sized t member).1.2
    simpa [targetsTree, Json.Everywhere, Json.EveryField, Json.everyItem, Whole, Entries.Sorted,
      Entries.keys] using items
  · exact targetsTree_depth fun t member => (sizedTargets.sized t member).1.1

variable {leaf next : CanonicalLeafAction} {operands targets : Json}

theorem Payload.tree (payload : Payload C leaf operands targets) (material : Option Sha256Digest)
    (shown : Option Json) (part : ∀ t ∈ shown, t = targets) :
    (payloadTree operands material shown).Everywhere Whole ∧
      (payloadTree operands material shown).depth ≤ 127 := by
  have digest : (optionalDigestTree material).Everywhere Whole ∧
      (optionalDigestTree material).depth ≤ 35 := by
    cases material <;> exact ⟨trivial, by simp [optionalDigestTree, Json.optional, Json.depth]⟩
  have below : ∀ u ∈ (payloadTree operands material shown).children, u.Everywhere Whole ∧
      u.depth ≤ 35 := by
    cases shown with
    | none =>
      simp only [payloadTree, Json.children, Option.toList_none, List.map_nil, List.append_nil,
        List.map_cons, List.forall_mem_cons]
      exact ⟨digest, ⟨payload.operandsWhole.1, payload.operandsWhole.2.trans (by decide)⟩,
        by simp⟩
    | some t =>
      cases part t rfl
      simp only [payloadTree, Json.children, Option.toList_some, List.map_cons, List.map_nil,
        List.cons_append, List.nil_append, List.forall_mem_cons]
      exact ⟨digest, ⟨payload.operandsWhole.1, payload.operandsWhole.2.trans (by decide)⟩,
        payload.targetsWhole, by simp⟩
  constructor
  · refine Json.everywhere.mpr ⟨?_, fun u member => (below u member).1⟩
    cases shown <;> simp only [payloadTree, Whole, Entries.Sorted, Entries.keys, Option.toList_none,
      Option.toList_some, List.map_nil, List.map_cons, List.append_nil, List.cons_append,
      List.nil_append] <;> decide
  · exact (Json.depth_le.mpr fun u member => (below u member).2).trans (by decide)

/-- The targets a payload shows. -/
def shownTargets (saved : Option SavedRoutineBindingParts) (targets : Json) : Option Json :=
  match saved with
  | some _ => none
  | none => some targets

theorem Payload.text (payload : Payload C leaf operands targets)
    (saved : Option SavedRoutineBindingParts) : payloadJson leaf saved =
      (payloadTree operands leaf.materialDigest (shownTargets saved targets)).print := by
  have operandsKnown : leaf.operands.bytes = operands.print := by
    rw [payload.operandsFrozen, freeze]
  cases saved with
  | none => exact payload_exact operandsKnown (by rw [payload.targetsFrozen, freeze])
  | some parts => exact payload_saved operandsKnown

theorem Payload.read (reads : ReadsBack S) (payload : Payload C leaf operands targets)
    (saved : Option SavedRoutineBindingParts) : S.value (payloadJson leaf saved) =
      some (payloadTree operands leaf.materialDigest (shownTargets saved targets)) := by
  obtain ⟨whole, shallow⟩ := payload.tree leaf.materialDigest (shownTargets saved targets) (by
    cases saved <;> simp [shownTargets])
  rw [payload.text]
  exact reads.whole _ whole shallow

theorem envelope_read (reads : ReadsBack S) {payloadDigest : Text} :
    S.value (envelopeJson leaf payloadDigest none) =
      some (envelopeTree leaf.actionKind payloadDigest) := by
  rw [envelope_exact]
  apply reads.whole
  · simp only [envelopeTree, Json.Everywhere, Json.EveryField, Whole, Entries.Sorted, Entries.keys,
      List.map_cons, List.map_nil, and_true]
    decide
  · simp [envelopeTree, Json.depth, Json.depthFields]

theorem binding_ok {intent consequence : Text} {manifest : CanonicalLeafManifest}
    {saved : Option SavedRoutineBindingParts} {binding : ExactConfirmationBinding}
    (bound : exactBindingWithSavedParts C intent manifest leaf consequence saved = .ok binding) :
    ∃ manifestDigest, binding = {
      normalizedIntent := intent
      exactPresentedActionJson := leaf.canonical.bytes
      confirmedLogicalActionIdentity := framedDigest C [
        utf8Bytes intent, utf8Bytes leaf.actionKind, utf8Bytes leaf.tool.toolId,
        utf8Bytes leaf.tool.version,
        utf8Bytes (plainDigestHex C (utf8Bytes (payloadJson leaf saved))),
        utf8Bytes (envelopeJson leaf (plainDigestHex C (utf8Bytes (payloadJson leaf saved))) saved),
        utf8Bytes consequence]
      manifestDigest
      payloadDigest := plainDigestHex C (utf8Bytes (payloadJson leaf saved))
      payloadAndMaterialOperandsJson := payloadJson leaf saved
      targetAudiencePathJson := leaf.targetSnapshot.bytes
      connectorToolIdentity := leaf.tool.toolId
      connectorToolVersion := leaf.tool.version
      canonicalActionEnvelopeOrSelectorJson :=
        envelopeJson leaf (plainDigestHex C (utf8Bytes (payloadJson leaf saved))) saved
      declaredConsequence := consequence } := by
  simp only [exactBindingWithSavedParts, bind_ok] at bound
  obtain ⟨-, -, -, -, manifestDigest, -, same⟩ := bound
  exact ⟨manifestDigest, (Except.ok.inj same).symm⟩

/-! What two bindings of one grant have in common. -/

/-- Two leaves that ask for the same, but for their targets. -/
structure SameAction (leaf next : CanonicalLeafAction) (consequence nextConsequence : Text) :
    Prop where
  kind : leaf.actionKind = next.actionKind
  tool : leaf.tool = next.tool
  operands : leaf.operands = next.operands
  material : leaf.materialDigest = next.materialDigest
  consequence : consequence = nextConsequence

variable {nextOperands nextTargets : Json} {saved nextSaved : Option SavedRoutineBindingParts}

theorem payload_same (payload : Payload C leaf operands targets)
    (nextPayload : Payload C next nextOperands nextTargets)
    (texts : payloadJson leaf saved = payloadJson next nextSaved) :
    leaf.operands = next.operands ∧ leaf.materialDigest = next.materialDigest ∧
      (saved = none → leaf.targetSnapshot = next.targetSnapshot) := by
  have spelled := whole_spelled (payload.tree leaf.materialDigest (shownTargets saved targets)
    (by cases saved <;> simp [shownTargets])).1
  have alsoSpelled := whole_spelled (nextPayload.tree next.materialDigest
    (shownTargets nextSaved nextTargets) (by cases nextSaved <;> simp [shownTargets])).1
  rw [payload.text, nextPayload.text] at texts
  have trees := Json.print_injective spelled alsoSpelled texts
  simp only [payloadTree, Json.obj.injEq, List.cons_append, List.nil_append, List.cons.injEq,
    Prod.mk.injEq, true_and] at trees
  obtain ⟨material, same, shown⟩ := trees
  refine ⟨?_, optionalDigestTree_injective material, ?_⟩
  · rw [payload.operandsFrozen, nextPayload.operandsFrozen, same]
  · rintro rfl
    cases nextSaved with
    | some parts => simp [shownTargets] at shown
    | none =>
      simp only [shownTargets, Option.toList_some, List.map_cons, List.map_nil, List.cons.injEq,
        Prod.mk.injEq, true_and, and_true] at shown
      rw [payload.targetsFrozen, nextPayload.targetsFrozen, shown]

theorem envelope_kind {payloadDigest nextDigest : Text}
    (texts : envelopeJson leaf payloadDigest saved = envelopeJson next nextDigest nextSaved) :
    leaf.actionKind = next.actionKind := by
  cases saved <;> cases nextSaved <;> unfold envelopeJson quoted at texts <;>
    simp only [List.append_assoc] at texts <;>
    exact (Json.quote_append (List.append_cancel_left texts)).1

variable {intent nextIntent consequence nextConsequence : Text}
  {manifest nextManifest : CanonicalLeafManifest} {binding nextBinding : ExactConfirmationBinding}
  {grant : AcceptedConfirmationGrantRecord}

/-- A grant that matches two bindings was accepted for one action. -/
theorem matches_same (normal : NormalLeaf C leaf) (nextNormal : NormalLeaf C next)
    (bound : exactBindingWithSavedParts C intent manifest leaf consequence saved = .ok binding)
    (nextBound : exactBindingWithSavedParts C nextIntent nextManifest next nextConsequence
      nextSaved = .ok nextBinding)
    (matched : grantMatchesBinding grant binding = true)
    (nextMatched : grantMatchesBinding grant nextBinding = true) :
    SameAction leaf next consequence nextConsequence ∧
      (saved = none → leaf.targetSnapshot = next.targetSnapshot) := by
  obtain ⟨_, _, payload⟩ := payload_of_normal normal
  obtain ⟨_, _, nextPayload⟩ := payload_of_normal nextNormal
  obtain ⟨_, rfl⟩ := binding_ok bound
  obtain ⟨_, rfl⟩ := binding_ok nextBound
  simp only [grantMatchesBinding, Bool.and_eq_true, decide_eq_true_eq] at matched nextMatched
  obtain ⟨⟨⟨⟨⟨⟨-, envelope⟩, payloads⟩, -⟩, toolId⟩, version⟩, declared⟩ := matched
  obtain ⟨⟨⟨⟨⟨⟨-, nextEnvelope⟩, nextPayloads⟩, -⟩, nextToolId⟩, nextVersion⟩, nextDeclared⟩ :=
    nextMatched
  obtain ⟨operandsSame, material, targetsSame⟩ :=
    payload_same payload nextPayload (payloads.symm.trans nextPayloads)
  have tools : leaf.tool = next.tool := by
    rw [toolId, Option.some.injEq] at nextToolId
    rw [version, Option.some.injEq] at nextVersion
    cases first : leaf.tool
    cases second : next.tool
    rw [first, second] at nextToolId nextVersion
    rw [CanonicalToolIdentity.mk.injEq]
    exact ⟨nextToolId, nextVersion⟩
  exact ⟨⟨envelope_kind (envelope.symm.trans nextEnvelope), tools, operandsSame, material,
    declared.symm.trans nextDeclared⟩, targetsSame⟩

/-- The bindings of one action agree where a grant is compared with them. -/
theorem matches_congr (same : SameAction leaf next consequence nextConsequence)
    (targetsSame : saved = none → leaf.targetSnapshot = next.targetSnapshot)
    (bound : exactBindingWithSavedParts C intent manifest leaf consequence saved = .ok binding)
    (nextBound : exactBindingWithSavedParts C intent nextManifest next nextConsequence saved =
      .ok nextBinding) :
    grantMatchesBinding grant binding = grantMatchesBinding grant nextBinding := by
  have payloads : payloadJson leaf saved = payloadJson next saved := by
    unfold payloadJson
    rw [same.operands, same.material]
    cases saved with
    | none => rw [targetsSame rfl]
    | some parts => rfl
  have envelopes (digest : Text) :
      envelopeJson leaf digest saved = envelopeJson next digest saved := by
    unfold envelopeJson
    rw [same.kind]
  obtain ⟨_, rfl⟩ := binding_ok bound
  obtain ⟨_, rfl⟩ := binding_ok nextBound
  simp only [grantMatchesBinding, payloads, envelopes, same.kind, same.tool, same.consequence]

/-! The reason an exact grant is invalidated for. -/

/-- The first thing in which the next action differs from the one that was confirmed. -/
def firstChange (leaf next : CanonicalLeafAction) (consequence nextConsequence : Text) :
    Option AcceptedConfirmationGrantInvalidation :=
  if leaf.targetSnapshot ≠ next.targetSnapshot then some .materialTargetDrift
  else if leaf.actionKind ≠ next.actionKind then some .materialScopeDrift
  else if leaf.operands ≠ next.operands ∨ leaf.materialDigest ≠ next.materialDigest then
    some .materialPayloadDrift
  else if leaf.tool ≠ next.tool then some .materialToolDrift
  else if consequence ≠ nextConsequence then some .materialConsequenceDrift
  else none

theorem firstChange_none : firstChange leaf next consequence nextConsequence = none ↔
    SameAction leaf next consequence nextConsequence ∧
      leaf.targetSnapshot = next.targetSnapshot := by
  unfold firstChange
  constructor
  · intro unchanged
    by_cases targets : leaf.targetSnapshot = next.targetSnapshot
    · refine ⟨⟨?_, ?_, ?_, ?_, ?_⟩, targets⟩ <;> grind
    · simp [targets] at unchanged
  · rintro ⟨⟨kind, tool, operands, material, declared⟩, targets⟩
    simp [kind, tool, operands, material, declared, targets]

theorem target_field {material : Option Sha256Digest} :
    field "target_snapshot".toList (payloadTree operands material (some targets)) =
      some targets := by
  simp [payloadTree, field, List.find?]

theorem without_target {material : Option Sha256Digest} :
    withoutJsonField (payloadTree operands material (some targets)) "target_snapshot".toList =
      .ok (payloadTree operands material none) := by
  simp only [payloadTree, withoutJsonField, Option.toList_some, List.map_cons, List.map_nil,
    List.cons_append, List.nil_append]
  have material : "material_digest".toList ≠ "target_snapshot".toList := by decide
  have operands : "operands".toList ≠ "target_snapshot".toList := by decide
  rw [List.filter_cons_of_pos, List.filter_cons_of_pos, List.filter_cons_of_neg]
  · rfl
  · simp
  · exact decide_eq_true operands
  · exact decide_eq_true material

theorem scope_exact {actionKind payloadDigest : Text} :
    confirmationActionScope (envelopeTree actionKind payloadDigest) =
      .obj [("action_kind".toList, .str actionKind), ("mode".toList, .str "exact".toList)] := by
  have kind : field "action_kind".toList (envelopeTree actionKind payloadDigest) =
      some (.str actionKind) := by simp [envelopeTree, field, List.find?]
  have mode : field "mode".toList (envelopeTree actionKind payloadDigest) =
      some (.str "exact".toList) := by simp [envelopeTree, field, List.find?]
  have routine : field "routine_id".toList (envelopeTree actionKind payloadDigest) = none := by
    simp [envelopeTree, field, List.find?]
  have selector : field "selector".toList (envelopeTree actionKind payloadDigest) = none := by
    simp [envelopeTree, field, List.find?]
  unfold confirmationActionScope
  rw [List.filterMap_cons, kind, List.filterMap_cons, mode, List.filterMap_cons, routine,
    List.filterMap_cons, selector]
  rfl

theorem frozen_same {first second : Json} (whole : first.Everywhere Whole)
    (alsoWhole : second.Everywhere Whole) :
    freeze C first.print = freeze C second.print ↔ first = second := by
  constructor
  · intro frozen
    exact Json.print_injective (whole_spelled whole) (whole_spelled alsoWhole)
      (congrArg FrozenBytes.bytes frozen)
  · rintro rfl
    rfl

theorem drift_reason (reads : ReadsBack S) (normal : NormalLeaf C leaf)
    (nextNormal : NormalLeaf C next)
    (bound : exactBindingWithSavedParts C intent manifest leaf consequence none = .ok binding)
    (nextBound : exactBindingWithSavedParts C intent nextManifest next nextConsequence none =
      .ok nextBinding)
    (matched : grantMatchesBinding grant binding = true)
    {reason : AcceptedConfirmationGrantInvalidation}
    (changed : firstChange leaf next consequence nextConsequence = some reason) :
    materialDriftReason S grant nextBinding = .ok reason := by
  obtain ⟨_, _, payload⟩ := payload_of_normal normal
  obtain ⟨_, _, nextPayload⟩ := payload_of_normal nextNormal
  obtain ⟨_, rfl⟩ := binding_ok bound
  obtain ⟨_, rfl⟩ := binding_ok nextBound
  simp only [grantMatchesBinding, Bool.and_eq_true, decide_eq_true_eq] at matched
  obtain ⟨⟨⟨⟨⟨⟨-, envelope⟩, payloads⟩, -⟩, toolId⟩, version⟩, declared⟩ := matched
  unfold materialDriftReason
  rw [payloads, envelope, toolId, version, declared]
  dsimp only
  rw [payload.read reads, nextPayload.read reads, envelope_read reads, envelope_read reads]
  simp only [required, ok_bind, shownTargets, target_field, without_target, scope_exact]
  have targetsSame := frozen_same (C := C) payload.targetsWhole.1 nextPayload.targetsWhole.1
  have operandsSame := frozen_same (C := C) payload.operandsWhole.1 nextPayload.operandsWhole.1
  rw [← payload.targetsFrozen, ← nextPayload.targetsFrozen] at targetsSame
  rw [← payload.operandsFrozen, ← nextPayload.operandsFrozen] at operandsSame
  unfold firstChange at changed
  split at changed
  · rename_i targetsOther
    cases changed
    exact if_pos fun same => targetsOther (targetsSame.mpr (Option.some.inj same))
  rename_i sameTargets
  rw [if_neg (not_not.mpr (congrArg some (targetsSame.mp (not_not.mp sameTargets))))]
  split at changed
  · rename_i otherKind
    cases changed
    apply if_pos
    simpa using otherKind
  rename_i sameKind
  rw [if_neg (by rw [not_not.mp sameKind]; exact not_not.mpr rfl)]
  split at changed
  · rename_i otherPayload
    cases changed
    apply if_pos
    intro same
    simp only [payloadTree, Json.obj.injEq, List.cons_append, List.nil_append, List.cons.injEq,
      Prod.mk.injEq, true_and, and_true] at same
    rcases otherPayload with operands | material
    · exact operands (operandsSame.mpr same.2)
    · exact material (optionalDigestTree_injective same.1)
  rename_i samePayload
  obtain ⟨operands, material⟩ := not_or.mp samePayload
  rw [operandsSame.mp (not_not.mp operands), not_not.mp material, if_neg (not_not.mpr rfl)]
  split at changed
  · rename_i otherTool
    cases changed
    apply if_pos
    by_contra agree
    simp only [not_or, not_not, Option.some.injEq] at agree
    apply otherTool
    cases first : leaf.tool
    cases second : next.tool
    rw [first, second] at agree
    rw [CanonicalToolIdentity.mk.injEq]
    exact agree
  rename_i sameTool
  rw [not_not.mp sameTool, if_neg (by simp)]
  split at changed
  · rename_i otherConsequence
    cases changed
    exact if_pos otherConsequence
  · cases changed

end Bindings
end CarsinOS.Confirmation
