import CarsinOS.Lib.Unfolding
import CarsinOS.Manifest.Compile

/-! The plain expansion of a dispatch tree, without bounds and without a visitor, and what the
compiler has to do with it. -/
namespace CarsinOS.Manifest
open CarsinOS.Lib CarsinOS.Actor

/-- The leaf that is reached over a resolution path. -/
def CanonicalLeafAction.withPath (C : Crates) (path : List CanonicalResolutionStep)
    (leaf : CanonicalLeafAction) : CanonicalLeafAction :=
  { leaf with
    resolutionPath := path
    canonical := freeze C (canonicalLeafBytes C { leaf.inputs with resolutionPath := path }) }

theorem canonicalLeaf_path {C : Crates} {nodeId : Text} {input : ResolvedLeafInput}
    {path : List CanonicalResolutionStep} {leaf : CanonicalLeafAction} :
    canonicalLeaf C nodeId input path = .ok leaf ↔
      ∃ plain, canonicalLeaf C nodeId input [] = .ok plain ∧ leaf = plain.withPath C path := by
  simp only [canonicalLeaf, bind_ok]
  constructor
  · rintro ⟨logicalActionId, h₁, actionKind, h₂, toolId, h₃, version, h₄, operands, h₅,
      targets, h₆, material, h₇, authority, h₈, made⟩
    cases made
    exact ⟨_, ⟨logicalActionId, h₁, actionKind, h₂, toolId, h₃, version, h₄, operands, h₅,
      targets, h₆, material, h₇, authority, h₈, rfl⟩, rfl⟩
  · rintro ⟨plain, ⟨logicalActionId, h₁, actionKind, h₂, toolId, h₃, version, h₄, operands, h₅,
      targets, h₆, material, h₇, authority, h₈, made⟩, rfl⟩
    cases made
    exact ⟨logicalActionId, h₁, actionKind, h₂, toolId, h₃, version, h₄, operands, h₅,
      targets, h₆, material, h₇, authority, h₈, rfl⟩

/-- An identity that was normalized is its own normal form. -/
theorem normalizedIdentifier_again {C : Crates} {value identifier : Text}
    (normal : normalizedIdentifier C value = .ok identifier) :
    normalizedIdentifier C identifier = .ok identifier := by
  unfold normalizedIdentifier at normal ⊢
  simp only at normal ⊢
  split at normal
  · contradiction
  · split at normal
    · contradiction
    · rename_i nonempty short
      cases normal
      have trimmed := C.normalization.trimmed _ (trimmed_trimChars value)
      rw [trimChars_of_trimmed trimmed, C.normalization.idempotent, if_neg nonempty, if_neg short]

/-! What a node identity stands for. -/
section Content
variable (C : Crates) (registry : ServerResolutionRegistry)

/-- The unique registered target of a descriptor. -/
def reference (descriptor : IndirectionDescriptor) :
    Option (Content Text CanonicalLeafAction CanonicalResolutionStep) :=
  match normalizedDescriptor C descriptor with
  | .error _ => none
  | .ok descriptor =>
    match registry.get descriptor with
    | some [target] =>
      (normalizedIdentifier C target.targetNodeId).toOption.map (.link {
        descriptor
        targetNodeId := target.targetNodeId
        resolverId := target.resolverId
        resolverVersion := target.resolverVersion
        resolutionMaterialDigest := target.resolutionMaterialDigest })
    | _ => none

def actionContent (nodeId : Text) :
    DispatchAction → Option (Content Text CanonicalLeafAction CanonicalResolutionStep)
  | .resolvedLeaf leaf => (canonicalLeaf C nodeId leaf []).toOption.map .leaf
  | .composite children => (children.mapM (normalizedIdentifier C)).toOption.map .branch
  | .aliased name => reference C registry (.aliased name)
  | .plugin pluginId version => reference C registry (.plugin pluginId version)
  | .shell shellId shellVersion command =>
    reference C registry (.shell shellId shellVersion command)
  | .child childIdentity version => reference C registry (.child childIdentity version)

end Content

theorem toOption_some {ε α : Type} {x : Except ε α} {a : α} :
    x.toOption = some a ↔ x = .ok a := by
  cases x <;> simp [Except.toOption]

/-- Only a registered, unique target is a reference. -/
theorem reference_some {C : Crates} {registry : ServerResolutionRegistry}
    {descriptor : IndirectionDescriptor}
    {found : Content Text CanonicalLeafAction CanonicalResolutionStep} :
    reference C registry descriptor = some found ↔
      ∃ normal target nodeId, normalizedDescriptor C descriptor = .ok normal ∧
        registry.get normal = some [target] ∧
        normalizedIdentifier C target.targetNodeId = .ok nodeId ∧
        found = .link ⟨normal, target.targetNodeId, target.resolverId, target.resolverVersion,
          target.resolutionMaterialDigest⟩ nodeId := by
  unfold reference
  cases normal : normalizedDescriptor C descriptor with
  | error detail => simp
  | ok descriptor =>
    simp only [Except.ok.injEq, exists_and_left, exists_eq_left']
    split
    · rename_i target registered
      simp only [Option.map_eq_some_iff, toOption_some, registered, Option.some.injEq, List.cons.injEq, and_true]
      constructor
      · rintro ⟨nodeId, known, rfl⟩
        exact ⟨target, rfl, nodeId, known, rfl⟩
      · rintro ⟨_, rfl, nodeId, known, rfl⟩
        exact ⟨nodeId, known, rfl⟩
    · rename_i other
      constructor
      · intro impossible
        contradiction
      · rintro ⟨target, registered, _⟩
        exact absurd registered (other target)

/-- The state after a visit that found these leaves: everything but the counters, the leaves
and their identities is as it was. -/
def Visitor.gather (C : Crates) (v : Visitor) (visits : Nat)
    (leaves : List (List CanonicalResolutionStep × CanonicalLeafAction)) : Visitor :=
  { v with
    visitedNodes := v.visitedNodes + visits
    leaves := v.leaves ++ leaves.map fun l => l.2.withPath C (v.resolutionPath ++ l.1)
    logicalActionIds := (leaves.map fun l => l.2.logicalActionId).reverse ++ v.logicalActionIds }

namespace Visitor
variable {C : Crates} {v : Visitor}

theorem gather_none : v.gather C 0 [] = v := by
  simp [gather]

theorem gather_gather {n m : Nat}
    {ls ks : List (List CanonicalResolutionStep × CanonicalLeafAction)} :
    (v.gather C n ls).gather C m ks = v.gather C (n + m) (ls ++ ks) := by
  simp [gather, Nat.add_assoc]

@[simp] theorem gather_active {n : Nat}
    {ls : List (List CanonicalResolutionStep × CanonicalLeafAction)} :
    (v.gather C n ls).active = v.active := rfl

/-- Leaves that were found behind a link. -/
theorem gather_push {n : Nat} {step : CanonicalResolutionStep}
    {ls : List (List CanonicalResolutionStep × CanonicalLeafAction)} :
    ((v.push step).gather C n ls).pop = v.gather C n (ls.map fun l => (step :: l.1, l.2)) := by
  simp [gather, push, pop, Function.comp_def]

/-- Leaves that were found below a node. -/
theorem gather_enter {n : Nat} {nodeId : Text}
    {ls : List (List CanonicalResolutionStep × CanonicalLeafAction)} :
    ((v.enter nodeId).gather C n ls).leave nodeId = v.gather C (n + 1) ls := by
  simp [gather, enter, leave, Nat.add_assoc, Nat.add_comm 1]

end Visitor

namespace Compiler
variable (K : Compiler)

/-- What a node identity stands for in the tree that is compiled. -/
def content (nodeId : Text) :
    Option (Content Text CanonicalLeafAction CanonicalResolutionStep) :=
  (K.lookup nodeId).bind (actionContent K.crates K.resolutions nodeId)

/-- The visitor is within its limits and has met no leaf twice. -/
structure Within (v : Visitor) : Prop where
  nodes : v.visitedNodes ≤ K.limits.maxNodes
  leaves : v.leaves.length ≤ K.limits.maxLeaves
  distinct : v.logicalActionIds.Nodup

/-- A gathering that stays within the limits was within them before. -/
theorem within_of_gather {K : Compiler} {v : Visitor} {n : Nat}
    {ls : List (List CanonicalResolutionStep × CanonicalLeafAction)}
    (within : K.Within (v.gather K.crates n ls)) : K.Within v where
  nodes := Nat.le_trans (Nat.le_add_right _ n) within.nodes
  leaves := by
    have total := within.leaves
    simp only [Visitor.gather, List.length_append] at total
    omega
  distinct := (List.nodup_append.mp within.distinct).2.1

variable {K}

theorem visitLeaf_ok {nodeId : Text} {input : ResolvedLeafInput} {v w : Visitor} :
    K.visitLeaf nodeId input v = .ok w ↔
      ∃ a, canonicalLeaf K.crates nodeId input [] = .ok a ∧
        v.leaves.length < K.limits.maxLeaves ∧ a.logicalActionId ∉ v.logicalActionIds ∧
        w = v.gather K.crates 0 [([], a)] := by
  unfold visitLeaf
  split
  · rename_i full
    constructor
    · intro impossible
      contradiction
    · rintro ⟨a, _, room, _⟩
      omega
  · rename_i room
    have lifted (leaf : CanonicalLeafAction) :
        invalidLeaf nodeId (canonicalLeaf K.crates nodeId input v.resolutionPath) = .ok leaf ↔
          ∃ a, canonicalLeaf K.crates nodeId input [] = .ok a ∧
            leaf = a.withPath K.crates v.resolutionPath := by
      rw [← canonicalLeaf_path]
      cases canonicalLeaf K.crates nodeId input v.resolutionPath <;> simp [invalidLeaf]
    simp only [bind_ok, lifted]
    constructor
    · rintro ⟨_, ⟨a, made, rfl⟩, recorded⟩
      split at recorded
      · contradiction
      · rename_i fresh
        cases recorded
        exact ⟨a, made, by omega, fresh, by simp [Visitor.gather, CanonicalLeafAction.withPath]⟩
    · rintro ⟨a, made, _, fresh, rfl⟩
      refine ⟨_, ⟨a, made, rfl⟩, ?_⟩
      rw [if_neg (by exact fresh)]
      simp [Visitor.gather, CanonicalLeafAction.withPath]

section Present
variable {visit : Text → Visitor → Compiled Visitor} {nodeId : Text} {v w : Visitor}

theorem visitIndirection_ok {descriptor : IndirectionDescriptor} {kind : StructureKind}
    (normal : ∀ id v w, visit id v = .ok w → ∃ nodeId, normalizedIdentifier K.crates id = .ok nodeId) :
    K.visitIndirection visit nodeId descriptor kind v = .ok w ↔
      ∃ step target u, reference K.crates K.resolutions descriptor = some (.link step target) ∧
        visit step.targetNodeId (v.push step) = .ok u ∧ w = u.pop := by
  have lifted (d : IndirectionDescriptor) :
      invalidLeaf nodeId (normalizedDescriptor K.crates descriptor) = .ok d ↔
        normalizedDescriptor K.crates descriptor = .ok d := by
    cases normalizedDescriptor K.crates descriptor <;> simp [invalidLeaf]
  simp only [visitIndirection, bind_ok, lifted, reference_some]
  constructor
  · rintro ⟨d, normalized, expanded⟩
    unfold visitExpansion at expanded
    split at expanded
    · contradiction
    · rename_i target registered
      simp only [bind_ok] at expanded
      obtain ⟨u, visited, popped⟩ := expanded
      obtain ⟨targetId, known⟩ := normal _ _ _ visited
      cases popped
      exact ⟨_, targetId, u, ⟨d, target, targetId, normalized, registered, known, rfl⟩,
        visited, rfl⟩
    · contradiction
  · rintro ⟨_, _, u, ⟨d, target, targetId, normalized, registered, _, link⟩, visited, rfl⟩
    cases link
    refine ⟨d, normalized, ?_⟩
    simp only [visitExpansion, registered, bind_ok]
    exact ⟨u, visited, rfl⟩

/-- What a visited node can stand for. -/
theorem visitPresent_ok
    (normal : ∀ id v w, visit id v = .ok w → ∃ nodeId, normalizedIdentifier K.crates id = .ok nodeId) :
    K.visitPresent visit nodeId v = .ok w ↔
      (∃ a, K.content nodeId = some (.leaf a) ∧ v.leaves.length < K.limits.maxLeaves ∧
        a.logicalActionId ∉ v.logicalActionIds ∧ w = v.gather K.crates 0 [([], a)]) ∨
      (∃ children, K.lookup nodeId = some (.composite children) ∧ children ≠ [] ∧
        visitChildren visit children v = .ok w) ∨
      (∃ step target u, K.content nodeId = some (.link step target) ∧
        visit step.targetNodeId (v.push step) = .ok u ∧ w = u.pop) := by
  unfold visitPresent content
  cases found : K.lookup nodeId with
  | none => simp
  | some action =>
    cases action with
    | resolvedLeaf input => simp [visitLeaf_ok, actionContent, toOption_some]
    | composite children =>
      by_cases empty : children = []
      · simp [empty, actionContent]
      · simp [empty, actionContent]
    | aliased name => simp [visitIndirection_ok normal, actionContent, reference_some]
    | plugin pluginId version =>
      simp [visitIndirection_ok normal, actionContent, reference_some]
    | shell shellId shellVersion command =>
      simp [visitIndirection_ok normal, actionContent, reference_some]
    | child childIdentity version =>
      simp [visitIndirection_ok normal, actionContent, reference_some]

end Present

theorem content_branch {nodeId : Text} {is : List Text} :
    K.content nodeId = some (.branch is) ↔
      ∃ children, K.lookup nodeId = some (.composite children) ∧
        children.mapM (normalizedIdentifier K.crates) = .ok is := by
  unfold content
  cases found : K.lookup nodeId with
  | none => simp
  | some action => cases action <;> simp [actionContent, toOption_some, reference_some]

theorem content_link {nodeId target : Text} {step : CanonicalResolutionStep}
    (link : K.content nodeId = some (.link step target)) :
    normalizedIdentifier K.crates step.targetNodeId = .ok target := by
  unfold content at link
  obtain ⟨action, _, stands⟩ := Option.bind_eq_some_iff.mp link
  cases action <;> simp [actionContent, reference_some] at stands <;> grind

theorem visit_ok {levels : Nat} {id : Text} {v w : Visitor} :
    K.visit (levels + 1) id v = .ok w ↔
      v.visitedNodes < K.limits.maxNodes ∧ ∃ nodeId u,
        normalizedIdentifier K.crates id = .ok nodeId ∧ nodeId ∉ v.active ∧
        K.visitPresent (K.visit levels) nodeId (v.enter nodeId) = .ok u ∧ w = u.leave nodeId := by
  unfold visit
  split
  · rename_i full
    simp
    omega
  · rename_i room
    have room : v.visitedNodes < K.limits.maxNodes := by omega
    cases known : normalizedIdentifier K.crates id with
    | error detail => simp
    | ok nodeId =>
      by_cases cycle : nodeId ∈ v.active
      · simp [cycle]
      · simp [cycle, bind_ok, room, @eq_comm Visitor w]

theorem visit_normal {levels : Nat} {id : Text} {v w : Visitor}
    (visited : K.visit levels id v = .ok w) :
    ∃ nodeId, normalizedIdentifier K.crates id = .ok nodeId := by
  cases levels with
  | zero => contradiction
  | succ levels =>
    obtain ⟨_, nodeId, _, known, _⟩ := visit_ok.mp visited
    exact ⟨nodeId, known⟩

/-- A visit found a finite expansion of what it was asked for. -/
def Found (levels : Nat) (id : Text) (v w : Visitor) : Prop :=
  ∃ nodeId e, normalizedIdentifier K.crates id = .ok nodeId ∧ Unfolds K.content nodeId e ∧
    e.depth < levels ∧ w = v.gather K.crates e.visits e.leaves ∧ (K.Within v → K.Within w)

theorem visitChildren_sound {levels : Nat} {children : List Text} {v w : Visitor}
    (each : ∀ id v w, K.visit levels id v = .ok w → Found (K := K) levels id v w)
    (enough : 0 < levels) (visited : visitChildren (K.visit levels) children v = .ok w) :
    ∃ is e, children.mapM (normalizedIdentifier K.crates) = .ok is ∧
      UnfoldsEach K.content is e ∧ e.depth < levels ∧
      w = v.gather K.crates e.visits e.leaves ∧ (K.Within v → K.Within w) := by
  induction children generalizing v with
  | nil =>
    cases visited
    exact ⟨[], .none, rfl, .nil, enough, Visitor.gather_none.symm, id⟩
  | cons child children ih =>
    obtain ⟨u, first, rest⟩ := bind_ok.mp visited
    obtain ⟨i, e, known, unfolds, shallow, rfl, within⟩ := each _ _ _ first
    obtain ⟨is, f, others, unfoldsEach, low, rfl, still⟩ := ih rest
    refine ⟨i :: is, e.beside f, ?_, .cons unfolds unfoldsEach, ?_, ?_, still ∘ within⟩
    · exact mapM_ok.mpr (.cons known (mapM_ok.mp others))
    · exact Nat.max_lt.mpr ⟨shallow, low⟩
    · exact Visitor.gather_gather

theorem visit_sound {levels : Nat} {id : Text} {v w : Visitor}
    (visited : K.visit levels id v = .ok w) : Found (K := K) levels id v w := by
  induction levels generalizing id v w with
  | zero => contradiction
  | succ levels ih =>
    obtain ⟨room, nodeId, u, known, _, present, rfl⟩ := visit_ok.mp visited
    have entered (within : K.Within v) : K.Within (v.enter nodeId) :=
      ⟨room, within.leaves, within.distinct⟩
    rcases (visitPresent_ok fun _ _ _ => visit_normal).mp present with
      ⟨a, leaf, few, fresh, rfl⟩ | ⟨children, composite, nonempty, inner⟩ |
        ⟨step, target, u, link, crossed, rfl⟩
    · refine ⟨nodeId, .leaf a, known, .leaf leaf, Nat.zero_lt_succ levels,
        Visitor.gather_enter, fun within => ?_⟩
      exact {
        nodes := room
        leaves := by simpa [Visitor.gather, Visitor.leave, Visitor.enter, Nat.succ_le_iff] using few
        distinct := by
          simpa [Visitor.gather, Visitor.leave, Visitor.enter] using ⟨fresh, within.distinct⟩ }
    · have enough : 0 < levels := by
        obtain ⟨child, rest, rfl⟩ := List.exists_cons_of_ne_nil nonempty
        obtain ⟨_, first, _⟩ := bind_ok.mp inner
        cases levels with
        | zero => contradiction
        | succ levels => exact Nat.zero_lt_succ levels
      obtain ⟨is, e, ids, unfolds, shallow, rfl, within⟩ :=
        visitChildren_sound (fun _ _ _ => ih) enough inner
      have branch := content_branch.mpr ⟨children, composite, ids⟩
      have some_id : is ≠ [] := by
        rintro rfl
        cases mapM_ok.mp ids
        contradiction
      refine ⟨nodeId, e.below, known, .branch branch some_id unfolds, Nat.succ_lt_succ shallow,
        Visitor.gather_enter, fun before => ?_⟩
      have after := within (entered before)
      exact ⟨after.nodes, after.leaves, after.distinct⟩
    · obtain ⟨i, e, reached, unfolds, shallow, rfl, within⟩ := ih crossed
      cases reached.symm.trans (content_link link)
      refine ⟨nodeId, e.across step, known, .link link unfolds, Nat.succ_lt_succ shallow, ?_,
        fun before => ?_⟩
      · exact (congrArg (Visitor.leave · nodeId) Visitor.gather_push).trans Visitor.gather_enter
      · have inside := entered before
        have after := within ⟨inside.nodes, inside.leaves, inside.distinct⟩
        exact ⟨after.nodes, after.leaves, after.distinct⟩

/-- Whatever is on the current path reaches deeper than this expansion. -/
def Above (K : Compiler) (v : Visitor) (depth : Nat) : Prop :=
  ∀ a ∈ v.active, ∀ f, Unfolds K.content a f → depth < f.depth

theorem Above.mono {v : Visitor} {n m : Nat} (above : K.Above v m) (le : n ≤ m) :
    K.Above v n := fun a active f unfolds => Nat.lt_of_le_of_lt le (above a active f unfolds)

/-- The path grows by a node that reaches one edge deeper. -/
theorem Above.enter {v : Visitor} {nodeId : Text}
    {e : Extent CanonicalLeafAction CanonicalResolutionStep} {n : Nat} (deep : e.depth = n + 1)
    (unfolds : Unfolds K.content nodeId e) (above : K.Above v e.depth) :
    K.Above (v.enter nodeId) n := by
  intro a active f other
  rcases List.mem_cons.mp active with rfl | active
  · rw [← unfolds_unique unfolds other]
    omega
  · have further := above a active f other
    omega

theorem visitChildren_complete {levels : Nat} {children is : List Text}
    {e : Extent CanonicalLeafAction CanonicalResolutionStep} {v : Visitor}
    (each : ∀ id i e v, normalizedIdentifier K.crates id = .ok i → Unfolds K.content i e →
      e.depth < levels → K.Within (v.gather K.crates e.visits e.leaves) → K.Above v e.depth →
      K.visit levels id v = .ok (v.gather K.crates e.visits e.leaves))
    (ids : List.Forall₂ (fun id i => normalizedIdentifier K.crates id = .ok i) children is)
    (unfolds : UnfoldsEach K.content is e) (shallow : e.depth < levels)
    (within : K.Within (v.gather K.crates e.visits e.leaves)) (above : K.Above v e.depth) :
    visitChildren (K.visit levels) children v = .ok (v.gather K.crates e.visits e.leaves) := by
  induction ids generalizing e v with
  | nil =>
    cases unfolds
    exact congrArg Except.ok Visitor.gather_none.symm
  | cons known _ ih =>
    cases unfolds with
    | @cons _ _ e f first rest =>
      have split : v.gather K.crates (e.beside f).visits (e.beside f).leaves =
          (v.gather K.crates e.visits e.leaves).gather K.crates f.visits f.leaves :=
        Visitor.gather_gather.symm
      rw [split] at within ⊢
      have shallow := Nat.max_lt.mp shallow
      have visited := each _ _ e v known first shallow.1 (within_of_gather within)
        (above.mono (Nat.le_max_left _ _))
      apply bind_ok.mpr
      exact ⟨_, visited, ih rest shallow.2 within (above.mono (Nat.le_max_right _ _))⟩

theorem visit_complete {levels : Nat} {id nodeId : Text}
    {e : Extent CanonicalLeafAction CanonicalResolutionStep} {v : Visitor}
    (known : normalizedIdentifier K.crates id = .ok nodeId)
    (unfolds : Unfolds K.content nodeId e) (shallow : e.depth < levels)
    (within : K.Within (v.gather K.crates e.visits e.leaves)) (above : K.Above v e.depth) :
    K.visit levels id v = .ok (v.gather K.crates e.visits e.leaves) := by
  induction levels generalizing id nodeId e v with
  | zero => contradiction
  | succ levels ih =>
    have acyclic : nodeId ∉ v.active := fun active =>
      Nat.lt_irrefl _ (above nodeId active e unfolds)
    have nodes := within.nodes
    cases unfolds with
    | @leaf _ a leaf =>
      have leaves := within.leaves
      have distinct := within.distinct
      simp only [Visitor.gather, Extent.leaf, List.map_cons, List.map_nil, List.length_append,
        List.length_cons, List.length_nil, List.reverse_cons, List.reverse_nil, List.nil_append,
        List.cons_append, List.nodup_cons] at nodes leaves distinct
      apply visit_ok.mpr
      refine ⟨by omega, nodeId, _, known, acyclic, ?_, Visitor.gather_enter.symm⟩
      exact (visitPresent_ok fun _ _ _ => visit_normal).mpr
        (.inl ⟨a, leaf, by simp only [Visitor.enter]; omega, distinct.1, rfl⟩)
    | @branch _ is e branch nonempty each =>
      obtain ⟨children, composite, ids⟩ := content_branch.mp branch
      have some_child : children ≠ [] := by
        rintro rfl
        cases mapM_ok.mp ids
        contradiction
      have inside : K.Within ((v.enter nodeId).gather K.crates e.visits e.leaves) := by
        rw [Extent.below, ← @Visitor.gather_enter _ _ _ nodeId] at within
        exact ⟨within.nodes, within.leaves, within.distinct⟩
      have visited := visitChildren_complete (fun _ _ _ _ => ih) (mapM_ok.mp ids) each
        (Nat.lt_of_succ_lt_succ shallow) inside (above.enter rfl (.branch branch nonempty each))
      apply visit_ok.mpr
      refine ⟨?_, nodeId, _, known, acyclic, ?_, Visitor.gather_enter.symm⟩
      · simp only [Visitor.gather, Extent.below] at nodes
        omega
      · exact (visitPresent_ok fun _ _ _ => visit_normal).mpr
          (.inr (.inl ⟨children, composite, some_child, visited⟩))
    | @link _ target step e link inner =>
      have inside : K.Within (((v.enter nodeId).push step).gather K.crates e.visits e.leaves) := by
        rw [Extent.across, ← @Visitor.gather_enter _ _ _ nodeId, ← Visitor.gather_push] at within
        exact ⟨within.nodes, within.leaves, within.distinct⟩
      have crossed := ih (content_link link) inner (Nat.lt_of_succ_lt_succ shallow) inside
        (above.enter rfl (.link link inner))
      apply visit_ok.mpr
      refine ⟨?_, nodeId, _, known, acyclic, ?_,
        Visitor.gather_enter.symm.trans (congrArg (Visitor.leave · nodeId) Visitor.gather_push.symm)⟩
      · simp only [Visitor.gather, Extent.across] at nodes
        omega
      · exact (visitPresent_ok fun _ _ _ => visit_normal).mpr
          (.inr (.inr ⟨step, target, _, link, crossed, rfl⟩))

end Compiler

/-! The tree as a whole. -/
section Tree
variable {C : Crates}

def hasIdentity (C : Crates) (nodeId : Text) (node : DispatchNode) : Bool :=
  (normalizedIdentifier C node.nodeId).toOption = some nodeId

/-- The action of the first node with an identity. -/
def actionOf (C : Crates) (nodes : List DispatchNode) (nodeId : Text) : Option DispatchAction :=
  (nodes.find? (hasIdentity C nodeId)).map (·.action)

/-- Every node has an identity, and no two nodes have the same. -/
def DistinctNodes (C : Crates) (nodes : List DispatchNode) : Prop :=
  (∀ node ∈ nodes, ∃ nodeId, normalizedIdentifier C node.nodeId = .ok nodeId) ∧
    (nodes.map fun node => (normalizedIdentifier C node.nodeId).toOption).Nodup

instance {nodes : List DispatchNode} : Decidable (DistinctNodes C nodes) :=
  decidable_of_iff ((∀ node ∈ nodes, (normalizedIdentifier C node.nodeId).toOption ≠ none) ∧
      (nodes.map fun node => (normalizedIdentifier C node.nodeId).toOption).Nodup) <| by
    simp only [DistinctNodes, Option.ne_none_iff_exists', toOption_some]

theorem DistinctNodes.tail {node : DispatchNode} {nodes : List DispatchNode}
    (distinct : DistinctNodes C (node :: nodes)) : DistinctNodes C nodes :=
  ⟨fun other mem => distinct.1 other (List.mem_cons_of_mem _ mem),
    (List.nodup_cons.mp distinct.2).2⟩

theorem DistinctNodes.perm {nodes others : List DispatchNode} (perm : nodes.Perm others)
    (distinct : DistinctNodes C others) : DistinctNodes C nodes :=
  ⟨fun node mem => distinct.1 node (perm.mem_iff.mp mem), (perm.map _).nodup_iff.mpr distinct.2⟩

theorem actionOf_head {node : DispatchNode} {nodes : List DispatchNode} {nodeId : Text}
    (here : normalizedIdentifier C node.nodeId = .ok nodeId) :
    actionOf C (node :: nodes) nodeId = some node.action := by
  simp [actionOf, hasIdentity, toOption_some.mpr here]

theorem actionOf_tail {node : DispatchNode} {nodes : List DispatchNode} {nodeId : Text}
    (other : normalizedIdentifier C node.nodeId ≠ .ok nodeId) :
    actionOf C (node :: nodes) nodeId = actionOf C nodes nodeId := by
  have unlike : hasIdentity C nodeId node = false :=
    decide_eq_false fun same => other (toOption_some.mp same)
  simp only [actionOf, List.find?_cons, unlike]

theorem DistinctNodes.elsewhere {node other : DispatchNode} {nodes : List DispatchNode}
    {nodeId : Text} (distinct : DistinctNodes C (node :: nodes)) (mem : other ∈ nodes)
    (here : normalizedIdentifier C node.nodeId = .ok nodeId) :
    normalizedIdentifier C other.nodeId ≠ .ok nodeId := by
  intro same
  apply (List.nodup_cons.mp distinct.2).1
  exact List.mem_map.mpr ⟨other, mem, congrArg Except.toOption (same.trans here.symm)⟩

theorem actionOf_some {nodes : List DispatchNode} {nodeId : Text} {action : DispatchAction}
    (distinct : DistinctNodes C nodes) :
    actionOf C nodes nodeId = some action ↔ ∃ node ∈ nodes,
      normalizedIdentifier C node.nodeId = .ok nodeId ∧ node.action = action := by
  induction nodes with
  | nil => simp [actionOf]
  | cons node nodes ih =>
    by_cases here : normalizedIdentifier C node.nodeId = .ok nodeId
    · rw [actionOf_head here]
      constructor
      · intro same
        exact ⟨node, List.mem_cons_self, here, Option.some.inj same⟩
      · rintro ⟨other, mem, same, rfl⟩
        rcases List.mem_cons.mp mem with rfl | mem
        · rfl
        · exact absurd same (distinct.elsewhere mem here)
    · rw [actionOf_tail here, ih distinct.tail]
      simp [here]

theorem actionOf_perm {nodes others : List DispatchNode} (perm : nodes.Perm others)
    (distinct : DistinctNodes C others) : actionOf C nodes = actionOf C others := by
  funext nodeId
  apply Option.ext
  intro action
  simp only [actionOf_some distinct, actionOf_some (distinct.perm perm), perm.mem_iff]

/-- The index of distinct nodes finds the action of each. -/
theorem indexNodes_ok {nodes : List DispatchNode} {known : List (Text × DispatchAction)}
    (distinct : DistinctNodes C nodes)
    (fresh : ∀ node ∈ nodes, ∀ nodeId, normalizedIdentifier C node.nodeId = .ok nodeId →
      nodeId ∉ known.map Prod.fst) :
    ∃ lookup, indexNodes C known nodes = .ok lookup ∧
      ∀ nodeId, lookup.lookup nodeId = (actionOf C nodes nodeId).or (known.lookup nodeId) := by
  induction nodes generalizing known with
  | nil => exact ⟨known, rfl, fun nodeId => rfl⟩
  | cons node nodes ih =>
    obtain ⟨here, identity⟩ := distinct.1 node List.mem_cons_self
    have unknown := fresh node List.mem_cons_self here identity
    have others : ∀ other ∈ nodes, ∀ nodeId, normalizedIdentifier C other.nodeId = .ok nodeId →
        nodeId ∉ ((here, node.action) :: known).map Prod.fst := by
      intro other mem nodeId same
      rw [List.map_cons, List.mem_cons, not_or]
      constructor
      · rintro rfl
        exact distinct.elsewhere mem identity same
      · exact fresh other (List.mem_cons_of_mem _ mem) nodeId same
    obtain ⟨lookup, indexed, finds⟩ := ih distinct.tail others
    refine ⟨lookup, by simp only [indexNodes, identity, if_neg unknown, indexed], fun nodeId => ?_⟩
    rw [finds, List.lookup_cons]
    by_cases same : nodeId = here
    · have last : actionOf C nodes nodeId = none := by
        apply Option.eq_none_iff_forall_ne_some.mpr
        intro action found
        obtain ⟨other, mem, again, _⟩ := (actionOf_some distinct.tail).mp found
        exact distinct.elsewhere mem (same ▸ identity) again
      subst same
      simp [last, actionOf_head identity]
    · have other : normalizedIdentifier C node.nodeId ≠ .ok nodeId := by
        rw [identity]
        exact fun again => same (Except.ok.inj again).symm
      rw [actionOf_tail other, beq_false_of_ne same]

/-- The expansion of a tree, which knows no visitor and no limits. -/
def Expands (C : Crates) (tree : DispatchTree) (registry : ServerResolutionRegistry) :
    Text → Extent CanonicalLeafAction CanonicalResolutionStep → Prop :=
  Unfolds fun nodeId => (actionOf C tree.nodes nodeId).bind (actionContent C registry nodeId)

theorem expands_leaf {tree : DispatchTree} {registry : ServerResolutionRegistry} {nodeId : Text}
    {input : ResolvedLeafInput} {leaf : CanonicalLeafAction}
    (action : actionOf C tree.nodes nodeId = some (.resolvedLeaf input))
    (made : canonicalLeaf C nodeId input [] = .ok leaf) :
    Expands C tree registry nodeId (.leaf leaf) :=
  .leaf (by simp [action, actionContent, made, Except.toOption])

/-- The compiler of a tree under the limits it is compiled with. -/
def compilerOf (C : Crates) (tree : DispatchTree) (registry : ServerResolutionRegistry) :
    Compiler where
  crates := C
  resolutions := registry
  lookup := actionOf C tree.nodes
  limits := ⟨ABSOLUTE_MAX_DEPTH, ABSOLUTE_MAX_NODES, ABSOLUTE_MAX_LEAVES⟩

theorem compileDispatch_distinct {tree : DispatchTree} {registry : ServerResolutionRegistry}
    (distinct : DistinctNodes C tree.nodes) :
    compileDispatch C tree registry =
      match normalizedIdentifier C tree.rootId with
      | .error _ => .mechanicalResolutionRequired .emptyRoot
      | .ok rootId => (compilerOf C tree registry).compile rootId := by
  obtain ⟨lookup, indexed, finds⟩ := @indexNodes_ok C tree.nodes [] distinct (by simp)
  have same : (fun nodeId => lookup.lookup nodeId) = actionOf C tree.nodes := by
    funext nodeId
    simp [finds]
  unfold compileDispatch compileDispatchWithLimits
  simp only [indexed, same]
  rfl

theorem canonicalManifestBytes_ok {leaves : List CanonicalLeafAction} :
    (∃ bytes, canonicalManifestBytes leaves = .ok bytes) ↔ leaves ≠ [] := by
  unfold canonicalManifestBytes
  split <;> simp [*]

theorem compile_ready {K : Compiler} {rootId : Text} {m : CanonicalLeafManifest} :
    K.compile rootId = .ready m ↔
      ∃ v bytes, K.visit (K.limits.maxDepth + 1) rootId Visitor.start = .ok v ∧
        canonicalManifestBytes v.leaves = .ok bytes ∧ m = ⟨v.leaves, freeze K.crates bytes⟩ := by
  unfold Compiler.compile
  cases K.visit (K.limits.maxDepth + 1) rootId Visitor.start with
  | error reason => simp
  | ok v =>
    cases made : canonicalManifestBytes v.leaves with
    | error detail => simp [made]
    | ok bytes => simp [made, eq_comm]

/-- The expansion of the root, when it is finite and stays within the limits. -/
structure Admitted (C : Crates) (tree : DispatchTree) (registry : ServerResolutionRegistry)
    (rootId : Text) (e : Extent CanonicalLeafAction CanonicalResolutionStep) : Prop where
  root : normalizedIdentifier C tree.rootId = .ok rootId
  expands : Expands C tree registry rootId e
  depth : e.depth ≤ ABSOLUTE_MAX_DEPTH
  nodes : e.visits ≤ ABSOLUTE_MAX_NODES
  leaves : e.leaves.length ≤ ABSOLUTE_MAX_LEAVES
  distinct : (e.leaves.map fun l => l.2.logicalActionId).Nodup

/-- The leaves of an expansion, each with the steps that were crossed on its own path. -/
def leavesOf (C : Crates) (e : Extent CanonicalLeafAction CanonicalResolutionStep) :
    List CanonicalLeafAction :=
  e.leaves.map fun l => l.2.withPath C l.1

theorem visit_start {tree : DispatchTree} {registry : ServerResolutionRegistry} {rootId : Text}
    {v : Visitor} (root : normalizedIdentifier C tree.rootId = .ok rootId) :
    (compilerOf C tree registry).visit (ABSOLUTE_MAX_DEPTH + 1) rootId Visitor.start = .ok v ↔
      ∃ e, Admitted C tree registry rootId e ∧ v = Visitor.start.gather C e.visits e.leaves := by
  constructor
  · intro visited
    obtain ⟨nodeId, e, again, expands, shallow, rfl, within⟩ := Compiler.visit_sound visited
    cases again.symm.trans (normalizedIdentifier_again root)
    have inside := within ⟨Nat.zero_le _, Nat.zero_le _, List.nodup_nil⟩
    have nodes := inside.nodes
    have leaves := inside.leaves
    have distinct := inside.distinct
    simp only [Visitor.gather, Visitor.start, Nat.zero_add, List.nil_append, List.length_map,
      List.append_nil, List.nodup_reverse] at nodes leaves distinct
    exact ⟨e, ⟨root, expands, Nat.le_of_lt_succ shallow, nodes, leaves, distinct⟩, rfl⟩
  · rintro ⟨e, admitted, rfl⟩
    have within : (compilerOf C tree registry).Within
        (Visitor.start.gather C e.visits e.leaves) := {
      nodes := by simpa [Visitor.gather, Visitor.start, compilerOf] using admitted.nodes
      leaves := by simpa [Visitor.gather, Visitor.start, compilerOf] using admitted.leaves
      distinct := by simpa [Visitor.gather, Visitor.start] using admitted.distinct }
    exact @Compiler.visit_complete (compilerOf C tree registry) _ _ _ e _
      (normalizedIdentifier_again root) admitted.expands (Nat.lt_succ_of_le admitted.depth) within
      (fun a active => absurd active List.not_mem_nil)

theorem leavesOf_nonempty {tree : DispatchTree} {registry : ServerResolutionRegistry}
    {rootId : Text} {e : Extent CanonicalLeafAction CanonicalResolutionStep}
    (admitted : Admitted C tree registry rootId e) : leavesOf C e ≠ [] := by
  intro empty
  exact unfolds_leaves admitted.expands (List.map_eq_nil_iff.mp empty)

theorem compileDispatch_ready {tree : DispatchTree} {registry : ServerResolutionRegistry}
    {m : CanonicalLeafManifest} (distinct : DistinctNodes C tree.nodes) :
    compileDispatch C tree registry = .ready m ↔
      ∃ rootId e bytes, Admitted C tree registry rootId e ∧
        canonicalManifestBytes (leavesOf C e) = .ok bytes ∧ m = ⟨leavesOf C e, freeze C bytes⟩ := by
  rw [compileDispatch_distinct distinct]
  cases root : normalizedIdentifier C tree.rootId with
  | error detail =>
    simp only [reduceCtorEq, false_iff]
    rintro ⟨_, _, _, admitted, _⟩
    cases root.symm.trans admitted.root
  | ok rootId =>
    simp only [compile_ready]
    constructor
    · rintro ⟨v, bytes, visited, made, rfl⟩
      obtain ⟨e, admitted, rfl⟩ := (visit_start root).mp visited
      exact ⟨rootId, e, bytes, admitted, made, rfl⟩
    · rintro ⟨_, e, bytes, admitted, made, rfl⟩
      cases root.symm.trans admitted.root
      exact ⟨_, bytes, (visit_start root).mpr ⟨e, admitted, rfl⟩, made, rfl⟩

/-- A tree compiles exactly when the expansion of its root is finite and within the limits, the
manifest holds the leaves of that expansion, and the order of the nodes does not matter. -/
theorem compileDispatch_iff_admitted {tree : DispatchTree} {registry : ServerResolutionRegistry}
    (distinct : DistinctNodes C tree.nodes) :
    ((∃ m, compileDispatch C tree registry = .ready m) ↔
      ∃ rootId e, Admitted C tree registry rootId e) ∧
    (∀ m rootId e, compileDispatch C tree registry = .ready m →
      Admitted C tree registry rootId e → m.leaves = leavesOf C e) ∧
    ∀ nodes, nodes.Perm tree.nodes →
      compileDispatch C ⟨tree.rootId, nodes⟩ registry = compileDispatch C tree registry := by
  refine ⟨⟨?_, ?_⟩, ?_, ?_⟩
  · rintro ⟨m, ready⟩
    obtain ⟨rootId, e, _, admitted, _⟩ := (compileDispatch_ready distinct).mp ready
    exact ⟨rootId, e, admitted⟩
  · rintro ⟨rootId, e, admitted⟩
    obtain ⟨bytes, made⟩ := canonicalManifestBytes_ok.mpr (leavesOf_nonempty admitted)
    exact ⟨_, (compileDispatch_ready distinct).mpr ⟨rootId, e, bytes, admitted, made, rfl⟩⟩
  · intro m rootId e ready admitted
    obtain ⟨again, f, _, same, _, rfl⟩ := (compileDispatch_ready distinct).mp ready
    cases admitted.root.symm.trans same.root
    rw [unfolds_unique admitted.expands same.expands]
  · intro nodes perm
    rw [compileDispatch_distinct distinct,
      @compileDispatch_distinct C ⟨tree.rootId, nodes⟩ registry (distinct.perm perm)]
    simp only [compilerOf, actionOf_perm perm distinct]

end Tree

/-- The authority of a local owner over a scope. -/
def localAuthority (scope : Text) : VerifiedOwnerAuthority where
  evidence := .local ['c'] ['i'] ['a'] ['r'] none
  authorityProvenanceId := ['p']
  normalizedIntentDigest := List.replicate 64 '0'
  instructionRevision := ['1']
  instructionDigest := List.replicate 64 '0'
  ownerEnvelopeRevision := ['1']
  ownerEnvelopeDigest := List.replicate 64 '0'
  authorityKind := ['k']
  normalizedScopeJson := scope
  policyRevision := ⟨1, I64.one_fits⟩
  boundDecisionId := none
  boundDecisionRevision := none
  boundManifestDigest := none
  boundChallengeNonceDigest := none
  evidenceDigest := List.replicate 64 '0'
  createdAt := ⟨0, I64.zero_fits⟩
  expiresAt := none

/-- A leaf on one target. -/
def plainLeaf (logicalActionId : Text) (operands : CanonicalValue) (scope : Text) :
    ResolvedLeafInput where
  logicalActionId
  actionKind := ['k']
  tool := ⟨['t'], ['1']⟩
  operands
  targetSnapshot := ⟨[.string ['x']]⟩
  materialDigest := none
  ownerAuthority := localAuthority scope

/-- A composite of an alias for a leaf and of another leaf. -/
def aliasTree : DispatchTree where
  rootId := ['r']
  nodes := [⟨['r'], .composite [['a'], ['m']]⟩, ⟨['a'], .aliased ['n']⟩,
    ⟨['l'], .resolvedLeaf (plainLeaf ['1'] .null "\x7b\x7d".toList)⟩,
    ⟨['m'], .resolvedLeaf (plainLeaf ['2'] .null "\x7b\x7d".toList)⟩]

def aliasRegistry : ServerResolutionRegistry :=
  ⟨[(.aliased ['n'],
    [⟨['l'], ['s'], ['1'], ⟨List.replicate 64 '0', by decide, by decide, by decide⟩⟩])]⟩

theorem plainLeaf_ok {nodeId id : Text} (normal : normalizedIdentifier asciiCrates id = .ok id) :
    ∃ leaf, canonicalLeaf asciiCrates nodeId (plainLeaf id .null "\x7b\x7d".toList) [] = .ok leaf ∧
      leaf.logicalActionId = id := by
  simp only [canonicalLeaf, plainLeaf, normal]
  exact ⟨_, rfl, rfl⟩

theorem compileDispatch_alias : ∃ m, compileDispatch asciiCrates aliasTree aliasRegistry = .ready m ∧
    m.leaves.map (·.resolutionPath.length) = [1, 0] := by
  have distinct : DistinctNodes asciiCrates aliasTree.nodes := by decide
  obtain ⟨ready, leaves, _⟩ :=
    @compileDispatch_iff_admitted asciiCrates aliasTree aliasRegistry distinct
  obtain ⟨first, made, firstId⟩ := @plainLeaf_ok ['l'] ['1'] rfl
  obtain ⟨second, other, secondId⟩ := @plainLeaf_ok ['m'] ['2'] rfl
  have firstLeaf : Expands asciiCrates aliasTree aliasRegistry ['l'] (.leaf first) :=
    expands_leaf rfl made
  have secondLeaf : Expands asciiCrates aliasTree aliasRegistry ['m'] (.leaf second) :=
    expands_leaf rfl other
  have expands : ∃ step, Expands asciiCrates aliasTree aliasRegistry ['r']
      (((Extent.leaf first).across step).beside ((Extent.leaf second).beside .none)).below :=
    ⟨_, .branch rfl (List.cons_ne_nil ['a'] [['m']])
      (.cons (.link rfl firstLeaf) (.cons secondLeaf .nil))⟩
  obtain ⟨step, expands⟩ := expands
  have admitted : Admitted asciiCrates aliasTree aliasRegistry ['r']
      (((Extent.leaf first).across step).beside ((Extent.leaf second).beside .none)).below := {
    root := rfl
    expands
    depth := Nat.le_of_ble_eq_true rfl
    nodes := Nat.le_of_ble_eq_true rfl
    leaves := Nat.le_of_ble_eq_true rfl
    distinct := by simp [Extent.below, Extent.beside, Extent.across, Extent.leaf, Extent.none,
      firstId, secondId] }
  obtain ⟨m, compiled⟩ := ready.mpr ⟨_, _, admitted⟩
  exact ⟨m, compiled, by rw [leaves m _ _ compiled admitted]; rfl⟩

end CarsinOS.Manifest
