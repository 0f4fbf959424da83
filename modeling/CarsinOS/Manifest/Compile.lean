import CarsinOS.Manifest.Leaf

/-! The compiler of a dispatch tree: a visitor that expands nodes depth first, with the set of
nodes on the current path, the steps crossed on it, and counters for its limits. -/
namespace CarsinOS.Manifest

inductive DispatchAction where
  | resolvedLeaf (leaf : ResolvedLeafInput)
  | composite (children : List Text)
  | aliased (name : Text)
  | plugin (pluginId version : Text)
  | shell (shellId shellVersion command : Text)
  | child (childIdentity version : Text)

structure DispatchNode where
  nodeId : Text
  action : DispatchAction

structure DispatchTree where
  rootId : Text
  nodes : List DispatchNode

structure ServerResolutionEntryInput where
  descriptor : IndirectionDescriptor
  targetNodeId : Text
  resolverId : Text
  resolverVersion : Text
  resolutionMaterialDigest : Text

structure ResolutionTarget where
  targetNodeId : Text
  resolverId : Text
  resolverVersion : Text
  resolutionMaterialDigest : Sha256Digest
deriving DecidableEq

/-- The targets registered for each descriptor, in the order they were given. -/
structure ServerResolutionRegistry where
  entries : List (IndirectionDescriptor × List ResolutionTarget)

namespace ServerResolutionRegistry

def get (registry : ServerResolutionRegistry) (descriptor : IndirectionDescriptor) :
    Option (List ResolutionTarget) :=
  registry.entries.lookup descriptor

/-- Adds a candidate under its descriptor, which gets an entry if it has none. -/
def push (descriptor : IndirectionDescriptor) (target : ResolutionTarget) :
    List (IndirectionDescriptor × List ResolutionTarget) →
      List (IndirectionDescriptor × List ResolutionTarget)
  | [] => [(descriptor, [target])]
  | (key, candidates) :: rest =>
    if key = descriptor then (key, candidates ++ [target]) :: rest
    else (key, candidates) :: push descriptor target rest

def addEntry (C : Crates) (registry : ServerResolutionRegistry)
    (entry : ServerResolutionEntryInput) : Except String ServerResolutionRegistry := do
  let descriptor ← normalizedDescriptor C entry.descriptor
  let targetNodeId ← normalizedIdentifier C entry.targetNodeId
  let resolverId ← normalizedIdentifier C entry.resolverId
  let resolverVersion ← normalizedIdentifier C entry.resolverVersion
  let resolutionMaterialDigest ← parseDigest entry.resolutionMaterialDigest
  let target : ResolutionTarget := {
    targetNodeId, resolverId, resolverVersion, resolutionMaterialDigest }
  if target ∈ (registry.get descriptor).getD [] then .error "duplicate server resolution entry"
  else .ok ⟨push descriptor target registry.entries⟩

def tryNew (C : Crates) (entries : List ServerResolutionEntryInput) :
    Except String ServerResolutionRegistry :=
  entries.foldlM (addEntry C) ⟨[]⟩

end ServerResolutionRegistry

structure CompileLimits where
  maxDepth : Nat
  maxNodes : Nat
  maxLeaves : Nat

def ABSOLUTE_MAX_DEPTH : Nat := 32
def ABSOLUTE_MAX_NODES : Nat := 256
def ABSOLUTE_MAX_LEAVES : Nat := 128

def defaultLimits : CompileLimits where
  maxDepth := 32
  maxNodes := 256
  maxLeaves := 128

inductive MechanicalResolutionReason where
  | emptyRoot
  | emptyNodeIdentity
  | duplicateNodeIdentity (nodeId : Text)
  | missingNode (nodeId : Text)
  | cycleDetected (nodeId : Text)
  | emptyComposite (nodeId : Text)
  | unresolvedAlias (nodeId : Text)
  | ambiguousAlias (nodeId : Text)
  | unresolvedPlugin (nodeId : Text)
  | ambiguousPlugin (nodeId : Text)
  | unresolvedShell (nodeId : Text)
  | ambiguousShell (nodeId : Text)
  | unresolvedChild (nodeId : Text)
  | ambiguousChild (nodeId : Text)
  | depthLimitExceeded (maxDepth : Nat)
  | nodeLimitExceeded (maxNodes : Nat)
  | leafLimitExceeded (maxLeaves : Nat)
  | duplicateLogicalActionIdentity (logicalActionId : Text)
  | invalidLeaf (nodeId : Text) (detail : String)

structure CanonicalLeafManifest where
  leaves : List CanonicalLeafAction
  canonical : FrozenBytes
deriving DecidableEq

inductive ManifestCompilation where
  | ready (manifest : CanonicalLeafManifest)
  | mechanicalResolutionRequired (reason : MechanicalResolutionReason)

inductive StructureKind where
  | aliased
  | plugin
  | shell
  | child

namespace StructureKind

def unresolved (nodeId : Text) : StructureKind → MechanicalResolutionReason
  | .aliased => .unresolvedAlias nodeId
  | .plugin => .unresolvedPlugin nodeId
  | .shell => .unresolvedShell nodeId
  | .child => .unresolvedChild nodeId

def ambiguous (nodeId : Text) : StructureKind → MechanicalResolutionReason
  | .aliased => .ambiguousAlias nodeId
  | .plugin => .ambiguousPlugin nodeId
  | .shell => .ambiguousShell nodeId
  | .child => .ambiguousChild nodeId

end StructureKind

abbrev Compiled (α : Type) := Except MechanicalResolutionReason α

def invalidLeaf {α : Type} (nodeId : Text) : Except String α → Compiled α
  | .ok a => .ok a
  | .error detail => .error (.invalidLeaf nodeId detail)

/-- The part of the visitor that changes while it runs. -/
structure Visitor where
  visitedNodes : Nat
  leaves : List CanonicalLeafAction
  active : List Text
  logicalActionIds : List Text
  resolutionPath : List CanonicalResolutionStep

namespace Visitor

def start : Visitor := ⟨0, [], [], [], []⟩

/-- `active.insert`, which is only done for a node that is not there, and the count of it. -/
def enter (v : Visitor) (nodeId : Text) : Visitor :=
  { v with active := nodeId :: v.active, visitedNodes := v.visitedNodes + 1 }

/-- `active.remove`. -/
def leave (v : Visitor) (nodeId : Text) : Visitor := { v with active := v.active.erase nodeId }

/-- `resolution_path.push`. -/
def push (v : Visitor) (step : CanonicalResolutionStep) : Visitor :=
  { v with resolutionPath := v.resolutionPath ++ [step] }

/-- `resolution_path.pop`. -/
def pop (v : Visitor) : Visitor := { v with resolutionPath := v.resolutionPath.dropLast }

end Visitor

/-- What the visitor only reads. -/
structure Compiler where
  crates : Crates
  resolutions : ServerResolutionRegistry
  lookup : Text → Option DispatchAction
  limits : CompileLimits

namespace Compiler
variable (K : Compiler)

def visitLeaf (nodeId : Text) (leaf : ResolvedLeafInput) (v : Visitor) : Compiled Visitor :=
  if v.leaves.length ≥ K.limits.maxLeaves then .error (.leafLimitExceeded K.limits.maxLeaves)
  else do
    let leaf ← invalidLeaf nodeId (canonicalLeaf K.crates nodeId leaf v.resolutionPath)
    if leaf.logicalActionId ∈ v.logicalActionIds then
      .error (.duplicateLogicalActionIdentity leaf.logicalActionId)
    else .ok { v with
      logicalActionIds := leaf.logicalActionId :: v.logicalActionIds
      leaves := v.leaves ++ [leaf] }

section Present
variable (visit : Text → Visitor → Compiled Visitor)

def visitChildren : List Text → Visitor → Compiled Visitor
  | [], v => .ok v
  | child :: children, v => do
    let v ← visit child v
    visitChildren children v

def visitExpansion (nodeId : Text) (descriptor : IndirectionDescriptor) (kind : StructureKind)
    (v : Visitor) : Compiled Visitor :=
  match K.resolutions.get descriptor with
  | none => .error (kind.unresolved nodeId)
  | some [target] => do
    let step : CanonicalResolutionStep := {
      descriptor
      targetNodeId := target.targetNodeId
      resolverId := target.resolverId
      resolverVersion := target.resolverVersion
      resolutionMaterialDigest := target.resolutionMaterialDigest }
    let v ← visit target.targetNodeId (v.push step)
    .ok v.pop
  | some _ => .error (kind.ambiguous nodeId)

/-- `visit_expansion` on the descriptor that `descriptor_for_action` makes. -/
def visitIndirection (nodeId : Text) (descriptor : IndirectionDescriptor) (kind : StructureKind)
    (v : Visitor) : Compiled Visitor := do
  let descriptor ← invalidLeaf nodeId (normalizedDescriptor K.crates descriptor)
  K.visitExpansion visit nodeId descriptor kind v

def visitPresent (nodeId : Text) (v : Visitor) : Compiled Visitor :=
  match K.lookup nodeId with
  | none => .error (.missingNode nodeId)
  | some (.resolvedLeaf leaf) => K.visitLeaf nodeId leaf v
  | some (.composite children) =>
    if children = [] then .error (.emptyComposite nodeId) else visitChildren visit children v
  | some (.aliased name) => K.visitIndirection visit nodeId (.aliased name) .aliased v
  | some (.plugin pluginId version) =>
    K.visitIndirection visit nodeId (.plugin pluginId version) .plugin v
  | some (.shell shellId shellVersion command) =>
    K.visitIndirection visit nodeId (.shell shellId shellVersion command) .shell v
  | some (.child childIdentity version) =>
    K.visitIndirection visit nodeId (.child childIdentity version) .child v

end Present

/-- `levels` is the number of depths that may still be entered. -/
def visit : Nat → Text → Visitor → Compiled Visitor
  | 0, _, _ => .error (.depthLimitExceeded K.limits.maxDepth)
  | levels + 1, nodeId, v =>
    if v.visitedNodes ≥ K.limits.maxNodes then .error (.nodeLimitExceeded K.limits.maxNodes)
    else
      match normalizedIdentifier K.crates nodeId with
      | .error _ => .error .emptyNodeIdentity
      | .ok nodeId =>
        if nodeId ∈ v.active then .error (.cycleDetected nodeId)
        else do
          let v ← K.visitPresent (visit levels) nodeId (v.enter nodeId)
          .ok (v.leave nodeId)

/-- The visit of the root and the manifest of the leaves it found. -/
def compile (rootId : Text) : ManifestCompilation :=
  match K.visit (K.limits.maxDepth + 1) rootId Visitor.start with
  | .error reason => .mechanicalResolutionRequired reason
  | .ok v =>
    match canonicalManifestBytes v.leaves with
    | .error detail => .mechanicalResolutionRequired (.invalidLeaf rootId detail)
    | .ok bytes => .ready ⟨v.leaves, freeze K.crates bytes⟩

end Compiler

/-- The index of the nodes by their normalized identities. -/
def indexNodes (C : Crates) (lookup : List (Text × DispatchAction)) :
    List DispatchNode → Compiled (List (Text × DispatchAction))
  | [] => .ok lookup
  | node :: nodes =>
    match normalizedIdentifier C node.nodeId with
    | .error _ => .error .emptyNodeIdentity
    | .ok nodeId =>
      if nodeId ∈ lookup.map Prod.fst then .error (.duplicateNodeIdentity nodeId)
      else indexNodes C ((nodeId, node.action) :: lookup) nodes

def compileDispatchWithLimits (C : Crates) (tree : DispatchTree)
    (resolutions : ServerResolutionRegistry) (limits : CompileLimits) : ManifestCompilation :=
  let limits : CompileLimits := {
    maxDepth := min limits.maxDepth ABSOLUTE_MAX_DEPTH
    maxNodes := min limits.maxNodes ABSOLUTE_MAX_NODES
    maxLeaves := min limits.maxLeaves ABSOLUTE_MAX_LEAVES }
  match normalizedIdentifier C tree.rootId with
  | .error _ => .mechanicalResolutionRequired .emptyRoot
  | .ok rootId =>
    match indexNodes C [] tree.nodes with
    | .error reason => .mechanicalResolutionRequired reason
    | .ok lookup =>
      let compiler : Compiler := {
        crates := C, resolutions, lookup := fun nodeId => lookup.lookup nodeId, limits }
      compiler.compile rootId

def compileDispatch (C : Crates) (tree : DispatchTree)
    (resolutions : ServerResolutionRegistry) : ManifestCompilation :=
  compileDispatchWithLimits C tree resolutions defaultLimits

end CarsinOS.Manifest
