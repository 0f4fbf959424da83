import Mathlib.Data.List.Basic
import CarsinOS.Text

/-! The plugin registry of `carsinos-core`: manifest validation and normalisation, the four
capability binding maps, registration and replacement. -/
namespace CarsinOS.Plugin
open Std (TreeMap)

inductive PluginExecKind where
  | subprocess
  | daemon
  deriving DecidableEq, Repr

structure PluginArtifact where
  execKind : PluginExecKind := .subprocess
  localPath : String := ""
  command : String := ""
  args : List String := []
  sha256 : String := ""
  deriving DecidableEq, Repr

structure PluginCompatibility where
  minGatewayVersion : Option String := none
  deriving DecidableEq, Repr

structure PluginPermissions where
  allowedRoots : List String := []
  networkPolicy : String := ""
  networkAllowlist : List String := []
  deriving DecidableEq, Repr

structure PluginExecutionLimits where
  timeoutMs : Option Nat := none
  maxOutputChars : Option Nat := none
  deriving DecidableEq, Repr

structure PluginCapability where
  name : String
  description : Option String := none
  deriving DecidableEq, Repr

inductive PluginBindingKind where
  | tool
  | hook
  | provider
  | channel
  deriving DecidableEq, Repr

def PluginBindingKind.asStr : PluginBindingKind → String
  | .tool => "tool"
  | .hook => "hook"
  | .provider => "provider"
  | .channel => "channel"

structure PluginCapabilities where
  tools : List PluginCapability := []
  hooks : List PluginCapability := []
  providers : List PluginCapability := []
  channels : List PluginCapability := []
  deriving DecidableEq, Repr

def PluginCapabilities.ofKind (c : PluginCapabilities) : PluginBindingKind → List PluginCapability
  | .tool => c.tools
  | .hook => c.hooks
  | .provider => c.providers
  | .channel => c.channels

structure PluginManifest where
  schemaVersion : String
  pluginId : String
  displayName : String
  pluginVersion : String
  apiVersion : String
  enabled : Bool := true
  artifact : PluginArtifact := {}
  compatibility : PluginCompatibility := {}
  permissions : PluginPermissions := {}
  limits : PluginExecutionLimits := {}
  capabilities : PluginCapabilities := {}
  metadata : List (String × String) := []
  deriving DecidableEq, Repr

def pluginManifestSchemaVersionV1 : String := "carsinos.plugin.manifest.v1"
def pluginManifestSchemaVersionV2 : String := "carsinos.plugin.manifest.v2"
def pluginApiVersionV1 : String := "carsinos.plugin.api.v1"

def normalizeIdentifier (raw : String) : Anyhow String :=
  let normalized := toAsciiLowercase (trim raw)
  if normalized = "" then bail "identifier cannot be empty"
  else if normalized.toList.all (fun c => c.isAlphanum || c = '-' || c = '_' || c = '.') then
    .ok normalized
  else bail "identifier contains unsupported characters"

/-- Trimmed values, the empty ones dropped. -/
def trimmedNonempty (values : List String) : List String :=
  (values.map trim).filter (· ≠ "")

def trimmedOption (value : Option String) : Option String :=
  (value.map trim).filter (· ≠ "")

def normalizeCapabilities (kind : PluginBindingKind) :
    List String → List PluginCapability → Anyhow (List PluginCapability)
  | _, [] => .ok []
  | localSeen, capability :: rest => do
    let name ← withContext
      s!"{kind.asStr} capability name must be non-empty and use [a-z0-9._-]"
      (normalizeIdentifier capability.name)
    if name ∈ localSeen then
      bail s!"duplicate {kind.asStr} capability name in plugin manifest: {name}"
    else do
      let others ← normalizeCapabilities kind (name :: localSeen) rest
      .ok (⟨name, trimmedOption capability.description⟩ :: others)

def normalizePluginMetadata (manifest : PluginManifest) : PluginManifest :=
  { manifest with
    artifact :=
      { manifest.artifact with
        localPath := trim manifest.artifact.localPath
        command := trim manifest.artifact.command
        args := trimmedNonempty manifest.artifact.args
        sha256 := toAsciiLowercase (trim manifest.artifact.sha256) }
    compatibility := ⟨trimmedOption manifest.compatibility.minGatewayVersion⟩
    permissions :=
      { allowedRoots := trimmedNonempty manifest.permissions.allowedRoots
        networkPolicy := toAsciiLowercase (trim manifest.permissions.networkPolicy)
        networkAllowlist :=
          (manifest.permissions.networkAllowlist.map (toAsciiLowercase ∘ trim)).filter (· ≠ "") } }

def normalizePluginArtifact (artifact : PluginArtifact) : Anyhow Unit :=
  if artifact.localPath = "" then bail "artifact.local_path cannot be empty for schema v2"
  else if artifact.command = "" then bail "artifact.command cannot be empty for schema v2"
  else if artifact.sha256.utf8ByteSize ≠ 64 ∨ ¬ artifact.sha256.toList.all isAsciiHexdigit then
    bail "artifact.sha256 must be a 64-character lowercase hex digest"
  else .ok ()

/-- The four capability lists, checked in the order tools, hooks, providers, channels. -/
def normalizeAllCapabilities (c : PluginCapabilities) : Anyhow PluginCapabilities := do
  let tools ← withContext "invalid tool capability declaration"
    (normalizeCapabilities .tool [] c.tools)
  let hooks ← withContext "invalid hook capability declaration"
    (normalizeCapabilities .hook [] c.hooks)
  let providers ← withContext "invalid provider capability declaration"
    (normalizeCapabilities .provider [] c.providers)
  let channels ← withContext "invalid channel capability declaration"
    (normalizeCapabilities .channel [] c.channels)
  .ok ⟨tools, hooks, providers, channels⟩

abbrev Bindings := TreeMap String String

structure PluginRegistry where
  manifests : TreeMap String PluginManifest := ∅
  toolBindings : Bindings := ∅
  hookBindings : Bindings := ∅
  providerBindings : Bindings := ∅
  channelBindings : Bindings := ∅

namespace PluginRegistry

def new : PluginRegistry := {}

def bindings (r : PluginRegistry) : PluginBindingKind → Bindings
  | .tool => r.toolBindings
  | .hook => r.hookBindings
  | .provider => r.providerBindings
  | .channel => r.channelBindings

def setBindings (r : PluginRegistry) (b : Bindings) : PluginBindingKind → PluginRegistry
  | .tool => { r with toolBindings := b }
  | .hook => { r with hookBindings := b }
  | .provider => { r with providerBindings := b }
  | .channel => { r with channelBindings := b }

end PluginRegistry

/-- The checks `register_manifest` makes before it touches a binding map, and the manifest it
would store. The identifier context is the outermost one. -/
def preparedManifest (r : PluginRegistry) (manifest : PluginManifest) : Anyhow PluginManifest :=
  let schemaVersion := trim manifest.schemaVersion
  if schemaVersion ≠ pluginManifestSchemaVersionV1 ∧ schemaVersion ≠ pluginManifestSchemaVersionV2
  then bail s!"unsupported plugin manifest schema_version: {schemaVersion}"
  else if trim manifest.apiVersion ≠ pluginApiVersionV1 then
    bail s!"unsupported plugin api_version: {trim manifest.apiVersion}"
  else do
    let pluginId ← withContext "plugin_id must be non-empty and use [a-z0-9._-] characters"
      (normalizeIdentifier manifest.pluginId)
    if trim manifest.displayName = "" then bail "display_name cannot be empty"
    else if trim manifest.pluginVersion = "" then bail "plugin_version cannot be empty"
    else if pluginId ∈ r.manifests then bail s!"plugin_id already registered: {pluginId}"
    else do
      let normalized := normalizePluginMetadata manifest
      (if schemaVersion = pluginManifestSchemaVersionV2 then
        withContext "invalid plugin artifact declaration"
          (normalizePluginArtifact normalized.artifact)
       else .ok ())
      let capabilities ← normalizeAllCapabilities normalized.capabilities
      .ok { normalized with
        schemaVersion, pluginId, capabilities
        displayName := trim manifest.displayName
        pluginVersion := trim manifest.pluginVersion
        apiVersion := pluginApiVersionV1 }

/-- The bindings are written one at a time: those before a conflict stay written. -/
def registerBindings (pluginId : String) (kind : PluginBindingKind) :
    Bindings → List PluginCapability → Bindings × Anyhow Unit
  | bindings, [] => (bindings, .ok ())
  | bindings, capability :: rest =>
    match bindings[capability.name]? with
    | some owner =>
      (bindings, bail
        s!"{kind.asStr} capability '{capability.name}' is already registered by plugin '{owner}'")
    | none => registerBindings pluginId kind (bindings.insert capability.name pluginId) rest

/-- The calls of `register_bindings` for the kinds still to come. -/
def registerKinds (manifest : PluginManifest) :
    PluginRegistry → List PluginBindingKind → PluginRegistry × Anyhow Unit
  | r, [] => (r, .ok ())
  | r, kind :: kinds =>
    match registerBindings manifest.pluginId kind (r.bindings kind)
        (manifest.capabilities.ofKind kind) with
    | (b, .error e) => (r.setBindings b kind, .error e)
    | (b, .ok ()) => registerKinds manifest (r.setBindings b kind) kinds

def bindingOrder : List PluginBindingKind := [.tool, .hook, .provider, .channel]

namespace PluginRegistry

def registerManifest (r : PluginRegistry) (manifest : PluginManifest) :
    PluginRegistry × Anyhow Unit :=
  match preparedManifest r manifest with
  | .error e => (r, .error e)
  | .ok prepared =>
    match registerKinds prepared r bindingOrder with
    | (r, .error e) => (r, .error e)
    | (r, .ok ()) => ({ r with manifests := r.manifests.insert prepared.pluginId prepared }, .ok ())

def listManifests (r : PluginRegistry) : List PluginManifest := r.manifests.values

def capabilityOwner (r : PluginRegistry) (kind : PluginBindingKind) (name : String) :
    Option String :=
  match normalizeIdentifier name with
  | .ok normalized => (r.bindings kind)[normalized]?
  | .error _ => none

/-- Registration of a list of manifests in order, stopping at the first failure. -/
def registerEach : PluginRegistry → List PluginManifest → Anyhow PluginRegistry
  | r, [] => .ok r
  | r, manifest :: rest =>
    match r.registerManifest manifest with
    | (_, .error e) => .error e
    | (r, .ok ()) => registerEach r rest

/-- The stored manifests with the one under `pluginId` dropped and the new one last. -/
def replacementList (r : PluginRegistry) (pluginId : String) (manifest : PluginManifest) :
    List PluginManifest :=
  r.listManifests.filter (·.pluginId ≠ pluginId) ++ [manifest]

def replaceManifest (r : PluginRegistry) (manifest : PluginManifest) :
    PluginRegistry × Anyhow PluginManifest :=
  match withContext "plugin_id must be non-empty and use [a-z0-9._-] characters"
      (normalizeIdentifier manifest.pluginId) with
  | .error e => (r, .error e)
  | .ok normalized =>
    if normalized ∉ r.manifests then (r, bail s!"plugin_id not registered: {normalized}")
    else
      match registerEach new (r.replacementList normalized manifest) with
      | .error e => (r, .error e)
      | .ok rebuilt =>
        match rebuilt.manifests[normalized]? with
        | none => (r, bail s!"plugin manifest disappeared after replace: {normalized}")
        | some replaced => (rebuilt, .ok replaced)

end PluginRegistry

end CarsinOS.Plugin
