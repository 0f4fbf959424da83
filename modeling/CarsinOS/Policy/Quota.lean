import CarsinOS.Lib.JsonUnique
import CarsinOS.Integer
import CarsinOS.Utf8
import CarsinOS.Crates
import CarsinOS.Lib.Joined
import Mathlib.Data.Char
import Mathlib.Data.List.Lex
import Mathlib.Data.Prod.Lex

/-! The technical quota of a policy: the snapshot of its limits and what one effect requires of
them, each under an identity that is a digest of its contents. -/
namespace CarsinOS.Policy
open CarsinOS.Lib

inductive TechnicalResourceKind where
  | tokens
  | timeMs
  | connectorCalls
  | resourceUnits
deriving DecidableEq

namespace TechnicalResourceKind

def asStr : TechnicalResourceKind → String
  | .tokens => "tokens"
  | .timeMs => "time_ms"
  | .connectorCalls => "connector_calls"
  | .resourceUnits => "resource_units"

/-- The place in the order the kinds are declared in. -/
def rank : TechnicalResourceKind → Nat
  | .tokens => 0
  | .timeMs => 1
  | .connectorCalls => 2
  | .resourceUnits => 3

end TechnicalResourceKind

/-- A canonical entry of a snapshot has the same fields as its input. -/
structure TechnicalQuotaEntry where
  kind : TechnicalResourceKind
  unit : Text
  limit : I64
deriving DecidableEq

/-- A canonical requirement has the same fields as its input. -/
structure TechnicalResourceRequirement where
  kind : TechnicalResourceKind
  unit : Text
  amount : I64
deriving DecidableEq

structure CanonicalTechnicalQuotaSnapshot where
  quotaSnapshotId : Text
  delegationId : Text
  policyRevision : I64
  effectiveAuthorityDigest : Text
  scopeKey : Text
  entries : List TechnicalQuotaEntry
  canonicalEntriesJson : Text
  canonicalEntriesDigest : Text
deriving DecidableEq

structure CanonicalTechnicalResourceRequirementSet where
  requirementSetId : Text
  quotaSnapshotId : Text
  delegationId : Text
  logicalEffectId : Text
  actionId : Text
  manifestDigest : Text
  requirements : List TechnicalResourceRequirement
  canonicalRequirementsJson : Text
  canonicalRequirementsDigest : Text
deriving DecidableEq

/-! Units and texts. -/

def validHashedUnit (unit name : Text) : Bool :=
  match unit.dropPrefix? name with
  | some digest =>
    utf8Length digest = 64 &&
      digest.all fun c => c.isDigit || ('a' ≤ c && c ≤ 'f')
  | none => false

def validTechnicalUnit : TechnicalResourceKind → Text → Bool
  | .tokens, unit => unit = "token".toList
  | .timeMs, unit => unit = "ms".toList
  | .connectorCalls, unit => validHashedUnit unit "connector:".toList
  | .resourceUnits, unit => validHashedUnit unit "resource:".toList

def validateTechnicalUnit (kind : TechnicalResourceKind) (unit : Text) : Except String Unit :=
  if validTechnicalUnit kind unit then .ok ()
  else .error ("invalid canonical unit for technical resource " ++ kind.asStr)

/-- What the texts of an identity are checked for. -/
def CanonicalText (value : Text) : Prop := trimChars value ≠ [] ∧ trimChars value = value

instance (value : Text) : Decidable (CanonicalText value) := inferInstanceAs (Decidable (_ ∧ _))

def validateTexts : List (String × Text) → Except String Unit
  | [] => .ok ()
  | (name, value) :: rest =>
    if trimChars value = [] ∨ trimChars value ≠ value then
      .error (name ++ " must be nonempty canonical text")
    else validateTexts rest

/-! The order of entries and requirements. -/

/-- Kinds in their order, and under one kind the units by their bytes. -/
abbrev Place := Lex (Nat × Text)

def TechnicalQuotaEntry.place (entry : TechnicalQuotaEntry) : Place :=
  toLex (entry.kind.rank, entry.unit)

def TechnicalResourceRequirement.place (requirement : TechnicalResourceRequirement) : Place :=
  toLex (requirement.kind.rank, requirement.unit)

/-! The JSON texts. -/

def entryTree (entry : TechnicalQuotaEntry) : Json :=
  .obj [("kind".toList, .str entry.kind.asStr.toList), ("unit".toList, .str entry.unit),
    ("limit".toList, .num entry.limit.toText)]

def requirementTree (requirement : TechnicalResourceRequirement) : Json :=
  .obj [("kind".toList, .str requirement.kind.asStr.toList), ("unit".toList, .str requirement.unit),
    ("amount".toList, .num requirement.amount.toText)]

def nul : Char := Char.ofNat 0

section Compilation
variable (C : Crates)

def domainDigest (domain value : Text) : Text :=
  "sha256:".toList ++ (C.sha256 (utf8Bytes domain ++ utf8Bytes value)).val

def entriesDomain : Text := "carsinos.execass.technical-quota.entries.v1".toList ++ [nul]

def snapshotDomain : Text := "carsinos.execass.technical-quota.snapshot.v1".toList ++ [nul]

def requirementsDomain : Text :=
  "carsinos.execass.technical-resource.requirements.v1".toList ++ [nul]

def requirementSetDomain : Text :=
  "carsinos.execass.technical-resource.requirement-set.v1".toList ++ [nul]

/-- The loop over the entries, with the kinds and units it has met. -/
def checkEntries (identities : List (TechnicalResourceKind × Text)) :
    List TechnicalQuotaEntry → Except String Unit
  | [] => .ok ()
  | entry :: rest =>
    if entry.limit.val < 0 then .error "technical quota limit cannot be negative"
    else do
      validateTechnicalUnit entry.kind entry.unit
      if (entry.kind, entry.unit) ∈ identities then .error "duplicate technical quota kind/unit"
      else checkEntries ((entry.kind, entry.unit) :: identities) rest

def snapshotIdentity (delegationId : Text) (policyRevision : I64) (effectiveAuthorityDigest scopeKey
    canonicalEntriesDigest : Text) : Text :=
  joined nul [delegationId, policyRevision.toText, effectiveAuthorityDigest, scopeKey,
    canonicalEntriesDigest]

def compileTechnicalQuotaSnapshot (delegationId : Text) (policyRevision : I64)
    (effectiveAuthorityDigest scopeKey : Text) (entries : List TechnicalQuotaEntry) :
    Except String CanonicalTechnicalQuotaSnapshot := do
  validateTexts [("delegation_id", delegationId),
    ("effective_authority_digest", effectiveAuthorityDigest), ("scope_key", scopeKey)]
  if policyRevision.val ≤ 0 then .error "policy_revision must be positive"
  else
    checkEntries [] entries
    let canonicalEntries := sortOn TechnicalQuotaEntry.place entries
    let canonicalEntriesJson := (Json.arr (canonicalEntries.map entryTree)).print
    let canonicalEntriesDigest := domainDigest C entriesDomain canonicalEntriesJson
    let quotaSnapshotId := domainDigest C snapshotDomain (snapshotIdentity delegationId
      policyRevision effectiveAuthorityDigest scopeKey canonicalEntriesDigest)
    .ok {
      quotaSnapshotId, delegationId, policyRevision, effectiveAuthorityDigest, scopeKey
      entries := canonicalEntries, canonicalEntriesJson, canonicalEntriesDigest }

/-- The loop over the requirements, with the kinds and units it has met. -/
def checkRequirements (quota : List TechnicalQuotaEntry)
    (identities : List (TechnicalResourceKind × Text)) :
    List TechnicalResourceRequirement → Except String Unit
  | [] => .ok ()
  | requirement :: rest =>
    if requirement.amount.val ≤ 0 then .error "technical resource requirement must be positive"
    else do
      validateTechnicalUnit requirement.kind requirement.unit
      if (requirement.kind, requirement.unit) ∈ identities then
        .error "duplicate technical resource requirement kind/unit"
      else match quota.find? fun entry =>
          entry.kind = requirement.kind ∧ entry.unit = requirement.unit with
      | none => .error "technical requirement has no quota snapshot entry"
      | some entry =>
        if requirement.amount.val > entry.limit.val then
          .error "technical resource requirement exceeds its quota limit"
        else checkRequirements quota ((requirement.kind, requirement.unit) :: identities) rest

def requirementSetIdentity (quotaSnapshotId delegationId logicalEffectId actionId manifestDigest
    canonicalRequirementsDigest : Text) : Text :=
  joined nul [quotaSnapshotId, delegationId, logicalEffectId, actionId, manifestDigest,
    canonicalRequirementsDigest]

def compileTechnicalResourceRequirements (snapshot : CanonicalTechnicalQuotaSnapshot)
    (logicalEffectId actionId manifestDigest : Text)
    (requirements : List TechnicalResourceRequirement) :
    Except String CanonicalTechnicalResourceRequirementSet := do
  validateTexts [("logical_effect_id", logicalEffectId), ("action_id", actionId),
    ("manifest_digest", manifestDigest)]
  checkRequirements snapshot.entries [] requirements
  let canonical := sortOn TechnicalResourceRequirement.place requirements
  let canonicalRequirementsJson := (Json.arr (canonical.map requirementTree)).print
  let canonicalRequirementsDigest := domainDigest C requirementsDomain canonicalRequirementsJson
  .ok {
    requirementSetId := domainDigest C requirementSetDomain (requirementSetIdentity
      snapshot.quotaSnapshotId snapshot.delegationId logicalEffectId actionId manifestDigest
      canonicalRequirementsDigest)
    quotaSnapshotId := snapshot.quotaSnapshotId
    delegationId := snapshot.delegationId
    logicalEffectId, actionId, manifestDigest, requirements := canonical
    canonicalRequirementsJson, canonicalRequirementsDigest }

end Compilation
end CarsinOS.Policy
