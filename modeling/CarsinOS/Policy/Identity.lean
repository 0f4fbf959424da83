import CarsinOS.Policy.Quota

/-! What an identity of a quota says about the texts it was made from. -/
namespace CarsinOS.Policy
open CarsinOS.Lib

/-- The arguments of one call for a snapshot. -/
structure QuotaCall where
  delegationId : Text
  policyRevision : I64
  effectiveAuthorityDigest : Text
  scopeKey : Text
  entries : List TechnicalQuotaEntry

/-- The arguments of one call for a requirement set, whose snapshot another call made. -/
structure RequirementCall where
  quota : QuotaCall
  logicalEffectId : Text
  actionId : Text
  manifestDigest : Text
  requirements : List TechnicalResourceRequirement

/-! Readings of a joined text. -/

def positiveRevision (text : Text) : Option I64 :=
  (integerValue text).filter fun revision => 0 < revision.val ∧ revision.toText = text

theorem positiveRevision_some {text : Text} {revision : I64} :
    positiveRevision text = some revision ↔ 0 < revision.val ∧ text = revision.toText := by
  simp only [positiveRevision, Option.filter_eq_some_iff, decide_eq_true_eq]
  constructor
  · rintro ⟨-, positive, shown⟩
    exact ⟨positive, shown.symm⟩
  · rintro ⟨positive, rfl⟩
    exact ⟨integerValue_toText revision, positive, rfl⟩

/-- The arguments a snapshot could have been called with, when this text stands before the digest
of its entries. -/
def quotaReadings (text : Text) : List (Text × I64 × Text × Text) :=
  (cuts nul text).flatMap fun (delegationId, rest) =>
    (cuts nul rest).flatMap fun (revision, rest) =>
      (cuts nul rest).filterMap fun (authority, scope) =>
        if CanonicalText delegationId ∧ CanonicalText authority ∧ CanonicalText scope then
          (positiveRevision revision).map fun revision => (delegationId, revision, authority, scope)
        else none

theorem mem_quotaReadings {text delegationId authority scope : Text} {revision : I64} :
    (delegationId, revision, authority, scope) ∈ quotaReadings text ↔
      text = joined nul [delegationId, revision.toText, authority, scope] ∧ 0 < revision.val ∧
        CanonicalText delegationId ∧ CanonicalText authority ∧ CanonicalText scope := by
  simp only [quotaReadings, List.mem_flatMap, List.mem_filterMap, Option.ite_none_right_eq_some,
    Option.map_eq_some_iff, Prod.exists, Prod.mk.injEq, positiveRevision_some, mem_cuts, joined]
  constructor
  · rintro ⟨_, _, rfl, _, _, rfl, _, _, rfl, canonical, _, ⟨positive, rfl⟩, rfl, rfl, rfl, rfl⟩
    exact ⟨rfl, positive, canonical⟩
  · rintro ⟨rfl, positive, canonical⟩
    exact ⟨_, _, rfl, _, _, rfl, _, _, rfl, canonical, _, ⟨positive, rfl⟩, rfl, rfl, rfl, rfl⟩

/-- The arguments a requirement set could have been called with, when this text stands between the
identity of its snapshot and the digest of its requirements. -/
def requirementReadings (text : Text) : List (Text × Text × Text × Text) :=
  (cuts nul text).flatMap fun (delegationId, rest) =>
    (cuts nul rest).flatMap fun (effect, rest) =>
      (cuts nul rest).filterMap fun (action, manifest) =>
        if CanonicalText effect ∧ CanonicalText action ∧ CanonicalText manifest then
          some (delegationId, effect, action, manifest)
        else none

theorem mem_requirementReadings {text delegationId effect action manifest : Text} :
    (delegationId, effect, action, manifest) ∈ requirementReadings text ↔
      text = joined nul [delegationId, effect, action, manifest] ∧
        CanonicalText effect ∧ CanonicalText action ∧ CanonicalText manifest := by
  simp only [requirementReadings, List.mem_flatMap, List.mem_filterMap,
    Option.ite_none_right_eq_some, Option.some.injEq, Prod.exists, Prod.mk.injEq, mem_cuts, joined]
  constructor
  · rintro ⟨_, _, rfl, _, _, rfl, _, _, rfl, canonical, rfl, rfl, rfl, rfl⟩
    exact ⟨rfl, canonical⟩
  · rintro ⟨rfl, canonical⟩
    exact ⟨_, _, rfl, _, _, rfl, _, _, rfl, canonical, rfl, rfl, rfl, rfl⟩

/-! What is accepted. -/

theorem validateTexts_ok {texts : List (String × Text)} :
    validateTexts texts = .ok () ↔ ∀ text ∈ texts, CanonicalText text.2 := by
  induction texts with
  | nil => simp [validateTexts]
  | cons text texts ih =>
    simp only [validateTexts, List.forall_mem_cons, ← ih]
    split
    · rename_i blank
      simp only [reduceCtorEq, false_iff, CanonicalText]
      tauto
    · rename_i visible
      simp only [CanonicalText]
      tauto

theorem validateTechnicalUnit_ok {kind : TechnicalResourceKind} {unit : Text} :
    validateTechnicalUnit kind unit = .ok () ↔ validTechnicalUnit kind unit = true := by
  unfold validateTechnicalUnit
  split <;> simp_all

theorem TechnicalResourceKind.rank_injective : Function.Injective TechnicalResourceKind.rank := by
  intro kind other same
  cases kind <;> cases other <;> first | rfl | cases same

theorem place_injective : Function.Injective fun identity : TechnicalResourceKind × Text =>
    (toLex (identity.1.rank, identity.2) : Place) := by
  rintro ⟨kind, unit⟩ ⟨other, unit'⟩ same
  obtain ⟨ranks, units⟩ := Prod.mk.inj (toLex.injective same)
  exact Prod.ext (TechnicalResourceKind.rank_injective ranks) units

def TechnicalQuotaEntry.Valid (entry : TechnicalQuotaEntry) : Prop :=
  0 ≤ entry.limit.val ∧ validTechnicalUnit entry.kind entry.unit = true

theorem checkEntries_ok {identities : List (TechnicalResourceKind × Text)}
    {entries : List TechnicalQuotaEntry} : checkEntries identities entries = .ok () ↔
      (∀ entry ∈ entries, entry.Valid ∧ (entry.kind, entry.unit) ∉ identities) ∧
        (entries.map fun entry => (entry.kind, entry.unit)).Nodup := by
  induction entries generalizing identities with
  | nil => simp [checkEntries]
  | cons entry entries ih =>
    rw [checkEntries]
    by_cases negative : entry.limit.val < 0
    · have invalid : ¬ entry.Valid := fun valid => absurd valid.1 (by omega)
      simp [negative, invalid]
    rw [if_neg negative]
    by_cases unit : validTechnicalUnit entry.kind entry.unit = true
    · rw [validateTechnicalUnit_ok.mpr unit]
      by_cases known : (entry.kind, entry.unit) ∈ identities
      · simp [known, bind, Except.bind]
      · have valid : entry.Valid := ⟨by omega, unit⟩
        simp only [bind, Except.bind, if_neg known, ih, List.mem_cons, List.map_cons,
          List.nodup_cons, List.mem_map, not_exists, not_and, not_or]
        grind
    · have invalid : ¬ entry.Valid := fun valid => unit valid.2
      cases outcome : validateTechnicalUnit entry.kind entry.unit with
      | ok => exact absurd (validateTechnicalUnit_ok.mp outcome) unit
      | error => simp [bind, Except.bind, invalid]

/-- The quota has a limit under the requirement's own kind and unit, and the amount is within it. -/
def TechnicalResourceRequirement.Fits (quota : List TechnicalQuotaEntry)
    (requirement : TechnicalResourceRequirement) : Prop :=
  0 < requirement.amount.val ∧ validTechnicalUnit requirement.kind requirement.unit = true ∧
    ∃ entry, (quota.find? fun entry =>
      entry.kind = requirement.kind ∧ entry.unit = requirement.unit) = some entry ∧
        requirement.amount.val ≤ entry.limit.val

theorem checkRequirements_ok {quota : List TechnicalQuotaEntry}
    {identities : List (TechnicalResourceKind × Text)}
    {requirements : List TechnicalResourceRequirement} :
    checkRequirements quota identities requirements = .ok () ↔
      (∀ requirement ∈ requirements, requirement.Fits quota ∧
        (requirement.kind, requirement.unit) ∉ identities) ∧
      (requirements.map fun requirement => (requirement.kind, requirement.unit)).Nodup := by
  induction requirements generalizing identities with
  | nil => simp [checkRequirements]
  | cons requirement requirements ih =>
    rw [checkRequirements]
    by_cases empty : requirement.amount.val ≤ 0
    · have misfit : ¬ requirement.Fits quota := fun fits => absurd fits.1 (by omega)
      simp [empty, misfit]
    rw [if_neg empty]
    by_cases unit : validTechnicalUnit requirement.kind requirement.unit = true
    · rw [validateTechnicalUnit_ok.mpr unit]
      by_cases known : (requirement.kind, requirement.unit) ∈ identities
      · simp [known, bind, Except.bind]
      simp only [bind, Except.bind, if_neg known]
      split
      · rename_i missing
        have misfit : ¬ requirement.Fits quota := by
          rintro ⟨-, -, entry, found, -⟩
          rw [missing] at found
          cases found
        simp [misfit]
      · rename_i entry found
        by_cases exceeds : requirement.amount.val > entry.limit.val
        · have misfit : ¬ requirement.Fits quota := by
            rintro ⟨-, -, other, also, within⟩
            cases found.symm.trans also
            omega
          rw [if_pos exceeds]
          simp [misfit]
        · have fits : requirement.Fits quota := ⟨by omega, unit, entry, found, by omega⟩
          simp only [if_neg exceeds, ih, List.mem_cons, List.map_cons, List.nodup_cons,
            List.mem_map, not_exists, not_and, not_or]
          grind
    · have misfit : ¬ requirement.Fits quota := fun fits => unit fits.2.1
      cases outcome : validateTechnicalUnit requirement.kind requirement.unit with
      | ok => exact absurd (validateTechnicalUnit_ok.mp outcome) unit
      | error => simp [bind, Except.bind, misfit]

/-! The texts under the digests. -/

theorem asStr_injective {kind other : TechnicalResourceKind}
    (same : kind.asStr.toList = other.asStr.toList) : kind = other := by
  have texts : kind.asStr = other.asStr := String.toList_inj.mp same
  cases kind <;> cases other <;> first | rfl | exact absurd texts (by decide)

theorem toText_injective {i j : I64} (same : i.toText = j.toText) : i = j := by
  have read := integerValue_toText i
  rw [same, integerValue_toText] at read
  exact (Option.some.inj read).symm

theorem entryTree_injective : Function.Injective entryTree := by
  rintro ⟨kind, unit, limit⟩ ⟨kind', unit', limit'⟩ same
  simp only [entryTree, Json.obj.injEq, List.cons.injEq, Prod.mk.injEq, Json.str.injEq,
    Json.num.injEq, true_and, and_true] at same
  obtain ⟨kinds, rfl, limits⟩ := same
  rw [asStr_injective kinds, toText_injective limits]

theorem requirementTree_injective : Function.Injective requirementTree := by
  rintro ⟨kind, unit, amount⟩ ⟨kind', unit', amount'⟩ same
  simp only [requirementTree, Json.obj.injEq, List.cons.injEq, Prod.mk.injEq, Json.str.injEq,
    Json.num.injEq, true_and, and_true] at same
  obtain ⟨kinds, rfl, amounts⟩ := same
  rw [asStr_injective kinds, toText_injective amounts]

/-- The printed list of items in their order says which items there are. -/
theorem printed_perm {α K : Type} [LinearOrder K] {key : α → K} {tree : α → Json}
    (injective : Function.Injective tree) (spelled : ∀ a, (tree a).Everywhere Spelled)
    {items others : List α} (same : (Json.arr ((sortOn key items).map tree)).print =
      (Json.arr ((sortOn key others).map tree)).print) : items.Perm others := by
  have whole (items : List α) : (Json.arr (items.map tree)).Everywhere Spelled := by
    rw [Json.everywhere]
    refine ⟨trivial, fun child inside => ?_⟩
    obtain ⟨a, -, rfl⟩ := List.mem_map.mp inside
    exact spelled a
  have trees := Json.arr.inj (Json.print_injective (whole _) (whole _) same)
  have sorted : sortOn key items = sortOn key others := injective.list_map trees
  exact ((sortOn_perm key items).symm.trans (sorted ▸ sortOn_perm key others))

theorem entryTree_spelled (entry : TechnicalQuotaEntry) :
    (entryTree entry).Everywhere Spelled := by
  simp [entryTree, Json.Everywhere, Json.EveryField, Spelled, toText_number]

theorem requirementTree_spelled (requirement : TechnicalResourceRequirement) :
    (requirementTree requirement).Everywhere Spelled := by
  simp [requirementTree, Json.Everywhere, Json.EveryField, Spelled, toText_number]

theorem hexdigits_length {text : Text} (digits : text.all isAsciiHexdigit = true) :
    utf8Length text = text.length := by
  induction text with
  | nil => rfl
  | cons c text ih =>
    simp only [List.all_cons, Bool.and_eq_true] at digits
    have range := hexdigit_range digits.1
    have one : c.utf8Size = 1 := by
      have top : (127 : UInt32).toNat = 127 := rfl
      have code : c.val.toNat ≤ 102 := range.2
      rw [Char.utf8Size_eq_one_iff, UInt32.le_iff_toNat_le, top]
      omega
    have rest := ih digits.2
    simp only [utf8Length, List.map_cons, List.sum_cons, List.length_cons, one] at rest ⊢
    omega

theorem domainDigest_length (C : Crates) (domain value : Text) :
    (domainDigest C domain value).length = 71 := by
  have label : "sha256:".toList.length = 7 := by simp
  unfold domainDigest
  generalize C.sha256 (utf8Bytes domain ++ utf8Bytes value) = digest
  have long := hexdigits_length digest.property.2.1
  rw [List.length_append, label, ← long, digest.property.1]

/-! Calls for a snapshot. -/

theorem check_ok {β : Type} {check : Except String Unit} {next : Unit → Except String β} {b : β} :
    check >>= next = .ok b ↔ check = .ok () ∧ next () = .ok b := by
  cases check <;> simp [bind, Except.bind]

section Calls
variable (C : Crates)

/-- No collision between these two texts under the domain. -/
def Apart (domain first second : Text) : Prop :=
  domainDigest C domain first = domainDigest C domain second → first = second

namespace QuotaCall

def compile (x : QuotaCall) : Except String CanonicalTechnicalQuotaSnapshot :=
  compileTechnicalQuotaSnapshot C x.delegationId x.policyRevision x.effectiveAuthorityDigest
    x.scopeKey x.entries

/-- The texts of the identity before the digest of the entries. -/
def text (x : QuotaCall) : Text :=
  joined nul [x.delegationId, x.policyRevision.toText, x.effectiveAuthorityDigest, x.scopeKey]

structure Accepted (x : QuotaCall) : Prop where
  delegation : CanonicalText x.delegationId
  authority : CanonicalText x.effectiveAuthorityDigest
  scope : CanonicalText x.scopeKey
  positive : 0 < x.policyRevision.val
  valid : ∀ entry ∈ x.entries, entry.Valid
  distinct : (x.entries.map fun entry => (entry.kind, entry.unit)).Nodup

def entriesJson (x : QuotaCall) : Text :=
  (Json.arr ((sortOn TechnicalQuotaEntry.place x.entries).map entryTree)).print

def identity (x : QuotaCall) : Text :=
  snapshotIdentity x.delegationId x.policyRevision x.effectiveAuthorityDigest x.scopeKey
    (domainDigest C entriesDomain x.entriesJson)

def snapshot (x : QuotaCall) : CanonicalTechnicalQuotaSnapshot where
  quotaSnapshotId := domainDigest C snapshotDomain (x.identity C)
  delegationId := x.delegationId
  policyRevision := x.policyRevision
  effectiveAuthorityDigest := x.effectiveAuthorityDigest
  scopeKey := x.scopeKey
  entries := sortOn TechnicalQuotaEntry.place x.entries
  canonicalEntriesJson := x.entriesJson
  canonicalEntriesDigest := domainDigest C entriesDomain x.entriesJson

variable {C} {x y : QuotaCall}

theorem compile_ok {made : CanonicalTechnicalQuotaSnapshot} :
    x.compile C = .ok made ↔ x.Accepted ∧ made = x.snapshot C := by
  unfold compile compileTechnicalQuotaSnapshot
  simp only [check_ok, validateTexts_ok, List.forall_mem_cons, List.not_mem_nil, false_imp_iff,
    implies_true, and_true]
  split
  · rename_i negative
    simp only [reduceCtorEq, and_false, false_iff, not_and]
    intro accepted
    exact absurd accepted.positive (by omega)
  · rename_i positive
    simp only [check_ok, checkEntries_ok, Except.ok.injEq, List.not_mem_nil, not_false_eq_true,
      and_true]
    constructor
    · rintro ⟨⟨delegation, authority, scope⟩, ⟨valid, distinct⟩, rfl⟩
      exact ⟨⟨delegation, authority, scope, by omega, valid, distinct⟩, rfl⟩
    · rintro ⟨⟨delegation, authority, scope, -, valid, distinct⟩, rfl⟩
      exact ⟨⟨delegation, authority, scope⟩, ⟨valid, distinct⟩, rfl⟩

theorem identity_eq : x.identity C =
    x.text ++ nul :: domainDigest C entriesDomain x.entriesJson := by
  simp [identity, snapshotIdentity, text, joined]

/-- Two identities without collision agree in the texts before the digest of the entries, and in the
entries. -/
theorem of_identity (entries : Apart C entriesDomain x.entriesJson y.entriesJson)
    (snapshots : Apart C snapshotDomain (x.identity C) (y.identity C))
    (same : (x.snapshot C).quotaSnapshotId = (y.snapshot C).quotaSnapshotId) :
    x.text = y.text ∧ x.entriesJson = y.entriesJson := by
  have whole := snapshots same
  rw [identity_eq, identity_eq] at whole
  obtain ⟨texts, tails⟩ := List.append_inj' whole (by simp [domainDigest_length])
  exact ⟨texts, entries (List.cons.inj tails).2⟩

/-- A call that succeeds can be repeated with the arguments of any reading of its text. -/
theorem reread (accepted : x.Accepted) {delegation authority scope : Text} {revision : I64}
    (reading : (delegation, revision, authority, scope) ∈ quotaReadings x.text) :
    QuotaCall.Accepted ⟨delegation, revision, authority, scope, x.entries⟩ ∧
      text ⟨delegation, revision, authority, scope, x.entries⟩ = x.text := by
  obtain ⟨same, positive, first, second, third⟩ := mem_quotaReadings.mp reading
  exact ⟨⟨first, second, third, positive, accepted.valid, accepted.distinct⟩, same.symm⟩

theorem own_reading (accepted : x.Accepted) :
    (x.delegationId, x.policyRevision, x.effectiveAuthorityDigest, x.scopeKey) ∈
      quotaReadings x.text :=
  mem_quotaReadings.mpr
    ⟨rfl, accepted.positive, accepted.delegation, accepted.authority, accepted.scope⟩

/-- The text of the call has no reading but its own arguments. -/
def SoleReading (x : QuotaCall) : Prop :=
  ∀ reading ∈ quotaReadings x.text,
    reading = (x.delegationId, x.policyRevision, x.effectiveAuthorityDigest, x.scopeKey)

instance (x : QuotaCall) : Decidable x.SoleReading :=
  inferInstanceAs (Decidable (∀ reading ∈ quotaReadings x.text, _))

variable (C) in
/-- Every successful call with the same identity, no digest of the two colliding, has the same
arguments. -/
def Pinned (x : QuotaCall) : Prop :=
  ∀ (y : QuotaCall) first second, x.compile C = .ok first → y.compile C = .ok second →
    Apart C entriesDomain x.entriesJson y.entriesJson →
    Apart C snapshotDomain (x.identity C) (y.identity C) →
    first.quotaSnapshotId = second.quotaSnapshotId →
    x.delegationId = y.delegationId ∧ x.policyRevision = y.policyRevision ∧
      x.effectiveAuthorityDigest = y.effectiveAuthorityDigest ∧ x.scopeKey = y.scopeKey ∧
      x.entries.Perm y.entries

theorem pinned_iff (accepted : x.Accepted) : x.Pinned C ↔ x.SoleReading := by
  constructor
  · rintro pinned ⟨delegation, revision, authority, scope⟩ reading
    obtain ⟨again, same⟩ := reread accepted reading
    obtain ⟨y, fields⟩ :
        ∃ y : QuotaCall, y = ⟨delegation, revision, authority, scope, x.entries⟩ := ⟨_, rfl⟩
    rw [← fields] at again same
    have entries : x.entriesJson = y.entriesJson := by rw [fields]; rfl
    have identities : x.identity C = y.identity C := by rw [identity_eq, identity_eq, same, entries]
    obtain ⟨first, second, third, fourth, -⟩ := pinned y _ _ (compile_ok.mpr ⟨accepted, rfl⟩)
      (compile_ok.mpr ⟨again, rfl⟩) (fun _ => entries) (fun _ => identities)
      (congrArg (domainDigest C snapshotDomain) identities)
    rw [first, second, third, fourth, fields]
  · intro sole y first second made alsoMade entries identities same
    obtain ⟨-, rfl⟩ := compile_ok.mp made
    obtain ⟨alsoAccepted, rfl⟩ := compile_ok.mp alsoMade
    obtain ⟨texts, printed⟩ := of_identity entries identities same
    have fields := sole _ (texts ▸ own_reading alsoAccepted)
    simp only [Prod.mk.injEq] at fields
    exact ⟨fields.1.symm, fields.2.1.symm, fields.2.2.1.symm, fields.2.2.2.symm,
      printed_perm entryTree_injective entryTree_spelled printed⟩

theorem Accepted.perm {entries : List TechnicalQuotaEntry} (accepted : x.Accepted)
    (perm : x.entries.Perm entries) : QuotaCall.Accepted { x with entries } where
  delegation := accepted.delegation
  authority := accepted.authority
  scope := accepted.scope
  positive := accepted.positive
  valid entry inside := accepted.valid entry (perm.mem_iff.mpr inside)
  distinct := (perm.map _).nodup_iff.mp accepted.distinct

theorem snapshot_perm {entries : List TechnicalQuotaEntry} (accepted : x.Accepted)
    (perm : x.entries.Perm entries) : snapshot C { x with entries } = x.snapshot C := by
  have places : (x.entries.map TechnicalQuotaEntry.place).Nodup := by
    have apart := accepted.distinct.map place_injective
    rwa [List.map_map] at apart
  simp only [snapshot, identity, entriesJson, sortOn_eq_of_perm perm places]

/-- The order of the entries does not matter. -/
theorem compile_perm {entries : List TechnicalQuotaEntry} (perm : x.entries.Perm entries)
    (made : CanonicalTechnicalQuotaSnapshot) :
    compile C { x with entries } = .ok made ↔ x.compile C = .ok made := by
  rw [compile_ok, compile_ok]
  constructor
  · rintro ⟨accepted, rfl⟩
    exact ⟨accepted.perm perm.symm, (snapshot_perm accepted perm.symm).symm⟩
  · rintro ⟨accepted, rfl⟩
    exact ⟨accepted.perm perm, (snapshot_perm accepted perm).symm⟩

end QuotaCall

/-! Calls for a requirement set. -/

namespace RequirementCall

def compile (x : RequirementCall) : Except String CanonicalTechnicalResourceRequirementSet := do
  let snapshot ← x.quota.compile C
  compileTechnicalResourceRequirements C snapshot x.logicalEffectId x.actionId x.manifestDigest
    x.requirements

/-- The texts of the identity between the two digests. -/
def text (x : RequirementCall) : Text :=
  joined nul [x.quota.delegationId, x.logicalEffectId, x.actionId, x.manifestDigest]

structure Accepted (x : RequirementCall) : Prop where
  quota : x.quota.Accepted
  effect : CanonicalText x.logicalEffectId
  action : CanonicalText x.actionId
  manifest : CanonicalText x.manifestDigest
  fits : ∀ requirement ∈ x.requirements,
    requirement.Fits (sortOn TechnicalQuotaEntry.place x.quota.entries)
  distinct : (x.requirements.map fun requirement => (requirement.kind, requirement.unit)).Nodup

def requirementsJson (x : RequirementCall) : Text :=
  (Json.arr ((sortOn TechnicalResourceRequirement.place x.requirements).map requirementTree)).print

def identity (x : RequirementCall) : Text :=
  requirementSetIdentity (x.quota.snapshot C).quotaSnapshotId x.quota.delegationId x.logicalEffectId
    x.actionId x.manifestDigest (domainDigest C requirementsDomain x.requirementsJson)

def requirementSet (x : RequirementCall) : CanonicalTechnicalResourceRequirementSet where
  requirementSetId := domainDigest C requirementSetDomain (x.identity C)
  quotaSnapshotId := (x.quota.snapshot C).quotaSnapshotId
  delegationId := x.quota.delegationId
  logicalEffectId := x.logicalEffectId
  actionId := x.actionId
  manifestDigest := x.manifestDigest
  requirements := sortOn TechnicalResourceRequirement.place x.requirements
  canonicalRequirementsJson := x.requirementsJson
  canonicalRequirementsDigest := domainDigest C requirementsDomain x.requirementsJson

variable {C} {x y : RequirementCall}

theorem compile_ok {made : CanonicalTechnicalResourceRequirementSet} :
    x.compile C = .ok made ↔ x.Accepted ∧ made = x.requirementSet C := by
  unfold compile
  cases outcome : x.quota.compile C with
  | error text =>
    have refused : ¬ x.quota.Accepted := by
      intro accepted
      rw [QuotaCall.compile_ok.mpr ⟨accepted, rfl⟩] at outcome
      cases outcome
    simp only [bind, Except.bind, reduceCtorEq, false_iff, not_and]
    exact fun accepted => absurd accepted.quota refused
  | ok snapshot =>
    obtain ⟨quota, rfl⟩ := QuotaCall.compile_ok.mp outcome
    change compileTechnicalResourceRequirements C (x.quota.snapshot C) x.logicalEffectId x.actionId
      x.manifestDigest x.requirements = .ok made ↔ _
    unfold compileTechnicalResourceRequirements
    simp only [check_ok, validateTexts_ok, List.forall_mem_cons, List.not_mem_nil, false_imp_iff,
      implies_true, and_true, checkRequirements_ok, not_false_eq_true, Except.ok.injEq]
    constructor
    · rintro ⟨⟨effect, action, manifest⟩, ⟨fits, distinct⟩, rfl⟩
      exact ⟨⟨quota, effect, action, manifest, fits, distinct⟩, rfl⟩
    · rintro ⟨⟨-, effect, action, manifest, fits, distinct⟩, rfl⟩
      exact ⟨⟨effect, action, manifest⟩, ⟨fits, distinct⟩, rfl⟩

theorem identity_eq : x.identity C = domainDigest C snapshotDomain (x.quota.identity C) ++
    nul :: (x.text ++ nul :: domainDigest C requirementsDomain x.requirementsJson) := by
  simp [identity, requirementSetIdentity, text, joined, QuotaCall.snapshot]

variable (C) in
/-- No digest of the one call collides with its counterpart of the other. -/
structure Apart (x y : RequirementCall) : Prop where
  entries : Policy.Apart C entriesDomain x.quota.entriesJson y.quota.entriesJson
  snapshots : Policy.Apart C snapshotDomain (x.quota.identity C) (y.quota.identity C)
  requirements : Policy.Apart C requirementsDomain x.requirementsJson y.requirementsJson
  sets : Policy.Apart C requirementSetDomain (x.identity C) (y.identity C)

theorem of_identity (apart : Apart C x y)
    (same : (x.requirementSet C).requirementSetId = (y.requirementSet C).requirementSetId) :
    x.quota.text = y.quota.text ∧ x.quota.entriesJson = y.quota.entriesJson ∧
      x.text = y.text ∧ x.requirementsJson = y.requirementsJson := by
  have whole := apart.sets same
  rw [identity_eq, identity_eq] at whole
  obtain ⟨snapshots, rest⟩ := List.append_inj whole (by simp only [domainDigest_length])
  obtain ⟨texts, tails⟩ := List.append_inj' (List.cons.inj rest).2 (by simp [domainDigest_length])
  obtain ⟨quotas, entries⟩ := QuotaCall.of_identity apart.entries apart.snapshots snapshots
  exact ⟨quotas, entries, texts, apart.requirements (List.cons.inj tails).2⟩

/-- The texts of the two identities have no reading under one delegation but the call's own
arguments. -/
def SoleReading (x : RequirementCall) : Prop :=
  ∀ first ∈ quotaReadings x.quota.text, ∀ second ∈ requirementReadings x.text,
    first.1 = second.1 →
      first = (x.quota.delegationId, x.quota.policyRevision, x.quota.effectiveAuthorityDigest,
        x.quota.scopeKey) ∧
      second = (x.quota.delegationId, x.logicalEffectId, x.actionId, x.manifestDigest)

instance (x : RequirementCall) : Decidable x.SoleReading :=
  inferInstanceAs (Decidable (∀ first ∈ quotaReadings x.quota.text,
    ∀ second ∈ requirementReadings x.text, _ → _))

variable (C) in
/-- Every successful call with the same identity, no digest of the two colliding, has the same
snapshot and the same arguments. -/
def Pinned (x : RequirementCall) : Prop :=
  ∀ (y : RequirementCall) first second, x.compile C = .ok first → y.compile C = .ok second →
    Apart C x y → first.requirementSetId = second.requirementSetId →
    x.quota.compile C = y.quota.compile C ∧ x.logicalEffectId = y.logicalEffectId ∧
      x.actionId = y.actionId ∧ x.manifestDigest = y.manifestDigest ∧
      x.requirements.Perm y.requirements

theorem pinned_iff (accepted : x.Accepted) : x.Pinned C ↔ x.SoleReading := by
  constructor
  · rintro pinned ⟨delegation, revision, authority, scope⟩ first
      ⟨delegation', effect, action, manifest⟩ second rfl
    obtain ⟨again, same⟩ := QuotaCall.reread accepted.quota first
    obtain ⟨texts, canonical⟩ := mem_requirementReadings.mp second
    obtain ⟨y, fields⟩ : ∃ y : RequirementCall,
      y = ⟨⟨delegation, revision, authority, scope, x.quota.entries⟩, effect, action, manifest,
        x.requirements⟩ := ⟨_, rfl⟩
    have also : y.Accepted := by
      rw [fields]
      exact ⟨again, canonical.1, canonical.2.1, canonical.2.2, accepted.fits, accepted.distinct⟩
    have entries : x.quota.entriesJson = y.quota.entriesJson := by rw [fields]; rfl
    have requirements : x.requirementsJson = y.requirementsJson := by rw [fields]; rfl
    have quotas : x.quota.identity C = y.quota.identity C := by
      rw [QuotaCall.identity_eq, QuotaCall.identity_eq, ← entries, ← same, fields]
    have identities : x.identity C = y.identity C := by
      rw [identity_eq, identity_eq, quotas, requirements, texts, fields]
      rfl
    obtain ⟨made, rest⟩ := pinned y _ _ (compile_ok.mpr ⟨accepted, rfl⟩)
      (compile_ok.mpr ⟨also, rfl⟩)
      ⟨fun _ => entries, fun _ => quotas, fun _ => requirements, fun _ => identities⟩
      (congrArg (domainDigest C requirementSetDomain) identities)
    rw [QuotaCall.compile_ok.mpr ⟨accepted.quota, rfl⟩,
      QuotaCall.compile_ok.mpr ⟨also.quota, rfl⟩, Except.ok.injEq] at made
    simp only [QuotaCall.snapshot, CanonicalTechnicalQuotaSnapshot.mk.injEq] at made
    subst fields
    simp only at made rest
    obtain ⟨-, delegations, revisions, authorities, scopes, -⟩ := made
    obtain ⟨effects, actions, manifests, -⟩ := rest
    simp only [delegations, revisions, authorities, scopes, effects, actions, manifests, and_self]
  · intro sole y first second made alsoMade apart same
    obtain ⟨-, rfl⟩ := compile_ok.mp made
    obtain ⟨also, rfl⟩ := compile_ok.mp alsoMade
    obtain ⟨quotas, entries, texts, requirements⟩ := of_identity apart same
    have own := QuotaCall.own_reading also.quota
    have ownSet : (y.quota.delegationId, y.logicalEffectId, y.actionId, y.manifestDigest) ∈
        requirementReadings y.text :=
      mem_requirementReadings.mpr ⟨rfl, also.effect, also.action, also.manifest⟩
    obtain ⟨quota, set⟩ := sole _ (quotas ▸ own) _ (texts ▸ ownSet) rfl
    simp only [Prod.mk.injEq] at quota set
    have perm := printed_perm entryTree_injective entryTree_spelled entries
    refine ⟨?_, set.2.1.symm, set.2.2.1.symm, set.2.2.2.symm,
      printed_perm requirementTree_injective requirementTree_spelled requirements⟩
    have arguments : y.quota = { x.quota with entries := y.quota.entries } := by
      cases known : y.quota
      simp only [known] at quota
      simp only [QuotaCall.mk.injEq, and_true]
      exact quota
    rw [QuotaCall.compile_ok.mpr ⟨also.quota, rfl⟩, arguments, QuotaCall.compile_ok]
    exact ⟨accepted.quota, QuotaCall.snapshot_perm accepted.quota perm⟩

theorem Accepted.perm {requirements : List TechnicalResourceRequirement} (accepted : x.Accepted)
    (perm : x.requirements.Perm requirements) : Accepted { x with requirements } where
  quota := accepted.quota
  effect := accepted.effect
  action := accepted.action
  manifest := accepted.manifest
  fits requirement inside := accepted.fits requirement (perm.mem_iff.mpr inside)
  distinct := (perm.map _).nodup_iff.mp accepted.distinct

theorem requirementSet_perm {requirements : List TechnicalResourceRequirement}
    (accepted : x.Accepted) (perm : x.requirements.Perm requirements) :
    requirementSet C { x with requirements } = x.requirementSet C := by
  have places : (x.requirements.map TechnicalResourceRequirement.place).Nodup := by
    have apart := accepted.distinct.map place_injective
    rwa [List.map_map] at apart
  simp only [requirementSet, identity, requirementsJson, sortOn_eq_of_perm perm places]

/-- The order of the requirements does not matter. -/
theorem compile_perm {requirements : List TechnicalResourceRequirement}
    (perm : x.requirements.Perm requirements) (made : CanonicalTechnicalResourceRequirementSet) :
    compile C { x with requirements } = .ok made ↔ x.compile C = .ok made := by
  rw [compile_ok, compile_ok]
  constructor
  · rintro ⟨accepted, rfl⟩
    exact ⟨accepted.perm perm.symm, (requirementSet_perm accepted perm.symm).symm⟩
  · rintro ⟨accepted, rfl⟩
    exact ⟨accepted.perm perm, (requirementSet_perm accepted perm).symm⟩

/-- Neither does the order of the entries behind the snapshot. -/
theorem compile_quota_perm {entries : List TechnicalQuotaEntry}
    (perm : x.quota.entries.Perm entries) (made : CanonicalTechnicalResourceRequirementSet) :
    compile C { x with quota := { x.quota with entries } } = .ok made ↔ x.compile C = .ok made := by
  have through (z : RequirementCall) : z.compile C = .ok made ↔ ∃ snapshot,
      z.quota.compile C = .ok snapshot ∧ compileTechnicalResourceRequirements C snapshot
        z.logicalEffectId z.actionId z.manifestDigest z.requirements = .ok made := by
    unfold compile
    cases z.quota.compile C <;> simp [bind, Except.bind]
  rw [through, through]
  simp only [QuotaCall.compile_perm perm]

end RequirementCall

/-- An identity says what it was made from exactly when the texts joined in it have no other
reading, and the order of the lists never matters. -/
theorem identities_pinned :
    (∀ (x : QuotaCall) made, x.compile C = .ok made → (x.Pinned C ↔ x.SoleReading)) ∧
    (∀ (x : RequirementCall) made, x.compile C = .ok made → (x.Pinned C ↔ x.SoleReading)) ∧
    (∀ (x : QuotaCall) entries made, x.entries.Perm entries →
      (QuotaCall.compile C { x with entries } = .ok made ↔ x.compile C = .ok made)) ∧
    ∀ (x : RequirementCall) entries requirements made, x.quota.entries.Perm entries →
      x.requirements.Perm requirements →
      (RequirementCall.compile C { x with quota := { x.quota with entries }, requirements } =
        .ok made ↔ x.compile C = .ok made) := by
  refine ⟨?_, ?_, ?_, ?_⟩
  · intro x made known
    exact QuotaCall.pinned_iff (QuotaCall.compile_ok.mp known).1
  · intro x made known
    exact RequirementCall.pinned_iff (RequirementCall.compile_ok.mp known).1
  · intro x entries made perm
    exact QuotaCall.compile_perm perm made
  · intro x entries requirements made perm also
    have first := RequirementCall.compile_quota_perm (C := C) (x := { x with requirements })
      perm made
    exact first.trans (RequirementCall.compile_perm also made)

end Calls

/-! Texts without a NUL have one reading. -/

theorem nul_notMem_toText (i : I64) : nul ∉ i.toText := by
  intro inside
  exact absurd (Json.number_chars (toText_number i) nul inside) (by decide)

theorem QuotaCall.soleReading_of_plain {x : QuotaCall} (delegation : nul ∉ x.delegationId)
    (authority : nul ∉ x.effectiveAuthorityDigest) (scope : nul ∉ x.scopeKey) : x.SoleReading := by
  rintro ⟨d, r, a, s⟩ reading
  obtain ⟨same, -⟩ := mem_quotaReadings.mp reading
  have fields : [d, r.toText, a, s] =
      [x.delegationId, x.policyRevision.toText, x.effectiveAuthorityDigest, x.scopeKey] :=
    joined_sole rfl (by simp [delegation, nul_notMem_toText, authority, scope]) same.symm
  simp only [List.cons.injEq, and_true] at fields
  obtain ⟨rfl, revisions, rfl, rfl⟩ := fields
  rw [toText_injective revisions]

theorem RequirementCall.soleReading_of_plain {x : RequirementCall}
    (quota : x.quota.SoleReading) (delegation : nul ∉ x.quota.delegationId)
    (effect : nul ∉ x.logicalEffectId) (action : nul ∉ x.actionId)
    (manifest : nul ∉ x.manifestDigest) : x.SoleReading := by
  rintro first reading ⟨d, e, a, m⟩ second -
  obtain ⟨same, -⟩ := mem_requirementReadings.mp second
  have fields : [d, e, a, m] =
      [x.quota.delegationId, x.logicalEffectId, x.actionId, x.manifestDigest] :=
    joined_sole rfl (by simp [delegation, effect, action, manifest]) same.symm
  simp only [List.cons.injEq, and_true] at fields
  obtain ⟨rfl, rfl, rfl, rfl⟩ := fields
  exact ⟨quota first reading, rfl⟩

/-! A call in the shape of the program's own, and one whose scope can be cut elsewhere. -/

def plainQuota : QuotaCall where
  delegationId := ['d']
  policyRevision := ⟨7, by decide⟩
  effectiveAuthorityDigest := ['a']
  scopeKey := ['s']
  entries := [⟨.tokens, ['t', 'o', 'k', 'e', 'n'], ⟨5, by decide⟩⟩,
    ⟨.timeMs, ['m', 's'], ⟨9, by decide⟩⟩]

def plainRequirement : RequirementCall where
  quota := plainQuota
  logicalEffectId := ['e']
  actionId := ['a']
  manifestDigest := ['m']
  requirements := [⟨.tokens, ['t', 'o', 'k', 'e', 'n'], ⟨3, by decide⟩⟩]

theorem plainQuota_accepted : plainQuota.Accepted where
  delegation := by decide
  authority := by decide
  scope := by decide
  positive := by decide
  valid := by simp [plainQuota, TechnicalQuotaEntry.Valid, validTechnicalUnit]
  distinct := by decide

theorem plainRequirement_accepted : plainRequirement.Accepted where
  quota := plainQuota_accepted
  effect := by decide
  action := by decide
  manifest := by decide
  fits := by
    have sorted : sortOn TechnicalQuotaEntry.place plainQuota.entries = plainQuota.entries := by
      decide
    intro requirement inside
    obtain rfl := List.mem_singleton.mp inside
    rw [show plainRequirement.quota = plainQuota from rfl, sorted]
    exact ⟨by decide, by simp [validTechnicalUnit], _, rfl, by decide⟩
  distinct := by decide

theorem identities_pinned_plain : plainQuota.Pinned asciiCrates ∧
    plainRequirement.Pinned asciiCrates ∧
    QuotaCall.compile asciiCrates { plainQuota with entries := plainQuota.entries.reverse } =
      .ok (plainQuota.snapshot asciiCrates) ∧
    RequirementCall.compile asciiCrates { plainRequirement with
      quota := { plainQuota with entries := plainQuota.entries.reverse } } =
      .ok (plainRequirement.requirementSet asciiCrates) := by
  have quota := (QuotaCall.compile_ok (C := asciiCrates)).mpr ⟨plainQuota_accepted, rfl⟩
  have set :=
    (RequirementCall.compile_ok (C := asciiCrates)).mpr ⟨plainRequirement_accepted, rfl⟩
  have sole : plainQuota.SoleReading :=
    QuotaCall.soleReading_of_plain (by decide) (by decide) (by decide)
  have also : plainRequirement.SoleReading :=
    RequirementCall.soleReading_of_plain sole (by decide) (by decide) (by decide) (by decide)
  obtain ⟨first, second, third, fourth⟩ := identities_pinned (C := asciiCrates)
  have perm := (List.reverse_perm plainQuota.entries).symm
  exact ⟨(first _ _ quota).mpr sole, (second _ _ set).mpr also, (third _ _ _ perm).mpr quota,
    (fourth _ _ _ _ perm (List.Perm.refl _)).mpr set⟩

/-- The scope of this call can give its first part to the authority digest, and the manifest digest
of the requirement set its first part to the action. -/
def shiftedQuota : QuotaCall := { plainQuota with scopeKey := ['s', nul, 't'] }

def shiftedRequirement : RequirementCall :=
  { plainRequirement with manifestDigest := ['m', nul, 'n'] }

theorem shifted_not_pinned :
    ¬ shiftedQuota.Pinned asciiCrates ∧ ¬ shiftedRequirement.Pinned asciiCrates := by
  have quota : shiftedQuota.Accepted := { plainQuota_accepted with scope := by decide }
  have set : shiftedRequirement.Accepted := { plainRequirement_accepted with manifest := by decide }
  rw [QuotaCall.pinned_iff quota, RequirementCall.pinned_iff set]
  constructor
  · intro sole
    have other := sole (['d'], ⟨7, by decide⟩, ['a', nul, 's'], ['t'])
      (mem_quotaReadings.mpr ⟨rfl, by decide, by decide, by decide, by decide⟩)
    exact absurd other (by decide)
  · intro sole
    have other := sole (['d'], ⟨7, by decide⟩, ['a'], ['s'])
      (mem_quotaReadings.mpr ⟨rfl, by decide, by decide, by decide, by decide⟩)
      (['d'], ['e'], ['a', nul, 'm'], ['n'])
      (mem_requirementReadings.mpr ⟨rfl, by decide, by decide, by decide⟩) rfl
    exact absurd other.2 (by decide)

end CarsinOS.Policy
