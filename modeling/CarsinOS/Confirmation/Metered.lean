import CarsinOS.Confirmation.Effects
import CarsinOS.Policy.Identity
import CarsinOS.Delegation.Available
import CarsinOS.Delegation.Replay

/-! The quota of the confirmed effects over whole histories. Every snapshot a confirmation writes is
the one of its delegation, policy revision and authority, it grants one call, and every effect
requires that call. -/
namespace CarsinOS.Confirmation
open CarsinOS.Lib CarsinOS.Integrity CarsinOS.Receipt CarsinOS.Policy
open CarsinOS.Delegation hiding DecisionRecord

def isClaim : WorkCommand → Bool
  | .claim _ _ _ => true
  | _ => false

/-- A command on the tables of the fence and of the quota. -/
inductive ResourceCommand where
  | claim (J : Coordinator) (actor : Anyhow Unit) (command : ContinuationClaimCommand)
  | work (command : WorkCommand) (other : isClaim command = false)
  | confirm (J : Coordinator) (outside : DangerOutside) (command : AtomicResourceResolutionCommand)
  | prepareRetry (decision : DecisionRecord) (predecessor logicalEffectId actionId : Text)
  | resolveRetry (J : Coordinator) (outside : DecisionOutside)
      (command : AtomicResourceResolutionCommand)

section Run
variable (C : Crates) (K : FenceCrates) (setDigest : ReservationSetDigest)

def ResourceCommand.run (s : ResourceStore) : ResourceCommand → Anyhow ResourceStore
  | .claim J actor command => do
    let (_, fence) ← claimContinuation K J (claimOutside C K setDigest actor command.continuationId s)
      command s.fence
    .ok { s with fence }
  | .work command _ => do
    let fence ← command.run K setDigest s.fence
    .ok { s with fence }
  | .confirm J outside command => do
    let (_, s) ← confirmDangerousActionAttestedAtomically C K J outside command s
    .ok s
  | .prepareRetry decision predecessor logicalEffectId actionId => do
    let prepared ← prepareDuplicateRiskResources C K decision predecessor logicalEffectId actionId s
    .ok { s with preparedRetries := prepared :: s.preparedRetries }
  | .resolveRetry J outside command => do
    let (_, s) ← resolveDuplicateRisk J outside command s
    .ok s

/-- A step of a history: a command, or one that leaves the quota alone. -/
inductive ResourceStep : ResourceStore → Option ResourceCommand → ResourceStore → Prop where
  | command {s s' : ResourceStore} {c : ResourceCommand} (done : c.run C K setDigest s = .ok s') :
      ResourceStep s (some c) s'
  | beside {s : ResourceStore} {fence : Store} (other : Beside s.fence fence)
      (quota : fence.quotaEntries = s.fence.quotaEntries) :
      ResourceStep s none { s with fence }

abbrev ResourceHistory : ResourceStore → List (Option ResourceCommand) → ResourceStore → Prop :=
  Run (ResourceStep C K setDigest)

end Run

/-! What the statements of the fence do to the quota. -/

theorem write_quota {s s' : Store} (write : Write s s') : s'.quotaEntries = s.quotaEntries := by
  cases write with
  | aside other => exact other.quotaEntries
  | event done =>
    obtain ⟨_, rfl⟩ := insertOutbox_ok done
    rfl
  | record follows named sent done =>
    obtain ⟨_, rfl⟩ := insertOutbox_ok sent
    obtain ⟨_, -, -, rfl⟩ := insertOperationHistory_ok done
    rfl
  | leave left done =>
    obtain ⟨-, rfl⟩ := updateContinuations_ok done
    rfl
  | claim found runnable next named sent done =>
    obtain ⟨_, rfl⟩ := insertOutbox_ok sent
    obtain ⟨s₁, s₂, reserved, ⟨-, -, before⟩, -, -, after⟩ := writeClaim_reserves done
    obtain ⟨_, rfl⟩ := insertResourceReservations_ok reserved
    exact after.trans before
  | consume recorded done =>
    obtain ⟨-, -, -, _, rfl, -⟩ := insertActual_ok recorded
    obtain ⟨_, rfl, -⟩ := moveReservation_ok done
    rfl
  | move unsettled done =>
    obtain ⟨_, rfl, -⟩ := moveReservation_ok done
    rfl

/-- No actual is below zero. -/
theorem write_spends {s s' : Store} (write : Write s s')
    (spent : ∀ actual ∈ s.actuals.rows, 0 ≤ actual.amountActual) :
    ∀ actual ∈ s'.actuals.rows, 0 ≤ actual.amountActual := by
  cases write with
  | aside other => rwa [other.actuals]
  | event done =>
    obtain ⟨_, rfl⟩ := insertOutbox_ok done
    exact spent
  | record follows named sent done =>
    obtain ⟨_, rfl⟩ := insertOutbox_ok sent
    obtain ⟨_, -, -, rfl⟩ := insertOperationHistory_ok done
    exact spent
  | leave left done =>
    obtain ⟨-, rfl⟩ := updateContinuations_ok done
    exact spent
  | claim found runnable next named sent done =>
    obtain ⟨_, rfl⟩ := insertOutbox_ok sent
    obtain ⟨s₁, s₂, reserved, ⟨-, before, -⟩, -, after, -⟩ := writeClaim_reserves done
    obtain ⟨_, rfl⟩ := insertResourceReservations_ok reserved
    have same := after.trans before
    rwa [same]
  | consume recorded done =>
    obtain ⟨-, positive, -, actuals, rfl, added⟩ := insertActual_ok recorded
    obtain ⟨_, rfl, -⟩ := moveReservation_ok done
    intro actual member
    simp only [added, List.mem_append, List.mem_singleton] at member
    rcases member with before | rfl
    · exact spent actual before
    · exact positive
  | move unsettled done =>
    obtain ⟨_, rfl, -⟩ := moveReservation_ok done
    exact spent

/-- The reservations, the actuals and the quota are left alone. -/
structure SameResources (s s' : Store) : Prop where
  reservations : s'.reservations = s.reservations
  actuals : s'.actuals = s.actuals
  quotaEntries : s'.quotaEntries = s.quotaEntries

theorem SameResources.refl (s : Store) : SameResources s s := ⟨rfl, rfl, rfl⟩

theorem SameResources.trans {s t u : Store} (first : SameResources s t) (second : SameResources t u) :
    SameResources s u :=
  ⟨second.reservations.trans first.reservations, second.actuals.trans first.actuals,
    second.quotaEntries.trans first.quotaEntries⟩

theorem insertOptional_resources {T : Type} {insert : Store → T → Anyhow Store} {s s' : Store}
    {item : Option T} (each : ∀ row, insert s row = .ok s' → SameResources s s')
    (done : s.insertOptional insert item = .ok s') : SameResources s s' := by
  cases item with
  | none =>
    cases done
    exact .refl _
  | some row => exact each row done

/-- What a resolution appends was checked. -/
theorem resolveDecision_resources {J : Coordinator} {outside : DecisionOutside}
    {command : AtomicDecisionResolutionCommand} {s s' : Store} {written : AtomicWrite Bool}
    (done : resolveDecision J outside command s = .ok (written, s')) :
    SameResources s s' ∧ ∀ value, written = .appended value → outside.authority = .ok () := by
  unfold resolveDecision at done
  rcases mutate_cases done with ⟨rfl, rfl⟩ | ⟨value, ran, rfl⟩ | ⟨value, next, d, ran, rfl, rfl, -⟩
  · exact ⟨.refl _, nofun⟩
  · split at ran
    · cases ran
      exact ⟨.refl _, nofun⟩
    · simp only [bind_ok] at ran
      obtain ⟨-, -, -, -, -, -, _, -, _, -, _, -, same⟩ := ran
      cases same
  · split at ran
    · cases ran
    · simp only [bind_ok, ensure_ok] at ran
      obtain ⟨-, -, _, authority, -, -, s₁, opened, s₂, planned, s₃, sent, same⟩ := ran
      obtain ⟨-, rfl⟩ := Prod.mk.inj (Except.ok.inj same)
      have first : SameResources s s₁ := by
        refine insertOptional_resources (fun c step => ?_) opened
        simp only [bind_ok, Store.promoteDecisionAction] at step
        obtain ⟨t, inserted, u, updated, -, -, same⟩ := step
        cases same
        obtain ⟨-, _, -, rfl⟩ := insertContinuation_ok inserted
        cases updateBranches_ok updated
        exact ⟨rfl, rfl, rfl⟩
      have second : SameResources s₁ s₂ := by
        refine insertOptional_resources (fun effect step => ?_) planned
        unfold Store.insertPlannedLogicalEffect at step
        split at step <;> cases step
        exact ⟨rfl, rfl, rfl⟩
      obtain ⟨_, rfl⟩ := insertOutbox_ok sent
      have both := first.trans second
      exact ⟨⟨both.reservations, both.actuals, both.quotaEntries⟩, fun _ _ => authority⟩

/-! What is compiled for an effect. -/

section Shared
variable (C : Crates)

/-- The snapshot of a delegation, a policy revision and an authority. No effect is part of it. -/
def sharedQuota (delegationId : Text) (policyRevision : I64) (authorityDigest : Text) : QuotaCall :=
  ⟨delegationId, policyRevision, authorityDigest, delegationScope, [quotaEntry C]⟩

def sharedSnapshotId (delegationId : Text) (policyRevision : I64) (authorityDigest : Text) : Text :=
  ((sharedQuota C delegationId policyRevision authorityDigest).snapshot C).quotaSnapshotId

/-- A snapshot and a requirement set of one call each. -/
def Metering (snapshot : CanonicalTechnicalQuotaSnapshot)
    (set : CanonicalTechnicalResourceRequirementSet) : Prop :=
  ∃ delegationId policyRevision authorityDigest logicalEffectId actionId manifestDigest,
    snapshot = (sharedQuota C delegationId policyRevision authorityDigest).snapshot C ∧
    set = RequirementCall.requirementSet C ⟨sharedQuota C delegationId policyRevision
      authorityDigest, logicalEffectId, actionId, manifestDigest, [requirement C]⟩

end Shared

theorem compiled_ok {α : Type} {invalid : String} {outcome : Except String α} {value : α} :
    compiled invalid outcome = .ok value ↔ outcome = .ok value := by
  cases outcome <;> simp [compiled, bail]

theorem sortOn_single {α κ : Type} [LinearOrder κ] (key : α → κ) (a : α) : sortOn key [a] = [a] :=
  List.perm_singleton.mp (sortOn_perm key [a])

section Compiled
variable {C : Crates} {K : FenceCrates}

theorem sharedQuota_entries (delegationId authorityDigest : Text) (policyRevision : I64) :
    ((sharedQuota C delegationId policyRevision authorityDigest).snapshot C).entries =
      [quotaEntry C] :=
  sortOn_single TechnicalQuotaEntry.place (quotaEntry C)

theorem compiled_metering {delegationId authorityDigest logicalEffectId actionId manifestDigest : Text}
    {policyRevision : I64} {entries : List TechnicalQuotaEntry}
    {snapshot : CanonicalTechnicalQuotaSnapshot} {set : CanonicalTechnicalResourceRequirementSet}
    (limited : compileTechnicalQuotaSnapshot C delegationId policyRevision authorityDigest
      delegationScope entries = .ok snapshot)
    (asked : compileTechnicalResourceRequirements C snapshot logicalEffectId actionId manifestDigest
      [requirement C] = .ok set)
    (only : ∀ entry ∈ entries, entry = quotaEntry C) : Metering C snapshot set := by
  let call : QuotaCall :=
    ⟨delegationId, policyRevision, authorityDigest, delegationScope, entries⟩
  have made : call.compile C = .ok snapshot := limited
  have both : RequirementCall.compile C ⟨call, logicalEffectId, actionId, manifestDigest,
      [requirement C]⟩ = .ok set := by
    rw [RequirementCall.compile, made]
    exact asked
  obtain ⟨accepted, same⟩ := RequirementCall.compile_ok.mp both
  -- The requirement finds an entry, and two entries would be duplicates.
  obtain ⟨-, -, entry, found, -⟩ := accepted.fits _ (List.mem_singleton_self _)
  have inside : entry ∈ entries :=
    (sortOn_perm _ _).mem_iff.mp (List.mem_of_find?_eq_some found)
  have sole : entries = [quotaEntry C] := by
    have alike := List.eq_replicate_iff.mpr ⟨rfl, only⟩
    have distinct : (entries.map fun entry => (entry.kind, entry.unit)).Nodup :=
      accepted.quota.distinct
    rw [alike, List.map_replicate, List.nodup_replicate] at distinct
    have positive := List.length_pos_of_mem inside
    rw [alike, show entries.length = 1 by omega]
    rfl
  subst sole
  exact ⟨delegationId, policyRevision, authorityDigest, logicalEffectId, actionId, manifestDigest,
    (QuotaCall.compile_ok.mp made).2, same⟩

theorem deriveExactDangerousEffect_metering {decision : DecisionRecord} {d : DelegationRecord}
    {a : ChallengeAlternative} {material : LeafMaterial} {action : ActionBranchRecord}
    {occurredAt runtimeHostGeneration globalStopEpoch : Int}
    {prepared : PreparedExactDangerousEffect}
    (done : deriveExactDangerousEffect C K decision d a material action occurredAt
      runtimeHostGeneration globalStopEpoch = .ok prepared) :
    Metering C prepared.technicalQuotaSnapshot prepared.technicalResourceRequirements := by
  simp only [deriveExactDangerousEffect, bind_ok, compiled_ok] at done
  obtain ⟨authorityDigest, -, snapshot, limited, set, asked, same⟩ := done
  cases same
  exact compiled_metering limited asked fun entry member => List.mem_singleton.mp member

theorem prepareExactDangerousEffect_metering {outside : DangerOutside} {actionId : Text}
    {occurredAt runtimeHostGeneration globalStopEpoch : Int} {s : Store}
    {prepared : PreparedExactDangerousEffect}
    (done : prepareExactDangerousEffectFromConn C K outside actionId occurredAt
      runtimeHostGeneration globalStopEpoch s = .ok (some prepared)) :
    Metering C prepared.technicalQuotaSnapshot prepared.technicalResourceRequirements := by
  unfold prepareExactDangerousEffectFromConn at done
  split at done
  · cases done
  split at done
  · cases done
  simp only [bind_ok] at done
  obtain ⟨-, -, done⟩ := done
  split at done
  · split at done
    · cases done
    · simp only [bind_ok] at done
      obtain ⟨-, -, _, -, _, -, effect, derived, same⟩ := done
      cases same
      exact deriveExactDangerousEffect_metering derived
  · cases done

/-- A resolution brings either no quota or the shared one. -/
def BringsMetering (C : Crates) (command : AtomicResourceResolutionCommand) : Prop :=
  command.technicalQuotaSnapshot = none ∧ command.technicalResourceRequirements = none ∨
    ∃ snapshot set, command.technicalQuotaSnapshot = some snapshot ∧
      command.technicalResourceRequirements = some set ∧ Metering C snapshot set

theorem validateDangerousEffect_metering {outside : DangerOutside}
    {command : AtomicResourceResolutionCommand} {s : Store}
    (parts : validateEffectParts command = .ok ())
    (valid : validateDangerousEffect C K outside command s = .ok ()) : BringsMetering C command := by
  simp only [validateEffectParts, bind_ok, ensure_ok] at parts
  obtain ⟨-, continued, -, snapshot, required⟩ := parts
  unfold validateDangerousEffect at valid
  cases effect : command.logicalEffect with
  | none =>
    rw [effect] at snapshot required
    exact .inl ⟨Option.isNone_iff_eq_none.mp (by simpa using snapshot.symm),
      Option.isNone_iff_eq_none.mp (by simpa using required.symm)⟩
  | some e =>
    obtain ⟨c, continuation⟩ := Option.isSome_iff_exists.mp (continued (by rw [effect]; rfl))
    simp only [continuation, effect, bind_ok, required_ok, ensure_ok] at valid
    obtain ⟨_, prepared, expected, rfl, -, -, limited, asked⟩ := valid
    exact .inr ⟨_, _, limited, asked, prepareExactDangerousEffect_metering prepared⟩

/-! The invariant. -/

def quotaKey (C : Crates) (quotaSnapshotId : Text) : Text × Text × Text :=
  (quotaSnapshotId, TechnicalResourceKind.connectorCalls.asStr.toList, quotaUnit C)

/-- Every entry grants one call, every snapshot is a shared one and every requirement set asks for
one call of an entry that is there. -/
structure Metered (C : Crates) (s : ResourceStore) : Prop where
  sound : ResourcesSound s.fence
  spent : ∀ actual ∈ s.fence.actuals.rows, 0 ≤ actual.amountActual
  entries : ∀ quota ∈ s.fence.quotaEntries.rows,
    quota = ResourceStore.entryRow quota.quotaSnapshotId (quotaEntry C)
  snapshots : ∀ row ∈ s.quotaSnapshots.rows, ∃ delegationId policyRevision authorityDigest,
    row = ResourceStore.snapshotRow
      ((sharedQuota C delegationId policyRevision authorityDigest).snapshot C)
  sets : ∀ set ∈ s.requirementSets.rows, set.requirements = [requirement C] ∧
    (s.fence.quotaEntries.find? (quotaKey C set.quotaSnapshotId)).isSome = true
  prepared : ∀ resources ∈ s.preparedRetries, Metering C resources.1 resources.2

theorem Metered.limits {s : ResourceStore} (metered : Metered C s) :
    ∀ quota ∈ s.fence.quotaEntries.rows, quota.amountLimit = 1 := by
  intro quota member
  rw [metered.entries quota member]
  rfl

/-- The fence may move on while the quota stays. -/
theorem Metered.with_fence {s : ResourceStore} {fence : Store} (metered : Metered C s)
    (sound : ResourcesSound fence) (spent : ∀ actual ∈ fence.actuals.rows, 0 ≤ actual.amountActual)
    (quota : fence.quotaEntries = s.fence.quotaEntries) : Metered C { s with fence } where
  sound
  spent
  entries := by rw [quota]; exact metered.entries
  snapshots := metered.snapshots
  sets := by rw [quota]; exact metered.sets
  prepared := metered.prepared

theorem writes_metered {s : ResourceStore} {fence : Store} (writes : Writes s.fence fence)
    (metered : Metered C s) : Metered C { s with fence } := by
  have quota : fence.quotaEntries = s.fence.quotaEntries :=
    writes_keep (P := fun t => t.quotaEntries = s.fence.quotaEntries)
      (fun _ _ write held => (write_quota write).trans held) writes rfl
  exact metered.with_fence (writes_keep (fun _ _ write => write_sound write) writes metered.sound)
    (writes_keep (fun _ _ write => write_spends write) writes metered.spent) quota

theorem sameResources_metered {s : ResourceStore} {fence : Store}
    (same : SameResources s.fence fence) (metered : Metered C s) : Metered C { s with fence } :=
  metered.with_fence (metered.sound.of_eq same.reservations same.actuals same.quotaEntries)
    (same.actuals ▸ metered.spent) same.quotaEntries

/-- An entry that is opened is a new one, for one call. -/
theorem insertQuotaEntry_metered {s s' : ResourceStore} {quotaSnapshotId : Text}
    (done : ResourceStore.insertQuotaEntry quotaSnapshotId s (quotaEntry C) = .ok s')
    (metered : Metered C s) : Metered C s' := by
  unfold ResourceStore.insertQuotaEntry at done
  split at done
  · cases done
    exact metered
  simp only [bind_ok, Store.insertQuotaEntry] at done
  obtain ⟨fence, ⟨-, -, inserted⟩, same⟩ := done
  cases same
  split at inserted <;> cases inserted
  rename_i quotaEntries added
  have rows := Table.insert?_rows added
  have entries : ∀ quota ∈ quotaEntries.rows,
      quota = ResourceStore.entryRow quota.quotaSnapshotId (quotaEntry C) := by
    intro quota member
    rw [rows, List.mem_append, List.mem_singleton] at member
    rcases member with before | rfl
    · exact metered.entries quota before
    · rfl
  constructor
  · have grown : s.fence.quotaEntries.rows <+: quotaEntries.rows := by
      rw [rows]
      exact List.prefix_append _ _
    refine opened_sound (s := s.fence) rfl rfl grown (fun quota member => ?_) metered.sound
    rw [entries quota member]
    exact Int.one_nonneg
  · exact metered.spent
  · exact entries
  · exact metered.snapshots
  · intro set member
    obtain ⟨asks, opened⟩ := metered.sets set member
    refine ⟨asks, ?_⟩
    obtain ⟨quota, found⟩ := Option.isSome_iff_exists.mp opened
    have stored : quota ∈ quotaEntries.rows := by
      rw [rows]
      exact List.mem_append_left _ (Table.find?_mem found)
    rw [← Table.find?_key found, Table.find?_of_mem stored]
    rfl
  · exact metered.prepared

theorem insertSnapshotRow_metered {s s' : ResourceStore} {row : TechnicalQuotaSnapshotRecord}
    (done : s.insertSnapshotRow row = .ok s')
    (shared : ∃ delegationId policyRevision authorityDigest, row = ResourceStore.snapshotRow
      ((sharedQuota C delegationId policyRevision authorityDigest).snapshot C))
    (metered : Metered C s) : Metered C s' := by
  unfold ResourceStore.insertSnapshotRow at done
  split at done
  · cases done
    exact metered
  simp only [bind_ok, required_ok] at done
  obtain ⟨-, -, -, -, -, -, quotaSnapshots, inserted, same⟩ := done
  cases same
  refine ⟨metered.sound, metered.spent, metered.entries, ?_, metered.sets, metered.prepared⟩
  intro other member
  rw [Table.insert?_rows inserted, List.mem_append, List.mem_singleton] at member
  rcases member with before | rfl
  · exact metered.snapshots other before
  · exact shared

theorem insertRequirements_metered {s s' : ResourceStore}
    {set : CanonicalTechnicalResourceRequirementSet}
    (done : s.insertTechnicalResourceRequirements set = .ok s')
    (asks : set.requirements = [requirement C]) (metered : Metered C s) : Metered C s' := by
  simp only [ResourceStore.insertTechnicalResourceRequirements, bind_ok, ensure_ok, required_ok]
    at done
  obtain ⟨-, -, -, -, -, opened, requirementSets, inserted, same⟩ := done
  cases same
  refine ⟨metered.sound, metered.spent, metered.entries, metered.snapshots, ?_, metered.prepared⟩
  intro other member
  rw [Table.insert?_rows inserted, List.mem_append, List.mem_singleton] at member
  rcases member with before | rfl
  · exact metered.sets other before
  · rw [asks, List.forall_mem_singleton] at opened
    exact ⟨asks, opened.2⟩

theorem withResources_metered {s s' : ResourceStore} {command : AtomicResourceResolutionCommand}
    {written : AtomicWrite Bool} (done : withResources command written s = .ok s')
    (brings : ∀ value, written = .appended value → BringsMetering C command)
    (metered : Metered C s) : Metered C s' := by
  unfold withResources at done
  split at done
  · rename_i value
    rcases brings value rfl with ⟨noSnapshot, noSet⟩ | ⟨snapshot, set, limited, asked, metering⟩
    · rw [noSnapshot, noSet] at done
      cases done
      exact metered
    · rw [limited, asked] at done
      obtain ⟨delegationId, policyRevision, authorityDigest, _, _, _, rfl, rfl⟩ := metering
      simp only [ResourceStore.insertResources, bind_ok, ResourceStore.insertTechnicalQuotaSnapshot,
        sharedQuota_entries, List.foldlM_cons, List.foldlM_nil] at done
      obtain ⟨u, ⟨t, headed, v, opened, same⟩, bound⟩ := done
      cases same
      have headed := insertSnapshotRow_metered headed
        ⟨delegationId, policyRevision, authorityDigest, rfl⟩ metered
      exact insertRequirements_metered bound
        (sortOn_single TechnicalResourceRequirement.place _) (insertQuotaEntry_metered opened headed)
  · cases done
    exact metered

theorem confirm_metered {J : Coordinator} {outside : DangerOutside}
    {command : AtomicResourceResolutionCommand} {s s' : ResourceStore} {written : AtomicWrite Bool}
    (done : confirmDangerousActionAttestedAtomically C K J outside command s = .ok (written, s'))
    (metered : Metered C s) : Metered C s' := by
  simp only [confirmDangerousActionAttestedAtomically, bind_ok] at done
  obtain ⟨_, parts, ⟨written', fence⟩, resolved, t, added, same⟩ := done
  cases same
  obtain ⟨kept, checked⟩ := resolveDecision_resources resolved
  refine withResources_metered added (fun value appended => ?_) (sameResources_metered kept metered)
  have authority := checked value appended
  simp only [bind_ok] at authority
  obtain ⟨_, valid, -⟩ := authority
  exact validateDangerousEffect_metering parts valid

theorem entryOfRow_quota {quotaSnapshotId : Text} {entry : TechnicalQuotaEntry}
    (read : entryOfRow (ResourceStore.entryRow quotaSnapshotId (quotaEntry C)) = .ok entry) :
    entry = quotaEntry C := by
  simp only [entryOfRow, bind_ok, required_ok] at read
  obtain ⟨kind, named, limit, fits, same⟩ := read
  cases same
  have kinds : kind = .connectorCalls := by
    have texts : kind.asStr.toList = (ResourceStore.entryRow quotaSnapshotId
        (quotaEntry C)).technicalResourceKind := by simpa using List.find?_some named
    have label : (ResourceStore.entryRow quotaSnapshotId (quotaEntry C)).technicalResourceKind =
        TechnicalResourceKind.connectorCalls.asStr.toList := by
      rw [ResourceStore.entryRow, quotaEntry]
    exact asStr_injective (texts.trans label)
  have limits : limit = (quotaEntry C).limit := by
    rw [I64.ofInt?_some] at fits
    exact Subtype.ext fits.symm
  rw [kinds, limits]
  rfl

/-- A retry copies the one call of its predecessor. -/
theorem prepareDuplicateRisk_metering {decision : DecisionRecord}
    {predecessor logicalEffectId actionId : Text} {s : ResourceStore}
    {resources : CanonicalTechnicalQuotaSnapshot × CanonicalTechnicalResourceRequirementSet}
    (done : prepareDuplicateRiskResources C K decision predecessor logicalEffectId actionId s =
      .ok resources) (metered : Metered C s) : Metering C resources.1 resources.2 := by
  simp only [prepareDuplicateRiskResources, bind_ok, required_ok, compiled_ok] at done
  obtain ⟨set, found, _, -, -, -, _, -, _, -, entries, read, snapshot, limited, made, asked, same⟩ :=
    done
  cases same
  have stored : set ∈ s.requirementSets.rows := List.mem_of_find?_eq_some found
  rw [(metered.sets set stored).1] at asked
  refine compiled_metering limited asked fun entry member => ?_
  obtain ⟨row, kept, known⟩ := forall₂_value (mapM_ok.mp read).flip member
  rw [metered.entries row (List.mem_of_mem_filter kept)] at known
  exact entryOfRow_quota known

theorem resolveRetry_metered {J : Coordinator} {outside : DecisionOutside}
    {command : AtomicResourceResolutionCommand} {s s' : ResourceStore} {written : AtomicWrite Bool}
    (done : resolveDuplicateRisk J outside command s = .ok (written, s'))
    (metered : Metered C s) : Metered C s' := by
  simp only [resolveDuplicateRisk, bind_ok, ensure_ok] at done
  obtain ⟨-, -, -, ⟨resources, member, limited, asked⟩, ⟨_, fence⟩, resolved, t, added, same⟩ := done
  cases same
  refine withResources_metered added (fun _ _ => ?_)
    (sameResources_metered (resolveDecision_resources resolved).1 metered)
  exact .inr ⟨_, _, limited, asked, metered.prepared resources member⟩

theorem resourceStep_metered {setDigest : ReservationSetDigest} {s s' : ResourceStore}
    {label : Option ResourceCommand} (step : ResourceStep C K setDigest s label s')
    (metered : Metered C s) : Metered C s' := by
  cases step with
  | beside other quota =>
    exact metered.with_fence (beside_sound other metered.sound)
      (other.actuals ▸ metered.spent) quota
  | command done =>
    rename_i c
    cases c with
    | claim J actor command =>
      simp only [ResourceCommand.run, bind_ok] at done
      obtain ⟨⟨_, fence⟩, claims, same⟩ := done
      cases same
      exact writes_metered (claimContinuation_writes claims) metered
    | work command other =>
      simp only [ResourceCommand.run, bind_ok] at done
      obtain ⟨fence, ran, same⟩ := done
      cases same
      exact writes_metered (workCommand_writes ran) metered
    | confirm J outside command =>
      simp only [ResourceCommand.run, bind_ok] at done
      obtain ⟨_, confirmed, same⟩ := done
      cases same
      exact confirm_metered confirmed metered
    | prepareRetry decision predecessor logicalEffectId actionId =>
      simp only [ResourceCommand.run, bind_ok] at done
      obtain ⟨resources, prepares, same⟩ := done
      cases same
      refine ⟨metered.sound, metered.spent, metered.entries, metered.snapshots, metered.sets, ?_⟩
      exact List.forall_mem_cons.mpr
        ⟨prepareDuplicateRisk_metering prepares metered, metered.prepared⟩
    | resolveRetry J outside command =>
      simp only [ResourceCommand.run, bind_ok] at done
      obtain ⟨_, resolved, same⟩ := done
      cases same
      exact resolveRetry_metered resolved metered

theorem initial_metered : Metered C ResourceStore.initial where
  sound := initial_sound
  spent _ member := by cases member
  entries _ member := by cases member
  snapshots _ member := by cases member
  sets _ member := by cases member
  prepared _ member := by cases member

theorem resourceHistory_metered {setDigest : ReservationSetDigest}
    {labels : List (Option ResourceCommand)} {s : ResourceStore}
    (reached : ResourceHistory C K setDigest ResourceStore.initial labels s) : Metered C s :=
  run_invariant (fun u _ _ (held : Metered C u) step => resourceStep_metered step held)
    initial_metered reached

end Compiled

end CarsinOS.Confirmation
