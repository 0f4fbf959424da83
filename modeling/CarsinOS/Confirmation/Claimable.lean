import CarsinOS.Confirmation.Metered

/-! The claim of a confirmed effect: it is refused for want of technical resources where another
claim holds, or has used, the one call of the snapshot they share. -/
namespace CarsinOS.Confirmation
open CarsinOS.Lib CarsinOS.Integrity CarsinOS.Receipt CarsinOS.Policy
open CarsinOS.Delegation hiding DecisionRecord

section Claim
variable (C : Crates) (K : FenceCrates) (setDigest : ReservationSetDigest) (J : Coordinator)
  (actor : Anyhow Unit) (command : ContinuationClaimCommand) (s : ResourceStore)

/-- The claim is refused for want of technical resources. -/
def Refused : Prop :=
  ∃ fence, claimContinuation K J (claimOutside C K setDigest actor command.continuationId s) command
    s.fence = .ok (.lost .technicalResourceUnavailable, fence)

/-- The claim passes all checks before that of the technical resources: it would be refused if there
were none. -/
def ComesToQuota : Prop :=
  ∃ fence, claimContinuation K J ⟨actor, .ok none⟩ command s.fence =
    .ok (.lost .technicalResourceUnavailable, fence)

/-- What was frozen for the planned effect of a continuation of this delegation. -/
def FrozenFor (continuationId : Text) (d : DelegationRecord)
    (set : CanonicalTechnicalResourceRequirementSet) : Prop :=
  ∃ continuation action effect, s.fence.getContinuation continuationId = some continuation ∧
    s.fence.loadAction continuation.actionId = some action ∧
    s.fence.getDelegation continuation.delegationId = some d ∧
    plannedEffects s.fence continuation = [effect] ∧
    frozenResources C K continuation action d effect s = .ok set

end Claim

/-- A reservation under the entry is open, or was settled with an actual above zero. -/
def Spent (s : Store) (entry : Text × Text × Text) : Prop :=
  ∃ row ∈ s.reservations.rows, Draws entry row.identity = true ∧
    (row.status = .reserved ∨ row.status = .reconciliationRequired ∨
      ∃ actual ∈ s.actuals.rows, actual.reservationId = row.identity.reservationId ∧
        0 < actual.amountActual)

/-! What a claim does with the answer of its resource check. -/

theorem claimRunnable_unavailable {K : FenceCrates} {outside : ClaimOutside}
    {command : ContinuationClaimCommand} {continuation : ContinuationRecord} {s s' : Store}
    (done : claimRunnable K outside command continuation s =
      .ok (.noAppend (.lost .technicalResourceUnavailable), s')) :
    outside.resourceBundle = .ok none := by
  unfold claimRunnable at done
  split at done
  · cases done
  split at done
  · cases done
  simp only [bind_ok] at done
  obtain ⟨-, -, d, -, -, -, -, -, done⟩ := done
  split at done
  · simp only [bind_ok] at done
    obtain ⟨-, -, _, -, _, -, same⟩ := done
    cases same
  · simp only [bind_ok] at done
    obtain ⟨-, -, bundle, asked, done⟩ := done
    cases bundle with
    | none => exact asked
    | some bundle =>
      simp only [bind_ok] at done
      obtain ⟨_, -, _, -, _, -, same⟩ := done
      cases same

/-- No other check of a claim gives that reason. -/
theorem claimMutation_unavailable {K : FenceCrates} {outside : ClaimOutside}
    {command : ContinuationClaimCommand} {s s' : Store}
    (done : claimMutation K outside command s =
      .ok (.noAppend (.lost .technicalResourceUnavailable), s')) :
    outside.resourceBundle = .ok none := by
  unfold claimMutation at done
  split at done
  · split at done <;> cases done
  split at done
  · cases done
  split at done
  · cases done
  split at done
  · cases done
  split at done
  · cases done
  split at done
  · cases done
  exact claimRunnable_unavailable done

theorem claimContinuation_unavailable {K : FenceCrates} {J : Coordinator} {outside : ClaimOutside}
    {command : ContinuationClaimCommand} {s s' : Store}
    (done : claimContinuation K J outside command s =
      .ok (.lost .technicalResourceUnavailable, s')) : outside.resourceBundle = .ok none := by
  simp only [claimContinuation, bind_ok] at done
  obtain ⟨-, -, ⟨written, t⟩, ran, outcome, mapped, same⟩ := done
  obtain ⟨rfl, rfl⟩ := Prod.mk.inj (Except.ok.inj same)
  rcases mutate_cases ran with ⟨rfl, -⟩ | ⟨value, step, rfl⟩ | ⟨value, -, -, -, rfl, -⟩
  · cases mapped
  · cases value <;> cases mapped
    exact claimMutation_unavailable step
  · cases value <;> cases mapped

theorem refused_iff_bundle {C : Crates} {K : FenceCrates} {setDigest : ReservationSetDigest}
    {J : Coordinator} {actor : Anyhow Unit} {command : ContinuationClaimCommand}
    {s : ResourceStore} : Refused C K setDigest J actor command s ↔
      ComesToQuota K J actor command s ∧
        (claimOutside C K setDigest actor command.continuationId s).resourceBundle = .ok none := by
  have outside (exhausted : (claimOutside C K setDigest actor command.continuationId
      s).resourceBundle = .ok none) :
      claimOutside C K setDigest actor command.continuationId s = ⟨actor, .ok none⟩ := by
    rw [← exhausted]
    rfl
  constructor
  · rintro ⟨fence, done⟩
    have exhausted := claimContinuation_unavailable done
    refine ⟨⟨fence, ?_⟩, exhausted⟩
    rw [← outside exhausted]
    exact done
  · rintro ⟨⟨fence, done⟩, exhausted⟩
    refine ⟨fence, ?_⟩
    rw [outside exhausted]
    exact done

/-! The use of an entry of one call. -/

section Metered
variable {C : Crates} {K : FenceCrates} {s : ResourceStore}

theorem charge_sound (metered : Metered C s) {row : TechnicalResourceReservationRecord}
    (member : row ∈ s.fence.reservations.rows) : 0 ≤ s.fence.charge row := by
  by_cases settled : row.status = .settled
  · obtain ⟨actual, only, -⟩ := (settled_iff metered.sound member).mp settled
    have stored : actual ∈ s.fence.actuals.rows :=
      List.mem_of_mem_filter (by rw [only]; exact List.mem_singleton_self _)
    have spent := metered.spent actual stored
    simpa only [Store.charge, settled, only, List.map_cons, List.map_nil, List.sum_cons,
      List.sum_nil, add_zero] using spent
  · exact charge_nonneg metered.sound member settled

/-- A reservation takes from its entry where it is open, or was settled with an actual above
zero. -/
theorem charge_pos_iff (metered : Metered C s) {row : TechnicalResourceReservationRecord}
    (member : row ∈ s.fence.reservations.rows) : 0 < s.fence.charge row ↔
      (row.status = .reserved ∨ row.status = .reconciliationRequired ∨
        ∃ actual ∈ s.fence.actuals.rows, actual.reservationId = row.identity.reservationId ∧
          0 < actual.amountActual) := by
  have positive := metered.sound.positive row member
  have own (actual : TechnicalResourceActualRecord) (stored : actual ∈ s.fence.actuals.rows)
      (named : actual.reservationId = row.identity.reservationId) : row.status = .settled := by
    obtain ⟨row₀, present, same, settled, -⟩ := metered.sound.recorded actual stored
    obtain rfl : row₀ = row := Table.eq_of_key present member (same.trans named)
    exact settled
  cases status : row.status with
  | reserved => simpa [Store.charge, status] using positive
  | reconciliationRequired => simpa [Store.charge, status] using positive
  | settled =>
    obtain ⟨actual, only, -⟩ := (settled_iff metered.sound member).mp status
    have inside : actual ∈ s.fence.actuals.rows.filter
        (·.reservationId = row.identity.reservationId) := by
      rw [only]
      exact List.mem_singleton_self _
    obtain ⟨stored, named⟩ := List.mem_filter.mp inside
    have charged : s.fence.charge row = actual.amountActual := by
      simp only [Store.charge, status, only, List.map_cons, List.map_nil, List.sum_cons,
        List.sum_nil, add_zero]
    rw [charged]
    constructor
    · intro above
      exact .inr (.inr ⟨actual, stored, of_decide_eq_true named, above⟩)
    · rintro (other | other | ⟨other, also, same, above⟩)
      · cases other
      · cases other
      · have listed : other ∈ s.fence.actuals.rows.filter
            (·.reservationId = row.identity.reservationId) :=
          List.mem_filter.mpr ⟨also, decide_eq_true same⟩
        rw [only, List.mem_singleton] at listed
        rwa [← listed]
  | released | expired =>
    have uncharged : s.fence.charge row = 0 := by simp only [Store.charge, status]
    rw [uncharged]
    constructor
    · intro above
      exact absurd above (lt_irrefl 0)
    · rintro (other | other | ⟨actual, stored, named, -⟩)
      · cases other
      · cases other
      · have settled := own actual stored named
        rw [status] at settled
        cases settled

theorem spent_iff_used (metered : Metered C s) (entry : Text × Text × Text) :
    Spent s.fence entry ↔ 0 < s.fence.used entry := by
  have charged (amount : Int) (inside : amount ∈ (s.fence.reservations.rows.filter fun row =>
      Draws entry row.identity).map s.fence.charge) : 0 ≤ amount := by
    obtain ⟨row, kept, rfl⟩ := List.mem_map.mp inside
    exact charge_sound metered (List.mem_of_mem_filter kept)
  constructor
  · rintro ⟨row, member, draws, taken⟩
    have above := (charge_pos_iff metered member).mpr taken
    have within : s.fence.charge row ≤ s.fence.used entry :=
      List.single_le_sum charged _
        (List.mem_map.mpr ⟨row, List.mem_filter.mpr ⟨member, draws⟩, rfl⟩)
    omega
  · intro above
    by_contra free
    have nothing : s.fence.used entry = 0 := by
      apply List.sum_eq_zero
      intro amount inside
      have least := charged amount inside
      obtain ⟨row, kept, rfl⟩ := List.mem_map.mp inside
      obtain ⟨member, draws⟩ := List.mem_filter.mp kept
      by_contra taken
      exact free ⟨row, member, draws, (charge_pos_iff metered member).mp (by omega)⟩
    omega

/-- The one call of the snapshot is refused once it is taken. -/
theorem reserve_refused_iff (metered : Metered C s)
    {set : CanonicalTechnicalResourceRequirementSet} (stored : set ∈ s.requirementSets.rows)
    (logicalEffectId : Text) :
    reserveRequirements K s.fence logicalEffectId set.quotaSnapshotId set.requirements = .ok none ↔
      Spent s.fence (quotaKey C set.quotaSnapshotId) := by
  obtain ⟨asks, opened⟩ := metered.sets set stored
  obtain ⟨quota, found⟩ := Option.isSome_iff_exists.mp opened
  have member := Table.find?_mem found
  have limit := metered.limits quota member
  have key : quota.entry = quotaKey C set.quotaSnapshotId := Table.find?_key found
  have within := metered.sound.within quota member
  rw [key, limit] at within
  rw [spent_iff_used metered, asks, reserveRequirements]
  have total : s.fence.used (quotaKey C set.quotaSnapshotId) + 1 ≤ MAX_REVISION := by
    unfold MAX_REVISION
    omega
  have entry : s.fence.quotaEntries.find? (set.quotaSnapshotId,
      (requirement C).kind.asStr.toList, (requirement C).unit) = some quota := found
  have amount : (requirement C).amount.val = 1 := rfl
  have use : s.fence.used (set.quotaSnapshotId, (requirement C).kind.asStr.toList,
      (requirement C).unit) = s.fence.used (quotaKey C set.quotaSnapshotId) := rfl
  simp only [entry, amount, use]
  have checked : ensure (s.fence.used (quotaKey C set.quotaSnapshotId) + 1 ≤ MAX_REVISION)
      "technical resource use overflow" = .ok () := ensure_ok.mpr total
  rw [checked]
  simp only [required, ok_bind]
  split
  · rename_i taken
    simp only [true_iff]
    omega
  · rename_i free
    simp only [reserveRequirements, ok_bind, Except.ok.injEq, reduceCtorEq, false_iff]
    omega

theorem frozen_stored {continuation : ContinuationRecord} {action : ActionBranchRecord}
    {d : DelegationRecord} {effect : LogicalEffectRecord}
    {set : CanonicalTechnicalResourceRequirementSet}
    (frozen : frozenResources C K continuation action d effect s = .ok set) :
    set ∈ s.requirementSets.rows := by
  simp only [frozenResources, bind_ok, required_ok] at frozen
  obtain ⟨set', found, _, -, _, -, _, -, -, -, same⟩ := frozen
  cases same
  exact List.mem_of_find?_eq_some found

/-- A claim finds no resources exactly where the snapshot frozen for its effect is spent. -/
theorem bundle_refused_iff (metered : Metered C s) {setDigest : ReservationSetDigest}
    {actor : Anyhow Unit} {continuationId : Text} :
    (claimOutside C K setDigest actor continuationId s).resourceBundle = .ok none ↔
      ∃ d set, FrozenFor C K s continuationId d set ∧
        Spent s.fence (quotaKey C set.quotaSnapshotId) := by
  simp only [claimOutside, bind_ok, required_ok]
  constructor
  · rintro ⟨continuation, found, action, loaded, d, owner, refused⟩
    unfold prepareResourceBundle at refused
    split at refused
    · cases refused
    · rename_i effect planned
      simp only [bind_ok] at refused
      obtain ⟨set, frozen, identities, reserved, refused⟩ := refused
      cases identities with
      | some => cases refused
      | none =>
        exact ⟨d, set, ⟨continuation, action, effect, found, loaded, owner, planned, frozen⟩,
          (reserve_refused_iff metered (frozen_stored frozen) _).mp reserved⟩
    · cases refused
  · rintro ⟨d, set, ⟨continuation, action, effect, found, loaded, owner, planned, frozen⟩, spent⟩
    refine ⟨continuation, found, action, loaded, d, owner, ?_⟩
    have reserved := (reserve_refused_iff (K := K) metered (frozen_stored frozen)
      effect.logicalEffectId).mpr spent
    rw [prepareResourceBundle, planned]
    simp only [bind_ok]
    exact ⟨set, frozen, none, reserved, rfl⟩

/-- The snapshot frozen for an effect is the one of its delegation, under the policy revision and
the authority the delegation has. -/
theorem frozen_shared (metered : Metered C s) {continuationId : Text} {d : DelegationRecord}
    {set : CanonicalTechnicalResourceRequirementSet} (frozen : FrozenFor C K s continuationId d set) :
    ∃ policyRevision authorityDigest, policyRevision.val = d.policyRevision ∧
      technicalEffectiveAuthorityDigest C K d.effectiveAuthorityJson = .ok authorityDigest ∧
      set.quotaSnapshotId = sharedSnapshotId C d.delegationId policyRevision authorityDigest := by
  obtain ⟨continuation, action, effect, -, -, owner, -, frozen⟩ := frozen
  simp only [frozenResources, bind_ok, required_ok, compiled_ok, ensure_ok] at frozen
  obtain ⟨set', -, row, found, _, -, authorityDigest, authority, -, current, same⟩ := frozen
  cases same
  obtain ⟨delegation, revision, digest, -⟩ := current
  obtain ⟨delegationId, policyRevision, authorityDigest', shared⟩ :=
    metered.snapshots row (Table.find?_mem found)
  have key : row.quotaSnapshotId = set.quotaSnapshotId := Table.find?_key found
  have named : d.delegationId = continuation.delegationId := Table.find?_key owner
  rw [shared] at key delegation revision digest
  refine ⟨policyRevision, authorityDigest, revision, authority, ?_⟩
  rw [← key, named, ← delegation, ← digest]
  rfl

end Metered

/-- In every state a history reaches, a claim is not refused for want of technical resources exactly
as long as no reservation under the snapshot frozen for its effect is open or settled with an actual
above zero. That snapshot belongs to the delegation, its policy revision and its authority: every
effect confirmed under these has the same one. -/
theorem confirmed_claimable_iff {C : Crates} {K : FenceCrates} {setDigest : ReservationSetDigest}
    {labels : List (Option ResourceCommand)} {s : ResourceStore}
    (reached : ResourceHistory C K setDigest ResourceStore.initial labels s) (J : Coordinator)
    (actor : Anyhow Unit) (command : ContinuationClaimCommand) :
    (¬ Refused C K setDigest J actor command s ↔ (ComesToQuota K J actor command s →
      ∀ d set, FrozenFor C K s command.continuationId d set →
        ¬ Spent s.fence (quotaKey C set.quotaSnapshotId))) ∧
    ∀ d set, FrozenFor C K s command.continuationId d set →
      ∃ policyRevision authorityDigest, policyRevision.val = d.policyRevision ∧
        technicalEffectiveAuthorityDigest C K d.effectiveAuthorityJson = .ok authorityDigest ∧
        set.quotaSnapshotId = sharedSnapshotId C d.delegationId policyRevision authorityDigest := by
  have metered := resourceHistory_metered reached
  refine ⟨?_, fun d set frozen => frozen_shared metered frozen⟩
  rw [refused_iff_bundle, bundle_refused_iff metered]
  simp only [not_and, not_exists]

end CarsinOS.Confirmation
