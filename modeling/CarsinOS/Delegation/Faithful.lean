import CarsinOS.Delegation.StopFence

/-! When the rebuild of a projection succeeds and changes nothing. -/
namespace CarsinOS.Delegation
open CarsinOS.Lib CarsinOS.Integrity

theorem foldlM_fixed {α : Type} {step : Store → α → Anyhow Store} {rows : List α} {s : Store}
    (fixed : ∀ row ∈ rows, step s row = .ok s) : rows.foldlM step s = .ok s := by
  induction rows with
  | nil => rfl
  | cons row rows ih =>
    rw [List.foldlM_cons, fixed row List.mem_cons_self, ok_bind]
    exact ih fun other member => fixed other (List.mem_cons_of_mem _ member)

/-! Each statement of a rebuild on the rows that are there. -/

theorem updateContinuations_fixed {s : Store} {p : ContinuationRecord → Bool}
    {f : ContinuationRecord → ContinuationRecord}
    {keeps : ∀ row, (f row).continuationId = row.continuationId}
    (fixed : ∀ row ∈ s.continuations.rows, p row = true → f row = row) :
    s.updateContinuations p f keeps = .ok s := by
  have bindings : ∀ row ∈ s.continuations.rows, p row = true → JobBindingKept row (f row) := by
    intro row member hit
    rw [fixed row member hit]
    exact .inr rfl
  have claims : ∀ row ∈ s.continuations.rows, p row = true → ClaimHasHistory s row (f row) := by
    intro row member hit runnable executing
    rw [fixed row member hit, runnable] at executing
    cases executing
  have settles : ∀ row ∈ s.continuations.rows, p row = true → SettleHasHistory s row (f row) := by
    intro row member hit executing left
    rw [fixed row member hit] at left
    exact absurd executing left
  have fences : ∀ row ∈ s.continuations.rows, p row = true → SameFence row (f row) := by
    intro row member hit
    rw [fixed row member hit]
    exact .refl row
  have current : ∀ row ∈ s.continuations.rows, p row = true → isCurrent row = false →
      OneCurrent s (f row) := by
    intro row member hit idle active
    rw [fixed row member hit, idle] at active
    cases active
  have jobs : ∀ row ∈ s.continuations.rows, p row = true → (f row).jobId ≠ row.jobId →
      OneJob s (f row) := by
    intro row member hit moved
    exact absurd (by rw [fixed row member hit]) moved
  unfold Store.updateContinuations
  simp only [ensure, if_pos bindings, if_pos claims, if_pos settles, if_pos fences, if_pos current,
    if_pos jobs, ok_bind, Table.update_fixed fixed]

theorem restoreContinuation_fixed {s : Store} {id : Text} {row : ContinuationRecord}
    (present : row ∈ s.continuations.rows) : s.restoreContinuation id row = .ok s := by
  unfold Store.restoreContinuation
  rw [Table.find?_of_mem present]
  refine updateContinuations_fixed fun old member hit => ?_
  cases Table.eq_of_key member present (decide_eq_true_eq.mp hit)
  rfl

theorem restoreBranch_fixed {s : Store} {row : ActionBranchRecord}
    (present : row ∈ s.actionBranches.rows) :
    s.restoreBranch row.delegationId row = .ok s := by
  have fixed : ∀ old ∈ s.actionBranches.rows, decide (old.actionId = row.actionId) = true →
      { row with actionId := old.actionId, delegationId := row.delegationId } = old := by
    intro old member hit
    cases Table.eq_of_key member present (decide_eq_true_eq.mp hit)
    rfl
  have same : ∀ old ∈ s.actionBranches.rows, decide (old.actionId = row.actionId) = true →
      SameBranch old { row with actionId := old.actionId, delegationId := row.delegationId } := by
    intro old member hit
    rw [fixed old member hit]
    exact .refl old
  unfold Store.restoreBranch
  rw [Table.find?_of_mem present]
  simp only [Store.updateBranches, ensure, if_pos same, ok_bind, Table.update_fixed fixed]

theorem restoreAttention_fixed {s : Store} {row : AttentionItemRecord}
    (present : row ∈ s.attentionItems.rows) :
    s.restoreAttention row.delegationId row = .ok s := by
  have fixed : ∀ old ∈ s.attentionItems.rows, decide (old.attentionId = row.attentionId) = true →
      { row with attentionId := old.attentionId, delegationId := row.delegationId } = old := by
    intro old member hit
    cases Table.eq_of_key member present (decide_eq_true_eq.mp hit)
    rfl
  have same : ∀ old ∈ s.attentionItems.rows, decide (old.attentionId = row.attentionId) = true →
      SameAttention old { row with
        attentionId := old.attentionId, delegationId := row.delegationId } := by
    intro old member hit
    rw [fixed old member hit]
    rfl
  unfold Store.restoreAttention
  rw [Table.find?_of_mem present]
  simp only [Store.updateAttention, ensure, if_pos same, ok_bind, Table.update_fixed fixed]

theorem restoreWait_fixed {s : Store} {row : ExternalWaitRecord}
    (present : row ∈ s.externalWaits.rows) : s.restoreWait row.delegationId row = .ok s := by
  have fixed : ∀ old ∈ s.externalWaits.rows, decide (old.externalWaitId = row.externalWaitId) =
      true → { row with
        externalWaitId := old.externalWaitId, delegationId := row.delegationId } = old := by
    intro old member hit
    cases Table.eq_of_key member present (decide_eq_true_eq.mp hit)
    rfl
  have same : ∀ old ∈ s.externalWaits.rows, decide (old.externalWaitId = row.externalWaitId) =
      true → SameWait old { row with
        externalWaitId := old.externalWaitId, delegationId := row.delegationId } := by
    intro old member hit
    rw [fixed old member hit]
    rfl
  unfold Store.restoreWait
  rw [Table.find?_of_mem present]
  simp only [Store.updateWaits, ensure, if_pos same, ok_bind, Table.update_fixed fixed]

/-- What a snapshot of the projection holds of a table is what is there. -/
theorem projectionSnapshot_rows {s : Store} {id : Text} {continuationId : Option Text}
    {snapshot : ProjectionSnapshot} (taken : s.projectionSnapshot id continuationId = .ok snapshot) :
    ∃ d, s.getDelegation id = some d ∧
      snapshot.branches = ownRows (·.delegationId) (·.actionId) id s.actionBranches.rows ∧
      snapshot.continuations =
        ownRows (·.delegationId) (·.continuationId) id s.continuations.rows ∧
      snapshot.attentionItems =
        ownRows (·.delegationId) (·.attentionId) id s.attentionItems.rows ∧
      snapshot.externalWaits =
        ownRows (·.delegationId) (·.externalWaitId) id s.externalWaits.rows := by
  unfold Store.projectionSnapshot at taken
  split at taken
  · cases taken
  · rename_i d found
    cases taken
    exact ⟨d, found, rfl, rfl, rfl, rfl⟩

/-- No row of a delegation is missing from its own rows. -/
theorem ownRows_complete {ρ : Type} (delegation key : ρ → Text) (id : Text) {rows : List ρ}
    {row : ρ} (present : row ∈ rows) :
    (decide (delegation row = id) &&
      !((ownRows delegation key id rows).any fun other => decide (key other = key row))) = false := by
  rw [Bool.and_eq_false_iff]
  by_cases owner : delegation row = id
  · refine .inr ?_
    rw [Bool.not_eq_false', List.any_eq_true]
    exact ⟨row, mem_ownRows.mpr ⟨present, owner⟩, by simp⟩
  · exact .inl (by simp [owner])

theorem deleteAttention_none {s : Store} {p : AttentionItemRecord → Bool}
    (kept : ∀ row ∈ s.attentionItems.rows, p row = false) : s.deleteAttention p = .ok s := by
  have free : ∀ row ∈ s.attentionItems.rows, p row = true →
      s.dependents.attentionIds.contains row.attentionId = false := by
    intro row member hit
    rw [kept row member] at hit
    cases hit
  simp only [Store.deleteAttention, ensure, if_pos free, ok_bind, Table.delete_none kept]

theorem deleteWaits_none {s : Store} {p : ExternalWaitRecord → Bool}
    (kept : ∀ row ∈ s.externalWaits.rows, p row = false) : s.deleteWaits p = s := by
  simp only [Store.deleteWaits, Table.delete_none kept]

theorem deleteContinuations_none {s : Store} {p : ContinuationRecord → Bool}
    (kept : ∀ row ∈ s.continuations.rows, p row = false) : s.deleteContinuations p = .ok s := by
  have free : ∀ row ∈ s.continuations.rows, p row = true →
      s.continuationReferenced row.continuationId = false := by
    intro row member hit
    rw [kept row member] at hit
    cases hit
  simp only [Store.deleteContinuations, ensure, if_pos free, ok_bind, Table.delete_none kept]

theorem deleteBranches_none {s : Store} {p : ActionBranchRecord → Bool}
    (kept : ∀ row ∈ s.actionBranches.rows, p row = false) : s.deleteBranches p = .ok s := by
  have free : ∀ row ∈ s.actionBranches.rows, p row = true →
      s.branchReferenced row.actionId = false := by
    intro row member hit
    rw [kept row member] at hit
    cases hit
  simp only [Store.deleteBranches, ensure, if_pos free, ok_bind, Table.delete_none kept]

theorem restoreLifecycle_fixed {s : Store} {id : Text} {continuationId : Option Text}
    {snapshot : ProjectionSnapshot} (taken : s.projectionSnapshot id continuationId = .ok snapshot) :
    s.restoreLifecycleSubprojections id snapshot = .ok s := by
  obtain ⟨d, -, branches, continuations, attention, waits⟩ := projectionSnapshot_rows taken
  have noAttention := deleteAttention_none (s := s) fun row member =>
    ownRows_complete (·.delegationId) (·.attentionId) id member
  have noWaits := deleteWaits_none (s := s) fun row member =>
    ownRows_complete (·.delegationId) (·.externalWaitId) id member
  have noContinuations := deleteContinuations_none (s := s) fun row member =>
    ownRows_complete (·.delegationId) (·.continuationId) id member
  have noBranches := deleteBranches_none (s := s) fun row member =>
    ownRows_complete (·.delegationId) (·.actionId) id member
  have keptBranches : snapshot.branches.foldlM (Store.restoreBranch id) s = .ok s := by
    refine foldlM_fixed fun row member => ?_
    rw [branches, mem_ownRows] at member
    rw [← member.2]
    exact restoreBranch_fixed member.1
  have keptContinuations : snapshot.continuations.foldlM (Store.restoreContinuation id) s =
      .ok s := by
    refine foldlM_fixed fun row member => ?_
    rw [continuations, mem_ownRows] at member
    exact restoreContinuation_fixed member.1
  have keptAttention : snapshot.attentionItems.foldlM (Store.restoreAttention id) s = .ok s := by
    refine foldlM_fixed fun row member => ?_
    rw [attention, mem_ownRows] at member
    rw [← member.2]
    exact restoreAttention_fixed member.1
  have keptWaits : snapshot.externalWaits.foldlM (Store.restoreWait id) s = .ok s := by
    refine foldlM_fixed fun row member => ?_
    rw [waits, mem_ownRows] at member
    rw [← member.2]
    exact restoreWait_fixed member.1
  rw [← attention] at noAttention
  rw [← waits] at noWaits
  rw [← continuations] at noContinuations
  rw [← branches] at noBranches
  simp only [Store.restoreLifecycleSubprojections, noAttention, noWaits, noContinuations,
    noBranches, keptBranches, keptContinuations, keptAttention, keptWaits, ok_bind]

/-- The row of the delegation agrees with the transition the snapshot is of. -/
theorem restoreDelegation_fixed {s : Store} {id : Text} {t : LifecycleTransitionRecord}
    (fenced : Fenced False s) (recorded : t ∈ s.transitions.rows) (owner : t.delegationId = id)
    (taken : s.projectionSnapshot id t.projectionSnapshot.transitionContinuationId =
      .ok t.projectionSnapshot) : s.restoreDelegation id t.projectionSnapshot = .ok s := by
  unfold Store.projectionSnapshot at taken
  split at taken
  · cases taken
  · rename_i d found
    have snapshot := (Except.ok.inj taken).symm
    have present := Table.find?_mem found
    have key : d.delegationId = id := Table.find?_key found
    have fixed : ∀ row ∈ s.delegations.rows, decide (row.delegationId = id) = true →
        t.projectionSnapshot.over row = row := by
      intro row member hit
      cases Table.eq_of_key member present ((decide_eq_true_eq.mp hit).trans key.symm)
      rw [snapshot]
      rfl
    have allowed : ∀ row ∈ s.delegations.rows, decide (row.delegationId = id) = true →
        RevisionMonotonic s row (t.projectionSnapshot.over row) := by
      intro row member hit
      rw [fixed row member hit]
      obtain rfl := Table.eq_of_key member present ((decide_eq_true_eq.mp hit).trans key.symm)
      obtain ⟨d', present', owner', -, agrees⟩ := fenced.recorded t recorded
      obtain rfl := Table.eq_of_key present' member (by rw [owner', owner, key])
      have revision : t.stateRevision = d'.stateRevision := by
        rw [← (fenced.snapshots t recorded).1, snapshot]
      exact ⟨rfl, rfl, .inr ⟨rfl, t, recorded, agrees revision⟩⟩
    unfold ProjectionSnapshot.over at fixed allowed
    simp only [Store.restoreDelegation, Store.updateDelegations, ensure, if_pos allowed, ok_bind,
      Table.update_fixed fixed]

/-- Whether the projection of a delegation is still the one its latest transition recorded. -/
def Store.AsRecorded (s : Store) (id : Text) : Prop :=
  ∀ t ∈ s.latestTransition id,
    s.projectionSnapshot id t.projectionSnapshot.transitionContinuationId =
      .ok t.projectionSnapshot

/-- A rebuild succeeds and changes nothing exactly where nothing changed since the latest
transition. -/
theorem rebuild_faithful_iff {K : FenceCrates} {setDigest : ReservationSetDigest}
    {labels : List (Option Command)} {s : Store}
    (reached : Run (Step K setDigest) Store.initial labels s) {d : DelegationRecord}
    (present : d ∈ s.delegations.rows) :
    (∃ rebuilt, rebuildLifecycleProjection d.delegationId s = .ok (rebuilt, s)) ↔
      s.AsRecorded d.delegationId := by
  have history : History False K setDigest Store.initial labels s :=
    run_mono (fun _ _ _ step => ⟨fun impossible => impossible.elim, step⟩) reached
  obtain ⟨fenced, -⟩ := history_later history initial_fenced
  have named : requireText "delegation_id" d.delegationId = .ok () := by
    simp [requireText, fenced.named d present]
  unfold rebuildLifecycleProjection Store.AsRecorded
  rw [named, ok_bind]
  cases latest : s.latestTransition d.delegationId with
  | none => simp
  | some t =>
    obtain ⟨recorded, owner⟩ := latestTransition_ok latest
    simp only [Option.mem_def, Option.some.injEq, forall_eq']
    constructor
    · rintro ⟨rebuilt, done⟩
      simp only [bind_ok, ensure_ok] at done
      obtain ⟨s₁, -, s₂, -, projected, taken, -, agrees, same⟩ := done
      obtain ⟨-, rfl⟩ := Prod.mk.inj (Except.ok.inj same)
      rw [taken, agrees]
    · intro taken
      refine ⟨s.getDelegation d.delegationId, ?_⟩
      simp only [restoreLifecycle_fixed taken, restoreDelegation_fixed fenced recorded owner taken,
        taken, ok_bind, ensure_true]

theorem run_reached {K : FenceCrates} {setDigest : ReservationSetDigest} {commands : List Command}
    {t : Store} (done : runAll K setDigest commands Store.initial = .ok t) :
    Run (Step K setDigest) Store.initial (commands.map some) t :=
  run_mono (fun _ _ _ taken => taken.2)
    (runAll_history False done initial_fenced fun impossible => impossible.elim)

/-- A delegation that was only founded is rebuilt. -/
theorem founded_rebuilt : ∃ s d, d ∈ s.delegations.rows ∧ d.delegationId = "d".toList ∧
    s.continuations.rows.length = 1 ∧
    ∃ rebuilt, rebuildLifecycleProjection d.delegationId s = .ok (rebuilt, s) := by
  have run : (do
      let s ← runAll sampleCrates sampleDigest ((leasedFoundation 0).take 1) Store.initial
      let d ← required "" (s.getDelegation "d".toList)
      let t ← required "" (s.latestTransition "d".toList)
      let taken ← s.projectionSnapshot "d".toList t.projectionSnapshot.transitionContinuationId
      ensure (taken = t.projectionSnapshot ∧ s.continuations.rows.length = 1) "" : Anyhow Unit) =
        .ok () := by decide +kernel
  simp only [bind_ok, ensure_ok, required_ok] at run
  obtain ⟨s, founded, d, found, t, latest, taken, projected, rfl, single⟩ := run
  have key : d.delegationId = "d".toList := Table.find?_key found
  have unchanged : s.AsRecorded d.delegationId := by
    intro t' latest'
    rw [key, latest] at latest'
    cases latest'
    rw [key]
    exact projected
  exact ⟨s, d, Table.find?_mem found, key, single,
    (rebuild_faithful_iff (run_reached founded) (Table.find?_mem found)).mpr unchanged⟩

/-- Once the job of its first continuation is bound, it is not. -/
theorem bound_job_not_rebuilt : ∃ labels s, Run (Step sampleCrates sampleDigest) Store.initial labels s ∧
    ∃ d ∈ s.delegations.rows, ∀ r, rebuildLifecycleProjection d.delegationId s ≠ .ok r := by
  have run : (do
      let s ← runAll sampleCrates sampleDigest ((leasedFoundation 0).take 2) Store.initial
      let d ← required "" (s.getDelegation "d".toList)
      ensure ((rebuildLifecycleProjection "d".toList s).toOption.isNone = true) "" :
        Anyhow Unit) = .ok () := by decide +kernel
  simp only [bind_ok, ensure_ok, required_ok] at run
  obtain ⟨s, bound, d, found, failed⟩ := run
  have key : d.delegationId = "d".toList := Table.find?_key found
  refine ⟨_, s, run_reached bound, d, Table.find?_mem found, fun r done => ?_⟩
  rw [key] at done
  rw [done] at failed
  cases failed

end CarsinOS.Delegation
