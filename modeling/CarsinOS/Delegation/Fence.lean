import CarsinOS.Delegation.Recovery

/-! What fences a continuation: the revisions and the epochs it was frozen for, against those of its
delegation, and how each statement keeps them. -/
namespace CarsinOS.Delegation
open CarsinOS.Lib CarsinOS.Integrity CarsinOS.Receipt

/-- The rows that fence. Under `guarded`, no continuation was frozen for a global stop epoch that had
not begun. -/
structure Fenced (guarded : Prop) (s : Store) : Prop where
  named : ∀ d ∈ s.delegations.rows, trimChars d.delegationId ≠ []
  owned : ∀ c ∈ s.continuations.rows, ∃ d ∈ s.delegations.rows,
    d.delegationId = c.delegationId ∧ c.targetDelegationRevision ≤ d.stateRevision
  recorded : ∀ t ∈ s.transitions.rows, ∃ d ∈ s.delegations.rows,
    d.delegationId = t.delegationId ∧ t.stateRevision ≤ d.stateRevision ∧
      (t.stateRevision = d.stateRevision → MatchesHistory t d)
  snapshots : ∀ t ∈ s.transitions.rows, t.projectionSnapshot.stateRevision = t.stateRevision ∧
    ∀ c ∈ t.projectionSnapshot.continuations, c.targetDelegationRevision ≤ t.stateRevision
  single : ∀ t ∈ s.transitions.rows, ∀ t' ∈ s.transitions.rows,
    t.delegationId = t'.delegationId → t.stateRevision = t'.stateRevision → t = t'
  epochs : guarded →
    (∀ c ∈ s.continuations.rows, c.globalStopEpoch ≤ s.globalControl.globalStopEpoch) ∧
      ∀ t ∈ s.transitions.rows, ∀ c ∈ t.projectionSnapshot.continuations,
        c.globalStopEpoch ≤ s.globalControl.globalStopEpoch

variable {guarded : Prop}

/-- A step that leaves the delegations and the global control alone, and keeps the fence. -/
structure Quiet (guarded : Prop) (s s' : Store) : Prop where
  delegations : s'.delegations = s.delegations
  control : s'.globalControl = s.globalControl
  fenced : Fenced guarded s → Fenced guarded s'

theorem Quiet.refl (s : Store) : Quiet guarded s s := ⟨rfl, rfl, id⟩

theorem Quiet.trans {s t u : Store} (first : Quiet guarded s t) (second : Quiet guarded t u) :
    Quiet guarded s u :=
  ⟨second.delegations.trans first.delegations, second.control.trans first.control,
    fun fenced => second.fenced (first.fenced fenced)⟩

theorem Quiet.of_eq {s s' : Store} (delegations : s'.delegations = s.delegations)
    (control : s'.globalControl = s.globalControl)
    (continuations : s'.continuations = s.continuations)
    (transitions : s'.transitions = s.transitions) : Quiet guarded s s' := by
  refine ⟨delegations, control, fun fenced => ?_⟩
  obtain ⟨named, owned, recorded, snapshots, single, epochs⟩ := fenced
  constructor
  · rwa [delegations]
  · rwa [continuations, delegations]
  · rwa [transitions, delegations]
  · rwa [transitions]
  · rwa [transitions]
  · rwa [transitions, continuations, control]

/-- A fold of quiet steps, each under what the store was before the fold. -/
theorem foldlM_quiet {α : Type} {step : Store → α → Anyhow Store} {rows : List α} {s s' : Store}
    (each : ∀ t t' row, row ∈ rows → t.delegations = s.delegations →
      t.globalControl = s.globalControl → step t row = .ok t' → Quiet guarded t t')
    (done : rows.foldlM step s = .ok s') : Quiet guarded s s' := by
  induction rows generalizing s with
  | nil =>
    cases done
    exact .refl _
  | cons row rows ih =>
    rw [List.foldlM_cons, bind_ok] at done
    obtain ⟨t, first, rest⟩ := done
    have head := each s t row List.mem_cons_self rfl rfl first
    refine head.trans (ih (fun u u' other member same control => ?_) rest)
    exact each u u' other (List.mem_cons_of_mem _ member) (same.trans head.delegations)
      (control.trans head.control)

/-! The statements on continuations. -/

theorem updateContinuations_ok {s s' : Store} {p : ContinuationRecord → Bool}
    {f : ContinuationRecord → ContinuationRecord}
    {keeps : ∀ row, (f row).continuationId = row.continuationId}
    (done : s.updateContinuations p f keeps = .ok s') :
    (∀ row ∈ s.continuations.rows, p row = true → SameFence row (f row)) ∧
      s' = { s with continuations := s.continuations.update p f keeps } := by
  simp only [Store.updateContinuations, bind_ok, ensure_ok] at done
  obtain ⟨-, -, -, -, -, -, -, same, -, -, -, -, rest⟩ := done
  exact ⟨same, (Except.ok.inj rest).symm⟩

theorem updateContinuations_quiet {s s' : Store} {p : ContinuationRecord → Bool}
    {f : ContinuationRecord → ContinuationRecord}
    {keeps : ∀ row, (f row).continuationId = row.continuationId}
    (done : s.updateContinuations p f keeps = .ok s') : Quiet guarded s s' := by
  obtain ⟨same, rfl⟩ := updateContinuations_ok done
  refine ⟨rfl, rfl, fun fenced => ?_⟩
  have older : ∀ c ∈ (s.continuations.update p f keeps).rows, ∃ c₀ ∈ s.continuations.rows,
      c.delegationId = c₀.delegationId ∧
        c.targetDelegationRevision = c₀.targetDelegationRevision ∧
        c.globalStopEpoch = c₀.globalStopEpoch := by
    intro c member
    obtain ⟨old, present, rfl⟩ := Table.mem_update.mp member
    refine ⟨old, present, ?_⟩
    split
    · rename_i hit
      obtain ⟨-, -, -, owner, target, -, -, -, -, -, -, epoch, -⟩ := same old present hit
      exact ⟨owner, target, epoch⟩
    · exact ⟨rfl, rfl, rfl⟩
  refine { fenced with owned := ?_, epochs := fun guard => ⟨?_, (fenced.epochs guard).2⟩ }
  · intro c member
    obtain ⟨old, present, owner, target, -⟩ := older c member
    rw [owner, target]
    exact fenced.owned old present
  · intro c member
    obtain ⟨old, present, -, -, epoch⟩ := older c member
    rw [epoch]
    exact (fenced.epochs guard).1 old present

theorem insertContinuation_ok {s s' : Store} {row : ContinuationRecord}
    (done : s.insertContinuation row = .ok s') :
    (∃ d, s.getDelegation row.delegationId = some d) ∧ ∃ continuations,
      s.continuations.insert? row = some continuations ∧ s' = { s with continuations } := by
  simp only [Store.insertContinuation, bind_ok, ensure_ok] at done
  obtain ⟨-, owner, -, -, -, -, -, -, rest⟩ := done
  refine ⟨Option.isSome_iff_exists.mp owner, ?_⟩
  split at rest
  · rename_i continuations inserted
    cases rest
    exact ⟨continuations, inserted, rfl⟩
  · cases rest

/-- A continuation may be frozen for a revision its delegation has reached. -/
theorem insertContinuation_quiet {s s' : Store} {row : ContinuationRecord}
    (done : s.insertContinuation row = .ok s')
    (reached : ∀ d ∈ s.delegations.rows, d.delegationId = row.delegationId →
      row.targetDelegationRevision ≤ d.stateRevision)
    (begun : guarded → row.globalStopEpoch ≤ s.globalControl.globalStopEpoch) :
    Quiet guarded s s' := by
  obtain ⟨⟨d, owner⟩, continuations, inserted, rfl⟩ := insertContinuation_ok done
  refine ⟨rfl, rfl, fun fenced => ?_⟩
  have rows := Table.insert?_rows inserted
  refine { fenced with owned := ?_, epochs := fun guard => ⟨?_, (fenced.epochs guard).2⟩ }
  · intro c member
    rw [rows, List.mem_append, List.mem_singleton] at member
    rcases member with old | rfl
    · exact fenced.owned c old
    · exact ⟨d, Table.find?_mem owner, Table.find?_key owner,
        reached d (Table.find?_mem owner) (Table.find?_key owner)⟩
  · intro c member
    rw [rows, List.mem_append, List.mem_singleton] at member
    rcases member with old | rfl
    · exact (fenced.epochs guard).1 c old
    · exact begun guard

theorem deleteContinuations_quiet {s s' : Store} {p : ContinuationRecord → Bool}
    (done : s.deleteContinuations p = .ok s') : Quiet guarded s s' := by
  simp only [Store.deleteContinuations, bind_ok, ensure_ok] at done
  obtain ⟨-, -, rest⟩ := done
  cases rest
  refine ⟨rfl, rfl, fun fenced => ?_⟩
  refine { fenced with owned := ?_, epochs := fun guard => ⟨?_, (fenced.epochs guard).2⟩ }
  · intro c member
    exact fenced.owned c (Table.mem_delete.mp member).1
  · intro c member
    exact (fenced.epochs guard).1 c (Table.mem_delete.mp member).1

/-! The statements on the other tables. -/

theorem updateBranches_ok {s s' : Store} {p : ActionBranchRecord → Bool}
    {f : ActionBranchRecord → ActionBranchRecord} {keeps : ∀ row, (f row).actionId = row.actionId}
    (done : s.updateBranches p f keeps = .ok s') :
    s' = { s with actionBranches := s.actionBranches.update p f keeps } := by
  simp only [Store.updateBranches, bind_ok, ensure_ok] at done
  obtain ⟨-, -, rest⟩ := done
  exact (Except.ok.inj rest).symm

theorem updateBranches_quiet {s s' : Store} {p : ActionBranchRecord → Bool}
    {f : ActionBranchRecord → ActionBranchRecord} {keeps : ∀ row, (f row).actionId = row.actionId}
    (done : s.updateBranches p f keeps = .ok s') : Quiet guarded s s' := by
  cases updateBranches_ok done
  exact .of_eq rfl rfl rfl rfl

theorem insertBranch_ok {s s' : Store} {row : ActionBranchRecord}
    (done : s.insertBranch row = .ok s') :
    ∃ actionBranches, s' = { s with actionBranches } := by
  simp only [Store.insertBranch, bind_ok, ensure_ok] at done
  obtain ⟨-, -, rest⟩ := done
  split at rest <;> cases rest
  exact ⟨_, rfl⟩

theorem insertBranch_quiet {s s' : Store} {row : ActionBranchRecord}
    (done : s.insertBranch row = .ok s') : Quiet guarded s s' := by
  obtain ⟨_, rfl⟩ := insertBranch_ok done
  exact .of_eq rfl rfl rfl rfl

theorem deleteBranches_quiet {s s' : Store} {p : ActionBranchRecord → Bool}
    (done : s.deleteBranches p = .ok s') : Quiet guarded s s' := by
  simp only [Store.deleteBranches, bind_ok, ensure_ok] at done
  obtain ⟨-, -, rest⟩ := done
  cases rest
  exact .of_eq rfl rfl rfl rfl

theorem updateAttention_quiet {s s' : Store} {p : AttentionItemRecord → Bool}
    {f : AttentionItemRecord → AttentionItemRecord}
    {keeps : ∀ row, (f row).attentionId = row.attentionId}
    (done : s.updateAttention p f keeps = .ok s') : Quiet guarded s s' := by
  simp only [Store.updateAttention, bind_ok, ensure_ok] at done
  obtain ⟨-, -, rest⟩ := done
  cases rest
  exact .of_eq rfl rfl rfl rfl

theorem insertAttention_ok {s s' : Store} {row : AttentionItemRecord}
    (done : s.insertAttention row = .ok s') :
    ∃ attentionItems, s' = { s with attentionItems } := by
  unfold Store.insertAttention at done
  split at done <;> cases done
  exact ⟨_, rfl⟩

theorem insertAttention_quiet {s s' : Store} {row : AttentionItemRecord}
    (done : s.insertAttention row = .ok s') : Quiet guarded s s' := by
  obtain ⟨_, rfl⟩ := insertAttention_ok done
  exact .of_eq rfl rfl rfl rfl

theorem deleteAttention_quiet {s s' : Store} {p : AttentionItemRecord → Bool}
    (done : s.deleteAttention p = .ok s') : Quiet guarded s s' := by
  simp only [Store.deleteAttention, bind_ok, ensure_ok] at done
  obtain ⟨-, -, rest⟩ := done
  cases rest
  exact .of_eq rfl rfl rfl rfl

theorem updateWaits_quiet {s s' : Store} {p : ExternalWaitRecord → Bool}
    {f : ExternalWaitRecord → ExternalWaitRecord}
    {keeps : ∀ row, (f row).externalWaitId = row.externalWaitId}
    (done : s.updateWaits p f keeps = .ok s') : Quiet guarded s s' := by
  simp only [Store.updateWaits, bind_ok, ensure_ok] at done
  obtain ⟨-, -, rest⟩ := done
  cases rest
  exact .of_eq rfl rfl rfl rfl

theorem insertWait_ok {s s' : Store} {row : ExternalWaitRecord}
    (done : s.insertWait row = .ok s') : ∃ externalWaits, s' = { s with externalWaits } := by
  unfold Store.insertWait at done
  split at done <;> cases done
  exact ⟨_, rfl⟩

theorem insertWait_quiet {s s' : Store} {row : ExternalWaitRecord}
    (done : s.insertWait row = .ok s') : Quiet guarded s s' := by
  obtain ⟨_, rfl⟩ := insertWait_ok done
  exact .of_eq rfl rfl rfl rfl

theorem insertOutbox_ok {s s' : Store} {event : NewOutboxEvent}
    (done : s.insertOutbox event = .ok s') : ∃ outboxEvents, s' = { s with outboxEvents } := by
  simp only [Store.insertOutbox, bind_ok, ensure_ok] at done
  obtain ⟨-, -, -, -, rest⟩ := done
  split at rest <;> cases rest
  exact ⟨_, rfl⟩

theorem insertOutbox_quiet {s s' : Store} {event : NewOutboxEvent}
    (done : s.insertOutbox event = .ok s') : Quiet guarded s s' := by
  obtain ⟨_, rfl⟩ := insertOutbox_ok done
  exact .of_eq rfl rfl rfl rfl

theorem insertOperationHistory_ok {s s' : Store} {row : OperationHistoryRecord}
    (done : s.insertOperationHistory row = .ok s') : ∃ operationHistory,
      s.operationHistory.insert? row = some operationHistory ∧
      (∀ other ∈ s.operationHistory.rows, row.operation ≠ .reconcile →
        (other.identity.continuationId, other.identity.continuationFencingToken,
          other.operation) ≠ (row.identity.continuationId,
            row.identity.continuationFencingToken, row.operation)) ∧
      s' = { s with operationHistory } := by
  simp only [Store.insertOperationHistory, bind_ok, ensure_ok] at done
  obtain ⟨-, unique, rest⟩ := done
  split at rest <;> cases rest
  rename_i inserted
  exact ⟨_, inserted, unique, rfl⟩

theorem insertReservation_ok {s s' : Store} {row : TechnicalResourceReservationRecord}
    (done : s.insertReservation row = .ok s') : ∃ reservations, s' = { s with reservations } := by
  simp only [Store.insertReservation, bind_ok, ensure_ok] at done
  obtain ⟨-, -, -, -, -, -, -, -, -, -, rest⟩ := done
  split at rest <;> cases rest
  exact ⟨_, rfl⟩

theorem insertAttempt_ok {s s' : Store} {row : ProviderAttemptRow}
    (done : s.insertAttempt row = .ok s') : ∃ providerAttempts,
      s.providerAttempts.insert? row = some providerAttempts ∧ AttemptHasClaim s row ∧
      (∀ other ∈ s.providerAttempts.rows, other.logicalEffectId = row.logicalEffectId →
        other.attemptNumber ≠ row.attemptNumber) ∧ s' = { s with providerAttempts } := by
  simp only [Store.insertAttempt, bind_ok, ensure_ok] at done
  obtain ⟨-, bound, -, -, -, unique, rest⟩ := done
  split at rest <;> cases rest
  rename_i inserted
  exact ⟨_, inserted, bound, unique, rfl⟩

theorem insertPlan_quiet {s s' : Store} {plan : PlanRecord}
    (done : s.insertPlan plan = .ok s') : Quiet guarded s s' := by
  simp only [Store.insertPlan, bind_ok, ensure_ok] at done
  obtain ⟨-, -, rest⟩ := done
  split at rest <;> cases rest
  exact .of_eq rfl rfl rfl rfl

theorem insertAssessment_ok {s s' : Store} {item : CompletionAssessmentRecord}
    (done : s.insertAssessment item = .ok s') :
    ∃ completionAssessments, s' = { s with completionAssessments } := by
  simp only [Store.insertAssessment, bind_ok, ensure_ok] at done
  obtain ⟨-, -, rest⟩ := done
  split at rest <;> cases rest
  exact ⟨_, rfl⟩

theorem insertAssessment_quiet {s s' : Store} {item : CompletionAssessmentRecord}
    (done : s.insertAssessment item = .ok s') : Quiet guarded s s' := by
  obtain ⟨_, rfl⟩ := insertAssessment_ok done
  exact .of_eq rfl rfl rfl rfl

theorem insertOptional_quiet {T : Type} {insert : Store → T → Anyhow Store} {s s' : Store}
    {item : Option T} (each : ∀ row, item = some row → insert s row = .ok s' → Quiet guarded s s')
    (done : s.insertOptional insert item = .ok s') : Quiet guarded s s' := by
  cases item with
  | none =>
    cases done
    exact .refl _
  | some row => exact each row rfl done

/-! The statements on delegations. -/

theorem updateDelegations_ok {s s' : Store} {p : DelegationRecord → Bool}
    {f : DelegationRecord → DelegationRecord}
    {keeps : ∀ row, (f row).delegationId = row.delegationId}
    (done : s.updateDelegations p f keeps = .ok s') :
    (∀ row ∈ s.delegations.rows, p row = true → RevisionMonotonic s row (f row)) ∧
      s' = { s with delegations := s.delegations.update p f keeps } := by
  simp only [Store.updateDelegations, bind_ok, ensure_ok] at done
  obtain ⟨-, monotonic, rest⟩ := done
  exact ⟨monotonic, (Except.ok.inj rest).symm⟩

/-- The row of a delegation under an update of its table. -/
theorem updated_row {s : Store} {f : DelegationRecord → DelegationRecord}
    (p : DelegationRecord → Bool) (keeps : ∀ row, (f row).delegationId = row.delegationId)
    {d : DelegationRecord} (present : d ∈ s.delegations.rows) :
    (if p d then f d else d) ∈ (s.delegations.update p f keeps).rows :=
  Table.mem_update.mpr ⟨d, present, rfl⟩

/-- The trigger on delegations alone keeps the fence. -/
theorem updateDelegations_fenced {s s' : Store} {p : DelegationRecord → Bool}
    {f : DelegationRecord → DelegationRecord}
    {keeps : ∀ row, (f row).delegationId = row.delegationId}
    (done : s.updateDelegations p f keeps = .ok s') (fenced : Fenced guarded s) :
    Fenced guarded s' := by
  obtain ⟨monotonic, rfl⟩ := updateDelegations_ok done
  have later : ∀ d ∈ s.delegations.rows, ∃ d' ∈ (s.delegations.update p f keeps).rows,
      d'.delegationId = d.delegationId ∧ (d' = d ∨ d.stateRevision < d'.stateRevision ∨
        d'.stateRevision = d.stateRevision ∧ ∃ t ∈ s.transitions.rows, MatchesHistory t d') := by
    intro d present
    refine ⟨_, updated_row p keeps present, ?_⟩
    split
    · rename_i hit
      obtain ⟨same, -, moved | kept⟩ := monotonic d present hit
      · exact ⟨same, .inr (.inl moved)⟩
      · exact ⟨same, .inr (.inr kept)⟩
    · exact ⟨rfl, .inl rfl⟩
  refine { fenced with named := ?_, owned := ?_, recorded := ?_ }
  · intro d (member : d ∈ (s.delegations.update p f keeps).rows)
    obtain ⟨old, present, rfl⟩ := Table.mem_update.mp member
    have name := fenced.named old present
    split
    · rwa [keeps]
    · exact name
  · intro c member
    obtain ⟨d, present, owner, target⟩ := fenced.owned c member
    obtain ⟨d', present', same, next⟩ := later d present
    refine ⟨d', present', same.trans owner, ?_⟩
    rcases next with rfl | moved | ⟨kept, -⟩
    · exact target
    · omega
    · omega
  · intro t member
    obtain ⟨d, present, owner, reached, agrees⟩ := fenced.recorded t member
    obtain ⟨d', present', same, next⟩ := later d present
    refine ⟨d', present', same.trans owner, ?_⟩
    rcases next with rfl | moved | ⟨kept, t', recorded, agrees'⟩
    · exact ⟨reached, agrees⟩
    · exact ⟨by omega, by omega⟩
    · refine ⟨by omega, fun current => ?_⟩
      obtain ⟨owner', revision', -⟩ := id agrees'
      rwa [fenced.single t member t' recorded (by rw [owner', same, owner]) (by rw [current, revision'])]

theorem insertDelegation_fenced {s s' : Store} {row : DelegationRecord}
    (done : s.insertDelegation row = .ok s') (name : trimChars row.delegationId ≠ [])
    (fenced : Fenced guarded s) :
    Fenced guarded s' ∧ s'.globalControl = s.globalControl ∧
      s'.delegations.rows = s.delegations.rows ++ [row] := by
  unfold Store.insertDelegation at done
  split at done
  · rename_i delegations inserted
    cases done
    have rows := Table.insert?_rows inserted
    refine ⟨{ fenced with named := ?_, owned := ?_, recorded := ?_ }, rfl, rows⟩
    · intro d member
      rw [rows, List.mem_append, List.mem_singleton] at member
      rcases member with old | rfl
      · exact fenced.named d old
      · exact name
    · intro c member
      obtain ⟨d, present, facts⟩ := fenced.owned c member
      exact ⟨d, by rw [rows]; exact List.mem_append_left _ present, facts⟩
    · intro t member
      obtain ⟨d, present, facts⟩ := fenced.recorded t member
      exact ⟨d, by rw [rows]; exact List.mem_append_left _ present, facts⟩
  · cases done

/-! The record of a transition. -/

theorem projectionSnapshot_ok {s : Store} {id : Text} {continuationId : Option Text}
    {snapshot : ProjectionSnapshot} (taken : s.projectionSnapshot id continuationId = .ok snapshot) :
    ∃ d, s.getDelegation id = some d ∧ (∀ t : LifecycleTransitionRecord,
        t.projectionSnapshot = snapshot → t.delegationId = id →
          t.stateRevision = d.stateRevision → MatchesHistory t d) ∧
      snapshot.stateRevision = d.stateRevision ∧
      ∀ c ∈ snapshot.continuations, c ∈ s.continuations.rows ∧ c.delegationId = id := by
  unfold Store.projectionSnapshot at taken
  split at taken
  · cases taken
  · rename_i d found
    cases taken
    refine ⟨d, found, ?_, rfl, ?_⟩
    · intro t same owner revision
      have key : d.delegationId = id := Table.find?_key found
      simp only [MatchesHistory, same, owner, revision, key, and_self]
    · intro c member
      exact mem_ownRows.mp member

theorem recordTransition_ok {s s' : Store} {previous : DelegationRecord} {transitionId : Text}
    {phase : DelegationPhase} {runControl : RunControlState} {identity : CommandIdentity}
    {continuationId : Option Text} {revision : Int} {reason outboxEventId : Text} {occurredAt : Int}
    (done : s.recordTransition previous transitionId phase runControl identity continuationId
      revision reason outboxEventId occurredAt = .ok s') :
    ∃ transitions, s' = { s with transitions } := by
  simp only [Store.recordTransition, Store.insertTransition, bind_ok] at done
  obtain ⟨_, -, -, -, inserted⟩ := done
  split at inserted <;> cases inserted
  exact ⟨_, rfl⟩

/-- A transition recorded under the live revision of its delegation keeps the fence. -/
theorem recordTransition_quiet {s s' : Store} {previous : DelegationRecord} {transitionId : Text}
    {phase : DelegationPhase} {runControl : RunControlState} {identity : CommandIdentity}
    {continuationId : Option Text} {revision : Int} {reason outboxEventId : Text} {occurredAt : Int}
    (done : s.recordTransition previous transitionId phase runControl identity continuationId
      revision reason outboxEventId occurredAt = .ok s')
    (live : ∀ d ∈ s.delegations.rows, d.delegationId = previous.delegationId →
      d.stateRevision = revision) : Quiet guarded s s' := by
  simp only [Store.recordTransition, bind_ok] at done
  obtain ⟨snapshot, taken, done⟩ := done
  obtain ⟨d, found, agrees, revised, copied⟩ := projectionSnapshot_ok taken
  have present := Table.find?_mem found
  have key : d.delegationId = previous.delegationId := Table.find?_key found
  have current := live d present key
  simp only [Store.insertTransition, bind_ok, ensure_ok] at done
  obtain ⟨-, fresh, done⟩ := done
  split at done
  · rename_i transitions inserted
    cases done
    have rows := Table.insert?_rows inserted
    refine ⟨rfl, rfl, fun fenced => { fenced with
      recorded := ?_, snapshots := ?_, single := ?_, epochs := ?_ }⟩
    · intro t member
      rw [rows, List.mem_append, List.mem_singleton] at member
      rcases member with old | rfl
      · exact fenced.recorded t old
      · refine ⟨d, present, key, le_of_eq current.symm, fun _ => ?_⟩
        exact agrees _ rfl rfl current.symm
    · intro t member
      rw [rows, List.mem_append, List.mem_singleton] at member
      rcases member with old | rfl
      · exact fenced.snapshots t old
      · refine ⟨revised.trans current, fun c copy => ?_⟩
        obtain ⟨stored, owner⟩ := copied c copy
        obtain ⟨d', present', owner', target⟩ := fenced.owned c stored
        have same : d' = d := Table.eq_of_key present' present (by rw [owner', owner, key])
        rw [same, current] at target
        exact target
    · intro t member t' member' owner same
      rw [rows, List.mem_append, List.mem_singleton] at member member'
      rcases member with old | rfl <;> rcases member' with old' | rfl
      · exact fenced.single t old t' old' owner same
      · exact absurd (Prod.ext owner same) (fresh t old).1
      · exact absurd (Prod.ext owner.symm same.symm) (fresh t' old').1
      · rfl
    · intro guard
      refine ⟨(fenced.epochs guard).1, fun t member => ?_⟩
      rw [rows, List.mem_append, List.mem_singleton] at member
      rcases member with old | rfl
      · exact (fenced.epochs guard).2 t old
      · exact fun c copy => (fenced.epochs guard).1 c (copied c copy).1
  · cases done

end CarsinOS.Delegation
