import CarsinOS.Delegation.Records

/-! The statements on the tables of a delegation, under the triggers and the unique indexes of
their schema. -/
namespace CarsinOS.Delegation
open CarsinOS.Lib CarsinOS.Integrity

/-- `execass_continuation_fence_monotonic`. -/
def SameFence (old new : ContinuationRecord) : Prop :=
  old.fencingToken ≤ new.fencingToken ∧ old.hostGeneration ≤ new.hostGeneration ∧
    new.continuationId = old.continuationId ∧ new.delegationId = old.delegationId ∧
    new.targetDelegationRevision = old.targetDelegationRevision ∧
    new.targetPlanRevision = old.targetPlanRevision ∧ new.actionId = old.actionId ∧
    new.branchKind = old.branchKind ∧ new.causationKind = old.causationKind ∧
    new.causationId = old.causationId ∧ new.stopEpoch = old.stopEpoch ∧
    new.globalStopEpoch = old.globalStopEpoch ∧ new.createdAt = old.createdAt

instance (old new : ContinuationRecord) : Decidable (SameFence old new) := by
  unfold SameFence
  infer_instance

theorem SameFence.refl (row : ContinuationRecord) : SameFence row row := by simp [SameFence]

/-- `execass_continuation_job_binding_one_way`. -/
def JobBindingKept (old new : ContinuationRecord) : Prop :=
  old.jobId = none ∨ new.jobId = old.jobId

instance (old new : ContinuationRecord) : Decidable (JobBindingKept old new) := by
  unfold JobBindingKept
  infer_instance

/-- `execass_continuation_claim_transition_requires_history`. -/
def ClaimHasHistory (s : Store) (old new : ContinuationRecord) : Prop :=
  old.status = .runnable → new.status = .executing → ∃ h ∈ s.operationHistory.rows,
    h.operation = .claim ∧ h.identity.continuationId = new.continuationId ∧
      h.identity.actionId = new.actionId ∧ some h.identity.jobId = new.jobId ∧
      some h.identity.workerId = new.leaseOwner ∧
      some h.identity.jobLeaseExpiresAt = new.leaseExpiresAt ∧
      h.identity.continuationFencingToken = new.fencingToken ∧
      h.identity.runtimeHostGeneration = new.hostGeneration

instance (s : Store) (old new : ContinuationRecord) : Decidable (ClaimHasHistory s old new) := by
  unfold ClaimHasHistory
  infer_instance

/-- `execass_continuation_settle_transition_requires_history`. -/
def SettleHasHistory (s : Store) (old new : ContinuationRecord) : Prop :=
  old.status = .executing → new.status ≠ .executing → ∃ h ∈ s.operationHistory.rows,
    h.operation ≠ .claim ∧ h.identity.continuationId = new.continuationId ∧
      h.identity.actionId = new.actionId ∧ some h.identity.jobId = new.jobId ∧
      h.identity.continuationFencingToken = new.fencingToken ∧ h.resultStatus = new.status

instance (s : Store) (old new : ContinuationRecord) : Decidable (SettleHasHistory s old new) := by
  unfold SettleHasHistory
  infer_instance

def isCurrent (row : ContinuationRecord) : Bool :=
  row.status = .runnable || row.status = .executing

/-- `idx_execass_continuations_one_current_per_revision`. -/
def OneCurrent (s : Store) (new : ContinuationRecord) : Prop :=
  isCurrent new = true → ∀ other ∈ s.continuations.rows,
    other.continuationId ≠ new.continuationId → other.delegationId = new.delegationId →
      other.targetDelegationRevision = new.targetDelegationRevision → isCurrent other = false

instance (s : Store) (new : ContinuationRecord) : Decidable (OneCurrent s new) := by
  unfold OneCurrent
  infer_instance

/-- `idx_execass_continuations_one_job`. -/
def OneJob (s : Store) (new : ContinuationRecord) : Prop :=
  new.jobId ≠ none → ∀ other ∈ s.continuations.rows,
    other.continuationId ≠ new.continuationId → other.jobId ≠ new.jobId

instance (s : Store) (new : ContinuationRecord) : Decidable (OneJob s new) := by
  unfold OneJob
  infer_instance

def Store.updateContinuations (s : Store) (p : ContinuationRecord → Bool)
    (f : ContinuationRecord → ContinuationRecord)
    (keeps : ∀ row, (f row).continuationId = row.continuationId) : Anyhow Store := do
  ensure (∀ row ∈ s.continuations.rows, p row = true → JobBindingKept row (f row))
    "ExecAss continuation job binding is immutable"
  ensure (∀ row ∈ s.continuations.rows, p row = true → ClaimHasHistory s row (f row))
    "ExecAss continuation claim transition requires immutable history"
  ensure (∀ row ∈ s.continuations.rows, p row = true → SettleHasHistory s row (f row))
    "ExecAss continuation settle transition requires immutable history"
  ensure (∀ row ∈ s.continuations.rows, p row = true → SameFence row (f row))
    "ExecAss continuation fencing cannot decrease"
  ensure (∀ row ∈ s.continuations.rows, p row = true → isCurrent row = false →
      OneCurrent s (f row))
    "UNIQUE constraint failed: execass_continuations.delegation_id, target_delegation_revision"
  ensure (∀ row ∈ s.continuations.rows, p row = true → (f row).jobId ≠ row.jobId →
      OneJob s (f row))
    "UNIQUE constraint failed: execass_continuations.job_id"
  .ok { s with continuations := s.continuations.update p f keeps }

def Store.insertContinuation (s : Store) (row : ContinuationRecord) : Anyhow Store := do
  ensure ((s.getDelegation row.delegationId).isSome = true) "FOREIGN KEY constraint failed"
  ensure (∀ other ∈ s.continuations.rows, other.actionId ≠ row.actionId ∧
      (other.causationKind, other.causationId) ≠ (row.causationKind, row.causationId))
    "UNIQUE constraint failed: execass_continuations"
  ensure (OneCurrent s row)
    "UNIQUE constraint failed: execass_continuations.delegation_id, target_delegation_revision"
  ensure (OneJob s row) "UNIQUE constraint failed: execass_continuations.job_id"
  match s.continuations.insert? row with
  | some continuations => .ok { s with continuations }
  | none => bail "UNIQUE constraint failed: execass_continuations.continuation_id"

/-- The rows that refer to a continuation keep it. -/
def Store.continuationReferenced (s : Store) (id : Text) : Bool :=
  s.dependents.continuationIds.contains id ||
    s.operationHistory.rows.any (·.identity.continuationId = id) ||
    s.logicalEffects.rows.any (·.continuationId = id) ||
    s.providerAttempts.rows.any (·.continuationId = id)

def Store.deleteContinuations (s : Store) (p : ContinuationRecord → Bool) : Anyhow Store := do
  ensure (∀ row ∈ s.continuations.rows, p row = true →
      s.continuationReferenced row.continuationId = false) "FOREIGN KEY constraint failed"
  .ok { s with continuations := s.continuations.delete p }

/-- `execass_action_branch_identity_immutable`. -/
def SameBranch (old new : ActionBranchRecord) : Prop :=
  new.actionId = old.actionId ∧ new.delegationId = old.delegationId ∧
    new.actionRevision = old.actionRevision ∧
    new.targetDelegationRevision = old.targetDelegationRevision ∧
    new.targetPlanRevision = old.targetPlanRevision ∧ new.stopEpoch = old.stopEpoch ∧
    new.branchKind = old.branchKind ∧ new.actionSummary = old.actionSummary ∧
    new.createdAt = old.createdAt ∧
    ((old.status = .terminal ∨ old.status = .superseded) → new.status = old.status)

instance (old new : ActionBranchRecord) : Decidable (SameBranch old new) := by
  unfold SameBranch
  infer_instance

theorem SameBranch.refl (row : ActionBranchRecord) : SameBranch row row := by simp [SameBranch]

def Store.updateBranches (s : Store) (p : ActionBranchRecord → Bool)
    (f : ActionBranchRecord → ActionBranchRecord)
    (keeps : ∀ row, (f row).actionId = row.actionId) : Anyhow Store := do
  ensure (∀ row ∈ s.actionBranches.rows, p row = true → SameBranch row (f row))
    "ExecAss action branch identity is immutable"
  .ok { s with actionBranches := s.actionBranches.update p f keeps }

def Store.insertBranch (s : Store) (row : ActionBranchRecord) : Anyhow Store := do
  ensure (∀ other ∈ s.actionBranches.rows, other.delegationId = row.delegationId →
      other.actionRevision ≠ row.actionRevision)
    "UNIQUE constraint failed: execass_action_branches.delegation_id, action_revision"
  match s.actionBranches.insert? row with
  | some actionBranches => .ok { s with actionBranches }
  | none => bail "UNIQUE constraint failed: execass_action_branches.action_id"

def Store.branchReferenced (s : Store) (id : Text) : Bool :=
  s.dependents.actionIds.contains id || s.continuations.rows.any (·.actionId = id) ||
    s.attentionItems.rows.any (·.actionId = some id) ||
    s.externalWaits.rows.any (·.actionId = some id) ||
    s.operationHistory.rows.any (·.identity.actionId = id)

def Store.deleteBranches (s : Store) (p : ActionBranchRecord → Bool) : Anyhow Store := do
  ensure (∀ row ∈ s.actionBranches.rows, p row = true → s.branchReferenced row.actionId = false)
    "FOREIGN KEY constraint failed"
  .ok { s with actionBranches := s.actionBranches.delete p }

/-- `execass_attention_identity_immutable`. -/
def SameAttention (old new : AttentionItemRecord) : Prop :=
  { new with status := old.status, resolvedAt := old.resolvedAt } = old

instance (old new : AttentionItemRecord) : Decidable (SameAttention old new) := by
  unfold SameAttention
  infer_instance

def Store.updateAttention (s : Store) (p : AttentionItemRecord → Bool)
    (f : AttentionItemRecord → AttentionItemRecord)
    (keeps : ∀ row, (f row).attentionId = row.attentionId) : Anyhow Store := do
  ensure (∀ row ∈ s.attentionItems.rows, p row = true → SameAttention row (f row))
    "ExecAss attention identity is immutable"
  .ok { s with attentionItems := s.attentionItems.update p f keeps }

def Store.insertAttention (s : Store) (row : AttentionItemRecord) : Anyhow Store :=
  match s.attentionItems.insert? row with
  | some attentionItems => .ok { s with attentionItems }
  | none => bail "UNIQUE constraint failed: execass_attention_items.attention_id"

def Store.deleteAttention (s : Store) (p : AttentionItemRecord → Bool) : Anyhow Store := do
  ensure (∀ row ∈ s.attentionItems.rows, p row = true →
      s.dependents.attentionIds.contains row.attentionId = false) "FOREIGN KEY constraint failed"
  .ok { s with attentionItems := s.attentionItems.delete p }

/-- `execass_external_wait_identity_immutable`. -/
def SameWait (old new : ExternalWaitRecord) : Prop :=
  { new with status := old.status, resolvedAt := old.resolvedAt } = old

instance (old new : ExternalWaitRecord) : Decidable (SameWait old new) := by
  unfold SameWait
  infer_instance

def Store.updateWaits (s : Store) (p : ExternalWaitRecord → Bool)
    (f : ExternalWaitRecord → ExternalWaitRecord)
    (keeps : ∀ row, (f row).externalWaitId = row.externalWaitId) : Anyhow Store := do
  ensure (∀ row ∈ s.externalWaits.rows, p row = true → SameWait row (f row))
    "ExecAss external wait identity is immutable"
  .ok { s with externalWaits := s.externalWaits.update p f keeps }

def Store.insertWait (s : Store) (row : ExternalWaitRecord) : Anyhow Store :=
  match s.externalWaits.insert? row with
  | some externalWaits => .ok { s with externalWaits }
  | none => bail "UNIQUE constraint failed: execass_external_waits.external_wait_id"

def Store.deleteWaits (s : Store) (p : ExternalWaitRecord → Bool) : Store :=
  { s with externalWaits := s.externalWaits.delete p }

/-- The transition a delegation row agrees with. -/
def MatchesHistory (t : LifecycleTransitionRecord) (d : DelegationRecord) : Prop :=
  t.delegationId = d.delegationId ∧ t.stateRevision = d.stateRevision ∧
    t.projectionSnapshot.phase = d.phase ∧ t.projectionSnapshot.runControl = d.runControl ∧
    t.projectionSnapshot.currentPlanRevision = d.currentPlanRevision ∧
    t.projectionSnapshot.currentCriteriaRevision = d.currentCriteriaRevision ∧
    t.projectionSnapshot.pendingDecisionId = d.pendingDecisionId ∧
    t.projectionSnapshot.externalWaitJson = d.externalWaitJson ∧
    t.projectionSnapshot.completionAssessmentJson = d.completionAssessmentJson ∧
    t.projectionSnapshot.stopEpoch = d.stopEpoch ∧
    t.projectionSnapshot.updatedAt = d.updatedAt ∧ t.projectionSnapshot.terminalAt = d.terminalAt

instance (t : LifecycleTransitionRecord) (d : DelegationRecord) : Decidable (MatchesHistory t d) := by
  unfold MatchesHistory
  infer_instance

/-- `execass_delegation_revision_monotonic`: a row keeps its revision only where it is the row of a
recorded transition. -/
def RevisionMonotonic (s : Store) (old new : DelegationRecord) : Prop :=
  new.delegationId = old.delegationId ∧ new.authorityProvenanceId = old.authorityProvenanceId ∧
    (old.stateRevision < new.stateRevision ∨ new.stateRevision = old.stateRevision ∧
      ∃ t ∈ s.transitions.rows, MatchesHistory t new)

instance (s : Store) (old new : DelegationRecord) : Decidable (RevisionMonotonic s old new) := by
  unfold RevisionMonotonic
  infer_instance

def Store.updateDelegations (s : Store) (p : DelegationRecord → Bool)
    (f : DelegationRecord → DelegationRecord)
    (keeps : ∀ row, (f row).delegationId = row.delegationId) : Anyhow Store := do
  ensure (∀ row ∈ s.delegations.rows, p row = true → RevisionMonotonic s row (f row))
    "ExecAss delegation state revision must increase"
  .ok { s with delegations := s.delegations.update p f keeps }

/-- An update that must change one row. -/
def Store.advanceDelegation (s : Store) (p : DelegationRecord → Bool)
    (f : DelegationRecord → DelegationRecord)
    (keeps : ∀ row, (f row).delegationId = row.delegationId) (lost : String) : Anyhow Store := do
  let next ← s.updateDelegations p f keeps
  ensure (s.delegations.matched p = 1) lost
  .ok next

def Store.insertDelegation (s : Store) (row : DelegationRecord) : Anyhow Store :=
  match s.delegations.insert? row with
  | some delegations => .ok { s with delegations }
  | none => bail "UNIQUE constraint failed: execass_delegations.delegation_id"

def Store.insertTransition (s : Store) (row : LifecycleTransitionRecord) : Anyhow Store := do
  ensure (∀ other ∈ s.transitions.rows, (other.delegationId, other.stateRevision) ≠
      (row.delegationId, row.stateRevision) ∧ other.outboxEventId ≠ row.outboxEventId)
    "UNIQUE constraint failed: execass_lifecycle_transitions"
  match s.transitions.insert? row with
  | some transitions => .ok { s with transitions }
  | none => bail "UNIQUE constraint failed: execass_lifecycle_transitions.transition_id"

def Store.insertOutbox (s : Store) (event : NewOutboxEvent) : Anyhow Store := do
  ensure (0 < event.aggregateRevision) "CHECK constraint failed: aggregate_revision > 0"
  ensure (∀ other ∈ s.outboxEvents.rows, other.duplicateIdentity ≠ event.duplicateIdentity ∧
      (other.eventName, other.aggregateId, other.aggregateRevision, other.causationId) ≠
        (event.eventName, event.aggregateId, event.aggregateRevision, event.causationId))
    "UNIQUE constraint failed: execass_outbox_events"
  match s.outboxEvents.insert? event with
  | some outboxEvents => .ok { s with outboxEvents }
  | none => bail "UNIQUE constraint failed: execass_outbox_events.event_id"

/-! The technical resources. -/

/-- What a reservation takes from the limit of its quota entry. -/
def Store.charge (s : Store) (row : TechnicalResourceReservationRecord) : Int :=
  match row.status with
  | .reserved => row.identity.amountReserved
  | .reconciliationRequired => row.identity.amountReserved
  | .settled => ((s.actuals.rows.filter
      (·.reservationId = row.identity.reservationId)).map (·.amountActual)).sum
  | .released => 0
  | .expired => 0

def Draws (entry : Text × Text × Text) (identity : TechnicalResourceReservationIdentity) : Bool :=
  (identity.quotaSnapshotId, identity.technicalResourceKind, identity.unit) = entry

/-- The use of a quota entry. -/
def Store.used (s : Store) (entry : Text × Text × Text) : Int :=
  ((s.reservations.rows.filter fun row => Draws entry row.identity).map s.charge).sum

def Store.insertQuotaEntry (s : Store) (row : QuotaEntryRecord) : Anyhow Store := do
  ensure (0 ≤ row.amountLimit) "CHECK constraint failed: amount_limit >= 0"
  match s.quotaEntries.insert? row with
  | some quotaEntries => .ok { s with quotaEntries }
  | none => bail "UNIQUE constraint failed: execass_technical_resource_quota_entries"

/-- `execass_technical_resource_reservation_insert_guard`, as far as the claim and the effect go. -/
def ReservationHasClaim (s : Store) (row : TechnicalResourceReservationRecord) : Prop :=
  ∃ h ∈ s.operationHistory.rows, h.operation = .claim ∧ h.eventId = row.claimEventId ∧
    h.identity.claimReceiptId = row.claimReceiptId ∧
    h.identity.continuationId = row.continuationId ∧
    h.identity.delegationId = row.delegationId ∧
    h.identity.continuationFencingToken = row.continuationFencingToken ∧
    h.identity.runtimeHostGeneration = row.runtimeHostGeneration ∧
    h.identity.runtimeFencingToken = row.runtimeFencingToken ∧
    h.identity.technicalQuotaSnapshotId = some row.identity.quotaSnapshotId ∧
    ∃ e ∈ s.logicalEffects.rows, e.logicalEffectId = row.identity.logicalEffectId ∧
      e.delegationId = row.delegationId ∧ e.continuationId = row.continuationId

instance (s : Store) (row : TechnicalResourceReservationRecord) :
    Decidable (ReservationHasClaim s row) := by
  unfold ReservationHasClaim
  infer_instance

def Store.insertReservation (s : Store) (row : TechnicalResourceReservationRecord) :
    Anyhow Store := do
  let entry := (row.identity.quotaSnapshotId, row.identity.technicalResourceKind, row.identity.unit)
  ensure (ReservationHasClaim s row)
    "ExecAss technical resource reservation requires exact immutable claim provenance"
  ensure ((s.quotaEntries.find? entry).isSome = true) "FOREIGN KEY constraint failed"
  ensure (∀ quota ∈ s.quotaEntries.find? entry,
      row.identity.amountReserved + s.used entry ≤ quota.amountLimit)
    "ExecAss technical resource quota is exhausted"
  ensure (0 < row.identity.amountReserved ∧ row.createdAt < row.expiresAt)
    "CHECK constraint failed: execass_technical_resource_reservations"
  ensure (∀ other ∈ s.reservations.rows, other.identity.logicalEffectId =
      row.identity.logicalEffectId → Draws entry other.identity = false)
    "UNIQUE constraint failed: execass_technical_resource_reservations"
  match s.reservations.insert? row with
  | some reservations => .ok { s with reservations }
  | none => bail "failed reserving exact technical resource capacity"

/-- An actual with the fence of a reservation. -/
def ActualOf (row : TechnicalResourceReservationRecord) (actual : TechnicalResourceActualRecord) :
    Prop :=
  actual.reservationId = row.identity.reservationId ∧ actual.delegationId = row.delegationId ∧
    actual.continuationFencingToken = row.continuationFencingToken ∧
    actual.runtimeHostGeneration = row.runtimeHostGeneration ∧
    actual.runtimeFencingToken = row.runtimeFencingToken

instance (row : TechnicalResourceReservationRecord) (actual : TechnicalResourceActualRecord) :
    Decidable (ActualOf row actual) := by
  unfold ActualOf
  infer_instance

/-- The status changes `execass_technical_resource_reservation_status_guard` admits. -/
def ReservationStatus.next : ReservationStatus → List ReservationStatus
  | .reserved => [.settled, .released, .expired, .reconciliationRequired]
  | .reconciliationRequired => [.settled, .released]
  | _ => []

/-- `execass_technical_resource_reservation_status_guard`. -/
def ReservationMoves (s : Store) (old : TechnicalResourceReservationRecord)
    (status : ReservationStatus) : Prop :=
  status ∈ old.status.next ∧
    (status = .settled → ∃ actual ∈ s.actuals.rows, ActualOf old actual) ∧
    (status = .released ∨ status = .expired →
      ∀ actual ∈ s.actuals.rows, actual.reservationId ≠ old.identity.reservationId)

instance (s : Store) (old : TechnicalResourceReservationRecord) (status : ReservationStatus) :
    Decidable (ReservationMoves s old status) := by
  unfold ReservationMoves
  infer_instance

/-- An update of the status that must change one row. -/
def Store.moveReservation (s : Store) (reservationId : Text) (old new : ReservationStatus)
    (settledAt : Option Int) (lost : String) : Anyhow Store := do
  let hit (row : TechnicalResourceReservationRecord) : Bool :=
    row.identity.reservationId = reservationId && row.status = old
  ensure (∀ row ∈ s.reservations.rows, hit row = true → ReservationMoves s row new)
    "ExecAss technical resource reservation transition is invalid"
  ensure (s.reservations.matched hit = 1) lost
  .ok { s with reservations := s.reservations.update hit (fun row => { row with
    status := new, settledAt }) fun _ => rfl }

def Store.insertActual (s : Store) (row : TechnicalResourceActualRecord) : Anyhow Store := do
  ensure (row.evidenceDigest ≠ [] ∧ ∃ r ∈ s.reservations.rows, ActualOf r row ∧
      (r.status = .reserved ∨ r.status = .reconciliationRequired) ∧
      row.amountActual ≤ r.identity.amountReserved)
    "ExecAss technical resource actual lacks exact live reservation provenance"
  ensure (0 ≤ row.amountActual) "CHECK constraint failed: amount_actual >= 0"
  ensure (∀ other ∈ s.actuals.rows, other.reservationId ≠ row.reservationId)
    "UNIQUE constraint failed: execass_technical_resource_actuals.reservation_id"
  match s.actuals.insert? row with
  | some actuals => .ok { s with actuals }
  | none =>
    bail "UNIQUE constraint failed: execass_technical_resource_actuals.technical_resource_actual_id"

/-! The logical effects and the provider attempts. -/

/-- The outcome of an effect that a row of evidence proves. -/
def RecorderEvidenceRow.outcome (evidence : RecorderEvidenceRow) (state : LogicalEffectState) :
    EffectOutcome :=
  ⟨state, evidence.responseDigest, evidence.providerErrorClass, evidence.remoteEffectId,
    evidence.recorderRecordDigest⟩

def executionKind : LogicalEffectState → Option RecorderEvidenceResult
  | .succeeded => some .present
  | .outcomeUnknown => some .unknown
  | .failed => some .absent
  | _ => none

def reconciledKind : LogicalEffectState → Option RecorderEvidenceResult
  | .reconciledAbsent => some .absent
  | .reconciledPresent => some .present
  | _ => none

/-- Evidence of a source and a kind for the new state of an effect. -/
def EffectProven (s : Store) (source : RecorderObservationSource) (kind : RecorderEvidenceResult)
    (new : LogicalEffectRecord) : Prop :=
  ∃ evidence ∈ s.recorderEvidence.rows, evidence.logicalEffectId = new.logicalEffectId ∧
    evidence.journalSource = source ∧ evidence.journalKind = kind ∧
    new.outcome = some (evidence.outcome new.state) ∧ evidence.observedAt = new.updatedAt

instance (s : Store) (source : RecorderObservationSource) (kind : RecorderEvidenceResult)
    (new : LogicalEffectRecord) : Decidable (EffectProven s source kind new) := by
  unfold EffectProven
  infer_instance

/-- `execass_logical_effect_recorder_execution_guard` and `.._recorder_reconcile_guard`. -/
def EffectHasEvidence (s : Store) (old new : LogicalEffectRecord) : Prop :=
  (old.state = .invoking → new.state ≠ .reconciledAbsent ∧
    ∀ kind ∈ executionKind new.state, EffectProven s .execution kind new) ∧
  (old.state = .outcomeUnknown →
    ∀ kind ∈ reconciledKind new.state, EffectProven s .reconciliation kind new)

instance (s : Store) (old new : LogicalEffectRecord) : Decidable (EffectHasEvidence s old new) := by
  unfold EffectHasEvidence
  infer_instance

def Store.updateEffects (s : Store) (p : LogicalEffectRecord → Bool)
    (f : LogicalEffectRecord → LogicalEffectRecord)
    (keeps : ∀ row, (f row).logicalEffectId = row.logicalEffectId) (lost : String) :
    Anyhow Store := do
  ensure (∀ row ∈ s.logicalEffects.rows, p row = true → EffectHasEvidence s row (f row))
    "ExecAss effect result requires exact imported signed recorder evidence"
  ensure (s.logicalEffects.matched p = 1) lost
  .ok { s with logicalEffects := s.logicalEffects.update p f keeps }

/-- The status changes `execass_provider_attempt_transition_guard` admits. -/
def ProviderAttemptStatus.next : ProviderAttemptStatus → List ProviderAttemptStatus
  | .prepared => [.prepared, .invoking]
  | .invoking => [.invoking, .succeeded, .failed, .outcomeUnknown]
  | .outcomeUnknown => [.outcomeUnknown, .reconciledAbsent, .reconciledPresent]
  | status => [status]

def ProviderAttemptStatus.effect : ProviderAttemptStatus → Option LogicalEffectState
  | .prepared => none
  | .invoking => some .invoking
  | .succeeded => some .succeeded
  | .failed => some .failed
  | .outcomeUnknown => some .outcomeUnknown
  | .reconciledAbsent => some .reconciledAbsent
  | .reconciledPresent => some .reconciledPresent

/-- Evidence of a source and a kind for the new result of an attempt. -/
def AttemptProven (s : Store) (source : RecorderObservationSource) (kind : RecorderEvidenceResult)
    (new : ProviderAttemptRow) : Prop :=
  ∃ evidence ∈ s.recorderEvidence.rows, evidence.attemptId = new.attemptId ∧
    evidence.logicalEffectId = new.logicalEffectId ∧ evidence.journalSource = source ∧
    evidence.journalKind = kind ∧ evidence.responseDigest = new.providerResponseDigest ∧
    evidence.providerErrorClass = new.providerErrorClass ∧
    evidence.remoteEffectId = new.remoteEffectId ∧ some evidence.observedAt = new.finishedAt

instance (s : Store) (source : RecorderObservationSource) (kind : RecorderEvidenceResult)
    (new : ProviderAttemptRow) : Decidable (AttemptProven s source kind new) := by
  unfold AttemptProven
  infer_instance

/-- The guards of an attempt: its transitions, the evidence of its results and the results that
stand. -/
def AttemptMoves (s : Store) (old new : ProviderAttemptRow) : Prop :=
  new.status ∈ old.status.next ∧
    (old.status = .invoking → ∀ state ∈ new.status.effect, ∀ kind ∈ executionKind state,
      AttemptProven s .execution kind new) ∧
    (old.status = .outcomeUnknown → ∀ state ∈ new.status.effect, ∀ kind ∈ reconciledKind state,
      AttemptProven s .reconciliation kind new) ∧
    (old.finishedAt ≠ none → new.status ≠ old.status ∨
      new.providerResponseDigest = old.providerResponseDigest ∧
      new.providerErrorClass = old.providerErrorClass ∧
      new.remoteEffectId = old.remoteEffectId ∧ new.finishedAt = old.finishedAt)

instance (s : Store) (old new : ProviderAttemptRow) : Decidable (AttemptMoves s old new) := by
  unfold AttemptMoves
  infer_instance

/-- `execass_provider_attempt_claim_binding_guard`. -/
def AttemptHasClaim (s : Store) (row : ProviderAttemptRow) : Prop :=
  ∃ h ∈ s.operationHistory.rows, h.operation = .claim ∧ h.eventId = row.claimEventId ∧
    h.identity.claimReceiptId = row.claimReceiptId ∧ h.identity.delegationId = row.delegationId ∧
    h.identity.continuationId = row.continuationId ∧ h.identity.actionId = row.actionId ∧
    h.identity.continuationFencingToken = row.fencingToken ∧
    h.identity.runtimeHostGeneration = row.hostGeneration ∧
    h.identity.runtimeHostInstanceId = row.hostInstanceId ∧
    h.identity.runtimeFencingToken = row.runtimeFencingToken ∧
    ∃ e ∈ s.logicalEffects.rows, e.logicalEffectId = row.logicalEffectId ∧
      e.delegationId = row.delegationId ∧ e.continuationId = row.continuationId

instance (s : Store) (row : ProviderAttemptRow) : Decidable (AttemptHasClaim s row) := by
  unfold AttemptHasClaim
  infer_instance

def Store.insertAttempt (s : Store) (row : ProviderAttemptRow) : Anyhow Store := do
  ensure (AttemptHasClaim s row) "ExecAss provider attempt lacks exact immutable claim binding"
  ensure (∀ e ∈ s.logicalEffects.rows, e.logicalEffectId = row.logicalEffectId →
      e.state ≠ .outcomeUnknown)
    "ExecAss outcome_unknown effect cannot be retried before reconciliation"
  ensure (∀ other ∈ s.providerAttempts.rows, other.logicalEffectId = row.logicalEffectId →
      other.attemptNumber ≠ row.attemptNumber)
    "UNIQUE constraint failed: execass_provider_attempts.logical_effect_id, attempt_number"
  match s.providerAttempts.insert? row with
  | some providerAttempts => .ok { s with providerAttempts }
  | none => bail "UNIQUE constraint failed: execass_provider_attempts.attempt_id"

/-- An update of attempts that must change one row, outside of the columns of its identity. -/
def Store.updateAttempts (s : Store) (p : ProviderAttemptRow → Bool)
    (f : ProviderAttemptRow → ProviderAttemptRow)
    (keeps : ∀ row, (f row).attemptId = row.attemptId) (lost : String) : Anyhow Store := do
  ensure (∀ row ∈ s.providerAttempts.rows, p row = true → AttemptMoves s row (f row))
    "ExecAss provider attempt transition is invalid"
  ensure (s.providerAttempts.matched p = 1) lost
  .ok { s with providerAttempts := s.providerAttempts.update p f keeps }

end CarsinOS.Delegation
