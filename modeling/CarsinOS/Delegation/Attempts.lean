import CarsinOS.Lib.Ledger
import CarsinOS.Delegation.Retry
import CarsinOS.Delegation.Work
import CarsinOS.Delegation.AttemptResult

/-! What the commands do to the attempts of an effect and to the evidence of their results. -/
namespace CarsinOS.Delegation
open CarsinOS.Lib CarsinOS.Integrity CarsinOS.Receipt

/-- Every effect stays, with its delegation. -/
def EffectsKept (s s' : Store) : Prop :=
  ∀ e ∈ s.logicalEffects.rows, ∃ e' ∈ s'.logicalEffects.rows,
    e'.logicalEffectId = e.logicalEffectId ∧ e'.delegationId = e.delegationId

/-- A write that leaves the attempts, the evidence and the identity of every effect. -/
structure BesideAttempts (s s' : Store) : Prop where
  attempts : s'.providerAttempts = s.providerAttempts
  evidence : s'.recorderEvidence = s.recorderEvidence
  effects : EffectsKept s s'

theorem BesideAttempts.of_eq {s s' : Store} (attempts : s'.providerAttempts = s.providerAttempts)
    (evidence : s'.recorderEvidence = s.recorderEvidence)
    (effects : s'.logicalEffects = s.logicalEffects) : BesideAttempts s s' :=
  ⟨attempts, evidence, fun e member => ⟨e, by rw [effects]; exact member, rfl, rfl⟩⟩

theorem BesideAttempts.refl (s : Store) : BesideAttempts s s := .of_eq rfl rfl rfl

theorem BesideAttempts.trans {s t u : Store} (first : BesideAttempts s t)
    (second : BesideAttempts t u) : BesideAttempts s u := by
  refine ⟨second.attempts.trans first.attempts, second.evidence.trans first.evidence, ?_⟩
  intro e member
  obtain ⟨e', member', id, owner⟩ := first.effects e member
  obtain ⟨e'', member'', id', owner'⟩ := second.effects e' member'
  exact ⟨e'', member'', id'.trans id, owner'.trans owner⟩

theorem updatedEffects_kept {s s' : Store} {p : LogicalEffectRecord → Bool}
    {f : LogicalEffectRecord → LogicalEffectRecord}
    (updated : s'.logicalEffects.rows = s.logicalEffects.rows.map fun row =>
      if p row then f row else row)
    (keeps : ∀ row, (f row).logicalEffectId = row.logicalEffectId)
    (owners : ∀ row, (f row).delegationId = row.delegationId) : EffectsKept s s' := by
  intro e member
  have row : (if p e then f e else e) ∈ s'.logicalEffects.rows := by
    rw [updated]
    exact List.mem_map_of_mem member
  refine ⟨_, row, ?_, ?_⟩
  · split
    · exact keeps e
    · rfl
  · split
    · exact owners e
    · rfl

theorem updateEffects_beside {s s' : Store} {p : LogicalEffectRecord → Bool}
    {f : LogicalEffectRecord → LogicalEffectRecord}
    {keeps : ∀ row, (f row).logicalEffectId = row.logicalEffectId} {lost : String}
    (done : s.updateEffects p f keeps lost = .ok s')
    (owners : ∀ row, (f row).delegationId = row.delegationId) : BesideAttempts s s' := by
  simp only [Store.updateEffects, bind_ok] at done
  obtain ⟨-, -, -, -, same⟩ := done
  cases same
  exact ⟨rfl, rfl, updatedEffects_kept rfl keeps owners⟩

theorem moveEffect_beside {s s' : Store} {delegationId logicalEffectId : Text}
    {old new : LogicalEffectState} {occurredAt : Int} {lost : String}
    (done : s.moveEffect delegationId logicalEffectId old new occurredAt lost = .ok s') :
    BesideAttempts s s' := updateEffects_beside done fun _ => rfl

theorem foldlM_beside {α : Type} {step : Store → α → Anyhow Store} {rows : List α} {s s' : Store}
    (done : rows.foldlM step s = .ok s')
    (each : ∀ t t' row, step t row = .ok t' → BesideAttempts t t') : BesideAttempts s s' := by
  induction rows generalizing s with
  | nil =>
    cases done
    exact .refl _
  | cons row rows ih =>
    rw [List.foldlM_cons, bind_ok] at done
    obtain ⟨t, first, rest⟩ := done
    exact (each s t row first).trans (ih rest)

/-! The statements beside the attempts. -/

theorem insertOutbox_beside {s s' : Store} {event : NewOutboxEvent}
    (done : s.insertOutbox event = .ok s') : BesideAttempts s s' := by
  obtain ⟨_, -, rfl⟩ := insertOutbox_ok done
  exact .of_eq rfl rfl rfl

theorem insertOperationHistory_beside {s s' : Store} {row : OperationHistoryRecord}
    (done : s.insertOperationHistory row = .ok s') : BesideAttempts s s' := by
  obtain ⟨_, -, -, rfl⟩ := insertOperationHistory_ok done
  exact .of_eq rfl rfl rfl

theorem updateContinuations_beside {s s' : Store} {p : ContinuationRecord → Bool}
    {f : ContinuationRecord → ContinuationRecord}
    {keeps : ∀ row, (f row).continuationId = row.continuationId}
    (done : s.updateContinuations p f keeps = .ok s') : BesideAttempts s s' := by
  obtain ⟨-, rfl⟩ := updateContinuations_ok done
  exact .of_eq rfl rfl rfl

theorem updateActionStatus_beside {s s' : Store} {action : ActionBranchRecord}
    {status : ContinuationStatus} {occurredAt : Int}
    (done : s.updateActionStatus action status occurredAt = .ok s') : BesideAttempts s s' := by
  simp only [Store.updateActionStatus, bind_ok] at done
  obtain ⟨t, updated, -, -, same⟩ := done
  cases same
  cases updateBranches_ok updated
  exact .of_eq rfl rfl rfl

theorem closeJob_beside {s s' : Store} {jobId : Option Text} {worker : Text} {expiresAt : Int}
    {lost : String} (done : s.closeJob jobId worker expiresAt lost = .ok s') :
    BesideAttempts s s' := by
  simp only [Store.closeJob, bind_ok] at done
  obtain ⟨-, -, same⟩ := done
  cases same
  exact .of_eq rfl rfl rfl

theorem moveReservation_beside {s s' : Store} {id : Text} {old new : ReservationStatus}
    {settledAt : Option Int} {lost : String}
    (done : s.moveReservation id old new settledAt lost = .ok s') : BesideAttempts s s' := by
  obtain ⟨_, rfl, -⟩ := moveReservation_ok done
  exact .of_eq rfl rfl rfl

theorem insertActual_beside {s s' : Store} {row : TechnicalResourceActualRecord}
    (done : s.insertActual row = .ok s') : BesideAttempts s s' := by
  obtain ⟨-, -, -, _, rfl, -⟩ := insertActual_ok done
  exact .of_eq rfl rfl rfl

theorem supersedeContinuation_beside {s s' : Store} {continuation : ContinuationRecord}
    {action : ActionBranchRecord} {occurredAt : Int} {workerId : Text} {jobLeaseExpiresAt : Int}
    (done : s.supersedeContinuationAndAction continuation action occurredAt workerId
      jobLeaseExpiresAt = .ok s') : BesideAttempts s s' := by
  simp only [Store.supersedeContinuationAndAction, bind_ok] at done
  obtain ⟨s₁, superseded, s₂, updated, closed⟩ := done
  have left := updateContinuations_beside superseded
  exact (left.trans (updateActionStatus_beside updated)).trans (closeJob_beside closed)

/-- What a command under a receipt does beside the attempts. -/
theorem mutate_beside {T : Type} {J : Coordinator} {command : AppendReceiptCommand} {pre : Int}
    {check : Bool} {mutation : Store → Anyhow (AtomicReceiptMutation T × Store)}
    {s s' : Store} {written : AtomicWrite T}
    (done : mutateWithAtomicReceiptAtRevision J command pre check mutation s = .ok (written, s'))
    (beside : ∀ m t, mutation s = .ok (m, t) → BesideAttempts s t) : BesideAttempts s s' := by
  rcases mutate_cases done with ⟨-, rfl⟩ | ⟨value, ran, -⟩ | ⟨value, next, -, ran, -, rfl, -⟩
  · exact .refl _
  · exact beside _ _ ran
  · exact (beside _ _ ran).trans (.of_eq rfl rfl rfl)

/-! The claim. -/

theorem writeClaim_beside {command : ContinuationClaimCommand} {continuation : ContinuationRecord}
    {action : ActionBranchRecord} {identity : ContinuationClaimIdentity}
    {bundle : ResourceBundleDraft} {draft : ClaimDraft} {s s' : Store}
    (done : writeClaim command continuation action identity bundle s = .ok (draft, s')) :
    BesideAttempts s s' := by
  simp only [writeClaim, bind_ok] at done
  obtain ⟨s₁, recorded, s₂, reserved, s₃, claimed, s₄, updated, -, -, s₅, moved, _, -, _, -,
    same⟩ := done
  obtain ⟨-, rfl⟩ := Prod.mk.inj (Except.ok.inj same)
  have resources : BesideAttempts s₁ s₂ := foldlM_beside reserved fun t t' row step => by
    obtain ⟨_, -, rfl⟩ := insertReservation_ok step
    exact .of_eq rfl rfl rfl
  have effect : BesideAttempts s₂ s₃ := by
    unfold Store.claimLogicalEffect at claimed
    split at claimed
    · cases claimed
      exact .refl _
    · simp only [bind_ok] at claimed
      obtain ⟨-, -, same⟩ := claimed
      cases same
      exact ⟨rfl, rfl, updatedEffects_kept rfl (fun _ => rfl) fun _ => rfl⟩
  have told := (insertOperationHistory_beside recorded).trans (resources.trans effect)
  exact (told.trans (updateContinuations_beside updated)).trans (updateActionStatus_beside moved)

theorem claimRunnable_beside {K : FenceCrates} {outside : ClaimOutside}
    {command : ContinuationClaimCommand} {continuation : ContinuationRecord} {s s' : Store}
    {m : AtomicReceiptMutation ClaimMutationOutcome}
    (done : claimRunnable K outside command continuation s = .ok (m, s')) :
    BesideAttempts s s' := by
  unfold claimRunnable at done
  split at done
  · cases done
    exact .refl _
  split at done
  · cases done
    exact .refl _
  simp only [bind_ok] at done
  obtain ⟨-, -, d, -, -, -, -, -, done⟩ := done
  split at done
  · simp only [bind_ok] at done
    obtain ⟨-, -, s₁, sent, s₂, superseded, same⟩ := done
    cases same
    exact (insertOutbox_beside sent).trans (supersedeContinuation_beside superseded)
  · simp only [bind_ok] at done
    obtain ⟨-, -, _, -, done⟩ := done
    split at done
    · cases done
      exact .refl _
    · simp only [bind_ok] at done
      obtain ⟨s₁, sent, identity, -, ⟨draft, t⟩, written, same⟩ := done
      cases same
      exact (insertOutbox_beside sent).trans (writeClaim_beside written)

theorem claimContinuation_beside {K : FenceCrates} {J : Coordinator} {outside : ClaimOutside}
    {command : ContinuationClaimCommand} {s s' : Store} {outcome : ContinuationClaimOutcome}
    (done : claimContinuation K J outside command s = .ok (outcome, s')) :
    BesideAttempts s s' := by
  simp only [claimContinuation, bind_ok] at done
  obtain ⟨-, -, ⟨written, t⟩, ran, _, -, same⟩ := done
  obtain ⟨-, rfl⟩ := Prod.mk.inj (Except.ok.inj same)
  refine mutate_beside ran fun m u step => ?_
  unfold claimMutation at step
  split at step
  · split at step <;> cases step <;> exact .refl _
  split at step
  · cases step
    exact .refl _
  split at step
  · cases step
    exact .refl _
  split at step
  · cases step
    exact .refl _
  split at step
  · cases step
    exact .refl _
  split at step
  · cases step
    exact .refl _
  exact claimRunnable_beside step

theorem preDispatch_beside {K : FenceCrates} {setDigest : ReservationSetDigest}
    {command : ContinuationDispatchValidationCommand} {s s' : Store}
    {outcome : ContinuationDispatchValidationOutcome}
    (done : validateContinuationPreDispatch K setDigest command s = .ok (outcome, s')) :
    BesideAttempts s s' := by
  simp only [validateContinuationPreDispatch, bind_ok] at done
  obtain ⟨-, -, -, -, done⟩ := done
  split at done
  · cases done
    exact .refl _
  split at done
  · cases done
    exact .refl _
  simp only [bind_ok] at done
  obtain ⟨⟨marked, t⟩, marks, same⟩ := done
  obtain ⟨-, rfl⟩ := Prod.mk.inj (Except.ok.inj same)
  simp only [Store.markClaimEffectInvoking, bind_ok] at marks
  obtain ⟨_, -, marks⟩ := marks
  split at marks
  · cases marks
    exact .refl _
  · simp only [bind_ok] at marks
    obtain ⟨state, -, marks⟩ := marks
    split at marks
    · cases marks
      exact .refl _
    · simp only [bind_ok] at marks
      obtain ⟨-, -, same⟩ := marks
      cases same
      exact ⟨rfl, rfl, updatedEffects_kept rfl (fun _ => rfl) fun _ => rfl⟩

/-! The settlement. -/

theorem transitionReservations_beside {K : FenceCrates} {identity : ContinuationClaimIdentity}
    {resultStatus : ContinuationStatus} {actuals : List TechnicalResourceActualInput}
    {eventId : Text} {settledAt : Int} {s s' : Store}
    (done : s.transitionReservationsOnSettle K identity resultStatus actuals eventId settledAt =
      .ok s') : BesideAttempts s s' := by
  simp only [Store.transitionReservationsOnSettle, bind_ok] at done
  obtain ⟨-, -, -, -, ⟨state, t⟩, moved, done⟩ := done
  have effect : BesideAttempts s t := by
    simp only [Store.transitionClaimEffectOnSettle, bind_ok] at moved
    obtain ⟨_, -, moved⟩ := moved
    split at moved
    · cases moved
      exact .refl _
    · simp only [bind_ok] at moved
      obtain ⟨_, -, _, -, -, -, u, moves, same⟩ := moved
      obtain ⟨-, rfl⟩ := Prod.mk.inj (Except.ok.inj same)
      exact moveEffect_beside moves
  refine effect.trans ?_
  split at done
  · refine foldlM_beside done fun u u' row step => ?_
    simp only [Store.settleReservation, bind_ok] at step
    obtain ⟨actual, -, -, -, v, recorded, settled⟩ := step
    exact (insertActual_beside recorded).trans (moveReservation_beside settled)
  · exact foldlM_beside done fun u u' row step => moveReservation_beside step

theorem settleContinuation_beside {K : FenceCrates} {J : Coordinator}
    {setDigest : ReservationSetDigest} {outside : SettleOutside}
    {command : ContinuationSettleCommand} {s s' : Store} {outcome : ContinuationSettleOutcome}
    (done : settleContinuation K J setDigest outside command s = .ok (outcome, s')) :
    BesideAttempts s s' := by
  simp only [settleContinuation, bind_ok] at done
  obtain ⟨_, -, digest, -, ⟨written, t⟩, ran, _, -, same⟩ := done
  obtain ⟨-, rfl⟩ := Prod.mk.inj (Except.ok.inj same)
  refine mutate_beside ran fun m u step => ?_
  unfold settleMutation at step
  split at step
  · split at step <;> cases step <;> exact .refl _
  split at step
  · cases step
    exact .refl _
  simp only [bind_ok] at step
  obtain ⟨-, -, -, -, -, -, step⟩ := step
  split at step
  · simp only [bind_ok] at step
    obtain ⟨v, superseded, same⟩ := step
    cases same
    simp only [supersedeWithReceiptFromSettle, bind_ok] at superseded
    obtain ⟨-, -, _, -, s₁, sent, s₂, recorded, s₃, resources, gone⟩ := superseded
    have told := (insertOutbox_beside sent).trans (insertOperationHistory_beside recorded)
    exact (told.trans (transitionReservations_beside resources)).trans
      (supersedeContinuation_beside gone)
  · simp only [bind_ok] at step
    obtain ⟨⟨draft, v⟩, settled, same⟩ := step
    cases same
    simp only [writeSettle, bind_ok] at settled
    obtain ⟨-, -, _, -, s₁, sent, s₂, recorded, s₃, resources, s₄, updated, -, -, s₅, moved, s₆,
      closed, _, -, _, -, same⟩ := settled
    obtain ⟨-, rfl⟩ := Prod.mk.inj (Except.ok.inj same)
    have told := (insertOutbox_beside sent).trans (insertOperationHistory_beside recorded)
    have paid := told.trans (transitionReservations_beside resources)
    exact (paid.trans (updateContinuations_beside updated)).trans
      ((updateActionStatus_beside moved).trans (closeJob_beside closed))

/-! The attempts. -/

/-- An update of an attempt outside of its identity. -/
def SameAttempt (old new : ProviderAttemptRow) : Prop :=
  new = { old with
    status := new.status
    providerResponseDigest := new.providerResponseDigest
    providerErrorClass := new.providerErrorClass
    remoteEffectId := new.remoteEffectId
    finishedAt := new.finishedAt }

/-- A new attempt is the first of its effect, or follows a failure. -/
def MayTry (latest : Option ProviderAttemptRecord) (attemptNumber : Int) : Prop :=
  match latest with
  | none => attemptNumber = 1
  | some existing => existing.status = .failed ∧ attemptNumber = existing.attemptNumber + 1

/-- The attempts that get a result, each with the evidence the store holds for it. -/
structure Results (s s' : Store) (p : ProviderAttemptRow → Bool)
    (f : ProviderAttemptRow → ProviderAttemptRow) : Prop where
  same : ∀ row, p row = true → SameAttempt row (f row)
  moves : ∀ row ∈ s.providerAttempts.rows, p row = true → AttemptMoves s' row (f row)
  terminal : ∀ row, p row = true → attemptIsTerminal (f row).status = true

/-- Results the store holds the evidence for already. -/
structure Reports (s s' : Store) (p : ProviderAttemptRow → Bool)
    (f : ProviderAttemptRow → ProviderAttemptRow) : Prop where
  results : Results s s p f
  invoking : ∃ row ∈ s.providerAttempts.rows, p row = true ∧ row.status = .invoking
  attempts : s'.providerAttempts.rows = s.providerAttempts.rows.map fun row =>
    if p row then f row else row
  evidence : s'.recorderEvidence = s.recorderEvidence
  effects : EffectsKept s s'

/-- Results with new evidence, all for the attempt the evidence is of. -/
structure Imports (s s' : Store) (row : RecorderEvidenceRow) (p : ProviderAttemptRow → Bool)
    (f : ProviderAttemptRow → ProviderAttemptRow) : Prop where
  admitted : EvidenceHasAttempt s row
  evidence : s'.recorderEvidence.rows = s.recorderEvidence.rows ++ [row]
  results : Results s s' p f
  named : ∀ a, p a = true → a.attemptId = row.attemptId
  attempts : s'.providerAttempts.rows = s.providerAttempts.rows.map fun a => if p a then f a else a
  settled : ∀ a ∈ s'.providerAttempts.rows, a.attemptId = row.attemptId →
    attemptIsTerminal a.status = true
  effects : EffectsKept s s'

/-- A write of the attempts, but for the begin of an invocation. -/
inductive AttemptWrite : Store → Store → Prop where
  | beside {s s' : Store} (other : BesideAttempts s s') : AttemptWrite s s'
  | create {s s' : Store} {row : ProviderAttemptRow} (prepared : row.status = .prepared)
      (next : MayTry (s.latestAttempt row.logicalEffectId) row.attemptNumber)
      (done : s.insertAttempt row = .ok s') : AttemptWrite s s'
  | report {s s' : Store} {p : ProviderAttemptRow → Bool}
      {f : ProviderAttemptRow → ProviderAttemptRow} (reports : Reports s s' p f) : AttemptWrite s s'
  | imported {s s' : Store} {evidence : RecorderEvidenceRow} {p : ProviderAttemptRow → Bool}
      {f : ProviderAttemptRow → ProviderAttemptRow} (imports : Imports s s' evidence p f) :
      AttemptWrite s s'

abbrev AttemptWrites : Store → Store → Prop := Relation.ReflTransGen AttemptWrite

theorem BesideAttempts.writes {s s' : Store} (other : BesideAttempts s s') : AttemptWrites s s' :=
  Relation.ReflTransGen.single (.beside other)

theorem attemptWrites_keep {P : Store → Prop} (each : ∀ s s', AttemptWrite s s' → P s → P s')
    {s s' : Store} (writes : AttemptWrites s s') (start : P s) : P s' := by
  induction writes with
  | refl => exact start
  | tail _ last ih => exact each _ _ last ih

theorem attemptMoves_evidence {s s' : Store} {old new : ProviderAttemptRow}
    (same : s'.recorderEvidence = s.recorderEvidence) (moves : AttemptMoves s old new) :
    AttemptMoves s' old new := by
  simpa only [AttemptMoves, AttemptProven, same] using moves

theorem updateAttempts_shape {s s' : Store} {p : ProviderAttemptRow → Bool}
    {f : ProviderAttemptRow → ProviderAttemptRow}
    {keeps : ∀ row, (f row).attemptId = row.attemptId} {lost : String}
    (done : s.updateAttempts p f keeps lost = .ok s') :
    s' = { s with providerAttempts := s.providerAttempts.update p f keeps } ∧
      (∀ row ∈ s.providerAttempts.rows, p row = true → AttemptMoves s row (f row)) ∧
      ∃ row ∈ s.providerAttempts.rows, p row = true := by
  simp only [Store.updateAttempts, bind_ok, ensure_ok] at done
  obtain ⟨-, moves, -, sole, same⟩ := done
  cases same
  refine ⟨rfl, moves, List.countP_pos_iff.mp ?_⟩
  rw [Table.matched] at sole
  rw [sole]
  decide

theorem createAttempt_attempts {K : FenceCrates} {command : PrepareProviderAttemptCommand}
    {effect : EffectRow} {attemptNumber : Int} {s s' : Store}
    {outcome : PrepareProviderAttemptOutcome}
    (next : MayTry (s.latestAttempt effect.record.logicalEffectId) attemptNumber)
    (done : createAttempt K command effect attemptNumber s = .ok (outcome, s')) :
    AttemptWrites s s' := by
  unfold createAttempt at done
  split at done
  · cases done
    exact .refl
  split at done
  · cases done
    exact .refl
  simp only [bind_ok] at done
  obtain ⟨t, inserted, attempt, -, same⟩ := done
  cases same
  exact .single (.create rfl next inserted)

theorem prepareAttempt_attempts {K : FenceCrates} {setDigest : ReservationSetDigest}
    {command : PrepareProviderAttemptCommand} {s s' : Store}
    {outcome : PrepareProviderAttemptOutcome}
    (done : prepareProviderAttempt K setDigest command s = .ok (outcome, s')) :
    AttemptWrites s s' := by
  simp only [prepareProviderAttempt, bind_ok] at done
  obtain ⟨-, -, done⟩ := done
  split at done
  · cases done
    exact .refl
  split at done
  · cases done
    exact .refl
  split at done
  · rename_i existing latest
    unfold prepareAgainstExisting at done
    simp only at done
    split at done
    · cases done
      exact .refl
    split at done
    · rename_i failed _
      split at done
      · cases done
        exact .refl
      · refine createAttempt_attempts ?_ done
        rw [latest]
        exact ⟨failed, rfl⟩
    all_goals
      cases done
      exact .refl
  · rename_i latest
    refine createAttempt_attempts ?_ done
    rw [latest]
    rfl

def invokeAttempt (attemptId : Text) (row : ProviderAttemptRow) : ProviderAttemptRow :=
  if row.attemptId = attemptId then { row with status := .invoking } else row

/-- The begin of an invocation. -/
structure Begins (s s' : Store) (attempt : ProviderAttemptRecord) : Prop where
  prepared : ∃ row ∈ s.providerAttempts.rows, row.attemptId = attempt.attemptId ∧
    row.logicalEffectId = attempt.dispatch.logicalEffectId ∧ row.status = .prepared
  attempts : s'.providerAttempts.rows =
    s.providerAttempts.rows.map (invokeAttempt attempt.attemptId)
  evidence : s'.recorderEvidence = s.recorderEvidence
  effects : EffectsKept s s'

theorem attemptById_row {s : Store} {id : Text} {attempt : ProviderAttemptRecord}
    (found : s.attemptById id = some attempt) : ∃ row ∈ s.providerAttempts.rows,
      row.attemptId = id ∧ attempt.attemptId = row.attemptId ∧
        attempt.attemptNumber = row.attemptNumber ∧ attempt.status = row.status ∧
        attempt.dispatch.logicalEffectId = row.logicalEffectId := by
  simp only [Store.attemptById, Option.bind_eq_some_iff, Store.attemptRecord,
    Option.map_eq_some_iff] at found
  obtain ⟨row, present, effect, -, same⟩ := found
  subst same
  exact ⟨row, Table.find?_mem present, Table.find?_key present, rfl, rfl, rfl, rfl⟩

theorem beginAttempt_cases {K : FenceCrates} {setDigest : ReservationSetDigest}
    {command : BeginProviderAttemptInvocationCommand} {s s' : Store}
    {outcome : BeginProviderAttemptInvocationOutcome}
    (done : beginProviderAttemptInvocation K setDigest command s = .ok (outcome, s')) :
    s' = s ∧ (∀ attempt, outcome ≠ .began attempt) ∨
      ∃ attempt, outcome = .began attempt ∧ Begins s s' attempt := by
  simp only [beginProviderAttemptInvocation, bind_ok] at done
  obtain ⟨-, -, -, -, done⟩ := done
  split at done
  · cases done
    exact .inl ⟨rfl, by simp⟩
  rename_i existing stored
  split at done
  · cases done
    exact .inl ⟨rfl, by simp⟩
  split at done
  · cases done
    exact .inl ⟨rfl, by simp⟩
  split at done
  · cases done
    exact .inl ⟨rfl, by simp⟩
  rename_i waiting
  split at done
  · cases done
    exact .inl ⟨rfl, by simp⟩
  split at done
  · cases done
    exact .inl ⟨rfl, by simp⟩
  split at done
  · cases done
    exact .inl ⟨rfl, by simp⟩
  simp only [bind_ok, required_ok] at done
  obtain ⟨-, -, attempt, begun, same⟩ := done
  cases same
  right
  refine ⟨attempt, rfl, ?_⟩
  obtain ⟨row, present, key, -, -, status, -⟩ := attemptById_row stored
  obtain ⟨row', present', key', same, -, -, subject⟩ := attemptById_row begun
  have prepared : row.status = .prepared := by
    rw [← status]
    exact not_not.mp waiting
  obtain ⟨old, member, rfl⟩ := List.mem_map.mp present'
  have only : old = row := Table.eq_of_key member present (by
    rw [key, ← key']
    split <;> rfl)
  subst only
  have named : attempt.attemptId = command.attemptId := same.trans key'
  refine ⟨⟨old, member, key.trans named.symm, ?_, prepared⟩, ?_, rfl, ?_⟩
  · rw [subject]
    split <;> rfl
  · simp only [Table.update, Bool.and_eq_true, decide_eq_true_eq, named]
    refine List.map_congr_left fun other inside => ?_
    by_cases hit : other.attemptId = command.attemptId
    · rw [Table.eq_of_key inside member (hit.trans key.symm)]
      simp [invokeAttempt, key, prepared]
    · simp [invokeAttempt, hit]
  · exact updatedEffects_kept rfl (fun _ => rfl) fun _ => rfl

/-! The results. -/

theorem mutate_attempts {T : Type} {J : Coordinator} {command : AppendReceiptCommand} {pre : Int}
    {check : Bool} {mutation : Store → Anyhow (AtomicReceiptMutation T × Store)}
    {s s' : Store} {written : AtomicWrite T}
    (done : mutateWithAtomicReceiptAtRevision J command pre check mutation s = .ok (written, s'))
    (writes : ∀ m t, mutation s = .ok (m, t) → AttemptWrites s t) : AttemptWrites s s' := by
  rcases mutate_cases done with ⟨-, rfl⟩ | ⟨value, ran, -⟩ | ⟨value, next, -, ran, -, rfl, -⟩
  · exact .refl
  · exact writes _ _ ran
  · exact (writes _ _ ran).tail (.beside (.of_eq rfl rfl rfl))

/-- A result an invoking attempt gets from the evidence that is there. -/
theorem updateAttempts_reports {s s' : Store} {p : ProviderAttemptRow → Bool}
    {f : ProviderAttemptRow → ProviderAttemptRow}
    {keeps : ∀ row, (f row).attemptId = row.attemptId} {lost : String}
    (done : s.updateAttempts p f keeps lost = .ok s')
    (invoking : ∀ row, p row = true → row.status = .invoking)
    (same : ∀ row, SameAttempt row (f row))
    (terminal : ∀ row, attemptIsTerminal (f row).status = true) : Reports s s' p f := by
  obtain ⟨rfl, moves, row, member, hit⟩ := updateAttempts_shape done
  exact ⟨⟨fun row _ => same row, moves, fun row _ => terminal row⟩, ⟨row, member, hit,
    invoking row hit⟩, rfl, rfl, fun e member => ⟨e, member, rfl, rfl⟩⟩

theorem validateResult_terminal {command : RecordProviderAttemptResultCommand} {u : Unit}
    (valid : validateResult command = .ok u) : attemptIsTerminal command.status = true := by
  simp only [validateResult, bind_ok, ensure_ok] at valid
  obtain ⟨-, -, -, -, -, ⟨-, -, listed⟩, -⟩ := valid
  rcases listed with same | same | same <;> rw [same] <;> rfl

theorem recordResult_cases {K : FenceCrates} {setDigest : ReservationSetDigest}
    {command : RecordProviderAttemptResultCommand} {s s' : Store}
    {outcome : RecordProviderAttemptResultOutcome}
    (done : recordProviderAttemptResult K setDigest command s = .ok (outcome, s')) :
    s' = s ∧ (∀ attempt, outcome ≠ .recorded attempt) ∨
      ∃ t p f, Reports s t p f ∧ BesideAttempts t s' := by
  simp only [recordProviderAttemptResult, bind_ok] at done
  obtain ⟨_, valid, done⟩ := done
  have terminal := validateResult_terminal valid
  split at done
  · cases done
    exact .inl ⟨rfl, by simp⟩
  split at done
  · cases done
    exact .inl ⟨rfl, by simp⟩
  split at done
  · split at done <;> cases done <;> exact .inl ⟨rfl, by simp⟩
  split at done
  · cases done
    exact .inl ⟨rfl, by simp⟩
  rename_i invoking
  split at done
  · cases done
    exact .inl ⟨rfl, by simp⟩
  simp only [bind_ok] at done
  obtain ⟨t, updated, -, -, state, -, u, effects, attempt, -, same⟩ := done
  cases same
  refine .inr ⟨t, _, _, updateAttempts_reports updated ?_ (fun _ => rfl) fun _ => terminal,
    updateEffects_beside effects fun _ => rfl⟩
  intro row hit
  simp only [Bool.and_eq_true, decide_eq_true_eq] at hit
  rw [hit.2]
  exact not_not.mp invoking

theorem lifecycleTransition_attempts {command : TechnicalResourceLifecycleCommand}
    {resolution : OpenResolution} {s s' : Store}
    (done : s.applyResourceLifecycleTransition command resolution = .ok s') :
    AttemptWrites s s' := by
  simp only [Store.applyResourceLifecycleTransition, bind_ok] at done
  obtain ⟨_, -, ⟨delegationId, logicalEffectId⟩, -, state, -, -, -, -, -, s₁, resolved, s₂, recovered,
    moved⟩ := done
  have resources : BesideAttempts s s₁ := foldlM_beside resolved fun t t' row step => by
    cases resolution <;> simp only [Store.resolveReservation, bind_ok] at step
    all_goals
      obtain ⟨-, -, moved⟩ := step
      exact moveReservation_beside moved
  have attempts : AttemptWrites s₁ s₂ := by
    unfold Store.transitionAttemptForLifecycle at recovered
    split at recovered
    · cases recovered
      exact .refl
    · cases resolution with
      | expireUndispatched =>
        cases recovered
        exact .refl
      | recoverPossiblyInvoked =>
        simp only [bind_ok] at recovered
        obtain ⟨-, -, updated⟩ := recovered
        refine .single (.report (updateAttempts_reports updated ?_ (fun _ => rfl) fun _ => rfl))
        intro row hit
        simp only [Bool.and_eq_true, decide_eq_true_eq] at hit
        exact hit.2
  exact (resources.writes.trans attempts).tail (.beside (moveEffect_beside moved))

theorem closeLifecycle_beside {command : TechnicalResourceLifecycleCommand}
    {resolution : OpenResolution} {continuation : ContinuationRecord} {action : ActionBranchRecord}
    {s s' : Store}
    (done : s.closeResourceLifecycleContinuation command resolution continuation action =
      .ok s') : BesideAttempts s s' := by
  cases resolution with
  | expireUndispatched => exact supersedeContinuation_beside done
  | recoverPossiblyInvoked =>
    simp only [Store.closeResourceLifecycleContinuation, bind_ok] at done
    obtain ⟨-, -, t, updated, -, -, u, moved, closed⟩ := done
    have left := updateContinuations_beside updated
    exact (left.trans (updateActionStatus_beside moved)).trans (closeJob_beside closed)

theorem resolveResources_attempts {K : FenceCrates} {J : Coordinator}
    {setDigest : ReservationSetDigest} {outside : SettleOutside}
    {command : TechnicalResourceLifecycleCommand} {s s' : Store}
    {outcome : ResourceLifecycleOutcome}
    (done : resolveTechnicalResources K J setDigest outside command s = .ok (outcome, s')) :
    AttemptWrites s s' := by
  simp only [resolveTechnicalResources, bind_ok] at done
  obtain ⟨resolution, -, -, -, digest, -, ⟨written, t⟩, ran, _, -, same⟩ := done
  obtain ⟨-, rfl⟩ := Prod.mk.inj (Except.ok.inj same)
  refine mutate_attempts ran fun m u step => ?_
  unfold resolveMutation at step
  split at step
  · split at step <;> cases step <;> exact .refl
  split at step
  · cases step
    exact .refl
  simp only [bind_ok] at step
  obtain ⟨continuation, -, step⟩ := step
  split at step
  · cases step
    exact .refl
  split at step
  · cases step
    exact .refl
  simp only [bind_ok] at step
  obtain ⟨-, -, d, -, -, -, -, -, action, -, v, resolved, same⟩ := step
  cases same
  simp only [writeResolution, bind_ok] at resolved
  obtain ⟨_, -, s₁, sent, s₂, recorded, s₃, transitioned, closed⟩ := resolved
  have told := (insertOutbox_beside sent).trans (insertOperationHistory_beside recorded)
  exact (told.writes.trans (lifecycleTransition_attempts transitioned)).tail
    (.beside (closeLifecycle_beside closed))

/-! The import. -/

/-- What an import makes of the attempts, over the evidence it has brought. -/
structure Observes (s s' : Store) (attemptId : Text) (p : ProviderAttemptRow → Bool)
    (f : ProviderAttemptRow → ProviderAttemptRow) : Prop where
  results : Results s s p f
  named : ∀ row, p row = true → row.attemptId = attemptId
  attempts : s'.providerAttempts.rows = s.providerAttempts.rows.map fun row =>
    if p row then f row else row
  evidence : s'.recorderEvidence = s.recorderEvidence
  settled : ∀ row ∈ s'.providerAttempts.rows, row.attemptId = attemptId →
    attemptIsTerminal row.status = true
  effects : EffectsKept s s'

theorem Observes.beside {s t u : Store} {attemptId : Text} {p : ProviderAttemptRow → Bool}
    {f : ProviderAttemptRow → ProviderAttemptRow} (observes : Observes s t attemptId p f)
    (beside : BesideAttempts t u) : Observes s u attemptId p f := by
  obtain ⟨results, named, attempts, evidence, settled, effects⟩ := observes
  refine ⟨results, named, ?_, beside.evidence.trans evidence, ?_, ?_⟩
  · rw [beside.attempts]
    exact attempts
  · rw [beside.attempts]
    exact settled
  · intro e member
    obtain ⟨e', member', id, owner⟩ := effects e member
    obtain ⟨e'', member'', id', owner'⟩ := beside.effects e' member'
    exact ⟨e'', member'', id'.trans id, owner'.trans owner⟩

theorem observedStates_row {s : Store} {observation : RecorderObservation}
    {status : ProviderAttemptStatus} {state : LogicalEffectState}
    (observed : s.observedStates observation = .ok (status, state)) :
    ∃ row ∈ s.providerAttempts.rows, row.attemptId = observation.attemptId ∧
      row.status = status := by
  simp only [Store.observedStates, bind_ok, required_ok] at observed
  obtain ⟨attempt, found, effect, -, same⟩ := observed
  cases same
  exact ⟨attempt, Table.find?_mem found, Table.find?_key found, rfl⟩

/-- A result for the observed attempt. -/
theorem updateAttempts_observes {s s' : Store} {attemptId : Text} {p : ProviderAttemptRow → Bool}
    {f : ProviderAttemptRow → ProviderAttemptRow}
    {keeps : ∀ row, (f row).attemptId = row.attemptId} {lost : String}
    (done : s.updateAttempts p f keeps lost = .ok s')
    (named : ∀ row, p row = true → row.attemptId = attemptId)
    (same : ∀ row, SameAttempt row (f row))
    (terminal : ∀ row, attemptIsTerminal (f row).status = true) :
    Observes s s' attemptId p f := by
  obtain ⟨rfl, moves, row, member, hit⟩ := updateAttempts_shape done
  refine ⟨⟨fun row _ => same row, moves, fun row _ => terminal row⟩, named, rfl, rfl, ?_,
    fun e member => ⟨e, member, rfl, rfl⟩⟩
  intro new member' id
  obtain ⟨old, present, rfl⟩ := List.mem_map.mp member'
  have only : old = row := by
    refine Table.eq_of_key present member ?_
    rw [named row hit, ← id]
    split
    · exact (keeps old).symm
    · rfl
  subst only
  rw [if_pos hit]
  exact terminal old

theorem transitionAttemptAndEffect_observes {observation : RecorderObservation}
    {attemptStatus nextStatus : ProviderAttemptStatus} {effectState nextState : LogicalEffectState}
    {s s' : Store} (terminal : attemptIsTerminal nextStatus = true)
    (done : s.transitionAttemptAndEffect observation attemptStatus effectState nextStatus nextState =
      .ok s') : ∃ p f, Observes s s' observation.attemptId p f := by
  simp only [Store.transitionAttemptAndEffect, bind_ok] at done
  obtain ⟨t, updated, moved⟩ := done
  refine ⟨_, _, (updateAttempts_observes updated ?_ (fun _ => rfl) fun _ => terminal).beside (updateEffects_beside moved fun _ => rfl)⟩
  intro row hit
  simp only [Bool.and_eq_true, decide_eq_true_eq] at hit
  exact hit.1.1

theorem keepUnknown_observes {observation : RecorderObservation} {s s' : Store}
    (done : s.keepUnknown observation = .ok s') :
    ∃ p f, Observes s s' observation.attemptId p f := by
  simp only [Store.keepUnknown, bind_ok] at done
  obtain ⟨⟨status, state⟩, observed, t, attempted, done⟩ := done
  have effect : BesideAttempts t s' := by
    unfold Store.keepEffectUnknown at done
    split at done
    · exact updateEffects_beside done fun _ => rfl
    · cases done
      exact .refl _
    · cases done
  have attempts : ∃ p f, Observes s t observation.attemptId p f := by
    obtain ⟨row, member, key, unknown⟩ := observedStates_row observed
    unfold Store.keepAttemptUnknown at attempted
    split at attempted
    · refine ⟨_, _, updateAttempts_observes attempted ?_ (fun _ => rfl) fun _ => rfl⟩
      intro row hit
      simp only [Bool.and_eq_true, decide_eq_true_eq] at hit
      exact hit.1
    · rename_i lost
      cases attempted
      refine ⟨fun _ => false, id, ⟨by simp, by simp, by simp⟩, by simp, by simp, rfl, ?_,
        fun e member => ⟨e, member, rfl, rfl⟩⟩
      intro other inside same
      rw [Table.eq_of_key inside member (same.trans key.symm), unknown.trans lost]
      rfl
    · cases attempted
  obtain ⟨p, f, observes⟩ := attempts
  exact ⟨p, f, observes.beside effect⟩

theorem leaveClaim_beside {command : ReconcileRecorderEvidenceCommand}
    {continuation : ContinuationRecord} {action : ActionBranchRecord} {status : ContinuationStatus}
    {s s' : Store} (done : s.leaveClaim command continuation action status = .ok s') :
    BesideAttempts s s' := by
  simp only [Store.leaveClaim, bind_ok] at done
  obtain ⟨t, updated, -, -, u, moved, same⟩ := done
  cases same
  exact ((updateContinuations_beside updated).trans (updateActionStatus_beside moved)).trans
    (.of_eq rfl rfl rfl)

theorem closeRecorder_beside {command : ReconcileRecorderEvidenceCommand}
    {continuation : ContinuationRecord} {action : ActionBranchRecord} {status : ContinuationStatus}
    {s s' : Store}
    (done : s.closeRecorderContinuation command continuation action status = .ok s') :
    BesideAttempts s s' := by
  simp only [Store.closeRecorderContinuation, bind_ok] at done
  obtain ⟨-, -, done⟩ := done
  exact leaveClaim_beside done

theorem keepUncertain_beside {command : ReconcileRecorderEvidenceCommand}
    {continuation : ContinuationRecord} {action : ActionBranchRecord} {s s' : Store}
    (done : s.keepContinuationUncertain command continuation action = .ok s') :
    BesideAttempts s s' := by
  unfold Store.keepContinuationUncertain at done
  split at done
  · simp only [bind_ok] at done
    obtain ⟨-, -, done⟩ := done
    exact leaveClaim_beside done
  · simp only [bind_ok] at done
    obtain ⟨-, -, same⟩ := done
    cases same
    exact .refl _
  · cases done

theorem consumeReservation_beside {K : FenceCrates} {observation : RecorderObservation}
    {s s' : Store} {reservation : TechnicalResourceReservationRecord}
    (done : s.consumeReservation K observation reservation = .ok s') : BesideAttempts s s' := by
  simp only [Store.consumeReservation, bind_ok] at done
  obtain ⟨-, -, actual, -, t, recorded, moved⟩ := done
  exact (insertActual_beside recorded).trans (moveReservation_beside moved)

theorem absentReservation_beside {observation : RecorderObservation} {s s' : Store}
    {reservation : TechnicalResourceReservationRecord}
    (done : s.absentReservation observation reservation = .ok s') : BesideAttempts s s' := by
  unfold Store.absentReservation at done
  split at done <;> simp only [bind_ok] at done
  · obtain ⟨-, -, same⟩ := done
    cases same
    exact .refl _
  · obtain ⟨-, -, moved⟩ := done
    exact moveReservation_beside moved

theorem unknownReservation_beside {s s' : Store} {reservation : TechnicalResourceReservationRecord}
    (done : s.unknownReservation reservation = .ok s') : BesideAttempts s s' := by
  unfold Store.unknownReservation at done
  split at done
  · exact moveReservation_beside done
  · cases done
    exact .refl _
  · cases done

/-- A write beside the attempts, and then what an observation makes of them. -/
theorem BesideAttempts.observes {s t u : Store} {attemptId : Text} {p : ProviderAttemptRow → Bool}
    {f : ProviderAttemptRow → ProviderAttemptRow} (beside : BesideAttempts s t)
    (observes : Observes t u attemptId p f) : Observes s u attemptId p f := by
  obtain ⟨⟨same, moves, terminal⟩, named, attempts, evidence, settled, effects⟩ := observes
  rw [beside.attempts] at moves attempts
  refine ⟨⟨same, fun row member hit => attemptMoves_evidence beside.evidence.symm
    (moves row member hit), terminal⟩, named, attempts, evidence.trans beside.evidence, settled, ?_⟩
  intro e member
  obtain ⟨e', member', id, owner⟩ := beside.effects e member
  obtain ⟨e'', member'', id', owner'⟩ := effects e' member'
  exact ⟨e'', member'', id'.trans id, owner'.trans owner⟩

theorem converge_observes {K : FenceCrates} {command : ReconcileRecorderEvidenceCommand}
    {continuation : ContinuationRecord} {action : ActionBranchRecord}
    {reservations : List TechnicalResourceReservationRecord} {s s' : Store}
    (done : s.converge K command continuation action reservations = .ok s') :
    ∃ p f, Observes s s' command.verifiedEvidence.observation.attemptId p f := by
  simp only [Store.converge] at done
  split at done
  · simp only [bind_ok] at done
    obtain ⟨t, consumed, u, present, closed⟩ := done
    have resources : BesideAttempts s t :=
      foldlM_beside consumed fun _ _ _ step => consumeReservation_beside step
    simp only [Store.transitionPresent, bind_ok] at present
    obtain ⟨⟨status, state⟩, -, present⟩ := present
    have observes : ∃ p f, Observes t u command.verifiedEvidence.observation.attemptId p f := by
      split at present <;> exact transitionAttemptAndEffect_observes rfl present
    obtain ⟨p, f, observes⟩ := observes
    exact ⟨p, f, (resources.observes observes).beside (closeRecorder_beside closed)⟩
  · simp only [bind_ok] at done
    obtain ⟨t, kept, u, absent, closed⟩ := done
    have resources : BesideAttempts s t :=
      foldlM_beside kept fun _ _ _ step => absentReservation_beside step
    simp only [Store.transitionAbsent, bind_ok] at absent
    obtain ⟨⟨status, state⟩, -, -, -, absent⟩ := absent
    have observes : ∃ p f, Observes t u command.verifiedEvidence.observation.attemptId p f := by
      split at absent <;> exact transitionAttemptAndEffect_observes rfl absent
    have after : BesideAttempts u s' := by
      split at closed
      · exact closeRecorder_beside closed
      · simp only [bind_ok] at closed
        obtain ⟨-, -, same⟩ := closed
        cases same
        exact .refl _
    obtain ⟨p, f, observes⟩ := observes
    exact ⟨p, f, (resources.observes observes).beside after⟩
  · simp only [bind_ok] at done
    obtain ⟨t, kept, u, unknown, closed⟩ := done
    have resources : BesideAttempts s t :=
      foldlM_beside kept fun _ _ _ step => unknownReservation_beside step
    obtain ⟨p, f, observes⟩ := keepUnknown_observes unknown
    exact ⟨p, f, (resources.observes observes).beside (keepUncertain_beside closed)⟩

theorem writeImport_imports {K : FenceCrates} {command : ReconcileRecorderEvidenceCommand}
    {continuation : ContinuationRecord} {s s' : Store}
    (done : writeImport K command continuation s = .ok s') : ∃ row p f, Imports s s' row p f := by
  simp only [writeImport, bind_ok] at done
  obtain ⟨s₁, proven, s₂, sent, _, -, s₃, recorded, s₄, converged, same⟩ := done
  cases same
  simp only [Store.insertRecorderEvidence, bind_ok, ensure_ok] at proven
  obtain ⟨-, admitted, proven⟩ := proven
  split at proven <;> cases proven
  rename_i recorderEvidence inserted
  have history : BesideAttempts { s with recorderEvidence } s₃ := by
    refine (insertOutbox_beside sent).trans ?_
    simp only [Store.recordImport] at recorded
    split at recorded
    · cases recorded
      exact .refl _
    · exact insertOperationHistory_beside recorded
  simp only [Store.applyAtomicConvergence, bind_ok] at converged
  obtain ⟨action, -, -, -, t, met, -, -, same⟩ := converged
  cases same
  obtain ⟨p, f, observes⟩ := converge_observes met
  obtain ⟨⟨same, moves, terminal⟩, named, attempts, evidence, settled, effects⟩ :=
    history.observes observes
  refine ⟨_, p, f, admitted, ?_, ⟨same, ?_, terminal⟩, named, attempts, settled, effects⟩
  · rw [evidence]
    exact Table.insert?_rows inserted
  · exact fun row member hit => attemptMoves_evidence evidence (moves row member hit)

theorem importEvidence_attempts {K : FenceCrates} {J : Coordinator}
    {setDigest : ReservationSetDigest} {outside : ImportOutside}
    {command : ReconcileRecorderEvidenceCommand} {s s' : Store}
    {outcome : RecorderEvidenceImportOutcome}
    (done : reconcileRecorderEvidence K J setDigest outside command s = .ok (outcome, s')) :
    AttemptWrites s s' := by
  unfold reconcileRecorderEvidence at done
  split at done
  · simp only [bind_ok] at done
    obtain ⟨_, -, same⟩ := done
    cases same
    exact .refl
  simp only [bind_ok] at done
  obtain ⟨-, -, ⟨written, t⟩, ran, _, -, same⟩ := done
  obtain ⟨-, rfl⟩ := Prod.mk.inj (Except.ok.inj same)
  refine mutate_attempts ran fun m u step => ?_
  unfold importMutation at step
  simp only at step
  split at step
  · cases step
    exact .refl
  split at step
  · cases step
    exact .refl
  split at step
  · cases step
    exact .refl
  split at step
  · cases step
    exact .refl
  simp only [bind_ok] at step
  obtain ⟨continuation, -, step⟩ := step
  split at step
  · cases step
    exact .refl
  simp only [bind_ok] at step
  obtain ⟨runtime, -, -, -, d, -, -, -, -, -, -, -, v, imported, same⟩ := step
  cases same
  obtain ⟨row, p, f, imports⟩ := writeImport_imports imported
  exact .single (.imported imports)

/-! The recovery. -/

theorem applyProviderRecovery_beside {K : FenceCrates} {J : Coordinator}
    {planned : Anyhow RecoveryFacts} {payload : Text} {command : ProviderRecoveryCommand}
    {s s' : Store} {outcome : ProviderRecoveryOutcome}
    (done : applyProviderRecovery K J planned payload command s = .ok (outcome, s')) :
    BesideAttempts s s' := by
  simp only [applyProviderRecovery, bind_ok] at done
  obtain ⟨-, -, ⟨written, t⟩, ran, _, -, same⟩ := done
  obtain ⟨-, rfl⟩ := Prod.mk.inj (Except.ok.inj same)
  refine mutate_beside ran fun m u step => ?_
  unfold recoveryMutation at step
  split at step
  · cases step
    exact .refl _
  simp only [bind_ok] at step
  obtain ⟨⟨evaluated, s₁⟩, evaluates, facts, -, ⟨phase, s₂⟩, projected, -, -, same⟩ := step
  cases same
  obtain ⟨_, _, rfl⟩ := evaluateProviderRecovery_ok evaluates
  simp only [projectRecoveryLifecycle, bind_ok] at projected
  obtain ⟨effect, -, d, -, c, -, first, -, plan, -, -, -, s₁, left, ⟨shown, s₂⟩, directed, s₃,
    advanced, s₄, recorded, same⟩ := projected
  obtain ⟨-, rfl⟩ := Prod.mk.inj (Except.ok.inj same)
  simp only [Store.leaveRecoverySource, bind_ok] at left
  obtain ⟨t, updated, -, -, same⟩ := left
  cases same
  cases updateBranches_ok updated
  obtain ⟨_, _, _, _, rfl⟩ := projectDirective_ok directed
  obtain ⟨moved, -⟩ := advanceDelegation_ok advanced
  obtain ⟨-, rfl⟩ := updateDelegations_ok moved
  obtain ⟨_, rfl⟩ := recordTransition_ok recorded
  exact .of_eq rfl rfl rfl

end CarsinOS.Delegation
