import Mathlib.Logic.Relation
import CarsinOS.Delegation.Commands
import CarsinOS.Delegation.Import

/-! The statements the commands of the claim fence are made of. An invariant of the fence is shown
for each kind of statement once. -/
namespace CarsinOS.Delegation
open CarsinOS.Lib CarsinOS.Integrity CarsinOS.Receipt

/-- A write outside of the continuations, their history and their resources. -/
structure Aside (s s' : Store) : Prop where
  continuations : s'.continuations = s.continuations
  operationHistory : s'.operationHistory = s.operationHistory
  outboxEvents : s'.outboxEvents = s.outboxEvents
  reservations : s'.reservations = s.reservations
  actuals : s'.actuals = s.actuals
  quotaEntries : s'.quotaEntries = s.quotaEntries
  receipts : ∃ rows, s'.receipts = s.receipts ++ rows

theorem Aside.of_eq {s s' : Store} (continuations : s'.continuations = s.continuations)
    (operationHistory : s'.operationHistory = s.operationHistory)
    (outboxEvents : s'.outboxEvents = s.outboxEvents)
    (reservations : s'.reservations = s.reservations) (actuals : s'.actuals = s.actuals)
    (quotaEntries : s'.quotaEntries = s.quotaEntries) (receipts : s'.receipts = s.receipts) :
    Aside s s' :=
  ⟨continuations, operationHistory, outboxEvents, reservations, actuals, quotaEntries, [],
    by rw [receipts, List.append_nil]⟩

/-- A statement of the claim fence. -/
inductive Write : Store → Store → Prop where
  | aside {s s' : Store} (other : Aside s s') : Write s s'
  | event {s s' : Store} {event : NewOutboxEvent} (done : s.insertOutbox event = .ok s') : Write s s'
  | record {s t s' : Store} {event : NewOutboxEvent} {row : OperationHistoryRecord}
      (follows : row.operation ≠ .claim) (named : row.eventId = event.eventId)
      (sent : s.insertOutbox event = .ok t) (done : t.insertOperationHistory row = .ok s') :
      Write s s'
  | leave {s s' : Store} {p : ContinuationRecord → Bool}
      {f : ContinuationRecord → ContinuationRecord}
      {keeps : ∀ row, (f row).continuationId = row.continuationId}
      (left : ∀ row, isCurrent (f row) = false)
      (done : s.updateContinuations p f keeps = .ok s') : Write s s'
  | claim {s t s' : Store} {command : ContinuationClaimCommand} {continuation : ContinuationRecord}
      {action : ActionBranchRecord} {identity : ContinuationClaimIdentity}
      {bundle : ResourceBundleDraft} {draft : ClaimDraft}
      (found : s.getContinuation identity.continuationId = some continuation)
      (runnable : continuation.status = .runnable)
      (next : identity.continuationFencingToken = continuation.fencingToken + 1)
      (named : identity.claimEventId = command.outboxEvent.eventId)
      (sent : s.insertOutbox command.outboxEvent = .ok t)
      (done : writeClaim command continuation action identity bundle t = .ok (draft, s')) :
      Write s s'
  | consume {s t s' : Store} {actual : TechnicalResourceActualRecord} {old : ReservationStatus}
      {settledAt : Option Int} {lost : String} (recorded : s.insertActual actual = .ok t)
      (done : t.moveReservation actual.reservationId old .settled settledAt lost = .ok s') :
      Write s s'
  | move {s s' : Store} {id : Text} {old new : ReservationStatus} {settledAt : Option Int}
      {lost : String} (unsettled : new ≠ .settled)
      (done : s.moveReservation id old new settledAt lost = .ok s') : Write s s'

abbrev Writes : Store → Store → Prop := Relation.ReflTransGen Write

theorem Write.writes {s s' : Store} (write : Write s s') : Writes s s' :=
  Relation.ReflTransGen.single write

theorem Writes.of_eq {s s' : Store} (continuations : s'.continuations = s.continuations)
    (operationHistory : s'.operationHistory = s.operationHistory)
    (outboxEvents : s'.outboxEvents = s.outboxEvents)
    (reservations : s'.reservations = s.reservations) (actuals : s'.actuals = s.actuals)
    (quotaEntries : s'.quotaEntries = s.quotaEntries) (receipts : s'.receipts = s.receipts) :
    Writes s s' :=
  (Write.aside (.of_eq continuations operationHistory outboxEvents reservations actuals quotaEntries
    receipts)).writes

theorem Writes.then {s t u : Store} (first : Writes s t) (second : Write t u) : Writes s u :=
  Relation.ReflTransGen.tail first second

/-- A property no statement breaks is not broken by many. -/
theorem writes_keep {P : Store → Prop} (each : ∀ s s', Write s s' → P s → P s') {s s' : Store}
    (writes : Writes s s') (start : P s) : P s' := by
  induction writes with
  | refl => exact start
  | tail _ last ih => exact each _ _ last ih

theorem foldlM_writes {α : Type} {step : Store → α → Anyhow Store} {rows : List α} {s s' : Store}
    (done : rows.foldlM step s = .ok s')
    (each : ∀ t t' row, row ∈ rows → step t row = .ok t' → Writes t t') : Writes s s' := by
  induction rows generalizing s with
  | nil =>
    cases done
    exact .refl
  | cons row rows ih =>
    rw [List.foldlM_cons, bind_ok] at done
    obtain ⟨t, first, rest⟩ := done
    have head := each s t row List.mem_cons_self first
    exact head.trans (ih rest fun u u' other member => each u u' other (List.mem_cons_of_mem _ member))

/-! The statements on resources. -/

theorem insertActual_ok {s s' : Store} {row : TechnicalResourceActualRecord}
    (done : s.insertActual row = .ok s') :
    (∃ r ∈ s.reservations.rows, ActualOf r row ∧
      (r.status = .reserved ∨ r.status = .reconciliationRequired) ∧
      row.amountActual ≤ r.identity.amountReserved) ∧ 0 ≤ row.amountActual ∧
      (∀ other ∈ s.actuals.rows, other.reservationId ≠ row.reservationId) ∧
      ∃ actuals, s' = { s with actuals } ∧ actuals.rows = s.actuals.rows ++ [row] := by
  simp only [Store.insertActual, bind_ok, ensure_ok] at done
  obtain ⟨-, ⟨-, live⟩, -, positive, -, unique, rest⟩ := done
  split at rest <;> cases rest
  rename_i actuals inserted
  exact ⟨live, positive, unique, actuals, rfl, Table.insert?_rows inserted⟩

theorem moveReservation_ok {s s' : Store} {id : Text} {old new : ReservationStatus}
    {settledAt : Option Int} {lost : String}
    (done : s.moveReservation id old new settledAt lost = .ok s') :
    ∃ reservations, s' = { s with reservations } ∧
      reservations.rows = s.reservations.rows.map (fun row =>
        if row.identity.reservationId = id ∧ row.status = old then
          { row with status := new, settledAt } else row) ∧
      ∃ row ∈ s.reservations.rows, row.identity.reservationId = id ∧ row.status = old ∧
        ReservationMoves s row new := by
  simp only [Store.moveReservation, bind_ok, ensure_ok] at done
  obtain ⟨-, moves, -, sole, same⟩ := done
  cases same
  refine ⟨_, rfl, ?_, ?_⟩
  · simp only [Table.update, Bool.and_eq_true, decide_eq_true_eq]
  · obtain ⟨row, member, hit⟩ := List.countP_pos_iff.mp (by
      rw [Table.matched] at sole
      rw [sole]
      decide)
    have named := hit
    simp only [Bool.and_eq_true, decide_eq_true_eq] at named
    exact ⟨row, member, named.1, named.2, moves row member hit⟩

/-! The statements outside of the fence. -/

theorem updateActionStatus_writes {s s' : Store} {action : ActionBranchRecord}
    {status : ContinuationStatus} {occurredAt : Int}
    (done : s.updateActionStatus action status occurredAt = .ok s') : Writes s s' := by
  simp only [Store.updateActionStatus, bind_ok] at done
  obtain ⟨t, updated, -, -, same⟩ := done
  cases same
  cases updateBranches_ok updated
  exact Writes.of_eq rfl rfl rfl rfl rfl rfl rfl

theorem closeJob_writes {s s' : Store} {jobId : Option Text} {worker : Text} {expiresAt : Int}
    {lost : String} (done : s.closeJob jobId worker expiresAt lost = .ok s') : Writes s s' := by
  simp only [Store.closeJob, bind_ok] at done
  obtain ⟨-, -, same⟩ := done
  cases same
  exact Writes.of_eq rfl rfl rfl rfl rfl rfl rfl

theorem updateEffects_writes {s s' : Store} {p : LogicalEffectRecord → Bool}
    {f : LogicalEffectRecord → LogicalEffectRecord}
    {keeps : ∀ row, (f row).logicalEffectId = row.logicalEffectId} {lost : String}
    (done : s.updateEffects p f keeps lost = .ok s') : Writes s s' := by
  simp only [Store.updateEffects, bind_ok] at done
  obtain ⟨-, -, -, -, same⟩ := done
  cases same
  exact Writes.of_eq rfl rfl rfl rfl rfl rfl rfl

theorem updateAttempts_writes {s s' : Store} {p : ProviderAttemptRow → Bool}
    {f : ProviderAttemptRow → ProviderAttemptRow}
    {keeps : ∀ row, (f row).attemptId = row.attemptId} {lost : String}
    (done : s.updateAttempts p f keeps lost = .ok s') : Writes s s' := by
  simp only [Store.updateAttempts, bind_ok] at done
  obtain ⟨-, -, -, -, same⟩ := done
  cases same
  exact Writes.of_eq rfl rfl rfl rfl rfl rfl rfl

theorem supersedeContinuation_writes {s s' : Store} {continuation : ContinuationRecord}
    {action : ActionBranchRecord} {occurredAt : Int} {workerId : Text} {jobLeaseExpiresAt : Int}
    (done : s.supersedeContinuationAndAction continuation action occurredAt workerId
      jobLeaseExpiresAt = .ok s') : Writes s s' := by
  simp only [Store.supersedeContinuationAndAction, bind_ok] at done
  obtain ⟨s₁, superseded, s₂, updated, closed⟩ := done
  have left := (Write.leave (fun _ => rfl) superseded).writes
  exact (left.trans (updateActionStatus_writes updated)).trans (closeJob_writes closed)

/-- What a command under a receipt writes. -/
theorem mutate_writes {T : Type} {J : Coordinator} {command : AppendReceiptCommand} {pre : Int}
    {check : Bool} {mutation : Store → Anyhow (AtomicReceiptMutation T × Store)}
    {s s' : Store} {written : AtomicWrite T}
    (done : mutateWithAtomicReceiptAtRevision J command pre check mutation s = .ok (written, s'))
    (writes : ∀ m t, mutation s = .ok (m, t) → Writes s t) : Writes s s' := by
  rcases mutate_cases done with ⟨-, rfl⟩ | ⟨value, ran, -⟩ | ⟨value, next, -, ran, -, rfl, -⟩
  · exact .refl
  · exact writes _ _ ran
  · exact (writes _ _ ran).then (.aside ⟨rfl, rfl, rfl, rfl, rfl, rfl, _, rfl⟩)

/-! The claim. -/

theorem identityFromParts_ok {K : FenceCrates} {continuation : ContinuationRecord}
    {action : ActionBranchRecord} {command : ContinuationClaimCommand} {runtime : RuntimeLease}
    {d : DelegationRecord} {bundle : ResourceBundleDraft} {identity : ContinuationClaimIdentity}
    (formed : identityFromParts K continuation action command runtime d bundle = .ok identity) :
    identity.continuationId = continuation.continuationId ∧
      identity.continuationFencingToken = continuation.fencingToken + 1 ∧
      identity.claimEventId = command.outboxEvent.eventId := by
  simp only [identityFromParts, bind_ok] at formed
  obtain ⟨token, counted, same⟩ := formed
  cases same
  exact ⟨rfl, checkedNext_ok counted, rfl⟩

theorem claimRunnable_writes {K : FenceCrates} {outside : ClaimOutside}
    {command : ContinuationClaimCommand} {continuation : ContinuationRecord} {s s' : Store}
    {m : AtomicReceiptMutation ClaimMutationOutcome}
    (found : s.getContinuation command.continuationId = some continuation)
    (runnable : continuation.status = .runnable)
    (done : claimRunnable K outside command continuation s = .ok (m, s')) : Writes s s' := by
  unfold claimRunnable at done
  split at done
  · cases done
    exact .refl
  split at done
  · cases done
    exact .refl
  simp only [bind_ok] at done
  obtain ⟨-, -, d, -, -, -, -, -, done⟩ := done
  split at done
  · simp only [bind_ok] at done
    obtain ⟨-, -, s₁, sent, s₂, superseded, same⟩ := done
    cases same
    exact (Write.event sent).writes.trans (supersedeContinuation_writes superseded)
  · simp only [bind_ok] at done
    obtain ⟨-, -, _, -, done⟩ := done
    split at done
    · cases done
      exact .refl
    · simp only [bind_ok] at done
      obtain ⟨s₁, sent, identity, formed, ⟨draft, t⟩, written, same⟩ := done
      cases same
      obtain ⟨named, next, event⟩ := identityFromParts_ok formed
      refine (Write.claim ?_ runnable next event sent written).writes
      have key : continuation.continuationId = command.continuationId := Table.find?_key found
      rw [named, key]
      exact found

theorem claimContinuation_writes {K : FenceCrates} {J : Coordinator} {outside : ClaimOutside}
    {command : ContinuationClaimCommand} {s s' : Store} {outcome : ContinuationClaimOutcome}
    (done : claimContinuation K J outside command s = .ok (outcome, s')) : Writes s s' := by
  simp only [claimContinuation, bind_ok] at done
  obtain ⟨-, -, ⟨written, t⟩, ran, _, -, same⟩ := done
  obtain ⟨-, rfl⟩ := Prod.mk.inj (Except.ok.inj same)
  refine mutate_writes ran fun m u step => ?_
  unfold claimMutation at step
  split at step
  · split at step <;> cases step <;> exact .refl
  split at step
  · cases step
    exact .refl
  split at step
  · cases step
    exact .refl
  split at step
  · cases step
    exact .refl
  rename_i found
  split at step
  · cases step
    exact .refl
  split at step
  · cases step
    exact .refl
  rename_i runnable
  exact claimRunnable_writes found (not_not.mp runnable) step

/-! The dispatch and the attempts. -/

theorem preDispatch_writes {K : FenceCrates} {setDigest : ReservationSetDigest}
    {command : ContinuationDispatchValidationCommand} {s s' : Store}
    {outcome : ContinuationDispatchValidationOutcome}
    (done : validateContinuationPreDispatch K setDigest command s = .ok (outcome, s')) :
    Writes s s' := by
  simp only [validateContinuationPreDispatch, bind_ok] at done
  obtain ⟨-, -, -, -, done⟩ := done
  split at done
  · cases done
    exact .refl
  split at done
  · cases done
    exact .refl
  simp only [bind_ok] at done
  obtain ⟨⟨marked, t⟩, marks, same⟩ := done
  obtain ⟨-, rfl⟩ := Prod.mk.inj (Except.ok.inj same)
  simp only [Store.markClaimEffectInvoking, bind_ok] at marks
  obtain ⟨_, -, marks⟩ := marks
  split at marks
  · cases marks
    exact .refl
  · simp only [bind_ok] at marks
    obtain ⟨state, -, marks⟩ := marks
    split at marks
    · cases marks
      exact .refl
    · simp only [bind_ok] at marks
      obtain ⟨-, -, same⟩ := marks
      cases same
      exact Writes.of_eq rfl rfl rfl rfl rfl rfl rfl

theorem createAttempt_writes {K : FenceCrates} {command : PrepareProviderAttemptCommand}
    {effect : EffectRow} {attemptNumber : Int} {s s' : Store}
    {outcome : PrepareProviderAttemptOutcome}
    (done : createAttempt K command effect attemptNumber s = .ok (outcome, s')) : Writes s s' := by
  unfold createAttempt at done
  split at done
  · cases done
    exact .refl
  split at done
  · cases done
    exact .refl
  simp only [bind_ok] at done
  obtain ⟨t, inserted, attempt, -, same⟩ := done
  cases same
  obtain ⟨_, -, -, -, rfl⟩ := insertAttempt_ok inserted
  exact Writes.of_eq rfl rfl rfl rfl rfl rfl rfl

theorem prepareAttempt_writes {K : FenceCrates} {setDigest : ReservationSetDigest}
    {command : PrepareProviderAttemptCommand} {s s' : Store}
    {outcome : PrepareProviderAttemptOutcome}
    (done : prepareProviderAttempt K setDigest command s = .ok (outcome, s')) : Writes s s' := by
  simp only [prepareProviderAttempt, bind_ok] at done
  obtain ⟨-, -, done⟩ := done
  split at done
  · cases done
    exact .refl
  split at done
  · cases done
    exact .refl
  split at done
  · unfold prepareAgainstExisting at done
    simp only at done
    split at done
    · cases done
      exact .refl
    split at done
    · split at done
      · cases done
        exact .refl
      · exact createAttempt_writes done
    all_goals
      cases done
      exact .refl
  · exact createAttempt_writes done

theorem beginAttempt_writes {K : FenceCrates} {setDigest : ReservationSetDigest}
    {command : BeginProviderAttemptInvocationCommand} {s s' : Store}
    {outcome : BeginProviderAttemptInvocationOutcome}
    (done : beginProviderAttemptInvocation K setDigest command s = .ok (outcome, s')) :
    Writes s s' := by
  simp only [beginProviderAttemptInvocation, bind_ok] at done
  obtain ⟨-, -, -, -, done⟩ := done
  split at done
  · cases done
    exact .refl
  split at done
  · cases done
    exact .refl
  split at done
  · cases done
    exact .refl
  split at done
  · cases done
    exact .refl
  split at done
  · cases done
    exact .refl
  split at done
  · cases done
    exact .refl
  split at done
  · cases done
    exact .refl
  · simp only [bind_ok] at done
    obtain ⟨-, -, attempt, -, same⟩ := done
    cases same
    exact Writes.of_eq rfl rfl rfl rfl rfl rfl rfl

/-! The settlement. -/

theorem moveEffect_writes {s s' : Store} {delegationId logicalEffectId : Text}
    {old new : LogicalEffectState} {occurredAt : Int} {lost : String}
    (done : s.moveEffect delegationId logicalEffectId old new occurredAt lost = .ok s') :
    Writes s s' := updateEffects_writes done

theorem settleReservation_writes {K : FenceCrates} {identity : ContinuationClaimIdentity}
    {actuals : List TechnicalResourceActualInput} {eventId : Text} {settledAt : Int}
    {s s' : Store} {reservation : TechnicalResourceReservationRecord}
    (done : s.settleReservation K identity actuals eventId settledAt reservation = .ok s') :
    Writes s s' := by
  simp only [Store.settleReservation, bind_ok] at done
  obtain ⟨actual, -, -, -, t, recorded, moved⟩ := done
  exact (Write.consume recorded moved).writes

theorem releaseReservation_writes {provenNotDispatched : Bool} {settledAt : Int} {s s' : Store}
    {reservation : TechnicalResourceReservationRecord}
    (done : s.releaseReservation provenNotDispatched settledAt reservation = .ok s') :
    Writes s s' := by
  refine (Write.move ?_ done).writes
  split <;> decide

theorem transitionReservations_writes {K : FenceCrates} {identity : ContinuationClaimIdentity}
    {resultStatus : ContinuationStatus} {actuals : List TechnicalResourceActualInput}
    {eventId : Text} {settledAt : Int} {s s' : Store}
    (done : s.transitionReservationsOnSettle K identity resultStatus actuals eventId settledAt =
      .ok s') : Writes s s' := by
  simp only [Store.transitionReservationsOnSettle, bind_ok] at done
  obtain ⟨-, -, -, -, ⟨state, t⟩, moved, done⟩ := done
  have effect : Writes s t := by
    simp only [Store.transitionClaimEffectOnSettle, bind_ok] at moved
    obtain ⟨_, -, moved⟩ := moved
    split at moved
    · cases moved
      exact .refl
    · simp only [bind_ok] at moved
      obtain ⟨_, -, _, -, -, -, u, moves, same⟩ := moved
      obtain ⟨-, rfl⟩ := Prod.mk.inj (Except.ok.inj same)
      exact moveEffect_writes moves
  split at done
  · exact effect.trans (foldlM_writes done fun _ _ _ _ step => settleReservation_writes step)
  · exact effect.trans (foldlM_writes done fun _ _ _ _ step => releaseReservation_writes step)

theorem supersedeFromSettle_writes {K : FenceCrates} {command : ContinuationSettleCommand}
    {digest : Text} {continuation : ContinuationRecord} {action : ActionBranchRecord} {s s' : Store}
    (done : supersedeWithReceiptFromSettle K command digest continuation action s = .ok s') :
    Writes s s' := by
  simp only [supersedeWithReceiptFromSettle, bind_ok] at done
  obtain ⟨-, -, _, -, s₁, sent, s₂, recorded, s₃, resources, superseded⟩ := done
  have told := (Write.record (by simp) rfl sent recorded).writes
  exact (told.trans (transitionReservations_writes resources)).trans
    (supersedeContinuation_writes superseded)

theorem validateSettleCommand_result {K : FenceCrates} {command : ContinuationSettleCommand}
    {u : Unit} (valid : validateSettleCommand K command = .ok u) :
    command.resultStatus ≠ .runnable ∧ command.resultStatus ≠ .executing := by
  simp only [validateSettleCommand, bind_ok, ensure_ok] at valid
  obtain ⟨-, -, -, -, listed⟩ := valid
  constructor <;> intro same <;> rw [same] at listed <;> simp at listed

theorem writeSettle_writes {K : FenceCrates} {command : ContinuationSettleCommand}
    {digest : Text} {continuation : ContinuationRecord} {action : ActionBranchRecord}
    {draft : SettleDraft} {s s' : Store}
    (left : command.resultStatus ≠ .runnable ∧ command.resultStatus ≠ .executing)
    (done : writeSettle K command digest continuation action s = .ok (draft, s')) :
    Writes s s' := by
  simp only [writeSettle, bind_ok] at done
  obtain ⟨-, -, _, -, s₁, sent, s₂, recorded, s₃, resources, s₄, updated, -, -, s₅, moved, s₆, closed,
    _, -, _, -, same⟩ := done
  obtain ⟨-, rfl⟩ := Prod.mk.inj (Except.ok.inj same)
  have told : Writes s s₂ := (Write.record (by simp) rfl sent recorded).writes
  have paid : Writes s s₃ := told.trans (transitionReservations_writes resources)
  have gone := paid.then (.leave (fun _ => by simp [isCurrent, left.1, left.2]) updated)
  exact (gone.trans (updateActionStatus_writes moved)).trans (closeJob_writes closed)

theorem settleContinuation_writes {K : FenceCrates} {J : Coordinator}
    {setDigest : ReservationSetDigest} {outside : SettleOutside}
    {command : ContinuationSettleCommand} {s s' : Store} {outcome : ContinuationSettleOutcome}
    (done : settleContinuation K J setDigest outside command s = .ok (outcome, s')) :
    Writes s s' := by
  simp only [settleContinuation, bind_ok] at done
  obtain ⟨_, valid, digest, -, ⟨written, t⟩, ran, _, -, same⟩ := done
  obtain ⟨-, rfl⟩ := Prod.mk.inj (Except.ok.inj same)
  refine mutate_writes ran fun m u step => ?_
  unfold settleMutation at step
  split at step
  · split at step <;> cases step <;> exact .refl
  split at step
  · cases step
    exact .refl
  simp only [bind_ok] at step
  obtain ⟨-, -, -, -, -, -, step⟩ := step
  split at step
  · simp only [bind_ok] at step
    obtain ⟨v, superseded, same⟩ := step
    cases same
    exact supersedeFromSettle_writes superseded
  · simp only [bind_ok] at step
    obtain ⟨⟨draft, v⟩, settled, same⟩ := step
    cases same
    exact writeSettle_writes (validateSettleCommand_result valid) settled

/-! The resolution. -/

theorem resolveReservation_writes {command : TechnicalResourceLifecycleCommand}
    {resolution : OpenResolution} {s s' : Store} {reservation : TechnicalResourceReservationRecord}
    (done : s.resolveReservation command resolution reservation = .ok s') : Writes s s' := by
  cases resolution with
  | expireUndispatched =>
    simp only [Store.resolveReservation, bind_ok] at done
    obtain ⟨-, -, moved⟩ := done
    exact (Write.move (by decide) moved).writes
  | recoverPossiblyInvoked =>
    simp only [Store.resolveReservation, bind_ok] at done
    obtain ⟨-, -, moved⟩ := done
    exact (Write.move (by decide) moved).writes

theorem lifecycleTransition_writes {command : TechnicalResourceLifecycleCommand}
    {resolution : OpenResolution} {s s' : Store}
    (done : s.applyResourceLifecycleTransition command resolution = .ok s') : Writes s s' := by
  simp only [Store.applyResourceLifecycleTransition, bind_ok] at done
  obtain ⟨_, -, ⟨delegationId, logicalEffectId⟩, -, state, -, -, -, -, -, s₁, resolved, s₂, recovered,
    moved⟩ := done
  have resources : Writes s s₁ :=
    foldlM_writes resolved fun _ _ _ _ step => resolveReservation_writes step
  have attempts : Writes s₁ s₂ := by
    unfold Store.transitionAttemptForLifecycle at recovered
    split at recovered
    · cases recovered
      exact .refl
    · cases resolution with
      | expireUndispatched =>
        cases recovered
        exact .refl
      | recoverPossiblyInvoked =>
        simp only [bind_ok] at recovered
        obtain ⟨-, -, updated⟩ := recovered
        exact updateAttempts_writes updated
  exact (resources.trans attempts).trans (moveEffect_writes moved)

theorem closeLifecycle_writes {command : TechnicalResourceLifecycleCommand}
    {resolution : OpenResolution} {continuation : ContinuationRecord} {action : ActionBranchRecord}
    {s s' : Store}
    (done : s.closeResourceLifecycleContinuation command resolution continuation action =
      .ok s') : Writes s s' := by
  cases resolution with
  | expireUndispatched => exact supersedeContinuation_writes done
  | recoverPossiblyInvoked =>
    simp only [Store.closeResourceLifecycleContinuation, bind_ok] at done
    obtain ⟨-, -, t, updated, -, -, u, moved, closed⟩ := done
    have left := (Write.leave (fun _ => rfl) updated).writes
    exact (left.trans (updateActionStatus_writes moved)).trans (closeJob_writes closed)

theorem resolveResources_writes {K : FenceCrates} {J : Coordinator}
    {setDigest : ReservationSetDigest} {outside : SettleOutside}
    {command : TechnicalResourceLifecycleCommand} {s s' : Store}
    {outcome : ResourceLifecycleOutcome}
    (done : resolveTechnicalResources K J setDigest outside command s = .ok (outcome, s')) :
    Writes s s' := by
  simp only [resolveTechnicalResources, bind_ok] at done
  obtain ⟨resolution, -, -, -, digest, -, ⟨written, t⟩, ran, _, -, same⟩ := done
  obtain ⟨-, rfl⟩ := Prod.mk.inj (Except.ok.inj same)
  refine mutate_writes ran fun m u step => ?_
  unfold resolveMutation at step
  split at step
  · split at step <;> cases step <;> exact .refl
  split at step
  · cases step
    exact .refl
  simp only [bind_ok] at step
  obtain ⟨continuation, -, step⟩ := step
  split at step
  · cases step
    exact .refl
  split at step
  · cases step
    exact .refl
  simp only [bind_ok] at step
  obtain ⟨-, -, d, -, -, -, -, -, action, -, v, resolved, same⟩ := step
  cases same
  simp only [writeResolution, bind_ok] at resolved
  obtain ⟨_, -, s₁, sent, s₂, recorded, s₃, transitioned, closed⟩ := resolved
  have follows : resolution.operation ≠ .claim := by cases resolution <;> decide
  have told := (Write.record follows rfl sent recorded).writes
  exact (told.trans (lifecycleTransition_writes transitioned)).trans (closeLifecycle_writes closed)

/-! The import. -/

theorem consumeReservation_writes {K : FenceCrates} {observation : RecorderObservation}
    {s s' : Store} {reservation : TechnicalResourceReservationRecord}
    (done : s.consumeReservation K observation reservation = .ok s') : Writes s s' := by
  simp only [Store.consumeReservation, bind_ok] at done
  obtain ⟨-, -, actual, -, t, recorded, moved⟩ := done
  exact (Write.consume recorded moved).writes

theorem absentReservation_writes {observation : RecorderObservation} {s s' : Store}
    {reservation : TechnicalResourceReservationRecord}
    (done : s.absentReservation observation reservation = .ok s') : Writes s s' := by
  unfold Store.absentReservation at done
  split at done
  · simp only [bind_ok] at done
    obtain ⟨-, -, same⟩ := done
    cases same
    exact .refl
  · simp only [bind_ok] at done
    obtain ⟨-, -, moved⟩ := done
    exact (Write.move (by decide) moved).writes

theorem unknownReservation_writes {s s' : Store} {reservation : TechnicalResourceReservationRecord}
    (done : s.unknownReservation reservation = .ok s') : Writes s s' := by
  unfold Store.unknownReservation at done
  split at done
  · exact (Write.move (by decide) done).writes
  · cases done
    exact .refl
  · cases done

theorem transitionAttemptAndEffect_writes {observation : RecorderObservation}
    {attemptStatus nextStatus : ProviderAttemptStatus} {effectState nextState : LogicalEffectState}
    {s s' : Store}
    (done : s.transitionAttemptAndEffect observation attemptStatus effectState nextStatus nextState =
      .ok s') : Writes s s' := by
  simp only [Store.transitionAttemptAndEffect, bind_ok] at done
  obtain ⟨t, updated, moved⟩ := done
  exact (updateAttempts_writes updated).trans (updateEffects_writes moved)

theorem transitionPresent_writes {observation : RecorderObservation} {s s' : Store}
    (done : s.transitionPresent observation = .ok s') : Writes s s' := by
  simp only [Store.transitionPresent, bind_ok] at done
  obtain ⟨⟨status, state⟩, -, done⟩ := done
  split at done <;> exact transitionAttemptAndEffect_writes done

theorem transitionAbsent_writes {observation : RecorderObservation} {s s' : Store}
    (done : s.transitionAbsent observation = .ok s') : Writes s s' := by
  simp only [Store.transitionAbsent, bind_ok] at done
  obtain ⟨⟨status, state⟩, -, -, -, done⟩ := done
  split at done <;> exact transitionAttemptAndEffect_writes done

theorem keepUnknown_writes {observation : RecorderObservation} {s s' : Store}
    (done : s.keepUnknown observation = .ok s') : Writes s s' := by
  simp only [Store.keepUnknown, bind_ok] at done
  obtain ⟨⟨status, state⟩, -, t, attempted, done⟩ := done
  have attempts : Writes s t := by
    unfold Store.keepAttemptUnknown at attempted
    split at attempted
    · exact updateAttempts_writes attempted
    · cases attempted
      exact .refl
    · cases attempted
  refine attempts.trans ?_
  unfold Store.keepEffectUnknown at done
  split at done
  · exact updateEffects_writes done
  · cases done
    exact .refl
  · cases done

theorem leaveClaim_writes {command : ReconcileRecorderEvidenceCommand}
    {continuation : ContinuationRecord} {action : ActionBranchRecord} {status : ContinuationStatus}
    {s s' : Store} (left : status ≠ .runnable ∧ status ≠ .executing)
    (done : s.leaveClaim command continuation action status = .ok s') : Writes s s' := by
  simp only [Store.leaveClaim, bind_ok] at done
  obtain ⟨t, updated, -, -, u, moved, same⟩ := done
  cases same
  have gone := (Write.leave (fun _ => by simp [isCurrent, left.1, left.2]) updated).writes
  exact (gone.trans (updateActionStatus_writes moved)).trans
    (Writes.of_eq rfl rfl rfl rfl rfl rfl rfl)

theorem closeRecorder_writes {command : ReconcileRecorderEvidenceCommand}
    {continuation : ContinuationRecord} {action : ActionBranchRecord} {status : ContinuationStatus}
    {s s' : Store} (left : status ≠ .runnable ∧ status ≠ .executing)
    (done : s.closeRecorderContinuation command continuation action status = .ok s') :
    Writes s s' := by
  simp only [Store.closeRecorderContinuation, bind_ok] at done
  obtain ⟨-, -, done⟩ := done
  exact leaveClaim_writes left done

theorem converge_writes {K : FenceCrates} {command : ReconcileRecorderEvidenceCommand}
    {continuation : ContinuationRecord} {action : ActionBranchRecord}
    {reservations : List TechnicalResourceReservationRecord} {s s' : Store}
    (done : s.converge K command continuation action reservations = .ok s') : Writes s s' := by
  simp only [Store.converge] at done
  split at done
  · simp only [bind_ok] at done
    obtain ⟨t, consumed, u, present, closed⟩ := done
    have resources : Writes s t :=
      foldlM_writes consumed fun _ _ _ _ step => consumeReservation_writes step
    exact (resources.trans (transitionPresent_writes present)).trans
      (closeRecorder_writes (by decide) closed)
  · simp only [bind_ok] at done
    obtain ⟨t, kept, u, absent, closed⟩ := done
    have resources : Writes s t :=
      foldlM_writes kept fun _ _ _ _ step => absentReservation_writes step
    refine (resources.trans (transitionAbsent_writes absent)).trans ?_
    split at closed
    · exact closeRecorder_writes (by decide) closed
    · simp only [bind_ok] at closed
      obtain ⟨-, -, same⟩ := closed
      cases same
      exact .refl
  · simp only [bind_ok] at done
    obtain ⟨t, kept, u, unknown, closed⟩ := done
    have resources : Writes s t :=
      foldlM_writes kept fun _ _ _ _ step => unknownReservation_writes step
    refine (resources.trans (keepUnknown_writes unknown)).trans ?_
    unfold Store.keepContinuationUncertain at closed
    split at closed
    · simp only [bind_ok] at closed
      obtain ⟨-, -, closed⟩ := closed
      exact leaveClaim_writes (by decide) closed
    · simp only [bind_ok] at closed
      obtain ⟨-, -, same⟩ := closed
      cases same
      exact .refl
    · cases closed

theorem writeImport_writes {K : FenceCrates} {command : ReconcileRecorderEvidenceCommand}
    {continuation : ContinuationRecord} {s s' : Store}
    (done : writeImport K command continuation s = .ok s') : Writes s s' := by
  simp only [writeImport, bind_ok] at done
  obtain ⟨s₁, proven, s₂, sent, _, -, s₃, recorded, s₄, converged, same⟩ := done
  cases same
  have evidence : Writes s s₁ := by
    simp only [Store.insertRecorderEvidence, bind_ok] at proven
    obtain ⟨-, -, proven⟩ := proven
    split at proven <;> cases proven
    exact Writes.of_eq rfl rfl rfl rfl rfl rfl rfl
  have history : Writes s₁ s₃ := by
    simp only [Store.recordImport] at recorded
    split at recorded
    · cases recorded
      exact (Write.event sent).writes
    · refine (Write.record ?_ rfl sent recorded).writes
      simp only
      split <;> decide
  have converges : Writes s₃ s₄ := by
    simp only [Store.applyAtomicConvergence, bind_ok] at converged
    obtain ⟨action, -, -, -, t, met, -, -, same⟩ := converged
    cases same
    exact converge_writes met
  exact ((evidence.trans history).trans converges).trans
    (Writes.of_eq rfl rfl rfl rfl rfl rfl rfl)

theorem importEvidence_writes {K : FenceCrates} {J : Coordinator}
    {setDigest : ReservationSetDigest} {outside : ImportOutside}
    {command : ReconcileRecorderEvidenceCommand} {s s' : Store}
    {outcome : RecorderEvidenceImportOutcome}
    (done : reconcileRecorderEvidence K J setDigest outside command s = .ok (outcome, s')) :
    Writes s s' := by
  unfold reconcileRecorderEvidence at done
  split at done
  · simp only [bind_ok] at done
    obtain ⟨_, -, same⟩ := done
    cases same
    exact .refl
  simp only [bind_ok] at done
  obtain ⟨-, -, ⟨written, t⟩, ran, _, -, same⟩ := done
  obtain ⟨-, rfl⟩ := Prod.mk.inj (Except.ok.inj same)
  refine mutate_writes ran fun m u step => ?_
  unfold importMutation at step
  simp only at step
  split at step
  · cases step
    exact .refl
  split at step
  · cases step
    exact .refl
  split at step
  · cases step
    exact .refl
  split at step
  · cases step
    exact .refl
  simp only [bind_ok] at step
  obtain ⟨continuation, -, step⟩ := step
  split at step
  · cases step
    exact .refl
  simp only [bind_ok] at step
  obtain ⟨runtime, -, -, -, d, -, -, -, -, -, -, -, v, imported, same⟩ := step
  cases same
  exact writeImport_writes imported

end CarsinOS.Delegation
