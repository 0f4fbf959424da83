import CarsinOS.Delegation.Replay

/-! The first execution of a settlement and its repetition, and the fencing of claims in every
history. -/
namespace CarsinOS.Delegation
open CarsinOS.Lib CarsinOS.Integrity CarsinOS.Receipt

/-! What a settlement records. -/

theorem foldlM_log {α : Type} {step : Store → α → Anyhow Store} {rows : List α} {s s' : Store}
    (done : rows.foldlM step s = .ok s')
    (each : ∀ t t' row, step t row = .ok t' → t'.log = t.log) : s'.log = s.log := by
  induction rows generalizing s with
  | nil =>
    cases done
    rfl
  | cons row rows ih =>
    rw [List.foldlM_cons, bind_ok] at done
    obtain ⟨t, first, rest⟩ := done
    exact (ih rest).trans (each s t row first)

theorem settleReservation_log {K : FenceCrates} {identity : ContinuationClaimIdentity}
    {actuals : List TechnicalResourceActualInput} {eventId : Text} {settledAt : Int} {s s' : Store}
    {reservation : TechnicalResourceReservationRecord}
    (done : s.settleReservation K identity actuals eventId settledAt reservation = .ok s') :
    s'.log = s.log := by
  simp only [Store.settleReservation, bind_ok] at done
  obtain ⟨actual, -, -, -, t, recorded, moved⟩ := done
  obtain ⟨-, -, -, _, rfl, -⟩ := insertActual_ok recorded
  obtain ⟨_, rfl, -⟩ := moveReservation_ok moved
  rfl

theorem transitionReservations_log {K : FenceCrates} {identity : ContinuationClaimIdentity}
    {resultStatus : ContinuationStatus} {actuals : List TechnicalResourceActualInput}
    {eventId : Text} {settledAt : Int} {s s' : Store}
    (done : s.transitionReservationsOnSettle K identity resultStatus actuals eventId settledAt =
      .ok s') : s'.log = s.log := by
  simp only [Store.transitionReservationsOnSettle, bind_ok] at done
  obtain ⟨-, -, -, -, ⟨state, t⟩, moved, done⟩ := done
  have effect : t.log = s.log := by
    simp only [Store.transitionClaimEffectOnSettle, bind_ok] at moved
    obtain ⟨_, -, moved⟩ := moved
    split at moved
    · cases moved
      rfl
    · simp only [bind_ok, Store.moveEffect, Store.updateEffects] at moved
      obtain ⟨_, -, _, -, -, -, u, ⟨-, -, -, -, updated⟩, same⟩ := moved
      cases same
      cases updated
      rfl
  refine Eq.trans ?_ effect
  split at done
  · exact foldlM_log done fun _ _ _ step => settleReservation_log step
  · refine foldlM_log done fun _ _ _ step => ?_
    obtain ⟨_, rfl, -⟩ := moveReservation_ok step
    rfl

/-- A continuation that was claimed and has left its claim. -/
def Left (continuationId : Text) (s : Store) : Prop :=
  ∃ c ∈ s.continuations.rows, c.continuationId = continuationId ∧ isCurrent c = false

theorem Left.forward {continuationId : Text} {s s' : Store} (left : Left continuationId s)
    (forward : Forward s s') : Left continuationId s' := by
  obtain ⟨c, member, named, closed⟩ := left
  obtain ⟨c', member', same, -, kept⟩ := forward.continuations c member
  obtain ⟨-, -, identity, -⟩ := same
  exact ⟨c', member', identity.trans named, kept closed⟩

theorem writes_forward {s s' : Store} (writes : Writes s s') : Forward s s' :=
  writes_keep (fun _ _ write forward => forward.trans (write_forward write)) writes (.refl s)

theorem supersedeContinuation_left {s s' : Store} {c c₀ : ContinuationRecord}
    {action : ActionBranchRecord} {occurredAt : Int} {workerId : Text} {jobLeaseExpiresAt : Int}
    (member : c₀ ∈ s.continuations.rows) (same : SameFence c c₀)
    (done : s.supersedeContinuationAndAction c action occurredAt workerId jobLeaseExpiresAt =
      .ok s') : Left c.continuationId s' := by
  obtain ⟨-, -, named, owner, -⟩ := same
  simp only [Store.supersedeContinuationAndAction, bind_ok] at done
  obtain ⟨s₁, superseded, s₂, updated, closed⟩ := done
  have later : Forward s₁ s' :=
    writes_forward ((updateActionStatus_writes updated).trans (closeJob_writes closed))
  refine Left.forward ?_ later
  obtain ⟨-, rfl⟩ := updateContinuations_ok superseded
  refine ⟨_, List.mem_map.mpr ⟨c₀, member, rfl⟩, ?_⟩
  split
  · exact ⟨named, rfl⟩
  · rename_i missed
    simp only [named, owner, decide_true, Bool.true_and, Bool.not_eq_true] at missed
    exact ⟨named, missed⟩

/-- A settlement that appends: it has drifted and supersedes its continuation, or it settles it. -/
inductive FirstSettle (command : ContinuationSettleCommand) (digest : Text) (s : Store)
    (drift : Option ContinuationStaleReason) : ContinuationSettleOutcome → Store → Prop where
  | superseded {reason : ContinuationStaleReason} {s' : Store} {row : OperationHistoryRecord}
      (drifted : drift = some reason) (event : row.eventId = command.outboxEvent.eventId)
      (settle : row.operation = .settle) (status : row.resultStatus = .superseded)
      (identified : row.identity = command.identity)
      (evidence : row.resourceEvidenceDigest = some digest)
      (log : s'.log = (s.operationHistory.rows ++ [row],
        s.outboxEvents.rows ++ [command.outboxEvent],
        s.receipts ++ [receiptRowOf command.receipt])) :
      FirstSettle command digest s drift (.superseded reason) s'
  | settled {draft : SettleDraft} {s' : Store} {row : OperationHistoryRecord}
      (current : drift = none) (event : row.eventId = command.outboxEvent.eventId)
      (settle : row.operation = .settle) (status : row.resultStatus = command.resultStatus)
      (identified : row.identity = command.identity)
      (evidence : row.resourceEvidenceDigest = some digest)
      (drafted : draft.identity = command.identity)
      (log : s'.log = (s.operationHistory.rows ++ [row],
        s.outboxEvents.rows ++ [command.outboxEvent],
        s.receipts ++ [receiptRowOf command.receipt])) :
      FirstSettle command digest s drift (.settled draft) s'

/-- The row a settlement adds to the history, and the log it leaves. -/
theorem settleRow_log {s s₁ s₂ s₃ s' : Store} {event : NewOutboxEvent}
    {row : OperationHistoryRecord} (receipt : AppendReceiptCommand)
    (sent : s.insertOutbox event = .ok s₁) (recorded : s₁.insertOperationHistory row = .ok s₂)
    (moved : s₃.log = s₂.log) (closed : s'.log = s₃.log) :
    { s' with receipts := s'.receipts ++ [receiptRowOf receipt] }.log =
      (s.operationHistory.rows ++ [row], s.outboxEvents.rows ++ [event],
        s.receipts ++ [receiptRowOf receipt]) := by
  obtain ⟨-, outboxEvents, rfl, rows⟩ := insertOutbox_rows sent
  obtain ⟨history, inserted, -, rfl⟩ := insertOperationHistory_ok recorded
  have log := closed.trans moved
  simp only [Store.log, Prod.mk.injEq] at log ⊢
  rw [log.1, log.2.1, log.2.2, rows, Table.insert?_rows inserted]
  exact ⟨rfl, rfl, rfl⟩

theorem supersedeFromSettle_first {K : FenceCrates} {command : ContinuationSettleCommand}
    {digest : Text} {c : ContinuationRecord} {action : ActionBranchRecord}
    {reason : ContinuationStaleReason} {s u : Store} (found : c ∈ s.continuations.rows)
    (done : supersedeWithReceiptFromSettle K command digest c action s = .ok u) :
    FirstSettle command digest s (some reason) (.superseded reason)
      { u with receipts := u.receipts ++ [receiptRowOf command.receipt] } ∧
      Left c.continuationId u := by
  simp only [supersedeWithReceiptFromSettle, bind_ok] at done
  obtain ⟨-, -, _, -, s₁, sent, s₂, recorded, s₃, resources, superseded⟩ := done
  have log := settleRow_log command.receipt sent recorded
    (transitionReservations_log resources) (supersedeContinuation_log superseded)
  refine ⟨.superseded rfl rfl rfl rfl rfl rfl log, ?_⟩
  have told := (Write.record (by simp) rfl sent recorded).writes
  obtain ⟨c₀, member, same, -⟩ :=
    (writes_forward (told.trans (transitionReservations_writes resources))).continuations c found
  exact supersedeContinuation_left member same superseded

theorem writeSettle_first {K : FenceCrates} {command : ContinuationSettleCommand} {digest : Text}
    {c : ContinuationRecord} {action : ActionBranchRecord} {draft : SettleDraft} {s u : Store}
    (open' : command.resultStatus ≠ .runnable ∧ command.resultStatus ≠ .executing)
    (done : writeSettle K command digest c action s = .ok (draft, u)) :
    FirstSettle command digest s none (.settled draft)
      { u with receipts := u.receipts ++ [receiptRowOf command.receipt] } ∧
      Left c.continuationId u := by
  simp only [writeSettle, bind_ok, ensure_ok] at done
  obtain ⟨-, -, _, -, s₁, sent, s₂, recorded, s₃, resources, s₄, updated, -, sole, s₅, moved, s₆,
    closed, _, -, _, -, same⟩ := done
  obtain ⟨rfl, rfl⟩ := Prod.mk.inj (Except.ok.inj same)
  have after : Forward s₄ s₆ :=
    writes_forward ((updateActionStatus_writes moved).trans (closeJob_writes closed))
  obtain ⟨-, rfl⟩ := updateContinuations_ok updated
  have kept : s₆.log = s₃.log := by
    simp only [Store.updateActionStatus, Store.closeJob, bind_ok] at moved closed
    obtain ⟨t, branches, -, -, same⟩ := moved
    obtain ⟨-, -, same'⟩ := closed
    cases same
    cases same'
    cases updateBranches_ok branches
    rfl
  have log := settleRow_log command.receipt sent recorded
    (transitionReservations_log resources) kept
  refine ⟨.settled rfl rfl rfl rfl rfl rfl rfl log, ?_⟩
  refine Left.forward ?_ after
  obtain ⟨row, member, hit⟩ := List.countP_pos_iff.mp (by
    rw [Table.matched] at sole
    rw [sole]
    decide)
  refine ⟨_, List.mem_map.mpr ⟨row, member, rfl⟩, ?_⟩
  rw [if_pos hit]
  simp only [Bool.and_eq_true, decide_eq_true_eq] at hit
  exact ⟨hit.1.1.1.1.1.1.1.1.1, by simp [isCurrent, open'.1, open'.2]⟩

/-- Whether a settlement changed the store. -/
def ContinuationSettleOutcome.committed : ContinuationSettleOutcome → Bool
  | .settled _ => true
  | .superseded _ => true
  | _ => false

theorem validateSettleCommand_receipt {K : FenceCrates} {command : ContinuationSettleCommand}
    {u : Unit} (valid : validateSettleCommand K command = .ok u) :
    command.receipt.causationEventId = command.outboxEvent.eventId := by
  simp only [validateSettleCommand, validateWriteOutboxReceipt, bind_ok, ensure_ok] at valid
  obtain ⟨-, -, -, ⟨-, -, -, -, -, -, -, -, -, -, bound⟩, -⟩ := valid
  exact bound.2.2.2.2.2.2.2.2.2.1

theorem settleContinuation_committed {K : FenceCrates} {J : Coordinator}
    {setDigest : ReservationSetDigest} {outside : SettleOutside}
    {command : ContinuationSettleCommand} {outcome : ContinuationSettleOutcome} {s s' : Store}
    (done : settleContinuation K J setDigest outside command s = .ok (outcome, s'))
    (committed : outcome.committed = true) :
    ∃ digest c action, validateSettleCommand K command = .ok () ∧
      technicalResourceActualSetDigest K command.technicalResourceActuals = .ok digest ∧
      s.receiptByCausationEvent command.outboxEvent.eventId = none ∧
      s.validateClaimIdentityLive K setDigest command.identity command.trustedNow =
        .ok (c, action) ∧
      FirstSettle command digest s (s.objectiveDrift c action .executing) outcome s' ∧
      Left command.identity.continuationId s' := by
  simp only [settleContinuation, bind_ok] at done
  obtain ⟨_, valid, digest, digested, ⟨written, t⟩, ran, _, mapped, same⟩ := done
  obtain ⟨rfl, rfl⟩ := Prod.mk.inj (Except.ok.inj same)
  rcases mutate_cases ran with ⟨rfl, -⟩ | ⟨value, -, rfl⟩ | ⟨value, next, -, step, rfl, rfl, -⟩
  · cases mapped
    cases committed
  · cases value <;> cases mapped <;> cases committed
  unfold settleMutation at step
  split at step
  · split at step <;> cases step
  rename_i first
  split at step
  · cases step
  rename_i c action live
  have found := (validateClaimIdentityLive_ok K setDigest live).1
  have named : c.continuationId = command.identity.continuationId := Table.find?_key found
  simp only [bind_ok] at step
  obtain ⟨-, -, -, -, -, -, step⟩ := step
  refine ⟨digest, c, action, valid, digested, first, live, ?_⟩
  split at step
  · rename_i reason drifted
    simp only [bind_ok] at step
    obtain ⟨v, superseded, same⟩ := step
    cases same
    cases mapped
    rw [drifted, ← named]
    exact supersedeFromSettle_first (Table.find?_mem found) superseded
  · rename_i current
    simp only [bind_ok] at step
    obtain ⟨⟨draft, v⟩, settled, same⟩ := step
    cases same
    cases mapped
    rw [current, ← named]
    exact writeSettle_first (validateSettleCommand_result valid) settled

/-! The repetition of a settlement. -/

def ContinuationSettleOutcome.original (command : ContinuationSettleCommand)
    (identity : ContinuationClaimIdentity) (status : ContinuationStatus) :
    ContinuationSettleOutcome → Prop
  | .settled draft => identity = draft.identity ∧ status = command.resultStatus
  | .superseded _ => identity = command.identity ∧ status = .superseded
  | _ => False

def RepeatsSettle (K : FenceCrates) (setDigest : ReservationSetDigest)
    (command : ContinuationSettleCommand) (outcome : ContinuationSettleOutcome) (t : Store) : Prop :=
  ∀ J outside, J.available = true → ∃ identity status,
    settleContinuation K J setDigest outside command t = .ok (.replayed identity status, t) ∧
      outcome.original command identity status

/-- The continuation of a settlement has not drifted, or the settlement asks to supersede it. -/
def SettleCurrent (K : FenceCrates) (setDigest : ReservationSetDigest)
    (command : ContinuationSettleCommand) (s : Store) : Prop :=
  command.resultStatus = .superseded ∨ ∃ c action,
    s.validateClaimIdentityLive K setDigest command.identity command.trustedNow = .ok (c, action) ∧
      s.objectiveDrift c action .executing = none

theorem settleContinuation_repeats {K : FenceCrates} {J : Coordinator}
    {setDigest : ReservationSetDigest} {outside : SettleOutside}
    {command : ContinuationSettleCommand} {digest : Text} {t : Store} {row : ReceiptRow}
    {value : SettleMutationOutcome} {outcome : ContinuationSettleOutcome}
    (valid : validateSettleCommand K command = .ok ())
    (digested : technicalResourceActualSetDigest K command.technicalResourceActuals = .ok digest)
    (available : J.available = true)
    (found : t.receiptByCausationEvent command.outboxEvent.eventId = some row)
    (repeats : settleMutation K setDigest outside command digest t = .ok (.noAppend value, t))
    (mapped : settleOutcome (.noAppend value) = .ok outcome) :
    settleContinuation K J setDigest outside command t = .ok (outcome, t) := by
  have keyed := validateSettleCommand_receipt valid
  simp only [settleContinuation, valid, digested, ok_bind, mutateWithAtomicReceipt]
  rw [mutate_repeats available (by rw [keyed]; exact found) repeats]
  simp only [ok_bind, mapped]

/-- A replay is found exactly where the status that was recorded is the requested one. -/
theorem loadSettleReplay_recorded {command : ContinuationSettleCommand} {digest : Text}
    {h : OperationHistoryRecord} {row : ReceiptRow} {t : Store}
    (member : h ∈ t.operationHistory.rows) (event : h.eventId = command.outboxEvent.eventId)
    (settle : h.operation = .settle) (identified : h.identity = command.identity)
    (evidence : h.resourceEvidenceDigest = some digest)
    (sent : command.outboxEvent ∈ t.outboxEvents.rows)
    (found : t.receiptByCausationEvent command.outboxEvent.eventId = some row)
    (receipt : row.receiptId = command.receipt.receiptId) :
    loadSettleReplay t command digest =
      if h.resultStatus = command.resultStatus then some (command.identity, h.resultStatus)
      else none := by
  have loaded := loadOperationHistory_of_mem member
  rw [event, settle] at loaded
  simp only [loadSettleReplay, loaded, identified, evidence, Table.find?_of_mem sent, found,
    Option.map_some, receipt, true_and, and_true]

theorem repeatsSettle_iff {K : FenceCrates} {setDigest : ReservationSetDigest} {J : Coordinator}
    {outside : SettleOutside} {command : ContinuationSettleCommand}
    {outcome : ContinuationSettleOutcome} {labels : List (Option WorkCommand)} {s s' t : Store}
    (first : settleContinuation K J setDigest outside command s = .ok (outcome, s'))
    (committed : outcome.committed = true) (history : WorkHistory K setDigest s' labels t) :
    RepeatsSettle K setDigest command outcome t ↔ SettleCurrent K setDigest command s := by
  obtain ⟨digest, c, action, valid, digested, fresh, live, settles, -⟩ :=
    settleContinuation_committed first committed
  have keyed := validateSettleCommand_receipt valid
  have forward := workHistory_forward history
  -- The log the first execution left is still there.
  have recorded : ∀ row : OperationHistoryRecord,
      s'.log = (s.operationHistory.rows ++ [row], s.outboxEvents.rows ++ [command.outboxEvent],
        s.receipts ++ [receiptRowOf command.receipt]) →
      row ∈ t.operationHistory.rows ∧ command.outboxEvent ∈ t.outboxEvents.rows ∧
        t.receiptByCausationEvent command.outboxEvent.eventId =
          some (receiptRowOf command.receipt) := by
    intro row log
    simp only [Store.log, Prod.mk.injEq] at log
    refine ⟨forward.operationHistory.subset (by rw [log.1]; simp),
      forward.outboxEvents.subset (by rw [log.2.1]; simp),
      receiptByCausationEvent_forward forward.receipts ?_⟩
    rw [Store.receiptByCausationEvent] at *
    rw [log.2.2, List.find?_append, fresh]
    simp [receiptRowOf, keyed]
  generalize drift : s.objectiveDrift c action .executing = drifted at settles
  cases settles with
  | superseded reason event settle status identified evidence log =>
    cases reason
    obtain ⟨member, sent, found⟩ := recorded _ log
    have replay := loadSettleReplay_recorded member event settle identified evidence sent found rfl
    rw [status] at replay
    constructor
    · intro repeats
      obtain ⟨identity, result, replayed, -⟩ := repeats ⟨true, true, true⟩ outside rfl
      by_contra left
      have other : command.resultStatus ≠ .superseded := fun same => left (.inl same)
      rw [if_neg other.symm] at replay
      have lost : settleMutation K setDigest outside command digest t =
          .ok (.noAppend (.lost .claimIdentityMismatch), t) := by
        simp only [settleMutation, found, replay]
      rw [settleContinuation_repeats valid digested rfl found lost rfl] at replayed
      cases replayed
    · rintro (asked | ⟨c', action', live', current⟩) J' outside' available
      · rw [if_pos asked.symm] at replay
        have repeats : settleMutation K setDigest outside' command digest t =
            .ok (.noAppend (.replayed command.identity .superseded), t) := by
          simp only [settleMutation, found, replay]
        exact ⟨_, _, settleContinuation_repeats valid digested available found repeats rfl, rfl, rfl⟩
      · rw [live] at live'
        cases live'
        rw [drift] at current
        cases current
  | settled current event settle status identified evidence drafted log =>
    cases current
    refine ⟨fun _ => .inr ⟨c, action, live, drift⟩, fun _ J' outside' available => ?_⟩
    obtain ⟨member, sent, found⟩ := recorded _ log
    have replay := loadSettleReplay_recorded member event settle identified evidence sent found rfl
    rw [status, if_pos rfl] at replay
    have repeats : settleMutation K setDigest outside' command digest t =
        .ok (.noAppend (.replayed command.identity command.resultStatus), t) := by
      simp only [settleMutation, found, replay]
    exact ⟨_, _, settleContinuation_repeats valid digested available found repeats rfl,
      drafted.symm, rfl⟩

/-! The fencing. -/

/-- A dispatch check, the beginning of an invocation or a settlement under a claim identity
succeeds. -/
inductive Acts (K : FenceCrates) (setDigest : ReservationSetDigest) (s : Store) :
    ContinuationClaimIdentity → Prop where
  | dispatched {command : ContinuationDispatchValidationCommand} {s' : Store}
      (done : validateContinuationPreDispatch K setDigest command s = .ok (.valid, s')) :
      Acts K setDigest s command.identity
  | began {command : BeginProviderAttemptInvocationCommand} {attempt : ProviderAttemptRecord}
      {s' : Store}
      (done : beginProviderAttemptInvocation K setDigest command s = .ok (.began attempt, s')) :
      Acts K setDigest s command.claim
  | settled {J : Coordinator} {outside : SettleOutside} {command : ContinuationSettleCommand}
      {outcome : ContinuationSettleOutcome} {s' : Store}
      (done : settleContinuation K J setDigest outside command s = .ok (outcome, s'))
      (committed : outcome.committed = true) : Acts K setDigest s command.identity

theorem acts_live {K : FenceCrates} {setDigest : ReservationSetDigest} {s : Store}
    {identity : ContinuationClaimIdentity} (acts : Acts K setDigest s identity) :
    ∃ c ∈ s.continuations.rows, c.continuationId = identity.continuationId ∧
      c.status = .executing ∧ c.fencingToken = identity.continuationFencingToken := by
  have live : ∃ trustedNow c action,
      s.validateClaimIdentityLive K setDigest identity trustedNow = .ok (c, action) := by
    cases acts with
    | dispatched done =>
      obtain ⟨c, action, live, -⟩ := preDispatch_valid done
      exact ⟨_, c, action, live⟩
    | began done =>
      obtain ⟨c, action, live, -⟩ := beginProviderAttempt_began done
      exact ⟨_, c, action, live⟩
    | settled done committed =>
      obtain ⟨-, c, action, -, -, -, live, -⟩ := settleContinuation_committed done committed
      exact ⟨_, c, action, live⟩
  obtain ⟨_, c, action, live⟩ := live
  obtain ⟨found, -, executing, token⟩ := validateClaimIdentityLive_ok K setDigest live
  exact ⟨c, Table.find?_mem found, Table.find?_key found, executing, token⟩

/-- A claim takes the next token of its continuation, which no earlier claim has. -/
def TokensIncrease (K : FenceCrates) (s : Store) : Prop :=
  ∀ J outside command draft s', claimContinuation K J outside command s = .ok (.claimed draft, s') →
    ∃ c ∈ s.continuations.rows, ∃ c' ∈ s'.continuations.rows,
      c.continuationId = command.continuationId ∧ c'.continuationId = command.continuationId ∧
      c'.fencingToken = c.fencingToken + 1 ∧
      draft.identity.continuationFencingToken = c'.fencingToken ∧
      ∀ h ∈ s.operationHistory.rows, h.operation = .claim →
        h.identity.continuationId = command.continuationId →
          h.identity.continuationFencingToken < c'.fencingToken

/-- Where a newer claim exists, nothing succeeds under an older one. -/
def OlderRefused (K : FenceCrates) (setDigest : ReservationSetDigest) (s : Store) : Prop :=
  ∀ newer ∈ s.operationHistory.rows, newer.operation = .claim → ∀ identity,
    identity.continuationId = newer.identity.continuationId →
      identity.continuationFencingToken < newer.identity.continuationFencingToken →
        ¬Acts K setDigest s identity

/-- No claim of a continuation is settled after one of its claims was. -/
def SettledOnce (K : FenceCrates) (setDigest : ReservationSetDigest) (s : Store) : Prop :=
  ∀ J outside command outcome s',
    settleContinuation K J setDigest outside command s = .ok (outcome, s') →
      outcome.committed = true → ∀ labels t, WorkHistory K setDigest s' labels t →
        ∀ J' outside' later result t',
          settleContinuation K J' setDigest outside' later t = .ok (result, t') →
            result.committed = true →
              later.identity.continuationId ≠ command.identity.continuationId

theorem tokens_increase {K : FenceCrates} {s : Store} (fenced : ClaimsFenced s) :
    TokensIncrease K s := by
  intro J outside command draft s' done
  obtain ⟨-, -, c, action, found, -, -, claims⟩ := claimContinuation_committed done rfl
  have named : c.continuationId = command.continuationId := Table.find?_key found
  cases claims with
  | claimed current host actor sent formed written =>
    obtain ⟨-, -, -, -, -, -, c', present, key, -, token⟩ := writeClaim_ok written
    obtain ⟨-, next, -⟩ := identityFromParts_ok formed
    refine ⟨c, Table.find?_mem found, c', present, named, key.trans named, token.trans next,
      token.symm, fun h member claim same => ?_⟩
    obtain ⟨c₀, stored, identity, -, grows⟩ := fenced.claimed h member claim
    obtain rfl := Table.eq_of_key stored (Table.find?_mem found)
      (identity.trans (same.trans named.symm))
    omega

theorem older_refused {K : FenceCrates} {setDigest : ReservationSetDigest} {s : Store}
    (fenced : ClaimsFenced s) : OlderRefused K setDigest s := by
  intro newer member claim identity same older acts
  obtain ⟨c, stored, named, -, token⟩ := acts_live acts
  obtain ⟨c₀, stored', named', -, grows⟩ := fenced.claimed newer member claim
  obtain rfl := Table.eq_of_key stored stored' (named.trans (same.trans named'.symm))
  omega

theorem settled_once {K : FenceCrates} {setDigest : ReservationSetDigest} {s : Store} :
    SettledOnce K setDigest s := by
  intro J outside command outcome s' done committed labels t history J' outside' later result t'
    again committed' same
  obtain ⟨-, -, -, -, -, -, -, -, left⟩ := settleContinuation_committed done committed
  obtain ⟨c, member, named, closed⟩ := left.forward (workHistory_forward history)
  obtain ⟨c', stored, named', executing, -⟩ := acts_live (.settled again committed')
  obtain rfl := Table.eq_of_key member stored (named.trans (same.symm.trans named'.symm))
  rw [isCurrent, executing] at closed
  cases closed

/-- In every history of the fence the tokens increase, older claims are refused and a continuation is
settled once; a claim or a settlement that committed answers every repetition with its original
identity and outcome, and changes no row, exactly where it had not drifted. -/
theorem claims_fenced_replays_iff {K : FenceCrates} {setDigest : ReservationSetDigest}
    {labels : List (Option WorkCommand)} {s : Store}
    (reached : WorkHistory K setDigest Store.initial labels s) :
    TokensIncrease K s ∧ OlderRefused K setDigest s ∧ SettledOnce K setDigest s ∧
      (∀ J outside command outcome s',
        claimContinuation K J outside command s = .ok (outcome, s') → outcome.committed = true →
          ∀ labels t, WorkHistory K setDigest s' labels t →
            (RepeatsClaim K command outcome t ↔ ClaimCurrent command s)) ∧
      ∀ J outside command outcome s',
        settleContinuation K J setDigest outside command s = .ok (outcome, s') →
          outcome.committed = true → ∀ labels t, WorkHistory K setDigest s' labels t →
            (RepeatsSettle K setDigest command outcome t ↔
              SettleCurrent K setDigest command s) := by
  have fenced := workHistory_fenced reached initial_claimsFenced
  refine ⟨tokens_increase fenced, older_refused fenced, settled_once, ?_, ?_⟩
  · intro J outside command outcome s' done committed labels t history
    exact repeatsClaim_iff fenced done committed history
  · intro J outside command outcome s' done committed labels t history
    exact repeatsSettle_iff done committed history

/-- A claim of a leased continuation answers its repetition with its identity. -/
theorem claim_replayed_sample : ∃ s s' draft, (∃ labels,
      WorkHistory sampleCrates sampleDigest Store.initial labels s) ∧
    claimContinuation sampleCrates sampleCoordinator sampleClaimOutside sampleClaim s =
      .ok (.claimed draft, s') ∧ RepeatsClaim sampleCrates sampleClaim (.claimed draft) s' := by
  have run : (do
      let s ← runAll sampleCrates sampleDigest (leasedFoundation 0) Store.initial
      ensure (Beside Store.initial s) ""
      let (claimed, _) ← claimContinuation sampleCrates sampleCoordinator sampleClaimOutside
        sampleClaim s
      ensure (isClaimed claimed = true) "" : Anyhow Unit) = .ok () := by
    rw [sampleClaimOutside, sampleClaim, sampleDigest, sampleCrates_fast]
    decide +kernel
  simp only [bind_ok, ensure_ok] at run
  obtain ⟨s, -, -, beside, ⟨claimed, s'⟩, claims, isClaim⟩ := run
  have reached : WorkHistory sampleCrates sampleDigest Store.initial [none] s :=
    Run.snoc (.nil _) (.beside beside)
  cases claimed <;> try cases isClaim
  rename_i draft
  obtain ⟨-, -, c, action, found, -, loaded, first⟩ := claimContinuation_committed claims rfl
  cases first with
  | claimed current =>
    exact ⟨s, _, draft, ⟨_, reached⟩, claims,
      ((claims_fenced_replays_iff reached).2.2.2.1 _ _ _ _ _ claims rfl [] _ (.nil _)).mpr
        ⟨c, action, found, loaded, current⟩⟩

def isSuperseded : ContinuationClaimOutcome → Bool
  | .superseded _ => true
  | _ => false

def isReplayed : ContinuationClaimOutcome → Bool
  | .replayed _ _ => true
  | _ => false

/-- A claim after a global stop supersedes its continuation, and its repetition is not answered with
that outcome. -/
theorem superseded_claim_not_replayed : ∃ s s' reason, (∃ labels,
      WorkHistory sampleCrates sampleDigest Store.initial labels s) ∧
    claimContinuation sampleCrates sampleCoordinator sampleClaimOutside sampleClaim s =
      .ok (.superseded reason, s') ∧
    ¬RepeatsClaim sampleCrates sampleClaim (.superseded reason) s' := by
  have run : (do
      let founded ← runAll sampleCrates sampleDigest (leasedFoundation 0) Store.initial
      let (_, s) ← engageGlobalStop sampleCrates sampleCoordinator sampleControl sampleEngage
        founded
      ensure (Beside Store.initial s) ""
      let (claimed, s') ← claimContinuation sampleCrates sampleCoordinator sampleClaimOutside
        sampleClaim s
      ensure (isSuperseded claimed = true) ""
      let (again, _) ← claimContinuation sampleCrates sampleCoordinator sampleClaimOutside
        sampleClaim s'
      ensure (isReplayed again = false) "" : Anyhow Unit) = .ok () := by
    rw [sampleClaimOutside, sampleClaim, sampleDigest, sampleCrates_fast]
    decide +kernel
  simp only [bind_ok, ensure_ok] at run
  obtain ⟨-, -, ⟨_, s⟩, -, -, beside, ⟨claimed, s'⟩, claims, -, isClaim, ⟨again, t⟩, repeated,
    answered⟩ := run
  cases claimed <;> try cases isClaim
  rename_i reason
  refine ⟨s, s', reason, ⟨_, Run.snoc (.nil _) (.beside beside)⟩, claims, fun repeats => ?_⟩
  obtain ⟨identity, status, replayed, -⟩ := repeats sampleCoordinator sampleClaimOutside rfl
  rw [repeated] at replayed
  cases replayed
  cases answered

end CarsinOS.Delegation
