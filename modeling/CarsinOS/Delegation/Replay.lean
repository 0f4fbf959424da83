import CarsinOS.Delegation.StopFence
import CarsinOS.Delegation.Work

/-! The fencing of claims over whole histories, and what the repetition of a command answers. -/
namespace CarsinOS.Delegation
open CarsinOS.Lib CarsinOS.Integrity CarsinOS.Receipt

/-! What the statements keep of the continuations and their history. -/

/-- The operations of a later store: rows are only added, and every continuation is still there,
under a token that has not decreased. -/
structure Forward (s s' : Store) : Prop where
  operationHistory : s.operationHistory.rows <+: s'.operationHistory.rows
  outboxEvents : s.outboxEvents.rows <+: s'.outboxEvents.rows
  receipts : s.receipts <+: s'.receipts
  continuations : ∀ c ∈ s.continuations.rows, ∃ c' ∈ s'.continuations.rows, SameFence c c' ∧
    (c.status ≠ .runnable → c'.status ≠ .runnable) ∧ (isCurrent c = false → isCurrent c' = false)

theorem SameFence.trans {c c' c'' : ContinuationRecord} (first : SameFence c c')
    (second : SameFence c' c'') : SameFence c c'' := by
  simp only [SameFence] at *
  grind

theorem Forward.refl (s : Store) : Forward s s :=
  ⟨List.prefix_rfl, List.prefix_rfl, List.prefix_rfl,
    fun c member => ⟨c, member, .refl c, id, id⟩⟩

theorem Forward.trans {s t u : Store} (first : Forward s t) (second : Forward t u) :
    Forward s u := by
  refine ⟨first.operationHistory.trans second.operationHistory,
    first.outboxEvents.trans second.outboxEvents, first.receipts.trans second.receipts,
    fun c member => ?_⟩
  obtain ⟨c', member', same, claimed, left⟩ := first.continuations c member
  obtain ⟨c'', member'', same', claimed', left'⟩ := second.continuations c' member'
  exact ⟨c'', member'', same.trans same', fun h => claimed' (claimed h), fun h => left' (left h)⟩

theorem Forward.of_rows {s s' : Store} (history : s.operationHistory.rows <+: s'.operationHistory.rows)
    (outbox : s.outboxEvents.rows <+: s'.outboxEvents.rows) (receipts : s.receipts <+: s'.receipts)
    (continuations : s'.continuations = s.continuations) : Forward s s' :=
  ⟨history, outbox, receipts, fun c member =>
    ⟨c, by rw [continuations]; exact member, .refl c, id, id⟩⟩

theorem insertOutbox_rows {s s' : Store} {event : NewOutboxEvent}
    (done : s.insertOutbox event = .ok s') :
    (∀ other ∈ s.outboxEvents.rows, other.eventId ≠ event.eventId) ∧
      ∃ outboxEvents, s' = { s with outboxEvents } ∧
        outboxEvents.rows = s.outboxEvents.rows ++ [event] := by
  simp only [Store.insertOutbox, bind_ok, ensure_ok] at done
  obtain ⟨-, -, -, -, rest⟩ := done
  split at rest <;> cases rest
  rename_i outboxEvents inserted
  refine ⟨fun other member same => ?_, outboxEvents, rfl, Table.insert?_rows inserted⟩
  unfold Table.insert? at inserted
  split at inserted
  · rename_i fresh
    exact fresh (same ▸ List.mem_map_of_mem member)
  · cases inserted

theorem insertResourceReservations_ok {s s' : Store} {claim : ContinuationClaimIdentity}
    {identities : List TechnicalResourceReservationIdentity} {createdAt : Int}
    (done : s.insertResourceReservations claim identities createdAt = .ok s') :
    ∃ reservations, s' = { s with reservations } := by
  unfold Store.insertResourceReservations at done
  induction identities generalizing s with
  | nil =>
    cases done
    exact ⟨_, rfl⟩
  | cons identity identities ih =>
    rw [List.foldlM_cons, bind_ok] at done
    obtain ⟨t, inserted, rest⟩ := done
    obtain ⟨_, rfl⟩ := insertReservation_ok inserted
    obtain ⟨reservations, rfl⟩ := ih rest
    exact ⟨reservations, rfl⟩

/-- What a claim writes: its history row, and the continuation under the next token. -/
theorem writeClaim_ok {command : ContinuationClaimCommand} {continuation : ContinuationRecord}
    {action : ActionBranchRecord} {identity : ContinuationClaimIdentity}
    {bundle : ResourceBundleDraft} {draft : ClaimDraft} {s s' : Store}
    (done : writeClaim command continuation action identity bundle s = .ok (draft, s')) :
    draft.identity = identity ∧ s'.outboxEvents = s.outboxEvents ∧ s'.receipts = s.receipts ∧
      (∃ row : OperationHistoryRecord, row.eventId = command.outboxEvent.eventId ∧
        row.operation = .claim ∧ row.resultStatus = .executing ∧ row.identity = identity ∧
        s'.operationHistory.rows = s.operationHistory.rows ++ [row]) ∧
      (∀ c ∈ s.continuations.rows, c.continuationId ≠ continuation.continuationId →
        c ∈ s'.continuations.rows) ∧
      (∀ c ∈ s.continuations.rows, ∃ c' ∈ s'.continuations.rows, SameFence c c' ∧
        (c' = c ∨ c.status = .runnable ∧ c'.status = .executing)) ∧
      ∃ c' ∈ s'.continuations.rows, c'.continuationId = continuation.continuationId ∧
        c'.status = .executing ∧ c'.fencingToken = identity.continuationFencingToken := by
  simp only [writeClaim, bind_ok, ensure_ok] at done
  obtain ⟨s₁, recorded, s₂, reserved, s₃, claimed, s₄, updated, -, sole, s₅, moved, c, found, a, -, same⟩ :=
    done
  obtain ⟨rfl, rfl⟩ := Prod.mk.inj (Except.ok.inj same)
  obtain ⟨history, inserted, -, rfl⟩ := insertOperationHistory_ok recorded
  obtain ⟨_, rfl⟩ := insertResourceReservations_ok reserved
  have effects : ∃ logicalEffects, s₃ = { s with
      operationHistory := history, reservations := s₃.reservations, logicalEffects } := by
    unfold Store.claimLogicalEffect at claimed
    split at claimed
    · cases claimed
      exact ⟨_, rfl⟩
    · simp only [bind_ok] at claimed
      obtain ⟨-, -, same⟩ := claimed
      cases same
      exact ⟨_, rfl⟩
  obtain ⟨_, effects⟩ := effects
  obtain ⟨fences, rfl⟩ := updateContinuations_ok updated
  simp only [Store.updateActionStatus, bind_ok] at moved
  obtain ⟨t, branches, -, -, same⟩ := moved
  cases same
  cases updateBranches_ok branches
  have rows : s₃.continuations = s.continuations := by rw [effects]
  have appended := Table.insert?_rows inserted
  have kept : s₃.operationHistory.rows = history.rows := by rw [effects]
  refine ⟨rfl, by rw [effects], by rw [effects], ⟨_, ?_, ?_, ?_, ?_, kept.trans appended⟩, ?_, ?_, ?_⟩
  iterate 4 rfl
  · intro row member other
    refine List.mem_map.mpr ⟨row, by rw [rows]; exact member, ?_⟩
    rw [if_neg]
    simp [other]
  · intro row member
    rw [← rows] at member
    refine ⟨_, List.mem_map.mpr ⟨row, member, rfl⟩, ?_⟩
    split
    · rename_i hit
      refine ⟨fences row member hit, .inr ⟨?_, rfl⟩⟩
      simp only [Bool.and_eq_true, decide_eq_true_eq] at hit
      exact hit.1.1.1.2
    · exact ⟨.refl row, .inl rfl⟩
  · obtain ⟨row, member, hit⟩ := List.countP_pos_iff.mp (by
      rw [Table.matched] at sole
      rw [sole]
      decide)
    refine ⟨_, List.mem_map.mpr ⟨row, member, rfl⟩, ?_⟩
    rw [if_pos hit]
    simp only [Bool.and_eq_true, decide_eq_true_eq] at hit
    exact ⟨hit.1.1.1.1.1.1, rfl, rfl⟩

theorem write_forward {s s' : Store} (write : Write s s') : Forward s s' := by
  cases write with
  | aside other =>
    obtain ⟨rows, receipts⟩ := other.receipts
    exact .of_rows (by rw [other.operationHistory]) (by rw [other.outboxEvents])
      ⟨rows, receipts.symm⟩ other.continuations
  | event done =>
    obtain ⟨-, outboxEvents, rfl, rows⟩ := insertOutbox_rows done
    exact .of_rows List.prefix_rfl ⟨_, rows.symm⟩ List.prefix_rfl rfl
  | record follows named sent done =>
    obtain ⟨-, outboxEvents, rfl, rows⟩ := insertOutbox_rows sent
    obtain ⟨history, inserted, -, rfl⟩ := insertOperationHistory_ok done
    exact .of_rows ⟨_, (Table.insert?_rows inserted).symm⟩ ⟨_, rows.symm⟩ List.prefix_rfl rfl
  | leave left done =>
    obtain ⟨fences, rfl⟩ := updateContinuations_ok done
    refine ⟨List.prefix_rfl, List.prefix_rfl, List.prefix_rfl, fun c member =>
      ⟨_, List.mem_map.mpr ⟨c, member, rfl⟩, ?_⟩⟩
    split
    · rename_i hit
      refine ⟨fences c member hit, fun _ runnable => ?_, fun _ => left c⟩
      have current := left c
      rw [isCurrent, runnable] at current
      cases current
    · exact ⟨.refl c, id, id⟩
  | claim found runnable next named sent done =>
    obtain ⟨-, outboxEvents, rfl, rows⟩ := insertOutbox_rows sent
    obtain ⟨-, outbox, receipts, ⟨row, -, -, -, -, history⟩, -, kept, -⟩ := writeClaim_ok done
    refine ⟨⟨_, history.symm⟩, by rw [outbox]; exact ⟨_, rows.symm⟩, by rw [receipts],
      fun c member => ?_⟩
    obtain ⟨c', member', same, rfl | ⟨open', executing⟩⟩ := kept c member
    · exact ⟨c', member', same, id, id⟩
    · refine ⟨c', member', same, fun closed => (closed open').elim, fun left => ?_⟩
      rw [isCurrent, open'] at left
      cases left
  | consume recorded done =>
    obtain ⟨-, -, -, actuals, rfl, -⟩ := insertActual_ok recorded
    obtain ⟨reservations, rfl, -⟩ := moveReservation_ok done
    exact .of_rows List.prefix_rfl List.prefix_rfl List.prefix_rfl rfl
  | move unsettled done =>
    obtain ⟨reservations, rfl, -⟩ := moveReservation_ok done
    exact .of_rows List.prefix_rfl List.prefix_rfl List.prefix_rfl rfl

theorem beside_forward {s s' : Store} (other : Beside s s') : Forward s s' := by
  refine ⟨by rw [other.operationHistory], other.outboxEvents, other.receipts, fun c member => ?_⟩
  obtain ⟨c', member', same, status | status⟩ := other.continuations c member
  · refine ⟨c', member', same, fun closed => by rwa [status], fun left => ?_⟩
    rwa [isCurrent, status]
  · exact ⟨c', member', same, fun _ => by rw [status]; decide, fun _ => by rw [isCurrent, status]; rfl⟩

theorem workStep_forward {K : FenceCrates} {setDigest : ReservationSetDigest} {s s' : Store}
    {label : Option WorkCommand} (step : WorkStep K setDigest s label s') : Forward s s' := by
  cases step with
  | command done =>
    exact writes_keep (fun _ _ write forward => forward.trans (write_forward write))
      (workCommand_writes done) (.refl s)
  | beside other => exact beside_forward other

theorem workHistory_forward {K : FenceCrates} {setDigest : ReservationSetDigest} {s t : Store}
    {labels : List (Option WorkCommand)} (history : WorkHistory K setDigest s labels t) :
    Forward s t := by
  induction history with
  | nil => exact .refl _
  | snoc _ step ih => exact ih.trans (workStep_forward step)

/-! The invariant of the claims. -/

/-- Every claim names a continuation that is no longer runnable, under a token no later than its
own, and the event of every operation is sent. -/
structure ClaimsFenced (s : Store) : Prop where
  claimed : ∀ h ∈ s.operationHistory.rows, h.operation = .claim → ∃ c ∈ s.continuations.rows,
    c.continuationId = h.identity.continuationId ∧ c.status ≠ .runnable ∧
      h.identity.continuationFencingToken ≤ c.fencingToken
  sent : ∀ h ∈ s.operationHistory.rows, ∃ e ∈ s.outboxEvents.rows, e.eventId = h.eventId

/-- Rows that are added keep the claims fenced, where they are fenced themselves. -/
theorem ClaimsFenced.forward {s s' : Store} (fenced : ClaimsFenced s) (forward : Forward s s')
    (added : ∀ h ∈ s'.operationHistory.rows, h ∈ s.operationHistory.rows ∨
      (∃ e ∈ s'.outboxEvents.rows, e.eventId = h.eventId) ∧ (h.operation = .claim →
        ∃ c ∈ s'.continuations.rows, c.continuationId = h.identity.continuationId ∧
          c.status ≠ .runnable ∧ h.identity.continuationFencingToken ≤ c.fencingToken)) :
    ClaimsFenced s' := by
  refine ⟨fun h member claim => ?_, fun h member => ?_⟩
  · rcases added h member with old | ⟨-, row⟩
    · obtain ⟨c, present, named, claimed, token⟩ := fenced.claimed h old claim
      obtain ⟨c', present', same, kept, -⟩ := forward.continuations c present
      obtain ⟨grows, -, identity, -⟩ := same
      exact ⟨c', present', identity.trans named, kept claimed, token.trans grows⟩
    · exact row claim
  · rcases added h member with old | ⟨row, -⟩
    · obtain ⟨e, present, named⟩ := fenced.sent h old
      exact ⟨e, forward.outboxEvents.subset present, named⟩
    · exact row

theorem write_fenced {s s' : Store} (write : Write s s') (fenced : ClaimsFenced s) :
    ClaimsFenced s' := by
  have forward := write_forward write
  apply fenced.forward forward
  intro h member
  cases write with
  | aside other =>
    rw [other.operationHistory] at member
    exact .inl member
  | event done =>
    obtain ⟨-, outboxEvents, rfl, -⟩ := insertOutbox_rows done
    exact .inl member
  | record follows named sent done =>
    obtain ⟨-, outboxEvents, rfl, rows⟩ := insertOutbox_rows sent
    obtain ⟨history, inserted, -, rfl⟩ := insertOperationHistory_ok done
    simp only [Table.insert?_rows inserted, List.mem_append, List.mem_singleton] at member
    rcases member with old | rfl
    · exact .inl old
    · refine .inr ⟨⟨_, ?_, named.symm⟩, fun claim => (follows claim).elim⟩
      simp only [rows, List.mem_append, List.mem_singleton, or_true]
  | leave left done =>
    obtain ⟨-, rfl⟩ := updateContinuations_ok done
    exact .inl member
  | claim found runnable next named sent done =>
    obtain ⟨-, outboxEvents, rfl, rows⟩ := insertOutbox_rows sent
    obtain ⟨-, outbox, -, ⟨row, event, -, -, identity, history⟩, -, -, c', present, key, executing,
      token⟩ := writeClaim_ok done
    rw [history, List.mem_append, List.mem_singleton] at member
    rcases member with old | rfl
    · exact .inl old
    · refine .inr ⟨⟨_, ?_, event.symm⟩, fun _ => ⟨c', present, ?_, ?_, ?_⟩⟩
      · simp only [outbox, rows, List.mem_append, List.mem_singleton, or_true]
      · rw [identity, key]
        exact Table.find?_key found
      · rw [executing]
        decide
      · rw [identity, token]
  | consume recorded done =>
    obtain ⟨-, -, -, actuals, rfl, -⟩ := insertActual_ok recorded
    obtain ⟨reservations, rfl, -⟩ := moveReservation_ok done
    exact .inl member
  | move unsettled done =>
    obtain ⟨reservations, rfl, -⟩ := moveReservation_ok done
    exact .inl member

theorem workHistory_fenced {K : FenceCrates} {setDigest : ReservationSetDigest} {s t : Store}
    {labels : List (Option WorkCommand)} (history : WorkHistory K setDigest s labels t)
    (fenced : ClaimsFenced s) : ClaimsFenced t := by
  refine workHistory_keeps (fun _ _ write => write_fenced write) (fun s s' other held => ?_) history
    fenced
  apply held.forward (beside_forward other)
  intro h member
  rw [other.operationHistory] at member
  exact .inl member

theorem initial_claimsFenced : ClaimsFenced Store.initial := by
  constructor <;> intro h member <;> cases member

/-! What is recorded stays recorded. -/

/-- An event that was sent for no operation. -/
def Unrecorded (eventId : Text) (s : Store) : Prop :=
  (∃ e ∈ s.outboxEvents.rows, e.eventId = eventId) ∧
    ∀ h ∈ s.operationHistory.rows, h.eventId ≠ eventId

theorem write_unrecorded {eventId : Text} {s s' : Store} (write : Write s s')
    (unrecorded : Unrecorded eventId s) : Unrecorded eventId s' := by
  obtain ⟨⟨e, sent, event⟩, none⟩ := unrecorded
  refine ⟨⟨e, (write_forward write).outboxEvents.subset sent, event⟩, ?_⟩
  cases write with
  | aside other =>
    rw [other.operationHistory]
    exact none
  | event done =>
    obtain ⟨-, outboxEvents, rfl, -⟩ := insertOutbox_rows done
    exact none
  | record follows named first done =>
    obtain ⟨fresh, outboxEvents, rfl, -⟩ := insertOutbox_rows first
    obtain ⟨history, inserted, -, rfl⟩ := insertOperationHistory_ok done
    intro h member
    simp only [Table.insert?_rows inserted, List.mem_append, List.mem_singleton] at member
    rcases member with old | rfl
    · exact none h old
    · rw [named, ← event]
      exact (fresh e sent).symm
  | leave left done =>
    obtain ⟨-, rfl⟩ := updateContinuations_ok done
    exact none
  | claim found runnable next named first done =>
    obtain ⟨fresh, outboxEvents, rfl, -⟩ := insertOutbox_rows first
    obtain ⟨-, -, -, ⟨row, key, -, -, -, history⟩, -⟩ := writeClaim_ok done
    intro h member
    rw [history, List.mem_append, List.mem_singleton] at member
    rcases member with old | rfl
    · exact none h old
    · rw [key, ← event]
      exact (fresh e sent).symm
  | consume recorded done =>
    obtain ⟨-, -, -, actuals, rfl, -⟩ := insertActual_ok recorded
    obtain ⟨reservations, rfl, -⟩ := moveReservation_ok done
    exact none
  | move unsettled done =>
    obtain ⟨reservations, rfl, -⟩ := moveReservation_ok done
    exact none

theorem workHistory_unrecorded {K : FenceCrates} {setDigest : ReservationSetDigest}
    {eventId : Text} {s t : Store} {labels : List (Option WorkCommand)}
    (history : WorkHistory K setDigest s labels t) (unrecorded : Unrecorded eventId s) :
    Unrecorded eventId t := by
  refine workHistory_keeps (fun _ _ write => write_unrecorded write) (fun s s' other held => ?_)
    history unrecorded
  obtain ⟨⟨e, sent, event⟩, none⟩ := held
  refine ⟨⟨e, other.outboxEvents.subset sent, event⟩, ?_⟩
  rw [other.operationHistory]
  exact none

theorem loadOperationHistory_unrecorded {eventId : Text} {s : Store}
    {operation : ContinuationOperation} (unrecorded : Unrecorded eventId s) :
    loadOperationHistory s eventId operation = none := by
  rw [loadOperationHistory, Option.filter_eq_none_iff]
  intro h found
  exact (unrecorded.2 h (Table.find?_mem found) (Table.find?_key found)).elim

theorem loadOperationHistory_of_mem {s : Store} {h : OperationHistoryRecord}
    (member : h ∈ s.operationHistory.rows) :
    loadOperationHistory s h.eventId h.operation = some h := by
  rw [loadOperationHistory, Table.find?_of_mem member]
  simp [Option.filter]

/-- The first receipt of an event stays the first. -/
theorem receiptByCausationEvent_forward {s t : Store} {eventId : Text} {row : ReceiptRow}
    (forward : s.receipts <+: t.receipts) (found : s.receiptByCausationEvent eventId = some row) :
    t.receiptByCausationEvent eventId = some row := by
  obtain ⟨more, rows⟩ := forward
  rw [Store.receiptByCausationEvent] at *
  rw [← rows, List.find?_append, found]
  rfl

theorem receiptByCausationEvent_append {s : Store} {command : AppendReceiptCommand} {eventId : Text}
    (first : s.receiptByCausationEvent eventId = none) (names : command.causationEventId = eventId) :
    { s with receipts := s.receipts ++ [receiptRowOf command] }.receiptByCausationEvent eventId =
      some (receiptRowOf command) := by
  rw [Store.receiptByCausationEvent] at *
  rw [List.find?_append, first]
  simp [receiptRowOf, names]

/-- A command whose event has its receipt appends no other. -/
theorem mutate_repeats {T : Type} {J : Coordinator} {command : AppendReceiptCommand} {pre : Int}
    {check : Bool} {mutation : Store → Anyhow (AtomicReceiptMutation T × Store)} {s : Store}
    {row : ReceiptRow} {value : T} (available : J.available = true)
    (found : s.receiptByCausationEvent command.causationEventId = some row)
    (repeats : mutation s = .ok (.noAppend value, s)) :
    mutateWithAtomicReceiptAtRevision J command pre check mutation s =
      .ok (.noAppend value, s) := by
  simp only [mutateWithAtomicReceiptAtRevision, available, ensure_true, ok_bind, found, repeats]

/-! The first execution of a claim. -/

/-- The operations, the events and the receipts of a store. -/
def Store.log (s : Store) : List OperationHistoryRecord × List NewOutboxEvent × List ReceiptRow :=
  (s.operationHistory.rows, s.outboxEvents.rows, s.receipts)

theorem supersedeContinuation_log {s s' : Store} {continuation : ContinuationRecord}
    {action : ActionBranchRecord} {occurredAt : Int} {workerId : Text} {jobLeaseExpiresAt : Int}
    (done : s.supersedeContinuationAndAction continuation action occurredAt workerId
      jobLeaseExpiresAt = .ok s') : s'.log = s.log := by
  simp only [Store.supersedeContinuationAndAction, bind_ok, Store.updateActionStatus,
    Store.closeJob] at done
  obtain ⟨s₁, superseded, s₂, ⟨s₃, branches, -, -, same⟩, -, -, closed⟩ := done
  cases same
  cases closed
  obtain ⟨-, rfl⟩ := updateContinuations_ok superseded
  cases updateBranches_ok branches
  rfl

/-- A claim that appends: it has drifted and supersedes its continuation, or it takes it. -/
inductive FirstClaim (K : FenceCrates) (command : ContinuationClaimCommand) (s : Store)
    (c : ContinuationRecord) (action : ActionBranchRecord) : ContinuationClaimOutcome → Store → Prop
  where
  | superseded {reason : ContinuationStaleReason} {s' : Store}
      (drifted : s.objectiveDrift c action .runnable = some reason)
      (fresh : ∀ e ∈ s.outboxEvents.rows, e.eventId ≠ command.outboxEvent.eventId)
      (log : s'.log = (s.operationHistory.rows, s.outboxEvents.rows ++ [command.outboxEvent],
        s.receipts ++ [receiptRowOf command.receipt])) :
      FirstClaim K command s c action (.superseded reason) s'
  | claimed {draft : ClaimDraft} {runtime : RuntimeLease} {d : DelegationRecord}
      {bundle : ResourceBundleDraft} {t u : Store}
      (current : s.objectiveDrift c action .runnable = none)
      (host : receiptRuntimeMismatch command.receipt runtime = false)
      (actor : command.receipt.actor = derivedRuntimeActor K runtime d.policyRevision)
      (sent : s.insertOutbox command.outboxEvent = .ok t)
      (formed : identityFromParts K c action command runtime d bundle = .ok draft.identity)
      (written : writeClaim command c action draft.identity bundle t = .ok (draft, u)) :
      FirstClaim K command s c action (.claimed draft)
        { u with receipts := u.receipts ++ [receiptRowOf command.receipt] }

theorem claimRunnable_appends {K : FenceCrates} {outside : ClaimOutside}
    {command : ContinuationClaimCommand} {c : ContinuationRecord} {s u : Store}
    {value : ClaimMutationOutcome} {outcome : ContinuationClaimOutcome}
    (done : claimRunnable K outside command c s = .ok (.append value, u))
    (mapped : claimOutcome (.appended value) = .ok outcome) :
    ∃ action, s.loadAction c.actionId = some action ∧ FirstClaim K command s c action outcome
      { u with receipts := u.receipts ++ [receiptRowOf command.receipt] } := by
  unfold claimRunnable at done
  split at done
  · cases done
  rename_i action found
  split at done
  · cases done
  simp only [bind_ok, ensure_ok] at done
  obtain ⟨-, host, d, -, -, actor, -, -, done⟩ := done
  refine ⟨action, found, ?_⟩
  split at done
  · rename_i reason drifted
    simp only [bind_ok] at done
    obtain ⟨-, -, s₁, sent, s₂, superseded, same⟩ := done
    cases same
    cases mapped
    obtain ⟨fresh, outboxEvents, rfl, rows⟩ := insertOutbox_rows sent
    have log := supersedeContinuation_log superseded
    simp only [Store.log, Prod.mk.injEq] at log
    refine .superseded drifted fresh ?_
    simp only [Store.log, log.1, log.2.1, log.2.2, rows]
  · rename_i current
    simp only [bind_ok] at done
    obtain ⟨-, -, _, -, done⟩ := done
    split at done
    · cases done
    · simp only [bind_ok] at done
      obtain ⟨s₁, sent, identity, formed, ⟨draft, t⟩, written, same⟩ := done
      cases same
      cases mapped
      obtain ⟨rfl, -⟩ := writeClaim_ok written
      exact .claimed current host actor sent formed written

theorem validateClaimCommand_receipt {K : FenceCrates} {command : ContinuationClaimCommand}
    {u : Unit} (valid : validateClaimCommand K command = .ok u) :
    command.receipt.causationEventId = command.outboxEvent.eventId := by
  simp only [validateClaimCommand, validateWriteOutboxReceipt, bind_ok, ensure_ok] at valid
  obtain ⟨-, -, -, -, -, -, -, ⟨-, -, -, -, -, -, -, -, -, -, bound⟩, -⟩ := valid
  exact bound.2.2.2.2.2.2.2.2.2.1

/-- Whether a claim changed the store. -/
def ContinuationClaimOutcome.committed : ContinuationClaimOutcome → Bool
  | .claimed _ => true
  | .superseded _ => true
  | _ => false

theorem claimContinuation_committed {K : FenceCrates} {J : Coordinator} {outside : ClaimOutside}
    {command : ContinuationClaimCommand} {outcome : ContinuationClaimOutcome} {s s' : Store}
    (done : claimContinuation K J outside command s = .ok (outcome, s'))
    (committed : outcome.committed = true) :
    validateClaimCommand K command = .ok () ∧
      s.receiptByCausationEvent command.outboxEvent.eventId = none ∧
      ∃ c action, s.getContinuation command.continuationId = some c ∧ c.status = .runnable ∧
        s.loadAction c.actionId = some action ∧ FirstClaim K command s c action outcome s' := by
  simp only [claimContinuation, bind_ok] at done
  obtain ⟨_, valid, ⟨written, t⟩, ran, _, mapped, same⟩ := done
  obtain ⟨rfl, rfl⟩ := Prod.mk.inj (Except.ok.inj same)
  rcases mutate_cases ran with ⟨rfl, -⟩ | ⟨value, -, rfl⟩ | ⟨value, next, -, step, rfl, rfl, -⟩
  · cases mapped
    cases committed
  · cases value <;> cases mapped <;> cases committed
  refine ⟨valid, ?_⟩
  unfold claimMutation at step
  split at step
  · split at step <;> cases step
  rename_i first
  refine ⟨first, ?_⟩
  split at step
  · cases step
  split at step
  · cases step
  split at step
  · cases step
  rename_i c found
  split at step
  · cases step
  split at step
  · cases step
  rename_i runnable
  obtain ⟨action, loaded, claims⟩ := claimRunnable_appends step mapped
  exact ⟨c, action, found, not_not.mp runnable, loaded, claims⟩

/-! The repetition of a claim. -/

/-- The answer of a repetition has the identity and the outcome of the first execution. -/
def ContinuationClaimOutcome.original (identity : ContinuationClaimIdentity)
    (status : ContinuationStatus) : ContinuationClaimOutcome → Prop
  | .claimed draft => identity = draft.identity ∧ status = .executing
  | .superseded _ => status = .superseded
  | _ => False

/-- A repetition answers `Replayed` with the original identity and outcome and changes no row,
whatever it finds outside of these tables. -/
def RepeatsClaim (K : FenceCrates) (command : ContinuationClaimCommand)
    (outcome : ContinuationClaimOutcome) (t : Store) : Prop :=
  ∀ J outside, J.available = true → ∃ identity status,
    claimContinuation K J outside command t = .ok (.replayed identity status, t) ∧
      outcome.original identity status

/-- The continuation of a claim has not drifted. -/
def ClaimCurrent (command : ContinuationClaimCommand) (s : Store) : Prop :=
  ∃ c action, s.getContinuation command.continuationId = some c ∧
    s.loadAction c.actionId = some action ∧ s.objectiveDrift c action .runnable = none

theorem claimContinuation_repeats {K : FenceCrates} {J : Coordinator} {outside : ClaimOutside}
    {command : ContinuationClaimCommand} {t : Store} {row : ReceiptRow} {value : ClaimMutationOutcome}
    {outcome : ContinuationClaimOutcome} (valid : validateClaimCommand K command = .ok ())
    (available : J.available = true)
    (found : t.receiptByCausationEvent command.outboxEvent.eventId = some row)
    (repeats : claimMutation K outside command t = .ok (.noAppend value, t))
    (mapped : claimOutcome (.noAppend value) = .ok outcome) :
    claimContinuation K J outside command t = .ok (outcome, t) := by
  have keyed := validateClaimCommand_receipt valid
  simp only [claimContinuation, valid, ok_bind, mutateWithAtomicReceipt]
  rw [mutate_repeats available (by rw [keyed]; exact found) repeats]
  simp only [ok_bind, mapped]

theorem loadClaimReplay_claimed {K : FenceCrates} {command : ContinuationClaimCommand}
    {c : ContinuationRecord} {action : ActionBranchRecord} {runtime : RuntimeLease}
    {d : DelegationRecord} {bundle : ResourceBundleDraft} {identity : ContinuationClaimIdentity}
    {h : OperationHistoryRecord} {row : ReceiptRow} {t : Store}
    (named : c.continuationId = command.continuationId)
    (host : receiptRuntimeMismatch command.receipt runtime = false)
    (actor : command.receipt.actor = derivedRuntimeActor K runtime d.policyRevision)
    (formed : identityFromParts K c action command runtime d bundle = .ok identity)
    (member : h ∈ t.operationHistory.rows) (event : h.eventId = command.outboxEvent.eventId)
    (claim : h.operation = .claim) (status : h.resultStatus = .executing)
    (identified : h.identity = identity) (sent : command.outboxEvent ∈ t.outboxEvents.rows)
    (found : t.receiptByCausationEvent command.outboxEvent.eventId = some row)
    (receipt : row.receiptId = command.receipt.receiptId) :
    loadClaimReplay t command = some (identity, .executing) := by
  have loaded := loadOperationHistory_of_mem member
  rw [event, claim] at loaded
  simp only [loadClaimReplay, loaded]
  simp only [identityFromParts, bind_ok] at formed
  obtain ⟨token, -, same⟩ := formed
  cases same
  simp only [receiptRuntimeMismatch, Bool.or_eq_false_iff, decide_eq_false_iff_not, ne_eq,
    not_not] at host
  rw [if_pos, identified, status]
  simp only [identified, status, named, found, Option.map_some, receipt, host, actor,
    Table.find?_of_mem sent, and_self]

/-- A claim answers its repetitions with the original outcome exactly where it had not drifted. -/
theorem repeatsClaim_iff {K : FenceCrates} {setDigest : ReservationSetDigest} {J : Coordinator}
    {outside : ClaimOutside} {command : ContinuationClaimCommand}
    {outcome : ContinuationClaimOutcome} {labels : List (Option WorkCommand)} {s s' t : Store}
    (fenced : ClaimsFenced s)
    (first : claimContinuation K J outside command s = .ok (outcome, s'))
    (committed : outcome.committed = true) (history : WorkHistory K setDigest s' labels t) :
    RepeatsClaim K command outcome t ↔ ClaimCurrent command s := by
  obtain ⟨valid, fresh, c, action, found, -, loaded, claims⟩ :=
    claimContinuation_committed first committed
  have keyed := validateClaimCommand_receipt valid
  have forward := workHistory_forward history
  cases claims with
  | superseded drifted unsent log =>
    simp only [Store.log, Prod.mk.injEq] at log
    constructor
    · intro repeats
      obtain ⟨identity, status, replayed, -⟩ := repeats ⟨true, true, true⟩ outside rfl
      -- The claim left no row of history, so its repetition finds none.
      have unrecorded : Unrecorded command.outboxEvent.eventId s' := by
        refine ⟨⟨command.outboxEvent, by rw [log.2.1]; simp, rfl⟩, fun h member same => ?_⟩
        rw [log.1] at member
        obtain ⟨e, present, event⟩ := fenced.sent h member
        exact unsent e present (event.trans same)
      have later := workHistory_unrecorded history unrecorded
      have receipt : s'.receiptByCausationEvent command.outboxEvent.eventId =
          some (receiptRowOf command.receipt) := by
        rw [Store.receiptByCausationEvent] at *
        rw [log.2.2, List.find?_append, fresh]
        simp [receiptRowOf, keyed]
      have lasting := receiptByCausationEvent_forward forward.receipts receipt
      have lost : claimMutation K outside command t =
          .ok (.noAppend (.lost .claimIdentityMismatch), t) := by
        simp only [claimMutation, lasting, loadClaimReplay,
          loadOperationHistory_unrecorded later]
      rw [claimContinuation_repeats valid rfl lasting lost rfl] at replayed
      cases replayed
    · rintro ⟨c', action', found', loaded', current⟩
      rw [found] at found'
      cases found'
      rw [loaded] at loaded'
      cases loaded'
      rw [drifted] at current
      cases current
  | claimed current host actor sent formed written =>
    rename_i draft runtime d bundle t₁ u
    refine ⟨fun _ => ⟨c, action, found, loaded, current⟩, fun _ J' outside' available => ?_⟩
    obtain ⟨-, outboxEvents, rfl, rows⟩ := insertOutbox_rows sent
    obtain ⟨-, outbox, receipts, ⟨h, event, claim, status, identified, appended⟩, -⟩ :=
      writeClaim_ok written
    have unread : u.receiptByCausationEvent command.outboxEvent.eventId = none := by
      rw [Store.receiptByCausationEvent, receipts]
      exact fresh
    have receipt := receiptByCausationEvent_append unread keyed
    have lasting := receiptByCausationEvent_forward forward.receipts receipt
    have member : h ∈ t.operationHistory.rows :=
      forward.operationHistory.subset (by rw [appended]; simp)
    have event' : command.outboxEvent ∈ t.outboxEvents.rows :=
      forward.outboxEvents.subset (by rw [outbox, rows]; simp)
    have replay := loadClaimReplay_claimed (Table.find?_key found) host actor formed member event
      claim status identified event' lasting rfl
    have repeats : claimMutation K outside' command t =
        .ok (.noAppend (.replayed draft.identity .executing), t) := by
      simp only [claimMutation, lasting, replay]
    exact ⟨draft.identity, .executing,
      claimContinuation_repeats valid available lasting repeats rfl, rfl, rfl⟩

end CarsinOS.Delegation
