import Mathlib.Algebra.Order.BigOperators.Group.List
import CarsinOS.Delegation.Retry
import CarsinOS.Delegation.ClaimFencing

/-! The technical quota over whole histories: what is reserved and what was used stays within the
limit of every entry. -/
namespace CarsinOS.Delegation
open CarsinOS.Lib CarsinOS.Integrity CarsinOS.Receipt

def QuotaEntryRecord.entry (row : QuotaEntryRecord) : Text × Text × Text :=
  (row.quotaSnapshotId, row.technicalResourceKind, row.unit)

def TechnicalResourceReservationIdentity.entry (identity : TechnicalResourceReservationIdentity) :
    Text × Text × Text :=
  (identity.quotaSnapshotId, identity.technicalResourceKind, identity.unit)

/-- The technical resources are sound: every reservation draws on an entry, no entry is overdrawn,
and the actuals are those of the settled reservations, one for each. -/
structure ResourcesSound (s : Store) : Prop where
  drawn : ∀ row ∈ s.reservations.rows, ∃ quota ∈ s.quotaEntries.rows,
    quota.entry = row.identity.entry
  positive : ∀ row ∈ s.reservations.rows, 0 < row.identity.amountReserved
  within : ∀ quota ∈ s.quotaEntries.rows, s.used quota.entry ≤ quota.amountLimit
  recorded : ∀ actual ∈ s.actuals.rows, ∃ row ∈ s.reservations.rows,
    row.identity.reservationId = actual.reservationId ∧ row.status = .settled ∧
      actual.amountActual ≤ row.identity.amountReserved
  single : (s.actuals.rows.map (·.reservationId)).Nodup
  settled : ∀ row ∈ s.reservations.rows, row.status = .settled →
    ∃ actual ∈ s.actuals.rows, actual.reservationId = row.identity.reservationId

theorem ResourcesSound.of_eq {s s' : Store} (sound : ResourcesSound s)
    (reservations : s'.reservations = s.reservations) (actuals : s'.actuals = s.actuals)
    (quotaEntries : s'.quotaEntries = s.quotaEntries) : ResourcesSound s' := by
  have used : ∀ entry, s'.used entry = s.used entry := by
    intro entry
    have charge : s'.charge = s.charge := by
      funext row
      simp only [Store.charge, actuals]
    simp only [Store.used, reservations, charge]
  obtain ⟨drawn, positive, within, recorded, single, settled⟩ := sound
  constructor
  · rwa [reservations, quotaEntries]
  · rwa [reservations]
  · intro quota member
    rw [used]
    exact within quota (quotaEntries ▸ member)
  · rwa [reservations, actuals]
  · rwa [actuals]
  · rwa [reservations, actuals]

/-- An update that changes no identity and raises no charge raises no use. -/
theorem used_le {s s' : Store}
    {g : TechnicalResourceReservationRecord → TechnicalResourceReservationRecord}
    (rows : s'.reservations.rows = s.reservations.rows.map g)
    (keeps : ∀ row, (g row).identity = row.identity)
    (lowers : ∀ row ∈ s.reservations.rows, s'.charge (g row) ≤ s.charge row)
    (entry : Text × Text × Text) : s'.used entry ≤ s.used entry := by
  simp only [Store.used, rows, List.filter_map, List.map_map]
  have same : ((fun row => Draws entry row.identity) ∘ g) =
      fun row : TechnicalResourceReservationRecord => Draws entry row.identity := by
    funext row
    simp only [Function.comp, keeps]
  rw [same]
  apply List.sum_le_sum
  intro row member
  exact lowers row (List.mem_of_mem_filter member)

/-- The charge of a row depends on the actuals of its reservation only. -/
theorem charge_congr {s s' : Store} {row : TechnicalResourceReservationRecord}
    (same : row.status = .settled →
      s'.actuals.rows.filter (·.reservationId = row.identity.reservationId) =
        s.actuals.rows.filter (·.reservationId = row.identity.reservationId)) :
    s'.charge row = s.charge row := by
  unfold Store.charge
  split <;> try rfl
  rename_i settled
  rw [same settled]

theorem insertReservation_sound {s s' : Store} {row : TechnicalResourceReservationRecord}
    (fresh : row.status = .reserved) (done : s.insertReservation row = .ok s')
    (sound : ResourcesSound s) : ResourcesSound s' := by
  simp only [Store.insertReservation, bind_ok, ensure_ok] at done
  obtain ⟨-, -, -, opened, -, capacity, -, ⟨positive, -⟩, -, -, rest⟩ := done
  split at rest <;> cases rest
  rename_i reservations inserted
  have rows := Table.insert?_rows inserted
  obtain ⟨quota, found⟩ := Option.isSome_iff_exists.mp opened
  have entry : quota.entry = row.identity.entry := Table.find?_key found
  constructor
  · intro other member
    rw [rows, List.mem_append, List.mem_singleton] at member
    rcases member with old | rfl
    · exact sound.drawn other old
    · exact ⟨quota, Table.find?_mem found, entry⟩
  · intro other member
    rw [rows, List.mem_append, List.mem_singleton] at member
    rcases member with old | rfl
    · exact sound.positive other old
    · exact positive
  · intro limit member
    have held := sound.within limit member
    have after : Store.used { s with reservations } limit.entry =
        s.used limit.entry +
          if row.identity.entry = limit.entry then row.identity.amountReserved else 0 := by
      simp only [Store.used, rows, List.filter_append, List.map_append, List.sum_append]
      congr 1
      by_cases draws : row.identity.entry = limit.entry
      · have hit : Draws limit.entry row.identity = true := decide_eq_true draws
        simp [hit, draws, Store.charge, fresh]
      · have miss : Draws limit.entry row.identity = false := decide_eq_false draws
        simp [miss, draws]
    rw [after]
    split
    · rename_i draws
      have same : limit = quota :=
        Table.eq_of_key member (Table.find?_mem found) (draws.symm.trans entry.symm)
      subst same
      have room := capacity limit found
      have use : s.used limit.entry = s.used row.identity.entry := by rw [draws]
      rw [TechnicalResourceReservationIdentity.entry] at use
      omega
    · omega
  · intro actual member
    obtain ⟨other, present, named, settled, amount⟩ := sound.recorded actual member
    exact ⟨other, by rw [rows]; exact List.mem_append_left _ present, named, settled, amount⟩
  · exact sound.single
  · intro other member settled
    rw [rows, List.mem_append, List.mem_singleton] at member
    rcases member with old | rfl
    · exact sound.settled other old settled
    · rw [fresh] at settled
      cases settled

theorem insertResourceReservations_sound {s s' : Store} {claim : ContinuationClaimIdentity}
    {identities : List TechnicalResourceReservationIdentity} {createdAt : Int}
    (done : s.insertResourceReservations claim identities createdAt = .ok s')
    (sound : ResourcesSound s) : ResourcesSound s' := by
  unfold Store.insertResourceReservations at done
  induction identities generalizing s with
  | nil =>
    cases done
    exact sound
  | cons identity identities ih =>
    rw [List.foldlM_cons, bind_ok] at done
    obtain ⟨t, inserted, rest⟩ := done
    exact ih rest (insertReservation_sound rfl inserted sound)

/-- The only reservations a claim writes are those of its bundle. -/
theorem writeClaim_reserves {command : ContinuationClaimCommand}
    {continuation : ContinuationRecord} {action : ActionBranchRecord}
    {identity : ContinuationClaimIdentity} {bundle : ResourceBundleDraft} {draft : ClaimDraft}
    {s s' : Store}
    (done : writeClaim command continuation action identity bundle s = .ok (draft, s')) :
    ∃ s₁ s₂ : Store, s₁.insertResourceReservations identity bundle.identities command.write.occurredAt =
        .ok s₂ ∧
      (s₁.reservations = s.reservations ∧ s₁.actuals = s.actuals ∧
        s₁.quotaEntries = s.quotaEntries) ∧
      s'.reservations = s₂.reservations ∧ s'.actuals = s₂.actuals ∧
        s'.quotaEntries = s₂.quotaEntries := by
  simp only [writeClaim, bind_ok, ensure_ok] at done
  obtain ⟨s₁, recorded, s₂, reserved, s₃, claimed, s₄, updated, -, -, s₅, moved, _, -, _, -, same⟩ :=
    done
  obtain ⟨-, rfl⟩ := Prod.mk.inj (Except.ok.inj same)
  obtain ⟨_, -, -, rfl⟩ := insertOperationHistory_ok recorded
  refine ⟨_, s₂, reserved, ⟨rfl, rfl, rfl⟩, ?_⟩
  have effects : s₃.reservations = s₂.reservations ∧ s₃.actuals = s₂.actuals ∧
      s₃.quotaEntries = s₂.quotaEntries := by
    unfold Store.claimLogicalEffect at claimed
    split at claimed
    · cases claimed
      exact ⟨rfl, rfl, rfl⟩
    · simp only [bind_ok] at claimed
      obtain ⟨-, -, same⟩ := claimed
      cases same
      exact ⟨rfl, rfl, rfl⟩
  obtain ⟨-, rfl⟩ := updateContinuations_ok updated
  simp only [Store.updateActionStatus, bind_ok] at moved
  obtain ⟨t, branches, -, -, same⟩ := moved
  cases same
  cases updateBranches_ok branches
  exact effects

theorem writeClaim_sound {command : ContinuationClaimCommand} {continuation : ContinuationRecord}
    {action : ActionBranchRecord} {identity : ContinuationClaimIdentity}
    {bundle : ResourceBundleDraft} {draft : ClaimDraft} {s s' : Store}
    (done : writeClaim command continuation action identity bundle s = .ok (draft, s'))
    (sound : ResourcesSound s) : ResourcesSound s' := by
  obtain ⟨s₁, s₂, reserved, ⟨reservations, actuals, quota⟩, reservations', actuals', quota'⟩ :=
    writeClaim_reserves done
  have held := insertResourceReservations_sound reserved (sound.of_eq reservations actuals quota)
  exact held.of_eq reservations' actuals' quota'

/-- A status changes from `reserved` or from `reconciliation_required`. -/
theorem next_live {old new : ReservationStatus} (moves : new ∈ old.next) :
    old = .reserved ∨ old = .reconciliationRequired := by
  cases old <;> simp [ReservationStatus.next] at moves ⊢

theorem charge_live {s : Store} {row : TechnicalResourceReservationRecord}
    (live : row.status = .reserved ∨ row.status = .reconciliationRequired) :
    s.charge row = row.identity.amountReserved := by
  unfold Store.charge
  rcases live with status | status <;> rw [status]

theorem charge_le {s : Store} {row : TechnicalResourceReservationRecord}
    (unsettled : row.status ≠ .settled) (positive : 0 < row.identity.amountReserved) :
    s.charge row ≤ row.identity.amountReserved := by
  unfold Store.charge
  split
  · exact le_rfl
  · exact le_rfl
  · rename_i settled
    exact (unsettled settled).elim
  · omega
  · omega

/-- A change to another status than `settled` frees what was reserved, or keeps it. -/
theorem move_sound {s s' : Store} {id : Text} {old new : ReservationStatus}
    {settledAt : Option Int} {lost : String} (unsettled : new ≠ .settled)
    (done : s.moveReservation id old new settledAt lost = .ok s') (sound : ResourcesSound s) :
    ResourcesSound s' := by
  obtain ⟨reservations, rfl, rows, moved, -, -, status, listed, -⟩ := moveReservation_ok done
  have live := next_live (status ▸ listed)
  -- A moved row was not settled and is not settled now.
  have older : ∀ row ∈ reservations.rows, ∃ row₀ ∈ s.reservations.rows,
      row.identity = row₀.identity ∧ (row.status = .settled → row₀.status = .settled) := by
    intro row member
    rw [rows, List.mem_map] at member
    obtain ⟨row₀, present, rfl⟩ := member
    refine ⟨row₀, present, ?_⟩
    split
    · exact ⟨rfl, fun settled => (unsettled settled).elim⟩
    · exact ⟨rfl, fun settled => settled⟩
  constructor
  · intro row member
    obtain ⟨row₀, present, same, -⟩ := older row member
    rw [same]
    exact sound.drawn row₀ present
  · intro row member
    obtain ⟨row₀, present, same, -⟩ := older row member
    rw [same]
    exact sound.positive row₀ present
  · intro quota member
    refine (used_le rows (fun row => by split <;> rfl) (fun row present => ?_) _).trans
      (sound.within quota member)
    split
    · rename_i hit
      have held : s.charge row = row.identity.amountReserved :=
        charge_live (by rw [hit.2]; exact live)
      rw [held]
      exact charge_le unsettled (sound.positive row present)
    · exact le_rfl
  · intro actual member
    obtain ⟨row, present, named, settled, amount⟩ := sound.recorded actual member
    refine ⟨row, ?_, named, settled, amount⟩
    rw [rows, List.mem_map]
    refine ⟨row, present, if_neg fun hit => ?_⟩
    rw [settled] at hit
    rcases live with status | status <;> rw [← hit.2] at status <;> cases status
  · exact sound.single
  · intro row member settled
    obtain ⟨row₀, present, same, was⟩ := older row member
    rw [same]
    exact sound.settled row₀ present (was settled)

/-- The actual of a live reservation settles it, for no more than was reserved. -/
theorem consume_sound {s t s' : Store} {actual : TechnicalResourceActualRecord}
    {old : ReservationStatus} {settledAt : Option Int} {lost : String}
    (inserted : s.insertActual actual = .ok t)
    (done : t.moveReservation actual.reservationId old .settled settledAt lost = .ok s')
    (sound : ResourcesSound s) : ResourcesSound s' := by
  obtain ⟨⟨live, present, ⟨names, -⟩, status, amount⟩, -, unique, actuals, rfl, added⟩ :=
    insertActual_ok inserted
  obtain ⟨reservations, rfl, rows, moved, member, named, was, -⟩ := moveReservation_ok done
  obtain rfl : live = moved := Table.eq_of_key present member (names.symm.trans named.symm)
  have hits : ∀ row ∈ s.reservations.rows, row.identity.reservationId = actual.reservationId →
      row = live := fun row stored same => Table.eq_of_key stored present (same.trans names)
  -- The actuals of any other reservation are what they were.
  have others : ∀ id, id ≠ actual.reservationId → actuals.rows.filter (·.reservationId = id) =
      s.actuals.rows.filter (·.reservationId = id) := by
    intro id other
    rw [added, List.filter_append]
    simp [other.symm]
  have own : actuals.rows.filter (·.reservationId = actual.reservationId) = [actual] := by
    rw [added, List.filter_append, List.filter_eq_nil_iff.mpr (by simpa using unique)]
    simp
  have older : ∀ row ∈ reservations.rows, ∃ row₀ ∈ s.reservations.rows,
      row.identity = row₀.identity ∧ (row.status = .settled →
        row₀.identity.reservationId = actual.reservationId ∨ row₀.status = .settled) := by
    intro row stored
    rw [rows, List.mem_map] at stored
    obtain ⟨row₀, stored, rfl⟩ := stored
    refine ⟨row₀, stored, ?_⟩
    split
    · rename_i hit
      exact ⟨rfl, fun _ => .inl hit.1⟩
    · exact ⟨rfl, fun settled => .inr settled⟩
  constructor
  · intro row stored
    obtain ⟨row₀, stored, same, -⟩ := older row stored
    rw [same]
    exact sound.drawn row₀ stored
  · intro row stored
    obtain ⟨row₀, stored, same, -⟩ := older row stored
    rw [same]
    exact sound.positive row₀ stored
  · intro quota stored
    refine (used_le rows (fun row => by split <;> rfl) (fun row stored => ?_) _).trans
      (sound.within quota stored)
    split
    · rename_i hit
      obtain rfl := hits row stored hit.1
      rw [charge_live status]
      simp only [Store.charge, hit.1, own, List.map_cons, List.map_nil, List.sum_cons, List.sum_nil,
        add_zero]
      exact amount
    · rename_i missed
      refine (charge_congr fun settled => ?_).le
      refine others _ fun same => missed ⟨same, ?_⟩
      obtain rfl := hits row stored same
      exact was
  · intro other stored
    simp only [added, List.mem_append, List.mem_singleton] at stored
    rcases stored with before | rfl
    · obtain ⟨row, held, same, settled, bound⟩ := sound.recorded other before
      refine ⟨row, ?_, same, settled, bound⟩
      simp only [rows, List.mem_map]
      refine ⟨row, held, if_neg fun hit => ?_⟩
      exact unique other before (same.symm.trans hit.1)
    · refine ⟨{ live with status := .settled, settledAt }, ?_, names.symm, rfl, amount⟩
      simp only [rows, List.mem_map]
      exact ⟨live, present, if_pos ⟨names.symm, was⟩⟩
  · simp only [added, List.map_append, List.map_cons, List.map_nil, List.nodup_append,
      List.nodup_singleton, true_and]
    refine ⟨sound.single, fun id stored other same => ?_⟩
    rw [List.mem_singleton] at same
    obtain ⟨a, held, rfl⟩ := List.mem_map.mp stored
    rw [same]
    exact unique a held
  · intro row stored settled
    obtain ⟨row₀, stored, same, cases⟩ := older row stored
    rw [same]
    rcases cases settled with mine | before
    · exact ⟨actual, by rw [added]; simp, mine.symm⟩
    · obtain ⟨a, held, named'⟩ := sound.settled row₀ stored before
      exact ⟨a, by rw [added]; exact List.mem_append_left _ held, named'⟩

theorem write_sound {s s' : Store} (write : Write s s') (sound : ResourcesSound s) :
    ResourcesSound s' := by
  cases write with
  | aside other => exact sound.of_eq other.reservations other.actuals other.quotaEntries
  | event done =>
    obtain ⟨_, rfl⟩ := insertOutbox_ok done
    exact sound.of_eq rfl rfl rfl
  | record follows named sent done =>
    obtain ⟨_, rfl⟩ := insertOutbox_ok sent
    obtain ⟨_, -, -, rfl⟩ := insertOperationHistory_ok done
    exact sound.of_eq rfl rfl rfl
  | leave left done =>
    obtain ⟨-, rfl⟩ := updateContinuations_ok done
    exact sound.of_eq rfl rfl rfl
  | claim found runnable next named sent done =>
    obtain ⟨_, rfl⟩ := insertOutbox_ok sent
    exact writeClaim_sound done (sound.of_eq rfl rfl rfl)
  | consume recorded done => exact consume_sound recorded done sound
  | move unsettled done => exact move_sound unsettled done sound

/-- An entry that is opened has no reservations yet. -/
theorem opened_sound {s s' : Store} (reservations : s'.reservations = s.reservations)
    (actuals : s'.actuals = s.actuals) (opened : s.quotaEntries.rows <+: s'.quotaEntries.rows)
    (limits : ∀ entry ∈ s'.quotaEntries.rows, 0 ≤ entry.amountLimit) (sound : ResourcesSound s) :
    ResourcesSound s' := by
  have used : ∀ entry, s'.used entry = s.used entry := by
    intro entry
    have charge : s'.charge = s.charge := by
      funext row
      simp only [Store.charge, actuals]
    simp only [Store.used, reservations, charge]
  constructor
  · rw [reservations]
    intro row member
    obtain ⟨quota, present, entry⟩ := sound.drawn row member
    exact ⟨quota, opened.subset present, entry⟩
  · rw [reservations]
    exact sound.positive
  · intro quota member
    rw [used]
    by_cases old : quota ∈ s.quotaEntries.rows
    · exact sound.within quota old
    · have none : s.reservations.rows.filter (fun row => Draws quota.entry row.identity) = [] := by
        rw [List.filter_eq_nil_iff]
        intro row stored draws
        obtain ⟨quota₀, present, entry⟩ := sound.drawn row stored
        have same : row.identity.entry = quota.entry := of_decide_eq_true draws
        have sole := Table.eq_of_key (opened.subset present) member (entry.trans same)
        exact old (sole ▸ present)
      simp only [Store.used, none, List.map_nil, List.sum_nil]
      exact limits quota member
  · rw [reservations, actuals]
    exact sound.recorded
  · rw [actuals]
    exact sound.single
  · rw [reservations, actuals]
    exact sound.settled

theorem beside_sound {s s' : Store} (other : Beside s s') (sound : ResourcesSound s) :
    ResourcesSound s' :=
  opened_sound other.reservations other.actuals other.quotaEntries other.limits sound

theorem initial_sound : ResourcesSound Store.initial := by
  refine ⟨?_, ?_, ?_, ?_, List.nodup_nil, ?_⟩ <;> intro row member <;> cases member

theorem workHistory_sound {K : FenceCrates} {setDigest : ReservationSetDigest} {s t : Store}
    {labels : List (Option WorkCommand)} (history : WorkHistory K setDigest s labels t)
    (sound : ResourcesSound s) : ResourcesSound t :=
  workHistory_keeps (fun _ _ write => write_sound write) (fun _ _ other => beside_sound other)
    history sound

/-- What may become of a reservation: its identity stays, and its status moves on only. -/
def StatusesAdvance (s s' : Store) : Prop :=
  ∀ row ∈ s.reservations.rows, ∃ row' ∈ s'.reservations.rows, row'.identity = row.identity ∧
    (row'.status = row.status ∨ row'.status ∈ row.status.next)

theorem next_trans {a b c : ReservationStatus} (first : b = a ∨ b ∈ a.next)
    (second : c = b ∨ c ∈ b.next) : c = a ∨ c ∈ a.next := by
  revert first second
  cases a <;> cases b <;> cases c <;> decide

theorem StatusesAdvance.trans {s t u : Store} (first : StatusesAdvance s t)
    (second : StatusesAdvance t u) : StatusesAdvance s u := by
  intro row member
  obtain ⟨row', member', same, status⟩ := first row member
  obtain ⟨row'', member'', same', status'⟩ := second row' member'
  exact ⟨row'', member'', same'.trans same, next_trans status status'⟩

theorem StatusesAdvance.of_eq {s s' : Store} (same : s'.reservations = s.reservations) :
    StatusesAdvance s s' :=
  fun row member => ⟨row, same ▸ member, rfl, .inl rfl⟩

theorem move_advances {s s' : Store} {id : Text} {old new : ReservationStatus}
    {settledAt : Option Int} {lost : String}
    (done : s.moveReservation id old new settledAt lost = .ok s') : StatusesAdvance s s' := by
  obtain ⟨reservations, rfl, rows, moved, -, -, status, listed, -⟩ := moveReservation_ok done
  intro row member
  refine ⟨_, by rw [rows]; exact List.mem_map.mpr ⟨row, member, rfl⟩, ?_⟩
  split
  · rename_i hit
    rw [status, ← hit.2] at listed
    exact ⟨rfl, .inr listed⟩
  · exact ⟨rfl, .inl rfl⟩

theorem insertResourceReservations_advances {s s' : Store} {claim : ContinuationClaimIdentity}
    {identities : List TechnicalResourceReservationIdentity} {createdAt : Int}
    (done : s.insertResourceReservations claim identities createdAt = .ok s') :
    StatusesAdvance s s' := by
  unfold Store.insertResourceReservations at done
  induction identities generalizing s with
  | nil =>
    cases done
    exact .of_eq rfl
  | cons identity identities ih =>
    rw [List.foldlM_cons, bind_ok] at done
    obtain ⟨t, inserted, rest⟩ := done
    refine StatusesAdvance.trans ?_ (ih rest)
    simp only [Store.insertReservation, bind_ok] at inserted
    obtain ⟨-, -, -, -, -, -, -, -, -, -, inserted⟩ := inserted
    split at inserted <;> cases inserted
    rename_i reservations added
    intro row member
    exact ⟨row, by rw [Table.insert?_rows added]; exact List.mem_append_left _ member, rfl, .inl rfl⟩

theorem write_advances {s s' : Store} (write : Write s s') : StatusesAdvance s s' := by
  cases write with
  | aside other => exact .of_eq other.reservations
  | event done =>
    obtain ⟨_, rfl⟩ := insertOutbox_ok done
    exact .of_eq rfl
  | record follows named sent done =>
    obtain ⟨_, rfl⟩ := insertOutbox_ok sent
    obtain ⟨_, -, -, rfl⟩ := insertOperationHistory_ok done
    exact .of_eq rfl
  | leave left done =>
    obtain ⟨-, rfl⟩ := updateContinuations_ok done
    exact .of_eq rfl
  | claim found runnable next named sent done =>
    obtain ⟨_, rfl⟩ := insertOutbox_ok sent
    obtain ⟨s₁, s₂, reserved, ⟨before, -⟩, after, -⟩ := writeClaim_reserves done
    intro row member
    obtain ⟨row', member', rest⟩ :=
      insertResourceReservations_advances reserved row (before ▸ member)
    exact ⟨row', after ▸ member', rest⟩
  | consume recorded done =>
    obtain ⟨-, -, -, actuals, rfl, -⟩ := insertActual_ok recorded
    have advances := move_advances done
    exact advances
  | move unsettled done => exact move_advances done

theorem workHistory_advances {K : FenceCrates} {setDigest : ReservationSetDigest} {s t : Store}
    {labels : List (Option WorkCommand)} (history : WorkHistory K setDigest s labels t) :
    StatusesAdvance s t :=
  workHistory_keeps (fun _ _ write held => held.trans (write_advances write))
    (fun _ _ other held => held.trans (.of_eq other.reservations)) history (.of_eq rfl)

/-- A reservation has its actual: one, for no more than it reserved. -/
def HasActual (s : Store) (row : TechnicalResourceReservationRecord) : Prop :=
  ∃ actual, s.actuals.rows.filter (·.reservationId = row.identity.reservationId) = [actual] ∧
    actual.amountActual ≤ row.identity.amountReserved

theorem settled_iff {s : Store} (sound : ResourcesSound s)
    {row : TechnicalResourceReservationRecord} (member : row ∈ s.reservations.rows) :
    row.status = .settled ↔ HasActual s row := by
  constructor
  · intro settled
    obtain ⟨actual, present, named⟩ := sound.settled row member settled
    obtain ⟨row₀, stored, same, -, amount⟩ := sound.recorded actual present
    obtain rfl : row₀ = row := Table.eq_of_key stored member (same.trans named)
    refine ⟨actual, ?_, amount⟩
    rw [← named]
    exact filter_key sound.single present
  · rintro ⟨actual, only, -⟩
    have present : actual ∈ s.actuals.rows.filter
        (·.reservationId = row.identity.reservationId) := by rw [only]; exact List.mem_singleton_self _
    obtain ⟨stored, named⟩ := List.mem_filter.mp present
    obtain ⟨row₀, held, same, settled, -⟩ := sound.recorded actual stored
    obtain rfl : row₀ = row :=
      Table.eq_of_key held member (same.trans (of_decide_eq_true named))
    exact settled

/-- In every history of the fence no entry of a quota is overdrawn, a reservation is settled where it
has its one actual and nowhere else, and its status only moves on. -/
theorem quota_never_exceeded {K : FenceCrates} {setDigest : ReservationSetDigest}
    {labels : List (Option WorkCommand)} {s : Store}
    (reached : WorkHistory K setDigest Store.initial labels s) :
    (∀ quota ∈ s.quotaEntries.rows, s.used quota.entry ≤ quota.amountLimit) ∧
      (∀ row ∈ s.reservations.rows, row.status = .settled ↔ HasActual s row) ∧
      ∀ labels t, WorkHistory K setDigest s labels t → StatusesAdvance s t := by
  have sound := workHistory_sound reached initial_sound
  refine ⟨sound.within, fun row member => settled_iff sound member, fun labels t history => ?_⟩
  exact workHistory_advances history

/-- A claim that reserves the whole of its entry. -/
theorem quota_never_exceeded_sample : ∃ s, (∃ labels,
      WorkHistory sampleCrates sampleDigest Store.initial labels s) ∧
    s.reservations.rows.length = 1 ∧ sampleQuota ∈ s.quotaEntries.rows ∧
    s.used sampleQuota.entry ≤ sampleQuota.amountLimit := by
  have run : (do
      let s ← runAll sampleCrates sampleDigest confirmedEffect Store.initial
      let s ← s.insertQuotaEntry sampleQuota
      ensure (Beside Store.initial s) ""
      let (_, s) ← claimContinuation sampleCrates sampleCoordinator effectClaimOutside effectClaim s
      ensure (s.reservations.rows.length = 1 ∧ sampleQuota ∈ s.quotaEntries.rows) ""
        : Anyhow Unit) = .ok () := by
    rw [effectClaim, effectClaimOutside, sampleClaim, sampleDigest, sampleCrates_fast]
    decide +kernel
  simp only [bind_ok, ensure_ok] at run
  obtain ⟨_, -, s₁, -, -, beside, ⟨claimed, s₂⟩, claims, reserved, opened⟩ := run
  have founded : WorkHistory sampleCrates sampleDigest Store.initial [none] s₁ :=
    Run.snoc (.nil _) (.beside beside)
  have claim : (WorkCommand.claim sampleCoordinator effectClaimOutside effectClaim).run sampleCrates
      sampleDigest s₁ = .ok s₂ := map_snd_ok.mpr ⟨_, claims⟩
  have reached := Run.snoc founded (.command claim)
  exact ⟨s₂, ⟨_, reached⟩, reserved, opened, (quota_never_exceeded reached).1 _ opened⟩

end CarsinOS.Delegation
