import CarsinOS.Delegation.Fence

/-! The commands on the store, the runs they make, and what every run keeps of the fence. -/
namespace CarsinOS.Delegation
open CarsinOS.Lib CarsinOS.Integrity CarsinOS.Receipt

variable {guarded : Prop}

/-- A delegation's run control moves to a stop, or back to running. -/
def Moved (d d' : DelegationRecord) : Prop :=
  d.runControl = .running ∧ d'.runControl = .stopRequested ∨
    d.runControl = .stopped ∧ d'.runControl = .running

instance (d d' : DelegationRecord) : Decidable (Moved d d') := by
  unfold Moved
  infer_instance

/-- The stop epoch counts these moves. A bare compare-and-swap, `swaps`, leaves it. -/
def CountsStops (swaps : Bool) (d d' : DelegationRecord) : Prop :=
  d'.stopEpoch = d.stopEpoch + if swaps = false ∧ Moved d d' then 1 else 0

theorem not_moved {d d' : DelegationRecord} (same : d'.runControl = d.runControl) : ¬Moved d d' := by
  unfold Moved
  rw [same]
  rintro (⟨running, stopping⟩ | ⟨stopped, running⟩)
  · rw [running] at stopping
    cases stopping
  · rw [stopped] at running
    cases running

theorem countsStops_same {swaps : Bool} {d d' : DelegationRecord}
    (control : d'.runControl = d.runControl) (epoch : d'.stopEpoch = d.stopEpoch) :
    CountsStops swaps d d' := by
  simp [CountsStops, not_moved control, epoch]

/-- What a command may change of the delegations and of the global control. -/
structure Progress (swaps : Bool) (s s' : Store) : Prop where
  delegations : ∀ d ∈ s.delegations.rows, ∃ d' ∈ s'.delegations.rows,
    d'.delegationId = d.delegationId ∧ d.stateRevision ≤ d'.stateRevision ∧ CountsStops swaps d d'
  control : s'.globalControl.globalStopEpoch = s.globalControl.globalStopEpoch +
    if s.globalControl.engaged = false ∧ s'.globalControl.engaged = true then 1 else 0

/-- A step that keeps the fence, and progresses under it. -/
def Sound (guarded : Prop) (swaps : Bool) (s s' : Store) : Prop :=
  Fenced guarded s → Fenced guarded s' ∧ Progress swaps s s'

theorem Progress.of_eq {swaps : Bool} {s s' : Store} (delegations : s'.delegations = s.delegations)
    (control : s'.globalControl.globalStopEpoch = s.globalControl.globalStopEpoch)
    (engaged : s'.globalControl.engaged = s.globalControl.engaged) : Progress swaps s s' := by
  constructor
  · intro d member
    exact ⟨d, by rw [delegations]; exact member, rfl, le_rfl, countsStops_same rfl rfl⟩
  · rw [control, engaged]
    cases s.globalControl.engaged <;> simp

theorem Quiet.sound {swaps : Bool} {s s' : Store} (quiet : Quiet guarded s s') :
    Sound guarded swaps s s' := fun fenced =>
  ⟨quiet.fenced fenced, .of_eq quiet.delegations (by rw [quiet.control]) (by rw [quiet.control])⟩

theorem Quiet.then {swaps : Bool} {s t u : Store} (quiet : Quiet guarded s t)
    (sound : Sound guarded swaps t u) : Sound guarded swaps s u := by
  intro fenced
  obtain ⟨fenced', progress⟩ := sound (quiet.fenced fenced)
  refine ⟨fenced', ?_, ?_⟩
  · rw [← quiet.delegations]
    exact progress.delegations
  · rw [← quiet.control]
    exact progress.control

theorem Sound.then {swaps : Bool} {s t u : Store} (sound : Sound guarded swaps s t)
    (quiet : Quiet guarded t u) : Sound guarded swaps s u := by
  intro fenced
  obtain ⟨fenced', progress⟩ := sound fenced
  refine ⟨quiet.fenced fenced', ?_, ?_⟩
  · rw [quiet.delegations]
    exact progress.delegations
  · rw [quiet.control]
    exact progress.control

/-- An update of delegations whose rows count their stops. -/
theorem updateDelegations_sound {swaps : Bool} {s s' : Store} {p : DelegationRecord → Bool}
    {f : DelegationRecord → DelegationRecord}
    {keeps : ∀ row, (f row).delegationId = row.delegationId}
    (done : s.updateDelegations p f keeps = .ok s')
    (counts : ∀ d ∈ s.delegations.rows, p d = true → CountsStops swaps d (f d)) :
    Sound guarded swaps s s' := by
  intro fenced
  refine ⟨updateDelegations_fenced done fenced, ?_⟩
  obtain ⟨monotonic, rfl⟩ := updateDelegations_ok done
  constructor
  · intro d present
    refine ⟨_, updated_row p keeps present, ?_⟩
    split
    · rename_i hit
      obtain ⟨-, -, moved | ⟨kept, -⟩⟩ := monotonic d present hit
      · exact ⟨keeps d, le_of_lt moved, counts d present hit⟩
      · exact ⟨keeps d, le_of_eq kept.symm, counts d present hit⟩
    · exact ⟨rfl, le_rfl, countsStops_same rfl rfl⟩
  · simp

theorem advanceDelegation_ok {s s' : Store} {p : DelegationRecord → Bool}
    {f : DelegationRecord → DelegationRecord}
    {keeps : ∀ row, (f row).delegationId = row.delegationId} {lost : String}
    (done : s.advanceDelegation p f keeps lost = .ok s') :
    s.updateDelegations p f keeps = .ok s' ∧ ∃ d ∈ s.delegations.rows, p d = true := by
  simp only [Store.advanceDelegation, bind_ok, ensure_ok] at done
  obtain ⟨next, updated, -, matched, same⟩ := done
  cases same
  refine ⟨updated, ?_⟩
  have hit : 0 < s.delegations.rows.countP p := by
    have one : s.delegations.rows.countP p = 1 := matched
    omega
  exact List.countP_pos_iff.mp hit

theorem updated_hit {s s' : Store} {p : DelegationRecord → Bool}
    {f : DelegationRecord → DelegationRecord}
    {keeps : ∀ row, (f row).delegationId = row.delegationId}
    (done : s.updateDelegations p f keeps = .ok s') {current : DelegationRecord}
    (present : current ∈ s.delegations.rows) (hit : p current = true) :
    f current ∈ s'.delegations.rows := by
  obtain ⟨-, rfl⟩ := updateDelegations_ok done
  have row := updated_row p keeps present
  rwa [if_pos hit] at row

/-- The rows of one delegation after an update that hits its row. -/
theorem updated_live {s s' : Store} {p : DelegationRecord → Bool}
    {f : DelegationRecord → DelegationRecord}
    {keeps : ∀ row, (f row).delegationId = row.delegationId}
    (done : s.updateDelegations p f keeps = .ok s') {current : DelegationRecord}
    (present : current ∈ s.delegations.rows) (hit : p current = true) {d : DelegationRecord}
    (member : d ∈ s'.delegations.rows) (owner : d.delegationId = current.delegationId) :
    d = f current :=
  Table.eq_of_key member (updated_hit done present hit) (owner.trans (keeps current).symm)

theorem getDelegation_unique {s : Store} {id : Text} {current d : DelegationRecord}
    (found : s.getDelegation id = some current) (member : d ∈ s.delegations.rows)
    (owner : d.delegationId = current.delegationId) : d = current :=
  Table.eq_of_key member (Table.find?_mem found) owner

/-! The mutation under a receipt. -/

theorem mutate_cases {T : Type} {J : Coordinator} {command : AppendReceiptCommand} {pre : Int}
    {check : Bool} {mutation : Store → Anyhow (AtomicReceiptMutation T × Store)} {s s' : Store}
    {written : AtomicWrite T}
    (done : mutateWithAtomicReceiptAtRevision J command pre check mutation s = .ok (written, s')) :
    written = .stale ∧ s' = s ∨
      (∃ value, mutation s = .ok (.noAppend value, s') ∧ written = .noAppend value) ∨
      ∃ value next d, mutation s = .ok (.append value, next) ∧ written = .appended value ∧
        s' = { next with receipts := next.receipts ++ [receiptRowOf command] } ∧
        s.getDelegation command.delegationId = some d ∧ d.stateRevision = pre := by
  simp only [mutateWithAtomicReceiptAtRevision, bind_ok, ensure_ok] at done
  obtain ⟨-, -, done⟩ := done
  split at done
  · simp only [bind_ok] at done
    obtain ⟨⟨mutated, next⟩, ran, done⟩ := done
    cases mutated with
    | noAppend value =>
      cases done
      exact .inr (.inl ⟨value, ran, rfl⟩)
    | append value => cases done
  · split at done
    · cases done
    · rename_i before found
      split at done
      · cases done
        exact .inl ⟨rfl, rfl⟩
      · simp only [bind_ok] at done
        obtain ⟨⟨mutated, next⟩, ran, done⟩ := done
        cases mutated with
        | noAppend value =>
          cases done
          exact .inr (.inl ⟨value, ran, rfl⟩)
        | append value =>
          simp only at done
          split at done
          · cases done
            exact .inl ⟨rfl, rfl⟩
          · rename_i matched
            split at done
            · cases done
            · simp only [bind_ok, ensure_ok] at done
              obtain ⟨-, -, -, -, done⟩ := done
              cases done
              simp only [Bool.not_eq_false, Bool.and_eq_true, decide_eq_true_eq] at matched
              exact .inr (.inr ⟨value, next, before, ran, rfl, rfl, found, matched.1⟩)

theorem receipts_quiet (s : Store) (rows : List ReceiptRow) :
    Quiet guarded s { s with receipts := rows } := .of_eq rfl rfl rfl rfl

theorem mutate_sound {T : Type} {J : Coordinator} {command : AppendReceiptCommand} {pre : Int}
    {check swaps : Bool} {mutation : Store → Anyhow (AtomicReceiptMutation T × Store)}
    {s s' : Store} {written : AtomicWrite T}
    (done : mutateWithAtomicReceiptAtRevision J command pre check mutation s = .ok (written, s'))
    (sound : ∀ m t, mutation s = .ok (m, t) → Sound guarded swaps s t) :
    Sound guarded swaps s s' := by
  rcases mutate_cases done with ⟨-, rfl⟩ | ⟨value, ran, -⟩ | ⟨value, next, -, ran, -, rfl, -⟩
  · exact (Quiet.refl _).sound
  · exact sound _ _ ran
  · exact (sound _ _ ran).then (receipts_quiet _ _)

end CarsinOS.Delegation
