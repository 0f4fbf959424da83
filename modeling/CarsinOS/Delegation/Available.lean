import CarsinOS.Delegation.Quota

/-! The resource check of a provider recovery, beside what the quota holds for the effect. -/
namespace CarsinOS.Delegation
open CarsinOS.Lib CarsinOS.Integrity CarsinOS.Receipt

/-- A requirement of an effect, with the snapshot of its set. -/
structure TechnicalResourceRequirementRow where
  logicalEffectId : Text
  quotaSnapshotId : Text
  technicalResourceKind : Text
  unit : Text
  amountRequired : Int

def TechnicalResourceRequirementRow.entry (requirement : TechnicalResourceRequirementRow) :
    Text × Text × Text :=
  (requirement.quotaSnapshotId, requirement.technicalResourceKind, requirement.unit)

def Store.technicalResourcesAvailable (s : Store)
    (requirements : List TechnicalResourceRequirementRow) (logicalEffectId : Text) : Bool :=
  !(requirements.any fun requirement => requirement.logicalEffectId = logicalEffectId &&
      match s.quotaEntries.find? requirement.entry with
      | none => true
      | some quota =>
        decide (quota.amountLimit < s.used requirement.entry + requirement.amountRequired)) &&
    !(s.reservations.rows.any fun row => row.identity.logicalEffectId = logicalEffectId &&
      row.status = .reconciliationRequired)

/-! The use of an entry by the effect and by others. -/

def Store.usedByOthers (s : Store) (logicalEffectId : Text) (entry : Text × Text × Text) : Int :=
  ((s.reservations.rows.filter fun row => Draws entry row.identity &&
    row.identity.logicalEffectId ≠ logicalEffectId).map s.charge).sum

/-- What the effect itself was recorded to have used. -/
def Store.ownActuals (s : Store) (logicalEffectId : Text) (entry : Text × Text × Text) : Int :=
  ((s.reservations.rows.filter fun row => (Draws entry row.identity &&
    row.identity.logicalEffectId = logicalEffectId) && row.status = .settled).map s.charge).sum

/-- Each requirement of the effect has room beside the use of the others and a use of its own. -/
def Store.Room (s : Store) (requirements : List TechnicalResourceRequirementRow)
    (logicalEffectId : Text) (own : Text × Text × Text → Int) : Prop :=
  ∀ requirement ∈ requirements, requirement.logicalEffectId = logicalEffectId →
    ∃ quota, s.quotaEntries.find? requirement.entry = some quota ∧
      s.usedByOthers logicalEffectId requirement.entry + own requirement.entry +
        requirement.amountRequired ≤ quota.amountLimit

/-- A reservation of the effect awaits a reconciliation. -/
def Store.AwaitsReconciliation (s : Store) (logicalEffectId : Text) : Prop :=
  ∃ row ∈ s.reservations.rows, row.identity.logicalEffectId = logicalEffectId ∧
    row.status = .reconciliationRequired

/-- A reservation of the effect is still held for its attempt. -/
def Store.HoldsReservation (s : Store) (logicalEffectId : Text) : Prop :=
  ∃ row ∈ s.reservations.rows, row.identity.logicalEffectId = logicalEffectId ∧
    row.status = .reserved

theorem sum_filter_split {α : Type} (p q : α → Bool) (f : α → Int) (items : List α) :
    ((items.filter p).map f).sum = ((items.filter fun a => p a && q a).map f).sum +
      ((items.filter fun a => p a && !q a).map f).sum := by
  induction items with
  | nil => rfl
  | cons a items ih =>
    cases left : p a <;> cases right : q a <;> simp [left, right, ih] <;> omega

theorem charge_nonneg {s : Store} (sound : ResourcesSound s)
    {row : TechnicalResourceReservationRecord} (member : row ∈ s.reservations.rows)
    (unsettled : row.status ≠ .settled) : 0 ≤ s.charge row := by
  have positive := sound.positive row member
  unfold Store.charge
  split
  · omega
  · omega
  · rename_i settled
    exact absurd settled unsettled
  · exact le_rfl
  · exact le_rfl

/-- The use of an entry is that of the others, the effect's own actuals, and what is held for it. -/
theorem used_split (s : Store) (logicalEffectId : Text) (entry : Text × Text × Text) :
    s.used entry = s.usedByOthers logicalEffectId entry + s.ownActuals logicalEffectId entry +
      ((s.reservations.rows.filter fun row => (Draws entry row.identity &&
        row.identity.logicalEffectId = logicalEffectId) && !decide (row.status = .settled)).map
          s.charge).sum := by
  have first := sum_filter_split (fun row : TechnicalResourceReservationRecord =>
    Draws entry row.identity) (fun row => row.identity.logicalEffectId = logicalEffectId) s.charge
    s.reservations.rows
  have second := sum_filter_split (fun row : TechnicalResourceReservationRecord =>
    Draws entry row.identity && row.identity.logicalEffectId = logicalEffectId)
    (fun row => row.status = .settled) s.charge s.reservations.rows
  have others : s.usedByOthers logicalEffectId entry = ((s.reservations.rows.filter fun row =>
      Draws entry row.identity && !decide (row.identity.logicalEffectId = logicalEffectId)).map
        s.charge).sum := by
    simp only [Store.usedByOthers, decide_not]
  rw [Store.used, first, second, others, Store.ownActuals]
  omega

theorem available_iff (s : Store) (requirements : List TechnicalResourceRequirementRow)
    (logicalEffectId : Text) :
    s.technicalResourcesAvailable requirements logicalEffectId = true ↔
      (∀ requirement ∈ requirements, requirement.logicalEffectId = logicalEffectId →
        ∃ quota, s.quotaEntries.find? requirement.entry = some quota ∧
          s.used requirement.entry + requirement.amountRequired ≤ quota.amountLimit) ∧
      ¬ s.AwaitsReconciliation logicalEffectId := by
  simp only [Store.technicalResourcesAvailable, Bool.and_eq_true, Bool.not_eq_true',
    List.any_eq_false, Bool.not_eq_true, decide_eq_false_iff_not,
    Store.AwaitsReconciliation, not_exists, not_and]
  refine and_congr ?_ ?_
  · refine forall₂_congr fun requirement _ => ?_
    rw [decide_eq_true_eq]
    refine imp_congr_right fun _ => ?_
    split
    · rename_i missing
      simp [missing]
    · rename_i quota found
      simp [found]
  · refine forall₂_congr fun row _ => ?_
    rw [decide_eq_true_eq]

/-- The answer never promises room that the use of the others and the effect's own actuals do not
leave. It is no while a reservation of the effect awaits a reconciliation, and where none is held
either it is exactly whether there is room. -/
theorem resources_available_room {K : FenceCrates} {setDigest : ReservationSetDigest}
    {labels : List (Option WorkCommand)} {s : Store}
    (reached : WorkHistory K setDigest Store.initial labels s)
    (requirements : List TechnicalResourceRequirementRow) (logicalEffectId : Text) :
    (s.technicalResourcesAvailable requirements logicalEffectId = true →
      s.Room requirements logicalEffectId (s.ownActuals logicalEffectId)) ∧
    (s.AwaitsReconciliation logicalEffectId →
      s.technicalResourcesAvailable requirements logicalEffectId = false) ∧
    (¬ s.AwaitsReconciliation logicalEffectId → ¬ s.HoldsReservation logicalEffectId →
      (s.technicalResourcesAvailable requirements logicalEffectId = true ↔
        s.Room requirements logicalEffectId (s.ownActuals logicalEffectId))) := by
  have sound := workHistory_sound reached initial_sound
  have answer := available_iff s requirements logicalEffectId
  have atLeast (entry : Text × Text × Text) : s.usedByOthers logicalEffectId entry +
      s.ownActuals logicalEffectId entry ≤ s.used entry := by
    rw [used_split s logicalEffectId entry]
    have held : 0 ≤ ((s.reservations.rows.filter fun row => (Draws entry row.identity &&
        row.identity.logicalEffectId = logicalEffectId) && !decide (row.status = .settled)).map
          s.charge).sum := by
      apply List.sum_nonneg
      intro amount inside
      obtain ⟨row, member, rfl⟩ := List.mem_map.mp inside
      simp only [List.mem_filter, Bool.and_eq_true, Bool.not_eq_true', decide_eq_false_iff_not]
        at member
      exact charge_nonneg sound member.1 member.2.2
    omega
  refine ⟨?_, ?_, ?_⟩
  · intro available requirement member own
    obtain ⟨quota, found, within⟩ := (answer.mp available).1 requirement member own
    have least := atLeast requirement.entry
    exact ⟨quota, found, by omega⟩
  · intro awaits
    rw [← Bool.not_eq_true]
    exact fun available => (answer.mp available).2 awaits
  · intro settled free
    have whole (entry : Text × Text × Text) : s.used entry =
        s.usedByOthers logicalEffectId entry + s.ownActuals logicalEffectId entry := by
      rw [used_split s logicalEffectId entry]
      have nothing : ((s.reservations.rows.filter fun row => (Draws entry row.identity &&
          row.identity.logicalEffectId = logicalEffectId) && !decide (row.status = .settled)).map
            s.charge).sum = 0 := by
        apply List.sum_eq_zero
        intro amount inside
        obtain ⟨row, member, rfl⟩ := List.mem_map.mp inside
        simp only [List.mem_filter, Bool.and_eq_true, Bool.not_eq_true', decide_eq_false_iff_not,
          decide_eq_true_eq] at member
        obtain ⟨stored, ⟨-, own⟩, unsettled⟩ := member
        unfold Store.charge
        split
        · rename_i reserved
          exact absurd ⟨row, stored, own, reserved⟩ free
        · rename_i awaits
          exact absurd ⟨row, stored, own, awaits⟩ settled
        · rename_i settled
          exact absurd settled unsettled
        · rfl
        · rfl
      omega
    rw [answer, and_iff_left settled]
    simp only [Store.Room, whole]

/-! An attempt that failed for certain, and one whose outcome is unknown. -/

/-- The crates where every text is valid JSON. -/
def trustingCrates : FenceCrates := { sampleCrates with validJson := fun _ => true }

def sampleObservation (kind : RecorderEvidenceResult) (attempt : ProviderAttemptRecord) :
    RecorderObservation where
  recordDigest := "record".toList
  sequence := 1
  kind
  source := .execution
  attemptId := attempt.attemptId
  logicalEffectId := "e".toList
  providerIdentity := []
  providerVersion := []
  providerRequestDigest := attempt.providerRequestDigest
  providerIdempotencyKeyDigest := none
  reconciliationKeyDigest := none
  remoteEffectId := none
  responseDigest := some "response".toList
  providerErrorClass := none
  technicalResourceActuals := []
  reconciliationWindowStart := none
  observedAt := 10

def sampleImport (kind : RecorderEvidenceResult) (identity : ContinuationClaimIdentity)
    (attempt : ProviderAttemptRecord) : ReconcileRecorderEvidenceCommand where
  write := sampleWrite "record".toList 10
  claimIdentity := identity
  trustedNow := 10
  verifiedEvidence := ⟨sampleObservation kind attempt, [], [], 10⟩
  outboxEvent := sampleEvent "record".toList "d".toList
    (canonicalImportPayload (sampleObservation kind attempt))
    .continuationClaimedOrResultRecorded 2 10
  receipt := { sampleReceipt "record".toList "d".toList .continuation
      ⟨.continuation, "c".toList, 2⟩ 2 10 with
    actor := ⟨"runtime".toList, identity.runtimeActorIdentity,
      identity.runtimeAuthorityProvenanceId⟩ }

/-- The requirement of the effect fills its entry. -/
def sampleRequirement : TechnicalResourceRequirementRow :=
  ⟨"e".toList, "q".toList, "requests".toList, "count".toList, 1⟩

/-- The attempt of the confirmed effect, up to the import of its evidence. -/
def importedAttempt (kind : RecorderEvidenceResult) : Anyhow Store := do
  let s ← runAll trustingCrates sampleDigest confirmedEffect Store.initial
  let s ← s.insertQuotaEntry sampleQuota
  ensure (Beside Store.initial s) ""
  let (claimed, s) ← claimContinuation trustingCrates sampleCoordinator effectClaimOutside
    effectClaim s
  let identity ← required "" (claimedIdentity claimed)
  let (prepared, s) ← prepareProviderAttempt trustingCrates sampleDigest ⟨identity, 8, none⟩ s
  let attempt ← required "" (preparedAttempt prepared)
  let (_, s) ← beginProviderAttemptInvocation trustingCrates sampleDigest
    ⟨identity, attempt.attemptId, 9⟩ s
  let (_, s) ← reconcileRecorderEvidence trustingCrates sampleCoordinator sampleDigest
    ⟨granted, granted, true⟩ (sampleImport kind identity attempt) s
  .ok s

theorem importedAttempt_reached {kind : RecorderEvidenceResult} {s : Store}
    (imported : importedAttempt kind = .ok s) :
    ∃ labels, WorkHistory trustingCrates sampleDigest Store.initial labels s := by
  simp only [importedAttempt, bind_ok, ensure_ok, required_ok] at imported
  obtain ⟨_, -, s₁, -, -, beside, ⟨claimed, s₂⟩, claims, identity, -, ⟨prepared, s₃⟩, prepares,
    attempt, -, ⟨_, s₄⟩, begins, ⟨_, s₅⟩, imports, same⟩ := imported
  cases same
  have founded : WorkHistory trustingCrates sampleDigest Store.initial [none] s₁ :=
    Run.snoc (.nil _) (.beside beside)
  have claim := founded.snoc
    (.command (c := .claim ..) (map_snd_ok.mpr ⟨_, claims⟩))
  have prepared := claim.snoc (.command (c := .prepareAttempt _) (map_snd_ok.mpr ⟨_, prepares⟩))
  have began := prepared.snoc (.command (c := .beginAttempt _) (map_snd_ok.mpr ⟨_, begins⟩))
  exact ⟨_, began.snoc (.command (c := .importEvidence ..) (map_snd_ok.mpr ⟨_, imports⟩))⟩

/-- The one reservation of the store is the effect's own, in this status, its latest attempt is at
its end, and the check says no. -/
def refusedWith (status : ReservationStatus) (s : Store) : Bool :=
  (s.reservations.rows.map fun row => (row.identity, row.status)) = [(sampleReservation, status)] &&
    s.quotaEntries.find? sampleRequirement.entry = some sampleQuota &&
    (s.latestAttempt "e".toList).any (·.status.isTerminal) &&
    !s.technicalResourcesAvailable [sampleRequirement] "e".toList

theorem imported_refused : (∃ s, importedAttempt .absent = .ok s ∧ refusedWith .reserved s = true) ∧
    ∃ s, importedAttempt .unknown = .ok s ∧ refusedWith .reconciliationRequired s = true := by
  have run : (do
      let s ← importedAttempt .absent
      ensure (refusedWith .reserved s = true) ""
      let s ← importedAttempt .unknown
      ensure (refusedWith .reconciliationRequired s = true) "" : Anyhow Unit) = .ok () := by
    simp only [importedAttempt, trustingCrates, effectClaim, effectClaimOutside, sampleClaim,
      sampleDigest, sampleCrates_fast]
    decide +kernel
  simp only [bind_ok, ensure_ok] at run
  obtain ⟨held, first, _, refused, awaiting, second, also⟩ := run
  exact ⟨⟨held, first, refused⟩, awaiting, second, also⟩

/-- Beside the one reservation of the effect there is room for its requirement. -/
theorem refused_room {status : ReservationStatus} {s : Store}
    (refused : refusedWith status s = true) :
    s.technicalResourcesAvailable [sampleRequirement] "e".toList = false ∧
      s.Room [sampleRequirement] "e".toList fun _ => 0 := by
  simp only [refusedWith, Bool.and_eq_true, Bool.not_eq_true', decide_eq_true_eq] at refused
  obtain ⟨⟨⟨rows, found⟩, -⟩, no⟩ := refused
  refine ⟨no, fun requirement member _ => ?_⟩
  obtain rfl := List.mem_singleton.mp member
  refine ⟨sampleQuota, found, ?_⟩
  obtain ⟨row, others, same⟩ : ∃ row, s.reservations.rows = [row] ∧
      (row.identity, row.status) = (sampleReservation, status) := by
    obtain ⟨row, only, same⟩ := List.map_eq_singleton_iff.mp rows
    exact ⟨row, only, same⟩
  have own : row.identity = sampleReservation := congrArg Prod.fst same
  have nothing : s.usedByOthers "e".toList sampleRequirement.entry = 0 := by
    rw [Store.usedByOthers, others, List.filter_cons_of_neg, List.filter_nil]
    · rfl
    · rw [own]
      decide
  rw [nothing]
  decide

/-- The check refuses the retry of a certain failure, whose own reservation it counts beside its
requirement, and every retry under a reservation that awaits a reconciliation, though the others
leave room. -/
theorem own_reservation_refuses : ∃ held awaiting,
    (∃ labels, WorkHistory trustingCrates sampleDigest Store.initial labels held) ∧
    (∃ labels, WorkHistory trustingCrates sampleDigest Store.initial labels awaiting) ∧
    refusedWith .reserved held = true ∧ refusedWith .reconciliationRequired awaiting = true ∧
    ∀ s ∈ [held, awaiting],
      ¬ (s.technicalResourcesAvailable [sampleRequirement] "e".toList = true ↔
        s.Room [sampleRequirement] "e".toList fun _ => 0) := by
  obtain ⟨⟨held, first, refused⟩, awaiting, second, also⟩ := imported_refused
  refine ⟨held, awaiting, importedAttempt_reached first, importedAttempt_reached second, refused,
    also, ?_⟩
  intro s member same
  have either : ∃ status, refusedWith status s = true := by
    rcases List.mem_cons.mp member with rfl | rest
    · exact ⟨_, refused⟩
    · exact ⟨_, List.mem_singleton.mp rest ▸ also⟩
  obtain ⟨no, room⟩ := refused_room either.choose_spec
  rw [same.mpr room] at no
  cases no

/-- Before the claim the requirement has room. -/
theorem resources_available_room_sample : ∃ s,
    (∃ labels, WorkHistory trustingCrates sampleDigest Store.initial labels s) ∧
      s.technicalResourcesAvailable [sampleRequirement] "e".toList = true := by
  have run : (do
      let s ← Store.initial.insertQuotaEntry sampleQuota
      ensure (Beside Store.initial s) ""
      ensure (s.quotaEntries.find? sampleRequirement.entry = some sampleQuota ∧
        s.reservations.rows.length = 0) "" : Anyhow Unit) = .ok () := by decide +kernel
  simp only [bind_ok, ensure_ok] at run
  obtain ⟨s, -, -, beside, found, unreserved⟩ := run
  have reached : WorkHistory trustingCrates sampleDigest Store.initial [none] s :=
    Run.snoc (.nil _) (.beside beside)
  have empty := List.length_eq_zero_iff.mp unreserved
  obtain ⟨-, -, exactly⟩ := resources_available_room reached [sampleRequirement] "e".toList
  refine ⟨s, ⟨_, reached⟩, (exactly ?_ ?_).mpr ?_⟩
  · rintro ⟨row, member, -⟩
    rw [empty] at member
    cases member
  · rintro ⟨row, member, -⟩
    rw [empty] at member
    cases member
  · intro requirement member _
    obtain rfl := List.mem_singleton.mp member
    refine ⟨sampleQuota, found, ?_⟩
    simp only [Store.usedByOthers, Store.ownActuals, empty, List.filter_nil, List.map_nil,
      List.sum_nil]
    decide

end CarsinOS.Delegation
