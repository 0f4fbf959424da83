import CarsinOS.Routine.Trigger
import CarsinOS.Delegation.Histories
import CarsinOS.Manifest.Request

/-! An occurrence of a routine is admitted at most once, and only under the authority it was saved
with. -/
namespace CarsinOS.Routine
open CarsinOS.Lib CarsinOS.Actor CarsinOS.Manifest CarsinOS.Danger CarsinOS.Integrity
open CarsinOS.Confirmation CarsinOS.Delegation

section Admitted
variable {C : Crates} {validJson : Text → Bool} {S : SerdeJson}

/-! What one admission finds and leaves. -/

structure Attempt where
  request : RoutineAdmissionRequest
  manifest : CanonicalLeafManifest
  proof : DangerAdmissionProof
  outside : AdmissionOutside

/-- The request and the manifest have the form an admission asks for. -/
structure Attempt.Formed (a : Attempt) : Prop where
  checked : checkRequest a.request = .ok ()
  sole : ∃ leaf, a.manifest.leaves = [leaf]

/-- A live trigger lease, exactly bound to the occurrence. -/
structure Triggered (db : Db) (request : RoutineAdmissionRequest)
    (occurrence : RoutineOccurrenceRecord) (job : TriggerJob) : Prop where
  row : job ∈ db.jobs.rows
  bound : (occurrence.occurrenceId, job.jobId) ∈ db.jobBindings
  requested : job.jobId = request.triggerJobId
  payload : job.payloadJson = routineTriggerPayload occurrence
  owner : job.leaseOwner = some request.triggerLeaseOwner
  expiry : job.leaseExpiresAt = some request.triggerLeaseExpiresAt
  live : request.trustedNow < request.triggerLeaseExpiresAt
  kept : job.deleted = false
  kind : job.scheduleKind = EXECASS_ROUTINE_TRIGGER_SCHEDULE_KIND
  enabled : job.enabled = true

/-- The pinned grant of a dangerous leaf is active and covers it. -/
def GrantCovers (C : Crates) (db : Db) (a : Attempt) (version : RoutineVersionRecord)
    (leaf : CanonicalLeafAction) : Prop :=
  ∃ assessment grantId grant binding,
    (a.proof.routesInManifestOrder.head?.bind fun route => confirmationForLeaf route leaf) =
      some assessment ∧
    version.acceptedConfirmationGrantId = some grantId ∧ db.grants.find? grantId = some grant ∧
    exactBindingWithSavedParts C version.normalizedOriginalIntent a.manifest leaf
      assessment.declaredConsequence (some ⟨version.routineId, version.savedSelectorJson⟩) =
        .ok binding ∧
    Covers grant version.sourceDelegationId binding

/-- What stands at the commit of an admission. -/
structure Pinned (C : Crates) (db : Db) (a : Attempt) (occurrence : RoutineOccurrenceRecord)
    (version : RoutineVersionRecord) (routine : RoutineRow) (leaf : CanonicalLeafAction) : Prop where
  stored : db.occurrences.find? a.request.occurrenceId = some occurrence
  unsettled : occurrence.status = .planned ∨ occurrence.status = .admissionPlanned
  pinned : db.versions.find? (occurrence.routineId, occurrence.routineVersion) = some version
  owned : db.routines.find? occurrence.routineId = some routine
  enabled : routine.enabled = true
  current : routine.currentVersion = occurrence.routineVersion
  running : db.store.globalControl.engaged = false
  policy : db.store.globalControl.currentPolicyRevision = version.effectivePolicyRevision
  reserved : occurrence.effectivePolicyRevision = version.effectivePolicyRevision
  trigger : ∃ job, Triggered db a.request occurrence job
  sole : a.manifest.leaves = [leaf]
  saved : SavedLeaf C occurrence version leaf
  signed : a.outside.signed = .ok ()
  routed : ∃ state, validateForManifest a.proof a.manifest = .ok state ∧
    (state = .requiresOneConfirmation → GrantCovers C db a version leaf)

/-- What an admission writes. -/
structure Committed (db db' : Db) (a : Attempt) (delegationId : Text) : Prop where
  fresh : db.store.getDelegation delegationId = none
  created : (db'.store.getDelegation delegationId).isSome = true
  settled : ∃ row, db'.occurrences.find? a.request.occurrenceId = some row ∧
    row.status = .settled ∧ row.admittedDelegationId = some delegationId
  ended : ∃ job, db'.jobs.find? a.request.triggerJobId = some job ∧ job.enabled = false ∧
    job.nextRunAt = none ∧ job.leaseOwner = none ∧ job.leaseExpiresAt = none

theorem refusal_none {db : Db} {request : RoutineAdmissionRequest}
    {occurrence : RoutineOccurrenceRecord} {version : RoutineVersionRecord} {routine : RoutineRow}
    (allowed : refusal db request occurrence version routine = none) :
    routine.enabled = true ∧ routine.currentVersion = occurrence.routineVersion ∧
      db.store.globalControl.engaged = false ∧ policyChanged db occurrence version = false ∧
      triggerMatches db request occurrence = true := by
  unfold refusal at allowed
  split at allowed
  · cases allowed
  · rename_i enabled
    split at allowed
    · cases allowed
    · rename_i current
      split at allowed
      · cases allowed
      · rename_i running
        split at allowed
        · cases allowed
        · rename_i policy
          split at allowed
          · cases allowed
          · rename_i trigger
            exact ⟨by simpa using enabled, by simpa using current, by simpa using running,
              by simpa using policy, by simpa using trigger⟩

theorem triggerMatches_job {db : Db} {request : RoutineAdmissionRequest}
    {occurrence : RoutineOccurrenceRecord} (found : triggerMatches db request occurrence = true) :
    ∃ job, Triggered db request occurrence job := by
  obtain ⟨job, member, accepted⟩ := List.any_eq_true.mp found
  simp only [leased, Bool.and_eq_true, decide_eq_true_eq, List.contains_iff_mem,
    Bool.not_eq_true'] at accepted
  obtain ⟨⟨⟨⟨⟨⟨⟨⟨bound, requested⟩, payload⟩, owner⟩, expiry⟩, live⟩, kept⟩, kind⟩, enabled⟩ :=
    accepted
  exact ⟨job, member, bound, requested, payload, owner, expiry, live, kept, kind, enabled⟩

theorem policyChanged_false {db : Db} {occurrence : RoutineOccurrenceRecord}
    {version : RoutineVersionRecord} (same : policyChanged db occurrence version = false) :
    db.store.globalControl.currentPolicyRevision = version.effectivePolicyRevision ∧
      occurrence.effectivePolicyRevision = version.effectivePolicyRevision := by
  simp only [policyChanged, Bool.or_eq_false_iff, decide_eq_false_iff_not, not_not] at same
  exact ⟨same.1, same.2.trans same.1⟩

theorem verifyDangerAdmission_ok {outside : AdmissionOutside} {proof : DangerAdmissionProof}
    {manifest : CanonicalLeafManifest} {state : DangerAdmissionState}
    (verified : verifyDangerAdmission outside proof manifest = .ok state) :
    outside.signed = .ok () ∧ validateForManifest proof manifest = .ok state := by
  obtain ⟨⟨⟩, signed, rest⟩ := bind_ok.mp verified
  refine ⟨signed, ?_⟩
  cases valid : validateForManifest proof manifest with
  | ok found =>
    rw [valid] at rest
    exact congrArg Except.ok (Except.ok.inj rest)
  | error e =>
    rw [valid] at rest
    cases rest

theorem requireConfirmation_covers {db : Db} {a : Attempt} {version : RoutineVersionRecord}
    {leaf : CanonicalLeafAction}
    (done : requireConfirmation C db version a.manifest leaf a.proof .requiresOneConfirmation =
      .ok ()) : GrantCovers C db a version leaf := by
  obtain ⟨assessment, disclosed, rest⟩ := bind_ok.mp done
  obtain ⟨pinned, required, -⟩ := bind_ok.mp rest
  obtain ⟨_, -, rest⟩ := bind_ok.mp required
  obtain ⟨grantId, named, rest⟩ := bind_ok.mp rest
  obtain ⟨binding, bound, rest⟩ := bind_ok.mp rest
  obtain ⟨grant, found, rest⟩ := bind_ok.mp rest
  obtain ⟨_, covered, -⟩ := bind_ok.mp rest
  exact ⟨assessment, grantId, grant, binding, required_ok.mp disclosed, required_ok.mp named,
    required_ok.mp found, bound, covers_iff.mp (ensure_ok.mp covered)⟩

/-! The writes of an admission. -/

theorem found_ok {db founded : Db} {outside : FoundationOutside} {version : RoutineVersionRecord}
    {command : CreateFoundationCommand} (done : db.found outside version command = .ok founded) :
    db.store.getDelegation command.delegation.delegationId = none ∧
      (founded.store.getDelegation command.delegation.delegationId).isSome = true ∧
      founded.occurrences = db.occurrences ∧ founded.jobs = db.jobs := by
  obtain ⟨⟨outcome, store⟩, created, rest⟩ := bind_ok.mp done
  obtain ⟨_, fresh, rest⟩ := bind_ok.mp rest
  cases Except.ok.inj rest
  cases outcome with
  | replayed => cases fresh
  | conflict => cases fresh
  | created d =>
    unfold createFoundationInTx at created
    split at created
    · split at created
      · obtain ⟨_, -, replayed⟩ := bind_ok.mp created
        cases Except.ok.inj replayed
      · cases created
    · split at created
      · cases created
      · rename_i clear
        obtain ⟨_, -, created⟩ := bind_ok.mp created
        obtain ⟨_, -, created⟩ := bind_ok.mp created
        obtain ⟨_, -, created⟩ := bind_ok.mp created
        obtain ⟨_, -, created⟩ := bind_ok.mp created
        obtain ⟨_, -, created⟩ := bind_ok.mp created
        obtain ⟨last, -, created⟩ := bind_ok.mp created
        obtain ⟨d, stored, created⟩ := bind_ok.mp created
        obtain ⟨-, rfl⟩ := Prod.mk.inj (Except.ok.inj created)
        refine ⟨?_, ?_, rfl, rfl⟩
        · simp only [not_or] at clear
          simpa using clear.1
        · rw [required_ok.mp stored]
          rfl

theorem insertOperation_ok {db next : Db} {row : TriggerOperationRow}
    (done : db.insertOperation row = .ok next) :
    next.occurrences = db.occurrences ∧ next.jobs = db.jobs ∧ next.store = db.store := by
  obtain ⟨_, -, rest⟩ := bind_ok.mp done
  split at rest
  · cases rest
    exact ⟨rfl, rfl, rfl⟩
  · cases rest

/-- The one row an update hits is found under its key, as the update leaves it. -/
theorem updateOccurrences_ok {db next : Db} {hit : RoutineOccurrenceRecord → Bool}
    {f : RoutineOccurrenceRecord → RoutineOccurrenceRecord}
    {keeps : ∀ row, (f row).occurrenceId = row.occurrenceId}
    (done : db.updateOccurrences hit f keeps = .ok next) :
    next = { db with occurrences := db.occurrences.update hit f keeps } := by
  obtain ⟨_, -, rest⟩ := bind_ok.mp done
  exact (Except.ok.inj rest).symm

/-- The settled occurrences stay as they are. -/
def Kept (db next : Db) : Prop :=
  ∀ row ∈ db.occurrences.rows, row.status = .settled → row ∈ next.occurrences.rows

theorem Kept.of_eq {db next : Db} (same : next.occurrences = db.occurrences) : Kept db next := by
  intro row member _
  rw [same]
  exact member

theorem Kept.trans {db next last : Db} (first : Kept db next) (second : Kept next last) :
    Kept db last :=
  fun row member settled => second row (first row member settled) settled

theorem updateOccurrences_kept {db next : Db} {hit : RoutineOccurrenceRecord → Bool}
    {f : RoutineOccurrenceRecord → RoutineOccurrenceRecord}
    {keeps : ∀ row, (f row).occurrenceId = row.occurrenceId}
    (done : db.updateOccurrences hit f keeps = .ok next)
    (spared : ∀ row, row.status = .settled → hit row = false) : Kept db next := by
  intro row member settled
  rw [updateOccurrences_ok done]
  change row ∈ (db.occurrences.update hit f keeps).rows
  rw [Table.mem_update]
  exact ⟨row, member, by simp [spared row settled]⟩

theorem endJobs_ok {db next : Db} {hit : TriggerJob → Bool} {trustedNow : Int}
    (done : db.endJobs hit trustedNow = .ok next) :
    next = { db with jobs := db.jobs.update hit (endJob trustedNow) fun _ => rfl } := by
  obtain ⟨_, -, rest⟩ := bind_ok.mp done
  exact (Except.ok.inj rest).symm

theorem updateOccurrences_once {db next : Db} {hit : RoutineOccurrenceRecord → Bool}
    {f : RoutineOccurrenceRecord → RoutineOccurrenceRecord}
    {keeps : ∀ row, (f row).occurrenceId = row.occurrenceId} {id : Text}
    (done : db.updateOccurrences hit f keeps = .ok next)
    (named : ∀ row, hit row = true → row.occurrenceId = id) (once : db.occurrences.matched hit = 1) :
    ∃ row, next.occurrences.find? id = some (f row) := by
  obtain ⟨row, -, -, found⟩ := Table.updated_once keeps named once
  rw [updateOccurrences_ok done]
  exact ⟨row, found⟩

theorem endJobs_once {db next : Db} {hit : TriggerJob → Bool} {trustedNow : Int} {id : Text}
    (done : db.endJobs hit trustedNow = .ok next) (named : ∀ job, hit job = true → job.jobId = id)
    (once : db.jobs.matched hit = 1) :
    ∃ job, next.jobs.find? id = some (endJob trustedNow job) := by
  obtain ⟨job, -, -, found⟩ := @Table.updated_once _ _ _ _ _ _ _ (endJob trustedNow) (fun _ => rfl) named once
  rw [endJobs_ok done]
  exact ⟨job, found⟩

theorem settle_ok {db next : Db} {request : RoutineAdmissionRequest}
    {occurrence : RoutineOccurrenceRecord} {manifest : CanonicalLeafManifest} {delegationId : Text}
    (done : db.settle C request occurrence manifest delegationId = .ok next) :
    next.store = db.store ∧
      (∃ row, next.occurrences.find? occurrence.occurrenceId = some row ∧ row.status = .settled ∧
        row.admittedDelegationId = some delegationId) ∧
      (∃ job, next.jobs.find? request.triggerJobId = some job ∧ job.enabled = false ∧
        job.nextRunAt = none ∧ job.leaseOwner = none ∧ job.leaseExpiresAt = none) ∧
      Kept db next := by
  obtain ⟨recorded, inserted, rest⟩ := bind_ok.mp done
  obtain ⟨sameRows, sameJobs, sameStore⟩ := insertOperation_ok inserted
  obtain ⟨settled, updated, rest⟩ := bind_ok.mp rest
  obtain ⟨ended, closed, rest⟩ := bind_ok.mp rest
  obtain ⟨_, once, rest⟩ := bind_ok.mp rest
  cases Except.ok.inj rest
  have kept : Kept recorded settled := updateOccurrences_kept updated fun row settled => by
    simp [settled]
  obtain ⟨oneRow, oneJob⟩ := ensure_ok.mp once
  have jobs : settled.jobs = recorded.jobs := by
    rw [updateOccurrences_ok updated]
  obtain ⟨row, row_found⟩ := @updateOccurrences_once _ _ _ _ _ occurrence.occurrenceId updated
    (fun row hit => by
      simp only [Bool.and_eq_true, decide_eq_true_eq] at hit
      exact hit.1.1) oneRow
  obtain ⟨job, job_found⟩ := @endJobs_once _ _ _ _ request.triggerJobId closed
    (fun job hit => by
      simp only [Bool.and_eq_true, decide_eq_true_eq] at hit
      exact hit.1.1) (jobs ▸ oneJob)
  rw [endJobs_ok closed] at job_found ⊢
  refine ⟨?_, ⟨_, row_found, rfl, rfl⟩, ⟨_, job_found, rfl, rfl, rfl, rfl⟩, ?_⟩
  · rw [updateOccurrences_ok updated]
    exact sameStore
  · exact (Kept.of_eq sameRows).trans kept

/-! One admission. -/

theorem soleLeaf_ok {manifest : CanonicalLeafManifest} {leaf : CanonicalLeafAction}
    (sole : soleLeaf manifest = .ok leaf) : manifest.leaves = [leaf] := by
  unfold soleLeaf at sole
  split at sole
  · rename_i only leaves
    cases sole
    exact leaves
  · cases sole

theorem admitOccurrence_ok {db next : Db} {a : Attempt} {occurrence : RoutineOccurrenceRecord}
    {version : RoutineVersionRecord} {leaf : CanonicalLeafAction}
    {outcome : RoutineOccurrenceDispatchOutcome}
    (named : occurrence.occurrenceId = a.request.occurrenceId)
    (done : admitOccurrence C validJson a.request a.manifest a.proof a.outside occurrence version leaf
      db = .ok (outcome, next)) :
    SavedLeaf C occurrence version leaf ∧ a.outside.signed = .ok () ∧
      (∃ state, validateForManifest a.proof a.manifest = .ok state ∧
        (state = .requiresOneConfirmation → GrantCovers C db a version leaf)) ∧
      (∃ delegationId continuationId,
        outcome = .admitted a.request.occurrenceId delegationId continuationId ∧
          Committed db next a delegationId) ∧
      Kept db next := by
  obtain ⟨_, saved, done⟩ := bind_ok.mp done
  obtain ⟨state, verified, done⟩ := bind_ok.mp done
  obtain ⟨_, confirmed, done⟩ := bind_ok.mp done
  obtain ⟨command, -, done⟩ := bind_ok.mp done
  obtain ⟨_, -, done⟩ := bind_ok.mp done
  obtain ⟨_, -, done⟩ := bind_ok.mp done
  obtain ⟨continuation, -, done⟩ := bind_ok.mp done
  obtain ⟨founded, wrote, done⟩ := bind_ok.mp done
  obtain ⟨settled, ended, done⟩ := bind_ok.mp done
  obtain ⟨rfl, rfl⟩ := Prod.mk.inj (Except.ok.inj done)
  obtain ⟨signed, valid⟩ := verifyDangerAdmission_ok verified
  obtain ⟨fresh, created, sameRows, -⟩ := found_ok wrote
  obtain ⟨sameStore, row, job, kept⟩ := settle_ok ended
  refine ⟨ensure_ok.mp saved, signed, ⟨state, valid, ?_⟩, ⟨_, _, rfl, ?_⟩, ?_⟩
  · rintro rfl
    exact requireConfirmation_covers confirmed
  · exact {
      fresh
      created := by rw [sameStore]; exact created
      settled := named ▸ row
      ended := job }
  · exact (Kept.of_eq sameRows).trans kept

/-- The attempt admits its occurrence under the pinned authority. -/
def Admission (C : Crates) (db next : Db) (a : Attempt)
    (outcome : RoutineOccurrenceDispatchOutcome) : Prop :=
  ∃ delegationId continuationId occurrence version routine leaf,
    outcome = .admitted a.request.occurrenceId delegationId continuationId ∧
      Pinned C db a occurrence version routine leaf ∧ Committed db next a delegationId

/-- The outcome of an attempt that writes nothing. -/
def Declined : RoutineOccurrenceDispatchOutcome → Prop
  | .admitted _ _ _ => False
  | .replayed _ _ | .refused _ => True

theorem admitUnsettled_ok {db next : Db} {a : Attempt} {outcome : RoutineOccurrenceDispatchOutcome}
    {occurrence : RoutineOccurrenceRecord} {leaf : CanonicalLeafAction}
    (stored : db.occurrences.find? a.request.occurrenceId = some occurrence)
    (unsettled : occurrence.status = .planned ∨ occurrence.status = .admissionPlanned)
    (sole : a.manifest.leaves = [leaf])
    (done : admitUnsettled C validJson a.request a.manifest a.proof a.outside occurrence leaf db =
      .ok (outcome, next)) :
    Admission C db next a outcome ∧ Kept db next ∨ Declined outcome ∧ next = db := by
  obtain ⟨version, pinned, done⟩ := bind_ok.mp done
  obtain ⟨routine, owned, done⟩ := bind_ok.mp done
  split at done
  · obtain ⟨rfl, rfl⟩ := Prod.mk.inj (Except.ok.inj done)
    exact Or.inr ⟨trivial, rfl⟩
  · rename_i allowed
    obtain ⟨enabled, current, running, policy, trigger⟩ := refusal_none allowed
    obtain ⟨same, reserved⟩ := policyChanged_false policy
    have named : occurrence.occurrenceId = a.request.occurrenceId := Table.find?_key stored
    obtain ⟨saved, signed, routed, ⟨delegationId, continuationId, rfl, committed⟩, kept⟩ :=
      admitOccurrence_ok named done
    refine Or.inl ⟨⟨delegationId, continuationId, occurrence, version, routine, leaf, rfl, ?_,
      committed⟩, kept⟩
    exact {
      stored, unsettled, enabled, current, running, reserved, sole, saved, signed, routed
      pinned := required_ok.mp pinned
      owned := required_ok.mp owned
      policy := same
      trigger := triggerMatches_job trigger }

/-- An attempt commits an admission under its pinned authority, or it changes nothing. -/
theorem attempt_ok {db next : Db} {a : Attempt} {outcome : RoutineOccurrenceDispatchOutcome}
    (done : admitClaimedRoutineOccurrence C validJson a.request a.manifest a.proof a.outside db =
      .ok (outcome, next)) :
    Admission C db next a outcome ∧ Kept db next ∨ Declined outcome ∧ next = db := by
  obtain ⟨_, -, done⟩ := bind_ok.mp done
  obtain ⟨leaf, sole, done⟩ := bind_ok.mp done
  obtain ⟨occurrence, found, done⟩ := bind_ok.mp done
  have stored := required_ok.mp found
  unfold dispatchOccurrence at done
  split at done
  · obtain ⟨delegationId, -, done⟩ := bind_ok.mp done
    obtain ⟨rfl, rfl⟩ := Prod.mk.inj (Except.ok.inj done)
    exact Or.inr ⟨trivial, rfl⟩
  · obtain ⟨rfl, rfl⟩ := Prod.mk.inj (Except.ok.inj done)
    exact Or.inr ⟨trivial, rfl⟩
  · rename_i status
    exact admitUnsettled_ok stored (.inl status) (soleLeaf_ok sole) done
  · rename_i status
    exact admitUnsettled_ok stored (.inr status) (soleLeaf_ok sole) done

inductive Event where
  | dispatched (a : Attempt) (result : Anyhow RoutineOccurrenceDispatchOutcome)
  | other

/-- One command. A failed one is rolled back, and what is not written here touches no occurrence. -/
inductive Step (C : Crates) (validJson : Text → Bool) (S : SerdeJson) : Db → Event → Db → Prop where
  | dispatched {db next : Db} {a : Attempt} {outcome : RoutineOccurrenceDispatchOutcome} :
      admitClaimedRoutineOccurrence C validJson a.request a.manifest a.proof a.outside db =
        .ok (outcome, next) → Step C validJson S db (.dispatched a (.ok outcome)) next
  | failed {db : Db} {a : Attempt} {e : Failure} :
      admitClaimedRoutineOccurrence C validJson a.request a.manifest a.proof a.outside db =
        .error e → Step C validJson S db (.dispatched a (.error e)) db
  | reserved {db next : Db} {routine : RoutineRow} {version : RoutineVersionRecord}
      {instants : List Int} {trustedNow : Int} :
      reserveCandidates C routine version instants trustedNow db = .ok next →
        Step C validJson S db .other next
  | planned {db next : Db} {request : RoutineAdmissionRequest} {outcome : RoutineAdmissionOutcome} :
      planRoutineOccurrenceAdmission S request db = .ok (outcome, next) →
        Step C validJson S db .other next
  | settled {db next : Db} {command : RoutineAdmissionRequest}
      {outcome : RoutineTriggerSettlementOutcome} :
      settleRoutineTrigger command db = .ok (outcome, next) → Step C validJson S db .other next
  | paused {db next : Db} {routineId : Text} {enabled changed : Bool} {trustedNow : Int} :
      setRoutineEnabled routineId enabled trustedNow db = .ok (changed, next) →
        Step C validJson S db .other next
  | elsewhere {db next : Db} :
      next.occurrences = db.occurrences → Step C validJson S db .other next

theorem reserveOccurrence_kept {db : Db} {row : RoutineOccurrenceRecord} :
    Kept db (db.reserveOccurrence row) := by
  intro old member _
  unfold Db.reserveOccurrence
  split
  · exact member
  · split
    · rename_i occurrences inserted
      rw [Table.insert?_rows inserted]
      exact List.mem_append_left _ member
    · exact member

theorem reserveJob_same {db : Db} {job : TriggerJob} :
    (db.reserveJob job).occurrences = db.occurrences := by
  unfold Db.reserveJob
  split <;> rfl

theorem reserveBinding_same {db : Db} {occurrenceId jobId : Text} :
    (db.reserveBinding occurrenceId jobId).occurrences = db.occurrences := by
  unfold Db.reserveBinding
  split <;> rfl

theorem reserveCandidate_kept {db next : Db} {routine : RoutineRow} {version : RoutineVersionRecord}
    {trustedNow instant : Int}
    (done : reserveCandidate C routine version trustedNow instant db = .ok next) : Kept db next := by
  obtain ⟨_, -, done⟩ := bind_ok.mp done
  obtain ⟨record, -, done⟩ := bind_ok.mp done
  obtain ⟨_, -, done⟩ := bind_ok.mp done
  obtain ⟨_, -, done⟩ := bind_ok.mp done
  obtain ⟨_, -, done⟩ := bind_ok.mp done
  obtain ⟨_, -, done⟩ := bind_ok.mp done
  cases Except.ok.inj done
  exact reserveOccurrence_kept.trans (.of_eq (reserveBinding_same.trans reserveJob_same))

theorem reserveCandidates_kept {routine : RoutineRow} {version : RoutineVersionRecord}
    {trustedNow : Int} {instants : List Int} {db next : Db}
    (done : reserveCandidates C routine version instants trustedNow db = .ok next) :
    Kept db next := by
  unfold reserveCandidates at done
  induction instants generalizing db with
  | nil =>
    cases Except.ok.inj done
    exact .of_eq rfl
  | cons instant instants ih =>
    rw [List.foldlM_cons] at done
    obtain ⟨middle, first, rest⟩ := bind_ok.mp done
    exact (reserveCandidate_kept first).trans (ih rest)

theorem planned_same {before db next : Db} {id : Text} {version : RoutineVersionRecord} {jobId : Text}
    {outcome : RoutineAdmissionOutcome}
    (done : planned before id version jobId db = .ok (outcome, next)) : next = db := by
  obtain ⟨row, -, done⟩ := bind_ok.mp done
  split at done
  · exact (Prod.mk.inj (Except.ok.inj done)).2.symm
  · split at done <;> exact (Prod.mk.inj (Except.ok.inj done)).2.symm

theorem planOccurrence_kept {db next : Db} {request : RoutineAdmissionRequest}
    {occurrence : RoutineOccurrenceRecord} {routine : RoutineRow} {outcome : RoutineAdmissionOutcome}
    (done : planOccurrence S request occurrence routine db = .ok (outcome, next)) : Kept db next := by
  obtain ⟨version, -, done⟩ := bind_ok.mp done
  split at done
  · obtain ⟨-, rfl⟩ := Prod.mk.inj (Except.ok.inj done)
    exact .of_eq rfl
  · obtain ⟨plan, -, done⟩ := bind_ok.mp done
    obtain ⟨updated, wrote, done⟩ := bind_ok.mp done
    cases planned_same done
    exact updateOccurrences_kept wrote fun row settled => by simp [settled]

theorem planRoutineOccurrenceAdmission_kept {db next : Db} {request : RoutineAdmissionRequest}
    {outcome : RoutineAdmissionOutcome}
    (done : planRoutineOccurrenceAdmission S request db = .ok (outcome, next)) : Kept db next := by
  obtain ⟨_, -, done⟩ := bind_ok.mp done
  have same {refused : RoutineAdmissionOutcome}
      (done : (.ok (refused, db) : Anyhow _) = .ok (outcome, next)) : Kept db next := by
    obtain ⟨-, rfl⟩ := Prod.mk.inj (Except.ok.inj done)
    exact .of_eq rfl
  split at done
  · exact same done
  · split at done
    · exact same done
    · split at done
      · exact same done
      · split at done
        · exact same done
        · exact planOccurrence_kept done

theorem settleRoutineTrigger_same {db next : Db} {command : RoutineAdmissionRequest}
    {outcome : RoutineTriggerSettlementOutcome}
    (done : settleRoutineTrigger command db = .ok (outcome, next)) :
    next.occurrences = db.occurrences := by
  obtain ⟨_, -, done⟩ := bind_ok.mp done
  obtain ⟨_, -, done⟩ := bind_ok.mp done
  obtain ⟨_, -, done⟩ := bind_ok.mp done
  split at done
  · rw [← (Prod.mk.inj (Except.ok.inj done)).2]
  · split at done
    · rw [← (Prod.mk.inj (Except.ok.inj done)).2]
    · obtain ⟨recorded, inserted, done⟩ := bind_ok.mp done
      obtain ⟨ended, closed, done⟩ := bind_ok.mp done
      obtain ⟨-, rfl⟩ := Prod.mk.inj (Except.ok.inj done)
      rw [endJobs_ok closed]
      exact (insertOperation_ok inserted).1

theorem setRoutineEnabled_same {db next : Db} {routineId : Text} {enabled changed : Bool}
    {trustedNow : Int}
    (done : setRoutineEnabled routineId enabled trustedNow db = .ok (changed, next)) :
    next.occurrences = db.occurrences := by
  obtain ⟨_, -, done⟩ := bind_ok.mp done
  obtain ⟨_, -, done⟩ := bind_ok.mp done
  rw [← (Prod.mk.inj (Except.ok.inj done)).2]

theorem step_kept {db next : Db} {event : Event} (step : Step C validJson S db event next) :
    Kept db next := by
  cases step with
  | dispatched done =>
    rcases attempt_ok done with ⟨-, kept⟩ | ⟨-, rfl⟩
    · exact kept
    · exact .of_eq rfl
  | failed => exact .of_eq rfl
  | reserved done => exact reserveCandidates_kept done
  | planned done => exact planRoutineOccurrenceAdmission_kept done
  | settled done => exact .of_eq (settleRoutineTrigger_same done)
  | paused done => exact .of_eq (setRoutineEnabled_same done)
  | elsewhere same => exact .of_eq same

/-- The event admits the occurrence as this delegation. -/
def Event.Admits (occurrenceId delegationId : Text) : Event → Prop
  | .dispatched _ (.ok (.admitted occurrence delegation _)) =>
    occurrence = occurrenceId ∧ delegation = delegationId
  | _ => False

def Settled (db : Db) (occurrenceId delegationId : Text) : Prop :=
  ∃ row, db.occurrences.find? occurrenceId = some row ∧ row.status = .settled ∧
    row.admittedDelegationId = some delegationId

theorem Settled.step {db next : Db} {event : Event} {occurrenceId delegationId : Text}
    (settled : Settled db occurrenceId delegationId) (step : Step C validJson S db event next) :
    Settled next occurrenceId delegationId := by
  obtain ⟨row, found, status, admitted⟩ := settled
  have member := step_kept step row (Table.find?_mem found) status
  refine ⟨row, ?_, status, admitted⟩
  rw [← Table.find?_key found]
  exact Table.find?_of_mem member

/-- An occurrence was admitted once, and every later attempt that is well formed is its replay. -/
inductive History : List Event → Prop where
  | nil : History []
  | snoc {events : List Event} {event : Event} : History events →
      (∀ earlier ∈ events, ∀ occurrenceId delegationId, earlier.Admits occurrenceId delegationId →
        (∀ other, ¬ event.Admits occurrenceId other) ∧
          ∀ a result, event = .dispatched a result → a.request.occurrenceId = occurrenceId →
            a.Formed → result = .ok (.replayed occurrenceId delegationId)) →
      History (events ++ [event])

/-- Each admission of the history is what the store holds of the occurrence. -/
structure Recorded (events : List Event) (db : Db) : Prop where
  history : History events
  settled : ∀ event ∈ events, ∀ occurrenceId delegationId, event.Admits occurrenceId delegationId →
    Settled db occurrenceId delegationId

end Admitted

/-! One occurrence of a routine with an ordinary leaf. -/

theorem ensured {holds : Prop} [Decidable holds] {message : String} (h : holds) :
    ensure holds message = .ok () := ensure_ok.mpr h

section Texts
variable {C : Crates} {field domain : String} {id : Text} {suffix : Option Text}

theorem requireText_visible {text : Text} {c : Char} (member : c ∈ text)
    (visible : isWhitespace c = false) : requireText field text = .ok () := by
  apply ensure_ok.mpr
  intro blank
  have kept := mem_trimChars member visible
  rw [blank] at kept
  cases kept

theorem digest_some (digest : Sha256Digest) : digest.val ≠ [] := by
  intro empty
  have length := digest.property.1
  rw [empty] at length
  cases length

theorem requireText_digest (digest : Sha256Digest) : requireText field digest.val = .ok () := by
  apply ensure_ok.mpr
  rw [digest_trimmed]
  exact digest_some digest

theorem deterministicId_eq :
    ∃ digest : Sha256Digest, deterministicId C domain id suffix = domain.toList ++ '-' :: digest.val :=
  ⟨_, rfl⟩

theorem requireText_deterministicId :
    requireText field (deterministicId C domain id suffix) = .ok () := by
  obtain ⟨digest, same⟩ := @deterministicId_eq C domain id suffix
  apply requireText_visible (c := '-')
  · simp [same]
  · decide

theorem deterministicId_ne {c : Char} : deterministicId C domain id suffix ≠ [c] := by
  obtain ⟨digest, same⟩ := @deterministicId_eq C domain id suffix
  rw [same]
  intro single
  have length := congrArg List.length single
  simp only [List.length_append, List.length_cons, List.length_nil] at length
  exact digest_some digest (List.length_eq_zero_iff.mp (by omega))

end Texts

def occurrenceLeaf : ResolvedLeafInput :=
  { requestedLeaf .null (Json.obj []).print with
    logicalActionId := deterministicRoutineOccurrenceActionId asciiCrates ['o'] }

theorem normal_action :
    Manifest.Normal asciiCrates (deterministicRoutineOccurrenceActionId asciiCrates ['o']) := by
  obtain ⟨digest, same⟩ := @deterministicId_eq asciiCrates "routine_action" ['o'] none
  have split : "routine_action".toList ++ '-' :: digest.val =
      "routine_action-".toList ++ digest.val := by simp
  rw [deterministicRoutineOccurrenceActionId, same, split]
  have known : ∀ c ∈ "routine_action-".toList, isWhitespace c = false ∧ c.toNat < 128 := by
    have spelled : "routine_action-".toList =
        ['r', 'o', 'u', 't', 'i', 'n', 'e', '_', 'a', 'c', 't', 'i', 'o', 'n', '-'] := by decide
    rw [spelled]
    have visible : ∀ c ∈ ['r', 'o', 'u', 't', 'i', 'n', 'e', '_', 'a', 'c', 't', 'i', 'o', 'n', '-'],
        isWhitespace c = false := by simp [isWhitespace]
    have ascii : ∀ c ∈ ['r', 'o', 'u', 't', 'i', 'n', 'e', '_', 'a', 'c', 't', 'i', 'o', 'n', '-'],
        c.toNat < 128 := by simp
    exact fun c member => ⟨visible c member, ascii c member⟩
  have every : ∀ c ∈ "routine_action-".toList ++ digest.val,
      isWhitespace c = false ∧ c.toNat < 128 := by
    intro c member
    rcases List.mem_append.mp member with left | right
    · exact known c left
    · exact ⟨hexdigit_visible (List.all_eq_true.mp digest.property.2.1 c right),
        digest_ascii digest c right⟩
  have trimmed := trimChars_of_trimmed (trimmed_of_visible fun c member => (every c member).1)
  have plain := asciiCrates.normalization.ascii _ fun c member => (every c member).2
  have length : utf8Length ("routine_action-".toList ++ digest.val) = 79 := by
    have head : utf8Length "routine_action-".toList = 15 := by decide
    have tail : utf8Length digest.val = 64 := digest.property.1
    simp only [utf8Length, List.map_append, List.sum_append] at head tail ⊢
    omega
  unfold Manifest.Normal normalizedIdentifier
  simp only [trimmed, plain, length]
  rw [if_neg (by simp), if_neg (by decide)]

theorem occurrenceLeaf_ok :
    ∃ leaf, canonicalLeaf asciiCrates ['l'] occurrenceLeaf [] = .ok leaf ∧
      leaf.logicalActionId = deterministicRoutineOccurrenceActionId asciiCrates ['o'] ∧
      ownerNormalizedIntentDigest asciiCrates ['n'] =
        some leaf.ownerAuthority.normalizedIntentDigest.val ∧
      requireText "plan.created_by_authority_provenance_id"
        leaf.ownerAuthority.authorityProvenanceId = .ok () := by
  have sized : Sized (valueTree .null) := by
    simp [Sized, Written, valueTree, Json.depth, Json.Everywhere, Writable, Json.print,
      MAX_CANONICAL_VALUE_DEPTH, MAX_CANONICAL_VALUE_BYTES]
    decide
  have encoded : canonicalValueBytes asciiCrates .null = .ok (valueTree .null).print :=
    canonicalValueBytes_ok.mpr ⟨sized, rfl⟩
  have targets : canonicalTargetsBytes asciiCrates ⟨[.string ['x']]⟩ =
      .ok (targetsTree [.str ['x']]).print := rfl
  have action := normal_action
  have authority : ∃ authority, canonicalizeOwnerAuthority asciiCrates
      (requestedLeaf .null (Json.obj []).print).ownerAuthority = .ok authority ∧
        ownerNormalizedIntentDigest asciiCrates ['n'] = some authority.normalizedIntentDigest.val ∧
        ∃ digest : Sha256Digest, authority.authorityProvenanceId = digest.val := by
    have fits : ¬ utf8Length (requestedLeaf .null (Json.obj []).print).ownerAuthority.normalizedScopeJson >
        MAX_CANONICAL_VALUE_BYTES := by decide
    have hash : ∀ domain bytes, parseDigest (digestHex asciiCrates domain bytes) = .ok _ :=
      fun _ _ => parseDigest_digest _
    have provenance : ∀ domain bytes, normalizedIdentifier asciiCrates
        (digestHex asciiCrates domain bytes) = .ok _ := fun _ _ => normal_digest _
    unfold canonicalizeOwnerAuthority
    rw [if_neg fits]
    simp only [requestedLeaf, originalRequestAuthority, authorityProvenanceId, hash, provenance]
    exact ⟨_, rfl, rfl, _, rfl⟩
  obtain ⟨canonical, made, intent, digest, provenance⟩ := authority
  unfold Manifest.Normal at action
  simp only [canonicalLeaf, occurrenceLeaf, action]
  simp only [requestedLeaf, encoded, targets] at made ⊢
  simp only [made]
  refine ⟨_, rfl, rfl, intent, ?_⟩
  change requireText _ canonical.authorityProvenanceId = _
  rw [provenance]
  exact requireText_digest digest

def sampleOccurrence : RoutineOccurrenceRecord where
  occurrenceId := ['o']
  routineId := ['r']
  routineVersion := 1
  scheduledInstantMs := 1
  effectivePolicyRevision := 1
  status := .planned
  admissionPlanJson := none
  admittedDelegationId := none
  updatedAt := 1

def sampleVersion (leaf : CanonicalLeafAction) : RoutineVersionRecord where
  routineId := ['r']
  routineVersion := 1
  sourceDelegationId := ['d']
  savedOwnerAuthorityProvenanceId := leaf.ownerAuthority.authorityProvenanceId
  normalizedOriginalIntent := ['n']
  savedSelectorJson := (Json.obj []).print
  acceptedConfirmationGrantId := none
  effectivePolicySnapshotJson := (Json.obj []).print
  effectivePolicyRevision := 1
  stableLeafDigest := savedRoutineStableLeafDigest asciiCrates leaf

def sourceDelegation (leaf : CanonicalLeafAction) : DelegationRecord where
  delegationId := ['d']
  phase := .inMotion
  runControl := .running
  stateRevision := 1
  currentPlanRevision := some 1
  currentCriteriaRevision := some 1
  policyRevision := 1
  effectiveAuthorityJson := (Json.obj []).print
  authorityProvenanceId := leaf.ownerAuthority.authorityProvenanceId
  pendingDecisionId := none
  externalWaitJson := none
  stopEpoch := 0
  completionAssessmentJson := none
  updatedAt := 1
  terminalAt := none

def sourcePlan (leaf : CanonicalLeafAction) : PlanRecord where
  planId := ['p']
  delegationId := ['d']
  planRevision := 1
  basedOnDelegationRevision := 1
  policyRevision := 1
  planSummary := ['s']
  resolvedLeafManifestJson := (Json.obj []).print
  manifestDigest := ['m']
  createdByAuthorityProvenanceId := leaf.ownerAuthority.authorityProvenanceId

def sourceCriterion : OutcomeCriterionRecord where
  criterionId := ['c']
  delegationId := ['d']
  criteriaRevision := 1
  criterionKey := ['k']
  description := ['t']
  expectedPredicateJson := (Json.obj []).print
  authoritativeSourceKind := ['s']

def sampleJob : TriggerJob where
  jobId := ['j']
  scheduleKind := EXECASS_ROUTINE_TRIGGER_SCHEDULE_KIND
  payloadJson := routineTriggerPayload sampleOccurrence
  enabled := true
  nextRunAt := some 1
  leaseOwner := some ['w']
  leaseExpiresAt := some 9
  updatedAt := 1
  deleted := false

def sampleDb (leaf : CanonicalLeafAction) : Db where
  store := { Store.initial with
    delegations := ⟨[sourceDelegation leaf], List.nodup_singleton _⟩
    plans := ⟨[sourcePlan leaf], List.nodup_singleton _⟩ }
  originalIntent _ := ['n']
  criteria := [sourceCriterion]
  authorities := ⟨[⟨leaf.ownerAuthority.authorityProvenanceId, 1, ['q']⟩], List.nodup_singleton _⟩
  grants := .empty
  routines := ⟨[⟨['r'], 1, true, 1⟩], List.nodup_singleton _⟩
  versions := ⟨[sampleVersion leaf], List.nodup_singleton _⟩
  occurrences := ⟨[sampleOccurrence], List.nodup_singleton _⟩
  jobBindings := [(['o'], ['j'])]
  driverJobs := []
  jobs := ⟨[sampleJob], List.nodup_singleton _⟩
  operations := .empty

/-- A current criterion of the source, with its texts. -/
structure OfSource (c : OutcomeCriterionRecord) : Prop where
  own : c.delegationId = ['d']
  current : c.criteriaRevision = 1
  key : requireText "criterion_key" c.criterionKey = .ok ()
  description : requireText "criterion.description" c.description = .ok ()
  kind : requireText "criterion.authoritative_source_kind" c.authoritativeSourceKind = .ok ()

/-- The same store with another criterion of the source. -/
def savedDb (c : OutcomeCriterionRecord) (leaf : CanonicalLeafAction) : Db :=
  { sampleDb leaf with criteria := [c] }

/-- An attempt at an instant, under the lease of the worker. -/
def sampleAttempt (m : CanonicalLeafManifest) (leaf : CanonicalLeafAction) (trustedNow : Int) :
    Attempt where
  request := ⟨['o'], ['j'], ['w'], 9, trustedNow⟩
  manifest := m
  proof := ⟨m.canonical.digest.val, [⟨leafDigest leaf, .ordinary⟩]⟩
  outside := ⟨.ok (), ⟨.ok (), none, false, false, .ok ()⟩⟩

section Sample
variable {c : OutcomeCriterionRecord} {m : CanonicalLeafManifest} {leaf : CanonicalLeafAction}

theorem sample_allowed {request : RoutineAdmissionRequest}
    (same : request = ⟨['o'], ['j'], ['w'], 9, 2⟩) :
    refusal (savedDb c leaf) request sampleOccurrence (sampleVersion leaf) ⟨['r'], 1, true, 1⟩ =
      none := by
  have trigger : triggerMatches (savedDb c leaf) request sampleOccurrence = true := by
    simp [same, triggerMatches, savedDb, sampleDb, leased, sampleJob, sampleOccurrence]
  have policy : policyChanged (savedDb c leaf) sampleOccurrence (sampleVersion leaf) = false := rfl
  unfold refusal
  rw [trigger, policy]
  rfl

theorem sample_saved (action : leaf.logicalActionId =
      deterministicRoutineOccurrenceActionId asciiCrates ['o'])
    (intent : ownerNormalizedIntentDigest asciiCrates ['n'] =
      some leaf.ownerAuthority.normalizedIntentDigest.val) :
    SavedLeaf asciiCrates sampleOccurrence (sampleVersion leaf) leaf :=
  ⟨action, rfl, intent, rfl⟩

theorem sample_verified (sole : m.leaves = [leaf]) :
    verifyDangerAdmission (sampleAttempt m leaf 2).outside (sampleAttempt m leaf 2).proof m =
      .ok .ordinary := by
  simp [verifyDangerAdmission, sampleAttempt, validateForManifest, sole, mismatched,
    DangerRouteKind.confirms]

def savedCommand (c : OutcomeCriterionRecord) (m : CanonicalLeafManifest) (leaf : CanonicalLeafAction) :
    CreateFoundationCommand :=
  foundationCommand asciiCrates sampleOccurrence (sampleVersion leaf) m leaf
    ⟨leaf.ownerAuthority.authorityProvenanceId, 1, ['q']⟩ (sourceDelegation leaf) (sourcePlan leaf)
    [c] 0 2

theorem sample_command (saved : OfSource c) :
    buildFoundationCommand asciiCrates (savedDb c leaf) sampleOccurrence
    (sampleVersion leaf) m leaf 2 = .ok (savedCommand c m leaf) := by
  have authority : (savedDb c leaf).authorities.find?
      (sampleVersion leaf).savedOwnerAuthorityProvenanceId =
        some ⟨leaf.ownerAuthority.authorityProvenanceId, 1, ['q']⟩ := by
    simp [Table.find?, savedDb, sampleDb, sampleVersion]
  have source : (savedDb c leaf).store.getDelegation (sampleVersion leaf).sourceDelegationId =
      some (sourceDelegation leaf) := rfl
  have bound : (sourceDelegation leaf).authorityProvenanceId =
      leaf.ownerAuthority.authorityProvenanceId ∧
      (savedDb c leaf).originalIntent (sourceDelegation leaf).delegationId =
        (sampleVersion leaf).normalizedOriginalIntent ∧
      (sourceDelegation leaf).policyRevision = (sampleVersion leaf).effectivePolicyRevision ∧
      (1 : Int) = (sampleVersion leaf).effectivePolicyRevision := ⟨rfl, rfl, rfl, rfl⟩
  have criteria : criteriaOf (savedDb c leaf) ['d'] 1 = [c] := by
    simp [criteriaOf, savedDb, saved.own, saved.current]
  unfold buildFoundationCommand
  rw [authority, source]
  simp only [required, ok_bind, ensured bound]
  change (ensure (criteriaOf (savedDb c leaf) ['d'] 1 ≠ []) _ >>= fun _ => Except.ok
    (foundationCommand _ _ _ _ _ _ _ _ (criteriaOf (savedDb c leaf) ['d'] 1) _ _)) = _
  rw [criteria]
  rfl

theorem sample_valid (saved : OfSource c) (action : leaf.logicalActionId =
      deterministicRoutineOccurrenceActionId asciiCrates ['o'])
    (provenance : requireText "plan.created_by_authority_provenance_id"
      leaf.ownerAuthority.authorityProvenanceId = .ok ()) :
    validateFoundationCommandForCausation (fenceCrates asciiCrates fun _ => true)
      (sampleAttempt m leaf 2).outside.foundation (savedCommand c m leaf) .routineOccurrence =
        .ok () := by
  have named {field : String} : requireText field sampleOccurrence.occurrenceId = .ok () := rfl
  have letter {field : String} {c : Char} (visible : isWhitespace c = false) :
      requireText field [c] = .ok () := requireText_visible (List.mem_singleton_self c) visible
  have summary : requireText "plan_summary" (savedCommand c m leaf).plan.planSummary = .ok () :=
    requireText_visible (c := 's') (by simp [savedCommand, foundationCommand]) (by decide)
  have digest : requireText "manifest_digest" m.canonical.digest.val = .ok () :=
    requireText_digest _
  have step : requireText "continuation.action_id" leaf.logicalActionId = .ok () := by
    rw [action]
    exact requireText_deterministicId
  have json {field : String} {text : Text} :
      validateJson (fenceCrates asciiCrates fun _ => true) field text = .ok () := rfl
  have plan : validatePlan (fenceCrates asciiCrates fun _ => true) (savedCommand c m leaf).plan =
      .ok () := by
    unfold validatePlan
    rw [summary]
    simp only [savedCommand, foundationCommand, requireText_deterministicId, digest, provenance,
      ok_bind, json]
  have criterion : validateCriterion (fenceCrates asciiCrates fun _ => true)
      (occurrenceCriterion asciiCrates sampleOccurrence.occurrenceId (deterministicId asciiCrates
        "routine_delegation" sampleOccurrence.occurrenceId none) c 0) = .ok () := by
    simp only [validateCriterion, occurrenceCriterion, requireText_deterministicId, ok_bind, json,
      saved.key, saved.description, saved.kind]
  have continuation : checkOptional validateContinuation
      (savedCommand c m leaf).initialContinuation = .ok () := by
    simp only [savedCommand, foundationCommand, checkOptional, validateContinuation,
      requireText_deterministicId, step, named, ok_bind]
    rfl
  have outbox : validateOutbox (fenceCrates asciiCrates fun _ => true)
      (savedCommand c m leaf).outboxEvent = .ok () := by
    simp only [savedCommand, foundationCommand, validateOutbox, requireText_deterministicId, named,
      ok_bind, letter (by decide : isWhitespace 'q' = false)]
    rfl
  have write : validateWriteContext (savedCommand c m leaf).write = .ok () := by
    simp only [savedCommand, foundationCommand, validateWriteContext, requireText_deterministicId,
      named, ok_bind, letter (by decide : isWhitespace 'q' = false)]
  have criteria : (savedCommand c m leaf).outcomeCriteria =
      [occurrenceCriterion asciiCrates sampleOccurrence.occurrenceId (deterministicId asciiCrates
        "routine_delegation" sampleOccurrence.occurrenceId none) c 0] := rfl
  have records : validateFoundationRecords (fenceCrates asciiCrates fun _ => true)
      (savedCommand c m leaf) = .ok () := by
    have delegation : requireText "delegation_id" (savedCommand c m leaf).delegation.delegationId =
        .ok () := by
      simp only [savedCommand, foundationCommand, requireText_deterministicId]
    simp only [validateFoundationRecords, write, delegation, json, plan, outbox, criteria,
      continuation, ok_bind]
    simp [criterion, pure, Except.pure]
  simp only [validateFoundationCommandForCausation, records, ok_bind, sampleAttempt]
  simp [validateFoundationBindings, savedCommand, foundationCommand, sampleVersion,
    occurrenceCriterion, EventBound]

theorem insert_first {κ ρ : Type} [DecidableEq κ] {key : ρ → κ} {t : Table key} {row : ρ}
    (empty : t.rows = []) : ∃ next, t.insert? row = some next :=
  Table.insert_fresh (by simp [empty])

theorem insertBranch_first {s : Store} {row : ActionBranchRecord} (empty : s.actionBranches.rows = []) :
    ∃ actionBranches, s.insertBranch row = .ok { s with actionBranches } := by
  obtain ⟨next, inserted⟩ := @insert_first _ _ _ _ _ row empty
  unfold Store.insertBranch
  rw [ensured (by simp [empty]), ok_bind, inserted]
  exact ⟨next, rfl⟩

theorem insertContinuation_first {s : Store} {c : ContinuationRecord}
    (empty : s.continuations.rows = []) (known : (s.getDelegation c.delegationId).isSome = true) :
    ∃ continuations, s.insertContinuation c = .ok { s with continuations } := by
  obtain ⟨next, inserted⟩ := @insert_first _ _ _ _ _ c empty
  unfold Store.insertContinuation
  rw [ensured known, ok_bind, ensured (by simp [empty]), ok_bind,
    ensured (by simp [OneCurrent, empty]), ok_bind, ensured (by simp [OneJob, empty]),
    ok_bind, inserted]
  exact ⟨next, rfl⟩

theorem insertOutbox_first {s : Store} {event : NewOutboxEvent} (empty : s.outboxEvents.rows = [])
    (positive : 0 < event.aggregateRevision) :
    ∃ outboxEvents, s.insertOutbox event = .ok { s with outboxEvents } := by
  obtain ⟨next, inserted⟩ := @insert_first _ _ _ _ _ event empty
  unfold Store.insertOutbox
  rw [ensured positive, ok_bind, ensured (by simp [empty]), ok_bind, inserted]
  exact ⟨next, rfl⟩

theorem recordGenesis_first {s : Store} {command : CreateFoundationCommand} {d : DelegationRecord}
    (empty : s.transitions.rows = [])
    (known : s.getDelegation command.delegation.delegationId = some d) :
    ∃ transitions, s.recordGenesisLifecycleHistory command = .ok { s with transitions } := by
  unfold Store.recordGenesisLifecycleHistory Store.recordTransition Store.projectionSnapshot
  rw [known, ok_bind]
  unfold Store.insertTransition
  rw [ensured (by simp [empty]), ok_bind]
  obtain ⟨next, inserted⟩ := @insert_first _ _ _ _ _ _ empty
  rw [inserted]
  exact ⟨next, rfl⟩

/-- A foundation beside the rows of one other delegation. -/
theorem found_beside {command : CreateFoundationCommand} {c : ContinuationRecord}
    (delegation : command.delegation.delegationId ≠ ['d']) (plan : command.plan.planId ≠ ['p'])
    (kept : command.plan.delegationId = command.delegation.delegationId)
    (initial : command.initialContinuation = some c)
    (own : c.delegationId = command.delegation.delegationId)
    (positive : 0 < command.outboxEvent.aggregateRevision) :
    ∃ store, createFoundationInTx (sampleAttempt m leaf 2).outside.foundation command
      (sampleDb leaf).store = .ok (.created command.delegation, store) := by
  have some : ∃ delegations, (sampleDb leaf).store.delegations.insert? command.delegation =
      some delegations ∧ delegations.find? command.delegation.delegationId =
        some command.delegation := by
    have fresh : command.delegation.delegationId ∉
        (sampleDb leaf).store.delegations.rows.map DelegationRecord.delegationId := by
      simpa [sampleDb, sourceDelegation] using delegation
    refine ⟨_, dif_pos fresh, ?_⟩
    simp [Table.find?, sampleDb, sourceDelegation, delegation.symm]
  obtain ⟨delegations, inserted, found⟩ := some
  have some : ∃ plans, (sampleDb leaf).store.plans.insert? command.plan = some plans := by
    have fresh : (command.plan.delegationId, command.plan.planRevision) ∉
        (sampleDb leaf).store.plans.rows.map fun plan => (plan.delegationId, plan.planRevision) := by
      simp only [sampleDb, sourcePlan, List.map_cons, List.map_nil, List.mem_singleton]
      intro same
      exact delegation (kept.symm.trans (Prod.mk.inj same).1)
    exact ⟨_, dif_pos fresh⟩
  obtain ⟨plans, planned⟩ := some
  let s : Store := { (sampleDb leaf).store with delegations, plans }
  have rows : (sampleDb leaf).store.insertDelegation command.delegation =
      .ok { (sampleDb leaf).store with delegations } := by
    unfold Store.insertDelegation
    rw [inserted]
  have distinct : ∀ other ∈ (sampleDb leaf).store.plans.rows, other.planId ≠ command.plan.planId := by
    simp [sampleDb, sourcePlan, plan.symm]
  have planRow : Store.insertPlan { (sampleDb leaf).store with delegations } command.plan = .ok s := by
    unfold Store.insertPlan
    rw [ensured distinct, ok_bind, planned]
  have known : s.getDelegation command.delegation.delegationId = some command.delegation := found
  have owner : (s.getDelegation c.delegationId).isSome = true := by
    rw [own, known]
    rfl
  obtain ⟨branches, branched⟩ := @insertBranch_first s (initialBranch c) rfl
  obtain ⟨continuations, continued⟩ :=
    @insertContinuation_first { s with actionBranches := branches } c rfl owner
  obtain ⟨events, event⟩ := @insertOutbox_first { s with actionBranches := branches, continuations }
    command.outboxEvent rfl positive
  obtain ⟨transitions, genesis⟩ := @recordGenesis_first
    { s with actionBranches := branches, continuations, outboxEvents := events } command _ rfl known
  have absent : (sampleDb leaf).store.getDelegation command.delegation.delegationId = none := by
    simp [Store.getDelegation, Table.find?, sampleDb, sourceDelegation, delegation.symm]
  have others : (sampleDb leaf).store.plans.rows.any (·.planId = command.plan.planId) = false := by
    simp [sampleDb, sourcePlan, plan.symm]
  refine ⟨{ s with actionBranches := branches, continuations, outboxEvents := events, transitions }, ?_⟩
  have clear : ¬ (((sampleDb leaf).store.getDelegation command.delegation.delegationId).isSome ∨
      (sampleDb leaf).store.plans.rows.any (·.planId = command.plan.planId) ∨
      ((sampleDb leaf).store.outboxEvents.find? command.outboxEvent.eventId).isSome ∨
      command.initialContinuation.any
        (fun c => ((sampleDb leaf).store.getContinuation c.continuationId).isSome) ∨
      (false = true)) := by
    rw [absent, others, initial]
    simp [sampleDb, Store.initial, Store.getContinuation, Table.find?, Table.empty]
  unfold createFoundationInTx
  refine (if_neg clear).trans ?_
  simp only [sampleAttempt]
  rw [ok_bind, rows, ok_bind, planRow, ok_bind, initial]
  simp only [Store.insertOptional, Store.insertInitialContinuation]
  rw [branched, ok_bind, continued, ok_bind, event, ok_bind, genesis, ok_bind]
  have reloaded : ∀ t : Store, t.delegations = delegations →
      required "created ExecAss foundation could not be reloaded"
        (t.getDelegation command.delegation.delegationId) = .ok command.delegation := by
    rintro t rfl
    exact required_ok.mpr found
  rw [reloaded _ rfl]
  rfl

theorem sample_created : ∃ store, createFoundationInTx (sampleAttempt m leaf 2).outside.foundation
    (savedCommand c m leaf) (sampleDb leaf).store =
      .ok (.created (savedCommand c m leaf).delegation, store) := by
  have delegation : (savedCommand c m leaf).delegation.delegationId ≠ ['d'] := by
    simp only [savedCommand, foundationCommand]
    exact deterministicId_ne
  have plan : (savedCommand c m leaf).plan.planId ≠ ['p'] := by
    simp only [savedCommand, foundationCommand]
    exact deterministicId_ne
  exact found_beside delegation plan rfl rfl rfl Int.zero_lt_one

theorem sample_settled {db : Db} {delegationId : Text} (rows : db.occurrences = (sampleDb leaf).occurrences)
    (jobs : db.jobs = (sampleDb leaf).jobs) (bindings : db.jobBindings = [(['o'], ['j'])])
    (drivers : db.driverJobs = []) (operations : db.operations = .empty) :
    ∃ next, db.settle asciiCrates ⟨['o'], ['j'], ['w'], 9, 2⟩ sampleOccurrence m delegationId =
      .ok next := by
  obtain ⟨store, originalIntent, criteria, authorities, grants, routines, versions, occurrences,
    jobBindings, driverJobs, jobRows, operationRows⟩ := db
  cases rows
  cases jobs
  cases bindings
  cases drivers
  cases operations
  exact ⟨_, rfl⟩

theorem sample_admitted (saved : OfSource c) (sole : m.leaves = [leaf])
    (action : leaf.logicalActionId = deterministicRoutineOccurrenceActionId asciiCrates ['o'])
    (intent : ownerNormalizedIntentDigest asciiCrates ['n'] =
      some leaf.ownerAuthority.normalizedIntentDigest.val)
    (provenance : requireText "plan.created_by_authority_provenance_id"
      leaf.ownerAuthority.authorityProvenanceId = .ok ()) :
    ∃ delegationId continuationId next, admitClaimedRoutineOccurrence asciiCrates (fun _ => true)
      (sampleAttempt m leaf 2).request m (sampleAttempt m leaf 2).proof (sampleAttempt m leaf 2).outside
        (savedDb c leaf) = .ok (.admitted ['o'] delegationId continuationId, next) := by
  obtain ⟨store, created⟩ := @sample_created c m leaf
  have founded : ∃ founded, (savedDb c leaf).found (sampleAttempt m leaf 2).outside.foundation
      (sampleVersion leaf) (savedCommand c m leaf) = .ok founded ∧
        founded.occurrences = (savedDb c leaf).occurrences ∧ founded.jobs = (savedDb c leaf).jobs ∧
        founded.jobBindings = [(['o'], ['j'])] ∧ founded.driverJobs = [] ∧
        founded.operations = .empty := by
    unfold Db.found
    rw [show (savedDb c leaf).store = (sampleDb leaf).store from rfl, created]
    exact ⟨_, rfl, rfl, rfl, rfl, rfl, rfl⟩
  obtain ⟨founded, wrote, rows, jobs, bindings, drivers, operations⟩ := founded
  obtain ⟨next, settled⟩ := @sample_settled m leaf founded
    (savedCommand c m leaf).delegation.delegationId rows jobs bindings drivers operations
  have checked : checkRequest (sampleAttempt m leaf 2).request = .ok () := rfl
  have only : soleLeaf m = .ok leaf := by rw [soleLeaf, sole]
  have stored : (savedDb c leaf).occurrences.find? (sampleAttempt m leaf 2).request.occurrenceId =
      some sampleOccurrence := rfl
  have version : (savedDb c leaf).versions.find? (sampleOccurrence.routineId,
      sampleOccurrence.routineVersion) = some (sampleVersion leaf) := rfl
  have routine : (savedDb c leaf).routines.find? sampleOccurrence.routineId =
      some ⟨['r'], 1, true, 1⟩ := rfl
  obtain ⟨continuation, continued⟩ : ∃ continuation,
    (savedCommand c m leaf).initialContinuation = some continuation :=
    ⟨_, rfl⟩
  have request : (sampleAttempt m leaf 2).request = ⟨['o'], ['j'], ['w'], 9, 2⟩ := rfl
  refine ⟨(savedCommand c m leaf).delegation.delegationId,
    continuation.continuationId, next, ?_⟩
  unfold admitClaimedRoutineOccurrence
  rw [checked, ok_bind, only, ok_bind, stored]
  have causation : (savedCommand c m leaf).write.causationId = sampleOccurrence.occurrenceId := rfl
  have dispatched : dispatchOccurrence asciiCrates (fun _ => true) (sampleAttempt m leaf 2).request m
      (sampleAttempt m leaf 2).proof (sampleAttempt m leaf 2).outside sampleOccurrence leaf
        (savedDb c leaf) =
      admitUnsettled asciiCrates (fun _ => true) (sampleAttempt m leaf 2).request m
        (sampleAttempt m leaf 2).proof (sampleAttempt m leaf 2).outside sampleOccurrence leaf
          (savedDb c leaf) := rfl
  simp only [required, ok_bind]
  rw [dispatched]
  unfold admitUnsettled
  rw [version, routine]
  simp only [required, ok_bind, sample_allowed (rfl : (sampleAttempt m leaf 2).request = _)]
  unfold admitOccurrence
  rw [ensured (sample_saved action intent), ok_bind, sample_verified sole, ok_bind]
  simp only [requireConfirmation, ok_bind]
  rw [show (sampleAttempt m leaf 2).request.trustedNow = 2 from rfl, sample_command saved, ok_bind,
    ensured causation, ok_bind, sample_valid saved action provenance, ok_bind]
  rw [continued]
  simp only [required, ok_bind]
  rw [wrote, ok_bind, request, settled, ok_bind]

end Sample

end CarsinOS.Routine
