import CarsinOS.Routine.Admission

/-! The other statements on the occurrences of a routine: their reservation, the plan of an
admission, the settlement of a trigger, and the pause of a routine. -/
namespace CarsinOS.Routine
open CarsinOS.Lib CarsinOS.Actor CarsinOS.Integrity CarsinOS.Delegation

/-- `i64::to_le_bytes`. -/
def littleEndian (value : Int) : List UInt8 := (bigEndian (value % 2 ^ 64).toNat 8).reverse

inductive RoutineAdmissionOutcome where
  | planned (occurrence : RoutineOccurrenceRecord) (version : RoutineVersionRecord)
      (triggerJobId : Text)
  | replayed (occurrence : RoutineOccurrenceRecord) (version : RoutineVersionRecord)
      (triggerJobId : Text)
  | refused (reason : String)

inductive RoutineTriggerSettlementOutcome where
  | settled
  | replayed
  | refused (reason : String)

section Triggers
variable (C : Crates) (S : SerdeJson)

def deterministicRoutineOccurrenceId (routineId : Text) (routineVersion scheduledInstantMs : Int) :
    Text :=
  "routine-occurrence-".toList ++ plainDigestHex C (ascii "carsinos.execass.routine_occurrence.v1" ++
    [0] ++ utf8Bytes routineId ++ [0] ++ littleEndian routineVersion ++
    littleEndian scheduledInstantMs)

def deterministicRoutineTriggerJobId (occurrenceId : Text) : Text :=
  "execass-routine-trigger-".toList ++
    plainDigestHex C (ascii "carsinos.execass.routine_trigger_job.v1" ++ [0] ++
      utf8Bytes occurrenceId)

/-- `INSERT OR IGNORE`, which also passes over an instant the routine already has. -/
def Db.reserveOccurrence (db : Db) (row : RoutineOccurrenceRecord) : Db :=
  if db.occurrences.rows.any fun other => other.routineId = row.routineId &&
      other.scheduledInstantMs = row.scheduledInstantMs then db
  else match db.occurrences.insert? row with
    | some occurrences => { db with occurrences }
    | none => db

def Db.reserveJob (db : Db) (job : TriggerJob) : Db :=
  match db.jobs.insert? job with
  | some jobs => { db with jobs }
  | none => db

def Db.reserveBinding (db : Db) (occurrenceId jobId : Text) : Db :=
  if db.jobBindings.any fun binding => binding.1 = occurrenceId || binding.2 = jobId then db
  else { db with jobBindings := db.jobBindings ++ [(occurrenceId, jobId)] }

def triggerJob (record : RoutineOccurrenceRecord) (scheduledInstantMs trustedNow : Int) :
    TriggerJob where
  jobId := deterministicRoutineTriggerJobId C record.occurrenceId
  scheduleKind := EXECASS_ROUTINE_TRIGGER_SCHEDULE_KIND
  payloadJson := routineTriggerPayload record
  enabled := true
  nextRunAt := some scheduledInstantMs
  leaseOwner := none
  leaseExpiresAt := none
  updatedAt := trustedNow
  deleted := false

def reserveCandidate (routine : RoutineRow) (version : RoutineVersionRecord)
    (trustedNow scheduledInstantMs : Int) (db : Db) : Anyhow Db := do
  ensure (0 < scheduledInstantMs) "routine scheduled instant must be positive"
  let occurrenceId := deterministicRoutineOccurrenceId C routine.routineId routine.currentVersion
    scheduledInstantMs
  let db := db.reserveOccurrence {
    occurrenceId
    routineId := routine.routineId
    routineVersion := routine.currentVersion
    scheduledInstantMs
    effectivePolicyRevision := version.effectivePolicyRevision
    status := .planned
    admissionPlanJson := none
    admittedDelegationId := none
    updatedAt := trustedNow }
  let record ← required "routine occurrence disappeared" (db.occurrences.find? occurrenceId)
  ensure (record.routineId = routine.routineId ∧ record.routineVersion = routine.currentVersion ∧
      record.scheduledInstantMs = scheduledInstantMs) "routine occurrence identity collision"
  let job := triggerJob C record scheduledInstantMs trustedNow
  let db := db.reserveJob job
  let stored ← required "routine trigger job identity collision" (db.jobs.find? job.jobId)
  ensure (stored.enabled = true ∧ stored.scheduleKind = job.scheduleKind ∧
      stored.nextRunAt = job.nextRunAt ∧ stored.payloadJson = job.payloadJson ∧
      stored.deleted = false) "routine trigger job identity collision"
  let db := db.reserveBinding occurrenceId job.jobId
  ensure ((occurrenceId, job.jobId) ∈ db.jobBindings) "routine trigger binding collision"
  .ok db

def reserveCandidates (routine : RoutineRow) (version : RoutineVersionRecord) (instants : List Int)
    (trustedNow : Int) (db : Db) : Anyhow Db :=
  instants.foldlM (fun db instant => reserveCandidate C routine version trustedNow instant db) db

/-- The plan text, or why the stored snapshot is no JSON. -/
def planJson (occurrence : RoutineOccurrenceRecord) (version : RoutineVersionRecord)
    (policyRevision : Int) : Anyhow Text := do
  let snapshot ← required "invalid effective policy snapshot"
    (S.value version.effectivePolicySnapshotJson)
  .ok (Json.obj [
    ("effective_policy_revision".toList, number policyRevision),
    ("effective_policy_snapshot".toList, snapshot),
    ("kind".toList, .str "execass.routine_admission_plan.v1".toList),
    ("occurrence_id".toList, .str occurrence.occurrenceId),
    ("routine_id".toList, .str occurrence.routineId),
    ("routine_version".toList, number occurrence.routineVersion),
    ("scheduled_instant_ms".toList, number occurrence.scheduledInstantMs)]).print

/-- The first fact that stands against a plan; a plan does not ask for an enabled trigger. -/
def planRefusal (db : Db) (request : RoutineAdmissionRequest) (occurrence : RoutineOccurrenceRecord)
    (version : RoutineVersionRecord) : Option String :=
  if db.store.globalControl.engaged then some "global_stop_engaged"
  else if policyChanged db occurrence version then some "current_policy_changed"
  else if db.jobs.rows.any (leased db request occurrence) = false then
    some "trigger_lease_or_binding_invalid"
  else none

def planned (before : Db) (occurrenceId : Text) (version : RoutineVersionRecord)
    (triggerJobId : Text) (db : Db) : Anyhow (RoutineAdmissionOutcome × Db) := do
  let row ← required "routine occurrence disappeared after admission"
    (db.occurrences.find? occurrenceId)
  if before.occurrences.matched
      (fun row => row.occurrenceId = occurrenceId && row.status = .planned) = 1 then
    .ok (.planned row version triggerJobId, db)
  else if row.status = .admissionPlanned then .ok (.replayed row version triggerJobId, db)
  else .ok (.refused "occurrence_not_admissible", db)

def planOccurrence (request : RoutineAdmissionRequest) (occurrence : RoutineOccurrenceRecord)
    (routine : RoutineRow) (db : Db) : Anyhow (RoutineAdmissionOutcome × Db) := do
  let version ← required "routine current version is missing"
    (db.versions.find? (routine.routineId, routine.currentVersion))
  match planRefusal db request occurrence version with
  | some reason => .ok (.refused reason, db)
  | none => do
    let plan ← planJson S occurrence version db.store.globalControl.currentPolicyRevision
    let next ← db.updateOccurrences
      (fun row => row.occurrenceId = occurrence.occurrenceId && row.status = .planned)
      (fun row => { row with
        status := .admissionPlanned, admissionPlanJson := some plan
        updatedAt := max row.updatedAt request.trustedNow }) fun _ => rfl
    planned db occurrence.occurrenceId version request.triggerJobId next

def planRoutineOccurrenceAdmission (request : RoutineAdmissionRequest) (db : Db) :
    Anyhow (RoutineAdmissionOutcome × Db) := do
  checkRequest request
  match db.occurrences.find? request.occurrenceId with
  | none => .ok (.refused "occurrence_not_found", db)
  | some occurrence =>
    match db.routines.find? occurrence.routineId with
    | none => .ok (.refused "routine_not_found", db)
    | some routine =>
      if routine.enabled = false then .ok (.refused "routine_paused", db)
      else if routine.currentVersion ≠ occurrence.routineVersion then
        .ok (.refused "routine_version_superseded", db)
      else planOccurrence S request occurrence routine db

def settlementAllowed (db : Db) (request : RoutineAdmissionRequest) : Bool :=
  db.occurrences.rows.any fun occurrence =>
    occurrence.occurrenceId = request.occurrenceId && occurrence.status = .admissionPlanned &&
      db.jobs.rows.any fun job =>
        db.jobBindings.contains (occurrence.occurrenceId, job.jobId) &&
          job.jobId = request.triggerJobId && job.leaseOwner = some request.triggerLeaseOwner &&
          job.leaseExpiresAt = some request.triggerLeaseExpiresAt &&
          request.trustedNow < request.triggerLeaseExpiresAt && !job.deleted

def settleRoutineTrigger (command : RoutineAdmissionRequest) (db : Db) :
    Anyhow (RoutineTriggerSettlementOutcome × Db) := do
  requireText "occurrence_id" command.occurrenceId
  requireText "trigger_job_id" command.triggerJobId
  requireText "trigger_lease_owner" command.triggerLeaseOwner
  if db.operations.rows.any (·.occurrenceId = some command.occurrenceId) then .ok (.replayed, db)
  else if settlementAllowed db command = false then
    .ok (.refused "trigger_lease_or_admission_invalid", db)
  else do
    let recorded ← db.insertOperation {
      operationId := "routine-trigger-settle:".toList ++ command.occurrenceId
      occurrenceId := some command.occurrenceId
      jobId := command.triggerJobId
      operation := .settleTrigger
      leaseOwner := command.triggerLeaseOwner
      leaseExpiresAt := command.triggerLeaseExpiresAt
      occurredAt := command.trustedNow }
    let ended ← recorded.endJobs (fun job => job.jobId = command.triggerJobId) command.trustedNow
    .ok (.settled, ended)

def setRoutineEnabled (routineId : Text) (enabled : Bool) (trustedNow : Int) (db : Db) :
    Anyhow (Bool × Db) := do
  requireText "routine_id" routineId
  ensure (0 < trustedNow) "routine pause/resume requires a positive trusted clock"
  let hit (row : RoutineRow) : Bool := row.routineId = routineId && row.enabled ≠ enabled
  .ok (db.routines.matched hit = 1, { db with
    routines := db.routines.update hit (fun row => { row with
      enabled, updatedAt := max row.updatedAt trustedNow }) fun _ => rfl })

end Triggers

end CarsinOS.Routine
