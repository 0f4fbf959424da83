import CarsinOS.Lib.Table
import CarsinOS.Receipt.Redaction
import CarsinOS.Routine.Schedule
import CarsinOS.Delegation.Records
import CarsinOS.Delegation.Rebuild

/-! The notifications of a delegation: when one is scheduled, past quiet hours, and the reminders
that follow it. Instants are in milliseconds. -/
namespace CarsinOS.Notification
open CarsinOS.Lib CarsinOS.Integrity CarsinOS.Routine
open CarsinOS.Delegation (NewOutboxEvent AttentionKind AttentionStatus DelegationPhase requireText)
open CarsinOS.Receipt (ReceiptRedactor)

def REMINDER_INTERVAL_MS : Int := 60 * 60 * 1000

def MAX_REMINDERS : Nat := 3

def I64_MAX : Int := 2 ^ 63 - 1

/-! Quiet hours. -/

structure QuietHoursPolicy where
  timezone : String
  startMinute : Nat
  endMinute : Nat
  deriving DecidableEq

def minutesPerDay : Nat := 24 * 60

/-- The minute of the day of a local time. -/
def minuteOfDay (localTime : Int) : Int := localTime / 60 % minutesPerDay

/-- The minute is in the local interval, which may go past midnight. -/
def QuietHoursPolicy.quiet (policy : QuietHoursPolicy) (minute : Int) : Bool :=
  if policy.startMinute < policy.endMinute then
    policy.startMinute ≤ minute && minute < policy.endMinute
  else policy.startMinute ≤ minute || minute < policy.endMinute

section Quiet
variable (K : TimeCrates)

def validateQuietHours (policy : QuietHoursPolicy) : Anyhow Tz :=
  if policy.startMinute ≥ minutesPerDay ∨ policy.endMinute ≥ minutesPerDay ∨
      policy.startMinute = policy.endMinute then
    bail "quiet hours must be a non-empty local interval"
  else withContext "invalid IANA quiet-hours timezone" (K.fromStr policy.timezone)

/-- The tries that are left of the loop, from a local time on. -/
def resolveQuietFrom (tz : Tz) : Nat → Int → Anyhow Int
  | 0, _ => bail "quiet-hours end did not resolve within 24 hours"
  | tries + 1, localTime =>
    match fromLocalDatetime tz localTime with
    | .none =>
      if InRange (localTime + 60) then resolveQuietFrom tz tries (localTime + 60)
      else bail "quiet-hours DST advance overflowed"
    | .single instant => .ok (1000 * instant)
    | .ambiguous _ later => .ok (1000 * later)

def resolveQuietEnd (tz : Tz) (date : Int) (minute : Nat) : Anyhow Int :=
  resolveQuietFrom tz (24 * 60 + 1) (localSchedule date (minute / 60) (minute % 60))

/-- The local time of an instant. One out of range panics. -/
def localTimeOf (tz : Tz) (atMs : Int) : Anyhow Int :=
  let instant := atMs / 1000
  if ¬ InRange instant then bail "notification timestamp is invalid"
  else if ¬ InRange (instant + tz.offset instant) then bail "Local time out of range"
  else .ok (instant + tz.offset instant)

def deferInTimezone (tz : Tz) (policy : QuietHoursPolicy) (atMs : Int) : Anyhow Int := do
  let localTime ← localTimeOf tz atMs
  let minute := minuteOfDay localTime
  if policy.quiet minute = false then .ok atMs
  else
    let date := localTime / secondsPerDay
    if policy.startMinute > policy.endMinute ∧ policy.startMinute ≤ minute then
      if MAX_DATE < date + 1 then bail "quiet-hours local date overflow"
      else resolveQuietEnd tz (date + 1) policy.endMinute
    else resolveQuietEnd tz date policy.endMinute

def deferForQuietHours (atMs : Int) : Option QuietHoursPolicy → Anyhow Int
  | none => .ok atMs
  | some policy => do deferInTimezone (← validateQuietHours K policy) policy atMs

end Quiet

def boundedNextReminder (scheduledAt : Int) (deadline : Option Int) : Option Int :=
  if I64_MAX < scheduledAt + REMINDER_INTERVAL_MS then none
  else
    match deadline with
    | some deadline =>
      if deadline ≤ scheduledAt then none
      else some (min (scheduledAt + REMINDER_INTERVAL_MS) deadline)
    | none => some (scheduledAt + REMINDER_INTERVAL_MS)

/-! The rows. -/

/-- An attention item of a delegation. -/
structure AttentionRow where
  attentionId : Text
  delegationId : Text
  decisionId : Option Text
  kind : AttentionKind
  status : AttentionStatus
  delegationRevision : Int
  ofDelegation : kind ≠ .runtimePaused

structure DelegationRow where
  delegationId : Text
  phase : DelegationPhase
  stateRevision : Int
  pendingDecisionId : Option Text
  terminalAt : Option Int
  completionAssessmentJson : Option Text
  positive : 0 < stateRevision

structure DecisionRow where
  decisionId : Text
  delegationId : Text
  decisionRevision : Int
  delegationRevision : Int
  /-- The decision is a dangerous-action confirmation. -/
  dangerous : Bool
  pending : Bool

/-- A confirmation challenge, of which a decision has one at most. -/
structure ChallengeRow where
  decisionId : Text
  pending : Bool
  expiresAt : Int

structure AssessmentRow where
  assessmentId : Text
  delegationId : Text
  assessmentRevision : Int
  terminalPhase : DelegationPhase
  assessmentJson : Text
  noRemainingPath : Bool

/-- A receipt of a completion assessment. -/
structure AssessmentReceiptRow where
  delegationId : Text
  subjectId : Text
  subjectRevision : Int

inductive NotificationStatus where
  | scheduled | dispatched | cancelled | failed
  deriving DecidableEq

structure NotificationRow where
  notificationId : Text
  attentionId : Option Text
  completionAssessmentId : Option Text
  outboxEventId : Text
  delegationId : Text
  decisionId : Option Text
  reasonRevision : Int
  attentionVariant : Option AttentionKind
  reason : Text
  channel : Text
  status : NotificationStatus
  safePayloadJson : Text
  requestedAt : Int
  scheduledAt : Int
  nextReminderAt : Option Int
  quietHours : Option QuietHoursPolicy
  reminderCount : Nat
  lastRemindedAt : Option Int
  updatedAt : Int
  idempotencyKey : Text
  deriving DecidableEq

structure Db where
  attentionItems : Table AttentionRow.attentionId
  delegations : Table DelegationRow.delegationId
  decisions : Table DecisionRow.decisionId
  challenges : Table ChallengeRow.decisionId
  assessments : Table AssessmentRow.assessmentId
  assessmentReceipts : List AssessmentReceiptRow
  notifications : Table NotificationRow.notificationId
  outboxEvents : Table NewOutboxEvent.eventId

/-! The commands. -/

inductive NotificationSource where
  | attention (attentionId : Text)
  | completion (completionAssessmentId : Text) (completionEnabled : Bool)
  deriving DecidableEq

/-- The payload is its canonical text. -/
structure NotificationScheduleCommand where
  notificationId : Text
  source : NotificationSource
  delegationId : Text
  decisionId : Option Text
  reasonRevision : Int
  channel : Text
  reason : Text
  safePayload : Text
  scheduledAt : Int
  quietHours : Option QuietHoursPolicy
  idempotencyKey : Text

structure NotificationScheduleRecord where
  notificationId : Text
  scheduledAt : Int
  nextReminderAt : Option Int
  reminderCount : Nat
  lastRemindedAt : Option Int
  cancelled : Bool
  deriving DecidableEq

inductive NotificationScheduleOutcome where
  | scheduled (record : NotificationScheduleRecord)
  | replayed (record : NotificationScheduleRecord)
  | cancelled (record : NotificationScheduleRecord)
  | conflict
  | notActionable
  deriving DecidableEq

def NotificationRow.isCancelled (row : NotificationRow) : Bool := row.status = .cancelled

def NotificationRow.record (row : NotificationRow) : NotificationScheduleRecord where
  notificationId := row.notificationId
  scheduledAt := row.scheduledAt
  nextReminderAt := row.nextReminderAt
  reminderCount := row.reminderCount
  lastRemindedAt := row.lastRemindedAt
  cancelled := row.isCancelled

/-! What is read. -/

/-- The expiry of the challenge of a decision. -/
def Db.deadline (db : Db) (decisionId : Option Text) : Option Int :=
  ((decisionId.bind db.decisions.find?).bind fun decision =>
    db.challenges.find? decision.decisionId).map (·.expiresAt)

def Db.findNotificationByIdempotency (db : Db) (key : Text) : Option NotificationRow :=
  db.notifications.rows.find? (·.idempotencyKey = key)

/-- The key that two notifications must not share. -/
def NotificationRow.dedupeKey (row : NotificationRow) : Text × Text × Int × Text :=
  (row.delegationId, row.decisionId.getD [], row.reasonRevision, row.channel)

def Db.findNotificationByDedupe (db : Db) (command : NotificationScheduleCommand) :
    Option NotificationRow :=
  db.notifications.rows.find? fun row => row.delegationId = command.delegationId &&
    row.decisionId = command.decisionId && row.reasonRevision = command.reasonRevision &&
    row.channel = command.channel

/-- The decision is the pending one of the delegation, and its challenge has not expired. -/
def Db.decisionActionable (db : Db) (d : DelegationRow) (decisionId : Text) (reasonRevision now : Int) :
    Bool :=
  d.pendingDecisionId = some decisionId &&
    match db.decisions.find? decisionId with
    | none => false
    | some decision => decision.pending && decision.decisionRevision = reasonRevision &&
      match db.challenges.find? decisionId with
      | none => true
      | some challenge => challenge.pending && now < challenge.expiresAt

def Db.actionableAt (db : Db) (row : NotificationRow) (now : Int) : Bool :=
  match row.attentionId with
  | none => row.completionAssessmentId.isSome
  | some attentionId =>
    match db.attentionItems.find? attentionId with
    | none => false
    | some a => a.delegationId = row.delegationId && a.decisionId = row.decisionId &&
      a.status = .actionable &&
      match db.delegations.find? a.delegationId with
      | none => false
      | some d => d.stateRevision = a.delegationRevision && !d.phase.isTerminal &&
        match a.decisionId with
        | none => true
        | some decisionId => db.decisionActionable d decisionId row.reasonRevision now

structure AttentionBinding where
  attentionId : Option Text
  completionAssessmentId : Option Text
  attentionVariant : Option AttentionKind
  deadlineMs : Option Int
  delegationStateRevision : Int

/-- The pending decision of an attention item, its revision and its deadline. -/
def Db.boundDecision (db : Db) (a : AttentionRow) (d : DelegationRow) (decisionId : Text)
    (effectiveScheduledAt : Int) : Option (Int × Option Int) :=
  match db.decisions.find? decisionId with
  | none => none
  | some decision =>
    if d.pendingDecisionId = some decisionId ∧ decision.pending = true ∧
        decision.delegationId = a.delegationId ∧
        decision.delegationRevision = a.delegationRevision then
      match db.challenges.find? decisionId with
      | some challenge =>
        if decision.dangerous = true ∧ challenge.pending = true ∧
            effectiveScheduledAt < challenge.expiresAt then
          some (decision.decisionRevision, some challenge.expiresAt)
        else none
      | none => if decision.dangerous then none else some (decision.decisionRevision, none)
    else none

def Db.currentAttentionBinding (db : Db) (command : NotificationScheduleCommand)
    (attentionId : Text) (effectiveScheduledAt : Int) : Option AttentionBinding :=
  match db.attentionItems.find? attentionId with
  | none => none
  | some a =>
    match db.delegations.find? a.delegationId with
    | none => none
    | some d =>
      if a.delegationId = command.delegationId ∧ a.decisionId = command.decisionId ∧
          a.status = .actionable ∧ d.stateRevision = a.delegationRevision ∧
          d.phase.isTerminal = false then
        match a.decisionId with
        | none =>
          if a.delegationRevision = command.reasonRevision then
            some ⟨some attentionId, none, some a.kind, none, d.stateRevision⟩
          else none
        | some decisionId =>
          match db.boundDecision a d decisionId effectiveScheduledAt with
          | none => none
          | some (reasonRevision, deadline) =>
            if reasonRevision = command.reasonRevision then
              some ⟨some attentionId, none, some a.kind, deadline, d.stateRevision⟩
            else none
      else none

/-- The assessment that ended the delegation, under one receipt and no newer one. -/
def Db.currentCompletionBinding (db : Db) (command : NotificationScheduleCommand)
    (assessmentId : Text) : Option AttentionBinding :=
  match db.assessments.find? assessmentId with
  | none => none
  | some assessment =>
    match db.delegations.find? assessment.delegationId with
    | none => none
    | some d =>
      if assessment.delegationId = command.delegationId ∧ d.phase = assessment.terminalPhase ∧
          d.terminalAt ≠ none ∧ d.completionAssessmentJson = some assessment.assessmentJson ∧
          assessment.noRemainingPath = true ∧
          (db.assessmentReceipts.countP fun receipt =>
            receipt.delegationId = assessment.delegationId && receipt.subjectId = assessmentId &&
            receipt.subjectRevision = assessment.assessmentRevision) = 1 ∧
          (∀ newer ∈ db.assessments.rows, newer.delegationId = assessment.delegationId →
            newer.assessmentRevision ≤ assessment.assessmentRevision) ∧
          assessment.assessmentRevision = command.reasonRevision then
        some ⟨none, some assessmentId, none, none, d.stateRevision⟩
      else none

def Db.currentNotificationBinding (db : Db) (command : NotificationScheduleCommand)
    (effectiveScheduledAt : Int) : Option AttentionBinding :=
  match command.source with
  | .attention attentionId => db.currentAttentionBinding command attentionId effectiveScheduledAt
  | .completion assessmentId enabled =>
    if enabled then db.currentCompletionBinding command assessmentId else none

/-! What is written. -/

/-- The identity indices of the outbox. -/
def Db.insertOutbox (db : Db) (event : NewOutboxEvent) : Anyhow Db := do
  ensure (0 < event.aggregateRevision) "CHECK constraint failed: aggregate_revision > 0"
  ensure (∀ other ∈ db.outboxEvents.rows, other.duplicateIdentity ≠ event.duplicateIdentity ∧
      (other.eventName, other.aggregateId, other.aggregateRevision, other.causationId) ≠
        (event.eventName, event.aggregateId, event.aggregateRevision, event.causationId))
    "UNIQUE constraint failed: execass_outbox_events"
  match db.outboxEvents.insert? event with
  | some outboxEvents => .ok { db with outboxEvents }
  | none => bail "UNIQUE constraint failed: execass_outbox_events.event_id"

/-- A column that refers to a row of a table is null or the key of one. -/
def refers {ρ : Type} {key : ρ → Text} (table : Table key) : Option Text → Bool
  | none => true
  | some id => (table.find? id).isSome

def Db.insertNotification (db : Db) (row : NotificationRow) : Anyhow Db := do
  ensure (0 < row.reasonRevision ∧ row.attentionVariant ≠ some .runtimePaused ∧
      row.reminderCount ≤ MAX_REMINDERS ∧
      row.attentionId.isSome ≠ row.completionAssessmentId.isSome)
    "CHECK constraint failed: execass_notifications"
  ensure (refers db.attentionItems row.attentionId = true ∧
      refers db.assessments row.completionAssessmentId = true ∧
      refers db.outboxEvents (some row.outboxEventId) = true ∧
      refers db.delegations (some row.delegationId) = true ∧
      refers db.decisions row.decisionId = true) "FOREIGN KEY constraint failed"
  ensure (∀ other ∈ db.notifications.rows, other.outboxEventId ≠ row.outboxEventId ∧
      other.idempotencyKey ≠ row.idempotencyKey ∧ other.dedupeKey ≠ row.dedupeKey)
    "UNIQUE constraint failed: execass_notifications"
  match db.notifications.insert? row with
  | some notifications => .ok { db with notifications }
  | none => bail "UNIQUE constraint failed: execass_notifications.notification_id"

/-- `execass_notifications_monotonic`. -/
def Monotonic (old new : NotificationRow) : Prop :=
  old.reminderCount ≤ new.reminderCount ∧ new.reminderCount ≤ old.reminderCount + 1 ∧
    old.updatedAt ≤ new.updatedAt ∧
    (∀ before ∈ old.lastRemindedAt, ∃ after ∈ new.lastRemindedAt, before ≤ after) ∧
    (old.status = .cancelled → new.status = .cancelled) ∧
    (new.status = .cancelled → new.nextReminderAt = none)

instance (old new : NotificationRow) : Decidable (Monotonic old new) :=
  inferInstanceAs (Decidable (_ ∧ _ ∧ _ ∧ _ ∧ _ ∧ _))

def Db.updateNotification (db : Db) (stored : NotificationRow)
    (change : NotificationRow → NotificationRow)
    (keeps : ∀ row, (change row).notificationId = row.notificationId) : Anyhow Db := do
  ensure (Monotonic stored (change stored) ∧ (change stored).reminderCount ≤ MAX_REMINDERS)
    "ExecAss notification reminder state must advance monotonically"
  .ok { db with
    notifications := db.notifications.update (·.notificationId = stored.notificationId) change keeps }

section Commands
variable (C : Crates) (K : TimeCrates) (redactor : ReceiptRedactor)

def deterministicId (name : Text) (parts : List Text) : Text :=
  name ++ '-' :: (C.sha256 (utf8Bytes name ++ parts.flatMap fun part => 0 :: utf8Bytes part)).val

def intText (n : Int) : Text := (toString n).toList

def scheduledEventId (notificationId : Text) : Text :=
  deterministicId C "notification-scheduled".toList [notificationId]

def dedupeParts (key : Text × Text × Int × Text) : List Text :=
  [key.1, key.2.1, intText key.2.2.1, key.2.2.2]

def dedupeIdentity (key : Text × Text × Int × Text) : Text :=
  deterministicId C "notification-dedupe".toList (dedupeParts key)

def NotificationScheduleCommand.dedupeKey (command : NotificationScheduleCommand) :
    Text × Text × Int × Text :=
  (command.delegationId, command.decisionId.getD [], command.reasonRevision, command.channel)

def optionTree : Option Text → Json
  | none => .null
  | some text => .str text

def notificationEvent (command : NotificationScheduleCommand) (binding : AttentionBinding) :
    NewOutboxEvent where
  eventId := scheduledEventId C command.notificationId
  eventName := .notificationScheduled
  aggregateId := command.delegationId
  aggregateRevision := binding.delegationStateRevision
  correlationId := command.idempotencyKey
  causationId := command.notificationId
  occurredAt := command.scheduledAt
  safePayloadJson := (Json.obj [
    ("attention_id".toList, optionTree binding.attentionId),
    ("channel".toList, .str command.channel),
    ("completion_assessment_id".toList, optionTree binding.completionAssessmentId),
    ("decision_id".toList, optionTree command.decisionId),
    ("delegation_id".toList, .str command.delegationId),
    ("notification_id".toList, .str command.notificationId),
    ("reason_revision".toList, .num (intText command.reasonRevision)),
    ("summary".toList, .str command.reason)]).print
  duplicateIdentity := dedupeIdentity C command.dedupeKey

def validateNotificationCommand (command : NotificationScheduleCommand) : Anyhow Unit := do
  requireText "notification_id" command.notificationId
  requireText "delegation_id" command.delegationId
  requireText "channel" command.channel
  requireText "idempotency_key" command.idempotencyKey
  match command.source with
  | .attention attentionId => requireText "attention_id" attentionId
  | .completion assessmentId _ => requireText "completion_assessment_id" assessmentId
  ensure (0 < command.reasonRevision ∧ 0 < command.scheduledAt)
    "notification has an invalid revision or timestamp"
  redactor.rejectSensitiveBytes (utf8Bytes command.reason)
  redactor.rejectSensitiveBytes (utf8Bytes command.safePayload)
  match command.quietHours with
  | none => .ok ()
  | some policy => do
    let _ ← validateQuietHours K policy
    .ok ()

def notificationSourceMatches (existing : NotificationRow) : NotificationSource → Bool
  | .attention attentionId =>
    existing.attentionId = some attentionId && existing.completionAssessmentId = none
  | .completion assessmentId enabled =>
    enabled && existing.attentionId = none && existing.completionAssessmentId = some assessmentId

/-- The notification asks for the same as the command. -/
def SameRequest (existing : NotificationRow) (command : NotificationScheduleCommand) : Prop :=
  notificationSourceMatches existing command.source = true ∧
    existing.delegationId = command.delegationId ∧ existing.decisionId = command.decisionId ∧
    existing.reasonRevision = command.reasonRevision ∧ existing.channel = command.channel ∧
    existing.reason = command.reason ∧ existing.safePayloadJson = command.safePayload ∧
    existing.quietHours = command.quietHours

instance (existing : NotificationRow) (command : NotificationScheduleCommand) :
    Decidable (SameRequest existing command) :=
  inferInstanceAs (Decidable (_ ∧ _ ∧ _ ∧ _ ∧ _ ∧ _ ∧ _ ∧ _))

def replayed (existing : NotificationRow) : NotificationScheduleOutcome :=
  if existing.isCancelled then .cancelled existing.record else .replayed existing.record

def notificationExactReplayOutcome (existing : NotificationRow)
    (command : NotificationScheduleCommand) : NotificationScheduleOutcome :=
  if SameRequest existing command ∧ existing.notificationId = command.notificationId ∧
      existing.idempotencyKey = command.idempotencyKey ∧
      existing.requestedAt = command.scheduledAt then replayed existing
  else .conflict

def notificationDedupeReplayOutcome (existing : NotificationRow)
    (command : NotificationScheduleCommand) : NotificationScheduleOutcome :=
  if SameRequest existing command then replayed existing else .conflict

/-- The row of a notification that is scheduled. -/
def newNotification (command : NotificationScheduleCommand) (binding : AttentionBinding)
    (scheduledAt : Int) : NotificationRow where
  notificationId := command.notificationId
  attentionId := binding.attentionId
  completionAssessmentId := binding.completionAssessmentId
  outboxEventId := scheduledEventId C command.notificationId
  delegationId := command.delegationId
  decisionId := command.decisionId
  reasonRevision := command.reasonRevision
  attentionVariant := binding.attentionVariant
  reason := command.reason
  channel := command.channel
  status := .scheduled
  safePayloadJson := command.safePayload
  requestedAt := command.scheduledAt
  scheduledAt
  nextReminderAt :=
    if binding.completionAssessmentId.isSome then none
    else boundedNextReminder scheduledAt binding.deadlineMs
  quietHours := command.quietHours
  reminderCount := 0
  lastRemindedAt := none
  updatedAt := scheduledAt
  idempotencyKey := command.idempotencyKey

def scheduleNotification (command : NotificationScheduleCommand) (db : Db) :
    Anyhow (NotificationScheduleOutcome × Db) := do
  validateNotificationCommand K redactor command
  match db.notifications.find? command.notificationId with
  | some existing => .ok (notificationExactReplayOutcome existing command, db)
  | none =>
    match db.findNotificationByIdempotency command.idempotencyKey with
    | some existing => .ok (notificationExactReplayOutcome existing command, db)
    | none =>
      match db.findNotificationByDedupe command with
      | some existing => .ok (notificationDedupeReplayOutcome existing command, db)
      | none => do
        let scheduledAt ← deferForQuietHours K command.scheduledAt command.quietHours
        match db.currentNotificationBinding command scheduledAt with
        | none => .ok (.notActionable, db)
        | some binding => do
          let db ← db.insertOutbox (notificationEvent C command binding)
          let row := newNotification C command binding scheduledAt
          let db ← db.insertNotification row
          .ok (.scheduled row.record, db)

def cancelNotification (stored : NotificationRow) (now : Int) (db : Db) :
    Anyhow (NotificationScheduleOutcome × Db) := do
  let db ← db.updateNotification stored (fun row => { row with
    status := .cancelled, nextReminderAt := none, updatedAt := now }) fun _ => rfl
  .ok (.cancelled { stored.record with nextReminderAt := none, cancelled := true }, db)

/-- The reminder that follows one of a notification; the third is followed by none. -/
def Db.reminderAfter (db : Db) (stored : NotificationRow) (trustedNow : Int) :
    Anyhow (Option Int) :=
  if MAX_REMINDERS ≤ stored.reminderCount + 1 then .ok none
  else do
    let deferred ← deferForQuietHours K trustedNow stored.quietHours
    .ok (boundedNextReminder deferred (db.deadline stored.decisionId))

def advanceNotificationReminder (notificationId : Text) (trustedNow : Int) (db : Db) :
    Anyhow (NotificationScheduleOutcome × Db) := do
  requireText "notification_id" notificationId
  ensure (0 < trustedNow) "notification reminder requires a positive trusted clock"
  match db.notifications.find? notificationId with
  | none => .ok (.notActionable, db)
  | some stored =>
    if stored.isCancelled = true ∨ db.actionableAt stored trustedNow = false then
      cancelNotification stored trustedNow db
    else if MAX_REMINDERS ≤ stored.reminderCount ∨
        stored.nextReminderAt.all (trustedNow < ·) = true then
      .ok (.scheduled stored.record, db)
    else do
      let nextCount := stored.reminderCount + 1
      let next ← db.reminderAfter K stored trustedNow
      let db ← db.updateNotification stored (fun row => { row with
        reminderCount := nextCount, lastRemindedAt := some trustedNow, nextReminderAt := next
        updatedAt := trustedNow }) fun _ => rfl
      .ok (.scheduled { stored.record with
        nextReminderAt := next, reminderCount := nextCount
        lastRemindedAt := some trustedNow, cancelled := false }, db)

end Commands
end CarsinOS.Notification
