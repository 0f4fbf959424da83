import CarsinOS.Lib.Run
import CarsinOS.Notification.Delivery

/-! The store of notifications as one commit follows another. -/
namespace CarsinOS.Notification
open CarsinOS.Lib CarsinOS.Integrity CarsinOS.Routine
open CarsinOS.Delegation (NewOutboxEvent)
open CarsinOS.Receipt (ReceiptRedactor)

def Db.empty : Db where
  attentionItems := .empty
  delegations := .empty
  decisions := .empty
  challenges := .empty
  assessments := .empty
  assessmentReceipts := []
  notifications := .empty
  outboxEvents := .empty

/-- The commands that are not about notifications. An event is never deleted, nor is a decision or
its challenge; a decision stays dangerous or not, an expiry stays as it is, and only a dangerous
decision is challenged. -/
structure Aside (before after : Db) : Prop where
  notifications : after.notifications = before.notifications
  outbox : ∃ events, after.outboxEvents.rows = before.outboxEvents.rows ++ events ∧
    ∀ event ∈ events, event.eventName ≠ .notificationScheduled
  decisions : ∀ id decision, before.decisions.find? id = some decision →
    ∃ later, after.decisions.find? id = some later ∧ later.dangerous = decision.dangerous
  challenges : ∀ id challenge, before.challenges.find? id = some challenge →
    ∃ later, after.challenges.find? id = some later ∧ later.expiresAt = challenge.expiresAt
  challenged : ∀ id challenge, after.challenges.find? id = some challenge →
    before.challenges.find? id = none →
    ∃ decision, after.decisions.find? id = some decision ∧ decision.dangerous = true

inductive Commit where
  | schedule (command : NotificationScheduleCommand)
  | advance (notificationId : Text) (trustedNow : Int)
  | aside

section Steps
variable (C : Crates) (K : TimeCrates) (redactor : ReceiptRedactor)

inductive Step : Db → Commit → Db → Prop where
  | schedule {before after : Db} {command : NotificationScheduleCommand}
      {outcome : NotificationScheduleOutcome}
      (done : scheduleNotification C K redactor command before = .ok (outcome, after)) :
      Step before (.schedule command) after
  | advance {before after : Db} {notificationId : Text} {trustedNow : Int}
      {outcome : NotificationScheduleOutcome}
      (done : advanceNotificationReminder K notificationId trustedNow before =
        .ok (outcome, after)) :
      Step before (.advance notificationId trustedNow) after
  | aside {before after : Db} (beside : Aside before after) : Step before .aside after

def Reached (db : Db) : Prop := ∃ commits, Run (Step C K redactor) .empty commits db

end Steps

/-! What one command does. -/

/-- The rows of a scheduled notification. -/
structure Added (row : NotificationRow) (event : NewOutboxEvent) (before after : Db) : Prop where
  events : after.outboxEvents.rows = before.outboxEvents.rows ++ [event]
  notifications : after.notifications.rows = before.notifications.rows ++ [row]
  rest : after = { before with
    outboxEvents := after.outboxEvents, notifications := after.notifications }
  unlike : ∀ other ∈ before.notifications.rows, other.dedupeKey ≠ row.dedupeKey

/-- One notification has become another of the same identity. -/
structure Changed (stored new : NotificationRow) (before after : Db) : Prop where
  present : stored ∈ before.notifications.rows
  rows : after.notifications.rows = before.notifications.rows.map fun row =>
    if row.notificationId = stored.notificationId then new else row
  rest : after = { before with notifications := after.notifications }

theorem Changed.mem {stored new row : NotificationRow} {before after : Db}
    (changed : Changed stored new before after) :
    row ∈ after.notifications.rows ↔ row = new ∨
      row ∈ before.notifications.rows ∧ row.notificationId ≠ stored.notificationId := by
  rw [changed.rows, List.mem_map]
  constructor
  · rintro ⟨old, present, rfl⟩
    split
    · exact .inl rfl
    · rename_i other
      exact .inr ⟨present, other⟩
  · rintro (rfl | ⟨present, other⟩)
    · exact ⟨stored, changed.present, if_pos rfl⟩
    · exact ⟨row, present, if_neg other⟩

theorem insertOutbox_ok {db after : Db} {event : NewOutboxEvent} :
    db.insertOutbox event = .ok after ↔ 0 < event.aggregateRevision ∧
      (∀ other ∈ db.outboxEvents.rows, other.duplicateIdentity ≠ event.duplicateIdentity ∧
        (other.eventName, other.aggregateId, other.aggregateRevision, other.causationId) ≠
          (event.eventName, event.aggregateId, event.aggregateRevision, event.causationId)) ∧
      ∃ events, db.outboxEvents.insert? event = some events ∧
        after = { db with outboxEvents := events } := by
  simp only [Db.insertOutbox, bind_ok, ensure_ok, exists_and_left, exists_const]
  refine and_congr_right fun _ => and_congr_right fun _ => ?_
  cases db.outboxEvents.insert? event with
  | none => simp [bail]
  | some events => simp [eq_comm]

theorem insertNotification_ok {db after : Db} {row : NotificationRow} :
    db.insertNotification row = .ok after ↔
      (0 < row.reasonRevision ∧ row.attentionVariant ≠ some .runtimePaused ∧
        row.reminderCount ≤ MAX_REMINDERS ∧
        row.attentionId.isSome ≠ row.completionAssessmentId.isSome) ∧
      (refers db.attentionItems row.attentionId = true ∧
        refers db.assessments row.completionAssessmentId = true ∧
        refers db.outboxEvents (some row.outboxEventId) = true ∧
        refers db.delegations (some row.delegationId) = true ∧
        refers db.decisions row.decisionId = true) ∧
      (∀ other ∈ db.notifications.rows, other.outboxEventId ≠ row.outboxEventId ∧
        other.idempotencyKey ≠ row.idempotencyKey ∧ other.dedupeKey ≠ row.dedupeKey) ∧
      ∃ notifications, db.notifications.insert? row = some notifications ∧
        after = { db with notifications } := by
  simp only [Db.insertNotification, bind_ok, ensure_ok, exists_and_left, exists_const]
  refine and_congr_right fun _ => and_congr_right fun _ => and_congr_right fun _ => ?_
  cases db.notifications.insert? row with
  | none => simp [bail]
  | some notifications => simp [eq_comm]

/-- No notification has the identity, the idempotency key or the dedupe key of the command. -/
def Unheard (db : Db) (command : NotificationScheduleCommand) : Prop :=
  db.notifications.find? command.notificationId = none ∧
    db.findNotificationByIdempotency command.idempotencyKey = none ∧
    db.findNotificationByDedupe command = none

section Commands
variable {C : Crates} {K : TimeCrates} {redactor : ReceiptRedactor} {before after : Db}
  {command : NotificationScheduleCommand} {outcome : NotificationScheduleOutcome}

/-- A command that is carried out leaves the store as it was or adds a notification. -/
theorem schedule_cases
    (done : scheduleNotification C K redactor command before = .ok (outcome, after)) :
    after = before ∨ Unheard before command ∧ ∃ scheduledAt binding,
      deferForQuietHours K command.scheduledAt command.quietHours = .ok scheduledAt ∧
      before.currentNotificationBinding command scheduledAt = some binding ∧
      Added (newNotification C command binding scheduledAt) (notificationEvent C command binding)
        before after := by
  simp only [scheduleNotification, bind_ok] at done
  obtain ⟨_, _, done⟩ := done
  split at done
  · cases done
    exact .inl rfl
  rename_i id
  split at done
  · cases done
    exact .inl rfl
  rename_i key
  split at done
  · cases done
    exact .inl rfl
  rename_i dedupe
  simp only [bind_ok] at done
  obtain ⟨scheduledAt, deferred, done⟩ := done
  split at done
  · cases done
    exact .inl rfl
  rename_i binding bound
  simp only [bind_ok] at done
  obtain ⟨middle, published, last, inserted, done⟩ := done
  cases done
  obtain ⟨_, _, events, appended, rfl⟩ := insertOutbox_ok.mp published
  obtain ⟨_, _, unlike, notifications, added, rfl⟩ := insertNotification_ok.mp inserted
  exact .inr ⟨⟨id, key, dedupe⟩, scheduledAt, binding, deferred, bound, Table.insert?_rows appended,
    Table.insert?_rows added, rfl, fun other present => (unlike other present).2.2⟩

/-- The row of a notification after a reminder. -/
def NotificationRow.reminded (row : NotificationRow) (trustedNow : Int) (next : Option Int) :
    NotificationRow :=
  { row with
    reminderCount := row.reminderCount + 1, lastRemindedAt := some trustedNow
    nextReminderAt := next, updatedAt := trustedNow }

def NotificationRow.cancelledAt (row : NotificationRow) (now : Int) : NotificationRow :=
  { row with status := .cancelled, nextReminderAt := none, updatedAt := now }

theorem update_changed {stored : NotificationRow} {change : NotificationRow → NotificationRow}
    {keeps : ∀ row, (change row).notificationId = row.notificationId}
    (present : stored ∈ before.notifications.rows)
    (updated : before.updateNotification stored change keeps = .ok after) :
    Changed stored (change stored) before after ∧ Monotonic stored (change stored) := by
  simp only [Db.updateNotification, bind_ok, ensure_ok] at updated
  obtain ⟨_, ⟨monotonic, _⟩, updated⟩ := updated
  cases updated
  refine ⟨⟨present, ?_, rfl⟩, monotonic⟩
  simp only [Table.update, decide_eq_true_eq]
  apply List.map_congr_left
  intro row member
  split
  · rename_i same
    rw [Table.eq_of_key member present same]
  · rfl

/-- A reminder is due: the notification is actionable and its next one is not in the future. -/
structure Due (db : Db) (stored : NotificationRow) (trustedNow : Int) : Prop where
  live : stored.isCancelled = false
  actionable : db.actionableAt stored trustedNow = true
  below : stored.reminderCount < MAX_REMINDERS
  passed : ∃ next, stored.nextReminderAt = some next ∧ next ≤ trustedNow

theorem advance_cases {notificationId : Text} {trustedNow : Int}
    (done : advanceNotificationReminder K notificationId trustedNow before = .ok (outcome, after)) :
    after = before ∨ ∃ stored, before.notifications.find? notificationId = some stored ∧
      (Changed stored (stored.cancelledAt trustedNow) before after ∨
        Due before stored trustedNow ∧ ∃ next, before.reminderAfter K stored trustedNow = .ok next ∧
          Changed stored (stored.reminded trustedNow next) before after) := by
  simp only [advanceNotificationReminder, bind_ok] at done
  obtain ⟨_, _, _, _, done⟩ := done
  split at done
  · cases done
    exact .inl rfl
  rename_i stored found
  have present := Table.find?_mem found
  split at done
  · simp only [cancelNotification, bind_ok] at done
    obtain ⟨changed, updated, done⟩ := done
    cases done
    exact .inr ⟨stored, found, .inl (update_changed present updated).1⟩
  rename_i live
  split at done
  · cases done
    exact .inl rfl
  rename_i passed
  simp only [bind_ok] at done
  obtain ⟨next, computed, changed, updated, done⟩ := done
  cases done
  refine .inr ⟨stored, found, .inr ⟨?_, next, computed, (update_changed present updated).1⟩⟩
  rw [not_or, Bool.not_eq_true, Bool.not_eq_false] at live
  rw [not_or, Nat.not_le] at passed
  refine ⟨live.1, live.2, passed.1, ?_⟩
  cases due : stored.nextReminderAt with
  | none => simp [due] at passed
  | some next => exact ⟨next, rfl, by simpa [due] using passed.2⟩

end Commands
end CarsinOS.Notification
