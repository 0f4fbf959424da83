import CarsinOS.Actor.Provenance
import CarsinOS.Notification.Runs
import CarsinOS.Receipt.Boundary

/-! Which notifications stand in each other's way. -/
namespace CarsinOS.Notification
open CarsinOS.Lib CarsinOS.Integrity CarsinOS.Routine
open CarsinOS.Actor (CollisionFree)
open CarsinOS.Delegation (NewOutboxEvent)
open CarsinOS.Receipt (ReceiptRedactor)

/-- The text that an identity is the digest of: each part follows a NUL. -/
def idText (name : Text) (parts : List Text) : Text := name ++ parts.flatMap ('\x00' :: ·)

def keyText (key : Text × Text × Int × Text) : Text :=
  idText "notification-dedupe".toList (dedupeParts key)

def announcementText (notificationId : Text) : Text :=
  idText "notification-scheduled".toList [notificationId]

/-- The notification is for the delegation, the decision, the revision and the channel of the
command. Its source is not asked for. -/
def Under (row : NotificationRow) (command : NotificationScheduleCommand) : Prop :=
  row.delegationId = command.delegationId ∧ row.decisionId = command.decisionId ∧
    row.reasonRevision = command.reasonRevision ∧ row.channel = command.channel

section Identities
variable {C : Crates} {name : Text} {parts others : List Text}

theorem deterministicId_text :
    deterministicId C name parts = name ++ '-' :: (C.sha256 (utf8Bytes (idText name parts))).val := by
  have nul : String.utf8EncodeChar '\x00' = [0] := by decide
  have each : (parts.flatMap fun part => 0 :: utf8Bytes part) =
      utf8Bytes (parts.flatMap ('\x00' :: ·)) := by
    simp [utf8Bytes, List.flatMap_assoc, nul]
  rw [deterministicId, each, idText]
  simp [utf8Bytes]

/-- Identities of one name are apart where their texts are and do not collide. -/
theorem deterministicId_ne
    (free : CollisionFree C (utf8Bytes (idText name parts)) (utf8Bytes (idText name others)))
    (apart : idText name parts ≠ idText name others) :
    deterministicId C name parts ≠ deterministicId C name others := by
  intro same
  rw [deterministicId_text, deterministicId_text] at same
  have digests := (List.cons.inj (List.append_cancel_left same)).2
  exact apart (utf8Bytes_injective (free (Subtype.ext digests)))

theorem announcementText_injective : Function.Injective announcementText := by
  intro first second same
  simpa [announcementText, idText] using same

end Identities

/-- The event announces the notification. -/
structure Announces (C : Crates) (row : NotificationRow) (event : NewOutboxEvent) : Prop where
  name : event.eventName = .notificationScheduled
  eventId : event.eventId = scheduledEventId C row.notificationId
  identity : event.duplicateIdentity = dedupeIdentity C row.dedupeKey
  causation : event.causationId = row.notificationId

/-- Notifications and the events that announce them belong together, and no two notifications have
one key. -/
structure Linked (C : Crates) (db : Db) : Prop where
  stated : ∀ row ∈ db.notifications.rows, row.outboxEventId = scheduledEventId C row.notificationId
  announced : ∀ row ∈ db.notifications.rows, ∃ event ∈ db.outboxEvents.rows, Announces C row event
  known : ∀ event ∈ db.outboxEvents.rows, event.eventName = .notificationScheduled →
    ∃ row ∈ db.notifications.rows, Announces C row event
  distinct : (db.notifications.rows.map NotificationRow.dedupeKey).Nodup

section Runs
variable {C : Crates} {K : TimeCrates} {redactor : ReceiptRedactor} {before after db : Db}

theorem linked_empty : Linked C .empty where
  stated := by simp [Db.empty, Table.empty]
  announced := by simp [Db.empty, Table.empty]
  known := by simp [Db.empty, Table.empty]
  distinct := by simp [Db.empty, Table.empty]

theorem linked_added {row : NotificationRow} {event : NewOutboxEvent} (linked : Linked C before)
    (added : Added row event before after)
    (stated : row.outboxEventId = scheduledEventId C row.notificationId)
    (announces : Announces C row event) : Linked C after where
  stated := by
    rw [added.notifications]
    intro other member
    rcases List.mem_append.mp member with old | new
    · exact linked.stated other old
    · cases List.mem_singleton.mp new
      exact stated
  announced := by
    rw [added.notifications, added.events]
    intro other member
    rcases List.mem_append.mp member with old | new
    · obtain ⟨known, present, same⟩ := linked.announced other old
      exact ⟨known, List.mem_append_left _ present, same⟩
    · cases List.mem_singleton.mp new
      exact ⟨event, by simp, announces⟩
  known := by
    rw [added.notifications, added.events]
    intro other member named
    rcases List.mem_append.mp member with old | new
    · obtain ⟨known, present, same⟩ := linked.known other old named
      exact ⟨known, List.mem_append_left _ present, same⟩
    · cases List.mem_singleton.mp new
      exact ⟨row, by simp, announces⟩
  distinct := by
    rw [added.notifications, List.map_append, List.nodup_append]
    refine ⟨linked.distinct, List.nodup_singleton _, ?_⟩
    intro key old other new
    obtain ⟨earlier, present, rfl⟩ := List.mem_map.mp old
    rw [List.map_singleton, List.mem_singleton] at new
    exact new ▸ added.unlike earlier present

/-- The two rows are one notification at two times. -/
structure Alike (stored new : NotificationRow) : Prop where
  id : new.notificationId = stored.notificationId
  key : new.dedupeKey = stored.dedupeKey
  event : new.outboxEventId = stored.outboxEventId

theorem linked_changed {stored new : NotificationRow} (linked : Linked C before)
    (changed : Changed stored new before after) (alike : Alike stored new) : Linked C after where
  stated row member := by
    rcases changed.mem.mp member with rfl | ⟨old, -⟩
    · rw [alike.event, alike.id]
      exact linked.stated stored changed.present
    · exact linked.stated row old
  announced row member := by
    rw [changed.rest]
    rcases changed.mem.mp member with rfl | ⟨old, -⟩
    · obtain ⟨event, present, named, eventId, identity, causation⟩ :=
        linked.announced stored changed.present
      exact ⟨event, present, named, alike.id ▸ eventId, alike.key ▸ identity, alike.id ▸ causation⟩
    · exact linked.announced row old
  known event member named := by
    rw [changed.rest] at member
    obtain ⟨row, old, announces⟩ := linked.known event member named
    by_cases same : row.notificationId = stored.notificationId
    · cases Table.eq_of_key old changed.present same
      obtain ⟨named, eventId, identity, causation⟩ := announces
      exact ⟨new, changed.mem.mpr (.inl rfl), named, alike.id ▸ eventId, alike.key ▸ identity,
        alike.id ▸ causation⟩
    · exact ⟨row, changed.mem.mpr (.inr ⟨old, same⟩), announces⟩
  distinct := by
    have keys : after.notifications.rows.map NotificationRow.dedupeKey =
        before.notifications.rows.map NotificationRow.dedupeKey := by
      rw [changed.rows, List.map_map]
      apply List.map_congr_left
      intro row member
      simp only [Function.comp]
      split
      · rename_i same
        rw [Table.eq_of_key member changed.present same, alike.key]
      · rfl
    rw [keys]
    exact linked.distinct

theorem linked_aside (linked : Linked C before) (beside : Aside before after) : Linked C after := by
  obtain ⟨events, appended, others⟩ := beside.outbox
  refine ⟨?_, ?_, ?_, ?_⟩
  · rw [beside.notifications]
    exact linked.stated
  · rw [beside.notifications, appended]
    intro row member
    obtain ⟨event, present, announces⟩ := linked.announced row member
    exact ⟨event, List.mem_append_left _ present, announces⟩
  · rw [beside.notifications, appended]
    intro event member named
    rcases List.mem_append.mp member with old | new
    · exact linked.known event old named
    · exact absurd named (others event new)
  · rw [beside.notifications]
    exact linked.distinct

theorem linked_step {commit : Commit} (linked : Linked C before)
    (taken : Step C K redactor before commit after) : Linked C after := by
  cases taken with
  | schedule done =>
    rcases schedule_cases done with rfl | ⟨-, scheduledAt, binding, -, -, added⟩
    · exact linked
    · exact linked_added linked added rfl ⟨rfl, rfl, rfl, rfl⟩
  | advance done =>
    rcases advance_cases done with rfl | ⟨stored, -, changed | ⟨-, next, -, changed⟩⟩
    · exact linked
    · exact linked_changed linked changed ⟨rfl, rfl, rfl⟩
    · exact linked_changed linked changed ⟨rfl, rfl, rfl⟩
  | aside beside => exact linked_aside linked beside

theorem reached_linked (reached : Reached C K redactor db) : Linked C db := by
  obtain ⟨commits, run⟩ := reached
  refine run_invariant ?_ linked_empty run
  intro before commit after linked taken
  exact linked_step linked taken

end Runs

/-! Scheduling. -/

/-- No notification of the store has the identity or the idempotency key of the command. -/
def FreshFor (db : Db) (command : NotificationScheduleCommand) : Prop :=
  ∀ row ∈ db.notifications.rows, row.notificationId ≠ command.notificationId ∧
    row.idempotencyKey ≠ command.idempotencyKey

/-- The digests of the command's identities collide with none of a notification, and no other event
carries one of them. -/
structure Unmistaken (C : Crates) (db : Db) (command : NotificationScheduleCommand) : Prop where
  ids : ∀ row ∈ db.notifications.rows, CollisionFree C
    (utf8Bytes (announcementText row.notificationId))
    (utf8Bytes (announcementText command.notificationId))
  keys : ∀ row ∈ db.notifications.rows, CollisionFree C (utf8Bytes (keyText row.dedupeKey))
    (utf8Bytes (keyText command.dedupeKey))
  others : ∀ event ∈ db.outboxEvents.rows, event.eventName ≠ .notificationScheduled →
    event.eventId ≠ scheduledEventId C command.notificationId ∧
      event.duplicateIdentity ≠ dedupeIdentity C command.dedupeKey

section Schedule
variable {C : Crates} {K : TimeCrates} {redactor : ReceiptRedactor} {db : Db}
  {command : NotificationScheduleCommand} {scheduledAt : Int} {binding : AttentionBinding}

theorem under_key {row : NotificationRow} (under : Under row command) :
    row.dedupeKey = command.dedupeKey := by
  obtain ⟨delegation, decision, revision, channel⟩ := under
  simp only [NotificationRow.dedupeKey, NotificationScheduleCommand.dedupeKey, delegation, decision,
    revision, channel]

theorem findNotificationByDedupe_under {existing : NotificationRow}
    (found : db.findNotificationByDedupe command = some existing) :
    existing ∈ db.notifications.rows ∧ Under existing command := by
  have same := List.find?_some found
  simp only [Bool.and_eq_true, decide_eq_true_eq] at same
  exact ⟨List.mem_of_find?_eq_some found, same.1.1.1, same.1.1.2, same.1.2, same.2⟩

theorem findNotificationByDedupe_of_under {existing : NotificationRow} (linked : Linked C db)
    (present : existing ∈ db.notifications.rows) (under : Under existing command) :
    db.findNotificationByDedupe command = some existing := by
  apply find_one present
  · obtain ⟨delegation, decision, revision, channel⟩ := under
    simp [delegation, decision, revision, channel]
  · intro other member hit
    simp only [Bool.and_eq_true, decide_eq_true_eq] at hit
    have same : Under other command := ⟨hit.1.1.1, hit.1.1.2, hit.1.2, hit.2⟩
    exact List.inj_on_of_nodup_map linked.distinct member present
      ((under_key same).trans (under_key under).symm)

theorem findNotificationByDedupe_none
    (apart : ∀ row ∈ db.notifications.rows, ¬ Under row command) :
    db.findNotificationByDedupe command = none := by
  cases found : db.findNotificationByDedupe command with
  | none => rfl
  | some existing =>
    obtain ⟨present, under⟩ := findNotificationByDedupe_under found
    exact absurd under (apart existing present)

theorem fresh_id (fresh : FreshFor db command) :
    db.notifications.find? command.notificationId = none :=
  Table.find?_fresh fun row present => (fresh row present).1

theorem fresh_key (fresh : FreshFor db command) :
    db.findNotificationByIdempotency command.idempotencyKey = none := by
  apply List.find?_eq_none.mpr
  intro row present same
  exact (fresh row present).2 (of_decide_eq_true same)

/-- A command of a fresh identity is answered from the notification under its key. -/
theorem schedule_found {existing : NotificationRow}
    (valid : validateNotificationCommand K redactor command = .ok ()) (fresh : FreshFor db command)
    (found : db.findNotificationByDedupe command = some existing) :
    scheduleNotification C K redactor command db =
      .ok (notificationDedupeReplayOutcome existing command, db) := by
  simp only [scheduleNotification, valid, ok_bind, fresh_id fresh, fresh_key fresh, found]

/-- Where there is none, an event and a notification are written. -/
theorem schedule_unfound (valid : validateNotificationCommand K redactor command = .ok ())
    (fresh : FreshFor db command) (found : db.findNotificationByDedupe command = none)
    (deferred : deferForQuietHours K command.scheduledAt command.quietHours = .ok scheduledAt)
    (bound : db.currentNotificationBinding command scheduledAt = some binding) :
    scheduleNotification C K redactor command db = (do
      let db ← db.insertOutbox (notificationEvent C command binding)
      let db ← db.insertNotification (newNotification C command binding scheduledAt)
      .ok (.scheduled (newNotification C command binding scheduledAt).record, db)) := by
  simp only [scheduleNotification, valid, ok_bind, fresh_id fresh, fresh_key fresh, found, deferred,
    bound]

/-- What a binding says of the command and of the rows it was read from. -/
structure Bound (db : Db) (command : NotificationScheduleCommand) (binding : AttentionBinding) :
    Prop where
  positive : 0 < binding.delegationStateRevision
  variant : binding.attentionVariant ≠ some .runtimePaused
  one : binding.attentionId.isSome ≠ binding.completionAssessmentId.isSome
  attention : refers db.attentionItems binding.attentionId = true
  assessment : refers db.assessments binding.completionAssessmentId = true
  delegation : refers db.delegations (some command.delegationId) = true
  decision : binding.attentionId.isSome = true → refers db.decisions command.decisionId = true

theorem bound_attention {attentionId : Text}
    (found : db.currentAttentionBinding command attentionId scheduledAt = some binding) :
    Bound db command binding := by
  simp only [Db.currentAttentionBinding] at found
  split at found
  · cases found
  rename_i a attended
  split at found
  · cases found
  rename_i d delegated
  split at found
  swap
  · cases found
  rename_i current
  obtain ⟨delegation, decision, -, -, -⟩ := current
  have known : refers db.delegations (some command.delegationId) = true := by
    rw [← delegation]
    simp [refers, delegated]
  split at found
  · rename_i unasked
    split at found
    · cases found
      exact ⟨d.positive, by simpa using a.ofDelegation, by simp, by simp [refers, attended], rfl,
        known, fun _ => by rw [← decision, unasked]; rfl⟩
    · cases found
  · rename_i decisionId asked
    split at found
    · cases found
    rename_i reasonRevision deadline pending
    split at found
    · cases found
      have decided : refers db.decisions command.decisionId = true := by
        rw [← decision, asked]
        simp only [Db.boundDecision] at pending
        split at pending
        · cases pending
        · rename_i row stored
          simp [refers, stored]
      exact ⟨d.positive, by simpa using a.ofDelegation, by simp, by simp [refers, attended], rfl,
        known, fun _ => decided⟩
    · cases found

theorem bound_completion {assessmentId : Text}
    (found : db.currentCompletionBinding command assessmentId = some binding) :
    Bound db command binding := by
  simp only [Db.currentCompletionBinding] at found
  split at found
  · cases found
  rename_i assessment assessed
  split at found
  · cases found
  rename_i d delegated
  split at found
  · rename_i current
    cases found
    have known : refers db.delegations (some command.delegationId) = true := by
      rw [← current.1]
      simp [refers, delegated]
    exact ⟨d.positive, by simp, by simp, rfl, by simp [refers, assessed], known,
      fun attention => by cases attention⟩
  · cases found

theorem bound_of_binding (found : db.currentNotificationBinding command scheduledAt = some binding) :
    Bound db command binding := by
  simp only [Db.currentNotificationBinding] at found
  split at found
  · exact bound_attention found
  · split at found
    · exact bound_completion found
    · cases found

/-- The event of a command is unlike every event of the store. -/
theorem event_unlike (linked : Linked C db) (fresh : FreshFor db command)
    (unmistaken : Unmistaken C db command)
    (apart : ∀ row ∈ db.notifications.rows, keyText row.dedupeKey ≠ keyText command.dedupeKey)
    {other : NewOutboxEvent} (present : other ∈ db.outboxEvents.rows) :
    other.eventId ≠ scheduledEventId C command.notificationId ∧
      other.duplicateIdentity ≠ dedupeIdentity C command.dedupeKey ∧
      (other.eventName = .notificationScheduled → other.causationId ≠ command.notificationId) := by
  by_cases named : other.eventName = .notificationScheduled
  · obtain ⟨row, stored, announces⟩ := linked.known other present named
    have different := (fresh row stored).1
    refine ⟨?_, ?_, fun _ => announces.causation ▸ different⟩
    · rw [announces.eventId]
      exact deterministicId_ne (unmistaken.ids row stored)
        fun same => different (announcementText_injective same)
    · rw [announces.identity]
      exact deterministicId_ne (unmistaken.keys row stored) (apart row stored)
  · obtain ⟨id, identity⟩ := unmistaken.others other present named
    exact ⟨id, identity, fun same => absurd same named⟩

theorem valid_revision (valid : validateNotificationCommand K redactor command = .ok ()) :
    0 < command.reasonRevision := by
  simp only [validateNotificationCommand, bind_ok] at valid
  obtain ⟨_, _, _, _, _, _, _, _, valid⟩ := valid
  split at valid
  all_goals
    simp only [bind_ok, ensure_ok] at valid
    obtain ⟨_, _, _, ⟨positive, _⟩, _⟩ := valid
    exact positive

theorem insertOutbox_unlike (bound : Bound db command binding)
    (unlike : ∀ other ∈ db.outboxEvents.rows,
      other.eventId ≠ scheduledEventId C command.notificationId ∧
        other.duplicateIdentity ≠ dedupeIdentity C command.dedupeKey ∧
        (other.eventName = .notificationScheduled →
          other.causationId ≠ command.notificationId)) :
    ∃ outboxEvents, db.outboxEvents.insert? (notificationEvent C command binding) =
        some outboxEvents ∧
      db.insertOutbox (notificationEvent C command binding) = .ok { db with outboxEvents } := by
  obtain ⟨outboxEvents, inserted⟩ := @Table.insert_fresh _ _ _ _ db.outboxEvents
    (notificationEvent C command binding) fun other present => (unlike other present).1
  refine ⟨outboxEvents, inserted, insertOutbox_ok.mpr ⟨bound.positive, ?_, _, inserted, rfl⟩⟩
  intro other present
  refine ⟨(unlike other present).2.1, ?_⟩
  intro same
  simp only [Prod.mk.injEq] at same
  exact (unlike other present).2.2 same.1 same.2.2.2

/-- Where nothing is under the key, the notification is scheduled. -/
theorem schedule_scheduled (linked : Linked C db)
    (valid : validateNotificationCommand K redactor command = .ok ()) (fresh : FreshFor db command)
    (deferred : deferForQuietHours K command.scheduledAt command.quietHours = .ok scheduledAt)
    (found : db.currentNotificationBinding command scheduledAt = some binding)
    (apart : ∀ row ∈ db.notifications.rows, keyText row.dedupeKey ≠ keyText command.dedupeKey)
    (unmistaken : Unmistaken C db command)
    (decided : refers db.decisions command.decisionId = true) :
    ∃ after, scheduleNotification C K redactor command db =
        .ok (.scheduled (newNotification C command binding scheduledAt).record, after) ∧
      Added (newNotification C command binding scheduledAt) (notificationEvent C command binding)
        db after := by
  have bound := bound_of_binding found
  have keys : ∀ row ∈ db.notifications.rows, row.dedupeKey ≠ command.dedupeKey :=
    fun row present same => apart row present (by rw [same])
  obtain ⟨outboxEvents, noted, published⟩ := insertOutbox_unlike bound fun other present =>
    event_unlike linked fresh unmistaken apart present
  obtain ⟨notifications, added⟩ := @Table.insert_fresh _ _ _ _ db.notifications
    (newNotification C command binding scheduledAt) fun row present => (fresh row present).1
  have event : (outboxEvents.find? (scheduledEventId C command.notificationId)).isSome = true := by
    rw [Table.find?_insert noted]
    simp [notificationEvent]
  have stored : Db.insertNotification { db with outboxEvents }
      (newNotification C command binding scheduledAt) =
        .ok { db with outboxEvents, notifications } := by
    refine insertNotification_ok.mpr ⟨⟨valid_revision valid, bound.variant, Nat.zero_le _, bound.one⟩,
      ⟨bound.attention, bound.assessment, event, bound.delegation, decided⟩, ?_, _, added, rfl⟩
    intro row present
    have announcement : row.outboxEventId ≠ scheduledEventId C command.notificationId := by
      rw [linked.stated row present]
      exact deterministicId_ne (unmistaken.ids row present)
        fun same => (fresh row present).1 (announcementText_injective same)
    exact ⟨announcement, (fresh row present).2, keys row present⟩
  refine ⟨{ db with outboxEvents, notifications }, ?_, Table.insert?_rows noted,
    Table.insert?_rows added, rfl, keys⟩
  rw [schedule_unfound valid fresh (findNotificationByDedupe_none fun row present under =>
    keys row present (under_key under)) deferred found, published, ok_bind, stored]
  rfl

/-- Where another key has the same text, the event of the command is refused. -/
theorem schedule_blurred {row : NotificationRow} (linked : Linked C db)
    (valid : validateNotificationCommand K redactor command = .ok ()) (fresh : FreshFor db command)
    (deferred : deferForQuietHours K command.scheduledAt command.quietHours = .ok scheduledAt)
    (found : db.currentNotificationBinding command scheduledAt = some binding)
    (apart : ∀ row ∈ db.notifications.rows, ¬ Under row command)
    (present : row ∈ db.notifications.rows)
    (blurred : keyText row.dedupeKey = keyText command.dedupeKey) :
    ∃ error, scheduleNotification C K redactor command db = .error error := by
  rw [schedule_unfound valid fresh (findNotificationByDedupe_none apart) deferred found]
  cases published : db.insertOutbox (notificationEvent C command binding) with
  | error error => exact ⟨error, rfl⟩
  | ok after =>
    obtain ⟨event, noted, announces⟩ := linked.announced row present
    have same : event.duplicateIdentity = dedupeIdentity C command.dedupeKey := by
      rw [announces.identity, dedupeIdentity, dedupeIdentity, deterministicId_text,
        deterministicId_text]
      exact congrArg (fun text => _ ++ '-' :: (C.sha256 (utf8Bytes text)).val) blurred
    exact absurd same ((insertOutbox_ok.mp published).2.1 event noted).1

/-- A command about a decision that is not stored is refused. -/
theorem schedule_undecided
    (valid : validateNotificationCommand K redactor command = .ok ()) (fresh : FreshFor db command)
    (deferred : deferForQuietHours K command.scheduledAt command.quietHours = .ok scheduledAt)
    (found : db.currentNotificationBinding command scheduledAt = some binding)
    (apart : ∀ row ∈ db.notifications.rows, ¬ Under row command)
    (undecided : refers db.decisions command.decisionId = false) :
    ∃ error, scheduleNotification C K redactor command db = .error error := by
  rw [schedule_unfound valid fresh (findNotificationByDedupe_none apart) deferred found]
  cases published : db.insertOutbox (notificationEvent C command binding) with
  | error error => exact ⟨error, rfl⟩
  | ok noted =>
    rw [ok_bind]
    cases stored : noted.insertNotification (newNotification C command binding scheduledAt) with
    | error error => exact ⟨error, rfl⟩
    | ok after =>
      obtain ⟨-, -, events, -, rfl⟩ := insertOutbox_ok.mp published
      obtain ⟨-, ⟨-, -, -, -, decided⟩, -⟩ := insertNotification_ok.mp stored
      exact absurd decided (by simpa [newNotification] using undecided)

/-- A notification under the key of a command answers it, whatever its source; otherwise the
command is scheduled unless another key has its text. -/
theorem schedule_dedupes (reached : Reached C K redactor db)
    (valid : validateNotificationCommand K redactor command = .ok ()) (fresh : FreshFor db command)
    (deferred : deferForQuietHours K command.scheduledAt command.quietHours = .ok scheduledAt)
    (found : db.currentNotificationBinding command scheduledAt = some binding) :
    (∀ existing ∈ db.notifications.rows, Under existing command →
      scheduleNotification C K redactor command db =
        .ok (if SameRequest existing command then replayed existing else .conflict, db)) ∧
    ((∀ row ∈ db.notifications.rows, keyText row.dedupeKey ≠ keyText command.dedupeKey) →
      Unmistaken C db command → refers db.decisions command.decisionId = true →
      ∃ after, scheduleNotification C K redactor command db =
          .ok (.scheduled (newNotification C command binding scheduledAt).record, after) ∧
        Added (newNotification C command binding scheduledAt)
          (notificationEvent C command binding) db after) ∧
    ((∀ row ∈ db.notifications.rows, ¬ Under row command) →
      refers db.decisions command.decisionId = false ∨
        (∃ row ∈ db.notifications.rows, keyText row.dedupeKey = keyText command.dedupeKey) →
      ∃ error, scheduleNotification C K redactor command db = .error error) := by
  have linked := reached_linked reached
  refine ⟨?_, ?_, ?_⟩
  · intro existing present under
    exact schedule_found valid fresh (findNotificationByDedupe_of_under linked present under)
  · intro apart unmistaken decided
    exact schedule_scheduled linked valid fresh deferred found apart unmistaken decided
  · rintro apart (undecided | ⟨row, present, blurred⟩)
    · exact schedule_undecided valid fresh deferred found apart undecided
    · exact schedule_blurred linked valid fresh deferred found apart present blurred

end Schedule

/-! Two questions of one delegation, and a delegation that is done. -/

def sampleItem (id : Text) : AttentionRow where
  attentionId := id
  delegationId := ['d']
  decisionId := none
  kind := .clarification
  status := .actionable
  delegationRevision := 1
  ofDelegation := by decide

def sampleDb : Db := { Db.empty with
  attentionItems := ⟨[sampleItem ['a'], sampleItem ['b']], by decide⟩
  delegations := ⟨[⟨['d'], .waitingForUser, 1, none, none, none, by decide⟩,
    ⟨['e'], .completed, 2, none, some 5, some ['j'], by decide⟩], by decide⟩
  assessments := ⟨[⟨['s'], ['e'], 1, .completed, ['j'], true⟩], by decide⟩
  assessmentReceipts := [⟨['e'], ['s'], 1⟩] }

def sampleTime : TimeCrates := ⟨fun _ => bail "unknown timezone", fun _ => ""⟩

/-- The notification of a question. -/
def sampleCommand (id attentionId : Text) : NotificationScheduleCommand where
  notificationId := id
  source := .attention attentionId
  delegationId := ['d']
  decisionId := none
  reasonRevision := 1
  channel := ['c']
  reason := []
  safePayload := ['\x7b', '\x7d']
  scheduledAt := 10
  quietHours := none
  idempotencyKey := id

def sampleBinding (attentionId : Text) : AttentionBinding :=
  ⟨some attentionId, none, some .clarification, none, 1⟩

/-- The notification of the end, about a decision that is not stored. -/
def sampleEnd : NotificationScheduleCommand := { sampleCommand ['n'] [] with
  source := .completion ['s'] true
  delegationId := ['e']
  decisionId := some ['x'] }

theorem sample_valid (command : NotificationScheduleCommand)
    (listed : command ∈ [sampleCommand ['n'] ['a'], sampleCommand ['m'] ['b'], sampleEnd]) :
    validateNotificationCommand sampleTime Receipt.quotedSecret command = .ok () := by
  simp only [List.mem_cons, List.not_mem_nil, or_false] at listed
  rcases listed with rfl | rfl | rfl
  · decide +kernel
  · decide +kernel
  · decide +kernel

theorem sample_reached (K : TimeCrates) : Reached asciiCrates K Receipt.quotedSecret sampleDb := by
  have beside : Aside .empty sampleDb := by
    refine ⟨rfl, ⟨[], rfl, by simp⟩, ?_, ?_, ?_⟩
    · intro id decision found
      cases found
    · intro id challenge found
      cases found
    · intro id challenge found
      cases found
  exact ⟨[.aside], .snoc (.nil _) (.aside beside)⟩

theorem sample_scheduled : ∃ db, Reached asciiCrates sampleTime Receipt.quotedSecret db ∧
    Added (newNotification asciiCrates (sampleCommand ['n'] ['a']) (sampleBinding ['a']) 10)
      (notificationEvent asciiCrates (sampleCommand ['n'] ['a']) (sampleBinding ['a']))
      sampleDb db := by
  have valid := sample_valid (sampleCommand ['n'] ['a']) (by simp)
  have found : sampleDb.currentNotificationBinding (sampleCommand ['n'] ['a']) 10 =
      some (sampleBinding ['a']) := by rfl
  have none : sampleDb.notifications.rows = [] := rfl
  have quiet : sampleDb.outboxEvents.rows = [] := rfl
  obtain ⟨db, done, added⟩ := @schedule_scheduled asciiCrates sampleTime Receipt.quotedSecret _ _ _ _
    (reached_linked (sample_reached sampleTime)) valid (by simp [FreshFor, none]) rfl found
    (by simp [none]) ⟨by simp [none], by simp [none], by simp [quiet]⟩ rfl
  obtain ⟨commits, run⟩ := sample_reached sampleTime
  exact ⟨db, ⟨_, run.snoc (.schedule done)⟩, added⟩

section Sample
variable {db : Db}
  (added : Added (newNotification asciiCrates (sampleCommand ['n'] ['a']) (sampleBinding ['a']) 10)
    (notificationEvent asciiCrates (sampleCommand ['n'] ['a']) (sampleBinding ['a'])) sampleDb db)
include added

theorem sample_rows : db.notifications.rows =
    [newNotification asciiCrates (sampleCommand ['n'] ['a']) (sampleBinding ['a']) 10] :=
  added.notifications

theorem sample_present :
    newNotification asciiCrates (sampleCommand ['n'] ['a']) (sampleBinding ['a']) 10 ∈
      db.notifications.rows := by
  simp [sample_rows added]

theorem sample_only {row : NotificationRow} (present : row ∈ db.notifications.rows) :
    row = newNotification asciiCrates (sampleCommand ['n'] ['a']) (sampleBinding ['a']) 10 := by
  simpa [sample_rows added] using present

theorem sample_fresh : FreshFor db (sampleCommand ['m'] ['b']) := by
  intro row present
  cases sample_only added present
  exact ⟨by decide, by decide⟩

theorem sample_found : db.currentNotificationBinding (sampleCommand ['m'] ['b']) 10 =
    some (sampleBinding ['b']) := by
  rw [added.rest]
  rfl

end Sample

/-- The notification of one question keeps that of the other from being scheduled, and one about an
unknown decision fails. -/
theorem question_suppressed :
    (∃ db, Reached asciiCrates sampleTime Receipt.quotedSecret db ∧
      validateNotificationCommand sampleTime Receipt.quotedSecret (sampleCommand ['m'] ['b']) =
        .ok () ∧
      FreshFor db (sampleCommand ['m'] ['b']) ∧
      db.currentNotificationBinding (sampleCommand ['m'] ['b']) 10 = some (sampleBinding ['b']) ∧
      (∀ row ∈ db.notifications.rows, row.attentionId = some ['a']) ∧
      scheduleNotification asciiCrates sampleTime Receipt.quotedSecret (sampleCommand ['m'] ['b']) db =
        .ok (.conflict, db)) ∧
    Reached asciiCrates sampleTime Receipt.quotedSecret sampleDb ∧
    sampleDb.notifications.rows = [] ∧
    validateNotificationCommand sampleTime Receipt.quotedSecret sampleEnd = .ok () ∧
    (sampleDb.currentNotificationBinding sampleEnd 10).isSome = true ∧
    ∃ error, scheduleNotification asciiCrates sampleTime Receipt.quotedSecret sampleEnd sampleDb =
      .error error := by
  obtain ⟨db, reached, added⟩ := sample_scheduled
  have valid := sample_valid (sampleCommand ['m'] ['b']) (by simp)
  have ended := sample_valid sampleEnd (by simp)
  refine ⟨⟨db, reached, valid, sample_fresh added, sample_found added, ?_, ?_⟩, sample_reached _, rfl,
    ended, rfl, ?_⟩
  · intro row present
    rw [sample_only added present]
    rfl
  · exact schedule_found valid (sample_fresh added)
      (findNotificationByDedupe_of_under (reached_linked reached) (sample_present added)
        ⟨rfl, rfl, rfl, rfl⟩)
  · exact schedule_undecided ended (by simp [FreshFor, sampleDb, Db.empty, Table.empty]) rfl rfl
      (by simp [sampleDb, Db.empty, Table.empty]) rfl

theorem schedule_dedupes_questions :
    (∃ after, scheduleNotification asciiCrates sampleTime Receipt.quotedSecret
        (sampleCommand ['n'] ['a']) sampleDb =
      .ok (.scheduled ⟨['n'], 10, some 3600010, 0, none, false⟩, after)) ∧
    ∃ db, scheduleNotification asciiCrates sampleTime Receipt.quotedSecret
      (sampleCommand ['m'] ['b']) db = .ok (.conflict, db) := by
  have none : sampleDb.notifications.rows = [] := rfl
  have quiet : sampleDb.outboxEvents.rows = [] := rfl
  obtain ⟨db, reached, added⟩ := sample_scheduled
  have first := @schedule_dedupes _ _ _ _ _ _ (sampleBinding ['a']) (sample_reached _)
    (sample_valid (sampleCommand ['n'] ['a']) (by simp)) (by simp [FreshFor, none]) rfl rfl
  have second := schedule_dedupes reached (sample_valid (sampleCommand ['m'] ['b']) (by simp))
    (sample_fresh added) rfl (sample_found added)
  obtain ⟨after, done, -⟩ := first.2.1 (by simp [none])
    ⟨by simp [none], by simp [none], by simp [quiet]⟩ rfl
  exact ⟨⟨after, done⟩, db, second.1 _ (sample_present added) ⟨rfl, rfl, rfl, rfl⟩⟩

end CarsinOS.Notification
