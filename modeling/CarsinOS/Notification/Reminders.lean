import CarsinOS.Notification.Dedupe
import CarsinOS.Notification.Quiet
import CarsinOS.Routine.Occurrences

/-! The reminders of a notification over a run: how many there are and when. -/
namespace CarsinOS.Notification
open CarsinOS.Lib CarsinOS.Integrity CarsinOS.Routine
open CarsinOS.Receipt (ReceiptRedactor)

section Quiet
variable (K : TimeCrates)

/-- The instant is not in the quiet hours. -/
def Outside (quietHours : Option QuietHoursPolicy) (atMs : Int) : Prop :=
  ∀ policy ∈ quietHours, ∀ tz, K.fromStr policy.timezone = .ok tz → ¬ QuietAt tz policy atMs

/-- The quiet hours around the instant can be passed. -/
def Passes (quietHours : Option QuietHoursPolicy) (atMs : Int) : Prop :=
  ∀ policy ∈ quietHours, ∀ tz, K.fromStr policy.timezone = .ok tz → Passable tz policy atMs

/-- An hour after the quiet hours around the instant it is not quiet again, or the deadline has
come. -/
def HourClear (quietHours : Option QuietHoursPolicy) (atMs : Int) (deadline : Option Int) : Prop :=
  ∀ policy ∈ quietHours, ∀ tz, K.fromStr policy.timezone = .ok tz → ∀ toMs,
    DefersTo tz policy atMs toMs → QuietAt tz policy (toMs + REMINDER_INTERVAL_MS) →
      I64_MAX < toMs + REMINDER_INTERVAL_MS ∨ ∃ d ∈ deadline, d ≤ toMs + REMINDER_INTERVAL_MS

end Quiet

/-! The next reminder. -/

section Next
variable {K : TimeCrates} {quietHours : Option QuietHoursPolicy} {atMs toMs : Int}
  {deadline : Option Int}

theorem validateQuietHours_ok {policy : QuietHoursPolicy} {tz : Tz}
    (valid : validateQuietHours K policy = .ok tz) :
    Interval policy ∧ K.fromStr policy.timezone = .ok tz := by
  unfold validateQuietHours at valid
  split at valid
  · cases valid
  · rename_i interval
    simp only [not_or, not_le] at interval
    refine ⟨⟨interval.1, interval.2.1, interval.2.2⟩, ?_⟩
    unfold withContext at valid
    split at valid
    · rename_i named
      cases valid
      exact named
    · cases valid

theorem deferForQuietHours_some {policy : QuietHoursPolicy}
    (deferred : deferForQuietHours K atMs (some policy) = .ok toMs) :
    ∃ tz, Interval policy ∧ K.fromStr policy.timezone = .ok tz ∧ DefersTo tz policy atMs toMs := by
  simp only [deferForQuietHours, bind_ok] at deferred
  obtain ⟨tz, valid, deferred⟩ := deferred
  obtain ⟨interval, named⟩ := validateQuietHours_ok valid
  exact ⟨tz, interval, named, (deferInTimezone_ok interval).mp deferred⟩

theorem defer_outside (deferred : deferForQuietHours K atMs quietHours = .ok toMs)
    (passes : Passes K quietHours atMs) : Outside K quietHours toMs := by
  rintro policy rfl tz named
  obtain ⟨other, interval, same, defers⟩ := deferForQuietHours_some deferred
  cases named.symm.trans same
  obtain ⟨toMs', moved, -, free, -⟩ := (defers_iff interval).mpr (passes policy rfl tz named)
  cases ((deferInTimezone_ok interval).mpr defers).symm.trans moved
  exact free

theorem boundedNextReminder_le {next : Int} (found : boundedNextReminder toMs deadline = some next) :
    ∀ d ∈ deadline, next ≤ d := by
  rintro d rfl
  simp only [boundedNextReminder] at found
  split at found
  · cases found
  split at found
  · cases found
  cases found
  omega

/-- A reminder in quiet hours that is not the deadline is one that comes an hour after the last. -/
theorem boundedNextReminder_quiet {quiet : Int → Prop} :
    (∀ next ∈ boundedNextReminder toMs deadline, ¬ quiet next ∨ deadline = some next) ↔
      (quiet (toMs + REMINDER_INTERVAL_MS) → I64_MAX < toMs + REMINDER_INTERVAL_MS ∨
        ∃ d ∈ deadline, d ≤ toMs + REMINDER_INTERVAL_MS) := by
  unfold boundedNextReminder
  by_cases overflow : I64_MAX < toMs + REMINDER_INTERVAL_MS
  · simp [overflow]
  rw [if_neg overflow]
  cases deadline with
  | none =>
    simp only [Option.mem_def, Option.some.injEq, forall_eq', reduceCtorEq, or_false, false_and,
      exists_false, overflow]
  | some d =>
    simp only [Option.mem_def, Option.some.injEq, exists_eq_left', overflow, false_or]
    by_cases past : d ≤ toMs
    · have soon : d ≤ toMs + REMINDER_INTERVAL_MS := by
        simp only [REMINDER_INTERVAL_MS]
        omega
      simp [past, soon]
    rw [if_neg past]
    simp only [Option.some.injEq, forall_eq']
    by_cases soon : d ≤ toMs + REMINDER_INTERVAL_MS
    · simp [soon]
    · rw [Int.min_eq_left (by omega)]
      constructor
      · rintro (free | same) quiet
        · exact absurd quiet free
        · omega
      · intro clear
        exact .inl fun quiet => soon (clear quiet)

theorem next_outside {next : Int} (deferred : deferForQuietHours K atMs quietHours = .ok toMs)
    (clear : HourClear K quietHours atMs deadline)
    (found : boundedNextReminder toMs deadline = some next) :
    Outside K quietHours next ∨ deadline = some next := by
  cases quietHours with
  | none => exact .inl fun policy listed => by cases listed
  | some policy =>
    obtain ⟨tz, -, named, defers⟩ := deferForQuietHours_some deferred
    have spared := boundedNextReminder_quiet.mpr (clear policy rfl tz named toMs defers) next found
    refine spared.imp_left fun free => ?_
    intro _ listed other same
    cases listed
    cases named.symm.trans same
    exact free

end Next

/-! What is kept. -/

/-- The deadline of the decision is no longer open: it is challenged, or not dangerous. -/
def Fixed (db : Db) (decisionId : Option Text) : Prop :=
  ∀ id ∈ decisionId, ∃ decision, db.decisions.find? id = some decision ∧
    ((db.challenges.find? id).isSome = true ∨
      decision.dangerous = false ∧ db.challenges.find? id = none)

structure Bounded (db : Db) (row : NotificationRow) : Prop where
  deadline : ∀ next ∈ row.nextReminderAt, ∀ d ∈ db.deadline row.decisionId, next ≤ d
  cap : row.reminderCount ≤ MAX_REMINDERS
  fixed : row.nextReminderAt ≠ none → Fixed db row.decisionId

structure Respected (K : TimeCrates) (db : Db) (row : NotificationRow) : Prop where
  scheduled : Outside K row.quietHours row.scheduledAt
  next : ∀ next ∈ row.nextReminderAt,
    Outside K row.quietHours next ∨ db.deadline row.decisionId = some next

/-- A commit that computes instants passes the quiet hours, and the hour after them is clear. -/
def Spared (K : TimeCrates) (db : Db) : Commit → Prop
  | .schedule command => Unheard db command →
    Passes K command.quietHours command.scheduledAt ∧
      ((∃ id, command.source = .attention id) →
        HourClear K command.quietHours command.scheduledAt (db.deadline command.decisionId))
  | .advance notificationId trustedNow =>
    ∀ stored, db.notifications.find? notificationId = some stored → Due db stored trustedNow →
      stored.reminderCount + 1 < MAX_REMINDERS →
      HourClear K stored.quietHours trustedNow (db.deadline stored.decisionId)
  | .aside => True

section Deadline
variable {C : Crates} {K : TimeCrates} {redactor : ReceiptRedactor} {before after db : Db}
  {command : NotificationScheduleCommand} {scheduledAt : Int} {binding : AttentionBinding}

theorem deadline_some {id : Text} {decision : DecisionRow}
    (found : db.decisions.find? id = some decision) :
    db.deadline (some id) = (db.challenges.find? id).map (·.expiresAt) := by
  simp [Db.deadline, found, Table.find?_key found]

/-- The binding of an attention item has the deadline of the decision of the command. -/
theorem attention_deadline {attentionId : Text}
    (found : db.currentAttentionBinding command attentionId scheduledAt = some binding) :
    binding.deadlineMs = db.deadline command.decisionId ∧ Fixed db command.decisionId := by
  simp only [Db.currentAttentionBinding] at found
  split at found
  · cases found
  split at found
  · cases found
  split at found
  swap
  · cases found
  rename_i current
  obtain ⟨-, decision, -, -, -⟩ := current
  split at found
  · rename_i unasked
    split at found
    · cases found
      rw [← decision, unasked]
      exact ⟨rfl, fun id listed => by cases listed⟩
    · cases found
  · rename_i decisionId asked
    split at found
    · cases found
    rename_i reasonRevision deadline pending
    split at found
    swap
    · cases found
    cases found
    rw [← decision, asked]
    simp only [Db.boundDecision] at pending
    split at pending
    · cases pending
    rename_i row stored
    rw [deadline_some stored]
    split at pending
    swap
    · cases pending
    split at pending
    · rename_i challenge challenged
      split at pending
      swap
      · cases pending
      cases pending
      refine ⟨by rw [challenged]; rfl, ?_⟩
      intro _ listed
      cases listed
      exact ⟨row, stored, .inl (by rw [challenged]; rfl)⟩
    · rename_i unchallenged
      split at pending
      · cases pending
      rename_i safe
      cases pending
      refine ⟨by rw [unchallenged]; rfl, ?_⟩
      intro _ listed
      cases listed
      exact ⟨row, stored, .inr ⟨by simpa using safe, unchallenged⟩⟩

/-- The next reminder of a binding is that of an attention item. -/
theorem binding_next {next : Int}
    (found : db.currentNotificationBinding command scheduledAt = some binding)
    (reminds : (newNotification C command binding scheduledAt).nextReminderAt = some next) :
    (∃ id, command.source = .attention id) ∧
      boundedNextReminder scheduledAt (db.deadline command.decisionId) = some next ∧
      Fixed db command.decisionId := by
  simp only [newNotification] at reminds
  split at reminds
  · cases reminds
  rename_i attention
  simp only [Db.currentNotificationBinding] at found
  split at found
  · rename_i attentionId named
    obtain ⟨deadline, fixed⟩ := attention_deadline found
    exact ⟨⟨attentionId, named⟩, deadline ▸ reminds, fixed⟩
  · split at found
    · simp only [Db.currentCompletionBinding] at found
      split at found
      · cases found
      split at found
      · cases found
      split at found
      · cases found
        simp at attention
      · cases found
    · cases found

theorem deadline_aside {decisionId : Option Text} (beside : Aside before after)
    (fixed : Fixed before decisionId) :
    after.deadline decisionId = before.deadline decisionId ∧ Fixed after decisionId := by
  cases decisionId with
  | none => exact ⟨rfl, fun id listed => by cases listed⟩
  | some id =>
    obtain ⟨decision, found, closed⟩ := fixed id rfl
    obtain ⟨later, kept, same⟩ := beside.decisions id decision found
    rw [deadline_some found, deadline_some kept]
    rcases closed with challenged | ⟨safe, unchallenged⟩
    · obtain ⟨challenge, present⟩ := Option.isSome_iff_exists.mp challenged
      obtain ⟨stays, remains, expiry⟩ := beside.challenges id challenge present
      rw [present, remains]
      refine ⟨congrArg some expiry, ?_⟩
      intro _ listed
      cases listed
      exact ⟨later, kept, .inl (by rw [remains]; rfl)⟩
    · have still : after.challenges.find? id = none := by
        cases asked : after.challenges.find? id with
        | none => rfl
        | some challenge =>
          obtain ⟨other, stored, dangerous⟩ := beside.challenged id challenge asked unchallenged
          cases kept.symm.trans stored
          rw [same, safe] at dangerous
          cases dangerous
      rw [unchallenged, still]
      refine ⟨rfl, ?_⟩
      intro _ listed
      cases listed
      exact ⟨later, kept, .inr ⟨same.trans safe, still⟩⟩

theorem added_deadline {row : NotificationRow} {event : Delegation.NewOutboxEvent}
    (added : Added row event before after) : after.deadline = before.deadline := by
  rw [added.rest]
  rfl

theorem changed_deadline {stored new : NotificationRow} (changed : Changed stored new before after) :
    after.deadline = before.deadline := by
  rw [changed.rest]
  rfl

theorem added_fixed {row : NotificationRow} {event : Delegation.NewOutboxEvent}
    (added : Added row event before after) : Fixed after = Fixed before := by
  rw [added.rest]
  rfl

theorem changed_fixed {stored new : NotificationRow} (changed : Changed stored new before after) :
    Fixed after = Fixed before := by
  rw [changed.rest]
  rfl

/-- The reminder after one is no later than the deadline. -/
theorem reminderAfter_next {stored : NotificationRow} {trustedNow next : Int}
    (computed : db.reminderAfter K stored trustedNow = .ok (some next)) :
    stored.reminderCount + 1 < MAX_REMINDERS ∧ ∃ deferred,
      deferForQuietHours K trustedNow stored.quietHours = .ok deferred ∧
      boundedNextReminder deferred (db.deadline stored.decisionId) = some next := by
  unfold Db.reminderAfter at computed
  split at computed
  · cases computed
  rename_i more
  simp only [bind_ok] at computed
  obtain ⟨deferred, moved, computed⟩ := computed
  exact ⟨Nat.lt_of_not_le more, deferred, moved, Except.ok.inj computed⟩

end Deadline

/-! One commit. -/

section Steps
variable {C : Crates} {K : TimeCrates} {redactor : ReceiptRedactor} {before after : Db}
  {commit : Commit}

def AllBounded (db : Db) : Prop := ∀ row ∈ db.notifications.rows, Bounded db row

def AllRespected (K : TimeCrates) (db : Db) : Prop :=
  ∀ row ∈ db.notifications.rows, Respected K db row

theorem bounded_step (kept : AllBounded before) (taken : Step C K redactor before commit after) :
    AllBounded after := by
  intro row member
  cases taken with
  | schedule done =>
    rcases schedule_cases done with rfl | ⟨-, scheduledAt, binding, deferred, found, added⟩
    · exact kept row member
    · rw [added.notifications] at member
      rcases List.mem_append.mp member with old | new
      · obtain ⟨deadline, cap, fixed⟩ := kept row old
        exact ⟨added_deadline added ▸ deadline, cap, added_fixed added ▸ fixed⟩
      · cases List.mem_singleton.mp new
        refine ⟨?_, Nat.zero_le _, ?_⟩
        · intro next reminds
          rw [added_deadline added]
          exact boundedNextReminder_le (binding_next found reminds).2.1
        · intro reminds
          obtain ⟨next, reminds⟩ := Option.ne_none_iff_exists'.mp reminds
          rw [added_fixed added]
          exact (binding_next found reminds).2.2
  | advance done =>
    rcases advance_cases done with rfl | ⟨stored, -, changed | ⟨due, next, computed, changed⟩⟩
    · exact kept row member
    · rcases changed.mem.mp member with rfl | ⟨old, -⟩
      · refine ⟨?_, (kept stored changed.present).cap, fun some => absurd rfl some⟩
        intro next reminds
        cases reminds
      · obtain ⟨deadline, cap, fixed⟩ := kept row old
        exact ⟨changed_deadline changed ▸ deadline, cap, changed_fixed changed ▸ fixed⟩
    · rcases changed.mem.mp member with rfl | ⟨old, -⟩
      · refine ⟨?_, due.below, ?_⟩
        · rintro soon (rfl : next = some soon)
          rw [changed_deadline changed]
          obtain ⟨-, deferred, -, bounded⟩ := reminderAfter_next computed
          exact boundedNextReminder_le bounded
        · intro _
          obtain ⟨passed, reminds, -⟩ := due.passed
          rw [changed_fixed changed]
          exact (kept stored changed.present).fixed (by simp [reminds])
      · obtain ⟨deadline, cap, fixed⟩ := kept row old
        exact ⟨changed_deadline changed ▸ deadline, cap, changed_fixed changed ▸ fixed⟩
  | aside beside =>
    rw [beside.notifications] at member
    obtain ⟨deadline, cap, fixed⟩ := kept row member
    refine ⟨?_, cap, fun reminds => (deadline_aside beside (fixed reminds)).2⟩
    intro next reminds
    rw [(deadline_aside beside (fixed (by rw [reminds]; simp))).1]
    exact deadline next reminds

theorem respected_step (bounded : AllBounded before) (kept : AllRespected K before)
    (spared : Spared K before commit) (taken : Step C K redactor before commit after) :
    AllRespected K after := by
  intro row member
  cases taken with
  | schedule done =>
    rcases schedule_cases done with rfl | ⟨unheard, scheduledAt, binding, deferred, found, added⟩
    · exact kept row member
    · rw [added.notifications] at member
      rcases List.mem_append.mp member with old | new
      · obtain ⟨scheduled, next⟩ := kept row old
        exact ⟨scheduled, added_deadline added ▸ next⟩
      · cases List.mem_singleton.mp new
        obtain ⟨passes, clear⟩ := spared unheard
        refine ⟨defer_outside deferred passes, ?_⟩
        intro next reminds
        rw [added_deadline added]
        obtain ⟨attention, computed, -⟩ := binding_next found reminds
        exact next_outside deferred (clear attention) computed
  | advance done =>
    rcases advance_cases done with rfl | ⟨stored, read, changed | ⟨due, next, computed, changed⟩⟩
    · exact kept row member
    · rcases changed.mem.mp member with rfl | ⟨old, -⟩
      · refine ⟨(kept stored changed.present).scheduled, ?_⟩
        intro next reminds
        cases reminds
      · obtain ⟨scheduled, next⟩ := kept row old
        exact ⟨scheduled, changed_deadline changed ▸ next⟩
    · rcases changed.mem.mp member with rfl | ⟨old, -⟩
      · refine ⟨(kept stored changed.present).scheduled, ?_⟩
        rintro soon (rfl : next = some soon)
        rw [changed_deadline changed]
        obtain ⟨more, deferred, moved, bounded⟩ := reminderAfter_next computed
        exact next_outside moved (spared stored read due more) bounded
      · obtain ⟨scheduled, next⟩ := kept row old
        exact ⟨scheduled, changed_deadline changed ▸ next⟩
  | aside beside =>
    rw [beside.notifications] at member
    obtain ⟨scheduled, next⟩ := kept row member
    refine ⟨scheduled, ?_⟩
    intro soon reminds
    have fixed := (bounded row member).fixed (by rw [reminds]; simp)
    rw [(deadline_aside beside fixed).1]
    exact next soon reminds

end Steps

/-! The reminders of a run. -/

/-- A reminder of a notification, as it stood before. -/
structure Reminder where
  before : NotificationRow
  remindedAt : Int

/-- A store and the reminders so far. -/
structure Journal where
  db : Db
  reminders : List Reminder

/-- A commit records a reminder where it counts one. -/
def recorded (before after : Db) : Commit → List Reminder
  | .advance notificationId trustedNow =>
    match before.notifications.find? notificationId, after.notifications.find? notificationId with
    | some old, some new => if new.reminderCount = old.reminderCount then [] else [⟨old, trustedNow⟩]
    | _, _ => []
  | _ => []

def JournalStep (C : Crates) (K : TimeCrates) (redactor : ReceiptRedactor) (j : Journal)
    (commit : Commit) (j' : Journal) : Prop :=
  Step C K redactor j.db commit j'.db ∧
    j'.reminders = j.reminders ++ recorded j.db j'.db commit

/-- The number of reminders of a notification. -/
def Journal.count (j : Journal) (notificationId : Text) : Nat :=
  j.reminders.countP (·.before.notificationId = notificationId)

structure Kept (j : Journal) : Prop where
  bounded : AllBounded j.db
  counted : ∀ row ∈ j.db.notifications.rows, j.count row.notificationId = row.reminderCount
  known : ∀ r ∈ j.reminders, ∃ row ∈ j.db.notifications.rows,
    row.notificationId = r.before.notificationId
  timely : ∀ r ∈ j.reminders, r.before.isCancelled = false ∧
    ∃ next, r.before.nextReminderAt = some next ∧ next ≤ r.remindedAt

section Journals
variable {C : Crates} {K : TimeCrates} {redactor : ReceiptRedactor} {before after : Db}
  {commit : Commit} {j j' : Journal}

theorem Changed.find {stored new : NotificationRow} (changed : Changed stored new before after)
    (same : new.notificationId = stored.notificationId) :
    after.notifications.find? stored.notificationId = some new := by
  rw [← same]
  exact Table.find?_of_mem (changed.mem.mpr (.inl rfl))

theorem recorded_same (same : after.notifications = before.notifications) :
    recorded before after commit = [] := by
  unfold recorded
  split
  · rw [same]
    split
    · rename_i first second
      cases first.symm.trans second
      exact if_pos rfl
    · rfl
  · rfl

/-- The rows of one store are those of another and new ones that have no reminder. -/
structure Carried (before after : Db) : Prop where
  rows : ∀ row ∈ after.notifications.rows,
    (∃ old ∈ before.notifications.rows, old.notificationId = row.notificationId ∧
      row.reminderCount = old.reminderCount) ∨
    row.reminderCount = 0 ∧ ∀ old ∈ before.notifications.rows,
      old.notificationId ≠ row.notificationId
  stays : ∀ old ∈ before.notifications.rows, ∃ row ∈ after.notifications.rows,
    row.notificationId = old.notificationId

theorem carried_same (same : after.notifications = before.notifications) : Carried before after := by
  constructor
  · rw [same]
    exact fun row member => .inl ⟨row, member, rfl, rfl⟩
  · rw [same]
    exact fun row member => ⟨row, member, rfl⟩

theorem kept_carried (kept : Kept j) (bounded : AllBounded j'.db)
    (same : j'.reminders = j.reminders) (carried : Carried j.db j'.db) : Kept j' where
  bounded := bounded
  counted row member := by
    have count : j'.count row.notificationId = j.count row.notificationId := by
      rw [Journal.count, Journal.count, same]
    rw [count]
    rcases carried.rows row member with ⟨old, present, id, equal⟩ | ⟨none, fresh⟩
    · rw [← id, equal]
      exact kept.counted old present
    · rw [none, Journal.count, List.countP_eq_zero]
      intro r listed
      obtain ⟨old, present, id⟩ := kept.known r listed
      simpa [← id] using fresh old present
  known := by
    rw [same]
    intro r listed
    obtain ⟨old, present, id⟩ := kept.known r listed
    obtain ⟨row, member, stays⟩ := carried.stays old present
    exact ⟨row, member, stays.trans id⟩
  timely := by
    rw [same]
    exact kept.timely

/-- A reminder is counted where it is due. -/
theorem kept_reminded {stored : NotificationRow} {now : Int} {next : Option Int} (kept : Kept j)
    (bounded : AllBounded j'.db) (due : Due j.db stored now)
    (changed : Changed stored (stored.reminded now next) j.db j'.db)
    (recorded : j'.reminders = j.reminders ++ [⟨stored, now⟩]) : Kept j' where
  bounded := bounded
  counted row member := by
    rw [Journal.count, recorded, List.countP_append]
    rcases changed.mem.mp member with rfl | ⟨old, other⟩
    · change j.count stored.notificationId + List.countP
        (fun r : Reminder => decide (r.before.notificationId = stored.notificationId)) [⟨stored, now⟩] =
          stored.reminderCount + 1
      rw [kept.counted stored changed.present]
      simp
    · have count := kept.counted row old
      rw [Journal.count] at count
      simp [count, Ne.symm other]
  known := by
    rw [recorded]
    intro r listed
    rcases List.mem_append.mp listed with earlier | last
    · obtain ⟨old, present, id⟩ := kept.known r earlier
      by_cases same : old.notificationId = stored.notificationId
      · exact ⟨_, changed.mem.mpr (.inl rfl), same.symm.trans id⟩
      · exact ⟨old, changed.mem.mpr (.inr ⟨present, same⟩), id⟩
    · cases List.mem_singleton.mp last
      exact ⟨_, changed.mem.mpr (.inl rfl), rfl⟩
  timely := by
    rw [recorded]
    intro r listed
    rcases List.mem_append.mp listed with earlier | last
    · exact kept.timely r earlier
    · cases List.mem_singleton.mp last
      exact ⟨due.live, due.passed⟩

theorem carried_added {row : NotificationRow} {event : Delegation.NewOutboxEvent}
    (added : Added row event before after)
    (none : row.reminderCount = 0)
    (fresh : before.notifications.find? row.notificationId = .none) : Carried before after := by
  constructor
  · rw [added.notifications]
    intro other member
    rcases List.mem_append.mp member with old | new
    · exact .inl ⟨other, old, rfl, rfl⟩
    · cases List.mem_singleton.mp new
      refine .inr ⟨none, fun old present same => ?_⟩
      have found := Table.find?_of_mem present
      rw [same, fresh] at found
      cases found
  · rw [added.notifications]
    exact fun old present => ⟨old, List.mem_append_left _ present, rfl⟩

theorem carried_changed {stored new : NotificationRow} (changed : Changed stored new before after)
    (id : new.notificationId = stored.notificationId)
    (count : new.reminderCount = stored.reminderCount) : Carried before after := by
  constructor
  · intro row member
    rcases changed.mem.mp member with rfl | ⟨old, -⟩
    · exact .inl ⟨stored, changed.present, id.symm, count⟩
    · exact .inl ⟨row, old, rfl, rfl⟩
  · intro old present
    by_cases same : old.notificationId = stored.notificationId
    · exact ⟨new, changed.mem.mpr (.inl rfl), id.trans same.symm⟩
    · exact ⟨old, changed.mem.mpr (.inr ⟨present, same⟩), rfl⟩

theorem kept_step (kept : Kept j) (taken : JournalStep C K redactor j commit j') : Kept j' := by
  obtain ⟨step, reminders⟩ := taken
  have bounded := bounded_step kept.bounded step
  cases step with
  | schedule done =>
    have same : j'.reminders = j.reminders := by simpa [recorded] using reminders
    rcases schedule_cases done with still | ⟨unheard, scheduledAt, binding, -, -, added⟩
    · exact kept_carried kept bounded same (carried_same (by rw [still]))
    · exact kept_carried kept bounded same (carried_added added rfl unheard.1)
  | aside beside =>
    have same : j'.reminders = j.reminders := by simpa [recorded] using reminders
    exact kept_carried kept bounded same (carried_same beside.notifications)
  | @advance _ _ notificationId now done =>
    rcases advance_cases done with still | ⟨stored, read, changed | ⟨due, next, -, changed⟩⟩
    · rw [recorded_same (by rw [still])] at reminders
      exact kept_carried kept bounded (by simpa using reminders) (carried_same (by rw [still]))
    · cases Table.find?_key read
      have found := changed.find rfl
      simp only [recorded, read, found, NotificationRow.cancelledAt, if_true] at reminders
      exact kept_carried kept bounded (by simpa using reminders) (carried_changed changed rfl rfl)
    · cases Table.find?_key read
      have found := changed.find rfl
      simp only [recorded, read, found, NotificationRow.reminded, Nat.succ_ne_self,
        if_false] at reminders
      exact kept_reminded kept bounded due changed reminders

/-- A cancelled notification stays so, and is not reminded of. -/
structure Ended (notificationId : Text) (db : Db) : Prop where
  present : ∃ row ∈ db.notifications.rows, row.notificationId = notificationId
  cancelled : ∀ row ∈ db.notifications.rows, row.notificationId = notificationId →
    row.isCancelled = true

theorem ended_same {notificationId : Text} (ended : Ended notificationId before)
    (same : after.notifications = before.notifications) : Ended notificationId after := by
  obtain ⟨present, cancelled⟩ := ended
  exact ⟨same ▸ present, same ▸ cancelled⟩

theorem ended_changed {notificationId : Text} {stored new : NotificationRow}
    (ended : Ended notificationId before) (changed : Changed stored new before after)
    (id : new.notificationId = stored.notificationId)
    (cancelled : new.isCancelled = stored.isCancelled ∨ new.isCancelled = true) :
    Ended notificationId after := by
  obtain ⟨⟨row, present, named⟩, all⟩ := ended
  constructor
  · by_cases same : row.notificationId = stored.notificationId
    · exact ⟨new, changed.mem.mpr (.inl rfl), id.trans (same.symm.trans named)⟩
    · exact ⟨row, changed.mem.mpr (.inr ⟨present, same⟩), named⟩
  · intro other member called
    rcases changed.mem.mp member with rfl | ⟨old, -⟩
    · rcases cancelled with same | ended
      · rw [same]
        exact all stored changed.present (id.symm.trans called)
      · exact ended
    · exact all other old called

theorem ended_step {notificationId : Text} (ended : Ended notificationId before)
    (taken : Step C K redactor before commit after) : Ended notificationId after ∧
      ∀ r ∈ recorded before after commit, r.before.notificationId ≠ notificationId := by
  cases taken with
  | schedule done =>
    refine ⟨?_, by simp [recorded]⟩
    rcases schedule_cases done with rfl | ⟨unheard, scheduledAt, binding, -, -, added⟩
    · exact ended
    · obtain ⟨⟨row, present, named⟩, all⟩ := ended
      refine ⟨⟨row, ?_, named⟩, ?_⟩
      · rw [added.notifications]
        exact List.mem_append_left _ present
      · rw [added.notifications]
        intro other member called
        rcases List.mem_append.mp member with old | new
        · exact all other old called
        · cases List.mem_singleton.mp new
          have found := Table.find?_of_mem present
          rw [named, ← called] at found
          cases unheard.1.symm.trans found
  | aside beside => exact ⟨ended_same ended beside.notifications, by simp [recorded]⟩
  | @advance _ _ id now done =>
    rcases advance_cases done with rfl | ⟨stored, read, changed | ⟨due, next, -, changed⟩⟩
    · exact ⟨ended, by simp [recorded_same]⟩
    · cases Table.find?_key read
      have found := changed.find rfl
      refine ⟨ended_changed ended changed rfl (.inr (by simp [NotificationRow.isCancelled,
        NotificationRow.cancelledAt])), ?_⟩
      simp [recorded, read, found, NotificationRow.cancelledAt]
    · cases Table.find?_key read
      have found := changed.find rfl
      refine ⟨ended_changed ended changed rfl (.inl rfl), ?_⟩
      simp only [recorded, read, found, NotificationRow.reminded, Nat.succ_ne_self, if_false,
        List.mem_singleton]
      rintro _ rfl named
      have cancelled := ended.cancelled stored changed.present named
      rw [due.live] at cancelled
      cases cancelled

theorem ended_run {notificationId : Text} {commits : List Commit}
    (ended : Ended notificationId j.db) (run : Run (JournalStep C K redactor) j commits j') :
    ∃ later, j'.reminders = j.reminders ++ later ∧
      ∀ r ∈ later, r.before.notificationId ≠ notificationId := by
  let Unreminded (s : Journal) : Prop := Ended notificationId s.db ∧
    ∃ later, s.reminders = j.reminders ++ later ∧
      ∀ r ∈ later, r.before.notificationId ≠ notificationId
  have start : Unreminded j := ⟨ended, [], by simp, by simp⟩
  refine (run_invariant ?_ start run).2
  intro first commit second held taken
  obtain ⟨ended, later, reminders, others⟩ := held
  obtain ⟨step, records⟩ := taken
  obtain ⟨stays, unreminded⟩ := ended_step ended step
  refine ⟨stays, later ++ recorded first.db second.db commit, ?_, ?_⟩
  · rw [records, reminders, List.append_assoc]
  · intro r listed
    rcases List.mem_append.mp listed with earlier | last
    · exact others r earlier
    · exact unreminded r last

def Journal.empty : Journal := ⟨.empty, []⟩

theorem kept_empty : Kept .empty where
  bounded := by simp [AllBounded, Journal.empty, Db.empty, Table.empty]
  counted := by simp [Journal.empty, Db.empty, Table.empty]
  known := by simp [Journal.empty]
  timely := by simp [Journal.empty]

theorem kept_run {commits : List Commit}
    (run : Run (JournalStep C K redactor) .empty commits j) : Kept j := by
  refine run_invariant ?_ kept_empty run
  intro first commit second kept taken
  exact kept_step kept taken

theorem respected_run {commits : List Commit}
    (run : Run (Guarded (Step C K redactor) (Spared K)) .empty commits db) :
    AllBounded db ∧ AllRespected K db := by
  let Held (db : Db) : Prop := AllBounded db ∧ AllRespected K db
  have start : Held .empty :=
    ⟨kept_empty.bounded, by simp [AllRespected, Db.empty, Table.empty]⟩
  have held : Held db := by
    refine run_invariant ?_ start run
    rintro first commit second ⟨bounded, respected⟩ ⟨spared, taken⟩
    exact ⟨bounded_step bounded taken, respected_step bounded respected spared taken⟩
  exact held

end Journals

/-- Deferring respects quiet hours where they can be passed; deadlines, the cap and the order of
reminders and cancellation are kept in every run, and quiet hours in one that is spared. -/
theorem reminders_respect (C : Crates) (K : TimeCrates) (redactor : ReceiptRedactor) :
    (∀ policy tz atMs, validateQuietHours K policy = .ok tz →
      ((∃ toMs, deferForQuietHours K atMs (some policy) = .ok toMs ∧ atMs ≤ toMs ∧
          ¬ QuietAt tz policy toMs ∧ deferForQuietHours K toMs (some policy) = .ok toMs) ↔
        Passable tz policy atMs)) ∧
    (∀ commits j, Run (JournalStep C K redactor) .empty commits j →
      (∀ row ∈ j.db.notifications.rows,
        (∀ next ∈ row.nextReminderAt, ∀ deadline ∈ j.db.deadline row.decisionId,
          next ≤ deadline) ∧
        j.count row.notificationId = row.reminderCount ∧ row.reminderCount ≤ 3 ∧
        (row.isCancelled = true → ∀ later j', Run (JournalStep C K redactor) j later j' →
          ∃ reminders, j'.reminders = j.reminders ++ reminders ∧
            ∀ r ∈ reminders, r.before.notificationId ≠ row.notificationId)) ∧
      ∀ r ∈ j.reminders, r.before.isCancelled = false ∧
        ∃ next, r.before.nextReminderAt = some next ∧ next ≤ r.remindedAt) ∧
    ∀ commits db, Run (Guarded (Step C K redactor) (Spared K)) .empty commits db →
      ∀ row ∈ db.notifications.rows, Outside K row.quietHours row.scheduledAt ∧
        ∀ next ∈ row.nextReminderAt,
          Outside K row.quietHours next ∨ db.deadline row.decisionId = some next := by
  refine ⟨?_, ?_, ?_⟩
  · intro policy tz atMs valid
    simp only [deferForQuietHours, valid, ok_bind]
    exact defers_iff (validateQuietHours_ok valid).1
  · intro commits j run
    have kept := kept_run run
    refine ⟨?_, kept.timely⟩
    intro row member
    obtain ⟨deadline, cap, -⟩ := kept.bounded row member
    refine ⟨deadline, kept.counted row member, cap, ?_⟩
    intro cancelled later j' further
    have ended : Ended row.notificationId j.db := by
      refine ⟨⟨row, member, rfl⟩, ?_⟩
      intro other present same
      rw [Table.eq_of_key present member same]
      exact cancelled
    exact ended_run ended further
  · intro commits db run row member
    obtain ⟨scheduled, next⟩ := (respected_run run).2 row member
    exact ⟨scheduled, next⟩

/-! An evening, and a night in which the clock is set forward. -/

theorem forward_shows {instant before after : Int} (forward : before < after) (l : Int) :
    Shows (fun u => if u < instant then before else after) l
      (if l - before < instant then .single (l - before)
      else if instant ≤ l - after then .single (l - after) else .none) := by
  split
  · simp only [Shows]
    intro u
    split <;> omega
  · split
    · simp only [Shows]
      intro u
      split <;> omega
    · simp only [Shows]
      intro u
      split <;> omega

/-- A clock that is set forward at an instant. -/
def setForward (instant before after : Int) (forward : before < after) : Tz where
  offset u := if u < instant then before else after
  fromLocal l :=
    if l - before < instant then .single (l - before)
    else if instant ≤ l - after then .single (l - after) else .none
  shows := forward_shows forward

/-- New York in 2024: at two in the morning of the tenth of March it is three. -/
def newYork : Tz := setForward 1710054000 (-18000) (-14400) (by decide)

/-- Quiet at all times but from ten past two to half past two. -/
def almostAlways : QuietHoursPolicy := ⟨"America/New_York", 2 * 60 + 30, 2 * 60 + 10⟩

def nightly : QuietHoursPolicy := ⟨"UTC", 22 * 60, 7 * 60⟩

def utcTime : TimeCrates where
  fromStr name := if name = "UTC" then .ok utc else bail "unknown timezone"
  format := formatLocal

/-- Half past nine in the evening, half an hour before quiet hours. -/
def eveningCommand : NotificationScheduleCommand := { sampleCommand ['n'] ['a'] with
  scheduledAt := 1728077400000
  quietHours := some nightly }

theorem evening_scheduled : ∃ db, Reached asciiCrates utcTime Receipt.quotedSecret db ∧
    newNotification asciiCrates eveningCommand (sampleBinding ['a']) 1728077400000 ∈
      db.notifications.rows ∧ db.deadline none = none := by
  have valid : validateNotificationCommand utcTime Receipt.quotedSecret eveningCommand = .ok () := by
    decide +kernel
  have deferred : deferForQuietHours utcTime 1728077400000 (some nightly) = .ok 1728077400000 := by
    decide +kernel
  have none : sampleDb.notifications.rows = [] := rfl
  have quiet : sampleDb.outboxEvents.rows = [] := rfl
  obtain ⟨db, done, added⟩ := @schedule_scheduled asciiCrates utcTime Receipt.quotedSecret _ _ _
    (sampleBinding ['a']) (reached_linked (sample_reached utcTime)) valid (by simp [FreshFor, none])
    deferred rfl (by simp [none]) ⟨by simp [none], by simp [none], by simp [quiet]⟩ rfl
  obtain ⟨commits, run⟩ := sample_reached utcTime
  refine ⟨db, ⟨_, run.snoc (.schedule done)⟩, ?_, rfl⟩
  simp [added.notifications]

/-- The reminder an hour after half past nine is in quiet hours, and there is no deadline; a time
that quiet hours end at is quiet itself, and deferred once more, where the clock skips it. -/
theorem reminder_in_quiet_hours :
    (∃ db, Reached asciiCrates utcTime Receipt.quotedSecret db ∧
      ∃ row ∈ db.notifications.rows, row.quietHours = some nightly ∧
        row.nextReminderAt = some 1728081000000 ∧ QuietAt utc nightly 1728081000000 ∧
        db.deadline row.decisionId = none) ∧
    Interval almostAlways ∧
    deferInTimezone newYork almostAlways 1710050400000 = .ok 1710054000000 ∧
    QuietAt newYork almostAlways 1710054000000 ∧
    deferInTimezone newYork almostAlways 1710054000000 ≠ .ok 1710054000000 := by
  obtain ⟨db, reached, present, undecided⟩ := evening_scheduled
  refine ⟨⟨db, reached, _, present, rfl, rfl, by decide, undecided⟩, ⟨by decide, by decide, by decide⟩,
    ?_, by decide, ?_⟩
  · decide +kernel
  · decide +kernel

end CarsinOS.Notification
