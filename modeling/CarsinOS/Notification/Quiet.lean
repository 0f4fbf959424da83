import CarsinOS.Notification.Delivery

/-! When deferring past quiet hours ends outside of them. -/
namespace CarsinOS.Notification
open CarsinOS.Lib CarsinOS.Integrity CarsinOS.Routine

/-- The instant is in the quiet hours, by the local clock. -/
def QuietAt (tz : Tz) (policy : QuietHoursPolicy) (atMs : Int) : Prop :=
  policy.quiet (minuteOfDay (atMs / 1000 + tz.offset (atMs / 1000))) = true

instance (tz : Tz) (policy : QuietHoursPolicy) (atMs : Int) : Decidable (QuietAt tz policy atMs) :=
  inferInstanceAs (Decidable (_ = true))

/-- The policy names minutes of the day, and not one twice. -/
structure Interval (policy : QuietHoursPolicy) : Prop where
  start : policy.startMinute < minutesPerDay
  finish : policy.endMinute < minutesPerDay
  some : policy.startMinute ≠ policy.endMinute

/-- The number of minutes of a day that are not quiet. -/
def QuietHoursPolicy.freeMinutes (policy : QuietHoursPolicy) : Nat :=
  (policy.startMinute + minutesPerDay - policy.endMinute) % minutesPerDay

/-- The local time at which the quiet hours around a local time end. -/
def QuietHoursPolicy.quietEnd (policy : QuietHoursPolicy) (localTime : Int) : Int :=
  let date := localTime / secondsPerDay
  60 * policy.endMinute + secondsPerDay *
    if policy.endMinute < policy.startMinute ∧ policy.startMinute ≤ minuteOfDay localTime then date + 1
    else date

/-- The last instant at which the clock shows a local time. -/
def LastShown (tz : Tz) (localTime instant : Int) : Prop :=
  fromLocalDatetime tz localTime = .single instant ∨
    ∃ earlier, fromLocalDatetime tz localTime = .ambiguous earlier instant

/-- From a local time on, the clock skips so many whole minutes and shows the next one last at the
instant. -/
structure Skips (tz : Tz) (localTime : Int) (minutes : Nat) (instant : Int) : Prop where
  skipped : ∀ k < minutes, fromLocalDatetime tz (localTime + 60 * k) = .none
  shown : LastShown tz (localTime + 60 * minutes) instant
  inRange : InRange (localTime + 60 * minutes)

/-- The instant has a local time in the calendar. -/
def Dated (tz : Tz) (atMs : Int) : Prop :=
  InRange (atMs / 1000) ∧ InRange (atMs / 1000 + tz.offset (atMs / 1000))

/-- Where quiet hours move an instant to. -/
def DefersTo (tz : Tz) (policy : QuietHoursPolicy) (atMs toMs : Int) : Prop :=
  Dated tz atMs ∧
    if QuietAt tz policy atMs then
      ∃ minutes ≤ 24 * 60, ∃ instant, toMs = 1000 * instant ∧
        Skips tz (policy.quietEnd (atMs / 1000 + tz.offset (atMs / 1000))) minutes instant
    else toMs = atMs

/-- The minutes that the clock skips at the end of the quiet hours are fewer than those of a day
that are not quiet, and it shows the next one at the instant or later. -/
def Passable (tz : Tz) (policy : QuietHoursPolicy) (atMs : Int) : Prop :=
  Dated tz atMs ∧
    (QuietAt tz policy atMs → ∃ minutes ≤ 24 * 60, ∃ instant,
      Skips tz (policy.quietEnd (atMs / 1000 + tz.offset (atMs / 1000))) minutes instant ∧
      minutes % minutesPerDay < policy.freeMinutes ∧ atMs ≤ 1000 * instant)

section Clock
variable {tz : Tz} {policy : QuietHoursPolicy} {localTime instant atMs toMs : Int}

theorem lastShown_offset (last : LastShown tz localTime instant) :
    InRange instant ∧ instant + tz.offset instant = localTime := by
  have shows := tz.shows localTime
  unfold LastShown fromLocalDatetime at last
  cases found : tz.fromLocal localTime with
  | none => simp [found] at last
  | single u =>
    rw [found] at shows
    simp only [found] at last
    split at last
    · rename_i inside
      simp only [LocalResult.single.injEq, reduceCtorEq, exists_false, or_false] at last
      cases last
      exact ⟨inside, (shows _).mpr rfl⟩
    · simp at last
  | ambiguous u v =>
    rw [found] at shows
    simp only [found] at last
    split at last
    · rename_i inside
      simp only [LocalResult.ambiguous.injEq, reduceCtorEq, false_or] at last
      obtain ⟨_, _, rfl⟩ := last
      exact ⟨inside.2, shows.2.2.1⟩
    · simp at last

/-- The clock last shows a local time at one instant, unless it does not show it. -/
theorem shown_or (tz : Tz) (localTime : Int) :
    fromLocalDatetime tz localTime = .none ∨ ∃ instant, LastShown tz localTime instant := by
  cases found : fromLocalDatetime tz localTime with
  | none => exact .inl rfl
  | single instant => exact .inr ⟨instant, .inl found⟩
  | ambiguous earlier instant => exact .inr ⟨instant, .inr ⟨earlier, found⟩⟩

theorem lastShown_unique {other : Int} (first : LastShown tz localTime instant)
    (second : LastShown tz localTime other) : instant = other := by
  rcases first with first | ⟨_, first⟩ <;> rcases second with second | ⟨_, second⟩ <;>
    simp_all

theorem resolveQuietFrom_shown {tries : Nat} (last : LastShown tz localTime instant) :
    resolveQuietFrom tz (tries + 1) localTime = .ok (1000 * instant) := by
  rcases last with found | ⟨_, found⟩ <;> simp [resolveQuietFrom, found]

theorem resolveQuietFrom_skipped {tries : Nat} (skipped : fromLocalDatetime tz localTime = .none) :
    resolveQuietFrom tz (tries + 1) localTime =
      if InRange (localTime + 60) then resolveQuietFrom tz tries (localTime + 60)
      else bail "quiet-hours DST advance overflowed" := by
  simp [resolveQuietFrom, skipped]

theorem inRange_between {first last middle : Int} (one : InRange first) (two : InRange last)
    (low : first ≤ middle) (high : middle ≤ last) : InRange middle := by
  simp only [InRange, secondsPerDay, MIN_DATE, MAX_DATE] at *
  omega

/-- The loop ends at the first minute that the clock shows. -/
theorem resolveQuietFrom_ok {tries : Nat} (inside : InRange localTime) :
    resolveQuietFrom tz tries localTime = .ok toMs ↔
      ∃ minutes < tries, ∃ instant, toMs = 1000 * instant ∧ Skips tz localTime minutes instant := by
  induction tries generalizing localTime with
  | zero => simp [resolveQuietFrom, bail]
  | succ tries ih =>
    rcases shown_or tz localTime with skipped | ⟨instant, last⟩
    · rw [resolveQuietFrom_skipped skipped]
      constructor
      · intro done
        split at done
        · rename_i next
          obtain ⟨minutes, few, instant, rfl, skips⟩ := (ih next).mp done
          refine ⟨minutes + 1, by omega, instant, rfl, ?_, ?_, ?_⟩
          · intro k below
            cases k with
            | zero => simpa using skipped
            | succ k =>
              have later := skips.skipped k (by omega)
              rwa [show localTime + 60 + 60 * (k : Int) = localTime + 60 * ((k + 1 : Nat) : Int) by
                push_cast; ring] at later
          · have shown := skips.shown
            rwa [show localTime + 60 + 60 * (minutes : Int) =
              localTime + 60 * ((minutes + 1 : Nat) : Int) by push_cast; ring] at shown
          · have inRange := skips.inRange
            rwa [show localTime + 60 + 60 * (minutes : Int) =
              localTime + 60 * ((minutes + 1 : Nat) : Int) by push_cast; ring] at inRange
        · cases done
      · rintro ⟨minutes, few, instant, rfl, skips⟩
        cases minutes with
        | zero =>
          have shown := skips.shown
          rcases shown with found | ⟨_, found⟩ <;> simp [skipped] at found
        | succ minutes =>
          have same (k : Nat) : localTime + 60 + 60 * (k : Int) =
              localTime + 60 * ((k + 1 : Nat) : Int) := by push_cast; ring
          have next : InRange (localTime + 60) :=
            inRange_between inside skips.inRange (by omega) (by push_cast; omega)
          rw [if_pos next, ih next]
          refine ⟨minutes, by omega, instant, rfl, ?_, ?_, ?_⟩
          · intro k below
            rw [same]
            exact skips.skipped (k + 1) (by omega)
          · rw [same]
            exact skips.shown
          · rw [same]
            exact skips.inRange
    · rw [resolveQuietFrom_shown last]
      constructor
      · intro done
        cases done
        exact ⟨0, by omega, instant, rfl, fun k below => absurd below (by omega), by simpa using last,
          by simpa using inside⟩
      · rintro ⟨minutes, few, other, rfl, skips⟩
        cases minutes with
        | zero =>
          have shown := skips.shown
          simp only [Nat.cast_zero, Int.mul_zero, Int.add_zero] at shown
          rw [lastShown_unique last shown]
        | succ minutes =>
          have skipped := skips.skipped 0 (by omega)
          simp only [Nat.cast_zero, Int.mul_zero, Int.add_zero] at skipped
          rcases last with found | ⟨_, found⟩ <;> simp [skipped] at found

theorem localTimeOf_ok {value : Int} : localTimeOf tz atMs = .ok value ↔
    Dated tz atMs ∧ value = atMs / 1000 + tz.offset (atMs / 1000) := by
  unfold localTimeOf Dated
  by_cases first : InRange (atMs / 1000)
  · by_cases second : InRange (atMs / 1000 + tz.offset (atMs / 1000))
    · simp [first, second, eq_comm]
    · simp [first, second, bail]
  · simp [first, bail]

theorem localSchedule_end (date : Int) :
    localSchedule date (policy.endMinute / 60) (policy.endMinute % 60) =
      60 * policy.endMinute + secondsPerDay * date := by
  simp only [localSchedule, secondsPerDay]
  omega

/-- The code's loop from the end of the quiet hours around a local time. -/
theorem resolveQuietEnd_ok {date : Int} (interval : Interval policy) (low : MIN_DATE ≤ date)
    (high : date ≤ MAX_DATE) :
    resolveQuietEnd tz date policy.endMinute = .ok toMs ↔
      ∃ minutes ≤ 24 * 60, ∃ instant, toMs = 1000 * instant ∧
        Skips tz (60 * policy.endMinute + secondsPerDay * date) minutes instant := by
  have finish := interval.finish
  have inside : InRange (60 * policy.endMinute + secondsPerDay * date) := by
    simp only [InRange, secondsPerDay, minutesPerDay, MIN_DATE, MAX_DATE] at *
    omega
  rw [resolveQuietEnd, localSchedule_end, resolveQuietFrom_ok inside]
  simp only [Nat.lt_succ_iff]

/-- The end of the quiet hours is on the date or on the next one, which the calendar may lack. -/
theorem quietEnd_ok (interval : Interval policy) (inside : InRange localTime) :
    (if policy.startMinute > policy.endMinute ∧ policy.startMinute ≤ minuteOfDay localTime then
      if MAX_DATE < localTime / secondsPerDay + 1 then bail "quiet-hours local date overflow"
      else resolveQuietEnd tz (localTime / secondsPerDay + 1) policy.endMinute
    else resolveQuietEnd tz (localTime / secondsPerDay) policy.endMinute) = .ok toMs ↔
      ∃ minutes ≤ 24 * 60, ∃ instant, toMs = 1000 * instant ∧
        Skips tz (policy.quietEnd localTime) minutes instant := by
  obtain ⟨low, high⟩ := inside
  by_cases tomorrow : policy.endMinute < policy.startMinute ∧
      policy.startMinute ≤ minuteOfDay localTime
  · rw [if_pos tomorrow]
    simp only [QuietHoursPolicy.quietEnd, if_pos tomorrow]
    by_cases past : MAX_DATE < localTime / secondsPerDay + 1
    · rw [if_pos past]
      constructor
      · intro done
        cases done
      · rintro ⟨minutes, -, instant, -, skips⟩
        have inRange := skips.inRange
        simp only [InRange, secondsPerDay] at inRange past
        omega
    · rw [if_neg past, resolveQuietEnd_ok interval (by omega) (by omega)]
  · rw [if_neg tomorrow, resolveQuietEnd_ok interval low high]
    simp only [QuietHoursPolicy.quietEnd, if_neg tomorrow]

theorem deferInTimezone_ok (interval : Interval policy) :
    deferInTimezone tz policy atMs = .ok toMs ↔ DefersTo tz policy atMs toMs := by
  simp only [deferInTimezone, bind_ok, localTimeOf_ok, DefersTo]
  constructor
  · rintro ⟨_, ⟨dated, rfl⟩, done⟩
    refine ⟨dated, ?_⟩
    split at done
    · rename_i free
      cases done
      rw [if_neg (by simp [QuietAt, free])]
    · rename_i quiet
      rw [if_pos (by simpa [QuietAt] using quiet)]
      exact (quietEnd_ok interval dated.2).mp done
  · rintro ⟨dated, moved⟩
    refine ⟨_, ⟨dated, rfl⟩, ?_⟩
    split at moved
    · rename_i quiet
      rw [if_neg (by simpa [QuietAt] using quiet)]
      exact (quietEnd_ok interval dated.2).mpr moved
    · rename_i free
      rw [if_pos (by simpa [QuietAt] using free), moved]

/-! Where it ends. -/

/-- A minute so far after the quiet hours is quiet again or not. -/
theorem quiet_after (interval : Interval policy) (minutes : Nat) :
    policy.quiet ((policy.endMinute + minutes : Int) % minutesPerDay) = false ↔
      minutes % minutesPerDay < policy.freeMinutes := by
  obtain ⟨start, finish, some⟩ := interval
  rw [QuietHoursPolicy.quiet, QuietHoursPolicy.freeMinutes, Bool.eq_false_iff]
  split
  · simp only [ne_eq, Bool.and_eq_true, decide_eq_true_eq]
    simp only [minutesPerDay] at *
    omega
  · simp only [ne_eq, Bool.or_eq_true, decide_eq_true_eq]
    simp only [minutesPerDay] at *
    omega

theorem skips_minute {minutes : Nat} (skips : Skips tz (policy.quietEnd localTime) minutes instant) :
    minuteOfDay (instant + tz.offset instant) =
      ((policy.endMinute + minutes : Int) % minutesPerDay) := by
  rw [(lastShown_offset skips.shown).2]
  simp only [QuietHoursPolicy.quietEnd, minuteOfDay, secondsPerDay, minutesPerDay]
  omega

theorem skips_dated {minutes : Nat} (skips : Skips tz localTime minutes instant) :
    Dated tz (1000 * instant) := by
  obtain ⟨inside, shown⟩ := lastShown_offset skips.shown
  simp only [Dated, Int.mul_ediv_cancel_left instant (by decide : (1000 : Int) ≠ 0), shown]
  exact ⟨inside, skips.inRange⟩

/-- The instant at the end of the quiet hours is quiet again where the clock skips as much as the
day has free. -/
theorem skips_quiet {minutes : Nat} (interval : Interval policy)
    (skips : Skips tz (policy.quietEnd localTime) minutes instant) :
    ¬ QuietAt tz policy (1000 * instant) ↔ minutes % minutesPerDay < policy.freeMinutes := by
  rw [QuietAt, Int.mul_ediv_cancel_left instant (by decide : (1000 : Int) ≠ 0),
    skips_minute skips, Bool.not_eq_true, quiet_after interval]

/-- An instant outside of quiet hours is left where it is. -/
theorem defersTo_free (dated : Dated tz atMs) (free : ¬ QuietAt tz policy atMs) :
    DefersTo tz policy atMs atMs := ⟨dated, by rw [if_neg free]⟩

/-- Deferring gives an instant that is no earlier, not quiet and left where it is, exactly where the
end of the quiet hours can be passed. -/
theorem defers_iff (interval : Interval policy) :
    (∃ toMs, deferInTimezone tz policy atMs = .ok toMs ∧ atMs ≤ toMs ∧ ¬ QuietAt tz policy toMs ∧
      deferInTimezone tz policy toMs = .ok toMs) ↔ Passable tz policy atMs := by
  simp only [deferInTimezone_ok interval]
  constructor
  · rintro ⟨toMs, ⟨dated, moved⟩, later, free, -⟩
    refine ⟨dated, fun quiet => ?_⟩
    rw [if_pos quiet] at moved
    obtain ⟨minutes, few, instant, rfl, skips⟩ := moved
    exact ⟨minutes, few, instant, skips, (skips_quiet interval skips).mp free, later⟩
  · rintro ⟨dated, passes⟩
    by_cases quiet : QuietAt tz policy atMs
    · obtain ⟨minutes, few, instant, skips, fits, later⟩ := passes quiet
      have free := (skips_quiet interval skips).mpr fits
      refine ⟨1000 * instant, ⟨dated, ?_⟩, later, free, defersTo_free (skips_dated skips) free⟩
      rw [if_pos quiet]
      exact ⟨minutes, few, instant, rfl, skips⟩
    · exact ⟨atMs, defersTo_free dated quiet, Int.le_refl _, quiet, defersTo_free dated quiet⟩

end Clock
end CarsinOS.Notification
