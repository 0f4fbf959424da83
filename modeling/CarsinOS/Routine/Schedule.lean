import CarsinOS.Text

/-! The schedule of a routine: the instant of its local time on a date, and the occurrences that are
due between two instants. A date is its number of days from 1970-01-01; a local time and an instant
of the clock are in seconds. -/
namespace CarsinOS.Routine

inductive RoutineOverlapPolicy where
  | earlier
  | later

inductive RoutineTimeResolution where
  | single
  | gapAdvanced
  | earlier
  | later
deriving DecidableEq

/-- `LocalResult`: the instants at which a clock shows a local time. -/
inductive LocalResult where
  | none
  | single (instant : Int)
  | ambiguous (earliest latest : Int)

/-- What a clock with this offset at every instant has for a local time. -/
def Shows (offset : Int → Int) (localTime : Int) : LocalResult → Prop
  | .none => ∀ u, u + offset u ≠ localTime
  | .single instant => ∀ u, u + offset u = localTime ↔ u = instant
  | .ambiguous earliest latest =>
    earliest < latest ∧ earliest + offset earliest = localTime ∧ latest + offset latest = localTime ∧
      ∀ u, u + offset u = localTime → earliest ≤ u ∧ u ≤ latest

structure Tz where
  offset : Int → Int
  fromLocal : Int → LocalResult
  shows : ∀ localTime, Shows offset localTime (fromLocal localTime)

/-- The timezones by name, and the printed form of a local time. -/
structure TimeCrates where
  fromStr : String → Anyhow Tz
  format : Int → String

structure RoutineOccurrenceCandidate where
  scheduledInstantMs : Int
  scheduledLocal : String
  utcOffsetSeconds : Int
  timeResolution : RoutineTimeResolution
deriving DecidableEq

structure RoutineRecord where
  timezone : String
  overlapPolicy : RoutineOverlapPolicy
  createdAt : Int

/-- `NaiveDate::MIN` and `NaiveDate::MAX`, in the years -262143 and 262142. -/
def MIN_DATE : Int := -96465292
def MAX_DATE : Int := 95026236

def secondsPerDay : Int := 86400

/-- The instant or local time is a `NaiveDateTime`. -/
def InRange (seconds : Int) : Prop :=
  MIN_DATE ≤ seconds / secondsPerDay ∧ seconds / secondsPerDay ≤ MAX_DATE

instance (seconds : Int) : Decidable (InRange seconds) := inferInstanceAs (Decidable (_ ∧ _))

/-- `from_local_datetime`; an instant out of range leaves none. -/
def fromLocalDatetime (tz : Tz) (localTime : Int) : LocalResult :=
  match tz.fromLocal localTime with
  | .none => .none
  | .single u => if InRange u then .single u else .none
  | .ambiguous u v => if InRange u ∧ InRange v then .ambiguous u v else .none

/-- The instant of a local time, which is the scheduled one or later. -/
def resolved (tz : Tz) (overlapPolicy : RoutineOverlapPolicy) (scheduled localTime : Int) :
    Option (Int × RoutineTimeResolution) :=
  match fromLocalDatetime tz localTime with
  | .none => none
  | .single u => some (u, if localTime ≠ scheduled then .gapAdvanced else .single)
  | .ambiguous u v =>
    match overlapPolicy with
    | .earlier => some (u, .earlier)
    | .later => some (v, .later)

/-- The tries that are left of the loop, from a local time on. -/
def resolveFrom (K : TimeCrates) (tz : Tz) (overlapPolicy : RoutineOverlapPolicy) (scheduled : Int) :
    Nat → Int → Anyhow RoutineOccurrenceCandidate
  | 0, _ => bail "routine local time did not resolve within 24 hours"
  | tries + 1, localTime =>
    match resolved tz overlapPolicy scheduled localTime with
    | some (instant, resolution) =>
      .ok {
        scheduledInstantMs := 1000 * instant
        scheduledLocal := K.format localTime
        utcOffsetSeconds := tz.offset instant
        timeResolution := resolution }
    | none =>
      if InRange (localTime + 60) then resolveFrom K tz overlapPolicy scheduled tries (localTime + 60)
      else bail "routine DST gap advance overflowed local clock"

def localSchedule (date : Int) (localHour localMinute : Nat) : Int :=
  date * secondsPerDay + localHour * 3600 + localMinute * 60

def resolveRoutineLocalTime (K : TimeCrates) (timezone : String) (date : Int)
    (localHour localMinute : Nat) (overlapPolicy : RoutineOverlapPolicy) :
    Anyhow RoutineOccurrenceCandidate := do
  let tz ← withContext ("invalid IANA timezone: " ++ timezone) (K.fromStr timezone)
  if localHour < 24 ∧ localMinute < 60 then
    let scheduled := localSchedule date localHour localMinute
    resolveFrom K tz overlapPolicy scheduled (24 * 60 + 1) scheduled
  else bail "routine local schedule time is invalid"

/-- The local date of an instant in milliseconds. A local time out of range panics. -/
def localDate (message : String) (tz : Tz) (instantMs : Int) : Anyhow Int :=
  let instant := instantMs / 1000
  if ¬ InRange instant then bail message
  else if ¬ InRange (instant + tz.offset instant) then bail "Local time out of range"
  else .ok ((instant + tz.offset instant) / secondsPerDay)

section Due
variable (K : TimeCrates) (routine : RoutineRecord) (hour minute : Nat)

/-- The dates that are left of the loop, from a day on. -/
def dueFrom (start trustedNow : Int) : Nat → Int → Anyhow (List RoutineOccurrenceCandidate)
  | 0, _ => .ok []
  | days + 1, day => do
    let candidate ←
      resolveRoutineLocalTime K routine.timezone day hour minute routine.overlapPolicy
    if MAX_DATE < day + 1 then bail "routine date cursor overflowed"
    else
      let due ← dueFrom start trustedNow days (day + 1)
      if candidate.scheduledInstantMs > start ∧ candidate.scheduledInstantMs ≤ trustedNow then
        .ok (candidate :: due)
      else .ok due

def dueCandidates (cursor : Option Int) (trustedNow : Int) :
    Anyhow (List RoutineOccurrenceCandidate) := do
  let tz ← K.fromStr routine.timezone
  let start := cursor.getD routine.createdAt
  if trustedNow ≤ start then .ok []
  else
    let day ← localDate "routine cursor timestamp is invalid" tz start
    let last ← localDate "routine trusted timestamp is invalid" tz trustedNow
    dueFrom K routine hour minute start trustedNow (last + 1 - day).toNat day

end Due

end CarsinOS.Routine
