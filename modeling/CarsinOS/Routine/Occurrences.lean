import Mathlib.Data.List.Pairwise
import Mathlib.Data.List.Nodup
import CarsinOS.Routine.Schedule

/-! Evaluating a schedule at one instant after another: when no occurrence is lost or repeated. -/
namespace CarsinOS.Routine

/-- A routine with its local time. -/
structure Schedule where
  crates : TimeCrates
  routine : RoutineRecord
  hour : Nat
  minute : Nat

namespace Schedule
variable (s : Schedule)

def occurrence (date : Int) : Anyhow RoutineOccurrenceCandidate :=
  resolveRoutineLocalTime s.crates s.routine.timezone date s.hour s.minute s.routine.overlapPolicy

def due (start now : Int) : Anyhow (List RoutineOccurrenceCandidate) :=
  dueCandidates s.crates s.routine s.hour s.minute (some start) now

/-- The local date at an instant. -/
def DateAt (instantMs date : Int) : Prop :=
  ∃ tz, s.crates.fromStr s.routine.timezone = .ok tz ∧ localDate "" tz instantMs = .ok date

end Schedule

/-- The occurrence is after the first instant and no later than the second. -/
def Within (start now : Int) (c : RoutineOccurrenceCandidate) : Prop :=
  c.scheduledInstantMs > start ∧ c.scheduledInstantMs ≤ now

instance (start now : Int) (c : RoutineOccurrenceCandidate) : Decidable (Within start now c) :=
  inferInstanceAs (Decidable (_ ∧ _))

/-- The date is a `NaiveDate`. -/
def Calendar (date : Int) : Prop := MIN_DATE ≤ date ∧ date ≤ MAX_DATE

/-- Evaluation instants in pairs, as cursor and trusted clock. -/
def windows (start : Int) : List Int → List (Int × Int)
  | [] => []
  | now :: later => (start, now) :: windows now later

namespace Schedule
variable (s : Schedule)

def OccursIn (start now date : Int) : Prop :=
  Calendar date ∧ ∃ c, s.occurrence date = .ok c ∧ Within start now c

/-- Earlier occurrences come first, and no two are at one instant. -/
def Increasing (due : List RoutineOccurrenceCandidate) : Prop :=
  due.Pairwise fun c d => c.scheduledInstantMs < d.scheduledInstantMs

/-- Evaluating at every instant gives what evaluating at the last one does: the occurrence of each
date that has one in the time, in order and once. -/
def Exact (start : Int) (instants : List Int) : Prop :=
  ∃ lists whole, (windows start instants).mapM (fun w => s.due w.1 w.2) = .ok lists ∧
    s.due start (instants.getLastD start) = .ok whole ∧
    lists.flatten = whole ∧
    (∀ due ∈ whole :: lists, Increasing due) ∧
    ∃ dates : List Int, dates.Nodup ∧
      (∀ date, date ∈ dates ↔ s.OccursIn start (instants.getLastD start) date) ∧
      List.Forall₂ (fun date c => s.occurrence date = .ok c) dates whole

/-- The dates from one instant's to the other's are in the calendar, and the clock shows the
schedule, or a time within a day of it, on each of them. -/
def Evaluable (start now : Int) : Prop :=
  ∃ first last, s.DateAt start first ∧ s.DateAt now last ∧
    ∀ date, first ≤ date → date ≤ last → date < MAX_DATE ∧ ∃ c, s.occurrence date = .ok c

/-- The dates that have an occurrence between two instants are among those from the date of the
first to the date of the second. -/
def Placed (start now : Int) : Prop :=
  ∀ date, s.OccursIn start now date → ∀ first last, s.DateAt start first → s.DateAt now last →
    first ≤ date ∧ date ≤ last

/-- Of two dates that have an occurrence in the time, the earlier has the earlier one. -/
def Ordered (start now : Int) : Prop :=
  ∀ date date' c c', Calendar date → Calendar date' → date < date' → s.occurrence date = .ok c →
    s.occurrence date' = .ok c' → Within start now c → Within start now c' →
    c.scheduledInstantMs < c'.scheduledInstantMs

/-- No local date, seen from the evaluation instants, is moved away from its occurrence by the clock
going back over midnight, and no two dates share or exchange their occurrences. -/
structure Regular (start : Int) (instants : List Int) : Prop where
  evaluable : ∀ w ∈ (start, instants.getLastD start) :: windows start instants, s.Evaluable w.1 w.2
  placed : ∀ w ∈ (start, instants.getLastD start) :: windows start instants, s.Placed w.1 w.2
  ordered : s.Ordered start (instants.getLastD start)

end Schedule

/-! The loop over dates. -/

/-- The dates from the first to the last. -/
def datesBetween (first last : Int) : List Int :=
  (List.range (last + 1 - first).toNat).map fun n : Nat => first + n

theorem mem_datesBetween {first last date : Int} :
    date ∈ datesBetween first last ↔ first ≤ date ∧ date ≤ last := by
  simp only [datesBetween, List.mem_map, List.mem_range]
  constructor
  · rintro ⟨n, small, rfl⟩
    omega
  · rintro ⟨above, below⟩
    exact ⟨(date - first).toNat, by omega, by omega⟩

theorem datesBetween_increasing (first last : Int) :
    (datesBetween first last).Pairwise (· < ·) := by
  apply List.pairwise_map.mpr
  apply List.pairwise_lt_range.imp
  intro a b less
  omega

theorem datesBetween_cons {first last : Int} (some : first ≤ last) :
    datesBetween first last = first :: datesBetween (first + 1) last := by
  have count : (last + 1 - first).toNat = (last + 1 - (first + 1)).toNat + 1 := by omega
  simp only [datesBetween, count, List.range_succ_eq_map, List.map_cons, List.map_map,
    List.cons.injEq]
  refine ⟨by simp, ?_⟩
  apply List.map_congr_left
  intro n _
  simp only [Function.comp_apply]
  omega

section Loop
variable {s : Schedule} {start now : Int}

/-- The occurrences of these dates that are in the time. -/
def Schedule.among (s : Schedule) (start now : Int) (dates : List Int) :
    List RoutineOccurrenceCandidate :=
  dates.filterMap fun date => (s.occurrence date).toOption.filter (Within start now)

theorem mem_among {dates : List Int} {c : RoutineOccurrenceCandidate} :
    c ∈ s.among start now dates ↔
      Within start now c ∧ ∃ date ∈ dates, s.occurrence date = .ok c := by
  simp only [Schedule.among, List.mem_filterMap, Option.filter_eq_some_iff, decide_eq_true_eq]
  constructor
  · rintro ⟨date, member, found, inside⟩
    refine ⟨inside, date, member, ?_⟩
    cases known : s.occurrence date with
    | error e => simp [known, Except.toOption] at found
    | ok d => simpa [known, Except.toOption] using found
  · rintro ⟨inside, date, member, found⟩
    exact ⟨date, member, by simp [found, Except.toOption], inside⟩

theorem among_cons {date : Int} {dates : List Int} {c : RoutineOccurrenceCandidate}
    (found : s.occurrence date = .ok c) : s.among start now (date :: dates) =
      if Within start now c then c :: s.among start now dates else s.among start now dates := by
  by_cases inside : Within start now c <;>
    simp [Schedule.among, found, Except.toOption, Option.filter, inside]

theorem dueFrom_ok {n : Nat} {first last : Int} {due : List RoutineOccurrenceCandidate}
    (count : n = (last + 1 - first).toNat) :
    dueFrom s.crates s.routine s.hour s.minute start now n first = .ok due ↔
      (∀ date, first ≤ date → date ≤ last → date < MAX_DATE ∧ ∃ c, s.occurrence date = .ok c) ∧
        due = s.among start now (datesBetween first last) := by
  induction n generalizing first due with
  | zero =>
    have none : datesBetween first last = [] := by simp [datesBetween, ← count]
    simp only [dueFrom, none, Schedule.among, List.filterMap_nil, Except.ok.injEq]
    constructor
    · rintro rfl
      refine ⟨?_, rfl⟩
      intro date above below
      omega
    · rintro ⟨-, rfl⟩
      rfl
  | succ n ih =>
    have some : first ≤ last := by omega
    have rest : n = (last + 1 - (first + 1)).toNat := by omega
    rw [datesBetween_cons some]
    simp only [dueFrom, bind_ok]
    constructor
    · rintro ⟨c, found, rest_due⟩
      have here : s.occurrence first = .ok c := found
      split at rest_due
      · simp at rest_due
      rename_i calendar
      obtain ⟨later, others, whole⟩ := bind_ok.mp rest_due
      obtain ⟨evaluable, rfl⟩ := (ih rest).mp others
      constructor
      · intro date above below
        by_cases same : date = first
        · subst same
          exact ⟨by omega, c, here⟩
        · exact evaluable date (by omega) below
      · rw [among_cons here]
        simp only [Within]
        split at whole <;> simp_all
    · rintro ⟨evaluable, rfl⟩
      obtain ⟨calendar, c, here⟩ := evaluable first (Int.le_refl first) some
      refine ⟨c, here, ?_⟩
      have others := (ih rest).mpr ⟨fun date above below =>
        evaluable date (by omega) below, rfl⟩
      rw [if_neg (by omega), others]
      rw [ok_bind, among_cons here]
      simp only [Within]
      split <;> simp_all

theorem localDate_message {tz : Tz} {instantMs date : Int} (message : String) :
    localDate message tz instantMs = .ok date ↔ localDate "" tz instantMs = .ok date := by
  simp only [localDate]
  split <;> simp

theorem Schedule.DateAt.unique {instantMs date date' : Int} (first : s.DateAt instantMs date)
    (second : s.DateAt instantMs date') : date = date' := by
  obtain ⟨tz, zone, here⟩ := first
  obtain ⟨tz', zone', there⟩ := second
  cases zone.symm.trans zone'
  cases here.symm.trans there
  rfl

theorem Schedule.DateAt.calendar {instantMs date : Int} (here : s.DateAt instantMs date) :
    Calendar date := by
  obtain ⟨tz, -, found⟩ := here
  simp only [localDate] at found
  split at found
  · simp at found
  split at found
  · simp at found
  · rename_i inside
    cases found
    exact not_not.mp inside

/-- What is due between two instants, when the loop has an occurrence on each date. -/
theorem due_ok {due : List RoutineOccurrenceCandidate} (later : start < now) :
    s.due start now = .ok due ↔ s.Evaluable start now ∧ ∀ first last, s.DateAt start first →
      s.DateAt now last → due = s.among start now (datesBetween first last) := by
  have some : ¬ now ≤ start := by omega
  simp only [Schedule.due, dueCandidates, bind_ok, Option.getD_some, if_neg some]
  constructor
  · rintro ⟨tz, zone, first, here, last, there, loop⟩
    obtain ⟨evaluable, rfl⟩ := (dueFrom_ok rfl).mp loop
    have starts : s.DateAt start first := ⟨tz, zone, (localDate_message _).mp here⟩
    have ends : s.DateAt now last := ⟨tz, zone, (localDate_message _).mp there⟩
    refine ⟨⟨first, last, starts, ends, evaluable⟩, ?_⟩
    intro first' last' starts' ends'
    rw [starts.unique starts', ends.unique ends']
  · rintro ⟨⟨first, last, starts, ends, evaluable⟩, whole⟩
    obtain ⟨tz, zone, here⟩ := starts
    obtain ⟨tz', zone', there⟩ := ends
    cases zone.symm.trans zone'
    exact ⟨tz, zone, first, (localDate_message _).mpr here, last, (localDate_message _).mpr there,
      (dueFrom_ok rfl).mpr ⟨evaluable, whole first last ⟨tz, zone, here⟩ ⟨tz, zone, there⟩⟩⟩

theorem Calendar.between {first last date : Int} (low : Calendar first) (high : Calendar last)
    (above : first ≤ date) (below : date ≤ last) : Calendar date :=
  ⟨Int.le_trans low.1 above, Int.le_trans below high.2⟩

/-- A due occurrence is in the time and is that of a date. -/
theorem mem_due {due : List RoutineOccurrenceCandidate} (later : start < now)
    (found : s.due start now = .ok due) {c : RoutineOccurrenceCandidate} :
    c ∈ due ↔ Within start now c ∧ ∃ date first last, s.DateAt start first ∧ s.DateAt now last ∧
      first ≤ date ∧ date ≤ last ∧ s.occurrence date = .ok c := by
  obtain ⟨⟨first, last, starts, ends, -⟩, whole⟩ := (due_ok later).mp found
  rw [whole first last starts ends, mem_among]
  constructor
  · rintro ⟨inside, date, member, occurs⟩
    obtain ⟨above, below⟩ := mem_datesBetween.mp member
    exact ⟨inside, date, first, last, starts, ends, above, below, occurs⟩
  · rintro ⟨inside, date, first', last', starts', ends', above, below, occurs⟩
    rw [starts'.unique starts] at above
    rw [ends'.unique ends] at below
    exact ⟨inside, date, mem_datesBetween.mpr ⟨above, below⟩, occurs⟩

end Loop

/-! Windows one after another. -/

section Windows
variable {start x : Int} {instants : List Int}

theorem windows_later (increasing : (start :: instants).Pairwise (· < ·)) :
    ∀ w ∈ windows start instants, w.1 < w.2 ∧ start ≤ w.1 := by
  induction instants generalizing start with
  | nil => simp [windows]
  | cons now later ih =>
    obtain ⟨first, rest⟩ := List.pairwise_cons.mp increasing
    have next := first now List.mem_cons_self
    intro w member
    rcases List.mem_cons.mp member with rfl | member
    · exact ⟨next, Int.le_refl _⟩
    · obtain ⟨proper, after⟩ := ih rest w member
      exact ⟨proper, by omega⟩

/-- The windows cover the time from the first instant to the last. -/
theorem windows_cover (increasing : (start :: instants).Pairwise (· < ·)) :
    (∃ w ∈ windows start instants, w.1 < x ∧ x ≤ w.2) ↔
      start < x ∧ x ≤ instants.getLastD start := by
  induction instants generalizing start with
  | nil =>
    simp only [windows, List.not_mem_nil, false_and, exists_false, List.getLastD_nil, false_iff]
    omega
  | cons now later ih =>
    obtain ⟨first, rest⟩ := List.pairwise_cons.mp increasing
    have next := first now List.mem_cons_self
    have last : now ≤ later.getLastD now := by
      cases later with
      | nil => exact Int.le_refl _
      | cons t later =>
        have member : (t :: later).getLastD now ∈ t :: later := by
          rw [List.getLastD_cons]
          exact List.getLastD_mem_cons
        exact Int.le_of_lt ((List.pairwise_cons.mp rest).1 _ member)
    simp only [windows, List.mem_cons, exists_eq_or_imp, ih rest, List.getLastD_cons]
    omega

/-- An instant is in one window. -/
theorem windows_disjoint (increasing : (start :: instants).Pairwise (· < ·)) {v w : Int × Int}
    (first : v ∈ windows start instants) (second : w ∈ windows start instants)
    (here : v.1 < x ∧ x ≤ v.2) (there : w.1 < x ∧ x ≤ w.2) : v = w := by
  induction instants generalizing start with
  | nil => cases first
  | cons now later ih =>
    have rest := (List.pairwise_cons.mp increasing).2
    rcases List.mem_cons.mp first with rfl | first
    · rcases List.mem_cons.mp second with rfl | second
      · rfl
      · have after := (windows_later rest w second).2
        simp only at here
        omega
    · rcases List.mem_cons.mp second with rfl | second
      · have after := (windows_later rest v first).2
        simp only at there
        omega
      · exact ih rest first second

variable {s : Schedule} {lists : List (List RoutineOccurrenceCandidate)}

theorem mem_flatten {ws : List (Int × Int)} (evaluated : ws.mapM (fun w => s.due w.1 w.2) = .ok lists)
    {c : RoutineOccurrenceCandidate} : c ∈ lists.flatten ↔
      ∃ w ∈ ws, ∃ due, s.due w.1 w.2 = .ok due ∧ c ∈ due := by
  have each := mapM_ok.mp evaluated
  clear evaluated
  induction each with
  | nil => simp
  | @cons w due ws lists here rest ih =>
    simp only [List.flatten_cons, List.mem_append, ih, List.mem_cons,
      exists_eq_or_imp, here, Except.ok.injEq, exists_eq_left']

/-- What is due in one window after another is in order when it is in each. -/
theorem flatten_increasing (increasing : (start :: instants).Pairwise (· < ·))
    (evaluated : (windows start instants).mapM (fun w => s.due w.1 w.2) = .ok lists)
    (each : ∀ due ∈ lists, Schedule.Increasing due) : Schedule.Increasing lists.flatten := by
  induction instants generalizing start lists with
  | nil =>
    cases mapM_ok.mp evaluated
    exact List.Pairwise.nil
  | cons now later ih =>
    obtain ⟨first, rest⟩ := List.pairwise_cons.mp increasing
    have next := first now List.mem_cons_self
    cases mapM_ok.mp evaluated with
    | @cons _ due _ lists here others =>
      have others := mapM_ok.mpr others
      rw [List.flatten_cons]
      apply List.pairwise_append.mpr
      refine ⟨each due List.mem_cons_self,
        ih rest others fun due member => each due (List.mem_cons_of_mem _ member), ?_⟩
      intro c early d late
      have before := ((mem_due next here).mp early).1.2
      obtain ⟨w, member, due', found, inside⟩ := (mem_flatten others).mp late
      obtain ⟨proper, after⟩ := windows_later rest w member
      have above := ((mem_due proper found).mp inside).1.1
      omega

theorem getLastD_later (increasing : (start :: instants).Pairwise (· < ·)) (some : instants ≠ []) :
    start < instants.getLastD start := by
  cases instants with
  | nil => contradiction
  | cons now later =>
    have next := (List.pairwise_cons.mp increasing).1 now List.mem_cons_self
    have first : (start, now) ∈ windows start (now :: later) := List.mem_cons_self
    have covered := (windows_cover (x := now) increasing).mp ⟨_, first, next, Int.le_refl _⟩
    omega

end Windows

/-! One list of dates for a list of occurrences. -/

/-- A value is taken once when the values are distinct. -/
theorem forall₂_unique {α β : Type} {R : α → β → Prop} {as : List α} {bs : List β}
    (functional : ∀ a b b', R a b → R a b' → b = b') (related : List.Forall₂ R as bs)
    (distinct : bs.Nodup) {a a' : α} {b : β} (first : a ∈ as) (second : a' ∈ as) (here : R a b)
    (there : R a' b) : a = a' := by
  have value : ∀ {as : List α} {bs : List β}, List.Forall₂ R as bs → ∀ {a}, a ∈ as → R a b →
      b ∈ bs := by
    intro as bs related
    induction related with
    | nil =>
      intro a member
      cases member
    | cons head rest ih =>
      intro a member here
      rcases List.mem_cons.mp member with rfl | member
      · rw [functional _ _ _ here head]
        exact List.mem_cons_self
      · exact List.mem_cons_of_mem _ (ih member here)
  induction related with
  | nil => cases first
  | cons head rest ih =>
    obtain ⟨fresh, distinct⟩ := List.nodup_cons.mp distinct
    rcases List.mem_cons.mp first with rfl | early <;> rcases List.mem_cons.mp second with rfl | late
    · rfl
    · rw [functional _ _ _ head here] at fresh
      exact absurd (value rest late there) fresh
    · rw [functional _ _ _ head there] at fresh
      exact absurd (value rest early here) fresh
    · exact ih distinct early late

theorem forall₂_exists {α β : Type} {R : α → β → Prop} {as : List α} (each : ∀ a ∈ as, ∃ b, R a b) :
    ∃ bs, List.Forall₂ R as bs := by
  induction as with
  | nil => exact ⟨[], .nil⟩
  | cons a as ih =>
    obtain ⟨b, here⟩ := each a List.mem_cons_self
    obtain ⟨bs, rest⟩ := ih fun a member => each a (List.mem_cons_of_mem _ member)
    exact ⟨b :: bs, .cons here rest⟩

theorem pairwise_lt {R : Int → Int → Prop} {dates : List Int} (sorted : dates.Pairwise (· < ·))
    (related : dates.Pairwise R) {date date' : Int} (first : date ∈ dates) (second : date' ∈ dates)
    (less : date < date') : R date date' := by
  induction dates with
  | nil => cases first
  | cons head rest ih =>
    obtain ⟨least, sorted⟩ := List.pairwise_cons.mp sorted
    obtain ⟨here, related⟩ := List.pairwise_cons.mp related
    rcases List.mem_cons.mp second with rfl | late
    · rcases List.mem_cons.mp first with rfl | early
      · omega
      · have := least date early
        omega
    · rcases List.mem_cons.mp first with rfl | early
      · exact here date' late
      · exact ih sorted related early late

/-! Exactness. -/

section Exact
variable {s : Schedule} {start now : Int} {instants : List Int}

theorem Schedule.Increasing.nodup {due : List RoutineOccurrenceCandidate}
    (increasing : Schedule.Increasing due) : due.Nodup := by
  apply increasing.imp
  rintro c d less rfl
  omega

/-- Lists in order are determined by what is in them. -/
theorem increasing_ext {due due' : List RoutineOccurrenceCandidate}
    (first : Schedule.Increasing due) (second : Schedule.Increasing due')
    (same : ∀ c, c ∈ due ↔ c ∈ due') : due = due' := by
  have perm := (List.perm_ext_iff_of_nodup first.nodup second.nodup).mpr same
  apply perm.eq_of_pairwise _ first second
  intro c d _ _ less more
  omega

theorem among_increasing {dates : List Int} :
    Schedule.Increasing (s.among start now dates) ↔ dates.Pairwise fun date date' =>
      ∀ c c', s.occurrence date = .ok c → s.occurrence date' = .ok c' → Within start now c →
        Within start now c' → c.scheduledInstantMs < c'.scheduledInstantMs := by
  have entry : ∀ date c, (s.occurrence date).toOption.filter (Within start now) = some c ↔
      s.occurrence date = .ok c ∧ Within start now c := by
    intro date c
    cases s.occurrence date <;> simp [Except.toOption, Option.filter_eq_some_iff]
  unfold Schedule.Increasing Schedule.among
  rw [List.pairwise_filterMap]
  simp only [entry]
  apply Iff.of_eq
  congr
  funext date date'
  apply propext
  constructor
  · intro less c c' here there inside inside'
    exact less c ⟨here, inside⟩ c' ⟨there, inside'⟩
  · rintro less c ⟨here, inside⟩ c' ⟨there, inside'⟩
    exact less c c' here there inside inside'

/-- The dates of the occurrences that are in the time. -/
def Schedule.datesAmong (s : Schedule) (start now : Int) (dates : List Int) : List Int :=
  dates.filter fun date => ((s.occurrence date).toOption.filter (Within start now)).isSome

theorem mem_datesAmong {dates : List Int} {date : Int} :
    date ∈ s.datesAmong start now dates ↔
      date ∈ dates ∧ ∃ c, s.occurrence date = .ok c ∧ Within start now c := by
  simp only [Schedule.datesAmong, List.mem_filter]
  cases s.occurrence date <;> simp [Except.toOption]

theorem datesAmong_among (dates : List Int) : List.Forall₂
    (fun date c => s.occurrence date = .ok c) (s.datesAmong start now dates)
      (s.among start now dates) := by
  induction dates with
  | nil => exact .nil
  | cons date dates ih =>
    unfold Schedule.datesAmong Schedule.among at ih ⊢
    cases found : s.occurrence date with
    | error e => simpa [found, Except.toOption] using ih
    | ok c =>
      by_cases inside : Within start now c
      · simpa [found, Except.toOption, Option.filter, inside] using ih
      · simpa [found, Except.toOption, Option.filter, inside] using ih

theorem due_exists (later : start < now) (evaluable : s.Evaluable start now) :
    ∃ due, s.due start now = .ok due := by
  obtain ⟨first, last, starts, ends, dates⟩ := evaluable
  refine ⟨s.among start now (datesBetween first last),
    (due_ok later).mpr ⟨⟨first, last, starts, ends, dates⟩, ?_⟩⟩
  intro first' last' starts' ends'
  rw [starts.unique starts', ends.unique ends']

/-- Where dates are placed, what is due is what occurs. -/
theorem mem_due_placed {due : List RoutineOccurrenceCandidate} (later : start < now)
    (placed : s.Placed start now) (found : s.due start now = .ok due)
    {c : RoutineOccurrenceCandidate} :
    c ∈ due ↔ Within start now c ∧ ∃ date, Calendar date ∧ s.occurrence date = .ok c := by
  rw [mem_due later found]
  constructor
  · rintro ⟨inside, date, _, _, starts, ends, above, below, occurs⟩
    exact ⟨inside, date, starts.calendar.between ends.calendar above below, occurs⟩
  · rintro ⟨inside, date, calendar, occurs⟩
    obtain ⟨⟨first, last, starts, ends, -⟩, -⟩ := (due_ok later).mp found
    obtain ⟨above, below⟩ := placed date ⟨calendar, c, occurs, inside⟩ first last starts ends
    exact ⟨inside, date, first, last, starts, ends, above, below, occurs⟩

theorem due_increasing {due : List RoutineOccurrenceCandidate} (later : start < now)
    (found : s.due start now = .ok due) (ordered : s.Ordered start now) :
    Schedule.Increasing due := by
  obtain ⟨⟨first, last, starts, ends, -⟩, whole⟩ := (due_ok later).mp found
  have calendar : ∀ date ∈ datesBetween first last, Calendar date := fun date member =>
    starts.calendar.between ends.calendar (mem_datesBetween.mp member).1 (mem_datesBetween.mp member).2
  rw [whole first last starts ends, among_increasing]
  apply (datesBetween_increasing first last).imp_of_mem
  intro date date' member member' less c c'
  exact ordered date date' c c' (calendar date member) (calendar date' member') less

variable (increasing : (start :: instants).Pairwise (· < ·)) (some : instants ≠ [])
include increasing some

theorem regular_exact (regular : s.Regular start instants) : s.Exact start instants := by
  have later := getLastD_later increasing some
  have cover {x : Int} := windows_cover (x := x) increasing
  have within : ∀ w ∈ windows start instants, ∀ c, Within w.1 w.2 c →
      Within start (instants.getLastD start) c :=
    fun w member c inside => cover.mp ⟨w, member, inside⟩
  obtain ⟨whole, found⟩ := due_exists later (regular.evaluable _ List.mem_cons_self)
  obtain ⟨lists, each⟩ := forall₂_exists (R := fun (w : Int × Int) due => s.due w.1 w.2 = .ok due)
    fun w member => due_exists (windows_later increasing w member).1
      (regular.evaluable w (List.mem_cons_of_mem _ member))
  have evaluated := mapM_ok.mpr each
  have whole_increasing := due_increasing later found regular.ordered
  have lists_increasing : ∀ due ∈ lists, Schedule.Increasing due := by
    intro due member
    obtain ⟨w, window, here⟩ := forall₂_value each.flip member
    apply due_increasing (windows_later increasing w window).1 here
    intro date date' c c' here there less occurs occurs' inside inside'
    exact regular.ordered date date' c c' here there less occurs occurs' (within w window c inside)
      (within w window c' inside')
  have placed := fun w member => regular.placed w (List.mem_cons_of_mem _ member)
  have flat : lists.flatten = whole := by
    apply increasing_ext (flatten_increasing increasing evaluated lists_increasing) whole_increasing
    intro c
    rw [mem_flatten evaluated, mem_due_placed later (regular.placed _ List.mem_cons_self) found]
    constructor
    · rintro ⟨w, member, due, here, inside⟩
      obtain ⟨time, occurs⟩ :=
        (mem_due_placed (windows_later increasing w member).1 (placed w member) here).mp inside
      exact ⟨within w member c time, occurs⟩
    · rintro ⟨time, occurs⟩
      obtain ⟨w, member, inside⟩ := cover.mpr time
      obtain ⟨due, -, here⟩ := forall₂_value each member
      exact ⟨w, member, due, here, (mem_due_placed (windows_later increasing w member).1
        (placed w member) here).mpr ⟨inside, occurs⟩⟩
  obtain ⟨⟨first, last, starts, ends, -⟩, dates⟩ := (due_ok later).mp found
  refine ⟨lists, whole, evaluated, found, flat, ?_,
    s.datesAmong start (instants.getLastD start) (datesBetween first last), ?_, ?_, ?_⟩
  · intro due member
    rcases List.mem_cons.mp member with rfl | member
    · exact whole_increasing
    · exact lists_increasing due member
  · apply List.Nodup.filter
    exact (datesBetween_increasing first last).imp fun less => by omega
  · intro date
    rw [mem_datesAmong, mem_datesBetween]
    constructor
    · rintro ⟨⟨above, below⟩, occurs⟩
      exact ⟨starts.calendar.between ends.calendar above below, occurs⟩
    · intro occurs
      exact ⟨regular.placed _ List.mem_cons_self date occurs first last starts ends, occurs.2⟩
  · rw [dates first last starts ends]
    exact datesAmong_among _

theorem exact_regular (exact : s.Exact start instants) : s.Regular start instants := by
  obtain ⟨lists, whole, evaluated, found, flat, each, dates, nodup, complete, entries⟩ := exact
  have later := getLastD_later increasing some
  have cover {x : Int} := windows_cover (x := x) increasing
  have whole_increasing := each whole List.mem_cons_self
  have proper : ∀ w ∈ (start, instants.getLastD start) :: windows start instants, w.1 < w.2 := by
    intro w member
    rcases List.mem_cons.mp member with rfl | member
    · exact later
    · exact (windows_later increasing w member).1
  have all : ∀ w ∈ (start, instants.getLastD start) :: windows start instants,
      ∃ due, s.due w.1 w.2 = .ok due := by
    intro w member
    rcases List.mem_cons.mp member with rfl | member
    · exact ⟨whole, found⟩
    · obtain ⟨due, -, here⟩ := forall₂_value (mapM_ok.mp evaluated) member
      exact ⟨due, here⟩
  have enclosed : ∀ w ∈ (start, instants.getLastD start) :: windows start instants, ∀ c,
      Within w.1 w.2 c → Within start (instants.getLastD start) c := by
    intro w member c inside
    rcases List.mem_cons.mp member with rfl | member
    · exact inside
    · exact cover.mp ⟨w, member, inside⟩
  have alone : ∀ date date' c, Calendar date → Calendar date' → s.occurrence date = .ok c →
      s.occurrence date' = .ok c → Within start (instants.getLastD start) c → date = date' := by
    intro date date' c calendar calendar' here there inside
    exact forall₂_unique (fun _ _ _ one other => Except.ok.inj (one.symm.trans other)) entries
      whole_increasing.nodup ((complete date).mpr ⟨calendar, c, here, inside⟩)
      ((complete date').mpr ⟨calendar', c, there, inside⟩) here there
  have due_inside : ∀ w ∈ (start, instants.getLastD start) :: windows start instants, ∀ date c,
      Calendar date → s.occurrence date = .ok c → Within w.1 w.2 c → ∃ due, s.due w.1 w.2 = .ok due ∧ c ∈ due := by
    intro w member date c calendar occurs inside
    have time := enclosed w member c inside
    have listed : c ∈ whole := by
      obtain ⟨d, member, here⟩ := forall₂_value entries ((complete date).mpr ⟨calendar, c, occurs, time⟩)
      cases occurs.symm.trans here
      exact member
    rcases List.mem_cons.mp member with rfl | member
    · exact ⟨whole, found, listed⟩
    · rw [← flat] at listed
      obtain ⟨v, window, due, here, listed⟩ := (mem_flatten evaluated).mp listed
      have place := ((mem_due (windows_later increasing v window).1 here).mp listed).1
      rw [windows_disjoint increasing member window inside place]
      exact ⟨due, here, listed⟩
  have placed : ∀ w ∈ (start, instants.getLastD start) :: windows start instants,
      s.Placed w.1 w.2 := by
    rintro w member date ⟨calendar, c, occurs, inside⟩ first last starts ends
    obtain ⟨due, here, listed⟩ := due_inside w member date c calendar occurs inside
    obtain ⟨-, date', first', last', starts', ends', above, below, occurs'⟩ :=
      (mem_due (proper w member) here).mp listed
    have calendar' := starts'.calendar.between ends'.calendar above below
    rw [alone date date' c calendar calendar' occurs occurs' (enclosed w member c inside),
      starts.unique starts', ends.unique ends']
    exact ⟨above, below⟩
  refine ⟨?_, placed, ?_⟩
  · intro w member
    obtain ⟨due, here⟩ := all w member
    exact ((due_ok (proper w member)).mp here).1
  · intro date date' c c' calendar calendar' less occurs occurs' inside inside'
    obtain ⟨⟨first, last, starts, ends, -⟩, dates⟩ := (due_ok later).mp found
    rw [dates first last starts ends, among_increasing] at whole_increasing
    have between := placed _ List.mem_cons_self date ⟨calendar, c, occurs, inside⟩ first last
      starts ends
    have between' := placed _ List.mem_cons_self date' ⟨calendar', c', occurs', inside'⟩ first
      last starts ends
    exact pairwise_lt (datesBetween_increasing first last) whole_increasing
      (mem_datesBetween.mpr between) (mem_datesBetween.mpr between') less c c' occurs occurs' inside
      inside'

/-- Evaluating a schedule neither loses nor repeats an occurrence exactly when it is regular. -/
theorem exact_iff_regular : s.Exact start instants ↔ s.Regular start instants :=
  ⟨exact_regular increasing some, regular_exact increasing some⟩

end Exact

/-! Where the clock's date never goes back and the scheduled time is never skipped, a schedule is
regular. -/

section Clock
variable {s : Schedule} {tz : Tz}

/-- An instant that is found for a local time shows it. -/
theorem resolved_shows {policy : RoutineOverlapPolicy} {scheduled localTime u : Int}
    {resolution : RoutineTimeResolution}
    (found : resolved tz policy scheduled localTime = some (u, resolution)) :
    u + tz.offset u = localTime := by
  have shows := tz.shows localTime
  unfold resolved fromLocalDatetime at found
  cases clock : tz.fromLocal localTime with
  | none => simp [clock] at found
  | single v =>
    rw [clock] at shows found
    by_cases range : InRange v
    · simp only [if_pos range, Option.some.injEq, Prod.mk.injEq] at found
      exact (shows u).mpr found.1.symm
    · simp [if_neg range] at found
  | ambiguous v w =>
    rw [clock] at shows found
    by_cases range : InRange v ∧ InRange w
    · cases policy with
      | earlier =>
        simp only [if_pos range, Option.some.injEq, Prod.mk.injEq] at found
        exact found.1 ▸ shows.2.1
      | later =>
        simp only [if_pos range, Option.some.injEq, Prod.mk.injEq] at found
        exact found.1 ▸ shows.2.2.1
    · simp [if_neg range] at found

/-- The clock has the scheduled time of the date. -/
def Schedule.Shown (s : Schedule) (tz : Tz) (date : Int) : Prop :=
  fromLocalDatetime tz (localSchedule date s.hour s.minute) ≠ .none

/-- An occurrence at the scheduled time is on its date. -/
theorem occurrence_shown (zone : s.crates.fromStr s.routine.timezone = .ok tz) {date : Int}
    (shown : s.Shown tz date) {c : RoutineOccurrenceCandidate} (found : s.occurrence date = .ok c) :
    ∃ u, c.scheduledInstantMs = 1000 * u ∧ (u + tz.offset u) / secondsPerDay = date := by
  simp only [Schedule.occurrence, resolveRoutineLocalTime, zone, withContext, ok_bind] at found
  split at found
  · rename_i time
    have here : ∃ u resolution, resolved tz s.routine.overlapPolicy
        (localSchedule date s.hour s.minute) (localSchedule date s.hour s.minute) =
          some (u, resolution) := by
      unfold Schedule.Shown at shown
      unfold resolved
      cases clock : fromLocalDatetime tz (localSchedule date s.hour s.minute) with
      | none => contradiction
      | single u => exact ⟨_, _, rfl⟩
      | ambiguous u v => cases s.routine.overlapPolicy <;> exact ⟨_, _, rfl⟩
    obtain ⟨u, resolution, here⟩ := here
    rw [resolveFrom, here] at found
    cases found
    refine ⟨u, rfl, ?_⟩
    rw [resolved_shows here, localSchedule, secondsPerDay]
    omega
  · simp at found

theorem regular_of_clock (zone : s.crates.fromStr s.routine.timezone = .ok tz)
    (forward : ∀ u v, u ≤ v →
      (u + tz.offset u) / secondsPerDay ≤ (v + tz.offset v) / secondsPerDay)
    (shown : ∀ date, Calendar date → s.Shown tz date) {start : Int} {instants : List Int}
    (evaluable : ∀ w ∈ (start, instants.getLastD start) :: windows start instants,
      s.Evaluable w.1 w.2) : s.Regular start instants := by
  refine ⟨evaluable, ?_, ?_⟩
  · rintro w - date ⟨calendar, c, occurs, after, before⟩ first last ⟨_, zone', starts⟩ ⟨_, zone'', ends⟩
    cases zone.symm.trans zone'
    cases zone.symm.trans zone''
    obtain ⟨u, instant, rfl⟩ := occurrence_shown zone (shown date calendar) occurs
    have first_date : first = (w.1 / 1000 + tz.offset (w.1 / 1000)) / secondsPerDay := by
      simp only [localDate] at starts
      split at starts <;> (try split at starts) <;> simp_all
    have last_date : last = (w.2 / 1000 + tz.offset (w.2 / 1000)) / secondsPerDay := by
      simp only [localDate] at ends
      split at ends <;> (try split at ends) <;> simp_all
    rw [first_date, last_date]
    exact ⟨forward _ _ (by omega), forward _ _ (by omega)⟩
  · intro date date' c c' calendar calendar' less occurs occurs' _ _
    obtain ⟨u, instant, rfl⟩ := occurrence_shown zone (shown date calendar) occurs
    obtain ⟨v, instant', rfl⟩ := occurrence_shown zone (shown date' calendar') occurs'
    have apart : u < v := by
      by_contra order
      have back := forward v u (by omega)
      omega
    omega

end Clock

/-- Year, month and day of a date. -/
def civil (date : Int) : Int × Int × Int :=
  let day := (date + 719468) % 146097
  let year := (day - day / 1460 + day / 36524 - day / 146096) / 365
  let yearDay := day - (365 * year + year / 4 - year / 100)
  let month := (5 * yearDay + 2) / 153
  let civilMonth := if month < 10 then month + 3 else month - 9
  (year + (date + 719468) / 146097 * 400 + (if civilMonth ≤ 2 then 1 else 0), civilMonth,
    yearDay - (153 * month + 2) / 5 + 1)

def twoDigits (n : Int) : String := if n < 10 then "0" ++ toString n else toString n

/-- `%Y-%m-%dT%H:%M`, in years of four digits. -/
def formatLocal (localTime : Int) : String :=
  let (year, month, day) := civil (localTime / secondsPerDay)
  let time := localTime % secondsPerDay
  toString year ++ "-" ++ twoDigits month ++ "-" ++ twoDigits day ++ "T" ++
    twoDigits (time / 3600) ++ ":" ++ twoDigits (time % 3600 / 60)

def utc : Tz where
  offset _ := 0
  fromLocal l := .single l
  shows l := by simp [Shows]

def daily : Schedule := ⟨⟨fun _ => .ok utc, formatLocal⟩, ⟨"UTC", .earlier, 0⟩, 6, 0⟩

theorem exact_iff_regular_utc : daily.Exact 0 [86400000, 172800000] := by
  have evaluable : ∀ start now first last, localDate "" utc start = .ok first →
      localDate "" utc now = .ok last → 0 ≤ first → last ≤ 2 → daily.Evaluable start now := by
    intro start now first last starts ends low high
    refine ⟨first, last, ⟨utc, rfl, starts⟩, ⟨utc, rfl, ends⟩, ?_⟩
    intro date above below
    obtain rfl | rfl | rfl : date = 0 ∨ date = 1 ∨ date = 2 := by omega
    · exact ⟨by decide, _, rfl⟩
    · exact ⟨by decide, _, rfl⟩
    · exact ⟨by decide, _, rfl⟩
  apply (exact_iff_regular (by decide) (by decide)).mpr
  apply @regular_of_clock _ utc rfl
  · intro u v order
    simp only [utc, secondsPerDay]
    omega
  · intro date calendar
    have time : localSchedule date 6 0 / secondsPerDay = date := by
      simp only [localSchedule, secondsPerDay]
      omega
    have range : InRange (localSchedule date 6 0) := by
      unfold InRange
      rw [time]
      exact calendar
    simp [Schedule.Shown, fromLocalDatetime, daily, utc, range]
  · intro w member
    simp only [windows, List.getLastD_cons, List.getLastD_nil, List.mem_cons, List.not_mem_nil,
      or_false] at member
    obtain rfl | rfl | rfl := member
    · exact evaluable _ _ 0 2 rfl rfl (by decide) (by decide)
    · exact evaluable _ _ 0 1 rfl rfl (by decide) (by decide)
    · exact evaluable _ _ 1 2 rfl rfl (by decide) (by decide)

/-! A clock that is set back once. -/

/-- A clock that is set back at an instant. -/
def setBack (instant before after : Int) (back : after < before) : Tz where
  offset u := if u < instant then before else after
  fromLocal l :=
    if l - before < instant then
      if instant ≤ l - after then .ambiguous (l - before) (l - after) else .single (l - before)
    else .single (l - after)
  shows l := by
    split
    · split
      · simp only [Shows]
        refine ⟨by omega, by split <;> omega, by split <;> omega, ?_⟩
        intro u same
        split at same <;> omega
      · simp only [Shows]
        intro u
        split <;> omega
    · simp only [Shows]
      intro u
      split <;> omega

/-- The clock of Newfoundland in 2010: at 00:01 of the seventh of November it is set back an hour, to
the sixth. -/
def newfoundland : TimeCrates where
  fromStr _ := .ok (setBack 1289097060 (-9000) (-12600) (by decide))
  format := formatLocal

/-- Half past eleven in the evening, the later of the two. -/
def lateEvening : Schedule :=
  ⟨newfoundland, ⟨"America/St_Johns", .later, 0⟩, 23, 30⟩

/-- Evaluated between midnight and the clock's way back, the evening's occurrence is due neither
then nor ever after, as the next evaluation starts at the seventh. -/
theorem midnight_loses_occurrence :
    lateEvening.due 1289053800000 1289097030000 = .ok [] ∧
    lateEvening.due 1289097030000 1289143800000 = .ok [] ∧
    (∃ c, lateEvening.due 1289053800000 1289143800000 = .ok [c] ∧
      c.scheduledInstantMs = 1289098800000 ∧ lateEvening.occurrence 14919 = .ok c) ∧
    ¬ lateEvening.Exact 1289053800000 [1289097030000, 1289143800000] := by
  have first : lateEvening.due 1289053800000 1289097030000 = .ok [] := rfl
  have second : lateEvening.due 1289097030000 1289143800000 = .ok [] := rfl
  have whole : ∃ c, lateEvening.due 1289053800000 1289143800000 = .ok [c] ∧
      c.scheduledInstantMs = 1289098800000 ∧ lateEvening.occurrence 14919 = .ok c :=
    ⟨_, rfl, rfl, rfl⟩
  refine ⟨first, second, whole, ?_⟩
  rintro ⟨lists, all, evaluated, found, flat, -⟩
  obtain ⟨c, due, -⟩ := whole
  cases due.symm.trans found
  simp only [windows, List.mapM_cons, List.mapM_nil, first, second, bind_ok, pure, Except.pure,
    Except.ok.injEq, exists_eq_left'] at evaluated
  rw [← evaluated] at flat
  cases flat

end CarsinOS.Routine
