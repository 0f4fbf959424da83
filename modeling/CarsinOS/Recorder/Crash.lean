import CarsinOS.Lib.Run
import CarsinOS.Recorder.Reopen
import CarsinOS.Recorder.Wire

/-! A recorder whose host may crash at any byte of a call and open the journal again. -/
namespace CarsinOS.Recorder
open CarsinOS.Lib

/-- The journal and how much of its file the appends that returned have written. -/
structure Host where
  journal : Journal
  acknowledged : Nat

def Host.start : Host := ⟨Journal.empty, 0⟩

inductive Event where
  | returned (call : Call) (reply : Reply)
  | crashed (call : Call) (file : List UInt8)

/-- A call without write errors. -/
def Host.call (R : RecorderCrates) (s : Host) (call : Call) : Reply × Journal :=
  call.run R (none, none) s.journal

/-- The files a crash in a call may leave: they have all that was acknowledged before. -/
def Host.MayLeave (R : RecorderCrates) (s : Host) (call : Call) (file : List UInt8) : Prop :=
  s.acknowledged ≤ file.length ∧ file <+: (s.call R call).2.file

inductive Step (R : RecorderCrates) (s : Host) : Event → Host → Prop where
  | returned (call : Call) : Step R s (.returned call (s.call R call).1)
      { journal := (s.call R call).2
        acknowledged :=
          if s.journal.file.length < (s.call R call).2.file.length then
            (s.call R call).2.file.length
          else s.acknowledged }
  | crashed (call : Call) (file : List UInt8) {opened : Journal} (left : s.MayLeave R call file)
      (opens : openJournal R file = .ok opened) :
      Step R s (.crashed call file) { s with journal := opened }

/-- The command an event has let the host invoke. -/
def Event.invokes : Event → Option ExecuteOnce
  | .returned (.admitVerified command _ _) (.admitted (.ok .freshStarted)) => some command
  | _ => none

/-- The acceptance and the start of a command are among the records of a journal. -/
def Invoked (R : RecorderCrates) (j : Journal) (command : ExecuteOnce) : Prop :=
  ∃ digest, commandDigest R command = .ok digest ∧ ∀ kind, kind = .accepted ∨ kind = .invocationStarted →
    ∃ record ∈ j.forKey command.key, record.kind = kind ∧ record.commandDigest = digest

section Crashes
variable {R : RecorderCrates} {j k : Journal} {s t : Host}

theorem Grown.forKey (grown : Grown R j k) {key : AttemptKey} {record : JournalRecord}
    (member : record ∈ j.forKey key) : record ∈ k.forKey key := by
  rw [Journal.mem_forKey] at member ⊢
  exact ⟨grown.records_prefix.subset member.1, member.2⟩

theorem Invoked.grown {command : ExecuteOnce} (grown : Grown R j k) (invoked : Invoked R j command) :
    Invoked R k command := by
  obtain ⟨digest, known, records⟩ := invoked
  refine ⟨digest, known, ?_⟩
  intro kind which
  obtain ⟨record, member, rest⟩ := records kind which
  exact ⟨record, grown.forKey member, rest⟩

theorem Invoked.some {command : ExecuteOnce} (invoked : Invoked R j command) :
    j.forKey command.key ≠ [] := by
  obtain ⟨_, _, records⟩ := invoked
  obtain ⟨record, member, _⟩ := records .accepted (.inl rfl)
  exact List.ne_nil_of_mem member

theorem call_grown (sound : Sound s.journal) (call : Call) :
    Grown R s.journal (s.call R call).2 := by
  have leaves := call_leaves (R := R) sound call (none, none)
  change Leaves R s.journal (none, none) (s.call R call).2 at leaves
  generalize (s.call R call).2 = k at leaves
  cases leaves with
  | whole _ grown => exact grown
  | torn _ _ _ faulty => contradiction

theorem Admits.grown {command : ExecuteOnce} {accepted started : JournalRecord}
    (admits : Admits R j command k accepted started) :
    Grown R j k ∧ j.file.length < k.file.length := by
  obtain ⟨first, second, next, more, rfl⟩ := admits.journal
  refine ⟨(Grown.refl.push next).push more, ?_⟩
  simp only [Journal.push, List.length_append, Framing.frame_length]
  omega

theorem Admits.invoked {command : ExecuteOnce} {accepted started : JournalRecord}
    (admits : Admits R j command k accepted started) : Invoked R k command := by
  obtain ⟨first, second, next, more, rfl⟩ := admits.journal
  have inside : ∀ record, record = accepted ∨ record = started →
      record ∈ ((j.push R accepted first).push R started second).forKey command.key := by
    intro record which
    rw [Journal.mem_forKey]
    rcases which with rfl | rfl
    · exact ⟨by simp [Journal.push], admits.key.1⟩
    · exact ⟨by simp [Journal.push], admits.key.2⟩
  refine ⟨accepted.commandDigest, admits.digest.1, ?_⟩
  intro kind which
  rcases which with rfl | rfl
  · exact ⟨accepted, inside accepted (.inl rfl), admits.kind.1, rfl⟩
  · have same := Except.ok.inj (admits.digest.2.symm.trans admits.digest.1)
    exact ⟨started, inside started (.inr rfl), admits.kind.2, same⟩

/-- A command whose attempt has records is answered from them. -/
theorem admit_known (sound : Sound j) {command : ExecuteOnce} {earlier : JournalRecord}
    (member : earlier ∈ j.forKey command.key) (faults : Fault × Fault) (at_ at_' : I64) :
    (commandDigest R command = .ok earlier.commandDigest →
      ∃ latest, (j.forKey command.key).getLast? = some latest ∧
        admitVerifiedExecution R faults.1 faults.2 command at_ at_' j = (.ok (.replay latest), j)) ∧
    (∀ digest, commandDigest R command = .ok digest → digest ≠ earlier.commandDigest →
      admitVerifiedExecution R faults.1 faults.2 command at_ at_' j =
        (.error .commandConflict, j)) := by
  have some := List.ne_nil_of_mem member
  constructor
  · intro known
    refine ⟨_, getLast_some some, ?_⟩
    simp only [admitVerifiedExecution, known, ok_bind, latestFor_same sound some member]
  · intro digest known other
    simp only [admitVerifiedExecution, known, ok_bind, latestFor_other sound member other.symm]

/-- A fresh start needs an attempt without records, and leaves its first two. -/
theorem admit_started (sound : Sound j) {command : ExecuteOnce} {faults : Fault × Fault}
    {at_ at_' : I64}
    (started : (admitVerifiedExecution R faults.1 faults.2 command at_ at_' j).1 =
      .ok .freshStarted) :
    ∃ k accepted started, admitVerifiedExecution R faults.1 faults.2 command at_ at_' j =
      (.ok .freshStarted, k) ∧ Admits R j command k accepted started := by
  cases known : commandDigest R command with
  | error error => simp [admitVerifiedExecution, known, bind, Except.bind] at started
  | ok digest =>
    cases found : j.latestFor command.key digest with
    | error error => simp [admitVerifiedExecution, known, found] at started
    | ok latest =>
      cases latest with
      | some existing => simp [admitVerifiedExecution, known, found] at started
      | none =>
        have none := latestFor_unknown sound.indexed found
        rcases admit_fresh sound faults.1 faults.2 at_ at_' none known with
          ⟨error, k, run, _⟩ | fresh
        · rw [run] at started
          contradiction
        · exact fresh

/-- The acknowledged part of the file is a journal that holds what was invoked. -/
structure Durable (R : RecorderCrates) (events : List Event) (s : Host) (base : Journal) : Prop where
  written : Written R base
  grown : Grown R base s.journal
  length : base.file.length = s.acknowledged
  invoked : ∀ command ∈ events.filterMap Event.invokes, Invoked R base command
  once : ((events.filterMap Event.invokes).map (·.key)).Nodup

theorem Durable.sound {events : List Event} {base : Journal} (durable : Durable R events s base) :
    Sound s.journal := (durable.written.trans durable.grown).sound empty_sound

/-- Whatever a crash leaves is read as a journal with all that was acknowledged. -/
theorem Durable.opens {events : List Event} {base : Journal} (durable : Durable R events s base)
    {call : Call} {file : List UInt8} (left : s.MayLeave R call file) :
    ∃ l, openJournal R file = .ok l ∧ Grown R base l := by
  have grown := durable.grown.trans (call_grown durable.sound call)
  have kept : base.file <+: file :=
    List.prefix_of_prefix_length_le grown.file_prefix left.2 (durable.length ▸ left.1)
  obtain ⟨l, since, _, opened⟩ := open_cut durable.written grown kept left.2
  exact ⟨l, opened, since⟩

theorem invokes_returned {call : Call} {reply : Reply} {command : ExecuteOnce}
    (invokes : (Event.returned call reply).invokes = some command) :
    ∃ at_ at_', call = .admitVerified command at_ at_' ∧ reply = .admitted (.ok .freshStarted) := by
  unfold Event.invokes at invokes
  split at invokes
  · rename_i same
    cases same
    cases invokes
    exact ⟨_, _, rfl, rfl⟩
  · contradiction

theorem step_durable {events : List Event} {event : Event} {base : Journal}
    (durable : Durable R events s base) (step : Step R s event t) :
    ∃ base, Durable R (events ++ [event]) t base := by
  cases step with
  | crashed call file left opens =>
    obtain ⟨l, opened, since⟩ := durable.opens left
    rw [opens] at opened
    cases opened
    have quiet : (events ++ [Event.crashed call file]).filterMap Event.invokes =
        events.filterMap Event.invokes := by simp [Event.invokes]
    exact ⟨base, durable.written, since, durable.length, quiet ▸ durable.invoked,
      quiet ▸ durable.once⟩
  | returned call =>
    have grown := call_grown (R := R) durable.sound call
    cases invokes : (Event.returned call (s.call R call).1).invokes with
    | none =>
      by_cases grew : s.journal.file.length < (s.call R call).2.file.length
      · refine ⟨(s.call R call).2, durable.written.trans (durable.grown.trans grown), .refl,
          by simp [grew], ?_, ?_⟩
        · intro command member
          have earlier : command ∈ events.filterMap Event.invokes := by simpa [invokes] using member
          exact (durable.invoked command earlier).grown (durable.grown.trans grown)
        · simpa [invokes] using durable.once
      · refine ⟨base, durable.written, durable.grown.trans grown, by simp [grew, durable.length],
          ?_, ?_⟩
        · simpa [invokes] using durable.invoked
        · simpa [invokes] using durable.once
    | some command =>
      obtain ⟨at_, at_', rfl, reply⟩ := invokes_returned invokes
      have started : (admitVerifiedExecution R none none command at_ at_' s.journal).1 =
          .ok .freshStarted := by
        simpa [Host.call, Call.run] using reply
      obtain ⟨k, accepted, start, run, admits⟩ :=
        @admit_started _ _ durable.sound _ (none, none) _ _ started
      have after : (s.call R (.admitVerified command at_ at_')).2 = k := congrArg Prod.snd run
      rw [after] at grown ⊢
      refine ⟨k, durable.written.trans (durable.grown.trans grown), .refl,
        by simp [admits.grown.2], ?_, ?_⟩
      · intro other member
        rcases List.mem_append.mp (by simpa [invokes] using member :
          other ∈ events.filterMap Event.invokes ++ [command]) with member | member
        · exact (durable.invoked other member).grown (durable.grown.trans grown)
        · rw [List.mem_singleton.mp member]
          exact admits.invoked
      · have whole : (events ++ [Event.returned (.admitVerified command at_ at_')
            (s.call R (.admitVerified command at_ at_')).1]).filterMap Event.invokes =
            events.filterMap Event.invokes ++ [command] := by
          simp [invokes]
        rw [whole, List.map_append, List.map_singleton, List.nodup_append]
        refine ⟨durable.once, by simp, ?_⟩
        intro key earlier other last
        rw [List.mem_singleton.mp last]
        obtain ⟨invoked, member, rfl⟩ := List.mem_map.mp earlier
        intro same
        have some := ((durable.invoked invoked member).grown durable.grown).some
        rw [same] at some
        exact some admits.none

theorem run_durable {events : List Event} (reached : Run (Step R) Host.start events s) :
    ∃ base, Durable R events s base := by
  apply @run_history _ _ _ (fun events s => ∃ base, Durable R events s base) _ _ _ _ _ reached
  · rintro events s event t ⟨base, durable⟩ step
    exact step_durable durable step
  · exact ⟨Journal.empty, .refl, .refl, rfl, by simp, by simp⟩

/-- An attempt is invoked once in the life of a journal, only after its acceptance and its start
can no longer be lost. From then on its command is answered with the latest record and every
other command of the attempt is a conflict. -/
theorem invoked_at_most_once {events : List Event} (reached : Run (Step R) Host.start events s) :
    ((events.filterMap Event.invokes).map (·.key)).Nodup ∧
    (∀ call file, s.MayLeave R call file → ∃ opened, openJournal R file = .ok opened) ∧
    ∀ command ∈ events.filterMap Event.invokes,
      Invoked R s.journal command ∧
      (∀ call file opened, s.MayLeave R call file → openJournal R file = .ok opened →
        Invoked R opened command) ∧
      ∀ (later : ExecuteOnce) (acceptedAtMs startedAtMs : I64), later.key = command.key →
        (commandDigest R later = commandDigest R command →
          ∃ latest, (s.journal.forKey command.key).getLast? = some latest ∧
            s.call R (.admitVerified later acceptedAtMs startedAtMs) =
              (.admitted (.ok (.replay latest)), s.journal)) ∧
        (∀ digest, commandDigest R later = .ok digest → commandDigest R command ≠ .ok digest →
          s.call R (.admitVerified later acceptedAtMs startedAtMs) =
            (.admitted (.error .commandConflict), s.journal)) := by
  obtain ⟨base, durable⟩ := run_durable reached
  refine ⟨durable.once, ?_, ?_⟩
  · intro call file left
    obtain ⟨opened, opens, _⟩ := durable.opens left
    exact ⟨opened, opens⟩
  intro command member
  have based := durable.invoked command member
  have invoked := based.grown durable.grown
  refine ⟨invoked, ?_, ?_⟩
  · intro call file opened left opens
    obtain ⟨same, again, since⟩ := durable.opens left
    rw [opens] at again
    cases again
    exact based.grown since
  · intro later acceptedAtMs startedAtMs key
    obtain ⟨digest, known, records⟩ := invoked
    obtain ⟨accepted, first, _, digests⟩ := records .accepted (.inl rfl)
    rw [← key] at first
    obtain ⟨replays, conflicts⟩ := admit_known (R := R) durable.sound first (none, none)
      acceptedAtMs startedAtMs
    constructor
    · intro same
      obtain ⟨latest, last, run⟩ := replays (by rw [same, known, digests])
      refine ⟨latest, key ▸ last, ?_⟩
      simp only [Host.call, Call.run, run, Prod.map, id]
    · intro other known' differs
      have run := conflicts other known' (by
        rw [digests]
        intro same
        exact differs (same ▸ known))
      simp only [Host.call, Call.run, run, Prod.map, id]

end Crashes

/-- A command is invoked, and a query is then cut off by a crash that leaves the whole file. -/
theorem invoked_once_before_crash : ∃ s reply file,
    Run (Step wireCrates) Host.start
      [.returned (.admitVerified (sampleCommand ['a']) sampleTime sampleTime) reply,
        .crashed (.query (sampleCommand ['a']).key none) file] s ∧
    reply = .admitted (.ok .freshStarted) ∧ s.acknowledged = file.length ∧
    Invoked wireCrates s.journal (sampleCommand ['a']) := by
  have started := @sample_started ['a'] (by decide)
  obtain ⟨k, accepted, start, run, admits⟩ :=
    @admit_started _ _ empty_sound _ (none, none) _ _ started
  have returned := Step.returned (R := wireCrates) (s := Host.start)
    (.admitVerified (sampleCommand ['a']) sampleTime sampleTime)
  have called : Host.start.call wireCrates (.admitVerified (sampleCommand ['a']) sampleTime sampleTime) =
      (.admitted (.ok .freshStarted), k) := by
    change Prod.map Reply.admitted id (admitVerifiedExecution wireCrates none none
      (sampleCommand ['a']) sampleTime sampleTime Journal.empty) = _
    rw [run]
    rfl
  have grew : Host.start.journal.file.length < k.file.length := admits.grown.2
  rw [called] at returned
  simp only [if_pos grew] at returned
  have first := (Run.nil Host.start).snoc returned
  have left : Host.MayLeave wireCrates ⟨k, k.file.length⟩
      (.query (sampleCommand ['a']).key none) k.file := ⟨Nat.le_refl _, List.prefix_rfl⟩
  obtain ⟨opened, opens⟩ := (invoked_at_most_once first).2.1 _ _ left
  have whole := first.snoc (Step.crashed _ _ left opens)
  have invoked := (invoked_at_most_once whole).2.2 (sampleCommand ['a']) (by simp [Event.invokes])
  exact ⟨_, _, _, whole, rfl, rfl, invoked.1⟩

end CarsinOS.Recorder
