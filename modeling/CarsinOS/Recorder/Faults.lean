import CarsinOS.Lib.Run
import CarsinOS.Recorder.Reopen
import CarsinOS.Recorder.Wire

/-! A journal whose appends may fail after any part of their frame was written. -/
namespace CarsinOS.Recorder
open CarsinOS.Lib

/-- The journal and the records whose append returned, over all processes that had it open. -/
structure Log where
  journal : Journal
  acknowledged : List JournalRecord

def Log.start : Log := ⟨Journal.empty, []⟩

inductive Action where
  | called (call : Call) (faults : Fault × Fault)
  | reopened

/-- An append that returns is one that indexes its record. -/
inductive Acts (R : RecorderCrates) (s : Log) : Action → Log → Prop where
  | called (call : Call) (faults : Fault × Fault) :
      Acts R s (.called call faults)
        { journal := (call.run R faults s.journal).2
          acknowledged := s.acknowledged ++
            (call.run R faults s.journal).2.records.drop s.journal.records.length }
  | reopened {opened : Journal} (opens : openJournal R s.journal.file = .ok opened) :
      Acts R s .reopened { s with journal := opened }

/-- Opening succeeds and has every acknowledged record, in order. -/
def Recovers (R : RecorderCrates) (s : Log) : Prop :=
  ∃ opened, openJournal R s.journal.file = .ok opened ∧ s.acknowledged.Sublist opened.records

/-- The frames of records. -/
def frames (R : RecorderCrates) (records : List JournalRecord) : List UInt8 :=
  records.flatMap fun record =>
    match R.encode record with
    | .ok payload => (framing R).frame payload
    | .error _ => []

/-- The file ends with the last record in memory. -/
def Flush (R : RecorderCrates) (j : Journal) : Prop := j.file = frames R j.records

/-- Calls that write find the file ending with the last record in memory. -/
def WritesFlush (R : RecorderCrates) (s : Log) : Action → Prop
  | .called call faults => (call.run R faults s.journal).2.file ≠ s.journal.file → Flush R s.journal
  | .reopened => True

section Faults
variable {R : RecorderCrates} {j k : Journal} {s t : Log}

theorem Grown.flush (grown : Grown R j k) (flush : Flush R j) : Flush R k := by
  induction grown with
  | refl => exact flush
  | @push k record payload _ next ih =>
    have last : frames R [record] = (framing R).frame payload := by simp [frames, next.encoded]
    unfold Flush at ih ⊢
    simp only [Journal.push]
    rw [frames, List.flatMap_append, ← frames, ← frames, last, ih]

theorem Written.flush (written : Written R j) : Flush R j := Grown.flush written rfl

/-- What follows the records in the file: nothing, or a part of one more frame. -/
inductive Trailing (R : RecorderCrates) (base : Journal) : List UInt8 → Prop where
  | none : Trailing R base []
  | part {record : JournalRecord} {payload : List UInt8} (next : Continues R base record payload)
      (written : Nat) : Trailing R base (((framing R).frame payload).take written)

theorem Trailing.opens {base : Journal} {tail : List UInt8} (trailing : Trailing R base tail)
    (written : Written R base) :
    ∃ opened, openJournal R (base.file ++ tail) = .ok opened ∧ Grown R base opened := by
  cases trailing with
  | none =>
    rw [List.append_nil]
    exact ⟨base, open_written written, .refl⟩
  | part next count =>
    have grown : Grown R base _ := .push .refl next
    obtain ⟨l, since, _, opened⟩ := open_cut written grown (List.prefix_append _ _)
      ((List.prefix_append_right_inj base.file).mpr (List.take_prefix count _))
    exact ⟨l, opened, since⟩

/-- The file is that of a written journal with the records in memory, and a trailing part. -/
structure Kept (R : RecorderCrates) (s : Log) (base : Journal) (tail : List UInt8) : Prop where
  written : Written R base
  journal : s.journal = { base with file := base.file ++ tail }
  trailing : Trailing R base tail
  acknowledged : s.acknowledged.Sublist base.records

theorem Kept.recovers {base : Journal} {tail : List UInt8} (kept : Kept R s base tail) :
    Recovers R s := by
  obtain ⟨opened, opens, since⟩ := kept.trailing.opens kept.written
  refine ⟨opened, ?_, kept.acknowledged.trans since.records_prefix.sublist⟩
  rw [kept.journal]
  exact opens

theorem Kept.sound {base : Journal} {tail : List UInt8} (kept : Kept R s base tail) :
    Sound s.journal := kept.journal ▸ kept.written.sound.file _

theorem Kept.flush {base : Journal} {tail : List UInt8} (kept : Kept R s base tail)
    (flush : Flush R s.journal) : s.journal = base := by
  have whole := kept.written.flush
  unfold Flush at flush whole
  rw [kept.journal] at flush ⊢
  have none : tail = [] := by
    apply @List.append_cancel_left _ base.file
    rw [List.append_nil, whole]
    rw [whole] at flush
    exact flush
  rw [none, List.append_nil]

theorem Grown.same_file (grown : Grown R j k) (same : k.file = j.file) : k = j := by
  cases grown with
  | refl => rfl
  | push grown next =>
    have longer := grown.file_prefix.length_le
    have lengths := congrArg List.length same
    simp only [Journal.push, List.length_append, Framing.frame_length] at lengths
    omega

/-- A call that does not write leaves the journal as it was. -/
theorem Leaves.same_file {faults : Fault × Fault} (leaves : Leaves R j faults k)
    (same : k.file = j.file) : k = j := by
  cases leaves with
  | whole _ grown => exact grown.same_file same
  | @torn k record payload _ grown next written =>
    have longer := grown.file_prefix.length_le
    have lengths := congrArg List.length same
    simp only [List.length_append] at lengths
    have none : ((framing R).frame payload).take written = [] := by
      apply List.eq_nil_of_length_eq_zero
      omega
    simp only [none, List.append_nil] at same ⊢
    exact grown.same_file same

theorem drop_sublist {acknowledged : List JournalRecord} (grown : Grown R j k)
    (sublist : acknowledged.Sublist j.records) :
    (acknowledged ++ k.records.drop j.records.length).Sublist k.records := by
  obtain ⟨more, whole⟩ := grown.records_prefix
  rw [← whole, List.drop_left]
  exact sublist.append (List.Sublist.refl _)

theorem acts_kept {base : Journal} {tail : List UInt8} {action : Action}
    (kept : Kept R s base tail) (step : Guarded (Acts R) (WritesFlush R) s action t) :
    ∃ base tail, Kept R t base tail := by
  obtain ⟨guard, step⟩ := step
  cases step with
  | reopened opens =>
    obtain ⟨opened, again, since⟩ := kept.trailing.opens kept.written
    rw [kept.journal] at opens
    cases again.symm.trans opens
    exact ⟨_, [], kept.written.trans since, by simp, .none,
      kept.acknowledged.trans since.records_prefix.sublist⟩
  | called call faults =>
    have leaves := call_leaves (R := R) kept.sound call faults
    by_cases same : (call.run R faults s.journal).2.file = s.journal.file
    · have unchanged := leaves.same_file same
      refine ⟨base, tail, kept.written, ?_, kept.trailing, ?_⟩
      · exact unchanged.trans kept.journal
      · simp only [unchanged, List.drop_length, List.append_nil]
        exact kept.acknowledged
    · have whole := kept.flush (guard same)
      simp only [whole] at leaves ⊢
      generalize (call.run R faults base).2 = k at leaves
      cases leaves with
      | whole _ grown =>
        exact ⟨k, [], kept.written.trans grown, by simp, .none,
          drop_sublist grown kept.acknowledged⟩
      | torn grown next written _ =>
        have acknowledged := drop_sublist grown kept.acknowledged
        exact ⟨_, _, kept.written.trans grown, rfl, .part next written, acknowledged⟩

/-- As long as no call writes behind bytes that an earlier append left, whatever appends fail, the
file can be opened and has every record whose append returned. -/
theorem acknowledged_recovered {actions : List Action}
    (reached : Run (Guarded (Acts R) (WritesFlush R)) Log.start actions s) : Recovers R s := by
  have kept : ∃ base tail, Kept R s base tail := by
    apply @run_invariant _ _ _ (fun s => ∃ base tail, Kept R s base tail) _ _ _ _ _ reached
    · rintro s action t ⟨base, tail, kept⟩ step
      exact acts_kept kept step
    · exact ⟨Journal.empty, [], .refl, rfl, .none, List.Sublist.refl _⟩
  obtain ⟨base, tail, kept⟩ := kept
  exact kept.recovers

end Faults

/-- A call of a first acceptance, with what it leaves. -/
theorem acts_accept {s : Log} {attempt : Text} {fault : Fault}
    {reply : Except JournalError (Bool × JournalRecord)} {left : Journal}
    (run : accept wireCrates fault (sampleCommand attempt) sampleTime s.journal = (reply, left)) :
    Acts wireCrates s (.called (.accept (sampleCommand attempt) sampleTime) (fault, none))
      ⟨left, s.acknowledged ++ left.records.drop s.journal.records.length⟩ := by
  have step := Acts.called (R := wireCrates) (s := s)
    (.accept (sampleCommand attempt) sampleTime) (fault, none)
  have leaves : ((Call.accept (sampleCommand attempt) sampleTime).run wireCrates (fault, none)
      s.journal).2 = left := by
    simp only [Call.run, run, Prod.map, id]
  rwa [leaves] at step

/-- A torn append, a new process that opens the journal and an append of it. -/
theorem acknowledged_recovered_reopened : ∃ s record, s.acknowledged = [record] ∧
    Run (Guarded (Acts wireCrates) (WritesFlush wireCrates)) Log.start
      [.called (.accept (sampleCommand ['a']) sampleTime) (some 3, none), .reopened,
        .called (.accept (sampleCommand ['b']) sampleTime) (none, none)] s ∧
    Recovers wireCrates s := by
  obtain ⟨record, payload, next, _, _, torn⟩ :=
    @sample_accepted _ ['a'] empty_sound rfl (by decide)
  obtain ⟨second, bytes, more, _, accepted, _⟩ :=
    @sample_accepted _ ['b'] empty_sound rfl (by decide)
  have first := @acts_accept Log.start _ (some 3) _ _ (torn 3)
  have opens : openJournal wireCrates (((framing wireCrates).frame payload).take 3) =
      .ok Journal.empty := by
    apply scan_part next (List.take_prefix _ _)
    simp only [List.length_take, Framing.frame_length]
    omega
  have last := @acts_accept ⟨Journal.empty, []⟩ _ none _ _ accepted
  have flush : Flush wireCrates Journal.empty := rfl
  have reopened := Acts.reopened (R := wireCrates) (s := ⟨⟨((framing wireCrates).frame payload).take 3,
    [], fun _ => none⟩, []⟩) opens
  have reached : Run (Guarded (Acts wireCrates) (WritesFlush wireCrates)) Log.start
      [.called (.accept (sampleCommand ['a']) sampleTime) (some 3, none), .reopened,
        .called (.accept (sampleCommand ['b']) sampleTime) (none, none)] _ :=
    (((Run.nil Log.start).snoc ⟨fun _ => flush, first⟩).snoc ⟨trivial, reopened⟩).snoc
      ⟨fun _ => flush, last⟩
  exact ⟨_, second, rfl, reached, acknowledged_recovered reached⟩

/-- The sync of a whole frame fails, the caller is told so and the next record is written behind
it: it repeats a sequence number, and the journal cannot be opened any more. -/
theorem unsynced_frame_loses_journal : ∃ s record,
    Run (Acts wireCrates) Log.start
      [.called (.accept (sampleCommand ['a']) sampleTime) (some (MAX_RECORD_BYTES + 36), none),
        .called (.accept (sampleCommand ['b']) sampleTime) (none, none)] s ∧
    s.acknowledged = [record] ∧
    openJournal wireCrates s.journal.file =
      .error (.corrupt "record identity or chain mismatch") ∧
    ¬ Recovers wireCrates s := by
  obtain ⟨record, payload, next, _, _, torn⟩ :=
    @sample_accepted _ ['a'] empty_sound rfl (by decide)
  have whole : ((framing wireCrates).frame payload).take (MAX_RECORD_BYTES + 36) =
      (framing wireCrates).frame payload := by
    apply List.take_of_length_le
    have short := next.short
    have width : (framing wireCrates).width = 32 := rfl
    rw [Framing.frame_length, width]
    omega
  have first := torn (MAX_RECORD_BYTES + 36)
  rw [whole] at first
  have sound : Sound { Journal.empty with file := (framing wireCrates).frame payload } :=
    empty_sound.file _
  obtain ⟨second, bytes, more, one, accepted, _⟩ :=
    @sample_accepted _ ['b'] sound rfl (by decide)
  have behind := acts_accept (s := Log.start) first
  have last := @acts_accept ⟨_, []⟩ _ none _ _ accepted
  have refused : verifyRecord wireCrates second (Journal.empty.push wireCrates record payload) =
      .error (.corrupt "record identity or chain mismatch") := by
    have other : second.sequence ≠
        (Journal.empty.push wireCrates record payload).records.length + 1 := by
      rw [one.sequence]
      simp [Journal.push]
    simp only [verifyRecord, if_pos (Or.inr (Or.inl other))]
    rfl
  have fails : openJournal wireCrates
      ((framing wireCrates).frame payload ++ (framing wireCrates).frame bytes) =
        .error (.corrupt "record identity or chain mismatch") := by
    unfold openJournal
    rw [scan_push empty_sound next]
    have reads := @Framing.next_frame (framing wireCrates) _ [] more.short
    rw [List.append_nil] at reads
    exact scan_refused reads (wireCrates.decode_encode _ _ more.encoded) refused
  refine ⟨_, second, ((Run.nil Log.start).snoc behind).snoc last, rfl, fails, ?_⟩
  rintro ⟨opened, opens, _⟩
  cases fails.symm.trans opens

end CarsinOS.Recorder
