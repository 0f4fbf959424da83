import CarsinOS.Recorder.Faults

/-! A journal that is opened on any first part of its file has the records that are complete in
that part, and goes on from them. -/
namespace CarsinOS.Recorder
open CarsinOS.Lib

/-- The journal that calls leave whose appends all succeed. -/
def appended (R : RecorderCrates) (j : Journal) (calls : List Call) : Journal :=
  calls.foldl (fun j call => (call.run R (none, none) j).2) j

/-- Where the frame of a record ends in the file. -/
def frameEnd (R : RecorderCrates) (records : List JournalRecord) (index : Nat) : Nat :=
  (frames R (records.take (index + 1))).length

section Torn
variable {R : RecorderCrates} {j k : Journal}

theorem call_grows (sound : Sound j) (call : Call) : Grown R j (call.run R (none, none) j).2 := by
  have leaves := call_leaves (R := R) sound call (none, none)
  generalize (call.run R (none, none) j).2 = k at leaves
  cases leaves with
  | whole _ grown => exact grown
  | torn _ _ _ faulty => exact absurd rfl faulty

theorem appended_grown (sound : Sound j) (calls : List Call) : Grown R j (appended R j calls) := by
  induction calls generalizing j with
  | nil => exact .refl
  | cons call calls ih =>
    have first := call_grows (R := R) sound call
    exact first.trans (ih (first.sound sound))

theorem push_file_length (record : JournalRecord) (payload : List UInt8) :
    j.file.length < (j.push R record payload).file.length := by
  simp only [Journal.push, List.length_append, Framing.frame_length]
  omega

/-- The journal that is read from a first part of a file: everything, or up to a record whose frame
the part does not hold. -/
inductive Upto (R : RecorderCrates) (j : Journal) (size : Nat) (l : Journal) : Prop where
  | all (whole : l = j)
  | before {record : JournalRecord} {payload : List UInt8} (next : Continues R l record payload)
      (rest : Grown R (l.push R record payload) j)
      (cut : size < (l.push R record payload).file.length)

theorem Written.take (written : Written R j) (size : Nat) :
    ∃ l, Written R l ∧ Grown R l j ∧ openJournal R (j.file.take size) = .ok l ∧
      l.file.length ≤ size ∧ Upto R j size l := by
  induction written with
  | refl =>
    exact ⟨_, .refl, .refl, by simp [Journal.empty, openJournal], by simp [Journal.empty], .all rfl⟩
  | @push k record payload written next ih =>
    by_cases inside : size ≤ k.file.length
    · obtain ⟨l, first, rest, opens, short, upto⟩ := ih
      refine ⟨l, first, rest.push next, ?_, short, ?_⟩
      · rwa [Journal.push, List.take_append_of_le_length inside]
      · cases upto with
        | all whole =>
          subst whole
          exact .before next .refl (Nat.lt_of_le_of_lt inside (push_file_length record payload))
        | before more grown cut => exact .before more (grown.push next) cut
    · have beyond : k.file.length ≤ size := Nat.le_of_not_le inside
      obtain ⟨part, whole⟩ :
          ∃ part, part = ((framing R).frame payload).take (size - k.file.length) := ⟨_, rfl⟩
      have read : (k.push R record payload).file.take size = k.file ++ part := by
        rw [Journal.push, whole, List.take_append, List.take_of_length_le beyond]
      by_cases proper : size < (k.push R record payload).file.length
      · refine ⟨k, written, .push .refl next, ?_, beyond, .before next .refl proper⟩
        have incomplete : part.length < ((framing R).frame payload).length := by
          rw [Journal.push, List.length_append] at proper
          rw [whole, List.length_take]
          omega
        rw [read, open_append written]
        exact scan_part next (whole ▸ List.take_prefix _ _) incomplete
      · refine ⟨_, written.push next, .refl, ?_, Nat.le_of_not_lt proper, .all rfl⟩
        rw [List.take_of_length_le (Nat.le_of_not_lt proper)]
        exact open_written (written.push next)

theorem frames_length_le {records others : List JournalRecord} (part : records <+: others) :
    (frames R records).length ≤ (frames R others).length := by
  obtain ⟨rest, rfl⟩ := part
  simp [frames]

/-- The records of the journal that is read are those whose frames end inside the part. -/
theorem Upto.complete {l : Journal} {size index : Nat} (written : Written R l) (grown : Grown R l j)
    (short : l.file.length ≤ size) (upto : Upto R j size l) (inside : index < j.records.length) :
    index < l.records.length ↔ frameEnd R j.records index ≤ size := by
  constructor
  · intro kept
    have part : j.records.take (index + 1) <+: l.records :=
      List.prefix_of_prefix_length_le (List.take_prefix _ _) grown.records_prefix
        (by rw [List.length_take]; omega)
    have flush : l.file = frames R l.records := written.flush
    exact ((frames_length_le part).trans_eq (congrArg List.length flush.symm)).trans short
  · intro ends
    cases upto with
    | all whole => rwa [whole]
    | @before record payload next rest cut =>
      by_contra missing
      have part : l.records ++ [record] <+: j.records.take (index + 1) :=
        List.prefix_of_prefix_length_le rest.records_prefix (List.take_prefix _ _)
          (by rw [List.length_append, List.length_take]; simp; omega)
      have flush : (l.push R record payload).file = frames R (l.records ++ [record]) :=
        Written.flush (written.push next)
      have long := frames_length_le (R := R) part
      rw [← flush] at long
      exact absurd (cut.trans_le long) (Nat.not_lt.mpr ends)

theorem Grown.chained (grown : Grown R j k) (chained : Chained j) : Chained k := by
  induction grown with
  | refl => exact chained
  | push _ next ih => exact ih.push next

/-- What is appended to a journal goes on from its last record. -/
theorem appended_continues (written : Written R j) (later : List Call) :
    j.records <+: (appended R j later).records ∧ Linked (appended R j later).records ∧
    (∀ record, (appended R j later).records[j.records.length]? = some record →
      record.sequence = j.records.length + 1 ∧ record.previousRecordDigest = j.headDigest) ∧
    openJournal R (appended R j later).file = .ok (appended R j later) := by
  have grown := appended_grown (R := R) written.sound later
  have whole := written.trans grown
  have linked := (whole.chained empty_chained).linked
  refine ⟨grown.records_prefix, linked, fun record found => ?_, open_written whole⟩
  obtain ⟨sequence, previous⟩ := linked _ record found
  rw [(List.prefix_iff_eq_take.mp grown.records_prefix).symm] at previous
  exact ⟨sequence, previous⟩

end Torn

/-- Opening the first bytes of a journal whose appends succeeded has exactly the records whose
frames are whole in them and cuts the file behind the last of these. Opening it again changes
nothing, and what is appended then continues the chain. -/
theorem torn_tail_recovered (R : RecorderCrates) (calls : List Call) (size : Nat) :
    let j := appended R Journal.empty calls
    ∃ recovered, openJournal R (j.file.take size) = .ok recovered ∧
      recovered.records <+: j.records ∧
      (∀ index < j.records.length,
        index < recovered.records.length ↔ frameEnd R j.records index ≤ size) ∧
      recovered.file = j.file.take (frames R recovered.records).length ∧
      openJournal R recovered.file = .ok recovered ∧
      ∀ later, recovered.records <+: (appended R recovered later).records ∧
        Linked (appended R recovered later).records ∧
        (∀ record, (appended R recovered later).records[recovered.records.length]? = some record →
          record.sequence = recovered.records.length + 1 ∧
            record.previousRecordDigest = recovered.headDigest) ∧
        openJournal R (appended R recovered later).file = .ok (appended R recovered later) := by
  intro j
  have written : Written R j := appended_grown empty_sound calls
  obtain ⟨l, first, rest, opens, short, upto⟩ := written.take size
  refine ⟨l, opens, rest.records_prefix,
    fun index inside => upto.complete first rest short inside, ?_,
    open_written first, fun later => appended_continues first later⟩
  have flush : l.file = frames R l.records := first.flush
  rw [← flush]
  exact List.prefix_iff_eq_take.mp rest.file_prefix

end CarsinOS.Recorder
