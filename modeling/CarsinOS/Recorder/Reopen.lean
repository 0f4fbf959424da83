import CarsinOS.Recorder.Chain

/-! Reading a journal back: a file whose frames are records of a chain, and what a crash leaves
of it. -/
namespace CarsinOS.Recorder
open CarsinOS.Lib

section Reading
variable {R : RecorderCrates} {j k : Journal}

@[simp] theorem scan_done (j : Journal) : scan R j [] = .ok j := by
  rw [scan]
  split <;> simp_all [Framing.next]

theorem scan_torn {tail : List UInt8} (torn : (framing R).next tail = .torn) :
    scan R j tail = .ok j := by
  rw [scan]
  split <;> simp_all

/-- A record that continues the chain is read as it was written. -/
theorem scan_push {record : JournalRecord} {payload : List UInt8} (sound : Sound j)
    (next : Continues R j record payload) (rest : List UInt8) :
    scan R j ((framing R).frame payload ++ rest) = scan R (j.push R record payload) rest := by
  have reads := @Framing.next_frame (framing R) _ rest next.short
  rw [scan]
  split
  · simp_all
  · simp_all
  · simp_all
  · simp_all
  · rename_i found behind read
    rw [reads] at read
    cases read
    simp only [R.decode_encode record payload next.encoded, next.verified,
      next.indexRecord sound.indexed]

theorem scan_refused {bytes payload rest : List UInt8} {record : JournalRecord}
    {error : JournalError} (reads : (framing R).next bytes = .payload payload rest)
    (decodes : R.decode payload = some record) (refuses : verifyRecord R record j = .error error) :
    scan R j bytes = .error error := by
  rw [scan]
  split
  · simp_all
  · simp_all
  · simp_all
  · simp_all
  · rename_i found behind read
    rw [reads] at read
    cases read
    simp only [decodes, refuses]

/-- A file that ends inside the next frame is read up to it. -/
theorem scan_part {record : JournalRecord} {payload tail : List UInt8}
    (next : Continues R j record payload) (part : tail <+: (framing R).frame payload)
    (proper : tail.length < ((framing R).frame payload).length) : scan R j tail = .ok j := by
  rcases Framing.next_torn (F := framing R) next.short part proper with rfl | torn
  · exact scan_done j
  · exact scan_torn torn

theorem Grown.file_prefix (grown : Grown R j k) : j.file <+: k.file := by
  induction grown with
  | refl => exact List.prefix_rfl
  | push _ _ ih => exact ih.trans (List.prefix_append _ _)

theorem Grown.records_prefix (grown : Grown R j k) : j.records <+: k.records := by
  induction grown with
  | refl => exact List.prefix_rfl
  | push _ _ ih => exact ih.trans (List.prefix_append _ _)

theorem Grown.scan (grown : Grown R j k) (sound : Sound j) {bytes : List UInt8}
    (whole : k.file = j.file ++ bytes) (tail : List UInt8) :
    scan R j (bytes ++ tail) = scan R k tail := by
  induction grown generalizing bytes tail with
  | refl =>
    have none : bytes = [] := by simpa using whole
    rw [none, List.nil_append]
  | @push k record payload grown next ih =>
    obtain ⟨before, split⟩ := grown.file_prefix
    have last : bytes = before ++ (framing R).frame payload := by
      have same : j.file ++ (before ++ (framing R).frame payload) = j.file ++ bytes := by
        rw [← List.append_assoc, split]
        exact whole
      exact (List.append_cancel_left same).symm
    rw [last, List.append_assoc, ih split.symm, scan_push (grown.sound sound) next]

/-- Whatever part of the growth of a file is left, it is read as a journal between the two. -/
theorem Grown.cut (grown : Grown R j k) (sound : Sound j) {bytes part : List UInt8}
    (whole : k.file = j.file ++ bytes) (cut : part <+: bytes) :
    ∃ l, Grown R j l ∧ Grown R l k ∧ Recorder.scan R j part = .ok l := by
  induction grown generalizing bytes part with
  | refl =>
    have none : bytes = [] := by simpa using whole
    subst none
    have empty := List.prefix_nil.mp cut
    subst empty
    exact ⟨j, .refl, .refl, scan_done j⟩
  | @push k record payload grown next ih =>
    obtain ⟨before, split⟩ := grown.file_prefix
    have last : bytes = before ++ (framing R).frame payload := by
      have same : j.file ++ (before ++ (framing R).frame payload) = j.file ++ bytes := by
        rw [← List.append_assoc, split]
        exact whole
      exact (List.append_cancel_left same).symm
    subst last
    rcases List.prefix_or_prefix_of_prefix cut (List.prefix_append _ _) with inside | ⟨tail, rfl⟩
    · obtain ⟨l, since, until_, read⟩ := ih split.symm inside
      exact ⟨l, since, until_.push next, read⟩
    · have tailcut := (List.prefix_append_right_inj before).mp cut
      by_cases proper : tail.length < ((framing R).frame payload).length
      · refine ⟨k, grown, .push .refl next, ?_⟩
        rw [grown.scan sound split.symm]
        exact scan_part next tailcut proper
      · have all : tail = (framing R).frame payload :=
          tailcut.eq_of_length_le (Nat.le_of_not_lt proper)
        subst all
        refine ⟨_, grown.push next, .refl, ?_⟩
        rw [grown.scan sound split.symm]
        have read := scan_push (grown.sound sound) next []
        rw [List.append_nil] at read
        rw [read, scan_done]

/-- A journal that was written record by record. -/
abbrev Written (R : RecorderCrates) (j : Journal) : Prop := Grown R Journal.empty j

theorem Written.sound (written : Written R j) : Sound j := Grown.sound written empty_sound

/-- A file that goes on after the records of a journal is read to them first. -/
theorem open_append (written : Written R j) (tail : List UInt8) :
    openJournal R (j.file ++ tail) = Recorder.scan R j tail :=
  written.scan empty_sound (by simp [Journal.empty]) tail

theorem open_written (written : Written R j) : openJournal R j.file = .ok j := by
  have opened := open_append written []
  rwa [List.append_nil, scan_done] at opened

/-- What is left of a file beyond its first records is read as a journal that has these. -/
theorem open_cut {file : List UInt8} (written : Written R j) (grown : Grown R j k)
    (kept : j.file <+: file) (cut : file <+: k.file) :
    ∃ l, Grown R j l ∧ Grown R l k ∧ openJournal R file = .ok l := by
  obtain ⟨part, rfl⟩ := kept
  obtain ⟨bytes, whole⟩ := grown.file_prefix
  rw [← whole, List.prefix_append_right_inj] at cut
  obtain ⟨l, since, until_, read⟩ := grown.cut written.sound whole.symm cut
  exact ⟨l, since, until_, (open_append written part).trans read⟩

end Reading
end CarsinOS.Recorder
