import CarsinOS.Recorder.Journal
import CarsinOS.Text

/-! What one operation can do to a journal: nothing, leave a part of a frame, or write one record
that continues the chain. -/
namespace CarsinOS.Recorder
open CarsinOS.Lib

/-- A place in the evidence of an attempt. -/
abbrev Evidential := ObservationKind × ObservationSource

def JournalRecord.evidential (record : JournalRecord) : Evidential := (record.kind, record.source)

def Definite (kind : ObservationKind) : Prop := kind = .present ∨ kind = .absent

/-- What may be recorded of an attempt after what was recorded of it. -/
inductive Follows : List Evidential → Evidential → Prop where
  | accepted : Follows [] (.accepted, .execution)
  | started {chain : List Evidential} (some : chain ≠ [])
      (fresh : ∀ step ∈ chain, step.1 = .accepted) :
      Follows chain (.invocationStarted, .execution)
  | ended {chain : List Evidential} {kind : ObservationKind}
      (started : (∃ step ∈ chain, step.1 = .invocationStarted))
      (open_ : ∀ step ∈ chain, isTerminal step.1 = false) (terminal : isTerminal kind = true) :
      Follows chain (kind, .execution)
  | reconciled {chain : List Evidential} {last : Evidential} {kind : ObservationKind}
      (latest : chain.getLast? = some last) (open_ : ¬ Definite last.1)
      (terminal : isTerminal kind = true) : Follows chain (kind, .reconciliation)

namespace Journal

/-- The records of one attempt. -/
def forKey (j : Journal) (key : AttemptKey) : List JournalRecord :=
  j.records.filter (·.key = key)

/-- The index names the records of every attempt, and no attempt without records. -/
structure Indexed (j : Journal) : Prop where
  absent : ∀ key, j.byAttempt key = none → j.forKey key = []
  present : ∀ key indices, j.byAttempt key = some indices →
    j.named indices = j.forKey key ∧ j.forKey key ≠ [] ∧ ∀ index ∈ indices, index < j.records.length

/-- The journal with one more record. -/
def push (R : RecorderCrates) (j : Journal) (record : JournalRecord) (payload : List UInt8) :
    Journal where
  file := j.file ++ (framing R).frame payload
  records := j.records ++ [record]
  byAttempt := Function.update j.byAttempt record.key
    (some (((j.byAttempt record.key).getD []) ++ [j.records.length]))

theorem empty_indexed : empty.Indexed :=
  ⟨fun _ _ => rfl, fun _ _ found => nomatch found⟩

variable {R : RecorderCrates} {j : Journal}

theorem named_append (record : JournalRecord) (file : List UInt8)
    (byAttempt : AttemptKey → Option (List Nat)) {indices : List Nat}
    (inside : ∀ index ∈ indices, index < j.records.length) :
    Journal.named ⟨file, j.records ++ [record], byAttempt⟩ indices = j.named indices := by
  apply List.filterMap_congr
  intro index member
  exact List.getElem?_append_left (inside index member)

theorem forKey_push (record : JournalRecord) (payload : List UInt8) (key : AttemptKey) :
    (j.push R record payload).forKey key =
      j.forKey key ++ if record.key = key then [record] else [] := by
  simp only [forKey, push, List.filter_append]
  split <;> simp [*]

theorem forKey_push_same (record : JournalRecord) (payload : List UInt8) :
    (j.push R record payload).forKey record.key = j.forKey record.key ++ [record] := by
  simp [forKey_push]

theorem forKey_push_other {record : JournalRecord} {payload : List UInt8} {key : AttemptKey}
    (other : record.key ≠ key) : (j.push R record payload).forKey key = j.forKey key := by
  simp [forKey_push, other]

theorem mem_forKey {key : AttemptKey} {record : JournalRecord} :
    record ∈ j.forKey key ↔ record ∈ j.records ∧ record.key = key := by
  simp [forKey]

theorem push_indexed (record : JournalRecord) (payload : List UInt8) (indexed : j.Indexed) :
    (j.push R record payload).Indexed := by
  constructor
  · intro key missing
    simp only [push, Function.update_apply] at missing
    split at missing
    · contradiction
    · rename_i other
      rw [forKey_push_other (Ne.symm other)]
      exact indexed.absent key missing
  · intro key indices found
    simp only [push, Function.update_apply] at found
    split at found
    · rename_i same
      cases same
      cases Option.some.inj found
      rw [forKey_push_same]
      have earlier : j.named ((j.byAttempt record.key).getD []) = j.forKey record.key ∧
          ∀ index ∈ (j.byAttempt record.key).getD [], index < j.records.length := by
        cases known : j.byAttempt record.key with
        | none => simp [indexed.absent _ known, named]
        | some indices =>
          obtain ⟨same, _, inside⟩ := indexed.present _ _ known
          exact ⟨same, inside⟩
      refine ⟨?_, by simp, ?_⟩
      · have last : Journal.named ⟨(j.push R record payload).file, j.records ++ [record],
            (j.push R record payload).byAttempt⟩ [j.records.length] = [record] := by
          simp [named]
        have before := named_append record (j.push R record payload).file
          (j.push R record payload).byAttempt earlier.2
        unfold named at last before ⊢
        simp only [push] at last before ⊢
        rw [List.filterMap_append, before, last]
        exact congrArg (· ++ [record]) earlier.1
      · intro index member
        simp only [push, List.length_append, List.length_singleton]
        rcases List.mem_append.mp member with member | member
        · have := earlier.2 index member
          omega
        · have := List.mem_singleton.mp member
          omega
    · rename_i other
      obtain ⟨same, some, inside⟩ := indexed.present key indices found
      rw [forKey_push_other (Ne.symm other)]
      refine ⟨?_, some, ?_⟩
      · exact (named_append record _ _ inside).trans same
      · intro index member
        have := inside index member
        simp only [push, List.length_append, List.length_singleton]
        omega

theorem recordsFor_eq (indexed : j.Indexed) (key : AttemptKey) (digest : Text) :
    j.recordsFor key digest =
      if (j.forKey key).head?.any (·.commandDigest ≠ digest) then .error .commandConflict
      else .ok (j.forKey key) := by
  unfold recordsFor
  split
  · rename_i missing
    simp [indexed.absent key missing]
  · rename_i indices found
    rw [(indexed.present key indices found).1]

theorem query_eq (indexed : j.Indexed) (key : AttemptKey) (expected : Option Text) :
    j.query key expected =
      if expected.any fun expected => (j.forKey key).head?.any (expected ≠ ·.commandDigest) then
        .error .commandConflict
      else .ok (j.forKey key).getLast? := by
  unfold query
  split
  · rename_i missing
    cases expected <;> simp [indexed.absent key missing]
  · rename_i indices found
    rw [(indexed.present key indices found).1]

/-- The file is read past before the index is consulted. -/
theorem indexRecord_push {record : JournalRecord} {payload : List UInt8} (indexed : j.Indexed)
    (same : ∀ earlier ∈ j.forKey record.key, earlier.commandDigest = record.commandDigest)
    (begins : j.forKey record.key = [] → record.kind = .accepted) :
    ({ j with file := j.file ++ (framing R).frame payload } : Journal).indexRecord record =
      .ok (j.push R record payload) := by
  unfold indexRecord
  split
  · rename_i indices found
    have known : j.byAttempt record.key = some indices := found
    have names : Journal.named { j with file := j.file ++ (framing R).frame payload } indices =
        j.forKey record.key := (indexed.present _ _ known).1
    rw [if_neg]
    · simp [push, known]
    · rw [names]
      cases head : (j.forKey record.key).head? with
      | none => simp
      | some first =>
        have := same first (List.mem_of_head? head)
        simp [this]
  · rename_i missing
    have known : j.byAttempt record.key = none := missing
    rw [if_neg]
    · simp [push, known]
    · have := begins (indexed.absent _ known)
      simp [this]

end Journal

/-- A record that continues the chain of a journal. -/
structure Extends (R : RecorderCrates) (j : Journal) (record : JournalRecord) : Prop where
  verified : verifyRecord R record j = .ok ()
  follows : Follows ((j.forKey record.key).map (·.evidential)) record.evidential
  same : ∀ earlier ∈ j.forKey record.key, earlier.commandDigest = record.commandDigest

/-- The same with the bytes of the record. -/
structure Continues (R : RecorderCrates) (j : Journal) (record : JournalRecord)
    (payload : List UInt8) : Prop extends Extends R j record where
  encoded : R.encode record = .ok payload
  short : payload.length ≤ MAX_RECORD_BYTES

theorem Follows.begins {step : Evidential} (follows : Follows [] step) : step.1 = .accepted := by
  cases follows with
  | accepted => rfl
  | started some => contradiction
  | ended started =>
    obtain ⟨_, member, _⟩ := started
    contradiction
  | reconciled latest => contradiction

theorem Continues.indexRecord {R : RecorderCrates} {j : Journal} {record : JournalRecord}
    {payload : List UInt8} (next : Continues R j record payload) (indexed : j.Indexed) :
    ({ j with file := j.file ++ (framing R).frame payload } : Journal).indexRecord record =
      .ok (j.push R record payload) := by
  apply Journal.indexRecord_push indexed next.same
  intro none
  have follows := next.follows
  rw [none] at follows
  exact follows.begins

section Makers
variable {R : RecorderCrates} {j : Journal}

theorem sealRecord_fields {unsigned : UnsignedRecord} {record : JournalRecord}
    (made : sealRecord R unsigned = .ok record) : record.toUnsignedRecord = unsigned := by
  obtain ⟨bytes, _, made⟩ := bind_ok.mp made
  obtain ⟨observation, _, made⟩ := bind_ok.mp made
  cases made
  rfl

/-- A sealed record that names the head of the journal is one the journal accepts. -/
theorem sealRecord_verified {unsigned : UnsignedRecord} {record : JournalRecord}
    (made : sealRecord R unsigned = .ok record) (version : unsigned.journalVersion = journalVersion)
    (sequence : unsigned.sequence = j.records.length + 1)
    (previous : unsigned.previousRecordDigest = j.headDigest)
    (keyId : unsigned.recorderKeyId = R.identity.keyId)
    (keyGeneration : unsigned.recorderKeyGeneration = R.identity.keyGeneration)
    (shape : validateShape unsigned.kind unsigned.source unsigned.providerErrorClass = .ok ()) :
    verifyRecord R record j = .ok () := by
  obtain ⟨bytes, hbytes, made⟩ := bind_ok.mp made
  obtain ⟨observation, hobservation, made⟩ := bind_ok.mp made
  cases made
  simp [verifyRecord, version, sequence, previous, keyId, keyGeneration, hbytes, shape,
    hobservation, R.verify_signature]

theorem newRecord_extends {command : ExecuteOnce} {digest : Text} {kind : ObservationKind}
    {evidence : Evidence} {at_ : I64} {record : JournalRecord}
    (made : newRecord R j command digest kind evidence at_ = .ok record)
    (shape : validateShape kind .execution evidence.providerErrorClass = .ok ())
    (follows : Follows ((j.forKey command.key).map (·.evidential)) (kind, .execution))
    (same : ∀ earlier ∈ j.forKey command.key, earlier.commandDigest = digest) :
    Extends R j record ∧ record.key = command.key ∧ record.commandDigest = digest ∧
      record.evidential = (kind, .execution) := by
  have fields := sealRecord_fields made
  have key : record.key = command.key := by
    rw [fields]
    rfl
  have named : record.commandDigest = digest := by rw [fields]
  have evidential : record.evidential = (kind, .execution) := by
    rw [JournalRecord.evidential, fields]
  have verified : verifyRecord R record j = .ok () :=
    sealRecord_verified made rfl rfl rfl rfl rfl shape
  refine ⟨⟨verified, ?_, ?_⟩, key, named, evidential⟩
  · rw [key, evidential]
    exact follows
  · rw [key, named]
    exact same

/-- The records of an attempt whose first has the digest asked for. -/
theorem recordsFor_ok {key : AttemptKey} {digest : Text} {records : List JournalRecord}
    (indexed : j.Indexed) (found : j.recordsFor key digest = .ok records) :
    records = j.forKey key ∧ (∀ first ∈ (j.forKey key).head?, first.commandDigest = digest) := by
  rw [Journal.recordsFor_eq indexed] at found
  split at found
  · contradiction
  · rename_i agrees
    cases found
    refine ⟨rfl, ?_⟩
    intro first member
    rw [Option.mem_def] at member
    simpa [member] using agrees

/-- All records of every attempt have the digest of its first. -/
def Agreed (j : Journal) : Prop :=
  ∀ key, ∀ a ∈ j.forKey key, ∀ b ∈ j.forKey key, a.commandDigest = b.commandDigest

theorem agreed_digest {key : AttemptKey} {digest : Text} (agreed : Agreed j)
    (first : ∀ first ∈ (j.forKey key).head?, first.commandDigest = digest) :
    ∀ earlier ∈ j.forKey key, earlier.commandDigest = digest := by
  intro earlier member
  cases head : j.forKey key with
  | nil =>
    rw [head] at member
    contradiction
  | cons a rest =>
    have starts : a ∈ (j.forKey key).head? := by simp [head]
    have inside : a ∈ j.forKey key := by simp [head]
    exact (agreed key earlier member a inside).trans (first a starts)

/-- What an append can do. -/
inductive Changed (R : RecorderCrates) (j : Journal) :
    Fault → Except JournalError JournalRecord → Journal → Prop where
  | refused (fault : Fault) (error : JournalError) : Changed R j fault (.error error) j
  | torn {record : JournalRecord} {payload : List UInt8} (next : Continues R j record payload)
      (written : Nat) : Changed R j (some written) (.error .io)
        { j with file := j.file ++ ((framing R).frame payload).take written }
  | written {record : JournalRecord} {payload : List UInt8} (next : Continues R j record payload) :
      Changed R j none (.ok record) (j.push R record payload)

theorem appendMade_changed {made : Except JournalError JournalRecord} (fault : Fault)
    (indexed : j.Indexed) (makes : ∀ record, made = .ok record → Extends R j record) :
    Changed R j fault (appendMade R fault made j).1 (appendMade R fault made j).2 := by
  cases made with
  | error error => exact .refused fault error
  | ok record =>
    have extend := makes record rfl
    cases bytes : R.encode record with
    | error detail =>
      have fails : appendMade R fault (.ok record) j = (.error (.encoding detail), j) := by
        simp [appendMade, append, encoded, bytes]
      rw [fails]
      exact .refused fault _
    | ok payload =>
      by_cases long : payload.length > MAX_RECORD_BYTES
      · have fails : appendMade R fault (.ok record) j =
            (.error (.encoding "journal record is too large"), j) := by
          simp [appendMade, append, encoded, bytes, long]
        rw [fails]
        exact .refused fault _
      · have next : Continues R j record payload :=
          { extend with encoded := bytes, short := Nat.le_of_not_lt long }
        cases fault with
        | some written =>
          have tears : appendMade R (some written) (.ok record) j =
              (.error .io, { j with file := j.file ++ ((framing R).frame payload).take written }) := by
            simp [appendMade, append, encoded, bytes, long]
          rw [tears]
          exact .torn next written
        | none =>
          have writes : appendMade R none (.ok record) j =
              (.ok record, j.push R record payload) := by
            simp [appendMade, append, encoded, bytes, long, next.indexRecord indexed]
          rw [writes]
          exact .written next

theorem appendMade_made {made : Except JournalError JournalRecord} {fault : Fault}
    {record : JournalRecord} (appended : (appendMade R fault made j).1 = .ok record) :
    made = .ok record := by
  unfold appendMade at appended
  split at appended
  · contradiction
  · split at appended
    · contradiction
    · cases appended
      rfl

theorem validateShape_none (kind : ObservationKind) (source : ObservationSource)
    (allowed : ¬ (source = .execution ∧ kind = .absent)) : validateShape kind source none = .ok () := by
  simp [validateShape, allowed]

theorem accepted_extends {command : ExecuteOnce} {digest : Text} {at_ : I64}
    {record : JournalRecord} (none : j.forKey command.key = [])
    (made : newRecord R j command digest .accepted noEvidence at_ = .ok record) :
    Extends R j record ∧ record.key = command.key ∧ record.commandDigest = digest ∧
      record.evidential = (.accepted, .execution) := by
  apply newRecord_extends made
  · exact validateShape_none _ _ (by simp)
  · rw [none]
    exact .accepted
  · simp [none]

theorem startedRecord_extends {command : ExecuteOnce} {at_ : I64} {record : JournalRecord}
    (indexed : j.Indexed) (agreed : Agreed j)
    (made : startedRecord R j command at_ = .ok record) :
    Extends R j record ∧ record.key = command.key ∧
      commandDigest R command = .ok record.commandDigest ∧
      record.evidential = (.invocationStarted, .execution) := by
  obtain ⟨digest, known, made⟩ := bind_ok.mp made
  obtain ⟨records, found, made⟩ := bind_ok.mp made
  obtain ⟨rfl, first⟩ := recordsFor_ok indexed found
  split at made
  · contradiction
  split at made
  · contradiction
  · rename_i some fresh
    have follows : Follows ((j.forKey command.key).map (·.evidential))
        (.invocationStarted, .execution) := by
      apply Follows.started
      · simpa using some
      · intro step member
        obtain ⟨earlier, inside, rfl⟩ := List.mem_map.mp member
        have calm : isStartedOrTerminal earlier = false := by
          simp only [Bool.not_eq_true, List.any_eq_false] at fresh
          simpa using fresh earlier inside
        cases kind : earlier.kind <;> simp [isStartedOrTerminal, kind] at calm
        exact kind
    obtain ⟨extend, key, named, evidential⟩ := newRecord_extends made
      (validateShape_none _ _ (by simp)) follows (agreed_digest agreed first)
    exact ⟨extend, key, named ▸ known, evidential⟩

theorem terminalRecord_extends {command : ExecuteOnce} {kind : ObservationKind}
    {evidence : Evidence} {at_ : I64} {record : JournalRecord}
    (indexed : j.Indexed) (agreed : Agreed j)
    (made : terminalRecord R j command kind evidence at_ = .ok record) : Extends R j record := by
  unfold terminalRecord at made
  cases terminal : isTerminal kind with
  | false => simp [terminal, bind, Except.bind] at made
  | true =>
    simp only [terminal, Bool.not_true, Bool.false_eq_true, if_false] at made
    obtain ⟨_, shape, made⟩ := bind_ok.mp made
    obtain ⟨digest, _, made⟩ := bind_ok.mp made
    obtain ⟨records, found, made⟩ := bind_ok.mp made
    obtain ⟨rfl, first⟩ := recordsFor_ok indexed found
    split at made
    · contradiction
    split at made
    · contradiction
    · rename_i started calm
      have follows : Follows ((j.forKey command.key).map (·.evidential)) (kind, .execution) := by
        apply Follows.ended _ _ terminal
        · simp only [Bool.not_eq_true', Bool.not_eq_false, List.any_eq_true,
            decide_eq_true_eq] at started
          obtain ⟨earlier, inside, kind⟩ := started
          exact ⟨_, List.mem_map_of_mem inside, kind⟩
        · intro step member
          obtain ⟨earlier, inside, rfl⟩ := List.mem_map.mp member
          simp only [Bool.not_eq_true, List.any_eq_false] at calm
          simpa [JournalRecord.evidential] using calm earlier inside
      exact (newRecord_extends made shape follows (agreed_digest agreed first)).1

theorem reconciliationRecord_extends {key : AttemptKey} {expected : Text} {found : Reconciliation}
    {at_ : I64} {record : JournalRecord} (indexed : j.Indexed) (agreed : Agreed j)
    (made : reconciliationRecord R j key expected found at_ = .ok record) : Extends R j record := by
  unfold reconciliationRecord at made
  cases terminal : isTerminal found.kind with
  | false => simp [terminal, bind, Except.bind] at made
  | true =>
    simp only [terminal, Bool.not_true, Bool.false_eq_true, if_false] at made
    obtain ⟨base, queried, made⟩ := bind_ok.mp made
    rw [Journal.query_eq indexed] at queried
    split at queried
    · contradiction
    cases queried
    cases latest : (j.forKey key).getLast? with
    | none => simp [latest] at made
    | some base =>
      simp only [latest] at made
      split at made
      · contradiction
      · rename_i calm
        have inside : base ∈ j.forKey key := List.mem_of_getLast? latest
        have own : base.key = key := (Journal.mem_forKey.mp inside).2
        have fields := sealRecord_fields made
        have same : record.key = key := by
          rw [fields, ← own]
          rfl
        refine ⟨?_, ?_, ?_⟩
        · exact sealRecord_verified made rfl rfl rfl rfl rfl (validateShape_none _ _ (by simp))
        · rw [same, JournalRecord.evidential, fields]
          have last : ((j.forKey key).map (·.evidential)).getLast? = some base.evidential := by
            simp [latest]
          apply Follows.reconciled last _ terminal
          simpa [Definite, JournalRecord.evidential] using calm
        · rw [same]
          intro earlier member
          rw [fields]
          exact agreed key earlier member base inside

end Makers

/-! Calls of the journal. -/

inductive Call where
  | accept (command : ExecuteOnce) (observedAtMs : I64)
  | admitVerified (command : ExecuteOnce) (acceptedAtMs startedAtMs : I64)
  | markStarted (command : ExecuteOnce) (observedAtMs : I64)
  | terminal (command : ExecuteOnce) (kind : ObservationKind) (evidence : Evidence)
      (observedAtMs : I64)
  | reconcile (key : AttemptKey) (expectedCommandDigest : Text) (found : Reconciliation)
      (observedAtMs : I64)
  | query (key : AttemptKey) (expectedCommandDigest : Option Text)

inductive Reply where
  | accepted (reply : Except JournalError (Bool × JournalRecord))
  | admitted (reply : Except JournalError AdmissionOutcome)
  | recorded (reply : Except JournalError JournalRecord)
  | found (reply : Except JournalError (Option JournalRecord))

/-- A call with the faults of its first and its second append. -/
def Call.run (R : RecorderCrates) (call : Call) (faults : Fault × Fault) (j : Journal) :
    Reply × Journal :=
  match call with
  | .accept command observedAtMs =>
    (Recorder.accept R faults.1 command observedAtMs j).map .accepted id
  | .admitVerified command acceptedAtMs startedAtMs =>
    (admitVerifiedExecution R faults.1 faults.2 command acceptedAtMs startedAtMs j).map .admitted id
  | .markStarted command observedAtMs =>
    (markInvocationStarted R faults.1 command observedAtMs j).map .recorded id
  | .terminal command kind evidence observedAtMs =>
    (recordTerminal R faults.1 command kind evidence observedAtMs j).map .recorded id
  | .reconcile key expected found observedAtMs =>
    (recordReconciliation R faults.1 key expected found observedAtMs j).map .recorded id
  | .query key expected => (.found (j.query key expected), j)

/-- Journals that differ by records that continue the chain. -/
inductive Grown (R : RecorderCrates) (j : Journal) : Journal → Prop where
  | refl : Grown R j j
  | push {k : Journal} {record : JournalRecord} {payload : List UInt8} (grown : Grown R j k)
      (next : Continues R k record payload) : Grown R j (k.push R record payload)

/-- A call leaves a grown journal, after which a part of a frame may follow in the file. -/
inductive Leaves (R : RecorderCrates) (j : Journal) : Fault × Fault → Journal → Prop where
  | whole {k : Journal} (faults : Fault × Fault) (grown : Grown R j k) : Leaves R j faults k
  | torn {k : Journal} {record : JournalRecord} {payload : List UInt8} {faults : Fault × Fault}
      (grown : Grown R j k) (next : Continues R k record payload) (written : Nat)
      (faulty : faults ≠ (none, none)) :
      Leaves R j faults { k with file := k.file ++ ((framing R).frame payload).take written }

theorem Grown.trans {R : RecorderCrates} {j k l : Journal} (first : Grown R j k)
    (second : Grown R k l) : Grown R j l := by
  induction second with
  | refl => exact first
  | push _ next ih => exact ih.push next

/-- What every operation relies on. -/
structure Sound (j : Journal) : Prop where
  indexed : j.Indexed
  agreed : Agreed j

theorem empty_sound : Sound Journal.empty := by
  constructor
  · exact Journal.empty_indexed
  · intro key a member
    simp [Journal.empty, Journal.forKey] at member

section Calls
variable {R : RecorderCrates} {j k : Journal}

theorem push_agreed {record : JournalRecord} {payload : List UInt8} (agreed : Agreed j)
    (same : ∀ earlier ∈ j.forKey record.key, earlier.commandDigest = record.commandDigest) :
    Agreed (j.push R record payload) := by
  intro key a first b second
  by_cases own : record.key = key
  · subst own
    rw [Journal.forKey_push_same] at first second
    have digest : ∀ c ∈ j.forKey record.key ++ [record], c.commandDigest = record.commandDigest := by
      intro c member
      rcases List.mem_append.mp member with member | member
      · exact same c member
      · rw [List.mem_singleton.mp member]
    exact (digest a first).trans (digest b second).symm
  · rw [Journal.forKey_push_other own] at first second
    exact agreed key a first b second

theorem Sound.push {record : JournalRecord} {payload : List UInt8} (sound : Sound j)
    (next : Continues R j record payload) : Sound (j.push R record payload) :=
  ⟨Journal.push_indexed record payload sound.indexed, push_agreed sound.agreed next.same⟩

theorem Grown.sound (grown : Grown R j k) (sound : Sound j) : Sound k := by
  induction grown with
  | refl => exact sound
  | push _ next ih => exact ih.push next

/-- Nothing but the file is different. -/
theorem Sound.file (sound : Sound j) (file : List UInt8) : Sound { j with file } :=
  ⟨⟨sound.indexed.absent, sound.indexed.present⟩, sound.agreed⟩

theorem Changed.leaves {fault : Fault} {reply : Except JournalError JournalRecord} (second : Fault)
    (changed : Changed R j fault reply k) : Leaves R j (fault, second) k := by
  cases changed with
  | refused => exact .whole _ .refl
  | torn next written => exact .torn .refl next written (by simp)
  | written next => exact .whole _ (.push .refl next)

theorem latestFor_eq (indexed : j.Indexed) (key : AttemptKey) (digest : Text) :
    j.latestFor key digest =
      if (j.forKey key).head?.any (·.commandDigest ≠ digest) then .error .commandConflict
      else .ok (j.forKey key).getLast? := by
  rw [Journal.latestFor, Journal.recordsFor_eq indexed]
  split <;> rfl

theorem latestFor_none (indexed : j.Indexed) {key : AttemptKey} (none : j.forKey key = [])
    (digest : Text) : j.latestFor key digest = .ok .none := by
  simp [latestFor_eq indexed, none]

theorem getLast_some {key : AttemptKey} (some : j.forKey key ≠ []) :
    (j.forKey key).getLast? = .some ((j.forKey key).getLast some) :=
  List.getLast?_eq_some_getLast some

/-- With the digest of the attempt the latest record is found. -/
theorem latestFor_same (sound : Sound j) {key : AttemptKey} (some : j.forKey key ≠ [])
    {earlier : JournalRecord} (member : earlier ∈ j.forKey key) :
    j.latestFor key earlier.commandDigest = .ok (.some ((j.forKey key).getLast some)) := by
  rw [latestFor_eq sound.indexed, if_neg, getLast_some some]
  cases head : (j.forKey key).head? with
  | none => simp
  | some first =>
    have inside := List.mem_of_head? head
    simp [sound.agreed key first inside earlier member]

theorem latestFor_other (sound : Sound j) {key : AttemptKey} {digest : Text}
    {earlier : JournalRecord} (member : earlier ∈ j.forKey key)
    (other : earlier.commandDigest ≠ digest) : j.latestFor key digest = .error .commandConflict := by
  rw [latestFor_eq sound.indexed, if_pos]
  cases head : (j.forKey key).head? with
  | none =>
    rw [List.head?_eq_none_iff.mp head] at member
    contradiction
  | some first =>
    have inside := List.mem_of_head? head
    rw [sound.agreed key earlier member first inside] at other
    simpa using other

/-- The latest record is missing only when every record is. -/
theorem latestFor_unknown (indexed : j.Indexed) {key : AttemptKey} {digest : Text}
    (unknown : j.latestFor key digest = .ok none) : j.forKey key = [] := by
  rw [latestFor_eq indexed] at unknown
  split at unknown
  · contradiction
  · exact List.getLast?_eq_none_iff.mp (Except.ok.inj unknown)

/-- An attempt without records is accepted by appending its first. -/
theorem accept_fresh (indexed : j.Indexed) {command : ExecuteOnce} {digest : Text}
    (fault : Fault) (at_ : I64) (none : j.forKey command.key = [])
    (known : commandDigest R command = .ok digest) :
    accept R fault command at_ j =
      ((appendMade R fault (newRecord R j command digest .accepted noEvidence at_) j).map
        (·.map fun record => (false, record)) id) := by
  simp only [accept, known, ok_bind, latestFor_none indexed none]
  split <;> rename_i made <;> rw [made] <;> rfl

theorem accept_leaves (sound : Sound j) (command : ExecuteOnce) (at_ : I64)
    (faults : Fault × Fault) :
    Leaves R j faults (accept R faults.1 command at_ j).2 := by
  cases known : commandDigest R command with
  | error error =>
    simp only [accept, known]
    exact .whole _ .refl
  | ok digest =>
    cases found : j.latestFor command.key digest with
    | error error =>
      simp only [accept, known, ok_bind, found]
      exact .whole _ .refl
    | ok latest =>
      cases latest with
      | some existing =>
        simp only [accept, known, ok_bind, found]
        exact .whole _ .refl
      | none =>
        have none := latestFor_unknown sound.indexed found
        rw [accept_fresh sound.indexed _ _ none known]
        apply Changed.leaves
        apply appendMade_changed faults.1 sound.indexed
        intro record made
        exact (accepted_extends none made).1

theorem markStarted_leaves (sound : Sound j) (command : ExecuteOnce) (at_ : I64)
    (fault second : Fault) :
    Leaves R j (fault, second) (markInvocationStarted R fault command at_ j).2 := by
  apply Changed.leaves
  apply appendMade_changed fault sound.indexed
  intro record made
  exact (startedRecord_extends sound.indexed sound.agreed made).1

theorem Leaves.after {faults : Fault × Fault} {l : Journal} (grown : Grown R j k)
    (leaves : Leaves R k faults l) : Leaves R j faults l := by
  cases leaves with
  | whole _ more => exact .whole _ (grown.trans more)
  | torn more next written faulty => exact .torn (grown.trans more) next written faulty

/-- The second append of an admission is the only one that can still fail. -/
theorem Leaves.second {first second : Fault} {l : Journal}
    (leaves : Leaves R j (second, none) l) : Leaves R j (first, second) l := by
  cases leaves with
  | whole _ grown => exact .whole _ grown
  | torn grown next written faulty => exact .torn grown next written (by simp_all)

/-- The two records of an admission that returned a fresh start. -/
structure Admits (R : RecorderCrates) (j : Journal) (command : ExecuteOnce) (k : Journal)
    (accepted started : JournalRecord) : Prop where
  none : j.forKey command.key = []
  key : accepted.key = command.key ∧ started.key = command.key
  digest : commandDigest R command = .ok accepted.commandDigest ∧
    commandDigest R command = .ok started.commandDigest
  kind : accepted.kind = .accepted ∧ started.kind = .invocationStarted
  journal : ∃ first second, Continues R j accepted first ∧
    Continues R (j.push R accepted first) started second ∧
    k = (j.push R accepted first).push R started second

theorem admit_fresh (sound : Sound j) {command : ExecuteOnce} {digest : Text}
    (accepting starting : Fault) (acceptedAtMs startedAtMs : I64)
    (none : j.forKey command.key = []) (known : commandDigest R command = .ok digest) :
    (∃ error k, admitVerifiedExecution R accepting starting command acceptedAtMs startedAtMs j =
      (.error error, k) ∧ Leaves R j (accepting, starting) k) ∨
    (∃ k accepted started,
      admitVerifiedExecution R accepting starting command acceptedAtMs startedAtMs j =
        (.ok .freshStarted, k) ∧ Admits R j command k accepted started) := by
  have fresh := accept_fresh sound.indexed (R := R) accepting acceptedAtMs none known
  have changed := @appendMade_changed R j
    (newRecord R j command digest .accepted noEvidence acceptedAtMs) accepting sound.indexed
    (fun record made => (accepted_extends none made).1)
  unfold admitVerifiedExecution
  simp only [known, ok_bind, latestFor_none sound.indexed none, fresh]
  cases first : appendMade R accepting
    (newRecord R j command digest .accepted noEvidence acceptedAtMs) j with
  | mk reply k =>
    rw [first] at changed
    cases reply with
    | error error => exact .inl ⟨error, k, rfl, changed.leaves starting⟩
    | ok accepted =>
      have appended : ∃ payload, Continues R j accepted payload ∧
          k = j.push R accepted payload := by
        cases changed with
        | @written _ payload next => exact ⟨payload, next, rfl⟩
      obtain ⟨payload, next, whole⟩ := appended
      have made := appendMade_made (congrArg Prod.fst first)
      obtain ⟨_, key, digest, evidential⟩ := accepted_extends none made
      have pushed : Sound k := whole ▸ sound.push next
      have changed := @appendMade_changed R k (startedRecord R k command startedAtMs)
        starting pushed.indexed
        (fun record made => (startedRecord_extends pushed.indexed pushed.agreed made).1)
      simp only [Prod.map, Except.map, id, markInvocationStarted]
      cases second : appendMade R starting (startedRecord R k command startedAtMs) k with
      | mk reply l =>
        rw [second] at changed
        cases reply with
        | error error =>
          have grown : Grown R j k := whole ▸ .push .refl next
          exact .inl ⟨error, l, rfl, .after grown (changed.leaves Option.none).second⟩
        | ok started =>
          have made := appendMade_made (congrArg Prod.fst second)
          obtain ⟨_, key', digest', evidential'⟩ :=
            startedRecord_extends pushed.indexed pushed.agreed made
          refine .inr ⟨l, accepted, started, rfl, none, ⟨key, key'⟩, ⟨digest ▸ known, digest'⟩,
            ⟨congrArg Prod.fst evidential, congrArg Prod.fst evidential'⟩, ?_⟩
          cases changed with
          | @written _ bytes more => exact ⟨payload, bytes, next, whole ▸ more, by rw [whole]; rfl⟩

theorem admit_leaves (sound : Sound j) (command : ExecuteOnce) (acceptedAtMs startedAtMs : I64)
    (accepting starting : Fault) : Leaves R j (accepting, starting)
      (admitVerifiedExecution R accepting starting command acceptedAtMs startedAtMs j).2 := by
  cases known : commandDigest R command with
  | error error =>
    simp only [admitVerifiedExecution, known]
    exact .whole _ .refl
  | ok digest =>
    cases found : j.latestFor command.key digest with
    | error error =>
      simp only [admitVerifiedExecution, known, ok_bind, found]
      exact .whole _ .refl
    | ok latest =>
      cases latest with
      | some existing =>
        simp only [admitVerifiedExecution, known, ok_bind, found]
        exact .whole _ .refl
      | none =>
        have none := latestFor_unknown sound.indexed found
        rcases admit_fresh sound accepting starting acceptedAtMs startedAtMs none known with
          ⟨error, k, run, leaves⟩ | ⟨k, accepted, started, run, admits⟩
        · rw [run]
          exact leaves
        · rw [run]
          obtain ⟨first, second, next, more, whole⟩ := admits.journal
          rw [whole]
          exact .whole _ ((Grown.refl.push next).push more)

theorem call_leaves (sound : Sound j) (call : Call) (faults : Fault × Fault) :
    Leaves R j faults (call.run R faults j).2 := by
  cases call with
  | accept command observedAtMs => exact accept_leaves sound command observedAtMs faults
  | admitVerified command acceptedAtMs startedAtMs =>
    exact admit_leaves sound command acceptedAtMs startedAtMs faults.1 faults.2
  | markStarted command observedAtMs =>
    exact markStarted_leaves sound command observedAtMs faults.1 faults.2
  | terminal command kind evidence observedAtMs =>
    apply @Changed.leaves _ _ _ faults.1 _ faults.2
    apply appendMade_changed faults.1 sound.indexed
    exact fun record made => terminalRecord_extends sound.indexed sound.agreed made
  | reconcile key expected found observedAtMs =>
    apply @Changed.leaves _ _ _ faults.1 _ faults.2
    apply appendMade_changed faults.1 sound.indexed
    exact fun record made => reconciliationRecord_extends sound.indexed sound.agreed made
  | query key expected => exact .whole _ .refl

/-- Anything that appending a record and writing to the file keep, calls keep. -/
theorem call_keeps {Inv : Journal → Prop} (sounds : ∀ j, Inv j → Sound j)
    (pushed : ∀ j record payload, Inv j → Continues R j record payload →
      Inv (j.push R record payload))
    (written : ∀ (j : Journal) file, Inv j → Inv { j with file }) (call : Call)
    (faults : Fault × Fault) (inv : Inv j) : Inv (call.run R faults j).2 := by
  have grows : ∀ k, Grown R j k → Inv k := by
    intro k grown
    induction grown with
    | refl => exact inv
    | push _ next ih => exact pushed _ _ _ ih next
  have leaves := call_leaves (R := R) (sounds j inv) call faults
  generalize (call.run R faults j).2 = k at leaves
  cases leaves with
  | whole _ grown => exact grows _ grown
  | torn grown _ _ _ => exact written _ _ (grows _ grown)

end Calls
end CarsinOS.Recorder
