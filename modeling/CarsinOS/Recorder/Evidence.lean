import CarsinOS.Lib.Passed
import CarsinOS.Recorder.Codec
import CarsinOS.Recorder.Service

/-! What the records of the journal say of the files: which records a section can append, and
what an inspection of a file has to do with the attempt it is made for. -/
namespace CarsinOS.Recorder
open CarsinOS.Lib CarsinOS.Lib.Members

/-- The records an attempt begins with. -/
def Begins (command : ExecuteOnce) (record : JournalRecord) : Prop :=
  record.key = command.key ∧ (record.kind = .accepted ∨ record.kind = .invocationStarted)

/-- The records a call may append to a journal. -/
def Call.Makes (R : RecorderCrates) (j : Journal) (record : JournalRecord) : Call → Prop
  | .accept command _ | .admitVerified command _ _ | .markStarted command _ => Begins command record
  | .terminal command kind evidence observedAtMs =>
    terminalRecord R j command kind evidence observedAtMs = .ok record
  | .reconcile key expected found observedAtMs =>
    reconciliationRecord R j key expected found observedAtMs = .ok record
  | .query .. => False

def Event.call : Event → Call
  | .returned call _ | .crashed call _ => call

section Records
variable {R : RecorderCrates} {j k : Journal} {s t : Host}

/-- An append that does not fail writes the record it was given, or nothing. -/
theorem appendMade_records {made : Except JournalError JournalRecord} (indexed : j.Indexed)
    (makes : ∀ record, made = .ok record → Extends R j record) :
    (appendMade R none made j).2 = j ∨ ∃ record, made = .ok record ∧
      (appendMade R none made j).2.records = j.records ++ [record] := by
  have changed := appendMade_changed (R := R) none indexed makes
  cases reply : (appendMade R none made j).1 with
  | error error =>
    rw [reply] at changed
    generalize (appendMade R none made j).2 = k at changed
    cases changed with
    | refused => exact .inl rfl
  | ok record =>
    refine .inr ⟨record, appendMade_made reply, ?_⟩
    rw [reply] at changed
    generalize (appendMade R none made j).2 = k at changed
    cases changed with
    | written => rfl

theorem newRecord_fields {command : ExecuteOnce} {digest : Text} {kind : ObservationKind}
    {evidence : Evidence} {at_ : I64} {record : JournalRecord}
    (made : newRecord R j command digest kind evidence at_ = .ok record) :
    record.key = command.key ∧ record.kind = kind ∧ record.source = .execution ∧
      record.reconciliationKeyDigest = command.reconciliationKey.map (stableKeyDigest R) := by
  have fields := sealRecord_fields made
  refine ⟨?_, ?_, ?_, ?_⟩
  · rw [fields]
    rfl
  · rw [fields]
  · rw [fields]
  · rw [fields]

theorem terminalRecord_fields {command : ExecuteOnce} {kind : ObservationKind} {evidence : Evidence}
    {at_ : I64} {record : JournalRecord}
    (made : terminalRecord R j command kind evidence at_ = .ok record) :
    record.key = command.key ∧ record.kind = kind ∧ record.source = .execution ∧
      record.reconciliationKeyDigest = command.reconciliationKey.map (stableKeyDigest R) := by
  unfold terminalRecord at made
  cases terminal : isTerminal kind with
  | false => simp [terminal, bind, Except.bind] at made
  | true =>
    simp only [terminal, Bool.not_true, Bool.false_eq_true, if_false] at made
    obtain ⟨_, _, made⟩ := bind_ok.mp made
    obtain ⟨digest, _, made⟩ := bind_ok.mp made
    obtain ⟨records, _, made⟩ := bind_ok.mp made
    split at made
    · contradiction
    split at made
    · contradiction
    · exact newRecord_fields made

/-- An attempt is only ended by its execution after it was started. -/
theorem terminalRecord_started {command : ExecuteOnce} {kind : ObservationKind}
    {evidence : Evidence} {at_ : I64} {record : JournalRecord} (indexed : j.Indexed)
    (made : terminalRecord R j command kind evidence at_ = .ok record) :
    ∃ started ∈ j.forKey command.key, started.kind = .invocationStarted := by
  unfold terminalRecord at made
  cases terminal : isTerminal kind with
  | false => simp [terminal, bind, Except.bind] at made
  | true =>
    simp only [terminal, Bool.not_true, Bool.false_eq_true, if_false] at made
    obtain ⟨_, _, made⟩ := bind_ok.mp made
    obtain ⟨digest, _, made⟩ := bind_ok.mp made
    obtain ⟨records, found, made⟩ := bind_ok.mp made
    cases any : records.any (·.kind = .invocationStarted) with
    | false => simp [any] at made
    | true =>
      obtain ⟨started, member, kind⟩ := List.any_eq_true.mp any
      obtain ⟨whole, _⟩ := recordsFor_ok indexed found
      exact ⟨started, whole ▸ member, of_decide_eq_true kind⟩

theorem reconciliationRecord_fields {key : AttemptKey} {expected : Text} {found : Reconciliation}
    {at_ : I64} {record : JournalRecord} (indexed : j.Indexed)
    (made : reconciliationRecord R j key expected found at_ = .ok record) :
    ∃ base, (j.forKey key).getLast? = some base ∧ record.key = key ∧ record.kind = found.kind ∧
      record.source = .reconciliation ∧
      record.reconciliationKeyDigest = base.reconciliationKeyDigest := by
  unfold reconciliationRecord at made
  cases terminal : isTerminal found.kind with
  | false => simp [terminal, bind, Except.bind] at made
  | true =>
    simp only [terminal, Bool.not_true, Bool.false_eq_true, if_false] at made
    obtain ⟨base, queried, made⟩ := bind_ok.mp made
    rw [Journal.query_eq indexed] at queried
    split at queried
    · contradiction
    cases queried
    cases latest : (j.forKey key).getLast? with
    | none => simp [latest] at made
    | some base =>
      simp only [latest] at made
      split at made
      · contradiction
      · have own : base.key = key := (Journal.mem_forKey.mp (List.mem_of_getLast? latest)).2
        have fields := sealRecord_fields made
        refine ⟨base, rfl, ?_, ?_, ?_, ?_⟩
        · rw [fields, ← own]
          rfl
        · rw [fields]
        · rw [fields]
        · rw [fields]

theorem accept_records (sound : Sound j) (command : ExecuteOnce) (at_ : I64) :
    ∃ more, (accept R none command at_ j).2.records = j.records ++ more ∧
      ∀ record ∈ more, Begins command record := by
  cases known : commandDigest R command with
  | error error => exact ⟨[], by simp [accept, known, bind, Except.bind]⟩
  | ok digest =>
    cases found : j.latestFor command.key digest with
    | error error => exact ⟨[], by simp [accept, known, found, bind, Except.bind]⟩
    | ok latest =>
      cases latest with
      | some existing => exact ⟨[], by simp [accept, known, found]⟩
      | none =>
        have none := latestFor_unknown sound.indexed found
        rw [accept_fresh sound.indexed Option.none at_ none known]
        have makes (record : JournalRecord)
            (made : newRecord R j command digest .accepted noEvidence at_ = .ok record) :=
          accepted_extends none made
        rcases appendMade_records sound.indexed (fun record made => (makes record made).1) with
          same | ⟨record, made, records⟩
        · exact ⟨[], by simp [same]⟩
        · obtain ⟨_, key, _, evidential⟩ := makes record made
          exact ⟨[record], records, by
            simpa [Begins] using ⟨key, .inl (congrArg Prod.fst evidential)⟩⟩

theorem markStarted_records (sound : Sound j) (command : ExecuteOnce) (at_ : I64) :
    ∃ more, (markInvocationStarted R none command at_ j).2.records = j.records ++ more ∧
      ∀ record ∈ more, Begins command record := by
  have makes (record : JournalRecord) (made : startedRecord R j command at_ = .ok record) :=
    startedRecord_extends sound.indexed sound.agreed made
  rcases appendMade_records sound.indexed (fun record made => (makes record made).1) with
    same | ⟨record, made, records⟩
  · exact ⟨[], by simp [markInvocationStarted, same]⟩
  · obtain ⟨_, key, _, evidential⟩ := makes record made
    exact ⟨[record], records, by
      simpa [Begins] using ⟨key, .inr (congrArg Prod.fst evidential)⟩⟩

theorem admit_records (sound : Sound j) (command : ExecuteOnce) (at_ at_' : I64) :
    ∃ more, (admitVerifiedExecution R none none command at_ at_' j).2.records = j.records ++ more ∧
      ∀ record ∈ more, Begins command record := by
  obtain ⟨first, records, begins⟩ := accept_records (R := R) sound command at_
  have leaves := accept_leaves (R := R) sound command at_ (none, none)
  cases found : (do
    let digest ← commandDigest R command
    j.latestFor command.key digest) with
  | error error => exact ⟨[], by simp [admitVerifiedExecution, found]⟩
  | ok latest =>
    cases latest with
    | some existing => exact ⟨[], by simp [admitVerifiedExecution, found]⟩
    | none =>
      simp only [admitVerifiedExecution, found]
      cases accepted : accept R none command at_ j with
      | mk reply k =>
      rw [accepted] at records leaves
      have pushed : Sound k := by
        cases leaves with
        | whole _ grown => exact grown.sound sound
        | torn _ _ _ faulty => exact absurd rfl faulty
      obtain ⟨second, records', begins'⟩ := markStarted_records (R := R) pushed command at_'
      cases reply with
      | error error => exact ⟨first, records, begins⟩
      | ok pair =>
      refine ⟨first ++ second, ?_, ?_⟩
      · dsimp only at records ⊢
        rw [← List.append_assoc, ← records, ← records']
        split <;> rename_i started <;> rw [started]
      · intro record member
        rcases List.mem_append.mp member with member | member
        · exact begins record member
        · exact begins' record member

theorem call_records (sound : Sound j) (call : Call) :
    ∃ more, (call.run R (none, none) j).2.records = j.records ++ more ∧
      ∀ record ∈ more, call.Makes R j record := by
  have single {made : Except JournalError JournalRecord}
      (makes : ∀ record, made = .ok record → Extends R j record) :
      ∃ more, (appendMade R none made j).2.records = j.records ++ more ∧
        ∀ record ∈ more, made = .ok record := by
    rcases appendMade_records sound.indexed makes with same | ⟨record, known, records⟩
    · exact ⟨[], by simp [same], by simp⟩
    · exact ⟨[record], records, by simpa using known⟩
  cases call with
  | accept command at_ => exact accept_records sound command at_
  | admitVerified command at_ at_' => exact admit_records sound command at_ at_'
  | markStarted command at_ => exact markStarted_records sound command at_
  | terminal command kind evidence at_ =>
    exact single fun record made => terminalRecord_extends sound.indexed sound.agreed made
  | reconcile key expected found at_ =>
    exact single fun record made => reconciliationRecord_extends sound.indexed sound.agreed made
  | query key expected => exact ⟨[], by simp [Call.run], by simp⟩

/-- After a step the records are earlier ones, and then some that the call of the step may append. -/
theorem step_records {events : List Event} {event : Event} {base : Journal}
    (durable : Durable R events s base) (step : Step R s event t) :
    ∃ more, t.journal.records <+: s.journal.records ++ more ∧
      ∀ record ∈ more, event.call.Makes R s.journal record := by
  cases step with
  | returned call =>
    obtain ⟨more, records, makes⟩ := call_records (R := R) durable.sound call
    exact ⟨more, records ▸ List.prefix_rfl, makes⟩
  | crashed call file left opens =>
    obtain ⟨more, records, makes⟩ := call_records (R := R) durable.sound call
    have grown := durable.grown.trans (call_grown durable.sound call)
    have kept : base.file <+: file :=
      List.prefix_of_prefix_length_le grown.file_prefix left.2 (durable.length ▸ left.1)
    obtain ⟨l, _, until_, opened⟩ := open_cut durable.written grown kept left.2
    cases opens.symm.trans opened
    exact ⟨more, records ▸ until_.records_prefix, makes⟩

theorem step_base {events : List Event} {event : Event} {base : Journal}
    (durable : Durable R events s base) (step : Step R s event t) :
    Grown R base t.journal ∧ s.acknowledged ≤ t.acknowledged := by
  cases step with
  | returned call =>
    have grown := durable.grown.trans (call_grown (R := R) durable.sound call)
    refine ⟨grown, ?_⟩
    have whole := durable.grown.file_prefix.length_le
    rw [durable.length] at whole
    dsimp only
    split <;> omega
  | crashed call file left opens =>
    obtain ⟨l, opened, since⟩ := durable.opens left
    cases opens.symm.trans opened
    exact ⟨since, le_rfl⟩

/-- What was acknowledged before a step is acknowledged after it. -/
theorem acknowledged_kept {events later : List Event} {event : Event} {base next : Journal}
    (durable : Durable R events s base) (step : Step R s event t) (after : Durable R later t next) :
    base.records <+: next.records := by
  obtain ⟨grown, longer⟩ := step_base durable step
  have inside : base.file <+: next.file := by
    apply List.prefix_of_prefix_length_le grown.file_prefix after.grown.file_prefix
    rw [durable.length, after.length]
    exact longer
  obtain ⟨l, _, until_, opened⟩ :=
    open_cut (.refl : Written R Journal.empty) after.written List.nil_prefix inside
  cases (open_written durable.written).symm.trans opened
  exact until_.records_prefix

end Records

/-! What is found in a file. -/

section Files
variable {K : ServiceCrates} {F : Files} {contents : Contents} {validated : ValidatedExactOverwrite}

/-- The overwrite of a reconciliation key. -/
def operandKey (operand : ExactOverwriteOperand) : ExactOverwriteReconciliationKey where
  contractVersion := EXACT_OVERWRITE_RECONCILIATION_CONTRACT
  targetPath := operand.targetPath
  targetIdentity := operand.targetIdentity
  expectedPreimageSha256 := operand.expectedPreimageSha256
  replacementSha256 := operand.replacementSha256

theorem keyOf_tree (key : ExactOverwriteReconciliationKey) :
    keyOf (canonicalize (keyTree key)) = some key := by
  have named : Entries.keys (entries [] (keyTree key)) = keyNames := rfl
  have apart : keyNames.Nodup := by decide
  unfold keyOf
  rw [closed_canonical (keyTree key) rfl named apart]
  simp only [Option.bind_eq_bind, Option.bind_some, required_text named apart 0 rfl,
    required_text named apart 1 rfl, required_text named apart 2 rfl,
    required_text named apart 3 rfl, required_text named apart 4 rfl]

theorem keyOfText_operand (operand : ExactOverwriteOperand) :
    keyOfText K (exactOverwriteReconciliationKey operand) = some (operandKey operand) := by
  have spelled : (keyTree (operandKey operand)).Everywhere Spelled :=
    object_spelled (by simp [str_spelled])
  have read := K.json.tree_print _ (canonical_spelled spelled)
  rw [keyOfText, show exactOverwriteReconciliationKey operand =
    (canonicalize (keyTree (operandKey operand))).print from rfl, read, Option.bind_some, keyOf_tree]

theorem opened_target {file : OpenFile} {id : FileId}
    (opened : openValidatedTarget (F.holding contents) validated = .ok file)
    (named : file.id = .ok id) :
    id.text = validated.operand.targetIdentity ∧ file.content = .ok (contents id) := by
  simp only [openValidatedTarget, bind_ok] at opened
  obtain ⟨path, _, text, _, opened⟩ := opened
  split at opened
  · cases opened
  · simp only [bind_ok] at opened
    obtain ⟨file', found, metadata, _, identity, same, opened⟩ := opened
    split at opened
    · cases opened
    · rename_i agrees
      cases opened
      simp only [Files.holding, bind_ok] at found
      obtain ⟨plain, _, found⟩ := found
      cases found
      have id_ : plain.id = .ok id := named
      simp only [fileIdentity, bind_ok] at same
      obtain ⟨id', known, same⟩ := same
      cases id_.symm.trans known
      cases same
      exact ⟨not_not.mp agrees, by simp [id_, Except.map]⟩

/-- What an inspection finds is in the file of the identity. -/
theorem inspected {state : CurrentState}
    (found : inspectCurrent K (F.holding contents) validated = .ok state)
    (known : state ≠ .unknown) : ∃ id : FileId, id.text = validated.operand.targetIdentity ∧
      digestBytes K.crates (contents id) = if state = .replacement then
        validated.operand.replacementSha256 else validated.operand.expectedPreimageSha256 := by
  unfold inspectCurrent at found
  split at found
  · cases found
    contradiction
  · rename_i file opened
    simp only [bind_ok, hashOpenFile] at found
    obtain ⟨digest, ⟨bytes, read, hashed⟩, found⟩ := found
    cases hashed
    have identified : ∃ id, file.id = .ok id := by
      simp only [openValidatedTarget, bind_ok] at opened
      obtain ⟨path, _, text, _, opened⟩ := opened
      split at opened
      · cases opened
      · simp only [bind_ok, fileIdentity] at opened
        obtain ⟨file', _, metadata, _, identity, ⟨id, known, _⟩, opened⟩ := opened
        split at opened
        · cases opened
        · cases opened
          exact ⟨id, known⟩
    obtain ⟨id, named⟩ := identified
    obtain ⟨same, content⟩ := opened_target opened named
    cases content.symm.trans read
    refine ⟨id, same, ?_⟩
    cases found
    by_cases first : digestBytes K.crates (contents id) = validated.operand.replacementSha256
    · rw [if_pos first, if_pos rfl]
      exact first
    · rw [if_neg first] at known ⊢
      by_cases second : digestBytes K.crates (contents id) =
          validated.operand.expectedPreimageSha256
      · rw [if_pos second, if_neg (by decide)]
        exact second
      · rw [if_neg second] at known
        exact absurd rfl known

theorem validated_key {command : ExecuteOnce} {envelope : OpaqueOperandEnvelope} {C : Crates}
    (accepted : validatedCommand C F command envelope = .ok validated) :
    command.reconciliationKey = some (exactOverwriteReconciliationKey validated.operand) := by
  unfold validatedCommand at accepted
  split at accepted
  · cases accepted
  · simp only [bind_ok] at accepted
    obtain ⟨operand, _, _, _, replacement, _, _, _, accepted⟩ := accepted
    split at accepted
    · cases accepted
    · split at accepted
      · cases accepted
      · rename_i same
        cases accepted
        exact not_not.mp same

end Files
end CarsinOS.Recorder
