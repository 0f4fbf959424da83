import CarsinOS.Recorder.Evidence

/-! What a run of the service keeps of its invocations and of the records of its journal. -/
namespace CarsinOS.Recorder
open CarsinOS.Lib

def ServiceEvent.host : ServiceEvent → Option Event
  | .journal event => some event
  | .worked .. | .edited .. => none

/-- A step that writes to the file of an attempt for it. -/
def ServiceEvent.Writes (key : AttemptKey) : ServiceEvent → Prop
  | .worked other (some _) => other = key
  | _ => False

/-- The attempts whose invocation was granted. -/
def granted (events : List ServiceEvent) : List AttemptKey :=
  ((events.filterMap ServiceEvent.host).filterMap Event.invokes).map (·.key)

/-- The journal has the start of an attempt. -/
def Started (key : AttemptKey) (s : Service) : Prop :=
  ∃ record ∈ s.host.journal.forKey key, record.kind = .invocationStarted

/-- A file has the digest that a reconciliation key says of it. -/
def Held (K : ServiceCrates) (digest : ExactOverwriteReconciliationKey → Text)
    (keyDigest : Option Text) (s : Service) : Prop :=
  ∃ text key id, keyDigest = some (stableKeyDigest K.recorder text) ∧ keyOfText K text = some key ∧
    FileId.text id = key.targetIdentity ∧ digestBytes K.crates (s.contents id) = digest key

/-- An attempt that was accepted and not started. -/
def OnlyAccepted (key : AttemptKey) (s : Service) : Prop :=
  ∃ record, (s.host.journal.forKey key).getLast? = some record ∧ record.kind = .accepted

/-- The part of an invocation before it writes. -/
def Phase.Unwritten : Phase → Prop
  | .granted | .opened .. => True
  | .writing .. | .resized .. => False
  | .ended outcome => outcome.kind = .absent

def Phase.target : Phase → Option (ValidatedExactOverwrite × FileId)
  | .granted | .ended _ => none
  | .opened validated id | .writing validated id _ | .resized validated id => some (validated, id)

section Runs
variable {K : ServiceCrates} {F : Files} {channelKey : List UInt8} {contents : Contents}
  {events : List ServiceEvent} {event : ServiceEvent} {s t : Service}

/-- What was found out of an attempt that ended with its replacement in the file. -/
def Replaced (K : ServiceCrates) (key : AttemptKey) (keyDigest : Option Text) (s : Service) : Prop :=
  Started key s ∧ Held K (·.replacementSha256) keyDigest s

def Spared (K : ServiceCrates) (key : AttemptKey) (keyDigest : Option Text) (s : Service) : Prop :=
  OnlyAccepted key s ∨ (Started key s ∧ Held K (·.expectedPreimageSha256) keyDigest s)

variable (K F channelKey contents) in
/-- The run passed through a state with a property. -/
abbrev Met (events : List ServiceEvent) (s : Service) (P : Service → Prop) : Prop :=
  Passed (ServiceStep K F channelKey) (Service.start contents) events s P

variable (K F channelKey contents) in
structure Flying (events : List ServiceEvent) (s : Service) (key : AttemptKey) (i : Invocation) :
    Prop where
  own : i.command.key = key
  granted : key ∈ granted events
  unwritten : i.phase.Unwritten → ∀ event ∈ events, ¬ event.Writes key
  target : ∀ validated id, i.phase.target = some (validated, id) →
    id.text = validated.operand.targetIdentity ∧
      i.command.reconciliationKey = some (exactOverwriteReconciliationKey validated.operand)
  replaced : ∀ outcome, i.phase = .ended outcome → outcome.kind = .present →
    Met K F channelKey contents events s
      (Replaced K key (i.command.reconciliationKey.map (stableKeyDigest K.recorder)))

variable (K F channelKey contents) in
/-- What is known of an attempt that a record is about. -/
structure Evidenced (events : List ServiceEvent) (s : Service) (record : JournalRecord) : Prop where
  present : record.kind = .present → Met K F channelKey contents events s
    (Replaced K record.key record.reconciliationKeyDigest)
  absent : record.kind = .absent → record.source = .execution →
    record.key ∈ granted events ∧ s.invocations record.key = none ∧
      ∀ event ∈ events, ¬ event.Writes record.key
  spared : record.kind = .absent → record.source = .reconciliation →
    Met K F channelKey contents events s (Spared K record.key record.reconciliationKeyDigest)

/-- An unknown outcome is of an attempt that was started before. -/
def Grounded (records : List JournalRecord) : Prop :=
  ∀ before record after, records = before ++ record :: after → record.kind = .unknown →
    ∃ started ∈ before, started.key = record.key ∧ started.kind = .invocationStarted

variable (K F channelKey contents) in
structure Truthful (events : List ServiceEvent) (s : Service) : Prop where
  reached : Run (ServiceStep K F channelKey) (Service.start contents) events s
  flying : ∀ key i, s.invocations key = some i → Flying K F channelKey contents events s key i
  wrote : ∀ key, ∀ event ∈ events, event.Writes key → key ∈ granted events
  grounded : Grounded s.host.journal.records
  evidenced : ∀ record ∈ s.host.journal.records, Evidenced K F channelKey contents events s record

/-! The steps of the service as steps of its host. -/

theorem step_host (step : ServiceStep K F channelKey s event t) :
    (∀ e ∈ event.host, s.Calls K F channelKey e.call ∧ Step K.recorder s.host e t.host) ∧
      (event.host = none → t.host = s.host) := by
  cases step with
  | granted authentic supported planned taken =>
    refine ⟨?_, fun quiet => nomatch quiet⟩
    rintro e ⟨⟩
    exact ⟨.execute authentic supported planned, taken⟩
  | settled flying ended taken =>
    refine ⟨?_, fun quiet => nomatch quiet⟩
    rintro e ⟨⟩
    exact ⟨.terminal flying ended, taken⟩
  | called calls _ _ taken =>
    refine ⟨?_, fun quiet => nomatch quiet⟩
    rintro e ⟨⟩
    exact ⟨calls, taken⟩
  | worked | edited => exact ⟨fun e loud => (nomatch loud), fun _ => rfl⟩
  | crashed calls taken =>
    refine ⟨?_, fun quiet => nomatch quiet⟩
    rintro e ⟨⟩
    exact ⟨calls, taken⟩

theorem host_durable (reached : Run (ServiceStep K F channelKey) (Service.start contents) events s) :
    ∃ base, Durable K.recorder (events.filterMap ServiceEvent.host) s.host base := by
  refine run_durable (run_project Service.host ServiceEvent.host ?_ reached)
  intro s event t step
  exact ⟨fun e loud => ((step_host step).1 e loud).2, (step_host step).2⟩

theorem granted_append (events more : List ServiceEvent) :
    granted events ⊆ granted (events ++ more) := by
  simp [granted]

/-- What was granted is started in what the host has acknowledged. -/
theorem granted_started {base : Journal} {key : AttemptKey}
    (durable : Durable K.recorder (events.filterMap ServiceEvent.host) s.host base)
    (inside : key ∈ granted events) : Started key s := by
  obtain ⟨command, member, rfl⟩ := List.mem_map.mp inside
  obtain ⟨digest, _, records⟩ := durable.invoked command member
  obtain ⟨record, known, kind, _⟩ := records .invocationStarted (.inr rfl)
  exact ⟨record, durable.grown.forKey known, kind⟩

theorem mapError_ok {α ε ε' : Type} {x : Except ε α} {f : ε → ε'} {a : α} :
    x.mapError f = .ok a ↔ x = .ok a := by
  cases x <;> simp [Except.mapError]

/-- An execution is only planned for an attempt without records. -/
theorem planned_fresh {V : Verifier} {now : I64} {command : ExecuteOnce} {j : Journal}
    {reservations : List VerifiedTechnicalResourceReservation} (sound : Sound j)
    (planned : planExecution K V now command j = .ok (.fresh reservations)) :
    j.forKey command.key = [] := by
  obtain ⟨latest, found, planned⟩ := bind_ok.mp planned
  cases latest with
  | some record => cases planned
  | none =>
    obtain ⟨digest, _, latest⟩ := bind_ok.mp (mapError_ok.mp found)
    exact latestFor_unknown sound.indexed latest

/-- A step neither writes for an attempt that has records and is not invoked, nor grants it. -/
theorem step_idle {key : AttemptKey} (sound : Sound s.host.journal)
    (some : s.host.journal.forKey key ≠ []) (idle : s.invocations key = none)
    (step : ServiceStep K F channelKey s event t) :
    t.invocations key = none ∧ ¬ event.Writes key := by
  cases step with
  | @granted command _ _ _ _ _ _ _ _ _ _ planned _ =>
    refine ⟨?_, id⟩
    have other : key ≠ command.key := fun same => some (same ▸ planned_fresh sound planned)
    simpa [Function.update_of_ne other] using idle
  | @settled other _ _ _ _ _ flying _ _ =>
    refine ⟨?_, id⟩
    by_cases same : key = other
    · subst same
      simp
    · simpa [Function.update_of_ne same] using idle
  | called | edited => exact ⟨idle, id⟩
  | @worked other i phase changed flying _ =>
    have apart : key ≠ other := by
      rintro rfl
      simp [idle] at flying
    refine ⟨by simpa [Service.work, Function.update_of_ne apart] using idle, ?_⟩
    cases changed with
    | none => exact id
    | some change => exact fun same => apart same.symm
  | crashed => exact ⟨rfl, id⟩

/-- What is known of an attempt stays known while a run goes on. -/
theorem Evidenced.snoc {record : JournalRecord} (sound : Sound s.host.journal)
    (evidenced : Evidenced K F channelKey contents events s record)
    (known : record ∈ s.host.journal.records) (step : ServiceStep K F channelKey s event t) :
    Evidenced K F channelKey contents (events ++ [event]) t record where
  present kind := (evidenced.present kind).snoc step
  absent kind source := by
    obtain ⟨inside, idle, quiet⟩ := evidenced.absent kind source
    have some : s.host.journal.forKey record.key ≠ [] :=
      List.ne_nil_of_mem (Journal.mem_forKey.mpr ⟨known, rfl⟩)
    obtain ⟨still, silent⟩ := step_idle sound some idle step
    refine ⟨granted_append events [event] inside, still, ?_⟩
    intro e member
    rcases List.mem_append.mp member with member | member
    · exact quiet e member
    · cases List.mem_singleton.mp member
      exact silent
  spared kind source := (evidenced.spared kind source).snoc step

theorem Grounded.sub {records later : List JournalRecord} (grounded : Grounded later)
    (part : records <+: later) : Grounded records := by
  obtain ⟨rest, rfl⟩ := part
  intro before record after whole
  exact grounded before record (after ++ rest) (by simp [whole])

theorem Grounded.append {records more : List JournalRecord} (grounded : Grounded records)
    (starts : ∀ record ∈ more, record.kind = .unknown →
      ∃ started ∈ records, started.key = record.key ∧ started.kind = .invocationStarted) :
    Grounded (records ++ more) := by
  intro before record after whole unknown
  rcases List.append_eq_append_iff.mp whole with ⟨rest, rfl, rest_eq⟩ | ⟨rest, rfl, rest_eq⟩
  · obtain ⟨started, member, found⟩ := starts record (by simp [rest_eq]) unknown
    exact ⟨started, List.mem_append_left rest member, found⟩
  · cases rest with
    | nil =>
      obtain rfl : record :: after = more := by simpa using rest_eq
      obtain ⟨started, member, found⟩ := starts record (by simp) unknown
      exact ⟨started, by simpa using member, found⟩
    | cons head tail =>
      obtain ⟨rfl, rfl⟩ := List.cons.inj rest_eq
      exact grounded before record tail rfl unknown

theorem Grounded.started {record : JournalRecord} {key : AttemptKey}
    (grounded : Grounded s.host.journal.records) (member : record ∈ s.host.journal.forKey key)
    (unknown : record.kind = .unknown) : Started key s := by
  obtain ⟨known, own⟩ := Journal.mem_forKey.mp member
  obtain ⟨before, after, whole⟩ := List.append_of_mem known
  obtain ⟨started, earlier, same, kind⟩ := grounded before record after whole unknown
  refine ⟨started, Journal.mem_forKey.mpr ⟨?_, same.trans own⟩, kind⟩
  rw [whole]
  exact List.mem_append_left _ earlier

/-! The records a section makes. -/

theorem authentic_digest {window : Reconcile}
    (authentic : authenticateRequest K channelKey (.reconcile window) = .ok ()) :
    window.reconciliationKeyDigest = stableKeyDigest K.recorder window.reconciliationKey := by
  unfold authenticateRequest at authentic
  split at authentic
  · contradiction
  · rename_i valid
    simp only [not_or, not_not] at valid
    have checked := valid.1
    simp only [RecorderRequest.validate] at checked
    split at checked
    · contradiction
    · rename_i fields
      simp only [not_or, not_not] at fields
      exact fields.2.2.2.2.2.1.symm

/-- A reconciliation is definite for what the inspection found, once the attempt was started. -/
theorem reconciled_kind {inspect : ValidatedExactOverwrite → CurrentState} {window : Reconcile}
    {prior : JournalRecord} {reservations : List VerifiedTechnicalResourceReservation} :
    let outcome := reconciledOutcome K F inspect window prior reservations
    (prior.kind = .accepted → outcome.kind = .absent) ∧
    (prior.kind ≠ .accepted → outcome.kind ≠ .unknown → ∃ key,
      keyOfText K window.reconciliationKey = some key ∧
      inspect (keyedOverwrite window.reconciliationKey key) =
        if outcome.kind = .present then .replacement else .original) := by
  unfold reconciledOutcome
  constructor
  · intro accepted
    rw [if_pos accepted]
    rfl
  · intro started definite
    simp only [if_neg started] at definite ⊢
    cases tried : executorReconcile K F inspect window prior.providerIdentity prior.providerVersion
        reservations with
    | error error => simp [tried, inconclusiveOutcome] at definite
    | ok outcome =>
      simp only [tried] at definite ⊢
      unfold executorReconcile at tried
      split at tried
      · contradiction
      · simp only [reconcileExactOverwrite, bind_ok, present_ok] at tried
        obtain ⟨key, read, _, _, made⟩ := tried
        cases made
        refine ⟨key, read, ?_⟩
        simp only [reconciliationOutcome, observedKind] at definite ⊢
        generalize inspect (keyedOverwrite window.reconciliationKey key) = state at definite ⊢
        cases state with
        | original => rfl
        | unknown => exact absurd rfl definite
        | replacement =>
          by_cases none : reservations = []
          · simp [none] at definite
          · simp [none]

/-- The record of a reconciliation rests on the latest one and, once the attempt was started, on
what the inspection found. -/
theorem plan_found {V : Verifier} {inspect : ValidatedExactOverwrite → CurrentState} {now : I64}
    {window : Reconcile} {j : Journal} {found : Reconciliation} (indexed : j.Indexed)
    (planned : planReconciliation K F V inspect now window j = .ok (.record found)) :
    ∃ prior, (j.forKey window.key).getLast? = some prior ∧
      prior.reconciliationKeyDigest = some window.reconciliationKeyDigest ∧
      ¬ Definite prior.kind ∧
      (prior.kind = .accepted → found.kind = .absent) ∧
      (prior.kind ≠ .accepted → found.kind ≠ .unknown → ∃ key,
        keyOfText K window.reconciliationKey = some key ∧
        inspect (keyedOverwrite window.reconciliationKey key) =
          if found.kind = .present then .replacement else .original) := by
  unfold planReconciliation at planned
  split at planned
  · contradiction
  · obtain ⟨prior, queried, planned⟩ := bind_ok.mp planned
    have queried := mapError_ok.mp queried
    rw [Journal.query_eq indexed] at queried
    split at queried
    · contradiction
    · cases queried
      cases latest : (j.forKey window.key).getLast? with
      | none => simp [latest] at planned
      | some prior =>
        simp only [latest] at planned
        split at planned
        · contradiction
        · rename_i bound
          simp only [not_or, not_not] at bound
          split at planned
          · cases planned
          · rename_i fresh
            have open_ : ¬ Definite prior.kind := by
              rintro (definite | definite) <;> simp [replaysReconciliation, definite] at fresh
            split at planned
            · obtain ⟨reservations, _, planned⟩ := bind_ok.mp planned
              cases planned
              exact ⟨prior, rfl, bound.2.2, open_, reconciled_kind⟩
            · cases planned
              exact ⟨prior, rfl, bound.2.2, open_, reconciled_kind⟩

/-- What an inspection says of a file is in the file of the identity. -/
theorem inspect_held {inspect : ValidatedExactOverwrite → CurrentState} {text : Text}
    {key : ExactOverwriteReconciliationKey} (inspects : s.Inspects K F inspect)
    (read : keyOfText K text = some key) (state : CurrentState) (known : state ≠ .unknown)
    (found : inspect (keyedOverwrite text key) = state) :
    Held K (if state = .replacement then (·.replacementSha256) else (·.expectedPreimageSha256))
      (some (stableKeyDigest K.recorder text)) s := by
  rcases inspects (keyedOverwrite text key) with unknown | ⟨seen, _⟩
  · exact absurd (found.symm.trans unknown) known
  · rw [found] at seen
    obtain ⟨id, same, digest⟩ := inspected seen known
    refine ⟨text, key, id, rfl, read, same, ?_⟩
    rw [digest]
    split <;> rfl

/-- The state a section's reconciliation is written in bears out its record. -/
theorem reconcile_evidenced {V : Verifier} {inspect : ValidatedExactOverwrite → CurrentState}
    {now at_ : I64} {window : Reconcile} {found : Reconciliation} {record : JournalRecord}
    (sound : Sound s.host.journal) (grounded : Grounded s.host.journal.records)
    (authentic : authenticateRequest K channelKey (.reconcile window) = .ok ())
    (inspects : s.Inspects K F inspect)
    (planned : planReconciliation K F V inspect now window s.host.journal = .ok (.record found))
    (made : reconciliationRecord K.recorder s.host.journal window.key
      window.expectedCommandDigest found at_ = .ok record) :
    record.source = .reconciliation ∧ (record.kind ≠ .absent → Started record.key s) ∧
      (record.kind = .present → Replaced K record.key record.reconciliationKeyDigest s) ∧
      (record.kind = .absent → Spared K record.key record.reconciliationKeyDigest s) := by
  obtain ⟨base, latest, own, kind, source, digest⟩ := reconciliationRecord_fields sound.indexed made
  obtain ⟨prior, last, bound, open_, accepted, seen⟩ := plan_found sound.indexed planned
  cases latest.symm.trans last
  rw [bound, authentic_digest authentic] at digest
  have begun (later : base.kind ≠ .accepted) : Started record.key s := by
    have member := List.mem_of_getLast? latest
    rw [own]
    cases kind : base.kind with
    | accepted => exact absurd kind later
    | invocationStarted => exact ⟨base, member, kind⟩
    | unknown => exact grounded.started member kind
    | present => exact absurd (.inl kind) open_
    | absent => exact absurd (.inr kind) open_
  have looked (state : CurrentState) (later : base.kind ≠ .accepted) (definite : found.kind ≠ .unknown)
      (same : (if found.kind = .present then CurrentState.replacement else .original) = state)
      (known : state ≠ .unknown) :
      Held K (if state = .replacement then (·.replacementSha256) else (·.expectedPreimageSha256))
        record.reconciliationKeyDigest s := by
    obtain ⟨key, read, saw⟩ := seen later definite
    rw [digest]
    exact inspect_held inspects read state known (saw.trans same)
  refine ⟨source, ?_, ?_, ?_⟩
  · intro some
    exact begun fun only => some (kind.trans (accepted only))
  · intro present
    have found_ := kind.symm.trans present
    have later : base.kind ≠ .accepted := fun only => nomatch found_.symm.trans (accepted only)
    exact ⟨begun later, looked .replacement later (by simp [found_]) (by simp [found_]) (by decide)⟩
  · intro absent
    have found_ := kind.symm.trans absent
    by_cases only : base.kind = .accepted
    · exact .inl ⟨base, own ▸ latest, only⟩
    · exact .inr ⟨begun only, looked .original only (by simp [found_]) (by simp [found_]) (by decide)⟩

/-! The steps of an invocation. -/

theorem invokes_unwritten {i : Invocation} {phase : Phase} {changed : Option (FileId × List UInt8)}
    (invokes : Invokes K F s i phase changed) (unwritten : phase.Unwritten) :
    i.phase.Unwritten ∧ changed = none := by
  cases invokes with
  | unreserved fresh | invalid fresh | missing fresh | opens fresh | drifted fresh =>
    exact ⟨fresh ▸ trivial, rfl⟩
  | matches_ | writes | resizes => exact unwritten.elim
  | already | verified | ambiguous | unverified => exact nomatch unwritten

/-- An invocation works on the file it has opened, which is the one of its operand. -/
theorem invokes_target {i : Invocation} {phase : Phase} {changed : Option (FileId × List UInt8)}
    {validated : ValidatedExactOverwrite} {id : FileId} (invokes : Invokes K F s i phase changed)
    (target : phase.target = some (validated, id)) :
    i.phase.target = some (validated, id) ∨ (id.text = validated.operand.targetIdentity ∧
      i.command.reconciliationKey = some (exactOverwriteReconciliationKey validated.operand)) := by
  cases invokes with
  | unreserved | invalid | missing | already | drifted | ambiguous | verified | unverified =>
    exact nomatch target
  | opens _ _ accepted opened named _ =>
    cases target
    exact .inr ⟨(opened_target opened named).1, validated_key accepted⟩
  | matches_ opened | writes opened | resizes opened =>
    cases target
    exact .inl (by rw [opened, Phase.target])

theorem invokes_present {i : Invocation} {outcome : InvocationOutcome}
    {changed : Option (FileId × List UInt8)} (invokes : Invokes K F s i (.ended outcome) changed)
    (present : outcome.kind = .present) : ∃ validated id, i.phase.target = some (validated, id) ∧
      digestBytes K.crates (s.contents id) = validated.operand.replacementSha256 := by
  cases invokes with
  | unreserved | invalid | missing | drifted | ambiguous | unverified => exact nomatch present
  | already opened found | verified opened found =>
    exact ⟨_, _, by rw [opened, Phase.target], found⟩

theorem Flying.snoc {key : AttemptKey} {i : Invocation}
    (flying : Flying K F channelKey contents events s key i)
    (step : ServiceStep K F channelKey s event t) (quiet : ¬ event.Writes key) :
    Flying K F channelKey contents (events ++ [event]) t key i where
  own := flying.own
  granted := granted_append events [event] flying.granted
  unwritten before e member := by
    rcases List.mem_append.mp member with member | member
    · exact flying.unwritten before e member
    · exact List.mem_singleton.mp member ▸ quiet
  target := flying.target
  replaced outcome ended present := (flying.replaced outcome ended present).snoc step

/-- What is known of an invocation stays known through a step of its own. -/
theorem Flying.work {key : AttemptKey} {i : Invocation} {phase : Phase}
    {changed : Option (FileId × List UInt8)} {base : Journal}
    (reached : Run (ServiceStep K F channelKey) (Service.start contents) events s)
    (durable : Durable K.recorder (events.filterMap ServiceEvent.host) s.host base)
    (flying : Flying K F channelKey contents events s key i)
    (invoked : s.invocations key = some i) (invokes : Invokes K F s i phase changed) :
    Flying K F channelKey contents (events ++ [.worked key changed]) (s.work key i phase changed)
      key { i with phase } where
  own := flying.own
  granted := granted_append events _ flying.granted
  unwritten after e member := by
    obtain ⟨before, rfl⟩ := invokes_unwritten invokes after
    rcases List.mem_append.mp member with member | member
    · exact flying.unwritten before e member
    · rw [List.mem_singleton.mp member]
      exact id
  target validated id target := by
    rcases invokes_target invokes target with earlier | found
    · exact flying.target validated id earlier
    · exact found
  replaced outcome ended present := by
    cases ended
    obtain ⟨validated, id, target, found⟩ := invokes_present invokes present
    obtain ⟨same, keyed⟩ := flying.target validated id target
    refine (Passed.now reached ⟨granted_started durable flying.granted, ?_⟩).snoc
      (.worked invoked invokes)
    refine ⟨_, operandKey validated.operand, id, ?_, keyOfText_operand validated.operand, same, found⟩
    rw [keyed, Option.map_some]

end Runs
end CarsinOS.Recorder
