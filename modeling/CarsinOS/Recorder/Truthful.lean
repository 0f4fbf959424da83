import CarsinOS.Overwrite.Agreement
import CarsinOS.Recorder.Closed
import CarsinOS.Recorder.Flight

/-! Definite evidence is truthful, whatever the order of the sections of any requests, of the
steps of their invocations and of crashes. -/
namespace CarsinOS.Recorder
open CarsinOS.Lib CarsinOS.Overwrite

section Runs
variable {K : ServiceCrates} {F : Files} {channelKey : List UInt8} {contents : Contents}
  {events : List ServiceEvent} {event : ServiceEvent} {s t : Service}

/-! A step of the service. -/

/-- What the records a call may make say of the run before it. -/
theorem calls_evidenced {call : Call} {record : JournalRecord} {base : Journal}
    (kept : Truthful K F channelKey contents events s)
    (durable : Durable K.recorder (events.filterMap ServiceEvent.host) s.host base)
    (calls : s.Calls K F channelKey call) (makes : call.Makes K.recorder s.host.journal record) :
    (record.kind = .unknown → Started record.key s) ∧
    (record.kind = .present →
      Met K F channelKey contents events s (Replaced K record.key record.reconciliationKeyDigest)) ∧
    (record.kind = .absent → record.source = .execution → record.key ∈ granted events ∧
      (∀ event ∈ events, ¬ event.Writes record.key) ∧
      ∃ command kind evidence at_, call = .terminal command kind evidence at_ ∧
        command.key = record.key) ∧
    (record.kind = .absent → record.source = .reconciliation →
      Met K F channelKey contents events s (Spared K record.key record.reconciliationKeyDigest)) := by
  cases calls with
  | execute =>
    obtain ⟨_, kind | kind⟩ := makes <;> simp [kind]
  | @terminal key i outcome at_ flying ended =>
    obtain ⟨own, kind, source, digest⟩ := terminalRecord_fields makes
    obtain ⟨started, member, begun⟩ := terminalRecord_started durable.sound.indexed makes
    have flight := kept.flying key i flying
    rw [flight.own] at own
    refine ⟨?_, ?_, ?_, ?_⟩
    · intro _
      exact ⟨started, by rwa [own, ← flight.own], begun⟩
    · intro present
      rw [own, digest]
      exact flight.replaced outcome ended (kind.symm.trans present)
    · intro absent _
      rw [own]
      refine ⟨flight.granted, flight.unwritten ?_, _, _, _, _, rfl, flight.own⟩
      rw [ended]
      exact kind.symm.trans absent
    · intro _ other
      exact nomatch source.symm.trans other
  | reconcile authentic inspects planned =>
    obtain ⟨source, begun, replaced, spared⟩ :=
      reconcile_evidenced durable.sound kept.grounded authentic inspects planned makes
    refine ⟨?_, ?_, ?_, ?_⟩
    · intro unknown
      exact begun (by simp [unknown])
    · intro present
      exact .now kept.reached (replaced present)
    · intro _ other
      exact nomatch source.symm.trans other
    · intro absent _
      exact .now kept.reached (spared absent)
  | query => exact makes.elim

/-- After the call that ends an invocation it is gone. -/
theorem step_ended {command : ExecuteOnce} {kind : ObservationKind} {evidence : Evidence} {at_ : I64}
    {e : Event} (kept : Truthful K F channelKey contents events s)
    (step : ServiceStep K F channelKey s event t) (loud : e ∈ event.host)
    (ends : e.call = .terminal command kind evidence at_) : t.invocations command.key = none := by
  cases step with
  | granted =>
    cases loud
    cases ends
  | settled flying ended taken =>
    cases loud
    cases ends
    have own := (kept.flying _ _ flying).own
    simp [own]
  | called _ other =>
    cases loud
    exact (other _ _ _ _ ends).elim
  | worked | edited => cases loud
  | crashed => rfl

theorem step_flying {base : Journal} (kept : Truthful K F channelKey contents events s)
    (durable : Durable K.recorder (events.filterMap ServiceEvent.host) s.host base)
    (step : ServiceStep K F channelKey s event t) {key : AttemptKey} {i : Invocation}
    (flying : t.invocations key = some i) :
    Flying K F channelKey contents (events ++ [event]) t key i := by
  have taken := step
  cases step with
  | @granted command _ _ _ _ _ _ _ _ _ _ planned _ =>
    by_cases own : key = command.key
    · subst own
      have fresh := planned_fresh durable.sound planned
      simp only [Function.update_self, Option.some.injEq] at flying
      subst flying
      refine ⟨rfl, by simp [granted, ServiceEvent.host, Event.invokes], ?_,
        fun _ _ same => (by cases same), fun _ same => by cases same⟩
      intro _ e member writes
      rcases List.mem_append.mp member with member | member
      · -- an attempt that was written for was granted, so the journal has its start
        obtain ⟨started, found, _⟩ :=
          granted_started durable (kept.wrote command.key e member writes)
        rw [fresh] at found
        cases found
      · rw [List.mem_singleton.mp member] at writes
        exact writes
    · simp only [Function.update_of_ne own] at flying
      exact (kept.flying key i flying).snoc taken id
  | @settled other =>
    by_cases own : key = other
    · subst own
      simp at flying
    · simp only [Function.update_of_ne own] at flying
      exact (kept.flying key i flying).snoc taken id
  | called | edited => exact (kept.flying key i flying).snoc taken id
  | @worked other j phase changed invoked invokes =>
    by_cases own : key = other
    · subst own
      simp only [Service.work, Function.update_self, Option.some.injEq] at flying
      subst flying
      exact (kept.flying key j invoked).work kept.reached durable invoked invokes
    · simp only [Service.work, Function.update_of_ne own] at flying
      refine (kept.flying key i flying).snoc taken ?_
      cases changed with
      | none => exact id
      | some change => exact fun same => own same.symm
  | crashed => cases flying

/-- Only the invocation of a granted attempt writes. -/
theorem step_writes {key : AttemptKey} (kept : Truthful K F channelKey contents events s)
    (step : ServiceStep K F channelKey s event t) (writes : event.Writes key) :
    key ∈ granted events := by
  cases step with
  | granted | settled | called | edited | crashed => exact writes.elim
  | @worked other _ _ changed invoked _ =>
    cases changed with
    | none => exact writes.elim
    | some change => exact writes ▸ (kept.flying other _ invoked).granted

theorem step_kept (kept : Truthful K F channelKey contents events s)
    (step : ServiceStep K F channelKey s event t) :
    Truthful K F channelKey contents (events ++ [event]) t := by
  obtain ⟨base, durable⟩ := host_durable kept.reached
  -- every record of the journal is an earlier one, or one that the call of the step makes
  have appends : ∃ more, t.host.journal.records <+: s.host.journal.records ++ more ∧
      ∀ record ∈ more, ∃ e ∈ event.host, s.Calls K F channelKey e.call ∧
        e.call.Makes K.recorder s.host.journal record := by
    obtain ⟨loud, silent⟩ := step_host step
    cases visible : event.host with
    | none => exact ⟨[], by simp [silent visible], by simp⟩
    | some e =>
      obtain ⟨calls, taken⟩ := loud e visible
      obtain ⟨more, part, makes⟩ := step_records durable taken
      exact ⟨more, part, fun record member => ⟨e, rfl, calls, makes record member⟩⟩
  obtain ⟨more, part, makes⟩ := appends
  refine ⟨kept.reached.snoc step, fun key i => step_flying kept durable step, ?_, ?_, ?_⟩
  · intro key e member writes
    apply granted_append events [event]
    rcases List.mem_append.mp member with member | member
    · exact kept.wrote key e member writes
    · exact step_writes kept step (List.mem_singleton.mp member ▸ writes)
  · refine (kept.grounded.append ?_).sub part
    intro record member unknown
    obtain ⟨e, _, calls, made⟩ := makes record member
    obtain ⟨started, found, kind⟩ := (calls_evidenced kept durable calls made).1 unknown
    obtain ⟨known, own⟩ := Journal.mem_forKey.mp found
    exact ⟨started, known, own, kind⟩
  · intro record member
    rcases List.mem_append.mp (part.subset member) with member | member
    · exact (kept.evidenced record member).snoc durable.sound member step
    · obtain ⟨e, loud, calls, made⟩ := makes record member
      obtain ⟨_, present, absent, spared⟩ := calls_evidenced kept durable calls made
      refine ⟨fun kind => (present kind).snoc step, ?_, fun kind source => (spared kind source).snoc step⟩
      intro kind source
      obtain ⟨inside, quiet, command, ended, evidence, at_, ends, own⟩ := absent kind source
      refine ⟨granted_append events [event] inside, own ▸ step_ended kept step loud ends, ?_⟩
      intro later member writes
      rcases List.mem_append.mp member with member | member
      · exact quiet later member writes
      · -- an event of the host writes to no file
        cases event with
        | journal =>
          rw [List.mem_singleton.mp member] at writes
          exact writes
        | worked | edited => cases loud

theorem run_kept (reached : Run (ServiceStep K F channelKey) (Service.start contents) events s) :
    Truthful K F channelKey contents events s := by
  apply @run_history _ _ _ (Truthful K F channelKey contents) _ _ _ _ _ reached
  · intro events s event t kept step
    exact step_kept kept step
  · have empty : (Service.start contents).host.journal.records = [] := rfl
    refine ⟨.nil _, by simp [Service.start], by simp, ?_, by simp [empty]⟩
    intro before record after whole
    simp [empty] at whole

/-- An attempt whose invocation is over is not written for again. -/
theorem run_over {key : AttemptKey} {later : List ServiceEvent}
    (reached : Run (ServiceStep K F channelKey) (Service.start contents) events s)
    (inside : key ∈ granted events) (idle : s.invocations key = none)
    (goes : Run (ServiceStep K F channelKey) s later t) :
    t.invocations key = none ∧ ∀ event ∈ later, ¬ event.Writes key := by
  induction goes with
  | nil => exact ⟨idle, by simp⟩
  | @snoc t u later event first step ih =>
    obtain ⟨gone, quiet⟩ := ih
    obtain ⟨base, durable⟩ := host_durable (run_append reached first)
    obtain ⟨started, found, _⟩ := granted_started durable (granted_append events later inside)
    obtain ⟨next, silent⟩ := step_idle durable.sound (List.ne_nil_of_mem found) gone step
    refine ⟨next, ?_⟩
    intro e member
    rcases List.mem_append.mp member with member | member
    · exact quiet e member
    · exact List.mem_singleton.mp member ▸ silent

/-- However the sections of requests, the steps of invocations and crashes interleave, a record
that an overwrite is present is of an attempt whose start was recorded and whose file was seen with
the replacement, one that it is absent is of an attempt that never wrote, was never started, or
whose file was seen unchanged, and an attempt whose invocation is over is never written for again. -/
theorem evidence_truthful
    (reached : Run (ServiceStep K F channelKey) (Service.start contents) events s) :
    (∀ record ∈ s.host.journal.records,
      (record.kind = .present → Met K F channelKey contents events s
        (Replaced K record.key record.reconciliationKeyDigest)) ∧
      (record.kind = .absent → record.source = .execution →
        ∀ later t, Run (ServiceStep K F channelKey) s later t →
          ∀ event ∈ events ++ later, ¬ event.Writes record.key) ∧
      (record.kind = .absent → record.source = .reconciliation → Met K F channelKey contents events s
        (Spared K record.key record.reconciliationKeyDigest))) ∧
    ∀ key, s.invocations key = none → key ∈ granted events →
      ∀ later t, Run (ServiceStep K F channelKey) s later t →
        ∀ event ∈ later, ¬ event.Writes key := by
  have kept := run_kept reached
  constructor
  · intro record member
    have evidenced := kept.evidenced record member
    refine ⟨evidenced.present, ?_, evidenced.spared⟩
    intro absent source later t goes event written
    obtain ⟨inside, idle, quiet⟩ := evidenced.absent absent source
    rcases List.mem_append.mp written with earlier | after
    · exact quiet event earlier
    · exact (run_over reached inside idle goes).2 event after
  · intro key idle inside later t goes
    exact (run_over reached inside idle goes).2

end Runs

end CarsinOS.Recorder
