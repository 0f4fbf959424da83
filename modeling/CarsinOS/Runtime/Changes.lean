import CarsinOS.Runtime.Episodes

/-! What each call does to the episodes. -/
namespace CarsinOS.Runtime
open CarsinOS.Lib CarsinOS.Integrity CarsinOS.Receipt
open CarsinOS.Delegation (NewOutboxEvent requireText)

variable {C : Crates} {h h' : Hosting} {db db' : Db}

/-- Soundness speaks of the hosts by their records. -/
theorem Hosting.Sound.same_records (sound : h.Sound)
    (records : h'.episodes.map (·.record) = h.episodes.map (·.record))
    (finished : ∀ e ∈ h'.past, e.ended ≠ none) (running : ∀ e ∈ h'.live, e.ended = none)
    (stopped : ∀ e ∈ h'.episodes, e.actualState = .stopped ↔
      e.ended.map Prod.snd = some "host_state_stopped".toList) : h'.Sound := by
  have column : ∀ {α : Type} (f : RuntimeHostLeaseRecord → α),
      h'.episodes.map (fun e => f e.record) = h.episodes.map (fun e => f e.record) := by
    intro α f
    have mapped := congrArg (List.map f) records
    simpa only [List.map_map, Function.comp_def] using mapped
  constructor
  · exact finished
  · exact running
  · rw [column (·.generation)]
    exact sound.generations
  · rw [column (·.fencingToken)]
    exact sound.tokens
  · rw [column (·.hostInstanceId)]
    exact sound.hosts
  · intro e member
    have present : e.record ∈ h.episodes.map (·.record) := records ▸ List.mem_map_of_mem member
    obtain ⟨old, here, same⟩ := List.mem_map.mp present
    rw [← same]
    exact sound.named old here
  · exact stopped

/-- The live episode ends. -/
theorem Hosting.Sound.finish (sound : h.Sound) {e f : Episode} (here : h.live = some e)
    (record : f.record = e.record) (ended : f.ended ≠ none)
    (stopped : f.actualState = .stopped ↔
      f.ended.map Prod.snd = some "host_state_stopped".toList) :
    Sound ⟨h.past ++ [f], none⟩ := by
  apply sound.same_records
  · simp [episodes, here, record]
  · intro g member
    rcases List.mem_append.mp member with old | new
    · exact sound.finished g old
    · rw [List.mem_singleton.mp new]
      exact ended
  · simp
  · intro g member
    simp only [episodes, Option.toList_none, List.append_nil, List.mem_append,
      List.mem_singleton] at member
    rcases member with old | rfl
    · exact sound.stopped g (List.mem_append_left _ old)
    · exact stopped

/-- The live episode goes on. -/
theorem Hosting.Sound.advance (sound : h.Sound) {e f : Episode} (here : h.live = some e)
    (record : f.record = e.record) (running : f.ended = none) (going : f.actualState ≠ .stopped) :
    Sound ⟨h.past, some f⟩ := by
  apply sound.same_records
  · simp [episodes, here, record]
  · exact sound.finished
  · intro g member
    cases member
    exact running
  · intro g member
    simp only [episodes, Option.toList_some, List.mem_append, List.mem_singleton] at member
    rcases member with old | rfl
    · exact sound.stopped g (List.mem_append_left _ old)
    · simp [going, running]

/-- A live host has not stopped. -/
theorem Hosting.Sound.going (sound : h.Sound) {e : Episode} (here : h.live = some e) :
    e.actualState ≠ .stopped := by
  intro stopped
  have reason := (sound.stopped e (by simp [episodes, here])).mp stopped
  rw [sound.running e (by simp [here])] at reason
  cases reason

/-! The activation of a new host. -/

theorem nextNumber_ok {column : List Int} {n : Int} (done : nextNumber column = .ok n) :
    ∀ x ∈ column, x < n := by
  simp only [nextNumber, bind_ok, ensure_ok] at done
  obtain ⟨-, -, rest⟩ := done
  cases rest
  intro x member
  cases best : column.max? with
  | none =>
    rw [List.max?_eq_none_iff] at best
    rw [best] at member
    cases member
  | some top =>
    have below := (List.max?_eq_some_iff.mp best).2 x member
    rw [Option.getD_some]
    omega

/-- What an activated host begins with. -/
structure Begins (authority : ConfirmationAuthorityIdentity) (hostInstanceId : Text) (now : Int)
    (e : Episode) : Prop where
  host : e.record.hostInstanceId = hostInstanceId
  root : e.record.stateRootGeneration = authority.stateRootGeneration
  installation : e.installationIdentity = authority.installationIdentity
  osUser : e.osUserIdentityDigest = authority.osUserIdentityDigest
  starting : e.actualState = .starting
  running : e.ended = none
  lifetime : e.record.acquiredAt = now ∧ e.record.expiresAt = I64_MAX
  updated : e.updatedAt = now

/-- The tables of incidents and the journal. -/
def Db.incidents (db : Db) : Table RuntimePausedAttentionRecord.attentionId ×
    Table NewOutboxEvent.eventId × Table (fun row : RuntimeReceiptRow => row.command.receiptId) :=
  (db.attentionItems, db.outboxEvents, db.receipts)

theorem Recorded.of_eq {incidents : List Int} (recorded : Recorded incidents db)
    (same : db'.incidents = db.incidents) : Recorded incidents db' := by
  simp only [Db.incidents, Prod.mk.injEq] at same
  obtain ⟨attention, events, receipts⟩ := same
  obtain ⟨one, two, three⟩ := recorded
  constructor
  · rwa [attention]
  · rwa [events]
  · rwa [receipts]

theorem insertGeneration_ok {row : GenerationRow} (done : db.insertGeneration row = .ok db') :
    0 < row.stateRootGeneration ∧
      (∀ other ∈ db.generations.rows, other.hostInstanceId ≠ row.hostInstanceId) ∧
      ∃ generations, db.generations.insert? row = some generations ∧
        db' = { db with generations } := by
  simp only [Db.insertGeneration, bind_ok, ensure_ok] at done
  obtain ⟨-, root, -, fresh, rest⟩ := done
  split at rest
  · rename_i generations inserted
    cases rest
    exact ⟨root, fresh, generations, inserted, rfl⟩
  · cases rest

theorem insertLease_ok {row : LeaseRow} (done : db.insertLease row = .ok db') :
    0 < row.fencingToken ∧ ∃ leases, db.leases.insert? row = some leases ∧
      db' = { db with leases } := by
  simp only [Db.insertLease, bind_ok, ensure_ok] at done
  obtain ⟨-, token, -, -, -, -, -, -, rest⟩ := done
  split at rest
  · rename_i leases inserted
    cases rest
    exact ⟨token, leases, inserted, rfl⟩
  · cases rest

/-- A state row of a new key is inserted where it passes the checks. -/
theorem insertOrIgnoreState_ok {row : StateRow} (done : db.insertOrIgnoreState row = .ok db')
    (token : 0 < row.fencingToken) (root : 0 < row.stateRootGeneration) (updated : 0 < row.updatedAt)
    (fresh : ∀ other ∈ db.states.rows, other.key ≠ row.key) :
    ∃ states, states.rows = db.states.rows ++ [row] ∧ db' = { db with states } := by
  have passes : ¬(row.fencingToken ≤ 0 ∨ row.stateRootGeneration ≤ 0 ∨ row.updatedAt ≤ 0) := by
    omega
  simp only [Db.insertOrIgnoreState, passes, if_false] at done
  split at done
  · rename_i taken
    simp only [Table.insert?, dite_eq_right_iff, reduceCtorEq, imp_false, not_not,
      List.mem_map] at taken
    obtain ⟨other, member, same⟩ := taken
    exact absurd same (fresh other member)
  · rename_i states inserted
    simp only [bind_ok, ensure_ok] at done
    obtain ⟨-, -, rest⟩ := done
    cases rest
    exact ⟨states, Table.insert?_rows inserted, rfl⟩

/-- A state row that is there already is left alone. -/
theorem insertOrIgnoreState_taken {row : StateRow}
    (taken : ∃ other ∈ db.states.rows, other.key = row.key) :
    db.insertOrIgnoreState row = .ok db := by
  unfold Db.insertOrIgnoreState
  split
  · rfl
  · have refused : db.states.insert? row = none := by
      obtain ⟨other, member, same⟩ := taken
      simp only [Table.insert?, dite_eq_right_iff, reduceCtorEq, imp_false, not_not]
      exact same ▸ List.mem_map_of_mem member
    rw [refused]

theorem startGeneration_ok (held : Represents h db) (sound : h.Sound) (idle : h.live = none)
    {authority : ConfirmationAuthorityIdentity} {hostInstanceId : Text} {now : Int}
    (valid : trimChars hostInstanceId ≠ [] ∧ 0 < now ∧
      (authority.stateRootGeneration : Int) ≤ I64_MAX) {record : RuntimeHostLeaseRecord}
    (done : db.startGeneration C authority hostInstanceId now = .ok (record, db')) :
    ∃ e, e.record = record ∧ Begins authority hostInstanceId now e ∧
      (∀ old ∈ h.past, old.record.hostInstanceId ≠ hostInstanceId) ∧
      Represents ⟨h.past, some e⟩ db' ∧ Hosting.Sound ⟨h.past, some e⟩ ∧ db'.incidents = db.incidents := by
  have all : h.episodes = h.past := by simp [Hosting.episodes, idle]
  obtain ⟨named, positive, bounded⟩ := valid
  simp only [Db.startGeneration, bind_ok] at done
  obtain ⟨generation, numbered, token, counted, db₁, first, db₂, second, db₃, third, rest⟩ := done
  obtain ⟨same, rfl⟩ := Prod.mk.inj (Except.ok.inj rest)
  have later : ∀ old ∈ h.past, old.record.generation < generation := by
    intro old member
    apply nextNumber_ok numbered
    rw [held.generations, all, List.map_map]
    exact List.mem_map_of_mem (f := (fun g : GenerationRow => g.generation) ∘ _) member
  have above : ∀ old ∈ h.past, old.record.fencingToken < token := by
    intro old member
    apply nextNumber_ok counted
    rw [held.leases, all, List.map_map]
    exact List.mem_map_of_mem (f := (fun l : LeaseRow => l.fencingToken) ∘ _) member
  obtain ⟨root, unused, generations, inserted, rfl⟩ := insertGeneration_ok first
  obtain ⟨issued, leases, granted, rfl⟩ := insertLease_ok second
  have generationRows := Table.insert?_rows inserted
  have leaseRows := Table.insert?_rows granted
  obtain ⟨states, stateRows, rfl⟩ := insertOrIgnoreState_ok third issued root positive (by
    intro other member same
    rw [held.states, all] at member
    obtain ⟨old, past, rfl⟩ := List.mem_map.mp member
    exact (later old past).ne (Prod.mk.inj same).1)
  refine ⟨⟨record, authority.installationIdentity, authority.osUserIdentityDigest, .starting, now,
    none⟩, rfl, ?_, ?_, ?_, ?_, rfl⟩
  · subst same
    constructor <;> simp
  · intro old member
    apply unused old.generationRow
    rw [held.generations, all]
    exact List.mem_map_of_mem member
  · subst same
    constructor
    · rw [generationRows, held.generations, all]
      simp [Hosting.episodes, Episode.generationRow]
    · rw [leaseRows, held.leases, all]
      simp [Hosting.episodes, Episode.leaseRow]
    · rw [stateRows, held.states, all]
      simp [Hosting.episodes, Episode.stateRow]
  · obtain ⟨finished, -, generations', tokens, hosts, names, stopped⟩ := sound
    rw [all] at generations' tokens hosts names stopped
    subst same
    constructor
    · exact finished
    · simp
    · simp only [Hosting.episodes, Option.toList_some, List.map_append, List.pairwise_append]
      refine ⟨generations', by simp, ?_⟩
      simpa using later
    · simp only [Hosting.episodes, Option.toList_some, List.map_append, List.pairwise_append]
      refine ⟨tokens, by simp, ?_⟩
      simpa using above
    · simp only [Hosting.episodes, Option.toList_some, List.map_append, List.nodup_append]
      refine ⟨hosts, by simp, ?_⟩
      intro host old new fresh
      obtain ⟨e, past, rfl⟩ := List.mem_map.mp old
      simp only [List.map_cons, List.map_nil, List.mem_singleton] at fresh
      rw [fresh]
      apply unused e.generationRow
      rw [held.generations, all]
      exact List.mem_map_of_mem past
    · simp only [Hosting.episodes, Option.toList_some, List.mem_append, List.mem_singleton]
      rintro e (old | rfl)
      · exact names e old
      · exact ⟨named, bounded⟩
    · simp only [Hosting.episodes, Option.toList_some, List.mem_append, List.mem_singleton]
      rintro e (old | rfl)
      · exact stopped e old
      · simp

/-- The repeated activation reads the live host and writes nothing. -/
theorem replayActivation_ok (held : Represents h db) {e : Episode} (here : h.live = some e)
    {authority : ConfirmationAuthorityIdentity} {now : Int} {record : RuntimeHostLeaseRecord} :
    db.replayActivation authority
        (e.record, e.installationIdentity, e.osUserIdentityDigest) now = .ok (record, db') ↔
      (e.record.stateRootGeneration = authority.stateRootGeneration ∧
        e.installationIdentity = authority.installationIdentity ∧
        e.osUserIdentityDigest = authority.osUserIdentityDigest ∧ now < e.record.expiresAt) ∧
      e.record = record ∧ db = db' := by
  have kept : db.ensureRuntimeHostState e.record .starting now = .ok db := by
    apply insertOrIgnoreState_taken
    refine ⟨e.stateRow, ?_, rfl⟩
    simp [Represents.last here held.states]
  simp only [Db.replayActivation, bind_ok, ensure_ok, kept, Except.ok.injEq, Prod.mk.injEq]
  constructor
  · rintro ⟨-, valid, -, rfl, rfl, rfl⟩
    exact ⟨valid, rfl, rfl⟩
  · rintro ⟨valid, rfl, rfl⟩
    exact ⟨(), valid, db, rfl, rfl, rfl⟩

/-! The transitions of the live host. -/

/-- The moves of a host: it starts, runs in a mode, changes the mode through a handoff, drains and
stops, and may fault until it has stopped. -/
def Follows : RuntimeActualState → RuntimeActualState → Bool
  | .starting, .runningAppBound | .starting, .runningBackground => true
  | .handoff, .runningAppBound | .handoff, .runningBackground => true
  | .runningAppBound, .handoff | .runningBackground, .handoff => true
  | .starting, .draining | .runningAppBound, .draining | .handoff, .draining
  | .runningBackground, .draining => true
  | .draining, .stopped => true
  | .starting, .faulted | .runningAppBound, .faulted | .handoff, .faulted
  | .runningBackground, .faulted | .draining, .faulted => true
  | _, _ => false

theorem resolveTransition_follows {current next : RuntimeActualState}
    {desired : RuntimeDesiredMode} {transition : RuntimeHostTransition}
    {reason : RuntimeHostTransitionReason}
    (done : resolveTransition current desired transition = .ok (next, reason)) :
    Follows current next = true ∧ (next = .stopped ↔ transition = .completeStop) := by
  cases transition <;> cases current <;> cases desired <;>
    simp only [resolveTransition, bail, reduceCtorEq, Except.ok.injEq, Prod.mk.injEq] at done <;>
    obtain ⟨rfl, -⟩ := done <;> exact ⟨rfl, by simp⟩

/-- Any host that has not stopped or faulted may record a fault. -/
theorem resolveTransition_fault {current : RuntimeActualState} (going : current ≠ .stopped)
    (sane : current ≠ .faulted) (desired : RuntimeDesiredMode) :
    resolveTransition current desired .recordFault = .ok (.faulted, .hostFaultRecorded) := by
  cases current <;> first | rfl | contradiction

/-- The hosts after a transition of the live one. -/
def Hosting.after (h : Hosting) (e : Episode) (next : RuntimeActualState) (now : Int) : Hosting :=
  if next = .stopped then
    ⟨h.past ++ [(e.moved next now).finished now "host_state_stopped".toList], none⟩
  else ⟨h.past, some (e.moved next now)⟩

theorem Hosting.Sound.after (sound : h.Sound) {e : Episode} (here : h.live = some e)
    (next : RuntimeActualState) (now : Int) : (h.after e next now).Sound := by
  unfold Hosting.after
  split
  · rename_i stopped
    apply sound.finish here
    · rfl
    · simp [Episode.finished]
    · simp [Episode.finished, Episode.moved, stopped]
  · rename_i going
    apply sound.advance here
    · rfl
    · simp [Episode.moved, sound.running e (by simp [here])]
    · exact going

theorem completeStop_ok (held : Represents h db) (finished : ∀ e ∈ h.past, e.ended ≠ none)
    {e : Episode} (here : h.live = some e) (running : e.ended = none) {now : Int}
    (done : db.completeStop e.record now = .ok db') :
    Represents ⟨h.past ++ [e.finished now "host_state_stopped".toList], none⟩ db' ∧
      db'.incidents = db.incidents := by
  simp only [Db.completeStop, bind_ok, ensure_ok] at done
  obtain ⟨-, -, rest⟩ := done
  cases rest
  refine ⟨(close_represents held finished here running ?_ ?_ now _).2.2, rfl⟩
  · simp [Episode.leaseRow]
  · simp [Episode.generationRow]

/-- A transition succeeds for the live host alone, by a legal move of its clock and its state. -/
theorem transition_ok (held : Represents h db) (sound : h.Sound) {host : RuntimeHostLeaseRecord}
    {transition : RuntimeHostTransition} {now : Int} {outcome : RuntimeHostTransitionOutcome}
    (done : transitionRuntimeHost db host transition now = .ok (outcome, db')) :
    ∃ e next reason, h.live = some e ∧ e.record = host ∧
      resolveTransition e.actualState (db.loadDesiredMode.getD .appBound) transition =
        .ok (next, reason) ∧ outcome = ⟨e.actualState, next, reason⟩ ∧
      Represents (h.after e next now) db' ∧ db'.incidents = db.incidents := by
  simp only [transitionRuntimeHost, bind_ok, ensure_ok] at done
  obtain ⟨-, -, _, current, state, loaded, ⟨next, reason⟩, resolved, -, clock, -, updated, db₂, last,
    rest⟩ := done
  obtain ⟨rfl, rfl⟩ := Prod.mk.inj (Except.ok.inj rest)
  obtain ⟨e, here, rfl, -⟩ := (requireCurrent_iff held sound).mp current
  have running := sound.running e (by simp [here])
  rw [loadRuntimeHostState_eq held sound here] at loaded
  cases loaded
  refine ⟨e, next, reason, here, rfl, resolved, rfl, ?_⟩
  have moved := (update_represents (p := fun row => IsStateOf e.record row &&
    decide (row.updatedAt ≤ now)) held sound here ?_ ?_ next now).2
  · unfold Db.finishTransition at last
    unfold Hosting.after
    split at last
    · rename_i stopped
      rw [if_pos stopped]
      exact completeStop_ok moved sound.finished rfl running last
    · rename_i going
      rw [if_neg going]
      cases last
      exact ⟨moved, rfl⟩
  · simp only [IsStateOf, StateRow.key, Episode.stateRow, decide_true, Bool.true_and]
    exact decide_eq_true clock
  · intro row hit
    simp only [IsStateOf, StateRow.key, Bool.and_eq_true, decide_eq_true_eq, Prod.mk.injEq] at hit
    exact hit.1.1.1

/-- The live host may record a fault until it has one. -/
theorem transition_fault (held : Represents h db) (sound : h.Sound) {e : Episode}
    (here : h.live = some e) (sane : e.actualState ≠ .faulted) {now : Int} (positive : 0 < now)
    (clock : e.updatedAt ≤ now) (before : now < e.record.expiresAt) :
    ∃ db', transitionRuntimeHost db e.record .recordFault now =
        .ok (⟨e.actualState, .faulted, .hostFaultRecorded⟩, db') := by
  have current : db.requireCurrentRuntimeHost e.record now = .ok () :=
    (requireCurrent_iff held sound).mpr ⟨e, here, rfl, before⟩
  have resolved := resolveTransition_fault (sound.going here) sane
    (db.loadDesiredMode.getD .appBound)
  have moved := (update_represents (p := fun row => IsStateOf e.record row &&
    decide (row.updatedAt ≤ now)) held sound here ?_ ?_ .faulted now).1
  · refine ⟨(db.updateStates (fun row => IsStateOf e.record row && decide (row.updatedAt ≤ now))
      .faulted now).2, ?_⟩
    simp only [transitionRuntimeHost, ensure, positive, if_true, current,
      loadRuntimeHostState_eq held sound here, required, Episode.stateRow, resolved, clock, moved,
      Db.finishTransition, reduceCtorEq, if_false, ok_bind]
  · simp only [IsStateOf, StateRow.key, Episode.stateRow, decide_true, Bool.true_and]
    exact decide_eq_true clock
  · intro row hit
    simp only [IsStateOf, StateRow.key, Bool.and_eq_true, decide_eq_true_eq, Prod.mk.injEq] at hit
    exact hit.1.1.1

/-! The takeover with recovery. -/

/-- The interrupted predecessor. -/
def Episode.interrupt (e : Episode) (now : Int) (reason : Text) : Episode :=
  (if e.actualState = .faulted then e else e.moved .faulted now).finished now reason

theorem interruptionEndReason_ok {actualState : RuntimeActualState} {reason : Text}
    (done : interruptionEndReason actualState = .ok reason) (e : Episode) (now : Int) :
    (e.finished now reason).interrupted = true ∧ reason ≠ "host_state_stopped".toList := by
  cases actualState <;> simp only [interruptionEndReason, bail, reduceCtorEq] at done <;>
    cases done <;> exact ⟨by simp [Episode.interrupted, Episode.finished], by decide⟩

theorem faultPredecessor_ok (held : Represents h db) (sound : h.Sound) {e : Episode}
    (here : h.live = some e) {now : Int}
    (done : db.faultPredecessor e.record e.actualState now = .ok db') :
    Represents ⟨h.past, some (if e.actualState = .faulted then e else e.moved .faulted now)⟩ db' ∧
      db'.incidents = db.incidents ∧ db'.settings = db.settings := by
  unfold Db.faultPredecessor at done
  split at done
  · rename_i faulted
    cases done
    have same : (⟨h.past, some e⟩ : Hosting) = h := by rw [← here]
    rw [if_pos faulted, same]
    exact ⟨held, rfl, rfl⟩
  · rename_i sane
    simp only [bind_ok, ensure_ok] at done
    obtain ⟨-, changed, rest⟩ := done
    cases rest
    rw [if_neg sane]
    refine ⟨?_, rfl, rfl⟩
    by_cases clock : e.updatedAt ≤ now
    · refine (update_represents held sound here ?_ ?_ .faulted now).2
      · simp only [StateRow.key, Episode.stateRow, decide_true, Bool.true_and]
        exact decide_eq_true clock
      · intro row hit
        simp only [StateRow.key, Bool.and_eq_true, decide_eq_true_eq, Prod.mk.injEq] at hit
        exact hit.1.1.1
    · exfalso
      have missed : ∀ row ∈ db.states.rows,
          (decide (row.key = (e.record.generation, e.record.hostInstanceId, e.record.fencingToken)) &&
            decide (row.actualState = e.actualState) && decide (row.updatedAt ≤ now)) = false := by
        intro row member
        rw [Represents.last here held.states, List.mem_append, List.mem_singleton] at member
        rcases member with old | rfl
        · obtain ⟨past, before, rfl⟩ := List.mem_map.mp old
          have below := (sound.above here before).1
          simp [StateRow.key, Episode.stateRow, below.ne]
        · simp only [Episode.stateRow, Bool.and_eq_false_iff]
          exact .inr (decide_eq_false clock)
      have none : db.states.matched (fun row => decide (row.key = (e.record.generation,
          e.record.hostInstanceId, e.record.fencingToken)) &&
          decide (row.actualState = e.actualState) && decide (row.updatedAt ≤ now)) = 0 := by
        apply List.countP_eq_zero.mpr
        intro row member
        rw [missed row member]
        simp
      simp only [Db.updateStates, none] at changed
      omega

theorem interruptPredecessor_ok (held : Represents h db) (sound : h.Sound) {e : Episode}
    (here : h.live = some e) {now : Int} {reason : Text}
    (done : db.interruptPredecessor e.record e.actualState now = .ok (reason, db')) :
    interruptionEndReason e.actualState = .ok reason ∧
      Represents ⟨h.past ++ [e.interrupt now reason], none⟩ db' ∧
      db'.incidents = db.incidents ∧ db'.settings = db.settings := by
  simp only [Db.interruptPredecessor, bind_ok, ensure_ok] at done
  obtain ⟨found, resolved, db₁, first, -, -, rest⟩ := done
  obtain ⟨rfl, rfl⟩ := Prod.mk.inj (Except.ok.inj rest)
  obtain ⟨faulted, incidents, settings⟩ := faultPredecessor_ok held sound here first
  refine ⟨resolved, (close_represents faulted sound.finished rfl ?_ ?_ ?_ now found).2.2, incidents,
    settings⟩
  · split <;> exact sound.running e (by simp [here])
  · split <;> simp [Episode.leaseRow]
  · split <;> simp [Episode.generationRow]

/-- The tables of the hosts. -/
def Db.hosts (db : Db) : Table GenerationRow.generation × Table LeaseRow.leaseId ×
    Table StateRow.key :=
  (db.generations, db.leases, db.states)

theorem Represents.of_eq (held : Represents h db) (same : db'.hosts = db.hosts) :
    Represents h db' := by
  simp only [Db.hosts, Prod.mk.injEq] at same
  obtain ⟨generations, leases, states⟩ := same
  obtain ⟨one, two, three⟩ := held
  constructor
  · rwa [generations]
  · rwa [leases]
  · rwa [states]

theorem insertOutbox_ok {event : NewOutboxEvent} (done : db.insertOutbox event = .ok db') :
    ∃ outboxEvents, outboxEvents.rows = db.outboxEvents.rows ++ [event] ∧
      db' = { db with outboxEvents } := by
  simp only [Db.insertOutbox, bind_ok, ensure_ok] at done
  obtain ⟨-, -, -, -, rest⟩ := done
  split at rest
  · rename_i outboxEvents inserted
    cases rest
    exact ⟨outboxEvents, Table.insert?_rows inserted, rfl⟩
  · cases rest

theorem insertRuntimePausedAttention_ok {item : RuntimePausedAttentionRecord}
    (done : db.insertRuntimePausedAttention item = .ok db') :
    ∃ attentionItems, attentionItems.rows = db.attentionItems.rows ++ [item] ∧
      db' = { db with attentionItems } := by
  simp only [Db.insertRuntimePausedAttention, bind_ok, ensure_ok] at done
  obtain ⟨_, -, _, -, _, -, _, -, _, -, _, -, _, -, _, -, -, -, -, -, -, -, -, -, rest⟩ := done
  split at rest
  · rename_i attentionItems inserted
    cases rest
    exact ⟨attentionItems, Table.insert?_rows inserted, rfl⟩
  · cases rest

theorem appendRuntimeReceipt_ok {custody : Custody} {command : RuntimeReceiptCommand}
    (done : db.appendRuntimeReceipt C custody command = .ok db') :
    ∃ (receipts : Table fun row : RuntimeReceiptRow => row.command.receiptId)
      (row : RuntimeReceiptRow) (journal : JournalState),
      row.command = command ∧ receipts.rows = db.receipts.rows ++ [row] ∧
        db' = { db with receipts, journal } := by
  simp only [Db.appendRuntimeReceipt, bind_ok, ensure_ok] at done
  obtain ⟨_, -, -, -, -, -, sealed, -, -, -, rest⟩ := done
  split at rest
  · cases rest
  · rename_i receipts inserted
    cases rest
    exact ⟨receipts, _, _, rfl, Table.insert?_rows inserted, rfl⟩

/-- The interruption puts one event, one attention item and one receipt on record. -/
theorem recordInterruption_ok {custody : Custody} {key : Option ReceiptKeyRef}
    {actorIdentity summary : Text} {predecessor : RuntimeHostLeaseRecord}
    {actualState : RuntimeActualState} {endReason : Text} {successor : RuntimeHostLeaseRecord}
    {now : Int} {incidents : List Int} (recorded : Recorded incidents db)
    (done : db.recordInterruption C custody key actorIdentity summary predecessor actualState
      endReason successor now = .ok db') :
    Recorded (incidents ++ [predecessor.generation]) db' ∧ db'.hosts = db.hosts := by
  simp only [Db.recordInterruption, bind_ok] at done
  obtain ⟨activeWork, -, db₁, event, db₂, attention, key', -, receipt⟩ := done
  obtain ⟨outboxEvents, eventRows, rfl⟩ := insertOutbox_ok event
  obtain ⟨attentionItems, attentionRows, rfl⟩ := insertRuntimePausedAttention_ok attention
  obtain ⟨receipts, row, journal, subject, receiptRows, rfl⟩ := appendRuntimeReceipt_ok receipt
  obtain ⟨one, two, three⟩ := recorded
  refine ⟨⟨?_, ?_, ?_⟩, rfl⟩
  · rw [attentionRows, List.map_append, one]
    rfl
  · rw [eventRows, List.map_append, two]
    rfl
  · rw [receiptRows, List.map_append, three]
    simp [subject]

theorem incidents_append (past : List Episode) (live live' : Option Episode) {e : Episode} :
    Hosting.incidents ⟨past ++ [e], live⟩ = Hosting.incidents ⟨past, live'⟩ ++
      if e.interrupted = true then [e.record.generation] else [] := by
  simp only [Hosting.incidents, List.filter_append, List.map_append]
  congr 1
  cases hit : e.interrupted <;> simp [hit]

/-! The calls. -/

/-- The tables are those of sound hostings, and every interruption is on record. -/
structure Tracks (h : Hosting) (db : Db) : Prop where
  sound : h.Sound
  held : Represents h db
  recorded : Recorded h.incidents db

theorem empty_tracks : Tracks .empty .empty :=
  ⟨Hosting.empty_sound, empty_represents, empty_recorded⟩

/-- The host a call activates. -/
def Call.activates : Call → Option Text
  | .activate _ hostInstanceId _ | .activateWithRecovery _ _ hostInstanceId _ =>
    some hostInstanceId
  | _ => none

/-- A new host that has only begun. -/
structure Fresh (hostInstanceId : Text) (e : Episode) : Prop where
  host : e.record.hostInstanceId = hostInstanceId
  starting : e.actualState = .starting
  running : e.ended = none

/-- What a call does to the hosts. -/
inductive Change (h : Hosting) (db : Db) : Call → Anyhow Reply → Hosting → Db → Prop where
  | refused {call : Call} {failure : Failure} : Change h db call (.error failure) h db
  | configured {desired : RuntimeDesiredMode} : Change h db (.configure desired) (.ok .configured) h
      { db with settings := db.settings ++ [desired] }
  | repeated {call : Call} {e : Episode} (here : h.live = some e)
      (host : call.activates = some e.record.hostInstanceId) :
      Change h db call (.ok (.lease e.record)) h db
  | started {call : Call} {hostInstanceId : Text} {e : Episode} {db' : Db} (idle : h.live = none)
      (host : call.activates = some hostInstanceId) (fresh : Fresh hostInstanceId e) :
      Change h db call (.ok (.lease e.record)) ⟨h.past, some e⟩ db'
  | seized {authority : ConfirmationAuthorityIdentity} {hostInstanceId : Text} {now : Int}
      {p e : Episode} {db' : Db} (here : h.live = some p) (fresh : Fresh hostInstanceId e) :
      Change h db (.activate authority hostInstanceId now) (.ok (.lease e.record))
        ⟨h.past ++ [p.finished now "gateway_lock_takeover".toList], some e⟩ db'
  | recovered {custody : Custody} {authority : ConfirmationAuthorityIdentity}
      {hostInstanceId : Text} {now : Int} {p e : Episode} {reason : Text} {reply : Anyhow Reply}
      {db' : Db} (here : h.live = some p) (fresh : Fresh hostInstanceId e)
      (interrupted : interruptionEndReason p.actualState = .ok reason)
      (replied : ∀ answer, reply = .ok answer → answer = .lease e.record) :
      Change h db (.activateWithRecovery custody authority hostInstanceId now) reply
        ⟨h.past ++ [p.interrupt now reason], some e⟩ db'
  | moved {transition : RuntimeHostTransition} {now : Int} {p : Episode}
      {next : RuntimeActualState} {reason : RuntimeHostTransitionReason} {db' : Db}
      (here : h.live = some p) (follows : Follows p.actualState next = true)
      (stops : next = .stopped ↔ transition = .completeStop) :
      Change h db (.transition p.record transition now)
        (.ok (.moved ⟨p.actualState, next, reason⟩)) (h.after p next now) db'

theorem Begins.fresh {authority : ConfirmationAuthorityIdentity} {hostInstanceId : Text}
    {now : Int} {e : Episode} (begins : Begins authority hostInstanceId now e) :
    Fresh hostInstanceId e :=
  ⟨begins.host, begins.starting, begins.running⟩

theorem validateActivation_ok {rootIdentity : Text} {authority : ConfirmationAuthorityIdentity}
    {hostInstanceId : Text} {now : Int} {u : Unit}
    (valid : validateActivation rootIdentity authority hostInstanceId now = .ok u) :
    trimChars hostInstanceId ≠ [] ∧ 0 < now ∧ (authority.stateRootGeneration : Int) ≤ I64_MAX := by
  simp only [validateActivation, requireText, bind_ok, ensure_ok] at valid
  obtain ⟨-, named, -, positive, -, -, bounded⟩ := valid
  exact ⟨named, positive, bounded⟩

/-- A host activated where none is live. -/
theorem started_tracks (tracks : Tracks h db) (idle : h.live = none)
    {authority : ConfirmationAuthorityIdentity} {hostInstanceId : Text} {now : Int}
    (valid : trimChars hostInstanceId ≠ [] ∧ 0 < now ∧
      (authority.stateRootGeneration : Int) ≤ I64_MAX) {record : RuntimeHostLeaseRecord}
    (done : db.startGeneration C authority hostInstanceId now = .ok (record, db')) :
    ∃ e, e.record = record ∧ Fresh hostInstanceId e ∧ Tracks ⟨h.past, some e⟩ db' := by
  obtain ⟨e, same, begins, -, held, sound, incidents⟩ :=
    startGeneration_ok tracks.held tracks.sound idle valid done
  exact ⟨e, same, begins.fresh, sound, held, tracks.recorded.of_eq incidents⟩

/-- The live host gives way to nobody yet. -/
theorem over_tracks (tracks : Tracks h db) {p : Episode} (here : h.live = some p) (now : Int) :
    Tracks ⟨h.past ++ [p.finished now "gateway_lock_takeover".toList], none⟩
      (db.releasePredecessor p.record now) := by
  have running := tracks.sound.running p (by simp [here])
  refine ⟨?_, ?_, ?_⟩
  · apply tracks.sound.finish here
    · rfl
    · simp [Episode.finished]
    · have going := tracks.sound.going here
      simp [Episode.finished, going]
  · refine (close_represents tracks.held tracks.sound.finished here running ?_ ?_ now _).2.2
    · simp [Episode.leaseRow]
    · simp [Episode.generationRow]
  · rw [incidents_append h.past none h.live]
    have apart : (p.finished now "gateway_lock_takeover".toList).interrupted = false := by
      simp [Episode.interrupted, Episode.finished]
    rw [apart, if_neg (by simp), List.append_nil]
    exact tracks.recorded.of_eq rfl

theorem activateRuntimeHost_changes {rootIdentity : Text} {authority : ConfirmationAuthorityIdentity}
    {hostInstanceId : Text} {now : Int} {record : RuntimeHostLeaseRecord} (tracks : Tracks h db)
    (done : activateRuntimeHost C rootIdentity db authority hostInstanceId now =
      .ok (record, db')) :
    ∃ h', Change h db (.activate authority hostInstanceId now) (.ok (.lease record)) h' db' ∧
      Tracks h' db' := by
  simp only [activateRuntimeHost, bind_ok] at done
  obtain ⟨_, valid, rest⟩ := done
  have valid := validateActivation_ok valid
  rw [currentActivation_eq tracks.held tracks.sound] at rest
  cases here : h.live with
  | none =>
    rw [here] at rest
    obtain ⟨e, rfl, fresh, after⟩ := started_tracks tracks here valid rest
    exact ⟨_, .started here rfl fresh, after⟩
  | some p =>
    rw [here] at rest
    simp only [Option.map_some] at rest
    split at rest
    · rename_i same
      obtain ⟨-, rfl, rfl⟩ := (replayActivation_ok tracks.held here).mp rest
      exact ⟨h, .repeated here (by rw [same]; rfl), tracks⟩
    · obtain ⟨e, rfl, fresh, after⟩ :=
        started_tracks (over_tracks tracks here now) rfl valid rest
      exact ⟨_, .seized here fresh, after⟩

/-- The takeover from a live predecessor. -/
theorem takeOver_tracks (tracks : Tracks h db) {custody : Custody} {key : Option ReceiptKeyRef}
    {actorIdentity summary : Text} {authority : ConfirmationAuthorityIdentity} {p : Episode}
    (here : h.live = some p) {hostInstanceId : Text} {now : Int}
    (valid : trimChars hostInstanceId ≠ [] ∧ 0 < now ∧
      (authority.stateRootGeneration : Int) ≤ I64_MAX) {record : RuntimeHostLeaseRecord}
    (done : db.takeOver C custody key actorIdentity summary authority p.record hostInstanceId now =
      .ok (record, db')) :
    ∃ e reason, e.record = record ∧ Fresh hostInstanceId e ∧
      interruptionEndReason p.actualState = .ok reason ∧
      Tracks ⟨h.past ++ [p.interrupt now reason], some e⟩ db' := by
  simp only [Db.takeOver, bind_ok] at done
  obtain ⟨state, loaded, ⟨reason, db₁⟩, interrupt, ⟨successor, db₂⟩, start, db₃, incident, rest⟩ :=
    done
  obtain ⟨rfl, rfl⟩ := Prod.mk.inj (Except.ok.inj rest)
  rw [loadRuntimeHostState_eq tracks.held tracks.sound here] at loaded
  cases loaded
  obtain ⟨resolved, held, same, -⟩ := interruptPredecessor_ok tracks.held tracks.sound here interrupt
  obtain ⟨hit, differs⟩ := interruptionEndReason_ok resolved
    (if p.actualState = .faulted then p else p.moved .faulted now) now
  have sound : Hosting.Sound ⟨h.past ++ [p.interrupt now reason], none⟩ := by
    apply tracks.sound.finish here
    · unfold Episode.interrupt
      split <;> rfl
    · simp [Episode.interrupt, Episode.finished]
    · have going := tracks.sound.going here
      unfold Episode.interrupt
      split <;> simp only [Episode.finished, Episode.moved, Option.map_some, Option.some.injEq, going,
        differs, reduceCtorEq]
  obtain ⟨e, rfl, begins, -, held, sound, kept⟩ :=
    startGeneration_ok held sound rfl valid start
  have before : Recorded h.incidents db₂ := tracks.recorded.of_eq (kept.trans same)
  obtain ⟨recorded, hosts⟩ := recordInterruption_ok before incident
  refine ⟨e, reason, rfl, begins.fresh, resolved, sound, held.of_eq hosts, ?_⟩
  rw [incidents_append h.past (some e) h.live]
  have subject : (p.interrupt now reason).record = p.record := by
    unfold Episode.interrupt
    split <;> rfl
  have interrupted : (p.interrupt now reason).interrupted = true := hit
  rw [interrupted, if_pos rfl, subject]
  exact recorded

theorem activateWithRecovery_changes {rootIdentity : Text} {custody : Custody}
    {authority : ConfirmationAuthorityIdentity} {hostInstanceId : Text} {now : Int}
    {reply : Anyhow RuntimeHostLeaseRecord} (tracks : Tracks h db)
    (done : activateRuntimeHostWithRecovery C rootIdentity custody db authority hostInstanceId now =
      (reply, db')) :
    ∃ h', Change h db (.activateWithRecovery custody authority hostInstanceId now)
      (reply.map .lease) h' db' ∧ Tracks h' db' := by
  unfold activateRuntimeHostWithRecovery at done
  cases ran : activateInTransaction C rootIdentity custody db authority hostInstanceId now with
  | error failure =>
    rw [ran] at done
    obtain ⟨rfl, rfl⟩ := Prod.mk.inj done
    exact ⟨h, .refused, tracks⟩
  | ok result =>
    obtain ⟨record, appended, after⟩ := result
    rw [ran] at done
    simp only [activateInTransaction, bind_ok] at ran
    obtain ⟨_, valid, key, -, actorIdentity, -, summary, -, _, -, rest⟩ := ran
    have valid := validateActivation_ok valid
    rw [currentActivation_eq tracks.held tracks.sound] at rest
    cases here : h.live with
    | none =>
      rw [here] at rest
      simp only [Option.map_none, bind_ok] at rest
      obtain ⟨⟨successor, db₁⟩, start, rest⟩ := rest
      cases rest
      obtain ⟨rfl, rfl⟩ := Prod.mk.inj done
      obtain ⟨e, rfl, fresh, after⟩ := started_tracks tracks here valid start
      exact ⟨_, .started here rfl fresh, after⟩
    | some p =>
      rw [here] at rest
      simp only [Option.map_some] at rest
      split at rest
      · rename_i same
        simp only [bind_ok] at rest
        obtain ⟨⟨replayed, db₁⟩, replay, rest⟩ := rest
        cases rest
        obtain ⟨rfl, rfl⟩ := Prod.mk.inj done
        obtain ⟨-, rfl, rfl⟩ := (replayActivation_ok tracks.held here).mp replay
        exact ⟨h, .repeated here (by rw [same]; rfl), tracks⟩
      · simp only [bind_ok] at rest
        obtain ⟨⟨successor, db₁⟩, taken, rest⟩ := rest
        cases rest
        obtain ⟨e, reason, rfl, fresh, resolved, after⟩ :=
          takeOver_tracks tracks here valid taken
        dsimp only at done
        split at done
        · obtain ⟨rfl, rfl⟩ := Prod.mk.inj done
          exact ⟨_, .recovered here fresh resolved (by intro answer same; cases same), after⟩
        · obtain ⟨rfl, rfl⟩ := Prod.mk.inj done
          refine ⟨_, .recovered here fresh resolved ?_, after⟩
          intro answer same
          cases same
          rfl

/-- Every call makes one of the changes, and the tables go on tracking the hosts. -/
theorem serve_changes {rootIdentity : Text} {call : Call} {reply : Anyhow Reply}
    (tracks : Tracks h db) (served : serve C rootIdentity db call = (reply, db')) :
    ∃ h', Change h db call reply h' db' ∧ Tracks h' db' := by
  cases call with
  | activate authority hostInstanceId now =>
    simp only [serve] at served
    split at served
    · rename_i record after done
      obtain ⟨rfl, rfl⟩ := Prod.mk.inj served
      exact activateRuntimeHost_changes tracks done
    · obtain ⟨rfl, rfl⟩ := Prod.mk.inj served
      exact ⟨h, .refused, tracks⟩
  | activateWithRecovery custody authority hostInstanceId now =>
    simp only [serve] at served
    split at served
    · rename_i record after done
      obtain ⟨rfl, rfl⟩ := Prod.mk.inj served
      exact activateWithRecovery_changes tracks done
    · rename_i failure after done
      obtain ⟨rfl, rfl⟩ := Prod.mk.inj served
      exact activateWithRecovery_changes tracks done
  | transition host transition now =>
    simp only [serve] at served
    split at served
    · rename_i outcome after done
      obtain ⟨rfl, rfl⟩ := Prod.mk.inj served
      obtain ⟨p, next, reason, here, rfl, resolved, rfl, held, incidents⟩ :=
        transition_ok tracks.held tracks.sound done
      obtain ⟨follows, stops⟩ := resolveTransition_follows resolved
      refine ⟨_, .moved here follows stops, tracks.sound.after here next now, held, ?_⟩
      have same : (h.after p next now).incidents = h.incidents := by
        unfold Hosting.after
        split
        · rw [incidents_append h.past none h.live]
          simp [Episode.interrupted, Episode.finished, Hosting.incidents]
        · rfl
      rw [same]
      exact tracks.recorded.of_eq incidents
    · obtain ⟨rfl, rfl⟩ := Prod.mk.inj served
      exact ⟨h, .refused, tracks⟩
  | configure desired =>
    obtain ⟨rfl, rfl⟩ := Prod.mk.inj served
    refine ⟨h, .configured, tracks.sound, ?_, ?_⟩
    · exact tracks.held.of_eq rfl
    · exact tracks.recorded.of_eq rfl

end CarsinOS.Runtime
