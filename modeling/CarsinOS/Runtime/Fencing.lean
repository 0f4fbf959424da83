import CarsinOS.Lib.Run
import CarsinOS.Runtime.Changes

/-! The fencing of runtime hosts, over every sequence of calls by any hosts. -/
namespace CarsinOS.Runtime
open CarsinOS.Lib CarsinOS.Integrity CarsinOS.Receipt

/-- The host that makes a call. -/
def Call.actor : Call → Option Text
  | .transition host _ _ => some host.hostInstanceId
  | call => call.activates

/-- The leases that activations returned, the newest last. -/
def granted (calls : List (Call × Anyhow Reply)) : List RuntimeHostLeaseRecord :=
  calls.filterMap fun label => match label.2 with
    | .ok (.lease record) => some record
    | _ => none

/-- At most one lease is unreleased, and its generation is the only one not ended. -/
structure OneLive (db : Db) : Prop where
  leases : ∀ l ∈ db.leases.rows, ∀ l' ∈ db.leases.rows, l.releasedAt = none →
    l'.releasedAt = none → l = l'
  generations : ∀ g ∈ db.generations.rows, g.endedAt = none ↔ ∃ l ∈ db.leases.rows,
    l.releasedAt = none ∧ l.generation = g.generation ∧ l.hostInstanceId = g.hostInstanceId
  owned : ∀ l ∈ db.leases.rows, ∃ g ∈ db.generations.rows, g.generation = l.generation ∧
    g.hostInstanceId = l.hostInstanceId

/-- Two grants are of one lease, or of two hosts and the later one is above the earlier. -/
def GrantsIncrease (calls : List (Call × Anyhow Reply)) : Prop :=
  (granted calls).Pairwise fun first second => first = second ∨
    first.hostInstanceId ≠ second.hostInstanceId ∧ first.generation < second.generation ∧
      first.fencingToken < second.fencingToken

/-- A host whose lease was released changes nothing, a transition is that of the live lease, and the
states of released leases stay as they are. -/
structure StaleHostsSilent (C : Crates) (rootIdentity : Text) (db : Db) : Prop where
  released : ∀ call, (∃ l ∈ db.leases.rows, some l.hostInstanceId = call.actor ∧
    l.releasedAt ≠ none) → (serve C rootIdentity db call).2 = db
  exact' : ∀ host transition now, (¬∃ l ∈ db.leases.rows, l.releasedAt = none ∧
    l.leaseId = host.leaseId ∧ l.generation = host.generation ∧
    l.hostInstanceId = host.hostInstanceId ∧ l.fencingToken = host.fencingToken) →
    (serve C rootIdentity db (.transition host transition now)).2 = db
  frozen : ∀ call, ∀ row ∈ db.states.rows, (∃ l ∈ db.leases.rows,
    l.generation = row.generation ∧ l.releasedAt ≠ none) →
    row ∈ (serve C rootIdentity db call).2.states.rows

/-- Every call moves states along the edges, new hosts start, and the live host may fault. -/
structure StatesFollow (C : Crates) (rootIdentity : Text) (db : Db) : Prop where
  edges : ∀ call, ∀ row ∈ db.states.rows, ∃ row' ∈ (serve C rootIdentity db call).2.states.rows,
    row'.key = row.key ∧
      (row'.actualState = row.actualState ∨ Follows row.actualState row'.actualState = true)
  starting : ∀ call, ∀ row' ∈ (serve C rootIdentity db call).2.states.rows,
    (∃ row ∈ db.states.rows, row.key = row'.key) ∨ row'.actualState = .starting
  faults : ∀ record installation osUser, db.currentActivation = some (record, installation, osUser) →
    ∃ row, db.loadRuntimeHostState record = some row ∧ row.actualState ≠ .stopped ∧
      (row.actualState = .faulted ∨ ∀ now, 0 < now → row.updatedAt ≤ now → now < record.expiresAt →
        (serve C rootIdentity db (.transition record .recordFault now)).1 =
          .ok (.moved ⟨row.actualState, .faulted, .hostFaultRecorded⟩))

/-- A state is `stopped` exactly where a `CompleteStop` released its lease. -/
def StoppedByCompleteStop (calls : List (Call × Anyhow Reply)) (db : Db) : Prop :=
  ∀ row ∈ db.states.rows, row.actualState = .stopped ↔ ∃ host now outcome,
    (Call.transition host .completeStop now, .ok (.moved outcome)) ∈ calls ∧
      host.generation = row.generation ∧
      ∃ l ∈ db.leases.rows, l.generation = row.generation ∧ l.releasedAt = some now

/-- A call that activates the live host changes nothing; it returns the live lease or is refused,
and under the authority and within the time of the lease it is not refused. -/
structure ReactivationRepeats (C : Crates) (rootIdentity : Text) (db : Db) : Prop where
  unchanged : ∀ record installation osUser,
    db.currentActivation = some (record, installation, osUser) → ∀ call,
      call.activates = some record.hostInstanceId → (serve C rootIdentity db call).2 = db ∧
        ∀ answer, (serve C rootIdentity db call).1 = .ok answer → answer = .lease record
  repeats : ∀ record installation osUser,
    db.currentActivation = some (record, installation, osUser) →
      ∀ (root : Nat) (now : Int), (root : Int) = record.stateRootGeneration → 0 < now → now < record.expiresAt →
      serve C rootIdentity db (.activate ⟨rootIdentity, root, installation, osUser⟩
          record.hostInstanceId now) = (.ok (.lease record), db) ∧
        ∀ custody key actorIdentity summary, custody.currentAppendKey = .ok key →
          custody.actorIdentity = .ok actorIdentity → custody.receiptSummary = .ok summary →
          custody.appendAvailable = .ok () →
          serve C rootIdentity db (.activateWithRecovery custody
            ⟨rootIdentity, root, installation, osUser⟩ record.hostInstanceId now) =
            (.ok (.lease record), db)

/-- How often a generation is the subject of an attention item, of an event and of a receipt. -/
def Db.incidentCounts (db : Db) (generation : Int) : Nat × Nat × Nat :=
  (db.attentionItems.rows.countP (·.runtimeHostGeneration = generation),
    db.outboxEvents.rows.countP (·.aggregateRevision = generation),
    db.receipts.rows.countP (·.command.subjectGeneration = generation))

/-- A takeover with recovery puts its predecessor on record once, and nothing else does. -/
structure IncidentsRecorded (C : Crates) (rootIdentity : Text) (db : Db) : Prop where
  once : ∀ record installation osUser,
    db.currentActivation = some (record, installation, osUser) →
      ∀ custody authority hostInstanceId now, hostInstanceId ≠ record.hostInstanceId →
      ((serve C rootIdentity db
        (.activateWithRecovery custody authority hostInstanceId now)).2 = db ∧
        ∃ failure, (serve C rootIdentity db
          (.activateWithRecovery custody authority hostInstanceId now)).1 = .error failure) ∨
      db.incidentCounts record.generation = (0, 0, 0) ∧
        (serve C rootIdentity db (.activateWithRecovery custody authority hostInstanceId
          now)).2.incidentCounts record.generation = (1, 1, 1)
  subjects : ∀ g ∈ db.generations.rows, db.incidentCounts g.generation =
    if g.endReason = some "gateway_forced_exit_takeover".toList ∨
      g.endReason = some "gateway_fault_takeover".toList ∨
      g.endReason = some "gateway_drain_interrupted_takeover".toList then (1, 1, 1) else (0, 0, 0)

variable {C : Crates} {rootIdentity : Text} {h h' : Hosting} {db db' : Db}

/-! What the episodes say of the tables. -/

theorem Tracks.oneLive (tracks : Tracks h db) : OneLive db := by
  obtain ⟨sound, held, -⟩ := tracks
  have current : ∀ e ∈ h.episodes, e.ended = none → h.live = some e := by
    intro e member running
    rcases List.mem_append.mp member with past | here
    · exact absurd running (sound.finished e past)
    · exact Option.mem_toList.mp here
  constructor
  · intro l one l' two free free'
    rw [held.leases] at one two
    obtain ⟨e, member, rfl⟩ := List.mem_map.mp one
    obtain ⟨f, member', rfl⟩ := List.mem_map.mp two
    have here := current e member (by simpa [Episode.leaseRow] using free)
    have here' := current f member' (by simpa [Episode.leaseRow] using free')
    rw [Option.some.inj (here.symm.trans here')]
  · intro g member
    rw [held.generations] at member
    obtain ⟨e, present, rfl⟩ := List.mem_map.mp member
    constructor
    · intro running
      refine ⟨e.leaseRow, ?_, ?_, rfl, rfl⟩
      · rw [held.leases]
        exact List.mem_map_of_mem present
      · simpa [Episode.leaseRow, Episode.generationRow] using running
    · rintro ⟨l, lease, free, number, -⟩
      rw [held.leases] at lease
      obtain ⟨f, other, rfl⟩ := List.mem_map.mp lease
      have distinct := sound.generations.imp (fun below => below.ne)
      have same : f = e := List.inj_on_of_nodup_map distinct other present number
      subst same
      simpa [Episode.leaseRow, Episode.generationRow] using free
  · intro l lease
    rw [held.leases] at lease
    obtain ⟨e, present, rfl⟩ := List.mem_map.mp lease
    refine ⟨e.generationRow, ?_, rfl, rfl⟩
    rw [held.generations]
    exact List.mem_map_of_mem present

/-- A row of a released lease is that of a past episode. -/
theorem Tracks.past (tracks : Tracks h db) {l : LeaseRow} (member : l ∈ db.leases.rows)
    (released : l.releasedAt ≠ none) : ∃ e ∈ h.past, e.leaseRow = l := by
  rw [tracks.held.leases] at member
  obtain ⟨e, present, rfl⟩ := List.mem_map.mp member
  rcases List.mem_append.mp present with past | here
  · exact ⟨e, past, rfl⟩
  · have running := tracks.sound.running e (Option.mem_toList.mp here)
    simp [Episode.leaseRow, running] at released

/-- Past episodes stay as they are. -/
theorem Change.past_kept {call : Call} {reply : Anyhow Reply} (change : Change h db call reply h' db')
    {e : Episode} (member : e ∈ h.past) : e ∈ h'.past := by
  cases change with
  | refused => exact member
  | configured => exact member
  | repeated => exact member
  | started => exact member
  | seized => exact List.mem_append_left _ member
  | recovered => exact List.mem_append_left _ member
  | moved =>
    unfold Hosting.after
    split
    · exact List.mem_append_left _ member
    · exact member

/-- The hosts of the past do nothing. -/
theorem Change.stale {call : Call} {reply : Anyhow Reply} (change : Change h db call reply h' db')
    (sound : h.Sound) (after : h'.Sound) {e : Episode} (member : e ∈ h.past)
    (actor : some e.record.hostInstanceId = call.actor) : db' = db := by
  have unused : ∀ new : Episode, h'.live = some new → e ∈ h'.past →
      some new.record.hostInstanceId ≠ call.actor := by
    intro new here past same
    have apart := (after.above here past).2.2
    exact apart (Option.some.inj (actor.trans same.symm))
  have kept := change.past_kept member
  cases change with
  | refused => rfl
  | configured => cases actor
  | repeated => rfl
  | @started _ hostInstanceId _ _ idle host fresh =>
    have by' : call.actor = some hostInstanceId := by
      cases call <;> first | exact host | cases host
    exact absurd (by rw [by', fresh.host]) (unused _ rfl kept)
  | seized here fresh => exact absurd (by rw [fresh.host]; rfl) (unused _ rfl kept)
  | recovered here fresh => exact absurd (by rw [fresh.host]; rfl) (unused _ rfl kept)
  | moved here =>
    have apart := (sound.above here member).2.2
    exact absurd (Option.some.inj actor) apart

variable (C rootIdentity) in
theorem Tracks.served (tracks : Tracks h db) (call : Call) :
    ∃ h', Change h db call (serve C rootIdentity db call).1 h' (serve C rootIdentity db call).2 ∧
      Tracks h' (serve C rootIdentity db call).2 :=
  serve_changes tracks (Eq.refl (serve C rootIdentity db call))

theorem Tracks.serve_stale (tracks : Tracks h db) : StaleHostsSilent C rootIdentity db := by
  constructor
  · rintro call ⟨l, lease, actor, released⟩
    obtain ⟨h', change, after⟩ := tracks.served C rootIdentity call
    obtain ⟨e, past, rfl⟩ := tracks.past lease released
    exact change.stale tracks.sound after.sound past actor
  · intro host transition now missing
    obtain ⟨h', change, -⟩ := tracks.served C rootIdentity (.transition host transition now)
    generalize (serve C rootIdentity db (.transition host transition now)).1 = reply at change
    generalize (serve C rootIdentity db (.transition host transition now)).2 = after at change ⊢
    cases change with
    | refused => rfl
    | repeated _ host => cases host
    | started _ host => cases host
    | moved here =>
      rename_i p next reason stops follows
      refine absurd ⟨p.leaseRow, ?_, ?_, rfl, rfl, rfl, rfl⟩ missing
      · simp [Represents.last here tracks.held.leases]
      · simp [Episode.leaseRow, tracks.sound.running p (by simp [here])]
  · rintro call row member ⟨l, lease, number, released⟩
    obtain ⟨h', change, after⟩ := tracks.served C rootIdentity call
    obtain ⟨e, past, rfl⟩ := tracks.past lease released
    rw [tracks.held.states] at member
    obtain ⟨f, present, rfl⟩ := List.mem_map.mp member
    have distinct := tracks.sound.generations.imp (fun below => below.ne)
    have same : e = f :=
      List.inj_on_of_nodup_map distinct (List.mem_append_left _ past) present number
    subst same
    rw [after.held.states]
    exact List.mem_map_of_mem (List.mem_append_left _ (change.past_kept past))

/-! The states. -/

/-- What is left of a live episode after a call. -/
theorem Change.live_kept {call : Call} {reply : Anyhow Reply} (change : Change h db call reply h' db')
    {e : Episode} (here : h.live = some e) : ∃ f ∈ h'.episodes, f.record = e.record ∧
      (f.actualState = e.actualState ∨ Follows e.actualState f.actualState = true) := by
  have stays : e ∈ h.episodes := by simp [Hosting.episodes, here]
  cases change with
  | refused => exact ⟨e, stays, rfl, .inl rfl⟩
  | configured => exact ⟨e, stays, rfl, .inl rfl⟩
  | repeated => exact ⟨e, stays, rfl, .inl rfl⟩
  | started idle => cases idle.symm.trans here
  | @seized _ _ now _ _ _ other =>
    cases other.symm.trans here
    exact ⟨e.finished now "gateway_lock_takeover".toList, by simp [Hosting.episodes], rfl, .inl rfl⟩
  | @recovered _ _ _ now p _ reason _ _ other _ interrupted =>
    cases other.symm.trans here
    refine ⟨e.interrupt now reason, by simp [Hosting.episodes], ?_, ?_⟩
    · unfold Episode.interrupt
      split <;> rfl
    · unfold Episode.interrupt
      split
      · exact .inl rfl
      · rename_i sane
        right
        cases state : e.actualState <;> simp [state, interruptionEndReason, bail] at interrupted sane <;>
          simp [Episode.finished, Episode.moved, Follows]
  | @moved _ now _ next _ _ other follows =>
    cases other.symm.trans here
    unfold Hosting.after
    split
    · exact ⟨(e.moved next now).finished now "host_state_stopped".toList, by simp [Hosting.episodes],
        rfl, .inr follows⟩
    · exact ⟨e.moved next now, by simp [Hosting.episodes], rfl, .inr follows⟩

/-- A new episode begins at the start. -/
theorem Change.begins {call : Call} {reply : Anyhow Reply} (change : Change h db call reply h' db')
    {f : Episode} (member : f ∈ h'.episodes) :
    (∃ e ∈ h.episodes, e.record = f.record) ∨ f.actualState = .starting := by
  have old : f ∈ h.episodes → (∃ e ∈ h.episodes, e.record = f.record) ∨
      f.actualState = .starting := fun present => .inl ⟨f, present, rfl⟩
  cases change with
  | refused => exact old member
  | configured => exact old member
  | repeated => exact old member
  | started idle _ fresh =>
    simp only [Hosting.episodes, Option.toList_some, List.mem_append, List.mem_singleton] at member
    rcases member with past | rfl
    · exact old (List.mem_append_left _ past)
    · exact .inr fresh.starting
  | @seized _ _ _ p _ _ here fresh =>
    simp only [Hosting.episodes, Option.toList_some, List.mem_append, List.mem_singleton] at member
    rcases member with (past | rfl) | rfl
    · exact old (List.mem_append_left _ past)
    · exact .inl ⟨p, by simp [Hosting.episodes, here], rfl⟩
    · exact .inr fresh.starting
  | @recovered _ _ _ _ p _ _ _ _ here fresh =>
    simp only [Hosting.episodes, Option.toList_some, List.mem_append, List.mem_singleton] at member
    rcases member with (past | rfl) | rfl
    · exact old (List.mem_append_left _ past)
    · refine .inl ⟨p, by simp [Hosting.episodes, here], ?_⟩
      unfold Episode.interrupt
      split <;> rfl
    · exact .inr fresh.starting
  | @moved _ _ p _ _ _ here =>
    have kept : p ∈ h.episodes := by simp [Hosting.episodes, here]
    unfold Hosting.after at member
    split at member
    · simp only [Hosting.episodes, Option.toList_none, List.append_nil, List.mem_append,
        List.mem_singleton] at member
      rcases member with past | rfl
      · exact old (List.mem_append_left _ past)
      · exact .inl ⟨p, kept, rfl⟩
    · simp only [Hosting.episodes, Option.toList_some, List.mem_append, List.mem_singleton] at member
      rcases member with past | rfl
      · exact old (List.mem_append_left _ past)
      · exact .inl ⟨p, kept, rfl⟩

theorem key_eq {e f : Episode} (same : e.record = f.record) : e.stateRow.key = f.stateRow.key := by
  simp only [StateRow.key, Episode.stateRow, same]

theorem Tracks.current (tracks : Tracks h db) {record : RuntimeHostLeaseRecord}
    {installation osUser : Text} (found : db.currentActivation = some (record, installation, osUser)) :
    ∃ e, h.live = some e ∧ e.record = record ∧ e.installationIdentity = installation ∧
      e.osUserIdentityDigest = osUser := by
  rw [currentActivation_eq tracks.held tracks.sound, Option.map_eq_some_iff] at found
  obtain ⟨e, here, same⟩ := found
  obtain ⟨rfl, rfl, rfl⟩ := Prod.mk.inj same |>.imp_right Prod.mk.inj
  exact ⟨e, here, rfl, rfl, rfl⟩

theorem Tracks.serve_follows (tracks : Tracks h db) : StatesFollow C rootIdentity db := by
  constructor
  · intro call row member
    obtain ⟨h', change, after⟩ := tracks.served C rootIdentity call
    rw [tracks.held.states] at member
    obtain ⟨e, present, rfl⟩ := List.mem_map.mp member
    rw [after.held.states]
    rcases List.mem_append.mp present with past | live
    · have kept := List.mem_append_left h'.live.toList (change.past_kept past)
      exact ⟨e.stateRow, List.mem_map_of_mem kept, rfl, .inl rfl⟩
    · obtain ⟨f, kept, same, moves⟩ := change.live_kept (Option.mem_toList.mp live)
      exact ⟨f.stateRow, List.mem_map_of_mem kept, key_eq same, moves⟩
  · intro call row' member
    obtain ⟨h', change, after⟩ := tracks.served C rootIdentity call
    rw [after.held.states] at member
    obtain ⟨f, present, rfl⟩ := List.mem_map.mp member
    rcases change.begins present with ⟨e, old, same⟩ | starting
    · refine .inl ⟨e.stateRow, ?_, key_eq same⟩
      rw [tracks.held.states]
      exact List.mem_map_of_mem old
    · exact .inr starting
  · intro record installation osUser found
    obtain ⟨e, here, rfl, -, -⟩ := tracks.current found
    refine ⟨e.stateRow, loadRuntimeHostState_eq tracks.held tracks.sound here,
      tracks.sound.going here, ?_⟩
    by_cases faulted : e.actualState = .faulted
    · exact .inl faulted
    · right
      intro now positive clock before
      obtain ⟨after, done⟩ :=
        transition_fault tracks.held tracks.sound here faulted positive clock before
      simp only [serve, done]
      rfl

/-! The repeated activation. -/

theorem Tracks.serve_repeats (tracks : Tracks h db) : ReactivationRepeats C rootIdentity db := by
  constructor
  · intro record installation osUser found call actor
    obtain ⟨e, here, rfl, -, -⟩ := tracks.current found
    obtain ⟨h', change, after⟩ := tracks.served C rootIdentity call
    generalize (serve C rootIdentity db call).1 = reply at change ⊢
    generalize (serve C rootIdentity db call).2 = db' at change after ⊢
    have fresh : ∀ new : Episode, h'.live = some new → ∀ p ∈ h'.past, p.record = e.record →
        new.record.hostInstanceId ≠ e.record.hostInstanceId := by
      intro new live p past same
      rw [← same]
      exact fun alike => (after.sound.above live past).2.2 alike.symm
    cases change with
    | refused => exact ⟨rfl, fun answer same => by cases same⟩
    | configured => cases actor
    | repeated other =>
      cases other.symm.trans here
      exact ⟨rfl, fun answer same => (Except.ok.inj same).symm⟩
    | started idle => cases idle.symm.trans here
    | @seized _ _ now _ new _ other begun =>
      cases other.symm.trans here
      have apart := fresh new rfl _ (List.mem_append_right _ (List.mem_singleton.mpr rfl)) rfl
      exact absurd (begun.host.trans (Option.some.inj actor)) apart
    | @recovered _ _ _ now _ new reason _ _ other begun =>
      cases other.symm.trans here
      have record : (e.interrupt now reason).record = e.record := by
        unfold Episode.interrupt
        split <;> rfl
      have apart := fresh new rfl _ (List.mem_append_right _ (List.mem_singleton.mpr rfl)) record
      exact absurd (begun.host.trans (Option.some.inj actor)) apart
    | moved => cases actor
  · intro record installation osUser found root now same positive before
    obtain ⟨e, here, rfl, rfl, rfl⟩ := tracks.current found
    obtain ⟨named, bounded⟩ := tracks.sound.named e (by simp [Hosting.episodes, here])
    have valid : validateActivation rootIdentity
        ⟨rootIdentity, root, e.installationIdentity, e.osUserIdentityDigest⟩
        e.record.hostInstanceId now = .ok () := by
      simp [validateActivation, Delegation.requireText, ensure, named, positive, same, bounded]
    have replayed : db.replayActivation
        ⟨rootIdentity, root, e.installationIdentity, e.osUserIdentityDigest⟩
        (e.record, e.installationIdentity, e.osUserIdentityDigest) now = .ok (e.record, db) :=
      (replayActivation_ok tracks.held here).mpr ⟨⟨same.symm, rfl, rfl, before⟩, rfl, rfl⟩
    have done : activateRuntimeHost C rootIdentity db
        ⟨rootIdentity, root, e.installationIdentity, e.osUserIdentityDigest⟩
        e.record.hostInstanceId now = .ok (e.record, db) := by
      simp only [activateRuntimeHost, valid, ok_bind, found, if_true]
      exact replayed
    refine ⟨by simp only [serve, done], ?_⟩
    intro custody key actorIdentity summary keyed actor summarized available
    have ran : activateInTransaction C rootIdentity custody db
        ⟨rootIdentity, root, e.installationIdentity, e.osUserIdentityDigest⟩
        e.record.hostInstanceId now = .ok (e.record, none, db) := by
      simp only [activateInTransaction, valid, keyed, actor, summarized, available, ok_bind, found,
        if_true, replayed]
    simp only [serve, activateRuntimeHostWithRecovery, ran]

/-! The incidents. -/

theorem countP_column {ρ : Type} {rows : List ρ} {column : ρ → Int} {values : List Int}
    (held : rows.map column = values) (n : Int) :
    rows.countP (fun row => decide (column row = n)) = values.count n := by
  rw [← held, List.count, List.countP_map]
  rfl

theorem Recorded.counts {incidents : List Int} (recorded : Recorded incidents db) (n : Int) :
    db.incidentCounts n = (incidents.count n, incidents.count n, incidents.count n) := by
  simp only [Db.incidentCounts, countP_column recorded.attention n, countP_column recorded.events n,
    countP_column recorded.receipts n]

/-- The generation of an episode is an incident exactly where the episode was interrupted. -/
theorem Hosting.Sound.incident_count (sound : h.Sound) {e : Episode} (member : e ∈ h.episodes) :
    h.incidents.count e.record.generation = if e.interrupted = true then 1 else 0 := by
  have distinct : (h.episodes.map (·.record.generation)).Nodup :=
    sound.generations.imp (fun below => below.ne)
  have known : ∀ f ∈ h.episodes, f.record.generation = e.record.generation → f = e :=
    fun f present same => List.inj_on_of_nodup_map distinct present member same
  split
  · rename_i hit
    have past : e ∈ h.past := by
      rcases List.mem_append.mp member with past | here
      · exact past
      · have running := sound.running e (Option.mem_toList.mp here)
        simp [Episode.interrupted, running] at hit
    have single : h.incidents.Nodup := by
      apply List.Nodup.sublist _ distinct
      apply List.Sublist.map
      exact List.filter_sublist.trans (List.sublist_append_left _ _)
    apply List.count_eq_one_of_mem single
    exact List.mem_map_of_mem (List.mem_filter.mpr ⟨past, hit⟩)
  · rename_i missed
    apply List.count_eq_zero_of_not_mem
    intro present
    obtain ⟨f, kept, same⟩ := List.mem_map.mp present
    obtain ⟨past, hit⟩ := List.mem_filter.mp kept
    rw [known f (List.mem_append_left _ past) same] at hit
    exact missed hit

theorem interrupted_iff (e : Episode) : e.interrupted = true ↔
    e.generationRow.endReason = some "gateway_forced_exit_takeover".toList ∨
      e.generationRow.endReason = some "gateway_fault_takeover".toList ∨
      e.generationRow.endReason = some "gateway_drain_interrupted_takeover".toList := by
  unfold Episode.interrupted Episode.generationRow
  split
  · rename_i running
    simp [running]
  · rename_i at' reason ended
    simp only [ended, Option.map_some, Option.some.injEq, Bool.or_eq_true, decide_eq_true_eq,
      or_assoc]

theorem Tracks.serve_records (tracks : Tracks h db) : IncidentsRecorded C rootIdentity db := by
  constructor
  · intro record installation osUser found custody authority hostInstanceId now differs
    obtain ⟨e, here, rfl, -, -⟩ := tracks.current found
    obtain ⟨h', change, after⟩ := tracks.served C rootIdentity
      (.activateWithRecovery custody authority hostInstanceId now)
    generalize serve C rootIdentity db
      (.activateWithRecovery custody authority hostInstanceId now) = result at change after ⊢
    obtain ⟨reply, db'⟩ := result
    dsimp only at change after ⊢
    cases change with
    | refused => exact .inl ⟨rfl, _, rfl⟩
    | repeated other host =>
      cases other.symm.trans here
      exact absurd (Option.some.inj host) differs
    | started idle => cases idle.symm.trans here
    | @recovered _ _ _ _ _ new reason _ _ other _ interrupted =>
      cases other.symm.trans here
      right
      have live : e.interrupted = false := by
        simp [Episode.interrupted, tracks.sound.running e (by simp [here])]
      have record : (e.interrupt now reason).record = e.record := by
        unfold Episode.interrupt
        split <;> rfl
      have hit : (e.interrupt now reason).interrupted = true :=
        (interruptionEndReason_ok interrupted _ now).1
      have before := tracks.sound.incident_count (e := e) (by simp [Hosting.episodes, here])
      have later := after.sound.incident_count (e := e.interrupt now reason)
        (by simp [Hosting.episodes])
      rw [record, hit, if_pos rfl] at later
      rw [live, if_neg (by simp)] at before
      rw [tracks.recorded.counts, after.recorded.counts, before, later]
      exact ⟨rfl, rfl⟩
  · intro g member
    rw [tracks.held.generations] at member
    obtain ⟨e, present, rfl⟩ := List.mem_map.mp member
    have count := tracks.sound.incident_count present
    have number : e.generationRow.generation = e.record.generation := rfl
    rw [number, tracks.recorded.counts, count]
    simp only [interrupted_iff]
    split <;> rfl

/-! The history of the calls. -/

/-- What the calls so far have to do with the hosts. -/
structure Told (calls : List (Call × Anyhow Reply)) (h : Hosting) : Prop where
  increase : GrantsIncrease calls
  known : ∀ record ∈ granted calls, ∃ e ∈ h.episodes, e.record = record
  stopped : ∀ e ∈ h.episodes, e.actualState = .stopped → ∃ now outcome,
    (Call.transition e.record .completeStop now, .ok (.moved outcome)) ∈ calls ∧
      e.ended.map Prod.fst = some now
  stops : ∀ host now outcome, (Call.transition host .completeStop now, .ok (.moved outcome)) ∈ calls →
    ∃ e ∈ h.episodes, e.record = host ∧ e.actualState = .stopped

theorem granted_append (calls : List (Call × Anyhow Reply)) (call : Call) (reply : Anyhow Reply) :
    granted (calls ++ [(call, reply)]) = granted calls ++ granted [(call, reply)] :=
  List.filterMap_append

theorem granted_single {R : RuntimeHostLeaseRecord → RuntimeHostLeaseRecord → Prop} (call : Call)
    (reply : Anyhow Reply) : (granted [(call, reply)]).Pairwise R := by
  cases reply with
  | error failure => exact List.Pairwise.nil
  | ok answer => cases answer <;> simp [granted]

theorem mem_granted {call : Call} {reply : Anyhow Reply} {record : RuntimeHostLeaseRecord}
    (member : record ∈ granted [(call, reply)]) : reply = .ok (.lease record) := by
  obtain ⟨label, here, hit⟩ := List.mem_filterMap.mp member
  rw [List.mem_singleton.mp here] at hit
  cases reply with
  | error failure => cases hit
  | ok answer =>
    cases answer with
    | lease r =>
      cases hit
      rfl
    | moved _ => cases hit
    | configured => cases hit

/-- A granted lease is that of the live host. -/
theorem Change.grants {call : Call} {record : RuntimeHostLeaseRecord}
    (change : Change h db call (.ok (.lease record)) h' db') :
    ∃ e, h'.live = some e ∧ e.record = record := by
  cases change with
  | repeated here => exact ⟨_, here, rfl⟩
  | started => exact ⟨_, rfl, rfl⟩
  | seized => exact ⟨_, rfl, rfl⟩
  | recovered _ _ _ replied =>
    cases replied _ rfl
    exact ⟨_, rfl, rfl⟩

theorem Change.records_kept {call : Call} {reply : Anyhow Reply}
    (change : Change h db call reply h' db') {e : Episode} (member : e ∈ h.episodes) :
    ∃ f ∈ h'.episodes, f.record = e.record := by
  rcases List.mem_append.mp member with past | live
  · exact ⟨e, List.mem_append_left _ (change.past_kept past), rfl⟩
  · obtain ⟨f, kept, same, -⟩ := change.live_kept (Option.mem_toList.mp live)
    exact ⟨f, kept, same⟩

/-- Only a `CompleteStop` stops a host. -/
theorem Change.stops {call : Call} {reply : Anyhow Reply} (change : Change h db call reply h' db')
    (sound : h.Sound) {e : Episode} (member : e ∈ h'.episodes) (stopped : e.actualState = .stopped) :
    e ∈ h.episodes ∨ ∃ now outcome, call = .transition e.record .completeStop now ∧
      reply = .ok (.moved outcome) ∧ e.ended.map Prod.fst = some now := by
  cases change with
  | refused => exact .inl member
  | configured => exact .inl member
  | repeated => exact .inl member
  | started _ _ fresh =>
    simp only [Hosting.episodes, Option.toList_some, List.mem_append, List.mem_singleton] at member
    rcases member with past | rfl
    · exact .inl (List.mem_append_left _ past)
    · cases fresh.starting.symm.trans stopped
  | seized here fresh =>
    simp only [Hosting.episodes, Option.toList_some, List.mem_append, List.mem_singleton] at member
    rcases member with (past | rfl) | rfl
    · exact .inl (List.mem_append_left _ past)
    · have going := sound.going here
      exact absurd stopped going
    · cases fresh.starting.symm.trans stopped
  | recovered here fresh =>
    simp only [Hosting.episodes, Option.toList_some, List.mem_append, List.mem_singleton] at member
    rcases member with (past | rfl) | rfl
    · exact .inl (List.mem_append_left _ past)
    · unfold Episode.interrupt at stopped
      split at stopped
      · have going := sound.going here
        exact absurd stopped going
      · cases stopped
    · cases fresh.starting.symm.trans stopped
  | @moved _ now p _ _ _ here _ stops =>
    unfold Hosting.after at member
    split at member
    · rename_i next
      simp only [Hosting.episodes, Option.toList_none, List.append_nil, List.mem_append,
        List.mem_singleton] at member
      rcases member with past | rfl
      · exact .inl (List.mem_append_left _ past)
      · exact .inr ⟨now, _, by rw [stops.mp next]; rfl, rfl, rfl⟩
    · rename_i going
      simp only [Hosting.episodes, Option.toList_some, List.mem_append, List.mem_singleton] at member
      rcases member with past | rfl
      · exact .inl (List.mem_append_left _ past)
      · exact absurd stopped going

/-- A `CompleteStop` that was accepted stopped its host. -/
theorem Change.stopped {host : RuntimeHostLeaseRecord} {now : Int}
    {outcome : RuntimeHostTransitionOutcome}
    (change : Change h db (.transition host .completeStop now) (.ok (.moved outcome)) h' db') :
    ∃ e ∈ h'.episodes, e.record = host ∧ e.actualState = .stopped := by
  cases change with
  | @moved _ _ p next _ _ here _ stops =>
    have final : next = .stopped := stops.mpr rfl
    refine ⟨(p.moved next now).finished now "host_state_stopped".toList, ?_, rfl, final⟩
    unfold Hosting.after
    rw [if_pos final]
    simp [Hosting.episodes]

theorem told_step {calls : List (Call × Anyhow Reply)} {call : Call} {reply : Anyhow Reply}
    (told : Told calls h) (sound : h.Sound) (change : Change h db call reply h' db')
    (after : h'.Sound) : Told (calls ++ [(call, reply)]) h' := by
  obtain ⟨increase, known, stopped, stops⟩ := told
  constructor
  · rw [GrantsIncrease, granted_append, List.pairwise_append]
    refine ⟨increase, granted_single call reply, ?_⟩
    intro old before new now
    obtain ⟨e, live, rfl⟩ := (mem_granted now ▸ change).grants
    obtain ⟨f, member, rfl⟩ := known old before
    obtain ⟨f', kept, same⟩ := change.records_kept member
    rw [← same]
    rcases List.mem_append.mp kept with past | here
    · obtain ⟨generation, token, host⟩ := after.above live past
      exact .inr ⟨host, generation, token⟩
    · cases live.symm.trans (Option.mem_toList.mp here)
      exact .inl rfl
  · intro record member
    rw [granted_append, List.mem_append] at member
    rcases member with old | new
    · obtain ⟨e, present, rfl⟩ := known record old
      exact change.records_kept present
    · obtain ⟨e, live, same⟩ := (mem_granted new ▸ change).grants
      exact ⟨e, by simp [Hosting.episodes, live], same⟩
  · intro e member final
    rcases change.stops sound member final with old | ⟨now, outcome, rfl, rfl, ended⟩
    · obtain ⟨now, outcome, recorded, ended⟩ := stopped e old final
      exact ⟨now, outcome, List.mem_append_left _ recorded, ended⟩
    · exact ⟨now, outcome, by simp, ended⟩
  · intro host now outcome member
    rw [List.mem_append, List.mem_singleton] at member
    rcases member with old | new
    · obtain ⟨e, present, same, final⟩ := stops host now outcome old
      rcases List.mem_append.mp present with past | live
      · exact ⟨e, List.mem_append_left _ (change.past_kept past), same, final⟩
      · exact absurd final (sound.going (Option.mem_toList.mp live))
    · obtain ⟨rfl, rfl⟩ := Prod.mk.inj new
      exact change.stopped

theorem empty_told : Told [] .empty := by
  constructor <;> simp [GrantsIncrease, granted, Hosting.empty, Hosting.episodes]

/-- Every run of calls is told by the hosts its tables track. -/
theorem run_told {calls : List (Call × Anyhow Reply)}
    (reached : Run (HostStep C rootIdentity) .empty calls db) :
    ∃ h, Tracks h db ∧ Told calls h := by
  refine @run_history _ _ _ (fun calls db => ∃ h, Tracks h db ∧ Told calls h) ?_ _ _ _ ?_ reached
  · rintro calls db ⟨call, reply⟩ db' ⟨h, tracks, told⟩ served
    obtain ⟨h', change, after⟩ := serve_changes tracks served
    exact ⟨h', after, told_step told tracks.sound change after.sound⟩
  · exact ⟨.empty, empty_tracks, empty_told⟩

theorem Told.byCompleteStop {calls : List (Call × Anyhow Reply)} (told : Told calls h)
    (tracks : Tracks h db) : StoppedByCompleteStop calls db := by
  intro row member
  rw [tracks.held.states] at member
  obtain ⟨e, present, rfl⟩ := List.mem_map.mp member
  have final : ∀ now, e.ended.map Prod.fst = some now →
      ∃ l ∈ db.leases.rows, l.generation = e.record.generation ∧ l.releasedAt = some now := by
    intro now ended
    refine ⟨e.leaseRow, ?_, rfl, ended⟩
    rw [tracks.held.leases]
    exact List.mem_map_of_mem present
  constructor
  · intro stopped
    obtain ⟨now, outcome, recorded, ended⟩ := told.stopped e present stopped
    exact ⟨e.record, now, outcome, recorded, rfl, final now ended⟩
  · rintro ⟨host, now, outcome, recorded, number, -⟩
    obtain ⟨f, other, rfl, stopped⟩ := told.stops host now outcome recorded
    have distinct := tracks.sound.generations.imp (fun below => below.ne)
    have same : f = e := List.inj_on_of_nodup_map distinct other present number
    subst same
    exact stopped

/-- Runtime hosts are fenced over every run of calls by any hosts. -/
theorem runtime_host_fenced {calls : List (Call × Anyhow Reply)}
    (reached : Run (HostStep C rootIdentity) .empty calls db) :
    OneLive db ∧ GrantsIncrease calls ∧ StaleHostsSilent C rootIdentity db ∧
      StatesFollow C rootIdentity db ∧ StoppedByCompleteStop calls db ∧
      ReactivationRepeats C rootIdentity db ∧ IncidentsRecorded C rootIdentity db := by
  obtain ⟨h, tracks, told⟩ := run_told reached
  exact ⟨tracks.oneLive, told.increase, tracks.serve_stale, tracks.serve_follows,
    told.byCompleteStop tracks, tracks.serve_repeats, tracks.serve_records⟩

/-- The calls made one after the other, each with what it returned. -/
def perform (C : Crates) (rootIdentity : Text) (db : Db) :
    List Call → List (Call × Anyhow Reply) × Db
  | [] => ([], db)
  | call :: calls =>
    let (reply, next) := serve C rootIdentity db call
    let (labels, last) := perform C rootIdentity next calls
    ((call, reply) :: labels, last)

theorem perform_run (C : Crates) (rootIdentity : Text) (db : Db) (calls : List Call) :
    Run (HostStep C rootIdentity) db (perform C rootIdentity db calls).1
      (perform C rootIdentity db calls).2 := by
  induction calls generalizing db with
  | nil => exact .nil db
  | cons call calls ih =>
    have first : Run (HostStep C rootIdentity) db [(call, (serve C rootIdentity db call).1)]
        (serve C rootIdentity db call).2 := (Run.nil db).snoc rfl
    exact run_append first (ih _)

def sampleRoot : Text := "root".toList

def sampleAuthority (osUser : String) : ConfirmationAuthorityIdentity :=
  ⟨sampleRoot, 1, "installation".toList, osUser.toList⟩

def sampleCustody : Custody where
  redaction := ⟨id, fun c => [c]⟩
  currentAppendKey := .ok (some ⟨"key".toList, 1⟩)
  actorIdentity := .ok "execass-global-control".toList
  receiptSummary := .ok "ExecAss runtime stopped unexpectedly.".toList
  appendAvailable := .ok ()
  activeWork := .ok (2, "sha256:".toList ++ List.replicate 64 'a')
  sealReceipt _ _ := .ok ⟨[], List.replicate 64 'd', "tag".toList, none⟩
  finalizeAnchor _ := .ok ()

def sampleHost (name : String) (generation now : Int) : RuntimeHostLeaseRecord :=
  ⟨runtimeLeaseId asciiCrates name.toList generation generation, 1, generation, name.toList,
    generation, now, I64_MAX⟩

/-- A host that runs, its takeover with recovery, the stop of its successor and a third host. -/
def sampleCalls : List Call := [
  .activate (sampleAuthority "owner") "first".toList 10,
  .transition (sampleHost "first" 1 10) .reachDesiredMode 11,
  .activateWithRecovery sampleCustody (sampleAuthority "owner") "second".toList 20,
  .transition (sampleHost "first" 1 10) .beginDrain 21,
  .transition (sampleHost "second" 2 20) .beginDrain 22,
  .transition (sampleHost "second" 2 20) .completeStop 23,
  .activate (sampleAuthority "owner") "third".toList 30]

theorem runtime_host_fenced_sample :
    ((perform asciiCrates sampleRoot .empty sampleCalls).2.incidentCounts 1 = (1, 1, 1) ∧
      (perform asciiCrates sampleRoot .empty sampleCalls).2.states.rows.map (·.actualState) =
        [.faulted, .stopped, .starting]) ∧
    OneLive (perform asciiCrates sampleRoot .empty sampleCalls).2 ∧ StoppedByCompleteStop
      (perform asciiCrates sampleRoot .empty sampleCalls).1
      (perform asciiCrates sampleRoot .empty sampleCalls).2 := by
  have fenced := runtime_host_fenced (perform_run asciiCrates sampleRoot .empty sampleCalls)
  obtain ⟨live, -, -, -, stopped, -, -⟩ := fenced
  have counted : (perform asciiCrates sampleRoot .empty sampleCalls).2.incidentCounts 1 = (1, 1, 1) ∧
      (perform asciiCrates sampleRoot .empty sampleCalls).2.states.rows.map (·.actualState) =
        [.faulted, .stopped, .starting] := by
    simp only [sampleCalls, sampleHost, asciiCrates_fast]
    decide +kernel
  exact ⟨counted, live, stopped⟩

/-- A host that changes its mode. -/
def sampleHandoff : List Call := [
  .activate (sampleAuthority "owner") "first".toList 10,
  .transition (sampleHost "first" 1 10) .reachDesiredMode 11,
  .configure .background,
  .transition (sampleHost "first" 1 10) .beginHandoff 12]

def handoffDb : Db := (perform asciiCrates sampleRoot .empty sampleHandoff).2

/-- The live host is refused under another owner, and it runs again after a handoff. -/
theorem reactivation_refused_sample :
    Run (HostStep asciiCrates sampleRoot) .empty
      (perform asciiCrates sampleRoot .empty sampleHandoff).1 handoffDb ∧
    handoffDb.currentActivation =
      some (sampleHost "first" 1 10, "installation".toList, "owner".toList) ∧
    (serve asciiCrates sampleRoot handoffDb
      (.activate (sampleAuthority "another") "first".toList 13)).1 ≠
        .ok (.lease (sampleHost "first" 1 10)) ∧
    (serve asciiCrates sampleRoot handoffDb
      (.transition (sampleHost "first" 1 10) .reachDesiredMode 13)).1 =
        .ok (.moved ⟨.handoff, .runningBackground, .desiredModeReached⟩) :=
  ⟨perform_run asciiCrates sampleRoot .empty sampleHandoff, by decide +kernel⟩

end CarsinOS.Runtime
