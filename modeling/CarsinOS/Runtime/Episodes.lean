import CarsinOS.Runtime.Host

/-! The hosts behind the tables: one episode for each host that was activated, all over but the
newest, and what each statement does to them. -/
namespace CarsinOS.Runtime
open CarsinOS.Lib CarsinOS.Integrity CarsinOS.Receipt
open CarsinOS.Delegation (NewOutboxEvent requireText)

/-- The time of one host as the runtime host. -/
structure Episode where
  record : RuntimeHostLeaseRecord
  installationIdentity : Text
  osUserIdentityDigest : Text
  actualState : RuntimeActualState
  updatedAt : Int
  ended : Option (Int × Text)

namespace Episode

def generationRow (e : Episode) : GenerationRow :=
  ⟨e.record.generation, e.record.stateRootGeneration, e.installationIdentity,
    e.osUserIdentityDigest, e.record.hostInstanceId, e.record.acquiredAt, e.ended.map Prod.fst,
    e.ended.map Prod.snd⟩

def leaseRow (e : Episode) : LeaseRow :=
  ⟨e.record.leaseId, e.record.generation, e.record.hostInstanceId, e.record.fencingToken,
    e.record.acquiredAt, e.record.expiresAt, e.ended.map Prod.fst⟩

def stateRow (e : Episode) : StateRow :=
  ⟨e.record.generation, e.record.hostInstanceId, e.record.fencingToken,
    e.record.stateRootGeneration, e.actualState, e.updatedAt⟩

def finished (e : Episode) (now : Int) (reason : Text) : Episode := { e with ended := some (now, reason) }

def moved (e : Episode) (actualState : RuntimeActualState) (now : Int) : Episode :=
  { e with actualState := actualState, updatedAt := now }

/-- Whether a takeover with recovery ended it. -/
def interrupted (e : Episode) : Bool :=
  match e.ended with
  | none => false
  | some (_, reason) => reason = "gateway_forced_exit_takeover".toList ||
      reason = "gateway_fault_takeover".toList ||
      reason = "gateway_drain_interrupted_takeover".toList

@[simp] theorem over_record (e : Episode) (now : Int) (reason : Text) :
    (e.finished now reason).record = e.record := rfl

@[simp] theorem moved_record (e : Episode) (actualState : RuntimeActualState) (now : Int) :
    (e.moved actualState now).record = e.record := rfl

end Episode

structure Hosting where
  past : List Episode
  live : Option Episode

namespace Hosting

def episodes (h : Hosting) : List Episode := h.past ++ h.live.toList

/-- The generations whose interruption is on record. -/
def incidents (h : Hosting) : List Int :=
  (h.past.filter Episode.interrupted).map (·.record.generation)

structure Sound (h : Hosting) : Prop where
  finished : ∀ e ∈ h.past, e.ended ≠ none
  running : ∀ e ∈ h.live, e.ended = none
  generations : (h.episodes.map (·.record.generation)).Pairwise (· < ·)
  tokens : (h.episodes.map (·.record.fencingToken)).Pairwise (· < ·)
  hosts : (h.episodes.map (·.record.hostInstanceId)).Nodup
  named : ∀ e ∈ h.episodes, trimChars e.record.hostInstanceId ≠ [] ∧
    e.record.stateRootGeneration ≤ I64_MAX
  stopped : ∀ e ∈ h.episodes, e.actualState = .stopped ↔
    e.ended.map Prod.snd = some "host_state_stopped".toList

def empty : Hosting := ⟨[], none⟩

theorem empty_sound : empty.Sound := by
  constructor <;> simp [empty, episodes]

end Hosting

/-- The tables of the hosts hold the episodes. -/
structure Represents (h : Hosting) (db : Db) : Prop where
  generations : db.generations.rows = h.episodes.map Episode.generationRow
  leases : db.leases.rows = h.episodes.map Episode.leaseRow
  states : db.states.rows = h.episodes.map Episode.stateRow

/-- The generations with an attention item, an event and a receipt. -/
structure Recorded (incidents : List Int) (db : Db) : Prop where
  attention : db.attentionItems.rows.map (·.runtimeHostGeneration) = incidents
  events : db.outboxEvents.rows.map (·.aggregateRevision) = incidents
  receipts : db.receipts.rows.map (·.command.subjectGeneration) = incidents

theorem empty_represents : Represents .empty .empty := ⟨rfl, rfl, rfl⟩

theorem empty_recorded : Recorded Hosting.empty.incidents .empty := ⟨rfl, rfl, rfl⟩

variable {h : Hosting} {db db' : Db}

/-- The rows of the live episode come last. -/
theorem Represents.last {ρ : Type} {rows : List ρ} {row : Episode → ρ} {e : Episode}
    (here : h.live = some e) (held : rows = h.episodes.map row) :
    rows = h.past.map row ++ [row e] := by
  simp [held, Hosting.episodes, here]

/-- The generation of the live host is above all others. -/
theorem Hosting.Sound.above (sound : h.Sound) {e : Episode} (here : h.live = some e)
    {older : Episode} (member : older ∈ h.past) :
    older.record.generation < e.record.generation ∧
      older.record.fencingToken < e.record.fencingToken ∧
      older.record.hostInstanceId ≠ e.record.hostInstanceId := by
  obtain ⟨-, -, generations, tokens, hosts, -, -⟩ := sound
  simp only [episodes, here, Option.toList_some, List.map_append, List.map_cons, List.map_nil]
    at generations tokens hosts
  refine ⟨?_, ?_, ?_⟩
  · exact (List.pairwise_append.mp generations).2.2 _ (List.mem_map_of_mem member) _ (by simp)
  · exact (List.pairwise_append.mp tokens).2.2 _ (List.mem_map_of_mem member) _ (by simp)
  · intro same
    have apart := (List.nodup_append.mp hosts).2.2 _ (List.mem_map_of_mem member)
    exact apart _ (by simp) same

/-! The query of the live lease. -/

theorem find_last {ρ : Type} {p : ρ → Bool} {older : List ρ} {newest : ρ}
    (others : ∀ row ∈ older, p row = false) (hit : p newest = true) :
    (older ++ [newest]).find? p = some newest := by
  have missed : older.find? p = none := by
    apply List.find?_eq_none.mpr
    intro row member
    simp [others row member]
  rw [List.find?_append, missed]
  simp [hit]

/-- The live lease is that of the live episode. -/
theorem currentActivation_eq (held : Represents h db) (sound : h.Sound) :
    db.currentActivation =
      h.live.map fun e => (e.record, e.installationIdentity, e.osUserIdentityDigest) := by
  have closed : ∀ l ∈ h.past.map Episode.leaseRow, l.releasedAt.isNone = false := by
    intro l member
    obtain ⟨e, old, rfl⟩ := List.mem_map.mp member
    have finished := sound.finished e old
    cases ended : e.ended with
    | none => exact absurd ended finished
    | some _ => simp [Episode.leaseRow, ended]
  have older : ∀ g : LeaseRow → Option (RuntimeHostLeaseRecord × Text × Text),
      (h.past.map Episode.leaseRow).findSome? (fun l => if l.releasedAt.isNone then g l else none) =
        none := by
    intro g
    rw [List.findSome?_eq_none_iff]
    intro l member
    rw [closed l member]
    rfl
  unfold Db.currentActivation
  cases here : h.live with
  | none =>
    rw [held.leases, Hosting.episodes, here, Option.toList_none, List.append_nil]
    exact older _
  | some e =>
    have running := sound.running e (by simp [here])
    rw [Represents.last here held.leases, List.findSome?_append, older]
    have found : db.generations.rows.find? (fun g =>
        decide (g.generation = e.leaseRow.generation) &&
          decide (g.hostInstanceId = e.leaseRow.hostInstanceId) && g.endedAt.isNone) =
        some e.generationRow := by
      rw [Represents.last here held.generations]
      apply find_last
      · intro g member
        obtain ⟨old, past, rfl⟩ := List.mem_map.mp member
        have below := (sound.above here past).1
        simp [Episode.generationRow, Episode.leaseRow, below.ne]
      · simp [Episode.generationRow, Episode.leaseRow, running]
    simp only [List.findSome?_cons, found]
    simp [Episode.leaseRow, Episode.generationRow, running]

/-! What the statements do to the episodes. -/

theorem Episode.closed {e : Episode} (finished : e.ended ≠ none) :
    e.leaseRow.releasedAt.isNone = false ∧ e.generationRow.endedAt.isNone = false := by
  cases ended : e.ended with
  | none => exact absurd ended finished
  | some _ => simp [Episode.leaseRow, Episode.generationRow, ended]

/-- The release of the live lease and the end of its generation. -/
theorem close_represents (held : Represents h db) (finished : ∀ e ∈ h.past, e.ended ≠ none)
    {e : Episode} (here : h.live = some e) (running : e.ended = none) {p : LeaseRow → Bool} {q : GenerationRow → Bool}
    (lease : p e.leaseRow = true) (generation : q e.generationRow = true) (now : Int)
    (reason : Text) :
    (db.releaseLeases p now).1 = 1 ∧
      ((db.releaseLeases p now).2.endGenerations q now reason).1 = 1 ∧
      Represents ⟨h.past ++ [e.finished now reason], none⟩
        ((db.releaseLeases p now).2.endGenerations q now reason).2 := by
  have leases := Represents.last here held.leases
  have generations := Represents.last here held.generations
  have older : ∀ l ∈ h.past.map Episode.leaseRow, (p l && l.releasedAt.isNone) = false := by
    intro l member
    obtain ⟨old, past, rfl⟩ := List.mem_map.mp member
    rw [(Episode.closed (finished old past)).1, Bool.and_false]
  have ended : ∀ g ∈ h.past.map Episode.generationRow, (q g && g.endedAt.isNone) = false := by
    intro g member
    obtain ⟨old, past, rfl⟩ := List.mem_map.mp member
    rw [(Episode.closed (finished old past)).2, Bool.and_false]
  have open' : (p e.leaseRow && e.leaseRow.releasedAt.isNone) = true := by
    rw [lease, Bool.true_and]
    simp [Episode.leaseRow, running]
  have begun : (q e.generationRow && e.generationRow.endedAt.isNone) = true := by
    rw [generation, Bool.true_and]
    simp [Episode.generationRow, running]
  refine ⟨Table.matched_last leases older open', Table.matched_last generations ended begun, ?_⟩
  constructor
  · have newest : ((db.releaseLeases p now).2.endGenerations q now reason).2.generations.rows =
        h.past.map Episode.generationRow ++ [(e.finished now reason).generationRow] := by
      apply Table.update_last generations ended begun
      exact fun _ => rfl
    simp [newest, Hosting.episodes]
  · have newest : ((db.releaseLeases p now).2.endGenerations q now reason).2.leases.rows =
        h.past.map Episode.leaseRow ++ [(e.finished now reason).leaseRow] := by
      apply Table.update_last leases older open'
      exact fun _ => rfl
    simp [newest, Hosting.episodes]
  · simp only [Db.endGenerations, Db.releaseLeases]
    rw [held.states]
    simp [Hosting.episodes, here, Episode.stateRow, Episode.finished]

/-- The live host moves to another state. -/
theorem update_represents (held : Represents h db) (sound : h.Sound) {e : Episode}
    (here : h.live = some e) {p : StateRow → Bool} (hit : p e.stateRow = true)
    (others : ∀ row, p row = true → row.generation = e.record.generation)
    (actualState : RuntimeActualState) (now : Int) :
    (db.updateStates p actualState now).1 = 1 ∧
      Represents ⟨h.past, some (e.moved actualState now)⟩ (db.updateStates p actualState now).2 := by
  have states := Represents.last here held.states
  have older : ∀ row ∈ h.past.map Episode.stateRow, p row = false := by
    intro row member
    obtain ⟨old, past, rfl⟩ := List.mem_map.mp member
    cases taken : p old.stateRow with
    | false => rfl
    | true =>
      have below := (sound.above here past).1
      exact absurd (others _ taken) below.ne
  refine ⟨Table.matched_last states older hit, ?_⟩
  constructor
  · simp only [Db.updateStates]
    rw [held.generations]
    simp [Hosting.episodes, here, Episode.generationRow, Episode.moved]
  · simp only [Db.updateStates]
    rw [held.leases]
    simp [Hosting.episodes, here, Episode.leaseRow, Episode.moved]
  · have newest : (db.updateStates p actualState now).2.states.rows =
        h.past.map Episode.stateRow ++ [(e.moved actualState now).stateRow] := by
      apply Table.update_last states older hit
      exact fun _ => rfl
    simp [newest, Hosting.episodes]

/-- The state row of the live host. -/
theorem loadRuntimeHostState_eq (held : Represents h db) (sound : h.Sound) {e : Episode}
    (here : h.live = some e) : db.loadRuntimeHostState e.record = some e.stateRow := by
  unfold Db.loadRuntimeHostState
  rw [Represents.last here held.states]
  apply find_last
  · intro row member
    obtain ⟨old, past, rfl⟩ := List.mem_map.mp member
    have below := (sound.above here past).1
    simp [IsStateOf, StateRow.key, Episode.stateRow, below.ne]
  · simp [IsStateOf, StateRow.key, Episode.stateRow]

/-- A host is current exactly as the live episode has it. -/
theorem requireCurrent_iff (held : Represents h db) (sound : h.Sound)
    {host : RuntimeHostLeaseRecord} {now : Int} :
    db.requireCurrentRuntimeHost host now = .ok () ↔
      ∃ e, h.live = some e ∧ e.record = host ∧ now < host.expiresAt := by
  simp only [Db.requireCurrentRuntimeHost, ensure_ok]
  constructor
  · rintro ⟨l, lease, g, generation, number, owner, id, at', by', token, acquired, expires, root,
      live, running, before⟩
    rw [held.leases] at lease
    obtain ⟨e, member, rfl⟩ := List.mem_map.mp lease
    rw [held.generations] at generation
    obtain ⟨f, other, rfl⟩ := List.mem_map.mp generation
    have same : f = e := by
      have distinct := sound.generations.imp (fun below => below.ne)
      exact List.inj_on_of_nodup_map distinct other member number
    subst same
    have present : f ∈ h.live := by
      rcases List.mem_append.mp member with past | current
      · have closed := (Episode.closed (sound.finished f past)).1
        rw [live] at closed
        cases closed
      · exact Option.mem_toList.mp current
    refine ⟨f, present, ?_, by rw [← expires]; exact before⟩
    cases host
    simp only [Episode.leaseRow, Episode.generationRow] at *
    cases record : f.record
    simp_all
  · rintro ⟨e, here, rfl, before⟩
    have running := sound.running e (by simp [here])
    refine ⟨e.leaseRow, ?_, e.generationRow, ?_, rfl, rfl, rfl, rfl, rfl, rfl, rfl, rfl, rfl, ?_, ?_,
      before⟩
    · simp [Represents.last here held.leases]
    · simp [Represents.last here held.generations]
    · simp [Episode.leaseRow, running]
    · simp [Episode.generationRow, running]

end CarsinOS.Runtime
