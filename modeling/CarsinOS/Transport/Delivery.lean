import CarsinOS.Lib.Run
import CarsinOS.Transport.Outbox

/-! The delivery of the outbox to any number of sockets of any consumers: each replays at its
cursor, sends the events in order and commits each one after it was sent. -/
namespace CarsinOS.Transport
open CarsinOS.Lib CarsinOS.Integrity
open CarsinOS.Delegation (NewOutboxEvent FenceCrates validateOutbox requireText)

/-- Where a socket is in its loop. -/
inductive Phase where
  | polling (cursor : Int)
  | headRead (cursor head : Int)
  | cursorRead (cursor head : Int) (stored : Option CursorRow)
  | delivering (cursor : Int) (pending : List OutboxEventRecord)
  | committing (cursor : Int) (event : OutboxEventRecord) (pending : List OutboxEventRecord)

structure Socket where
  consumer : OutboxConsumerIdentity
  phase : Phase

/-- The store and the sockets that are open. -/
structure World where
  db : Db
  sockets : Nat → Option Socket

def World.empty : World := ⟨.empty, fun _ => none⟩

def World.set (w : World) (id : Nat) (socket : Option Socket) : World :=
  { w with sockets := fun other => if other = id then socket else w.sockets other }

/-- What happens, with what it returned. -/
inductive Act where
  | append (event : NewOutboxEvent)
  | connect (id : Nat) (consumer : OutboxConsumerIdentity) (requested : Int)
  | readHead (id : Nat)
  | readCursor (id : Nat)
  | replay (id : Nat) (consumer : OutboxConsumerIdentity) (requested : Int)
      (outcome : Anyhow OutboxReplayOutcome)
  | send (id : Nat) (consumer : OutboxConsumerIdentity) (event : OutboxEventRecord)
  | commit (id : Nat) (command : OutboxDeliveryCommit)
      (outcome : Anyhow OutboxDeliveryCommitOutcome)
  | poll (id : Nat)
  | stop (id : Nat)

/-- A socket delivers what a replay returned, and closes where it has to refetch. -/
def afterReplay (consumer : OutboxConsumerIdentity) : Anyhow OutboxReplayOutcome → Option Socket
  | .ok (.replay replay) => some ⟨consumer, .delivering replay.consumerCursor replay.events⟩
  | _ => none

/-- A socket goes on after its event was committed, by itself or by another. -/
def afterCommit (consumer : OutboxConsumerIdentity) (event : OutboxEventRecord)
    (pending : List OutboxEventRecord) : Anyhow OutboxDeliveryCommitOutcome → Option Socket
  | .ok .committed | .ok .alreadyCommitted =>
    some ⟨consumer, .delivering event.globalSequence pending⟩
  | _ => none

/-- The store after a transaction, which a failure leaves as it was. -/
def settled {α : Type} (db : Db) : Anyhow (α × Db) → Db
  | .ok (_, db') => db'
  | .error _ => db

/-- The interleavings: appends, the reads of a replay one by one, sends, commits, and the end of a
socket at any point. -/
inductive Step (K : FenceCrates) : World → Act → World → Prop where
  | append {w : World} {event : NewOutboxEvent} {db' : Db}
      (done : w.db.insertOutbox event = .ok db') : Step K w (.append event) { w with db := db' }
  | connect {w : World} {id : Nat} {consumer : OutboxConsumerIdentity} {requested : Int}
      (free : w.sockets id = none) : Step K w (.connect id consumer requested)
        (w.set id (some ⟨consumer, .polling requested⟩))
  | readHead {w : World} {id : Nat} {consumer : OutboxConsumerIdentity} {requested : Int}
      (here : w.sockets id = some ⟨consumer, .polling requested⟩) : Step K w (.readHead id)
        (w.set id (some ⟨consumer, .headRead requested w.db.outboxHeadSequence⟩))
  | readCursor {w : World} {id : Nat} {consumer : OutboxConsumerIdentity} {requested head : Int}
      (here : w.sockets id = some ⟨consumer, .headRead requested head⟩) : Step K w (.readCursor id)
        (w.set id (some ⟨consumer,
          .cursorRead requested head (w.db.cursors.find? consumer.consumerId)⟩))
  | replay {w : World} {id : Nat} {consumer : OutboxConsumerIdentity} {requested head : Int}
      {stored : Option CursorRow} {outcome : Anyhow OutboxReplayOutcome}
      (here : w.sockets id = some ⟨consumer, .cursorRead requested head stored⟩)
      (returned : outcome = replayOutbox consumer requested head stored
        (w.db.listOutboxAfter K requested)) :
      Step K w (.replay id consumer requested outcome) (w.set id (afterReplay consumer outcome))
  | send {w : World} {id : Nat} {consumer : OutboxConsumerIdentity} {cursor : Int}
      {event : OutboxEventRecord} {pending : List OutboxEventRecord}
      (here : w.sockets id = some ⟨consumer, .delivering cursor (event :: pending)⟩) :
      Step K w (.send id consumer event)
        (w.set id (some ⟨consumer, .committing cursor event pending⟩))
  | commit {w : World} {id : Nat} {consumer : OutboxConsumerIdentity} {cursor : Int}
      {event : OutboxEventRecord} {pending : List OutboxEventRecord} {publishedAt : Int}
      {result : Anyhow (OutboxDeliveryCommitOutcome × Db)}
      (here : w.sockets id = some ⟨consumer, .committing cursor event pending⟩)
      (done : commitOutboxDelivery w.db ⟨consumer, cursor, event.globalSequence, publishedAt⟩ =
        result) :
      Step K w (.commit id ⟨consumer, cursor, event.globalSequence, publishedAt⟩
        (result.map Prod.fst))
        ({ w with db := settled w.db result }.set id
          (afterCommit consumer event pending (result.map Prod.fst)))
  | poll {w : World} {id : Nat} {consumer : OutboxConsumerIdentity} {cursor : Int}
      (here : w.sockets id = some ⟨consumer, .delivering cursor []⟩) : Step K w (.poll id)
        (w.set id (some ⟨consumer, .polling cursor⟩))
  | stop {w : World} {id : Nat} : Step K w (.stop id) (w.set id none)

/-- The cursor of a consumer, which is zero before its first delivery. -/
def Db.cursor (db : Db) (consumerId : Text) : Int := consumerCursor (db.cursors.find? consumerId)

variable {K : FenceCrates} {db db' : Db}

/-! The store. -/

structure Db.Sound (db : Db) : Prop where
  numbered : Follow OutboxEventRecord.globalSequence 0 db.events.rows
  bounded : (db.events.rows.length : Int) ≤ I64_MAX
  reached : ∀ row ∈ db.cursors.rows, 0 < row.lastGlobalSequence ∧
    row.lastGlobalSequence ≤ db.events.rows.length

theorem empty_sound : Db.empty.Sound := by
  constructor
  · trivial
  · decide
  · intro row member
    cases member

/-- The head of consecutive numbers is how many there are. -/
theorem Db.Sound.head (sound : db.Sound) : db.outboxHeadSequence = db.events.rows.length := by
  unfold outboxHeadSequence
  cases top : (db.events.rows.map (·.globalSequence)).max? with
  | none =>
    rw [List.max?_eq_none_iff, List.map_eq_nil_iff] at top
    simp [top]
  | some n =>
    obtain ⟨member, above⟩ := List.max?_eq_some_iff.mp top
    obtain ⟨row, present, rfl⟩ := List.mem_map.mp member
    have within := follow_within sound.numbered present
    obtain ⟨last, here, same⟩ := follow_taken sound.numbered
      (n := (db.events.rows.length : Int)) (by omega) (by omega)
    have below := above _ (List.mem_map_of_mem here)
    rw [Option.getD_some]
    omega

theorem Db.Sound.cursor (sound : db.Sound) (consumerId : Text) : 0 ≤ db.cursor consumerId ∧
    db.cursor consumerId ≤ db.events.rows.length := by
  unfold Db.cursor consumerCursor
  cases found : db.cursors.find? consumerId with
  | none => simp
  | some row =>
    have reached := sound.reached row (Table.find?_mem found)
    simp only [Option.map_some, Option.getD_some]
    omega

theorem insertOutbox_ok {event : NewOutboxEvent} (done : db.insertOutbox event = .ok db') :
    db.outboxHeadSequence + 1 ≤ I64_MAX ∧
      db'.events.rows = db.events.rows ++ [⟨db.outboxHeadSequence + 1, event, none⟩] ∧
      db'.cursors = db.cursors := by
  simp only [Db.insertOutbox, bind_ok, ensure_ok] at done
  obtain ⟨-, bounded, -, -, -, -, -, -, rest⟩ := done
  split at rest
  · rename_i events inserted
    cases rest
    exact ⟨bounded, Table.insert?_rows inserted, rfl⟩
  · cases rest

theorem insertOutbox_sound {event : NewOutboxEvent} (sound : db.Sound)
    (done : db.insertOutbox event = .ok db') : db'.Sound := by
  obtain ⟨bounded, rows, cursors⟩ := insertOutbox_ok done
  rw [sound.head] at bounded rows
  constructor
  · rw [rows, follow_append]
    exact ⟨sound.numbered, by simp [Follow]⟩
  · simp only [rows, List.length_append, List.length_singleton]
    omega
  · intro row member
    rw [cursors] at member
    have reached := sound.reached row member
    simp only [rows, List.length_append, List.length_singleton]
    omega

/-- The rows after a cursor come in the order of their numbers. -/
theorem listOutboxAfter_ok (sound : db.Sound) {sequence : Int} {events : List OutboxEventRecord}
    (listed : db.listOutboxAfter K sequence = .ok events) :
    events = db.events.rows.filter fun row => decide (sequence < row.globalSequence) := by
  have sorted : (db.events.rows.filter fun row =>
      decide (sequence < row.globalSequence)).Pairwise
      (fun first second => decide (first.globalSequence ≤ second.globalSequence) = true) := by
    apply List.Pairwise.sublist List.filter_sublist
    exact (follow_sorted sound.numbered).imp fun below => decide_eq_true below.le
  simp only [Db.listOutboxAfter, List.mergeSort_of_pairwise sorted] at listed
  rw [mapM_ok] at listed
  have same : List.Forall₂ (· = ·) (db.events.rows.filter fun row =>
      decide (sequence < row.globalSequence)) events := by
    apply listed.imp
    intro row row' valid
    simp only [bind_ok] at valid
    obtain ⟨-, -, rest⟩ := valid
    exact Except.ok.inj rest
  rw [List.forall₂_eq_eq_eq] at same
  exact same.symm

/-- Consecutive events leave no gap. -/
theorem leavesGap_false {events : List OutboxEventRecord} {expected : Int}
    (follows : Follow OutboxEventRecord.globalSequence expected events) {gap : Bool}
    (done : leavesGap expected events = .ok gap) : gap = false := by
  induction events generalizing expected with
  | nil =>
    cases done
    rfl
  | cons event events ih =>
    obtain ⟨here, rest⟩ := follows
    simp only [leavesGap, bind_ok, ensure_ok] at done
    obtain ⟨-, -, done⟩ := done
    rw [if_neg (not_not.mpr here)] at done
    exact ih rest done

theorem leavesGap_ok {events : List OutboxEventRecord} {expected : Int}
    (follows : Follow OutboxEventRecord.globalSequence expected events)
    (bounded : expected + events.length ≤ I64_MAX) : leavesGap expected events = .ok false := by
  induction events generalizing expected with
  | nil => rfl
  | cons event events ih =>
    obtain ⟨here, rest⟩ := follows
    rw [List.length_cons] at bounded
    have fits : expected + 1 ≤ I64_MAX := by omega
    simp only [leavesGap, ensure, fits, if_true, here, ne_eq, not_true_eq_false, if_false, ok_bind]
    exact ih rest (by omega)

/-! The replay. -/

/-- A replay returns the events after the requested cursor, and no gap of the sequence. -/
theorem replayOutbox_ok (sound : db.Sound) {consumer : OutboxConsumerIdentity}
    {requested head : Int} {stored : Option CursorRow}
    (begun : head ≤ db.events.rows.length) {outcome : OutboxReplayOutcome}
    (done : replayOutbox consumer requested head stored (db.listOutboxAfter K requested) =
      .ok outcome) :
    (∀ replay, outcome = .replay replay → replay.consumerCursor = requested ∧ 0 ≤ requested ∧
      Follow OutboxEventRecord.globalSequence requested replay.events ∧
      replay.events = db.events.rows.filter fun row => decide (requested < row.globalSequence)) ∧
      ∀ cursor asked at', outcome ≠ .summaryRefetchRequired .sequenceGap cursor asked at' := by
  simp only [replayOutbox, bind_ok] at done
  obtain ⟨_, -, rest⟩ := done
  split at rest
  · cases rest
    exact ⟨fun _ other => (by cases other), fun _ _ _ other => (by cases other)⟩
  · rename_i positive
    split at rest
    · rename_i reason refused
      cases rest
      refine ⟨fun _ other => by (cases other), ?_⟩
      intro cursor asked at' other
      cases other
      unfold cursorGap at refused
      split at refused
      · cases refused
      split at refused
      · split at refused
        · cases refused
        split at refused <;> cases refused
      split at refused <;> cases refused
    · rename_i admitted
      have matching : requested = consumerCursor stored ∧ requested ≤ head := by
        unfold cursorGap at admitted
        split at admitted
        · cases admitted
        split at admitted
        · cases admitted
        rename_i equal
        split at admitted
        · cases admitted
        rename_i within
        exact ⟨not_not.mp equal, by omega⟩
      simp only [bind_ok] at rest
      obtain ⟨events, listed, gap, checked, rest⟩ := rest
      have found := listOutboxAfter_ok sound listed
      have follows : Follow OutboxEventRecord.globalSequence requested events := by
        rw [found]
        exact follow_above sound.numbered (by omega) (by omega)
      rw [leavesGap_false follows checked] at rest
      cases rest
      refine ⟨?_, fun _ _ _ other => (by cases other)⟩
      intro replay same
      cases same
      exact ⟨matching.1.symm, by omega, follows, found⟩

/-- At its stored cursor a consumer is shown every event it has not passed. -/
theorem replayOutbox_stored (sound : db.Sound) {consumer : OutboxConsumerIdentity}
    (valid : validateConsumer consumer = .ok ())
    (identity : ∀ row, db.cursors.find? consumer.consumerId = some row →
      ¬IdentityConflict consumer row) :
    replayOutbox consumer (db.cursor consumer.consumerId) db.outboxHeadSequence
      (db.cursors.find? consumer.consumerId)
      (db.listOutboxAfter K (db.cursor consumer.consumerId)) =
      (db.listOutboxAfter K (db.cursor consumer.consumerId)).map fun events =>
        .replay ⟨db.cursor consumer.consumerId, db.outboxHeadSequence, events⟩ := by
  obtain ⟨positive, within⟩ := sound.cursor consumer.consumerId
  have head := sound.head
  have open' : ¬∃ row ∈ db.cursors.find? consumer.consumerId, IdentityConflict consumer row := by
    rintro ⟨row, found, conflict⟩
    exact identity row found conflict
  have admitted : cursorGap consumer (db.cursor consumer.consumerId) db.outboxHeadSequence
      (db.cursors.find? consumer.consumerId) = none := by
    unfold cursorGap
    rw [if_neg open', if_neg (fun apart => apart rfl), if_neg (by omega)]
  simp only [replayOutbox, valid, ok_bind, admitted]
  rw [if_neg (by omega)]
  cases listed : db.listOutboxAfter K (db.cursor consumer.consumerId) with
  | error failure => rfl
  | ok events =>
    have found := listOutboxAfter_ok sound listed
    have follows : Follow OutboxEventRecord.globalSequence (db.cursor consumer.consumerId)
        events := found ▸ follow_above sound.numbered (by omega) (by omega)
    have short : db.cursor consumer.consumerId + events.length ≤ I64_MAX := by
      have bounded := sound.bounded
      by_cases some : 0 < events.length
      · obtain ⟨last, member, same⟩ := follow_taken follows
          (n := db.cursor consumer.consumerId + (events.length : Int)) (by omega) (le_refl _)
        rw [found] at member
        have below := (follow_within sound.numbered (List.mem_of_mem_filter member)).2
        omega
      · omega
    rw [ok_bind, leavesGap_ok follows short]
    rfl

/-! The commit. -/

/-- The row of an event once it was published. -/
def OutboxEventRecord.published (row : OutboxEventRecord) (sequence publishedAt : Int) :
    OutboxEventRecord :=
  if row.globalSequence = sequence then
    { row with publishedAt := some (row.publishedAt.getD publishedAt) } else row

/-- What a commit that moved the cursor did. -/
structure Committed (db : Db) (command : OutboxDeliveryCommit) (db' : Db) : Prop where
  before : db.cursor command.consumer.consumerId = command.expectedCursor
  after : db'.cursor command.consumer.consumerId = command.globalSequence
  others : ∀ other, other ≠ command.consumer.consumerId → db'.cursor other = db.cursor other
  events : db'.events.rows =
    db.events.rows.map (·.published command.globalSequence command.publishedAt)
  present : ∃ row ∈ db.events.rows, row.globalSequence = command.globalSequence
  cursors : ∀ row ∈ db'.cursors.rows, row ∈ db.cursors.rows ∨
    row.lastGlobalSequence = command.globalSequence

theorem finishDelivery_ok {command : OutboxDeliveryCommit} {outcome : OutboxDeliveryCommitOutcome}
    (done : db.finishDelivery command = .ok (outcome, db')) : outcome = .committed ∧
      db'.cursors = db.cursors ∧
      db'.events.rows =
        db.events.rows.map (·.published command.globalSequence command.publishedAt) ∧
      ∃ row ∈ db.events.rows, row.globalSequence = command.globalSequence := by
  simp only [Db.finishDelivery, bind_ok, ensure_ok] at done
  obtain ⟨-, changed, rest⟩ := done
  obtain ⟨rfl, rfl⟩ := Prod.mk.inj (Except.ok.inj rest)
  refine ⟨rfl, rfl, ?_, ?_⟩
  · simp only [Db.publish, Table.update, OutboxEventRecord.published, decide_eq_true_eq]
  · have some : 0 < db.events.rows.countP
        fun row => decide (row.globalSequence = command.globalSequence) := by
      simp only [Db.publish, Table.matched] at changed
      omega
    obtain ⟨row, member, hit⟩ := List.countP_pos_iff.mp some
    exact ⟨row, member, of_decide_eq_true hit⟩

theorem commitAfter_ok {command : OutboxDeliveryCommit} {row : CursorRow}
    {outcome : OutboxDeliveryCommitOutcome}
    (found : db.cursors.find? command.consumer.consumerId = some row)
    (done : db.commitAfter command row = .ok (outcome, db')) :
    ¬IdentityConflict command.consumer row ∧ (outcome = .committed ∧ Committed db command db' ∨
      outcome ≠ .committed ∧ db' = db ∧
        command.globalSequence ≤ db.cursor command.consumer.consumerId) := by
  have here : db.cursor command.consumer.consumerId = row.lastGlobalSequence := by
    simp [Db.cursor, consumerCursor, found]
  simp only [Db.commitAfter, bind_ok, ensure_ok] at done
  obtain ⟨-, identity, rest⟩ := done
  refine ⟨identity, ?_⟩
  split at rest
  · rename_i same
    obtain ⟨rfl, rfl⟩ := Prod.mk.inj (Except.ok.inj rest)
    exact .inr ⟨by simp, rfl, by omega⟩
  split at rest
  · rename_i ahead
    obtain ⟨rfl, rfl⟩ := Prod.mk.inj (Except.ok.inj rest)
    exact .inr ⟨by simp, rfl, by omega⟩
  · left
    simp only [bind_ok, ensure_ok, Db.advanceCursor] at rest
    obtain ⟨-, expected, -, -, db₁, ⟨-, -, -, -, advanced⟩, rest⟩ := rest
    cases advanced
    obtain ⟨committed, cursors, events, present⟩ := finishDelivery_ok rest
    refine ⟨committed, by omega, ?_, ?_, events, present, ?_⟩
    · simp [Db.cursor, consumerCursor, cursors, Table.find?_update, found, Table.find?_key found]
    · intro other apart
      simp only [Db.cursor, consumerCursor, cursors, Table.find?_update]
      cases away : db.cursors.find? other with
      | none => rfl
      | some theirs =>
        have key : theirs.consumerId = other := Table.find?_key away
        have missed : theirs.consumerId ≠ command.consumer.consumerId := key ▸ apart
        simp [missed]
    · intro moved member
      rw [cursors] at member
      obtain ⟨old, present, rfl⟩ := List.mem_map.mp member
      split
      · exact .inr rfl
      · exact .inl present

theorem commitFirst_ok {command : OutboxDeliveryCommit} {outcome : OutboxDeliveryCommitOutcome}
    (missing : db.cursors.find? command.consumer.consumerId = none)
    (done : db.commitFirst command = .ok (outcome, db')) :
    outcome = .committed ∧ Committed db command db' := by
  simp only [Db.commitFirst, bind_ok, ensure_ok, Db.insertCursor] at done
  obtain ⟨-, zero, db₁, ⟨-, -, -, -, inserted⟩, rest⟩ := done
  split at inserted
  · rename_i cursors granted
    cases inserted
    obtain ⟨committed, same, events, present⟩ := finishDelivery_ok rest
    refine ⟨committed, ?_, ?_, ?_, events, present, ?_⟩
    · simp [Db.cursor, consumerCursor, missing, zero]
    · simp [Db.cursor, consumerCursor, same, Table.find?_insert granted]
    · intro other apart
      simp [Db.cursor, consumerCursor, same, Table.find?_insert granted, apart.symm]
    · intro row member
      rw [same, Table.insert?_rows granted, List.mem_append, List.mem_singleton] at member
      rcases member with old | rfl
      · exact .inl old
      · exact .inr rfl
  · cases inserted

/-- A commit moves its consumer's cursor past its event alone, or finds it there and changes
nothing. -/
theorem commitOutboxDelivery_ok {command : OutboxDeliveryCommit}
    {outcome : OutboxDeliveryCommitOutcome}
    (done : commitOutboxDelivery db command = .ok (outcome, db')) :
    validateConsumer command.consumer = .ok () ∧
      command.globalSequence = command.expectedCursor + 1 ∧ 0 < command.globalSequence ∧
      (outcome = .committed ∧ Committed db command db' ∨
        outcome ≠ .committed ∧ db' = db ∧
          command.globalSequence ≤ db.cursor command.consumer.consumerId ∧
          ∀ row, db.cursors.find? command.consumer.consumerId = some row →
            ¬IdentityConflict command.consumer row) := by
  simp only [commitOutboxDelivery, bind_ok, ensure_ok] at done
  obtain ⟨_, valid, -, ⟨-, positive, -, -, next⟩, rest⟩ := done
  refine ⟨valid, next, positive, ?_⟩
  split at rest
  · rename_i row found
    obtain ⟨identity, moved | ⟨other, same, passed⟩⟩ := commitAfter_ok found rest
    · exact .inl moved
    · refine .inr ⟨other, same, passed, ?_⟩
      intro stored held
      cases found.symm.trans held
      exact identity
  · rename_i missing
    exact .inl (commitFirst_ok missing rest)

theorem published_sequence (row : OutboxEventRecord) (sequence publishedAt : Int) :
    (row.published sequence publishedAt).globalSequence = row.globalSequence := by
  unfold OutboxEventRecord.published
  split <;> rfl

theorem Committed.sound {command : OutboxDeliveryCommit} (committed : Committed db command db')
    (sound : db.Sound) (positive : 0 < command.globalSequence) : db'.Sound := by
  have length : db'.events.rows.length = db.events.rows.length := by
    rw [committed.events, List.length_map]
  constructor
  · rw [committed.events]
    exact follow_map (fun row => published_sequence row _ _) sound.numbered
  · rw [length]
    exact sound.bounded
  · intro row member
    rw [length]
    rcases committed.cursors row member with old | moved
    · exact sound.reached row old
    · obtain ⟨event, present, same⟩ := committed.present
      have within := follow_within sound.numbered present
      omega

/-! The sockets. -/

/-- What a socket holds: a head that was reached, consecutive events, and an event it has sent. -/
def Socket.Sound (acts : List Act) (db : Db) (s : Socket) : Prop :=
  match s.phase with
  | .polling _ => True
  | .headRead _ head | .cursorRead _ head _ => head ≤ db.events.rows.length
  | .delivering cursor pending =>
    0 ≤ cursor ∧ Follow OutboxEventRecord.globalSequence cursor pending
  | .committing cursor event pending =>
    0 ≤ cursor ∧ Follow OutboxEventRecord.globalSequence cursor (event :: pending) ∧
      ∃ id, .send id s.consumer event ∈ acts

theorem Socket.Sound.mono {acts acts' : List Act} {s : Socket} (sound : s.Sound acts db)
    (grown : db.events.rows.length ≤ db'.events.rows.length) (later : ∀ act ∈ acts, act ∈ acts') :
    s.Sound acts' db' := by
  obtain ⟨consumer, phase⟩ := s
  cases phase with
  | polling => trivial
  | headRead requested head =>
    have begun : head ≤ db.events.rows.length := sound
    have still : head ≤ db'.events.rows.length := by omega
    exact still
  | cursorRead requested head stored =>
    have begun : head ≤ db.events.rows.length := sound
    have still : head ≤ db'.events.rows.length := by omega
    exact still
  | delivering => exact sound
  | committing =>
    obtain ⟨positive, follows, id, sent⟩ := sound
    exact ⟨positive, follows, id, later _ sent⟩

/-- Every event a consumer has passed was sent to it before the commit that passed it. -/
def Passed (acts : List Act) (db : Db) : Prop :=
  ∀ consumerId n, 0 < n → n ≤ db.cursor consumerId → ∃ before id consumer publishedAt after,
    acts = before ++ .commit id ⟨consumer, n - 1, n, publishedAt⟩ (.ok .committed) :: after ∧
      consumer.consumerId = consumerId ∧
      ∃ sender event, .send sender consumer event ∈ before ∧ event.globalSequence = n

theorem Passed.later {acts : List Act} (passed : Passed acts db)
    (same : ∀ consumerId, db'.cursor consumerId = db.cursor consumerId) (act : Act) :
    Passed (acts ++ [act]) db' := by
  intro consumerId n positive within
  obtain ⟨before, id, consumer, publishedAt, after, acted, rest⟩ :=
    passed consumerId n positive (same consumerId ▸ within)
  exact ⟨before, id, consumer, publishedAt, after ++ [act], by simp [acted], rest⟩

structure Delivering (acts : List Act) (w : World) : Prop where
  db : w.db.Sound
  sockets : ∀ id s, w.sockets id = some s → s.Sound acts w.db
  passed : Passed acts w.db

theorem empty_delivering : Delivering [] .empty := by
  constructor
  · exact empty_sound
  · intro id s open'
    cases open'
  · intro consumerId n positive within
    have zero : World.empty.db.cursor consumerId = 0 := rfl
    omega

/-- A step that leaves the store alone and puts a sound socket in place of one. -/
theorem Delivering.set {acts : List Act} {w : World} (delivering : Delivering acts w) (act : Act)
    (id : Nat) {socket : Option Socket}
    (sound : ∀ s, socket = some s → s.Sound (acts ++ [act]) w.db) :
    Delivering (acts ++ [act]) (w.set id socket) := by
  obtain ⟨db, sockets, passed⟩ := delivering
  refine ⟨db, ?_, passed.later (fun _ => rfl) act⟩
  intro other s open'
  simp only [World.set] at open'
  split at open'
  · exact sound s open'
  · exact (sockets other s open').mono (le_refl _) fun _ before => List.mem_append_left _ before

theorem delivering_step {acts : List Act} {w w' : World} {act : Act}
    (delivering : Delivering acts w) (taken : Step K w act w') : Delivering (acts ++ [act]) w' := by
  have held := delivering.sockets
  cases taken with
  | append done =>
    obtain ⟨-, rows, cursors⟩ := insertOutbox_ok done
    refine ⟨insertOutbox_sound delivering.db done, ?_, ?_⟩
    · intro id s open'
      apply (held id s open').mono
      · simp [rows]
      · exact fun _ before => List.mem_append_left _ before
    · apply delivering.passed.later
      intro consumerId
      simp only [Db.cursor, cursors]
  | connect => exact delivering.set _ _ fun s same => by (cases same; trivial)
  | readHead here =>
    apply delivering.set
    intro s same
    cases same
    exact delivering.db.head.le
  | readCursor here =>
    apply delivering.set
    intro s same
    cases same
    exact held _ _ here
  | @replay _ consumer requested _ _ outcome here returned =>
    apply delivering.set
    intro s same
    cases outcome with
    | error failure => cases same
    | ok outcome =>
      cases outcome with
      | summaryRefetchRequired => cases same
      | replay replay =>
        cases same
        obtain ⟨replayed, -⟩ := replayOutbox_ok delivering.db (held _ _ here) returned.symm
        obtain ⟨cursor, positive, follows, -⟩ := replayed replay rfl
        rw [← cursor] at positive follows
        exact ⟨positive, follows⟩
  | send here =>
    apply delivering.set
    intro s same
    cases same
    obtain ⟨positive, follows⟩ := held _ _ here
    exact ⟨positive, follows, _, List.mem_append_right _ (List.mem_singleton.mpr rfl)⟩
  | poll here => exact delivering.set _ _ fun s same => by (cases same; trivial)
  | stop => exact delivering.set _ _ fun s same => by cases same
  | @commit id consumer cursor event pending publishedAt result here done =>
    obtain ⟨positive, ⟨next, follows⟩, sender, sent⟩ := held _ _ here
    have onward : ∀ after : Db, ∀ s,
        afterCommit consumer event pending (result.map Prod.fst) = some s →
          s.Sound (acts ++ [Act.commit id ⟨consumer, cursor, event.globalSequence, publishedAt⟩
            (result.map Prod.fst)]) after := by
      intro after s same
      have going : s = ⟨consumer, .delivering event.globalSequence pending⟩ := by
        unfold afterCommit at same
        split at same <;> cases same <;> rfl
      rw [going]
      rw [← next] at follows
      exact ⟨by omega, follows⟩
    cases result with
    | error failure => exact delivering.set _ _ (onward _)
    | ok result =>
      obtain ⟨outcome, db'⟩ := result
      obtain ⟨-, -, above, moved⟩ := commitOutboxDelivery_ok done
      rcases moved with ⟨rfl, committed⟩ | ⟨-, rfl, -, -⟩
      · have sound := committed.sound delivering.db above
        have length : db'.events.rows.length = w.db.events.rows.length := by
          rw [committed.events, List.length_map]
        refine ⟨sound, ?_, ?_⟩
        · intro other s open'
          simp only [World.set] at open'
          split at open'
          · exact onward db' s open'
          · exact (held other s open').mono length.ge fun _ before => List.mem_append_left _ before
        · intro consumerId n high within
          have within : n ≤ db'.cursor consumerId := within
          by_cases same : consumerId = consumer.consumerId
          · subst same
            by_cases newest : n = event.globalSequence
            · subst newest
              have expected : event.globalSequence - 1 = cursor := by omega
              refine ⟨acts, id, consumer, publishedAt, [], ?_, rfl, sender, event, sent, rfl⟩
              rw [expected]
              rfl
            · have before := committed.before
              have after := committed.after
              dsimp only at before after
              obtain ⟨first, at', known, time, rest, acted, known'⟩ :=
                delivering.passed consumer.consumerId n high (by omega)
              exact ⟨first, at', known, time, rest ++ [_], by rw [acted]; simp; rfl, known'⟩
          · have kept := committed.others consumerId same
            obtain ⟨first, at', known, time, rest, acted, known'⟩ :=
              delivering.passed consumerId n high (by omega)
            exact ⟨first, at', known, time, rest ++ [_], by rw [acted]; simp; rfl, known'⟩
      · exact delivering.set _ _ (onward _)

theorem run_delivering {acts : List Act} {w : World} (reached : Run (Step K) .empty acts w) :
    Delivering acts w := by
  refine @run_history _ _ _ Delivering ?_ _ _ _ empty_delivering reached
  intro acts w act w' delivering taken
  exact delivering_step delivering taken

/-! What one step does, from any world that was reached. -/

/-- A cursor stands still, or a commit for its consumer moves it by one. -/
def CursorsByOne (K : FenceCrates) (w : World) : Prop :=
  ∀ act w', Step K w act w' → ∀ consumerId,
    (w'.db.cursor consumerId = w.db.cursor consumerId ∧
      ∀ id command, act = .commit id command (.ok .committed) →
        command.consumer.consumerId ≠ consumerId) ∨
    (w'.db.cursor consumerId = w.db.cursor consumerId + 1 ∧
      ∃ id command, act = .commit id command (.ok .committed) ∧
        command.consumer.consumerId = consumerId ∧
        command.globalSequence = w'.db.cursor consumerId)

/-- A replay returns all events after the cursor it was asked for, in consecutive order, and never
reports a gap of the sequence. -/
def ReplaysContiguous (K : FenceCrates) (w : World) : Prop :=
  ∀ id consumer requested outcome w', Step K w (.replay id consumer requested (.ok outcome)) w' →
    (∀ replay, outcome = .replay replay → replay.consumerCursor = requested ∧
      Follow OutboxEventRecord.globalSequence requested replay.events ∧
      replay.events = w.db.events.rows.filter fun row =>
        decide (requested < row.globalSequence)) ∧
    ∀ cursor asked head, outcome ≠ .summaryRefetchRequired .sequenceGap cursor asked head

/-- Where a commit finds its event passed, the store stays as it is, and a replay at the stored
cursor goes on with every event that is not. -/
def StopsSafely (K : FenceCrates) (w : World) : Prop :=
  ∀ id command outcome w', Step K w (.commit id command (.ok outcome)) w' → outcome ≠ .committed →
    w'.db = w.db ∧ command.globalSequence ≤ w.db.cursor command.consumer.consumerId ∧
      replayOutbox command.consumer (w.db.cursor command.consumer.consumerId)
        w.db.outboxHeadSequence (w.db.cursors.find? command.consumer.consumerId)
        (w.db.listOutboxAfter K (w.db.cursor command.consumer.consumerId)) =
        (w.db.listOutboxAfter K (w.db.cursor command.consumer.consumerId)).map (fun events =>
          .replay ⟨w.db.cursor command.consumer.consumerId, w.db.outboxHeadSequence, events⟩) ∧
      ∀ events, w.db.listOutboxAfter K (w.db.cursor command.consumer.consumerId) = .ok events →
        events = w.db.events.rows.filter fun row =>
          decide (w.db.cursor command.consumer.consumerId < row.globalSequence)

/-- An event stays as it is, and a commit of its own publishes it where nothing had. -/
def PublishedOnce (K : FenceCrates) (w : World) : Prop :=
  ∀ act w', Step K w act w' → ∀ row ∈ w.db.events.rows, ∃ row' ∈ w'.db.events.rows,
    row'.globalSequence = row.globalSequence ∧ row'.event = row.event ∧
    (row'.publishedAt = row.publishedAt ∨
      row.publishedAt = none ∧ ∃ id command, act = .commit id command (.ok .committed) ∧
        command.globalSequence = row.globalSequence ∧
        row'.publishedAt = some command.publishedAt)

theorem Delivering.cursorsByOne {acts : List Act} {w : World} (_ : Delivering acts w) :
    CursorsByOne K w := by
  intro act w' taken consumerId
  have idle : ∀ {act : Act} {db' : Db}, (∀ id command, act ≠ .commit id command (.ok .committed)) →
      db'.cursor consumerId = w.db.cursor consumerId →
      (db'.cursor consumerId = w.db.cursor consumerId ∧
        ∀ id command, act = .commit id command (.ok .committed) →
          command.consumer.consumerId ≠ consumerId) ∨
      (db'.cursor consumerId = w.db.cursor consumerId + 1 ∧
        ∃ id command, act = .commit id command (.ok .committed) ∧
          command.consumer.consumerId = consumerId ∧
          command.globalSequence = db'.cursor consumerId) := by
    intro act db' other same
    exact .inl ⟨same, fun id command acted => absurd acted (other id command)⟩
  cases taken with
  | append done =>
    apply idle (fun _ _ other => by cases other)
    simp only [Db.cursor, (insertOutbox_ok done).2.2]
  | connect => exact idle (fun _ _ other => by cases other) rfl
  | readHead => exact idle (fun _ _ other => by cases other) rfl
  | readCursor => exact idle (fun _ _ other => by cases other) rfl
  | replay => exact idle (fun _ _ other => by cases other) rfl
  | send => exact idle (fun _ _ other => by cases other) rfl
  | poll => exact idle (fun _ _ other => by cases other) rfl
  | stop => exact idle (fun _ _ other => by cases other) rfl
  | @commit id consumer cursor event pending publishedAt result here done =>
    cases result with
    | error failure => exact idle (fun _ _ other => by cases other) rfl
    | ok result =>
      obtain ⟨outcome, db'⟩ := result
      obtain ⟨-, next, -, ⟨rfl, committed⟩ | ⟨other, rfl, -, -⟩⟩ := commitOutboxDelivery_ok done
      · have before := committed.before
        have after := committed.after
        dsimp only at before after next
        by_cases same : consumer.consumerId = consumerId
        · subst same
          right
          refine ⟨?_, id, _, rfl, rfl, after.symm⟩
          exact after.trans (by omega)
        · left
          refine ⟨committed.others consumerId (Ne.symm same), ?_⟩
          intro _ command acted
          cases acted
          exact same
      · apply idle _ rfl
        intro _ _ acted
        cases acted
        exact other rfl

theorem Delivering.replays {acts : List Act} {w : World} (delivering : Delivering acts w) :
    ReplaysContiguous K w := by
  intro id consumer requested outcome w' taken
  cases taken with
  | replay here returned =>
    obtain ⟨replayed, gapless⟩ :=
      replayOutbox_ok delivering.db (delivering.sockets _ _ here) returned.symm
    refine ⟨?_, gapless⟩
    intro replay same
    obtain ⟨cursor, -, follows, events⟩ := replayed replay same
    exact ⟨cursor, follows, events⟩

theorem Delivering.stops {acts : List Act} {w : World} (delivering : Delivering acts w) :
    StopsSafely K w := by
  intro id command outcome w' taken
  generalize acted : Act.commit id command (.ok outcome) = act at taken
  cases taken with
  | @commit _ consumer cursor event pending publishedAt result here done =>
    intro other
    cases result with
    | error failure => cases acted
    | ok result =>
      obtain ⟨answer, db'⟩ := result
      cases acted
      obtain ⟨valid, -, -, ⟨committed, -⟩ | ⟨-, rfl, passed, identity⟩⟩ :=
        commitOutboxDelivery_ok done
      · exact absurd committed other
      · refine ⟨rfl, passed, replayOutbox_stored delivering.db valid identity, ?_⟩
        intro events listed
        exact listOutboxAfter_ok delivering.db listed
  | _ => cases acted

theorem publishedOnce (w : World) : PublishedOnce K w := by
  intro act w' taken row member
  cases taken with
  | append done =>
    refine ⟨row, ?_, rfl, rfl, .inl rfl⟩
    rw [(insertOutbox_ok done).2.1]
    exact List.mem_append_left _ member
  | @commit id consumer cursor event pending publishedAt result here done =>
    cases result with
    | error failure => exact ⟨row, member, rfl, rfl, .inl rfl⟩
    | ok result =>
      obtain ⟨outcome, db'⟩ := result
      obtain ⟨-, -, -, ⟨rfl, committed⟩ | ⟨-, rfl, -, -⟩⟩ := commitOutboxDelivery_ok done
      · refine ⟨row.published event.globalSequence publishedAt, ?_, published_sequence _ _ _, ?_, ?_⟩
        · have rows := committed.events
          exact rows ▸ List.mem_map_of_mem member
        · unfold OutboxEventRecord.published
          split <;> rfl
        · unfold OutboxEventRecord.published
          split
          · rename_i same
            cases time : row.publishedAt with
            | none => exact .inr ⟨rfl, id, _, rfl, same.symm, rfl⟩
            | some _ => exact .inl rfl
          · exact .inl rfl
      · exact ⟨row, member, rfl, rfl, .inl rfl⟩
  | _ => exact ⟨row, member, rfl, rfl, .inl rfl⟩

/-- A publication time that is set never changes. -/
theorem published_kept {acts : List Act} {w w' : World} (run : Run (Step K) w acts w')
    {row : OutboxEventRecord} (member : row ∈ w.db.events.rows) : ∃ row' ∈ w'.db.events.rows,
      row'.globalSequence = row.globalSequence ∧ row'.event = row.event ∧
        ∀ time, row.publishedAt = some time → row'.publishedAt = some time := by
  induction run with
  | nil => exact ⟨row, member, rfl, rfl, fun _ set => set⟩
  | snoc _ taken ih =>
    obtain ⟨row₁, member₁, sequence₁, event₁, time₁⟩ := ih
    obtain ⟨row₂, member₂, sequence₂, event₂, moves⟩ := publishedOnce _ _ _ taken row₁ member₁
    refine ⟨row₂, member₂, sequence₂.trans sequence₁, event₂.trans event₁, ?_⟩
    intro time set
    rcases moves with same | ⟨unset, -⟩
    · exact same.trans (time₁ time set)
    · cases unset.symm.trans (time₁ time set)

/-- No interleaving of appends, replays, sends, commits and crashes makes a consumer skip an
event. -/
theorem outbox_never_skips {acts : List Act} {w : World} (reached : Run (Step K) .empty acts w) :
    CursorsByOne K w ∧ Passed acts w.db ∧ ReplaysContiguous K w ∧ StopsSafely K w ∧
      PublishedOnce K w ∧ ∀ later w', Run (Step K) w later w' → ∀ row ∈ w.db.events.rows,
        ∃ row' ∈ w'.db.events.rows, row'.globalSequence = row.globalSequence ∧
          row'.event = row.event ∧
          ∀ time, row.publishedAt = some time → row'.publishedAt = some time := by
  have delivering := run_delivering reached
  exact ⟨delivering.cursorsByOne, delivering.passed, delivering.replays, delivering.stops,
    publishedOnce w, fun _ _ run _ member => published_kept run member⟩

/-- Crates that take the empty object for JSON. -/
def sampleCrates : FenceCrates where
  sha256 _ := []
  validJson text := text = "\x7b\x7d".toList

def sampleEvent : NewOutboxEvent :=
  ⟨"event".toList, .summaryChanged, "summary".toList, 1, "correlation".toList, "cause".toList, 5,
    "\x7b\x7d".toList, "write".toList⟩

def sampleConsumer : OutboxConsumerIdentity :=
  ⟨"consumer".toList, "principal".toList, "client".toList⟩

def sampleRow : OutboxEventRecord := ⟨1, sampleEvent, none⟩

/-- A store with one event. -/
def sampleDb : Db := ⟨⟨[sampleRow], by decide⟩, .empty⟩

def deliveredDb : Db := ⟨⟨[{ sampleRow with publishedAt := some 7 }], by decide⟩,
  ⟨[⟨"consumer".toList, "principal".toList, "client".toList, 1, 1, 7⟩], by decide⟩⟩

theorem sample_listed : sampleDb.listOutboxAfter sampleCrates 0 = .ok [sampleRow] := by
  have only : (sampleDb.events.rows.filter fun row => decide (0 < row.globalSequence)) =
      [sampleRow] := rfl
  simp only [Db.listOutboxAfter, only, List.mergeSort_singleton]
  decide +kernel

theorem sample_replayed : .ok (.replay ⟨0, 1, [sampleRow]⟩) =
    replayOutbox sampleConsumer 0 1 none (sampleDb.listOutboxAfter sampleCrates 0) := by
  rw [sample_listed]
  decide +kernel

/-- Two sockets of one consumer overlap on one event. -/
theorem outbox_never_skips_sample : ∃ acts w, Run (Step sampleCrates) .empty acts w ∧
    .commit 1 ⟨sampleConsumer, 0, 1, 8⟩ (.ok .alreadyCommitted) ∈ acts ∧
    w.db.cursor sampleConsumer.consumerId = 1 ∧ Passed acts w.db := by
  have appended := (Run.nil World.empty).snoc (@Step.append sampleCrates _ sampleEvent sampleDb rfl)
  have first := ((appended.snoc (@Step.connect _ _ 0 sampleConsumer 0 rfl)).snoc
    (@Step.readHead _ _ 0 sampleConsumer 0 rfl)).snoc (@Step.readCursor _ _ 0 sampleConsumer 0 1 rfl)
  have second := ((first.snoc (@Step.connect _ _ 1 sampleConsumer 0 rfl)).snoc
    (@Step.readHead _ _ 1 sampleConsumer 0 rfl)).snoc (@Step.readCursor _ _ 1 sampleConsumer 0 1 rfl)
  have replayed := (second.snoc (@Step.replay _ _ 0 _ _ _ _ _ rfl sample_replayed)).snoc
    (@Step.replay _ _ 1 _ _ _ _ _ rfl sample_replayed)
  have sent := (replayed.snoc (@Step.send _ _ 0 sampleConsumer 0 sampleRow [] rfl)).snoc
    (@Step.send _ _ 1 sampleConsumer 0 sampleRow [] rfl)
  have committed := (sent.snoc (@Step.commit _ _ 0 sampleConsumer 0 sampleRow [] 7
    (.ok (.committed, deliveredDb)) rfl rfl)).snoc (@Step.commit _ _ 1 sampleConsumer 0 sampleRow []
    8 (.ok (.alreadyCommitted, deliveredDb)) rfl rfl)
  refine ⟨_, _, committed, ?_, rfl, (outbox_never_skips committed).2.1⟩
  apply List.mem_append_right
  exact List.mem_singleton.mpr rfl

end CarsinOS.Transport
