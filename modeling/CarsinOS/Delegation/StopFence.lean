import CarsinOS.Delegation.Histories

/-! The stops fence the continuations that were there when they committed. -/
namespace CarsinOS.Delegation
open CarsinOS.Lib CarsinOS.Integrity CarsinOS.Receipt

variable {guarded : Prop}

/-- A gate of the execution lets a continuation through. -/
inductive PassesGate (K : FenceCrates) (setDigest : ReservationSetDigest) (s : Store)
    (c : ContinuationRecord) : Prop where
  | claimed {J : Coordinator} {outside : ClaimOutside} {command : ContinuationClaimCommand}
      {draft : ClaimDraft} {s' : Store} (found : s.getContinuation command.continuationId = some c)
      (done : claimContinuation K J outside command s = .ok (.claimed draft, s'))
  | dispatched {command : ContinuationDispatchValidationCommand} {s' : Store}
      (found : s.getContinuation command.identity.continuationId = some c)
      (done : validateContinuationPreDispatch K setDigest command s = .ok (.valid, s'))
  | began {command : BeginProviderAttemptInvocationCommand} {attempt : ProviderAttemptRecord}
      {s' : Store} (found : s.getContinuation command.claim.continuationId = some c)
      (done : beginProviderAttemptInvocation K setDigest command s = .ok (.began attempt, s'))

theorem claimContinuation_claimed {K : FenceCrates} {J : Coordinator} {outside : ClaimOutside}
    {command : ContinuationClaimCommand} {draft : ClaimDraft} {s s' : Store}
    (done : claimContinuation K J outside command s = .ok (.claimed draft, s')) :
    ∃ c action, s.getContinuation command.continuationId = some c ∧ c.status = .runnable ∧
      s.objectiveDrift c action .runnable = none := by
  simp only [claimContinuation, bind_ok] at done
  obtain ⟨-, -, ⟨written, t⟩, ran, outcome, mapped, same⟩ := done
  obtain ⟨rfl, rfl⟩ := Prod.mk.inj (Except.ok.inj same)
  rcases mutate_cases ran with ⟨rfl, -⟩ | ⟨value, -, rfl⟩ | ⟨value, next, -, step, rfl, -⟩
  · cases mapped
  · cases value <;> cases mapped
  · cases value <;> cases mapped
    unfold claimMutation at step
    split at step
    · split at step <;> cases step
    split at step
    · cases step
    split at step
    · cases step
    split at step
    · cases step
    rename_i c found
    split at step
    · cases step
    split at step
    · cases step
    rename_i runnable
    unfold claimRunnable at step
    split at step
    · cases step
    rename_i action _
    split at step
    · cases step
    simp only [bind_ok] at step
    obtain ⟨-, -, _, -, -, -, -, -, step⟩ := step
    split at step
    · simp only [bind_ok] at step
      obtain ⟨-, -, _, -, _, -, same⟩ := step
      cases same
    · rename_i current
      exact ⟨c, action, found, not_not.mp runnable, current⟩

theorem preDispatch_valid {K : FenceCrates} {setDigest : ReservationSetDigest}
    {command : ContinuationDispatchValidationCommand} {s s' : Store}
    (done : validateContinuationPreDispatch K setDigest command s = .ok (.valid, s')) :
    ∃ c action, s.validateClaimIdentityLive K setDigest command.identity command.trustedNow =
      .ok (c, action) ∧ s.objectiveDrift c action .executing = none := by
  simp only [validateContinuationPreDispatch, bind_ok] at done
  obtain ⟨-, -, -, -, done⟩ := done
  split at done
  · cases done
  rename_i c action live
  split at done
  · cases done
  · rename_i current
    exact ⟨c, action, live, current⟩

theorem beginProviderAttempt_began {K : FenceCrates} {setDigest : ReservationSetDigest}
    {command : BeginProviderAttemptInvocationCommand} {attempt : ProviderAttemptRecord}
    {s s' : Store}
    (done : beginProviderAttemptInvocation K setDigest command s = .ok (.began attempt, s')) :
    ∃ c action, s.validateClaimIdentityLive K setDigest command.claim command.trustedNow =
      .ok (c, action) ∧ s.objectiveDrift c action .executing = none := by
  simp only [beginProviderAttemptInvocation, bind_ok] at done
  obtain ⟨-, -, -, -, done⟩ := done
  split at done
  · cases done
  split at done
  · cases done
  split at done
  · cases done
  split at done
  · cases done
  split at done
  · cases done
  rename_i c action live
  split at done
  · cases done
  · rename_i current
    exact ⟨c, action, live, current⟩

theorem passesGate_stored {K : FenceCrates} {setDigest : ReservationSetDigest} {s : Store}
    {c : ContinuationRecord} (passes : PassesGate K setDigest s c) : c ∈ s.continuations.rows := by
  cases passes <;> rename_i found _ <;> exact Table.find?_mem found

/-- The revision and the epochs a continuation was frozen for are live where it passes. -/
theorem passesGate_live {K : FenceCrates} {setDigest : ReservationSetDigest} {s : Store}
    {c : ContinuationRecord} (passes : PassesGate K setDigest s c) :
    ∃ d, s.getDelegation c.delegationId = some d ∧
      d.stateRevision = c.targetDelegationRevision ∧
      s.globalControl.globalStopEpoch = c.globalStopEpoch := by
  have live : ∃ action status, s.objectiveDrift c action status = none := by
    cases passes with
    | claimed found done =>
      obtain ⟨c', action, found', -, current⟩ := claimContinuation_claimed done
      rw [found] at found'
      cases found'
      exact ⟨action, .runnable, current⟩
    | dispatched found done =>
      obtain ⟨c', action, live, current⟩ := preDispatch_valid done
      rw [(validateClaimIdentityLive_ok K setDigest live).1] at found
      cases found
      exact ⟨action, .executing, current⟩
    | began found done =>
      obtain ⟨c', action, live, current⟩ := beginProviderAttempt_began done
      rw [(validateClaimIdentityLive_ok K setDigest live).1] at found
      cases found
      exact ⟨action, .executing, current⟩
  obtain ⟨action, status, current⟩ := live
  obtain ⟨d, found, -, -, revision, -, epoch, -⟩ := objectiveDrift_none current
  exact ⟨d, found, revision, epoch⟩

/-! What a stop commits. -/

theorem moveRunControl_advances {outside : RunControlOutside} {current : DelegationRecord}
    {selected : RunControlState} {stopEpoch trustedNow : Int} {reason : Text}
    {event : NewOutboxEvent} {s s' : Store} (found : current ∈ s.delegations.rows)
    (done : s.moveRunControl outside current selected stopEpoch reason event trustedNow = .ok s') :
    ∃ after ∈ s'.delegations.rows, after.delegationId = current.delegationId ∧
      current.stateRevision < after.stateRevision := by
  simp only [Store.moveRunControl, bind_ok] at done
  obtain ⟨revision, next, s₁, moved, -, -, s₂, sent, recorded⟩ := done
  obtain ⟨_, rfl⟩ := insertOutbox_ok sent
  obtain ⟨_, rfl⟩ := recordTransition_ok recorded
  exact ⟨_, updated_hit moved found (by simp), rfl, by simp [checkedNext_ok next]⟩

theorem requestDelegationStop_commits {K : FenceCrates} {J : Coordinator}
    {outside : RunControlOutside} {command : RequestDelegationStopCommand} {d : DelegationRecord}
    {s s' : Store}
    (done : requestDelegationStop K J outside command s = .ok (.committed .stopRequested d, s')) :
    ∃ before ∈ s.delegations.rows, before.delegationId = command.delegationId ∧
      ∃ after ∈ s'.delegations.rows, after.delegationId = command.delegationId ∧
        before.stateRevision < after.stateRevision := by
  simp only [requestDelegationStop, bind_ok] at done
  obtain ⟨-, -, done⟩ := done
  split at done
  · cases done
  simp only [bind_ok] at done
  obtain ⟨⟨written, t⟩, ran, same⟩ := done
  obtain ⟨mapped, rfl⟩ := Prod.mk.inj (Except.ok.inj same)
  have kind : written = .appended .stopRequested ∨ written = .noAppend .stopRequested := by
    unfold mapMutation at mapped
    split at mapped
    · cases mapped
    · cases written <;> cases mapped
      · exact .inl rfl
      · exact .inr rfl
  have step : ∃ m next, stopMutation outside command s = .ok (m, next) ∧
      (m = .append .stopRequested ∧ t.delegations = next.delegations ∨
        m = .noAppend .stopRequested) := by
    rcases mutate_cases ran with ⟨rfl, -⟩ | ⟨value, step, rfl⟩ | ⟨value, next, _, step, rfl, rfl, -⟩
    · rcases kind with kind | kind <;> cases kind
    · rcases kind with kind | kind <;> cases kind
      exact ⟨_, _, step, .inr rfl⟩
    · rcases kind with kind | kind <;> cases kind
      exact ⟨_, _, step, .inl ⟨rfl, rfl⟩⟩
  obtain ⟨m, next, step, written⟩ := step
  simp only [stopMutation, bind_ok] at step
  obtain ⟨-, -, step⟩ := step
  split at step
  · simp only [bind_ok] at step
    obtain ⟨-, -, same⟩ := step
    cases same
    rcases written with ⟨written, -⟩ | written <;> cases written
  simp only [bind_ok, required_ok] at step
  obtain ⟨-, -, current, found, step⟩ := step
  split at step
  · cases step
    rcases written with ⟨written, -⟩ | written <;> cases written
  split at step
  · cases step
    rcases written with ⟨written, -⟩ | written <;> cases written
  simp only [bind_ok] at step
  obtain ⟨-, -, -, -, epoch, -, u, moved, same⟩ := step
  cases same
  rcases written with ⟨-, kept⟩ | written
  · have member := Table.find?_mem found
    have key : current.delegationId = command.delegationId := Table.find?_key found
    obtain ⟨after, present, named, advanced⟩ := moveRunControl_advances member moved
    exact ⟨current, member, key, after, by rw [kept]; exact present, named.trans key, advanced⟩
  · cases written

theorem engageGlobalStop_commits {K : FenceCrates} {J : Coordinator} {outside : RunControlOutside}
    {command : EngageGlobalStopCommand} {s s' : Store}
    (done : engageGlobalStop K J outside command s = .ok (.engaged, s')) :
    s'.globalControl.globalStopEpoch = s.globalControl.globalStopEpoch + 1 := by
  simp only [engageGlobalStop, bind_ok] at done
  obtain ⟨-, -, -, -, ⟨written, t⟩, ran, outcome, mapped, same⟩ := done
  obtain ⟨rfl, rfl⟩ := Prod.mk.inj (Except.ok.inj same)
  have step : ∃ m next, engageMutation outside command s = .ok (m, next) ∧
      (m = .append .engaged ∧ t.globalControl = next.globalControl ∨ m = .noAppend .engaged) := by
    rcases mutate_cases ran with ⟨rfl, -⟩ | ⟨value, step, rfl⟩ | ⟨value, next, _, step, rfl, rfl, -⟩
    · cases mapped
    · cases mapped
      exact ⟨_, _, step, .inr rfl⟩
    · cases mapped
      exact ⟨_, _, step, .inl ⟨rfl, rfl⟩⟩
  obtain ⟨m, next, step, written⟩ := step
  unfold engageMutation at step
  split at step
  · cases step
    rcases written with ⟨written, -⟩ | written <;> cases written
  split at step
  · cases step
    rcases written with ⟨written, -⟩ | written <;> cases written
  split at step
  · cases step
    rcases written with ⟨written, -⟩ | written <;> cases written
  simp only [bind_ok] at step
  obtain ⟨-, -, epoch, next, -, -, -, -, u, sent, same⟩ := step
  cases same
  rcases written with ⟨-, kept⟩ | written
  · obtain ⟨_, rfl⟩ := insertOutbox_ok sent
    rw [kept]
    exact checkedNext_ok next
  · cases written

/-! What a stop fences. -/

/-- In no history from here does a gate let one of these continuations through. -/
def StaysFenced (guarded : Prop) (K : FenceCrates) (setDigest : ReservationSetDigest) (s : Store)
    (rows : List ContinuationRecord) : Prop :=
  ∀ labels t, History guarded K setDigest s labels t → ∀ c, PassesGate K setDigest t c →
    ∀ c₀ ∈ rows, ¬SameFence c₀ c

theorem stop_fences {K : FenceCrates} {setDigest : ReservationSetDigest} {J : Coordinator}
    {outside : RunControlOutside} {command : RequestDelegationStopCommand} {d : DelegationRecord}
    {s s' : Store} (fenced : Fenced guarded s)
    (done : requestDelegationStop K J outside command s = .ok (.committed .stopRequested d, s')) :
    StaysFenced guarded K setDigest s'
      (s.continuations.rows.filter (·.delegationId = command.delegationId)) := by
  intro labels t history c passes c₀ member same
  simp only [List.mem_filter, decide_eq_true_eq] at member
  obtain ⟨-, -, -, owner, target, -⟩ := same
  obtain ⟨before, present, named, after, present', named', advanced⟩ :=
    requestDelegationStop_commits done
  -- The continuation was frozen for a revision the stop has left behind.
  obtain ⟨d₀, stored, key, frozen⟩ := fenced.owned c₀ member.1
  have sole : d₀ = before := Table.eq_of_key stored present (by rw [key, member.2, named])
  subst sole
  obtain ⟨-, later⟩ := history_later history (requestDelegationStop_sound done fenced).1
  obtain ⟨last, lasting, identity, grows⟩ := later.delegations after present'
  obtain ⟨live, found, revision, -⟩ := passesGate_live passes
  have current : live = last :=
    getDelegation_unique found lasting (by
      rw [identity, named', ← member.2, ← owner, ← Table.find?_key found]) |>.symm
  subst current
  omega

theorem engage_fences {K : FenceCrates} {setDigest : ReservationSetDigest} {J : Coordinator}
    {outside : RunControlOutside} {command : EngageGlobalStopCommand} {s s' : Store}
    (fenced : Fenced True s)
    (done : engageGlobalStop K J outside command s = .ok (.engaged, s')) :
    StaysFenced True K setDigest s' s.continuations.rows := by
  intro labels t history c passes c₀ member same
  obtain ⟨-, -, -, -, -, -, -, -, -, -, -, epoch, -⟩ := same
  have begun := (fenced.epochs trivial).1 c₀ member
  have engaged := engageGlobalStop_commits done
  obtain ⟨-, later⟩ := history_later history (engageGlobalStop_sound done fenced).1
  have grows := later.epoch
  obtain ⟨-, -, -, live⟩ := passesGate_live passes
  omega

/-- In every history that creates no continuation for a global stop epoch to come, a stop fences the
continuations of its delegation, a global stop fences all, and the epochs count the stops. -/
theorem stops_fence_continuations {K : FenceCrates} {setDigest : ReservationSetDigest}
    {labels : List (Option Command)} {s : Store}
    (reached : History True K setDigest Store.initial labels s) :
    (∀ J outside command d s',
      requestDelegationStop K J outside command s = .ok (.committed .stopRequested d, s') →
        StaysFenced True K setDigest s'
          (s.continuations.rows.filter (·.delegationId = command.delegationId))) ∧
      (∀ J outside command s', engageGlobalStop K J outside command s = .ok (.engaged, s') →
        StaysFenced True K setDigest s' s.continuations.rows) ∧
      ∀ label s', EpochsBegun s label → Step K setDigest s label s' →
        Progress (swapsState label) s s' := by
  obtain ⟨fenced, -⟩ := history_later reached initial_fenced
  refine ⟨fun J outside command d s' done => stop_fences fenced done,
    fun J outside command s' done => engage_fences fenced done,
    fun label s' begun step => ?_⟩
  exact (step_sound step (fun _ => begun) fenced).2

/-! The texts and the rows of the histories that show it. -/

/-- The status a global control discloses in the payload of its event. -/
def controlPayload (engaged drainState operation : String) : Text :=
  -- short pieces, since the kernel reads a literal in quadratic time
  ["\x7b\"current_policy", "_revision\":1,\"", "drain_state\":\"", drainState, "\",\"engaged\":",
    engaged, ",\"global_stop_", "epoch\":1,\"", "operation\":\"", operation,
    "\",\"unresolved_", "external_effects", "_digest\":\"sha256:", "4f53cda18c2baa0c",
    "0354bb5f9a3ecbe5", "ed12ab4d8e11ba87", "3c2f11161202b945", "\"\x7d"].flatMap String.toList

/-- The crates on the texts of the histories below. -/
def sampleCrates : FenceCrates where
  sha256 bytes := Sha256.hex (Sha256.digest bytes)
  validJson text := ["\x7b\x7d".toList, controlPayload "true" "drained" "engaged",
    controlPayload "false" "running" "resumed"].contains text

/-- The same crates, with a digest the kernel computes fast. -/
def fastSampleCrates : FenceCrates :=
  { sampleCrates with sha256 := fun bytes => Sha256.hex (Sha256.digestNat bytes) }

theorem sampleCrates_fast : sampleCrates = fastSampleCrates := by
  have digests : sampleCrates.sha256 = fastSampleCrates.sha256 := by
    funext bytes
    exact congrArg Sha256.hex (Sha256.digest_nat bytes)
  exact congrArg (fun digest => FenceCrates.mk digest sampleCrates.validJson) digests

def sampleWrite (id : Text) (occurredAt : Int) : WriteContext := ⟨id, id, id, occurredAt⟩

def sampleEvent (id aggregateId payload : Text) (name : OutboxEventName)
    (revision occurredAt : Int) : NewOutboxEvent :=
  ⟨id, name, aggregateId, revision, id, id, occurredAt, payload, id⟩

def sampleReceipt (id delegationId : Text) (kind : ReceiptKind) (subject : ReceiptSubject)
    (revision occurredAt : Int) : AppendReceiptCommand where
  receiptId := "receipt-".toList ++ id
  transactionId := "transaction-".toList ++ id
  stateRootGeneration := 1
  delegationId
  expectedStateRevision := revision
  expectedGlobalCount := 0
  expectedGlobalHeadDigest := none
  expectedDelegationCount := 0
  expectedDelegationHeadDigest := none
  receiptKind := kind
  subject
  causationId := id
  causationEventId := id
  actor := ⟨"runtime".toList, "actor".toList, "authority".toList⟩
  runtime := ⟨1, "host".toList, 1⟩
  key := ⟨"key".toList, 1⟩
  rotation := none
  evidence := []
  redactedSummary := "summary".toList
  occurredAt
  committedAt := occurredAt

def sampleContinuation (globalStopEpoch : Int) : ContinuationRecord where
  continuationId := "c".toList
  delegationId := "d".toList
  targetDelegationRevision := 1
  targetPlanRevision := 1
  actionId := "a".toList
  branchKind := .ordinary
  causationKind := .intake
  causationId := "intake".toList
  status := .runnable
  jobId := none
  leaseOwner := none
  leaseExpiresAt := none
  fencingToken := 0
  hostGeneration := 1
  stopEpoch := 0
  globalStopEpoch
  createdAt := 1
  updatedAt := 1
  completedAt := none

def sampleFoundation (continuation : ContinuationRecord) : CreateFoundationCommand where
  write := sampleWrite "intake".toList 1
  ingressIdempotencyKey := "intake".toList
  delegation := { globalControlCarrier with
    delegationId := "d".toList
    phase := .inMotion
    currentPlanRevision := some 1
    currentCriteriaRevision := some 1
    authorityProvenanceId := "owner".toList }
  plan := ⟨"plan".toList, "d".toList, 1, 1, 1, "summary".toList, "\x7b\x7d".toList,
    "digest".toList, "owner".toList⟩
  outcomeCriteria := [⟨"criterion".toList, "d".toList, 1, "key".toList, "description".toList,
    "\x7b\x7d".toList, "source".toList⟩]
  initialContinuation := some continuation
  outboxEvent := sampleEvent "intake".toList "d".toList "\x7b\x7d".toList .delegationTransitioned 1 1

def granted : Anyhow Unit := .ok ()

def sampleCoordinator : Coordinator := ⟨true, true, true⟩

/-- A delegation with one runnable continuation, whose job a worker of a live host has leased. -/
def leasedFoundation (globalStopEpoch : Int) : List Command := [
  .createFoundation ⟨granted, none, false, false, granted⟩ .intake
    (sampleFoundation (sampleContinuation globalStopEpoch)),
  .materializeJobs true 2 10,
  .activateHost true "host".toList 1 3,
  .acquireJobs "worker".toList 4 1000 10]

def sampleEngage : EngageGlobalStopCommand where
  expectedGlobalStopEpoch := 0
  trustedNow := 5
  outboxEvent := sampleEvent "engage".toList GLOBAL_STOP_AGGREGATE_ID
    (controlPayload "true" "drained" "engaged") .globalStopChanged 1 5
  receipt := sampleReceipt "engage".toList GLOBAL_STOP_RECEIPT_CARRIER_ID .globalStop
    ⟨.globalRuntimeControl, GLOBAL_STOP_AGGREGATE_ID, 1⟩ 1 5

def noEffectsDigest : Text :=
  ["sha256:", "4f53cda18c2baa0c", "0354bb5f9a3ecbe5", "ed12ab4d8e11ba87",
    "3c2f11161202b945"].flatMap String.toList

def sampleControl : RunControlOutside :=
  ⟨granted, granted, none, noEffectsDigest, granted, true⟩

def sampleResumeGlobal : ResumeGlobalStopCommand where
  expectedGlobalStopEpoch := 1
  expectedPolicyRevision := 1
  disclosedUnresolvedExternalEffectsDigest := noEffectsDigest
  trustedNow := 6
  outboxEvent := sampleEvent "resume".toList GLOBAL_STOP_AGGREGATE_ID
    (controlPayload "false" "running" "resumed") .globalStopChanged 1 6
  receipt := sampleReceipt "resume".toList GLOBAL_STOP_RECEIPT_CARRIER_ID .globalStop
    ⟨.globalRuntimeControl, GLOBAL_STOP_AGGREGATE_ID, 1⟩ 1 6

def sampleClaim : ContinuationClaimCommand where
  write := sampleWrite "claim".toList 7
  continuationId := "c".toList
  jobId := deterministicContinuationJobId sampleCrates "c".toList
  workerId := "worker".toList
  jobLeaseExpiresAt := 1004
  trustedNow := 7
  outboxEvent := sampleEvent "claim".toList "d".toList "\x7b\x7d".toList
    .continuationClaimedOrResultRecorded 1 7
  receipt := { sampleReceipt "claim".toList "d".toList .continuation
      ⟨.continuation, "c".toList, 1⟩ 1 7 with
    actor := ⟨"runtime".toList,
      "execass-runtime-".toList ++ runtimeIdentityHex sampleCrates ⟨1, 1, "host".toList, 1⟩ 1,
      "runtime-authority-".toList ++ runtimeIdentityHex sampleCrates ⟨1, 1, "host".toList, 1⟩ 1⟩ }

def sampleDigest : ReservationSetDigest := resourceIdentitySetDigest sampleCrates

def sampleClaimOutside : ClaimOutside :=
  ⟨granted, .ok (some ⟨none, none, [], sampleDigest []⟩)⟩

def isClaimed : ContinuationClaimOutcome → Bool
  | .claimed _ => true
  | _ => false

/-- A global stop after a foundation fences its continuation. -/
theorem stops_fence_founded : ∃ s s', (∃ labels,
      History True sampleCrates sampleDigest Store.initial labels s) ∧
    engageGlobalStop sampleCrates sampleCoordinator sampleControl sampleEngage s =
      .ok (.engaged, s') ∧ s.continuations.rows.length = 1 ∧
    StaysFenced True sampleCrates sampleDigest s' s.continuations.rows := by
  have run : (do
      let s ← runAll sampleCrates sampleDigest (leasedFoundation 0) Store.initial
      let (stopped, _) ← engageGlobalStop sampleCrates sampleCoordinator sampleControl
        sampleEngage s
      ensure (stopped = .engaged ∧ s.continuations.rows.length = 1) "" : Anyhow Unit) =
        .ok () := by
    rw [sampleDigest, sampleCrates_fast]
    decide +kernel
  simp only [bind_ok, ensure_ok] at run
  obtain ⟨s, before, ⟨stopped, s'⟩, done, rfl, present⟩ := run
  have reached := runAll_history True before initial_fenced fun _ command member c
    created => by
      simp only [leasedFoundation, List.mem_cons, List.not_mem_nil, or_false] at member
      rcases member with rfl | rfl | rfl | rfl <;> cases created
      exact le_rfl
  exact ⟨s, s', ⟨_, reached⟩, done, present,
    (stops_fence_continuations reached).2.1 _ _ _ _ done⟩

/-- A continuation founded for the epoch after the next stop is claimed once that stop is over. -/
theorem future_epoch_outlives_stop : ∃ s s', (∃ labels,
      History False sampleCrates sampleDigest Store.initial labels s) ∧
    engageGlobalStop sampleCrates sampleCoordinator sampleControl sampleEngage s =
      .ok (.engaged, s') ∧
    ¬StaysFenced False sampleCrates sampleDigest s' s.continuations.rows := by
  have run : (do
      let s ← runAll sampleCrates sampleDigest (leasedFoundation 1) Store.initial
      let (stopped, s') ← engageGlobalStop sampleCrates sampleCoordinator sampleControl
        sampleEngage s
      ensure (stopped = .engaged) ""
      let t ← runAll sampleCrates sampleDigest
        [.resumeGlobal sampleCoordinator sampleControl sampleResumeGlobal] s'
      let (claimed, _) ← claimContinuation sampleCrates sampleCoordinator sampleClaimOutside
        sampleClaim t
      ensure (isClaimed claimed = true) ""
      ensure (∃ c ∈ t.getContinuation sampleClaim.continuationId, ∃ c₀ ∈ s.continuations.rows,
        SameFence c₀ c) "" : Anyhow Unit) = .ok () := by
    rw [sampleClaimOutside, sampleClaim, sampleDigest, sampleCrates_fast]
    decide +kernel
  simp only [bind_ok, ensure_ok] at run
  obtain ⟨s, before, ⟨stopped, s'⟩, done, -, rfl, t, after, ⟨claimed, u⟩, claims, -, isClaim, c, found,
    c₀, present, same⟩ := run
  have reached := runAll_history False before initial_fenced fun impossible =>
    impossible.elim
  obtain ⟨fenced, -⟩ := history_later reached initial_fenced
  refine ⟨s, s', ⟨_, reached⟩, done, fun stays => ?_⟩
  have later := runAll_history False after (engageGlobalStop_sound done fenced).1
    fun impossible => impossible.elim
  cases claimed <;> try cases isClaim
  exact stays _ _ later c (.claimed found claims) c₀ present same

end CarsinOS.Delegation
