import CarsinOS.Delegation.Faithful

/-! What becomes of a retry a recovery grants. -/
namespace CarsinOS.Delegation
open CarsinOS.Lib CarsinOS.Integrity CarsinOS.Receipt

theorem evaluateProviderRecovery_ok {K : FenceCrates} {planned : Anyhow RecoveryFacts}
    {payload : Text} {command : ProviderRecoveryCommand} {postRevision : Int} {s s' : Store}
    {evaluation : ObjectiveRecoveryEvaluation}
    (done : evaluateProviderRecovery K planned payload command postRevision s =
      .ok (evaluation, s')) :
    ∃ outboxEvents recoveryEvaluations, s' = { s with outboxEvents, recoveryEvaluations } := by
  simp only [evaluateProviderRecovery, bind_ok] at done
  obtain ⟨_, -, _, -, -, -, -, -, _, -, done⟩ := done
  split at done
  · cases done
    exact ⟨_, _, rfl⟩
  · simp only [bind_ok] at done
    obtain ⟨s₁, sent, s₂, inserted, same⟩ := done
    cases same
    obtain ⟨_, rfl⟩ := insertOutbox_ok sent
    simp only [Store.insertRecoveryEvaluation, bind_ok] at inserted
    obtain ⟨-, -, inserted⟩ := inserted
    split at inserted <;> cases inserted
    exact ⟨_, _, rfl⟩

/-- What a directive writes are branches, attention items, waits and assessments. -/
theorem projectDirective_ok {K : FenceCrates} {d : DelegationRecord} {plan : Int}
    {actionId : Text} {facts : RecoveryFacts} {evaluation : ObjectiveRecoveryEvaluation}
    {command : ProviderRecoveryCommand} {firstAttemptAt postRevision : Int} {s s' : Store}
    {shown : Option Text × Option Text}
    (done : s.projectDirective K d plan actionId facts evaluation command firstAttemptAt
      postRevision = .ok (shown, s')) :
    ∃ actionBranches attentionItems externalWaits completionAssessments, s' = { s with
      actionBranches, attentionItems, externalWaits, completionAssessments } := by
  unfold Store.projectDirective at done
  split at done
  case h_1 | h_2 =>
    simp only [bind_ok, Store.openRecoveryBranch, Store.supersedeRecoveryBranches] at done
    obtain ⟨s₁, ⟨s₂, superseded, inserted⟩, same⟩ := done
    cases same
    cases updateBranches_ok superseded
    obtain ⟨_, rfl⟩ := insertBranch_ok inserted
    exact ⟨_, _, _, _, rfl⟩
  case h_3 =>
    simp only [bind_ok, Store.promoteReplanCandidate, Store.supersedeRecoveryBranches] at done
    obtain ⟨s₁, ⟨s₂, superseded, candidate, -, promoted⟩, same⟩ := done
    cases same
    cases updateBranches_ok superseded
    cases updateBranches_ok promoted
    exact ⟨_, _, _, _, rfl⟩
  case h_4 =>
    simp only [bind_ok] at done
    obtain ⟨s₁, inserted, same⟩ := done
    cases same
    obtain ⟨_, rfl⟩ := insertWait_ok inserted
    exact ⟨_, _, _, _, rfl⟩
  case h_5 =>
    simp only [bind_ok] at done
    obtain ⟨s₁, inserted, same⟩ := done
    cases same
    unfold Store.insertRecoveryAttention at inserted
    dsimp only at inserted
    split at inserted
    · obtain ⟨_, rfl⟩ := insertAttention_ok inserted
      exact ⟨_, _, _, _, rfl⟩
    · simp only [bind_ok] at inserted
      obtain ⟨-, -, same⟩ := inserted
      cases same
      exact ⟨_, _, _, _, rfl⟩
  case h_6 | h_7 =>
    simp only [bind_ok] at done
    obtain ⟨_, -, s₁, inserted, same⟩ := done
    cases same
    obtain ⟨_, rfl⟩ := insertAssessment_ok inserted
    exact ⟨_, _, _, _, rfl⟩

/-- A recovery advances its delegation and leaves the continuations as they are. -/
theorem projectRecoveryLifecycle_advances {K : FenceCrates} {facts : RecoveryFacts}
    {command : ProviderRecoveryCommand} {evaluation : ObjectiveRecoveryEvaluation} {s s' : Store}
    {phase : DelegationPhase}
    (done : projectRecoveryLifecycle K facts command evaluation
      (command.expectedPreStateRevision + 1) s = .ok (phase, s')) :
    s'.continuations = s.continuations ∧ s'.logicalEffects = s.logicalEffects ∧
      ∃ effect, s.logicalEffects.find? command.logicalEffectId = some effect ∧
        ∃ before ∈ s.delegations.rows, before.delegationId = effect.delegationId ∧
          ∃ after ∈ s'.delegations.rows, after.delegationId = effect.delegationId ∧
            before.stateRevision < after.stateRevision := by
  simp only [projectRecoveryLifecycle, bind_ok, required_ok] at done
  obtain ⟨effect, stored, d, found, c, -, first, -, plan, -, -, -, s₁, left, ⟨shown, s₂⟩, projected,
    s₃, advanced, s₄, recorded, same⟩ := done
  obtain ⟨-, rfl⟩ := Prod.mk.inj (Except.ok.inj same)
  simp only [Store.leaveRecoverySource, bind_ok] at left
  obtain ⟨t, updated, -, -, same⟩ := left
  cases same
  cases updateBranches_ok updated
  obtain ⟨_, _, _, _, rfl⟩ := projectDirective_ok projected
  obtain ⟨moved, d', present, hit⟩ := advanceDelegation_ok advanced
  have row := updated_hit moved present hit
  obtain ⟨-, rfl⟩ := updateDelegations_ok moved
  obtain ⟨_, rfl⟩ := recordTransition_ok recorded
  simp only [Bool.and_eq_true, decide_eq_true_eq] at hit
  have key : d.delegationId = effect.delegationId := Table.find?_key found
  have owner : d'.delegationId = effect.delegationId := hit.1.1.trans key
  refine ⟨rfl, rfl, effect, stored, d', present, owner, _, row, owner, ?_⟩
  have revision := hit.1.2
  simp only
  omega

/-- What a committed recovery did. -/
theorem applyProviderRecovery_applied {K : FenceCrates} {J : Coordinator}
    {planned : Anyhow RecoveryFacts} {payload : Text} {command : ProviderRecoveryCommand}
    {s s' : Store} {evaluation : ObjectiveRecoveryEvaluation} {phase : DelegationPhase}
    (done : applyProviderRecovery K J planned payload command s =
      .ok (.applied evaluation phase, s')) :
    s'.continuations = s.continuations ∧ s'.logicalEffects = s.logicalEffects ∧
      ∃ effect, s.logicalEffects.find? command.logicalEffectId = some effect ∧
        ∃ before ∈ s.delegations.rows, before.delegationId = effect.delegationId ∧
          ∃ after ∈ s'.delegations.rows, after.delegationId = effect.delegationId ∧
            before.stateRevision < after.stateRevision := by
  simp only [applyProviderRecovery, bind_ok] at done
  obtain ⟨-, -, ⟨written, t⟩, ran, outcome, mapped, same⟩ := done
  obtain ⟨rfl, rfl⟩ := Prod.mk.inj (Except.ok.inj same)
  rcases mutate_cases ran with ⟨rfl, -⟩ | ⟨value, -, rfl⟩ | ⟨value, next, -, step, rfl, rfl, -⟩
  · cases mapped
  · cases value <;> cases mapped
  · unfold recoveryMutation at step
    split at step
    · cases step
    · simp only [bind_ok] at step
      obtain ⟨⟨evaluated, s₁⟩, evaluates, facts, -, ⟨selected, s₂⟩, projected, -, -, same⟩ := step
      cases same
      obtain ⟨_, _, rfl⟩ := evaluateProviderRecovery_ok evaluates
      have advances := projectRecoveryLifecycle_advances projected
      exact advances

/-- A later state without a change to a delegation: its row is the same, and its continuations are
the ones it had, under whatever leases. -/
structure Undisturbed (delegationId : Text) (s s' : Store) : Prop where
  delegation : ∀ d ∈ s.delegations.rows, d.delegationId = delegationId → d ∈ s'.delegations.rows
  continuations : ∀ c ∈ s'.continuations.rows, c.delegationId = delegationId →
    ∃ c₀ ∈ s.continuations.rows, SameFence c₀ c

/-- No invocation of an undisturbed delegation begins after a recovery: the recovery has advanced the
revision its continuations are frozen for. -/
theorem recovered_never_begins {K : FenceCrates} {setDigest : ReservationSetDigest}
    {labels : List (Option Command)} {s s' : Store} {J : Coordinator}
    {planned : Anyhow RecoveryFacts} {payload : Text} {command : ProviderRecoveryCommand}
    {evaluation : ObjectiveRecoveryEvaluation} {phase : DelegationPhase}
    (reached : Run (Step K setDigest) Store.initial labels s)
    (committed : applyProviderRecovery K J planned payload command s =
      .ok (.applied evaluation phase, s')) {effect : LogicalEffectRecord}
    (effected : s'.logicalEffects.find? command.logicalEffectId = some effect) {t : Store}
    (undisturbed : Undisturbed effect.delegationId s' t) {c : ContinuationRecord}
    (owned : c.delegationId = effect.delegationId) : ¬PassesGate K setDigest t c := by
  intro passes
  have history : History False K setDigest Store.initial labels s :=
    run_mono (fun _ _ _ step => ⟨fun impossible => impossible.elim, step⟩) reached
  obtain ⟨fenced, -⟩ := history_later history initial_fenced
  obtain ⟨kept, effects, effect', stored, before, present, named, after, present', named', advanced⟩ :=
    applyProviderRecovery_applied committed
  rw [effects, stored] at effected
  cases effected
  obtain ⟨live, found, revision, -⟩ := passesGate_live passes
  obtain ⟨c₀, old, same⟩ := undisturbed.continuations c (passesGate_stored passes) owned
  obtain ⟨-, -, -, owner, target, -⟩ := same
  rw [kept] at old
  -- The continuation was there before the recovery, so it targets a revision no later.
  obtain ⟨d₀, owning, key, frozen⟩ := fenced.owned c₀ old
  obtain rfl := Table.eq_of_key owning present (by rw [key, ← owner, owned, named])
  have current := getDelegation_unique found
    (undisturbed.delegation after present' named') (by
      rw [named', ← owned, ← Table.find?_key found])
  subst current
  omega

theorem prepareProviderAttempt_ok {K : FenceCrates} {setDigest : ReservationSetDigest}
    {command : PrepareProviderAttemptCommand} {s s' : Store}
    {outcome : PrepareProviderAttemptOutcome}
    (done : prepareProviderAttempt K setDigest command s = .ok (outcome, s')) :
    ∃ providerAttempts, s' = { s with providerAttempts } := by
  have created : ∀ effect attemptNumber, createAttempt K command effect attemptNumber s =
      .ok (outcome, s') → ∃ providerAttempts, s' = { s with providerAttempts } := by
    intro effect attemptNumber done
    unfold createAttempt at done
    split at done
    · cases done
      exact ⟨_, rfl⟩
    split at done
    · cases done
      exact ⟨_, rfl⟩
    simp only [bind_ok] at done
    obtain ⟨t, inserted, attempt, -, same⟩ := done
    cases same
    obtain ⟨providerAttempts, -, -, -, shape⟩ := insertAttempt_ok inserted
    exact ⟨providerAttempts, shape⟩
  simp only [prepareProviderAttempt, bind_ok] at done
  obtain ⟨-, -, done⟩ := done
  split at done
  · cases done
    exact ⟨_, rfl⟩
  split at done
  · cases done
    exact ⟨_, rfl⟩
  split at done
  · unfold prepareAgainstExisting at done
    simp only at done
    split at done
    · cases done
      exact ⟨_, rfl⟩
    split at done
    · split at done
      · cases done
        exact ⟨_, rfl⟩
      · exact created _ _ done
    all_goals
      cases done
      exact ⟨_, rfl⟩
  · exact created _ _ done

/-- An authorization leads to an attempt that begins, under a claim of the delegation. -/
def RetryUsable (K : FenceCrates) (setDigest : ReservationSetDigest) (t : Store)
    (delegationId : Text) (authorization : ProviderRetryAuthorization) : Prop :=
  ∃ claim now prepared u, claim.delegationId = delegationId ∧
    prepareProviderAttempt K setDigest ⟨claim, now, some authorization⟩ t =
      .ok (.prepared prepared, u) ∧
    ∃ now' begun v, beginProviderAttemptInvocation K setDigest ⟨claim, prepared.attemptId, now'⟩ u =
      .ok (.began begun, v)

/-- No retry a recovery grants can be used while its delegation is undisturbed. -/
theorem granted_retry_unusable {K : FenceCrates} {setDigest : ReservationSetDigest}
    {labels : List (Option Command)} {s s' : Store} {J : Coordinator}
    {planned : Anyhow RecoveryFacts} {payload : Text} {command : ProviderRecoveryCommand}
    {evaluation : ObjectiveRecoveryEvaluation} {phase : DelegationPhase}
    (reached : Run (Step K setDigest) Store.initial labels s)
    (committed : applyProviderRecovery K J planned payload command s =
      .ok (.applied evaluation phase, s')) {effect : LogicalEffectRecord}
    (effected : s'.logicalEffects.find? command.logicalEffectId = some effect) {t : Store}
    (undisturbed : Undisturbed effect.delegationId s' t) :
    ∀ authorization ∈ evaluation.retryAuthorization,
      ¬RetryUsable K setDigest t effect.delegationId authorization := by
  rintro authorization - ⟨claim, now, prepared, u, owner, prepares, now', begun, v, begins⟩
  obtain ⟨providerAttempts, rfl⟩ := prepareProviderAttempt_ok prepares
  obtain ⟨c, action, live, -⟩ := beginProviderAttempt_began begins
  obtain ⟨found, owned, -⟩ := validateClaimIdentityLive_ok K setDigest live
  have after : Undisturbed effect.delegationId s' { t with providerAttempts } :=
    ⟨undisturbed.delegation, undisturbed.continuations⟩
  exact recovered_never_begins reached committed effected after (owned.trans owner)
    (.began found begins)

/-! A retry that is granted, prepared and refused. -/

def samplePlan : LifecycleSnapshotCommand where
  write := sampleWrite "plan".toList 2
  transitionId := "plan".toList
  delegationId := "d".toList
  expectedStateRevision := 1
  preActionablePhase := some .planning
  selectedRunControl := .running
  resumeProof := none
  actionBranches := [⟨"a".toList, "d".toList, 1, 2, 1, 0, .ordinary, .waiting, "summary".toList, 2, 2,
    none⟩]
  attentionItems := []
  externalWaits := []
  assessment := none
  continuation := none
  reason := "plan".toList
  outboxEvent := sampleEvent "plan".toList "d".toList "\x7b\x7d".toList .delegationTransitioned 2 2

def sampleDecision : AtomicDecisionResolutionCommand where
  write := sampleWrite "decision".toList 3
  decisionId := "decision".toList
  continuation := some { sampleContinuation 0 with
    targetDelegationRevision := 2
    causationKind := .decision
    causationId := "decision".toList
    createdAt := 3
    updatedAt := 3 }
  logicalEffect := some ⟨"e".toList, "d".toList, "c".toList, .planned, "key".toList, none, none, none,
    "manifest".toList, "payload".toList, none, 3⟩
  outboxEvent := sampleEvent "decision".toList "d".toList "\x7b\x7d".toList .decisionRecorded 2 3
  receipt := sampleReceipt "decision".toList "d".toList .decision
    ⟨.decision, "decision".toList, 1⟩ 2 3

/-- A confirmed effect, whose continuation a worker of a live host may claim. -/
def confirmedEffect : List Command := [
  .createFoundation ⟨granted, none, false, false, granted⟩ .intake
    { sampleFoundation (sampleContinuation 0) with initialContinuation := none },
  .applyLifecycle granted samplePlan,
  .resolve sampleCoordinator ⟨some ⟨"decision".toList, "d".toList, 2, 1⟩, granted⟩ sampleDecision,
  .materializeJobs true 4 10,
  .activateHost true "host".toList 1 5,
  .acquireJobs "worker".toList 6 1000 10]

def effectClaim : ContinuationClaimCommand :=
  { sampleClaim with
    jobLeaseExpiresAt := 1006
    outboxEvent := sampleEvent "claim".toList "d".toList "\x7b\x7d".toList
      .continuationClaimedOrResultRecorded 2 7
    receipt := { sampleClaim.receipt with
      expectedStateRevision := 2, subject := ⟨.continuation, "c".toList, 2⟩ } }

def sampleReservation : TechnicalResourceReservationIdentity :=
  ⟨"r".toList, "q".toList, "e".toList, "requests".toList, "count".toList, 1⟩

def sampleQuota : QuotaEntryRecord := ⟨"q".toList, "requests".toList, "count".toList, 1⟩

def effectClaimOutside : ClaimOutside := ⟨granted, .ok (some ⟨some "e".toList, some "q".toList,
  [sampleReservation], sampleDigest [sampleReservation]⟩)⟩

/-- What the import of a definite failure of the execution writes to these tables. -/
def Store.recordDefiniteFailure (s : Store) (attemptId logicalEffectId response : Text)
    (observedAt : Int) : Store :=
  { s with
    providerAttempts := s.providerAttempts.update
      (fun row => row.attemptId = attemptId && row.logicalEffectId = logicalEffectId &&
        row.status = .invoking) (fun row => { row with
      status := .failed, providerResponseDigest := some response
      finishedAt := some observedAt }) fun _ => rfl
    logicalEffects := s.logicalEffects.update
      (fun row => row.logicalEffectId = logicalEffectId && row.state = .invoking)
      (fun row => { row with state := .failed, updatedAt := observedAt }) fun _ => rfl }

def sampleRecovery : ProviderRecoveryCommand where
  write := sampleWrite "recovery".toList 11
  logicalEffectId := "e".toList
  trustedNow := 11
  expectedPreStateRevision := 2
  receipt := sampleReceipt "recovery".toList "d".toList .recovery
    ⟨.outboxEvent, "recovery".toList, 3⟩ 3 11

def sampleFacts : RecoveryFacts where
  directive := .retrySameEffect 12
  objectiveFactsDigest := noEffectsDigest
  directiveDigest := noEffectsDigest
  assessment := ⟨"assessment".toList, "d".toList, 1, 1, .failed, 0, 1, 0, false, none, true,
    "\x7b\x7d".toList, 11⟩

def claimedIdentity : ContinuationClaimOutcome → Option ContinuationClaimIdentity
  | .claimed draft => some draft.identity
  | _ => none

def preparedAttempt : PrepareProviderAttemptOutcome → Option ProviderAttemptRecord
  | .prepared attempt => some attempt
  | _ => none

def grantedRetry : ProviderRecoveryOutcome → Option ProviderRetryAuthorization
  | .applied evaluation _ => evaluation.retryAuthorization
  | _ => none

def drifted : BeginProviderAttemptInvocationOutcome → Bool
  | .stale reason => reason = .delegationRevisionDrift
  | _ => false

theorem insertQuotaEntry_elsewhere {s s' : Store} {row : QuotaEntryRecord}
    (done : s.insertQuotaEntry row = .ok s') : Elsewhere s s' := by
  simp only [Store.insertQuotaEntry, bind_ok] at done
  obtain ⟨-, -, done⟩ := done
  split at done <;> cases done
  exact ⟨rfl, rfl, rfl, rfl, fun c member => ⟨c, member, .refl c⟩⟩

theorem recordDefiniteFailure_elsewhere (s : Store) (attemptId logicalEffectId response : Text)
    (observedAt : Int) :
    Elsewhere s (s.recordDefiniteFailure attemptId logicalEffectId response observedAt) :=
  ⟨rfl, rfl, rfl, rfl, fun c member => ⟨c, member, .refl c⟩⟩

/-- The history of a confirmed effect whose first attempt fails for certain. -/
theorem granted_retry_run : ∃ s s' evaluation phase effect authorization identity retry u v,
    (∃ labels, Run (Step sampleCrates sampleDigest) Store.initial labels s) ∧
    applyProviderRecovery sampleCrates sampleCoordinator (.ok sampleFacts) "\x7b\x7d".toList
      sampleRecovery s = .ok (.applied evaluation phase, s') ∧
    s'.logicalEffects.find? sampleRecovery.logicalEffectId = some effect ∧
    evaluation.retryAuthorization = some authorization ∧
    prepareProviderAttempt sampleCrates sampleDigest ⟨identity, 13, some authorization⟩ s' =
      .ok (.prepared retry, u) ∧
    beginProviderAttemptInvocation sampleCrates sampleDigest ⟨identity, retry.attemptId, 14⟩ u =
      .ok (.stale .delegationRevisionDrift, v) := by
  have run : (do
      let s ← runAll sampleCrates sampleDigest confirmedEffect Store.initial
      let s ← s.insertQuotaEntry sampleQuota
      let (claimed, s) ← claimContinuation sampleCrates sampleCoordinator effectClaimOutside
        effectClaim s
      let identity ← required "" (claimedIdentity claimed)
      let (prepared, s) ← prepareProviderAttempt sampleCrates sampleDigest ⟨identity, 8, none⟩ s
      let attempt ← required "" (preparedAttempt prepared)
      let (_, s) ← beginProviderAttemptInvocation sampleCrates sampleDigest
        ⟨identity, attempt.attemptId, 9⟩ s
      let s := s.recordDefiniteFailure attempt.attemptId "e".toList "response".toList 10
      let (recovered, s) ← applyProviderRecovery sampleCrates sampleCoordinator (.ok sampleFacts)
        "\x7b\x7d".toList sampleRecovery s
      let authorization ← required "" (grantedRetry recovered)
      let _ ← required "" (s.logicalEffects.find? sampleRecovery.logicalEffectId)
      let (retried, s) ← prepareProviderAttempt sampleCrates sampleDigest
        ⟨identity, 13, some authorization⟩ s
      let retry ← required "" (preparedAttempt retried)
      let (refused, _) ← beginProviderAttemptInvocation sampleCrates sampleDigest
        ⟨identity, retry.attemptId, 14⟩ s
      ensure (drifted refused = true) "" : Anyhow Unit) = .ok () := by
    rw [effectClaim, effectClaimOutside, sampleClaim, sampleDigest, sampleCrates_fast]
    decide +kernel
  simp only [bind_ok, ensure_ok, required_ok] at run
  obtain ⟨s₀, started, s₁, granted, ⟨_, s₂⟩, claims, identity, -, ⟨_, s₃⟩, prepares, attempt, -, ⟨_, s₄⟩, begins,
    ⟨recovered, s'⟩, recovers, authorization, grants, effect, effected, ⟨retried, u⟩, retries, retry,
    isRetry, ⟨refused, v⟩, refuses, drifts⟩ := run
  have quota := (run_reached started).snoc (.elsewhere (insertQuotaEntry_elsewhere granted))
  have claimed := quota.snoc
    (.command (c := .claim ..) (map_snd_ok.mpr ⟨_, claims⟩))
  have prepared := claimed.snoc (.command (c := .prepareAttempt _) (map_snd_ok.mpr ⟨_, prepares⟩))
  have began := prepared.snoc (.command (c := .beginAttempt _) (map_snd_ok.mpr ⟨_, begins⟩))
  have failed := began.snoc (.elsewhere (recordDefiniteFailure_elsewhere s₄ attempt.attemptId
    "e".toList "response".toList 10))
  cases recovered <;> try cases grants
  rename_i evaluation phase
  cases retried <;> try cases isRetry
  cases refused <;> try cases drifts
  rename_i reason
  obtain rfl : reason = .delegationRevisionDrift := of_decide_eq_true drifts
  exact ⟨_, s', evaluation, phase, effect, authorization, identity, _, u, v, ⟨_, failed⟩, recovers,
    effected, grants, retries, refuses⟩

/-- The retry is prepared under the claim, and its begin finds the revision drifted. -/
theorem granted_retry_refused : ∃ s s' evaluation phase authorization identity retry u v,
    (∃ labels, Run (Step sampleCrates sampleDigest) Store.initial labels s) ∧
    applyProviderRecovery sampleCrates sampleCoordinator (.ok sampleFacts) "\x7b\x7d".toList
      sampleRecovery s = .ok (.applied evaluation phase, s') ∧
    evaluation.retryAuthorization = some authorization ∧
    prepareProviderAttempt sampleCrates sampleDigest ⟨identity, 13, some authorization⟩ s' =
      .ok (.prepared retry, u) ∧
    beginProviderAttemptInvocation sampleCrates sampleDigest ⟨identity, retry.attemptId, 14⟩ u =
      .ok (.stale .delegationRevisionDrift, v) := by
  obtain ⟨s, s', evaluation, phase, -, authorization, identity, retry, u, v, reached, recovers, -,
    grants, retries, refuses⟩ := granted_retry_run
  exact ⟨s, s', evaluation, phase, authorization, identity, retry, u, v, reached, recovers, grants,
    retries, refuses⟩

/-- A retry that was granted, and the store right after. -/
theorem granted_retry_unusable_sample : ∃ s s' evaluation phase authorization effect,
    (∃ labels, Run (Step sampleCrates sampleDigest) Store.initial labels s) ∧
    applyProviderRecovery sampleCrates sampleCoordinator (.ok sampleFacts) "\x7b\x7d".toList
      sampleRecovery s = .ok (.applied evaluation phase, s') ∧
    evaluation.retryAuthorization = some authorization ∧
    ¬RetryUsable sampleCrates sampleDigest s' effect authorization := by
  obtain ⟨s, s', evaluation, phase, effect, authorization, identity, retry, u, v, ⟨labels, reached⟩,
    recovers, effected, grants, retries, refuses⟩ := granted_retry_run
  have undisturbed : Undisturbed effect.delegationId s' s' :=
    ⟨fun d member _ => member, fun c member _ => ⟨c, member, .refl c⟩⟩
  exact ⟨s, s', evaluation, phase, authorization, effect.delegationId, ⟨labels, reached⟩, recovers,
    grants, granted_retry_unusable reached recovers effected undisturbed authorization grants⟩

end CarsinOS.Delegation
