import CarsinOS.Lib.Run
import CarsinOS.Delegation.Commands

/-! The histories of a store: the commands of this model in any order, with the commands of other
tables between them. -/
namespace CarsinOS.Delegation
open CarsinOS.Lib CarsinOS.Integrity CarsinOS.Receipt

/-! The leases of jobs and of the runtime host. -/

def jobDue (nowMs : Int) (job : JobRecord) : Bool :=
  !job.deleted && job.enabled && job.nextRunAt.any (· ≤ nowMs) &&
    job.leaseExpiresAt.all (· < nowMs)

/-- The due jobs, the earliest first, go to one worker. -/
def acquireDueJobs (workerId : Text) (nowMs leaseMs : Int) (limit : Nat) (s : Store) : Store :=
  let due := ((s.jobs.rows.filter (jobDue nowMs)).insertionSort fun first second =>
    first.nextRunAt.getD 0 ≤ second.nextRunAt.getD 0).take limit
  let hit (row : JobRecord) : Bool := due.any (·.jobId = row.jobId) && jobDue nowMs row
  { s with jobs := s.jobs.update hit (fun row => { row with
      leaseOwner := some workerId
      leaseExpiresAt := some (min (nowMs + max leaseMs 1) MAX_REVISION) }) fun _ => rfl }

/-- The lease that is held, with its generation. -/
def Store.heldLease (s : Store) : Option (RuntimeHostLease × RuntimeHostGeneration) :=
  s.hostLeases.findSome? fun lease =>
    (s.hostGenerations.find? fun g => g.generation = lease.generation &&
      g.hostInstanceId = lease.hostInstanceId && g.endedAt = none && lease.releasedAt = none).map
        fun g => (lease, g)

/-- A host that takes over ends the generation before it. -/
def Store.beginGeneration (s : Store) (hostInstanceId : Text) (stateRootGeneration trustedNow : Int)
    (held : Option RuntimeHostLease) : Store :=
  let generation := (s.hostGenerations.map (·.generation)).foldl max 0 + 1
  let fencingToken := (s.hostLeases.map (·.fencingToken)).foldl max 0 + 1
  { s with
    hostGenerations := (s.hostGenerations.map fun g =>
      if held.any (·.generation = g.generation) && g.endedAt = none then
        { g with endedAt := some trustedNow } else g) ++
      [⟨generation, hostInstanceId, stateRootGeneration, none⟩]
    hostLeases := (s.hostLeases.map fun lease =>
      if held = some lease then { lease with releasedAt := some trustedNow } else lease) ++
      [⟨generation, hostInstanceId, fencingToken, trustedNow, MAX_REVISION, none⟩] }

/-- The identity of the installation is checked outside of these tables. -/
def activateRuntimeHost (sameInstallation : Bool) (hostInstanceId : Text)
    (stateRootGeneration trustedNow : Int) (s : Store) : Anyhow Store :=
  match s.heldLease with
  | some (lease, g) =>
    if lease.hostInstanceId = hostInstanceId then do
      ensure (g.stateRootGeneration = stateRootGeneration ∧ sameInstallation = true ∧
          trustedNow < lease.expiresAt)
        "current runtime host activation conflicts with its authority identity"
      .ok s
    else .ok (s.beginGeneration hostInstanceId stateRootGeneration trustedNow (some lease))
  | none => .ok (s.beginGeneration hostInstanceId stateRootGeneration trustedNow none)

variable {guarded : Prop}

theorem acquireDueJobs_quiet (workerId : Text) (nowMs leaseMs : Int) (limit : Nat) (s : Store) :
    Quiet guarded s (acquireDueJobs workerId nowMs leaseMs limit s) := .of_eq rfl rfl rfl rfl

theorem activateRuntimeHost_quiet {sameInstallation : Bool} {hostInstanceId : Text}
    {stateRootGeneration trustedNow : Int} {s s' : Store}
    (done : activateRuntimeHost sameInstallation hostInstanceId stateRootGeneration trustedNow s =
      .ok s') : Quiet guarded s s' := by
  unfold activateRuntimeHost at done
  split at done
  · split at done
    · simp only [bind_ok] at done
      obtain ⟨-, -, same⟩ := done
      cases same
      exact .refl _
    · cases done
      exact .of_eq rfl rfl rfl rfl
  · cases done
    exact .of_eq rfl rfl rfl rfl

/-! The commands of a history. -/

/-- A command, with what it finds in other tables and at the receipt coordinator. -/
inductive Command where
  | createFoundation (outside : FoundationOutside) (causation : ContinuationCausationKind)
      (command : CreateFoundationCommand)
  | materializeJobs (agentAvailable : Bool) (scheduledAt : Int) (limit : Nat)
  | acquireJobs (workerId : Text) (nowMs leaseMs : Int) (limit : Nat)
  | activateHost (sameInstallation : Bool) (hostInstanceId : Text)
      (stateRootGeneration trustedNow : Int)
  | applyLifecycle (trustedHistory : Anyhow Unit) (command : LifecycleSnapshotCommand)
  | amend (otherRows : Anyhow Unit) (command : AmendLifecycleCommand)
  | followUp (J : Coordinator) (authorised otherRows : Anyhow Unit)
      (command : AmendLifecycleCommand) (receipt : AppendReceiptCommand)
  | compareAndSwap (command : CasDelegationStateCommand)
  | appendLineage (links : Anyhow Bool) (a : Advance)
  | verify (J : Coordinator) (evaluated : Anyhow Bool) (receipt : AppendReceiptCommand) (a : Advance)
  | complete (J : Coordinator) (compiled : Anyhow (Option CompletionAssessmentRecord))
      (receipt : AppendReceiptCommand) (transitionId : Text) (a : Advance)
  | resolve (J : Coordinator) (outside : DecisionOutside) (command : AtomicDecisionResolutionCommand)
  | stop (J : Coordinator) (outside : RunControlOutside) (command : RequestDelegationStopCommand)
  | drain (J : Coordinator) (outside : RunControlOutside)
      (command : CompleteDelegationStopDrainCommand)
  | resume (J : Coordinator) (outside : RunControlOutside) (command : RequestDelegationStopCommand)
  | engage (J : Coordinator) (outside : RunControlOutside) (command : EngageGlobalStopCommand)
  | resumeGlobal (J : Coordinator) (outside : RunControlOutside) (command : ResumeGlobalStopCommand)
  | claim (J : Coordinator) (outside : ClaimOutside) (command : ContinuationClaimCommand)
  | preDispatch (command : ContinuationDispatchValidationCommand)
  | prepareAttempt (command : PrepareProviderAttemptCommand)
  | beginAttempt (command : BeginProviderAttemptInvocationCommand)
  | recover (J : Coordinator) (planned : Anyhow RecoveryFacts) (payload : Text)
      (command : ProviderRecoveryCommand)
  | rebuild (delegationId : Text)

/-- The store a command leaves. -/
def Command.run (K : FenceCrates) (setDigest : ReservationSetDigest) (s : Store) :
    Command → Anyhow Store
  | .createFoundation outside causation command =>
    Prod.snd <$> Delegation.createFoundation K outside causation command s
  | .materializeJobs agentAvailable scheduledAt limit =>
    materializeRunnableContinuationJobs K agentAvailable scheduledAt limit s
  | .acquireJobs workerId nowMs leaseMs limit => .ok (acquireDueJobs workerId nowMs leaseMs limit s)
  | .activateHost sameInstallation hostInstanceId stateRootGeneration trustedNow =>
    activateRuntimeHost sameInstallation hostInstanceId stateRootGeneration trustedNow s
  | .applyLifecycle trustedHistory command =>
    Prod.snd <$> applyLifecycleSnapshot K trustedHistory command s
  | .amend otherRows command => Prod.snd <$> amendLifecycle K otherRows command s
  | .followUp J authorised otherRows command receipt =>
    Prod.snd <$> applyVerifiedFollowUpAmendment K J authorised otherRows command receipt s
  | .compareAndSwap command => Prod.snd <$> compareAndSwapDelegationState K command s
  | .appendLineage links a => Prod.snd <$> appendAuthorityLineage links a s
  | .verify J evaluated receipt a => Prod.snd <$> verifyCriterion J evaluated receipt a s
  | .complete J compiled receipt transitionId a =>
    Prod.snd <$> assessCompletion J compiled receipt transitionId a s
  | .resolve J outside command => Prod.snd <$> resolveDecision J outside command s
  | .stop J outside command => Prod.snd <$> requestDelegationStop K J outside command s
  | .drain J outside command => Prod.snd <$> completeDelegationStopDrain K J outside command s
  | .resume J outside command => Prod.snd <$> resumeDelegation K J outside command s
  | .engage J outside command => Prod.snd <$> engageGlobalStop K J outside command s
  | .resumeGlobal J outside command => Prod.snd <$> resumeGlobalStop K J outside command s
  | .claim J outside command => Prod.snd <$> claimContinuation K J outside command s
  | .preDispatch command => Prod.snd <$> validateContinuationPreDispatch K setDigest command s
  | .prepareAttempt command => Prod.snd <$> prepareProviderAttempt K setDigest command s
  | .beginAttempt command => Prod.snd <$> beginProviderAttemptInvocation K setDigest command s
  | .recover J planned payload command =>
    Prod.snd <$> applyProviderRecovery K J planned payload command s
  | .rebuild delegationId => Prod.snd <$> rebuildLifecycleProjection delegationId s

/-- The continuation a command asks to create. -/
def Command.created : Command → Option ContinuationRecord
  | .createFoundation _ _ command => command.initialContinuation
  | .applyLifecycle _ command => command.continuation
  | .resolve _ _ command => command.continuation
  | _ => none

/-- Whether a command is a bare compare-and-swap of a delegation's state. -/
def Command.swaps : Command → Bool
  | .compareAndSwap _ => true
  | _ => false

/-- What the other commands may do to these tables: the settlements, the expiries, the imports of
recorder evidence, the results of attempts, the policies and the reads. They write no delegation and
no transition, and the trigger of the fence binds their updates of continuations. -/
structure Elsewhere (s s' : Store) : Prop where
  delegations : s'.delegations = s.delegations
  transitions : s'.transitions = s.transitions
  engaged : s'.globalControl.engaged = s.globalControl.engaged
  epoch : s'.globalControl.globalStopEpoch = s.globalControl.globalStopEpoch
  continuations : ∀ c ∈ s'.continuations.rows, ∃ c₀ ∈ s.continuations.rows, SameFence c₀ c

/-- A step of a history. The label is the command, where it is one of this model. -/
inductive Step (K : FenceCrates) (setDigest : ReservationSetDigest) :
    Store → Option Command → Store → Prop where
  | command {s s' : Store} {c : Command} (done : c.run K setDigest s = .ok s') :
      Step K setDigest s (some c) s'
  | elsewhere {s s' : Store} (other : Elsewhere s s') : Step K setDigest s none s'

/-- The row that carries the receipts of the global control. -/
def globalControlCarrier : DelegationRecord where
  delegationId := GLOBAL_STOP_RECEIPT_CARRIER_ID
  phase := .accepted
  runControl := .running
  stateRevision := 1
  currentPlanRevision := none
  currentCriteriaRevision := none
  policyRevision := 1
  effectiveAuthorityJson := "\x7b\x7d".toList
  authorityProvenanceId := "execass-global-control-carrier-authority".toList
  pendingDecisionId := none
  externalWaitJson := none
  stopEpoch := 0
  completionAssessmentJson := none
  updatedAt := 1
  terminalAt := none

/-- The store the migration leaves. -/
def Store.initial : Store where
  delegations := ⟨[globalControlCarrier], List.nodup_singleton _⟩
  plans := .empty
  actionBranches := .empty
  continuations := .empty
  attentionItems := .empty
  externalWaits := .empty
  completionAssessments := .empty
  transitions := .empty
  globalControl := ⟨false, 0, 1, 0⟩
  jobs := .empty
  hostGenerations := []
  hostLeases := []
  operationHistory := .empty
  reservations := .empty
  actuals := .empty
  quotaEntries := .empty
  recorderEvidence := .empty
  logicalEffects := .empty
  providerAttempts := .empty
  recoveryEvaluations := .empty
  outboxEvents := .empty
  receipts := []
  receiptEvidenceRefs := []
  dependents := ⟨[], [], []⟩

/-! What every history keeps. -/

theorem map_snd_ok {α : Type} {x : Anyhow (α × Store)} {s : Store} :
    Prod.snd <$> x = .ok s ↔ ∃ a, x = .ok (a, s) := by
  cases x with
  | error e => simp [Functor.map, Except.map]
  | ok pair =>
    obtain ⟨a, t⟩ := pair
    simp [Functor.map, Except.map]

/-- A continuation is created for a global stop epoch that has begun. -/
def EpochsBegun (s : Store) : Option Command → Prop
  | some command => ∀ c ∈ command.created, c.globalStopEpoch ≤ s.globalControl.globalStopEpoch
  | none => True

theorem command_sound {K : FenceCrates} {setDigest : ReservationSetDigest} {s s' : Store}
    {command : Command} (done : command.run K setDigest s = .ok s')
    (begun : guarded → EpochsBegun s (some command)) : Sound guarded command.swaps s s' := by
  cases command <;> simp only [Command.run, map_snd_ok] at done
  case createFoundation =>
    obtain ⟨_, done⟩ := done
    exact createFoundation_sound done begun
  case materializeJobs => exact (materializeJobs_quiet done).sound
  case acquireJobs =>
    cases done
    exact (acquireDueJobs_quiet _ _ _ _ _).sound
  case activateHost => exact (activateRuntimeHost_quiet done).sound
  case applyLifecycle =>
    obtain ⟨_, done⟩ := done
    exact applyLifecycleSnapshot_sound done begun
  case amend =>
    obtain ⟨_, done⟩ := done
    exact amendLifecycle_sound done
  case followUp =>
    obtain ⟨_, done⟩ := done
    exact applyFollowUp_sound done
  case compareAndSwap =>
    obtain ⟨_, done⟩ := done
    exact compareAndSwap_sound done
  case appendLineage =>
    obtain ⟨_, done⟩ := done
    exact appendAuthorityLineage_sound done
  case verify =>
    obtain ⟨_, done⟩ := done
    exact verifyCriterion_sound done
  case complete =>
    obtain ⟨_, done⟩ := done
    exact assessCompletion_sound done
  case resolve =>
    obtain ⟨_, done⟩ := done
    exact resolveDecision_sound done begun
  case stop =>
    obtain ⟨_, done⟩ := done
    exact requestDelegationStop_sound done
  case drain =>
    obtain ⟨_, done⟩ := done
    exact completeDelegationStopDrain_sound done
  case resume =>
    obtain ⟨_, done⟩ := done
    exact resumeDelegation_sound done
  case engage =>
    obtain ⟨_, done⟩ := done
    exact engageGlobalStop_sound done
  case resumeGlobal =>
    obtain ⟨_, done⟩ := done
    exact resumeGlobalStop_sound done
  case claim =>
    obtain ⟨_, done⟩ := done
    exact claimContinuation_sound done
  case preDispatch =>
    obtain ⟨_, done⟩ := done
    exact (preDispatch_quiet done).sound
  case prepareAttempt =>
    obtain ⟨_, done⟩ := done
    exact (prepareProviderAttempt_quiet done).sound
  case beginAttempt =>
    obtain ⟨_, done⟩ := done
    exact (beginProviderAttempt_quiet done).sound
  case recover =>
    obtain ⟨_, done⟩ := done
    exact applyProviderRecovery_sound done
  case rebuild =>
    obtain ⟨_, done⟩ := done
    exact rebuild_sound done

theorem elsewhere_sound {swaps : Bool} {s s' : Store} (other : Elsewhere s s') :
    Sound guarded swaps s s' := by
  intro fenced
  refine ⟨{ named := ?_, owned := ?_, recorded := ?_, snapshots := ?_, single := ?_, epochs := ?_ },
    .of_eq other.delegations other.epoch other.engaged⟩
  · rw [other.delegations]
    exact fenced.named
  · intro c member
    obtain ⟨c₀, present, same⟩ := other.continuations c member
    obtain ⟨-, -, -, owner, target, -⟩ := same
    rw [other.delegations, owner, target]
    exact fenced.owned c₀ present
  · rw [other.transitions, other.delegations]
    exact fenced.recorded
  · rw [other.transitions]
    exact fenced.snapshots
  · rw [other.transitions]
    exact fenced.single
  · intro guard
    rw [other.transitions, other.epoch]
    refine ⟨fun c member => ?_, (fenced.epochs guard).2⟩
    obtain ⟨c₀, present, same⟩ := other.continuations c member
    obtain ⟨-, -, -, -, -, -, -, -, -, -, -, epoch, -⟩ := same
    rw [epoch]
    exact (fenced.epochs guard).1 c₀ present

/-- Whether the label of a step is a bare compare-and-swap. -/
def swapsState (label : Option Command) : Bool := label.any Command.swaps

theorem step_sound {K : FenceCrates} {setDigest : ReservationSetDigest} {s s' : Store}
    {label : Option Command} (step : Step K setDigest s label s')
    (begun : guarded → EpochsBegun s label) : Sound guarded (swapsState label) s s' := by
  cases step with
  | command done => exact command_sound done begun
  | elsewhere other => exact elsewhere_sound other

/-- What only grows: the revisions of the delegations and the global stop epoch. -/
structure Later (s s' : Store) : Prop where
  delegations : ∀ d ∈ s.delegations.rows, ∃ d' ∈ s'.delegations.rows,
    d'.delegationId = d.delegationId ∧ d.stateRevision ≤ d'.stateRevision
  epoch : s.globalControl.globalStopEpoch ≤ s'.globalControl.globalStopEpoch

theorem Later.refl (s : Store) : Later s s := ⟨fun d member => ⟨d, member, rfl, le_rfl⟩, le_rfl⟩

theorem Later.trans {s t u : Store} (first : Later s t) (second : Later t u) : Later s u := by
  refine ⟨fun d member => ?_, first.epoch.trans second.epoch⟩
  obtain ⟨d', member', same, grows⟩ := first.delegations d member
  obtain ⟨d'', member'', same', grows'⟩ := second.delegations d' member'
  exact ⟨d'', member'', same'.trans same, grows.trans grows'⟩

theorem Progress.later {swaps : Bool} {s s' : Store} (progress : Progress swaps s s') :
    Later s s' := by
  constructor
  · intro d member
    obtain ⟨d', member', same, grows, -⟩ := progress.delegations d member
    exact ⟨d', member', same, grows⟩
  · have control := progress.control
    split at control <;> omega

/-- A history whose steps meet `EpochsBegun` under `guarded`. -/
abbrev History (guarded : Prop) (K : FenceCrates) (setDigest : ReservationSetDigest) :
    Store → List (Option Command) → Store → Prop :=
  Run (Guarded (Step K setDigest) fun s label => guarded → EpochsBegun s label)

theorem history_later {K : FenceCrates} {setDigest : ReservationSetDigest} {s t : Store}
    {labels : List (Option Command)} (history : History guarded K setDigest s labels t)
    (fenced : Fenced guarded s) : Fenced guarded t ∧ Later s t := by
  induction history with
  | nil => exact ⟨fenced, .refl _⟩
  | snoc _ taken ih =>
    obtain ⟨fenced', later⟩ := ih
    obtain ⟨begun, step⟩ := taken
    obtain ⟨fenced'', progress⟩ := step_sound step begun fenced'
    exact ⟨fenced'', later.trans progress.later⟩

/-- Commands one after another. -/
def runAll (K : FenceCrates) (setDigest : ReservationSetDigest) (commands : List Command)
    (s : Store) : Anyhow Store :=
  commands.foldlM (Command.run K setDigest) s

theorem runAll_history (guarded : Prop) {K : FenceCrates} {setDigest : ReservationSetDigest}
    {commands : List Command} {s t : Store} (done : runAll K setDigest commands s = .ok t)
    (fenced : Fenced guarded s) (begun : guarded → ∀ command ∈ commands, ∀ c ∈ command.created,
      c.globalStopEpoch ≤ s.globalControl.globalStopEpoch) :
    History guarded K setDigest s (commands.map some) t := by
  induction commands generalizing s with
  | nil =>
    cases done
    exact .nil _
  | cons command commands ih =>
    simp only [runAll, List.foldlM_cons, bind_ok] at done
    obtain ⟨u, first, rest⟩ := done
    have now : guarded → EpochsBegun s (some command) := fun guard =>
      begun guard command List.mem_cons_self
    have head : History guarded K setDigest s [some command] u :=
      Run.snoc (.nil _) ⟨now, .command first⟩
    obtain ⟨fenced', progress⟩ := command_sound first now fenced
    refine run_append head (ih rest fenced' fun guard other member c created => ?_)
    exact (begun guard other (List.mem_cons_of_mem _ member) c created).trans progress.later.epoch

theorem initial_fenced : Fenced guarded Store.initial := by
  constructor
  · intro d member
    rw [show Store.initial.delegations.rows = [globalControlCarrier] from rfl,
      List.mem_singleton] at member
    subst member
    decide
  · intro c member
    cases member
  · intro t member
    cases member
  · intro t member
    cases member
  · intro t member
    cases member
  · intro _
    exact ⟨fun c member => (List.not_mem_nil member).elim,
      fun t member => (List.not_mem_nil member).elim⟩

end CarsinOS.Delegation
