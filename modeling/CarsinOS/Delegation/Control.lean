import CarsinOS.Delegation.Transition

/-! The run control of a delegation, the global stop, and the other commands that advance the
revision of a delegation or freeze a continuation to it. -/
namespace CarsinOS.Delegation
open CarsinOS.Lib CarsinOS.Integrity CarsinOS.Receipt

/-! The run control of one delegation. -/

structure RequestDelegationStopCommand where
  delegationId : Text
  expectedStateRevision : Int
  expectedStopEpoch : Int
  expectedPlanRevision : Option Int
  expectedPolicyRevision : Int
  disclosedUnresolvedExternalEffectsDigest : Text
  trustedNow : Int
  outboxEvent : NewOutboxEvent
  receipt : AppendReceiptCommand

structure CompleteDelegationStopDrainCommand where
  delegationId : Text
  expectedStateRevision : Int
  expectedStopEpoch : Int
  trustedNow : Int
  outboxEvent : NewOutboxEvent
  receipt : AppendReceiptCommand

inductive MutationKind where
  | stopRequested | drained | resumed | replayed | alreadyStopped | stale
  deriving DecidableEq

inductive DelegationRunControlMutationOutcome where
  | committed (kind : MutationKind) (delegation : DelegationRecord)
  | notFound

/-- What a run-control command reads of other tables: the signing key and the attestations used
before, the digest of the effects still unresolved, the authority of the attestation, and whether
the payload of its event is the status it leaves. -/
structure RunControlOutside where
  attestation : Anyhow Unit
  signingKey : Anyhow Unit
  replay : Option (Anyhow Unit)
  unresolvedExternalEffectsDigest : Text
  authority : Anyhow Unit
  payloadMatches : Bool

section RunControl
variable (K : FenceCrates) (J : Coordinator) (outside : RunControlOutside)

def validateReceiptEventBinding (event : NewOutboxEvent) (receipt : AppendReceiptCommand)
    (delegationId : Text) (trustedNow : Int) : Anyhow Unit := do
  validateOutbox K event
  ensure (event.eventName = .delegationTransitioned ∧ event.aggregateId = delegationId ∧
      event.eventId = receipt.causationEventId ∧
      event.aggregateRevision = receipt.expectedStateRevision ∧
      event.aggregateRevision = receipt.subject.revision ∧
      event.causationId = receipt.causationId ∧ event.occurredAt = trustedNow ∧
      receipt.occurredAt = trustedNow ∧ receipt.committedAt = trustedNow ∧
      receipt.delegationId = delegationId ∧ receipt.receiptKind = .runControl ∧
      receipt.subject.kind = .delegation ∧ receipt.subject.subjectId = delegationId)
    "delegation run-control event and receipt are not exact bindings"

def validateCommon (delegationId : Text) (expectedStateRevision expectedStopEpoch trustedNow : Int)
    (event : NewOutboxEvent) (receipt : AppendReceiptCommand) : Anyhow Unit := do
  requireText "delegation_id" delegationId
  ensure (0 < expectedStateRevision ∧ 0 ≤ expectedStopEpoch ∧ 0 < trustedNow)
    "delegation run-control command has an invalid revision, epoch, or clock"
  validateReceiptEventBinding K event receipt delegationId trustedNow

def validEffectDigest (value : Text) : Bool :=
  "sha256:".toList.isPrefixOf value && (value.drop 7).length = 64 &&
    (value.drop 7).all fun c => c.isDigit || ('a' ≤ c && c ≤ 'f')

def validateStopCommand (command : RequestDelegationStopCommand) : Anyhow Unit := do
  validateCommon K command.delegationId command.expectedStateRevision command.expectedStopEpoch
    command.trustedNow command.outboxEvent command.receipt
  ensure (0 < command.expectedPolicyRevision ∧ (0 : Int) < command.expectedPlanRevision.getD 0 ∧
      validEffectDigest command.disclosedUnresolvedExternalEffectsDigest = true)
    "delegation stop proof is incomplete"
  outside.attestation

def validateResumeCommand (command : RequestDelegationStopCommand) : Anyhow Unit := do
  validateCommon K command.delegationId command.expectedStateRevision command.expectedStopEpoch
    command.trustedNow command.outboxEvent command.receipt
  ensure (0 < command.expectedStopEpoch ∧ 0 < command.expectedPolicyRevision ∧
      (0 : Int) < command.expectedPlanRevision.getD 0 ∧
      validEffectDigest command.disclosedUnresolvedExternalEffectsDigest = true)
    "delegation resume proof is incomplete"
  outside.attestation

def validateResultEvent (event : NewOutboxEvent) (revision : Int) : Anyhow Unit := do
  ensure (event.aggregateRevision = revision)
    "delegation run-control event is not the resulting state revision"
  ensure (outside.payloadMatches = true)
    "delegation run-control outbox payload is not deterministic live status"

/-- The row, the event and the transition of a run-control step. The phase is kept. -/
def Store.moveRunControl (s : Store) (current : DelegationRecord) (selected : RunControlState)
    (stopEpoch : Int) (reason : Text) (event : NewOutboxEvent) (trustedNow : Int) :
    Anyhow Store := do
  let revision ← checkedNext current.stateRevision "delegation state revision overflow"
  let s ← s.updateDelegations (fun row => row.delegationId = current.delegationId &&
      row.stateRevision = current.stateRevision && row.runControl = current.runControl &&
      row.stopEpoch = current.stopEpoch)
    (fun row => { row with
      runControl := selected, stateRevision := revision, stopEpoch, updatedAt := trustedNow })
    fun _ => rfl
  validateResultEvent outside event revision
  let s ← s.insertOutbox event
  s.recordTransition current ("run-control:".toList ++ event.eventId) current.phase selected .other
    none revision reason event.eventId event.occurredAt

def stopMutation (command : RequestDelegationStopCommand) (s : Store) :
    Anyhow (AtomicReceiptMutation MutationKind × Store) := do
  outside.signingKey
  match outside.replay with
  | some exact => do
    exact
    .ok (.noAppend .replayed, s)
  | none => do
    ensure ((s.receiptByCausationEvent command.outboxEvent.eventId).isNone ∨
        (s.outboxEvents.find? command.outboxEvent.eventId).isNone)
      "delegation stop outbox identity lacks its signed attestation replay"
    let current ← required "delegation disappeared during stop request"
      (s.getDelegation command.delegationId)
    if current.stateRevision ≠ command.expectedStateRevision ∨
        current.stopEpoch ≠ command.expectedStopEpoch ∨
        current.policyRevision ≠ command.expectedPolicyRevision ∨
        current.currentPlanRevision ≠ command.expectedPlanRevision ∨
        outside.unresolvedExternalEffectsDigest ≠
          command.disclosedUnresolvedExternalEffectsDigest then .ok (.noAppend .stale, s)
    else if current.runControl ≠ .running then .ok (.noAppend .alreadyStopped, s)
    else do
      ensure (current.phase.isTerminal = false) "terminal delegation cannot enter run-control stop"
      outside.authority
      let stopEpoch ← checkedNext current.stopEpoch "delegation stop epoch overflow"
      let s ← s.moveRunControl outside current .stopRequested stopEpoch
        "per-delegation stop requested".toList command.outboxEvent command.trustedNow
      .ok (.append .stopRequested, s)

def Store.executingCount (s : Store) (delegationId : Text) : Nat :=
  s.executingContinuations delegationId +
    s.actionBranches.matched fun row => row.delegationId = delegationId && row.status = .executing

def drainMutation (command : CompleteDelegationStopDrainCommand) (s : Store) :
    Anyhow (AtomicReceiptMutation MutationKind × Store) :=
  match s.receiptByCausationEvent command.outboxEvent.eventId,
      s.outboxEvents.find? command.outboxEvent.eventId with
  | some _, some replayed => do
    ensure (replayed = command.outboxEvent)
      "delegation drain replay collides with different outbox bytes"
    .ok (.noAppend .replayed, s)
  | _, _ => do
    let current ← required "delegation disappeared during stop drain"
      (s.getDelegation command.delegationId)
    if current.stateRevision ≠ command.expectedStateRevision ∨
        current.stopEpoch ≠ command.expectedStopEpoch then .ok (.noAppend .stale, s)
    else if current.runControl = .stopped then .ok (.noAppend .alreadyStopped, s)
    else do
      ensure (current.runControl = .stopRequested)
        "delegation drain completion requires stop_requested"
      outside.authority
      ensure (s.executingCount command.delegationId = 0)
        "delegation cannot expose stopped while an execution branch remains"
      let s ← s.moveRunControl outside current .stopped current.stopEpoch
        "per-delegation stop drain completed".toList command.outboxEvent command.trustedNow
      .ok (.append .drained, s)

def resumeMutation (command : RequestDelegationStopCommand) (s : Store) :
    Anyhow (AtomicReceiptMutation MutationKind × Store) := do
  outside.signingKey
  match outside.replay with
  | some exact => do
    exact
    .ok (.noAppend .replayed, s)
  | none => do
    let current ← required "delegation disappeared during signed resume"
      (s.getDelegation command.delegationId)
    if current.runControl ≠ .stopped ∨ current.stateRevision ≠ command.expectedStateRevision ∨
        current.stopEpoch ≠ command.expectedStopEpoch ∨
        current.policyRevision ≠ command.expectedPolicyRevision ∨
        current.currentPlanRevision ≠ command.expectedPlanRevision ∨
        outside.unresolvedExternalEffectsDigest ≠
          command.disclosedUnresolvedExternalEffectsDigest then .ok (.noAppend .stale, s)
    else do
      outside.authority
      let stopEpoch ← checkedNext current.stopEpoch "delegation stop epoch overflow"
      let s ← s.moveRunControl outside current .running stopEpoch
        "signed human per-delegation resume".toList command.outboxEvent command.trustedNow
      .ok (.append .resumed, s)

def mapMutation (delegationId : Text) (written : AtomicWrite MutationKind) (s : Store) :
    DelegationRunControlMutationOutcome :=
  match s.getDelegation delegationId with
  | none => .notFound
  | some d =>
    match written with
    | .appended kind => .committed kind d
    | .noAppend kind => .committed kind d
    | .stale => .committed .stale d

def requestDelegationStop (command : RequestDelegationStopCommand) (s : Store) :
    Anyhow (DelegationRunControlMutationOutcome × Store) := do
  validateStopCommand K outside command
  match s.getDelegation command.delegationId with
  | none => .ok (.notFound, s)
  | some _ => do
    let (written, s) ← mutateWithAdvancingAtomicReceipt J command.expectedStateRevision
      command.receipt (stopMutation outside command) s
    .ok (mapMutation command.delegationId written s, s)

def completeDelegationStopDrain (command : CompleteDelegationStopDrainCommand) (s : Store) :
    Anyhow (DelegationRunControlMutationOutcome × Store) := do
  validateCommon K command.delegationId command.expectedStateRevision command.expectedStopEpoch
    command.trustedNow command.outboxEvent command.receipt
  match s.getDelegation command.delegationId with
  | none => .ok (.notFound, s)
  | some _ => do
    let (written, s) ← mutateWithAdvancingAtomicReceipt J command.expectedStateRevision
      command.receipt (drainMutation outside command) s
    .ok (mapMutation command.delegationId written s, s)

def resumeDelegation (command : RequestDelegationStopCommand) (s : Store) :
    Anyhow (DelegationRunControlMutationOutcome × Store) := do
  validateResumeCommand K outside command
  match s.getDelegation command.delegationId with
  | none => .ok (.notFound, s)
  | some _ => do
    let (written, s) ← mutateWithAdvancingAtomicReceipt J command.expectedStateRevision
      command.receipt (resumeMutation outside command) s
    .ok (mapMutation command.delegationId written s, s)

end RunControl

/-! The global stop. -/

def GLOBAL_STOP_AGGREGATE_ID : Text := "global-stop-all".toList

def GLOBAL_STOP_RECEIPT_CARRIER_ID : Text := "execass-global-control-carrier".toList

structure EngageGlobalStopCommand where
  expectedGlobalStopEpoch : Int
  trustedNow : Int
  outboxEvent : NewOutboxEvent
  receipt : AppendReceiptCommand

structure ResumeGlobalStopCommand where
  expectedGlobalStopEpoch : Int
  expectedPolicyRevision : Int
  disclosedUnresolvedExternalEffectsDigest : Text
  trustedNow : Int
  outboxEvent : NewOutboxEvent
  receipt : AppendReceiptCommand

inductive GlobalStopMutationOutcome where
  | engaged | resumed | replayed | alreadyEngaged | stale
  deriving DecidableEq

section GlobalStop
variable (K : FenceCrates) (J : Coordinator) (outside : RunControlOutside)

def validateCommandBinding (event : NewOutboxEvent) (receipt : AppendReceiptCommand) :
    Anyhow Unit := do
  validateOutbox K event
  ensure (event.eventName = .globalStopChanged ∧ event.aggregateId = GLOBAL_STOP_AGGREGATE_ID ∧
      event.eventId = receipt.causationEventId) "global stop event is not bound to its receipt"
  ensure (receipt.receiptKind = .globalStop ∧ receipt.subject.kind = .globalRuntimeControl ∧
      receipt.subject.subjectId = GLOBAL_STOP_AGGREGATE_ID ∧
      receipt.delegationId = GLOBAL_STOP_RECEIPT_CARRIER_ID ∧
      event.causationId = receipt.causationId ∧ event.occurredAt = receipt.occurredAt ∧
      receipt.committedAt = receipt.occurredAt)
    "global stop receipt is not an exact global-control receipt"

def validateEvent (event : NewOutboxEvent) (receipt : AppendReceiptCommand) (epoch : Int) :
    Anyhow Unit := do
  ensure (event.aggregateRevision = epoch ∧ receipt.subject.revision = epoch)
    "global stop event revision does not match the resulting epoch"
  ensure (outside.payloadMatches = true)
    "global stop outbox payload is not the deterministic status disclosure"

def engageMutation (command : EngageGlobalStopCommand) (s : Store) :
    Anyhow (AtomicReceiptMutation GlobalStopMutationOutcome × Store) :=
  if (s.receiptByCausationEvent command.outboxEvent.eventId).isSome then
    .ok (.noAppend .replayed, s)
  else if s.globalControl.engaged then .ok (.noAppend .alreadyEngaged, s)
  else if s.globalControl.globalStopEpoch ≠ command.expectedGlobalStopEpoch then
    .ok (.noAppend .stale, s)
  else do
    outside.authority
    let epoch ← checkedNext s.globalControl.globalStopEpoch "global stop epoch overflow"
    ensure (s.globalControl.updatedAt ≤ command.trustedNow)
      "ExecAss global runtime control transition is invalid"
    let s := { s with globalControl := { s.globalControl with
      engaged := true, globalStopEpoch := epoch, updatedAt := command.trustedNow } }
    validateEvent outside command.outboxEvent command.receipt epoch
    let s ← s.insertOutbox command.outboxEvent
    .ok (.append .engaged, s)

def resumeGlobalMutation (command : ResumeGlobalStopCommand) (s : Store) :
    Anyhow (AtomicReceiptMutation GlobalStopMutationOutcome × Store) := do
  outside.signingKey
  match outside.replay with
  | some exact => do
    exact
    .ok (.noAppend .replayed, s)
  | none =>
    if s.globalControl.engaged = false ∨
        s.globalControl.globalStopEpoch ≠ command.expectedGlobalStopEpoch ∨
        s.globalControl.currentPolicyRevision ≠ command.expectedPolicyRevision ∨
        outside.unresolvedExternalEffectsDigest ≠
          command.disclosedUnresolvedExternalEffectsDigest then .ok (.noAppend .stale, s)
    else do
      outside.authority
      ensure (s.globalControl.updatedAt ≤ command.trustedNow)
        "ExecAss global runtime control transition is invalid"
      let epoch := s.globalControl.globalStopEpoch
      let s := { s with globalControl := { s.globalControl with
        engaged := false, updatedAt := command.trustedNow } }
      validateEvent outside command.outboxEvent command.receipt epoch
      let s ← s.insertOutbox command.outboxEvent
      .ok (.append .resumed, s)

def mapAtomic : AtomicWrite GlobalStopMutationOutcome → Anyhow GlobalStopMutationOutcome
  | .appended value => .ok value
  | .noAppend value => .ok value
  | .stale => bail "global stop receipt carrier delegation changed"

def engageGlobalStop (command : EngageGlobalStopCommand) (s : Store) :
    Anyhow (GlobalStopMutationOutcome × Store) := do
  ensure (0 ≤ command.expectedGlobalStopEpoch ∧ 0 < command.trustedNow)
    "global stop engage requires a nonnegative epoch and positive trusted clock"
  validateCommandBinding K command.outboxEvent command.receipt
  let (written, s) ← mutateWithAtomicReceipt J command.receipt (engageMutation outside command) s
  .ok (← mapAtomic written, s)

def resumeGlobalStop (command : ResumeGlobalStopCommand) (s : Store) :
    Anyhow (GlobalStopMutationOutcome × Store) := do
  ensure (0 < command.expectedGlobalStopEpoch ∧ 0 < command.expectedPolicyRevision ∧
      0 < command.trustedNow ∧
      utf8Length command.disclosedUnresolvedExternalEffectsDigest = 71 ∧
      "sha256:".toList.isPrefixOf command.disclosedUnresolvedExternalEffectsDigest = true)
    "global stop resume proof is incomplete"
  outside.attestation
  validateCommandBinding K command.outboxEvent command.receipt
  let (written, s) ←
    mutateWithAtomicReceipt J command.receipt (resumeGlobalMutation outside command) s
  .ok (← mapAtomic written, s)

end GlobalStop

/-! The commands that advance the revision without a lifecycle of their own. -/

structure CasDelegationStateCommand where
  write : WriteContext
  delegationId : Text
  expectedStateRevision : Int
  newStateRevision : Int
  phase : DelegationPhase
  runControl : RunControlState
  pendingDecisionId : Option Text
  externalWaitJson : Option Text
  updatedAt : Int
  terminalAt : Option Int
  outboxEvent : NewOutboxEvent

inductive CasDelegationStateOutcome where
  | updated (delegation : DelegationRecord)
  | stale (currentStateRevision : Int)
  | notFound

/-- The part of a command that advances one delegation: its event, and the columns it sets. -/
structure Advance where
  delegationId : Text
  expectedStateRevision : Int
  event : NewOutboxEvent
  updatedAt : Int

section Advances
variable (K : FenceCrates) (J : Coordinator)

def compareAndSwapDelegationState (command : CasDelegationStateCommand) (s : Store) :
    Anyhow (CasDelegationStateOutcome × Store) := do
  validateWriteContext command.write
  requireText "delegation_id" command.delegationId
  checkOptional (validateJson K "external_wait_json") command.externalWaitJson
  validateOutbox K command.outboxEvent
  ensure (command.newStateRevision = command.expectedStateRevision + 1)
    "delegation CAS must advance the state revision by exactly one"
  ensure (command.phase.isTerminal = command.terminalAt.isSome)
    "terminal_at must be present exactly for a terminal phase"
  ensure (EventBound command.write command.outboxEvent command.delegationId
    command.newStateRevision) "CAS write context and durable event identity must match"
  match s.getDelegation command.delegationId with
  | none => .ok (.notFound, s)
  | some current =>
    if current.stateRevision ≠ command.expectedStateRevision then
      .ok (.stale current.stateRevision, s)
    else do
      let s ← s.updateDelegations (fun row => row.delegationId = command.delegationId &&
          row.stateRevision = command.expectedStateRevision)
        (fun row => { row with
          phase := command.phase
          runControl := command.runControl
          stateRevision := command.newStateRevision
          pendingDecisionId := command.pendingDecisionId
          externalWaitJson := command.externalWaitJson
          updatedAt := command.updatedAt
          terminalAt := command.terminalAt }) fun _ => rfl
      let s ← s.insertOutbox command.outboxEvent
      let d ← required "updated ExecAss delegation could not be reloaded"
        (s.getDelegation command.delegationId)
      .ok (.updated d, s)

/-- The row and the event of an authority lineage or of a criterion's verification. The links and
the result itself are rows of other tables. -/
def Store.advance (s : Store) (a : Advance) : Anyhow Store := do
  let s ← s.advanceDelegation (fun row => row.delegationId = a.delegationId &&
      row.stateRevision = a.expectedStateRevision)
    (fun row => { row with
      stateRevision := a.expectedStateRevision + 1, updatedAt := a.updatedAt }) (fun _ => rfl)
    "delegation changed during the advance of its revision"
  s.insertOutbox a.event

/-- `append_authority_lineage`: the links, and the replay by the event's identity, are read of other
tables. -/
def appendAuthorityLineage (links : Anyhow Bool) (a : Advance) (s : Store) :
    Anyhow (Bool × Store) := do
  if ← links then do
    let s ← s.advance a
    .ok (true, s)
  else .ok (false, s)

/-- `verify_criterion`: the criteria and the evidence are read of other tables. -/
def verifyCriterion (evaluated : Anyhow Bool) (receipt : AppendReceiptCommand) (a : Advance)
    (s : Store) : Anyhow (AtomicWrite Unit × Store) :=
  mutateWithAdvancingAtomicReceipt J a.expectedStateRevision receipt (fun s => do
    if ← evaluated then do
      let s ← s.advance a
      .ok (.append (), s)
    else .ok (.noAppend (), s)) s

/-- `assess_completion`: the assessment is compiled from the criteria, which other tables hold. -/
def assessCompletion (compiled : Anyhow (Option CompletionAssessmentRecord))
    (receipt : AppendReceiptCommand) (transitionId : Text) (a : Advance) (s : Store) :
    Anyhow (AtomicWrite Unit × Store) :=
  mutateWithAdvancingAtomicReceipt J a.expectedStateRevision receipt (fun s => do
    match ← compiled with
    | none => .ok (.noAppend (), s)
    | some assessment => do
      let current ← required "completion delegation disappeared inside its atomic write"
        (s.getDelegation a.delegationId)
      ensure (current.phase.isTerminal = false)
        "terminal delegation requires the late-correction facade"
      let s ← s.insertOutbox a.event
      let s ← s.advanceDelegation (fun row => row.delegationId = a.delegationId &&
          row.stateRevision = a.expectedStateRevision &&
          row.currentCriteriaRevision = some assessment.criteriaRevision)
        (fun row => { row with
          phase := assessment.kind.phase
          stateRevision := a.expectedStateRevision + 1
          pendingDecisionId := none
          externalWaitJson := none
          completionAssessmentJson := some assessment.assessmentJson
          updatedAt := a.updatedAt
          terminalAt := some a.updatedAt }) (fun _ => rfl)
        "completion lifecycle CAS lost its canonical revision"
      let s ← s.insertAssessment assessment
      let s ← s.recordTransition current transitionId assessment.kind.phase current.runControl
        .other none (a.expectedStateRevision + 1) "completion_assessment".toList a.event.eventId
        a.updatedAt
      .ok (.append (), s)) s

end Advances

/-! The resolution of a decision. -/

structure DecisionRecord where
  decisionId : Text
  delegationId : Text
  delegationRevision : Int
  planRevision : Int

structure AtomicDecisionResolutionCommand where
  write : WriteContext
  decisionId : Text
  continuation : Option ContinuationRecord
  logicalEffect : Option LogicalEffectRecord
  outboxEvent : NewOutboxEvent
  receipt : AppendReceiptCommand

/-- What a resolution reads of other tables: the decision, where it is still pending, and whether
the authority and the logical effect are the ones the decision asks for. -/
structure DecisionOutside where
  pending : Option DecisionRecord
  authority : Anyhow Unit

def Store.insertPlannedLogicalEffect (s : Store) (row : LogicalEffectRecord) : Anyhow Store :=
  match s.logicalEffects.insert? { row with state := .planned } with
  | some logicalEffects => .ok { s with logicalEffects }
  | none => bail "UNIQUE constraint failed: execass_logical_effects.logical_effect_id"

def Store.promoteDecisionAction (s : Store) (occurredAt : Int) (c : ContinuationRecord) :
    Anyhow Store := do
  let hit (row : ActionBranchRecord) : Bool := row.actionId = c.actionId &&
    row.delegationId = c.delegationId && row.status = .waiting &&
    row.targetDelegationRevision = c.targetDelegationRevision &&
    row.targetPlanRevision = c.targetPlanRevision && row.stopEpoch = c.stopEpoch
  let next ← s.updateBranches hit (fun row => { row with
    status := .runnable, updatedAt := occurredAt }) fun _ => rfl
  ensure (s.actionBranches.matched hit = 1)
    "decision continuation lost its waiting-to-runnable action race"
  .ok next

def validateDecisionContinuation (command : AtomicDecisionResolutionCommand)
    (decision : DecisionRecord) (c : ContinuationRecord) : Anyhow Unit := do
  validateContinuation c
  ensure (c.causationKind = .decision ∧ c.causationId = command.decisionId ∧
      c.status = .runnable ∧ c.jobId = none ∧ c.leaseOwner = none ∧ c.leaseExpiresAt = none ∧
      c.fencingToken = 0 ∧ c.completedAt = none ∧ c.createdAt = command.write.occurredAt ∧
      c.updatedAt = command.write.occurredAt)
    "decision continuation is not the exact new runnable target"
  ensure (c.delegationId = decision.delegationId ∧
      c.targetDelegationRevision = decision.delegationRevision ∧
      c.targetPlanRevision = decision.planRevision)
    "decision continuation revision binding is invalid"

def resolveDecision (J : Coordinator) (outside : DecisionOutside)
    (command : AtomicDecisionResolutionCommand) (s : Store) :
    Anyhow (AtomicWrite Bool × Store) :=
  mutateWithAtomicReceipt J command.receipt (fun s =>
    match outside.pending with
    | none => .ok (.noAppend false, s)
    | some decision => do
      ensure (command.outboxEvent.aggregateId = decision.delegationId ∧
          command.outboxEvent.aggregateRevision = decision.delegationRevision ∧
          command.receipt.delegationId = decision.delegationId ∧
          command.receipt.expectedStateRevision = decision.delegationRevision)
        "decision resolution does not target its exact delegation revision"
      outside.authority
      checkOptional (validateDecisionContinuation command decision) command.continuation
      let s ← s.insertOptional (fun s c => do
        let s ← s.insertContinuation c
        s.promoteDecisionAction command.write.occurredAt c) command.continuation
      let s ← s.insertOptional Store.insertPlannedLogicalEffect command.logicalEffect
      let s ← s.insertOutbox command.outboxEvent
      .ok (.append true, s)) s

end CarsinOS.Delegation
