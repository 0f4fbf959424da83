import CarsinOS.Completion.Verification

/-! The assessment that ends a delegation: the material criteria with their latest results, the
paths that are still open, and the evidence of the completion receipt. -/
namespace CarsinOS.Completion
open CarsinOS.Lib CarsinOS.Integrity CarsinOS.Receipt
open CarsinOS.Delegation (NewOutboxEvent WriteContext Coordinator AtomicWrite
  DelegationPhase DelegationRecord OutboxEventName MAX_REVISION checkedNext
  CompletionAssessmentKind CompletionAssessmentRecord RecoveryDirective)

def ASSESSMENT_SCHEMA : Text := "carsinos.execass.completion-assessment.v1".toList

structure MaterialCriterionRow where
  criterion : CriterionRow
  latest : Option VerifierResultRecord
  receiptCount : Nat

structure SupersessionSnapshot where
  decisionId : Text
  decisionRevision : Int
  decisionAuthorityProvenanceId : Text
  amendmentId : Text
  amendmentAuthorityProvenanceId : Text
  supersededCriterionId : Text
  supersededCriteriaRevision : Int
  resultingCriteriaRevision : Int

structure CriterionSnapshot where
  criterionId : Text
  criterionKey : Text
  disposition : Text
  verifierResultId : Option Text
  resultRevision : Option Int
  evidenceDigest : Option Text
  supersession : Option SupersessionSnapshot

structure UnmetCriterion where
  criterionId : Text
  criterionKey : Text
  result : Text

structure AssessmentSnapshot where
  delegationId : Text
  criteriaRevision : Int
  materialPassCount : Nat
  materialFailCount : Nat
  materialUnknownCount : Nat
  materialSupersededCount : Nat
  exactUnmetCriteria : List UnmetCriterion
  criteria : List CriterionSnapshot

section Reading
variable (D : CriterionCrates) (s : Store)

/-- `.. ORDER BY result_revision DESC LIMIT 1`. -/
def latestResult (delegationId criterionId : Text) : Option VerifierResultRecord :=
  highest (fun first second => first.resultRevision < second.resultRevision)
    (s.verifierResults.rows.filter fun row =>
      row.delegationId = delegationId && row.criterionId = criterionId)

/-- The event of a receipt tells of this result. -/
def eventTells (delegationId : Text) (v : VerifierResultRecord) (receipt : ReceiptRow)
    (event : NewOutboxEvent) : Bool :=
  event.eventName = .delegationTransitioned && event.aggregateId = delegationId &&
    event.aggregateRevision = receipt.stateRevision && event.causationId = receipt.causationId &&
    (D.extract event.safePayloadJson "criterion_id").bind asStr = some v.criterionId &&
    (D.extract event.safePayloadJson "result").bind asStr = some v.result.asStr &&
    (D.extract event.safePayloadJson "result_revision").bind asI64 = some v.resultRevision &&
    (D.extract event.safePayloadJson "verifier_identity").bind asStr =
      some CRITERION_VERIFIER_IDENTITY

def receiptBinds (delegationId : Text) (v : VerifierResultRecord) (receipt : ReceiptRow) : Bool :=
  receipt.delegationId = delegationId && receipt.receiptKind = .verifier &&
    receipt.actorType = "runtime".toList && receipt.subjectKind = .verifierResult &&
    receipt.subjectId = v.verifierResultId && receipt.subjectRevision = v.resultRevision &&
    (s.lifecycle.outboxEvents.find? receipt.causationEventId).any
      (eventTells D delegationId v receipt) &&
    v.verifierIdentity = CRITERION_VERIFIER_IDENTITY

def criterionLe (left right : CriterionRow) : Bool :=
  if left.criterionKey ≠ right.criterionKey then left.criterionKey < right.criterionKey
  else left.criterionId ≤ right.criterionId

def materialCriteria (delegationId : Text) (criteriaRevision : Int) : List CriterionRow :=
  (s.criteria.rows.filter fun row => row.delegationId = delegationId &&
    row.criteriaRevision = criteriaRevision && row.material).mergeSort criterionLe

def loadMaterialCriteria (delegationId : Text) (criteriaRevision : Int) :
    List MaterialCriterionRow :=
  (materialCriteria s delegationId criteriaRevision).map fun criterion =>
    let latest := latestResult s delegationId criterion.criterionId
    { criterion, latest
      receiptCount := match latest with
        | none => 0
        | some v => s.receipts.rows.countP (receiptBinds D s delegationId v) }

def isHuman (actorType : Text) : Bool :=
  actorType = "human_local".toList || actorType = "human_remote".toList

/-- The rows of the join, for a predicate that names a decision and a criterion. -/
def supersessionRows (delegationId : Text) (criteriaRevision : Int) (criterionId : Text)
    (decisionId : Text) (decisionRevision : Int) (supersededCriterionId : Text) :
    List SupersessionSnapshot :=
  (s.decisions.rows.filter fun decision => decision.delegationId = delegationId &&
      decision.decisionId = decisionId && decision.decisionRevision = decisionRevision &&
      decision.resolved && decision.result = some "revise".toList).flatMap fun decision =>
  (s.authorities.rows.filter fun authority =>
      some authority.authorityProvenanceId = decision.resolvedByAuthorityProvenanceId &&
      isHuman authority.actorType && authority.authorityKind = "decision_resolution".toList &&
      authority.boundDecisionId = some decision.decisionId &&
      authority.boundDecisionRevision = some decision.decisionRevision).flatMap fun resolution =>
  (s.amendments.rows.filter fun amendment =>
      amendment.delegationId = decision.delegationId).flatMap fun amendment =>
  (s.authorities.rows.filter fun authority =>
      authority.authorityProvenanceId = amendment.authorityProvenanceId &&
      isHuman authority.actorType &&
      authority.authorityKind = "action_specific_owner_amendment".toList &&
      authority.credentialIdentity = resolution.credentialIdentity &&
      authority.authenticatedIngress = resolution.authenticatedIngress &&
      authority.sourceCorrelationId = resolution.sourceCorrelationId).flatMap fun amender =>
  (s.amendmentCriteriaLinks.rows.filter fun link => link.amendmentId = amendment.amendmentId &&
      link.resultingCriteriaRevision = criteriaRevision).flatMap fun link =>
  (s.criteria.rows.filter fun old => old.delegationId = decision.delegationId &&
      old.criterionId = supersededCriterionId &&
      old.criteriaRevision = link.supersededCriteriaRevision &&
      s.criteria.rows.any fun current => current.delegationId = delegationId &&
        current.criteriaRevision = criteriaRevision && current.criterionId = criterionId &&
        current.material && current.verifierType = .humanBoundSupersession).map fun _ => {
    decisionId
    decisionRevision
    decisionAuthorityProvenanceId := resolution.authorityProvenanceId
    amendmentId := amendment.amendmentId
    amendmentAuthorityProvenanceId := amender.authorityProvenanceId
    supersededCriterionId
    supersededCriteriaRevision := link.supersededCriteriaRevision
    resultingCriteriaRevision := link.resultingCriteriaRevision }

def resolveHumanSupersession (delegationId : Text) (criteriaRevision : Int)
    (criterion : CriterionRow) : Option SupersessionSnapshot :=
  match D.predicate criterion.predicateJson with
  | some (.humanBoundSupersession decisionId decisionRevision supersededCriterionId) =>
    match supersessionRows s delegationId criteriaRevision criterion.criterionId decisionId
        decisionRevision supersededCriterionId with
    | [row] => some row
    | _ => none
  | _ => none

def bindingOf (delegationId : Text) (criteriaRevision : Int) (criterion : CriterionRow) :
    Option SupersessionSnapshot :=
  if criterion.verifierType = .humanBoundSupersession then
    resolveHumanSupersession D s delegationId criteriaRevision criterion
  else none

def resultOf (latest : Option VerifierResultRecord) : CriterionVerificationResult :=
  match latest with
  | some v => v.result
  | none => .unknown

def snapshotOf (delegationId : Text) (criteriaRevision : Int) (row : MaterialCriterionRow) :
    CriterionSnapshot :=
  let binding := bindingOf D s delegationId criteriaRevision row.criterion
  { criterionId := row.criterion.criterionId
    criterionKey := row.criterion.criterionKey
    disposition := if binding.isSome then "superseded".toList else (resultOf row.latest).asStr
    verifierResultId := row.latest.map (·.verifierResultId)
    resultRevision := row.latest.map (·.resultRevision)
    evidenceDigest := row.latest.map (·.evidenceDigest)
    supersession := binding }

def unmetOf (criterion : CriterionSnapshot) : Option UnmetCriterion :=
  if criterion.disposition = "superseded".toList ∨ criterion.disposition = "pass".toList then none
  else some ⟨criterion.criterionId, criterion.criterionKey, criterion.disposition⟩

def buildSnapshot (delegationId : Text) (criteriaRevision : Int)
    (rows : List MaterialCriterionRow) : AssessmentSnapshot :=
  let criteria := rows.map (snapshotOf D s delegationId criteriaRevision)
  let count (disposition : String) : Nat := criteria.countP (·.disposition = disposition.toList)
  { delegationId
    criteriaRevision
    materialPassCount := count "pass"
    materialFailCount := count "fail"
    materialUnknownCount := count "unknown"
    materialSupersededCount := count "superseded"
    exactUnmetCriteria := criteria.filterMap unmetOf
    criteria }

/-! The paths that keep a delegation open. -/

def closed (status : Delegation.ContinuationStatus) : Bool :=
  status = .terminal || status = .superseded

def openEffect (state : Delegation.LogicalEffectState) : Bool :=
  state = .planned || state = .claimed || state = .invoking || state = .outcomeUnknown

def openAttempt (status : Delegation.ProviderAttemptStatus) : Bool :=
  status = .prepared || status = .invoking || status = .outcomeUnknown

def settledEffect (state : Delegation.LogicalEffectState) : Bool :=
  state = .succeeded || state = .reconciledAbsent || state = .reconciledPresent

def endsRecovery (directive : RecoveryDirective) : Bool :=
  directive = .partiallyCompleted || directive = .failed

/-- The evaluation is its episode's latest, and its effect is neither settled nor given up. -/
def openRecovery (evaluation : Delegation.RecoveryEvaluationRecord) : Bool :=
  (s.lifecycle.recoveryEvaluations.rows.all fun other =>
      other.recoveryEpisodeId ≠ evaluation.recoveryEpisodeId ||
        other.evaluationRevision ≤ evaluation.evaluationRevision) &&
    (s.lifecycle.logicalEffects.find? evaluation.logicalEffectId).any
      (fun effect => !settledEffect effect.state) &&
    !endsRecovery evaluation.directive

def remainingPathBlockers (delegationId : Text) : List String :=
  let l := s.lifecycle
  let blocks (blocked : Bool) (name : String) : List String := if blocked then [name] else []
  blocks (l.actionBranches.rows.any fun row =>
      row.delegationId = delegationId && !closed row.status) "active_action_branch" ++
  blocks (l.continuations.rows.any fun row =>
      row.delegationId = delegationId && !closed row.status) "active_continuation" ++
  blocks (l.attentionItems.rows.any fun row =>
      row.delegationId = delegationId && row.status = .actionable) "actionable_human_attention" ++
  blocks (l.externalWaits.rows.any fun row =>
      row.delegationId = delegationId && row.status = .waiting) "external_wait" ++
  blocks ((l.logicalEffects.rows.any fun row =>
      row.delegationId = delegationId && openEffect row.state) ||
    l.providerAttempts.rows.any fun row =>
      row.delegationId = delegationId && openAttempt row.status) "active_or_uncertain_effect" ++
  blocks (l.recoveryEvaluations.rows.any fun row =>
      row.delegationId = delegationId && openRecovery s row) "active_recovery_path"

/-! The evidence of the completion receipt. -/

/-- The references of the receipts about a result; the query orders them within their receipt. -/
def resultEvidence (resultId : Text) : List ReceiptEvidenceInput :=
  (s.receipts.rows.filter fun receipt =>
    receipt.subjectKind = .verifierResult && receipt.subjectId = resultId).flatMap (·.evidence)

/-- Every item where it is first seen. -/
def firstSeen (items : List ReceiptEvidenceInput) : List ReceiptEvidenceInput :=
  items.foldl (fun seen item => if item ∈ seen then seen else seen ++ [item]) []

/-- What the latest results of the criteria rest on. -/
def collectedEvidence (resultIds : List (Option Text)) : List ReceiptEvidenceInput :=
  firstSeen (resultIds.flatMap fun
    | some resultId => resultEvidence s resultId
    | none => [])

def completionReceiptEvidence (criteria : List CriterionSnapshot) :
    Anyhow (List ReceiptEvidenceInput) := do
  let evidence := collectedEvidence s (criteria.map (·.verifierResultId))
  ensure (evidence.length ≤ 64) "completion evidence exceeds the canonical receipt limit"
  .ok evidence

end Reading

/-! The JSON texts of an assessment. -/

def supersessionTree (row : SupersessionSnapshot) : Json :=
  .obj [("decision_id".toList, .str row.decisionId),
    ("decision_revision".toList, integerTree row.decisionRevision),
    ("decision_authority_provenance_id".toList, .str row.decisionAuthorityProvenanceId),
    ("amendment_id".toList, .str row.amendmentId),
    ("amendment_authority_provenance_id".toList, .str row.amendmentAuthorityProvenanceId),
    ("superseded_criterion_id".toList, .str row.supersededCriterionId),
    ("superseded_criteria_revision".toList, integerTree row.supersededCriteriaRevision),
    ("resulting_criteria_revision".toList, integerTree row.resultingCriteriaRevision)]

def criterionTree (criterion : CriterionSnapshot) : Json :=
  .obj [("criterion_id".toList, .str criterion.criterionId),
    ("criterion_key".toList, .str criterion.criterionKey),
    ("disposition".toList, .str criterion.disposition),
    ("verifier_result_id".toList, Json.optional criterion.verifierResultId),
    ("result_revision".toList, optionalIntegerTree criterion.resultRevision),
    ("evidence_digest".toList, Json.optional criterion.evidenceDigest),
    ("supersession".toList, (criterion.supersession.map supersessionTree).getD .null)]

def unmetTree (criterion : UnmetCriterion) : Json :=
  .obj [("criterion_id".toList, .str criterion.criterionId),
    ("criterion_key".toList, .str criterion.criterionKey),
    ("result".toList, .str criterion.result)]

def AssessmentSnapshot.materialCriterionCount (snapshot : AssessmentSnapshot) : Nat :=
  snapshot.criteria.length

def snapshotTree (snapshot : AssessmentSnapshot) : Json :=
  .obj [("schema".toList, .str ASSESSMENT_SCHEMA),
    ("delegation_id".toList, .str snapshot.delegationId),
    ("criteria_revision".toList, integerTree snapshot.criteriaRevision),
    ("material_criterion_count".toList, integerTree snapshot.materialCriterionCount),
    ("material_pass_count".toList, integerTree snapshot.materialPassCount),
    ("material_fail_count".toList, integerTree snapshot.materialFailCount),
    ("material_unknown_count".toList, integerTree snapshot.materialUnknownCount),
    ("material_superseded_count".toList, integerTree snapshot.materialSupersededCount),
    ("useful_outcome".toList, .bool (0 < snapshot.materialPassCount)),
    ("exact_unmet_criteria".toList, .arr (snapshot.exactUnmetCriteria.map unmetTree)),
    ("no_remaining_path".toList, .bool true),
    ("criteria".toList, .arr (snapshot.criteria.map criterionTree))]

def terminalPhase : CompletionAssessmentKind → Text
  | .completed => "completed".toList
  | .partiallyCompleted => "partially_completed".toList
  | .failed => "failed".toList

def assessmentKind (snapshot : AssessmentSnapshot) : CompletionAssessmentKind :=
  if snapshot.materialPassCount + snapshot.materialSupersededCount =
      snapshot.materialCriterionCount ∧ snapshot.materialFailCount = 0 ∧
      snapshot.materialUnknownCount = 0 then .completed
  else if 0 < snapshot.materialPassCount then .partiallyCompleted
  else .failed

/-! `assess_completion_atomically`. -/

inductive AssessmentMutation where
  | applied (assessment : CompletionAssessmentRecord)
  | replayed (assessment : CompletionAssessmentRecord)
  | notTerminal (phase : DelegationPhase) (blockers : List String)
  | staleAssessmentRevision (current : Int)
  | criteriaRevisionMismatch (current : Option Int)
  | authoritativeStateInvalid (reason : String)
  | conflict (duplicateIdentity : Text)

section Assessing
variable (D : CriterionCrates)

def deterministicId (domain : String) (values : List Text) (kind : String) : Text :=
  kind.toList ++ '-' :: (D.sha256 (utf8Bytes domain.toList ++ 0 ::
    values.flatMap fun value => utf8Bytes value ++ [0])).val

def completionAssessmentId (command : AssessCompletionCommand) : Text :=
  deterministicId D "carsinos.execass.completion-assessment.v1" [command.delegationId,
    (integerTree command.expectedAssessmentRevision).print, command.write.idempotencyKey]
    "completion-assessment"

def completionEventId (assessmentId : Text) : Text :=
  deterministicId D "carsinos.execass.completion-event.v1" [assessmentId] "completion-event"

def completionTransitionId (assessmentId : Text) : Text :=
  deterministicId D "carsinos.execass.completion-transition.v1" [assessmentId]
    "completion-transition"

def requireCommandText (value : Text) (label : String) : Anyhow Unit :=
  ensure (trimChars value ≠ [] ∧ utf8Length value ≤ 256 ∧ value.any isControl = false)
    (label ++ " is invalid")

def validateAssessmentCommand (command : AssessCompletionCommand) : Anyhow Unit := do
  requireCommandText command.delegationId "completion delegation"
  requireCommandText command.write.idempotencyKey "completion idempotency key"
  ensure (0 < command.expectedStateRevision ∧ 0 < command.expectedCriteriaRevision ∧
    0 < command.expectedAssessmentRevision) "completion revisions must be positive"
  ensure (command.receipt.delegationId = command.delegationId ∧
      command.receipt.receiptKind = .completion ∧
      command.receipt.subject.kind = .completionAssessment ∧
      command.receipt.subject.subjectId = completionAssessmentId D command ∧
      command.receipt.subject.revision = command.expectedAssessmentRevision ∧
      command.receipt.causationEventId = completionEventId D (completionAssessmentId D command) ∧
      command.receipt.causationId = command.write.causationId ∧
      command.receipt.occurredAt = command.write.occurredAt)
    "completion receipt does not bind the deterministic assessment command"

/-- `COALESCE(MAX(assessment_revision),0)`. -/
def Store.currentAssessmentRevision (s : Store) (delegationId : Text) : Int :=
  ((s.lifecycle.completionAssessments.rows.filter (·.delegationId = delegationId)).map
    (·.assessmentRevision)).foldl max 0

def assessmentRecord (command : AssessCompletionCommand) (snapshot : AssessmentSnapshot) :
    CompletionAssessmentRecord where
  assessmentId := completionAssessmentId D command
  delegationId := command.delegationId
  assessmentRevision := command.expectedAssessmentRevision
  criteriaRevision := command.expectedCriteriaRevision
  kind := assessmentKind snapshot
  materialPassCount := snapshot.materialPassCount
  materialFailCount := snapshot.materialFailCount
  materialUnknownCount := snapshot.materialUnknownCount
  usefulOutcome := assessmentKind snapshot = .completed || 0 < snapshot.materialPassCount
  exactUnmetPortion :=
    if snapshot.exactUnmetCriteria = [] then none
    else some (Json.arr (snapshot.exactUnmetCriteria.map unmetTree)).print
  noRemainingPath := true
  assessmentJson := (snapshotTree snapshot).print
  assessedAt := command.write.occurredAt

def validateCompletionReceipt (command : AssessCompletionCommand)
    (evidence : List ReceiptEvidenceInput) : Anyhow Unit :=
  ensure (command.receipt.expectedStateRevision = command.expectedStateRevision + 1 ∧
      command.receipt.evidence = evidence)
    "completion receipt does not match authoritative assessment evidence"

def completionEvent (command : AssessCompletionCommand) (snapshot : AssessmentSnapshot) :
    NewOutboxEvent where
  eventId := completionEventId D (completionAssessmentId D command)
  eventName := .completionAssessed
  aggregateId := command.delegationId
  aggregateRevision := command.expectedStateRevision + 1
  correlationId := command.write.correlationId
  causationId := command.write.causationId
  occurredAt := command.write.occurredAt
  safePayloadJson := (Json.obj [
    ("assessment_id".toList, .str (completionAssessmentId D command)),
    ("criteria_revision".toList, integerTree command.expectedCriteriaRevision),
    ("material_criterion_count".toList, integerTree snapshot.materialCriterionCount),
    ("material_fail_count".toList, integerTree snapshot.materialFailCount),
    ("material_pass_count".toList, integerTree snapshot.materialPassCount),
    ("material_superseded_count".toList, integerTree snapshot.materialSupersededCount),
    ("material_unknown_count".toList, integerTree snapshot.materialUnknownCount),
    ("terminal_phase".toList, .str (terminalPhase (assessmentKind snapshot)))]).print
  duplicateIdentity := command.write.idempotencyKey

/-- The statements that end the delegation. -/
def terminalize (command : AssessCompletionCommand) (snapshot : AssessmentSnapshot)
    (current : DelegationRecord) (l : Delegation.Store) : Anyhow Delegation.Store := do
  let assessment := assessmentRecord D command snapshot
  let event := completionEvent D command snapshot
  let l ← l.insertOutbox event
  let l ← l.advanceDelegation (fun row => row.delegationId = command.delegationId &&
      row.stateRevision = command.expectedStateRevision &&
      row.currentCriteriaRevision = some command.expectedCriteriaRevision)
    (fun row => { row with
      phase := assessment.kind.phase
      stateRevision := command.expectedStateRevision + 1
      pendingDecisionId := none
      externalWaitJson := none
      completionAssessmentJson := some assessment.assessmentJson
      updatedAt := command.write.occurredAt
      terminalAt := some command.write.occurredAt }) (fun _ => rfl)
    "completion lifecycle CAS lost its canonical revision"
  let l ← l.insertAssessment assessment
  l.recordTransition current (completionTransitionId D assessment.assessmentId)
    assessment.kind.phase current.runControl .other none (command.expectedStateRevision + 1)
    "completion_assessment".toList event.eventId command.write.occurredAt

/-- The stored command of the assessment's transition is this one. -/
def sameAssessment (command : AssessCompletionCommand) (s : Store) : Bool :=
  let eventId := completionEventId D (completionAssessmentId D command)
  s.assessmentCommands.lookup eventId = some command &&
    (s.lifecycle.outboxEvents.find? eventId).any fun event =>
      event.duplicateIdentity = command.write.idempotencyKey

/-- The open paths, and the lack of a material criterion. -/
def assessmentBlockers (s : Store) (delegationId : Text) (rows : List MaterialCriterionRow) :
    List String :=
  remainingPathBlockers s delegationId ++ if rows = [] then ["zero_material_criteria"] else []

def assessInTransaction (command : AssessCompletionCommand) (s : Store) :
    Anyhow (AtomicReceiptMutation AssessmentMutation × Store) :=
  let id := command.delegationId
  match s.lifecycle.completionAssessments.find? (completionAssessmentId D command) with
  | some existing =>
    if sameAssessment D command s then .ok (.noAppend (.replayed existing), s)
    else .ok (.noAppend (.conflict command.write.idempotencyKey), s)
  | none =>
    match s.getDelegation id with
    | none => bail "completion delegation disappeared inside its atomic write"
    | some current => do
      ensure (current.phase.isTerminal = false)
        "terminal delegation requires the late-correction facade"
      if current.currentCriteriaRevision ≠ some command.expectedCriteriaRevision then
        .ok (.noAppend (.criteriaRevisionMismatch current.currentCriteriaRevision), s)
      else
        let revision := s.currentAssessmentRevision id
        let next ← checkedNext revision "completion assessment revision is exhausted"
        if command.expectedAssessmentRevision ≠ next then
          .ok (.noAppend (.staleAssessmentRevision revision), s)
        else
          let rows := loadMaterialCriteria D s id command.expectedCriteriaRevision
          if rows.any (fun row => row.latest.isSome && row.receiptCount ≠ 1) then
            .ok (.noAppend (.authoritativeStateInvalid
              "verifier result lacks one exact receipt-chain binding"), s)
          else
            let blockers := assessmentBlockers s id rows
            if blockers ≠ [] then .ok (.noAppend (.notTerminal current.phase blockers), s)
            else do
              let snapshot := buildSnapshot D s id command.expectedCriteriaRevision rows
              let evidence ← completionReceiptEvidence s snapshot.criteria
              validateCompletionReceipt command evidence
              let lifecycle ← terminalize D command snapshot current s.lifecycle
              let eventId := completionEventId D (completionAssessmentId D command)
              let assessmentCommands := (eventId, command) :: s.assessmentCommands
              .ok (.append (.applied (assessmentRecord D command snapshot)),
                { s with lifecycle, assessmentCommands })

def assessCompletion (J : Coordinator) (command : AssessCompletionCommand) (s : Store) :
    Anyhow (AtomicWrite AssessmentMutation × Store) := do
  validateAssessmentCommand D command
  let _ ← checkedNext command.expectedStateRevision "completion state revision is exhausted"
  mutateWithAtomicReceiptAtRevision D J command.receipt command.expectedStateRevision true
    (assessInTransaction D command) s

end Assessing

end CarsinOS.Completion
