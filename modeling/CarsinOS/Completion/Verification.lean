import CarsinOS.Completion.Verifier

/-! The statements that write verifier results and their receipts. -/
namespace CarsinOS.Completion
open CarsinOS.Lib CarsinOS.Integrity CarsinOS.Receipt
open CarsinOS.Delegation (NewOutboxEvent WriteContext Coordinator AtomicWrite requireText
  DelegationPhase DelegationRecord OutboxEventName MAX_REVISION checkedNext)

/-! The evidence of a receipt. -/

def evidenceLe (left right : ReceiptEvidenceInput) : Bool :=
  if left.kind ≠ right.kind then left.kind < right.kind
  else if left.sourceId ≠ right.sourceId then left.sourceId < right.sourceId
  else if left.authoritativeRevision ≠ right.authoritativeRevision then
    left.authoritativeRevision < right.authoritativeRevision
  else left.authorityLinkId ≤ right.authorityLinkId

/-- Two items that observe one source at one revision. -/
def SameObservation (left right : ReceiptEvidenceInput) : Prop :=
  left.kind = right.kind ∧ left.sourceId = right.sourceId ∧
    left.authoritativeRevision = right.authoritativeRevision

instance (left right : ReceiptEvidenceInput) : Decidable (SameObservation left right) := by
  unfold SameObservation
  infer_instance

def pushEvidence (normalized : List ReceiptEvidenceInput) (item : ReceiptEvidenceInput) :
    Anyhow (List ReceiptEvidenceInput) :=
  match normalized.getLast? with
  | none => .ok (normalized ++ [item])
  | some previous =>
    if SameObservation previous item then
      if previous.authorityLinkId = item.authorityLinkId then .ok normalized
      else bail "duplicate receipt evidence identity conflicts"
    else .ok (normalized ++ [item])

/-- The link an item cites. -/
def Cites (item : ReceiptEvidenceInput) (delegationId : Text) (link : LinkSource) : Prop :=
  link.delegationId = delegationId ∧ receiptEvidence link = item

instance (item : ReceiptEvidenceInput) (delegationId : Text) (link : LinkSource) :
    Decidable (Cites item delegationId link) := by
  unfold Cites
  infer_instance

section Evidence
variable (D : CriterionCrates) (s : Store) (delegationId : Text)

def validateEvidence (item : ReceiptEvidenceInput) : Anyhow Unit := do
  ensure (D.cleanEvidence item = true) "evidence contains sensitive content"
  ensure (item.authoritativeRevision = 0) "legacy authority source revision must be zero"
  ensure (∃ link ∈ s.authorityLinks.rows, Cites item delegationId link)
    "receipt evidence does not match an exact authority link"
  ensure ((item.kind, item.sourceId) ∈ s.sources)
    "receipt evidence authoritative source does not exist"

def normalizeAndValidateEvidence (evidence : List ReceiptEvidenceInput) :
    Anyhow (List ReceiptEvidenceInput) := do
  ensure (evidence.length ≤ 64) "canonical receipt command is invalid"
  let _ ← evidence.mapM (validateEvidence D s delegationId)
  (evidence.mergeSort evidenceLe).foldlM pushEvidence []

end Evidence

def receiptRowOf (command : AppendReceiptCommand) (evidence : List ReceiptEvidenceInput) :
    ReceiptRow where
  causationEventId := command.causationEventId
  delegationId := command.delegationId
  receiptKind := command.receiptKind
  actorType := command.actor.actorType
  subjectKind := command.subject.kind
  subjectId := command.subject.subjectId
  subjectRevision := command.subject.revision
  causationId := command.causationId
  stateRevision := command.expectedStateRevision
  evidence

def Store.insertReceipt (s : Store) (row : ReceiptRow) : Anyhow Store :=
  match s.receipts.insert? row with
  | some receipts => .ok { s with receipts }
  | none => bail "UNIQUE constraint failed: execass_receipts.causation_event_id"

section Commands
variable (D : CriterionCrates) (J : Coordinator)

/-- The receipt a mutation asks for, at the revision the mutation left. -/
def appendAtomicReceipt {T : Type} (command : AppendReceiptCommand) (value : T) (next : Store) :
    Anyhow (AtomicWrite T × Store) :=
  match next.getDelegation command.delegationId with
  | none => bail "Query returned no rows"
  | some after => do
    ensure (after.stateRevision = command.expectedStateRevision)
      "atomic aggregate mutation did not produce the receipt revision"
    let evidence ← normalizeAndValidateEvidence D next command.delegationId command.evidence
    ensure (J.appends = true) "failed inserting canonical atomic ExecAss receipt"
    let next ← next.insertReceipt (receiptRowOf command evidence)
    .ok (.appended value, next)

def mutateWithAtomicReceiptAtRevision {T : Type} (command : AppendReceiptCommand)
    (expectedPreStateRevision : Int) (precheckRevisionBeforeMutation : Bool)
    (mutation : Store → Anyhow (AtomicReceiptMutation T × Store)) (s : Store) :
    Anyhow (AtomicWrite T × Store) := do
  ensure (J.available = true) "receipt integrity is not available"
  match s.receipts.find? command.causationEventId with
  | some _ => do
    let (mutated, next) ← mutation s
    match mutated with
    | .noAppend value => .ok (.noAppend value, next)
    | .append _ => bail "existing atomic receipt cannot be appended again"
  | none =>
    match s.getDelegation command.delegationId with
    | none => bail "ExecAss receipt delegation does not exist"
    | some before => do
      let snapshotMatches : Bool :=
        before.stateRevision = expectedPreStateRevision && J.headsMatch
      if precheckRevisionBeforeMutation && !snapshotMatches then .ok (.stale, s)
      else do
        let (mutated, next) ← mutation s
        match mutated with
        | .noAppend value => .ok (.noAppend value, next)
        | .append value =>
          if snapshotMatches = false then .ok (.stale, s)
          else appendAtomicReceipt D J command value next

/-! `verify_criterion`. -/

structure VerifyCriterionCommand where
  write : WriteContext
  delegationId : Text
  criterionId : Text
  expectedCriteriaRevision : Int
  expectedStateRevision : Int
  expectedResultRevision : Int
  verifierResultId : Text
  outboxEventId : Text
  receipt : AppendReceiptCommand

inductive MutationValue where
  | recorded (result : VerifierResultRecord)
  | replayed (result : VerifierResultRecord)
  | staleResultRevision (current : Int)
  | revisionExhausted (kind : String) (current : Int)
  | criteriaRevisionMismatch (current : Option Int)
  | missingDelegation
  | missingCriterion
  | rejectedPredicate (reason : String)
  | conflict (duplicateIdentity : Text)

def deterministicVerifierResultId (criterionId : Text) (resultRevision : Int)
    (idempotencyKey : Text) : Text :=
  "verifier-result-".toList ++ (D.sha256 (utf8Bytes ("carsinos.execass.verifier-result.v1".toList ++
    Char.ofNat 0 :: criterionId ++ Char.ofNat 0 :: (integerTree resultRevision).print ++
    Char.ofNat 0 :: idempotencyKey))).val

def validateCommandShape (command : VerifyCriterionCommand) : Anyhow Unit := do
  ensure (trimChars command.write.idempotencyKey ≠ [] ∧ trimChars command.write.correlationId ≠ [] ∧
      trimChars command.write.causationId ≠ [] ∧ trimChars command.delegationId ≠ [] ∧
      trimChars command.criterionId ≠ [] ∧ trimChars command.verifierResultId ≠ [] ∧
      trimChars command.outboxEventId ≠ [] ∧ 0 < command.expectedCriteriaRevision ∧
      0 < command.expectedStateRevision ∧ 0 < command.expectedResultRevision ∧
      0 < command.write.occurredAt)
    "criterion verification command contains an invalid identity, revision, or time"
  ensure (command.receipt.delegationId = command.delegationId ∧
      command.receipt.expectedStateRevision = command.expectedStateRevision + 1 ∧
      command.receipt.receiptKind = .verifier ∧
      command.receipt.subject.kind = .verifierResult ∧
      command.receipt.subject.subjectId = command.verifierResultId ∧
      command.receipt.subject.revision = command.expectedResultRevision ∧
      command.receipt.causationId = command.write.causationId ∧
      command.receipt.causationEventId = command.outboxEventId ∧
      command.receipt.actor.actorType = "runtime".toList ∧
      command.receipt.rotation.isNone = true ∧
      command.receipt.occurredAt = command.write.occurredAt ∧
      command.receipt.occurredAt ≤ command.receipt.committedAt)
    "criterion verification receipt is not bound to the exact runtime command"

/-- The payload of a verification's event. -/
def verificationPayload (criterionId : Text) (result : CriterionVerificationResult)
    (resultRevision : Int) : List (Text × Json) := [
  ("criterion_id".toList, .str criterionId), ("result".toList, .str result.asStr),
  ("result_revision".toList, integerTree resultRevision),
  ("verifier_identity".toList, .str CRITERION_VERIFIER_IDENTITY)]

def verificationEvent (command : VerifyCriterionCommand) (result : CriterionVerificationResult) :
    NewOutboxEvent where
  eventId := command.outboxEventId
  eventName := .delegationTransitioned
  aggregateId := command.delegationId
  aggregateRevision := command.expectedStateRevision + 1
  correlationId := command.write.correlationId
  causationId := command.write.causationId
  occurredAt := command.write.occurredAt
  safePayloadJson :=
    (Json.obj (verificationPayload command.criterionId result command.expectedResultRevision)).print
  duplicateIdentity := command.write.idempotencyKey

def existingResultMutation (command : VerifyCriterionCommand) (s : Store) :
    Option MutationValue :=
  (s.verifierResults.find? command.verifierResultId).map fun existing : VerifierResultRecord =>
    let exactReceipt : Bool := s.receipts.rows.any fun row =>
      row.delegationId = command.delegationId && row.subjectKind = .verifierResult &&
        row.subjectId = command.verifierResultId &&
        row.subjectRevision = command.expectedResultRevision &&
        row.causationEventId = command.outboxEventId
    let sameEvent : Bool := (s.lifecycle.outboxEvents.find? command.outboxEventId).any fun event =>
      event.duplicateIdentity = command.write.idempotencyKey
    if existing.delegationId = command.delegationId ∧ existing.criterionId = command.criterionId ∧
        existing.resultRevision = command.expectedResultRevision ∧
        existing.verifierIdentity = CRITERION_VERIFIER_IDENTITY ∧ exactReceipt = true ∧
        sameEvent = true then .replayed existing
    else .conflict command.write.idempotencyKey

/-- `COALESCE(MAX(result_revision),0)`. -/
def Store.currentResultRevision (s : Store) (criterionId : Text) : Int :=
  ((s.verifierResults.rows.filter (·.criterionId = criterionId)).map (·.resultRevision)).foldl max 0

def Store.insertVerifierResult (s : Store) (row : VerifierResultRecord) : Anyhow Store := do
  ensure (∀ other ∈ s.verifierResults.rows,
      (other.criterionId, other.resultRevision) ≠ (row.criterionId, row.resultRevision))
    "UNIQUE constraint failed: execass_verifier_results"
  ensure ((s.loadCriterion row.delegationId row.criterionId).isSome = true)
    "FOREIGN KEY constraint failed"
  match s.verifierResults.insert? row with
  | some verifierResults => .ok { s with verifierResults }
  | none => bail "UNIQUE constraint failed: execass_verifier_results.verifier_result_id"

def recordResult (command : VerifyCriterionCommand) (evaluation : Evaluation) (s : Store) :
    Anyhow (AtomicReceiptMutation MutationValue × Store) := do
  let evidenceRefsJson := evaluation.evidence.print
  let result : VerifierResultRecord := {
    verifierResultId := command.verifierResultId
    delegationId := command.delegationId
    criterionId := command.criterionId
    resultRevision := command.expectedResultRevision
    result := evaluation.result
    evidenceRefsJson
    evidenceDigest := sha256Text D.toCrates evidenceRefsJson
    verifierIdentity := CRITERION_VERIFIER_IDENTITY
    verifiedAt := command.write.occurredAt }
  let lifecycle ← s.lifecycle.advanceDelegation (fun row =>
      row.delegationId = command.delegationId &&
        row.stateRevision = command.expectedStateRevision &&
        row.currentCriteriaRevision = some command.expectedCriteriaRevision)
    (fun row => { row with
      stateRevision := command.expectedStateRevision + 1, updatedAt := command.write.occurredAt })
    (fun _ => rfl) "delegation changed during criterion verification"
  let lifecycle ← lifecycle.insertOutbox (verificationEvent command evaluation.result)
  let s ← { s with lifecycle }.insertVerifierResult result
  .ok (.append (.recorded result), s)

def verifyInTransaction (w : World) (command : VerifyCriterionCommand)
    (predicate : CriterionPredicate) (s : Store) :
    Anyhow (AtomicReceiptMutation MutationValue × Store) :=
  let conflict : MutationValue := .conflict command.write.idempotencyKey
  match existingResultMutation command s with
  | some value => .ok (.noAppend value, s)
  | none =>
    if ∃ event ∈ s.lifecycle.outboxEvents.rows,
        event.duplicateIdentity = command.write.idempotencyKey then .ok (.noAppend conflict, s)
    else
      let current := (s.getDelegation command.delegationId).bind (·.currentCriteriaRevision)
      if current ≠ some command.expectedCriteriaRevision then
        .ok (.noAppend (.criteriaRevisionMismatch current), s)
      else
        let revision := s.currentResultRevision command.criterionId
        if ¬ revision < MAX_REVISION then
          .ok (.noAppend (.revisionExhausted "verifier_result" revision), s)
        else if command.expectedResultRevision ≠ revision + 1 then
          .ok (.noAppend (.staleResultRevision revision), s)
        else
          let evaluation := evaluatePredicate D.toCrates w s command.delegationId predicate
          if command.receipt.evidence ≠ evaluation.receiptEvidence then
            .ok (.noAppend conflict, s)
          else recordResult D command evaluation s

def replayVerification (command : VerifyCriterionCommand) (s : Store) :
    Anyhow (AtomicReceiptMutation MutationValue × Store) :=
  match existingResultMutation command s with
  | some value => .ok (.noAppend value, s)
  | none => bail "immutable verifier result disappeared during replay"

/-- What the facade reads before its transaction it reads of the same tables. -/
def verifyCriterion (w : World) (command : VerifyCriterionCommand) (s : Store) :
    Anyhow (AtomicWrite MutationValue × Store) :=
  if ¬ command.expectedStateRevision < MAX_REVISION then
    .ok (.noAppend (.revisionExhausted "delegation_state" command.expectedStateRevision), s)
  else do
    validateCommandShape command
    if command.verifierResultId ≠ deterministicVerifierResultId D command.criterionId
        command.expectedResultRevision command.write.idempotencyKey then
      .ok (.noAppend (.rejectedPredicate
        "verifier result identity is not deterministic for the command"), s)
    else if (s.verifierResults.find? command.verifierResultId).isSome = true then
      mutateWithAtomicReceiptAtRevision D J command.receipt command.receipt.expectedStateRevision
        false (replayVerification command) s
    else
      match s.getDelegation command.delegationId,
          s.loadCriterion command.delegationId command.criterionId with
      | none, _ => .ok (.noAppend .missingDelegation, s)
      | some _, none => .ok (.noAppend .missingCriterion, s)
      | some delegation, some criterion =>
        if delegation.currentCriteriaRevision ≠ some command.expectedCriteriaRevision ∨
            criterion.criteriaRevision ≠ command.expectedCriteriaRevision then
          .ok (.noAppend (.criteriaRevisionMismatch delegation.currentCriteriaRevision), s)
        else
          match parseAndBindPredicate D criterion command.delegationId with
          | .error reason => .ok (.noAppend (.rejectedPredicate reason), s)
          | .ok predicate =>
            mutateWithAtomicReceiptAtRevision D J command.receipt command.expectedStateRevision
              true (verifyInTransaction D w command predicate) s

end Commands

end CarsinOS.Completion
