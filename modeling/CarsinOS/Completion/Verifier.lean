import CarsinOS.Delegation.Control
import CarsinOS.Lib.Run

/-! The verification of one outcome criterion: the closed predicates, what each of them reads, and
the result that is recorded with its receipt. -/
namespace CarsinOS.Completion
open CarsinOS.Lib CarsinOS.Integrity CarsinOS.Receipt
open CarsinOS.Delegation (NewOutboxEvent WriteContext Coordinator AtomicWrite requireText
  DelegationPhase DelegationRecord ProviderAttemptStatus OutboxEventName MAX_REVISION checkedNext)

def CRITERION_VERIFIER_IDENTITY : Text := "carsinos.storage.criterion-verifier.v1".toList

inductive AuthorityLinkKind where
  | session | run | job | jobRun | task | board | boardCard | mailThread | mailMessage
  | artifactAttachment | artifactBoardCardAsset | artifactMailAttachment | securityAuditEvent
  | assistantToolCallAudit | toolCall
  deriving DecidableEq

def AuthorityLinkKind.asStr : AuthorityLinkKind → Text
  | .session => "session".toList
  | .run => "run".toList
  | .job => "job".toList
  | .jobRun => "job_run".toList
  | .task => "task".toList
  | .board => "board".toList
  | .boardCard => "board_card".toList
  | .mailThread => "mail_thread".toList
  | .mailMessage => "mail_message".toList
  | .artifactAttachment => "artifact_attachment".toList
  | .artifactBoardCardAsset => "artifact_board_card_asset".toList
  | .artifactMailAttachment => "artifact_mail_attachment".toList
  | .securityAuditEvent => "security_audit_event".toList
  | .assistantToolCallAudit => "assistant_tool_call_audit".toList
  | .toolCall => "tool_call".toList

/-- The row of a link and what `load_link` reads of it. -/
structure LinkSource where
  linkId : Text
  delegationId : Text
  kind : AuthorityLinkKind
  sourceId : Text
  authoritativeRevision : Int
  deriving DecidableEq

deriving instance DecidableEq for ReceiptSubject, ReceiptRuntimeBinding, ReceiptEvidenceInput,
  ReceiptRotation, AppendReceiptCommand

inductive VerifierType where
  | artifact | authoritativeState | providerState | delivery | processExit | databasePredicate
  | humanBoundSupersession
  deriving DecidableEq

inductive AuthoritativeStatePredicate where
  | task (authorityLinkId expectedStatus : Text)
  | board (authorityLinkId : Text) (expectedArchived : Bool)
  | boardCard (authorityLinkId expectedColumnId : Text)
      (expectedCardArchived expectedBoardArchived : Bool)
  deriving DecidableEq

inductive ProcessExitPredicate where
  | run (authorityLinkId expectedStatus : Text)
  | jobRun (authorityLinkId expectedStatus : Text)
  | toolCall (authorityLinkId expectedStatus : Text)
  deriving DecidableEq

inductive DeliveryPredicate where
  | agentMailLocal (authorityLinkId recipientPrincipal : Text) (requireAck : Bool)
  | remoteProvider (provider providerMessageIdDigest : Text)
  deriving DecidableEq

inductive CriterionPredicate where
  | artifact (authorityLinkId expectedSha256 : Text) (expectedBytes : Int)
  | authoritativeState (predicate : AuthoritativeStatePredicate)
  | providerState (attemptId expectedStatus : Text)
  | delivery (predicate : DeliveryPredicate)
  | processExit (predicate : ProcessExitPredicate)
  | databasePredicate (delegationId : Text) (canonicalPlanRevisionGreaterThan : Int)
  | humanBoundSupersession (decisionId : Text) (decisionRevision : Int)
      (supersededCriterionId : Text)
  deriving DecidableEq

inductive CriterionVerificationResult where
  | pass | fail | unknown
  deriving DecidableEq

def CriterionVerificationResult.asStr : CriterionVerificationResult → Text
  | .pass => "pass".toList
  | .fail => "fail".toList
  | .unknown => "unknown".toList

structure CriterionRow where
  criterionId : Text
  delegationId : Text
  criteriaRevision : Int
  criterionKey : Text
  material : Bool
  verifierType : VerifierType
  predicateJson : Text
  authoritativeSourceKind : Text
  deriving DecidableEq

structure VerifierResultRecord where
  verifierResultId : Text
  delegationId : Text
  criterionId : Text
  resultRevision : Int
  result : CriterionVerificationResult
  evidenceRefsJson : Text
  evidenceDigest : Text
  verifierIdentity : Text
  verifiedAt : Int
  deriving DecidableEq

/-- The columns of a receipt that the verifier and the assessment read. -/
structure ReceiptRow where
  causationEventId : Text
  delegationId : Text
  receiptKind : ReceiptKind
  actorType : Text
  subjectKind : ReceiptSubjectKind
  subjectId : Text
  subjectRevision : Int
  causationId : Text
  stateRevision : Int
  evidence : List ReceiptEvidenceInput

/-! What a predicate reads outside of the ExecAss tables. -/

inductive FileRead where
  | notFound | unreadable | metadataUnavailable | notRegular | interrupted
  | content (sha256 : Text) (bytesRead length : Int)

structure World where
  taskStatus : Text → Option Text
  boardArchived : Text → Option Bool
  boardCard : Text → Option (Text × Bool × Bool)
  artifact : AuthorityLinkKind → Text → Option (Text × Int × Text)
  file : Text → FileRead
  recipient : Text → Text → Option (Int × Option Int)
  executionStatus : AuthorityLinkKind → Text → Option Text

structure Evaluation where
  result : CriterionVerificationResult
  evidence : Json
  receiptEvidence : List ReceiptEvidenceInput

def receiptEvidence (link : LinkSource) : ReceiptEvidenceInput where
  authorityLinkId := link.linkId
  kind := link.kind.asStr
  sourceId := link.sourceId
  authoritativeRevision := link.authoritativeRevision

section Evaluation
variable (C : Crates)

def sha256Text (value : Text) : Text := "sha256:".toList ++ (C.sha256 (utf8Bytes value)).val

def evidenceTree (refs : List Json) (observation : List (Text × Json)) : Json :=
  .obj [("authority_refs".toList, .arr refs), ("observation".toList, .obj observation),
    ("predicate_version".toList, .str "v1".toList)]

/-- An evaluation that rests on no link. -/
def unlinked (result : CriterionVerificationResult) (observation : List (Text × Json)) :
    Evaluation where
  result
  evidence := evidenceTree [] observation
  receiptEvidence := []

def evaluationWithLink (result : CriterionVerificationResult) (link : LinkSource)
    (observation : List (Text × Json)) : Evaluation where
  result
  evidence := evidenceTree [.obj [
    ("authoritative_revision".toList, integerTree link.authoritativeRevision),
    ("kind".toList, .str link.kind.asStr), ("link_id".toList, .str link.linkId),
    ("source_id_digest".toList, .str (sha256Text C link.sourceId))]] observation
  receiptEvidence := [receiptEvidence link]

def reason (text : String) : List (Text × Json) := [("reason".toList, .str text.toList)]

def unknownMissingLink (linkId : Text) : Evaluation :=
  unlinked .unknown [("link_id_digest".toList, .str (sha256Text C linkId)),
    ("reason".toList, .str "authority_link_missing".toList)]

def unknownWrongLink (link : LinkSource) (text : String) : Evaluation :=
  evaluationWithLink C .unknown link (reason text)

def passOrFail (holds : Bool) : CriterionVerificationResult := if holds then .pass else .fail

def compareOptionalText (link : LinkSource) (actual : Option Text) (expected : Text)
    (field : String) : Evaluation :=
  match actual with
  | some actual => evaluationWithLink C (passOrFail (actual = expected)) link
      [("actual".toList, .str actual), ("expected".toList, .str expected),
        ("field".toList, .str field.toList)]
  | none => evaluationWithLink C .unknown link [("field".toList, .str field.toList),
      ("reason".toList, .str "authoritative_row_missing".toList)]

def compareOptionalBool (link : LinkSource) (actual : Option Bool) (expected : Bool)
    (field : String) : Evaluation :=
  match actual with
  | some actual => evaluationWithLink C (passOrFail (actual = expected)) link
      [("actual".toList, .bool actual), ("expected".toList, .bool expected),
        ("field".toList, .str field.toList)]
  | none => evaluationWithLink C .unknown link [("field".toList, .str field.toList),
      ("reason".toList, .str "authoritative_row_missing".toList)]

variable (w : World)

def evaluateFile (link : LinkSource) (expectedSha256 : Text) (expectedBytes : Int)
    (registeredSha256 : Text) (registeredBytes : Int) : FileRead → Evaluation
  | .notFound => evaluationWithLink C .fail link (reason "artifact_file_missing")
  | .unreadable => evaluationWithLink C .unknown link (reason "artifact_file_unreadable")
  | .metadataUnavailable =>
    evaluationWithLink C .unknown link (reason "artifact_metadata_unavailable")
  | .notRegular => evaluationWithLink C .fail link (reason "artifact_is_not_a_regular_file")
  | .interrupted => evaluationWithLink C .unknown link (reason "artifact_read_interrupted")
  | .content actualSha256 bytesRead length =>
    evaluationWithLink C (passOrFail (registeredSha256 = expectedSha256 &&
        actualSha256 = expectedSha256 && registeredBytes = expectedBytes &&
        bytesRead = expectedBytes && length = expectedBytes)) link
      [("actual_bytes".toList, integerTree bytesRead), ("actual_sha256".toList, .str actualSha256),
        ("expected_bytes".toList, integerTree expectedBytes),
        ("expected_sha256".toList, .str expectedSha256),
        ("registered_bytes".toList, integerTree registeredBytes),
        ("registered_sha256".toList, .str registeredSha256)]

def evaluateArtifact (link : LinkSource) (expectedSha256 : Text) (expectedBytes : Int) :
    Evaluation :=
  if link.kind = .artifactAttachment ∨ link.kind = .artifactBoardCardAsset ∨
      link.kind = .artifactMailAttachment then
    match w.artifact link.kind link.sourceId with
    | none => evaluationWithLink C .unknown link (reason "artifact_registration_missing")
    | some (registeredSha256, registeredBytes, localPath) =>
      evaluateFile C link expectedSha256 expectedBytes registeredSha256 registeredBytes
        (w.file localPath)
  else unknownWrongLink C link "artifact authority link kind mismatch"

def evaluateTask (link : LinkSource) (expectedStatus : Text) : Evaluation :=
  if link.kind = .task then
    compareOptionalText C link (w.taskStatus link.sourceId) expectedStatus "task_status"
  else unknownWrongLink C link "task authority link kind mismatch"

def evaluateBoard (link : LinkSource) (expectedArchived : Bool) : Evaluation :=
  if link.kind = .board then
    compareOptionalBool C link (w.boardArchived link.sourceId) expectedArchived "board_archived"
  else unknownWrongLink C link "board authority link kind mismatch"

def evaluateBoardCard (link : LinkSource) (expectedColumnId : Text)
    (expectedCardArchived expectedBoardArchived : Bool) : Evaluation :=
  if link.kind = .boardCard then
    match w.boardCard link.sourceId with
    | none => evaluationWithLink C .unknown link (reason "board_card_missing")
    | some (columnId, cardArchived, boardArchived) =>
      evaluationWithLink C (passOrFail (columnId = expectedColumnId &&
          cardArchived = expectedCardArchived && boardArchived = expectedBoardArchived)) link
        [("actual_board_archived".toList, .bool boardArchived),
          ("actual_card_archived".toList, .bool cardArchived),
          ("actual_column_id".toList, .str columnId),
          ("expected_board_archived".toList, .bool expectedBoardArchived),
          ("expected_card_archived".toList, .bool expectedCardArchived),
          ("expected_column_id".toList, .str expectedColumnId)]
  else unknownWrongLink C link "board-card authority link kind mismatch"

def evaluateMail (link : LinkSource) (recipientPrincipal : Text) (requireAck : Bool) :
    Evaluation :=
  if link.kind = .mailMessage then
    match w.recipient link.sourceId recipientPrincipal with
    | none => evaluationWithLink C .fail link
        [("reason".toList, .str "local_recipient_delivery_missing".toList),
          ("recipient_digest".toList, .str (sha256Text C recipientPrincipal))]
    | some (deliveredAt, ackedAt) =>
      evaluationWithLink C (passOrFail (0 < deliveredAt && (!requireAck || ackedAt.isSome))) link
        [("acked".toList, .bool ackedAt.isSome), ("delivered".toList, .bool (0 < deliveredAt)),
          ("recipient_digest".toList, .str (sha256Text C recipientPrincipal)),
          ("require_ack".toList, .bool requireAck)]
  else unknownWrongLink C link "mail-message authority link kind mismatch"

def evaluateProcess (link : LinkSource) (requiredKind : AuthorityLinkKind) (expected : Text) :
    Evaluation :=
  if link.kind = requiredKind then
    compareOptionalText C link (w.executionStatus requiredKind link.sourceId) expected
      "execution_status_progress_only"
  else unknownWrongLink C link "execution authority link kind mismatch"

def providerStatus : ProviderAttemptStatus → Text
  | .prepared => "prepared".toList
  | .invoking => "invoking".toList
  | .outcomeUnknown => "outcome_unknown".toList
  | .succeeded => "succeeded".toList
  | .failed => "failed".toList
  | .reconciledAbsent => "reconciled_absent".toList
  | .reconciledPresent => "reconciled_present".toList


end Evaluation

structure DecisionRow where
  decisionId : Text
  delegationId : Text
  decisionRevision : Int
  resolved : Bool
  result : Option Text
  resolvedByAuthorityProvenanceId : Option Text

structure AuthorityRow where
  authorityProvenanceId : Text
  actorType : Text
  authorityKind : Text
  boundDecisionId : Option Text
  boundDecisionRevision : Option Int
  credentialIdentity : Text
  authenticatedIngress : Text
  sourceCorrelationId : Text

structure AmendmentRow where
  amendmentId : Text
  delegationId : Text
  authorityProvenanceId : Text

structure AmendmentCriteriaLink where
  amendmentId : Text
  supersededCriteriaRevision : Int
  resultingCriteriaRevision : Int

structure AssessCompletionCommand where
  write : WriteContext
  delegationId : Text
  expectedStateRevision : Int
  expectedCriteriaRevision : Int
  expectedAssessmentRevision : Int
  receipt : AppendReceiptCommand
  deriving DecidableEq

structure Store where
  lifecycle : Delegation.Store
  criteria : Table CriterionRow.criterionId
  authorityLinks : Table LinkSource.linkId
  verifierResults : Table VerifierResultRecord.verifierResultId
  receipts : Table ReceiptRow.causationEventId
  decisions : Table DecisionRow.decisionId
  authorities : Table AuthorityRow.authorityProvenanceId
  amendments : Table AmendmentRow.amendmentId
  amendmentCriteriaLinks : Table AmendmentCriteriaLink.amendmentId
  /-- The command of a completion's transition, by the event of the transition. -/
  assessmentCommands : List (Text × AssessCompletionCommand)
  /-- The rows a link may point to, with the kind of link that does. -/
  sources : List (Text × Text)

def Store.getDelegation (s : Store) (id : Text) : Option DelegationRecord :=
  s.lifecycle.getDelegation id

def Store.loadLink (s : Store) (delegationId linkId : Text) : Option LinkSource :=
  s.authorityLinks.rows.find? fun link => link.delegationId = delegationId && link.linkId = linkId

def Store.loadCriterion (s : Store) (delegationId criterionId : Text) : Option CriterionRow :=
  s.criteria.rows.find? fun row => row.delegationId = delegationId && row.criterionId = criterionId

section Predicates
variable (C : Crates) (w : World) (s : Store) (delegationId : Text)

def evaluateLinked (linkId : Text) (evaluate : LinkSource → Evaluation) : Evaluation :=
  match s.loadLink delegationId linkId with
  | none => unknownMissingLink C linkId
  | some link => evaluate link

def evaluateProviderState (attemptId expected : Text) : Evaluation :=
  match s.lifecycle.providerAttempts.rows.find? fun row =>
      row.delegationId = delegationId && row.attemptId = attemptId with
  | none => unlinked .unknown [("attempt_id_digest".toList, .str (sha256Text C attemptId)),
      ("reason".toList, .str "provider_attempt_missing".toList)]
  | some row =>
    let result := match row.status with
      | .prepared | .invoking | .outcomeUnknown => .unknown
      | _ => passOrFail (providerStatus row.status = expected)
    unlinked result [("attempt_id_digest".toList, .str (sha256Text C attemptId)),
      ("expected_status".toList, .str expected),
      ("has_error_class".toList, .bool row.providerErrorClass.isSome),
      ("has_provider_response_digest".toList, .bool row.providerResponseDigest.isSome),
      ("has_remote_effect_id".toList, .bool row.remoteEffectId.isSome),
      ("status".toList, .str (providerStatus row.status))]

def evaluateDatabasePredicate (minimumExclusive : Int) : Evaluation :=
  match s.getDelegation delegationId with
  | none => unlinked .unknown (reason "delegation_missing")
  | some d =>
    let planExists := s.lifecycle.plans.rows.any fun plan =>
      plan.delegationId = delegationId && some plan.planRevision = d.currentPlanRevision
    let above := match d.currentPlanRevision with
      | some revision => decide (minimumExclusive < revision)
      | none => false
    unlinked (passOrFail (above && planExists)) [
      ("current_plan_revision".toList, optionalIntegerTree d.currentPlanRevision),
      ("minimum_exclusive".toList, integerTree minimumExclusive),
      ("plan_row_exists".toList, .bool planExists)]

def evaluateDelivery : DeliveryPredicate → Evaluation
  | .agentMailLocal linkId recipientPrincipal requireAck =>
    evaluateLinked C s delegationId linkId fun link =>
      evaluateMail C w link recipientPrincipal requireAck
  | .remoteProvider provider providerMessageIdDigest =>
    unlinked .unknown [("provider".toList, .str provider),
      ("provider_message_id_digest".toList, .str providerMessageIdDigest),
      ("reason".toList, .str "remote_delivery_or_bounce_authority_unavailable".toList)]

def evaluatePredicate : CriterionPredicate → Evaluation
  | .artifact linkId expectedSha256 expectedBytes =>
    evaluateLinked C s delegationId linkId fun link =>
      evaluateArtifact C w link expectedSha256 expectedBytes
  | .authoritativeState (.task linkId expectedStatus) =>
    evaluateLinked C s delegationId linkId fun link => evaluateTask C w link expectedStatus
  | .authoritativeState (.board linkId expectedArchived) =>
    evaluateLinked C s delegationId linkId fun link => evaluateBoard C w link expectedArchived
  | .authoritativeState (.boardCard linkId columnId cardArchived boardArchived) =>
    evaluateLinked C s delegationId linkId fun link =>
      evaluateBoardCard C w link columnId cardArchived boardArchived
  | .providerState attemptId expected => evaluateProviderState C s delegationId attemptId expected
  | .delivery predicate => evaluateDelivery C w s delegationId predicate
  | .processExit (.run linkId expected) =>
    evaluateLinked C s delegationId linkId fun link => evaluateProcess C w link .run expected
  | .processExit (.jobRun linkId expected) =>
    evaluateLinked C s delegationId linkId fun link => evaluateProcess C w link .jobRun expected
  | .processExit (.toolCall linkId expected) =>
    evaluateLinked C s delegationId linkId fun link => evaluateProcess C w link .toolCall expected
  | .databasePredicate _ minimumExclusive =>
    evaluateDatabasePredicate s delegationId minimumExclusive
  | .humanBoundSupersession decisionId decisionRevision supersededCriterionId =>
    unlinked .unknown [("decision_id_digest".toList, .str (sha256Text C decisionId)),
      ("decision_revision".toList, integerTree decisionRevision),
      ("reason".toList, .str "no_authoritative_criterion_supersession_binding".toList),
      ("superseded_criterion_id_digest".toList, .str (sha256Text C supersededCriterionId))]

end Predicates

/-- What is taken from `serde_json` and from the JSON functions of the database. -/
structure CriterionCrates extends Crates where
  predicate : Text → Option CriterionPredicate
  extract : Text → String → Option Json
  extract_print : ∀ fields key, (Json.obj fields).Everywhere Spelled →
    (fields.map Prod.fst).Nodup → extract (Json.obj fields).print key = fields.lookup key.toList
  /-- Whether the texts of an evidence item pass the redactor. -/
  cleanEvidence : ReceiptEvidenceInput → Bool

def validSha256 (value : Text) : Bool :=
  value.length = 64 && value.all fun c => c.isDigit || ('a' ≤ c && c ≤ 'f')

def INVALID_CLOSED_PREDICATE_REASON : String := "criterion_predicate_invalid_closed_v1"

/-- The verifier type and the source kind of a predicate whose own fields are exact. -/
def bindPredicate (delegationId : Text) : CriterionPredicate → Except String (VerifierType × String)
  | .artifact _ expectedSha256 expectedBytes =>
    if validSha256 expectedSha256 = false ∨ expectedBytes < 0 then
      .error "artifact predicate requires a lowercase SHA-256 and nonnegative byte count"
    else .ok (.artifact, "artifact_store")
  | .authoritativeState _ => .ok (.authoritativeState, "authoritative_state_store")
  | .providerState attemptId _ =>
    if trimChars attemptId = [] then .error "provider predicate requires an exact attempt identity"
    else .ok (.providerState, "provider_attempt_store")
  | .delivery (.agentMailLocal _ recipientPrincipal _) =>
    if trimChars recipientPrincipal = [] then
      .error "local delivery predicate requires an exact recipient"
    else .ok (.delivery, "delivery_store")
  | .delivery (.remoteProvider _ providerMessageIdDigest) =>
    if validSha256 providerMessageIdDigest = false then
      .error "remote delivery references must be represented by a SHA-256 digest"
    else .ok (.delivery, "delivery_store")
  | .processExit _ => .ok (.processExit, "execution_store")
  | .databasePredicate predicateDelegation minimumExclusive =>
    if predicateDelegation ≠ delegationId ∨ minimumExclusive < 0 then
      .error "database predicate must bind this delegation and a nonnegative prior plan revision"
    else .ok (.databasePredicate, "execass_plan_store")
  | .humanBoundSupersession decisionId decisionRevision supersededCriterionId =>
    if trimChars decisionId = [] ∨ decisionRevision ≤ 0 ∨ trimChars supersededCriterionId = [] then
      .error "human supersession predicate requires exact decision and criterion identities"
    else .ok (.humanBoundSupersession, "human_bound_supersession_store")

def parseAndBindPredicate (D : CriterionCrates) (criterion : CriterionRow) (delegationId : Text) :
    Except String CriterionPredicate :=
  match D.predicate criterion.predicateJson with
  | none => .error INVALID_CLOSED_PREDICATE_REASON
  | some predicate => do
    let (verifierType, sourceKind) ← bindPredicate delegationId predicate
    if criterion.verifierType ≠ verifierType then
      .error "predicate kind does not match the criterion verifier type"
    else if criterion.authoritativeSourceKind ≠ sourceKind.toList then
      .error "criterion authoritative source kind is not the closed verifier source"
    else .ok predicate

end CarsinOS.Completion
