import CarsinOS.Recorder.Crash
import CarsinOS.Recorder.Frame

/-! The service of the effect recorder: its requests and the sections of them that hold the
journal, the writing of a file by an exact overwrite, and the reconciliation that inspects it. -/
namespace CarsinOS.Recorder
open CarsinOS.Lib CarsinOS.Lib.Members

/-- What the service takes from other crates. -/
structure ServiceCrates where
  recorder : RecorderCrates
  crates : Crates
  json : RecorderJson
  hmacSha256 : List UInt8 → List UInt8 → Sha256Digest
  /-- There is one SHA-256. -/
  sha256_hex : ∀ bytes, (crates.sha256 bytes).val = Sha256.hex (recorder.sha256 bytes)

inductive VerificationError where
  | open_
  | query
  | notAuthoritative
  | expired
deriving DecidableEq

inductive ServiceError where
  | authentication
  | unsupportedAdapter
  | invalidReconciliation
  | verification (error : VerificationError)
  | journal (error : JournalError)
deriving DecidableEq

structure VerifiedTechnicalResourceReservation where
  reservationId : Text
  amountReserved : I64
deriving DecidableEq

/-- What the read-only verifier finds in the database: the proof of a committed attempt with its
live reservations, and the reservations of an attempt that is reconciled. -/
structure Verifier where
  began : ExecuteOnce → I64 → Except VerificationError (List VerifiedTechnicalResourceReservation)
  reservations : Text → Text → Text → I64 →
    Except VerificationError (List VerifiedTechnicalResourceReservation)

structure InvocationOutcome where
  kind : ObservationKind
  responseDigest : Text
  evidencePayloadDigest : Text
  remoteEffectId : Option Text
  providerErrorClass : Option ProviderFailureClass
  technicalResourceActuals : List TechnicalResourceActual

structure ReconciliationOutcome where
  kind : ObservationKind
  responseDigest : Text
  evidencePayloadDigest : Text
  remoteEffectId : Option Text
  technicalResourceActuals : List TechnicalResourceActual

/-! Requests and their authentication. -/

def RecorderRequest.commandMac : RecorderRequest → Text
  | .executeOnce command .. => command.commandMac
  | .queryOnly query => query.commandMac
  | .reconcile window => window.commandMac

def RecorderRequest.setCommandMac (mac : Text) : RecorderRequest → RecorderRequest
  | .executeOnce command envelope enclosed =>
    .executeOnce { command with commandMac := mac } envelope enclosed
  | .queryOnly query => .queryOnly { query with commandMac := mac }
  | .reconcile window => .reconcile { window with commandMac := mac }

def RecorderRequest.authenticationBytes (request : RecorderRequest) : List UInt8 :=
  canonicalJsonBytes (requestTree (request.setCommandMac []))

def QueryOnly.key (query : QueryOnly) : AttemptKey :=
  (query.binding.installationId, query.binding.stateRootGeneration, query.attemptId)

def Reconcile.key (window : Reconcile) : AttemptKey :=
  (window.binding.installationId, window.binding.stateRootGeneration, window.attemptId)

section Service
variable (K : ServiceCrates) (F : Files)

/-- `RecorderRequestV1::validate`. -/
def RecorderRequest.validate : RecorderRequest → Except RecorderProtocolError Unit
  | .executeOnce command envelope _ =>
    validateExecuteOnce K.recorder command envelope.val.secretHandles
  | .queryOnly query =>
    if validBinding query.binding query.requestId = false ∨
        validText query.attemptId 4096 = false ∨ validText query.clientNonce 4096 = false ∨
        validOption query.expectedCommandDigest = false ∨
        validOption query.knownJournalHead = false then .error .invalidField
    else .ok ()
  | .reconcile window =>
    if validBinding window.binding window.requestId = false ∨
        validText window.attemptId 4096 = false ∨
        validDigest window.expectedCommandDigest = false ∨
        validText window.reconciliationKey 4096 = false ∨
        validDigest window.reconciliationKeyDigest = false ∨
        stableKeyDigest K.recorder window.reconciliationKey ≠ window.reconciliationKeyDigest ∨
        window.consistencyWindowStartMs.val < 0 ∨
        window.consistencyWindowEndMs.val < window.consistencyWindowStartMs.val ∨
        validText window.clientNonce 4096 = false then .error .invalidField
    else .ok ()

/-- `authenticate_request`: the MAC is written with hexadecimal digits without capital letters. -/
def authenticateRequest (channelKey : List UInt8) (request : RecorderRequest) :
    Except ServiceError Unit :=
  if request.validate K ≠ .ok () ∨
      request.commandMac ≠ (K.hmacSha256 channelKey request.authenticationBytes).val then
    .error .authentication
  else .ok ()

/-! The outcomes of an exact overwrite. -/

def OBSERVATION_CONTRACT : Text := "carsinos.local-fs.exact-overwrite.observation.v1".toList
def RESOURCE_ACTUAL_CONTRACT : Text :=
  "carsinos.local-fs.exact-overwrite.resource-actual.v1".toList

def stableTextDigest (value : Text) : Text := digestBytes K.crates (utf8Bytes value)

def evidenceDigest (tree : Json) : Text := digestBytes K.crates (canonicalJsonBytes tree)

def remoteEffectId (validated : ValidatedExactOverwrite) : Text :=
  "local-fs-exact-overwrite:".toList ++ (stableTextDigest K validated.reconciliationKey).drop 7

/-- The fields every observation of a validated overwrite has. -/
def observedFields (validated : ValidatedExactOverwrite) : List (Text × Json) := [
  ("remote_effect_id".toList, .str (remoteEffectId K validated)),
  ("target_identity_digest".toList, .str (stableTextDigest K validated.operand.targetIdentity)),
  ("expected_preimage_sha256".toList, .str validated.operand.expectedPreimageSha256),
  ("replacement_sha256".toList, .str validated.operand.replacementSha256),
  ("technical_resource_actuals".toList, .arr [])]

def evidenceValue (validated : ValidatedExactOverwrite) (kind basis : Text) : Json :=
  .obj (("contract_version".toList, .str OBSERVATION_CONTRACT) :: ("kind".toList, .str kind) ::
    ("basis".toList, .str basis) :: observedFields K validated)

def reservationActuals (reservations : List VerifiedTechnicalResourceReservation)
    (exactOverwriteEvidenceDigest : Text) : List TechnicalResourceActual :=
  reservations.map fun reservation => {
    reservationId := reservation.reservationId
    amountActual := reservation.amountReserved
    evidenceDigest := evidenceDigest K (.obj [
      ("contract_version".toList, .str RESOURCE_ACTUAL_CONTRACT),
      ("exact_overwrite_evidence_digest".toList, .str exactOverwriteEvidenceDigest),
      ("reservation_id".toList, .str reservation.reservationId),
      ("amount_actual".toList, integer reservation.amountReserved)]) }

/-- The digest of an observation with the resources it says were used. -/
def withActuals (effect : Json) (actuals : List TechnicalResourceActual) : Text :=
  evidenceDigest K (.obj [("effect".toList, effect),
    ("technical_resource_actuals".toList, .arr (actuals.map actualTree))])

def presentOutcome (validated : ValidatedExactOverwrite)
    (reservations : List VerifiedTechnicalResourceReservation) : InvocationOutcome :=
  let effect : Json := .obj (("contract_version".toList, .str OBSERVATION_CONTRACT) ::
    ("kind".toList, .str "present".toList) :: observedFields K validated)
  let responseDigest := evidenceDigest K effect
  let actuals := reservationActuals K reservations responseDigest
  { kind := .present
    responseDigest
    evidencePayloadDigest := withActuals K effect actuals
    remoteEffectId := some (remoteEffectId K validated)
    providerErrorClass := none
    technicalResourceActuals := actuals }

def definiteAbsent (command : ExecuteOnce) (basis : String) : InvocationOutcome :=
  let digest := evidenceDigest K (.obj [
    ("contract_version".toList, .str OBSERVATION_CONTRACT),
    ("kind".toList, .str "absent".toList),
    ("basis".toList, .str basis.toList),
    ("provider_request_digest".toList, .str command.providerRequestDigest),
    ("technical_resource_actuals".toList, .arr [])])
  { kind := .absent
    responseDigest := digest
    evidencePayloadDigest := digest
    remoteEffectId := none
    providerErrorClass := some .permanent
    technicalResourceActuals := [] }

def unknownOutcome (validated : ValidatedExactOverwrite) (basis : String) : InvocationOutcome :=
  let digest := evidenceDigest K (evidenceValue K validated "unknown".toList basis.toList)
  { kind := .unknown
    responseDigest := digest
    evidencePayloadDigest := digest
    remoteEffectId := some (remoteEffectId K validated)
    providerErrorClass := none
    technicalResourceActuals := [] }

def reconciliationOutcome (validated : ValidatedExactOverwrite) (kind : ObservationKind)
    (reservations : List VerifiedTechnicalResourceReservation) : ReconciliationOutcome :=
  let label := if kind = .present then "present" else if kind = .absent then "absent" else "unknown"
  let effect := evidenceValue K validated label.toList "independent_exact_target_inspection".toList
  let responseDigest := evidenceDigest K effect
  let actuals := if kind = .present then reservationActuals K reservations responseDigest else []
  { kind
    responseDigest
    evidencePayloadDigest := withActuals K effect actuals
    remoteEffectId := if kind = .present then some (remoteEffectId K validated) else none
    technicalResourceActuals := actuals }

/-! The target of an overwrite. -/

/-- The bytes of every file of the host. -/
abbrev Contents := FileId → List UInt8

/-- The files of the host with these bytes in them. -/
def Files.holding (contents : Contents) : Files :=
  { F with
    openNoFollow := fun path => do
      let file ← F.openNoFollow path
      .ok { file with content := file.id.map contents } }

inductive CurrentState where
  | original
  | replacement
  | unknown
deriving DecidableEq

def openValidatedTarget (validated : ValidatedExactOverwrite) : Anyhow OpenFile := do
  let target := F.ofText validated.operand.targetPath
  let path ← canonicalExactOverwriteTarget F target
  let text ← pathText F path
  if text ≠ validated.operand.targetPath then bail "exact-overwrite target path drifted"
  else do
    let file ← F.openNoFollow target
    let _ ← checkedFileMetadata file
    let identity ← fileIdentity file
    if identity ≠ validated.operand.targetIdentity then
      bail "exact-overwrite target identity drifted"
    else .ok file

def inspectCurrent (validated : ValidatedExactOverwrite) : Anyhow CurrentState :=
  match openValidatedTarget F validated with
  | .error _ => .ok .unknown
  | .ok file => do
    let digest ← hashOpenFile K.crates file
    .ok (if digest = validated.operand.replacementSha256 then .replacement
      else if digest = validated.operand.expectedPreimageSha256 then .original else .unknown)

def supportsExactOverwrite (command : ExecuteOnce) (envelope : OpaqueOperandEnvelope) : Bool :=
  match validatedCommand K.crates F command envelope with
  | .error _ => false
  | .ok validated =>
    match inspectCurrent K F validated with
    | .ok .original | .ok .replacement => true
    | _ => false

def keyNames : List Text := [
  "contract_version".toList, "target_path".toList, "target_identity".toList,
  "expected_preimage_sha256".toList, "replacement_sha256".toList]

def keyOf (tree : Json) : Option ExactOverwriteReconciliationKey := do
  let members ← closed keyNames 0 tree
  some {
    contractVersion := ← required members "contract_version".toList textOf
    targetPath := ← required members "target_path".toList textOf
    targetIdentity := ← required members "target_identity".toList textOf
    expectedPreimageSha256 := ← required members "expected_preimage_sha256".toList textOf
    replacementSha256 := ← required members "replacement_sha256".toList textOf }

/-- `serde_json::from_str` of a reconciliation key. -/
def keyOfText (text : Text) : Option ExactOverwriteReconciliationKey :=
  (K.json.tree (utf8Bytes text)).bind keyOf

def validateKey (key : ExactOverwriteReconciliationKey) : Anyhow Unit :=
  if key.contractVersion ≠ EXACT_OVERWRITE_RECONCILIATION_CONTRACT ∨
      F.isAbsolute (F.ofText key.targetPath) = false ∨
      validDigest key.expectedPreimageSha256 = false ∨ validDigest key.replacementSha256 = false ∨
      key.expectedPreimageSha256 = key.replacementSha256 ∨ key.targetIdentity = [] then
    bail "invalid exact-overwrite reconciliation key"
  else .ok ()

/-- The overwrite a key is about, without its replacement. -/
def keyedOverwrite (reconciliationKey : Text) (key : ExactOverwriteReconciliationKey) :
    ValidatedExactOverwrite where
  operand := {
    contractVersion := EXACT_OVERWRITE_OPERAND_CONTRACT
    targetPath := key.targetPath
    targetIdentity := key.targetIdentity
    expectedPreimageSha256 := key.expectedPreimageSha256
    replacementHex := []
    replacementSha256 := key.replacementSha256 }
  replacement := []
  reconciliationKey

def observedKind (state : CurrentState)
    (reservations : List VerifiedTechnicalResourceReservation) : ObservationKind :=
  match state with
  | .replacement => if reservations = [] then .unknown else .present
  | .original => .absent
  | .unknown => .unknown

/-- The inspection says what it finds of an overwrite; one that fails finds nothing out. -/
def reconcileExactOverwrite (inspect : ValidatedExactOverwrite → CurrentState)
    (reconciliationKey : Text) (reservations : List VerifiedTechnicalResourceReservation) :
    Anyhow ReconciliationOutcome := do
  let key ← present "invalid reconciliation key" (keyOfText K reconciliationKey)
  validateKey F key
  let validated := keyedOverwrite reconciliationKey key
  .ok (reconciliationOutcome K validated (observedKind (inspect validated) reservations)
    reservations)

/-! The sections of a request. -/

/-- `ReadOnlyBeganVerifier::verify`. -/
def verifyExecution (V : Verifier) (command : ExecuteOnce) (trustedNowMs : I64) :
    Except VerificationError (List VerifiedTechnicalResourceReservation) :=
  if command.deadlineMs.val ≤ trustedNowMs.val then .error .expired
  else if derivedProviderRequestDigest K.recorder command ≠ command.providerRequestDigest then
    .error .notAuthoritative
  else V.began command trustedNowMs

/-- An execution that is answered from the journal, or one that was verified. -/
inductive ExecutePlan where
  | replay (record : JournalRecord)
  | fresh (reservations : List VerifiedTechnicalResourceReservation)

/-- The section of an execution before its admission. -/
def planExecution (V : Verifier) (now : I64) (command : ExecuteOnce) (j : Journal) :
    Except ServiceError ExecutePlan := do
  let latest ← (do
    let digest ← commandDigest K.recorder command
    j.latestFor command.key digest).mapError .journal
  match latest with
  | some record => .ok (.replay record)
  | none => do
    let reservations ← (verifyExecution K V command now).mapError .verification
    .ok (.fresh reservations)

def acceptedOutcome (window : Reconcile) : ReconciliationOutcome where
  kind := .absent
  responseDigest := stableTextDigest K "accepted-without-invocation-started".toList
  evidencePayloadDigest := evidenceDigest K (.obj [
    ("attempt_id".toList, .str window.attemptId),
    ("basis".toList, .str "accepted_without_invocation_started".toList),
    ("technical_resource_actuals".toList, .arr [])])
  remoteEffectId := none
  technicalResourceActuals := []

def inconclusiveOutcome (window : Reconcile) : ReconciliationOutcome where
  kind := .unknown
  responseDigest := stableTextDigest K "inconclusive-provider-query".toList
  evidencePayloadDigest := evidenceDigest K (.obj [
    ("attempt_id".toList, .str window.attemptId),
    ("basis".toList, .str "inconclusive_provider_query".toList),
    ("technical_resource_actuals".toList, .arr [])])
  remoteEffectId := none
  technicalResourceActuals := []

/-- `FixedExecutor::reconcile`. -/
def executorReconcile (inspect : ValidatedExactOverwrite → CurrentState) (window : Reconcile)
    (providerIdentity providerVersion : Text)
    (reservations : List VerifiedTechnicalResourceReservation) : Anyhow ReconciliationOutcome :=
  if providerIdentity ≠ EXACT_OVERWRITE_PROVIDER ∨
      providerVersion ≠ EXACT_OVERWRITE_PROVIDER_VERSION then
    bail "journal identity is not supported by the fixed adapter"
  else reconcileExactOverwrite K F inspect window.reconciliationKey reservations

/-- An attempt that was not started has no effect; one the executor cannot tell is unknown. -/
def reconciledOutcome (inspect : ValidatedExactOverwrite → CurrentState) (window : Reconcile)
    (prior : JournalRecord) (reservations : List VerifiedTechnicalResourceReservation) :
    ReconciliationOutcome :=
  if prior.kind = .accepted then acceptedOutcome K window
  else
    match executorReconcile K F inspect window prior.providerIdentity prior.providerVersion
        reservations with
    | .ok outcome => outcome
    | .error _ => inconclusiveOutcome K window

/-- A definite record answers every window, an unknown one of a reconciliation its own. -/
def replaysReconciliation (prior : JournalRecord) (window : Reconcile) : Bool :=
  prior.kind = .present || prior.kind = .absent ||
    (prior.source = .reconciliation &&
      prior.reconciliationWindowStartMs = some window.consistencyWindowStartMs &&
      prior.reconciliationWindowEndMs = some window.consistencyWindowEndMs)

inductive ReconcilePlan where
  | notFound
  | replay (record : JournalRecord)
  | record (found : Reconciliation)

def foundBy (outcome : ReconciliationOutcome) (window : Reconcile) : Reconciliation where
  kind := outcome.kind
  responseDigest := outcome.responseDigest
  evidencePayloadDigest := outcome.evidencePayloadDigest
  remoteEffectId := outcome.remoteEffectId
  technicalResourceActuals := outcome.technicalResourceActuals
  windowStartMs := window.consistencyWindowStartMs
  windowEndMs := window.consistencyWindowEndMs

/-- The section of a reconciliation before its record. -/
def planReconciliation (V : Verifier) (inspect : ValidatedExactOverwrite → CurrentState)
    (now : I64) (window : Reconcile) (j : Journal) : Except ServiceError ReconcilePlan :=
  if now.val < window.consistencyWindowEndMs.val then .error .invalidReconciliation
  else do
    let prior ← (j.query window.key (some window.expectedCommandDigest)).mapError .journal
    match prior with
    | none => .ok .notFound
    | some prior =>
      if prior.canonicalRootIdentity ≠ window.binding.canonicalRootIdentity ∨
          prior.osUserIdentityDigest ≠ window.binding.osUserIdentityDigest ∨
          prior.reconciliationKeyDigest ≠ some window.reconciliationKeyDigest then
        .error .invalidReconciliation
      else if replaysReconciliation prior window then .ok (.replay prior)
      else do
        let reservations ← if prior.providerIdentity = EXACT_OVERWRITE_PROVIDER then
            (V.reservations prior.attemptId prior.logicalEffectId prior.providerRequestDigest
              now).mapError .verification
          else .ok []
        .ok (.record (foundBy (reconciledOutcome K F inspect window prior reservations) window))

end Service

/-! The service beside the files it writes. -/

deriving instance DecidableEq for FileId

/-- How far the invocation of an overwrite has come. Its file is locked from its opening to its
end. -/
inductive Phase where
  | granted
  | opened (validated : ValidatedExactOverwrite) (id : FileId)
  | writing (validated : ValidatedExactOverwrite) (id : FileId) (written : Nat)
  | resized (validated : ValidatedExactOverwrite) (id : FileId)
  | ended (outcome : InvocationOutcome)

def Phase.holds : Phase → Option FileId
  | .granted | .ended _ => none
  | .opened _ id | .writing _ id _ | .resized _ id => some id

structure Invocation where
  command : ExecuteOnce
  envelope : OpaqueOperandEnvelope
  reservations : List VerifiedTechnicalResourceReservation
  phase : Phase

structure Service where
  host : Host
  contents : Contents
  invocations : AttemptKey → Option Invocation

def Service.start (contents : Contents) : Service := ⟨.start, contents, fun _ => none⟩

/-- No invocation has the file locked. -/
def Service.Free (s : Service) (id : FileId) : Prop :=
  ∀ key invocation, s.invocations key = some invocation → invocation.phase.holds ≠ some id

/-- The file after the first bytes of a replacement were written over its beginning. -/
def overwritten (replacement : List UInt8) (written : Nat) (bytes : List UInt8) : List UInt8 :=
  replacement.take written ++ bytes.drop written

/-- The file after `set_len`. -/
def resizedTo (size : Nat) (bytes : List UInt8) : List UInt8 :=
  bytes.take size ++ List.replicate (size - bytes.length) 0

section Steps
variable (K : ServiceCrates) (F : Files)

/-- One step of `invoke_exact_overwrite`, with the file it changes. Every input or output may
fail; a write may also fail after a part of the replacement. -/
inductive Invokes (s : Service) (i : Invocation) : Phase → Option (FileId × List UInt8) → Prop where
  | unreserved : i.phase = .granted → i.reservations = [] →
      Invokes s i (.ended (definiteAbsent K i.command "verified_reservation_set_missing")) none
  | invalid : i.phase = .granted → i.reservations ≠ [] →
      Invokes s i (.ended (definiteAbsent K i.command "invalid_exact_overwrite_material")) none
  | missing : i.phase = .granted → i.reservations ≠ [] →
      Invokes s i (.ended (definiteAbsent K i.command "exact_target_precondition_failed")) none
  | opens {validated : ValidatedExactOverwrite} {file : OpenFile} {id : FileId} :
      i.phase = .granted → i.reservations ≠ [] →
      validatedCommand K.crates (F.holding s.contents) i.command i.envelope = .ok validated →
      openValidatedTarget (F.holding s.contents) validated = .ok file → file.id = .ok id →
      s.Free id → Invokes s i (.opened validated id) none
  | already {validated : ValidatedExactOverwrite} {id : FileId} : i.phase = .opened validated id →
      digestBytes K.crates (s.contents id) = validated.operand.replacementSha256 →
      Invokes s i (.ended (presentOutcome K validated i.reservations)) none
  | matches_ {validated : ValidatedExactOverwrite} {id : FileId} : i.phase = .opened validated id →
      digestBytes K.crates (s.contents id) ≠ validated.operand.replacementSha256 →
      digestBytes K.crates (s.contents id) = validated.operand.expectedPreimageSha256 →
      Invokes s i (.writing validated id 0) none
  | drifted {validated : ValidatedExactOverwrite} {id : FileId} : i.phase = .opened validated id →
      Invokes s i (.ended (definiteAbsent K i.command "exact_preimage_not_present")) none
  | writes {validated : ValidatedExactOverwrite} {id : FileId} {written more : Nat} :
      i.phase = .writing validated id written → written ≤ more →
      more ≤ validated.replacement.length →
      Invokes s i (.writing validated id more)
        (some (id, overwritten validated.replacement more (s.contents id)))
  | resizes {validated : ValidatedExactOverwrite} {id : FileId} :
      i.phase = .writing validated id validated.replacement.length →
      Invokes s i (.resized validated id)
        (some (id, resizedTo validated.replacement.length (s.contents id)))
  | ambiguous {validated : ValidatedExactOverwrite} {id : FileId} :
      (∃ written, i.phase = .writing validated id written) ∨ i.phase = .resized validated id →
      Invokes s i (.ended (unknownOutcome K validated "ambiguous_post_write_failure")) none
  | verified {validated : ValidatedExactOverwrite} {id : FileId} :
      i.phase = .resized validated id →
      digestBytes K.crates (s.contents id) = validated.operand.replacementSha256 →
      Invokes s i (.ended (presentOutcome K validated i.reservations)) none
  | unverified {validated : ValidatedExactOverwrite} {id : FileId} :
      i.phase = .resized validated id →
      Invokes s i (.ended (unknownOutcome K validated "post_write_verification_failed")) none

/-- What an inspection may find: the file, when nothing has it locked, or nothing at all. -/
def Service.Inspects (s : Service) (inspect : ValidatedExactOverwrite → CurrentState) : Prop :=
  ∀ validated, inspect validated = .unknown ∨
    (inspectCurrent K (F.holding s.contents) validated = .ok (inspect validated) ∧
      ∀ file id, openValidatedTarget (F.holding s.contents) validated = .ok file →
        file.id = .ok id → s.Free id)

def InvocationOutcome.evidence (outcome : InvocationOutcome) : Evidence where
  responseDigest := some outcome.responseDigest
  remoteEffectId := outcome.remoteEffectId
  evidencePayloadDigest := some outcome.evidencePayloadDigest
  providerErrorClass := outcome.providerErrorClass
  technicalResourceActuals := outcome.technicalResourceActuals

/-- The calls of the journal that a section of a request may make. -/
inductive Service.Calls (channelKey : List UInt8) (s : Service) : Call → Prop where
  | execute {command : ExecuteOnce} {envelope : OperandEnvelope}
      {enclosed : command.operandEnvelope = envelopeTree envelope.val} {V : Verifier}
      {now startedAtMs : I64} {reservations : List VerifiedTechnicalResourceReservation}
      {before : Contents} :
      authenticateRequest K channelKey (.executeOnce command envelope enclosed) = .ok () →
      supportsExactOverwrite K (F.holding before) command envelope.val = true →
      planExecution K V now command s.host.journal = .ok (.fresh reservations) →
      Service.Calls channelKey s (.admitVerified command now startedAtMs)
  | terminal {key : AttemptKey} {i : Invocation} {outcome : InvocationOutcome}
      {observedAtMs : I64} : s.invocations key = some i → i.phase = .ended outcome →
      Service.Calls channelKey s (.terminal i.command outcome.kind outcome.evidence observedAtMs)
  | reconcile {window : Reconcile} {V : Verifier}
      {inspect : ValidatedExactOverwrite → CurrentState} {now observedAtMs : I64}
      {found : Reconciliation} :
      authenticateRequest K channelKey (.reconcile window) = .ok () →
      s.Inspects K F inspect →
      planReconciliation K F V inspect now window s.host.journal = .ok (.record found) →
      Service.Calls channelKey s
        (.reconcile window.key window.expectedCommandDigest found observedAtMs)
  | query (key : AttemptKey) (expected : Option Text) : Service.Calls channelKey s (.query key expected)

inductive ServiceEvent where
  | journal (event : Event)
  | worked (key : AttemptKey) (changed : Option (FileId × List UInt8))
  | edited (id : FileId) (bytes : List UInt8)

def Service.work (s : Service) (key : AttemptKey) (i : Invocation) (phase : Phase)
    (changed : Option (FileId × List UInt8)) : Service where
  host := s.host
  contents := changed.elim s.contents fun change =>
    Function.update s.contents change.1 change.2
  invocations := Function.update s.invocations key (some { i with phase })

/-- A section of a request, a step of an invocation, an edit of a file by another program that has
its lock, or a crash of the process, after which the service is started again. -/
inductive ServiceStep (channelKey : List UInt8) (s : Service) : ServiceEvent → Service → Prop where
  | granted {command : ExecuteOnce} {envelope : OperandEnvelope}
      {enclosed : command.operandEnvelope = envelopeTree envelope.val} {V : Verifier}
      {now startedAtMs : I64} {reservations : List VerifiedTechnicalResourceReservation}
      {before : Contents} {host : Host} :
      authenticateRequest K channelKey (.executeOnce command envelope enclosed) = .ok () →
      supportsExactOverwrite K (F.holding before) command envelope.val = true →
      planExecution K V now command s.host.journal = .ok (.fresh reservations) →
      Step K.recorder s.host
        (.returned (.admitVerified command now startedAtMs) (.admitted (.ok .freshStarted))) host →
      ServiceStep channelKey s (.journal (.returned (.admitVerified command now startedAtMs)
          (.admitted (.ok .freshStarted))))
        { s with
          host
          invocations := Function.update s.invocations command.key
            (some ⟨command, envelope.val, reservations, .granted⟩) }
  | settled {key : AttemptKey} {i : Invocation} {outcome : InvocationOutcome} {observedAtMs : I64}
      {reply : Reply} {host : Host} : s.invocations key = some i → i.phase = .ended outcome →
      Step K.recorder s.host
        (.returned (.terminal i.command outcome.kind outcome.evidence observedAtMs) reply) host →
      ServiceStep channelKey s (.journal (.returned
          (.terminal i.command outcome.kind outcome.evidence observedAtMs) reply))
        { s with host, invocations := Function.update s.invocations key none }
  | called {call : Call} {reply : Reply} {host : Host} : s.Calls K F channelKey call →
      (∀ command kind evidence observedAtMs, call ≠ .terminal command kind evidence observedAtMs) →
      reply ≠ .admitted (.ok .freshStarted) →
      Step K.recorder s.host (.returned call reply) host →
      ServiceStep channelKey s (.journal (.returned call reply)) { s with host }
  | worked {key : AttemptKey} {i : Invocation} {phase : Phase}
      {changed : Option (FileId × List UInt8)} : s.invocations key = some i →
      Invokes K F s i phase changed →
      ServiceStep channelKey s (.worked key changed) (s.work key i phase changed)
  | edited {id : FileId} {bytes : List UInt8} : s.Free id →
      ServiceStep channelKey s (.edited id bytes)
        { s with contents := Function.update s.contents id bytes }
  | crashed {call : Call} {file : List UInt8} {host : Host} : s.Calls K F channelKey call →
      Step K.recorder s.host (.crashed call file) host →
      ServiceStep channelKey s (.journal (.crashed call file))
        { s with host, invocations := fun _ => none }

end Steps
end CarsinOS.Recorder
