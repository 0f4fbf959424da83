import CarsinOS.Delegation.Recovery

/-! The direct report of an attempt's result. -/
namespace CarsinOS.Delegation
open CarsinOS.Lib CarsinOS.Integrity CarsinOS.Receipt

structure RecordProviderAttemptResultCommand where
  attemptId : Text
  claim : ContinuationClaimIdentity
  trustedNow : Int
  status : ProviderAttemptStatus
  providerResponseDigest : Text
  remoteEffectId : Option Text
  finishedAt : Int

inductive RecordProviderAttemptResultOutcome where
  | recorded (attempt : ProviderAttemptRecord)
  | replayed (attempt : ProviderAttemptRecord)
  | conflict
  | notFound
  | stale (reason : ContinuationStaleReason)

/-- `is_terminal` of the attempts; the recovery's own check leaves a success out. -/
def attemptIsTerminal : ProviderAttemptStatus → Bool
  | .prepared | .invoking => false
  | _ => true

def validateResult (command : RecordProviderAttemptResultCommand) : Anyhow Unit := do
  requireText "attempt_id" command.attemptId
  requireText "provider_response_digest" command.providerResponseDigest
  ensure (0 < command.trustedNow ∧ 0 < command.finishedAt ∧
      (command.status = .succeeded ∨ command.status = .failed ∨ command.status = .outcomeUnknown))
    "provider attempt result must be a positive-clock terminal dispatch outcome"
  match command.remoteEffectId with
  | some remoteEffectId => requireText "remote_effect_id" remoteEffectId
  | none => .ok ()

/-- The error class of the newest signed absence with the reported response. -/
def Store.absentErrorClass (s : Store) (command : RecordProviderAttemptResultCommand) :
    Option Text :=
  if command.status = .failed then
    (highest (fun first second => first.journalSequence < second.journalSequence)
      (s.recorderEvidence.rows.filter fun row => row.attemptId = command.attemptId &&
        row.journalSource = .execution && row.journalKind = .absent &&
        row.responseDigest = some command.providerResponseDigest)).bind (·.providerErrorClass)
  else none

/-- `CHECK ((status = 'failed') = (provider_error_class IS NOT NULL))`. -/
def checkErrorClass (status : ProviderAttemptStatus) (errorClass : Option Text) : Anyhow Unit :=
  ensure (status = .failed ↔ errorClass.isSome = true)
    "CHECK constraint failed: execass_provider_attempts"

def recordProviderAttemptResult (K : FenceCrates) (setDigest : ReservationSetDigest)
    (command : RecordProviderAttemptResultCommand) (s : Store) :
    Anyhow (RecordProviderAttemptResultOutcome × Store) := do
  validateResult command
  match s.attemptById command.attemptId with
  | none => .ok (.notFound, s)
  | some existing =>
    if existing.dispatch ≠ dispatchFromClaim existing.dispatch command.claim then
      .ok (.conflict, s)
    else if attemptIsTerminal existing.status then
      if existing.status = command.status ∧
          existing.providerResponseDigest = some command.providerResponseDigest ∧
          existing.remoteEffectId = command.remoteEffectId ∧
          existing.finishedAt = some command.finishedAt then .ok (.replayed existing, s)
      else .ok (.conflict, s)
    else if existing.status ≠ .invoking then .ok (.conflict, s)
    else match s.validateClaimIdentityLive K setDigest command.claim command.trustedNow with
    | .error reason => .ok (.stale reason, s)
    | .ok _ => do
      let errorClass := s.absentErrorClass command
      let s ← s.updateAttempts
        (fun row => row.attemptId = command.attemptId && row.status = existing.status)
        (fun row => { row with
          status := command.status
          providerResponseDigest := some command.providerResponseDigest
          providerErrorClass := errorClass
          remoteEffectId := command.remoteEffectId
          finishedAt := some command.finishedAt }) (fun _ => rfl)
        "provider attempt lost its terminal-result race"
      checkErrorClass command.status errorClass
      let state ← required "result validation admits terminal outcomes only" command.status.effect
      -- the outcome columns are not written, and the guard of the effect reads them
      let s ← s.updateEffects
        (fun row => row.delegationId = existing.dispatch.delegationId &&
          row.logicalEffectId = existing.dispatch.logicalEffectId && row.state = .invoking)
        (fun row => { row with state, updatedAt := command.finishedAt }) (fun _ => rfl)
        "logical effect lost its provider-result transition"
      let attempt ← required "recorded provider attempt disappeared"
        (s.attemptById command.attemptId)
      .ok (.recorded attempt, s)

end CarsinOS.Delegation
