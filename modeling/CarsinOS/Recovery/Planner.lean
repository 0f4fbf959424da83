import CarsinOS.Number

/-! The planner of objective recovery. Integers are bounded as in the source, so a plain
subtraction may overflow. -/
namespace CarsinOS.Recovery

def MAX_I64 : I64 := ⟨2 ^ 63 - 1, by decide⟩

def MIN_I64 : I64 := ⟨-2 ^ 63, by decide⟩

/-- The nearest representable integer. -/
def saturate (i : Int) : I64 :=
  if high : 2 ^ 63 ≤ i then MAX_I64
  else if low : i < -2 ^ 63 then MIN_I64
  else ⟨i, by omega⟩

def saturatingAdd (a b : I64) : I64 := saturate (a.val + b.val)

def saturatingMul (a b : I64) : I64 := saturate (a.val * b.val)

def minI64 (a b : I64) : I64 := if a.val ≤ b.val then a else b

/-- `1_i64.checked_shl`, which only refuses to shift by the whole width. -/
def checkedShlOne (shift : Nat) : Option I64 :=
  if shift < 64 then some ((I64.ofInt? (2 ^ shift)).getD MIN_I64) else none

abbrev U32 := { n : Nat // n < 2 ^ 32 }

inductive ProviderErrorClass where
  | transient
  | rateLimited
  | authentication
  | permanent
  | unknown
deriving DecidableEq

inductive RetrySafety where
  | preInvocationFailure
  | idempotent
  | independentlyProvenAbsent
  | outcomeUnknown
  | nonIdempotentFailure
deriving DecidableEq

def RetrySafety.permitsSameEffectRetry : RetrySafety → Bool
  | .preInvocationFailure | .idempotent | .independentlyProvenAbsent => true
  | .outcomeUnknown | .nonIdempotentFailure => false

inductive RecoveryScope where
  | manualOnly
  | objectiveRetry
  | objectiveRetryWithinOwnerEnvelope
deriving DecidableEq

structure RecoveryPolicy where
  maxAttempts : U32
  maxElapsedMs : I64
  baseBackoffMs : I64
  maxBackoffMs : I64

structure ObjectiveRecoveryFacts where
  scope : RecoveryScope
  attemptsStarted : U32
  firstAttemptAtMs : I64
  lastAttemptAtMs : I64
  nowMs : I64
  technicalResourcesAvailable : Bool
  circuitOpenUntilMs : Option I64
  providerErrorClass : ProviderErrorClass
  retrySafety : RetrySafety
  operationReversible : Bool
  declaredSafeBoundaryReached : Bool
  replanAvailableWithinOriginalAuthority : Bool
  originalIntentAndAuthorityUnchanged : Bool
  meaningfulOutcomeExists : Bool
  userJudgmentUseful : Bool
  externalProgressPossible : Bool

inductive RecoveryDelayReason where
  | backoff
  | circuitBreaker
deriving DecidableEq

inductive RecoveryDirective where
  | retrySameEffect (notBeforeMs : I64)
  | replanWithinOriginalAuthority
  | waitUntil (notBeforeMs : I64) (reason : RecoveryDelayReason)
  | waitingExternal
  | waitingForUser
  | partiallyCompleted
  | failed
deriving DecidableEq

inductive RecoveryPlanError where
  | invalidPolicy
  | invalidClock
  | invalidAttemptHistory
deriving DecidableEq

def RecoveryPlanError.message : RecoveryPlanError → String
  | .invalidPolicy => "objective recovery policy is invalid"
  | .invalidClock => "objective recovery clock is invalid"
  | .invalidAttemptHistory => "objective recovery attempt history is invalid"

def validate (policy : RecoveryPolicy) (facts : ObjectiveRecoveryFacts) :
    Except RecoveryPlanError Unit :=
  if policy.maxAttempts.val = 0 ∨ policy.maxElapsedMs.val < 0 ∨ policy.baseBackoffMs.val < 0 ∨
      policy.maxBackoffMs.val < policy.baseBackoffMs.val then .error .invalidPolicy
  else if facts.firstAttemptAtMs.val < 0 ∨
      facts.lastAttemptAtMs.val < facts.firstAttemptAtMs.val ∨
      facts.nowMs.val < facts.lastAttemptAtMs.val ∨
      facts.circuitOpenUntilMs.any (·.val < 0) then .error .invalidClock
  else if facts.attemptsStarted.val = 0 then .error .invalidAttemptHistory
  else .ok ()

def backoffMs (policy : RecoveryPolicy) (attemptsStarted : U32) : I64 :=
  let shift := min (attemptsStarted.val - 1) 62
  minI64 (saturatingMul policy.baseBackoffMs ((checkedShlOne shift).getD MAX_I64))
    policy.maxBackoffMs

def exhausted (facts : ObjectiveRecoveryFacts) : RecoveryDirective :=
  if facts.externalProgressPossible then .waitingExternal
  else if facts.userJudgmentUseful then .waitingForUser
  else if facts.meaningfulOutcomeExists then .partiallyCompleted
  else .failed

/-- The plan once recovery is allowed and no circuit is open; `elapsed` is a plain subtraction. -/
def planAutonomous (policy : RecoveryPolicy) (facts : ObjectiveRecoveryFacts) :
    Option RecoveryDirective := do
  let retryAllowed := facts.retrySafety.permitsSameEffectRetry &&
    !(facts.providerErrorClass = .authentication || facts.providerErrorClass = .permanent)
  let withinAttemptLimit := facts.attemptsStarted.val < policy.maxAttempts.val
  let elapsed ← I64.ofInt? (facts.nowMs.val - facts.firstAttemptAtMs.val)
  let withinElapsedLimit := elapsed.val ≤ policy.maxElapsedMs.val
  if retryAllowed ∧ withinAttemptLimit ∧ withinElapsedLimit ∧
      facts.technicalResourcesAvailable = true then
    let notBeforeMs := saturatingAdd facts.lastAttemptAtMs (backoffMs policy facts.attemptsStarted)
    if notBeforeMs.val > facts.nowMs.val then some (.waitUntil notBeforeMs .backoff)
    else some (.retrySameEffect notBeforeMs)
  else if facts.replanAvailableWithinOriginalAuthority && facts.operationReversible &&
      facts.declaredSafeBoundaryReached then some .replanWithinOriginalAuthority
  else some (exhausted facts)

/-- `none` is an arithmetic overflow. -/
def planObjectiveRecovery (policy : RecoveryPolicy) (facts : ObjectiveRecoveryFacts) :
    Option (Except RecoveryPlanError RecoveryDirective) :=
  match validate policy facts with
  | .error error => some (.error error)
  | .ok () =>
    if facts.originalIntentAndAuthorityUnchanged = false then some (.ok (exhausted facts))
    else if facts.retrySafety = .outcomeUnknown then
      some (.ok (if facts.externalProgressPossible then .waitingExternal else exhausted facts))
    else if facts.scope = .manualOnly then some (.ok (exhausted facts))
    else
      match facts.circuitOpenUntilMs.filter (·.val > facts.nowMs.val) with
      | some untilMs => some (.ok (.waitUntil untilMs .circuitBreaker))
      | none => (planAutonomous policy facts).map .ok

end CarsinOS.Recovery
