import Mathlib.Tactic.Positivity
import Mathlib.Algebra.Order.Ring.Int
import CarsinOS.Lib.Run
import CarsinOS.Recovery.Planner

/-! The bounds every run of objective recovery keeps. -/
namespace CarsinOS.Recovery
open CarsinOS.Lib

theorem saturate_val (i : Int) : (saturate i).val = max (-2 ^ 63) (min (2 ^ 63 - 1) i) := by
  unfold saturate
  split
  · simp only [MAX_I64]
    omega
  · split
    · simp only [MIN_I64]
      omega
    · simp only
      omega

theorem checkedShlOne_small {shift : Nat} (small : shift ≤ 62) :
    ∃ power : I64, checkedShlOne shift = some power ∧ power.val = 2 ^ shift := by
  have power : (2 : Int) ^ shift < 2 ^ 63 := pow_lt_pow_right₀ (by decide) (by omega)
  have positive : (0 : Int) < 2 ^ shift := by positivity
  refine ⟨⟨2 ^ shift, by omega, power⟩, ?_, rfl⟩
  have fits := I64.ofInt?_val ⟨2 ^ shift, by omega, power⟩
  simp only at fits
  rw [checkedShlOne, if_pos (by omega), fits]
  rfl

/-- The delay after the attempts that were started: it doubles up to its maximum. -/
def delay (policy : RecoveryPolicy) (attemptsStarted : Nat) : Int :=
  min policy.maxBackoffMs.val (policy.baseBackoffMs.val * 2 ^ min (attemptsStarted - 1) 62)

/-- What `validate` asks of a policy and of the clocks. -/
structure Valid (policy : RecoveryPolicy) (facts : ObjectiveRecoveryFacts) : Prop where
  attempts : 0 < policy.maxAttempts.val
  elapsed : 0 ≤ policy.maxElapsedMs.val
  base : 0 ≤ policy.baseBackoffMs.val
  ceiling : policy.baseBackoffMs.val ≤ policy.maxBackoffMs.val
  first : 0 ≤ facts.firstAttemptAtMs.val
  last : facts.firstAttemptAtMs.val ≤ facts.lastAttemptAtMs.val
  now : facts.lastAttemptAtMs.val ≤ facts.nowMs.val
  circuit : ∀ u ∈ facts.circuitOpenUntilMs, 0 ≤ u.val
  started : 0 < facts.attemptsStarted.val

theorem validate_ok {policy : RecoveryPolicy} {facts : ObjectiveRecoveryFacts} :
    validate policy facts = .ok () ↔ Valid policy facts := by
  unfold validate
  constructor
  · intro accepted
    split at accepted
    · contradiction
    split at accepted
    · contradiction
    split at accepted
    · contradiction
    rename_i fair clock history
    simp only [not_or, Int.not_lt] at fair clock
    obtain ⟨first, last, now, circuit⟩ := clock
    refine ⟨by omega, fair.2.1, fair.2.2.1, fair.2.2.2, first, last, now, ?_, by omega⟩
    intro u known
    rw [known] at circuit
    simpa using circuit
  · intro valid
    have circuit : facts.circuitOpenUntilMs.any (·.val < 0) = false := by
      rw [Option.any_eq_false]
      intro u known
      have := valid.circuit u known
      simpa using this
    obtain ⟨attempts, elapsed, base, ceiling, first, last, now, -, started⟩ := valid
    have clock : ¬ (facts.firstAttemptAtMs.val < 0 ∨
        facts.lastAttemptAtMs.val < facts.firstAttemptAtMs.val ∨
        facts.nowMs.val < facts.lastAttemptAtMs.val ∨
        facts.circuitOpenUntilMs.any (·.val < 0) = true) := by
      simp only [circuit, Bool.false_eq_true, or_false]
      omega
    rw [if_neg (by omega), if_neg clock, if_neg (by omega)]

theorem backoffMs_val {policy : RecoveryPolicy} {facts : ObjectiveRecoveryFacts}
    (valid : Valid policy facts) (started : U32) :
    (backoffMs policy started).val = delay policy started.val := by
  obtain ⟨power, shifted, value⟩ := checkedShlOne_small (Nat.min_le_right (started.val - 1) 62)
  have base := valid.base
  have ceiling := valid.ceiling
  have maximum := policy.maxBackoffMs.property.2
  have product : 0 ≤ policy.baseBackoffMs.val * 2 ^ min (started.val - 1) 62 := by positivity
  unfold backoffMs delay minI64
  simp only [shifted, Option.getD_some, saturatingMul, value]
  split
  · rename_i below
    rw [saturate_val] at below ⊢
    omega
  · rename_i above
    rw [saturate_val] at above
    omega

/-- The facts under which the same effect may be retried, now or after a delay. -/
structure Eligible (policy : RecoveryPolicy) (facts : ObjectiveRecoveryFacts) : Prop where
  valid : Valid policy facts
  authority : facts.originalIntentAndAuthorityUnchanged = true
  safety : facts.retrySafety.permitsSameEffectRetry = true
  scope : facts.scope ≠ .manualOnly
  circuit : ∀ u ∈ facts.circuitOpenUntilMs, u.val ≤ facts.nowMs.val
  authenticated : facts.providerErrorClass ≠ .authentication
  recoverable : facts.providerErrorClass ≠ .permanent
  attempts : facts.attemptsStarted.val < policy.maxAttempts.val
  elapsed : facts.nowMs.val - facts.firstAttemptAtMs.val ≤ policy.maxElapsedMs.val
  resources : facts.technicalResourcesAvailable = true

/-- The instant a delay ends. -/
def notBefore (policy : RecoveryPolicy) (facts : ObjectiveRecoveryFacts) : I64 :=
  saturatingAdd facts.lastAttemptAtMs (backoffMs policy facts.attemptsStarted)

theorem elapsed_fits {policy : RecoveryPolicy} {facts : ObjectiveRecoveryFacts}
    (valid : Valid policy facts) :
    ∃ elapsed : I64, I64.ofInt? (facts.nowMs.val - facts.firstAttemptAtMs.val) = some elapsed ∧
      elapsed.val = facts.nowMs.val - facts.firstAttemptAtMs.val := by
  obtain ⟨-, -, -, -, first, last, now, -, -⟩ := valid
  have high := facts.nowMs.property.2
  exact ⟨⟨_, by omega, by omega⟩, I64.ofInt?_val ⟨_, by omega, by omega⟩, rfl⟩

theorem plan_total (policy : RecoveryPolicy) (facts : ObjectiveRecoveryFacts) :
    planObjectiveRecovery policy facts ≠ none := by
  unfold planObjectiveRecovery
  split
  · simp
  · rename_i accepted
    obtain ⟨elapsed, fits, -⟩ := elapsed_fits (validate_ok.mp accepted)
    split
    · simp
    split
    · simp
    split
    · simp
    split
    · simp
    · unfold planAutonomous
      simp only [fits, Option.bind_eq_bind, Option.bind_some]
      split
      · split <;> simp
      · split <;> simp

theorem exhausted_cases (facts : ObjectiveRecoveryFacts) :
    (∀ t, exhausted facts ≠ .retrySameEffect t) ∧ ∀ t r, exhausted facts ≠ .waitUntil t r := by
  unfold exhausted
  split
  · simp
  split
  · simp
  split <;> simp

/-- The planner grants a retry, now or after a delay, when the facts are eligible. -/
theorem plan_eligible {policy : RecoveryPolicy} {facts : ObjectiveRecoveryFacts}
    (eligible : Eligible policy facts) : planObjectiveRecovery policy facts =
      some (.ok (if (notBefore policy facts).val > facts.nowMs.val
        then .waitUntil (notBefore policy facts) .backoff
        else .retrySameEffect (notBefore policy facts))) := by
  obtain ⟨elapsed, fits, value⟩ := elapsed_fits eligible.valid
  have authority : ¬ facts.originalIntentAndAuthorityUnchanged = false := by
    simp [eligible.authority]
  have known : facts.retrySafety ≠ .outcomeUnknown := by
    intro unknown
    have safe := eligible.safety
    rw [unknown] at safe
    contradiction
  have closed : facts.circuitOpenUntilMs.filter (·.val > facts.nowMs.val) = none := by
    rw [Option.filter_eq_none_iff]
    intro u open_until
    have past := eligible.circuit u open_until
    simpa using past
  have allowed : (facts.retrySafety.permitsSameEffectRetry &&
      !(facts.providerErrorClass = .authentication || facts.providerErrorClass = .permanent)) =
        true := by
    simp [eligible.safety, eligible.authenticated, eligible.recoverable]
  have autonomous : planAutonomous policy facts =
      some (if (notBefore policy facts).val > facts.nowMs.val
        then .waitUntil (notBefore policy facts) .backoff
        else .retrySameEffect (notBefore policy facts)) := by
    unfold planAutonomous
    simp only [fits, Option.bind_eq_bind, Option.bind_some]
    rw [if_pos ⟨allowed, eligible.attempts, value ▸ eligible.elapsed, eligible.resources⟩]
    exact (apply_ite some _ _ _).symm
  unfold planObjectiveRecovery
  simp only [validate_ok.mpr eligible.valid, if_neg authority, if_neg known, if_neg eligible.scope,
    closed, autonomous, Option.map_some]

theorem plan_not_eligible {policy : RecoveryPolicy} {facts : ObjectiveRecoveryFacts}
    (other : ¬ Eligible policy facts) {t : I64} :
    planObjectiveRecovery policy facts ≠ some (.ok (.retrySameEffect t)) ∧
      planObjectiveRecovery policy facts ≠ some (.ok (.waitUntil t .backoff)) := by
  obtain ⟨noRetry, noWait⟩ := exhausted_cases facts
  unfold planObjectiveRecovery
  split
  · simp
  rename_i accepted
  have valid := validate_ok.mp accepted
  obtain ⟨elapsed, fits, value⟩ := elapsed_fits valid
  split
  · simp [noRetry, noWait]
  rename_i authority
  split
  · split <;> simp [noRetry, noWait]
  split
  · simp [noRetry, noWait]
  rename_i scope
  split
  · simp
  rename_i closed
  unfold planAutonomous
  simp only [fits, Option.bind_eq_bind, Option.bind_some]
  split
  · rename_i allowed
    obtain ⟨retry, attempts, limit, resources⟩ := allowed
    simp only [Bool.and_eq_true, Bool.not_eq_true', Bool.or_eq_false_iff,
      decide_eq_false_iff_not] at retry
    refine absurd ⟨valid, by simpa using authority, retry.1, scope, ?_, retry.2.1, retry.2.2,
      attempts, value ▸ limit, resources⟩ other
    intro u open_until
    rw [Option.filter_eq_none_iff] at closed
    simpa using closed u open_until
  · split <;> simp [noRetry, noWait]

theorem plan_retry {policy : RecoveryPolicy} {facts : ObjectiveRecoveryFacts} {t : I64} :
    planObjectiveRecovery policy facts = some (.ok (.retrySameEffect t)) ↔
      Eligible policy facts ∧ t = notBefore policy facts ∧ t.val ≤ facts.nowMs.val := by
  constructor
  · intro granted
    have eligible : Eligible policy facts :=
      Classical.byContradiction fun other => (plan_not_eligible other).1 granted
    rw [plan_eligible eligible] at granted
    split at granted
    · simp at granted
    · rename_i now
      cases granted
      exact ⟨eligible, rfl, Int.not_lt.mp now⟩
  · rintro ⟨eligible, rfl, now⟩
    rw [plan_eligible eligible, if_neg (Int.not_lt.mpr now)]

theorem plan_backoff {policy : RecoveryPolicy} {facts : ObjectiveRecoveryFacts} {t : I64} :
    planObjectiveRecovery policy facts = some (.ok (.waitUntil t .backoff)) ↔
      Eligible policy facts ∧ t = notBefore policy facts ∧ facts.nowMs.val < t.val := by
  constructor
  · intro delayed
    have eligible : Eligible policy facts :=
      Classical.byContradiction fun other => (plan_not_eligible other).2 delayed
    rw [plan_eligible eligible] at delayed
    split at delayed
    · rename_i later
      cases delayed
      exact ⟨eligible, rfl, later⟩
    · simp at delayed
  · rintro ⟨eligible, rfl, later⟩
    rw [plan_eligible eligible, if_pos later]

/-- An attempt that is granted is a delay after the last one, where the clock can show it. -/
theorem retry_spaced {policy : RecoveryPolicy} {facts : ObjectiveRecoveryFacts} {t : I64}
    (granted : planObjectiveRecovery policy facts = some (.ok (.retrySameEffect t))) :
    delay policy facts.attemptsStarted.val ≤ facts.nowMs.val - facts.lastAttemptAtMs.val ∨
      facts.nowMs = MAX_I64 := by
  obtain ⟨eligible, rfl, now⟩ := plan_retry.mp granted
  have first := eligible.valid.first
  have last := eligible.valid.last
  have base := eligible.valid.base
  have ceiling := eligible.valid.ceiling
  have positive : 0 ≤ policy.baseBackoffMs.val *
      2 ^ min (facts.attemptsStarted.val - 1) 62 := by positivity
  rw [notBefore, saturatingAdd, backoffMs_val eligible.valid, saturate_val] at now
  have high := facts.nowMs.property.2
  by_cases end_of_time : facts.nowMs.val = 2 ^ 63 - 1
  · exact .inr (Subtype.ext end_of_time)
  · left
    simp only [delay] at now ⊢
    omega

/-- The same facts at the end of a backoff, when that is still within the elapsed limit. -/
theorem backoff_then_retry {policy : RecoveryPolicy} {facts : ObjectiveRecoveryFacts} {t : I64}
    (delayed : planObjectiveRecovery policy facts = some (.ok (.waitUntil t .backoff)))
    (within : t.val - facts.firstAttemptAtMs.val ≤ policy.maxElapsedMs.val) :
    planObjectiveRecovery policy { facts with nowMs := t } =
      some (.ok (.retrySameEffect t)) := by
  obtain ⟨eligible, same, later⟩ := plan_backoff.mp delayed
  have last := eligible.valid.now
  have valid : Valid policy { facts with nowMs := t } :=
    { eligible.valid with now := by simp only; omega }
  have circuit : ∀ u ∈ facts.circuitOpenUntilMs, u.val ≤ t.val := fun u open_until =>
    Int.le_trans (eligible.circuit u open_until) (Int.le_of_lt later)
  exact plan_retry.mpr ⟨{ eligible with valid, circuit, elapsed := within }, same, Int.le_refl _⟩

/-! Runs. -/

def isRetry : Option (Except RecoveryPlanError RecoveryDirective) → Bool
  | some (.ok (.retrySameEffect _)) => true
  | _ => false

/-- A call of the planner is granted a retry. -/
def granted (policy : RecoveryPolicy) (facts : ObjectiveRecoveryFacts) : Bool :=
  isRetry (planObjectiveRecovery policy facts)

theorem granted_iff {policy : RecoveryPolicy} {facts : ObjectiveRecoveryFacts} :
    granted policy facts = true ↔
      ∃ t, planObjectiveRecovery policy facts = some (.ok (.retrySameEffect t)) := by
  unfold granted
  generalize planObjectiveRecovery policy facts = plan
  constructor
  · intro retry
    unfold isRetry at retry
    split at retry
    · exact ⟨_, rfl⟩
    · contradiction
  · rintro ⟨t, rfl⟩
    rfl

/-- The attempts so far, which only a granted retry changes. -/
structure Progress where
  attemptsStarted : Nat
  firstAttemptAtMs : I64
  lastAttemptAtMs : I64

/-- A call with facts that are arbitrary up to the attempts so far. -/
structure Step (policy : RecoveryPolicy) (s : Progress) (facts : ObjectiveRecoveryFacts)
    (t : Progress) : Prop where
  attemptsStarted : facts.attemptsStarted.val = s.attemptsStarted
  firstAttemptAtMs : facts.firstAttemptAtMs = s.firstAttemptAtMs
  lastAttemptAtMs : facts.lastAttemptAtMs = s.lastAttemptAtMs
  next : t = if granted policy facts
    then ⟨s.attemptsStarted + 1, s.firstAttemptAtMs, facts.nowMs⟩ else s

def grants (policy : RecoveryPolicy) (calls : List ObjectiveRecoveryFacts) :
    List ObjectiveRecoveryFacts :=
  calls.filter (granted policy)

/-- Instants of attempts, the first of which follows the attempt numbered `k` made at `last`. -/
def Spaced (policy : RecoveryPolicy) : Nat → I64 → List I64 → Prop
  | _, _, [] => True
  | k, last, t :: ts =>
    (delay policy k ≤ t.val - last.val ∨ t = MAX_I64) ∧ Spaced policy (k + 1) t ts

theorem spaced_append {policy : RecoveryPolicy} {k : Nat} {last t : I64} {ts : List I64} :
    Spaced policy k last (ts ++ [t]) ↔ Spaced policy k last ts ∧
      (delay policy (k + ts.length) ≤ t.val - (ts.getLast?.getD last).val ∨ t = MAX_I64) := by
  induction ts generalizing k last with
  | nil => simp [Spaced]
  | cons u ts ih =>
    rw [List.cons_append, Spaced, Spaced, ih, and_assoc, List.length_cons, List.getLast?_cons,
      Option.getD_some, Nat.add_assoc, Nat.add_comm 1]

/-- What holds of the calls read so far. -/
structure Bounded (policy : RecoveryPolicy) (s : Progress) (calls : List ObjectiveRecoveryFacts)
    (t : Progress) : Prop where
  attempts : t.attemptsStarted = s.attemptsStarted + (grants policy calls).length
  first : t.firstAttemptAtMs = s.firstAttemptAtMs
  last : t.lastAttemptAtMs =
    ((grants policy calls).map (·.nowMs)).getLast?.getD s.lastAttemptAtMs
  few : (grants policy calls).length ≤ policy.maxAttempts.val - s.attemptsStarted
  eligible : ∀ facts ∈ grants policy calls, Eligible policy facts ∧
    facts.firstAttemptAtMs = s.firstAttemptAtMs
  spaced : Spaced policy s.attemptsStarted s.lastAttemptAtMs
    ((grants policy calls).map (·.nowMs))

theorem bounded_nil {policy : RecoveryPolicy} {s : Progress} : Bounded policy s [] s := by
  constructor <;> simp [grants, Spaced]

theorem bounded_snoc {policy : RecoveryPolicy} {s t u : Progress}
    {calls : List ObjectiveRecoveryFacts} {facts : ObjectiveRecoveryFacts}
    (bounded : Bounded policy s calls t) (step : Step policy t facts u) :
    Bounded policy s (calls ++ [facts]) u := by
  obtain ⟨attempts, first, last, few, eligible, spaced⟩ := bounded
  obtain ⟨started, sameFirst, sameLast, rfl⟩ := step
  cases retry : granted policy facts with
  | false =>
    have same : grants policy (calls ++ [facts]) = grants policy calls := by
      simp [grants, retry]
    rw [if_neg Bool.false_ne_true]
    exact ⟨same ▸ attempts, first, same ▸ last, same ▸ few, same ▸ eligible, same ▸ spaced⟩
  | true =>
    have more : grants policy (calls ++ [facts]) = grants policy calls ++ [facts] := by
      simp [grants, retry]
    obtain ⟨instant, plan⟩ := granted_iff.mp retry
    have allowed := (plan_retry.mp plan).1
    have room := allowed.attempts
    have gap := retry_spaced plan
    rw [if_pos rfl]
    constructor
    · simp [more, attempts, Nat.add_assoc]
    · exact first
    · simp [more]
    · rw [more, List.length_append, List.length_singleton]
      omega
    · intro call member
      rw [more] at member
      rcases List.mem_append.mp member with old | new
      · exact eligible call old
      · cases List.mem_singleton.mp new
        exact ⟨allowed, sameFirst.trans first⟩
    · rw [more, List.map_append, List.map_singleton, spaced_append]
      refine ⟨spaced, ?_⟩
      rw [List.length_map, ← attempts, ← last, ← started, ← sameLast]
      exact gap

theorem run_bounded {policy : RecoveryPolicy} {s t : Progress}
    {calls : List ObjectiveRecoveryFacts} (reached : Run (Step policy) s calls t) :
    Bounded policy s calls t := by
  induction reached with
  | nil => exact bounded_nil
  | snoc _ step ih => exact bounded_snoc ih step

/-- Every run of the planner keeps to the attempts, the elapsed time, the delays and the facts a
retry needs; no call overflows, and a backoff that ends within the elapsed limit ends in a retry. -/
theorem recovery_bounded {policy : RecoveryPolicy} {s t : Progress}
    {calls : List ObjectiveRecoveryFacts} (reached : Run (Step policy) s calls t) :
    (grants policy calls).length ≤ policy.maxAttempts.val - s.attemptsStarted ∧
    (∀ facts ∈ grants policy calls,
      facts.nowMs.val ≤ s.firstAttemptAtMs.val + policy.maxElapsedMs.val) ∧
    Spaced policy s.attemptsStarted s.lastAttemptAtMs
      ((grants policy calls).map (·.nowMs)) ∧
    (∀ facts ∈ grants policy calls,
      (∀ u ∈ facts.circuitOpenUntilMs, u.val ≤ facts.nowMs.val) ∧ facts.scope ≠ .manualOnly ∧
      facts.originalIntentAndAuthorityUnchanged = true ∧ facts.retrySafety ≠ .outcomeUnknown ∧
      facts.providerErrorClass ≠ .authentication ∧ facts.providerErrorClass ≠ .permanent) ∧
    (∀ facts ∈ calls, planObjectiveRecovery policy facts ≠ none) ∧
    ∀ facts instant, planObjectiveRecovery policy facts =
        some (.ok (.waitUntil instant .backoff)) →
      instant.val - facts.firstAttemptAtMs.val ≤ policy.maxElapsedMs.val →
      planObjectiveRecovery policy { facts with nowMs := instant } =
        some (.ok (.retrySameEffect instant)) := by
  have bounded := run_bounded reached
  refine ⟨bounded.few, ?_, bounded.spaced, ?_, ?_, ?_⟩
  · intro facts member
    obtain ⟨allowed, first⟩ := bounded.eligible facts member
    have limit := allowed.elapsed
    rw [first] at limit
    omega
  · intro facts member
    obtain ⟨allowed, -⟩ := bounded.eligible facts member
    refine ⟨allowed.circuit, allowed.scope, allowed.authority, ?_, allowed.authenticated,
      allowed.recoverable⟩
    intro unknown
    have safe := allowed.safety
    rw [unknown] at safe
    contradiction
  · exact fun facts _ => plan_total policy facts
  · exact fun facts instant delayed within => backoff_then_retry delayed within

/-- Facts of a transient failure before the provider was called. -/
def transientFacts (attemptsStarted : U32) (first last now : I64) : ObjectiveRecoveryFacts where
  scope := .objectiveRetry
  attemptsStarted
  firstAttemptAtMs := first
  lastAttemptAtMs := last
  nowMs := now
  technicalResourcesAvailable := true
  circuitOpenUntilMs := none
  providerErrorClass := .transient
  retrySafety := .preInvocationFailure
  operationReversible := true
  declaredSafeBoundaryReached := true
  replanAvailableWithinOriginalAuthority := true
  originalIntentAndAuthorityUnchanged := true
  meaningfulOutcomeExists := false
  userJudgmentUseful := true
  externalProgressPossible := false

def minutePolicy : RecoveryPolicy where
  maxAttempts := ⟨4, by decide⟩
  maxElapsedMs := ⟨60000, by decide⟩
  baseBackoffMs := ⟨1000, by decide⟩
  maxBackoffMs := ⟨8000, by decide⟩

theorem recovery_bounded_once :
    (grants minutePolicy [transientFacts ⟨1, by decide⟩ ⟨1000, by decide⟩ ⟨1000, by decide⟩
      ⟨2000, by decide⟩]).length ≤ 3 :=
  (recovery_bounded (s := ⟨1, ⟨1000, by decide⟩, ⟨1000, by decide⟩⟩)
    (.snoc (.nil _) ⟨rfl, rfl, rfl, rfl⟩)).1

def unboundedPolicy : RecoveryPolicy where
  maxAttempts := ⟨100, by decide⟩
  maxElapsedMs := MAX_I64
  baseBackoffMs := ⟨1, I64.one_fits⟩
  maxBackoffMs := MAX_I64

/-- A backoff that ends after the elapsed limit ends without a retry, the sixty-fourth attempt
is granted before the delay has doubled sixty-three times, and at the end of time a delay is cut
short. -/
theorem recovery_promises_broken :
    (planObjectiveRecovery minutePolicy (transientFacts ⟨3, by decide⟩ ⟨0, by decide⟩
        ⟨59000, by decide⟩ ⟨59500, by decide⟩) =
      some (.ok (.waitUntil ⟨63000, by decide⟩ .backoff)) ∧
    planObjectiveRecovery minutePolicy (transientFacts ⟨3, by decide⟩ ⟨0, by decide⟩
        ⟨59000, by decide⟩ ⟨63000, by decide⟩) = some (.ok .replanWithinOriginalAuthority)) ∧
    (planObjectiveRecovery unboundedPolicy (transientFacts ⟨64, by decide⟩ ⟨0, by decide⟩
        ⟨0, by decide⟩ ⟨2 ^ 62, by decide⟩) =
      some (.ok (.retrySameEffect ⟨2 ^ 62, by decide⟩)) ∧
    (2 : Int) ^ 62 - 0 < min unboundedPolicy.maxBackoffMs.val
      (unboundedPolicy.baseBackoffMs.val * 2 ^ (64 - 1))) ∧
    planObjectiveRecovery minutePolicy (transientFacts ⟨1, by decide⟩ ⟨2 ^ 63 - 10, by decide⟩
        ⟨2 ^ 63 - 10, by decide⟩ MAX_I64) = some (.ok (.retrySameEffect MAX_I64)) ∧
    MAX_I64.val - (2 ^ 63 - 10) < min minutePolicy.maxBackoffMs.val
      (minutePolicy.baseBackoffMs.val * 2 ^ (1 - 1)) := by
  refine ⟨⟨rfl, rfl⟩, ⟨rfl, by decide⟩, rfl, by decide⟩

end CarsinOS.Recovery
