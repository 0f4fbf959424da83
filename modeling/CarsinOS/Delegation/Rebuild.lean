import Mathlib.Data.List.Sort
import CarsinOS.Delegation.Schema

/-! The snapshot a transition records, and the rebuild of a delegation's projection from the latest
one. -/
namespace CarsinOS.Delegation
open CarsinOS.Lib CarsinOS.Integrity

/-- `.. WHERE delegation_id=?1 ORDER BY key`. -/
def ownRows {ρ : Type} (delegation key : ρ → Text) (id : Text) (rows : List ρ) : List ρ :=
  (rows.filter fun row => delegation row = id).insertionSort fun first second =>
    key first ≤ key second

theorem mem_ownRows {ρ : Type} {delegation key : ρ → Text} {id : Text} {rows : List ρ} {row : ρ} :
    row ∈ ownRows delegation key id rows ↔ row ∈ rows ∧ delegation row = id := by
  simp [ownRows, List.mem_insertionSort]

/-- `projection_snapshot_json`. -/
def Store.projectionSnapshot (s : Store) (id : Text) (transitionContinuationId : Option Text) :
    Anyhow ProjectionSnapshot :=
  match s.getDelegation id with
  | none => bail "Query returned no rows"
  | some d => .ok {
      phase := d.phase
      runControl := d.runControl
      stateRevision := d.stateRevision
      currentPlanRevision := d.currentPlanRevision
      currentCriteriaRevision := d.currentCriteriaRevision
      pendingDecisionId := d.pendingDecisionId
      externalWaitJson := d.externalWaitJson
      completionAssessmentJson := d.completionAssessmentJson
      stopEpoch := d.stopEpoch
      updatedAt := d.updatedAt
      terminalAt := d.terminalAt
      transitionContinuationId
      branches := ownRows (·.delegationId) (·.actionId) id s.actionBranches.rows
      continuations := ownRows (·.delegationId) (·.continuationId) id s.continuations.rows
      attentionItems := ownRows (·.delegationId) (·.attentionId) id s.attentionItems.rows
      externalWaits := ownRows (·.delegationId) (·.externalWaitId) id s.externalWaits.rows
      completionAssessments :=
        ownRows (·.delegationId) (·.assessmentId) id s.completionAssessments.rows }

/-- `.. ORDER BY state_revision DESC LIMIT 1`. -/
def Store.latestTransition (s : Store) (id : Text) : Option LifecycleTransitionRecord :=
  highest (fun first second => first.stateRevision < second.stateRevision)
    (s.transitions.rows.filter (·.delegationId = id))

def Store.restoreBranch (id : Text) (s : Store) (row : ActionBranchRecord) : Anyhow Store :=
  match s.actionBranches.find? row.actionId with
  | none => s.insertBranch { row with delegationId := id }
  | some _ => s.updateBranches (·.actionId = row.actionId)
      (fun old => { row with actionId := old.actionId, delegationId := id }) fun _ => rfl

/-- A continuation that is there keeps the columns the statement does not name. -/
def Store.restoreContinuation (id : Text) (s : Store) (row : ContinuationRecord) : Anyhow Store :=
  match s.continuations.find? row.continuationId with
  | none => s.insertContinuation { row with delegationId := id }
  | some _ => s.updateContinuations (·.continuationId = row.continuationId)
      (fun old => { old with
        status := row.status
        jobId := row.jobId
        leaseOwner := row.leaseOwner
        leaseExpiresAt := row.leaseExpiresAt
        fencingToken := row.fencingToken
        hostGeneration := row.hostGeneration
        updatedAt := row.updatedAt
        completedAt := row.completedAt }) fun _ => rfl

def Store.restoreAttention (id : Text) (s : Store) (row : AttentionItemRecord) : Anyhow Store :=
  match s.attentionItems.find? row.attentionId with
  | none => s.insertAttention { row with delegationId := id }
  | some _ => s.updateAttention (·.attentionId = row.attentionId)
      (fun old => { row with attentionId := old.attentionId, delegationId := id }) fun _ => rfl

def Store.restoreWait (id : Text) (s : Store) (row : ExternalWaitRecord) : Anyhow Store :=
  match s.externalWaits.find? row.externalWaitId with
  | none => s.insertWait { row with delegationId := id }
  | some _ => s.updateWaits (·.externalWaitId = row.externalWaitId)
      (fun old => { row with externalWaitId := old.externalWaitId, delegationId := id }) fun _ => rfl

def Store.restoreLifecycleSubprojections (s : Store) (id : Text) (snapshot : ProjectionSnapshot) :
    Anyhow Store := do
  let s ← s.deleteAttention fun row => row.delegationId = id &&
    !(snapshot.attentionItems.any (·.attentionId = row.attentionId))
  let s := s.deleteWaits fun row => row.delegationId = id &&
    !(snapshot.externalWaits.any (·.externalWaitId = row.externalWaitId))
  let s ← s.deleteContinuations fun row => row.delegationId = id &&
    !(snapshot.continuations.any (·.continuationId = row.continuationId))
  let s ← s.deleteBranches fun row => row.delegationId = id &&
    !(snapshot.branches.any (·.actionId = row.actionId))
  let s ← snapshot.branches.foldlM (Store.restoreBranch id) s
  let s ← snapshot.continuations.foldlM (Store.restoreContinuation id) s
  let s ← snapshot.attentionItems.foldlM (Store.restoreAttention id) s
  snapshot.externalWaits.foldlM (Store.restoreWait id) s

def Store.restoreDelegation (s : Store) (id : Text) (snapshot : ProjectionSnapshot) : Anyhow Store :=
  s.updateDelegations (·.delegationId = id) (fun d => { d with
    phase := snapshot.phase
    runControl := snapshot.runControl
    stateRevision := snapshot.stateRevision
    currentPlanRevision := snapshot.currentPlanRevision
    currentCriteriaRevision := snapshot.currentCriteriaRevision
    pendingDecisionId := snapshot.pendingDecisionId
    externalWaitJson := snapshot.externalWaitJson
    completionAssessmentJson := snapshot.completionAssessmentJson
    stopEpoch := snapshot.stopEpoch
    updatedAt := snapshot.updatedAt
    terminalAt := snapshot.terminalAt }) fun _ => rfl

def requireText (field : String) (value : Text) : Anyhow Unit :=
  ensure (trimChars value ≠ []) (field ++ " must not be empty")

def rebuildLifecycleProjection (id : Text) (s : Store) : Anyhow (Option DelegationRecord × Store) :=
  do
  requireText "delegation_id" id
  match s.latestTransition id with
  | none => .ok (none, s)
  | some t => do
    let s ← s.restoreLifecycleSubprojections id t.projectionSnapshot
    let s ← s.restoreDelegation id t.projectionSnapshot
    let rebuilt ← s.projectionSnapshot id t.projectionSnapshot.transitionContinuationId
    ensure (rebuilt = t.projectionSnapshot)
      "rebuilt lifecycle projection does not match immutable history"
    .ok (s.getDelegation id, s)

end CarsinOS.Delegation
