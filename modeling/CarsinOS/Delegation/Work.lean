import CarsinOS.Delegation.Histories
import CarsinOS.Delegation.Writes

/-! The histories of the claim fence: its commands in any order, by any workers, with the other
commands between them. -/
namespace CarsinOS.Delegation
open CarsinOS.Lib CarsinOS.Integrity CarsinOS.Receipt

/-- A command of the claim fence, with what it finds in other tables and at the receipt
coordinator. -/
inductive WorkCommand where
  | claim (J : Coordinator) (outside : ClaimOutside) (command : ContinuationClaimCommand)
  | preDispatch (command : ContinuationDispatchValidationCommand)
  | prepareAttempt (command : PrepareProviderAttemptCommand)
  | beginAttempt (command : BeginProviderAttemptInvocationCommand)
  | settle (J : Coordinator) (outside : SettleOutside) (command : ContinuationSettleCommand)
  | resolve (J : Coordinator) (outside : SettleOutside)
      (command : TechnicalResourceLifecycleCommand)
  | importEvidence (J : Coordinator) (outside : ImportOutside)
      (command : ReconcileRecorderEvidenceCommand)

section Run
variable (K : FenceCrates) (setDigest : ReservationSetDigest)

def WorkCommand.run (s : Store) : WorkCommand → Anyhow Store
  | .claim J outside command => Prod.snd <$> claimContinuation K J outside command s
  | .preDispatch command => Prod.snd <$> validateContinuationPreDispatch K setDigest command s
  | .prepareAttempt command => Prod.snd <$> prepareProviderAttempt K setDigest command s
  | .beginAttempt command => Prod.snd <$> beginProviderAttemptInvocation K setDigest command s
  | .settle J outside command => Prod.snd <$> settleContinuation K J setDigest outside command s
  | .resolve J outside command =>
    Prod.snd <$> resolveTechnicalResources K J setDigest outside command s
  | .importEvidence J outside command =>
    Prod.snd <$> reconcileRecorderEvidence K J setDigest outside command s

/-- What the other commands may do to the tables of the fence: they open quota, send events and
append receipts, they create continuations, and one that is there they may only supersede. -/
structure Beside (s s' : Store) : Prop where
  operationHistory : s'.operationHistory = s.operationHistory
  reservations : s'.reservations = s.reservations
  actuals : s'.actuals = s.actuals
  quotaEntries : s.quotaEntries.rows <+: s'.quotaEntries.rows
  limits : ∀ entry ∈ s'.quotaEntries.rows, 0 ≤ entry.amountLimit
  outboxEvents : s.outboxEvents.rows <+: s'.outboxEvents.rows
  receipts : s.receipts <+: s'.receipts
  continuations : ∀ c ∈ s.continuations.rows, ∃ c' ∈ s'.continuations.rows, SameFence c c' ∧
    (c'.status = c.status ∨ c'.status = .superseded)

instance (s s' : Store) : Decidable (Beside s s') :=
  decidable_of_iff (s'.operationHistory.rows = s.operationHistory.rows ∧
      s'.reservations.rows = s.reservations.rows ∧ s'.actuals.rows = s.actuals.rows ∧
      s.quotaEntries.rows <+: s'.quotaEntries.rows ∧
      (∀ entry ∈ s'.quotaEntries.rows, 0 ≤ entry.amountLimit) ∧
      s.outboxEvents.rows <+: s'.outboxEvents.rows ∧ s.receipts <+: s'.receipts ∧
      ∀ c ∈ s.continuations.rows, ∃ c' ∈ s'.continuations.rows, SameFence c c' ∧
        (c'.status = c.status ∨ c'.status = .superseded))
    ⟨fun ⟨history, reservations, actuals, quota, limits, outbox, receipts, continuations⟩ =>
      ⟨Table.ext_rows history, Table.ext_rows reservations, Table.ext_rows actuals, quota, limits,
        outbox, receipts, continuations⟩,
    fun ⟨history, reservations, actuals, quota, limits, outbox, receipts, continuations⟩ =>
      ⟨congrArg Table.rows history, congrArg Table.rows reservations, congrArg Table.rows actuals,
        quota, limits, outbox, receipts, continuations⟩⟩

/-- A step of a history of the fence. The label is the command, where it is one of the fence. -/
inductive WorkStep : Store → Option WorkCommand → Store → Prop where
  | command {s s' : Store} {c : WorkCommand} (done : c.run K setDigest s = .ok s') :
      WorkStep s (some c) s'
  | beside {s s' : Store} (other : Beside s s') : WorkStep s none s'

abbrev WorkHistory : Store → List (Option WorkCommand) → Store → Prop :=
  Run (WorkStep K setDigest)

end Run

theorem workCommand_writes {K : FenceCrates} {setDigest : ReservationSetDigest} {s s' : Store}
    {command : WorkCommand} (done : command.run K setDigest s = .ok s') : Writes s s' := by
  cases command <;> simp only [WorkCommand.run, map_snd_ok] at done <;> obtain ⟨_, done⟩ := done
  case claim => exact claimContinuation_writes done
  case preDispatch => exact preDispatch_writes done
  case prepareAttempt => exact prepareAttempt_writes done
  case beginAttempt => exact beginAttempt_writes done
  case settle => exact settleContinuation_writes done
  case resolve => exact resolveResources_writes done
  case importEvidence => exact importEvidence_writes done

/-- What every statement of the fence keeps, and every other command, a history keeps. -/
theorem workHistory_keeps {K : FenceCrates} {setDigest : ReservationSetDigest} {P : Store → Prop}
    (each : ∀ s s', Write s s' → P s → P s') (beside : ∀ s s', Beside s s' → P s → P s')
    {labels : List (Option WorkCommand)} {s t : Store}
    (history : WorkHistory K setDigest s labels t) (start : P s) : P t := by
  refine run_invariant (fun u label v held step => ?_) start history
  cases step with
  | command done => exact writes_keep each (workCommand_writes done) held
  | beside other => exact beside _ _ other held

end CarsinOS.Delegation
