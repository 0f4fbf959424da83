import CarsinOS.Delegation.Run

/-! Every command keeps the fence. -/
namespace CarsinOS.Delegation
open CarsinOS.Lib CarsinOS.Integrity CarsinOS.Receipt

variable {guarded : Prop} {swaps : Bool}

theorem requireText_ok {field : String} {value : Text} {u : Unit}
    (done : requireText field value = .ok u) : trimChars value ≠ [] := by
  simpa [requireText] using done

/-! The foundation and the jobs. -/

theorem createFoundation_sound {K : FenceCrates} {outside : FoundationOutside}
    {causation : ContinuationCausationKind} {command : CreateFoundationCommand} {s s' : Store}
    {outcome : FoundationWriteOutcome}
    (done : createFoundation K outside causation command s = .ok (outcome, s'))
    (begun : guarded → ∀ c ∈ command.initialContinuation,
      c.globalStopEpoch ≤ s.globalControl.globalStopEpoch) : Sound guarded swaps s s' := by
  simp only [createFoundation, bind_ok] at done
  obtain ⟨_, checked, done⟩ := done
  simp only [validateFoundationCommandForCausation, bind_ok] at checked
  obtain ⟨_, records, -, -, bindings⟩ := checked
  simp only [validateFoundationRecords, bind_ok] at records
  obtain ⟨-, -, _, name, -⟩ := records
  simp only [validateFoundationBindings, bind_ok, ensure_ok] at bindings
  obtain ⟨-, -, -, -, -, -, _, bound, -⟩ := bindings
  unfold createFoundationInTx at done
  split at done
  · split at done
    · simp only [bind_ok] at done
      obtain ⟨_, -, same⟩ := done
      cases same
      exact (Quiet.refl _).sound
    · cases done
      exact (Quiet.refl _).sound
  · split at done
    · cases done
      exact (Quiet.refl _).sound
    · simp only [bind_ok] at done
      obtain ⟨-, -, s₁, inserted, s₂, planned, s₃, continued, s₄, sent, s₅, recorded, _, -, same⟩ :=
        done
      obtain ⟨-, rfl⟩ := Prod.mk.inj (Except.ok.inj same)
      intro fenced
      obtain ⟨fenced₁, control, rows⟩ :=
        insertDelegation_fenced inserted (requireText_ok name) fenced
      have own : ∀ d ∈ s₁.delegations.rows,
          d.delegationId = command.delegation.delegationId → d = command.delegation := by
        intro d member owner
        have present : command.delegation ∈ s₁.delegations.rows := by simp [rows]
        exact Table.eq_of_key member present owner
      have quiet₂ : Quiet guarded s₁ s₂ := insertPlan_quiet planned
      have quiet₃ : Quiet guarded s₂ s₃ := by
        refine insertOptional_quiet (fun c present opened => ?_) continued
        simp only [Store.insertInitialContinuation, bind_ok] at opened
        obtain ⟨t, branched, opened⟩ := opened
        have branch : Quiet guarded s₂ t := insertBranch_quiet branched
        obtain ⟨owner, target, -⟩ := bound c present
        refine branch.trans (insertContinuation_quiet opened ?_ fun guard => ?_)
        · intro d member same
          rw [branch.delegations, quiet₂.delegations] at member
          rw [own d member (same.trans owner), target]
        · rw [branch.control, quiet₂.control, control]
          exact begun guard c present
      have quiet₄ : Quiet guarded s₃ s₄ := insertOutbox_quiet sent
      have quiet : Quiet guarded s₁ s₄ := (quiet₂.trans quiet₃).trans quiet₄
      have quiet₅ : Quiet guarded s₄ s₅ := by
        refine recordTransition_quiet recorded fun d member owner => ?_
        rw [quiet.delegations] at member
        rw [own d member owner]
      have all := quiet.trans quiet₅
      refine ⟨all.fenced fenced₁, ?_, ?_⟩
      · intro d present
        refine ⟨d, ?_, rfl, le_rfl, countsStops_same rfl rfl⟩
        rw [all.delegations, rows]
        exact List.mem_append_left _ present
      · rw [all.control, control]
        cases s.globalControl.engaged <;> simp

theorem bindContinuationJob_quiet {K : FenceCrates} {scheduledAt : Int} {s s' : Store}
    {c : ContinuationRecord} (done : s.bindContinuationJob K scheduledAt c = .ok s') :
    Quiet guarded s s' := by
  simp only [Store.bindContinuationJob, bind_ok, ensure_ok] at done
  obtain ⟨-, -, -, -, s₁, jobbed, s₂, bound, -, -, linked⟩ := done
  have quiet₁ : Quiet guarded s s₁ := by
    simp only [Store.insertContinuationJob, bind_ok, ensure_ok] at jobbed
    obtain ⟨-, -, -, -, same⟩ := jobbed
    cases same
    split <;> exact .of_eq rfl rfl rfl rfl
  have quiet₂ : Quiet guarded s₁ s₂ := updateContinuations_quiet bound
  refine quiet₁.trans (quiet₂.trans ?_)
  simp only [Store.linkContinuationJob, bind_ok, ensure_ok] at linked
  obtain ⟨-, -, s₃, sent, -, -, same⟩ := linked
  cases same
  unfold Store.insertAuthorityEvent at sent
  split at sent
  · cases sent
    exact .refl _
  · exact insertOutbox_quiet sent

theorem materializeJobs_quiet {K : FenceCrates} {agentAvailable : Bool} {scheduledAt : Int}
    {limit : Nat} {s s' : Store}
    (done : materializeRunnableContinuationJobs K agentAvailable scheduledAt limit s = .ok s') :
    Quiet guarded s s' := by
  simp only [materializeRunnableContinuationJobs, bind_ok, ensure_ok] at done
  obtain ⟨-, -, -, -, -, -, bound⟩ := done
  exact foldlM_quiet (fun _ _ _ _ _ _ step => bindContinuationJob_quiet step) bound

/-! The transitions and the amendments. -/

theorem applyActionBranch_quiet {current : DelegationRecord} {control : RunControlState}
    {epoch : Int} {s s' : Store} {branch : ActionBranchRecord}
    (done : s.applyActionBranch current control epoch branch = .ok s') : Quiet guarded s s' := by
  simp only [Store.applyActionBranch, bind_ok] at done
  obtain ⟨-, -, done⟩ := done
  unfold Store.upsertActionBranch at done
  split at done
  · exact insertBranch_quiet done
  · exact updateBranches_quiet done

theorem applyAttention_quiet {K : FenceCrates} {current : DelegationRecord} {s s' : Store}
    {item : AttentionItemRecord} (done : s.applyAttention K current item = .ok s') :
    Quiet guarded s s' := by
  simp only [Store.applyAttention, bind_ok] at done
  obtain ⟨-, -, -, -, -, -, -, -, -, -, done⟩ := done
  split at done
  · exact insertAttention_quiet done
  · simp only [bind_ok] at done
    obtain ⟨-, -, done⟩ := done
    exact updateAttention_quiet done

theorem applyExternalWait_quiet {K : FenceCrates} {current : DelegationRecord} {s s' : Store}
    {item : ExternalWaitRecord} (done : s.applyExternalWait K current item = .ok s') :
    Quiet guarded s s' := by
  simp only [Store.applyExternalWait, bind_ok] at done
  obtain ⟨-, -, -, -, -, -, -, -, done⟩ := done
  split at done
  · exact insertWait_quiet done
  · simp only [bind_ok] at done
    obtain ⟨-, -, done⟩ := done
    exact updateWaits_quiet done

/-- The stop epoch of a transition counts the stop or the resume the command selects. -/
theorem validateRunControl_ok {s : Store} {current : DelegationRecord}
    {command : LifecycleSnapshotCommand} {epoch : Int}
    (valid : s.validateRunControl current command = .ok epoch) :
    epoch = current.stopEpoch + if current.runControl = .running ∧
        command.selectedRunControl = .stopRequested ∨ current.runControl = .stopped ∧
          command.selectedRunControl = .running then 1 else 0 := by
  simp only [Store.validateRunControl, bind_ok, ensure_ok] at valid
  obtain ⟨-, -, -, -, -, -, -, stopping, -, -, valid⟩ := valid
  split at valid
  · rename_i resumed
    simp only [bind_ok, ensure_ok] at valid
    obtain ⟨-, -, -, -, -, -, same⟩ := valid
    cases same
    simp [resumed]
  · rename_i kept
    simp only [bind_ok, ensure_ok] at valid
    obtain ⟨-, -, same⟩ := valid
    cases same
    split
    · rename_i stops
      simp [stopping stops, stops]
    · rename_i runs
      rw [if_neg]
      · omega
      · rintro (⟨-, stops⟩ | ⟨stopped, resumes⟩)
        · exact runs stops
        · exact kept ⟨resumes, stopped⟩

theorem applyTransition_sound {K : FenceCrates} {current : DelegationRecord}
    {command : LifecycleSnapshotCommand} {s s' : Store} {outcome : LifecycleWriteOutcome}
    (found : s.getDelegation command.delegationId = some current)
    (done : applyTransition K current command s = .ok (outcome, s'))
    (begun : guarded → ∀ c ∈ command.continuation,
      c.globalStopEpoch ≤ s.globalControl.globalStopEpoch) : Sound guarded false s s' := by
  simp only [applyTransition, bind_ok, ensure_ok] at done
  obtain ⟨-, -, epoch, valid, s₁, branched, s₂, attended, s₃, waited, -, -, _, -, phase, -, -, -, _,
    continued, -, -, -, -, s₄, sent, s₅, projected, s₆, assessed, s₇, opened, s₈, recorded, _, -, _,
    -, same⟩ := done
  obtain ⟨-, rfl⟩ := Prod.mk.inj (Except.ok.inj same)
  have quiet₁ : Quiet guarded s s₁ :=
    foldlM_quiet (fun _ _ _ _ _ _ step => applyActionBranch_quiet step) branched
  have quiet₂ : Quiet guarded s₁ s₂ :=
    foldlM_quiet (fun _ _ _ _ _ _ step => applyAttention_quiet step) attended
  have quiet₃ : Quiet guarded s₂ s₃ :=
    foldlM_quiet (fun _ _ _ _ _ _ step => applyExternalWait_quiet step) waited
  have quiet₄ : Quiet guarded s₃ s₄ := insertOutbox_quiet sent
  have before : Quiet guarded s s₄ := ((quiet₁.trans quiet₂).trans quiet₃).trans quiet₄
  have present : current ∈ s₄.delegations.rows := by
    rw [before.delegations]
    exact Table.find?_mem found
  have moves : Sound guarded false s₄ s₅ := by
    refine updateDelegations_sound projected fun d member hit => ?_
    simp only [Bool.and_eq_true, decide_eq_true_eq] at hit
    obtain rfl := Table.eq_of_key member present hit.1
    simp only [CountsStops, Moved, validateRunControl_ok valid, true_and]
  have quiet₆ : Quiet guarded s₅ s₆ :=
    insertOptional_quiet (fun _ _ step => insertAssessment_quiet step) assessed
  -- The delegation now has the revision the continuation and the transition are bound to.
  have live : ∀ d ∈ s₅.delegations.rows, d.delegationId = current.delegationId →
      d.stateRevision = current.stateRevision + 1 := by
    intro d member owner
    rw [updated_live projected present (by simp) member owner]
  have control : s₅.globalControl = s.globalControl := by
    obtain ⟨-, rfl⟩ := updateDelegations_ok projected
    exact before.control
  have quiet₇ : Quiet guarded s₆ s₇ := by
    refine insertOptional_quiet (fun c chosen step => ?_) opened
    have checked := checkOptional_some continued chosen
    simp only [Store.validateSnapshotContinuation, bind_ok, ensure_ok] at checked
    obtain ⟨-, -, _, -, -, bound, -⟩ := checked
    refine insertContinuation_quiet step (fun d member owner => ?_) fun guard => ?_
    · rw [quiet₆.delegations] at member
      rw [live d member (owner.trans bound.1), bound.2.1]
    · rw [quiet₆.control, control]
      exact begun guard c chosen
  have quiet₈ : Quiet guarded s₇ s₈ := by
    refine recordTransition_quiet recorded fun d member owner => ?_
    rw [quiet₇.delegations, quiet₆.delegations] at member
    exact live d member owner
  exact before.then (moves.then ((quiet₆.trans quiet₇).trans quiet₈))

theorem applyLifecycleSnapshot_sound {K : FenceCrates} {trustedHistory : Anyhow Unit}
    {command : LifecycleSnapshotCommand} {s s' : Store} {outcome : LifecycleWriteOutcome}
    (done : applyLifecycleSnapshot K trustedHistory command s = .ok (outcome, s'))
    (begun : guarded → ∀ c ∈ command.continuation,
      c.globalStopEpoch ≤ s.globalControl.globalStopEpoch) : Sound guarded false s s' := by
  simp only [applyLifecycleSnapshot, bind_ok] at done
  obtain ⟨-, -, -, -, _, -, done⟩ := done
  split at done
  · cases done
    exact (Quiet.refl _).sound
  · split at done
    · cases done
      exact (Quiet.refl _).sound
    · rename_i found
      split at done
      · cases done
        exact (Quiet.refl _).sound
      · exact applyTransition_sound found done begun

theorem supersedeOpenWork_quiet {s s' : Store} {id : Text} {occurredAt : Int}
    (done : s.supersedeOpenWork id occurredAt = .ok s') : Quiet guarded s s' := by
  simp only [Store.supersedeOpenWork, bind_ok] at done
  obtain ⟨s₁, continuations, s₂, branches, s₃, attention, waits⟩ := done
  exact (((updateContinuations_quiet continuations).trans (updateBranches_quiet branches)).trans
    (updateAttention_quiet attention)).trans (updateWaits_quiet waits)

theorem applyAmendment_sound {otherRows : Anyhow Unit} {current : DelegationRecord}
    {command : AmendLifecycleCommand} {criterion : OutcomeCriterionRecord} {s s' : Store}
    {outcome : LifecycleWriteOutcome}
    (found : s.getDelegation command.delegationId = some current)
    (done : applyAmendment otherRows current command criterion s = .ok (outcome, s')) :
    Sound guarded false s s' := by
  simp only [applyAmendment, bind_ok] at done
  obtain ⟨-, -, _, -, _, -, -, -, -, -, s₁, planned, -, -, s₂, superseded, s₃, sent, s₄, projected,
    s₅, recorded, _, -, _, -, same⟩ := done
  obtain ⟨-, rfl⟩ := Prod.mk.inj (Except.ok.inj same)
  have quiet₁ : Quiet guarded s s₁ := insertPlan_quiet planned
  have quiet₂ : Quiet guarded s₁ s₂ := supersedeOpenWork_quiet superseded
  have quiet₃ : Quiet guarded s₂ s₃ := insertOutbox_quiet sent
  have before : Quiet guarded s s₃ := (quiet₁.trans quiet₂).trans quiet₃
  have present : current ∈ s₃.delegations.rows := by
    rw [before.delegations]
    exact Table.find?_mem found
  have moves : Sound guarded false s₃ s₄ :=
    updateDelegations_sound projected fun d _ _ => countsStops_same rfl rfl
  have quiet₅ : Quiet guarded s₄ s₅ := by
    refine recordTransition_quiet recorded fun d member owner => ?_
    rw [updated_live projected present (by simp) member owner]
  exact before.then (moves.then quiet₅)

theorem amendLifecycle_sound {K : FenceCrates} {otherRows : Anyhow Unit}
    {command : AmendLifecycleCommand} {s s' : Store} {outcome : LifecycleWriteOutcome}
    (done : amendLifecycle K otherRows command s = .ok (outcome, s')) :
    Sound guarded false s s' := by
  simp only [amendLifecycle, bind_ok] at done
  obtain ⟨-, -, _, -, done⟩ := done
  split at done
  · simp only [bind_ok] at done
    obtain ⟨-, -, same⟩ := done
    cases same
    exact (Quiet.refl _).sound
  · split at done
    · cases done
      exact (Quiet.refl _).sound
    · rename_i found
      split at done
      · cases done
        exact (Quiet.refl _).sound
      · simp only [bind_ok] at done
        obtain ⟨_, -, done⟩ := done
        exact applyAmendment_sound found done

theorem applyFollowUp_sound {K : FenceCrates} {J : Coordinator} {authorised otherRows : Anyhow Unit}
    {command : AmendLifecycleCommand} {receipt : AppendReceiptCommand} {s s' : Store}
    {written : AtomicWrite VerifiedFollowUpAmendmentOutcome}
    (done : applyVerifiedFollowUpAmendment K J authorised otherRows command receipt s =
      .ok (written, s')) : Sound guarded false s s' := by
  unfold applyVerifiedFollowUpAmendment at done
  refine mutate_sound done fun m t ran => ?_
  simp only [bind_ok] at ran
  obtain ⟨_, -, ran⟩ := ran
  split at ran
  · simp only [bind_ok] at ran
    obtain ⟨⟨outcome, t'⟩, amended, ran⟩ := ran
    cases outcome <;> simp only [bind_ok] at ran
    case replayed =>
      obtain ⟨-, -, same⟩ := ran
      cases same
      exact amendLifecycle_sound amended
    all_goals cases ran
  · split at ran
    · cases ran
      exact (Quiet.refl _).sound
    · split at ran
      · cases ran
        exact (Quiet.refl _).sound
      · simp only [bind_ok] at ran
        obtain ⟨-, -, ⟨outcome, t'⟩, amended, ran⟩ := ran
        cases outcome <;> cases ran <;> exact amendLifecycle_sound amended

/-! Run control. -/

theorem moveRunControl_sound {outside : RunControlOutside} {current : DelegationRecord}
    {selected : RunControlState} {stopEpoch trustedNow : Int} {reason : Text}
    {event : NewOutboxEvent} {s s' : Store} (found : current ∈ s.delegations.rows)
    (done : s.moveRunControl outside current selected stopEpoch reason event trustedNow = .ok s')
    (counts : ∀ d' : DelegationRecord, d'.runControl = selected → d'.stopEpoch = stopEpoch →
      CountsStops false current d') : Sound guarded false s s' := by
  simp only [Store.moveRunControl, bind_ok] at done
  obtain ⟨revision, -, s₁, moved, -, -, s₂, sent, recorded⟩ := done
  have moves : Sound guarded false s s₁ := by
    refine updateDelegations_sound moved fun d member hit => ?_
    simp only [Bool.and_eq_true, decide_eq_true_eq] at hit
    obtain rfl := Table.eq_of_key member found hit.1.1.1
    exact counts _ rfl rfl
  have quiet : Quiet guarded s₁ s₂ := insertOutbox_quiet sent
  refine moves.then (quiet.trans (recordTransition_quiet recorded fun d member owner => ?_))
  rw [quiet.delegations] at member
  rw [updated_live moved found (by simp) member owner]

theorem stopMutation_sound {outside : RunControlOutside} {command : RequestDelegationStopCommand}
    {s s' : Store} {m : AtomicReceiptMutation MutationKind}
    (done : stopMutation outside command s = .ok (m, s')) : Sound guarded false s s' := by
  simp only [stopMutation, bind_ok] at done
  obtain ⟨-, -, done⟩ := done
  split at done
  · simp only [bind_ok] at done
    obtain ⟨-, -, same⟩ := done
    cases same
    exact (Quiet.refl _).sound
  · simp only [bind_ok, required_ok] at done
    obtain ⟨-, -, current, found, done⟩ := done
    split at done
    · cases done
      exact (Quiet.refl _).sound
    · split at done
      · cases done
        exact (Quiet.refl _).sound
      · rename_i running
        simp only [bind_ok] at done
        obtain ⟨-, -, -, -, epoch, next, t, moved, same⟩ := done
        obtain ⟨-, rfl⟩ := Prod.mk.inj (Except.ok.inj same)
        refine moveRunControl_sound (Table.find?_mem found) moved fun d' control counted => ?_
        rw [not_not] at running
        simp [CountsStops, Moved, running, control, counted, checkedNext_ok next]

theorem drainMutation_sound {outside : RunControlOutside}
    {command : CompleteDelegationStopDrainCommand} {s s' : Store}
    {m : AtomicReceiptMutation MutationKind}
    (done : drainMutation outside command s = .ok (m, s')) : Sound guarded false s s' := by
  unfold drainMutation at done
  split at done
  · simp only [bind_ok] at done
    obtain ⟨-, -, same⟩ := done
    cases same
    exact (Quiet.refl _).sound
  · simp only [bind_ok, required_ok] at done
    obtain ⟨current, found, done⟩ := done
    split at done
    · cases done
      exact (Quiet.refl _).sound
    · split at done
      · cases done
        exact (Quiet.refl _).sound
      · simp only [bind_ok, ensure_ok] at done
        obtain ⟨-, stopping, -, -, -, -, t, moved, same⟩ := done
        obtain ⟨-, rfl⟩ := Prod.mk.inj (Except.ok.inj same)
        refine moveRunControl_sound (Table.find?_mem found) moved fun d' control counted => ?_
        simp [CountsStops, Moved, stopping, counted]

theorem resumeMutation_sound {outside : RunControlOutside} {command : RequestDelegationStopCommand}
    {s s' : Store} {m : AtomicReceiptMutation MutationKind}
    (done : resumeMutation outside command s = .ok (m, s')) : Sound guarded false s s' := by
  simp only [resumeMutation, bind_ok] at done
  obtain ⟨-, -, done⟩ := done
  split at done
  · simp only [bind_ok] at done
    obtain ⟨-, -, same⟩ := done
    cases same
    exact (Quiet.refl _).sound
  · simp only [bind_ok, required_ok] at done
    obtain ⟨current, found, done⟩ := done
    split at done
    · cases done
      exact (Quiet.refl _).sound
    · rename_i bound
      simp only [bind_ok] at done
      obtain ⟨-, -, epoch, next, t, moved, same⟩ := done
      obtain ⟨-, rfl⟩ := Prod.mk.inj (Except.ok.inj same)
      refine moveRunControl_sound (Table.find?_mem found) moved fun d' control counted => ?_
      simp only [not_or, not_not, ne_eq] at bound
      simp [CountsStops, Moved, bound.1, control, counted, checkedNext_ok next]

theorem requestDelegationStop_sound {K : FenceCrates} {J : Coordinator}
    {outside : RunControlOutside} {command : RequestDelegationStopCommand} {s s' : Store}
    {outcome : DelegationRunControlMutationOutcome}
    (done : requestDelegationStop K J outside command s = .ok (outcome, s')) :
    Sound guarded false s s' := by
  simp only [requestDelegationStop, bind_ok] at done
  obtain ⟨-, -, done⟩ := done
  split at done
  · cases done
    exact (Quiet.refl _).sound
  · simp only [bind_ok] at done
    obtain ⟨⟨written, t⟩, ran, same⟩ := done
    cases same
    exact mutate_sound ran fun _ _ step => stopMutation_sound step

theorem completeDelegationStopDrain_sound {K : FenceCrates} {J : Coordinator}
    {outside : RunControlOutside} {command : CompleteDelegationStopDrainCommand} {s s' : Store}
    {outcome : DelegationRunControlMutationOutcome}
    (done : completeDelegationStopDrain K J outside command s = .ok (outcome, s')) :
    Sound guarded false s s' := by
  simp only [completeDelegationStopDrain, bind_ok] at done
  obtain ⟨-, -, done⟩ := done
  split at done
  · cases done
    exact (Quiet.refl _).sound
  · simp only [bind_ok] at done
    obtain ⟨⟨written, t⟩, ran, same⟩ := done
    cases same
    exact mutate_sound ran fun _ _ step => drainMutation_sound step

theorem resumeDelegation_sound {K : FenceCrates} {J : Coordinator}
    {outside : RunControlOutside} {command : RequestDelegationStopCommand} {s s' : Store}
    {outcome : DelegationRunControlMutationOutcome}
    (done : resumeDelegation K J outside command s = .ok (outcome, s')) :
    Sound guarded false s s' := by
  simp only [resumeDelegation, bind_ok] at done
  obtain ⟨-, -, done⟩ := done
  split at done
  · cases done
    exact (Quiet.refl _).sound
  · simp only [bind_ok] at done
    obtain ⟨⟨written, t⟩, ran, same⟩ := done
    cases same
    exact mutate_sound ran fun _ _ step => resumeMutation_sound step

/-! The global stop. -/

/-- The epoch of the global control only grows. -/
theorem control_fenced {s : Store} {control : GlobalRuntimeControl}
    (grows : s.globalControl.globalStopEpoch ≤ control.globalStopEpoch)
    (fenced : Fenced guarded s) : Fenced guarded { s with globalControl := control } := by
  refine { fenced with epochs := fun guard => ⟨?_, ?_⟩ }
  · intro c member
    exact ((fenced.epochs guard).1 c member).trans grows
  · intro t member c copy
    exact ((fenced.epochs guard).2 t member c copy).trans grows

theorem engageMutation_sound {outside : RunControlOutside} {command : EngageGlobalStopCommand}
    {s s' : Store} {m : AtomicReceiptMutation GlobalStopMutationOutcome}
    (done : engageMutation outside command s = .ok (m, s')) : Sound guarded false s s' := by
  unfold engageMutation at done
  split at done
  · cases done
    exact (Quiet.refl _).sound
  split at done
  · cases done
    exact (Quiet.refl _).sound
  split at done
  · cases done
    exact (Quiet.refl _).sound
  rename_i running _
  simp only [bind_ok] at done
  obtain ⟨-, -, epoch, next, -, -, -, -, t, sent, same⟩ := done
  obtain ⟨-, rfl⟩ := Prod.mk.inj (Except.ok.inj same)
  refine Sound.then (fun fenced => ⟨control_fenced ?_ fenced, ?_, ?_⟩) (insertOutbox_quiet sent)
  · simp [checkedNext_ok next]
  · exact fun d member => ⟨d, member, rfl, le_rfl, countsStops_same rfl rfl⟩
  · simp [checkedNext_ok next, Bool.eq_false_iff.mpr running]

theorem resumeGlobalMutation_sound {outside : RunControlOutside} {command : ResumeGlobalStopCommand}
    {s s' : Store} {m : AtomicReceiptMutation GlobalStopMutationOutcome}
    (done : resumeGlobalMutation outside command s = .ok (m, s')) : Sound guarded false s s' := by
  simp only [resumeGlobalMutation, bind_ok] at done
  obtain ⟨-, -, done⟩ := done
  split at done
  · simp only [bind_ok] at done
    obtain ⟨-, -, same⟩ := done
    cases same
    exact (Quiet.refl _).sound
  split at done
  · cases done
    exact (Quiet.refl _).sound
  simp only [bind_ok] at done
  obtain ⟨-, -, -, -, -, -, t, sent, same⟩ := done
  obtain ⟨-, rfl⟩ := Prod.mk.inj (Except.ok.inj same)
  refine Sound.then (fun fenced => ⟨control_fenced ?_ fenced, ?_, ?_⟩) (insertOutbox_quiet sent)
  · exact le_rfl
  · exact fun d member => ⟨d, member, rfl, le_rfl, countsStops_same rfl rfl⟩
  · simp

theorem engageGlobalStop_sound {K : FenceCrates} {J : Coordinator} {outside : RunControlOutside}
    {command : EngageGlobalStopCommand} {s s' : Store} {outcome : GlobalStopMutationOutcome}
    (done : engageGlobalStop K J outside command s = .ok (outcome, s')) :
    Sound guarded false s s' := by
  simp only [engageGlobalStop, bind_ok] at done
  obtain ⟨-, -, -, -, ⟨written, t⟩, ran, _, -, same⟩ := done
  obtain ⟨-, rfl⟩ := Prod.mk.inj (Except.ok.inj same)
  exact mutate_sound ran fun _ _ step => engageMutation_sound step

theorem resumeGlobalStop_sound {K : FenceCrates} {J : Coordinator} {outside : RunControlOutside}
    {command : ResumeGlobalStopCommand} {s s' : Store} {outcome : GlobalStopMutationOutcome}
    (done : resumeGlobalStop K J outside command s = .ok (outcome, s')) :
    Sound guarded false s s' := by
  simp only [resumeGlobalStop, bind_ok] at done
  obtain ⟨-, -, -, -, -, -, ⟨written, t⟩, ran, _, -, same⟩ := done
  obtain ⟨-, rfl⟩ := Prod.mk.inj (Except.ok.inj same)
  exact mutate_sound ran fun _ _ step => resumeGlobalMutation_sound step

/-! The commands that only advance a revision. -/

theorem compareAndSwap_sound {K : FenceCrates} {command : CasDelegationStateCommand}
    {s s' : Store} {outcome : CasDelegationStateOutcome}
    (done : compareAndSwapDelegationState K command s = .ok (outcome, s')) :
    Sound guarded true s s' := by
  simp only [compareAndSwapDelegationState, bind_ok] at done
  obtain ⟨-, -, -, -, -, -, -, -, -, -, -, -, -, -, done⟩ := done
  split at done
  · cases done
    exact (Quiet.refl _).sound
  · split at done
    · cases done
      exact (Quiet.refl _).sound
    · simp only [bind_ok] at done
      obtain ⟨s₁, swapped, s₂, sent, _, -, same⟩ := done
      obtain ⟨-, rfl⟩ := Prod.mk.inj (Except.ok.inj same)
      refine Sound.then (updateDelegations_sound swapped fun d _ _ => ?_) (insertOutbox_quiet sent)
      simp [CountsStops]

theorem advance_sound {a : Advance} {s s' : Store} (done : s.advance a = .ok s') :
    Sound guarded false s s' := by
  simp only [Store.advance, bind_ok] at done
  obtain ⟨s₁, advanced, sent⟩ := done
  exact Sound.then (updateDelegations_sound (advanceDelegation_ok advanced).1
    fun d _ _ => countsStops_same rfl rfl) (insertOutbox_quiet sent)

theorem appendAuthorityLineage_sound {links : Anyhow Bool} {a : Advance} {s s' : Store} {b : Bool}
    (done : appendAuthorityLineage links a s = .ok (b, s')) : Sound guarded false s s' := by
  simp only [appendAuthorityLineage, bind_ok] at done
  obtain ⟨_, -, done⟩ := done
  split at done
  · simp only [bind_ok] at done
    obtain ⟨t, advanced, same⟩ := done
    cases same
    exact advance_sound advanced
  · cases done
    exact (Quiet.refl _).sound

theorem verifyCriterion_sound {J : Coordinator} {evaluated : Anyhow Bool}
    {receipt : AppendReceiptCommand} {a : Advance} {s s' : Store} {written : AtomicWrite Unit}
    (done : verifyCriterion J evaluated receipt a s = .ok (written, s')) :
    Sound guarded false s s' := by
  unfold verifyCriterion at done
  refine mutate_sound done fun m t ran => ?_
  simp only [bind_ok] at ran
  obtain ⟨_, -, ran⟩ := ran
  split at ran
  · simp only [bind_ok] at ran
    obtain ⟨u, advanced, same⟩ := ran
    cases same
    exact advance_sound advanced
  · cases ran
    exact (Quiet.refl _).sound

theorem assessCompletion_sound {J : Coordinator}
    {compiled : Anyhow (Option CompletionAssessmentRecord)} {receipt : AppendReceiptCommand}
    {transitionId : Text} {a : Advance} {s s' : Store} {written : AtomicWrite Unit}
    (done : assessCompletion J compiled receipt transitionId a s = .ok (written, s')) :
    Sound guarded false s s' := by
  unfold assessCompletion at done
  refine mutate_sound done fun m t ran => ?_
  simp only [bind_ok] at ran
  obtain ⟨_, -, ran⟩ := ran
  split at ran
  · cases ran
    exact (Quiet.refl _).sound
  · simp only [bind_ok, required_ok] at ran
    obtain ⟨current, found, -, -, s₁, sent, s₂, advanced, s₃, assessed, s₄, recorded, same⟩ := ran
    obtain ⟨-, rfl⟩ := Prod.mk.inj (Except.ok.inj same)
    obtain ⟨moved, d, present, hit⟩ := advanceDelegation_ok advanced
    have quiet₁ : Quiet guarded s s₁ := insertOutbox_quiet sent
    have moves : Sound guarded false s₁ s₂ :=
      updateDelegations_sound moved fun d _ _ => countsStops_same rfl rfl
    have quiet₃ : Quiet guarded s₂ s₃ := insertAssessment_quiet assessed
    refine quiet₁.then (moves.then (quiet₃.trans
      (recordTransition_quiet recorded fun d' member owner => ?_)))
    rw [quiet₃.delegations] at member
    have key : current.delegationId = a.delegationId := Table.find?_key found
    have named := hit
    simp only [Bool.and_eq_true, decide_eq_true_eq] at named
    rw [updated_live moved present hit member (by rw [owner, key, named.1.1])]

theorem resolveDecision_sound {J : Coordinator} {outside : DecisionOutside}
    {command : AtomicDecisionResolutionCommand} {s s' : Store} {written : AtomicWrite Bool}
    (done : resolveDecision J outside command s = .ok (written, s'))
    (begun : guarded → ∀ c ∈ command.continuation,
      c.globalStopEpoch ≤ s.globalControl.globalStopEpoch) : Sound guarded false s s' := by
  unfold resolveDecision at done
  rcases mutate_cases done with ⟨-, rfl⟩ | ⟨value, ran, -⟩ | ⟨value, next, d, ran, -, rfl, found,
    revision⟩
  · exact (Quiet.refl _).sound
  · split at ran
    · cases ran
      exact (Quiet.refl _).sound
    · simp only [bind_ok] at ran
      obtain ⟨-, -, -, -, -, -, _, -, _, -, _, -, same⟩ := ran
      cases same
  · split at ran
    · cases ran
    · rename_i decision _
      simp only [bind_ok, ensure_ok] at ran
      obtain ⟨-, target, -, -, _, checked, s₁, opened, s₂, planned, s₃, sent, same⟩ := ran
      obtain ⟨-, rfl⟩ := Prod.mk.inj (Except.ok.inj same)
      obtain ⟨-, -, owner, expected⟩ := target
      have quiet₁ : Quiet guarded s s₁ := by
        refine insertOptional_quiet (fun c chosen step => ?_) opened
        have valid := checkOptional_some checked chosen
        simp only [validateDecisionContinuation, bind_ok, ensure_ok] at valid
        obtain ⟨-, -, -, -, bound⟩ := valid
        simp only [bind_ok] at step
        obtain ⟨t, inserted, promoted⟩ := step
        have live : ∀ d' ∈ s.delegations.rows, d'.delegationId = c.delegationId →
            c.targetDelegationRevision ≤ d'.stateRevision := by
          intro d' member same
          have key : d.delegationId = command.receipt.delegationId := Table.find?_key found
          rw [getDelegation_unique found member (by rw [same, bound.1, key, owner]), revision,
            bound.2.1, expected]
        refine (insertContinuation_quiet inserted live fun guard => begun guard c chosen).trans ?_
        simp only [Store.promoteDecisionAction, bind_ok] at promoted
        obtain ⟨t', updated, -, -, same⟩ := promoted
        cases same
        exact updateBranches_quiet updated
      have quiet₂ : Quiet guarded s₁ s₂ := by
        refine insertOptional_quiet (fun effect _ step => ?_) planned
        unfold Store.insertPlannedLogicalEffect at step
        split at step <;> cases step
        exact .of_eq rfl rfl rfl rfl
      have quiet₃ : Quiet guarded s₂ s₃ := insertOutbox_quiet sent
      exact (((quiet₁.trans quiet₂).trans quiet₃).trans (receipts_quiet _ _)).sound

/-! The claim fence. -/

theorem updateActionStatus_quiet {s s' : Store} {action : ActionBranchRecord}
    {status : ContinuationStatus} {occurredAt : Int}
    (done : s.updateActionStatus action status occurredAt = .ok s') : Quiet guarded s s' := by
  simp only [Store.updateActionStatus, bind_ok] at done
  obtain ⟨t, updated, -, -, same⟩ := done
  cases same
  exact updateBranches_quiet updated

theorem supersedeContinuation_quiet {s s' : Store} {continuation : ContinuationRecord}
    {action : ActionBranchRecord} {occurredAt : Int} {workerId : Text} {jobLeaseExpiresAt : Int}
    (done : s.supersedeContinuationAndAction continuation action occurredAt workerId
      jobLeaseExpiresAt = .ok s') : Quiet guarded s s' := by
  simp only [Store.supersedeContinuationAndAction, bind_ok] at done
  obtain ⟨s₁, superseded, s₂, updated, closed⟩ := done
  refine (updateContinuations_quiet superseded).trans ((updateActionStatus_quiet updated).trans ?_)
  simp only [Store.closeJob, bind_ok] at closed
  obtain ⟨-, -, same⟩ := closed
  cases same
  exact .of_eq rfl rfl rfl rfl

theorem writeClaim_quiet {command : ContinuationClaimCommand} {continuation : ContinuationRecord}
    {action : ActionBranchRecord} {identity : ContinuationClaimIdentity}
    {bundle : ResourceBundleDraft} {s s' : Store} {draft : ClaimDraft}
    (done : writeClaim command continuation action identity bundle s = .ok (draft, s')) :
    Quiet guarded s s' := by
  simp only [writeClaim, bind_ok] at done
  obtain ⟨s₁, recorded, s₂, reserved, s₃, claimed, s₄, updated, -, -, s₅, moved, _, -, _, -, same⟩ :=
    done
  obtain ⟨-, rfl⟩ := Prod.mk.inj (Except.ok.inj same)
  have quiet₁ : Quiet guarded s s₁ := by
    obtain ⟨_, -, -, rfl⟩ := insertOperationHistory_ok recorded
    exact .of_eq rfl rfl rfl rfl
  have quiet₂ : Quiet guarded s₁ s₂ := by
    refine foldlM_quiet (fun t t' row _ _ _ step => ?_) reserved
    obtain ⟨_, rfl⟩ := insertReservation_ok step
    exact .of_eq rfl rfl rfl rfl
  have quiet₃ : Quiet guarded s₂ s₃ := by
    unfold Store.claimLogicalEffect at claimed
    split at claimed
    · cases claimed
      exact .refl _
    · simp only [bind_ok] at claimed
      obtain ⟨-, -, same⟩ := claimed
      cases same
      exact .of_eq rfl rfl rfl rfl
  exact (((quiet₁.trans quiet₂).trans quiet₃).trans (updateContinuations_quiet updated)).trans
    (updateActionStatus_quiet moved)

theorem claimRunnable_quiet {K : FenceCrates} {outside : ClaimOutside}
    {command : ContinuationClaimCommand} {continuation : ContinuationRecord} {s s' : Store}
    {m : AtomicReceiptMutation ClaimMutationOutcome}
    (done : claimRunnable K outside command continuation s = .ok (m, s')) :
    Quiet guarded s s' := by
  unfold claimRunnable at done
  split at done
  · cases done
    exact .refl _
  split at done
  · cases done
    exact .refl _
  simp only [bind_ok] at done
  obtain ⟨-, -, d, -, -, -, -, -, done⟩ := done
  split at done
  · simp only [bind_ok] at done
    obtain ⟨-, -, s₁, sent, s₂, superseded, same⟩ := done
    cases same
    exact (insertOutbox_quiet sent).trans (supersedeContinuation_quiet superseded)
  · simp only [bind_ok] at done
    obtain ⟨-, -, _, -, done⟩ := done
    split at done
    · cases done
      exact .refl _
    · simp only [bind_ok] at done
      obtain ⟨s₁, sent, identity, -, ⟨draft, t⟩, written, same⟩ := done
      cases same
      exact (insertOutbox_quiet sent).trans (writeClaim_quiet written)

theorem claimMutation_quiet {K : FenceCrates} {outside : ClaimOutside}
    {command : ContinuationClaimCommand} {s s' : Store}
    {m : AtomicReceiptMutation ClaimMutationOutcome}
    (done : claimMutation K outside command s = .ok (m, s')) : Quiet guarded s s' := by
  unfold claimMutation at done
  split at done
  · split at done <;> cases done <;> exact .refl _
  split at done
  · cases done
    exact .refl _
  split at done
  · cases done
    exact .refl _
  split at done
  · cases done
    exact .refl _
  split at done
  · cases done
    exact .refl _
  split at done
  · cases done
    exact .refl _
  · exact claimRunnable_quiet done

theorem claimContinuation_sound {K : FenceCrates} {J : Coordinator} {outside : ClaimOutside}
    {command : ContinuationClaimCommand} {s s' : Store} {outcome : ContinuationClaimOutcome}
    (done : claimContinuation K J outside command s = .ok (outcome, s')) :
    Sound guarded false s s' := by
  simp only [claimContinuation, bind_ok] at done
  obtain ⟨-, -, ⟨written, t⟩, ran, _, -, same⟩ := done
  obtain ⟨-, rfl⟩ := Prod.mk.inj (Except.ok.inj same)
  exact mutate_sound ran fun _ _ step => (claimMutation_quiet step).sound

theorem preDispatch_quiet {K : FenceCrates} {setDigest : ReservationSetDigest}
    {command : ContinuationDispatchValidationCommand} {s s' : Store}
    {outcome : ContinuationDispatchValidationOutcome}
    (done : validateContinuationPreDispatch K setDigest command s = .ok (outcome, s')) :
    Quiet guarded s s' := by
  simp only [validateContinuationPreDispatch, bind_ok] at done
  obtain ⟨-, -, -, -, done⟩ := done
  split at done
  · cases done
    exact .refl _
  split at done
  · cases done
    exact .refl _
  simp only [bind_ok] at done
  obtain ⟨⟨marked, t⟩, marks, same⟩ := done
  obtain ⟨-, rfl⟩ := Prod.mk.inj (Except.ok.inj same)
  simp only [Store.markClaimEffectInvoking, bind_ok] at marks
  obtain ⟨_, -, marks⟩ := marks
  split at marks
  · cases marks
    exact .refl _
  · simp only [bind_ok] at marks
    obtain ⟨state, -, marks⟩ := marks
    split at marks
    · cases marks
      exact .refl _
    · simp only [bind_ok] at marks
      obtain ⟨-, -, same⟩ := marks
      cases same
      exact .of_eq rfl rfl rfl rfl

theorem createAttempt_quiet {K : FenceCrates} {command : PrepareProviderAttemptCommand}
    {effect : EffectRow} {attemptNumber : Int} {s s' : Store}
    {outcome : PrepareProviderAttemptOutcome}
    (done : createAttempt K command effect attemptNumber s = .ok (outcome, s')) :
    Quiet guarded s s' := by
  unfold createAttempt at done
  split at done
  · cases done
    exact .refl _
  split at done
  · cases done
    exact .refl _
  simp only [bind_ok] at done
  obtain ⟨t, inserted, attempt, -, same⟩ := done
  cases same
  obtain ⟨_, -, -, -, rfl⟩ := insertAttempt_ok inserted
  exact .of_eq rfl rfl rfl rfl

theorem prepareProviderAttempt_quiet {K : FenceCrates} {setDigest : ReservationSetDigest}
    {command : PrepareProviderAttemptCommand} {s s' : Store}
    {outcome : PrepareProviderAttemptOutcome}
    (done : prepareProviderAttempt K setDigest command s = .ok (outcome, s')) :
    Quiet guarded s s' := by
  simp only [prepareProviderAttempt, bind_ok] at done
  obtain ⟨-, -, done⟩ := done
  split at done
  · cases done
    exact .refl _
  split at done
  · cases done
    exact .refl _
  split at done
  · unfold prepareAgainstExisting at done
    simp only at done
    split at done
    · cases done
      exact .refl _
    split at done
    · split at done
      · cases done
        exact .refl _
      · exact createAttempt_quiet done
    all_goals
      cases done
      exact .refl _
  · exact createAttempt_quiet done

theorem beginProviderAttempt_quiet {K : FenceCrates} {setDigest : ReservationSetDigest}
    {command : BeginProviderAttemptInvocationCommand} {s s' : Store}
    {outcome : BeginProviderAttemptInvocationOutcome}
    (done : beginProviderAttemptInvocation K setDigest command s = .ok (outcome, s')) :
    Quiet guarded s s' := by
  simp only [beginProviderAttemptInvocation, bind_ok] at done
  obtain ⟨-, -, -, -, done⟩ := done
  split at done
  · cases done
    exact .refl _
  split at done
  · cases done
    exact .refl _
  split at done
  · cases done
    exact .refl _
  split at done
  · cases done
    exact .refl _
  split at done
  · cases done
    exact .refl _
  split at done
  · cases done
    exact .refl _
  split at done
  · cases done
    exact .refl _
  · simp only [bind_ok] at done
    obtain ⟨-, -, attempt, -, same⟩ := done
    cases same
    exact .of_eq rfl rfl rfl rfl

/-! The recovery. -/

theorem evaluateProviderRecovery_quiet {K : FenceCrates} {planned : Anyhow RecoveryFacts}
    {payload : Text} {command : ProviderRecoveryCommand} {postRevision : Int} {s s' : Store}
    {evaluation : ObjectiveRecoveryEvaluation}
    (done : evaluateProviderRecovery K planned payload command postRevision s =
      .ok (evaluation, s')) : Quiet guarded s s' := by
  simp only [evaluateProviderRecovery, bind_ok] at done
  obtain ⟨_, -, _, -, -, -, -, -, _, -, done⟩ := done
  split at done
  · cases done
    exact .refl _
  · simp only [bind_ok] at done
    obtain ⟨s₁, sent, s₂, inserted, same⟩ := done
    cases same
    refine (insertOutbox_quiet sent).trans ?_
    simp only [Store.insertRecoveryEvaluation, bind_ok] at inserted
    obtain ⟨-, -, inserted⟩ := inserted
    split at inserted <;> cases inserted
    exact .of_eq rfl rfl rfl rfl

theorem projectDirective_quiet {K : FenceCrates} {d : DelegationRecord} {plan : Int}
    {actionId : Text} {facts : RecoveryFacts} {evaluation : ObjectiveRecoveryEvaluation}
    {command : ProviderRecoveryCommand} {firstAttemptAt postRevision : Int} {s s' : Store}
    {shown : Option Text × Option Text}
    (done : s.projectDirective K d plan actionId facts evaluation command firstAttemptAt
      postRevision = .ok (shown, s')) : Quiet guarded s s' := by
  unfold Store.projectDirective at done
  split at done
  case h_1 | h_2 =>
    simp only [bind_ok, Store.openRecoveryBranch, Store.supersedeRecoveryBranches] at done
    obtain ⟨s₁, ⟨s₂, superseded, inserted⟩, same⟩ := done
    cases same
    exact (updateBranches_quiet superseded).trans (insertBranch_quiet inserted)
  case h_3 =>
    simp only [bind_ok, Store.promoteReplanCandidate, Store.supersedeRecoveryBranches] at done
    obtain ⟨s₁, ⟨s₂, superseded, candidate, -, promoted⟩, same⟩ := done
    cases same
    exact (updateBranches_quiet superseded).trans (updateBranches_quiet promoted)
  case h_4 =>
    simp only [bind_ok] at done
    obtain ⟨s₁, inserted, same⟩ := done
    cases same
    exact insertWait_quiet inserted
  case h_5 =>
    simp only [bind_ok] at done
    obtain ⟨s₁, inserted, same⟩ := done
    cases same
    unfold Store.insertRecoveryAttention at inserted
    dsimp only at inserted
    split at inserted
    · exact insertAttention_quiet inserted
    · simp only [bind_ok] at inserted
      obtain ⟨-, -, same⟩ := inserted
      cases same
      exact .refl _
  case h_6 | h_7 =>
    simp only [bind_ok] at done
    obtain ⟨_, -, s₁, inserted, same⟩ := done
    cases same
    exact insertAssessment_quiet inserted

theorem projectRecoveryLifecycle_sound {K : FenceCrates} {facts : RecoveryFacts}
    {command : ProviderRecoveryCommand} {evaluation : ObjectiveRecoveryEvaluation}
    {postRevision : Int} {s s' : Store} {phase : DelegationPhase}
    (done : projectRecoveryLifecycle K facts command evaluation postRevision s =
      .ok (phase, s')) : Sound guarded false s s' := by
  simp only [projectRecoveryLifecycle, bind_ok, required_ok] at done
  obtain ⟨effect, -, d, found, c, -, first, -, plan, -, -, -, s₁, left, ⟨shown, s₂⟩, projected, s₃,
    advanced, s₄, recorded, same⟩ := done
  obtain ⟨-, rfl⟩ := Prod.mk.inj (Except.ok.inj same)
  have quiet₁ : Quiet guarded s s₁ := by
    simp only [Store.leaveRecoverySource, bind_ok] at left
    obtain ⟨t, updated, -, -, same⟩ := left
    cases same
    exact updateBranches_quiet updated
  have quiet₂ : Quiet guarded s₁ s₂ := projectDirective_quiet projected
  obtain ⟨moved, d', present, hit⟩ := advanceDelegation_ok advanced
  have moves : Sound guarded false s₂ s₃ :=
    updateDelegations_sound moved fun d _ _ => countsStops_same rfl rfl
  refine (quiet₁.trans quiet₂).then (moves.then (recordTransition_quiet recorded
    fun d'' member owner => ?_))
  have named := hit
  simp only [Bool.and_eq_true, decide_eq_true_eq] at named
  rw [updated_live moved present hit member (by rw [owner, named.1.1])]

theorem applyProviderRecovery_sound {K : FenceCrates} {J : Coordinator}
    {planned : Anyhow RecoveryFacts} {payload : Text} {command : ProviderRecoveryCommand}
    {s s' : Store} {outcome : ProviderRecoveryOutcome}
    (done : applyProviderRecovery K J planned payload command s = .ok (outcome, s')) :
    Sound guarded false s s' := by
  simp only [applyProviderRecovery, bind_ok] at done
  obtain ⟨-, -, ⟨written, t⟩, ran, _, -, same⟩ := done
  obtain ⟨-, rfl⟩ := Prod.mk.inj (Except.ok.inj same)
  refine mutate_sound ran fun m u step => ?_
  unfold recoveryMutation at step
  split at step
  · cases step
    exact (Quiet.refl _).sound
  · simp only [bind_ok] at step
    obtain ⟨⟨evaluation, s₁⟩, evaluated, facts, -, ⟨phase, s₂⟩, projected, -, -, same⟩ := step
    cases same
    exact (evaluateProviderRecovery_quiet evaluated).then (projectRecoveryLifecycle_sound projected)

/-! The rebuild. -/

theorem restoreBranch_quiet {id : Text} {s s' : Store} {row : ActionBranchRecord}
    (done : s.restoreBranch id row = .ok s') : Quiet guarded s s' := by
  unfold Store.restoreBranch at done
  split at done
  · exact insertBranch_quiet done
  · exact updateBranches_quiet done

theorem restoreAttention_quiet {id : Text} {s s' : Store} {row : AttentionItemRecord}
    (done : s.restoreAttention id row = .ok s') : Quiet guarded s s' := by
  unfold Store.restoreAttention at done
  split at done
  · exact insertAttention_quiet done
  · exact updateAttention_quiet done

theorem restoreWait_quiet {id : Text} {s s' : Store} {row : ExternalWaitRecord}
    (done : s.restoreWait id row = .ok s') : Quiet guarded s s' := by
  unfold Store.restoreWait at done
  split at done
  · exact insertWait_quiet done
  · exact updateWaits_quiet done

theorem deleteWaits_quiet (s : Store) (p : ExternalWaitRecord → Bool) :
    Quiet guarded s (s.deleteWaits p) := .of_eq rfl rfl rfl rfl

/-- The continuations a snapshot brings back were frozen for revisions the delegation reached. -/
theorem restoreLifecycle_quiet {id : Text} {snapshot : ProjectionSnapshot} {s s' : Store}
    (done : s.restoreLifecycleSubprojections id snapshot = .ok s')
    (reached : ∀ c ∈ snapshot.continuations, ∀ d ∈ s.delegations.rows, d.delegationId = id →
      c.targetDelegationRevision ≤ d.stateRevision)
    (begun : guarded → ∀ c ∈ snapshot.continuations,
      c.globalStopEpoch ≤ s.globalControl.globalStopEpoch) : Quiet guarded s s' := by
  simp only [Store.restoreLifecycleSubprojections, bind_ok] at done
  obtain ⟨s₁, attention, s₂, continuations, s₃, branches, s₄, branched, s₅, continued, s₆, attended,
    waited⟩ := done
  have quiet₁ : Quiet guarded s s₁ := deleteAttention_quiet attention
  have quiet₂ : Quiet guarded s₁ s₂ :=
    (deleteWaits_quiet _ _).trans (deleteContinuations_quiet continuations)
  have quiet₃ : Quiet guarded s₂ s₃ := deleteBranches_quiet branches
  have quiet₄ : Quiet guarded s₃ s₄ :=
    foldlM_quiet (fun _ _ _ _ _ _ step => restoreBranch_quiet step) branched
  have before := ((quiet₁.trans quiet₂).trans quiet₃).trans quiet₄
  have quiet₅ : Quiet guarded s₄ s₅ := by
    refine foldlM_quiet (fun t t' c member same control step => ?_) continued
    unfold Store.restoreContinuation at step
    split at step
    · refine insertContinuation_quiet step (fun d present owner => ?_) fun guard => ?_
      · rw [same, before.delegations] at present
        exact reached c member d present owner
      · rw [control, before.control]
        exact begun guard c member
    · exact updateContinuations_quiet step
  have quiet₆ : Quiet guarded s₅ s₆ :=
    foldlM_quiet (fun _ _ _ _ _ _ step => restoreAttention_quiet step) attended
  have quiet₇ : Quiet guarded s₆ s' :=
    foldlM_quiet (fun _ _ _ _ _ _ step => restoreWait_quiet step) waited
  exact ((before.trans quiet₅).trans quiet₆).trans quiet₇

theorem latestTransition_ok {s : Store} {id : Text} {t : LifecycleTransitionRecord}
    (latest : s.latestTransition id = some t) : t ∈ s.transitions.rows ∧ t.delegationId = id := by
  have member := highest_mem latest
  simpa using member

/-- A rebuild leaves the row of the delegation: the trigger admits no other. -/
theorem rebuild_sound {id : Text} {s s' : Store} {rebuilt : Option DelegationRecord}
    (done : rebuildLifecycleProjection id s = .ok (rebuilt, s')) : Sound guarded false s s' := by
  simp only [rebuildLifecycleProjection, bind_ok] at done
  obtain ⟨-, -, done⟩ := done
  split at done
  · cases done
    exact (Quiet.refl _).sound
  · rename_i t latest
    simp only [bind_ok] at done
    obtain ⟨s₁, restored, s₂, projected, _, -, -, -, same⟩ := done
    obtain ⟨-, rfl⟩ := Prod.mk.inj (Except.ok.inj same)
    intro fenced
    obtain ⟨recorded, owner⟩ := latestTransition_ok latest
    obtain ⟨d, present, key, reached, agrees⟩ := fenced.recorded t recorded
    obtain ⟨revision, targets⟩ := fenced.snapshots t recorded
    have sole : ∀ d' ∈ s.delegations.rows, d'.delegationId = id → d' = d := by
      intro d' member named
      exact Table.eq_of_key member present (by rw [named, key, owner])
    have quiet : Quiet guarded s s₁ := by
      refine restoreLifecycle_quiet restored (fun c member d' present' named => ?_) fun guard =>
        (fenced.epochs guard).2 t recorded
      rw [sole d' present' named]
      exact (targets c member).trans reached
    have moves : Sound guarded false s₁ s₂ := by
      refine updateDelegations_sound projected fun d' member hit => ?_
      obtain ⟨monotonic, -⟩ := updateDelegations_ok projected
      obtain ⟨-, -, allowed⟩ := monotonic d' member hit
      simp only [decide_eq_true_eq] at hit
      rw [quiet.delegations] at member
      obtain rfl := sole d' member hit
      have current : t.stateRevision = d'.stateRevision := by
        rcases allowed with moved | ⟨kept, -⟩
        · have ahead : d'.stateRevision < t.projectionSnapshot.stateRevision := moved
          omega
        · have same : t.projectionSnapshot.stateRevision = d'.stateRevision := kept
          omega
      obtain ⟨-, -, -, runControl, -, -, -, -, -, epoch, -⟩ := agrees current
      exact countsStops_same runControl epoch
    exact quiet.then moves fenced

end CarsinOS.Delegation
