import CarsinOS.Completion.Histories
import CarsinOS.Delegation.Histories

/-! A delegation without an open path can be completed exactly while its latest results rest on at
most 64 references. -/
namespace CarsinOS.Completion
open CarsinOS.Lib CarsinOS.Integrity CarsinOS.Receipt
open CarsinOS.Delegation (NewOutboxEvent Coordinator AtomicWrite DelegationRecord checkedNext)

/-- The references that the latest results of the material criteria rest on. -/
def evidenceOf (s : Store) (delegationId : Text) (criteriaRevision : Int) :
    List ReceiptEvidenceInput :=
  collectedEvidence s ((materialCriteria s delegationId criteriaRevision).map fun criterion =>
    (latestResult s delegationId criterion.criterionId).map (·.verifierResultId))

/-- Nothing is stored under the identities of the command. -/
structure Fresh (D : CriterionCrates) (s : Store) (command : AssessCompletionCommand) : Prop where
  assessment : ∀ row ∈ s.lifecycle.completionAssessments.rows,
    row.assessmentId ≠ completionAssessmentId D command
  event : ∀ row ∈ s.lifecycle.outboxEvents.rows, row.eventId ≠
    completionEventId D (completionAssessmentId D command) ∧
    row.duplicateIdentity ≠ command.write.idempotencyKey ∧
    (row.eventName, row.aggregateId, row.aggregateRevision, row.causationId) ≠
      (.completionAssessed, command.delegationId, command.expectedStateRevision + 1,
        command.write.causationId)
  transition : ∀ row ∈ s.lifecycle.transitions.rows, row.transitionId ≠
    completionTransitionId D (completionAssessmentId D command) ∧
    row.outboxEventId ≠ completionEventId D (completionAssessmentId D command)
  receipt : ∀ row ∈ s.receipts.rows, row.causationEventId ≠
    completionEventId D (completionAssessmentId D command)

/-- The command is for the current revisions of the delegation, its identities are fresh, its
receipt carries the evidence, and the receipt journal takes the receipt. -/
structure Ready (D : CriterionCrates) (J : Coordinator) (s : Store) (d : DelegationRecord)
    (command : AssessCompletionCommand) : Prop where
  available : J.available = true
  heads : J.headsMatch = true
  appends : J.appends = true
  shape : validateAssessmentCommand D command = .ok ()
  delegation : command.delegationId = d.delegationId
  state : command.expectedStateRevision = d.stateRevision
  room : d.stateRevision < Delegation.MAX_REVISION
  criteria : d.currentCriteriaRevision = some command.expectedCriteriaRevision
  assessment : command.expectedAssessmentRevision = s.currentAssessmentRevision d.delegationId + 1
  assessmentRoom : s.currentAssessmentRevision d.delegationId < Delegation.MAX_REVISION
  revision : command.receipt.expectedStateRevision = d.stateRevision + 1
  evidence : command.receipt.evidence =
    evidenceOf s d.delegationId command.expectedCriteriaRevision
  fresh : Fresh D s command

theorem foldl_max_le {values : List Int} {start value : Int} (below : value ≤ start ∨ value ∈ values) :
    value ≤ values.foldl max start := by
  induction values generalizing start with
  | nil => simpa using below
  | cons head values ih =>
    rw [List.foldl_cons]
    apply ih
    rcases below with below | member
    · exact .inl (le_max_of_le_left below)
    · rcases List.mem_cons.mp member with rfl | later
      · exact .inl (le_max_right _ _)
      · exact .inr later

section Completing
variable {D : CriterionCrates} {J : Coordinator} {s : Store} {d : DelegationRecord}
  {command : AssessCompletionCommand}

theorem snapshot_results {delegationId : Text} {criteriaRevision : Int} :
    (buildSnapshot D s delegationId criteriaRevision (loadMaterialCriteria D s delegationId
      criteriaRevision)).criteria.map (·.verifierResultId) =
      (materialCriteria s delegationId criteriaRevision).map fun criterion =>
        (latestResult s delegationId criterion.criterionId).map (·.verifierResultId) := by
  simp only [buildSnapshot, loadMaterialCriteria, List.map_map]
  rfl

theorem latestResult_row {delegationId criterionId : Text} {v : VerifierResultRecord}
    (latest : latestResult s delegationId criterionId = some v) :
    v ∈ s.verifierResults.rows ∧ v.delegationId = delegationId := by
  have member := highest_mem latest
  rw [List.mem_filter] at member
  simp only [Bool.and_eq_true, decide_eq_true_eq] at member
  exact ⟨member.1, member.2.1⟩

/-- No latest result lacks its receipt, or has a second one. -/
theorem receipts_exact (backed : Backed D s) {delegationId : Text} {criteriaRevision : Int} :
    (loadMaterialCriteria D s delegationId criteriaRevision).any
      (fun row => row.latest.isSome && row.receiptCount ≠ 1) = false := by
  rw [List.any_eq_false]
  intro row member
  obtain ⟨criterion, -, rfl⟩ := List.mem_map.mp member
  cases latest : latestResult s delegationId criterion.criterionId with
  | none => simp
  | some v =>
    obtain ⟨stored, owner⟩ := latestResult_row latest
    obtain ⟨receipt, present, binds⟩ := backed.bound v stored
    rw [owner] at binds
    have fields {other : ReceiptRow} (bound : receiptBinds D s delegationId v other = true) :
        other.subjectKind = .verifierResult ∧ other.subjectId = v.verifierResultId := by
      simp only [receiptBinds, Bool.and_eq_true, decide_eq_true_eq] at bound
      exact ⟨bound.1.1.1.1.2, bound.1.1.1.2⟩
    have once : s.receipts.rows.countP (receiptBinds D s delegationId v) = 1 := by
      apply Table.matched_one present binds
      intro other taken bound
      rw [backed.sole other taken receipt present (fields bound).1 (fields binds).1
        ((fields bound).2.trans (fields binds).2.symm)]
    simp [once]

/-! The evidence of the completion is taken by the journal. -/

theorem firstSeen_mem {items : List ReceiptEvidenceInput} {item : ReceiptEvidenceInput}
    (member : item ∈ firstSeen items) : item ∈ items := by
  have grown : ∀ seen : List ReceiptEvidenceInput, item ∈ items.foldl
      (fun seen item => if item ∈ seen then seen else seen ++ [item]) seen →
      item ∈ seen ∨ item ∈ items := by
    clear member
    induction items with
    | nil => exact fun seen member => .inl member
    | cons head items ih =>
      intro seen member
      rw [List.foldl_cons] at member
      rcases ih _ member with earlier | later
      · split at earlier
        · exact .inl earlier
        · rcases List.mem_append.mp earlier with old | new
          · exact .inl old
          · exact .inr (List.mem_cons.mpr (.inl (List.mem_singleton.mp new)))
      · exact .inr (List.mem_cons_of_mem _ later)
  rcases grown [] member with none | given
  · cases none
  · exact given

theorem evidence_supported (backed : Backed D s) {delegationId : Text} {criteriaRevision : Int}
    {item : ReceiptEvidenceInput} (member : item ∈ evidenceOf s delegationId criteriaRevision) :
    Supported D s.authorityLinks.rows delegationId item := by
  obtain ⟨resultId, named, given⟩ := List.mem_flatMap.mp (firstSeen_mem member)
  obtain ⟨criterion, -, same⟩ := List.mem_map.mp named
  cases latest : latestResult s delegationId criterion.criterionId with
  | none =>
    rw [latest] at same
    subst same
    cases given
  | some v =>
    rw [latest] at same
    subst same
    obtain ⟨stored, owner⟩ := latestResult_row latest
    obtain ⟨receipt, present, binds⟩ := backed.bound v stored
    simp only [receiptBinds, Bool.and_eq_true, decide_eq_true_eq] at binds
    obtain ⟨⟨⟨⟨⟨⟨⟨delegation, -⟩, -⟩, about⟩, subject⟩, -⟩, -⟩, -⟩ := binds
    obtain ⟨other, taken, cited⟩ := List.mem_flatMap.mp given
    simp only [List.mem_filter, Bool.and_eq_true, decide_eq_true_eq] at taken
    obtain ⟨held, aboutOther, subjectOther⟩ := taken
    have one := backed.sole other held receipt present aboutOther about
      (subjectOther.trans subject.symm)
    rw [one] at cited
    have found := backed.supported receipt present about item cited
    rwa [delegation, owner] at found

theorem push_succeeds {pool : List ReceiptEvidenceInput} (exact : ∀ first ∈ pool, ∀ second ∈ pool,
    SameObservation first second → first.authorityLinkId = second.authorityLinkId)
    {items done : List ReceiptEvidenceInput} (known : ∀ item ∈ done, item ∈ pool)
    (given : ∀ item ∈ items, item ∈ pool) : ∃ out, items.foldlM pushEvidence done = .ok out := by
  induction items generalizing done with
  | nil => exact ⟨done, rfl⟩
  | cons item items ih =>
    obtain ⟨inPool, rest⟩ := List.forall_mem_cons.mp given
    have grown : ∃ next, pushEvidence done item = .ok next ∧ ∀ other ∈ next, other ∈ pool := by
      have longer : ∀ other ∈ done ++ [item], other ∈ pool := by
        intro other member
        rcases List.mem_append.mp member with old | new
        · exact known other old
        · rw [List.mem_singleton.mp new]
          exact inPool
      unfold pushEvidence
      split
      · exact ⟨_, rfl, longer⟩
      · rename_i previous last
        split
        · rename_i same
          rw [if_pos (exact previous (known _ (List.mem_of_getLast? last)) item inPool same)]
          exact ⟨_, rfl, known⟩
        · exact ⟨_, rfl, longer⟩
    obtain ⟨next, pushed, kept⟩ := grown
    obtain ⟨out, done⟩ := ih kept rest
    refine ⟨out, ?_⟩
    rw [List.foldlM_cons, pushed]
    exact done

theorem mapM_succeeds {ρ τ : Type} {f : ρ → Anyhow τ} {rows : List ρ}
    (each : ∀ row ∈ rows, ∃ value, f row = .ok value) : ∃ out, rows.mapM f = .ok out := by
  induction rows with
  | nil => exact ⟨[], rfl⟩
  | cons row rows ih =>
    obtain ⟨⟨value, first⟩, rest⟩ := List.forall_mem_cons.mp each
    obtain ⟨out, others⟩ := ih rest
    refine ⟨value :: out, ?_⟩
    rw [List.mapM_cons, first, others]
    rfl

theorem normalize_succeeds (backed : Backed D s) {delegationId : Text}
    {evidence : List ReceiptEvidenceInput} (short : evidence.length ≤ 64)
    (supported : ∀ item ∈ evidence, Supported D s.authorityLinks.rows delegationId item) :
    ∃ out, normalizeAndValidateEvidence D s delegationId evidence = .ok out := by
  have valid : ∀ item ∈ evidence, ∃ u, validateEvidence D s delegationId item = .ok u := by
    intro item member
    refine ⟨(), validateEvidence_ok.mpr ⟨supported item member, ?_⟩⟩
    obtain ⟨link, present, -, rfl⟩ := (supported item member).cited
    exact backed.sourced link present
  have exact : ∀ first ∈ evidence, ∀ second ∈ evidence, SameObservation first second →
      first.authorityLinkId = second.authorityLinkId := by
    rintro first one second two ⟨kind, source, -⟩
    obtain ⟨firstLink, firstPresent, firstOwner, rfl⟩ := (supported first one).cited
    obtain ⟨secondLink, secondPresent, secondOwner, rfl⟩ := (supported second two).cited
    rw [backed.observed firstLink firstPresent secondLink secondPresent
      (firstOwner.trans secondOwner.symm) kind source]
  obtain ⟨units, validated⟩ := mapM_succeeds valid
  obtain ⟨out, pushed⟩ := @push_succeeds evidence exact (evidence.mergeSort evidenceLe) []
    (by simp) fun item member => List.mem_mergeSort.mp member
  refine ⟨out, ?_⟩
  simp only [normalizeAndValidateEvidence, bind_ok, ensure_ok]
  exact ⟨(), short, units, validated, pushed⟩

/-! The statements of the completion succeed. -/

theorem assessment_above {l : Delegation.Store} {delegationId : Text} {revision : Int}
    (above : ((l.completionAssessments.rows.filter (·.delegationId = delegationId)).map
      (·.assessmentRevision)).foldl max 0 < revision) :
    ∀ other ∈ l.completionAssessments.rows,
      (other.delegationId, other.assessmentRevision) ≠ (delegationId, revision) := by
  rintro other member same
  obtain ⟨owner, taken⟩ := Prod.mk.inj same
  have below : other.assessmentRevision ≤
      ((l.completionAssessments.rows.filter (·.delegationId = delegationId)).map
        (·.assessmentRevision)).foldl max 0 := by
    apply foldl_max_le
    refine .inr (List.mem_map.mpr ⟨other, ?_, rfl⟩)
    simp [member, owner]
  omega

theorem terminalize_succeeds (recorded : Recorded s.lifecycle)
    (found : s.getDelegation d.delegationId = some d) (ready : Ready D J s d command)
    (snapshot : AssessmentSnapshot) : ∃ l d', terminalize D command snapshot d s.lifecycle = .ok l ∧
      l.getDelegation d.delegationId = some d' ∧ d'.stateRevision = d.stateRevision + 1 ∧
      d'.phase = (assessmentKind snapshot).phase := by
  have positive : 0 < command.expectedStateRevision := by
    have shape := ready.shape
    simp only [validateAssessmentCommand, bind_ok, ensure_ok] at shape
    obtain ⟨_, -, _, -, _, ⟨positive, -⟩, -⟩ := shape
    exact positive
  have present := Table.find?_mem found
  have named := ready.delegation
  have state := ready.state
  obtain ⟨outboxEvents, noted⟩ := @Table.insert_fresh _ _ _ _ s.lifecycle.outboxEvents
    (completionEvent D command snapshot) fun other member => (ready.fresh.event other member).1
  obtain ⟨completionAssessments, assessed⟩ := @Table.insert_fresh _ _ _ _
    s.lifecycle.completionAssessments (assessmentRecord D command snapshot)
    ready.fresh.assessment
  let hit : DelegationRecord → Bool := fun row => row.delegationId = command.delegationId &&
    row.stateRevision = command.expectedStateRevision &&
    row.currentCriteriaRevision = some command.expectedCriteriaRevision
  have hits : hit d = true := by simp [hit, named, state, ready.criteria]
  have once : s.lifecycle.delegations.matched hit = 1 := by
    apply Table.matched_one present hits
    intro other _ taken
    simp only [hit, Bool.and_eq_true, decide_eq_true_eq] at taken
    exact taken.1.1.trans named
  let ended : DelegationRecord → DelegationRecord := fun row => { row with
    phase := (assessmentRecord D command snapshot).kind.phase
    stateRevision := command.expectedStateRevision + 1
    pendingDecisionId := none
    externalWaitJson := none
    completionAssessmentJson := some (assessmentRecord D command snapshot).assessmentJson
    updatedAt := command.write.occurredAt
    terminalAt := some command.write.occurredAt }
  let delegations := s.lifecycle.delegations.update hit ended fun _ => rfl
  let l : Delegation.Store :=
    { s.lifecycle with outboxEvents, delegations, completionAssessments }
  have row : l.getDelegation d.delegationId = some (ended d) := by
    simp only [l, delegations, Delegation.Store.getDelegation, Table.find?_update,
      Table.find?_of_mem present, Option.map_some, hits, if_true]
  have outbox : s.lifecycle.insertOutbox (completionEvent D command snapshot) =
      .ok { s.lifecycle with outboxEvents } := by
    have unused : ∀ other ∈ s.lifecycle.outboxEvents.rows, other.duplicateIdentity ≠
        (completionEvent D command snapshot).duplicateIdentity ∧
        (other.eventName, other.aggregateId, other.aggregateRevision, other.causationId) ≠
          ((completionEvent D command snapshot).eventName,
            (completionEvent D command snapshot).aggregateId,
            (completionEvent D command snapshot).aggregateRevision,
            (completionEvent D command snapshot).causationId) :=
      fun other member => (ready.fresh.event other member).2
    have later : 0 < (completionEvent D command snapshot).aggregateRevision := by
      simp only [completionEvent]
      omega
    simp only [Delegation.Store.insertOutbox, bind_ok, ensure_ok]
    refine ⟨(), later, (), unused, ?_⟩
    rw [noted]
  have advanced : Delegation.Store.advanceDelegation { s.lifecycle with outboxEvents } hit ended
      (fun _ => rfl) "completion lifecycle CAS lost its canonical revision" =
      .ok { s.lifecycle with outboxEvents, delegations } := by
    simp only [Delegation.Store.advanceDelegation, Delegation.Store.updateDelegations, bind_ok,
      ensure_ok]
    refine ⟨_, ⟨(), ?_, rfl⟩, (), once, rfl⟩
    intro other _ taken
    simp only [hit, Bool.and_eq_true, decide_eq_true_eq] at taken
    refine ⟨rfl, rfl, .inl ?_⟩
    simp only [ended]
    omega
  have stored : Delegation.Store.insertAssessment { s.lifecycle with outboxEvents, delegations }
      (assessmentRecord D command snapshot) = .ok l := by
    have above : ∀ other ∈ s.lifecycle.completionAssessments.rows,
        (other.delegationId, other.assessmentRevision) ≠
          (command.delegationId, command.expectedAssessmentRevision) := by
      apply assessment_above
      have next := ready.assessment
      rw [named]
      unfold Store.currentAssessmentRevision at next
      omega
    simp only [Delegation.Store.insertAssessment, bind_ok, ensure_ok]
    refine ⟨(), above, ?_⟩
    rw [assessed]
  have noticed : ∃ last, l.recordTransition d
      (completionTransitionId D (completionAssessmentId D command))
      (assessmentRecord D command snapshot).kind.phase d.runControl .other none
      (command.expectedStateRevision + 1) "completion_assessment".toList
      (completionEvent D command snapshot).eventId command.write.occurredAt = .ok last ∧
      last.delegations = l.delegations := by
    obtain ⟨projected, taken⟩ : ∃ projected, l.projectionSnapshot d.delegationId none =
        .ok projected := by
      unfold Delegation.Store.projectionSnapshot
      rw [row]
      exact ⟨_, rfl⟩
    have unused : ∀ other ∈ s.lifecycle.transitions.rows, (other.delegationId,
        other.stateRevision) ≠ (d.delegationId, command.expectedStateRevision + 1) ∧
        other.outboxEventId ≠ completionEventId D (completionAssessmentId D command) := by
      refine fun other member => ⟨?_, (ready.fresh.transition other member).2⟩
      intro same
      obtain ⟨owner, revision⟩ := Prod.mk.inj same
      obtain ⟨reached, known, below⟩ := recorded other member
      rw [owner] at known
      cases Option.some.inj (known.symm.trans found)
      omega
    obtain ⟨transitions, inserted⟩ := @Table.insert_fresh _ _ _ _ s.lifecycle.transitions
      { transitionId := completionTransitionId D (completionAssessmentId D command)
        delegationId := d.delegationId
        stateRevision := command.expectedStateRevision + 1
        previousPhase := d.phase
        selectedPhase := (assessmentRecord D command snapshot).kind.phase
        previousRunControl := d.runControl
        selectedRunControl := d.runControl
        commandIdentity := .other
        projectionSnapshot := projected
        reason := "completion_assessment".toList
        outboxEventId := (completionEvent D command snapshot).eventId
        occurredAt := command.write.occurredAt }
      fun other member => (ready.fresh.transition other member).1
    refine ⟨{ l with transitions }, ?_, rfl⟩
    simp only [Delegation.Store.recordTransition, Delegation.Store.insertTransition, bind_ok,
      ensure_ok]
    refine ⟨projected, taken, (), unused, ?_⟩
    rw [inserted]
  obtain ⟨last, transition, kept⟩ := noticed
  refine ⟨last, ended d, ?_, ?_, ?_, rfl⟩
  · simp only [terminalize, bind_ok]
    exact ⟨_, outbox, _, advanced, _, stored, transition⟩
  · simpa only [Delegation.Store.getDelegation, kept] using row
  · simp only [ended, state]

/-- What a ready command does to a delegation without an open path. -/
theorem ready_assesses (backed : Backed D s)
    (found : s.getDelegation d.delegationId = some d) (nonterminal : d.phase.isTerminal = false)
    (ready : Ready D J s d command)
    (material : materialCriteria s d.delegationId command.expectedCriteriaRevision ≠ [])
    (clear : remainingPathBlockers s d.delegationId = [])
    (short : (evidenceOf s d.delegationId command.expectedCriteriaRevision).length ≤ 64) :
    ∃ assessment s' d', assessCompletion D J command s = .ok (.appended (.applied assessment), s') ∧
      s'.getDelegation d.delegationId = some d' ∧ d'.phase = assessment.kind.phase := by
  have named := ready.delegation
  let rows := loadMaterialCriteria D s d.delegationId command.expectedCriteriaRevision
  let snapshot := buildSnapshot D s d.delegationId command.expectedCriteriaRevision rows
  have nonempty : rows ≠ [] := by
    simpa [rows, loadMaterialCriteria] using material
  obtain ⟨l, d', ended, row, revision, phase⟩ :=
    terminalize_succeeds backed.recorded found ready snapshot
  have unassessed : s.lifecycle.completionAssessments.find? (completionAssessmentId D command) =
      none := Table.find?_fresh ready.fresh.assessment
  have unreceipted : s.receipts.find? (completionEventId D (completionAssessmentId D command)) =
      none := Table.find?_fresh ready.fresh.receipt
  have evidence : completionReceiptEvidence s snapshot.criteria =
      .ok (evidenceOf s d.delegationId command.expectedCriteriaRevision) := by
    have same := @snapshot_results D s d.delegationId command.expectedCriteriaRevision
    simp only [completionReceiptEvidence, snapshot, rows, same, bind_ok, ensure_ok]
    exact ⟨(), short, rfl⟩
  have bound : validateCompletionReceipt command
      (evidenceOf s d.delegationId command.expectedCriteriaRevision) = .ok () := by
    simp only [validateCompletionReceipt, ensure_ok]
    exact ⟨by rw [ready.revision, ready.state], ready.evidence⟩
  have unblocked : assessmentBlockers s d.delegationId rows = [] := by
    simp [assessmentBlockers, clear, nonempty]
  let commands := (completionEventId D (completionAssessmentId D command), command) ::
    s.assessmentCommands
  let next : Store := { s with lifecycle := l, assessmentCommands := commands }
  have moved : assessInTransaction D command s =
      .ok (.append (.applied (assessmentRecord D command snapshot)), next) := by
    have counted : checkedNext (s.currentAssessmentRevision d.delegationId)
        "completion assessment revision is exhausted" = .ok command.expectedAssessmentRevision := by
      rw [ready.assessment]
      exact if_pos ready.assessmentRoom
    unfold assessInTransaction
    simp only [unassessed, named, found, ready.criteria, nonterminal, ne_eq, not_true_eq_false,
      if_false, bind_ok, ensure_ok]
    refine ⟨(), trivial, _, counted, ?_⟩
    rw [if_neg (not_not.mpr rfl), if_neg (by rw [receipts_exact backed]; decide), unblocked,
      if_neg (not_not.mpr rfl)]
    simp only [bind_ok]
    exact ⟨_, evidence, (), bound, l, ended, rfl⟩
  have shape := ready.shape
  simp only [validateAssessmentCommand, bind_ok, ensure_ok] at shape
  obtain ⟨_, -, _, -, _, -, owner, -, -, -, -, event, -⟩ := shape
  have cited : ∃ evidence, normalizeAndValidateEvidence D next command.receipt.delegationId
      command.receipt.evidence = .ok evidence := by
    have accepted := @normalize_succeeds D s backed d.delegationId
      (evidenceOf s d.delegationId command.expectedCriteriaRevision) short
      fun item member => evidence_supported backed member
    rw [ready.evidence, owner, named]
    exact accepted
  obtain ⟨evidence, normalized⟩ := cited
  obtain ⟨receipts, stored⟩ := @Table.insert_fresh _ _ _ _ s.receipts
    (receiptRowOf command.receipt evidence) fun other member => by
      simp only [receiptRowOf, event]
      exact ready.fresh.receipt other member
  have after : next.getDelegation command.receipt.delegationId = some d' := by
    rw [owner, named]
    exact row
  let applied : AssessmentMutation := .applied (assessmentRecord D command snapshot)
  have appended : appendAtomicReceipt D J command.receipt applied next =
      .ok (.appended applied, { next with receipts }) := by
    unfold appendAtomicReceipt
    rw [after]
    simp only [bind_ok, ensure_ok]
    refine ⟨(), by rw [revision, ready.revision], evidence, normalized, (), ready.appends,
      { next with receipts }, ?_, rfl⟩
    simp only [Store.insertReceipt, next, stored]
  have before : s.getDelegation command.receipt.delegationId = some d := by
    rw [owner, named]
    exact found
  refine ⟨assessmentRecord D command snapshot, { next with receipts }, d', ?_, row, phase⟩
  have room : checkedNext command.expectedStateRevision "completion state revision is exhausted" =
      .ok (command.expectedStateRevision + 1) := by
    rw [ready.state]
    exact if_pos ready.room
  simp only [assessCompletion, ready.shape, room, bind_ok, Except.ok.injEq, exists_eq_left']
  unfold mutateWithAtomicReceiptAtRevision
  simp only [event, unreceipted, before, bind_ok, ensure_ok]
  have current : (decide (d.stateRevision = command.expectedStateRevision) && J.headsMatch) =
      true := by
    rw [ready.state, ready.heads]
    simp
  rw [current]
  simp only [Bool.not_true, Bool.and_false, Bool.false_eq_true, if_false, bind_ok]
  refine ⟨(), trivial, (), ready.available, _, moved, ?_⟩
  simp only [Bool.true_eq_false, if_false]
  exact appended

/-- Where there are more references, no command of the delegation changes anything. -/
theorem excess_refused {criteriaRevision : Int} (found : s.getDelegation d.delegationId = some d)
    (current : d.currentCriteriaRevision = some criteriaRevision)
    (long : 64 < (evidenceOf s d.delegationId criteriaRevision).length)
    (named : command.delegationId = d.delegationId) {outcome : AtomicWrite AssessmentMutation}
    {s' : Store} (done : assessCompletion D J command s = .ok (outcome, s')) :
    s' = s ∧ ∀ assessment, outcome ≠ .appended assessment := by
  simp only [assessCompletion, bind_ok] at done
  obtain ⟨_, -, _, -, rest⟩ := done
  rcases mutate_cases rest with ⟨value, moved, rfl⟩ | ⟨rfl, rfl⟩ | ⟨value, next, moved, -⟩
  · rcases assessInTransaction_cases moved with ⟨-, rfl⟩ | ⟨_, _, _, none, -⟩
    · exact ⟨rfl, by simp⟩
    · cases none
  · exact ⟨rfl, by simp⟩
  · rcases assessInTransaction_cases moved with ⟨⟨_, none⟩, -⟩ | ⟨_, other, _, -, row, revision,
      bound, -⟩
    · cases none
    · rw [named] at row
      cases Option.some.inj (row.symm.trans found)
      cases Option.some.inj (revision.symm.trans current)
      rw [snapshot_results, named] at bound
      unfold evidenceOf at long
      omega

theorem unverified_clear {delegationId : Text} {criteriaRevision : Int}
    (unverified : ∀ criterion ∈ materialCriteria s delegationId criteriaRevision,
      latestResult s delegationId criterion.criterionId = none) :
    evidenceOf s delegationId criteriaRevision = [] := by
  have none : ∀ item, item ∉ evidenceOf s delegationId criteriaRevision := by
    intro item member
    obtain ⟨resultId, named, given⟩ := List.mem_flatMap.mp (firstSeen_mem member)
    obtain ⟨criterion, present, same⟩ := List.mem_map.mp named
    rw [unverified criterion present] at same
    subst same
    cases given
  exact List.eq_nil_iff_forall_not_mem.mpr none

/-- In every reachable store, a running delegation with material criteria and no open path is
ended by every ready command where the latest results rest on at most 64 references, as they do
where no criterion is verified; with more references no command of it is accepted. -/
theorem completable {s₀ : Store} {acts : List Act} (initial : Initial s₀)
    (run : Run (Step D) s₀ acts s) (found : s.getDelegation d.delegationId = some d)
    (nonterminal : d.phase.isTerminal = false) {criteriaRevision : Int}
    (current : d.currentCriteriaRevision = some criteriaRevision)
    (material : materialCriteria s d.delegationId criteriaRevision ≠ [])
    (clear : remainingPathBlockers s d.delegationId = []) :
    ((evidenceOf s d.delegationId criteriaRevision).length ≤ 64 → ∀ J command,
      Ready D J s d command → ∃ assessment s' d',
        assessCompletion D J command s = .ok (.appended (.applied assessment), s') ∧
        s'.getDelegation d.delegationId = some d' ∧ d'.phase = assessment.kind.phase ∧
        d'.phase.isTerminal = true) ∧
      ((∀ criterion ∈ materialCriteria s d.delegationId criteriaRevision,
        latestResult s d.delegationId criterion.criterionId = none) →
        evidenceOf s d.delegationId criteriaRevision = []) ∧
      (64 < (evidenceOf s d.delegationId criteriaRevision).length → ∀ J command outcome s',
        command.delegationId = d.delegationId →
        assessCompletion D J command s = .ok (outcome, s') →
        s' = s ∧ ∀ assessment, outcome ≠ .appended assessment) := by
  have backed := run_backed initial run
  refine ⟨?_, unverified_clear, ?_⟩
  · intro short J command ready
    cases Option.some.inj (ready.criteria.symm.trans current)
    obtain ⟨assessment, s', d', done, row, phase⟩ :=
      ready_assesses backed found nonterminal ready material clear short
    refine ⟨assessment, s', d', done, row, phase, ?_⟩
    rw [phase]
    cases assessment.kind <;> rfl
  · intro long J command outcome s' named done
    exact excess_refused found current long named done

end Completing

section Samples

/-- A name for each of the tasks. -/
def mark (k : Nat) : Text := [Char.ofNat (97 + k / 13), Char.ofNat (97 + k % 13)]

def taskPredicate (linkId : Text) : Json :=
  .obj [("kind".toList, .str "authoritative_state".toList), ("version".toList, .str "v1".toList),
    ("predicate".toList, .obj [("source".toList, .str "task".toList),
      ("authority_link_id".toList, .str linkId), ("expected_status".toList, .str "done".toList)])]

def readTask (fields : List (Text × Json)) : Option CriterionPredicate :=
  match fields.lookup "source".toList, fields.lookup "authority_link_id".toList,
      fields.lookup "expected_status".toList with
  | some (.str source), some (.str linkId), some (.str status) =>
    if source = "task".toList then some (.authoritativeState (.task linkId status)) else none
  | _, _, _ => none

/-- `from_str` on the predicates about a task. -/
def readPredicate : Json → Option CriterionPredicate
  | .obj fields =>
    match fields.lookup "kind".toList, fields.lookup "predicate".toList with
    | some (.str kind), some (.obj inner) =>
      if kind = "authoritative_state".toList then readTask inner else none
    | _, _ => none
  | _ => none

def member (key : String) : Json → Option Json
  | .obj fields => fields.lookup key.toList
  | _ => none

noncomputable def sampleCrates : CriterionCrates where
  toCrates := asciiCrates
  predicate text := (ofPrint text).bind readPredicate
  extract text key := (ofPrint text).bind (member key)
  extract_print fields key spelled _ := by
    rw [ofPrint_some.mpr ⟨spelled, rfl⟩]
    rfl
  cleanEvidence _ := true

def sampleDelegation (stateRevision : Int) : DelegationRecord where
  delegationId := ['d']
  phase := .inMotion
  runControl := .running
  stateRevision
  currentPlanRevision := some 1
  currentCriteriaRevision := some 1
  policyRevision := 1
  effectiveAuthorityJson := "\x7b\x7d".toList
  authorityProvenanceId := ['a']
  pendingDecisionId := none
  externalWaitJson := none
  stopEpoch := 0
  completionAssessmentJson := none
  updatedAt := 1
  terminalAt := none

def sampleLifecycle : Delegation.Store :=
  { Delegation.Store.initial with delegations := ⟨[sampleDelegation 1], List.nodup_singleton _⟩ }

def sampleStore : Store where
  lifecycle := sampleLifecycle
  criteria := .empty
  authorityLinks := .empty
  verifierResults := .empty
  receipts := .empty
  decisions := .empty
  authorities := .empty
  amendments := .empty
  amendmentCriteriaLinks := .empty
  assessmentCommands := []
  sources := (List.range 65).map fun k => ("task".toList, mark k)

def sampleLink (k : Nat) : LinkSource := ⟨mark k, ['d'], .task, mark k, 0⟩

def sampleCriterion (k : Nat) : CriterionRow where
  criterionId := mark k
  delegationId := ['d']
  criteriaRevision := 1
  criterionKey := mark k
  material := true
  verifierType := .authoritativeState
  predicateJson := (taskPredicate (mark k)).print
  authoritativeSourceKind := "authoritative_state_store".toList

def sampleWorld : World where
  taskStatus _ := some "done".toList
  boardArchived _ := none
  boardCard _ := none
  artifact _ _ := none
  file _ := .notFound
  recipient _ _ := none
  executionStatus _ _ := none

def sampleJournal : Coordinator := ⟨true, true, true⟩

def sampleWrite (k : Nat) : Delegation.WriteContext := ⟨mark k, ['c'], ['w'], 1⟩

/-- A receipt of the runtime at a revision. -/
def sampleReceipt (kind : ReceiptKind) (subject : ReceiptSubject) (stateRevision : Int)
    (causationEventId : Text) (evidence : List ReceiptEvidenceInput) : AppendReceiptCommand where
  receiptId := causationEventId
  transactionId := causationEventId
  stateRootGeneration := 1
  delegationId := ['d']
  expectedStateRevision := stateRevision
  expectedGlobalCount := stateRevision - 2
  expectedGlobalHeadDigest := none
  expectedDelegationCount := stateRevision - 2
  expectedDelegationHeadDigest := none
  receiptKind := kind
  subject
  causationId := ['w']
  causationEventId
  actor := ⟨"runtime".toList, ['r'], ['a']⟩
  runtime := ⟨1, ['h'], 1⟩
  key := ⟨['k'], 1⟩
  rotation := none
  evidence
  redactedSummary := ['s']
  occurredAt := 1
  committedAt := 1

/-! A delegation with one criterion that is not verified. -/

def openStore : Store :=
  { sampleStore with criteria := ⟨[sampleCriterion 0], List.nodup_singleton _⟩ }

noncomputable def sampleAssessment : AssessCompletionCommand :=
  let command : AssessCompletionCommand := {
    write := sampleWrite 0
    delegationId := ['d']
    expectedStateRevision := 1
    expectedCriteriaRevision := 1
    expectedAssessmentRevision := 1
    receipt := sampleReceipt .completion ⟨.completionAssessment, [], 1⟩ 2 [] [] }
  let assessmentId := completionAssessmentId sampleCrates command
  { command with
    receipt := sampleReceipt .completion ⟨.completionAssessment, assessmentId, 1⟩ 2
      (completionEventId sampleCrates assessmentId) [] }

theorem sampleAssessment_ready :
    Ready sampleCrates sampleJournal openStore (sampleDelegation 1) sampleAssessment := by
  have evidence : evidenceOf openStore ['d'] 1 = [] := unverified_clear fun _ _ => rfl
  have shape : validateAssessmentCommand sampleCrates sampleAssessment = .ok () := by
    simp only [validateAssessmentCommand, requireCommandText, bind_ok, ensure_ok]
    exact ⟨(), (⟨by decide, by decide, by decide⟩), (), ⟨by decide, by decide, by decide⟩, (), ⟨by decide, by decide, by decide⟩, rfl, rfl, rfl, rfl, rfl, rfl, rfl, rfl⟩
  refine ⟨rfl, rfl, rfl, shape, rfl, rfl, by decide, rfl, rfl, by decide, rfl, evidence.symm,
    ⟨?_, ?_, ?_, ?_⟩⟩
  all_goals
    intro row member
    cases member

theorem open_completable : ∃ assessment s' d', assessCompletion sampleCrates sampleJournal
    sampleAssessment openStore = .ok (.appended (.applied assessment), s') ∧
    s'.getDelegation ['d'] = some d' ∧ d'.phase = assessment.kind.phase ∧
    d'.phase.isTerminal = true := by
  have short : (evidenceOf openStore ['d'] 1).length ≤ 64 := by
    rw [unverified_clear fun _ _ => rfl]
    decide
  have material : materialCriteria openStore ['d'] 1 ≠ [] := by
    apply List.ne_nil_of_mem
    rw [materialCriteria, List.mem_mergeSort, List.mem_filter]
    exact ⟨List.mem_singleton_self _, rfl⟩
  exact (completable ⟨rfl, rfl, rfl, rfl⟩ (@Run.nil _ _ (Step sampleCrates) openStore)
    (d := sampleDelegation 1) rfl rfl rfl material rfl).1 short sampleJournal sampleAssessment
    sampleAssessment_ready

/-! A delegation with sixty-five tasks, each verified through its own link. -/

noncomputable def sampleResultId (k : Nat) : Text := deterministicVerifierResultId sampleCrates (mark k) 1 (mark k)

noncomputable def sampleVerification (k : Nat) : VerifyCriterionCommand where
  write := sampleWrite k
  delegationId := ['d']
  criterionId := mark k
  expectedCriteriaRevision := 1
  expectedStateRevision := k + 1
  expectedResultRevision := 1
  verifierResultId := sampleResultId k
  outboxEventId := mark k
  receipt := sampleReceipt .verifier ⟨.verifierResult, sampleResultId k, 1⟩ (k + 2) (mark k)
    [receiptEvidence (sampleLink k)]

/-- The start of a digest. -/
def leading (text : Text) : Nat := ((text.drop 16).take 4).foldl (fun n c => 256 * n + c.toNat) 0

theorem leading_ids : (List.range 65).map (fun k => leading (sampleResultId k)) =
    [842084912, 1701209143, 1684300645, 1714764085, 1681405026, 929444401, 1717723490, 1664432227,
     1634022500, 946092085, 929260390, 808805942, 878916663, 1647589689, 1664705842, 1634021682,
     828662628, 1680892469, 895693410, 808476978, 1647391284, 1684223030, 811939896, 1714632550,
     808925235, 1714708836, 875968562, 1631072870, 875770169, 879112756, 878797107, 808595555,
     845362736, 959526501, 845504818, 1681416804, 895695156, 892678968, 1647928625, 842096950,
     929325922, 876099123, 1664497971, 1714565478, 859267639, 912537698, 929380657, 895758898,
     1717658721, 909403745, 1664629047, 925906790, 925971297, 909718580, 859333680, 892559920,
     960051556, 1667446580, 1634034017, 929445220, 842412641, 912668770, 895902263, 825833268,
     878915938] := by
  unfold sampleResultId sampleCrates
  rw [asciiCrates_fast]
  decide +kernel

theorem sampleResultId_inj {i j : Nat} (below : i < 65) (under : j < 65)
    (same : sampleResultId i = sampleResultId j) : i = j := by
  have apart : ((List.range 65).map fun k => leading (sampleResultId k)).Nodup := by
    rw [leading_ids]
    decide
  exact List.inj_on_of_nodup_map apart (List.mem_range.mpr below) (List.mem_range.mpr under)
    (congrArg leading same)

theorem mark_inj {i j : Nat} (below : i < 65) (under : j < 65) (same : mark i = mark j) :
    i = j := by
  simp only [mark, List.cons.injEq, and_true] at same
  have value : ∀ n < 128, (Char.ofNat n).toNat = n := by decide
  obtain ⟨quotient, remainder⟩ := same
  have high := congrArg Char.toNat quotient
  have low := congrArg Char.toNat remainder
  rw [value _ (by omega), value _ (by omega)] at high low
  omega

theorem mark_clean : ∀ k < 65, trimChars (mark k) ≠ [] := by
  decide

/-- A name is not that of an earlier task. -/
theorem mark_fresh {ρ : Type} {f : Nat → ρ} {name : ρ → Text} {n : Nat} (bound : n < 65)
    {row : ρ} (member : row ∈ (List.range n).map f)
    (named : ∀ i, name (f i) = mark i := by intro i; rfl) : name row ≠ mark n := by
  obtain ⟨i, inside, rfl⟩ := List.mem_map.mp member
  have below := List.mem_range.mp inside
  intro same
  rw [named] at same
  have equal := mark_inj (by omega) (by omega) same
  omega

theorem links_inserted {n : Nat} (bound : n ≤ 65) : ∃ authorityLinks,
    ((List.range n).map sampleLink).foldlM Store.insertLink sampleStore =
      .ok { sampleStore with authorityLinks } ∧
    authorityLinks.rows = (List.range n).map sampleLink := by
  induction n with
  | zero => exact ⟨.empty, rfl, rfl⟩
  | succ n ih =>
    obtain ⟨links, done, rows⟩ := ih (by omega)
    have apart : ∀ row ∈ links.rows, row.linkId ≠ mark n ∧ row.sourceId ≠ mark n := by
      rw [rows]
      exact fun row member => ⟨mark_fresh (by omega) member, mark_fresh (by omega) member⟩
    obtain ⟨next, inserted⟩ := @Table.insert_fresh _ _ _ _ links (sampleLink n)
      fun row member => (apart row member).1
    refine ⟨next, ?_, by rw [Table.insert?_rows inserted, rows, List.range_succ, List.map_append]; rfl⟩
    rw [List.range_succ, List.map_append, List.foldlM_append, done]
    simp only [List.map_cons, List.map_nil, List.foldlM_cons, List.foldlM_nil, ok_bind, bind_pure]
    have source : ("task".toList, mark n) ∈ sampleStore.sources :=
      List.mem_map.mpr ⟨n, List.mem_range.mpr (by omega), rfl⟩
    simp only [Store.insertLink, bind_ok, ensure_ok]
    refine ⟨(), rfl, (), source, (), ?_, by rw [inserted]⟩
    intro row member same
    exact (apart row member).2 (congrArg (fun fields => fields.2.2) same)

theorem criteria_inserted {s : Store} (fresh : s.criteria.rows = []) {n : Nat} (bound : n ≤ 65) :
    ∃ criteria, ((List.range n).map sampleCriterion).foldlM Store.insertCriterion s =
      .ok { s with criteria } ∧ criteria.rows = (List.range n).map sampleCriterion := by
  induction n with
  | zero => exact ⟨s.criteria, rfl, fresh⟩
  | succ n ih =>
    obtain ⟨criteria, done, rows⟩ := ih (by omega)
    have apart : ∀ row ∈ criteria.rows, row.criterionId ≠ mark n ∧ row.criterionKey ≠ mark n := by
      rw [rows]
      exact fun row member => ⟨mark_fresh (by omega) member, mark_fresh (by omega) member⟩
    obtain ⟨next, inserted⟩ := @Table.insert_fresh _ _ _ _ criteria (sampleCriterion n)
      fun row member => (apart row member).1
    refine ⟨next, ?_, by rw [Table.insert?_rows inserted, rows, List.range_succ, List.map_append]; rfl⟩
    rw [List.range_succ, List.map_append, List.foldlM_append, done]
    simp only [List.map_cons, List.map_nil, List.foldlM_cons, List.foldlM_nil, ok_bind, bind_pure]
    simp only [Store.insertCriterion, bind_ok, ensure_ok]
    refine ⟨(), ?_, by rw [inserted]⟩
    intro row member same
    exact (apart row member).2 (congrArg (fun fields => fields.2.2) same)


noncomputable def sampleEvent (k : Nat) : NewOutboxEvent := verificationEvent (sampleVerification k) .pass

def sampleEvaluation (k : Nat) : Evaluation :=
  compareOptionalText asciiCrates (sampleLink k) (some "done".toList) "done".toList "task_status"

noncomputable def sampleResult (k : Nat) : VerifierResultRecord where
  verifierResultId := sampleResultId k
  delegationId := ['d']
  criterionId := mark k
  resultRevision := 1
  result := .pass
  evidenceRefsJson := (sampleEvaluation k).evidence.print
  evidenceDigest := sha256Text asciiCrates (sampleEvaluation k).evidence.print
  verifierIdentity := CRITERION_VERIFIER_IDENTITY
  verifiedAt := 1

noncomputable def sampleReceiptRow (k : Nat) : ReceiptRow :=
  receiptRowOf (sampleVerification k).receipt [receiptEvidence (sampleLink k)]

/-- The store after some of the verifications. -/
structure Verified (k : Nat) (s : Store) : Prop where
  criteria : s.criteria.rows = (List.range 65).map sampleCriterion
  links : s.authorityLinks.rows = (List.range 65).map sampleLink
  sources : s.sources = sampleStore.sources
  results : s.verifierResults.rows = (List.range k).map sampleResult
  receipts : s.receipts.rows = (List.range k).map sampleReceiptRow
  lifecycle : ∃ delegations outboxEvents,
    s.lifecycle = { sampleLifecycle with delegations, outboxEvents } ∧
    delegations.rows = [sampleDelegation (k + 1)] ∧
    outboxEvents.rows = (List.range k).map sampleEvent

theorem task_printed (linkId : Text) :
    (ofPrint (taskPredicate linkId).print).bind readPredicate =
      some (.authoritativeState (.task linkId "done".toList)) := by
  have spelled : (taskPredicate linkId).Everywhere Spelled := by
    have leaf (text : Text) : (Json.str text).Everywhere Spelled :=
      Json.everywhere.mpr ⟨trivial, by simp [Json.children]⟩
    refine Json.everywhere.mpr ⟨trivial, ?_⟩
    simp only [taskPredicate, Json.children, List.map_cons, List.map_nil, List.forall_mem_cons]
    refine ⟨leaf _, leaf _, Json.everywhere.mpr ⟨trivial, ?_⟩, by simp⟩
    simp only [Json.children, List.map_cons, List.map_nil, List.forall_mem_cons]
    exact ⟨leaf _, leaf _, leaf _, by simp⟩
  rw [ofPrint_some.mpr ⟨spelled, rfl⟩]
  rfl

section Verifying
variable {k : Nat} {s : Store}

theorem link_found (verified : Verified k s) (bound : k < 65) :
    s.loadLink ['d'] (mark k) = some (sampleLink k) := by
  apply find_one
  · rw [verified.links]
    exact List.mem_map_of_mem (List.mem_range.mpr bound)
  · simp [sampleLink]
  · intro other member hit
    rw [verified.links] at member
    obtain ⟨i, inside, rfl⟩ := List.mem_map.mp member
    simp only [sampleLink, Bool.and_eq_true, decide_eq_true_eq] at hit
    rw [mark_inj (List.mem_range.mp inside) bound (of_decide_eq_true hit.2)]

theorem criterion_found (verified : Verified k s) (bound : k < 65) :
    s.loadCriterion ['d'] (mark k) = some (sampleCriterion k) := by
  apply find_one
  · rw [verified.criteria]
    exact List.mem_map_of_mem (List.mem_range.mpr bound)
  · simp [sampleCriterion]
  · intro other member hit
    rw [verified.criteria] at member
    obtain ⟨i, inside, rfl⟩ := List.mem_map.mp member
    simp only [sampleCriterion, Bool.and_eq_true, decide_eq_true_eq] at hit
    rw [mark_inj (List.mem_range.mp inside) bound (of_decide_eq_true hit.2)]

theorem parsed : parseAndBindPredicate sampleCrates (sampleCriterion k) ['d'] =
    .ok (.authoritativeState (.task (mark k) "done".toList)) := by
  have read : sampleCrates.predicate (sampleCriterion k).predicateJson = _ := task_printed (mark k)
  unfold parseAndBindPredicate
  rw [read]
  rfl

theorem evaluated (verified : Verified k s) (bound : k < 65) :
    evaluatePredicate asciiCrates sampleWorld s ['d']
      (.authoritativeState (.task (mark k) "done".toList)) = sampleEvaluation k := by
  simp only [evaluatePredicate, evaluateLinked, link_found verified bound]
  rfl

theorem delegation_found (verified : Verified k s) :
    s.getDelegation ['d'] = some (sampleDelegation (k + 1)) := by
  obtain ⟨delegations, outboxEvents, lifecycle, rows, -⟩ := verified.lifecycle
  simp only [Store.getDelegation, Delegation.Store.getDelegation, lifecycle, Table.find?, rows]
  rfl

/-- The rows of the next verification. -/
theorem result_recorded (verified : Verified k s) (bound : k < 65) :
    ∃ lifecycle verifierResults, recordResult sampleCrates (sampleVerification k)
        (sampleEvaluation k) s = .ok (.append (.recorded (sampleResult k)),
          { s with lifecycle, verifierResults }) ∧
      verifierResults.rows = (List.range (k + 1)).map sampleResult ∧
      ∃ delegations outboxEvents, lifecycle = { sampleLifecycle with delegations, outboxEvents } ∧
        delegations.rows = [sampleDelegation ((k + 1 : Nat) + 1)] ∧
        outboxEvents.rows = (List.range (k + 1)).map sampleEvent := by
  obtain ⟨delegations, outboxEvents, before, row, events⟩ := verified.lifecycle
  let hit : DelegationRecord → Bool := fun row => row.delegationId = ['d'] &&
    row.stateRevision = k + 1 && row.currentCriteriaRevision = some 1
  let moved : DelegationRecord → DelegationRecord := fun row =>
    { row with stateRevision := k + 1 + 1, updatedAt := 1 }
  have hits : hit (sampleDelegation (k + 1)) = true := by simp [hit, sampleDelegation]
  let advanced := s.lifecycle.delegations.update hit moved fun _ => rfl
  have delegation : s.lifecycle.delegations.rows = [sampleDelegation (k + 1)] := by
    rw [before]
    exact row
  have outbox : s.lifecycle.outboxEvents.rows = (List.range k).map sampleEvent := by
    rw [before]
    exact events
  have advance : s.lifecycle.advanceDelegation hit moved (fun _ => rfl)
      "delegation changed during criterion verification" =
      .ok { s.lifecycle with delegations := advanced } := by
    simp only [Delegation.Store.advanceDelegation, Delegation.Store.updateDelegations, bind_ok,
      ensure_ok]
    refine ⟨_, ⟨(), ?_, rfl⟩, (), ?_, rfl⟩
    · intro other _ taken
      simp only [hit, Bool.and_eq_true, decide_eq_true_eq] at taken
      refine ⟨rfl, rfl, .inl ?_⟩
      simp only [moved, taken.1.2]
      omega
    · rw [Table.matched, delegation]
      simp [hits]
  obtain ⟨noted, inserted⟩ := @Table.insert_fresh _ _ _ _ s.lifecycle.outboxEvents (sampleEvent k) <| by
    rw [outbox]
    exact fun other member => mark_fresh bound member
  have note : Delegation.Store.insertOutbox { s.lifecycle with delegations := advanced }
      (sampleEvent k) = .ok { s.lifecycle with delegations := advanced, outboxEvents := noted } := by
    have unused : ∀ other ∈ s.lifecycle.outboxEvents.rows,
        other.duplicateIdentity ≠ (sampleEvent k).duplicateIdentity ∧
        (other.eventName, other.aggregateId, other.aggregateRevision, other.causationId) ≠
          ((sampleEvent k).eventName, (sampleEvent k).aggregateId,
            (sampleEvent k).aggregateRevision, (sampleEvent k).causationId) := by
      rw [outbox]
      intro other member
      refine ⟨mark_fresh bound member, ?_⟩
      obtain ⟨i, inside, rfl⟩ := List.mem_map.mp member
      have below := List.mem_range.mp inside
      intro same
      have revision : (i : Int) + 1 + 1 = k + 1 + 1 := congrArg (fun fields => fields.2.2.1) same
      omega
    have positive : 0 < (sampleEvent k).aggregateRevision := by
      simp only [sampleEvent, verificationEvent, sampleVerification]
      omega
    simp only [Delegation.Store.insertOutbox, bind_ok, ensure_ok]
    exact ⟨(), positive, (), unused, by rw [inserted]⟩
  obtain ⟨verifierResults, stored⟩ := @Table.insert_fresh _ _ _ _ s.verifierResults (sampleResult k) <| by
    rw [verified.results]
    intro other member
    obtain ⟨i, inside, rfl⟩ := List.mem_map.mp member
    have below := List.mem_range.mp inside
    intro same
    have equal := sampleResultId_inj (by omega) bound same
    omega
  have store : Store.insertVerifierResult
      { s with lifecycle := { s.lifecycle with delegations := advanced, outboxEvents := noted } }
      (sampleResult k) = .ok { s with
        lifecycle := { s.lifecycle with delegations := advanced, outboxEvents := noted }
        verifierResults } := by
    have unused : ∀ other ∈ s.verifierResults.rows, (other.criterionId, other.resultRevision) ≠
        ((sampleResult k).criterionId, (sampleResult k).resultRevision) := by
      rw [verified.results]
      intro other member same
      have fresh : other.criterionId ≠ mark k := mark_fresh bound member
      exact fresh (congrArg Prod.fst same)
    simp only [Store.insertVerifierResult, bind_ok, ensure_ok]
    refine ⟨(), unused, (), ?_, by rw [stored]⟩
    have known : (s.loadCriterion ['d'] (mark k)).isSome = true := by
      rw [criterion_found verified bound]
      rfl
    exact known
  have kept : { s.lifecycle with delegations := advanced, outboxEvents := noted } =
      { sampleLifecycle with delegations := advanced, outboxEvents := noted } := by
    rw [before]
  refine ⟨_, verifierResults, ?_, ?_, advanced, noted, kept, ?_, ?_⟩
  · simp only [recordResult, bind_ok]
    exact ⟨_, advance, _, note, _, store, rfl⟩
  · rw [Table.insert?_rows stored, verified.results, List.range_succ, List.map_append]
    rfl
  · simp only [advanced, Table.update, delegation, List.map_cons, List.map_nil, hits, if_true]
    rfl
  · rw [Table.insert?_rows inserted, outbox, List.range_succ, List.map_append]
    rfl

theorem unverified (verified : Verified k s) (bound : k < 65) :
    s.verifierResults.find? (sampleResultId k) = none ∧ s.currentResultRevision (mark k) = 0 := by
  constructor
  · apply Table.find?_fresh
    rw [verified.results]
    intro other member same
    obtain ⟨i, inside, rfl⟩ := List.mem_map.mp member
    have below := List.mem_range.mp inside
    have equal := sampleResultId_inj (by omega) bound same
    omega
  · have none : s.verifierResults.rows.filter (·.criterionId = mark k) = [] := by
      rw [verified.results, List.filter_eq_nil_iff]
      intro other member same
      have fresh : other.criterionId ≠ mark k := mark_fresh bound member
      exact fresh (of_decide_eq_true same)
    simp only [Store.currentResultRevision, none, List.map_nil, List.foldl_nil]

theorem unheard (verified : Verified k s) (bound : k < 65) :
    ¬ ∃ event ∈ s.lifecycle.outboxEvents.rows, event.duplicateIdentity = mark k := by
  obtain ⟨_, outboxEvents, before, -, events⟩ := verified.lifecycle
  rw [before]
  rintro ⟨event, member, same⟩
  rw [show outboxEvents.rows = _ from events] at member
  have fresh : event.duplicateIdentity ≠ mark k := mark_fresh bound member
  exact fresh same

theorem shape_valid (bound : k < 65) : validateCommandShape (sampleVerification k) = .ok () := by
  have clean := mark_clean k bound
  have named : trimChars (sampleResultId k) ≠ [] := by
    apply List.ne_nil_of_mem
    apply @mem_trimChars _ 'v' _ (by decide)
    exact List.mem_append_left _ (by decide)
  have letter {c : Char} (visible : isWhitespace c = false) : trimChars [c] ≠ [] :=
    List.ne_nil_of_mem (mem_trimChars (List.mem_singleton_self c) visible)
  simp only [validateCommandShape, bind_ok, ensure_ok]
  refine ⟨(), ⟨clean, letter (by decide), letter (by decide), letter (by decide), clean, named,
    clean, Int.one_pos, ?_, Int.one_pos, Int.one_pos⟩, rfl, ?_, rfl, rfl, rfl, rfl, rfl, rfl, rfl,
    rfl, rfl, le_refl _⟩
  · simp only [sampleVerification]
    omega
  · simp only [sampleVerification, sampleReceipt]
    omega

/-- The transaction of the next verification. -/
theorem transaction_recorded (verified : Verified k s) (bound : k < 65)
    {out : AtomicReceiptMutation MutationValue × Store}
    (recorded : recordResult sampleCrates (sampleVerification k) (sampleEvaluation k) s = .ok out) :
    verifyInTransaction sampleCrates sampleWorld (sampleVerification k)
      (.authoritativeState (.task (mark k) "done".toList)) s = .ok out := by
  obtain ⟨fresh, revision⟩ := unverified verified bound
  have existing : existingResultMutation (sampleVerification k) s = none := by
    have none : s.verifierResults.find? (sampleVerification k).verifierResultId = none := fresh
    rw [existingResultMutation, none]
    rfl
  have current : (s.getDelegation (sampleVerification k).delegationId).bind
      (·.currentCriteriaRevision) = some (sampleVerification k).expectedCriteriaRevision := by
    rw [show s.getDelegation (sampleVerification k).delegationId = _ from delegation_found verified]
    rfl
  have counted : s.currentResultRevision (sampleVerification k).criterionId = 0 := revision
  have seen : evaluatePredicate sampleCrates.toCrates sampleWorld s
      (sampleVerification k).delegationId (.authoritativeState (.task (mark k) "done".toList)) =
      sampleEvaluation k := evaluated verified bound
  have silent : ¬ ∃ event ∈ s.lifecycle.outboxEvents.rows,
      event.duplicateIdentity = (sampleVerification k).write.idempotencyKey :=
    unheard verified bound
  unfold verifyInTransaction
  simp only [existing, current, counted, seen]
  rw [if_neg silent, if_neg (not_not.mpr rfl), if_neg (by decide),
    if_neg (show ¬ (sampleVerification k).expectedResultRevision ≠ 0 + 1 from not_not.mpr rfl),
    if_neg (show ¬ (sampleVerification k).receipt.evidence ≠ (sampleEvaluation k).receiptEvidence
      from not_not.mpr rfl)]
  exact recorded

theorem receipt_appended (verified : Verified k s) (bound : k < 65) {value : MutationValue}
    {next : Store} (links : next.authorityLinks = s.authorityLinks)
    (sources : next.sources = s.sources) (kept : next.receipts = s.receipts)
    (moved : next.getDelegation ['d'] = some (sampleDelegation ((k + 1 : Nat) + 1))) :
    ∃ receipts, appendAtomicReceipt sampleCrates sampleJournal (sampleVerification k).receipt
        value next = .ok (.appended value, { next with receipts }) ∧
      receipts.rows = (List.range (k + 1)).map sampleReceiptRow := by
  obtain ⟨receipts, inserted⟩ := @Table.insert_fresh _ _ _ _ next.receipts (sampleReceiptRow k) <| by
    rw [kept, verified.receipts]
    exact fun other member => mark_fresh bound member
  have cited : validateEvidence sampleCrates next ['d'] (receiptEvidence (sampleLink k)) =
      .ok () := by
    have link : sampleLink k ∈ next.authorityLinks.rows := by
      rw [links, verified.links]
      exact List.mem_map_of_mem (List.mem_range.mpr bound)
    have source : ("task".toList, mark k) ∈ next.sources := by
      rw [sources, verified.sources]
      exact List.mem_map.mpr ⟨k, List.mem_range.mpr bound, rfl⟩
    exact validateEvidence_ok.mpr ⟨⟨rfl, rfl, sampleLink k, link, rfl, rfl⟩, source⟩
  have normalized : normalizeAndValidateEvidence sampleCrates next ['d']
      [receiptEvidence (sampleLink k)] = .ok [receiptEvidence (sampleLink k)] := by
    simp only [normalizeAndValidateEvidence, bind_ok, ensure_ok, List.mergeSort_singleton]
    refine ⟨(), by simp, [()], ?_, rfl⟩
    rw [List.mapM_cons, cited]
    rfl
  refine ⟨receipts, ?_, ?_⟩
  · unfold appendAtomicReceipt
    rw [show next.getDelegation (sampleVerification k).receipt.delegationId = _ from moved]
    simp only [bind_ok, ensure_ok]
    refine ⟨(), ?_, _, normalized, (), rfl, { next with receipts }, ?_, rfl⟩
    · simp only [sampleDelegation, sampleVerification, sampleReceipt]
      omega
    · change next.insertReceipt (sampleReceiptRow k) = _
      rw [Store.insertReceipt, inserted]
  · rw [Table.insert?_rows inserted, kept, verified.receipts, List.range_succ, List.map_append]
    rfl

theorem verification_recorded (verified : Verified k s) (bound : k < 65) :
    ∃ outcome s', verifyCriterion sampleCrates sampleJournal sampleWorld (sampleVerification k) s =
      .ok (outcome, s') ∧ Verified (k + 1) s' := by
  obtain ⟨lifecycle, verifierResults, recorded, results, moved⟩ := result_recorded verified bound
  have advanced : lifecycle.getDelegation ['d'] = some (sampleDelegation ((k + 1 : Nat) + 1)) := by
    obtain ⟨delegations, outboxEvents, rfl, rows, -⟩ := moved
    simp only [Delegation.Store.getDelegation, Table.find?, rows]
    rfl
  obtain ⟨receipts, appended, rows⟩ := @receipt_appended _ _ verified bound
    (.recorded (sampleResult k)) { s with lifecycle, verifierResults } rfl rfl rfl advanced
  have transaction := transaction_recorded verified bound recorded
  obtain ⟨fresh, -⟩ := unverified verified bound
  refine ⟨.appended (.recorded (sampleResult k)), { s with lifecycle, verifierResults, receipts },
    ?_, verified.criteria,
    verified.links, verified.sources, results, rows, moved⟩
  have found : s.getDelegation (sampleVerification k).delegationId = _ := delegation_found verified
  have criterion : s.loadCriterion (sampleVerification k).delegationId
    (sampleVerification k).criterionId = _ := criterion_found verified bound
  have unreceipted : s.receipts.find? (sampleVerification k).receipt.causationEventId = none := by
    apply Table.find?_fresh
    rw [verified.receipts]
    exact fun other member => mark_fresh bound member
  have room : (sampleVerification k).expectedStateRevision < Delegation.MAX_REVISION := by
    simp only [sampleVerification, Delegation.MAX_REVISION]
    omega
  have unnamed : (s.verifierResults.find? (sampleVerification k).verifierResultId).isSome =
      false := by
    rw [show s.verifierResults.find? (sampleVerification k).verifierResultId = none from fresh]
    rfl
  unfold verifyCriterion
  rw [if_neg (not_not.mpr room), shape_valid bound]
  simp only [ok_bind]
  have identity : (sampleVerification k).verifierResultId = deterministicVerifierResultId
      sampleCrates (sampleVerification k).criterionId (sampleVerification k).expectedResultRevision
      (sampleVerification k).write.idempotencyKey := rfl
  rw [if_neg (not_not.mpr identity), unnamed, found, criterion]
  simp only [Bool.false_eq_true, if_false]
  rw [if_neg (by simp [sampleDelegation, sampleVerification, sampleCriterion])]
  simp only [show parseAndBindPredicate sampleCrates (sampleCriterion k)
    (sampleVerification k).delegationId = _ from parsed]
  unfold mutateWithAtomicReceiptAtRevision
  simp only [unreceipted, show s.getDelegation (sampleVerification k).receipt.delegationId = _ from
    delegation_found verified, bind_ok, ensure_ok]
  refine ⟨(), rfl, ?_⟩
  rw [if_neg (by simp [sampleDelegation, sampleVerification, sampleJournal])]
  simp only [bind_ok]
  refine ⟨_, transaction, ?_⟩
  simp only
  rw [if_neg (by simp [sampleDelegation, sampleVerification, sampleJournal])]
  exact appended

end Verifying

theorem elsewhere_same {s : Store} (sourced : ∀ link ∈ s.authorityLinks.rows,
    (link.kind.asStr, link.sourceId) ∈ s.sources) : Elsewhere s s :=
  ⟨⟨fun _ member => member, fun recorded => recorded⟩, rfl, rfl, rfl, fun _ member => .inl member,
    fun _ member => member, sourced⟩

/-- Each of the tasks is linked, made a criterion and verified. -/
theorem verified_run {k : Nat} (bound : k ≤ 65) :
    ∃ acts s, Run (Step sampleCrates) sampleStore acts s ∧ Verified k s := by
  induction k with
  | zero =>
    obtain ⟨authorityLinks, linked, links⟩ := links_inserted (le_refl 65)
    obtain ⟨criteria, added, rows⟩ :=
      @criteria_inserted { sampleStore with authorityLinks } rfl 65 (le_refl 65)
    have sourced : ∀ link ∈ authorityLinks.rows, (link.kind.asStr, link.sourceId) ∈
        sampleStore.sources := by
      rw [links]
      intro link member
      obtain ⟨i, inside, rfl⟩ := List.mem_map.mp member
      exact List.mem_map.mpr ⟨i, inside, rfl⟩
    have first := (@Run.nil _ _ (Step sampleCrates) sampleStore).snoc
      (l := Act.link ((List.range 65).map sampleLink)) ⟨_, linked, elsewhere_same sourced⟩
    have second := first.snoc
      (l := Act.criteria ((List.range 65).map sampleCriterion)) ⟨_, added, elsewhere_same sourced⟩
    exact ⟨_, _, second, rows, links, rfl, rfl, rfl, _, _, rfl, rfl, rfl⟩
  | succ k ih =>
    obtain ⟨acts, s, run, verified⟩ := ih (by omega)
    obtain ⟨outcome, s', done, next⟩ := verification_recorded verified (by omega)
    exact ⟨_, s', run.snoc (l := Act.verify sampleWorld sampleJournal (sampleVerification k))
      ⟨outcome, done⟩, next⟩

theorem firstSeen_of_mem {items : List ReceiptEvidenceInput} {item : ReceiptEvidenceInput}
    (member : item ∈ items) : item ∈ firstSeen items := by
  have grown : ∀ seen : List ReceiptEvidenceInput, item ∈ seen ∨ item ∈ items → item ∈ items.foldl
      (fun seen item => if item ∈ seen then seen else seen ++ [item]) seen := by
    clear member
    induction items with
    | nil => simp
    | cons head items ih =>
      intro seen known
      rw [List.foldl_cons]
      apply ih
      rcases known with earlier | known
      · left
        split
        · exact earlier
        · exact List.mem_append_left _ earlier
      · rcases List.mem_cons.mp known with rfl | later
        · left
          split
          · assumption
          · exact List.mem_append_right _ (List.mem_singleton_self _)
        · exact .inr later
  exact grown [] (.inr member)

/-- Every one of the verified links is evidence. -/
theorem link_cited {s : Store} (verified : Verified 65 s) {k : Nat} (bound : k < 65) :
    receiptEvidence (sampleLink k) ∈ evidenceOf s ['d'] 1 := by
  have inside := List.mem_range.mpr bound
  have latest : latestResult s ['d'] (mark k) = some (sampleResult k) := by
    apply highest_alone
    · rw [List.mem_filter, verified.results]
      exact ⟨List.mem_map_of_mem inside, by simp [sampleResult]⟩
    · intro other member
      rw [List.mem_filter, verified.results] at member
      obtain ⟨taken, hit⟩ := member
      obtain ⟨i, below, rfl⟩ := List.mem_map.mp taken
      simp only [sampleResult, Bool.and_eq_true, decide_eq_true_eq] at hit
      rw [mark_inj (List.mem_range.mp below) bound (of_decide_eq_true hit.2)]
  apply firstSeen_of_mem
  refine List.mem_flatMap.mpr ⟨some (sampleResultId k), List.mem_map.mpr
    ⟨sampleCriterion k, ?_, ?_⟩, List.mem_flatMap.mpr ⟨sampleReceiptRow k, ?_, ?_⟩⟩
  · rw [materialCriteria, List.mem_mergeSort, List.mem_filter, verified.criteria]
    exact ⟨List.mem_map_of_mem inside, by simp [sampleCriterion]⟩
  · rw [show latestResult s ['d'] (sampleCriterion k).criterionId = _ from latest]
    rfl
  · rw [List.mem_filter, verified.receipts]
    exact ⟨List.mem_map_of_mem inside, by
      simp [sampleReceiptRow, receiptRowOf, sampleVerification, sampleReceipt]⟩
  · exact List.mem_singleton_self _

theorem evidence_long {s : Store} (verified : Verified 65 s) :
    64 < (evidenceOf s ['d'] 1).length := by
  have distinct : ((List.range 65).map fun k => receiptEvidence (sampleLink k)).Nodup := by
    apply List.Nodup.map_on _ List.nodup_range
    intro i below j under same
    exact mark_inj (List.mem_range.mp below) (List.mem_range.mp under)
      (congrArg ReceiptEvidenceInput.sourceId same)
  have cited : ((List.range 65).map fun k => receiptEvidence (sampleLink k)) ⊆
      evidenceOf s ['d'] 1 := by
    intro item member
    obtain ⟨k, inside, rfl⟩ := List.mem_map.mp member
    exact link_cited verified (List.mem_range.mp inside)
  have longer := (List.subperm_of_subset distinct cited).length_le
  rw [List.length_map, List.length_range] at longer
  omega

/-- A delegation whose work is closed, with sixty-five verified criteria. -/
theorem excess_reachable : ∃ acts s, Initial sampleStore ∧
    Run (Step sampleCrates) sampleStore acts s ∧
    s.getDelegation ['d'] = some (sampleDelegation 66) ∧
    (sampleDelegation 66).phase.isTerminal = false ∧
    (sampleDelegation 66).runControl = .running ∧ materialCriteria s ['d'] 1 ≠ [] ∧
    remainingPathBlockers s ['d'] = [] ∧ ∀ J command outcome s', command.delegationId = ['d'] →
      assessCompletion sampleCrates J command s = .ok (outcome, s') →
      s' = s ∧ ∀ assessment, outcome ≠ .appended assessment := by
  obtain ⟨acts, s, run, verified⟩ := verified_run (le_refl 65)
  have found := delegation_found verified
  refine ⟨acts, s, ⟨rfl, rfl, rfl, rfl⟩, run, found, rfl, rfl, ?_, ?_, ?_⟩
  · apply List.ne_nil_of_mem
    rw [materialCriteria, List.mem_mergeSort, List.mem_filter, verified.criteria]
    exact ⟨List.mem_map_of_mem (List.mem_range.mpr (show 0 < 65 by omega)), rfl⟩
  · obtain ⟨_, _, lifecycle, -⟩ := verified.lifecycle
    simp only [remainingPathBlockers, lifecycle]
    rfl
  · intro J command outcome s' named done
    exact excess_refused (d := sampleDelegation 66) found rfl (evidence_long verified) named done

end Samples

end CarsinOS.Completion
