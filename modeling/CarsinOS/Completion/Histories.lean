import CarsinOS.Completion.Assessment
import CarsinOS.Delegation.Replay
import CarsinOS.Delegation.Run

/-! The histories of a store, and what every result and every receipt keeps in them. -/
namespace CarsinOS.Completion
open CarsinOS.Lib CarsinOS.Integrity CarsinOS.Receipt
open CarsinOS.Delegation (NewOutboxEvent Coordinator AtomicWrite DelegationRecord
  LifecycleTransitionRecord)

def Store.insertLink (s : Store) (row : LinkSource) : Anyhow Store := do
  ensure (row.authoritativeRevision = 0) "CHECK constraint failed: authoritative_revision = 0"
  ensure ((row.kind.asStr, row.sourceId) ∈ s.sources) "FOREIGN KEY constraint failed"
  ensure (∀ other ∈ s.authorityLinks.rows, (other.delegationId, other.kind.asStr, other.sourceId) ≠
      (row.delegationId, row.kind.asStr, row.sourceId))
    "UNIQUE constraint failed: execass_authority_links"
  match s.authorityLinks.insert? row with
  | some authorityLinks => .ok { s with authorityLinks }
  | none => bail "UNIQUE constraint failed: execass_authority_links.link_id"

def Store.insertCriterion (s : Store) (row : CriterionRow) : Anyhow Store := do
  ensure (∀ other ∈ s.criteria.rows, (other.delegationId, other.criteriaRevision,
      other.criterionKey) ≠ (row.delegationId, row.criteriaRevision, row.criterionKey))
    "UNIQUE constraint failed: execass_outcome_criteria"
  match s.criteria.insert? row with
  | some criteria => .ok { s with criteria }
  | none => bail "UNIQUE constraint failed: execass_outcome_criteria.criterion_id"

/-- A transition is recorded at a revision its delegation has reached. -/
def Recorded (l : Delegation.Store) : Prop :=
  ∀ t ∈ l.transitions.rows, ∃ d, l.getDelegation t.delegationId = some d ∧
    t.stateRevision ≤ d.stateRevision

/-- What the statements of other facades do to the lifecycle tables: events are never changed, and
a transition comes with the revision it records. -/
structure Beside (l l' : Delegation.Store) : Prop where
  events : ∀ event ∈ l.outboxEvents.rows, event ∈ l'.outboxEvents.rows
  recorded : Recorded l → Recorded l'

/-- What other facades leave of a store. Their receipts are not about verifier results, and a row
that is linked is not deleted. -/
structure Elsewhere (s s' : Store) : Prop where
  lifecycle : Beside s.lifecycle s'.lifecycle
  criteria : s'.criteria = s.criteria
  links : s'.authorityLinks = s.authorityLinks
  results : s'.verifierResults = s.verifierResults
  receipts : ∀ receipt ∈ s'.receipts.rows, receipt ∈ s.receipts.rows ∨
    receipt.subjectKind ≠ .verifierResult
  kept : ∀ receipt ∈ s.receipts.rows, receipt ∈ s'.receipts.rows
  sources : ∀ link ∈ s.authorityLinks.rows, (link.kind.asStr, link.sourceId) ∈ s'.sources

inductive Act where
  | verify (w : World) (J : Coordinator) (command : VerifyCriterionCommand)
  | assess (J : Coordinator) (command : AssessCompletionCommand)
  | link (rows : List LinkSource)
  | criteria (rows : List CriterionRow)
  | elsewhere

section Steps
variable (D : CriterionCrates)

/-- One operation. Links and criteria come with other statements of their facades. -/
def Step (s : Store) (act : Act) (s' : Store) : Prop :=
  match act with
  | .verify w J command => ∃ outcome, verifyCriterion D J w command s = .ok (outcome, s')
  | .assess J command => ∃ outcome, assessCompletion D J command s = .ok (outcome, s')
  | .link rows => ∃ next, rows.foldlM Store.insertLink s = .ok next ∧ Elsewhere next s'
  | .criteria rows => ∃ next, rows.foldlM Store.insertCriterion s = .ok next ∧ Elsewhere next s'
  | .elsewhere => Elsewhere s s'

end Steps

/-- The item is clean and cites a link of the delegation. -/
structure Supported (D : CriterionCrates) (links : List LinkSource) (delegationId : Text)
    (item : ReceiptEvidenceInput) : Prop where
  clean : D.cleanEvidence item = true
  revision : item.authoritativeRevision = 0
  cited : ∃ link ∈ links, Cites item delegationId link

/-- Every result has its one receipt, and what the receipts cite still stands. -/
structure Backed (D : CriterionCrates) (s : Store) : Prop where
  bound : ∀ v ∈ s.verifierResults.rows, ∃ receipt ∈ s.receipts.rows,
    receiptBinds D s v.delegationId v receipt = true
  sole : ∀ first ∈ s.receipts.rows, ∀ second ∈ s.receipts.rows,
    first.subjectKind = .verifierResult → second.subjectKind = .verifierResult →
    first.subjectId = second.subjectId → first = second
  about : ∀ receipt ∈ s.receipts.rows, receipt.subjectKind = .verifierResult →
    ∃ v ∈ s.verifierResults.rows, v.verifierResultId = receipt.subjectId
  supported : ∀ receipt ∈ s.receipts.rows, receipt.subjectKind = .verifierResult →
    ∀ item ∈ receipt.evidence, Supported D s.authorityLinks.rows receipt.delegationId item
  sourced : ∀ link ∈ s.authorityLinks.rows, (link.kind.asStr, link.sourceId) ∈ s.sources
  observed : ∀ first ∈ s.authorityLinks.rows, ∀ second ∈ s.authorityLinks.rows,
    first.delegationId = second.delegationId → first.kind.asStr = second.kind.asStr →
    first.sourceId = second.sourceId → first = second
  recorded : Recorded s.lifecycle

section Preservation
variable {D : CriterionCrates}

theorem event_kept {l l' : Delegation.Store} (kept : ∀ event ∈ l.outboxEvents.rows,
    event ∈ l'.outboxEvents.rows) {eventId : Text} {event : NewOutboxEvent}
    (found : l.outboxEvents.find? eventId = some event) :
    l'.outboxEvents.find? eventId = some event := by
  have member := kept event (Table.find?_mem found)
  rw [← Table.find?_key found]
  exact Table.find?_of_mem member

theorem binds_kept {s s' : Store} (kept : ∀ event ∈ s.lifecycle.outboxEvents.rows,
    event ∈ s'.lifecycle.outboxEvents.rows) {delegationId : Text} {v : VerifierResultRecord}
    {receipt : ReceiptRow} (binds : receiptBinds D s delegationId v receipt = true) :
    receiptBinds D s' delegationId v receipt = true := by
  simp only [receiptBinds, Bool.and_eq_true] at binds ⊢
  obtain ⟨⟨fields, told⟩, identity⟩ := binds
  refine ⟨⟨fields, ?_⟩, identity⟩
  cases found : s.lifecycle.outboxEvents.find? receipt.causationEventId with
  | none => simp [found] at told
  | some event =>
    rw [event_kept kept found]
    simpa [found] using told

theorem backed_elsewhere {s s' : Store} (backed : Backed D s) (other : Elsewhere s s') :
    Backed D s' := by
  have known : ∀ receipt ∈ s'.receipts.rows, receipt.subjectKind = .verifierResult →
      receipt ∈ s.receipts.rows := fun receipt member about =>
    (other.receipts receipt member).resolve_right fun no => no about
  refine ⟨?_, ?_, ?_, ?_, ?_, ?_, other.lifecycle.recorded backed.recorded⟩
  · intro v member
    rw [other.results] at member
    obtain ⟨receipt, present, binds⟩ := backed.bound v member
    exact ⟨receipt, other.kept receipt present, binds_kept other.lifecycle.events binds⟩
  · intro first one second two aboutFirst aboutSecond
    exact backed.sole first (known first one aboutFirst) second (known second two aboutSecond)
      aboutFirst aboutSecond
  · intro receipt member about
    rw [other.results]
    exact backed.about receipt (known receipt member about) about
  · intro receipt member about
    rw [other.links]
    exact backed.supported receipt (known receipt member about) about
  · intro link member
    rw [other.links] at member
    exact other.sources link member
  · rw [other.links]
    exact backed.observed

theorem insertLink_backed {s s' : Store} {row : LinkSource} (backed : Backed D s)
    (done : s.insertLink row = .ok s') : Backed D s' := by
  simp only [Store.insertLink, bind_ok, ensure_ok] at done
  obtain ⟨-, -, -, source, -, unique, rest⟩ := done
  split at rest <;> cases rest
  rename_i authorityLinks inserted
  have rows := Table.insert?_rows inserted
  refine ⟨backed.bound, backed.sole, backed.about, ?_, ?_, ?_, backed.recorded⟩
  · intro receipt member about item cited
    obtain ⟨clean, revision, link, present, cites⟩ := backed.supported receipt member about item cited
    exact ⟨clean, revision, link, by simp [rows, present], cites⟩
  · intro link member
    rw [rows, List.mem_append, List.mem_singleton] at member
    rcases member with old | rfl
    · exact backed.sourced link old
    · exact source
  · intro first one second two delegation kind observed
    rw [rows, List.mem_append, List.mem_singleton] at one two
    rcases one with one | rfl <;> rcases two with two | rfl
    · exact backed.observed first one second two delegation kind observed
    · exact absurd (by rw [delegation, kind, observed]) (unique first one)
    · exact absurd (by rw [delegation, kind, observed]) (unique second two)
    · rfl

theorem insertCriterion_backed {s s' : Store} {row : CriterionRow} (backed : Backed D s)
    (done : s.insertCriterion row = .ok s') : Backed D s' := by
  simp only [Store.insertCriterion, bind_ok, ensure_ok] at done
  obtain ⟨-, -, rest⟩ := done
  split at rest <;> cases rest
  exact ⟨backed.bound, backed.sole, backed.about, backed.supported, backed.sourced,
    backed.observed, backed.recorded⟩

theorem foldlM_backed {ρ : Type} {insert : Store → ρ → Anyhow Store} {rows : List ρ}
    (one : ∀ {s s' row}, Backed D s → insert s row = .ok s' → Backed D s') {s s' : Store}
    (backed : Backed D s) (done : rows.foldlM insert s = .ok s') : Backed D s' := by
  induction rows generalizing s with
  | nil =>
    cases done
    exact backed
  | cons row rows ih =>
    rw [List.foldlM_cons] at done
    obtain ⟨next, first, rest⟩ := bind_ok.mp done
    exact ih (one backed first) rest

/-! A receipt is appended at the end of a mutation, or nothing but the mutation happens. -/

theorem pushEvidence_mem {items done out : List ReceiptEvidenceInput}
    (pushed : items.foldlM pushEvidence done = .ok out) :
    ∀ item ∈ out, item ∈ done ∨ item ∈ items := by
  induction items generalizing done with
  | nil =>
    cases pushed
    exact fun item member => .inl member
  | cons next items ih =>
    rw [List.foldlM_cons] at pushed
    obtain ⟨longer, first, rest⟩ := bind_ok.mp pushed
    have grown : ∀ item ∈ longer, item ∈ done ∨ item = next := by
      unfold pushEvidence at first
      split at first
      · cases first
        simp
      · split at first
        · split at first <;> cases first
          exact fun item member => .inl member
        · cases first
          simp
    intro item member
    rcases ih rest item member with earlier | later
    · rcases grown item earlier with old | rfl
      · exact .inl old
      · exact .inr List.mem_cons_self
    · exact .inr (List.mem_cons_of_mem _ later)

theorem mapM_each {ρ τ : Type} {f : ρ → Anyhow τ} {rows : List ρ} {out : List τ}
    (done : rows.mapM f = .ok out) : ∀ row ∈ rows, ∃ value, f row = .ok value := by
  induction rows generalizing out with
  | nil => simp
  | cons row rows ih =>
    rw [List.mapM_cons] at done
    obtain ⟨value, first, rest⟩ := bind_ok.mp done
    obtain ⟨values, others, -⟩ := bind_ok.mp rest
    intro other member
    rcases List.mem_cons.mp member with rfl | later
    · exact ⟨value, first⟩
    · exact ih others other later

theorem validateEvidence_ok {s : Store} {delegationId : Text} {item : ReceiptEvidenceInput}
    {u : Unit} : validateEvidence D s delegationId item = .ok u ↔
      Supported D s.authorityLinks.rows delegationId item ∧ (item.kind, item.sourceId) ∈ s.sources := by
  simp only [validateEvidence, bind_ok, ensure_ok, exists_and_left, exists_const]
  constructor
  · rintro ⟨clean, revision, cited, source⟩
    exact ⟨⟨clean, revision, cited⟩, source⟩
  · rintro ⟨⟨clean, revision, cited⟩, source⟩
    exact ⟨clean, revision, cited, source⟩

theorem normalize_supported {s : Store} {delegationId : Text}
    {evidence out : List ReceiptEvidenceInput}
    (done : normalizeAndValidateEvidence D s delegationId evidence = .ok out) :
    ∀ item ∈ out, Supported D s.authorityLinks.rows delegationId item := by
  simp only [normalizeAndValidateEvidence, bind_ok, ensure_ok] at done
  obtain ⟨-, -, _, valid, pushed⟩ := done
  intro item member
  rcases pushEvidence_mem pushed item member with none | given
  · cases none
  · obtain ⟨_, accepted⟩ := mapM_each valid item (List.mem_mergeSort.mp given)
    exact (validateEvidence_ok.mp accepted).1

theorem insertReceipt_rows {s s' : Store} {row : ReceiptRow} (done : s.insertReceipt row = .ok s') :
    ∃ receipts, s' = { s with receipts } ∧ receipts.rows = s.receipts.rows ++ [row] := by
  unfold Store.insertReceipt at done
  split at done <;> cases done
  rename_i receipts inserted
  exact ⟨receipts, rfl, Table.insert?_rows inserted⟩

/-- An appended receipt holds evidence of the store the mutation left. -/
theorem append_cases {T : Type} {J : Coordinator} {command : AppendReceiptCommand} {value : T}
    {next s' : Store} {outcome : AtomicWrite T}
    (done : appendAtomicReceipt D J command value next = .ok (outcome, s')) :
    outcome = .appended value ∧ ∃ evidence receipts,
      (∀ item ∈ evidence, Supported D next.authorityLinks.rows command.delegationId item) ∧
      s' = { next with receipts } ∧
      receipts.rows = next.receipts.rows ++ [receiptRowOf command evidence] := by
  unfold appendAtomicReceipt at done
  split at done
  · cases done
  · simp only [bind_ok, ensure_ok] at done
    obtain ⟨-, -, evidence, normalized, -, -, last, inserted, same⟩ := done
    obtain ⟨rfl, rfl⟩ := Prod.mk.inj (Except.ok.inj same)
    obtain ⟨receipts, rfl, rows⟩ := insertReceipt_rows inserted
    exact ⟨rfl, evidence, receipts, normalize_supported normalized, rfl, rows⟩

/-- What `mutate_with_atomic_receipt` can do. -/
theorem mutate_cases {T : Type} {J : Coordinator} {command : AppendReceiptCommand} {expected : Int}
    {precheck : Bool} {mutation : Store → Anyhow (AtomicReceiptMutation T × Store)}
    {s s' : Store} {outcome : AtomicWrite T}
    (done : mutateWithAtomicReceiptAtRevision D J command expected precheck mutation s =
      .ok (outcome, s')) :
    (∃ value, mutation s = .ok (.noAppend value, s') ∧ outcome = .noAppend value) ∨
      s' = s ∧ outcome = .stale ∨
      ∃ value next, mutation s = .ok (.append value, next) ∧
        appendAtomicReceipt D J command value next = .ok (outcome, s') := by
  simp only [mutateWithAtomicReceiptAtRevision, bind_ok, ensure_ok] at done
  obtain ⟨-, -, done⟩ := done
  split at done
  · obtain ⟨⟨mutated, next⟩, moved, rest⟩ := bind_ok.mp done
    cases mutated with
    | noAppend value =>
      obtain ⟨rfl, rfl⟩ := Prod.mk.inj (Except.ok.inj rest)
      exact .inl ⟨value, moved, rfl⟩
    | append value => cases rest
  · split at done
    · cases done
    · split at done
      · obtain ⟨rfl, rfl⟩ := Prod.mk.inj (Except.ok.inj done)
        exact .inr (.inl ⟨rfl, rfl⟩)
      · obtain ⟨⟨mutated, next⟩, moved, rest⟩ := bind_ok.mp done
        cases mutated with
        | noAppend value =>
          obtain ⟨rfl, rfl⟩ := Prod.mk.inj (Except.ok.inj rest)
          exact .inl ⟨value, moved, rfl⟩
        | append value =>
          simp only at rest
          split at rest
          · obtain ⟨rfl, rfl⟩ := Prod.mk.inj (Except.ok.inj rest)
            exact .inr (.inl ⟨rfl, rfl⟩)
          · exact .inr (.inr ⟨value, next, moved, rest⟩)

/-! The statements of the lifecycle tables. -/

theorem advance_recorded {l l' : Delegation.Store} {p : DelegationRecord → Bool}
    {f : DelegationRecord → DelegationRecord}
    {keeps : ∀ row, (f row).delegationId = row.delegationId} {lost : String}
    (done : l.advanceDelegation p f keeps lost = .ok l') (recorded : Recorded l) :
    Recorded l' ∧ l'.outboxEvents = l.outboxEvents := by
  obtain ⟨updated, -⟩ := Delegation.advanceDelegation_ok done
  obtain ⟨monotonic, rfl⟩ := Delegation.updateDelegations_ok updated
  refine ⟨?_, rfl⟩
  intro t member
  obtain ⟨d, found, reached⟩ := recorded t member
  refine ⟨if p d = true then f d else d, ?_, ?_⟩
  · change (l.delegations.update p f keeps).find? t.delegationId = _
    rw [Table.find?_update, show l.delegations.find? t.delegationId = some d from found]
    rfl
  · split
    · rename_i hit
      have later := (monotonic d (Table.find?_mem found) hit).2.2
      rcases later with later | ⟨same, -⟩ <;> omega
    · exact reached

theorem advanced_row {l l' : Delegation.Store} {p : DelegationRecord → Bool}
    {f : DelegationRecord → DelegationRecord}
    {keeps : ∀ row, (f row).delegationId = row.delegationId} {lost : String}
    (done : l.advanceDelegation p f keeps lost = .ok l') {d : DelegationRecord}
    (present : d ∈ l.delegations.rows) (hit : p d = true) :
    l'.getDelegation d.delegationId = some (f d) := by
  obtain ⟨updated, -⟩ := Delegation.advanceDelegation_ok done
  obtain ⟨-, rfl⟩ := Delegation.updateDelegations_ok updated
  simp only [Delegation.Store.getDelegation, Table.find?_update, Table.find?_of_mem present,
    Option.map_some, hit, if_true]

theorem outbox_recorded {l l' : Delegation.Store} {event : NewOutboxEvent}
    (done : l.insertOutbox event = .ok l') (recorded : Recorded l) :
    Recorded l' ∧ l'.outboxEvents.rows = l.outboxEvents.rows ++ [event] := by
  obtain ⟨-, outboxEvents, rfl, rows⟩ := Delegation.insertOutbox_rows done
  exact ⟨recorded, rows⟩

/-! The verification. -/

theorem integerTree_number {value : Int} (low : -2 ^ 63 ≤ value) (high : value < 2 ^ 63) :
    asI64 (integerTree value) = some value ∧ (integerTree value).Everywhere Spelled := by
  have text : integerTree value = .num (I64.toText ⟨value, low, high⟩) := rfl
  rw [text]
  constructor
  · simp only [asI64, integerValue_toText, Option.map_some]
  · exact Json.everywhere.mpr ⟨toText_number _, by simp [Json.children]⟩

theorem payload_told {criterionId : Text} {result : CriterionVerificationResult} {revision : Int}
    (low : -2 ^ 63 ≤ revision) (high : revision < 2 ^ 63) {key : String} {value : Json}
    (field : (verificationPayload criterionId result revision).lookup key.toList = some value) :
    D.extract (Json.obj (verificationPayload criterionId result revision)).print key =
      some value := by
  rw [D.extract_print, field]
  · apply Json.everywhere.mpr
    refine ⟨trivial, ?_⟩
    have number := (integerTree_number low high).2
    simp only [verificationPayload, Json.children, List.map_cons, List.map_nil, List.mem_cons,
      List.not_mem_nil, or_false]
    rintro t (rfl | rfl | rfl | rfl)
    · exact Json.everywhere.mpr ⟨trivial, by simp [Json.children]⟩
    · exact Json.everywhere.mpr ⟨trivial, by simp [Json.children]⟩
    · exact number
    · exact Json.everywhere.mpr ⟨trivial, by simp [Json.children]⟩
  · change ["criterion_id".toList, "result".toList, "result_revision".toList,
      "verifier_identity".toList].Nodup
    decide

/-- What a recorded result leaves. -/
theorem recordResult_ok {s next : Store} {command : VerifyCriterionCommand}
    {evaluation : Evaluation} {mutated : AtomicReceiptMutation MutationValue}
    (done : recordResult D command evaluation s = .ok (mutated, next)) :
    ∃ lifecycle verifierResults v, next = { s with lifecycle, verifierResults } ∧
      verifierResults.rows = s.verifierResults.rows ++ [v] ∧
      (∀ other ∈ s.verifierResults.rows, other.verifierResultId ≠ command.verifierResultId) ∧
      v.verifierResultId = command.verifierResultId ∧ v.delegationId = command.delegationId ∧
      v.criterionId = command.criterionId ∧ v.result = evaluation.result ∧
      v.resultRevision = command.expectedResultRevision ∧
      v.verifierIdentity = CRITERION_VERIFIER_IDENTITY ∧
      (Recorded s.lifecycle → Recorded lifecycle) ∧
      lifecycle.outboxEvents.rows =
        s.lifecycle.outboxEvents.rows ++ [verificationEvent command evaluation.result] := by
  simp only [recordResult, bind_ok] at done
  obtain ⟨advanced, moved, lifecycle, noted, kept, stored, same⟩ := done
  obtain ⟨rfl, rfl⟩ := Prod.mk.inj (Except.ok.inj same)
  simp only [Store.insertVerifierResult, bind_ok, ensure_ok] at stored
  obtain ⟨-, -, -, -, stored⟩ := stored
  split at stored <;> cases stored
  rename_i verifierResults inserted
  have rows := Table.insert?_rows inserted
  refine ⟨lifecycle, verifierResults, _, rfl, rows, ?_, rfl, rfl, rfl, rfl, rfl, rfl, ?_, ?_⟩
  · intro other member taken
    have distinct := verifierResults.distinct
    rw [rows, List.map_append, List.nodup_append] at distinct
    exact distinct.2.2 _ (List.mem_map_of_mem member) _ (by simp) taken
  · exact fun recorded => (outbox_recorded noted (advance_recorded moved recorded).1).1
  · obtain ⟨-, outboxEvents, rfl, rows⟩ := Delegation.insertOutbox_rows noted
    obtain ⟨updated, -⟩ := Delegation.advanceDelegation_ok moved
    obtain ⟨-, rfl⟩ := Delegation.updateDelegations_ok updated
    exact rows

theorem verifyInTransaction_cases {w : World} {s next : Store} {command : VerifyCriterionCommand}
    {predicate : CriterionPredicate} {mutated : AtomicReceiptMutation MutationValue}
    (done : verifyInTransaction D w command predicate s = .ok (mutated, next)) :
    (∃ value, mutated = .noAppend value) ∧ next = s ∨
      ∃ evaluation, command.expectedResultRevision ≤ Delegation.MAX_REVISION ∧
        recordResult D command evaluation s = .ok (mutated, next) := by
  unfold verifyInTransaction at done
  have quiet {value : MutationValue}
      (same : (.ok (.noAppend value, s) : Anyhow (AtomicReceiptMutation MutationValue × Store)) =
        .ok (mutated, next)) : (∃ value, mutated = .noAppend value) ∧ next = s := by
    obtain ⟨rfl, rfl⟩ := Prod.mk.inj (Except.ok.inj same)
    exact ⟨⟨value, rfl⟩, rfl⟩
  split at done
  · exact .inl (quiet done)
  · split at done
    · exact .inl (quiet done)
    · simp only at done
      split at done
      · exact .inl (quiet done)
      · split at done
        · exact .inl (quiet done)
        · split at done
          · exact .inl (quiet done)
          · split at done
            · exact .inl (quiet done)
            · rename_i room exact _
              refine .inr ⟨_, ?_, done⟩
              simp only [not_not] at room exact
              omega

theorem record_backed {s next s' : Store} {J : Coordinator} {command : VerifyCriterionCommand}
    {evaluation : Evaluation} {value : MutationValue} {outcome : AtomicWrite MutationValue}
    (backed : Backed D s) (shape : validateCommandShape command = .ok ())
    (room : command.expectedResultRevision ≤ Delegation.MAX_REVISION)
    (recorded : recordResult D command evaluation s = .ok (.append value, next))
    (appended : appendAtomicReceipt D J command.receipt value next = .ok (outcome, s')) :
    Backed D s' := by
  simp only [validateCommandShape, bind_ok, ensure_ok, exists_const] at shape
  obtain ⟨⟨-, -, -, -, -, -, -, -, -, positive, -⟩, delegation, revision, kind, subject, subjectId,
    subjectRevision, causation, event, actor, -⟩ := shape
  obtain ⟨lifecycle, verifierResults, v, rfl, results, fresh, id, owner, criterion, result,
    resultRevision, identity, history, events⟩ := recordResult_ok recorded
  obtain ⟨-, evidence, receipts, supported, rfl, rows⟩ := append_cases appended
  simp only at rows supported
  have kept : ∀ e ∈ s.lifecycle.outboxEvents.rows, e ∈ lifecycle.outboxEvents.rows := by
    intro e member
    simp [events, member]
  have unheard : ∀ receipt ∈ s.receipts.rows, receipt.subjectKind = .verifierResult →
      receipt.subjectId ≠ command.verifierResultId := by
    intro receipt member about same
    obtain ⟨other, stored, named⟩ := backed.about receipt member about
    exact fresh other stored (named.trans same)
  have told : receiptBinds D { s with lifecycle, verifierResults, receipts } command.delegationId v
      (receiptRowOf command.receipt evidence) = true := by
    have found : lifecycle.outboxEvents.find? command.outboxEventId =
        some (verificationEvent command evaluation.result) := by
      have member : verificationEvent command evaluation.result ∈ lifecycle.outboxEvents.rows := by
        simp [events]
      exact Table.find?_of_mem member
    have low : -2 ^ 63 ≤ command.expectedResultRevision := by omega
    have high : command.expectedResultRevision < 2 ^ 63 := by
      unfold Delegation.MAX_REVISION at room
      omega
    have field {key : String} {value : Json} (known : (verificationPayload command.criterionId
        evaluation.result command.expectedResultRevision).lookup key.toList = some value) :
        D.extract (verificationEvent command evaluation.result).safePayloadJson key = some value :=
      payload_told low high known
    have tells : eventTells D command.delegationId v (receiptRowOf command.receipt evidence)
        (verificationEvent command evaluation.result) = true := by
      have criterionTold := @field "criterion_id" _ rfl
      have resultTold := @field "result" _ rfl
      have revisionTold := @field "result_revision" _ rfl
      have identityTold := @field "verifier_identity" _ rfl
      simp only [eventTells, criterionTold, resultTold, revisionTold, identityTold]
      simp [verificationEvent, receiptRowOf, criterion, result, resultRevision, revision, causation,
        asStr, (integerTree_number low high).1]
    simpa [receiptBinds, receiptRowOf, delegation, kind, actor, subject, subjectId,
      subjectRevision, id, resultRevision, identity, event, found] using tells
  refine ⟨?_, ?_, ?_, ?_, backed.sourced, backed.observed, history backed.recorded⟩
  · intro other member
    simp only [results, List.mem_append, List.mem_singleton] at member
    rcases member with old | rfl
    · obtain ⟨receipt, present, binds⟩ := backed.bound other old
      exact ⟨receipt, by simp [rows, present], binds_kept kept binds⟩
    · refine ⟨receiptRowOf command.receipt evidence, by simp [rows], ?_⟩
      rw [owner]
      exact told
  · intro first one second two aboutFirst aboutSecond same
    simp only [rows, List.mem_append, List.mem_singleton] at one two
    rcases one with one | rfl <;> rcases two with two | rfl
    · exact backed.sole first one second two aboutFirst aboutSecond same
    · exact absurd (same.trans subjectId) (unheard first one aboutFirst)
    · exact absurd (same.symm.trans subjectId) (unheard second two aboutSecond)
    · rfl
  · intro receipt member about
    simp only [rows, List.mem_append, List.mem_singleton] at member
    rcases member with old | rfl
    · obtain ⟨other, stored, named⟩ := backed.about receipt old about
      exact ⟨other, by simp [results, stored], named⟩
    · exact ⟨v, by simp [results], id.trans subjectId.symm⟩
  · intro receipt member about
    simp only [rows, List.mem_append, List.mem_singleton] at member
    rcases member with old | rfl
    · exact backed.supported receipt old about
    · exact supported

theorem verify_backed {w : World} {J : Coordinator} {s s' : Store}
    {command : VerifyCriterionCommand} {outcome : AtomicWrite MutationValue} (backed : Backed D s)
    (done : verifyCriterion D J w command s = .ok (outcome, s')) : Backed D s' := by
  have quiet {value : AtomicWrite MutationValue}
      (same : (.ok (value, s) : Anyhow (AtomicWrite MutationValue × Store)) = .ok (outcome, s')) :
      Backed D s' := by
    obtain ⟨-, rfl⟩ := Prod.mk.inj (Except.ok.inj same)
    exact backed
  unfold verifyCriterion at done
  split at done
  · exact quiet done
  · obtain ⟨_, shape, rest⟩ := bind_ok.mp done
    split at rest
    · exact quiet rest
    · split at rest
      · rcases mutate_cases rest with ⟨value, moved, -⟩ | ⟨rfl, -⟩ | ⟨value, next, moved, -⟩
        · unfold replayVerification at moved
          split at moved
          · obtain ⟨-, rfl⟩ := Prod.mk.inj (Except.ok.inj moved)
            exact backed
          · cases moved
        · exact backed
        · unfold replayVerification at moved
          split at moved <;> cases moved
      · split at rest
        · exact quiet rest
        · exact quiet rest
        · split at rest
          · exact quiet rest
          · split at rest
            · exact quiet rest
            · rcases mutate_cases rest with ⟨value, moved, -⟩ | ⟨rfl, -⟩ | ⟨value, next, moved, appended⟩
              · rcases verifyInTransaction_cases moved with ⟨-, rfl⟩ | ⟨evaluation, -, recorded⟩
                · exact backed
                · simp only [recordResult, bind_ok] at recorded
                  obtain ⟨_, -, _, -, _, -, same⟩ := recorded
                  cases same
              · exact backed
              · rcases verifyInTransaction_cases moved with ⟨⟨_, none⟩, -⟩ | ⟨_, room, recorded⟩
                · cases none
                · exact record_backed backed shape room recorded appended

/-! The assessment. -/

/-- What the statements of a completion leave. -/
theorem terminalize_ok {command : AssessCompletionCommand} {snapshot : AssessmentSnapshot}
    {current : DelegationRecord} {l l' : Delegation.Store} (named : current.delegationId =
      command.delegationId) (done : terminalize D command snapshot current l = .ok l') :
    (∀ event ∈ l.outboxEvents.rows, event ∈ l'.outboxEvents.rows) ∧
      (Recorded l → Recorded l') := by
  simp only [terminalize, bind_ok] at done
  obtain ⟨noted, outbox, advanced, moved, assessed, stored, recorded⟩ := done
  obtain ⟨-, outboxEvents, rfl, rows⟩ := Delegation.insertOutbox_rows outbox
  obtain ⟨completionAssessments, rfl⟩ := Delegation.insertAssessment_ok stored
  obtain ⟨updated, d, present, hit⟩ := Delegation.advanceDelegation_ok moved
  have history := fun old => (advance_recorded moved old).1
  have row := advanced_row moved present hit
  obtain ⟨-, rfl⟩ := Delegation.updateDelegations_ok updated
  simp only [Bool.and_eq_true, decide_eq_true_eq] at hit
  rw [hit.1.1] at row
  simp only [Delegation.Store.recordTransition, bind_ok] at recorded
  obtain ⟨snapshot, -, inserted⟩ := recorded
  simp only [Delegation.Store.insertTransition, bind_ok] at inserted
  obtain ⟨-, -, inserted⟩ := inserted
  split at inserted <;> cases inserted
  rename_i transitions inserted
  constructor
  · intro event member
    simp [rows, member]
  · intro old t member
    rw [Table.insert?_rows inserted, List.mem_append, List.mem_singleton] at member
    rcases member with earlier | rfl
    · exact history old t earlier
    · simp only [Delegation.Store.getDelegation, named] at row ⊢
      exact ⟨_, row, le_refl _⟩

theorem assessInTransaction_cases {s next : Store} {command : AssessCompletionCommand}
    {mutated : AtomicReceiptMutation AssessmentMutation}
    (done : assessInTransaction D command s = .ok (mutated, next)) :
    (∃ value, mutated = .noAppend value) ∧ next = s ∨ ∃ value current lifecycle,
      mutated = .append value ∧ s.getDelegation command.delegationId = some current ∧
      current.currentCriteriaRevision = some command.expectedCriteriaRevision ∧
      (collectedEvidence s ((buildSnapshot D s command.delegationId
        command.expectedCriteriaRevision (loadMaterialCriteria D s command.delegationId
          command.expectedCriteriaRevision)).criteria.map (·.verifierResultId))).length ≤ 64 ∧
      terminalize D command (buildSnapshot D s command.delegationId
        command.expectedCriteriaRevision (loadMaterialCriteria D s command.delegationId
          command.expectedCriteriaRevision)) current s.lifecycle = .ok lifecycle ∧
      next = { s with lifecycle
                      assessmentCommands :=
                        (completionEventId D (completionAssessmentId D command), command) ::
                          s.assessmentCommands } := by
  have quiet {value : AssessmentMutation}
      (same : (.ok (.noAppend value, s) :
        Anyhow (AtomicReceiptMutation AssessmentMutation × Store)) = .ok (mutated, next)) :
      (∃ value, mutated = .noAppend value) ∧ next = s := by
    obtain ⟨rfl, rfl⟩ := Prod.mk.inj (Except.ok.inj same)
    exact ⟨⟨value, rfl⟩, rfl⟩
  unfold assessInTransaction at done
  simp only at done
  split at done
  · split at done
    · exact .inl (quiet done)
    · exact .inl (quiet done)
  · split at done
    · cases done
    · rename_i current found
      obtain ⟨_, -, done⟩ := bind_ok.mp done
      split at done
      · exact .inl (quiet done)
      · rename_i revision
        obtain ⟨_, -, done⟩ := bind_ok.mp done
        split at done
        · exact .inl (quiet done)
        · split at done
          · exact .inl (quiet done)
          · split at done
            · exact .inl (quiet done)
            · simp only [completionReceiptEvidence, bind_ok, ensure_ok] at done
              obtain ⟨evidence, ⟨-, bound, -⟩, -, -, lifecycle, ended, same⟩ := done
              obtain ⟨rfl, rfl⟩ := Prod.mk.inj (Except.ok.inj same)
              exact .inr ⟨_, current, lifecycle, rfl, found, not_not.mp revision, bound, ended, rfl⟩

theorem assess_backed {J : Coordinator} {s s' : Store} {command : AssessCompletionCommand}
    {outcome : AtomicWrite AssessmentMutation} (backed : Backed D s)
    (done : assessCompletion D J command s = .ok (outcome, s')) : Backed D s' := by
  simp only [assessCompletion, validateAssessmentCommand, bind_ok, ensure_ok] at done
  obtain ⟨_, ⟨_, -, _, -, _, -, -, -, subject, -⟩, _, -, rest⟩ := done
  rcases mutate_cases rest with ⟨value, moved, -⟩ | ⟨rfl, -⟩ | ⟨value, next, moved, appended⟩
  · rcases assessInTransaction_cases moved with ⟨-, rfl⟩ | ⟨_, _, _, none, -⟩
    · exact backed
    · cases none
  · exact backed
  · rcases assessInTransaction_cases moved with ⟨⟨_, none⟩, -⟩ | ⟨_, current, lifecycle, -, found,
      -, -, ended, rfl⟩
    · cases none
    · obtain ⟨kept, history⟩ := terminalize_ok (Table.find?_key found) ended
      obtain ⟨-, evidence, receipts, -, rfl, rows⟩ := append_cases appended
      simp only at rows
      have older : ∀ receipt ∈ receipts.rows, receipt.subjectKind = .verifierResult →
          receipt ∈ s.receipts.rows := by
        intro receipt member about
        rw [rows, List.mem_append, List.mem_singleton] at member
        rcases member with old | rfl
        · exact old
        · cases subject.symm.trans about
      refine ⟨?_, ?_, ?_, ?_, backed.sourced, backed.observed, history backed.recorded⟩
      · intro v member
        obtain ⟨receipt, present, binds⟩ := backed.bound v member
        exact ⟨receipt, by simp [rows, present], binds_kept kept binds⟩
      · intro first one second two aboutFirst aboutSecond
        exact backed.sole first (older first one aboutFirst) second (older second two aboutSecond)
          aboutFirst aboutSecond
      · intro receipt member about
        exact backed.about receipt (older receipt member about) about
      · intro receipt member about
        exact backed.supported receipt (older receipt member about) about

theorem step_backed {s s' : Store} {act : Act} (backed : Backed D s) (taken : Step D s act s') :
    Backed D s' := by
  cases act with
  | verify w J command =>
    obtain ⟨outcome, done⟩ := taken
    exact verify_backed backed done
  | assess J command =>
    obtain ⟨outcome, done⟩ := taken
    exact assess_backed backed done
  | link rows =>
    obtain ⟨next, done, other⟩ := taken
    exact backed_elsewhere (foldlM_backed insertLink_backed backed done) other
  | criteria rows =>
    obtain ⟨next, done, other⟩ := taken
    exact backed_elsewhere (foldlM_backed insertCriterion_backed backed done) other
  | elsewhere => exact backed_elsewhere backed taken

/-- A store before its first operation. -/
structure Initial (s : Store) : Prop where
  transitions : s.lifecycle.transitions.rows = []
  links : s.authorityLinks.rows = []
  results : s.verifierResults.rows = []
  receipts : s.receipts.rows = []

theorem run_backed {s s' : Store} {acts : List Act} (initial : Initial s)
    (run : Run (Step D) s acts s') : Backed D s' := by
  refine @run_invariant _ _ (Step D) (Backed D) (fun _ _ _ => step_backed) _ _ _ ?_ run
  refine ⟨?_, ?_, ?_, ?_, ?_, ?_, ?_⟩
  all_goals simp [initial.links, initial.results, initial.receipts, initial.transitions, Recorded]

end Preservation

end CarsinOS.Completion
