import CarsinOS.Completion.Verifier
import CarsinOS.Routine.Admitted

/-! The outcome criteria that an occurrence inherits from the source of its routine, and whether
they can be verified for the delegation of the occurrence. -/
namespace CarsinOS.Routine
open CarsinOS.Lib CarsinOS.Integrity CarsinOS.Delegation CarsinOS.Manifest
open CarsinOS.Completion (VerifierType CriterionPredicate CriterionRow CriterionCrates LinkSource
  parseAndBindPredicate bindPredicate evaluatePredicate evaluateLinked unknownMissingLink World)

/-- A row of the criteria with the columns that its record leaves out. -/
structure CriterionColumns where
  record : OutcomeCriterionRecord
  material : Bool
  verifierType : VerifierType

/-- What the verifier loads of the row. -/
def CriterionColumns.row (columns : CriterionColumns) : CriterionRow where
  criterionId := columns.record.criterionId
  delegationId := columns.record.delegationId
  criteriaRevision := columns.record.criteriaRevision
  criterionKey := columns.record.criterionKey
  material := columns.material
  verifierType := columns.verifierType
  predicateJson := columns.record.expectedPredicateJson
  authoritativeSourceKind := columns.record.authoritativeSourceKind

def columnsOf (rows : List CriterionColumns) (delegationId : Text) (revision : Int) :
    List CriterionColumns :=
  (rows.filter fun columns =>
    columns.record.delegationId = delegationId && columns.record.criteriaRevision = revision)
      |>.insertionSort fun first second =>
        toLex (first.record.criterionKey, first.record.criterionId) ≤
          toLex (second.record.criterionKey, second.record.criterionId)

/-- The rows of an occurrence: new identities, and the rest as the source has it. -/
def inherited (C : Crates) (rows : List CriterionColumns) (occurrenceId delegationId source : Text)
    (revision : Int) : List CriterionColumns :=
  (columnsOf rows source revision).zipIdx.map fun row =>
    { row.1 with record := occurrenceCriterion C occurrenceId delegationId row.1.record row.2 }

/-- The authority link that a predicate names. -/
def linkOf : CriterionPredicate → Option Text
  | .artifact linkId _ _ => some linkId
  | .authoritativeState (.task linkId _) => some linkId
  | .authoritativeState (.board linkId _) => some linkId
  | .authoritativeState (.boardCard linkId _ _ _) => some linkId
  | .delivery (.agentMailLocal linkId _ _) => some linkId
  | .processExit (.run linkId _) => some linkId
  | .processExit (.jobRun linkId _) => some linkId
  | .processExit (.toolCall linkId _) => some linkId
  | .providerState _ _ => none
  | .delivery (.remoteProvider _ _) => none
  | .databasePredicate _ _ => none
  | .humanBoundSupersession _ _ _ => none

/-- The delegation that a predicate names. -/
def delegationOf : CriterionPredicate → Option Text
  | .databasePredicate delegationId _ => some delegationId
  | _ => none

/-- The link is stored for the delegation. -/
def LinkedTo (s : Completion.Store) (delegationId linkId : Text) : Prop :=
  ∃ link ∈ s.authorityLinks.rows, link.linkId = linkId ∧ link.delegationId = delegationId

def Accepted (D : CriterionCrates) (delegationId : Text) (columns : CriterionColumns) : Prop :=
  ∃ predicate, parseAndBindPredicate D columns.row delegationId = .ok predicate

/-- The criterion is accepted for the delegation, and is not unknown for naming a link of the
source. -/
def Verifiable (D : CriterionCrates) (w : World) (s : Completion.Store) (source delegationId : Text)
    (columns : CriterionColumns) : Prop :=
  ∃ predicate, parseAndBindPredicate D columns.row delegationId = .ok predicate ∧
    ∀ linkId, linkOf predicate = some linkId → LinkedTo s source linkId →
      evaluatePredicate D.toCrates w s delegationId predicate ≠ unknownMissingLink D.toCrates linkId

/-- The predicate names no delegation and no link of the source. -/
def Portable (D : CriterionCrates) (s : Completion.Store) (source : Text)
    (columns : CriterionColumns) : Prop :=
  ∀ predicate, D.predicate columns.record.expectedPredicateJson = some predicate →
    delegationOf predicate = none ∧ ∀ linkId, linkOf predicate = some linkId → ¬ LinkedTo s source linkId

/-- The stores have the same links, attempts and plan of the delegation. -/
structure SameFacts (delegationId : Text) (s s' : Completion.Store) : Prop where
  links : ∀ linkId, s.loadLink delegationId linkId = s'.loadLink delegationId linkId
  attempts : ∀ attemptId, (s.lifecycle.providerAttempts.rows.find? fun row =>
      row.delegationId = delegationId && row.attemptId = attemptId) =
    s'.lifecycle.providerAttempts.rows.find? fun row =>
      row.delegationId = delegationId && row.attemptId = attemptId
  delegation : s.getDelegation delegationId = s'.getDelegation delegationId
  plans : ∀ revision : Option Int, (s.lifecycle.plans.rows.any fun plan =>
      plan.delegationId = delegationId && some plan.planRevision = revision) =
    s'.lifecycle.plans.rows.any fun plan =>
      plan.delegationId = delegationId && some plan.planRevision = revision

section Predicates
variable {D : CriterionCrates} {w : World} {s s' : Completion.Store} {source delegationId : Text}
  {columns : CriterionColumns} {predicate : CriterionPredicate}

/-- A predicate is evaluated against the facts of one delegation. -/
theorem evaluate_facts (same : SameFacts delegationId s s') :
    evaluatePredicate D.toCrates w s delegationId predicate =
      evaluatePredicate D.toCrates w s' delegationId predicate := by
  have linked (linkId : Text) (evaluate : LinkSource → Completion.Evaluation) :
      evaluateLinked D.toCrates s delegationId linkId evaluate =
        evaluateLinked D.toCrates s' delegationId linkId evaluate := by
    simp only [evaluateLinked, same.links]
  cases predicate with
  | artifact linkId expectedSha256 expectedBytes => exact linked _ _
  | authoritativeState inner => cases inner <;> exact linked _ _
  | providerState attemptId expected =>
    simp only [evaluatePredicate, Completion.evaluateProviderState, same.attempts]
  | delivery inner =>
    cases inner with
    | agentMailLocal linkId recipientPrincipal requireAck => exact linked _ _
    | remoteProvider provider digest => rfl
  | processExit inner => cases inner <;> exact linked _ _
  | databasePredicate named minimum =>
    simp only [evaluatePredicate, Completion.evaluateDatabasePredicate, same.delegation, same.plans]
  | humanBoundSupersession decisionId revision criterionId => rfl

theorem evaluate_missing {linkId : Text} (named : linkOf predicate = some linkId)
    (missing : s.loadLink delegationId linkId = none) :
    evaluatePredicate D.toCrates w s delegationId predicate =
      unknownMissingLink D.toCrates linkId := by
  have linked (evaluate : LinkSource → Completion.Evaluation) :
      evaluateLinked D.toCrates s delegationId linkId evaluate =
        unknownMissingLink D.toCrates linkId := by
    simp only [evaluateLinked, missing]
  cases predicate with
  | artifact id expectedSha256 expectedBytes =>
    cases named
    exact linked _
  | authoritativeState inner =>
    cases inner <;> cases named <;> exact linked _
  | providerState attemptId expected => cases named
  | delivery inner =>
    cases inner with
    | agentMailLocal id recipientPrincipal requireAck =>
      cases named
      exact linked _
    | remoteProvider provider digest => cases named
  | processExit inner => cases inner <;> cases named <;> exact linked _
  | databasePredicate id minimum => cases named
  | humanBoundSupersession decisionId revision criterionId => cases named

/-- A link has one delegation. -/
theorem loadLink_other {linkId : Text} (linked : LinkedTo s source linkId)
    (distinct : delegationId ≠ source) : s.loadLink delegationId linkId = none := by
  obtain ⟨link, present, rfl, rfl⟩ := linked
  apply List.find?_eq_none.mpr
  intro other member found
  simp only [Bool.and_eq_true, decide_eq_true_eq] at found
  rw [Table.eq_of_key member present found.2] at found
  exact distinct found.1.symm

/-- A predicate that names no delegation is bound for every one. -/
theorem bindPredicate_other (unnamed : delegationOf predicate = none) :
    bindPredicate delegationId predicate = bindPredicate source predicate := by
  cases predicate with
  | databasePredicate named minimum => cases unnamed
  | artifact linkId expectedSha256 expectedBytes => rfl
  | authoritativeState inner => rfl
  | providerState attemptId expected => rfl
  | delivery inner => cases inner <;> rfl
  | processExit inner => rfl
  | humanBoundSupersession decisionId revision criterionId => rfl

theorem parseAndBind_ok : parseAndBindPredicate D columns.row delegationId = .ok predicate ↔
    D.predicate columns.record.expectedPredicateJson = some predicate ∧
      ∃ sourceKind, bindPredicate delegationId predicate = .ok (columns.verifierType, sourceKind) ∧
        columns.record.authoritativeSourceKind = sourceKind.toList := by
  have text : columns.row.predicateJson = columns.record.expectedPredicateJson := rfl
  rw [parseAndBindPredicate, text]
  cases D.predicate columns.record.expectedPredicateJson with
  | none => simp
  | some parsed =>
    simp only [bind_ok, Prod.exists, Option.some.injEq]
    constructor
    · rintro ⟨verifierType, sourceKind, bound, done⟩
      split at done
      · cases done
      rename_i type
      split at done
      · cases done
      rename_i kind
      cases done
      rw [ne_eq, not_not] at type kind
      subst type
      exact ⟨rfl, sourceKind, bound, kind⟩
    · rintro ⟨rfl, sourceKind, bound, kind⟩
      exact ⟨columns.verifierType, sourceKind, bound, by simp [CriterionColumns.row, kind]⟩

theorem parseAndBind_refused {message : String}
    (parsed : D.predicate columns.record.expectedPredicateJson = some predicate)
    (refused : bindPredicate delegationId predicate = .error message) :
    parseAndBindPredicate D columns.row delegationId = .error message := by
  have read : D.predicate columns.row.predicateJson = some predicate := parsed
  simp only [parseAndBindPredicate, read, refused]
  rfl

/-- Of the same columns, what is accepted for one delegation is accepted for another where no
delegation is named. -/
theorem accepted_other {other : CriterionColumns}
    (json : other.record.expectedPredicateJson = columns.record.expectedPredicateJson)
    (type : other.verifierType = columns.verifierType)
    (kind : other.record.authoritativeSourceKind = columns.record.authoritativeSourceKind)
    (unnamed : delegationOf predicate = none)
    (accepted : parseAndBindPredicate D columns.row source = .ok predicate) :
    parseAndBindPredicate D other.row delegationId = .ok predicate := by
  obtain ⟨parsed, sourceKind, bound, stored⟩ := parseAndBind_ok.mp accepted
  refine parseAndBind_ok.mpr ⟨json ▸ parsed, sourceKind, ?_, kind.trans stored⟩
  rw [bindPredicate_other unnamed, type]
  exact bound

/-- A predicate that is accepted names no delegation but the one it is accepted for. -/
theorem accepted_named {named : Text} (names : delegationOf predicate = some named)
    (accepted : parseAndBindPredicate D columns.row delegationId = .ok predicate) :
    named = delegationId := by
  obtain ⟨-, sourceKind, bound, -⟩ := parseAndBind_ok.mp accepted
  cases predicate with
  | databasePredicate id minimum =>
    cases names
    simp only [bindPredicate] at bound
    split at bound
    · cases bound
    · rename_i exact
      rw [not_or, ne_eq, not_not] at exact
      exact exact.1
  | artifact linkId expectedSha256 expectedBytes => cases names
  | authoritativeState inner => cases names
  | providerState attemptId expected => cases names
  | delivery inner => cases names
  | processExit inner => cases names
  | humanBoundSupersession decisionId revision criterionId => cases names

end Predicates

section Rows
variable {C : Crates} {D : CriterionCrates} {w : World} {s : Completion.Store}
  {rows : List CriterionColumns} {occurrenceId delegationId source : Text} {revision : Int}

theorem columnsOf_record :
    (columnsOf rows source revision).map (·.record) =
      (((rows.map (·.record)).filter fun row =>
        row.delegationId = source && row.criteriaRevision = revision).insertionSort
          fun first second => toLex (first.criterionKey, first.criterionId) ≤
            toLex (second.criterionKey, second.criterionId)) := by
  rw [List.filter_map, columnsOf]
  apply List.map_insertionSort
  intro first _ second _
  exact Iff.rfl

theorem inherited_record {db : Db} (columns : db.criteria = rows.map (·.record)) :
    (inherited C rows occurrenceId delegationId source revision).map (·.record) =
      (criteriaOf db source revision).zipIdx.map fun row =>
        occurrenceCriterion C occurrenceId delegationId row.1 row.2 := by
  have records : criteriaOf db source revision =
      (columnsOf rows source revision).map (·.record) := by
    rw [columnsOf_record, criteriaOf, columns]
  rw [records, inherited, List.map_map, List.zipIdx_map, List.map_map]
  rfl

theorem mem_inherited {columns : CriterionColumns} :
    columns ∈ inherited C rows occurrenceId delegationId source revision ↔
      ∃ row index, (row, index) ∈ (columnsOf rows source revision).zipIdx ∧
        columns = { row with
          record := occurrenceCriterion C occurrenceId delegationId row.record index } := by
  simp only [inherited, List.mem_map, Prod.exists]
  constructor
  · rintro ⟨row, index, present, rfl⟩
    exact ⟨row, index, present, rfl⟩
  · rintro ⟨row, index, present, rfl⟩
    exact ⟨row, index, present, rfl⟩

/-- The inherited criteria can be verified exactly where the source's name nothing of the source. -/
theorem verifiable_iff (distinct : delegationId ≠ source)
    (accepted : ∀ columns ∈ columnsOf rows source revision, Accepted D source columns) :
    (∀ columns ∈ inherited C rows occurrenceId delegationId source revision,
      Verifiable D w s source delegationId columns) ↔
    ∀ columns ∈ columnsOf rows source revision, Portable D s source columns := by
  constructor
  · intro verifiable columns present predicate parsed
    obtain ⟨index, placed⟩ := List.mem_iff_getElem?.mp present
    have copied : { columns with
        record := occurrenceCriterion C occurrenceId delegationId columns.record index } ∈
          inherited C rows occurrenceId delegationId source revision :=
      mem_inherited.mpr ⟨columns, index, List.mk_mem_zipIdx_iff_getElem?.mpr placed, rfl⟩
    obtain ⟨found, bound, known⟩ := verifiable _ copied
    cases parsed.symm.trans (parseAndBind_ok.mp bound).1
    constructor
    · cases names : delegationOf predicate with
      | none => rfl
      | some named =>
        obtain ⟨same, held⟩ := accepted columns present
        cases parsed.symm.trans (parseAndBind_ok.mp held).1
        exact absurd ((accepted_named names bound).symm.trans (accepted_named names held)) distinct
    · intro linkId names linked
      exact known linkId names linked (evaluate_missing names (loadLink_other linked distinct))
  · intro portable columns copied
    obtain ⟨row, index, placed, rfl⟩ := mem_inherited.mp copied
    have present : row ∈ columnsOf rows source revision :=
      List.mem_of_getElem? (List.mk_mem_zipIdx_iff_getElem?.mp placed)
    obtain ⟨predicate, held⟩ := accepted row present
    obtain ⟨unnamed, unlinked⟩ := portable row present predicate (parseAndBind_ok.mp held).1
    refine ⟨predicate, accepted_other rfl rfl rfl unnamed held, ?_⟩
    intro linkId names linked
    exact absurd linked (unlinked linkId names)

end Rows

/-! The criteria of an admitted occurrence. -/

/-- The routine version of the occurrence, its source and the source's current criteria. -/
structure Saved (db : Db) (a : Attempt) (occurrence : RoutineOccurrenceRecord)
    (version : RoutineVersionRecord) (source : DelegationRecord) (revision : Int) : Prop where
  stored : db.occurrences.find? a.request.occurrenceId = some occurrence
  pinned : db.versions.find? (occurrence.routineId, occurrence.routineVersion) = some version
  known : db.store.getDelegation version.sourceDelegationId = some source
  current : source.currentCriteriaRevision = some revision

section Admission
variable {C : Crates} {validJson : Text → Bool} {db next : Db} {a : Attempt}
  {occurrence : RoutineOccurrenceRecord} {version : RoutineVersionRecord}
  {leaf : CanonicalLeafAction} {command : CreateFoundationCommand} {id delegationId continuationId : Text}

theorem build_criteria {manifest : CanonicalLeafManifest} {trustedNow : Int}
    (built : buildFoundationCommand C db occurrence version manifest leaf trustedNow = .ok command) :
    ∃ source revision, db.store.getDelegation version.sourceDelegationId = some source ∧
      source.currentCriteriaRevision = some revision ∧
      command.outcomeCriteria = (criteriaOf db source.delegationId revision).zipIdx.map fun row =>
        occurrenceCriterion C occurrence.occurrenceId command.delegation.delegationId row.1 row.2 := by
  obtain ⟨authority, -, built⟩ := bind_ok.mp built
  obtain ⟨source, stored, built⟩ := bind_ok.mp built
  obtain ⟨_, -, built⟩ := bind_ok.mp built
  obtain ⟨plan, -, built⟩ := bind_ok.mp built
  obtain ⟨revision, current, built⟩ := bind_ok.mp built
  obtain ⟨_, -, built⟩ := bind_ok.mp built
  cases Except.ok.inj built
  exact ⟨source, revision, required_ok.mp stored, required_ok.mp current, rfl⟩

theorem found_criteria {founded : Db} {outside : FoundationOutside}
    (wrote : db.found outside version command = .ok founded) :
    founded.criteria = db.criteria ++ command.outcomeCriteria := by
  obtain ⟨_, -, wrote⟩ := bind_ok.mp wrote
  obtain ⟨_, -, wrote⟩ := bind_ok.mp wrote
  cases Except.ok.inj wrote
  rfl

theorem settle_criteria {request : RoutineAdmissionRequest} {manifest : CanonicalLeafManifest}
    (done : db.settle C request occurrence manifest delegationId = .ok next) :
    next.criteria = db.criteria := by
  obtain ⟨recorded, inserted, done⟩ := bind_ok.mp done
  obtain ⟨settled, updated, done⟩ := bind_ok.mp done
  obtain ⟨ended, closed, done⟩ := bind_ok.mp done
  obtain ⟨_, -, done⟩ := bind_ok.mp done
  cases Except.ok.inj done
  rw [endJobs_ok closed, updateOccurrences_ok updated]
  obtain ⟨_, -, inserted⟩ := bind_ok.mp inserted
  split at inserted
  · cases Except.ok.inj inserted
    rfl
  · cases inserted

/-- An admission adds the source's current criteria, for a delegation that is not the source. -/
theorem admitted_criteria
    (done : admitClaimedRoutineOccurrence C validJson a.request a.manifest a.proof a.outside db =
      .ok (.admitted id delegationId continuationId, next)) :
    ∃ occurrence version source revision, Saved db a occurrence version source revision ∧
      delegationId ≠ source.delegationId ∧
      next.criteria = db.criteria ++ (criteriaOf db source.delegationId revision).zipIdx.map
        fun row => occurrenceCriterion C occurrence.occurrenceId delegationId row.1 row.2 := by
  obtain ⟨_, -, done⟩ := bind_ok.mp done
  obtain ⟨leaf, -, done⟩ := bind_ok.mp done
  obtain ⟨occurrence, stored, done⟩ := bind_ok.mp done
  have unsettled : admitUnsettled C validJson a.request a.manifest a.proof a.outside occurrence leaf
      db = .ok (.admitted id delegationId continuationId, next) := by
    unfold dispatchOccurrence at done
    split at done
    · obtain ⟨_, -, done⟩ := bind_ok.mp done
      cases done
    · cases done
    · exact done
    · exact done
  obtain ⟨version, pinned, unsettled⟩ := bind_ok.mp unsettled
  obtain ⟨routine, -, unsettled⟩ := bind_ok.mp unsettled
  split at unsettled
  · cases unsettled
  obtain ⟨_, -, admitted⟩ := bind_ok.mp unsettled
  obtain ⟨_, -, admitted⟩ := bind_ok.mp admitted
  obtain ⟨_, -, admitted⟩ := bind_ok.mp admitted
  obtain ⟨command, built, admitted⟩ := bind_ok.mp admitted
  obtain ⟨_, -, admitted⟩ := bind_ok.mp admitted
  obtain ⟨_, -, admitted⟩ := bind_ok.mp admitted
  obtain ⟨continuation, -, admitted⟩ := bind_ok.mp admitted
  obtain ⟨founded, wrote, admitted⟩ := bind_ok.mp admitted
  obtain ⟨settled, ended, admitted⟩ := bind_ok.mp admitted
  cases Except.ok.inj admitted
  obtain ⟨source, revision, known, current, criteria⟩ := build_criteria built
  refine ⟨occurrence, version, source, revision, ⟨required_ok.mp stored, required_ok.mp pinned,
    known, current⟩, ?_, ?_⟩
  · intro same
    have fresh := (found_ok wrote).1
    rw [same, Table.find?_key known] at fresh
    cases fresh.symm.trans known
  · rw [settle_criteria ended, found_criteria wrote, criteria]

/-- The criteria that an admitted occurrence inherits are its source's current ones, each evaluated
against the facts of the new delegation. Where the source's are all accepted for it, the inherited
ones can be verified if and only if none of them names the source or a link of it. -/
theorem inherited_verifiable_iff {D : CriterionCrates} {rows : List CriterionColumns}
    (columns : db.criteria = rows.map (·.record))
    (admitted : admitClaimedRoutineOccurrence C validJson a.request a.manifest a.proof a.outside db =
      .ok (.admitted id delegationId continuationId, next)) :
    ∃ occurrence version source revision, Saved db a occurrence version source revision ∧
      next.criteria = db.criteria ++ (inherited C rows occurrence.occurrenceId delegationId
        source.delegationId revision).map (·.record) ∧
      (∀ predicate w s s', SameFacts delegationId s s' →
        evaluatePredicate D.toCrates w s delegationId predicate =
          evaluatePredicate D.toCrates w s' delegationId predicate) ∧
      ((∀ columns ∈ columnsOf rows source.delegationId revision,
          Accepted D source.delegationId columns) → ∀ w s,
        ((∀ columns ∈ inherited C rows occurrence.occurrenceId delegationId source.delegationId
            revision, Verifiable D w s source.delegationId delegationId columns) ↔
          ∀ columns ∈ columnsOf rows source.delegationId revision,
            Portable D s source.delegationId columns)) := by
  obtain ⟨occurrence, version, source, revision, saved, distinct, added⟩ :=
    admitted_criteria admitted
  refine ⟨occurrence, version, source, revision, saved, ?_, ?_, ?_⟩
  · rw [added, inherited_record columns]
  · intro predicate w s s' same
    exact evaluate_facts same
  · intro accepted w s
    exact verifiable_iff distinct accepted

end Admission
/-! The criterion of a delegation that was taken in: it names the delegation. -/

def planPredicate : Json :=
  .obj [("kind".toList, .str "database_predicate".toList), ("version".toList, .str "v1".toList),
    ("delegation_id".toList, .str ['d']), ("canonical_plan_revision_greater_than".toList, .num ['0'])]

def planColumns : CriterionColumns where
  record := { sourceCriterion with
    expectedPredicateJson := planPredicate.print
    authoritativeSourceKind := "execass_plan_store".toList }
  material := true
  verifierType := .databasePredicate

/-- `from_str` on that predicate. -/
noncomputable def planCrates : CriterionCrates where
  toCrates := asciiCrates
  predicate text := if text = planPredicate.print then some (.databasePredicate ['d'] 0) else none
  extract text key := (ofPrint text).bind fun
    | .obj fields => fields.lookup key.toList
    | _ => none
  extract_print fields key spelled _ := by
    rw [ofPrint_some.mpr ⟨spelled, rfl⟩]
    rfl
  cleanEvidence _ := true

theorem planColumns_ofSource : OfSource planColumns.record :=
  ⟨rfl, rfl, rfl, rfl, requireText_visible (c := 'e') (by simp [planColumns]) (by decide)⟩

theorem plan_columns : columnsOf [planColumns] ['d'] 1 = [planColumns] := by
  simp [columnsOf, planColumns, sourceCriterion]

theorem plan_parsed :
    planCrates.predicate planPredicate.print = some (.databasePredicate ['d'] 0) := by
  simp [planCrates]

theorem plan_accepted : ∀ columns ∈ columnsOf [planColumns] ['d'] 1,
    Accepted planCrates ['d'] columns := by
  intro columns present
  rw [plan_columns, List.mem_singleton] at present
  subst present
  exact ⟨_, parseAndBind_ok.mpr ⟨plan_parsed, "execass_plan_store", rfl, rfl⟩⟩

theorem plan_admitted : ∃ (a : Attempt) (leaf : CanonicalLeafAction) (next : Db) (delegationId continuationId : Text),
    admitClaimedRoutineOccurrence asciiCrates (fun _ => true) a.request a.manifest a.proof a.outside
      (savedDb planColumns.record leaf) = .ok (.admitted ['o'] delegationId continuationId, next) ∧
    a.request.occurrenceId = ['o'] := by
  obtain ⟨leaf, made, action, intent, provenance⟩ := occurrenceLeaf_ok
  obtain ⟨m, -, sole⟩ := @compileDispatch_single asciiCrates _ _ _ ⟨[]⟩
    (show Manifest.Normal asciiCrates ['l'] from rfl) made
  obtain ⟨delegationId, continuationId, next, done⟩ :=
    sample_admitted planColumns_ofSource sole action intent provenance
  exact ⟨sampleAttempt m leaf 2, leaf, next, delegationId, continuationId, done, rfl⟩

theorem plan_distinct {a : Attempt} {leaf : CanonicalLeafAction} {next : Db}
    {delegationId continuationId : Text}
    (done : admitClaimedRoutineOccurrence asciiCrates (fun _ => true) a.request a.manifest a.proof
      a.outside (savedDb planColumns.record leaf) =
        .ok (.admitted ['o'] delegationId continuationId, next)) : delegationId ≠ ['d'] := by
  obtain ⟨occurrence, version, source, revision, saved, distinct, -⟩ := admitted_criteria done
  have known := Table.find?_mem saved.known
  simp only [savedDb, sampleDb, List.mem_singleton] at known
  rw [known] at distinct
  exact distinct

/-- The criterion is accepted for the source of the routine, and the one that the occurrence
inherits is rejected. -/
theorem inherited_criterion_rejected : ∃ (a : Attempt) (leaf : CanonicalLeafAction) (next : Db) (delegationId continuationId : Text),
    admitClaimedRoutineOccurrence asciiCrates (fun _ => true) a.request a.manifest a.proof a.outside
      (savedDb planColumns.record leaf) = .ok (.admitted ['o'] delegationId continuationId, next) ∧
    (∀ columns ∈ columnsOf [planColumns] ['d'] 1, Accepted planCrates ['d'] columns) ∧
    ∃ columns ∈ inherited asciiCrates [planColumns] ['o'] delegationId ['d'] 1,
      parseAndBindPredicate planCrates columns.row delegationId = .error
        "database predicate must bind this delegation and a nonnegative prior plan revision" := by
  obtain ⟨a, leaf, next, delegationId, continuationId, done, -⟩ := plan_admitted
  have distinct := plan_distinct done
  refine ⟨a, leaf, next, delegationId, continuationId, done, plan_accepted, _,
    mem_inherited.mpr ⟨planColumns, 0, by simp [plan_columns], rfl⟩, ?_⟩
  have bound : bindPredicate delegationId (.databasePredicate ['d'] 0) = .error
      "database predicate must bind this delegation and a nonnegative prior plan revision" := by
    simp [bindPredicate, distinct.symm]
  exact parseAndBind_refused plan_parsed bound

theorem inherited_verifiable_iff_plan : ∃ (a : Attempt) (leaf : CanonicalLeafAction) (next : Db) (delegationId continuationId : Text),
    admitClaimedRoutineOccurrence asciiCrates (fun _ => true) a.request a.manifest a.proof a.outside
      (savedDb planColumns.record leaf) = .ok (.admitted ['o'] delegationId continuationId, next) ∧
    ∀ w s, ¬ ∀ columns ∈ inherited asciiCrates [planColumns] ['o'] delegationId ['d'] 1,
      Verifiable planCrates w s ['d'] delegationId columns := by
  obtain ⟨a, leaf, next, delegationId, continuationId, done, requested⟩ := plan_admitted
  refine ⟨a, leaf, next, delegationId, continuationId, done, ?_⟩
  obtain ⟨occurrence, version, source, revision, saved, -, -, verifiable⟩ :=
    @inherited_verifiable_iff _ _ _ _ _ _ _ _ planCrates [planColumns] rfl done
  have same := Table.find?_key saved.stored
  have known := Table.find?_mem saved.known
  simp only [savedDb, sampleDb, List.mem_singleton] at known
  have current := saved.current
  rw [known] at current
  cases current
  rw [known, same, requested] at verifiable
  intro w s all
  have portable := (verifiable plan_accepted w s).mp all planColumns (by simp [plan_columns,
    sourceDelegation])
  cases (portable _ plan_parsed).1

end CarsinOS.Routine
