import Mathlib.Logic.Relation
import CarsinOS.Integrity.Moves

/-! An earlier database under the external anchor: which of them recovery takes for a store of its
own. -/
namespace CarsinOS.Integrity
open CarsinOS.Lib CarsinOS.Lib.Durable CarsinOS.Receipt

section
variable {ω : Type}

/-- The row, or the current document, is as high as the floor. -/
def Reaches (floor : Int) (s : Store ω) (row : AnchorRow) : Prop :=
  floor ≤ row.receiptCount ∨ ∃ document ∈ s.files.current, floor ≤ document.receiptCount

/-- What the last anchor row must be for the count of a trusted status not to fall below the floor,
now or after a recovery. -/
structure HeldRow (floor : Int) (s : Store ω) (before : List AnchorRow) (row : AnchorRow) :
    Prop where
  finalized : row.status = .finalized → Reaches floor s row
  confirmed : row.status = .prepared → row.receiptCommitConfirmed = true → Reaches floor s row
  unconfirmed : row.status = .prepared → row.receiptCommitConfirmed = false →
    ∀ prior ∈ before.getLast?, floor ≤ prior.receiptCount

structure Held (floor : Int) (s : Store ω) : Prop where
  anchored : Anchored s.db.anchors
  held : s.files.quarantine = none →
    ∀ before row, s.db.anchors = before ++ [row] → HeldRow floor s before row

variable {C : ReceiptCrates} {custody : KeyCustody} {failpoints : Failpoints} {floor : Int}
  {s t : Store ω}

/-- Other files, under the same quarantine and current document. -/
theorem held_files (held : Held floor s) (files : Files) (quarantine : files.quarantine = s.files.quarantine)
    (current : files.current = s.files.current) : Held floor (s.setFiles files) := by
  refine ⟨held.anchored, fun open_ before row rows => ?_⟩
  have here := held.held (quarantine ▸ open_) before row rows
  refine ⟨fun final => ?_, fun prepared done => ?_, here.unconfirmed⟩
  · simpa only [Reaches, Store.setFiles, current] using here.finalized final
  · simpa only [Reaches, Store.setFiles, current] using here.confirmed prepared done

theorem held_removePrepared (held : Held floor s) (name : Int × Text) :
    Held floor (s.setFiles (s.files.removePrepared name)) :=
  held_files held _ rfl rfl

/-- A quarantined store holds any floor. -/
theorem held_quarantined (anchored : Anchored s.db.anchors) (marked : s.files.quarantine ≠ none) :
    Held floor s :=
  ⟨anchored, fun unmarked => absurd unmarked marked⟩

/-- A settled last row that is high enough holds the floor, whatever the files say. -/
theorem held_settled {before : List AnchorRow} {row : AnchorRow} (anchored : Anchored s.db.anchors)
    (rows : s.db.anchors = before ++ [row])
    (high : s.files.quarantine = none → floor ≤ row.receiptCount)
    (settled : row.status = .prepared → row.receiptCommitConfirmed = true) : Held floor s := by
  refine ⟨anchored, fun unmarked others last same => ?_⟩
  rw [rows] at same
  obtain ⟨rfl, rfl⟩ := List.append_singleton_inj.mp same
  refine ⟨fun _ => .inl (high unmarked), fun _ _ => .inl (high unmarked), fun prepared open_ => ?_⟩
  simp [settled prepared] at open_

theorem held_empty (empty : s.db.anchors = []) : Held floor s := by
  refine ⟨by simp [empty, Anchored], fun _ before row rows => ?_⟩
  simp [empty] at rows

/-- Any anchor rows hold the least of their counts. -/
theorem held_least (anchored : Anchored s.db.anchors) : ∃ floor, Held floor s := by
  obtain ⟨floor, least⟩ : ∃ floor, ∀ row ∈ s.db.anchors, floor ≤ row.receiptCount := by
    induction s.db.anchors with
    | nil => exact ⟨0, by simp⟩
    | cons row rows ih =>
      obtain ⟨floor, least⟩ := ih
      refine ⟨min floor row.receiptCount, ?_⟩
      intro other inside
      rcases List.mem_cons.mp inside with rfl | later
      · exact min_le_right ..
      · exact (min_le_left ..).trans (least other later)
  refine ⟨floor, anchored, fun _ before row rows => ?_⟩
  have last : floor ≤ row.receiptCount := least row (by simp [rows])
  refine ⟨fun _ => .inl last, fun _ _ => .inl last, fun _ _ prior inside => ?_⟩
  exact least prior (by simp [rows, List.mem_of_mem_getLast? inside])

theorem binding_count {row : AnchorRow} {document : AnchorDocument} {u : Unit}
    (bound : verifyAnchorDocumentBinding row document = .ok u) :
    document.receiptCount = row.receiptCount := by
  simp only [verifyAnchorDocumentBinding, bind_ok, ensure_ok] at bound
  obtain ⟨-, -, -, -, -, -, -, ⟨count, -⟩, -⟩ := bound
  exact count

theorem finalized_count {row : AnchorRow} {document : AnchorDocument} {u : Unit}
    (bound : verifyFinalizedDocument row document = .ok u) :
    document.receiptCount = row.receiptCount := by
  simp only [verifyFinalizedDocument, bind_ok] at bound
  obtain ⟨_, -, _, bound, -⟩ := bound
  exact binding_count bound

theorem prepared_count {row : AnchorRow} {document : AnchorDocument} {u : Unit}
    (bound : verifyPreparedDocument row document = .ok u) :
    document.receiptCount = row.receiptCount := by
  simp only [verifyPreparedDocument, bind_ok] at bound
  obtain ⟨_, -, _, bound, -⟩ := bound
  exact binding_count bound

theorem document_read {x : Option AnchorDocument} {document : AnchorDocument}
    (read : readExactDocument x = .ok document) : x = some document := by
  cases x with
  | none => contradiction
  | some other => exact congrArg some (Except.ok.inj read)

/-- A finalization goes on from a current document that is not above its row. -/
theorem finalize_reaches {before : List AnchorRow} {row : AnchorRow} {finalized : AnchorDocument}
    (anchored : Anchored s.db.anchors) (rows : s.db.anchors = before ++ [row])
    (checked : finalizeChecks C custody s row = .ok finalized) (reaches : Reaches floor s row) :
    floor ≤ row.receiptCount := by
  rcases reaches with high | ⟨document, current, high⟩
  · exact high
  simp only [finalizeChecks, bind_ok, ensure_ok] at checked
  obtain ⟨prepared, -, _, bound, key, -, _, -, previousKey, -, _, -, _, -, _, -, _, allowed, same⟩ :=
    checked
  cases same
  have count := prepared_count bound
  simp only [validateCurrentBeforeFinalize, Option.mem_def.mp current] at allowed
  split at allowed
  · rename_i proposed
    have same : document.receiptCount = prepared.receiptCount := by rw [proposed]; rfl
    omega
  · simp only [bind_ok, ensure_ok, required_ok] at allowed
    obtain ⟨prior, found, _, matched, -⟩ := allowed
    have same := finalized_count matched
    have inside := List.mem_of_getLast? found
    simp only [Database.finalizedAnchorRows, anchored_sorted anchored, List.mem_filter,
      decide_eq_true_eq] at inside
    rw [rows] at inside anchored
    rcases List.mem_append.mp inside.1.1 with early | last
    · have step := (List.pairwise_append.mp anchored).2.2 prior early row (by simp)
      have := step.count
      omega
    · have := List.mem_singleton.mp last
      subst this
      omega

/-- A finalization that stops or fails leaves the floor, also after the current document is put
back. -/
theorem finalizeSteps_held {before : List AnchorRow} {row : AnchorRow} (held : Held floor s)
    (rows : s.db.anchors = before ++ [row]) (prepared : row.status = .prepared)
    (confirmed : row.receiptCommitConfirmed = true) :
    Walk (fun _ t => Held floor t) (finalizeSteps C custody failpoints row) s fun result t =>
      match result with
      | .ok _ => Held floor t
      | .error _ => Held floor (t.setFiles (t.files.writeCurrent s.files.current)) := by
  simp only [finalizeSteps, walk_bind, walk_reading]
  split
  · rename_i finalized checked
    have high (unmarked : s.files.quarantine = none) : floor ≤ row.receiptCount :=
      finalize_reaches held.anchored rows checked
        ((held.held unmarked before row rows).confirmed prepared confirmed)
    have kept (files : Files) (same : files.quarantine = s.files.quarantine) :
        Held floor (s.setFiles files) :=
      held_settled held.anchored rows (fun unmarked => high (same ▸ unmarked)) fun _ => confirmed
    refine walk_durableWriteAtomic (kept _ rfl) (fun _ => kept _ rfl) fun versioned => ?_
    cases versioned with
    | error => exact kept _ rfl
    | ok =>
      refine walk_durableWriteAtomic (kept _ rfl) (fun _ => kept _ rfl) fun current => ?_
      cases current with
      | error => exact kept _ rfl
      | ok =>
        simp only [walk_hit]
        split
        · split
          · rename_i db done
            have next := finalize_rows held.anchored rows done
            have anchored := held.anchored
            rw [rows] at anchored
            replace anchored : Anchored db.anchors := by
              rw [next]
              exact anchored_replace anchored rfl rfl rfl
            have settled : Held floor
                (((s.setFiles (s.files.writeFinalized (fileName row) finalized)).setFiles
                  ((s.setFiles (s.files.writeFinalized (fileName row) finalized)).files.writeCurrent
                    (some finalized))).setDb db) :=
              held_settled anchored next high fun same => by cases same
            exact walk_commitDb.mpr ⟨settled, settled⟩
          · exact kept _ rfl
        · exact kept _ rfl
  · exact held

theorem finalize_held (held : Held floor s) (transactionId : Text) :
    Walk (fun _ t => Held floor t) (finalizeAnchor C custody failpoints transactionId) s
      fun _ t => Held floor t := by
  simp only [finalizeAnchor, walk_bind, walk_check, walk_storage]
  split
  · split
    · rename_i row found
      obtain ⟨inside, rfl⟩ := transaction_row (required_ok.mp found)
      split
      · exact walk_check.mpr held
      · exact walk_raise.mpr held
      · rename_i prepared
        split
        · exact walk_raise.mpr held
        · rename_i eligible
          obtain ⟨before, rows⟩ := anchored_open held.anchored inside (by simp [prepared])
          simp only [walk_bind, walk_attempt]
          refine walk_mono (finalizeSteps_held held rows prepared (by simpa using (not_or.mp eligible).1))
            (fun _ _ next => next) fun result t done => ?_
          cases result with
          | error e => exact walk_bind.mpr (walk_changeFiles.mpr ⟨done, walk_raise.mpr done⟩)
          | ok =>
            simp only [walk_bind, walk_hit, walk_storage, walk_check]
            split
            · split
              · split
                · exact walk_changeFiles.mpr ⟨held_removePrepared done _, held_removePrepared done _⟩
                · exact done
              · exact done
            · exact done
    · exact held
  · exact held

theorem quarantine_held (held : Held floor s) (reason : String) :
    Walk (fun _ t => Held floor t) (quarantine failpoints reason) s fun _ t => Held floor t := by
  have marked : Held floor (s.setFiles (s.files.writeQuarantine (sanitizeReason reason))) :=
    held_quarantined held.anchored (by simp [Store.setFiles, Files.writeQuarantine])
  simp only [quarantine, walk_bind]
  refine walk_durableWriteAtomic marked (fun _ => held) fun result => ?_
  cases result with
  | error e => exact marked
  | ok =>
    simp only [walk_storage, walk_commitDb, walk_pure]
    have done : Held floor ((s.setFiles (s.files.writeQuarantine (sanitizeReason reason))).setDb
        (quarantineDb (sanitizeReason reason) s.db)) :=
      held_quarantined (anchored_quarantine _ held.anchored)
        (by simp [Store.setFiles, Store.setDb, Files.writeQuarantine])
    exact ⟨done, done⟩

/-- A discarded row leaves the row before it, which is final. -/
theorem discard_held {row : AnchorRow} (held : Held floor s) (inside : row ∈ s.db.anchors)
    (prepared : row.status = .prepared) (unconfirmed : row.receiptCommitConfirmed = false) :
    Walk (fun _ t => Held floor t) (discardUnconfirmedPrepared C custody row) s
      fun _ t => Held floor t := by
  obtain ⟨before, rows, filtered⟩ := anchored_discard held.anchored inside prepared unconfirmed
  have kept (files : Files) (same : files.quarantine = s.files.quarantine) :
      Held floor ((s.setDb { s.db with anchors := before }).setFiles files) := by
    rcases List.eq_nil_or_concat' before with rfl | ⟨earlier, prior, rfl⟩
    · exact held_empty rfl
    · have anchored := held.anchored
      rw [rows] at anchored
      have settled := ((List.pairwise_append.mp anchored).2.2 prior (by simp) row (by simp)).finalized
      refine held_settled (anchored_before anchored) rfl (fun unmarked => ?_) fun open_ => ?_
      · exact (held.held (same ▸ unmarked) _ row rows).unconfirmed prepared unconfirmed prior (by simp)
      · rw [settled] at open_
        contradiction
  simp only [discardUnconfirmedPrepared, walk_bind, walk_storage, walk_check, filtered]
  split
  · simp only [walk_commitDb, walk_changeFiles]
    refine ⟨kept s.files rfl, kept _ rfl, ?_⟩
    split
    · split
      · simp only [walk_bind, walk_check]
        split
        · simp only [walk_changeFiles, walk_reading]
          refine ⟨kept _ rfl, ?_⟩
          split
          · exact walk_pure.mpr (kept _ rfl)
          · exact kept _ rfl
        · exact kept _ rfl
      · exact walk_bind.mpr (walk_raise.mpr (kept _ rfl))
    · exact walk_bind.mpr (walk_changeFiles.mpr ⟨kept _ rfl, walk_pure.mpr (kept _ rfl)⟩)
  · exact held

theorem status_prepared {transactionId : Text} {anchorGeneration : Int}
    (pending : status C custody s = .prepared transactionId anchorGeneration) :
    ∃ row, latestAnchorRow s.db = some row ∧ row.status = .prepared ∧
      row.transactionId = transactionId := by
  unfold status at pending
  split at pending
  · contradiction
  · split at pending
    · split at pending
      · contradiction
      · split at pending <;> contradiction
    · rename_i row latest
      split at pending
      · contradiction
      · split at pending
        · contradiction
        · rename_i prepared
          unfold preparedStatus at pending
          split at pending
          · contradiction
          · split at pending
            · cases pending
              exact ⟨row, latest, prepared, rfl⟩
            · contradiction
        · unfold finalizedStatus at pending
          split at pending
          · contradiction
          · split at pending
            · contradiction
            · split at pending <;> contradiction

theorem status_trusted {anchorGeneration receiptCount : Int} {head : Option Text}
    {key : ReceiptKeyRef}
    (trusted : status C custody s = .trusted anchorGeneration receiptCount head key) :
    s.files.quarantine = none ∧ ∃ row, latestAnchorRow s.db = some row ∧
      row.status = .finalized ∧ row.receiptCount = receiptCount ∧
      verifyAnchorHistory C custody s row = .ok () := by
  unfold status at trusted
  split at trusted
  · contradiction
  · rename_i unmarked
    split at trusted
    · split at trusted
      · contradiction
      · split at trusted <;> contradiction
    · rename_i row latest
      split at trusted
      · contradiction
      · split at trusted
        · contradiction
        · unfold preparedStatus at trusted
          split at trusted
          · contradiction
          · split at trusted <;> contradiction
        · rename_i final
          unfold finalizedStatus at trusted
          split at trusted
          · contradiction
          · split at trusted
            · contradiction
            · rename_i verified
              split at trusted
              · contradiction
              · cases trusted
                exact ⟨unmarked, row, latest, final, rfl, verified⟩

/-- The last row that the history check accepts is the last row of the history. -/
theorem history_last {files : Files} {rows : List AnchorRow} {expectedGeneration : Int}
    {previous : Option (AnchorRow × Text)} {last : AnchorRow × Text}
    (verified : verifyHistoryRows C custody files expectedGeneration previous rows = .ok (some last))
    (several : rows ≠ []) : ∃ generation earlier before, rows = before ++ [last.1] ∧
      verifyHistoryRow C custody files generation earlier last.1 = .ok last.2 := by
  induction rows generalizing expectedGeneration previous with
  | nil => contradiction
  | cons row rows ih =>
    simp only [verifyHistoryRows, bind_ok] at verified
    obtain ⟨digest, first, rest⟩ := verified
    cases rows with
    | nil =>
      cases rest
      exact ⟨_, _, [], rfl, first⟩
    | cons next rows =>
      obtain ⟨generation, earlier, before, split, accepted⟩ := ih rest (by simp)
      exact ⟨generation, earlier, row :: before, by rw [split]; rfl, accepted⟩

theorem history_document {files : Files} {generation : Int} {earlier : Option (AnchorRow × Text)}
    {row : AnchorRow} {digest : Text}
    (verified : verifyHistoryRow C custody files generation earlier row = .ok digest) :
    ∃ document, files.finalized (fileName row) = some document ∧
      verifyFinalizedDocument row document = .ok () := by
  cases earlier <;> simp only [verifyHistoryRow, bind_ok] at verified
  · obtain ⟨-, -, -, -, -, -, -, -, document, read, _, bound, -⟩ := verified
    exact ⟨document, document_read read, bound⟩
  · obtain ⟨-, -, -, -, -, -, -, -, -, -, -, -, document, read, _, bound, -⟩ := verified
    exact ⟨document, document_read read, bound⟩

/-- A trusted count is the count of the current document. -/
theorem trusted_current {anchorGeneration receiptCount : Int} {head : Option Text}
    {key : ReceiptKeyRef}
    (trusted : status C custody s = .trusted anchorGeneration receiptCount head key) :
    ∃ document, s.files.current = some document ∧ document.receiptCount = receiptCount := by
  obtain ⟨-, row, latest, -, rfl, verified⟩ := status_trusted trusted
  simp only [verifyAnchorHistory, bind_ok, required_ok, ensure_ok] at verified
  obtain ⟨_, accepted, last, rfl, -, -, current, read, versioned, also, same⟩ := verified
  obtain ⟨_, _, before, rows, checked⟩ := history_last accepted (by
    intro empty
    simp [latestAnchorRow, empty] at latest)
  obtain ⟨document, stored, bound⟩ := history_document checked
  have last_row : last.1 = row := by simpa [latestAnchorRow, rows] using latest
  rw [last_row] at stored bound
  have read := document_read read
  have also := document_read also
  rw [stored] at also
  cases also
  exact ⟨versioned, by rw [read, same], finalized_count bound⟩

/-- A store that holds a floor is never trusted below it. -/
theorem held_trusted {anchorGeneration receiptCount : Int} {head : Option Text}
    {key : ReceiptKeyRef} (held : Held floor s)
    (trusted : status C custody s = .trusted anchorGeneration receiptCount head key) :
    floor ≤ receiptCount := by
  obtain ⟨document, current, count⟩ := trusted_current trusted
  obtain ⟨unmarked, row, latest, final, same, -⟩ := status_trusted trusted
  obtain ⟨before, rows⟩ := latest_last held.anchored latest
  rcases (held.held unmarked before row rows).finalized final with high | ⟨other, also, high⟩
  · omega
  · rw [current] at also
    cases also
    omega

theorem recover_held (held : Held floor s) :
    Walk (fun _ t => Held floor t) (recoverIntegrity C custody failpoints) s
      fun _ t => Held floor t := by
  have removal (t : Store ω) (name : Int × Text) (held : Held floor t) :
      Held floor (t.setFiles (t.files.removePrepared name)) ∧
        Held floor (t.setFiles (t.files.removePrepared name)) :=
    ⟨held_removePrepared held name, held_removePrepared held name⟩
  have orphans := walk_removeOrphans (M := fun _ t => Held floor t) (Held floor) removal held
  simp only [recoverIntegrity, walk_bind, walk_storage]
  split
  · simp only [walk_bind]
    refine walk_mono orphans (fun _ _ step => step) ?_
    rintro result t ⟨⟨known, rfl⟩, kept⟩
    cases known <;> exact walk_pure.mpr kept
  · simp only [walk_bind]
    refine walk_mono orphans (fun _ _ step => step) ?_
    rintro result t ⟨⟨known, rfl⟩, kept⟩
    cases known <;> exact walk_pure.mpr kept
  · rename_i transactionId generation pending
    obtain ⟨row, latest, prepared, rfl⟩ := status_prepared pending
    obtain ⟨before, rows⟩ := latest_last held.anchored latest
    have inside : row ∈ s.db.anchors := by simp [rows]
    simp only [walk_bind, walk_check, row_of_transaction held.anchored inside, required]
    split
    · rename_i unconfirmed
      exact discard_held held inside prepared unconfirmed
    · simp only [walk_bind, walk_attempt]
      refine walk_mono (finalize_held held row.transactionId) (fun _ _ step => step) ?_
      intro result t kept
      cases result with
      | ok => exact walk_pure.mpr kept
      | error error => exact quarantine_held kept _
  · exact quarantine_held held _
  · exact quarantine_held held _
  · exact walk_pure.mpr held

/-! Runs. -/

variable {P : RedactionCrates} {redactor : ReceiptRedactor} {lookups : Lookups ω}

/-- Every state a walk stops in is anchored. -/
def StaysAnchored {α : Type} (x : Integral ω α) (s : Store ω) : Prop :=
  Walk (fun _ t => Anchored t.db.anchors) x s fun _ t => Anchored t.db.anchors

theorem recover_anchored (anchored : Anchored s.db.anchors) :
    StaysAnchored (recoverIntegrity C custody failpoints) s := by
  obtain ⟨floor, held⟩ := held_least anchored
  exact walk_mono (recover_held held) (fun _ _ held => held.anchored) fun _ _ held => held.anchored

theorem finalize_anchored (anchored : Anchored s.db.anchors) (transactionId : Text) :
    StaysAnchored (finalizeAnchor C custody failpoints transactionId) s := by
  obtain ⟨floor, held⟩ := held_least anchored
  exact walk_mono (finalize_held held transactionId) (fun _ _ held => held.anchored)
    fun _ _ held => held.anchored

/-- A prepared anchor follows the rows of the transaction it is prepared in. -/
theorem prepare_anchored {transaction next : Database ω} {input : AnchorCommitInput}
    {document : AnchorDocument} (anchored : Anchored transaction.anchors)
    (checked : prepareChecks C custody s transaction input = .ok document)
    (inserted : insertAnchor (preparedRow C custody input document) transaction = .ok next) :
    Anchored next.anchors := by
  obtain ⟨rfl, fresh⟩ := insertAnchor_rows inserted
  refine anchored_insert anchored ?_ fresh
  intro last found
  simp only [prepareChecks, bind_ok, ensure_ok, anchored_latest anchored, Option.mem_def.mp found]
    at checked
  obtain ⟨-, -, -, -, _, progression, -⟩ := checked
  simp only [validateAnchorProgression, bind_ok, ensure_ok] at progression
  obtain ⟨-, settled, -, -, -, generation, -, -, -, count, -⟩ := progression
  exact ⟨settled, generation, count⟩

theorem prepareInTransaction_anchored {transaction : Database ω} {input : AnchorCommitInput}
    (anchored : Anchored s.db.anchors) (open_ : Anchored transaction.anchors) :
    Walk (fun _ t => Anchored t.db.anchors)
      (prepareAnchorInTransaction C custody failpoints transaction input) s fun result t =>
        Anchored t.db.anchors ∧ ∀ prepared next, result = .ok (prepared, next) →
          Anchored next.anchors := by
  simp only [prepareAnchorInTransaction, walk_bind, walk_reading, walk_attempt, walk_hit,
    walk_changeFiles, walk_raise, walk_check]
  split
  · rename_i document checked
    split
    · refine walk_durableWriteAtomic anchored (fun _ => ⟨anchored, anchored, fun _ _ same => by cases same⟩) fun result => ?_
      cases result with
      | error => exact ⟨anchored, anchored, fun _ _ same => by cases same⟩
      | ok =>
        cases failpoints "db.prepare.before" with
        | error => exact ⟨anchored, anchored, fun _ _ same => by cases same⟩
        | ok =>
          cases inserted : insertAnchor (preparedRow C custody input document) transaction with
          | error =>
            simp only [walk_bind, walk_changeFiles, walk_raise]
            exact ⟨anchored, anchored, fun _ _ same => by cases same⟩
          | ok next =>
            refine walk_pure.mpr ⟨anchored, ?_⟩
            rintro prepared other same
            cases same
            exact prepare_anchored open_ checked inserted
    · exact ⟨anchored, anchored, fun _ _ same => by cases same⟩
  · exact ⟨anchored, fun _ _ same => by cases same⟩

theorem insertReceipt_anchors {row : PersistedReceipt} {db next : Database ω}
    (inserted : insertReceipt row db = .ok next) : next.anchors = db.anchors := by
  unfold insertReceipt at inserted
  split at inserted <;> simp only [bind_ok] at inserted
  · obtain ⟨-, -, -, -, -, -, -, -, -, -, -, -, -, -, same⟩ := inserted
    cases same
    rfl
  · obtain ⟨-, -, -, -, -, -, -, -, -, -, same⟩ := inserted
    cases same
    rfl

theorem insertEvidence_anchors {receiptId : Text} {evidence : List EvidenceRef}
    {db next : Database ω} (inserted : insertEvidence receiptId evidence db = .ok next) :
    next.anchors = db.anchors := by
  obtain ⟨-, -, same⟩ := bind_ok.mp inserted
  cases same
  rfl

theorem advanceJournal_anchors (command : AppendReceiptCommand) (position : ChainPosition)
    (digest : Text) (db : Database ω) :
    (advanceJournal command position digest db).anchors = db.anchors := by
  unfold advanceJournal
  split <;> rfl

theorem advanceDelegation_anchors {command : AppendReceiptCommand} {position : ChainPosition}
    {digest : Text} {db next : Database ω}
    (advanced : advanceDelegation command position digest db = .ok next) :
    next.anchors = db.anchors := by
  obtain ⟨-, -, same⟩ := bind_ok.mp advanced
  cases same
  rfl

theorem write_anchored {command : AppendReceiptCommand} {position : ChainPosition}
    {receipt : SealedReceipt} {evidence : List EvidenceRef} {db next : Database ω}
    {record : ReceiptRecord} (anchored : Anchored db.anchors)
    (written : writeReceipt C custody lookups command position receipt evidence db =
      .ok (record, next)) : Anchored next.anchors := by
  simp only [writeReceipt, bind_ok] at written
  obtain ⟨-, -, first, receipts, second, references, third, delegations, fourth, confirmed, found,
    -, -, -, same⟩ := written
  cases same
  have kept : third.anchors = db.anchors := by
    rw [advanceDelegation_anchors delegations, advanceJournal_anchors,
      insertEvidence_anchors references, insertReceipt_anchors receipts]
  obtain ⟨before, row, changed, rows, next, -, -, -, -, generation, count, transaction⟩ :=
    confirm_rows (kept ▸ anchored) confirmed
  rw [← kept, rows] at anchored
  rw [next]
  exact anchored_replace anchored generation count transaction

theorem transaction_anchored {command : AppendReceiptCommand} {position : ChainPosition}
    {facts : Facts} {receipt : SealedReceipt} {db next : Database ω}
    {outcome : AppendReceiptOutcome} (anchored : Anchored db.anchors)
    (done : receiptTransaction C custody lookups db command position facts receipt =
      .ok (outcome, next)) : Anchored next.anchors := by
  simp only [receiptTransaction, bind_ok] at done
  obtain ⟨_, -, done⟩ := done
  split at done
  · split at done
    · split at done <;> cases done <;> exact anchored
    · cases done
      exact anchored
  · simp only [bind_ok] at done
    obtain ⟨-, -, -, -, ⟨record, after⟩, written, same⟩ := done
    cases same
    exact write_anchored anchored written

theorem recovered_anchored {β : Type} {x : Integral ω β} (anchored : Anchored s.db.anchors)
    (after : ∀ t, Anchored t.db.anchors → StaysAnchored x t) :
    StaysAnchored (do
      let _ ← attempt (recoverIntegrity C custody failpoints)
      x) s := by
  refine walk_bind.mpr (walk_attempt.mpr (walk_mono (recover_anchored anchored) (fun _ _ step => step) ?_))
  exact fun _ t kept => after t kept

theorem committed_anchored {command : AppendReceiptCommand} {position : ChainPosition}
    {facts : Facts} {receipt : SealedReceipt} (anchored : Anchored s.db.anchors) :
    StaysAnchored (commitReceipt C custody lookups command position facts receipt) s := by
  simp only [StaysAnchored, commitReceipt, walk_bind, walk_reading]
  split
  · rename_i pair done
    have next := transaction_anchored anchored done
    split
    · exact walk_bind.mpr (walk_commitDb.mpr ⟨next, walk_pure.mpr next⟩)
    · exact walk_pure.mpr anchored
  · exact anchored

theorem append_anchored (command : AppendReceiptCommand) (anchored : Anchored s.db.anchors) :
    StaysAnchored (appendReceipt C custody failpoints P redactor lookups command) s := by
  simp only [StaysAnchored, appendReceipt, walk_bind, walk_reading]
  split
  · split
    · exact walk_pure.mpr anchored
    · simp only [prepareAnchor, walk_bind, walk_storage]
      refine walk_mono (prepareInTransaction_anchored anchored anchored) (fun _ _ step => step) ?_
      rintro result t ⟨kept, open_⟩
      cases result with
      | error => exact kept
      | ok pair =>
        have next := open_ pair.1 pair.2 rfl
        simp only [walk_commitDb, walk_hit]
        refine ⟨next, ?_⟩
        split
        · simp only [walk_attempt, walk_pure]
          refine walk_mono (committed_anchored next) (fun _ _ step => step) fun result u kept => ?_
          split
          · refine walk_bind.mpr (walk_mono (finalize_anchored kept _) (fun _ _ step => step) ?_)
            intro done v kept
            cases done with
            | ok => exact walk_pure.mpr kept
            | error => exact kept
          · exact recovered_anchored kept fun _ kept => walk_pure.mpr kept
          · exact recovered_anchored kept fun _ kept => walk_raise.mpr kept
        · exact next
  · exact anchored

/-- A mutation leaves the anchor rows to its receipt. -/
theorem plan_anchored {T : Type} {command : AppendReceiptCommand} {revision : Int} {precheck : Bool}
    {mutation : Mutation ω T} {plan : AtomicPlan ω T}
    (planned : planAtomic C custody P redactor lookups s command revision precheck mutation =
      .ok plan) :
    match plan with
    | .close _ db => db.anchors = s.db.anchors
    | .stale _ => True
    | .prepare _ _ _ _ _ db => db.anchors = s.db.anchors := by
  unfold planAtomic at planned
  split at planned
  · obtain ⟨⟨mutated, others, delegations⟩, -, planned⟩ := bind_ok.mp planned
    cases mutated with
    | append => contradiction
    | noAppend value =>
      cases planned
      rfl
  · obtain ⟨snapshot, -, planned⟩ := bind_ok.mp planned
    dsimp only at planned
    split at planned
    · cases planned
      trivial
    · obtain ⟨⟨mutated, others, delegations⟩, -, planned⟩ := bind_ok.mp planned
      cases mutated with
      | noAppend value =>
        cases planned
        rfl
      | append value =>
        dsimp only at planned
        split at planned
        · cases planned
          trivial
        · simp only [planReceipt, bind_ok] at planned
          obtain ⟨-, -, -, -, -, -, facts, -, receipt, -, generation, -, same⟩ := planned
          cases same
          rfl

theorem atomic_anchored {T : Type} (command : AppendReceiptCommand) (revision : Int)
    (precheck : Bool) (mutation : Mutation ω T) (anchored : Anchored s.db.anchors) :
    StaysAnchored (atomicTransaction C custody failpoints P redactor lookups command revision
      precheck mutation) s := by
  simp only [StaysAnchored, atomicTransaction, walk_bind, walk_reading]
  split
  · rename_i plan planned
    have kept := plan_anchored planned
    split
    · rename_i value db
      have next : Anchored db.anchors := by
        rw [show db.anchors = s.db.anchors from kept]
        exact anchored
      exact walk_bind.mpr (walk_commitDb.mpr ⟨next, walk_pure.mpr next⟩)
    · exact walk_pure.mpr anchored
    · rename_i value input position facts receipt db
      have open_ : Anchored db.anchors := by
        rw [show db.anchors = s.db.anchors from kept]
        exact anchored
      refine walk_bind.mpr
        (walk_mono (prepareInTransaction_anchored anchored open_) (fun _ _ step => step) ?_)
      rintro result t ⟨kept, ready⟩
      cases result with
      | error => exact kept
      | ok pair =>
        simp only [walk_bind, walk_check]
        split
        · rename_i written done
          have next := write_anchored (ready pair.1 pair.2 rfl) done
          exact walk_commitDb.mpr ⟨next, walk_pure.mpr next⟩
        · exact kept
  · exact anchored

theorem mutate_anchored {T : Type} (command : AppendReceiptCommand) (revision : Int)
    (precheck : Bool) (mutation : Mutation ω T) (anchored : Anchored s.db.anchors) :
    StaysAnchored (mutateWithAtomicReceiptAtRevision C custody failpoints P redactor lookups command
      revision precheck mutation) s := by
  simp only [StaysAnchored, mutateWithAtomicReceiptAtRevision, walk_bind, walk_reading, walk_attempt]
  split
  · refine walk_mono (atomic_anchored command revision precheck mutation anchored)
      (fun _ _ step => step) fun result t kept => ?_
    split
    · refine walk_bind.mpr (walk_mono (finalize_anchored kept _) (fun _ _ step => step) ?_)
      intro done v kept
      cases done with
      | ok => exact walk_pure.mpr kept
      | error => exact kept
    · exact walk_pure.mpr kept
    · exact recovered_anchored kept fun _ kept => walk_raise.mpr kept
  · exact anchored

end

section Runs
variable {ω : Type} (C : ReceiptCrates) (custody : KeyCustody) (P : RedactionCrates)
  (redactor : ReceiptRedactor) (lookups : Lookups ω)

/-- What the program does between two stops, with the states of its durable steps. Writes of other
parts of the program leave the anchor rows as they are. -/
inductive Event : Store ω → List (Store ω) → Store ω → Prop
  | append {failpoints s past t} (command : AppendReceiptCommand) :
    Stops (appendReceipt C custody failpoints P redactor lookups command) s past t → Event s past t
  | mutate {failpoints s past t} {T : Type} (command : AppendReceiptCommand) (revision : Int)
      (precheck : Bool) (mutation : Mutation ω T) :
    Stops (mutateWithAtomicReceiptAtRevision C custody failpoints P redactor lookups command revision
      precheck mutation) s past t → Event s past t
  | recover {failpoints s past t} :
    Stops (recoverIntegrity C custody failpoints) s past t → Event s past t
  | other {s : Store ω} (db : Database ω) :
    db.anchors = s.db.anchors → Event s [s.setDb db] (s.setDb db)

/-- A run from an empty store, with every state of the database it committed. -/
inductive Run : List (Database ω) → Store ω → Prop
  | start {db : Database ω} :
    db.receipts = [] → db.evidence = [] → db.anchors = [] → Run [db] ⟨db, ⟨[], fun _ => none, none, none⟩⟩
  | step {committed s past t} :
    Run committed s → Event C custody P redactor lookups s past t →
      Run (committed ++ past.map (·.db)) t

/-- Recoveries, each of which may stop anywhere. -/
def Recoveries : Store ω → Store ω → Prop :=
  Relation.ReflTransGen fun s t => ∃ failpoints past, Stops (recoverIntegrity C custody failpoints) s past t

/-- The database is one that recovery takes back to a receipt count below the floor: its last
anchor was prepared and not confirmed. -/
def Rewindable (floor : Int) (s : Store ω) : Prop :=
  s.files.quarantine = none ∧ ∃ before prior row, s.db.anchors = before ++ [prior, row] ∧
    row.status = .prepared ∧ row.receiptCommitConfirmed = false ∧ prior.receiptCount < floor

variable {C custody P redactor lookups}

theorem event_anchored {s t : Store ω} {past : List (Store ω)} (anchored : Anchored s.db.anchors)
    (event : Event C custody P redactor lookups s past t) :
    Anchored t.db.anchors ∧ ∀ u ∈ past, Anchored u.db.anchors := by
  have walked {α : Type} {x : Integral ω α} (walk : StaysAnchored x s) (stops : Stops x s past t) :
      Anchored t.db.anchors ∧ ∀ u ∈ past, Anchored u.db.anchors := by
    obtain ⟨path, rfl⟩ := stops_path walk stops
    exact path_invariant (I := fun u : Store ω => Anchored u.db.anchors) (fun _ _ step _ => step)
      path anchored
  cases event with
  | append command stops => exact walked (append_anchored command anchored) stops
  | mutate command revision precheck mutation stops =>
    exact walked (mutate_anchored command revision precheck mutation anchored) stops
  | recover stops => exact walked (recover_anchored anchored) stops
  | other db same =>
    have next : Anchored db.anchors := same ▸ anchored
    exact ⟨next, by simpa [Store.setDb] using next⟩

theorem run_anchored {committed : List (Database ω)} {s : Store ω}
    (run : Run C custody P redactor lookups committed s) :
    Anchored s.db.anchors ∧ ∀ db ∈ committed, Anchored db.anchors := by
  induction run with
  | start _ _ empty =>
    have anchored : Anchored ([] : List AnchorRow) := List.Pairwise.nil
    exact ⟨by simpa [empty] using anchored, by simpa [empty] using anchored⟩
  | step _ event ih =>
    obtain ⟨last, inside⟩ := event_anchored ih.1 event
    refine ⟨last, fun db member => ?_⟩
    rcases List.mem_append.mp member with earlier | later
    · exact ih.2 db earlier
    · obtain ⟨u, visited, rfl⟩ := List.mem_map.mp later
      exact inside u visited

theorem recoveries_held {floor : Int} {s t : Store ω} (held : Held floor s)
    (recoveries : Recoveries C custody s t) : Held floor t := by
  induction recoveries with
  | refl => exact held
  | tail _ step ih =>
    obtain ⟨failpoints, past, stops⟩ := step
    obtain ⟨path, rfl⟩ := stops_path (recover_held ih) stops
    exact (path_invariant (I := Held floor) (fun _ _ step _ => step) path ih).1

/-- An earlier database that is not a prepared anchor over a lower row holds the recorded count. -/
theorem replaced_held {db : Database ω} {files : Files} {document : AnchorDocument}
    (anchored : Anchored db.anchors) (recorded : files.current = some document)
    (kept : ¬ Rewindable document.receiptCount ⟨db, files⟩) :
    Held document.receiptCount ⟨db, files⟩ := by
  refine ⟨anchored, fun unmarked before row rows => ?_⟩
  have reaches : Reaches document.receiptCount ⟨db, files⟩ row :=
    .inr ⟨document, recorded, le_rfl⟩
  refine ⟨fun _ => reaches, fun _ _ => reaches, fun prepared unconfirmed prior last => ?_⟩
  by_contra low
  obtain ⟨earlier, rfl⟩ := List.getLast?_eq_some_iff.mp (Option.mem_def.mp last)
  exact kept ⟨unmarked, earlier, prior, row, by simpa using rows, prepared, unconfirmed, by omega⟩

/-- An earlier database under the current files is never trusted below the recorded count, unless
it is one that recovery takes back. -/
theorem rollback_detected {committed : List (Database ω)} {s t : Store ω} {db : Database ω}
    {document : AnchorDocument} {anchorGeneration receiptCount : Int} {head : Option Text}
    {key : ReceiptKeyRef} (run : Run C custody P redactor lookups committed s)
    (earlier : db ∈ committed) (recorded : s.files.current = some document)
    (kept : ¬ Rewindable document.receiptCount ⟨db, s.files⟩)
    (recoveries : Recoveries C custody ⟨db, s.files⟩ t)
    (trusted : status C custody t = .trusted anchorGeneration receiptCount head key) :
    document.receiptCount ≤ receiptCount :=
  held_trusted
    (recoveries_held (replaced_held ((run_anchored run).2 db earlier) recorded kept) recoveries) trusted

end Runs
end CarsinOS.Integrity
