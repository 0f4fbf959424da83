import CarsinOS.Receipt.Append

/-! What the operations of the store do to the anchor rows: in every state a process can stop in,
the rows are finalized but for the last. -/
namespace CarsinOS.Integrity
open CarsinOS.Lib CarsinOS.Receipt

/-- An anchor row and a later one. -/
structure Precedes (first second : AnchorRow) : Prop where
  finalized : first.status = .finalized
  generation : first.anchorGeneration < second.anchorGeneration
  count : first.receiptCount ≤ second.receiptCount
  transaction : first.transactionId ≠ second.transactionId

def Anchored (rows : List AnchorRow) : Prop := rows.Pairwise Precedes

theorem anchored_sorted {ω : Type} {db : Database ω} (anchored : Anchored db.anchors) :
    db.allAnchorRows = db.anchors :=
  (anchored.imp fun first => first.generation.le).insertionSort_eq

theorem anchored_latest {ω : Type} {db : Database ω} (anchored : Anchored db.anchors) :
    latestAnchorRow db = db.anchors.getLast? := by
  rw [latestAnchorRow, anchored_sorted anchored]

/-- A row that is not final is the last one. -/
theorem anchored_open {rows : List AnchorRow} {row : AnchorRow} (anchored : Anchored rows)
    (inside : row ∈ rows) (unsettled : row.status ≠ .finalized) :
    ∃ before, rows = before ++ [row] := by
  obtain ⟨before, after, rfl⟩ := List.append_of_mem inside
  cases after with
  | nil => exact ⟨before, rfl⟩
  | cons next after =>
    have tail := (List.pairwise_append.mp anchored).2.1
    exact absurd ((List.pairwise_cons.mp tail).1 next (by simp)).finalized unsettled

theorem anchored_other {before : List AnchorRow} {row : AnchorRow}
    (anchored : Anchored (before ++ [row])) :
    ∀ other ∈ before, other.transactionId ≠ row.transactionId := fun other inside =>
  ((List.pairwise_append.mp anchored).2.2 other inside row (by simp)).transaction

theorem anchored_before {before : List AnchorRow} {row : AnchorRow}
    (anchored : Anchored (before ++ [row])) : Anchored before :=
  (List.pairwise_append.mp anchored).1

theorem anchored_replace {before : List AnchorRow} {row next : AnchorRow}
    (anchored : Anchored (before ++ [row])) (generation : next.anchorGeneration = row.anchorGeneration)
    (count : next.receiptCount = row.receiptCount)
    (transaction : next.transactionId = row.transactionId) : Anchored (before ++ [next]) := by
  rw [Anchored, List.pairwise_append] at anchored ⊢
  refine ⟨anchored.1, List.pairwise_singleton .., ?_⟩
  intro other inside last same
  cases List.mem_singleton.mp same
  have step := anchored.2.2 other inside row (by simp)
  exact ⟨step.finalized, generation ▸ step.generation, count ▸ step.count,
    transaction ▸ step.transaction⟩

theorem anchored_insert {rows : List AnchorRow} {row : AnchorRow} (anchored : Anchored rows)
    (next : ∀ last ∈ rows.getLast?, last.status = .finalized ∧
      row.anchorGeneration = last.anchorGeneration + 1 ∧ last.receiptCount ≤ row.receiptCount)
    (fresh : ∀ other ∈ rows, other.transactionId ≠ row.transactionId) :
    Anchored (rows ++ [row]) := by
  refine List.pairwise_append.mpr ⟨anchored, List.pairwise_singleton .., ?_⟩
  intro other inside last same
  cases List.mem_singleton.mp same
  obtain ⟨before, last, rfl⟩ :=
    (List.eq_nil_or_concat' rows).resolve_left (List.ne_nil_of_mem inside)
  obtain ⟨settled, generation, count⟩ := next last (by simp)
  rcases List.mem_append.mp inside with early | late
  · have step := (List.pairwise_append.mp anchored).2.2 other early last (by simp)
    exact ⟨step.finalized, by have := step.generation; omega, step.count.trans count,
      fresh other inside⟩
  · cases List.mem_singleton.mp late
    exact ⟨settled, by omega, count, fresh other inside⟩

section
variable {ω : Type} {db : Database ω}

theorem row_of_transaction {row : AnchorRow} (anchored : Anchored db.anchors)
    (inside : row ∈ db.anchors) : anchorRowByTransaction db row.transactionId = some row := by
  obtain ⟨before, after, split⟩ := List.append_of_mem inside
  rw [anchorRowByTransaction, split, List.find?_append, List.find?_eq_none.mpr]
  · simp
  · intro other early
    rw [split, Anchored, List.pairwise_append] at anchored
    simpa using (anchored.2.2 other early row (by simp)).transaction

theorem transaction_row {transactionId : Text} {row : AnchorRow}
    (found : anchorRowByTransaction db transactionId = some row) :
    row ∈ db.anchors ∧ row.transactionId = transactionId := by
  refine ⟨List.mem_of_find?_eq_some found, ?_⟩
  simpa using List.find?_some found

/-- A change of the last row alone. -/
theorem updateAnchor_last {before : List AnchorRow} {row : AnchorRow}
    (change : AnchorRow → AnchorRow) (anchored : Anchored db.anchors)
    (rows : db.anchors = before ++ [row]) :
    (updateAnchor row.transactionId change db).anchors = before ++ [change row] := by
  simp only [updateAnchor, rows, List.map_append, List.map_cons, List.map_nil, if_true]
  congr 1
  refine (List.map_congr_left ?_).trans (List.map_id _)
  intro other inside
  rw [rows] at anchored
  simp [anchored_other anchored other inside]

theorem latest_last {row : AnchorRow} (anchored : Anchored db.anchors)
    (latest : latestAnchorRow db = some row) : ∃ before, db.anchors = before ++ [row] := by
  rw [anchored_latest anchored] at latest
  exact List.getLast?_eq_some_iff.mp latest

theorem anchored_quarantine (reason : String) (anchored : Anchored db.anchors) :
    Anchored (quarantineDb reason db).anchors := by
  unfold quarantineDb
  split
  · exact anchored
  · rename_i latest found
    obtain ⟨before, rows⟩ := latest_last anchored found
    have changed := updateAnchor_last (fun row => { row with status := .quarantined })
      anchored rows
    simp only [updateAnchor] at changed
    rw [changed]
    rw [rows] at anchored
    exact anchored_replace anchored rfl rfl rfl

theorem insertAnchor_rows {row : AnchorRow} {next : Database ω}
    (inserted : insertAnchor row db = .ok next) :
    next = { db with anchors := db.anchors ++ [row] } ∧
      ∀ other ∈ db.anchors, other.transactionId ≠ row.transactionId := by
  simp only [insertAnchor, bind_ok, ensure_ok] at inserted
  obtain ⟨-, fresh, same⟩ := inserted
  simp only [List.all_eq_true, decide_eq_true_eq] at fresh
  exact ⟨(Except.ok.inj same).symm, fun other inside => (fresh other inside).1⟩

theorem anchored_discard {pending : AnchorRow} (anchored : Anchored db.anchors)
    (inside : pending ∈ db.anchors) (prepared : pending.status = .prepared)
    (unconfirmed : pending.receiptCommitConfirmed = false) :
    ∃ before, db.anchors = before ++ [pending] ∧
      db.anchors.filter (fun other => !decide (other.transactionId = pending.transactionId ∧
        other.status = .prepared ∧ other.receiptCommitConfirmed = false)) = before := by
  obtain ⟨before, rows⟩ := anchored_open anchored inside (by simp [prepared])
  refine ⟨before, rows, ?_⟩
  rw [rows] at anchored ⊢
  rw [List.filter_append, List.filter_eq_self.mpr]
  · simp [prepared, unconfirmed]
  · intro other early
    simp [anchored_other anchored other early]

/-- A confirmation changes the last row, which was prepared for the count and the head. -/
theorem confirm_change {C : ReceiptCrates} {custody : KeyCustody} {transactionId : Text}
    {receiptCount committedAt : Int} {head : Option Text} {next : Database ω}
    (anchored : Anchored db.anchors)
    (confirmed : confirmPreparedAnchorInTransaction C custody db transactionId receiptCount head
      committedAt = .ok next) :
    ∃ before row tag, db.anchors = before ++ [row] ∧ row.transactionId = transactionId ∧
      row.status = .prepared ∧ row.receiptCommitConfirmed = false ∧
      row.receiptCount = receiptCount ∧ row.receiptHeadDigest = head ∧
      next = { db with anchors := before ++ [{ row with
        receiptCommitConfirmed := true
        receiptCommittedAt := some committedAt
        receiptCommitConfirmationTag := some tag }] } := by
  obtain ⟨row, found, ⟨prepared, open_, count, digest⟩, same⟩ : ∃ row,
      anchorRowByTransaction db transactionId = some row ∧ (row.status = .prepared ∧
        row.receiptCommitConfirmed = false ∧ row.receiptCount = receiptCount ∧
        row.receiptHeadDigest = head) ∧ ∃ key, custody.loadKey row.key = .ok key ∧
      next = updateAnchor transactionId (fun row => { row with
        receiptCommitConfirmed := true
        receiptCommittedAt := some committedAt
        receiptCommitConfirmationTag := some (receiptCommitConfirmationTag C row committedAt key) })
        db := by
    cases head <;>
      simp only [confirmPreparedAnchorInTransaction, bind_ok, ensure_ok, required_ok,
        withContext_ok] at confirmed
    · obtain ⟨-, -, -, -, -, -, -, -, row, found, -, eligible, key, loaded, same⟩ := confirmed
      exact ⟨row, found, eligible, key, loaded, (Except.ok.inj same).symm⟩
    · obtain ⟨-, -, -, -, -, -, -, -, row, found, -, eligible, key, loaded, same⟩ := confirmed
      exact ⟨row, found, eligible, key, loaded, (Except.ok.inj same).symm⟩
  obtain ⟨key, -, rfl⟩ := same
  obtain ⟨inside, rfl⟩ := transaction_row found
  obtain ⟨before, rows⟩ := anchored_open anchored inside (by simp [prepared])
  exact ⟨before, row, receiptCommitConfirmationTag C row committedAt key, rows, rfl, prepared,
    open_, count, digest,
    congrArg (fun anchors => { db with anchors }) (updateAnchor_last _ anchored rows)⟩

theorem confirm_rows {C : ReceiptCrates} {custody : KeyCustody} {transactionId : Text}
    {receiptCount committedAt : Int} {head : Option Text} {next : Database ω}
    (anchored : Anchored db.anchors)
    (confirmed : confirmPreparedAnchorInTransaction C custody db transactionId receiptCount head
      committedAt = .ok next) :
    ∃ before row changed, db.anchors = before ++ [row] ∧ next.anchors = before ++ [changed] ∧
      row.transactionId = transactionId ∧ row.status = .prepared ∧
      row.receiptCount = receiptCount ∧ row.receiptHeadDigest = head ∧
      changed.anchorGeneration = row.anchorGeneration ∧
      changed.receiptCount = row.receiptCount ∧ changed.transactionId = row.transactionId := by
  obtain ⟨before, row, tag, rows, transaction, prepared, -, count, digest, rfl⟩ :=
    confirm_change anchored confirmed
  exact ⟨before, row, _, rows, rfl, transaction, prepared, count, digest, rfl, rfl, rfl⟩

theorem activate_anchors {key : ReceiptKeyRef} {anchorGeneration : Int} {next : Database ω}
    (activated : activateKeyForAnchor db key anchorGeneration = .ok next) :
    next.anchors = db.anchors := by
  simp only [activateKeyForAnchor, bind_ok] at activated
  obtain ⟨record, -, activated⟩ := activated
  split at activated
  · obtain ⟨-, -, same⟩ := bind_ok.mp activated
    cases same
    rfl
  · split at activated
    · simp only [bind_ok] at activated
      obtain ⟨-, -, keys, -, -, -, same⟩ := activated
      cases same
      rfl
    · simp only [bind_ok] at activated
      obtain ⟨keys, -, -, -, same⟩ := activated
      cases same
      rfl
  · contradiction
  · contradiction

theorem finalize_rows {C : ReceiptCrates} {before : List AnchorRow} {row : AnchorRow}
    {finalized : AnchorDocument} {next : Database ω} (anchored : Anchored db.anchors)
    (rows : db.anchors = before ++ [row]) (done : finalizeRow C db row finalized = .ok next) :
    next.anchors = before ++ [{ row with
      status := .finalized, finalizedDocumentDigest := some (documentDigest C finalized) }] := by
  obtain ⟨middle, activated, same⟩ := bind_ok.mp done
  cases same
  have anchors := activate_anchors activated
  rw [← anchors] at anchored rows
  exact updateAnchor_last _ anchored rows

end

/-! The steps of a write, as rules. -/

section Walks
open Lib.Durable
variable {ω α : Type} {M : Store ω → Store ω → Prop} {s : Store ω}
  {Q : Except Failure Unit → Store ω → Prop} {failpoints : Failpoints}

@[simp] theorem walk_check {x : Anyhow α} {Q : Except Failure α → Store ω → Prop} :
    Walk M (check x) s Q ↔ Q x s := walk_reading

@[simp] theorem walk_hit {name : String} : Walk M (hit failpoints name) s Q ↔ Q (failpoints name) s :=
  walk_check

@[simp] theorem walk_changeFiles {f : Files → Files} :
    Walk M (changeFiles f) s Q ↔ M s (s.setFiles (f s.files)) ∧ Q (.ok ()) (s.setFiles (f s.files)) :=
  walk_commit

@[simp] theorem walk_commitDb {db : Database ω} :
    Walk M (commitDb db) s Q ↔ M s (s.setDb db) ∧ Q (.ok ()) (s.setDb db) := walk_commit

/-- A file is written or not, whatever the write reports. -/
theorem walk_durableWriteAtomic {area : String} {f : Files → Files}
    (move : M s (s.setFiles (f s.files))) (unwritten : ∀ e, Q (.error e) s)
    (written : ∀ result, Q result (s.setFiles (f s.files))) :
    Walk M (durableWriteAtomic failpoints area f) s Q := by
  simp only [durableWriteAtomic, walk_bind, walk_hit, walk_changeFiles]
  cases failpoints (area ++ ".write.before") with
  | error e => exact unwritten e
  | ok =>
    cases failpoints (area ++ ".write.after") with
    | error e => exact unwritten e
    | ok =>
      cases failpoints (area ++ ".sync.after") with
      | error e => exact unwritten e
      | ok =>
        refine ⟨move, ?_⟩
        cases failpoints (area ++ ".rename.after") with
        | error e => exact written (.error e)
        | ok => exact written _

/-- Removing prepared files is all that a removal does. -/
theorem walk_removeFiles {names : List (Int × Text)} (I : Store ω → Prop)
    (move : ∀ t name, I t → M t (t.setFiles (t.files.removePrepared name)) ∧
      I (t.setFiles (t.files.removePrepared name)))
    (initial : I s) : Walk M (removeFiles names) s fun result t => result = .ok () ∧ I t := by
  induction names generalizing s with
  | nil => simpa [removeFiles] using initial
  | cons name names ih =>
    simp only [removeFiles, walk_bind, walk_changeFiles]
    exact ⟨(move s name initial).1, ih (move s name initial).2⟩

theorem walk_removeOrphans (I : Store ω → Prop)
    (move : ∀ t name, I t → M t (t.setFiles (t.files.removePrepared name)) ∧
      I (t.setFiles (t.files.removePrepared name)))
    (initial : I s) : Walk M removeOrphanPreparedFiles s fun result t =>
      (∃ known, result = .ok known) ∧ I t := by
  simp only [removeOrphanPreparedFiles, walk_bind, walk_storage]
  refine walk_mono (walk_removeFiles I move initial) (fun _ _ step => step) ?_
  rintro result t ⟨rfl, kept⟩
  exact walk_pure.mpr ⟨⟨_, rfl⟩, kept⟩

end Walks
end CarsinOS.Integrity
