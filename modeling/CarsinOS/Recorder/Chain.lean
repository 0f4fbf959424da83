import CarsinOS.Recorder.Growth

/-! The evidence chain of every attempt and the global chain of digests, in every journal its
operations can leave. -/
namespace CarsinOS.Recorder
open CarsinOS.Lib

/-- What executing an attempt leaves: it is accepted, then perhaps started and then perhaps
ended. -/
inductive Executed : List Evidential → Prop where
  | accepted : Executed [(.accepted, .execution)]
  | started : Executed [(.accepted, .execution), (.invocationStarted, .execution)]
  | ended {kind : ObservationKind} (terminal : isTerminal kind = true) :
      Executed [(.accepted, .execution), (.invocationStarted, .execution), (kind, .execution)]

/-- The evidence of an attempt: its execution, reconciliations that found out nothing and at most
one that did. A definite outcome ends it. -/
structure ChainShape (chain : List Evidential) : Prop where
  form : ∃ executed inconclusive conclusive, Executed executed ∧
    (∀ step ∈ inconclusive, step = (.unknown, .reconciliation)) ∧
    (conclusive = [] ∨ ∃ kind, Definite kind ∧ conclusive = [(kind, .reconciliation)]) ∧
    chain = executed ++ inconclusive ++ conclusive
  definite_last : ∀ before step after, chain = before ++ step :: after → Definite step.1 → after = []

theorem terminal_not_definite {kind : ObservationKind} (terminal : isTerminal kind = true)
    (open_ : ¬ Definite kind) : kind = .unknown := by
  cases kind <;> simp_all [isTerminal, Definite]

theorem append_singleton_split {α : Type} {before after chain : List α} {step last : α}
    (whole : chain ++ [last] = before ++ step :: after) :
    after = [] ∧ step = last ∨ ∃ rest, after = rest ++ [last] ∧ chain = before ++ step :: rest := by
  rcases List.eq_nil_or_concat after with none | ⟨rest, final, rfl⟩
  · subst none
    left
    exact ⟨rfl, (List.append_inj_right' whole rfl |> List.singleton_inj.mp).symm⟩
  · right
    have same : chain ++ [last] = (before ++ step :: rest) ++ [final] := by simpa using whole
    obtain ⟨front, back⟩ := List.append_inj' same rfl
    cases back
    exact ⟨rest, List.concat_eq_append, front⟩

/-- A step after which nothing definite is behind keeps a definite outcome last. -/
theorem definite_last_snoc {chain : List Evidential} {last : Evidential}
    (open_ : ∀ step ∈ chain, ¬ Definite step.1) :
    ∀ before step after, chain ++ [last] = before ++ step :: after → Definite step.1 → after = [] := by
  intro before step after whole definite
  rcases append_singleton_split whole with ⟨none, _⟩ | ⟨rest, _, front⟩
  · exact none
  · exact absurd definite (open_ step (by simp [front]))

theorem definite_not_earlier {chain : List Evidential} (shape : ChainShape chain)
    {last : Evidential} (latest : chain.getLast? = some last) (open_ : ¬ Definite last.1) :
    ∀ step ∈ chain, ¬ Definite step.1 := by
  intro step member definite
  obtain ⟨before, after, whole⟩ := List.append_of_mem member
  have ends := shape.definite_last before step after whole definite
  subst ends
  rw [whole, List.getLast?_concat] at latest
  exact open_ (Option.some.inj latest ▸ definite)

/-- A chain with nothing but an acceptance is one acceptance. -/
theorem shape_fresh {chain : List Evidential} (shape : ChainShape chain)
    (fresh : ∀ step ∈ chain, step.1 = .accepted) : chain = [(.accepted, .execution)] := by
  obtain ⟨executed, inconclusive, conclusive, ran, unknowns, conclusion, rfl⟩ := shape.form
  have none : inconclusive = [] := by
    apply List.eq_nil_iff_forall_not_mem.mpr
    intro step member
    have kind := fresh step (by simp [member])
    rw [unknowns step member] at kind
    contradiction
  have open_ : conclusive = [] := by
    rcases conclusion with none | ⟨kind, definite, rfl⟩
    · exact none
    · have accepted : kind = .accepted := fresh (kind, .reconciliation) (by simp)
      simp [accepted, Definite] at definite
  subst none open_
  cases ran with
  | accepted => rfl
  | started => simp at fresh
  | ended => simp at fresh

/-- A chain that was started and has no outcome is an acceptance and a start. -/
theorem shape_started {chain : List Evidential} (shape : ChainShape chain)
    (started : ∃ step ∈ chain, step.1 = .invocationStarted)
    (calm : ∀ step ∈ chain, isTerminal step.1 = false) :
    chain = [(.accepted, .execution), (.invocationStarted, .execution)] := by
  obtain ⟨executed, inconclusive, conclusive, ran, unknowns, conclusion, rfl⟩ := shape.form
  have none : inconclusive = [] := by
    apply List.eq_nil_iff_forall_not_mem.mpr
    intro step member
    have terminal := calm step (by simp [member])
    rw [unknowns step member] at terminal
    contradiction
  have open_ : conclusive = [] := by
    rcases conclusion with none | ⟨kind, definite, rfl⟩
    · exact none
    · have terminal : isTerminal kind = false := calm (kind, .reconciliation) (by simp)
      rcases definite with rfl | rfl <;> contradiction
  subst none open_
  cases ran with
  | accepted => simp at started
  | started => rfl
  | @ended kind terminal =>
    have open_ : isTerminal kind = false := calm (kind, .execution) (by simp)
    rw [terminal] at open_
    contradiction

theorem shape_step {chain : List Evidential} {step : Evidential}
    (shape : chain = [] ∨ ChainShape chain) (follows : Follows chain step) :
    ChainShape (chain ++ [step]) := by
  cases follows with
  | accepted =>
    refine ⟨⟨_, [], [], .accepted, by simp, .inl rfl, rfl⟩, ?_⟩
    exact definite_last_snoc (by simp)
  | started some fresh =>
    have whole := shape_fresh (shape.resolve_left some) fresh
    subst whole
    refine ⟨⟨_, [], [], .started, by simp, .inl rfl, rfl⟩, ?_⟩
    exact definite_last_snoc (by simp [Definite])
  | ended started calm terminal =>
    have some : chain ≠ [] := by
      rintro rfl
      simp at started
    have whole := shape_started (shape.resolve_left some) started calm
    subst whole
    refine ⟨⟨_, [], [], .ended terminal, by simp, .inl rfl, rfl⟩, ?_⟩
    exact definite_last_snoc (by simp [Definite])
  | @reconciled _ last kind latest open_ terminal =>
    have some : chain ≠ [] := by
      intro none
      rw [none] at latest
      contradiction
    have shape := shape.resolve_left some
    have earlier := definite_not_earlier shape latest open_
    constructor
    · obtain ⟨executed, inconclusive, conclusive, ran, unknowns, conclusion, rfl⟩ := shape.form
      have none : conclusive = [] := by
        rcases conclusion with none | ⟨kind, definite, rfl⟩
        · exact none
        · exact absurd definite (earlier (kind, .reconciliation) (by simp))
      subst none
      by_cases definite : Definite kind
      · exact ⟨executed, inconclusive, [(kind, .reconciliation)], ran, unknowns,
          .inr ⟨kind, definite, rfl⟩, by simp⟩
      · have unknown := terminal_not_definite terminal definite
        subst unknown
        refine ⟨executed, inconclusive ++ [(.unknown, .reconciliation)], [], ran, ?_, .inl rfl, by simp⟩
        intro step member
        rcases List.mem_append.mp member with member | member
        · exact unknowns step member
        · exact List.mem_singleton.mp member
    · exact definite_last_snoc earlier

instance (kind : ObservationKind) : Decidable (Definite kind) := by
  unfold Definite
  infer_instance

/-- A definite outcome that can only be last is one at most. -/
theorem definite_once {α : Type} {p : α → Bool} {chain : List α}
    (last : ∀ before step after, chain = before ++ step :: after → p step → after = []) :
    chain.countP p ≤ 1 := by
  induction chain with
  | nil => simp
  | cons step rest ih =>
    by_cases holds : p step
    · have none := last [] step rest rfl holds
      simp [none, holds]
    · rw [List.countP_cons_of_neg holds]
      apply ih
      intro before step' after whole
      exact last (step :: before) step' after (by simp [whole])

/-- Records count from one, and each names the digest of the one before it. -/
def Linked (records : List JournalRecord) : Prop :=
  ∀ index record, records[index]? = some record → record.sequence = index + 1 ∧
    record.previousRecordDigest =
      ((records.take index).getLast?.map (·.recordDigest)).getD zeroDigest

/-- What the records of every journal satisfy. -/
structure Chained (j : Journal) : Prop extends Sound j where
  shaped : ∀ key, j.forKey key = [] ∨ ChainShape ((j.forKey key).map (·.evidential))
  linked : Linked j.records

section Journals
variable {R : RecorderCrates} {j : Journal}

theorem verifyRecord_position {record : JournalRecord}
    (verified : verifyRecord R record j = .ok ()) :
    record.sequence = j.records.length + 1 ∧ record.previousRecordDigest = j.headDigest := by
  by_cases other : record.journalVersion ≠ journalVersion ∨
      record.sequence ≠ j.records.length + 1 ∨ record.previousRecordDigest ≠ j.headDigest ∨
      record.recorderKeyId ≠ R.identity.keyId ∨
      record.recorderKeyGeneration ≠ R.identity.keyGeneration
  · simp only [verifyRecord, if_pos other] at verified
    cases verified
  · simp only [not_or, not_not] at other
    exact ⟨other.2.1, other.2.2.1⟩

theorem linked_push {record : JournalRecord} (linked : Linked j.records)
    (verified : verifyRecord R record j = .ok ()) : Linked (j.records ++ [record]) := by
  obtain ⟨sequence, previous⟩ := verifyRecord_position verified
  intro index found at_
  rcases Nat.lt_trichotomy index j.records.length with inside | rfl | outside
  · rw [List.getElem?_append_left inside] at at_
    rw [List.take_append_of_le_length (Nat.le_of_lt inside)]
    exact linked index found at_
  · rw [List.getElem?_concat_length] at at_
    cases at_
    rw [List.take_left]
    exact ⟨sequence, previous⟩
  · rw [List.getElem?_eq_none (by simp; omega)] at at_
    contradiction

theorem Chained.push {record : JournalRecord} {payload : List UInt8} (chained : Chained j)
    (next : Continues R j record payload) : Chained (j.push R record payload) := by
  refine ⟨chained.toSound.push next, ?_, linked_push chained.linked next.verified⟩
  intro key
  by_cases own : record.key = key
  · subst own
    right
    rw [Journal.forKey_push_same, List.map_append]
    have shape := chained.shaped record.key
    rw [← List.map_eq_nil_iff (f := (·.evidential))] at shape
    exact shape_step shape next.follows
  · rw [Journal.forKey_push_other own]
    exact chained.shaped key

theorem empty_chained : Chained Journal.empty :=
  ⟨empty_sound, fun _ => .inl rfl, fun _ _ found => nomatch found⟩

theorem call_chained (call : Call) (faults : Fault × Fault) (chained : Chained j) :
    Chained (call.run R faults j).2 := by
  apply call_keeps (fun _ chained => chained.toSound) (fun _ _ _ => Chained.push) _ call faults chained
  intro j file chained
  exact ⟨chained.toSound.file file, chained.shaped, chained.linked⟩

end Journals

/-- The journal that calls leave, with the faults of their appends. -/
def afterCalls (R : RecorderCrates) (calls : List (Call × Fault × Fault)) : Journal :=
  calls.foldl (fun j (call, faults) => (call.run R faults j).2) Journal.empty

theorem afterCalls_chained (R : RecorderCrates) (calls : List (Call × Fault × Fault)) :
    Chained (afterCalls R calls) := by
  unfold afterCalls
  suffices ∀ j, Chained j →
      Chained (calls.foldl (fun j (call, faults) => (call.run R faults j).2) j) from
    this _ empty_chained
  induction calls with
  | nil => exact fun j chained => chained
  | cons head rest ih => exact fun j chained => ih _ (call_chained head.1 head.2 chained)

/-- However calls interleave and whichever of their appends fail, the records of an attempt are of
one command and in order, with one definite outcome at most, and all records are one chain. -/
theorem evidence_chain (R : RecorderCrates) (calls : List (Call × Fault × Fault)) :
    (∀ key, ∀ a ∈ (afterCalls R calls).forKey key, ∀ b ∈ (afterCalls R calls).forKey key,
      a.commandDigest = b.commandDigest) ∧
    (∀ key, (afterCalls R calls).forKey key = [] ∨
      ChainShape (((afterCalls R calls).forKey key).map (·.evidential))) ∧
    (∀ key, ((afterCalls R calls).forKey key).countP (fun record => Definite record.kind) ≤ 1) ∧
    Linked (afterCalls R calls).records := by
  have chained := afterCalls_chained R calls
  refine ⟨chained.agreed, chained.shaped, ?_, chained.linked⟩
  intro key
  rcases chained.shaped key with none | shape
  · simp [none]
  · apply definite_once
    intro before record after whole definite
    have mapped : ((afterCalls R calls).forKey key).map (·.evidential) =
        before.map (·.evidential) ++ record.evidential :: after.map (·.evidential) := by
      rw [whole]
      simp
    have ends := shape.definite_last _ _ _ mapped (of_decide_eq_true definite)
    exact List.map_eq_nil_iff.mp ends

end CarsinOS.Recorder
