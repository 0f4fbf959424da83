import CarsinOS.Confirmation.Drift

/-! Which grants an amendment carries over: those of the actions that stay what the owner
confirmed. -/
namespace CarsinOS.Confirmation
open CarsinOS.Lib CarsinOS.Actor CarsinOS.Manifest CarsinOS.Danger CarsinOS.Integrity
open CarsinOS.Routine (confirmationForLeaf)

section Fold
variable {C : Crates} {S : SerdeJson} {leaf : CanonicalLeafAction} {intent : Text}
  {manifest : CanonicalLeafManifest}

/-! The fold over the active grants. -/

theorem presented_own (reads : ReadsBack S) (normal : NormalLeaf C leaf) {row : GrantRow}
    (presents : row.exactPresentedActionJson = leaf.canonical.bytes) {logicalActionId : Text}
    (presented : presentedAction S row = .ok logicalActionId) :
    logicalActionId = leaf.logicalActionId := by
  obtain ⟨operands, targets, scope, treed⟩ := normal.treed
  simp only [presentedAction, bind_ok, required_ok] at presented
  obtain ⟨action, read, named⟩ := presented
  rw [presents, treed.text] at read
  have own := reads.member _ action treed.spelled (by
    simp only [Entries.Sorted, Entries.keys, List.map_cons, List.map_nil]
    decide) read "logical_action_id".toList leaf.logicalActionId (by simp)
  rw [own] at named
  exact (Option.some.inj named).symm

/-- What becomes of an active grant of the amended delegation. -/
def GrantRow.carried (S : SerdeJson) (bindings : List (Text × ExactConfirmationBinding))
    (invalidatedAt : Int) (row : GrantRow) : GrantRow :=
  match presentedAction S row with
  | .error _ => row
  | .ok logicalActionId =>
    match bindingOf bindings logicalActionId with
    | none => row
    | some next =>
      if grantMatchesBinding row.grant next then row
      else match materialDriftReason S row.grant next with
        | .error _ => row
        | .ok reason => row.invalidated invalidatedAt reason none

theorem carried_id (bindings : List (Text × ExactConfirmationBinding)) (invalidatedAt : Int)
    (row : GrantRow) :
    (row.carried S bindings invalidatedAt).grant.grantId = row.grant.grantId := by
  unfold GrantRow.carried
  repeat' split
  all_goals rfl

variable {bindings : List (Text × ExactConfirmationBinding)} {invalidatedAt : Int}
  {grants grants' : Grants}

theorem reconcileGrant_rows {row : GrantRow} (member : row ∈ grants.rows)
    (active : row.grant.invalidatedAt = none)
    (done : reconcileGrant S bindings invalidatedAt grants row = .ok grants') :
    grants'.rows = grants.rows.map fun other =>
      if other = row then row.carried S bindings invalidatedAt else other := by
  have unchanged (same : row.carried S bindings invalidatedAt = row) : grants.rows =
      grants.rows.map fun other =>
        if other = row then row.carried S bindings invalidatedAt else other := by
    rw [same]
    exact (List.map_id'' (fun other => by split <;> simp_all) _).symm
  simp only [reconcileGrant, bind_ok] at done
  obtain ⟨logicalActionId, presented, done⟩ := done
  split at done
  · rename_i missing
    cases done
    exact unchanged (by simp [GrantRow.carried, presented, missing])
  rename_i next found
  split at done
  · rename_i matched
    cases done
    exact unchanged (by simp [GrantRow.carried, presented, found, matched])
  rename_i drifted
  simp only [bind_ok, ensure_ok] at done
  obtain ⟨reason, named, -, -, same⟩ := done
  cases same
  have becomes : row.carried S bindings invalidatedAt =
      row.invalidated invalidatedAt reason none := by
    simp [GrantRow.carried, presented, found, drifted, named]
  rw [becomes]
  apply List.map_congr_left
  intro other inside
  by_cases here : other = row
  · simp [here, active]
  · have apart : other.grant.grantId ≠ row.grant.grantId := fun same =>
      here (Table.eq_of_key inside member same)
    simp [here, apart]

theorem reconcileGrants_rows {rows : List GrantRow} (distinct : rows.Nodup)
    (members : ∀ row ∈ rows, row ∈ grants.rows ∧ row.grant.invalidatedAt = none)
    (done : rows.foldlM (reconcileGrant S bindings invalidatedAt) grants = .ok grants') :
    grants'.rows = grants.rows.map fun other =>
      if other ∈ rows then other.carried S bindings invalidatedAt else other := by
  induction rows generalizing grants with
  | nil =>
    cases done
    simp
  | cons row rows ih =>
    rw [List.foldlM_cons, bind_ok] at done
    obtain ⟨next, first, rest⟩ := done
    obtain ⟨fresh, distinct⟩ := List.nodup_cons.mp distinct
    obtain ⟨⟨member, active⟩, members⟩ := List.forall_mem_cons.mp members
    have step := reconcileGrant_rows member active first
    have kept : ∀ other ∈ rows, other ∈ next.rows ∧ other.grant.invalidatedAt = none := by
      intro other later
      refine ⟨?_, (members other later).2⟩
      rw [step]
      refine List.mem_map.mpr ⟨other, (members other later).1, if_neg ?_⟩
      rintro rfl
      exact fresh later
    rw [ih distinct kept rest, step, List.map_map]
    apply List.map_congr_left
    intro other inside
    simp only [Function.comp, List.mem_cons]
    by_cases here : other = row
    · have out : row.carried S bindings invalidatedAt ∉ rows := by
        intro later
        have same : row.carried S bindings invalidatedAt = row :=
          Table.eq_of_key (members _ later).1 member (carried_id ..)
        rw [same] at later
        exact fresh later
      simp [here, out]
    · simp [here]

/-! The bindings of the replacing actions. -/

theorem Produced.distinct {m : CanonicalLeafManifest} (produced : Produced C S m) :
    (m.leaves.map (·.logicalActionId)).Nodup := by
  cases produced with
  | compiled registered minted ready =>
    exact (compileDispatch_normal (tryNew_normal registered)
      (fun node member leaf action => minted_scope (minted node member leaf action)) ready).distinct
  | rebound made =>
    obtain ⟨leaves, restorable, rebinds⟩ := rebind_ok.mp made
    exact rebinds.distinct

theorem dangerous_sublist (leaves : List CanonicalLeafAction) (routes : List DangerRoute) :
    ((dangerousLeaves leaves routes).map Prod.fst).Sublist leaves := by
  unfold dangerousLeaves
  induction leaves generalizing routes with
  | nil => simp
  | cons leaf leaves ih =>
    cases routes with
    | nil => simp
    | cons route routes =>
      simp only [List.zip_cons_cons, List.filterMap_cons]
      cases confirmationForLeaf route leaf with
      | none => exact (ih routes).cons leaf
      | some assessment => exact (ih routes).cons_cons leaf

theorem forall₂_keys {α β κ : Type} {R : α → β → Prop} {f : α → κ} {g : β → κ} {as : List α}
    {bs : List β} (named : ∀ a b, R a b → g b = f a) (related : List.Forall₂ R as bs) :
    bs.map g = as.map f := by
  induction related with
  | nil => rfl
  | cons first _ ih => rw [List.map_cons, List.map_cons, ih, named _ _ first]

theorem bindingOf_dangerous (produced : Produced C S manifest) {routes : List DangerRoute}
    (collected : replacementBindings C intent manifest routes = .ok bindings)
    {assessment : DangerAssessment}
    (dangerous : (leaf, assessment) ∈ dangerousLeaves manifest.leaves routes) :
    ∃ binding, bindingOf bindings leaf.logicalActionId = some binding ∧
      exactBindingWithSavedParts C intent manifest leaf assessment.declaredConsequence none =
        .ok binding := by
  have each : List.Forall₂ (fun pair entry => entry.1 = pair.1.logicalActionId ∧
      exactBindingWithSavedParts C intent manifest pair.1 pair.2.declaredConsequence none =
        .ok entry.2) (dangerousLeaves manifest.leaves routes) bindings := by
    refine (mapM_ok.mp collected).imp ?_
    intro pair entry made
    obtain ⟨binding, bound, same⟩ := bind_ok.mp made
    cases same
    exact ⟨rfl, bound⟩
  have keys : bindings.map Prod.fst =
      (dangerousLeaves manifest.leaves routes).map fun pair => pair.1.logicalActionId :=
    forall₂_keys (fun _ _ made => made.1) each
  have distinct : (bindings.map Prod.fst).Nodup := by
    rw [keys]
    have sub := (dangerous_sublist manifest.leaves routes).map (·.logicalActionId)
    rw [List.map_map] at sub
    exact (Produced.distinct produced).sublist sub
  obtain ⟨entry, member, named, bound⟩ : ∃ entry ∈ bindings, entry.1 = leaf.logicalActionId ∧
      exactBindingWithSavedParts C intent manifest leaf assessment.declaredConsequence none =
        .ok entry.2 := by
    obtain ⟨length, parts⟩ := List.forall₂_iff_get.mp each
    obtain ⟨index, below, same⟩ := List.getElem_of_mem dangerous
    have part := parts index below (length ▸ below)
    simp only [List.get_eq_getElem, same] at part
    exact ⟨_, List.get_mem bindings ⟨index, length ▸ below⟩, part⟩
  refine ⟨entry.2, ?_, bound⟩
  unfold bindingOf
  cases found : bindings.reverse.find? (·.1 = leaf.logicalActionId) with
  | none =>
    have missed := List.find?_eq_none.mp found entry (List.mem_reverse.mpr member)
    simp [named] at missed
  | some other =>
    have key : other.1 = leaf.logicalActionId := by simpa using List.find?_some found
    have inside := List.mem_reverse.mp (List.mem_of_find?_eq_some found)
    rw [List.inj_on_of_nodup_map distinct inside member (key.trans named.symm), Option.map_some]

theorem presented_each {rows : List GrantRow}
    (done : rows.foldlM (reconcileGrant S bindings invalidatedAt) grants = .ok grants') :
    ∀ row ∈ rows, ∃ logicalActionId, presentedAction S row = .ok logicalActionId := by
  induction rows generalizing grants with
  | nil => simp
  | cons row rows ih =>
    rw [List.foldlM_cons, bind_ok] at done
    obtain ⟨next, first, rest⟩ := done
    obtain ⟨logicalActionId, presented, -⟩ := bind_ok.mp first
    exact List.forall_mem_cons.mpr ⟨⟨logicalActionId, presented⟩, ih rest⟩

theorem reconcile_ok {s s' : GrantStore} {delegationId : Text} {routes : List DangerRoute}
    (reconciled : s.reconcile C S delegationId manifest routes invalidatedAt = .ok s') :
    ∃ intent bindings grants', s.intents delegationId = some intent ∧
      replacementBindings C intent manifest routes = .ok bindings ∧
      (s.grants.rows.filter fun row => row.grant.delegationId = delegationId &&
        row.grant.invalidatedAt = none).foldlM (reconcileGrant S bindings invalidatedAt) s.grants =
          .ok grants' ∧
      s' = { s with grants := grants' } := by
  simp only [GrantStore.reconcile, bind_ok, required_ok] at reconciled
  obtain ⟨-, -, intent, known, bindings, collected, grants', done, same⟩ := reconciled
  exact ⟨intent, bindings, grants', known, collected, done, (Except.ok.inj same).symm⟩

theorem reconcile_rows {s s' : GrantStore} {delegationId : Text} {routes : List DangerRoute}
    (reconciled : s.reconcile C S delegationId manifest routes invalidatedAt = .ok s') :
    ∃ intent bindings, s.intents delegationId = some intent ∧
      replacementBindings C intent manifest routes = .ok bindings ∧ s'.intents = s.intents ∧
      (∀ row ∈ s.grants.rows, row.grant.delegationId = delegationId →
        row.grant.invalidatedAt = none → ∃ presented, presentedAction S row = .ok presented) ∧
      s'.grants.rows = s.grants.rows.map fun row =>
        if row.grant.delegationId = delegationId ∧ row.grant.invalidatedAt = none then
          row.carried S bindings invalidatedAt
        else row := by
  obtain ⟨intent, bindings, grants', known, collected, done, rfl⟩ := reconcile_ok reconciled
  refine ⟨intent, bindings, known, collected, rfl, ?_, ?_⟩
  · intro row inside here active
    exact presented_each done row (List.mem_filter.mpr ⟨inside, by simp [here, active]⟩)
  have rows := reconcileGrants_rows ((List.Nodup.of_map _ s.grants.distinct).filter _) (by
    intro row member
    obtain ⟨inside, wanted⟩ := List.mem_filter.mp member
    simp only [Bool.and_eq_true, decide_eq_true_eq] at wanted
    exact ⟨inside, wanted.2⟩) done
  refine rows.trans (List.map_congr_left fun row inside => ?_)
  simp [inside]

end Fold

/-! Grants over a run. -/

section Runs
variable {C : Crates} {S : SerdeJson}

/-- Every grant is of an action of its delegation that the owner confirmed. -/
def Founded (C : Crates) (S : SerdeJson) (s : GrantStore) : Prop :=
  ∀ row ∈ s.grants.rows, ∃ intent leaf consequence saved,
    s.intents row.grant.delegationId = some intent ∧ Confirmed C S intent leaf consequence saved row

/-- The columns a confirmation fixes are those of the original row. -/
structure SameGrant (row before : GrantRow) : Prop where
  delegation : row.grant.delegationId = before.grant.delegationId
  presented : row.exactPresentedActionJson = before.exactPresentedActionJson
  compared : ∀ binding, grantMatchesBinding row.grant binding =
    grantMatchesBinding before.grant binding

theorem same_invalidated (row : GrantRow) (invalidatedAt : Int)
    (reason : AcceptedConfirmationGrantInvalidation) (invalidatedBy : Option Text) :
    SameGrant (row.invalidated invalidatedAt reason invalidatedBy) row :=
  ⟨rfl, rfl, fun _ => rfl⟩

theorem same_refl (row : GrantRow) : SameGrant row row := ⟨rfl, rfl, fun _ => rfl⟩

theorem same_carried (bindings : List (Text × ExactConfirmationBinding)) (invalidatedAt : Int)
    (row : GrantRow) : SameGrant (row.carried S bindings invalidatedAt) row := by
  unfold GrantRow.carried
  repeat' split
  all_goals first
    | exact same_refl row
    | exact same_invalidated ..

theorem founded_step {s s' : GrantStore} (founded : Founded C S s)
    (rows : ∀ row ∈ s'.grants.rows, ∃ before ∈ s.grants.rows, SameGrant row before)
    (grown : ∀ delegationId intent, s.intents delegationId = some intent →
      s'.intents delegationId = some intent) : Founded C S s' := by
  intro row member
  obtain ⟨before, inside, same⟩ := rows row member
  obtain ⟨intent, leaf, consequence, saved, known, manifest, binding, produced, listed, bound,
    presented, matched⟩ := founded before inside
  refine ⟨intent, leaf, consequence, saved, ?_, manifest, binding, produced, listed, bound, ?_, ?_⟩
  · rw [same.delegation]
    exact grown _ _ known
  · rw [same.presented, presented]
  · rw [same.compared, matched]

theorem GrantStep.founded {s s' : GrantStore} (step : GrantStep C S s s')
    (founded : Founded C S s) : Founded C S s' := by
  cases step with
  | @created delegationId intent fresh =>
    refine founded_step founded (fun row member => ⟨row, member, same_refl row⟩) ?_
    intro other text known
    by_cases here : other = delegationId
    · rw [here, fresh] at known
      cases known
    · exact (Function.update_of_ne here _ _).trans known
  | @accepted row grants intent consequence leaf saved known confirmed active inserted =>
    intro other member
    rw [Table.insert?_rows inserted] at member
    rcases List.mem_append.mp member with earlier | added
    · exact founded other earlier
    · rw [List.mem_singleton.mp added]
      exact ⟨intent, leaf, consequence, saved, known, confirmed⟩
  | amended reconciled =>
    obtain ⟨intent, bindings, -, -, intents, -, rows⟩ := reconcile_rows reconciled
    refine founded_step founded ?_ (fun _ _ known => intents ▸ known)
    intro row member
    rw [rows] at member
    obtain ⟨before, inside, rfl⟩ := List.mem_map.mp member
    refine ⟨before, inside, ?_⟩
    split
    · exact same_carried ..
    · exact same_refl before
  | withdrawn =>
    refine founded_step founded ?_ (fun _ _ known => known)
    intro row member
    obtain ⟨before, inside, rfl⟩ := List.mem_map.mp member
    refine ⟨before, inside, ?_⟩
    split
    · exact same_invalidated ..
    · exact same_refl before

theorem GrantRun.founded {s : GrantStore} (run : GrantRun C S .empty s) : Founded C S s := by
  induction run with
  | refl =>
    intro row member
    cases member
  | tail _ step earlier => exact step.founded earlier

/-- What an amendment makes of the grants. -/
structure CarriedOver (C : Crates) (S : SerdeJson) (s s' : GrantStore) (delegationId : Text)
    (manifest : CanonicalLeafManifest) (routes : List DangerRoute) (invalidatedAt : Int) :
    Prop where
  created : s'.grants.rows.map (·.grant.grantId) = s.grants.rows.map (·.grant.grantId)
  untouched : ∀ row ∈ s.grants.rows, row.grant.delegationId ≠ delegationId → row ∈ s'.grants.rows
  settled : ∀ row ∈ s.grants.rows, row.grant.invalidatedAt ≠ none → row ∈ s'.grants.rows
  carried : ∀ row ∈ s.grants.rows, row.grant.delegationId = delegationId →
    row.grant.invalidatedAt = none → ∀ intent leaf consequence,
      s.intents delegationId = some intent → Confirmed C S intent leaf consequence none row →
      ∀ next assessment, (next, assessment) ∈ dangerousLeaves manifest.leaves routes →
        next.logicalActionId = leaf.logicalActionId →
        match firstChange leaf next consequence assessment.declaredConsequence with
        | none => row ∈ s'.grants.rows
        | some reason => row.invalidated invalidatedAt reason none ∈ s'.grants.rows

theorem CarriedOver.kept {s s' : GrantStore} {delegationId : Text}
    {manifest : CanonicalLeafManifest} {routes : List DangerRoute} {invalidatedAt : Int}
    (carries : CarriedOver C S s s' delegationId manifest routes invalidatedAt) {row : GrantRow}
    (member : row ∈ s.grants.rows) (here : row.grant.delegationId = delegationId)
    (active : row.grant.invalidatedAt = none) {intent consequence : Text}
    {leaf next : CanonicalLeafAction} {assessment : DangerAssessment}
    (known : s.intents delegationId = some intent)
    (confirmed : Confirmed C S intent leaf consequence none row)
    (dangerous : (next, assessment) ∈ dangerousLeaves manifest.leaves routes)
    (again : next.logicalActionId = leaf.logicalActionId)
    (same : SameAction leaf next consequence assessment.declaredConsequence)
    (targets : leaf.targetSnapshot = next.targetSnapshot) : row ∈ s'.grants.rows := by
  have stays := carries.carried row member here active intent leaf consequence known confirmed next
    assessment dangerous again
  rwa [firstChange_none.mpr ⟨same, targets⟩] at stays

theorem dangerous_listed {leaves : List CanonicalLeafAction} {routes : List DangerRoute}
    {leaf : CanonicalLeafAction} {assessment : DangerAssessment}
    (dangerous : (leaf, assessment) ∈ dangerousLeaves leaves routes) : leaf ∈ leaves :=
  (dangerous_sublist leaves routes).subset (List.mem_map_of_mem (f := Prod.fst) dangerous)

/-- What becomes of a grant for an exact action whose identity a dangerous leaf takes up again. -/
theorem carried_exact (reads : ReadsBack S) {intent consequence : Text}
    {manifest : CanonicalLeafManifest} {routes : List DangerRoute}
    {bindings : List (Text × ExactConfirmationBinding)} {invalidatedAt : Int} {row : GrantRow}
    {leaf next : CanonicalLeafAction} {assessment : DangerAssessment}
    (produced : Produced C S manifest)
    (collected : replacementBindings C intent manifest routes = .ok bindings)
    (confirmed : Confirmed C S intent leaf consequence none row)
    (dangerous : (next, assessment) ∈ dangerousLeaves manifest.leaves routes)
    (again : next.logicalActionId = leaf.logicalActionId)
    {logicalActionId : Text} (presented : presentedAction S row = .ok logicalActionId) :
    row.carried S bindings invalidatedAt =
      match firstChange leaf next consequence assessment.declaredConsequence with
      | none => row
      | some reason => row.invalidated invalidatedAt reason none := by
  obtain ⟨before, binding, original, listed, bound, presents, matched⟩ := confirmed
  have normal := original.normal.1 leaf listed
  have nextNormal := produced.normal.1 next (dangerous_listed dangerous)
  obtain ⟨nextBinding, found, nextBound⟩ := bindingOf_dangerous produced collected dangerous
  obtain ⟨_, parts⟩ := binding_ok bound
  have own : logicalActionId = leaf.logicalActionId :=
    presented_own reads normal (by rw [presents, parts]) presented
  rw [again, ← own] at found
  cases changed : firstChange leaf next consequence assessment.declaredConsequence with
  | none =>
    obtain ⟨same, targets⟩ := firstChange_none.mp changed
    rw [matches_congr same (fun _ => targets) bound nextBound] at matched
    simp [GrantRow.carried, presented, found, matched]
  | some reason =>
    have drifted : grantMatchesBinding row.grant nextBinding = false := by
      by_contra still
      obtain ⟨same, targets⟩ := matches_same normal nextNormal bound nextBound matched
        (Bool.not_eq_false _ ▸ still)
      rw [firstChange_none.mpr ⟨same, targets rfl⟩] at changed
      cases changed
    simp [GrantRow.carried, presented, found, drifted,
      drift_reason reads normal nextNormal bound nextBound matched changed]

theorem GrantStore.reconcile_carries (reads : ReadsBack S) {s s' : GrantStore}
    {delegationId : Text} {manifest : CanonicalLeafManifest} {routes : List DangerRoute}
    {invalidatedAt : Int} (produced : Produced C S manifest)
    (reconciled : s.reconcile C S delegationId manifest routes invalidatedAt = .ok s') :
    CarriedOver C S s s' delegationId manifest routes invalidatedAt := by
  obtain ⟨intent, bindings, known, collected, -, presented, rows⟩ := reconcile_rows reconciled
  have becomes : ∀ row ∈ s.grants.rows,
      (if row.grant.delegationId = delegationId ∧ row.grant.invalidatedAt = none then
        row.carried S bindings invalidatedAt else row) ∈ s'.grants.rows := by
    intro row member
    rw [rows]
    exact List.mem_map_of_mem member
  constructor
  · rw [rows, List.map_map]
    apply List.map_congr_left
    intro row _
    simp only [Function.comp]
    split
    · exact carried_id ..
    · rfl
  · intro row member other
    simpa [other] using becomes row member
  · intro row member past
    simpa [past] using becomes row member
  · intro row member here active intent' leaf consequence own confirmed next assessment dangerous
      again
    rw [known, Option.some.injEq] at own
    obtain ⟨logicalActionId, shown⟩ := presented row member here active
    have now := becomes row member
    rw [if_pos ⟨here, active⟩, carried_exact reads produced collected (own ▸ confirmed) dangerous
      again shown] at now
    split at now <;> simp_all

/-- No produced leaf matches a grant but one that asks for what the owner confirmed. -/
def OnlyConfirmed (C : Crates) (S : SerdeJson) (row : GrantRow) (leaf : CanonicalLeafAction)
    (consequence : Text) (saved : Option SavedRoutineBindingParts) : Prop :=
  ∀ intent manifest next nextConsequence nextSaved binding, Produced C S manifest →
    next ∈ manifest.leaves →
    exactBindingWithSavedParts C intent manifest next nextConsequence nextSaved = .ok binding →
    grantMatchesBinding row.grant binding = true →
    SameAction leaf next consequence nextConsequence ∧
      (saved = none → leaf.targetSnapshot = next.targetSnapshot)

/-- An amendment keeps the grants of exact actions that stay what they were, invalidates those of
exact actions that changed for the first thing that did, and leaves other delegations alone; and
no grant is one of an action the owner did not confirm. -/
theorem grants_carried (reads : ReadsBack S) {s : GrantStore} (run : GrantRun C S .empty s) :
    (∀ row ∈ s.grants.rows, ∃ intent leaf consequence saved,
      s.intents row.grant.delegationId = some intent ∧
        Confirmed C S intent leaf consequence saved row ∧
        OnlyConfirmed C S row leaf consequence saved) ∧
    ∀ s' delegationId manifest routes invalidatedAt, Produced C S manifest →
      s.reconcile C S delegationId manifest routes invalidatedAt = .ok s' →
      CarriedOver C S s s' delegationId manifest routes invalidatedAt := by
  constructor
  · intro row member
    obtain ⟨intent, leaf, consequence, saved, known, confirmed⟩ := run.founded row member
    refine ⟨intent, leaf, consequence, saved, known, confirmed, ?_⟩
    obtain ⟨before, binding, original, listed, bound, -, matched⟩ := confirmed
    intro nextIntent nextManifest next nextConsequence nextSaved nextBinding produced nextListed
      nextBound nextMatched
    exact matches_same (original.normal.1 leaf listed) (produced.normal.1 next nextListed) bound
      nextBound matched nextMatched
  · intro s' delegationId manifest routes invalidatedAt produced reconciled
    exact GrantStore.reconcile_carries reads produced reconciled

end Runs

/-! A grant of an occurrence of a saved manifest. -/

theorem printed_reads : ReadsBack printedJson where
  whole t whole _ := ofPrint_some.mpr ⟨whole_spelled whole, rfl⟩
  member fields read spelled sorted known key text listed := by
    obtain ⟨other, same⟩ := ofPrint_some.mp known
    cases Json.print_injective spelled other same
    unfold field
    cases found : fields.find? (·.1 = key) with
    | none =>
      have missed := List.find?_eq_none.mp found _ listed
      simp at missed
    | some entry =>
      have named : entry.1 = key := by simpa using List.find?_some found
      have same := List.inj_on_of_nodup_map (Entries.nodup_of_sorted sorted)
        (List.mem_of_find?_eq_some found) listed named
      simp only [found, same, Option.map_some]

/-- The occurrence of the saved leaf on a target. -/
def occurrence (target : Text) : CanonicalLeafAction :=
  savedLeaf.rebind asciiCrates ['2'] (targetsTree [.str target]).print

theorem occurrence_produced {target : Text} (encoded : canonicalTargetsBytes asciiCrates
    ⟨[.string target]⟩ = .ok (targetsTree [.str target]).print) :
    ∃ m, Produced asciiCrates printedJson m ∧ m.leaves = [occurrence target] := by
  obtain ⟨bytes, restorable⟩ := savedManifest_restorable
  obtain ⟨text, written⟩ : ∃ text, canonicalManifestBytes [occurrence target] = .ok text := ⟨_, rfl⟩
  have rebinds : Rebinds asciiCrates [⟨['1'], ['2'], ⟨[.string target]⟩⟩] [savedLeaf]
      ⟨[occurrence target], freeze asciiCrates text⟩ := by
    refine ⟨List.Perm.refl _, .cons ⟨_, List.mem_singleton_self _, rfl, ?_⟩ .nil, by simp, text,
      written, rfl⟩
    exact ⟨(rfl : normalizedIdentifier asciiCrates ['2'] = .ok ['2']), _, encoded, rfl⟩
  have rebound := (@rebind_ok asciiCrates printedJson _ _ _ _).mpr ⟨_, restorable, rebinds⟩
  exact ⟨_, .rebound rebound, rfl⟩

theorem occurrence_bound {m : CanonicalLeafManifest} (produced : Produced asciiCrates printedJson m)
    (leaf : CanonicalLeafAction) (saved : Option SavedRoutineBindingParts) :
    ∃ binding, exactBindingWithSavedParts asciiCrates ['i'] m leaf ['c'] saved = .ok binding := by
  obtain ⟨bytes, written, canonical⟩ := produced.normal.2
  have some : utf8Bytes m.canonical.bytes ≠ [] := by
    rw [canonical]
    intro empty
    unfold canonicalManifestBytes at written
    split at written
    · cases written
    · cases written
      simp [freeze, utf8Bytes, String.utf8EncodeChar] at empty
  have intent : Delegation.requireText "normalized_intent" ['i'] = .ok () := by decide
  have consequence : Delegation.requireText "declared_consequence" ['c'] = .ok () := by decide
  simp only [exactBindingWithSavedParts, intent, consequence, ownerResolutionManifestDigest, some,
    if_false, required, ok_bind]
  exact ⟨_, rfl⟩

/-- The row that a confirmation of a binding inserts. -/
def rowOf (binding : ExactConfirmationBinding) : GrantRow where
  grant := {
    grantId := ['g']
    delegationId := ['d']
    confirmedLogicalActionIdentity := binding.confirmedLogicalActionIdentity
    canonicalActionEnvelopeOrSelectorJson := binding.canonicalActionEnvelopeOrSelectorJson
    payloadAndMaterialOperandsJson := binding.payloadAndMaterialOperandsJson
    payloadAndMaterialOperandsDigest := binding.payloadDigest
    connectorToolIdentity := some binding.connectorToolIdentity
    connectorToolVersion := some binding.connectorToolVersion
    declaredConsequence := binding.declaredConsequence
    invalidatedAt := none }
  decisionId := ['e']
  acceptedByAuthorityProvenanceId := ['p']
  confirmationAttestationDigest := ['a']
  acceptedAt := 1
  invalidationReason := none
  invalidatedByAuthorityProvenanceId := none
  exactPresentedActionJson := binding.exactPresentedActionJson

theorem rowOf_matches (binding : ExactConfirmationBinding) :
    grantMatchesBinding (rowOf binding).grant binding = true := by
  simp [grantMatchesBinding, rowOf]

def storeOf (row : GrantRow) : GrantStore :=
  ⟨Function.update (fun _ => none) ['d'] (some ['i']), ⟨[row], List.nodup_singleton _⟩⟩

theorem storeOf_known (row : GrantRow) : (storeOf row).intents ['d'] = some ['i'] := by
  simp [storeOf]

theorem storeOf_reached {C : Crates} {S : SerdeJson} {leaf : CanonicalLeafAction}
    {saved : Option SavedRoutineBindingParts} {binding : ExactConfirmationBinding}
    (confirmed : Confirmed C S ['i'] leaf ['c'] saved (rowOf binding)) :
    GrantRun C S .empty (storeOf (rowOf binding)) := by
  have created : GrantStep C S .empty
      ⟨Function.update (fun _ => none) ['d'] (some ['i']), .empty⟩ := .created rfl
  have accepted : GrantStep C S
      ⟨Function.update (fun _ => none) ['d'] (some ['i']), .empty⟩ (storeOf (rowOf binding)) :=
    .accepted (by simp [rowOf]) confirmed rfl rfl
  exact .tail (.single created) accepted

theorem rowOf_confirmed {C : Crates} {S : SerdeJson} {m : CanonicalLeafManifest}
    {leaf : CanonicalLeafAction} {saved : Option SavedRoutineBindingParts}
    {binding : ExactConfirmationBinding} (produced : Produced C S m) (listed : leaf ∈ m.leaves)
    (bound : exactBindingWithSavedParts C ['i'] m leaf ['c'] saved = .ok binding) :
    Confirmed C S ['i'] leaf ['c'] saved (rowOf binding) :=
  ⟨m, binding, produced, listed, bound, rfl, rowOf_matches binding⟩

/-- A grant for a routine is for whatever target the occurrence has. -/
theorem routine_grant_matches_other_target : ∃ s row leaf next m binding,
    GrantRun asciiCrates printedJson .empty s ∧ row ∈ s.grants.rows ∧
      Confirmed asciiCrates printedJson ['i'] leaf ['c'] (some ⟨['r'], (Json.obj []).print⟩) row ∧
      Produced asciiCrates printedJson m ∧ next ∈ m.leaves ∧
      exactBindingWithSavedParts asciiCrates ['i'] m next ['c']
        (some ⟨['r'], (Json.obj []).print⟩) = .ok binding ∧
      grantMatchesBinding row.grant binding = true ∧
      leaf.targetSnapshot ≠ next.targetSnapshot := by
  obtain ⟨m, produced, leaves⟩ := @occurrence_produced ['x'] rfl
  obtain ⟨m', produced', leaves'⟩ := @occurrence_produced ['y'] rfl
  have listed : occurrence ['x'] ∈ m.leaves := leaves ▸ List.mem_singleton_self _
  have listed' : occurrence ['y'] ∈ m'.leaves := leaves' ▸ List.mem_singleton_self _
  obtain ⟨binding, bound⟩ := occurrence_bound produced (occurrence ['x'])
    (some ⟨['r'], (Json.obj []).print⟩)
  obtain ⟨binding', bound'⟩ := occurrence_bound produced' (occurrence ['y'])
    (some ⟨['r'], (Json.obj []).print⟩)
  have confirmed := rowOf_confirmed produced listed bound
  have same : SameAction (occurrence ['x']) (occurrence ['y']) ['c'] ['c'] :=
    ⟨rfl, rfl, rfl, rfl, rfl⟩
  refine ⟨storeOf (rowOf binding), rowOf binding, _, _, m', binding', storeOf_reached confirmed,
    List.mem_singleton_self _, confirmed, produced', listed', bound', ?_, ?_⟩
  · rw [← matches_congr same (fun exact => by cases exact) bound bound']
    exact rowOf_matches binding
  · intro same
    have texts : (targetsTree [.str ['x']]).print = (targetsTree [.str ['y']]).print :=
      congrArg FrozenBytes.bytes same
    revert texts
    decide

theorem printed_presented {leaf : CanonicalLeafAction} (normal : NormalLeaf asciiCrates leaf)
    {row : GrantRow} (presents : row.exactPresentedActionJson = leaf.canonical.bytes) :
    presentedAction printedJson row = .ok leaf.logicalActionId := by
  obtain ⟨operands, targets, scope, treed⟩ := normal.treed
  have read : printedJson.value leaf.canonical.bytes =
      some (leafTree operands targets scope leaf) := ofPrint_some.mpr ⟨treed.spelled, treed.text⟩
  have own := printed_reads.member _ _ treed.spelled (by
    simp only [Entries.Sorted, Entries.keys, List.map_cons, List.map_nil]
    decide) (treed.text ▸ read) "logical_action_id".toList leaf.logicalActionId (by simp)
  unfold presentedAction
  rw [presents, read, required, ok_bind, own]
  rfl

theorem grants_carried_occurrence : ∃ s s' m routes row,
    GrantRun asciiCrates printedJson .empty s ∧ row ∈ s.grants.rows ∧
      s.reconcile asciiCrates printedJson ['d'] m routes 2 = .ok s' ∧ row ∈ s'.grants.rows := by
  obtain ⟨m, produced, leaves⟩ := @occurrence_produced ['x'] rfl
  have listed : occurrence ['x'] ∈ m.leaves := leaves ▸ List.mem_singleton_self _
  obtain ⟨binding, bound⟩ := occurrence_bound produced (occurrence ['x']) none
  have confirmed := rowOf_confirmed produced listed bound
  have run := storeOf_reached confirmed
  let assessment : DangerAssessment := ⟨.modelCredibleDanger, none, ['c'], true⟩
  let route : DangerRoute := ⟨leafDigest (occurrence ['x']), .requiresOneConfirmation assessment⟩
  have dangerous : dangerousLeaves m.leaves [route] = [(occurrence ['x'], assessment)] := by
    simp [dangerousLeaves, leaves, confirmationForLeaf, route]
  have collected : replacementBindings asciiCrates ['i'] m [route] = .ok [(['2'], binding)] := by
    simp [replacementBindings, dangerous, assessment, bound, ok_bind]
    rfl
  have presented : presentedAction printedJson (rowOf binding) = .ok ['2'] := by
    obtain ⟨_, parts⟩ := binding_ok bound
    exact printed_presented (produced.normal.1 _ listed) (by rw [parts]; rfl)
  have kept : reconcileGrant printedJson [(['2'], binding)] 2 (storeOf (rowOf binding)).grants
      (rowOf binding) = .ok (storeOf (rowOf binding)).grants := by
    simp [reconcileGrant, presented, ok_bind, bindingOf, rowOf_matches]
  have reconciled : (storeOf (rowOf binding)).reconcile asciiCrates printedJson ['d'] m [route] 2 =
      .ok (storeOf (rowOf binding)) := by
    have active : (storeOf (rowOf binding)).grants.rows.filter (fun row =>
        row.grant.delegationId = ['d'] && row.grant.invalidatedAt = none) = [rowOf binding] := rfl
    simp only [GrantStore.reconcile, leaves, List.length_singleton, ensure, ite_true, ok_bind,
      storeOf_known, required, collected, active, List.foldlM_cons, List.foldlM_nil, kept]
    rfl
  have carries := (grants_carried printed_reads run).2 _ _ _ _ _ produced reconciled
  have again : (occurrence ['x'], assessment) ∈ dangerousLeaves m.leaves [route] :=
    dangerous ▸ List.mem_singleton_self _
  have member : rowOf binding ∈ (storeOf (rowOf binding)).grants.rows := List.mem_singleton_self _
  have stays := carries.kept member rfl rfl (storeOf_known _) confirmed again rfl
    ⟨rfl, rfl, rfl, rfl, rfl⟩ rfl
  exact ⟨_, _, m, [route], rowOf binding, run, member, reconciled, stays⟩

end CarsinOS.Confirmation
