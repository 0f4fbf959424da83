import CarsinOS.Danger.Routing
import CarsinOS.Manifest.Request

/-! Danger on the way to admission: routing sees a leaf's facts as a set, every consequence is in the
assessment and the proof is of one manifest only. -/
namespace CarsinOS.Danger
open CarsinOS.Lib CarsinOS.Manifest

/-! Sorting and removing duplicates. -/

theorem mem_dedup {text : Text} {texts : List Text} : text ∈ dedup texts ↔ text ∈ texts := by
  induction texts with
  | nil => rfl
  | cons first texts ih =>
    cases texts with
    | nil => rfl
    | cons next texts =>
      rw [dedup]
      split
      · rename_i same
        subst same
        rw [ih]
        simp
      · rw [List.mem_cons, ih, List.mem_cons (l := next :: texts)]

theorem dedup_sorted {texts : List Text} (sorted : texts.Pairwise (· ≤ ·)) :
    (dedup texts).Pairwise (· < ·) := by
  induction texts with
  | nil => exact List.Pairwise.nil
  | cons first texts ih =>
    obtain ⟨least, rest⟩ := List.pairwise_cons.mp sorted
    cases texts with
    | nil => exact List.pairwise_singleton _ _
    | cons next texts =>
      rw [dedup]
      split
      · exact ih rest
      · rename_i other
        apply List.pairwise_cons.mpr
        refine ⟨?_, ih rest⟩
        intro text member
        have later := mem_dedup.mp member
        have first_next := lt_of_le_of_ne (least next List.mem_cons_self) other
        rcases List.mem_cons.mp later with rfl | later
        · exact first_next
        · exact lt_of_lt_of_le first_next ((List.pairwise_cons.mp rest).1 text later)

/-- Texts in order and without duplicates are determined by which they are. -/
theorem sorted_ext {first second : List Text} (ordered : first.Pairwise (· < ·))
    (ordered' : second.Pairwise (· < ·)) (same : ∀ text, text ∈ first ↔ text ∈ second) :
    first = second := by
  have perm : first.Perm second :=
    (List.perm_ext_iff_of_nodup (ordered.imp ne_of_lt) (ordered'.imp ne_of_lt)).mpr same
  exact perm.eq_of_pairwise (fun a b _ _ less more => absurd less (not_lt_of_gt more)) ordered ordered'

def distinctConsequences (facts : List VerifiedDangerFact) : List Text :=
  dedup ((facts.map (·.consequence)).insertionSort (· ≤ ·))

theorem mem_distinctConsequences {facts : List VerifiedDangerFact} {text : Text} :
    text ∈ distinctConsequences facts ↔ ∃ fact ∈ facts, fact.consequence = text := by
  rw [distinctConsequences, mem_dedup, List.mem_insertionSort, List.mem_map]

theorem combinedConsequence_same {facts facts' : List VerifiedDangerFact}
    (same : ∀ fact, fact ∈ facts ↔ fact ∈ facts') :
    combinedConsequence facts = combinedConsequence facts' := by
  have sorted : ∀ facts, (distinctConsequences facts).Pairwise (· < ·) :=
    fun facts => dedup_sorted (List.pairwise_insertionSort _ _)
  have texts : distinctConsequences facts = distinctConsequences facts' := by
    apply sorted_ext (sorted facts) (sorted facts')
    intro text
    simp only [mem_distinctConsequences, same]
  exact congrArg [' '].intercalate texts

theorem infix_intercalate {separator text : Text} {texts : List Text} (member : text ∈ texts) :
    text <:+: separator.intercalate texts := by
  induction texts with
  | nil => contradiction
  | cons first texts ih =>
    cases texts with
    | nil =>
      rw [List.mem_singleton.mp member]
      simp
    | cons next texts =>
      have whole : separator.intercalate (first :: next :: texts) =
          first ++ (separator ++ separator.intercalate (next :: texts)) := by
        simp [List.intercalate]
      rw [whole]
      rcases List.mem_cons.mp member with rfl | member
      · exact (List.prefix_append _ _).isInfix
      · have later := (ih member).trans (List.suffix_append separator _).isInfix
        exact later.trans (List.suffix_append first _).isInfix

theorem consequence_infix {facts : List VerifiedDangerFact} {fact : VerifiedDangerFact}
    (member : fact ∈ facts) : fact.consequence <:+: combinedConsequence facts :=
  infix_intercalate (mem_distinctConsequences.mpr ⟨fact, member, rfl⟩)

/-! The primary category. -/

theorem foldl_minByRank (facts : List VerifiedDangerFact) (best : VerifiedDangerFact) :
    let primary := facts.foldl (fun best fact =>
      if fact.category.rank < best.category.rank then fact else best) best
    primary ∈ best :: facts ∧ ∀ fact ∈ best :: facts, primary.category.rank ≤ fact.category.rank := by
  induction facts generalizing best with
  | nil => simp
  | cons next facts ih =>
    obtain ⟨member, least⟩ := ih (if next.category.rank < best.category.rank then next else best)
    rw [List.foldl_cons]
    constructor
    · rcases List.mem_cons.mp member with same | member
      · rw [same]
        split <;> simp
      · exact List.mem_cons_of_mem _ (List.mem_cons_of_mem _ member)
    · have here := least _ List.mem_cons_self
      intro fact inside
      rcases List.mem_cons.mp inside with rfl | inside
      · refine here.trans ?_
        split <;> omega
      rcases List.mem_cons.mp inside with rfl | inside
      · refine here.trans ?_
        split <;> omega
      · exact least fact (List.mem_cons_of_mem _ inside)

theorem minByRank_some {facts : List VerifiedDangerFact} {primary : VerifiedDangerFact}
    (found : minByRank facts = some primary) :
    primary ∈ facts ∧ ∀ fact ∈ facts, primary.category.rank ≤ fact.category.rank := by
  cases facts with
  | nil => contradiction
  | cons fact facts =>
    cases found
    exact foldl_minByRank facts fact

theorem minByRank_none {facts : List VerifiedDangerFact} : minByRank facts = none ↔ facts = [] := by
  cases facts <;> simp [minByRank]

theorem rank_injective : Function.Injective DangerCategory.rank := by
  intro first second same
  cases first <;> cases second <;> first | rfl | contradiction

theorem category_same {facts facts' : List VerifiedDangerFact} {primary primary' : VerifiedDangerFact}
    (same : ∀ fact, fact ∈ facts ↔ fact ∈ facts') (found : minByRank facts = some primary)
    (found' : minByRank facts' = some primary') : primary.category = primary'.category := by
  obtain ⟨member, least⟩ := minByRank_some found
  obtain ⟨member', least'⟩ := minByRank_some found'
  apply rank_injective
  exact Nat.le_antisymm (least _ ((same _).mpr member')) (least' _ ((same _).mp member))

theorem matchKnownDanger_same {leaf : CanonicalLeafAction}
    {metadata metadata' : VerifiedDangerSystemMetadata}
    (bound : metadata.canonicalLeafDigest = metadata'.canonicalLeafDigest)
    (same : ∀ fact, fact ∈ metadata.facts ↔ fact ∈ metadata'.facts) :
    matchKnownDanger leaf metadata = matchKnownDanger leaf metadata' := by
  unfold matchKnownDanger
  rw [bound]
  split
  · rfl
  · cases found : minByRank metadata.facts with
    | none =>
      have none : metadata'.facts = [] := by
        apply List.eq_nil_iff_forall_not_mem.mpr
        intro fact member
        have inside := (same fact).mpr member
        rw [minByRank_none.mp found] at inside
        contradiction
      rw [minByRank_none.mpr none]
    | some primary =>
      cases found' : minByRank metadata'.facts with
      | none =>
        have inside := (same primary).mp (minByRank_some found).1
        rw [minByRank_none.mp found'] at inside
        contradiction
      | some primary' =>
        simp only [category_same same found found', combinedConsequence_same same]

/-! From the facts of a leaf to its route. -/

/-- What is reported of a leaf: facts, and perhaps a model's result for a target. -/
structure LeafDanger where
  facts : List VerifiedDangerFact
  signal : Option (Text × AuthoritativeModelDangerResult)

def LeafDanger.Reported (danger : LeafDanger) : Prop := danger.facts ≠ [] ∨ danger.signal ≠ none

section Routes
variable (S : SerdeJson)

/-- Metadata issued for the exact leaf: ordinary without facts. -/
def MetadataIssued (leaf : CanonicalLeafAction) (facts : List VerifiedDangerFact)
    (metadata : VerifiedDangerSystemMetadata) : Prop :=
  if facts = [] then metadata = issueAuthoritativeOrdinaryMetadata leaf
  else issueAuthoritativeDangerMetadata S leaf facts = .ok metadata

def SignalIssued (leaf : CanonicalLeafAction) :
    Option (Text × AuthoritativeModelDangerResult) → Option CredibleModelDangerSignal → Prop
  | none, signal => signal = none
  | some (target, result), signal =>
    ∃ issued, issueAuthoritativeModelDangerSignal S leaf target result = .ok issued ∧
      signal = some issued

/-- The route of a leaf from what is reported of it. -/
structure Routed (leaf : CanonicalLeafAction) (danger : LeafDanger) (route : DangerRoute) : Prop where
  chain : ∃ metadata known signal, MetadataIssued S leaf danger.facts metadata ∧
    matchKnownDanger leaf metadata = .ok known ∧ SignalIssued S leaf danger.signal signal ∧
    routeCredibleModelDanger S leaf known signal = .ok route

variable {S}

theorem checkFact_ok {targets : List Json} {fact out : VerifiedDangerFact} :
    checkFact targets fact = .ok out ↔ (trimChars fact.resolvedTarget ≠ [] ∧
      targets.any (isTarget fact.resolvedTarget) = true) ∧ out = fact := by
  unfold checkFact
  split
  · rename_i blank
    simp [blank]
  split
  · rename_i missing
    simp only [Bool.not_eq_true'] at missing
    simp [missing]
  · rename_i some present
    simp only [Bool.not_eq_true', Bool.not_eq_false] at present
    simp [some, present, eq_comm]

/-- Facts are issued when each names a target of the snapshot, and are kept as they are. -/
theorem metadataIssued_iff {leaf : CanonicalLeafAction} {facts : List VerifiedDangerFact}
    {metadata : VerifiedDangerSystemMetadata} :
    MetadataIssued S leaf facts metadata ↔ metadata = ⟨leafDigest leaf, facts⟩ ∧
      (facts = [] ∨ ∃ targets, snapshotTargets S leaf = some targets ∧ ∀ fact ∈ facts,
        trimChars fact.resolvedTarget ≠ [] ∧ targets.any (isTarget fact.resolvedTarget) = true) := by
  unfold MetadataIssued
  split
  · rename_i none
    simp [none, issueAuthoritativeOrdinaryMetadata]
  · rename_i some
    rw [issueAuthoritativeDangerMetadata, if_neg some]
    cases found : snapshotTargets S leaf with
    | none => simp [some]
    | some targets =>
      simp only [bind_ok, mapM_determined (fun a b => @checkFact_ok targets a b),
        List.map_id', Except.ok.injEq, Option.some.injEq, exists_eq_left', some, false_or]
      constructor
      · rintro ⟨verified, ⟨checked, rfl⟩, rfl⟩
        exact ⟨rfl, checked⟩
      · rintro ⟨rfl, checked⟩
        exact ⟨facts, ⟨checked, rfl⟩, rfl⟩

/-- Issuing does not depend on the order or the number of a leaf's facts. -/
theorem metadataIssued_same {leaf : CanonicalLeafAction} {facts facts' : List VerifiedDangerFact}
    {metadata : VerifiedDangerSystemMetadata} (issued : MetadataIssued S leaf facts metadata)
    (same : ∀ fact, fact ∈ facts ↔ fact ∈ facts') :
    MetadataIssued S leaf facts' ⟨leafDigest leaf, facts'⟩ := by
  obtain ⟨_, named⟩ := metadataIssued_iff.mp issued
  apply metadataIssued_iff.mpr
  refine ⟨rfl, ?_⟩
  rcases named with none | ⟨targets, found, checked⟩
  · left
    apply List.eq_nil_iff_forall_not_mem.mpr
    intro fact member
    have inside := (same fact).mpr member
    rw [none] at inside
    contradiction
  · exact .inr ⟨targets, found, fun fact member => checked fact ((same fact).mpr member)⟩

theorem routed_same {leaf : CanonicalLeafAction} {danger danger' : LeafDanger} {route : DangerRoute}
    (routed : Routed S leaf danger route) (same : ∀ fact, fact ∈ danger.facts ↔ fact ∈ danger'.facts)
    (signal : danger.signal = danger'.signal) : Routed S leaf danger' route := by
  obtain ⟨metadata, known, model, issued, matched, modelled, routes⟩ := routed.chain
  have whole := (metadataIssued_iff.mp issued).1
  subst whole
  have again := metadataIssued_same issued same
  have route : matchKnownDanger leaf ⟨leafDigest leaf, danger.facts⟩ =
      matchKnownDanger leaf ⟨leafDigest leaf, danger'.facts⟩ := matchKnownDanger_same rfl same
  rw [route] at matched
  exact ⟨_, known, model, again, matched, signal ▸ modelled, routes⟩

/-- The known route of a leaf with facts has all their consequences. -/
theorem matchKnownDanger_kind {leaf : CanonicalLeafAction} {facts : List VerifiedDangerFact}
    {known : DangerRoute} (matched : matchKnownDanger leaf ⟨leafDigest leaf, facts⟩ = .ok known) :
    known.canonicalLeafDigest = leafDigest leaf ∧
      ((facts = [] ∧ known.kind = .ordinary) ∨
        ∃ assessment, facts ≠ [] ∧ known.kind = .requiresOneConfirmation assessment ∧
          ∀ fact ∈ facts, fact.consequence <:+: assessment.declaredConsequence) := by
  unfold matchKnownDanger at matched
  split at matched
  · contradiction
  split at matched
  · rename_i none
    cases matched
    exact ⟨rfl, .inl ⟨minByRank_none.mp none, rfl⟩⟩
  · rename_i primary found
    cases matched
    refine ⟨rfl, .inr ⟨_, ?_, rfl, fun fact member => consequence_infix member⟩⟩
    intro none
    have missing : minByRank facts = Option.none := minByRank_none.mpr none
    cases missing.symm.trans found

/-- A route is of its leaf; it confirms exactly what is reported, with every consequence. -/
theorem routed_kind {leaf : CanonicalLeafAction} {danger : LeafDanger} {route : DangerRoute}
    (routed : Routed S leaf danger route) : route.canonicalLeafDigest = leafDigest leaf ∧
      ((¬ danger.Reported ∧ route.kind = .ordinary) ∨
        ∃ assessment, danger.Reported ∧ route.kind = .requiresOneConfirmation assessment ∧
          ∀ fact ∈ danger.facts, fact.consequence <:+: assessment.declaredConsequence) := by
  obtain ⟨metadata, known, model, issued, matched, modelled, routes⟩ := routed.chain
  have whole := (metadataIssued_iff.mp issued).1
  subst whole
  obtain ⟨own, kind⟩ := matchKnownDanger_kind matched
  unfold routeCredibleModelDanger at routes
  rw [if_neg (not_not_intro own)] at routes
  unfold LeafDanger.Reported
  cases signal : danger.signal with
  | none =>
    rw [signal] at modelled
    cases (modelled : model = none)
    cases routes
    refine ⟨own, ?_⟩
    rcases kind with ⟨none, ordinary⟩ | ⟨assessment, some, confirms, all⟩
    · exact .inl ⟨by simp [none], ordinary⟩
    · exact .inr ⟨assessment, .inl some, confirms, all⟩
  | some reported =>
    rw [signal] at modelled
    obtain ⟨issuedSignal, _, present⟩ := modelled
    subst present
    simp only at routes
    split at routes
    · contradiction
    split at routes
    · contradiction
    rcases kind with ⟨none, ordinary⟩ | ⟨assessment, some, confirms, all⟩
    · rw [ordinary] at routes
      cases routes
      exact ⟨rfl, .inr ⟨_, .inr (by simp), rfl, by simp [none]⟩⟩
    · rw [confirms] at routes
      cases routes
      exact ⟨own, .inr ⟨assessment, .inl some, confirms, all⟩⟩

theorem signalIssued_unique {leaf : CanonicalLeafAction}
    {reported : Option (Text × AuthoritativeModelDangerResult)}
    {first second : Option CredibleModelDangerSignal} (issued : SignalIssued S leaf reported first)
    (issued' : SignalIssued S leaf reported second) : first = second := by
  cases reported with
  | none => exact Eq.trans (show first = none from issued) (show second = none from issued').symm
  | some reported =>
    obtain ⟨_, one, rfl⟩ := issued
    obtain ⟨_, other, rfl⟩ := issued'
    cases one.symm.trans other
    rfl

theorem routed_unique {leaf : CanonicalLeafAction} {danger : LeafDanger} {route route' : DangerRoute}
    (routed : Routed S leaf danger route) (again : Routed S leaf danger route') : route = route' := by
  obtain ⟨_, _, _, issued, matched, modelled, routes⟩ := routed.chain
  obtain ⟨_, _, _, issued', matched', modelled', routes'⟩ := again.chain
  rw [(metadataIssued_iff.mp issued).1] at matched
  rw [(metadataIssued_iff.mp issued').1] at matched'
  cases matched.symm.trans matched'
  cases signalIssued_unique modelled modelled'
  cases routes.symm.trans routes'
  rfl

/-! Binding the routes of a manifest. -/

theorem mismatched_iff {leaves : List CanonicalLeafAction} {routes : List DangerRoute}
    (long : leaves.length = routes.length) : mismatched leaves routes = false ↔
      routes.map (·.canonicalLeafDigest) = leaves.map leafDigest := by
  induction leaves generalizing routes with
  | nil =>
    cases routes with
    | nil => simp [mismatched]
    | cons route routes => cases long
  | cons leaf leaves ih =>
    cases routes with
    | nil => cases long
    | cons route routes =>
      have rest := ih (Nat.succ.inj long)
      simp only [mismatched, List.zip_cons_cons, List.any_cons, Bool.or_eq_false_iff,
        List.map_cons, List.cons.injEq] at rest ⊢
      rw [rest]
      simp

theorem bindDangerAdmission_ok {m : CanonicalLeafManifest} {routes : List DangerRoute}
    {proof : DangerAdmissionProof} : bindDangerAdmission m routes = .ok proof ↔
      routes.map (·.canonicalLeafDigest) = m.leaves.map leafDigest ∧
        proof = ⟨m.canonical.digest.val, routes⟩ := by
  unfold bindDangerAdmission
  split
  · rename_i count
    constructor
    · intro bound
      cases bound
    · rintro ⟨same, -⟩
      exact absurd (by simpa using congrArg List.length same.symm) count
  · rename_i count
    have matched := mismatched_iff (not_not.mp count)
    split
    · rename_i other
      rw [other] at matched
      simp [← matched]
    · rename_i paired
      rw [Bool.not_eq_true] at paired
      simp [matched.mp paired, eq_comm]

/-- A proof of a manifest is accepted exactly for a manifest with its digest and its leaves. -/
theorem validateForManifest_ok {proof : DangerAdmissionProof} {m : CanonicalLeafManifest}
    {state : DangerAdmissionState} : validateForManifest proof m = .ok state ↔
      proof.canonicalManifestDigest = m.canonical.digest.val ∧
      proof.routesInManifestOrder.map (·.canonicalLeafDigest) = m.leaves.map leafDigest ∧
      state = if proof.routesInManifestOrder.any (·.kind.confirms) then .requiresOneConfirmation
        else .ordinary := by
  unfold validateForManifest
  split
  · rename_i other
    simp [other]
  rename_i own
  split
  · rename_i count
    constructor
    · intro bound
      cases bound
    · rintro ⟨-, same, -⟩
      exact absurd (by simpa using congrArg List.length same) count
  rename_i count
  have matched := mismatched_iff (not_not.mp count).symm
  split
  · rename_i other
    rw [other] at matched
    simp [← matched]
  · rename_i paired
    rw [Bool.not_eq_true] at paired
    simp only [not_not.mp own, matched.mp paired, true_and]
    split <;> simp [*, eq_comm]

variable {assigned : List (CanonicalLeafAction × LeafDanger)} {routes : List DangerRoute}

theorem routed_digests (routed : List.Forall₂ (fun a route => Routed S a.1 a.2 route) assigned routes) :
    routes.map (·.canonicalLeafDigest) = (assigned.map Prod.fst).map leafDigest := by
  induction routed with
  | nil => rfl
  | cons first rest ih => rw [List.map_cons, ih, (routed_kind first).1]; rfl

theorem confirms_iff {leaf : CanonicalLeafAction} {danger : LeafDanger} {route : DangerRoute}
    (routed : Routed S leaf danger route) : route.kind.confirms = true ↔ danger.Reported := by
  rcases (routed_kind routed).2 with ⟨none, ordinary⟩ | ⟨_, some, confirms, -⟩
  · simp [ordinary, DangerRouteKind.confirms, none]
  · simp [confirms, DangerRouteKind.confirms, some]

theorem any_confirms (routed : List.Forall₂ (fun a route => Routed S a.1 a.2 route) assigned routes) :
    routes.any (·.kind.confirms) = true ↔ ∃ a ∈ assigned, a.2.Reported := by
  induction routed with
  | nil => simp
  | cons first rest ih =>
    rw [List.any_cons, Bool.or_eq_true, ih, confirms_iff first]
    simp

/-- Everything reported of the leaves of a manifest is in the proof that admits it, whatever the
order or the number of the reports, and no other manifest is admitted by that proof. -/
theorem danger_admission {m : CanonicalLeafManifest} (leaves : assigned.map Prod.fst = m.leaves)
    (routed : List.Forall₂ (fun a route => Routed S a.1 a.2 route) assigned routes) :
    ∃ proof, bindDangerAdmission m routes = .ok proof ∧
      (∃ state, validateForManifest proof m = .ok state ∧
        (state = .requiresOneConfirmation ↔ ∃ a ∈ assigned, a.2.Reported)) ∧
      (∀ a route, (a, route) ∈ assigned.zip routes → a.2.Reported →
        ∃ assessment, route.kind = .requiresOneConfirmation assessment ∧
          ∀ fact ∈ a.2.facts, fact.consequence <:+: assessment.declaredConsequence) ∧
      (∀ a route, (a, route) ∈ assigned.zip routes → ∀ facts,
        (∀ fact, fact ∈ facts ↔ fact ∈ a.2.facts) →
          ∀ route', Routed S a.1 ⟨facts, a.2.signal⟩ route' ↔ route' = route) ∧
      ∀ other : CanonicalLeafManifest, other.canonical.digest ≠ m.canonical.digest ∨
        other.leaves.length ≠ m.leaves.length ∨
        other.leaves.map leafDigest ≠ m.leaves.map leafDigest →
          ∃ error, validateForManifest proof other = .error error := by
  have digests := routed_digests routed
  rw [leaves] at digests
  have pairs : ∀ a route, (a, route) ∈ assigned.zip routes → Routed S a.1 a.2 route :=
    fun a route member => (List.forall₂_iff_zip.mp routed).2 member
  refine ⟨_, bindDangerAdmission_ok.mpr ⟨digests, rfl⟩, ?_, ?_, ?_, ?_⟩
  · refine ⟨_, validateForManifest_ok.mpr ⟨rfl, digests, rfl⟩, ?_⟩
    rw [← any_confirms routed]
    split <;> simp_all
  · intro a route member reported
    rcases (routed_kind (pairs a route member)).2 with ⟨none, -⟩ | ⟨assessment, -, confirms, all⟩
    · contradiction
    · exact ⟨assessment, confirms, all⟩
  · intro a route member facts same route'
    have own := pairs a route member
    constructor
    · intro again
      exact routed_unique (routed_same again same rfl) own
    · rintro rfl
      exact routed_same own (fun fact => (same fact).symm) rfl
  · intro other differs
    cases validated : validateForManifest ⟨m.canonical.digest.val, routes⟩ other with
    | error error => exact ⟨error, rfl⟩
    | ok state =>
      obtain ⟨digest, own, -⟩ := validateForManifest_ok.mp validated
      have same : other.leaves.map leafDigest = m.leaves.map leafDigest := own.symm.trans digests
      rcases differs with other | count | order
      · exact absurd (Subtype.ext digest.symm) other
      · exact absurd (by simpa using congrArg List.length same) count
      · exact absurd same order

end Routes

/-- A home, which a model also takes to be destroyed. -/
def homeDanger : LeafDanger :=
  ⟨[⟨.wholeUserProfileOrHome, ['x']⟩], some (['x'], .destroyExactTarget)⟩

theorem homeDanger_routed {leaf : CanonicalLeafAction}
    (targets : snapshotTargets printedJson leaf = some [.str ['x']]) :
    ∃ route, Routed printedJson leaf homeDanger route := by
  have exact : isExactSnapshotTarget printedJson leaf ['x'] = true := by
    simp [isExactSnapshotTarget, targets, isTarget]
  have issued : MetadataIssued printedJson leaf homeDanger.facts ⟨leafDigest leaf, homeDanger.facts⟩ :=
    metadataIssued_iff.mpr ⟨rfl, .inr ⟨_, targets, by decide⟩⟩
  have signal : issueAuthoritativeModelDangerSignal printedJson leaf ['x'] .destroyExactTarget =
      .ok ⟨leafDigest leaf, ['x'], AuthoritativeModelDangerResult.destroyExactTarget.materialResult⟩ := by
    unfold issueAuthoritativeModelDangerSignal
    rw [if_neg (by decide), exact]
    rfl
  have matched : ∃ route, matchKnownDanger leaf ⟨leafDigest leaf, homeDanger.facts⟩ = .ok route ∧
      route.canonicalLeafDigest = leafDigest leaf ∧ route.kind.confirms = true := by
    unfold matchKnownDanger
    rw [if_neg (not_not_intro rfl)]
    exact ⟨_, rfl, rfl, rfl⟩
  obtain ⟨known, matched, own, confirms⟩ := matched
  refine ⟨known, ⟨_, known, _, issued, matched, ⟨_, signal, rfl⟩, ?_⟩⟩
  unfold routeCredibleModelDanger
  rw [if_neg (not_not_intro own)]
  simp only [exact]
  cases kind : known.kind with
  | ordinary =>
    rw [kind] at confirms
    cases confirms
  | requiresOneConfirmation assessment => simp

theorem danger_admission_home : ∃ m leaf route proof,
    compileDispatch asciiCrates (requestedTree .null (Json.obj []).print) ⟨[]⟩ = .ready m ∧
      m.leaves = [leaf] ∧ Routed printedJson leaf homeDanger route ∧
      bindDangerAdmission m [route] = .ok proof ∧
      validateForManifest proof m = .ok .requiresOneConfirmation := by
  have sized : Sized (valueTree .null) := by
    simp [Sized, Written, valueTree, Json.depth, Json.Everywhere, Writable, Json.print,
      MAX_CANONICAL_VALUE_DEPTH, MAX_CANONICAL_VALUE_BYTES]
    decide
  obtain ⟨leaf, made, -, snapshot, -⟩ :=
    requestedLeaf_ok sized (by decide : utf8Length (Json.obj []).print ≤ _)
  obtain ⟨m, ready, leaves⟩ := @compileDispatch_single asciiCrates _ _ _ ⟨[]⟩
    (show Normal asciiCrates ['l'] from rfl) made
  have spelled : (targetsTree [.str ['x']]).Everywhere Spelled := by
    simp [targetsTree, Json.Everywhere, Json.EveryField, Json.EveryItem, Spelled]
  have targets : snapshotTargets printedJson leaf = some [.str ['x']] := by
    unfold snapshotTargets
    rw [snapshot, show printedJson.value (targetsTree [.str ['x']]).print = _ from
      ofPrint_some.mpr ⟨spelled, rfl⟩]
    simp [targetsTree]
  obtain ⟨route, routed⟩ := homeDanger_routed targets
  obtain ⟨proof, bound, ⟨state, valid, confirms⟩, -⟩ :=
    @danger_admission printedJson [(leaf, homeDanger)] [route] m leaves.symm (.cons routed .nil)
  have reported : ∃ a ∈ [(leaf, homeDanger)], a.2.Reported :=
    ⟨_, List.mem_singleton_self _, .inl (List.cons_ne_nil _ _)⟩
  rw [confirms.mpr reported] at valid
  exact ⟨m, leaf, route, proof, ready, leaves, routed, bound, valid⟩

end CarsinOS.Danger
