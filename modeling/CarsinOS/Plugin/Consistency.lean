import CarsinOS.Lib.Run
import CarsinOS.Plugin.Registry

/-! The registry agrees with its manifests over every run of registrations and replacements,
as long as no registration meets its first conflict after a binding has been written. -/
namespace CarsinOS.Plugin
open Std (TreeMap)
open CarsinOS.Lib

theorem insert_lookup {β : Type} (t : TreeMap String β) (k a : String) (v : β) :
    (t.insert k v)[a]? = if k = a then some v else t[a]? := by
  simp [Std.TreeMap.getElem?_insert]

def names (m : PluginManifest) (kind : PluginBindingKind) : List String :=
  (m.capabilities.ofKind kind).map (·.name)

/-- What a manifest declares, in the order in which the bindings are written. -/
def declaredIn (m : PluginManifest) (kinds : List PluginBindingKind) :
    List (PluginBindingKind × String) :=
  kinds.flatMap fun kind => (names m kind).map (kind, ·)

@[simp] theorem mem_declaredIn {m : PluginManifest} {kinds : List PluginBindingKind}
    {slot : PluginBindingKind × String} :
    slot ∈ declaredIn m kinds ↔ slot.1 ∈ kinds ∧ slot.2 ∈ names m slot.1 := by
  obtain ⟨kind, name⟩ := slot
  simp only [declaredIn, List.mem_flatMap, List.mem_map, Prod.mk.injEq]
  constructor
  · rintro ⟨k, member, n, declared, rfl, rfl⟩
    exact ⟨member, declared⟩
  · rintro ⟨member, declared⟩
    exact ⟨kind, member, name, declared, rfl, rfl⟩

namespace PluginRegistry

def owner (r : PluginRegistry) (slot : PluginBindingKind × String) : Option String :=
  (r.bindings slot.1)[slot.2]?

@[simp] theorem bindings_setBindings (r : PluginRegistry) (b : Bindings)
    (kind other : PluginBindingKind) :
    (r.setBindings b kind).bindings other = if kind = other then b else r.bindings other := by
  cases kind <;> cases other <;> simp [setBindings, bindings]

@[simp] theorem manifests_setBindings (r : PluginRegistry) (b : Bindings)
    (kind : PluginBindingKind) : (r.setBindings b kind).manifests = r.manifests := by
  cases kind <;> rfl

@[simp] theorem setBindings_self (r : PluginRegistry) (kind : PluginBindingKind) :
    r.setBindings (r.bindings kind) kind = r := by
  cases kind <;> rfl

end PluginRegistry

/-! One binding map. -/

theorem registerBindings_ok {pluginId : String} {kind : PluginBindingKind} {b b' : Bindings}
    {cs : List PluginCapability} (done : registerBindings pluginId kind b cs = (b', .ok ())) :
    (∀ name, b'[name]? = if name ∈ cs.map (·.name) then some pluginId else b[name]?) ∧
      ∀ name ∈ cs.map (·.name), b[name]? = none := by
  induction cs generalizing b with
  | nil =>
    cases done
    simp
  | cons c cs ih =>
    rw [registerBindings] at done
    split at done
    · simp [bail] at done
    · rename_i free
      obtain ⟨lookup, fresh⟩ := ih done
      constructor
      · intro name
        rw [lookup name, insert_lookup]
        by_cases later : name ∈ cs.map (·.name)
        · simp [later]
        · by_cases here : c.name = name
          · simp [here]
          · simp [later, here, Ne.symm here]
      · intro name declared
        rcases List.mem_cons.mp declared with here | later
        · rw [here, free]
        · have old := fresh name later
          rw [insert_lookup] at old
          split at old
          · cases old
          · exact old

theorem registerBindings_keeps (pluginId : String) (kind : PluginBindingKind)
    (cs : List PluginCapability) {b : Bindings} {name id : String} (bound : b[name]? = some id) :
    (registerBindings pluginId kind b cs).1[name]? = some id := by
  induction cs generalizing b with
  | nil => exact bound
  | cons c cs ih =>
    rw [registerBindings]
    split
    · exact bound
    · rename_i free
      apply ih
      have other : c.name ≠ name := by
        intro same
        rw [same, bound] at free
        cases free
      rw [insert_lookup, if_neg other, bound]

theorem registerBindings_free (pluginId : String) (kind : PluginBindingKind) {b : Bindings}
    {cs : List PluginCapability} (distinct : (cs.map (·.name)).Nodup)
    (free : ∀ name ∈ cs.map (·.name), b[name]? = none) :
    ∃ b', registerBindings pluginId kind b cs = (b', .ok ()) := by
  induction cs generalizing b with
  | nil => exact ⟨b, rfl⟩
  | cons c cs ih =>
    obtain ⟨notLater, distinct⟩ := List.nodup_cons.mp distinct
    rw [registerBindings, free c.name (by simp)]
    apply ih distinct
    intro name later
    have other : c.name ≠ name := by
      rintro rfl
      exact notLater later
    rw [insert_lookup, if_neg other]
    exact free name (List.mem_cons_of_mem _ later)

/-! All four maps. -/

theorem registerKinds_manifests (m : PluginManifest) (r : PluginRegistry)
    (kinds : List PluginBindingKind) : (registerKinds m r kinds).1.manifests = r.manifests := by
  induction kinds generalizing r with
  | nil => rfl
  | cons kind kinds ih =>
    rw [registerKinds]
    split
    · simp
    · simp [ih]

theorem registerKinds_keeps {m : PluginManifest} {r : PluginRegistry}
    {kinds : List PluginBindingKind} {kind : PluginBindingKind} {name id : String}
    (bound : r.owner (kind, name) = some id) :
    (registerKinds m r kinds).1.owner (kind, name) = some id := by
  induction kinds generalizing r with
  | nil => exact bound
  | cons k kinds ih =>
    have kept : ∀ b res, registerBindings m.pluginId k (r.bindings k)
        (m.capabilities.ofKind k) = (b, res) → (r.setBindings b k).owner (kind, name) = some id := by
      intro b res written
      rw [PluginRegistry.owner, PluginRegistry.bindings_setBindings]
      split
      · rename_i same
        subst same
        have h := registerBindings_keeps m.pluginId k (m.capabilities.ofKind k) bound
        rwa [written] at h
      · exact bound
    rw [registerKinds]
    split
    · rename_i written
      exact kept _ _ written
    · rename_i written
      exact ih (kept _ _ written)

theorem registerKinds_ok {m : PluginManifest} {r r' : PluginRegistry}
    {kinds : List PluginBindingKind} (once : kinds.Nodup)
    (done : registerKinds m r kinds = (r', .ok ())) :
    (∀ kind name, r'.owner (kind, name) =
      if kind ∈ kinds ∧ name ∈ names m kind then some m.pluginId else r.owner (kind, name)) ∧
      ∀ kind ∈ kinds, ∀ name ∈ names m kind, r.owner (kind, name) = none := by
  induction kinds generalizing r with
  | nil =>
    cases done
    simp
  | cons k kinds ih =>
    obtain ⟨notLater, once⟩ := List.nodup_cons.mp once
    rw [registerKinds] at done
    split at done
    · simp at done
    · rename_i b written
      obtain ⟨lookup, fresh⟩ := registerBindings_ok written
      obtain ⟨later, free⟩ := ih once done
      have step : ∀ kind name, (r.setBindings b k).owner (kind, name) =
          if k = kind ∧ name ∈ names m kind then some m.pluginId else r.owner (kind, name) := by
        intro kind name
        rw [PluginRegistry.owner, PluginRegistry.bindings_setBindings]
        by_cases same : k = kind
        · subst same
          simp only [true_and, if_true]
          exact lookup name
        · simp [same, PluginRegistry.owner]
      constructor
      · intro kind name
        rw [later, step]
        by_cases same : k = kind
        · subst same
          simp [notLater]
        · simp [same, Ne.symm same]
      · intro kind member name declared
        rcases List.mem_cons.mp member with rfl | member
        · exact fresh name declared
        · have other : k ≠ kind := by
            rintro rfl
            exact notLater member
          simpa [step, other] using free kind member name declared

/-- A conflict at the very first declared capability is found before anything is written. -/
theorem registerKinds_first_owned {m : PluginManifest} {r : PluginRegistry}
    {kinds : List PluginBindingKind} {slot : PluginBindingKind × String}
    {rest : List (PluginBindingKind × String)} (shape : declaredIn m kinds = slot :: rest)
    (owned : r.owner slot ≠ none) : (registerKinds m r kinds).1 = r := by
  induction kinds with
  | nil => simp [declaredIn] at shape
  | cons kind kinds ih =>
    rw [registerKinds]
    cases caps : m.capabilities.ofKind kind with
    | nil =>
      have later : declaredIn m kinds = slot :: rest := by
        simpa [declaredIn, names, caps] using shape
      simpa [registerBindings] using ih later
    | cons c cs =>
      have first : (kind, c.name) = slot := by
        simp only [declaredIn, names, caps, List.flatMap_cons, List.map_cons, List.cons_append,
          List.cons.injEq] at shape
        exact shape.1
      subst first
      obtain ⟨id, bound⟩ := Option.ne_none_iff_exists'.mp owned
      have bound' : (r.bindings kind)[c.name]? = some id := bound
      simp [registerBindings, bound', bail]

theorem registerKinds_first_free {m : PluginManifest} {r : PluginRegistry}
    {kinds : List PluginBindingKind} {slot : PluginBindingKind × String}
    {rest : List (PluginBindingKind × String)} (shape : declaredIn m kinds = slot :: rest)
    (free : r.owner slot = none) :
    (registerKinds m r kinds).1.owner slot = some m.pluginId := by
  induction kinds with
  | nil => simp [declaredIn] at shape
  | cons kind kinds ih =>
    rw [registerKinds]
    cases caps : m.capabilities.ofKind kind with
    | nil =>
      have later : declaredIn m kinds = slot :: rest := by
        simpa [declaredIn, names, caps] using shape
      simpa [registerBindings] using ih later
    | cons c cs =>
      have first : (kind, c.name) = slot := by
        simp only [declaredIn, names, caps, List.flatMap_cons, List.map_cons, List.cons_append,
          List.cons.injEq] at shape
        exact shape.1
      subst first
      have unbound : (r.bindings kind)[c.name]? = none := free
      have bound : ∀ b res, registerBindings m.pluginId kind (r.bindings kind) (c :: cs) = (b, res) →
          (r.setBindings b kind).owner (kind, c.name) = some m.pluginId := by
        intro b res written
        have new : ((r.bindings kind).insert c.name m.pluginId)[c.name]? = some m.pluginId := by
          rw [insert_lookup, if_pos rfl]
        have h := registerBindings_keeps m.pluginId kind cs new
        rw [registerBindings, unbound] at written
        simpa [PluginRegistry.owner, written] using h
      split
      · rename_i written
        exact bound _ _ written
      · rename_i written
        exact registerKinds_keeps (bound _ _ written)

theorem registerKinds_free {m : PluginManifest} {r : PluginRegistry}
    {kinds : List PluginBindingKind} (once : kinds.Nodup)
    (distinct : ∀ kind, (names m kind).Nodup)
    (free : ∀ kind ∈ kinds, ∀ name ∈ names m kind, r.owner (kind, name) = none) :
    ∃ r', registerKinds m r kinds = (r', .ok ()) := by
  induction kinds generalizing r with
  | nil => exact ⟨r, rfl⟩
  | cons k kinds ih =>
    obtain ⟨notLater, once⟩ := List.nodup_cons.mp once
    have here : ∀ name ∈ names m k, (r.bindings k)[name]? = none := free k (by simp)
    obtain ⟨b, written⟩ := registerBindings_free m.pluginId k (distinct k) here
    simp only [registerKinds, written]
    apply ih once
    intro kind member name declared
    have other : k ≠ kind := by
      rintro rfl
      exact notLater member
    rw [PluginRegistry.owner, PluginRegistry.bindings_setBindings, if_neg other]
    exact free kind (List.mem_cons_of_mem _ member) name declared

/-! The checks that come first. -/

theorem normalizeCapabilities_ok {kind : PluginBindingKind} {seen : List String}
    {cs out : List PluginCapability} (done : normalizeCapabilities kind seen cs = .ok out) :
    (out.map (·.name)).Nodup ∧ ∀ name ∈ out.map (·.name), name ∉ seen := by
  induction cs generalizing seen out with
  | nil =>
    cases done
    simp
  | cons c cs ih =>
    simp only [normalizeCapabilities, bind_ok] at done
    obtain ⟨name, -, done⟩ := done
    split at done
    · simp at done
    · rename_i new
      obtain ⟨others, tail, done⟩ := bind_ok.mp done
      cases done
      obtain ⟨distinct, away⟩ := ih tail
      simp only [List.map_cons, List.nodup_cons, List.mem_cons, forall_eq_or_imp]
      refine ⟨⟨fun again => ?_, distinct⟩, new, fun other member => ?_⟩
      · exact away name again (by simp)
      · exact fun old => away other member (List.mem_cons_of_mem _ old)

theorem normalizeAllCapabilities_ok {c out : PluginCapabilities}
    (done : normalizeAllCapabilities c = .ok out) (kind : PluginBindingKind) :
    ((out.ofKind kind).map (·.name)).Nodup := by
  simp only [normalizeAllCapabilities, bind_ok, withContext_ok] at done
  obtain ⟨tools, ht, hooks, hh, providers, hp, channels, hc, out⟩ := done
  cases out
  cases kind with
  | tool => exact (normalizeCapabilities_ok ht).1
  | hook => exact (normalizeCapabilities_ok hh).1
  | provider => exact (normalizeCapabilities_ok hp).1
  | channel => exact (normalizeCapabilities_ok hc).1

theorem preparedManifest_ok {r : PluginRegistry} {manifest prepared : PluginManifest}
    (done : preparedManifest r manifest = .ok prepared) :
    prepared.pluginId ∉ r.manifests ∧ ∀ kind, (names prepared kind).Nodup := by
  simp only [preparedManifest] at done
  split at done
  · simp at done
  split at done
  · simp at done
  obtain ⟨pluginId, -, done⟩ := bind_ok.mp done
  split at done
  · simp at done
  split at done
  · simp at done
  split at done
  · simp at done
  rename_i fresh
  obtain ⟨-, -, done⟩ := bind_ok.mp done
  obtain ⟨capabilities, distinct, done⟩ := bind_ok.mp done
  cases done
  exact ⟨fresh, normalizeAllCapabilities_ok distinct⟩

/-- Every manifest is stored under its own id, and the binding maps hold exactly what the
stored manifests declare. -/
structure Consistent (r : PluginRegistry) : Prop where
  keyed : ∀ (id : String) (m : PluginManifest), r.manifests[id]? = some m → m.pluginId = id
  owned : ∀ (kind : PluginBindingKind) (name id : String), r.owner (kind, name) = some id ↔
    ∃ m, r.manifests[id]? = some m ∧ name ∈ names m kind

theorem new_consistent : Consistent PluginRegistry.new := by
  constructor
  · intro id m found
    simp [PluginRegistry.new] at found
  · intro kind name id
    cases kind <;> simp [PluginRegistry.new, PluginRegistry.owner, PluginRegistry.bindings]

theorem bindingOrder_complete (kind : PluginBindingKind) : kind ∈ bindingOrder := by
  cases kind <;> decide

/-- The first declared capability is free and a later one is taken: the registration will fail
after it has written at least one binding. -/
def LateConflict (r : PluginRegistry) (manifest : PluginManifest) : Prop :=
  match preparedManifest r manifest with
  | .error _ => False
  | .ok prepared =>
    match declaredIn prepared bindingOrder with
    | [] => False
    | first :: later => r.owner first = none ∧ ∃ slot ∈ later, r.owner slot ≠ none

instance (r : PluginRegistry) (manifest : PluginManifest) :
    Decidable (LateConflict r manifest) := by
  unfold LateConflict
  split
  · infer_instance
  · split <;> infer_instance

theorem lateConflict_iff {r : PluginRegistry} {manifest : PluginManifest} :
    LateConflict r manifest ↔ ∃ prepared first later, preparedManifest r manifest = .ok prepared ∧
      declaredIn prepared bindingOrder = first :: later ∧
      r.owner first = none ∧ ∃ slot ∈ later, r.owner slot ≠ none := by
  unfold LateConflict
  cases checked : preparedManifest r manifest with
  | error e => simp
  | ok prepared =>
    cases shape : declaredIn prepared bindingOrder with
    | nil => simp [shape]
    | cons first later =>
      simp only [shape]
      constructor
      · exact fun late => ⟨prepared, first, later, rfl, shape, late⟩
      · rintro ⟨p, f, l, same, shape', late⟩
        cases same
        rw [shape] at shape'
        cases shape'
        exact late

theorem register_ok {r r' : PluginRegistry} {manifest : PluginManifest}
    (done : r.registerManifest manifest = (r', .ok ())) :
    ∃ prepared, preparedManifest r manifest = .ok prepared ∧
      r'.manifests = r.manifests.insert prepared.pluginId prepared ∧
      (∀ kind name, r'.owner (kind, name) =
        if name ∈ names prepared kind then some prepared.pluginId else r.owner (kind, name)) ∧
      ∀ kind, ∀ name ∈ names prepared kind, r.owner (kind, name) = none := by
  rw [PluginRegistry.registerManifest] at done
  split at done
  · simp at done
  rename_i prepared checked
  split at done
  · simp at done
  rename_i bound written
  obtain ⟨lookup, fresh⟩ := registerKinds_ok (by decide) written
  have same := registerKinds_manifests prepared r bindingOrder
  rw [written] at same
  cases done
  refine ⟨prepared, checked, by simp [← same], fun kind name => ?_, fun kind => ?_⟩
  · have h := lookup kind name
    simp only [bindingOrder_complete, true_and] at h
    cases kind <;> exact h
  · exact fresh kind (bindingOrder_complete kind)

theorem register_ok_consistent {r r' : PluginRegistry} {manifest : PluginManifest}
    (consistent : Consistent r) (done : r.registerManifest manifest = (r', .ok ())) :
    Consistent r' := by
  obtain ⟨prepared, checked, manifests, lookup, fresh⟩ := register_ok done
  have unused : r.manifests[prepared.pluginId]? = none := by
    simpa using (preparedManifest_ok checked).1
  constructor
  · intro id m found
    rw [manifests, insert_lookup] at found
    split at found
    · rename_i same
      cases found
      exact same
    · exact consistent.keyed id m found
  · intro kind name id
    rw [lookup, manifests]
    simp only [insert_lookup]
    by_cases same : prepared.pluginId = id
    · subst same
      by_cases declared : name ∈ names prepared kind
      · simp [declared]
      · have old : r.owner (kind, name) ≠ some prepared.pluginId := by
          intro bound
          obtain ⟨m, found, -⟩ := (consistent.owned _ _ _).mp bound
          rw [unused] at found
          cases found
        simp [declared, old]
    · simp only [if_neg same]
      rw [← consistent.owned]
      by_cases declared : name ∈ names prepared kind
      · simp [declared, same, fresh kind name declared]
      · simp [declared]

theorem register_error {r r' : PluginRegistry} {manifest : PluginManifest} {e : Failure}
    (failed : r.registerManifest manifest = (r', .error e)) :
    r' = r ∨ ∃ prepared, preparedManifest r manifest = .ok prepared ∧
      registerKinds prepared r bindingOrder = (r', .error e) := by
  rw [PluginRegistry.registerManifest] at failed
  split at failed
  · cases failed
    exact .inl rfl
  rename_i prepared checked
  split at failed
  · rename_i written
    cases failed
    exact .inr ⟨prepared, checked, written⟩
  · simp at failed

theorem register_error_unchanged {r r' : PluginRegistry} {manifest : PluginManifest} {e : Failure}
    (early : ¬ LateConflict r manifest)
    (failed : r.registerManifest manifest = (r', .error e)) : r' = r := by
  rcases register_error failed with same | ⟨prepared, checked, written⟩
  · exact same
  have taken : ¬ ∀ kind ∈ bindingOrder, ∀ name ∈ names prepared kind,
      r.owner (kind, name) = none := by
    intro free
    obtain ⟨r₁, done⟩ := registerKinds_free (by decide) (preparedManifest_ok checked).2 free
    rw [written] at done
    simp at done
  have declared : ∃ slot ∈ declaredIn prepared bindingOrder, r.owner slot ≠ none := by
    by_contra none
    apply taken
    intro kind member name declared
    by_contra owned
    exact none ⟨(kind, name), mem_declaredIn.mpr ⟨member, declared⟩, owned⟩
  obtain ⟨slot, member, owned⟩ := declared
  cases shape : declaredIn prepared bindingOrder with
  | nil =>
    rw [shape] at member
    cases member
  | cons first later =>
    have firstOwned : r.owner first ≠ none := by
      intro free
      apply early
      refine lateConflict_iff.mpr ⟨prepared, first, later, checked, shape, free, slot, ?_, owned⟩
      rw [shape] at member
      rcases List.mem_cons.mp member with rfl | h
      · exact absurd free owned
      · exact h
    have same := registerKinds_first_owned shape firstOwned
    rwa [written] at same

theorem late_conflict_changes {r : PluginRegistry} {manifest : PluginManifest}
    (late : LateConflict r manifest) :
    (∃ e, (r.registerManifest manifest).2 = .error e) ∧ (r.registerManifest manifest).1 ≠ r := by
  obtain ⟨prepared, first, later, checked, shape, free, slot, member, owned⟩ :=
    lateConflict_iff.mp late
  have bound := registerKinds_first_free shape free
  cases written : registerKinds prepared r bindingOrder with
  | mk r₁ res =>
    cases res with
    | ok u =>
      have declared : slot ∈ declaredIn prepared bindingOrder := by simp [shape, member]
      obtain ⟨kindMember, declared⟩ := mem_declaredIn.mp declared
      exact absurd ((registerKinds_ok (by decide) written).2 _ kindMember _ declared) owned
    | error e =>
      have run : r.registerManifest manifest = (r₁, .error e) := by
        simp [PluginRegistry.registerManifest, checked, written]
      rw [run]
      refine ⟨⟨e, rfl⟩, ?_⟩
      rintro rfl
      rw [written] at bound
      simp [free] at bound

/-- A failing registration leaves the registry alone exactly when it has no late conflict. -/
theorem register_failure_unchanged_iff (r : PluginRegistry) (manifest : PluginManifest) :
    ((∃ e, (r.registerManifest manifest).2 = .error e) → (r.registerManifest manifest).1 = r) ↔
      ¬ LateConflict r manifest := by
  constructor
  · intro unchanged late
    exact (late_conflict_changes late).2 (unchanged (late_conflict_changes late).1)
  · rintro early ⟨e, failed⟩
    exact register_error_unchanged early (Prod.ext rfl failed)

/-! Replacement rebuilds a registry from nothing, so it never sees a stale binding. -/

theorem registerEach_consistent {ms : List PluginManifest} {r r' : PluginRegistry}
    (consistent : Consistent r) (done : PluginRegistry.registerEach r ms = .ok r') :
    Consistent r' := by
  induction ms generalizing r with
  | nil =>
    cases done
    exact consistent
  | cons m ms ih =>
    rw [PluginRegistry.registerEach] at done
    split at done
    · simp at done
    · rename_i registered
      exact ih (register_ok_consistent consistent registered) done

theorem replace_cases (r : PluginRegistry) (manifest : PluginManifest) :
    ((∃ e, (r.replaceManifest manifest).2 = .error e) ∧ (r.replaceManifest manifest).1 = r) ∨
      ((∃ m, (r.replaceManifest manifest).2 = .ok m) ∧
        Consistent (r.replaceManifest manifest).1) := by
  rw [PluginRegistry.replaceManifest]
  split
  · exact .inl ⟨⟨_, rfl⟩, rfl⟩
  split
  · exact .inl ⟨⟨_, rfl⟩, rfl⟩
  split
  · exact .inl ⟨⟨_, rfl⟩, rfl⟩
  rename_i rebuilt done
  split
  · exact .inl ⟨⟨_, rfl⟩, rfl⟩
  · exact .inr ⟨⟨_, rfl⟩, registerEach_consistent new_consistent done⟩

/-! Runs of calls. -/

inductive Call where
  | register (manifest : PluginManifest)
  | replace (manifest : PluginManifest)

def perform (r : PluginRegistry) : Call → PluginRegistry × Anyhow Unit
  | .register manifest => r.registerManifest manifest
  | .replace manifest => ((r.replaceManifest manifest).1, (r.replaceManifest manifest).2.map fun _ => ())

def Fails (r : PluginRegistry) (call : Call) : Prop := ∃ e, (perform r call).2 = .error e

/-- The condition on a call and the registry it finds; a replacement is always allowed. -/
def NoLateConflict (r : PluginRegistry) : Call → Prop
  | .register manifest => ¬ LateConflict r manifest
  | .replace _ => True

instance (r : PluginRegistry) (call : Call) : Decidable (NoLateConflict r call) := by
  cases call <;> unfold NoLateConflict <;> infer_instance

theorem perform_consistent {r : PluginRegistry} {call : Call} (consistent : Consistent r)
    (early : NoLateConflict r call) :
    Consistent (perform r call).1 ∧ (Fails r call → (perform r call).1 = r) := by
  cases call with
  | register manifest =>
    cases run : r.registerManifest manifest with
    | mk r₁ res =>
      cases res with
      | error e =>
        have same := register_error_unchanged early run
        subst same
        simpa [perform, run] using consistent
      | ok u => simpa [perform, run, Fails] using register_ok_consistent consistent run
  | replace manifest =>
    rcases replace_cases r manifest with ⟨-, same⟩ | ⟨⟨m, done⟩, rebuilt⟩
    · simpa [perform, same] using consistent
    · simpa [perform, Fails, done, Except.map] using rebuilt

/-- A run from the empty registry whose every call meets the condition. -/
def Reached (calls : List Call) (r : PluginRegistry) : Prop :=
  Run (Guarded (Computes fun r call => (perform r call).1) NoLateConflict) .new calls r

theorem reached_consistent {calls : List Call} {r : PluginRegistry} (reached : Reached calls r) :
    Consistent r := by
  refine run_invariant ?_ new_consistent reached
  rintro r call _ consistent ⟨early, rfl⟩
  exact (perform_consistent consistent early).1

theorem capability_owner_registered {r : PluginRegistry} (consistent : Consistent r)
    {kind : PluginBindingKind} {name id : String} (found : r.capabilityOwner kind name = some id) :
    id ∈ r.manifests := by
  rw [PluginRegistry.capabilityOwner] at found
  split at found
  · rename_i normalized _
    obtain ⟨m, stored, -⟩ := (consistent.owned kind normalized id).mp found
    rw [Std.TreeMap.mem_iff_isSome_getElem?, stored]
    rfl
  · cases found

/-- The state reached by a guarded run binds exactly the declared capabilities, names only
registered owners, and is left as it was by every allowed call that fails. -/
theorem registry_consistent_and_atomic {calls : List Call} {r : PluginRegistry}
    (reached : Reached calls r) :
    (∀ (kind : PluginBindingKind) (name id : String), (r.bindings kind)[name]? = some id ↔
      ∃ m : PluginManifest, r.manifests[id]? = some m ∧
        ∃ c ∈ m.capabilities.ofKind kind, c.name = name) ∧
    (∀ kind name id, r.capabilityOwner kind name = some id → id ∈ r.manifests) ∧
    ∀ call, NoLateConflict r call → Fails r call → (perform r call).1 = r := by
  have consistent := reached_consistent reached
  refine ⟨fun kind name id => ?_, fun _ _ _ => capability_owner_registered consistent,
    fun call early => (perform_consistent consistent early).2⟩
  have h := consistent.owned kind name id
  simpa [PluginRegistry.owner, names] using h

def sampleManifest (pluginId : String) (tools hooks : List String) : PluginManifest where
  schemaVersion := pluginManifestSchemaVersionV1
  pluginId := pluginId
  displayName := "Sample Plugin"
  pluginVersion := "1.0.0"
  apiVersion := pluginApiVersionV1
  capabilities := { tools := tools.map (⟨·, none⟩), hooks := hooks.map (⟨·, none⟩) }

def registerAlpha : Call :=
  .register (sampleManifest "plugin.alpha" ["tool.alpha"] ["hook.pre_run"])

def alphaOnly : PluginRegistry := (perform .new registerAlpha).1

theorem registry_consistent_and_atomic_alpha :
    (∀ (kind : PluginBindingKind) (name id : String), (alphaOnly.bindings kind)[name]? = some id ↔
      ∃ m : PluginManifest, alphaOnly.manifests[id]? = some m ∧
        ∃ c ∈ m.capabilities.ofKind kind, c.name = name) ∧
    (∀ kind name id, alphaOnly.capabilityOwner kind name = some id → id ∈ alphaOnly.manifests) ∧
    ∀ call, NoLateConflict alphaOnly call → Fails alphaOnly call →
      (perform alphaOnly call).1 = alphaOnly :=
  have first : Guarded (Computes fun r call => (perform r call).1) NoLateConflict .new
      registerAlpha alphaOnly := ⟨by decide, rfl⟩
  registry_consistent_and_atomic (.snoc (.nil _) first)

/-- The tool of a plugin whose hook is taken stays bound although the plugin was refused, and
blocks the next plugin that declares it. -/
theorem late_conflict_leaves_stale_binding :
    let beta := Call.register (sampleManifest "plugin.beta" ["tool.beta"] ["hook.pre_run"])
    let gamma := Call.register (sampleManifest "plugin.gamma" ["tool.beta"] [])
    let stale := (perform alphaOnly beta).1
    (perform alphaOnly beta).2 =
        bail "hook capability 'hook.pre_run' is already registered by plugin 'plugin.alpha'" ∧
      alphaOnly.capabilityOwner .tool "tool.beta" = none ∧
      stale.capabilityOwner .tool "tool.beta" = some "plugin.beta" ∧
      "plugin.beta" ∉ stale.manifests ∧
      (perform stale gamma).2 =
        bail "tool capability 'tool.beta' is already registered by plugin 'plugin.beta'" := by
  refine ⟨by rfl, by decide, by decide, by decide, by rfl⟩

end CarsinOS.Plugin
