import CarsinOS.Danger.Routing
import CarsinOS.Utf8

/-! The bytes a danger admission is signed over: a row of frames, read back in one way. -/
namespace CarsinOS.Danger
open CarsinOS.Lib

/-- The names `serde` gives the categories. -/
def DangerCategory.name : DangerCategory → String
  | .wholeDriveVolumeBootRecoveryOrCoreOsTree =>
    "whole_drive_volume_boot_recovery_or_core_os_tree_erasure_or_unusable"
  | .wholeUserProfileOrHome => "whole_user_profile_or_home_erasure_or_unusable"
  | .completeCarsinosProtectedSystem =>
    "complete_carsinos_state_integrity_runtime_enforcement_stop_fencing_or_recovery_configuration_erasure_or_unusable"
  | .wholeConnectedExternalAccountOrTenant => "whole_connected_external_account_closure_or_erasure"
  | .lastAdministrativeRecoveryOrDecryptionPath =>
    "last_verified_administrative_recovery_or_decryption_path_destruction"

def DangerSource.name : DangerSource → String
  | .knownCategory => "known_category"
  | .modelCredibleDanger => "model_credible_danger"

/-- `serde_json::to_vec` of the two. -/
def sourceJson (source : DangerSource) : Text := (Json.str source.name.toList).print

def categoryJson (category : Option DangerCategory) : Text :=
  (Json.optional (category.map (·.name.toList))).print

def DANGER_ADMISSION_SIGNATURE_DOMAIN : Text := "carsinos.execass.danger_admission.v1".toList

inductive SigningError where
  | invalidSigningField

/-- `push_signature_frame`. -/
def signatureFrame (value : List UInt8) : List UInt8 := lengthPrefixed value

def textFrame (value : Text) : List UInt8 := signatureFrame (utf8Bytes value)

/-- `u64::to_be_bytes`. -/
def u64Frame (value : UInt64) : List UInt8 := signatureFrame (bigEndian value.toNat 8)

def routeFrames (route : DangerRoute) : List UInt8 :=
  textFrame route.canonicalLeafDigest ++
    match route.kind with
    | .ordinary => textFrame "ordinary".toList
    | .requiresOneConfirmation assessment =>
      textFrame "requires_one_confirmation".toList ++ textFrame (sourceJson assessment.source) ++
        textFrame (categoryJson assessment.knownCategory) ++
        textFrame assessment.declaredConsequence ++
        signatureFrame [if assessment.requiresOneConfirmation then 1 else 0]

def dangerAdmissionSigningBytes (proof : DangerAdmissionProof) (keyId : Text)
    (keyGeneration : UInt64) (canonicalRootIdentity installationIdentity osUserIdentityDigest : Text)
    (stateRootGeneration : UInt64) : Except SigningError (List UInt8) :=
  if trimChars keyId = [] ∨ keyGeneration = 0 ∨ trimChars canonicalRootIdentity = [] ∨
      trimChars installationIdentity = [] ∨ trimChars osUserIdentityDigest = [] ∨
      stateRootGeneration = 0 ∨ utf8Length proof.canonicalManifestDigest ≠ 64 then
    .error .invalidSigningField
  else
    .ok (textFrame DANGER_ADMISSION_SIGNATURE_DOMAIN ++ textFrame keyId ++
      u64Frame keyGeneration ++ textFrame canonicalRootIdentity ++
      textFrame installationIdentity ++ textFrame osUserIdentityDigest ++
      u64Frame stateRootGeneration ++ textFrame proof.canonicalManifestDigest ++
      u64Frame (UInt64.ofNat proof.routesInManifestOrder.length) ++
      proof.routesInManifestOrder.flatMap routeFrames)

/-! Reading the frames back. -/

/-- The texts of a route are slices in memory. -/
structure RouteInMemory (route : DangerRoute) : Prop where
  digest : InMemory route.canonicalLeafDigest
  consequence : ∀ assessment, route.kind = .requiresOneConfirmation assessment →
    InMemory assessment.declaredConsequence

section Frames
variable {rest other : List UInt8}

theorem u64Frame_append {a b : UInt64} (same : u64Frame a ++ rest = u64Frame b ++ other) :
    a = b ∧ rest = other := by
  obtain ⟨words, rests⟩ := lengthPrefixed_append (by simp) (by simp) same
  have small : ∀ n : UInt64, n.toNat < 256 ^ 8 := fun n => n.toNat_lt
  have numbers : bigEndian a.toNat 8 ++ [] = bigEndian b.toNat 8 ++ [] := by rw [words]
  exact ⟨UInt64.toNat_inj.mp (bigEndian_append (small a) (small b) numbers).1, rests⟩

theorem source_append {a b : DangerSource}
    (same : textFrame (sourceJson a) ++ rest = textFrame (sourceJson b) ++ other) :
    a = b ∧ rest = other := by
  have short : ∀ source : DangerSource, InMemory (sourceJson source) := by
    intro source
    apply inMemory_of_length
    cases source <;> decide +kernel
  obtain ⟨texts, rests⟩ := text_append (short a) (short b) same
  have trees := Json.print_injective (t := .str _) (u := .str _) trivial trivial texts
  have names : a.name = b.name := String.toList_inj.mp (Json.str.inj trees)
  refine ⟨?_, rests⟩
  cases a <;> cases b <;> first | rfl | simp [DangerSource.name] at names

theorem category_append {a b : Option DangerCategory}
    (same : textFrame (categoryJson a) ++ rest = textFrame (categoryJson b) ++ other) :
    a = b ∧ rest = other := by
  have short : ∀ category : Option DangerCategory, InMemory (categoryJson category) := by
    intro category
    apply inMemory_of_length
    rcases category with none | category
    · decide +kernel
    · cases category <;> decide +kernel
  have spelled : ∀ text : Option Text, (Json.optional text).Everywhere Spelled := by
    intro text
    cases text <;> trivial
  obtain ⟨texts, rests⟩ := text_append (short a) (short b) same
  have trees := Json.print_injective (spelled _) (spelled _) texts
  refine ⟨?_, rests⟩
  cases a with
  | none =>
    cases b with
    | none => rfl
    | some b => cases trees
  | some a =>
    cases b with
    | none => cases trees
    | some b =>
      have names : a.name = b.name := String.toList_inj.mp (Json.str.inj trees)
      cases a <;> cases b <;> first | rfl | simp [DangerCategory.name] at names

theorem flag_append {a b : Bool} (same : signatureFrame [if a then (1 : UInt8) else 0] ++ rest =
    signatureFrame [if b then 1 else 0] ++ other) : a = b ∧ rest = other := by
  obtain ⟨flags, rests⟩ := lengthPrefixed_append (by simp) (by simp) same
  refine ⟨?_, rests⟩
  cases a <;> cases b <;> first | rfl | simp at flags

/-- The frames of a route say which route it is and where it ends. -/
theorem route_append {a b : DangerRoute} (stored : RouteInMemory a) (alsoStored : RouteInMemory b)
    (same : routeFrames a ++ rest = routeFrames b ++ other) : a = b ∧ rest = other := by
  have ordinary : InMemory "ordinary".toList := inMemory_of_length (by decide)
  have confirmed : InMemory "requires_one_confirmation".toList := inMemory_of_length (by decide)
  have apart : "ordinary".toList ≠ "requires_one_confirmation".toList := by decide
  obtain ⟨digest, kind⟩ := a
  obtain ⟨digest', kind'⟩ := b
  simp only [routeFrames, List.append_assoc] at same
  obtain ⟨digests, tails⟩ := text_append stored.digest alsoStored.digest same
  clear same
  simp only at digests
  subst digests
  cases kind with
  | ordinary =>
    cases kind' with
    | ordinary => exact ⟨rfl, List.append_cancel_left tails⟩
    | requiresOneConfirmation assessment =>
      simp only [List.append_assoc] at tails
      exact absurd (text_append ordinary confirmed tails).1 apart
  | requiresOneConfirmation assessment =>
    cases kind' with
    | ordinary =>
      simp only [List.append_assoc] at tails
      exact absurd (text_append confirmed ordinary tails).1 apart.symm
    | requiresOneConfirmation assessment' =>
      simp only [List.append_assoc] at tails
      obtain ⟨source, tails⟩ := source_append (List.append_cancel_left tails)
      obtain ⟨category, tails⟩ := category_append tails
      obtain ⟨consequence, tails⟩ := text_append (stored.consequence assessment rfl)
        (alsoStored.consequence assessment' rfl) tails
      obtain ⟨flag, tails⟩ := flag_append tails
      refine ⟨?_, tails⟩
      cases assessment
      cases assessment'
      simp_all

theorem routes_append {as bs : List DangerRoute} (stored : ∀ route ∈ as, RouteInMemory route)
    (alsoStored : ∀ route ∈ bs, RouteInMemory route) (count : as.length = bs.length)
    (same : as.flatMap routeFrames ++ rest = bs.flatMap routeFrames ++ other) :
    as = bs ∧ rest = other := by
  induction as generalizing bs with
  | nil =>
    cases List.length_eq_zero_iff.mp count.symm
    exact ⟨rfl, same⟩
  | cons a as ih =>
    cases bs with
    | nil => simp at count
    | cons b bs =>
      simp only [List.flatMap_cons, List.append_assoc] at same
      obtain ⟨first, others⟩ := List.forall_mem_cons.mp stored
      obtain ⟨alsoFirst, alsoOthers⟩ := List.forall_mem_cons.mp alsoStored
      obtain ⟨rfl, tails⟩ := route_append first alsoFirst same
      obtain ⟨rfl, rests⟩ := ih others alsoOthers (by simpa using count) tails
      exact ⟨rfl, rests⟩

end Frames

/-- The arguments of a signature are in memory. -/
structure SigningInMemory (proof : DangerAdmissionProof)
    (keyId canonicalRootIdentity installationIdentity osUserIdentityDigest : Text) : Prop where
  key : InMemory keyId
  root : InMemory canonicalRootIdentity
  installation : InMemory installationIdentity
  user : InMemory osUserIdentityDigest
  count : proof.routesInManifestOrder.length < 256 ^ 8
  routes : ∀ route ∈ proof.routesInManifestOrder, RouteInMemory route

/-- Signing bytes that are equal are of the same admission under the same key and root. -/
theorem signing_bytes_injective {proof proof' : DangerAdmissionProof}
    {keyId keyId' root root' installation installation' user user' : Text}
    {keyGeneration keyGeneration' stateRootGeneration stateRootGeneration' : UInt64}
    {bytes : List UInt8} (stored : SigningInMemory proof keyId root installation user)
    (alsoStored : SigningInMemory proof' keyId' root' installation' user')
    (signed : dangerAdmissionSigningBytes proof keyId keyGeneration root installation user
      stateRootGeneration = .ok bytes)
    (alsoSigned : dangerAdmissionSigningBytes proof' keyId' keyGeneration' root' installation'
      user' stateRootGeneration' = .ok bytes) :
    keyId = keyId' ∧ keyGeneration = keyGeneration' ∧ root = root' ∧
      installation = installation' ∧ user = user' ∧
      stateRootGeneration = stateRootGeneration' ∧ proof = proof' := by
  unfold dangerAdmissionSigningBytes at signed alsoSigned
  split at signed
  · cases signed
  split at alsoSigned
  · cases alsoSigned
  rename_i valid alsoValid
  simp only [not_or, not_not] at valid alsoValid
  have digest : InMemory proof.canonicalManifestDigest ∧
      InMemory proof'.canonicalManifestDigest := by
    constructor
    · exact inMemory_of_length (by omega)
    · exact inMemory_of_length (by omega)
  have whole := (Except.ok.inj signed).trans (Except.ok.inj alsoSigned).symm
  rw [← List.append_nil (_ ++ proof.routesInManifestOrder.flatMap routeFrames),
    ← List.append_nil (_ ++ proof'.routesInManifestOrder.flatMap routeFrames)] at whole
  simp only [List.append_assoc] at whole
  obtain ⟨key, whole⟩ := text_append stored.key alsoStored.key (List.append_cancel_left whole)
  obtain ⟨generation, whole⟩ := u64Frame_append whole
  obtain ⟨roots, whole⟩ := text_append stored.root alsoStored.root whole
  obtain ⟨installations, whole⟩ := text_append stored.installation alsoStored.installation whole
  obtain ⟨users, whole⟩ := text_append stored.user alsoStored.user whole
  obtain ⟨rootGeneration, whole⟩ := u64Frame_append whole
  obtain ⟨manifest, whole⟩ := text_append digest.1 digest.2 whole
  obtain ⟨counts, whole⟩ := u64Frame_append whole
  have count : proof.routesInManifestOrder.length = proof'.routesInManifestOrder.length := by
    have numbers := congrArg UInt64.toNat counts
    rw [UInt64.toNat_ofNat_of_lt' stored.count, UInt64.toNat_ofNat_of_lt' alsoStored.count]
      at numbers
    exact numbers
  obtain ⟨routes, -⟩ := routes_append stored.routes alsoStored.routes count whole
  refine ⟨key, generation, roots, installations, users, rootGeneration, ?_⟩
  cases proof
  cases proof'
  simp_all

/-- An ordinary leaf and one that asks for a confirmation. -/
def sampleProof : DangerAdmissionProof where
  canonicalManifestDigest := List.replicate 64 '0'
  routesInManifestOrder := [⟨['1'], .ordinary⟩,
    ⟨['2'], .requiresOneConfirmation ⟨.modelCredibleDanger, none, ['c'], true⟩⟩]

theorem sampleProof_inMemory : SigningInMemory sampleProof ['k'] ['r'] ['i'] ['u'] := by
  have letter (c : Char) : InMemory [c] := by
    apply inMemory_of_length
    have size := c.utf8Size_le_four
    simp only [utf8Length, List.map_cons, List.map_nil, List.sum_cons, List.sum_nil]
    omega
  refine ⟨letter _, letter _, letter _, letter _, by decide, ?_⟩
  intro route member
  simp only [sampleProof, List.mem_cons, List.not_mem_nil, or_false] at member
  rcases member with rfl | rfl
  · exact ⟨letter _, by simp⟩
  · refine ⟨letter _, ?_⟩
    rintro assessment same
    cases same
    exact letter _

theorem signing_bytes_injective_sample : ∃ bytes,
    dangerAdmissionSigningBytes sampleProof ['k'] 1 ['r'] ['i'] ['u'] 1 = .ok bytes ∧
      ['k'] = ['k'] ∧ (1 : UInt64) = 1 ∧ ['r'] = ['r'] ∧ ['i'] = ['i'] ∧ ['u'] = ['u'] ∧
      (1 : UInt64) = 1 ∧ sampleProof = sampleProof := by
  have signed : dangerAdmissionSigningBytes sampleProof ['k'] 1 ['r'] ['i'] ['u'] 1 = .ok _ :=
    if_neg (by decide)
  exact ⟨_, signed, signing_bytes_injective sampleProof_inMemory sampleProof_inMemory signed
    signed⟩

end CarsinOS.Danger
