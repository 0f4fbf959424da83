import CarsinOS.Receipt.Redaction

/-! What the scan of a receipt and the redaction of texts and values keep out. -/
namespace CarsinOS.Receipt
open CarsinOS.Lib CarsinOS.Canonical

mutual
/-- The strings and the object keys of a value. -/
def texts : CanonicalValue → List Text
  | .string value => [value]
  | .array values => elementTexts values
  | .object entries => entryTexts entries
  | _ => []

def elementTexts : List CanonicalValue → List Text
  | [] => []
  | value :: values => texts value ++ elementTexts values

def entryTexts : List (Text × CanonicalValue) → List Text
  | [] => []
  | (key, value) :: entries => key :: (texts value ++ entryTexts entries)
end

mutual
/-- The object keys of a value that are kept: no key is below a sensitive one. -/
def keptKeys (C : RedactionCrates) : CanonicalValue → List Text
  | .array values => elementKeys C values
  | .object entries => entryKeys C entries
  | _ => []

def elementKeys (C : RedactionCrates) : List CanonicalValue → List Text
  | [] => []
  | value :: values => keptKeys C value ++ elementKeys C values

def entryKeys (C : RedactionCrates) : List (Text × CanonicalValue) → List Text
  | [] => []
  | (key, value) :: entries =>
    key :: ((if sensitiveKey C key then [] else keptKeys C value) ++ entryKeys C entries)
end

/-- A secret is inside one of the texts. -/
def Mentioned (secret : Text) (among : List Text) : Prop := ∃ text ∈ among, secret <:+: text

/-! Every string is in the bytes, escaped. -/

theorem infix_append_left {α : Type} {a b c : List α} (inside : a <:+: b) : a <:+: b ++ c :=
  inside.trans (List.prefix_append b c).isInfix

theorem infix_append_right {α : Type} {a b c : List α} (inside : a <:+: c) : a <:+: b ++ c :=
  inside.trans (List.suffix_append b c).isInfix

theorem infix_cons {α : Type} {a c : List α} {b : α} (inside : a <:+: c) : a <:+: b :: c :=
  inside.trans (List.suffix_cons b c).isInfix

def escaped (text : Text) : Text := text.flatMap writeCharacter

theorem escaped_string (text : Text) : escaped text <:+: writeString text := by
  apply infix_cons
  exact infix_append_left List.infix_rfl

mutual
theorem escaped_value {text : Text} : (value : CanonicalValue) → text ∈ texts value →
    escaped text <:+: writeValue value
  | .null, member => absurd member List.not_mem_nil
  | .bool _, member => absurd member List.not_mem_nil
  | .integer _, member => absurd member List.not_mem_nil
  | .string value, member => by
    rw [texts] at member
    rw [List.mem_singleton.mp member, writeValue]
    exact escaped_string value
  | .array values, member => by
    rw [writeValue]
    exact infix_cons (infix_append_left (escaped_elements values member))
  | .object entries, member => by
    rw [writeValue]
    exact infix_cons (infix_append_left (escaped_entries entries member))

theorem escaped_elements {text : Text} : (values : List CanonicalValue) →
    text ∈ elementTexts values → escaped text <:+: writeElements values
  | [], member => absurd member List.not_mem_nil
  | [value], member => by
    rw [elementTexts, elementTexts, List.append_nil] at member
    exact escaped_value value member
  | value :: next :: values, member => by
    rw [elementTexts] at member
    rw [writeElements]
    · rcases List.mem_append.mp member with member | member
      · exact infix_append_left (escaped_value value member)
      · exact infix_append_right (infix_cons (escaped_elements (next :: values) member))
    · simp

theorem escaped_entries {text : Text} : (entries : List (Text × CanonicalValue)) →
    text ∈ entryTexts entries → escaped text <:+: writeEntries entries
  | [], member => absurd member List.not_mem_nil
  | [(key, value)], member => by
    rw [entryTexts, entryTexts, List.append_nil] at member
    rw [writeEntries]
    rcases List.mem_cons.mp member with rfl | member
    · exact infix_append_left (escaped_string text)
    · exact infix_append_right (infix_cons (escaped_value value member))
  | (key, value) :: next :: entries, member => by
    rw [entryTexts] at member
    rw [writeEntries]
    · rcases List.mem_cons.mp member with rfl | member
      · exact infix_append_left (escaped_string text)
      rcases List.mem_append.mp member with member | member
      · exact infix_append_right (infix_cons (infix_append_left (escaped_value value member)))
      · exact infix_append_right (infix_cons (infix_append_right
          (infix_cons (escaped_entries (next :: entries) member))))
    · simp
end

theorem escaped_plain {secret : Text} (plain : secret.all Json.isPlain = true) :
    escaped secret = secret := by
  have quoted := Json.quote_plain plain
  rw [Json.quote, ← funext writeCharacter_escape] at quoted
  exact List.append_cancel_right (List.cons.inj quoted).2

theorem escaped_within {secret text : Text} (inside : secret <:+: text) :
    escaped secret <:+: escaped text := by
  obtain ⟨before, after, rfl⟩ := inside
  exact ⟨escaped before, escaped after, by simp [escaped]⟩

theorem utf8Bytes_infix {secret text : Text} (inside : secret <:+: text) :
    utf8Bytes secret <:+: utf8Bytes text := by
  obtain ⟨before, after, rfl⟩ := inside
  exact ⟨utf8Bytes before, utf8Bytes after, by simp [utf8Bytes]⟩

theorem toBytes_utf8 (value : CanonicalValue) :
    value.toBytes.data.toList = utf8Bytes (writeValue value) := by
  rw [CanonicalValue.toBytes, String.toByteArray_ofList, List.utf8Encode, List.toList_data_toByteArray]
  rfl

/-! Every secret is among its variants. -/

theorem mem_insertBytes {bytes other : List UInt8} {variants : List (List UInt8)} :
    other ∈ insertBytes bytes variants ↔ other = bytes ∨ other ∈ variants := by
  induction variants with
  | nil => simp [insertBytes]
  | cons next rest ih =>
    rw [insertBytes]
    split
    · rename_i same
      subst same
      simp
    split
    · simp
    · simp only [List.mem_cons, ih]
      exact or_left_comm

theorem mem_insertAll {more variants : List (List UInt8)} {other : List UInt8} :
    other ∈ more.foldl (fun output bytes => insertBytes bytes output) variants ↔
      other ∈ more ∨ other ∈ variants := by
  induction more generalizing variants with
  | nil => simp
  | cons bytes more ih =>
    rw [List.foldl_cons, ih, mem_insertBytes, List.mem_cons]
    exact or_left_comm.trans (or_assoc).symm

/-- The variants are those of every secret, and no secret is short. -/
theorem knownSecretByteVariants_ok {secrets : List Text} {variants : List (List UInt8)}
    (known : knownSecretByteVariants secrets = .ok variants) :
    ∀ other, other ∈ variants ↔ ∃ secret ∈ secrets, other ∈ secretVariants secret := by
  have general : ∀ (secrets : List Text) (start : List (List UInt8)),
      secrets.foldlM (fun output secret =>
        if utf8Length secret < 4 then bail unsafeContent
        else .ok ((secretVariants secret).foldl (fun output bytes => insertBytes bytes output)
          output)) start = (.ok variants : Anyhow _) →
      ∀ other, other ∈ variants ↔ other ∈ start ∨ ∃ secret ∈ secrets, other ∈ secretVariants secret := by
    intro secrets
    induction secrets with
    | nil =>
      intro start made other
      cases made
      simp
    | cons secret secrets ih =>
      intro start made other
      rw [List.foldlM_cons] at made
      split at made
      · contradiction
      · rw [ih _ made other, mem_insertAll]
        simp only [List.mem_cons, exists_eq_or_imp]
        tauto
  intro other
  simpa using general secrets [] known other

theorem knownSecretByteVariants_long {secrets : List Text} {variants : List (List UInt8)}
    (known : knownSecretByteVariants secrets = .ok variants) :
    ∀ secret ∈ secrets, 4 ≤ utf8Length secret := by
  unfold knownSecretByteVariants at known
  generalize ([] : List (List UInt8)) = start at known
  induction secrets generalizing start with
  | nil => simp
  | cons secret secrets ih =>
    rw [List.foldlM_cons] at known
    split at known
    · contradiction
    · rename_i long
      intro other member
      rcases List.mem_cons.mp member with rfl | member
      · exact Nat.le_of_not_lt long
      · exact ih _ known other member

theorem ReceiptRedactor.long (R : ReceiptRedactor) {secret : Text} (registered : secret ∈ R.secrets) :
    secret ≠ [] := by
  obtain ⟨variants, known⟩ := R.known
  have long := knownSecretByteVariants_long known secret registered
  rintro rfl
  simp [utf8Length] at long

theorem secret_variant (secret : Text) : utf8Bytes secret ∈ secretVariants secret := by
  apply List.mem_append_left
  apply List.mem_append_left
  exact List.mem_cons_self

theorem fromUtf8_utf8Bytes (text : Text) : fromUtf8 (utf8Bytes text) = some text := by
  have bytes : (utf8Bytes text).toByteArray = (String.ofList text).toByteArray := by
    rw [String.toByteArray_ofList, List.utf8Encode]
    rfl
  have read : String.fromUTF8? (String.ofList text).toByteArray = some (String.ofList text) :=
    dif_pos (String.ofList text).isValidUTF8
  rw [fromUtf8, bytes, read, Option.map_some, String.toList_ofList]

theorem containsBytes_iff {haystack needle : List UInt8} :
    containsBytes haystack needle = true ↔ needle ≠ [] ∧ needle <:+: haystack := by
  simp only [containsBytes, Bool.and_eq_true, decide_eq_true_eq, List.any_eq_true, List.mem_tails,
    List.isPrefixOf_iff_prefix, List.infix_iff_prefix_suffix]
  exact and_congr_right fun _ => ⟨fun ⟨tail, behind, starts⟩ => ⟨tail, starts, behind⟩,
    fun ⟨tail, starts, behind⟩ => ⟨tail, behind, starts⟩⟩

theorem mark_bytes {text : Text} (some : text ≠ []) : utf8Bytes text ≠ [] := by
  intro none
  have read := fromUtf8_utf8Bytes text
  have empty : fromUtf8 [] = Option.some [] := fromUtf8_utf8Bytes []
  rw [none, empty] at read
  exact some (Option.some.inj read).symm

section Boundary
variable {C : RedactionCrates} {R : ReceiptRedactor}

/-- Bytes that pass hold no variant of a secret. -/
theorem reject_passes {bytes : List UInt8} (passes : R.rejectSensitiveBytes bytes = .ok ())
    {secret : Text} (registered : secret ∈ R.secrets) {variant : List UInt8}
    (form : variant ∈ secretVariants secret) (some : variant ≠ []) : ¬ variant <:+: bytes := by
  obtain ⟨variants, known, passes⟩ := bind_ok.mp passes
  intro inside
  have member := (knownSecretByteVariants_ok known variant).mpr ⟨secret, registered, form⟩
  have found : variants.any (containsBytes bytes) = true :=
    List.any_eq_true.mpr ⟨variant, member, containsBytes_iff.mpr ⟨some, inside⟩⟩
  rw [if_pos found] at passes
  contradiction

/-- A secret in a payload that passes has a character that JSON escapes. -/
theorem passed_escaped {value : CanonicalValue} {secret : Text}
    (passes : R.rejectSensitiveBytes value.toBytes.data.toList = .ok ())
    (registered : secret ∈ R.secrets) (some : secret ≠ [])
    (mentioned : Mentioned secret (texts value)) : secret.all Json.isPlain = false := by
  by_contra plain
  rw [Bool.not_eq_false] at plain
  obtain ⟨text, member, inside⟩ := mentioned
  have written : secret <:+: writeValue value := by
    have escaped := (escaped_within inside).trans (escaped_value value member)
    rwa [escaped_plain plain] at escaped
  have bytes := utf8Bytes_infix written
  rw [← toBytes_utf8] at bytes
  exact reject_passes passes registered (secret_variant secret) (mark_bytes some) bytes

theorem redactText_free {raw text secret : Text} {secrets : List Text} {limit : Nat}
    (redacted : redactText C raw secrets limit = .ok text) (registered : secret ∈ secrets)
    (apart : Apart REDACTED secret) : ¬ secret <:+: text := by
  unfold redactText at redacted
  split at redacted
  · contradiction
  obtain ⟨variants, known, redacted⟩ := bind_ok.mp redacted
  simp only at redacted
  split at redacted
  · contradiction
  cases redacted
  have member : secret ∈ (variants.filterMap fromUtf8).insertionSort
      fun first second => utf8Length second ≤ utf8Length first := by
    rw [List.mem_insertionSort, List.mem_filterMap]
    have form := (knownSecretByteVariants_ok known _).mpr ⟨secret, registered, secret_variant secret⟩
    exact ⟨_, form, fromUtf8_utf8Bytes secret⟩
  generalize (variants.filterMap fromUtf8).insertionSort
    (fun first second => utf8Length second ≤ utf8Length first) = ordered at member ⊢
  -- gone where its own turn comes, and never brought back
  have keeps : ∀ (patterns : List Text) (start : Text), ¬ secret <:+: start →
      ¬ secret <:+: patterns.foldl (fun output variant =>
        if variant = [] then output else replaceAll variant REDACTED output) start := by
    intro patterns
    induction patterns with
    | nil => exact fun start absent => absent
    | cons pattern patterns ih =>
      intro start absent
      rw [List.foldl_cons]
      apply ih
      by_cases none : pattern = []
      · rwa [if_pos none]
      · rw [if_neg none]
        exact replaceAll_keeps apart absent
  generalize C.redactBuiltinSecretPatterns raw = start
  induction ordered generalizing start with
  | nil => exact absurd member List.not_mem_nil
  | cons pattern patterns ih =>
    rw [List.foldl_cons]
    rcases List.mem_cons.mp member with rfl | later
    · apply keeps
      rw [if_neg (apart_some apart)]
      exact replaceAll_free apart
    · exact ih later _

theorem mentioned_append {secret : Text} {first second : List Text} :
    Mentioned secret (first ++ second) ↔ Mentioned secret first ∨ Mentioned secret second := by
  simp only [Mentioned, List.mem_append, or_and_right, exists_or]

theorem mentioned_cons {secret text : Text} {among : List Text} :
    Mentioned secret (text :: among) ↔ secret <:+: text ∨ Mentioned secret among := by
  simp [Mentioned]

theorem mentioned_nil {secret : Text} : ¬ Mentioned secret [] := by
  simp [Mentioned]

theorem mark_free {secret : Text} (apart : Apart REDACTED secret) :
    ¬ Mentioned secret (texts (.string REDACTED)) := by
  rw [texts, mentioned_cons, not_or]
  exact ⟨apart.inside, mentioned_nil⟩

mutual
/-- Redaction leaves a secret only in the object keys it keeps. -/
theorem redactValue_texts {secrets : List Text} {depth : Nat} {secret : Text}
    (registered : secret ∈ secrets) (apart : Apart REDACTED secret) :
    (value : CanonicalValue) → {redacted : CanonicalValue} →
    redactValue C secrets depth value = .ok redacted →
    (Mentioned secret (texts redacted) ↔ Mentioned secret (keptKeys C value))
  | .null, redacted, made => by
    simp only [redactValue] at made
    split at made
    · contradiction
    · cases made
      rfl
  | .bool b, redacted, made => by
    simp only [redactValue] at made
    split at made
    · contradiction
    · cases made
      rfl
  | .integer i, redacted, made => by
    simp only [redactValue] at made
    split at made
    · contradiction
    · cases made
      rfl
  | .string raw, redacted, made => by
    rw [redactValue] at made
    split at made
    · contradiction
    · obtain ⟨text, inner, whole⟩ := bind_ok.mp made
      cases whole
      simp only [texts, keptKeys, mentioned_cons]
      exact or_iff_right (redactText_free inner registered apart)
  | .array values, redacted, made => by
    rw [redactValue] at made
    split at made
    · contradiction
    split at made
    · contradiction
    · obtain ⟨values', inner, whole⟩ := bind_ok.mp made
      cases whole
      exact redactValues_texts registered apart values inner
  | .object entries, redacted, made => by
    rw [redactValue] at made
    split at made
    · contradiction
    split at made
    · contradiction
    · obtain ⟨entries', inner, whole⟩ := bind_ok.mp made
      cases whole
      exact redactEntries_texts registered apart entries inner

theorem redactValues_texts {secrets : List Text} {depth : Nat} {secret : Text}
    (registered : secret ∈ secrets) (apart : Apart REDACTED secret) :
    (values : List CanonicalValue) → {redacted : List CanonicalValue} →
    redactValues C secrets depth values = .ok redacted →
    (Mentioned secret (elementTexts redacted) ↔ Mentioned secret (elementKeys C values))
  | [], redacted, made => by
    cases made
    rfl
  | value :: values, redacted, made => by
    rw [redactValues] at made
    obtain ⟨value', head, rest⟩ := bind_ok.mp made
    obtain ⟨values', tail, whole⟩ := bind_ok.mp rest
    cases whole
    rw [elementTexts, elementKeys, mentioned_append, mentioned_append,
      redactValue_texts registered apart value head, redactValues_texts registered apart values tail]

theorem redactEntries_texts {secrets : List Text} {depth : Nat} {secret : Text}
    (registered : secret ∈ secrets) (apart : Apart REDACTED secret) :
    (entries : List (Text × CanonicalValue)) → {redacted : List (Text × CanonicalValue)} →
    redactEntries C secrets depth entries = .ok redacted →
    (Mentioned secret (entryTexts redacted) ↔ Mentioned secret (entryKeys C entries))
  | [], redacted, made => by
    cases made
    rfl
  | (key, value) :: entries, redacted, made => by
    rw [redactEntries] at made
    by_cases sensitive : sensitiveKey C key
    · rw [if_pos sensitive] at made
      obtain ⟨value', head, rest⟩ := bind_ok.mp made
      obtain ⟨entries', tail, whole⟩ := bind_ok.mp rest
      cases head
      cases whole
      have rest := redactEntries_texts registered apart entries tail
      rw [entryTexts, entryKeys, if_pos sensitive, mentioned_cons, mentioned_cons,
        mentioned_append, mentioned_append, rest, or_iff_right (mark_free apart),
        or_iff_right mentioned_nil]
    · rw [if_neg sensitive] at made
      obtain ⟨value', head, rest⟩ := bind_ok.mp made
      obtain ⟨entries', tail, whole⟩ := bind_ok.mp rest
      cases whole
      have rest := redactEntries_texts registered apart entries tail
      rw [entryTexts, entryKeys, if_neg sensitive, mentioned_cons, mentioned_cons,
        mentioned_append, mentioned_append, rest, redactValue_texts registered apart value head]
end

/-- What passes the scan mentions a secret only if the secret has a character that JSON escapes;
what is redacted mentions one only in the object keys it keeps, and a text never does. -/
theorem redaction_complete_iff (C : RedactionCrates) (N : Normalization) (R : ReceiptRedactor) :
    (∀ bytes value, parseBytes N bytes = some value → value.toBytes = bytes →
      R.rejectSensitiveBytes bytes.data.toList = .ok () →
      ((∀ secret ∈ R.secrets, ¬ Mentioned secret (texts value)) ↔
        ∀ secret ∈ R.secrets, secret.all Json.isPlain = false → ¬ Mentioned secret (texts value))) ∧
    (∀ raw value safe, parseStrictJson N raw = .ok value → R.json C N raw = .ok safe →
      ∀ secret ∈ R.secrets, Apart REDACTED secret →
        (¬ Mentioned secret (texts safe) ↔ ¬ Mentioned secret (keptKeys C value))) ∧
    ∀ raw safe, R.text C raw = .ok safe ∨ R.summary C raw = .ok safe →
      ∀ secret ∈ R.secrets, Apart REDACTED secret → ¬ secret <:+: safe := by
  refine ⟨?_, ?_, ?_⟩
  · intro bytes value _ canonical passes
    subst canonical
    refine ⟨fun clean secret registered _ => clean secret registered, ?_⟩
    intro clean secret registered mentioned
    have plain := passed_escaped passes registered (R.long registered) mentioned
    exact clean secret registered plain mentioned
  · intro raw value safe read made secret registered apart
    unfold ReceiptRedactor.json at made
    rw [read] at made
    split at made
    · contradiction
    · exact not_congr (redactValue_texts registered apart value made)
  · intro raw safe made secret registered apart
    rcases made with made | made
    · exact redactText_free made registered apart
    · exact redactText_free made registered apart

end Boundary

/-- Texts of ASCII characters, and no built-in pattern in them. -/
def asciiRedaction : RedactionCrates where
  redactBuiltinSecretPatterns raw := raw
  toLowercase c := [c.toLower]

/-- One secret, with a quotation mark in it. -/
def quotedSecret : ReceiptRedactor where
  secrets := [['a', 'b', '"', 'c']]
  some := by simp
  known := ⟨_, rfl⟩

theorem quoted_variants_absent : (secretVariants ['a', 'b', '"', 'c']).any
    (fun variant => containsBytes
      (utf8Bytes (writeValue (.object [(['k'], .string ['a', 'b', '"', 'c'])]))) variant) = false := by
  decide +kernel

/-- The secret is stored with its quotation mark escaped, and no form of it is looked for that
way; a key is not redacted at all. -/
theorem quoted_secret_passes :
    let value := CanonicalValue.object [(['k'], .string ['a', 'b', '"', 'c'])]
    let safe := CanonicalValue.object [(['a', 'b', '"', 'c'], .integer ⟨1, by decide⟩)]
    ['a', 'b', '"', 'c'] ∈ quotedSecret.secrets ∧ Apart REDACTED ['a', 'b', '"', 'c'] ∧
    (parseBytes asciiNormalization value.toBytes = some value ∧
      quotedSecret.rejectSensitiveBytes value.toBytes.data.toList = .ok () ∧
      Mentioned ['a', 'b', '"', 'c'] (texts value)) ∧
    quotedSecret.json asciiRedaction asciiNormalization
      ['{', '"', 'a', 'b', '\\', '"', 'c', '"', ':', '1', '}'] = .ok safe ∧
    Mentioned ['a', 'b', '"', 'c'] (texts safe) := by
  intro value safe
  have apart : Apart REDACTED ['a', 'b', '"', 'c'] :=
    apart_of_disjoint (by decide) (by decide) (by simp [REDACTED])
  have read : parseStrictJson asciiNormalization (writeValue value) = .ok value := rfl
  have absent : (secretVariants ['a', 'b', '"', 'c']).any
      (containsBytes value.toBytes.data.toList) = false := by
    rw [toBytes_utf8]
    exact quoted_variants_absent
  refine ⟨List.mem_singleton_self _, apart, ⟨parseBytes_toBytes read, ?_, ?_⟩, rfl, ?_⟩
  · obtain ⟨variants, known⟩ := quotedSecret.known
    have none : variants.any (containsBytes value.toBytes.data.toList) = false := by
      rw [List.any_eq_false] at absent ⊢
      intro variant member
      obtain ⟨secret, registered, form⟩ := (knownSecretByteVariants_ok known variant).mp member
      cases List.mem_singleton.mp registered
      exact absent variant form
    simp only [ReceiptRedactor.rejectSensitiveBytes, known, ok_bind, none, Bool.false_eq_true,
      if_false]
  · exact ⟨_, List.mem_cons_of_mem _ List.mem_cons_self, List.infix_rfl⟩
  · exact ⟨_, List.mem_cons_self, List.infix_rfl⟩

end CarsinOS.Receipt
