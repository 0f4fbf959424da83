import Mathlib.Data.List.Forall2

/-! The part of the Rust standard library the crates use on strings and errors. -/
namespace CarsinOS

/-- An error of the `anyhow` crate: the newest context first. -/
abbrev Failure := List String

abbrev Anyhow (α : Type) := Except Failure α

def bail {α : Type} (message : String) : Anyhow α := .error [message]

def withContext {α : Type} (message : String) : Anyhow α → Anyhow α
  | .ok a => .ok a
  | .error e => .error (message :: e)

theorem bind_ok {ε α β : Type} {x : Except ε α} {f : α → Except ε β} {b : β} :
    (x >>= f) = .ok b ↔ ∃ a, x = .ok a ∧ f a = .ok b := by
  cases x with
  | error e => simp [bind, Except.bind]
  | ok a => simp [bind, Except.bind]

@[simp] theorem ok_bind {ε α β : Type} {a : α} {f : α → Except ε β} :
    ((.ok a : Except ε α) >>= f) = f a := rfl

theorem forall₂_value {α β : Type} {R : α → β → Prop} {as : List α} {bs : List β}
    (related : List.Forall₂ R as bs) {a : α} (member : a ∈ as) : ∃ b ∈ bs, R a b := by
  induction related with
  | nil => cases member
  | cons head rest ih =>
    rcases List.mem_cons.mp member with rfl | member
    · exact ⟨_, List.mem_cons_self, head⟩
    · obtain ⟨b, inside, here⟩ := ih member
      exact ⟨b, List.mem_cons_of_mem _ inside, here⟩

/-- A list is mapped when each of its items is. -/
theorem mapM_ok {ε α β : Type} {f : α → Except ε β} {as : List α} {bs : List β} :
    as.mapM f = .ok bs ↔ List.Forall₂ (fun a b => f a = .ok b) as bs := by
  induction as generalizing bs with
  | nil =>
    simp only [List.mapM_nil, List.forall₂_nil_left_iff]
    exact ⟨fun done => (Except.ok.inj done).symm, fun empty => congrArg Except.ok empty.symm⟩
  | cons a as ih =>
    simp only [List.mapM_cons, bind_ok, List.forall₂_cons_left_iff]
    constructor
    · rintro ⟨b, head, rest, tail, whole⟩
      cases whole
      exact ⟨b, rest, head, ih.mp tail, rfl⟩
    · rintro ⟨b, rest, head, tail, rfl⟩
      exact ⟨b, head, rest, ih.mpr tail, rfl⟩

theorem mapM_determined {ε α β : Type} {f : α → Except ε β} {accepts : α → Prop} {g : α → β}
    (determined : ∀ a b, f a = .ok b ↔ accepts a ∧ b = g a) {as : List α} {bs : List β} :
    as.mapM f = .ok bs ↔ (∀ a ∈ as, accepts a) ∧ bs = as.map g := by
  rw [mapM_ok]
  induction as generalizing bs with
  | nil => simp
  | cons a as ih =>
    rw [List.forall₂_cons_left_iff, List.forall_mem_cons]
    constructor
    · rintro ⟨b, rest, head, tail, rfl⟩
      obtain ⟨here, rfl⟩ := (determined a b).mp head
      obtain ⟨inside, rfl⟩ := ih.mp tail
      exact ⟨⟨here, inside⟩, rfl⟩
    · rintro ⟨⟨here, inside⟩, rfl⟩
      exact ⟨g a, as.map g, (determined a (g a)).mpr ⟨here, rfl⟩, ih.mpr ⟨inside, rfl⟩, rfl⟩

@[simp] theorem bail_bind {α β : Type} {message : String} {f : α → Anyhow β} :
    (bail message >>= f) = bail message := rfl

@[simp] theorem withContext_ok {α : Type} {message : String} {x : Anyhow α} {a : α} :
    withContext message x = .ok a ↔ x = .ok a := by
  cases x <;> simp [withContext]

@[simp] theorem bail_ne_ok {α : Type} {message : String} {a : α} :
    (bail message : Anyhow α) ≠ .ok a := by
  simp [bail]

/-- The Unicode `White_Space` property, as `char::is_whitespace` reads it. -/
def isWhitespace (c : Char) : Bool :=
  let n := c.toNat
  (9 ≤ n && n ≤ 13) || n = 32 || n = 0x85 || n = 0xA0 || n = 0x1680 ||
    (0x2000 ≤ n && n ≤ 0x200A) || n = 0x2028 || n = 0x2029 || n = 0x202F || n = 0x205F ||
    n = 0x3000

/-- `str::trim`. -/
def trimChars (cs : List Char) : List Char :=
  ((cs.dropWhile isWhitespace).reverse.dropWhile isWhitespace).reverse

def trim (s : String) : String := String.ofList (trimChars s.toList)

/-- `str::to_ascii_lowercase`; `Char.toLower` only moves `A` to `Z`. -/
def toAsciiLowercase (s : String) : String := String.ofList (s.toList.map Char.toLower)

def isAsciiHexdigit (c : Char) : Bool :=
  ('0' ≤ c && c ≤ '9') || ('a' ≤ c && c ≤ 'f') || ('A' ≤ c && c ≤ 'F')

theorem char_le {a b : Char} : a ≤ b ↔ a.toNat ≤ b.toNat := by
  rw [Char.le_def, UInt32.le_iff_toNat_le]
  rfl

theorem hexdigit_range {c : Char} (hex : isAsciiHexdigit c = true) :
    48 ≤ c.toNat ∧ c.toNat ≤ 102 := by
  simp only [isAsciiHexdigit, Bool.or_eq_true, Bool.and_eq_true, decide_eq_true_eq, char_le] at hex
  obtain (⟨low, high⟩ | ⟨low, high⟩) | ⟨low, high⟩ := hex
  · exact ⟨low, Nat.le_trans high (by decide)⟩
  · exact ⟨Nat.le_trans (by decide) low, high⟩
  · exact ⟨Nat.le_trans (by decide) low, Nat.le_trans high (by decide)⟩

theorem hexdigit_visible {c : Char} (hex : isAsciiHexdigit c = true) : isWhitespace c = false := by
  have range := hexdigit_range hex
  simp only [isWhitespace, Bool.or_eq_false_iff, Bool.and_eq_false_iff, decide_eq_false_iff_not]
  omega

/-- The text neither starts nor ends in white space. -/
def Trimmed (cs : List Char) : Prop :=
  (∀ c ∈ cs.head?, isWhitespace c = false) ∧ ∀ c ∈ cs.getLast?, isWhitespace c = false

theorem trimmed_of_visible {cs : List Char} (visible : ∀ c ∈ cs, isWhitespace c = false) :
    Trimmed cs :=
  ⟨fun c first => visible c (List.mem_of_mem_head? first),
    fun c last => visible c (List.mem_of_mem_getLast? last)⟩

theorem dropWhile_eq_self {p : Char → Bool} {cs : List Char}
    (h : ∀ c ∈ cs.head?, p c = false) : cs.dropWhile p = cs := by
  cases cs with
  | nil => rfl
  | cons c cs => simp [h c rfl]

theorem dropWhile_head {p : Char → Bool} (cs : List Char) :
    ∀ c ∈ (cs.dropWhile p).head?, p c = false := by
  intro c hc
  have h := List.head?_dropWhile_not p cs
  rw [Option.mem_def.mp hc] at h
  exact h

theorem trimChars_prefix (cs : List Char) : trimChars cs <+: cs.dropWhile isWhitespace := by
  have h := List.dropWhile_suffix isWhitespace (l := (cs.dropWhile isWhitespace).reverse)
  simpa [trimChars] using List.reverse_prefix.mpr h

theorem trimmed_trimChars (cs : List Char) : Trimmed (trimChars cs) := by
  constructor
  · intro c hc
    obtain ⟨rest, shape⟩ := trimChars_prefix cs
    apply dropWhile_head cs c
    rw [← shape, List.head?_append, hc]
    rfl
  · intro c hc
    rw [trimChars, List.getLast?_reverse] at hc
    exact dropWhile_head _ c hc

theorem trimChars_of_trimmed {cs : List Char} (h : Trimmed cs) : trimChars cs = cs := by
  have back : ∀ c ∈ cs.reverse.head?, isWhitespace c = false := by
    simpa [List.head?_reverse] using h.2
  rw [trimChars, dropWhile_eq_self h.1, dropWhile_eq_self back, List.reverse_reverse]

theorem mem_dropWhile {p : Char → Bool} {cs : List Char} {c : Char} (member : c ∈ cs)
    (kept : p c = false) : c ∈ cs.dropWhile p := by
  induction cs with
  | nil => exact member
  | cons d cs ih =>
    rw [List.dropWhile_cons]
    split
    · rename_i dropped
      rcases List.mem_cons.mp member with rfl | member
      · simp [kept] at dropped
      · exact ih member
    · exact member

theorem mem_trimChars {cs : List Char} {c : Char} (member : c ∈ cs)
    (visible : isWhitespace c = false) : c ∈ trimChars cs := by
  have front := mem_dropWhile member visible
  exact List.mem_reverse.mpr (mem_dropWhile (List.mem_reverse.mpr front) visible)

/-- A Rust string: its sequence of scalar values. -/
abbrev Text := List Char

/-- Pairs of texts compare by one named instance, in every module alike. -/
instance lawfulPairs : LawfulBEq (Text × Text) := inferInstance

/-- Every character is below `0x80`. -/
def Ascii (cs : Text) : Prop := ∀ c ∈ cs, c.toNat < 128

instance (cs : Text) : Decidable (Ascii cs) := List.decidableBAll _ cs

/-- Normalization form C, from a third-party crate. No white space starts or ends a text only
because the text was normalized. -/
structure Normalization where
  nfc : Text → Text
  idempotent : ∀ s, nfc (nfc s) = nfc s
  trimmed : ∀ s, Trimmed s → Trimmed (nfc s)
  ascii : ∀ s, Ascii s → nfc s = s

/-- The normalization of texts that have only one spelling, such as ASCII. -/
def asciiNormalization : Normalization where
  nfc := id
  idempotent _ := rfl
  trimmed _ trimmed := trimmed
  ascii _ _ := rfl

end CarsinOS
