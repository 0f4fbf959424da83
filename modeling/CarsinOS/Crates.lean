import CarsinOS.Number
import CarsinOS.Lib.JsonUnique
import CarsinOS.Lib.Sha256Nat

/-! What the crates of this repository take from third-party crates. -/
namespace CarsinOS
open CarsinOS.Lib

/-- Sixty-four hexadecimal digits without capital letters. -/
abbrev Sha256Digest :=
  { hex : Text // utf8Length hex = 64 ∧ hex.all isAsciiHexdigit = true ∧
    hex.map Char.toLower = hex }

/-- What is taken from third-party crates: the digest of bytes and the JSON text
of a string. -/
structure Crates where
  normalization : Normalization
  sha256 : List UInt8 → Sha256Digest
  jsonString : Text → Text
  jsonString_compact : ∀ s, jsonString s = Json.quote s

theorem hexDigit_digest (n : Nat) : (Sha256.hexDigit n).utf8Size = 1 ∧
    isAsciiHexdigit (Sha256.hexDigit n) = true ∧
    (Sha256.hexDigit n).toLower = Sha256.hexDigit n := by
  have below : n % 16 < 16 := Nat.mod_lt n (by decide)
  unfold Sha256.hexDigit
  generalize n % 16 = m at below
  revert m
  decide

theorem hex_digest (bytes : List UInt8) : utf8Length (Sha256.hex bytes) = 2 * bytes.length ∧
    (Sha256.hex bytes).all isAsciiHexdigit = true ∧
    (Sha256.hex bytes).map Char.toLower = Sha256.hex bytes := by
  induction bytes with
  | nil => exact ⟨rfl, rfl, rfl⟩
  | cons byte bytes ih =>
    simp only [Sha256.hex, utf8Length] at ih
    simp [Sha256.hex, utf8Length, hexDigit_digest, ih]
    omega

/-- The crates on texts that have only one spelling. -/
def asciiCrates : Crates where
  normalization := asciiNormalization
  sha256 bytes :=
    let digest := Sha256.digest bytes
    ⟨Sha256.hex digest, by
      simpa only [digest, Sha256.digest_length] using hex_digest digest⟩
  jsonString := Json.quote
  jsonString_compact _ := rfl

/-- The same crates, with a digest the kernel computes fast. -/
def fastCrates : Crates where
  normalization := asciiNormalization
  sha256 bytes := ⟨Sha256.hex (Sha256.digestNat bytes), by
    rw [← Sha256.digest_nat]
    exact (asciiCrates.sha256 bytes).property⟩
  jsonString := Json.quote
  jsonString_compact _ := rfl

theorem asciiCrates_fast : asciiCrates = fastCrates := by
  have digests : asciiCrates.sha256 = fastCrates.sha256 := by
    funext bytes
    exact Subtype.ext (congrArg Sha256.hex (Sha256.digest_nat bytes))
  unfold asciiCrates fastCrates
  congr

/-- What is taken from `serde_json`: the tree of a text that `from_slice` visits, and the tree of
the `Value` that `from_str` makes of a text, with its numbers as `to_string` shows them. -/
structure SerdeJson where
  read : Text → Option Json
  value : Text → Option Json
  /-- Containers may be nested 127 deep. -/
  read_print : ∀ t, t.Everywhere Spelled → t.depth ≤ 127 → read t.print = some t
  read_only : ∀ t u, t.Everywhere Spelled → read t.print = some u → u = t
  value_spelled : ∀ s t, value s = some t → t.Everywhere Spelled

open Classical in
/-- The tree whose compact text this is. -/
noncomputable def ofPrint (s : Text) : Option Json :=
  if h : ∃ t : Json, t.Everywhere Spelled ∧ s = t.print then some h.choose else none

theorem ofPrint_some {s : Text} {t : Json} :
    ofPrint s = some t ↔ t.Everywhere Spelled ∧ s = t.print := by
  unfold ofPrint
  split
  · rename_i known
    obtain ⟨spelled, printed⟩ := known.choose_spec
    constructor
    · intro same
      cases same
      exact ⟨spelled, printed⟩
    · rintro ⟨other, same⟩
      rw [Json.print_injective spelled other (printed.symm.trans same)]
  · rename_i unknown
    simp only [reduceCtorEq, false_iff]
    exact fun known => unknown ⟨t, known⟩

/-- The crate on texts that were printed. -/
noncomputable def printedJson : SerdeJson where
  read := ofPrint
  value := ofPrint
  read_print _ spelled _ := ofPrint_some.mpr ⟨spelled, rfl⟩
  read_only t u spelled known := by
    obtain ⟨other, same⟩ := ofPrint_some.mp known
    exact (Json.print_injective spelled other same).symm
  value_spelled _ _ known := (ofPrint_some.mp known).1

end CarsinOS
