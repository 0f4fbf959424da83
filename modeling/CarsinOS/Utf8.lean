import CarsinOS.Number
import CarsinOS.Lib.LengthPrefix

/-! Texts as bytes, and the bytes of the fields a digest is taken of. -/
namespace CarsinOS
open CarsinOS.Lib

/-- A text is known by its bytes. -/
theorem utf8Bytes_injective : Function.Injective utf8Bytes := by
  intro first second same
  have encodings : first.utf8Encode = second.utf8Encode := by
    unfold List.utf8Encode
    exact congrArg List.toByteArray same
  have decoded := congrArg ByteArray.utf8Decode? encodings
  rw [List.utf8Decode?_utf8Encode, List.utf8Decode?_utf8Encode] at decoded
  exact congrArg Array.toList (Option.some.inj decoded)

theorem utf8Bytes_length (text : List Char) : (utf8Bytes text).length = utf8Length text := by
  simp only [utf8Bytes, utf8Length, List.length_flatMap, String.length_utf8EncodeChar]

/-- The length of a slice in memory is a 64-bit number. -/
def InMemory (text : List Char) : Prop := (utf8Bytes text).length < 256 ^ 8

theorem inMemory_of_length {text : List Char} (short : utf8Length text ≤ 4096) :
    InMemory text := by
  have size := utf8Bytes_length text
  unfold InMemory
  omega

/-- A text behind its length ends where the length says. -/
theorem text_append {a b : List Char} {rest other : List UInt8} (short : InMemory a)
    (alsoShort : InMemory b)
    (same : lengthPrefixed (utf8Bytes a) ++ rest = lengthPrefixed (utf8Bytes b) ++ other) :
    a = b ∧ rest = other := by
  obtain ⟨bytes, rests⟩ := lengthPrefixed_append short alsoShort same
  exact ⟨utf8Bytes_injective bytes, rests⟩

theorem bigEndian_append {m n width : Nat} {rest other : List UInt8} (small : m < 256 ^ width)
    (alsoSmall : n < 256 ^ width) (same : bigEndian m width ++ rest = bigEndian n width ++ other) :
    m = n ∧ rest = other := by
  obtain ⟨digits, rests⟩ := List.append_inj same (by simp)
  have numbers := congrArg fromBigEndian digits
  rw [fromBigEndian_bigEndian small, fromBigEndian_bigEndian alsoSmall] at numbers
  exact ⟨numbers, rests⟩

end CarsinOS
