import CarsinOS.Lib.Bytes

/-! A file of frames: the length of a payload, the payload and a checksum of it. A file that ends
inside a frame is torn; anything else that is not a frame is damage. -/
namespace CarsinOS.Lib

/-- How payloads are framed: their checksum and the largest length. -/
structure Framing where
  checksum : List UInt8 → List UInt8
  width : Nat
  checksum_length : ∀ payload, (checksum payload).length = width
  limit : Nat
  limit_fits : limit < 256 ^ 4

namespace Framing
variable (F : Framing)

def frame (payload : List UInt8) : List UInt8 :=
  bigEndian payload.length 4 ++ payload ++ F.checksum payload

/-- What a file starts with. -/
inductive Next where
  | done
  | torn
  | tooLong
  | badChecksum
  | payload (payload rest : List UInt8)

def next (bytes : List UInt8) : Next :=
  if bytes = [] then .done
  else if bytes.length < 4 then .torn
  else
    let length := fromBigEndian (bytes.take 4)
    let bytes := bytes.drop 4
    if length > F.limit then .tooLong
    else if bytes.length < length + F.width then .torn
    else
      let payload := bytes.take length
      let bytes := bytes.drop length
      if F.checksum payload ≠ bytes.take F.width then .badChecksum
      else .payload payload (bytes.drop F.width)

variable {F}

@[simp] theorem frame_length (payload : List UInt8) :
    (F.frame payload).length = 4 + payload.length + F.width := by
  simp [frame, F.checksum_length, Nat.add_assoc]

theorem frame_ne_nil (payload : List UInt8) : F.frame payload ≠ [] := by
  intro empty
  have length := F.frame_length payload
  rw [empty] at length
  simp at length
  omega

theorem next_rest_length {bytes payload rest : List UInt8}
    (read : F.next bytes = .payload payload rest) : rest.length < bytes.length := by
  unfold next at read
  split at read
  · contradiction
  split at read
  · contradiction
  simp only at read
  split at read
  · contradiction
  split at read
  · contradiction
  split at read
  · contradiction
  · cases read
    simp only [List.length_drop]
    omega

/-- A whole frame is read back, whatever follows it. -/
theorem next_frame {payload rest : List UInt8} (short : payload.length ≤ F.limit) :
    F.next (F.frame payload ++ rest) = .payload payload rest := by
  have fits : payload.length < 256 ^ 4 := Nat.lt_of_le_of_lt short F.limit_fits
  have header : fromBigEndian ((F.frame payload ++ rest).take 4) = payload.length := by
    rw [frame, List.append_assoc, List.append_assoc, List.take_left' (bigEndian_length _ _),
      fromBigEndian_bigEndian fits]
  have body : (F.frame payload ++ rest).drop 4 = payload ++ (F.checksum payload ++ rest) := by
    rw [frame, List.append_assoc, List.append_assoc, List.drop_left' (bigEndian_length _ _)]
  have some : F.frame payload ++ rest ≠ [] := by simp [frame_ne_nil]
  have long : ¬ (F.frame payload ++ rest).length < 4 := by
    simp only [List.length_append, frame_length]
    omega
  have present : ¬ (payload ++ (F.checksum payload ++ rest)).length < payload.length + F.width := by
    simp only [List.length_append, F.checksum_length]
    omega
  unfold next
  simp only [if_neg some, if_neg long, header, body, if_neg (Nat.not_lt.mpr short), if_neg present,
    List.take_left, List.drop_left]
  rw [List.take_left' (F.checksum_length payload), List.drop_left' (F.checksum_length payload)]
  simp

/-- A file that ends inside its first frame is torn, or empty. -/
theorem next_torn {payload tail : List UInt8} (short : payload.length ≤ F.limit)
    (part : tail <+: F.frame payload) (proper : tail.length < (F.frame payload).length) :
    tail = [] ∨ F.next tail = .torn := by
  by_cases empty : tail = []
  · exact .inl empty
  · right
    unfold next
    rw [if_neg empty]
    split
    · rfl
    · rename_i long
      have fits : payload.length < 256 ^ 4 := Nat.lt_of_le_of_lt short F.limit_fits
      have same : tail.take 4 = bigEndian payload.length 4 := by
        have whole := List.prefix_iff_eq_take.mp part
        rw [whole, List.take_take, Nat.min_eq_left (by omega), frame, List.append_assoc,
          List.take_left' (bigEndian_length _ _)]
      have missing : (tail.drop 4).length < payload.length + F.width := by
        rw [frame_length] at proper
        rw [List.length_drop]
        omega
      simp only [same, fromBigEndian_bigEndian fits, if_neg (Nat.not_lt.mpr short), if_pos missing]

end Framing
end CarsinOS.Lib
