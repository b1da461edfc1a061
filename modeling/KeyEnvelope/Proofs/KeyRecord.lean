import KeyEnvelope.KeyRecord
import KeyEnvelope.Proofs.Bytes
import KeyEnvelope.Proofs.Checks

/-!
# What a key record holds

A record is decoded in two steps, its header first and then as much as the header
announces.
-/

namespace KeyEnvelope.KeyRecord

variable {bytes key rest header part : Bytes} {length : Nat}

theorem checkLength_eq_ok_iff : checkLength key = .ok () ↔ key.length < 2147483648 := by
  unfold checkLength
  split <;> simp <;> omega

theorem decode_eq_ok_iff :
    decode bytes = .ok (key, rest) ↔
      ∃ length, keyLength (bytes.take headerSize) = .ok length ∧
        checkKey length ((bytes.drop headerSize).take length) = .ok key ∧
        (bytes.drop headerSize).drop length = rest := by
  simp only [decode, Checks.bind_eq_ok_iff, Checks.pure_eq_ok, Except.ok.injEq, Prod.mk.injEq]
  constructor
  · rintro ⟨length, announced, found, checked, rfl, remaining⟩
    exact ⟨length, announced, checked, remaining⟩
  · rintro ⟨length, announced, checked, remaining⟩
    exact ⟨length, announced, key, checked, rfl, remaining⟩

theorem length_lt_of_keyLength (announced : keyLength header = .ok length) :
    length < 2147483648 := by
  unfold keyLength at announced
  split at announced
  · simp at announced
  · split at announced
    · simp at announced
    · rename_i wellFormed _
      have size : header.length = 4 := not_not.mp wellFormed
      have bound := Bytes.toInt_lt header
      have range : Nat.pow 256 header.length = 4294967296 := by rw [size]
      simp only [range, Except.ok.injEq] at bound announced
      omega

@[simp]
theorem length_header (key : Bytes) : (KeyRecord.header key).length = headerSize :=
  Bytes.length_ofNat headerSize key.length

@[simp]
theorem length_encode (key : Bytes) : (encode key).length = headerSize + key.length := by
  simp [encode]

theorem keyLength_header (nonempty : key ≠ []) (fitting : key.length < 2147483648) :
    keyLength (KeyRecord.header key) = .ok key.length := by
  have number : (KeyRecord.header key).toInt = key.length :=
    Bytes.toInt_ofNat (show 2 * key.length < 4294967296 by omega)
  have positive : ¬(key.length : Int) ≤ 0 := by
    have := List.length_pos_iff.mpr nonempty
    omega
  simp only [keyLength, length_header, number, positive, ne_eq, not_true_eq_false, if_false,
    Int.toNat_natCast]

/-- A record is decoded to the key that it was made for, whatever follows it. -/
theorem decode_encode (nonempty : key ≠ []) (fitting : key.length < 2147483648) (rest : Bytes) :
    decode (encode key ++ rest) = .ok (key, rest) := by
  have whole : encode key ++ rest = KeyRecord.header key ++ (key ++ rest) := by simp [encode]
  have front : (KeyRecord.header key ++ (key ++ rest)).take headerSize = KeyRecord.header key :=
    List.take_left' (length_header key)
  have back : (KeyRecord.header key ++ (key ++ rest)).drop headerSize = key ++ rest :=
    List.drop_left' (length_header key)
  rw [whole, decode_eq_ok_iff, front, back]
  exact ⟨key.length, keyLength_header nonempty fitting, by simp [checkKey], by simp⟩

theorem keyLength_eq_ok_iff :
    keyLength header = .ok length ↔
      header.length = headerSize ∧ 0 < header.toInt ∧ header.toInt = length := by
  unfold keyLength
  by_cases short : header.length = headerSize
  · rw [if_neg (not_not.mpr short)]
    by_cases bad : header.toInt ≤ 0
    · rw [if_pos bad]
      simp
      omega
    · rw [if_neg bad, Except.ok.injEq]
      omega
  · rw [if_pos short]
    simp [short]

/-- What is decoded is what comes first, and it is a record of the key. -/
theorem eq_encode_of_decode (decoded : decode bytes = .ok (key, rest)) :
    key ≠ [] ∧ key.length < 2147483648 ∧ bytes = encode key ++ rest := by
  obtain ⟨length, announced, checked, remaining⟩ := decode_eq_ok_iff.mp decoded
  have fitting := length_lt_of_keyLength announced
  obtain ⟨size, positive, number⟩ := keyLength_eq_ok_iff.mp announced
  unfold checkKey at checked
  split at checked
  · cases checked
  · rename_i whole
    have found := not_not.mp whole
    obtain rfl := Except.ok.inj checked
    have value := Bytes.toNat_of_toInt_nonneg (Int.le_of_lt positive)
    have written : KeyRecord.header ((bytes.drop headerSize).take length) =
        bytes.take headerSize := by
      have again := Bytes.ofNat_toNat (bytes.take headerSize)
      rwa [size, show Bytes.toNat (bytes.take headerSize) = length by omega, ← found] at again
    refine ⟨?_, by omega, ?_⟩
    · rintro empty
      rw [empty, List.length_nil] at found
      omega
    · rw [encode, written, ← remaining, List.append_assoc, List.take_append_drop,
        List.take_append_drop]

/-- The length that the header of a record announces. -/
def announced (bytes : Bytes) : Int :=
  Bytes.toInt (bytes.take headerSize)

/-- There is a record at the beginning, all of it. -/
structure Complete (bytes : Bytes) : Prop where
  header : headerSize ≤ bytes.length
  positive : 0 < announced bytes
  whole : headerSize + announced bytes ≤ bytes.length

theorem decode_of_complete (complete : Complete bytes) :
    decode bytes = .ok ((bytes.drop headerSize).take (announced bytes).toNat,
      bytes.drop (headerSize + (announced bytes).toNat)) := by
  obtain ⟨long, positive, whole⟩ := complete
  have size : (bytes.take headerSize).length = headerSize := List.length_take_of_le long
  have found : ((bytes.drop headerSize).take (announced bytes).toNat).length =
      (announced bytes).toNat := by
    rw [List.length_take_of_le]
    rw [List.length_drop]
    omega
  refine decode_eq_ok_iff.mpr ⟨(announced bytes).toNat, ?_, ?_, List.drop_drop⟩
  · exact keyLength_eq_ok_iff.mpr
      ⟨size, positive, (Int.toNat_of_nonneg (Int.le_of_lt positive)).symm⟩
  · simp [checkKey, found]

/-- What is taken for a record is the one that its key has. -/
theorem encode_of_complete (complete : Complete bytes) :
    let key := (bytes.drop headerSize).take (announced bytes).toNat
    key.length < 2147483648 ∧
      encode key = bytes.take (headerSize + (announced bytes).toNat) := by
  intro key
  obtain ⟨-, fitting, whole⟩ := eq_encode_of_decode (decode_of_complete complete)
  refine ⟨fitting, ?_⟩
  have again := List.take_append_drop (headerSize + (announced bytes).toNat) bytes
  exact List.append_cancel_right (whole.symm.trans again.symm)

/-- Only a record that is there as a whole is decoded. -/
theorem complete_of_decode (decoded : decode bytes = .ok (key, rest)) : Complete bytes := by
  obtain ⟨nonempty, fitting, rfl⟩ := eq_encode_of_decode decoded
  have front : (encode key ++ rest).take headerSize = KeyRecord.header key := by
    rw [encode, List.append_assoc]
    exact List.take_left' (length_header key)
  obtain ⟨-, positive, number⟩ := keyLength_eq_ok_iff.mp (keyLength_header nonempty fitting)
  have announces : announced (encode key ++ rest) = key.length := by rw [announced, front, number]
  refine ⟨?_, by omega, ?_⟩
  · simp only [List.length_append, length_encode]
    omega
  · simp only [announces, List.length_append, length_encode]
    omega

instance : Decidable (Complete bytes) :=
  decidable_of_iff (headerSize ≤ bytes.length ∧ 0 < announced bytes ∧
    headerSize + announced bytes ≤ bytes.length)
    ⟨fun ⟨header, positive, whole⟩ => ⟨header, positive, whole⟩,
      fun ⟨header, positive, whole⟩ => ⟨header, positive, whole⟩⟩

/-- What is not complete is not decoded. -/
theorem decode_of_not_complete (incomplete : ¬Complete bytes) :
    ∃ issue, decode bytes = .error issue := by
  cases decoded : decode bytes with
  | error issue => exact ⟨issue, rfl⟩
  | ok found => exact absurd (complete_of_decode decoded) incomplete

/-- What was not written to its end is no record. -/
theorem not_decode_of_proper_prefix (nonempty : key ≠ []) (fitting : key.length < 2147483648)
    (begins : part <+: encode key) (proper : part ≠ encode key) :
    ∃ issue, decode part = .error issue := by
  obtain ⟨missing, whole⟩ := begins
  cases decoded : decode part with
  | error issue => exact ⟨issue, rfl⟩
  | ok found =>
    obtain ⟨first, later⟩ := found
    obtain ⟨firstNonempty, firstFitting, rfl⟩ := eq_encode_of_decode decoded
    have same := decode_encode nonempty fitting []
    rw [List.append_nil, ← whole, List.append_assoc,
      decode_encode firstNonempty firstFitting] at same
    have nothing : later ++ missing = [] := congrArg Prod.snd (Except.ok.inj same)
    obtain ⟨-, rfl⟩ := List.append_eq_nil_iff.mp nothing
    rw [List.append_nil] at whole
    exact absurd whole proper

end KeyEnvelope.KeyRecord
