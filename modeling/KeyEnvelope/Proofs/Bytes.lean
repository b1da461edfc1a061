import KeyEnvelope.Bytes
import Mathlib.Data.List.Induction

/-!
# Byte strings as numbers

A byte string of a given length stands for a number below a power of 256, or between
half of it and its negative.
-/

namespace KeyEnvelope.Bytes

theorem toNat_append_singleton (bytes : Bytes) (byte : UInt8) :
    (bytes ++ [byte]).toNat = 256 * bytes.toNat + byte.toNat := by
  simp [toNat]

theorem toNat_lt (bytes : Bytes) : bytes.toNat < Nat.pow 256 bytes.length := by
  induction bytes using List.reverseRecOn with
  | nil => simp [toNat]
  | append_singleton bytes byte inductionHypothesis =>
    have small := byte.toNat_lt
    have scaled : Nat.pow 256 (bytes.length + 1) = Nat.pow 256 bytes.length * 256 := rfl
    rw [toNat_append_singleton, List.length_append, List.length_singleton, scaled]
    omega

theorem toInt_lt (bytes : Bytes) : 2 * bytes.toInt < Nat.pow 256 bytes.length := by
  have bound := bytes.toNat_lt
  simp only [toInt]
  split <;> omega

@[simp]
theorem length_ofNat (width n : Nat) : (ofNat width n).length = width := by
  induction width generalizing n with
  | zero => rfl
  | succ width inductionHypothesis => simp [ofNat, inductionHypothesis]

theorem toNat_ofNat {width n : Nat} (fits : n < Nat.pow 256 width) :
    (ofNat width n).toNat = n := by
  induction width generalizing n with
  | zero =>
    have zero : n = 0 := by simpa using fits
    rw [zero]
    rfl
  | succ width inductionHypothesis =>
    have scaled : Nat.pow 256 (width + 1) = Nat.pow 256 width * 256 := rfl
    have upper : n / 256 < Nat.pow 256 width := by omega
    rw [ofNat, toNat_append_singleton, inductionHypothesis upper, UInt8.toNat_ofNat']
    omega

theorem toInt_ofNat {width n : Nat} (fits : 2 * n < Nat.pow 256 width) :
    (ofNat width n).toInt = n := by
  have number : (ofNat width n).toNat = n := toNat_ofNat (by omega)
  simp only [toInt, number, length_ofNat, fits, if_true]

/-- A byte string is written as the number that it stands for. -/
theorem ofNat_toNat (bytes : Bytes) : ofNat bytes.length bytes.toNat = bytes := by
  induction bytes using List.reverseRecOn with
  | nil => rfl
  | append_singleton bytes byte inductionHypothesis =>
    have small := byte.toNat_lt
    have upper : (256 * Bytes.toNat bytes + byte.toNat) / 256 = Bytes.toNat bytes := by omega
    have lower : UInt8.ofNat (256 * Bytes.toNat bytes + byte.toNat) = byte := by
      apply UInt8.toNat_inj.mp
      rw [UInt8.toNat_ofNat']
      omega
    rw [List.length_append, List.length_singleton, ofNat, toNat_append_singleton, upper, lower,
      inductionHypothesis]

theorem toNat_of_toInt_nonneg {bytes : Bytes} (nonneg : 0 ≤ bytes.toInt) :
    (bytes.toNat : Int) = bytes.toInt := by
  have bound := bytes.toNat_lt
  simp only [toInt] at nonneg ⊢
  split
  · rfl
  · rename_i large
    rw [if_neg large] at nonneg
    omega

theorem complement_ne (byte : UInt8) : ~~~byte ≠ byte := by
  intro same
  have number := congrArg UInt8.toNat same
  rw [UInt8.toNat_not, UInt8.size] at number
  omega

theorem modify_complement_ne {bytes : Bytes} {index : Nat} (within : index < bytes.length) :
    bytes.modify index (~~~ ·) ≠ bytes := by
  intro same
  have entry := congrArg (·[index]?) same
  simp only [List.getElem?_modify_eq, List.getElem?_eq_getElem within, Option.map_eq_map,
    Option.map_some, Option.some.injEq] at entry
  exact complement_ne _ entry

end KeyEnvelope.Bytes
