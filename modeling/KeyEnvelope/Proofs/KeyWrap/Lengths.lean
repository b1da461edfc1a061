import KeyEnvelope.Proofs.KeyWrap.Wrapping

/-!
# What the lengths of keys decide

Whether a key is wrapped, why not if it is not, and how long it is when it is wrapped: all
that depends on how long the two keys are, not on their bytes.
-/

namespace KeyEnvelope.KeyWrap

open Aes (Half)

variable {kek key : Bytes}

theorem cipher?_eq_none (kekLength : ¬IsKekLength kek.length) : cipher? kek = none := by
  cases found : cipher? kek with
  | none => rfl
  | some cipher => exact absurd (isKekLength_of_cipher? found) kekLength

/-- What comes of wrapping in the plain mode, as far as lengths go. -/
def Plain.outcomeOf (kekLength keyLength : Nat) : Except Refusal Nat :=
  if ¬IsKekLength kekLength then .error .kekLength
  else if keyLength < 16 then .error .keyTooShort
  else if keyLength % 8 ≠ 0 then .error .keyNotWhole
  else .ok (keyLength + 8)

theorem Plain.wrap_map_length :
    (wrap kek key).map List.length = outcomeOf kek.length key.length := by
  unfold outcomeOf
  by_cases kekLength : IsKekLength kek.length
  · rw [if_neg (not_not.mpr kekLength)]
    by_cases short : key.length < 16
    · obtain ⟨cipher, found⟩ := exists_cipher? kekLength
      simp only [wrap, found, if_pos short]
      rfl
    · rw [if_neg short]
      by_cases whole : key.length % 8 = 0
      · obtain ⟨wrapped, wraps, length⟩ := exists_wrap kekLength (Nat.not_lt.mp short) whole
        rw [if_neg (not_not.mpr whole), wraps, ← length]
        rfl
      · obtain ⟨cipher, found⟩ := exists_cipher? kekLength
        have broken : Half.split? key = none := by
          cases split : Half.split? key with
          | none => rfl
          | some halves =>
            have count := Half.length_of_split? split
            omega
        simp only [wrap, found, if_neg short, broken, if_pos whole]
        rfl
  · rw [if_pos kekLength, wrap, cipher?_eq_none kekLength]
    rfl

/-- What comes of wrapping in the padded mode, as far as lengths go. -/
def Padded.outcomeOf (kekLength keyLength : Nat) : Except Refusal Nat :=
  if ¬IsKekLength kekLength then .error .kekLength
  else if lengthLimit < keyLength then .error .keyTooLong
  else .ok (8 * ((keyLength + 7) / 8) + 8)

theorem Padded.wrap_map_length :
    (wrap kek key).map List.length = outcomeOf kek.length key.length := by
  unfold outcomeOf
  by_cases kekLength : IsKekLength kek.length
  · rw [if_neg (not_not.mpr kekLength)]
    by_cases long : lengthLimit < key.length
    · obtain ⟨cipher, found⟩ := exists_cipher? kekLength
      simp only [wrap, found, if_pos long]
      rfl
    · obtain ⟨wrapped, wraps, length⟩ := exists_wrap kekLength (Nat.not_lt.mp long)
      rw [if_neg long, wraps, ← length]
      rfl
  · rw [if_pos kekLength, wrap, cipher?_eq_none kekLength]
    rfl

def Mode.outcomeOf : Mode → (kekLength keyLength : Nat) → Except Refusal Nat
  | plain => Plain.outcomeOf
  | padded => Padded.outcomeOf

theorem Mode.wrap_map_length (mode : Mode) :
    (mode.wrap kek key).map List.length = mode.outcomeOf kek.length key.length := by
  cases mode with
  | plain => exact Plain.wrap_map_length
  | padded => exact Padded.wrap_map_length

theorem Registry.wrap_map_length_congr (registry : Registry) (algorithm descriptor : Text)
    {kek' key' : Bytes} (sameKek : kek.length = kek'.length) (sameKey : key.length = key'.length) :
    (registry.wrap algorithm descriptor kek key).map List.length =
      (registry.wrap algorithm descriptor kek' key').map List.length := by
  have sameEmpty : key.isEmpty = key'.isEmpty := by
    rw [Bool.eq_iff_iff, List.isEmpty_iff_length_eq_zero, List.isEmpty_iff_length_eq_zero, sameKey]
  unfold wrap
  rw [sameEmpty]
  cases registry.resolve algorithm descriptor with
  | error failure => rfl
  | ok suite =>
    have same : (suite.mode.wrap kek key).map List.length =
        (suite.mode.wrap kek' key').map List.length := by
      rw [Mode.wrap_map_length, Mode.wrap_map_length, sameKek, sameKey]
    simp only [Checks.ok_bind]
    split
    · rfl
    · rcases outcome : suite.mode.wrap kek key with refusal | wrapped <;>
        rcases outcome' : suite.mode.wrap kek' key' with refusal' | wrapped' <;>
        rw [outcome, outcome'] at same
      · obtain rfl : refusal = refusal' := Except.error.inj same
        cases refusal <;> rfl
      · cases same
      · cases same
      · exact congrArg Except.ok (Except.ok.inj same)

end KeyEnvelope.KeyWrap
