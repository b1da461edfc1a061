import KeyEnvelope.KeyWrap.Mode
import KeyEnvelope.Proofs.KeyWrap.Chain

/-!
# What the wrap modes admit, and that they can be undone

A mode wraps every key that it admits, into a byte string whose length depends on
the length of the key alone. What a mode has wrapped, it unwraps to the same key
under the same key encryption key.
-/

namespace KeyEnvelope.KeyWrap

open Aes (Half Block Schedule)

/-- Lengths of the keys of the block cipher. -/
def IsKekLength (length : Nat) : Prop :=
  length = 16 ∨ length = 24 ∨ length = 32

instance (length : Nat) : Decidable (IsKekLength length) :=
  inferInstanceAs (Decidable (_ ∨ _))

theorem exists_cipher? {kek : Bytes} (kekLength : IsKekLength kek.length) :
    ∃ cipher, cipher? kek = some cipher := by
  have scheduled : (Schedule.ofKey? kek).isSome := (Schedule.ofKey?_isSome kek).mpr kekLength
  obtain ⟨schedule, found⟩ := Option.isSome_iff_exists.mp scheduled
  exact ⟨_, by rw [cipher?, found, Option.map_some]⟩

theorem isKekLength_of_cipher? {kek : Bytes} {cipher : BlockCipher}
    (found : cipher? kek = some cipher) : IsKekLength kek.length := by
  obtain ⟨schedule, scheduled, -⟩ := Option.map_eq_some_iff.mp found
  exact (Schedule.ofKey?_isSome kek).mp (Option.isSome_iff_exists.mpr ⟨schedule, scheduled⟩)

theorem invertible_of_cipher? {kek : Bytes} {cipher : BlockCipher}
    (found : cipher? kek = some cipher) :
    cipher.Invertible := by
  obtain ⟨schedule, _, rfl⟩ := Option.map_eq_some_iff.mp found
  exact ⟨Aes.decrypt_encrypt schedule, Aes.encrypt_decrypt schedule⟩

namespace Plain

theorem wrap_eq_ok_iff {kek key wrapped : Bytes} :
    wrap kek key = .ok wrapped ↔
      ∃ cipher halves, cipher? kek = some cipher ∧ 16 ≤ key.length ∧ Half.split? key = some halves ∧
        Half.join ((chain cipher check halves).1 :: (chain cipher check halves).2) = wrapped := by
  unfold wrap
  cases cipherFound : cipher? kek with
  | none => simp
  | some cipher =>
    by_cases short : key.length < 16
    · simp [short]
    · cases split : Half.split? key with
      | none => simp [short]
      | some halves => simp [short, Nat.not_lt.mp short]

theorem unwrap_eq_ok_iff {kek wrapped key : Bytes} :
    unwrap kek wrapped = .ok key ↔
      ∃ cipher last chained, cipher? kek = some cipher ∧ 24 ≤ wrapped.length ∧
        Half.split? wrapped = some (last :: chained) ∧ (unchain cipher last chained).1 = check ∧
        Half.join (unchain cipher last chained).2 = key := by
  unfold unwrap
  by_cases short : wrapped.length < 24
  · simp [short]
  · rcases split : Half.split? wrapped with _ | _ | ⟨last, chained⟩
    · simp [short]
    · simp [short]
    · cases cipherFound : cipher? kek with
      | none => simp [short]
      | some cipher =>
        by_cases intact : (unchain cipher last chained).1 = check
        · simp [short, Nat.not_lt.mp short, intact]
        · simp [short, intact]

theorem exists_wrap {kek key : Bytes} (kekLength : IsKekLength kek.length) (long : 16 ≤ key.length)
    (whole : key.length % 8 = 0) :
    ∃ wrapped, wrap kek key = .ok wrapped ∧ wrapped.length = key.length + 8 := by
  obtain ⟨cipher, cipherFound⟩ := exists_cipher? kekLength
  obtain ⟨halves, split⟩ := Half.exists_split? whole
  refine ⟨_, wrap_eq_ok_iff.mpr ⟨cipher, halves, cipherFound, long, split, rfl⟩, ?_⟩
  rw [Half.length_join, List.length_cons, length_chain, Half.length_of_split? split]
  omega

/-- Under a key encryption key of the cipher, only what is wrong with the key is refused. -/
theorem wrap_eq_error {kek key : Bytes} {refusal : Refusal} (kekLength : IsKekLength kek.length)
    (fails : wrap kek key = .error refusal) :
    refusal ≠ .keyTooLong ∧ (key.length < 16 ∨ key.length % 8 ≠ 0) := by
  obtain ⟨cipher, cipherFound⟩ := exists_cipher? kekLength
  simp only [wrap, cipherFound] at fails
  by_cases short : key.length < 16
  · simp only [short, if_true, Except.error.injEq] at fails
    exact ⟨by simp [← fails], .inl short⟩
  · cases split : Half.split? key with
    | some halves => simp [short, split] at fails
    | none =>
      simp only [short, split, if_false, Except.error.injEq] at fails
      refine ⟨by simp [← fails], .inr fun whole => ?_⟩
      obtain ⟨halves, splits⟩ := Half.exists_split? whole
      cases split.symm.trans splits

theorem unwrap_wrap {kek key wrapped : Bytes} (succeeds : wrap kek key = .ok wrapped) :
    unwrap kek wrapped = .ok key := by
  obtain ⟨cipher, halves, cipherFound, long, split, rfl⟩ := wrap_eq_ok_iff.mp succeeds
  have unchained := unchain_chain (invertible_of_cipher? cipherFound) check halves
  refine unwrap_eq_ok_iff.mpr ⟨cipher, _, _, cipherFound, ?_, Half.split?_join _, ?_, ?_⟩
  · rw [Half.length_join, List.length_cons, length_chain]
    have := Half.length_of_split? split
    omega
  · rw [unchained]
  · rw [unchained, Half.join_of_split? split]

end Plain

namespace Padded

@[simp]
theorem length_enclose (cipher : BlockCipher) (check : Half) (halves : List Half) :
    (enclose cipher check halves).2.length = halves.length := by
  unfold enclose
  split <;> simp

@[simp]
theorem length_disclose (cipher : BlockCipher) (check : Half) (halves : List Half) :
    (disclose cipher check halves).2.length = halves.length := by
  unfold disclose
  split <;> simp

theorem enclose_of_length_ne_one {halves : List Half} (several : halves.length ≠ 1)
    (cipher : BlockCipher) (check : Half) :
    enclose cipher check halves = chain cipher check halves := by
  match halves with
  | [half] => exact absurd rfl several
  | [] | _ :: _ :: _ => rfl

theorem disclose_of_length_ne_one {halves : List Half} (several : halves.length ≠ 1)
    (cipher : BlockCipher) (check : Half) :
    disclose cipher check halves = unchain cipher check halves := by
  match halves with
  | [half] => exact absurd rfl several
  | [] | _ :: _ :: _ => rfl

theorem disclose_enclose {cipher : BlockCipher} (invertible : cipher.Invertible) (check : Half)
    (halves : List Half) :
    disclose cipher (enclose cipher check halves).1 (enclose cipher check halves).2 =
      (check, halves) := by
  by_cases single : halves.length = 1
  · obtain ⟨half, rfl⟩ := List.length_eq_one_iff.mp single
    simp [enclose, disclose, invertible.decrypt_encrypt]
  · have several : (chain cipher check halves).2.length ≠ 1 := by rwa [length_chain]
    rw [enclose_of_length_ne_one single, disclose_of_length_ne_one several,
      unchain_chain invertible]

theorem enclose_disclose {cipher : BlockCipher} (invertible : cipher.Invertible) (check : Half)
    (halves : List Half) :
    enclose cipher (disclose cipher check halves).1 (disclose cipher check halves).2 =
      (check, halves) := by
  by_cases single : halves.length = 1
  · obtain ⟨half, rfl⟩ := List.length_eq_one_iff.mp single
    simp [enclose, disclose, invertible.encrypt_decrypt]
  · have several : (unchain cipher check halves).2.length ≠ 1 := by rwa [length_unchain]
    rw [disclose_of_length_ne_one single, enclose_of_length_ne_one several,
      chain_unchain invertible]

theorem wrap_eq_ok_iff {kek key wrapped : Bytes} :
    wrap kek key = .ok wrapped ↔
      ∃ cipher halves, cipher? kek = some cipher ∧ key.length ≤ lengthLimit ∧
        Half.split? (pad key) = some halves ∧
        Half.join ((enclose cipher (check key.length) halves).1 ::
          (enclose cipher (check key.length) halves).2) = wrapped := by
  unfold wrap
  cases cipherFound : cipher? kek with
  | none => simp
  | some cipher =>
    by_cases long : lengthLimit < key.length
    · simp [long]
    · cases split : Half.split? (pad key) with
      | none => simp [long]
      | some halves => simp [long, Nat.not_lt.mp long]

theorem unwrap_eq_ok_iff {kek wrapped key : Bytes} :
    unwrap kek wrapped = .ok key ↔
      ∃ cipher last enclosed, cipher? kek = some cipher ∧ 16 ≤ wrapped.length ∧
        Half.split? wrapped = some (last :: enclosed) ∧
        unpad? (disclose cipher last enclosed).1 (disclose cipher last enclosed).2 = some key := by
  unfold unwrap
  by_cases short : wrapped.length < 16
  · simp [short]
  · rcases split : Half.split? wrapped with _ | _ | ⟨last, enclosed⟩
    · simp [short]
    · simp [short]
    · cases cipherFound : cipher? kek with
      | none => simp [short]
      | some cipher =>
        cases unpadded : unpad? (disclose cipher last enclosed).1
          (disclose cipher last enclosed).2 with
        | none => simp [short, unpadded]
        | some found => simp [short, Nat.not_lt.mp short, unpadded]

theorem length_pad (key : Bytes) : (pad key).length = 8 * ((key.length + 7) / 8) := by
  simp only [pad, padding, List.length_append, List.length_replicate]
  omega

/-- The check value of a key calls for exactly the padding that the key was given. -/
theorem unpad?_check {key : Bytes} {halves : List Half} (bounded : key.length ≤ lengthLimit)
    (padded : Half.join halves = pad key) : unpad? (check key.length) halves = some key := by
  have count : 8 * halves.length = 8 * ((key.length + 7) / 8) := by
    rw [← Half.length_join, padded, length_pad]
  have room : key.length < 4294967296 := by
    simp only [lengthLimit] at bounded
    omega
  have marked : (check key.length).left = mark := rfl
  have counted : (check key.length).right.toBytes.toNat = key.length := Half.toNat_wordOfNat room
  have taken : (pad key).take key.length = key := by simp [pad]
  have short : 8 * halves.length < key.length + 8 := by omega
  have long : key.length ≤ 8 * halves.length := by omega
  simp only [unpad?, marked, counted, padded, taken, short, long, and_self, if_true]

theorem exists_wrap {kek key : Bytes} (kekLength : IsKekLength kek.length)
    (bounded : key.length ≤ lengthLimit) :
    ∃ wrapped, wrap kek key = .ok wrapped ∧ wrapped.length = 8 * ((key.length + 7) / 8) + 8 := by
  obtain ⟨cipher, cipherFound⟩ := exists_cipher? kekLength
  have whole : (pad key).length % 8 = 0 := by
    rw [length_pad]
    omega
  obtain ⟨halves, split⟩ := Half.exists_split? whole
  refine ⟨_, wrap_eq_ok_iff.mpr ⟨cipher, halves, cipherFound, bounded, split, rfl⟩, ?_⟩
  rw [Half.length_join, List.length_cons, length_enclose, ← length_pad, Half.length_of_split? split]
  omega

theorem wrap_eq_error {kek key : Bytes} {refusal : Refusal} (kekLength : IsKekLength kek.length)
    (fails : wrap kek key = .error refusal) :
    refusal = .keyTooLong ∧ lengthLimit < key.length := by
  by_cases long : lengthLimit < key.length
  · obtain ⟨cipher, cipherFound⟩ := exists_cipher? kekLength
    simp only [wrap, cipherFound, long, if_true, Except.error.injEq] at fails
    exact ⟨fails.symm, long⟩
  · obtain ⟨wrapped, wraps, -⟩ := exists_wrap kekLength (Nat.not_lt.mp long)
    cases fails.symm.trans wraps

theorem unwrap_wrap {kek key wrapped : Bytes} (nonempty : key ≠ [])
    (succeeds : wrap kek key = .ok wrapped) :
    unwrap kek wrapped = .ok key := by
  obtain ⟨cipher, halves, cipherFound, bounded, split, rfl⟩ := wrap_eq_ok_iff.mp succeeds
  have disclosed := disclose_enclose (invertible_of_cipher? cipherFound) (check key.length) halves
  refine unwrap_eq_ok_iff.mpr ⟨cipher, _, _, cipherFound, ?_, Half.split?_join _, ?_⟩
  · rw [Half.length_join, List.length_cons, length_enclose]
    have positive : 0 < key.length := List.length_pos_iff.mpr nonempty
    have count := Half.length_of_split? split
    rw [length_pad] at count
    omega
  · rw [disclosed]
    exact unpad?_check bounded (Half.join_of_split? split)

end Padded

namespace Mode

/-- The keys that a mode wraps. -/
def Admits : Mode → (key : Bytes) → Prop
  | plain, key => 16 ≤ key.length ∧ key.length % 8 = 0
  | padded, key => 1 ≤ key.length ∧ key.length ≤ 2 ^ 32 - 1

instance : (mode : Mode) → (key : Bytes) → Decidable (mode.Admits key)
  | plain, key => inferInstanceAs (Decidable (16 ≤ key.length ∧ key.length % 8 = 0))
  | padded, key => inferInstanceAs (Decidable (1 ≤ key.length ∧ key.length ≤ 2 ^ 32 - 1))

theorem Admits.ne_nil {mode : Mode} {key : Bytes} (admitted : mode.Admits key) : key ≠ [] := by
  rintro rfl
  cases mode with
  | plain => exact absurd admitted.1 (by decide)
  | padded => exact absurd admitted.1 (by decide)

theorem exists_wrap {mode : Mode} {kek key : Bytes} (kekLength : IsKekLength kek.length)
    (admitted : mode.Admits key) :
    ∃ wrapped, mode.wrap kek key = .ok wrapped ∧
      wrapped.length = 8 * ((key.length + 7) / 8) + 8 := by
  cases mode with
  | plain =>
    obtain ⟨long, whole⟩ := admitted
    obtain ⟨wrapped, succeeds, length⟩ := Plain.exists_wrap kekLength long whole
    refine ⟨wrapped, succeeds, ?_⟩
    omega
  | padded => exact Padded.exists_wrap kekLength admitted.2

/-- Whatever the suite, there is no wrapping under anything but a key of the cipher. -/
theorem isKekLength_of_wrap {mode : Mode} {kek key wrapped : Bytes}
    (succeeds : mode.wrap kek key = .ok wrapped) : IsKekLength kek.length := by
  cases mode with
  | plain =>
    obtain ⟨cipher, halves, found, -⟩ := Plain.wrap_eq_ok_iff.mp succeeds
    exact isKekLength_of_cipher? found
  | padded =>
    obtain ⟨cipher, halves, found, -⟩ := Padded.wrap_eq_ok_iff.mp succeeds
    exact isKekLength_of_cipher? found

theorem long_of_keyTooLong {mode : Mode} {kek key : Bytes}
    (refuses : mode.wrap kek key = .error .keyTooLong) : Padded.lengthLimit < key.length := by
  cases mode with
  | plain =>
    simp only [wrap, Plain.wrap] at refuses
    repeat' split at refuses
    all_goals cases refuses
  | padded =>
    simp only [wrap, Padded.wrap] at refuses
    split at refuses
    · cases refuses
    · split at refuses
      · assumption
      · split at refuses <;> cases refuses

theorem unwrap_wrap {mode : Mode} {kek key wrapped : Bytes} (nonempty : key ≠ [])
    (succeeds : mode.wrap kek key = .ok wrapped) : mode.unwrap kek wrapped = .ok key := by
  cases mode with
  | plain => exact Plain.unwrap_wrap succeeds
  | padded => exact Padded.unwrap_wrap nonempty succeeds

end Mode

end KeyEnvelope.KeyWrap
