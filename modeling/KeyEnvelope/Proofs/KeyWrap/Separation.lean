import KeyEnvelope.Proofs.KeyWrap.Registry
import KeyEnvelope.Proofs.KeyWrap.Wrapping

/-!
# A mode refuses what the other one wrapped

The modes share the chain, so each of them finds the check value that a key was chained
under, whichever mode it was chained by. No check value belongs to both. A padded key of
a single half did not go through the chain, but it is too short for the plain mode.
-/

namespace KeyEnvelope.KeyWrap

open Aes (Half)

variable {kek key wrapped : Bytes} {cipher : BlockCipher}

/-- The bytes of a key that went through the chain. -/
def chained (cipher : BlockCipher) (check : Half) (halves : List Half) : Bytes :=
  Half.join ((chain cipher check halves).1 :: (chain cipher check halves).2)

theorem length_chained (cipher : BlockCipher) (check : Half) (halves : List Half) :
    (chained cipher check halves).length = 8 * halves.length + 8 := by
  rw [chained, Half.length_join, List.length_cons, length_chain]
  omega

theorem check_ne_check (length : Nat) : Padded.check length ≠ Plain.check := by
  intro same
  have marked : Padded.mark = Plain.check.left := congrArg Half.left same
  exact absurd marked (by decide)

namespace Plain

theorem unwrap_chained (found : cipher? kek = some cipher) (check : Half) {halves : List Half}
    (several : 2 ≤ halves.length) :
    unwrap kek (chained cipher check halves) =
      if check = Plain.check then .ok (Half.join halves) else .error .corrupt := by
  have long : ¬(chained cipher check halves).length < 24 := by
    rw [length_chained]
    omega
  have unchained := unchain_chain (invertible_of_cipher? found) check halves
  rw [unwrap, if_neg long]
  simp only [chained, Half.split?_join, found, unchained]

theorem unwrap_of_padded_wrap (succeeds : Padded.wrap kek key = .ok wrapped) :
    unwrap kek wrapped =
      .error (if wrapped.length < 24 then .wrappedTooShort 24 else .corrupt) := by
  by_cases short : wrapped.length < 24
  · rw [unwrap, if_pos short, if_pos short]
  · obtain ⟨cipher, halves, found, -, -, rfl⟩ := Padded.wrap_eq_ok_iff.mp succeeds
    have several : 2 ≤ halves.length := by
      rw [Half.length_join, List.length_cons, Padded.length_enclose] at short
      omega
    rw [if_neg short, Padded.enclose_of_length_ne_one (by omega)]
    exact (unwrap_chained found _ several).trans (if_neg (check_ne_check key.length))

end Plain

namespace Padded

theorem unwrap_chained (found : cipher? kek = some cipher) (check : Half) {halves : List Half}
    (several : 2 ≤ halves.length) :
    unwrap kek (chained cipher check halves) =
      match unpad? check halves with
      | some key => .ok key
      | none => .error .corrupt := by
  have long : ¬(chained cipher check halves).length < 16 := by
    rw [length_chained]
    omega
  have disclosed : disclose cipher (chain cipher check halves).1 (chain cipher check halves).2 =
      (check, halves) := by
    rw [disclose_of_length_ne_one (by rw [length_chain]; omega),
      unchain_chain (invertible_of_cipher? found)]
  rw [unwrap, if_neg long]
  cases unpadded : unpad? check halves <;>
    simp only [chained, Half.split?_join, found, disclosed, unpadded]

theorem unpad?_of_left_ne_mark {found : Half} (unmarked : found.left ≠ mark)
    (halves : List Half) : unpad? found halves = none := by
  simp [unpad?, unmarked]

theorem unwrap_of_plain_wrap (succeeds : Plain.wrap kek key = .ok wrapped) :
    unwrap kek wrapped =
      .error (if wrapped.length < 24 then .wrappedTooShort 24 else .corrupt) := by
  obtain ⟨cipher, halves, found, long, split, rfl⟩ := Plain.wrap_eq_ok_iff.mp succeeds
  have several : 2 ≤ halves.length := by
    have count := Half.length_of_split? split
    omega
  have whole : ¬(chained cipher Plain.check halves).length < 24 := by
    rw [length_chained]
    omega
  have unmarked : Plain.check.left ≠ mark := by decide
  refine (unwrap_chained found Plain.check several).trans ?_
  rw [unpad?_of_left_ne_mark unmarked, ← chained, if_neg whole]

end Padded

/-- A mode sees from the length or from the check value that the other one wrapped. -/
theorem Mode.unwrap_of_other_wrap {mode other : Mode} (different : mode ≠ other)
    (succeeds : mode.wrap kek key = .ok wrapped) :
    other.unwrap kek wrapped =
      .error (if wrapped.length < 24 then .wrappedTooShort 24 else .corrupt) := by
  cases mode with
  | plain =>
    cases other with
    | plain => exact absurd rfl different
    | padded => exact Padded.unwrap_of_plain_wrap succeeds
  | padded =>
    cases other with
    | plain => exact Plain.unwrap_of_padded_wrap succeeds
    | padded => exact absurd rfl different

namespace Registry

/-- What was wrapped with a suite is refused by every suite of the other mode: it is too
short for that, or its check value is another. -/
theorem unwrap_refused_by_other_mode (registry : Registry) (suite otherSuite : Suite)
    (descriptor otherDescriptor : Text) (resolves : registry.get descriptor = .ok suite)
    (otherResolves : registry.get otherDescriptor = .ok otherSuite)
    (different : suite.mode ≠ otherSuite.mode) (kek key wrapped : Bytes) (algorithm other : Text)
    (succeeds : registry.wrap algorithm descriptor kek key = .ok wrapped)
    (otherNamed : other.isBlankText = false) :
    registry.unwrap other otherDescriptor kek wrapped =
      .error (.unwrap (.refused otherSuite.name other
        (if wrapped.length < 24 then .wrappedTooShort 24 else .corrupt))) := by
  obtain ⟨found, resolved, -, wrapping⟩ := wrap_eq_ok_iff.mp succeeds
  obtain rfl : found = suite :=
    Except.ok.inj ((resolve_eq_ok_iff.mp resolved).2.symm.trans resolves)
  have otherResolved : registry.resolve other otherDescriptor = .ok otherSuite :=
    resolve_eq_ok_iff.mpr ⟨otherNamed, otherResolves⟩
  rw [unwrap_of_resolve otherResolved (Mode.wrap_ne_nil wrapping),
    Mode.unwrap_of_other_wrap different wrapping]
  rfl

/-- Five bytes are padded to a single half, which the plain mode finds too short. -/
theorem unwrap_refused_by_other_mode_five_bytes :
    ∃ wrapped, builtIn.wrap "AES" "AESWrapPad" (List.replicate 24 7) [1, 2, 3, 4, 0] = .ok wrapped ∧
      builtIn.unwrap "DES" "AESWrap" (List.replicate 24 7) wrapped =
        .error (.unwrap (.refused "AESWrap" "DES" (.wrappedTooShort 24))) := by
  have resolves : builtIn.get "AESWrapPad" = .ok .aesWrapPad :=
    get_name_builtIn Suite.aesWrapPad (.tail _ (.head _))
  have otherResolves : builtIn.get "AESWrap" = .ok .aesWrap :=
    get_name_builtIn Suite.aesWrap (.head _)
  have resolved : builtIn.resolve "AES" "AESWrapPad" = .ok .aesWrapPad :=
    resolve_eq_ok_iff.mpr ⟨by rfl, resolves⟩
  obtain ⟨wrapped, wraps, length⟩ : ∃ wrapped,
      builtIn.wrap "AES" "AESWrapPad" (List.replicate 24 7) [1, 2, 3, 4, 0] = .ok wrapped ∧
        wrapped.length = 16 :=
    exists_wrap resolved (by decide) (by decide)
  have short : (if wrapped.length < 24 then Refusal.wrappedTooShort 24 else .corrupt) =
      .wrappedTooShort 24 := if_pos (by omega)
  refine ⟨wrapped, wraps, ?_⟩
  rw [unwrap_refused_by_other_mode builtIn .aesWrapPad .aesWrap "AESWrapPad" "AESWrap" resolves
    otherResolves (by decide) _ _ wrapped "AES" "DES" wraps (by rfl), short]
  rfl

end Registry

end KeyEnvelope.KeyWrap
