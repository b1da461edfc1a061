import KeyEnvelope.KeyWrap.Chain
import KeyEnvelope.Proofs.Aes.Inversion

/-!
# The wrapping chain can be undone

A sweep and an unsweep with the same first step cancel, half by half, if the two
directions of the cipher do. Since sweeps keep the number of halves, both directions
of the chain go by the same steps, and so they cancel as well.
-/

namespace KeyEnvelope.KeyWrap

open Aes (Half Block)

structure BlockCipher.Invertible (cipher : BlockCipher) : Prop where
  decrypt_encrypt : ∀ block, cipher.decrypt (cipher.encrypt block) = block
  encrypt_decrypt : ∀ block, cipher.encrypt (cipher.decrypt block) = block

variable {cipher : BlockCipher}

@[simp]
theorem length_sweep (step : Nat) (check : Half) (halves : List Half) :
    (sweep cipher step check halves).2.length = halves.length := by
  induction halves generalizing step check with
  | nil => rfl
  | cons half rest inductionHypothesis => simp [sweep, inductionHypothesis]

@[simp]
theorem length_unsweep (step : Nat) (check : Half) (halves : List Half) :
    (unsweep cipher step check halves).2.length = halves.length := by
  induction halves generalizing step check with
  | nil => rfl
  | cons half rest inductionHypothesis => simp [unsweep, inductionHypothesis]

theorem unsweep_sweep (invertible : cipher.Invertible) (step : Nat) (check : Half)
    (halves : List Half) :
    unsweep cipher step (sweep cipher step check halves).1 (sweep cipher step check halves).2
      = (check, halves) := by
  induction halves generalizing step check with
  | nil => rfl
  | cons half rest inductionHypothesis =>
    simp [sweep, unsweep, inductionHypothesis, invertible.decrypt_encrypt]

theorem sweep_unsweep (invertible : cipher.Invertible) (step : Nat) (check : Half)
    (halves : List Half) :
    sweep cipher step (unsweep cipher step check halves).1 (unsweep cipher step check halves).2
      = (check, halves) := by
  induction halves generalizing step check with
  | nil => rfl
  | cons half rest inductionHypothesis =>
    simp [sweep, unsweep, inductionHypothesis, invertible.encrypt_decrypt]

theorem length_foldl_sweep (starts : List Nat) (state : Half × List Half) :
    (starts.foldl (fun state start => sweep cipher start state.1 state.2) state).2.length
      = state.2.length := by
  induction starts generalizing state with
  | nil => rfl
  | cons start rest inductionHypothesis => rw [List.foldl_cons, inductionHypothesis, length_sweep]

theorem length_foldr_unsweep (starts : List Nat) (state : Half × List Half) :
    (starts.foldr (fun start state => unsweep cipher start state.1 state.2) state).2.length
      = state.2.length := by
  induction starts with
  | nil => rfl
  | cons start rest inductionHypothesis => rw [List.foldr_cons, length_unsweep, inductionHypothesis]

@[simp]
theorem length_chain (check : Half) (halves : List Half) :
    (chain cipher check halves).2.length = halves.length :=
  length_foldl_sweep _ _

@[simp]
theorem length_unchain (check : Half) (halves : List Half) :
    (unchain cipher check halves).2.length = halves.length :=
  length_foldr_unsweep _ _

theorem unchain_chain (invertible : cipher.Invertible) (check : Half) (halves : List Half) :
    unchain cipher (chain cipher check halves).1 (chain cipher check halves).2 =
      (check, halves) := by
  rw [unchain, length_chain, chain]
  exact foldr_foldl_cancel (fun start state => unsweep_sweep invertible start state.1 state.2) _ _

theorem chain_unchain (invertible : cipher.Invertible) (check : Half) (halves : List Half) :
    chain cipher (unchain cipher check halves).1 (unchain cipher check halves).2 =
      (check, halves) := by
  rw [chain, length_unchain, unchain]
  exact foldl_foldr_cancel (fun start state => sweep_unsweep invertible start state.1 state.2) _ _

end KeyEnvelope.KeyWrap
