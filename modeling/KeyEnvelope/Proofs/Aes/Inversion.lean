import KeyEnvelope.Aes.Cipher
import KeyEnvelope.Proofs.Aes.Halves
import Mathlib.Data.FinEnum
import Mathlib.Data.Fintype.EquivFin
import Mathlib.Data.LawfulXor.Basic

/-!
# Decryption inverts encryption

Each step of a round is undone by the step beside it. Mixing of columns is linear
over the field, and applied four times it is the identity; this is where doubling
has to respect sums. The rounds then cancel one after the other, whatever the
schedule holds.
-/

namespace KeyEnvelope

variable {σ κ : Type}

theorem foldr_foldl_cancel {step : σ → κ → σ} {back : κ → σ → σ}
    (cancel : ∀ key state, back key (step state key) = state) (keys : List κ) (state : σ) :
    keys.foldr back (keys.foldl step state) = state := by
  induction keys generalizing state with
  | nil => rfl
  | cons key rest inductionHypothesis =>
    rw [List.foldl_cons, List.foldr_cons, inductionHypothesis, cancel]

theorem foldl_foldr_cancel {step : σ → κ → σ} {back : κ → σ → σ}
    (cancel : ∀ key state, step (back key state) key = state) (keys : List κ) (state : σ) :
    keys.foldl step (keys.foldr back state) = state := by
  induction keys with
  | nil => rfl
  | cons key rest inductionHypothesis =>
    rw [List.foldr_cons, List.foldl_cons, cancel, inductionHypothesis]

namespace Aes

theorem map_restore_substitutionTable :
    substitutionTable.toList.map restore = (List.range 256).map UInt8.ofNat := by
  decide +kernel

theorem restore_substitute (byte : UInt8) : restore (substitute byte) = byte := by
  have bound : byte.toNat < 256 := byte.toNat_lt
  have entry := congrArg (fun bytes => bytes[byte.toNat]?) map_restore_substitutionTable
  simp only [List.getElem?_map, Vector.getElem?_toList, Vector.getElem?_eq_getElem bound,
    List.getElem?_range bound, Option.map_some, Option.some.injEq, UInt8.ofNat_toNat] at entry
  exact entry

/-- There are only finitely many bytes, so what undoes the substitution is undone by
it. -/
theorem substitute_restore (byte : UInt8) : substitute (restore byte) = byte := by
  have surjective : Function.Surjective restore :=
    fun image => ⟨substitute image, restore_substitute image⟩
  apply Finite.injective_iff_surjective.mpr surjective
  exact restore_substitute (restore byte)

theorem highBit_cases : (byte : UInt8) → byte &&& 0x80 = 0 ∨ byte &&& 0x80 = 0x80 := by
  decide +kernel

theorem highBit_xor (a b : UInt8) : (a ^^^ b) &&& 0x80 = (a &&& 0x80) ^^^ (b &&& 0x80) := by
  apply UInt8.toBitVec_inj.mp
  ext index
  simp [Bool.and_xor_distrib_right]

theorem double_xor (a b : UInt8) : double (a ^^^ b) = double a ^^^ double b := by
  simp only [double, highBit_xor, UInt8.shiftLeft_xor]
  rcases highBit_cases a with ha | ha <;> rcases highBit_cases b with hb | hb
  · simp [ha, hb]
  · simp [ha, hb, xor_assoc]
  · simp only [ha, hb]
    ac_nf
  · simp only [ha, hb]
    ac_nf
    simp

/-- The circulant matrix of 2, 3, 1, 1 has the square of 5, 0, 4, 0. -/
theorem mix_mix (w : Word) : mix (mix w) = premix w := by
  simp only [mix, premix, triple, double_xor, Word.mk.injEq]
  refine ⟨?_, ?_, ?_, ?_⟩ <;> ac_nf <;> simp

theorem premix_premix (w : Word) : premix (premix w) = w := by
  cases w
  simp only [premix, double_xor, Word.mk.injEq]
  refine ⟨?_, ?_, ?_, ?_⟩ <;> ac_nf <;> simp

@[simp]
theorem unmix_mix (w : Word) : unmix (mix w) = w := by
  calc mix (premix (mix w)) = mix (mix (mix (mix w))) := by rw [mix_mix (mix w)]
    _ = premix (premix w) := by rw [mix_mix, mix_mix]
    _ = w := premix_premix w

@[simp]
theorem mix_unmix (w : Word) : mix (unmix w) = w := by
  rw [unmix, mix_mix, premix_premix]

@[simp]
theorem unrotateRows_rotateRows (block : Block) : unrotateRows (rotateRows block) = block := rfl

@[simp]
theorem rotateRows_unrotateRows (block : Block) : rotateRows (unrotateRows block) = block := rfl

namespace Word

@[simp]
theorem xor_xor_cancel (v w : Word) : (v.xor w).xor w = v := by
  simp [xor]

theorem map_map_cancel {f g : UInt8 → UInt8} (cancel : ∀ byte, g (f byte) = byte) (w : Word) :
    (w.map f).map g = w := by
  simp [map, cancel]

end Word

namespace Half

@[simp]
theorem xor_xor_cancel (g h : Half) : (g.xor h).xor h = g := by
  simp [xor]

theorem map_map_cancel {f g : UInt8 → UInt8} (cancel : ∀ byte, g (f byte) = byte) (h : Half) :
    (h.map f).map g = h := by
  simp [map, Word.map_map_cancel cancel]

end Half

namespace Block

@[simp]
theorem xor_xor_cancel (a b : Block) : (a.xor b).xor b = a := by
  simp [xor]

theorem map_map_cancel {f g : UInt8 → UInt8} (cancel : ∀ byte, g (f byte) = byte) (b : Block) :
    (b.map f).map g = b := by
  simp [map, Half.map_map_cancel cancel]

theorem mapColumns_mapColumns_cancel {f g : Word → Word} (cancel : ∀ w, g (f w) = w) (b : Block) :
    (b.mapColumns f).mapColumns g = b := by
  simp [mapColumns, cancel]

@[simp]
theorem restore_substitute (b : Block) : (b.map substitute).map restore = b :=
  map_map_cancel Aes.restore_substitute b

@[simp]
theorem substitute_restore (b : Block) : (b.map restore).map substitute = b :=
  map_map_cancel Aes.substitute_restore b

end Block

@[simp]
theorem unround_round (key block : Block) : unround key (round block key) = block := by
  simp [unround, round, Block.mapColumns_mapColumns_cancel unmix_mix]

@[simp]
theorem round_unround (key block : Block) : round (unround key block) key = block := by
  simp [unround, round, Block.mapColumns_mapColumns_cancel mix_unmix]

theorem decrypt_encrypt (schedule : Schedule) (block : Block) :
    decrypt schedule (encrypt schedule block) = block := by
  simp [decrypt, encrypt, foldr_foldl_cancel unround_round]

theorem encrypt_decrypt (schedule : Schedule) (block : Block) :
    encrypt schedule (decrypt schedule block) = block := by
  simp [decrypt, encrypt, foldl_foldr_cancel round_unround]

theorem Schedule.ofKey?_isSome (key : Bytes) :
    (ofKey? key).isSome ↔ key.length = 16 ∨ key.length = 24 ∨ key.length = 32 := by
  constructor
  · intro scheduled
    by_contra wrongLength
    simp [ofKey?, wrongLength] at scheduled
  · intro rightLength
    have whole : (Word.split? key).isSome := by
      rw [Word.split?_isSome]
      omega
    obtain ⟨words, split⟩ := Option.isSome_iff_exists.mp whole
    have enough : 4 ≤ words.length := by
      have := Word.length_of_split? split
      omega
    match words, enough with
    | a :: b :: c :: d :: rest, _ => simp [ofKey?, rightLength, split, Block.group]

end Aes

end KeyEnvelope
