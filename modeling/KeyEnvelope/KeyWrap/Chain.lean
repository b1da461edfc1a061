import KeyEnvelope.Aes.Block

/-!
# The wrapping chain

Six sweeps over the halves of a key carry a check value along: each half is
enciphered together with it, and a step counter is added to it. Undoing the steps in
the opposite order gives back the halves and the check value, whatever the block
cipher, as long as its two directions are inverse to each other.
-/

namespace KeyEnvelope.KeyWrap

open Aes (Half Block)

structure BlockCipher where
  encrypt : Block → Block
  decrypt : Block → Block

/-- One sweep from the first half to the last; `step` numbers its first step. -/
def sweep (cipher : BlockCipher) : (step : Nat) → Half → List Half → Half × List Half
  | _, check, [] => (check, [])
  | step, check, half :: rest =>
    let block := cipher.encrypt ⟨check, half⟩
    let (last, swept) := sweep cipher (step + 1) (block.upper.xor (Half.ofNat step)) rest
    (last, block.lower :: swept)

/-- One sweep from the last half to the first. -/
def unsweep (cipher : BlockCipher) : (step : Nat) → Half → List Half → Half × List Half
  | _, check, [] => (check, [])
  | step, check, half :: rest =>
    let (later, unswept) := unsweep cipher (step + 1) check rest
    let block := cipher.decrypt ⟨later.xor (Half.ofNat step), half⟩
    (block.upper, block.lower :: unswept)

/-- The first step of each of the six sweeps over `count` halves. -/
def sweepStarts (count : Nat) : List Nat :=
  (List.range 6).map fun pass => count * pass + 1

def chain (cipher : BlockCipher) (check : Half) (halves : List Half) : Half × List Half :=
  (sweepStarts halves.length).foldl
    (fun state start => sweep cipher start state.1 state.2) (check, halves)

def unchain (cipher : BlockCipher) (check : Half) (halves : List Half) : Half × List Half :=
  (sweepStarts halves.length).foldr
    (fun start state => unsweep cipher start state.1 state.2) (check, halves)

end KeyEnvelope.KeyWrap
