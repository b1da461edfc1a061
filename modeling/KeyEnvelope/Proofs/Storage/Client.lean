import KeyEnvelope.Proofs.Checks
import KeyEnvelope.Storage.Client

/-!
# Reading from a reader

Counts that a record can announce are small enough for every store.
-/

namespace KeyEnvelope.Storage

variable {count : Nat}

theorem checkCount_of_lt (small : count < 9223372036854775808) : checkCount count = .ok () := by
  simp only [checkCount]
  split
  · omega
  · rfl

theorem readFrom_ofNat (reader : Reader) (count : Nat) :
    readFrom reader count = (reader.take count, reader.drop count) := by
  simp [readFrom, show ¬(count : Int) < 0 by omega]

end KeyEnvelope.Storage
