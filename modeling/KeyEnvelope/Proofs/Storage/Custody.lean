import KeyEnvelope.Proofs.KeyStore.Drafts
import KeyEnvelope.Proofs.Storage.Memory

/-!
# Stores that keep their records

What there is to rely on in a store: a record that can be read stays as it is, as
long as nothing is asked about drafts that the store did not hand out; and reading
changes nothing.
-/

namespace KeyEnvelope.Storage

structure Custody (client : Client) where
  /-- Every record of the first state is one of the second. -/
  Keeps : client.State → client.State → Prop
  /-- The draft has nothing to do with what the state holds. -/
  Fresh : client.State → client.Draft → Prop
  refl (state : client.State) : Keeps state state
  keeps {before state : client.State} (request : Request client.Draft) :
    Keeps before state → (Surroundings.Request.storage request).StaysWithin (Fresh before) →
      Keeps before (client.serve request state).state
  handsOut {before state : client.State} (request : Request client.Draft) :
    Keeps before state → (Surroundings.Request.storage request).StaysWithin (Fresh before) →
      Surroundings.HandsOut (Fresh before) (.storage request) (client.serve request state).answer
  opens {before state : client.State} {path : Text} {data : Bytes} :
    Keeps before state → (client.serve (.openRecord path) before).answer = .ok data →
      (client.serve (.openRecord path) state).answer = .ok data
  finds {state : client.State} {path : Text} {data : Bytes} :
    (client.serve (.openRecord path) state).answer = .ok data →
      (client.serve (.contains path) state).answer = .ok true
  unchanged (request : Request client.Draft) (state : client.State) :
    (Surroundings.Request.storage request).IsReading → (client.serve request state).state = state
  eq_readFrom {state : client.State} {reader : Reader} {count : Int} {found : Bytes × Reader} :
    (client.serve (.read reader count) state).answer = .ok found → found = readFrom reader count
  reads (state : client.State) (reader : Reader) {count : Nat} :
    count < 9223372036854775808 → (client.serve (.read reader count) state).answer =
      .ok (readFrom reader count)

def Memory.custody : Custody Memory.client where
  Keeps := Memory.Within
  Fresh _ _ := True
  refl := .refl
  keeps request keeps _ := keeps.trans (Memory.within_serve request _)
  handsOut request _ _ := by cases request <;> trivial
  opens := by
    intro before state path data keeps opened
    obtain ⟨replication, found⟩ := Memory.openRecord_eq_ok_iff.mp opened
    exact Memory.openRecord_eq_ok_iff.mpr ⟨replication, keeps path _ found⟩
  finds := by
    intro state path data opened
    obtain ⟨replication, found⟩ := Memory.openRecord_eq_ok_iff.mp opened
    exact congrArg (fun record : Option MemoryRecord => Except.ok record.isSome) found
  unchanged := by
    intro request state reading
    cases request <;> first | rfl | exact reading.elim
  eq_readFrom := Memory.eq_readFrom_of_read
  reads _ _ := Memory.read_of_lt

end KeyEnvelope.Storage
