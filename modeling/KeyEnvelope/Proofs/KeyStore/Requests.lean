import KeyEnvelope.Proofs.Operation
import KeyEnvelope.Strategy

/-!
# How many requests are made

Every operation ends after a fixed number of requests, whatever they are answered.
None waits for another.
-/

namespace KeyEnvelope

variable {Draft α β : Type}

namespace Operation

def EndsWithin (bound : Nat) (operation : Operation Draft α) : Prop :=
  Procedure.EndsWithin bound operation.run

variable {first second : Nat}

theorem EndsWithin.bind {operation : Operation Draft α} {next : α → Operation Draft β}
    (ends : operation.EndsWithin first) (nextEnds : ∀ value, (next value).EndsWithin second) :
    (operation >>= next).EndsWithin (second + first) := by
  apply Procedure.EndsWithin.bind ends
  intro result
  cases result with
  | error failure => cases second <;> trivial
  | ok value => exact nextEnds value

theorem EndsWithin.andThen {operation : Operation Draft α}
    {next : Except Failure α → Operation Draft β}
    (ends : operation.EndsWithin first) (nextEnds : ∀ result, (next result).EndsWithin second) :
    (operation.andThen next).EndsWithin (second + first) :=
  Procedure.EndsWithin.bind ends nextEnds

theorem EndsWithin.mono {operation : Operation Draft α} (ends : operation.EndsWithin first)
    (most : first ≤ second) : operation.EndsWithin second :=
  Procedure.EndsWithin.mono most ends

theorem endsWithin_done {operation : Operation Draft α} (result : Except Failure α)
    (done : operation.run = .done result) (bound : Nat) : operation.EndsWithin bound := by
  unfold EndsWithin
  rw [done]
  cases bound <;> trivial

theorem endsWithin_pure (value : α) (bound : Nat) :
    (pure value : Operation Draft α).EndsWithin bound :=
  endsWithin_done (.ok value) rfl bound

theorem endsWithin_throw (failure : Failure) (bound : Nat) :
    (throw failure : Operation Draft α).EndsWithin bound :=
  endsWithin_done (.error failure) rfl bound

theorem endsWithin_ofExcept (result : Except Failure α) (bound : Nat) :
    (ofExcept result : Operation Draft α).EndsWithin bound :=
  endsWithin_done result rfl bound

theorem endsWithin_note (event : Log.Event) : (note event : Operation Draft Unit).EndsWithin 1 :=
  fun _ => trivial

end Operation

open Operation

namespace KeyStore

theorem contains_endsWithin (path : Text) :
    (contains path : Operation Draft Bool).EndsWithin 2 := by
  have asked : (Operation.contains path : Operation Draft Bool).EndsWithin 1 := fun _ => trivial
  apply asked.andThen
  intro result
  split
  · exact endsWithin_pure _ 1
  · exact (endsWithin_note _).bind fun _ => endsWithin_throw _ 0
  · exact endsWithin_throw _ 1

theorem createRecord_endsWithin (path : Text) (replication : Int) (key : Bytes) :
    (createRecord path replication key : Operation Draft Unit).EndsWithin 4 := by
  have created : (create path (some replication) : Operation Draft Draft).EndsWithin 1 :=
    fun _ => trivial
  have write (draft : Draft) (chunk : Bytes) : (Operation.write draft chunk).EndsWithin 1 :=
    fun _ => trivial
  have written (draft : Draft) : (writeRecord draft key).EndsWithin 2 :=
    (endsWithin_ofExcept _ 0).bind fun _ => (write _ _).bind fun _ => write _ _
  apply created.bind
  intro draft
  apply (written draft).andThen
  intro result
  cases result with
  | ok record => exact fun _ => trivial
  | error failure => exact fun _ => trivial

theorem afterCreation_endsWithin (path : Text) (bits replication : Int)
    (result : Except Failure Unit) :
    (afterCreation path bits replication result : Operation Draft Bool).EndsWithin 1 := by
  unfold afterCreation
  split
  · exact (endsWithin_note _).bind fun _ => endsWithin_pure _ 0
  · split
    · exact (endsWithin_note _).bind fun _ => endsWithin_pure _ 0
    · exact (endsWithin_note _).bind fun _ => endsWithin_throw _ 0
  · exact endsWithin_throw _ 1

theorem ensure_endsWithin (generator : Randomness.Generator) (replication : Int) (path : Text)
    (bits : Int) :
    (ensure generator replication path bits : Operation Draft Bool).EndsWithin 8 := by
  unfold ensure
  split
  · exact endsWithin_throw _ 8
  · apply (contains_endsWithin path).bind
    intro found
    split
    · exact endsWithin_pure _ 6
    · have drawn : (draw generator (bits / 8).toNat : Operation Draft Bytes).EndsWithin 1 :=
        fun _ => trivial
      apply drawn.bind
      intro key
      exact (createRecord_endsWithin path replication key).andThen
        (afterCreation_endsWithin path bits replication)

theorem readRecord_endsWithin (path : Text) :
    (readRecord path : Operation Draft Bytes).EndsWithin 3 := by
  have opened : (openRecord path : Operation Draft Storage.Reader).EndsWithin 1 := fun _ => trivial
  have read (reader : Storage.Reader) (count : Int) :
      (Operation.read reader count : Operation Draft _).EndsWithin 1 := fun _ => trivial
  have checked {γ : Type} (result : Except StorageIssue γ) :
      (ofRecord path result : Operation Draft γ).EndsWithin 0 := by
    cases result <;> trivial
  apply opened.bind
  intro reader
  apply (read _ _).bind
  intro header
  apply (checked _).bind
  intro length
  exact (read _ _).bind fun key => checked _

theorem load_endsWithin (path : Text) : (load path : Operation Draft Bytes).EndsWithin 4 := by
  apply (readRecord_endsWithin path).andThen
  intro result
  split
  · exact endsWithin_pure _ 1
  · split
    · exact endsWithin_throw _ 1
    · exact (endsWithin_note _).bind fun _ => endsWithin_throw _ 0
  · exact endsWithin_throw _ 1

end KeyStore

namespace Strategy

theorem settle_endsWithin (outcome : Except Failure Bytes) :
    (settle outcome : Operation Draft Bytes).EndsWithin 1 := by
  have noted :
      ((KeyWrap.outcomeEvents outcome).forM note : Operation Draft PUnit).EndsWithin 1 := by
    unfold KeyWrap.outcomeEvents
    split
    · exact (endsWithin_note _).bind fun _ => endsWithin_pure _ 0
    · exact (endsWithin_note _).bind fun _ => endsWithin_pure _ 0
    · exact endsWithin_pure _ 1
  exact noted.bind fun _ => endsWithin_ofExcept outcome 0

theorem wrap_endsWithin (registry : KeyWrap.Registry) (parameters : Parameters) :
    (wrap registry parameters : Operation Draft Parameters).EndsWithin 13 := by
  apply (endsWithin_ofExcept _ 0).bind
  intro plan
  apply (KeyStore.ensure_endsWithin _ _ _ _).bind
  intro created
  apply (KeyStore.load_endsWithin _).bind
  intro kek
  exact (settle_endsWithin _).bind fun _ => endsWithin_pure _ 0

end Strategy

end KeyEnvelope
