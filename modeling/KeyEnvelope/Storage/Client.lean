import KeyEnvelope.Bytes
import KeyEnvelope.Failure
import KeyEnvelope.Log.Event

/-!
# Storage clients

A storage client keeps records under store paths. A record is written as a draft,
which nobody sees; publishing makes it the record of its path unless that path has
one already. Every request is one step, so that others may come between.
-/

namespace KeyEnvelope.Storage

/-- What is left to read of an opened record. -/
abbrev Reader := Bytes

inductive Request (Draft : Type) where
  | contains (path : Text)
  | create (path : Text) (replication : Option Int)
  | write (draft : Draft) (chunk : Bytes)
  | publish (draft : Draft)
  | discard (draft : Draft)
  | openRecord (path : Text)
  | read (reader : Reader) (count : Int)

abbrev Answer {Draft : Type} : Request Draft → Type
  | .contains _ => Except Failure Bool
  | .create _ _ | .write _ _ => Except Failure Draft
  | .publish _ => Except Failure Unit
  | .discard _ => Unit
  | .openRecord _ => Except Failure Reader
  | .read _ _ => Except Failure (Bytes × Reader)

/-- An answer with the state after it and the events on the way to it. -/
structure Served (α σ : Type) where
  answer : α
  state : σ
  events : List Log.Event

namespace Served

def quiet {α σ : Type} (answer : α) (state : σ) : Served α σ :=
  ⟨answer, state, []⟩

end Served

structure Client where
  Draft : Type
  State : Type
  serve : (request : Request Draft) → State → Served (Answer request) State

/-- Checks that a count of bytes fits in 64 bits with a sign. -/
def checkCount (count : Int) : Except Failure Unit :=
  let range : Int := 9223372036854775808
  if count < -range ∨ range ≤ count then
    .error (.tooLarge "cannot fit 'int' into an index-sized integer")
  else .ok ()

/-- Splits what a count asks for off a reader; a negative count asks for everything. -/
def readFrom (reader : Reader) (count : Int) : Bytes × Reader :=
  if count < 0 then (reader, []) else (reader.take count.toNat, reader.drop count.toNat)

end KeyEnvelope.Storage
