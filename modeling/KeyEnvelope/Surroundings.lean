import KeyEnvelope.Procedure
import KeyEnvelope.Randomness
import KeyEnvelope.Storage.Client

/-!
# Surroundings

Key stores and strategies ask their surroundings for three things: requests to a
store, random bytes, and a place for events. An operation is a procedure over these
requests that may fail.
-/

namespace KeyEnvelope

namespace Surroundings

inductive Request (Draft : Type) where
  | storage (request : Storage.Request Draft)
  | draw (generator : Randomness.Generator) (count : Nat)
  | note (event : Log.Event)

abbrev Answer {Draft : Type} : Request Draft → Type
  | .storage request => Storage.Answer request
  | .draw _ _ => Except Failure Bytes
  | .note _ => Unit

abbrev interface (Draft : Type) : Interface :=
  ⟨Request Draft, Answer⟩

end Surroundings

abbrev Operation (Draft : Type) (α : Type) : Type :=
  ExceptT Failure (Procedure (Surroundings.interface Draft)) α

namespace Operation

variable {Draft α β : Type}

def note (event : Log.Event) : Operation Draft Unit :=
  ExceptT.lift (Procedure.request (I := Surroundings.interface Draft) (.note event))

def draw (generator : Randomness.Generator) (count : Nat) : Operation Draft Bytes :=
  ExceptT.mk (Procedure.request (I := Surroundings.interface Draft) (.draw generator count))

def contains (path : Text) : Operation Draft Bool :=
  ExceptT.mk (Procedure.request (I := Surroundings.interface Draft) (.storage (.contains path)))

def create (path : Text) (replication : Option Int) : Operation Draft Draft :=
  ExceptT.mk
    (Procedure.request (I := Surroundings.interface Draft) (.storage (.create path replication)))

def write (draft : Draft) (chunk : Bytes) : Operation Draft Draft :=
  ExceptT.mk (Procedure.request (I := Surroundings.interface Draft) (.storage (.write draft chunk)))

def publish (draft : Draft) : Operation Draft Unit :=
  ExceptT.mk (Procedure.request (I := Surroundings.interface Draft) (.storage (.publish draft)))

def discard (draft : Draft) : Operation Draft Unit :=
  ExceptT.lift (Procedure.request (I := Surroundings.interface Draft) (.storage (.discard draft)))

def openRecord (path : Text) : Operation Draft Storage.Reader :=
  ExceptT.mk (Procedure.request (I := Surroundings.interface Draft) (.storage (.openRecord path)))

def read (reader : Storage.Reader) (count : Int) : Operation Draft (Bytes × Storage.Reader) :=
  ExceptT.mk (Procedure.request (I := Surroundings.interface Draft) (.storage (.read reader count)))

def ofExcept (result : Except Failure α) : Operation Draft α :=
  ExceptT.mk (pure result)

/-- Goes on with the result, be it a value or a failure. -/
def andThen (operation : Operation Draft α) (next : Except Failure α → Operation Draft β) :
    Operation Draft β :=
  ExceptT.mk (operation.run.bind fun result => (next result).run)

end Operation

end KeyEnvelope
