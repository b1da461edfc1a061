import KeyEnvelope.KeyRecord
import KeyEnvelope.Surroundings

/-!
# Key stores

A key store provisions one key encryption key per path and reads it back. Errors of
the system are turned into failures that carry the path; a record that someone else
published first is the one to use.
-/

namespace KeyEnvelope.KeyStore

variable {Draft : Type}

def component : String := "key_guardian.storage.keystore"

def errorEvent (text : String) (path : Text) (error : SystemError) : Log.Event :=
  ⟨component, .error, text, [("path", .text path), ("error", .text error.text)]⟩

def lostRaceEvent (path : Text) : Log.Event :=
  ⟨component, .info, "kek.create_lost_race", [("path", .text path)]⟩

def createdEvent (path : Text) (bits replication : Int) : Log.Event :=
  ⟨component, .info, "kek.created",
    [("path", .text path), ("key_length", .integer bits), ("replication", .integer replication)]⟩

def contains (path : Text) : Operation Draft Bool :=
  (Operation.contains path).andThen fun
    | .ok found => pure found
    | .error (.system error) => do
      Operation.note (errorEvent "kek.exists_failed" path error)
      throw (.storage path (.system error))
    | .error failure => throw failure

def writeRecord (draft : Draft) (key : Bytes) : Operation Draft Draft := do
  Operation.ofExcept (KeyRecord.checkLength key)
  let draft ← Operation.write draft (KeyRecord.header key)
  Operation.write draft key

/-- Creates the record of a key; a draft that cannot be written is discarded. -/
def createRecord (path : Text) (replication : Int) (key : Bytes) : Operation Draft Unit := do
  let draft ← Operation.create path (some replication)
  (writeRecord draft key).andThen fun
    | .ok written => Operation.publish written
    | .error failure => do
      Operation.discard draft
      throw failure

/-- Whether this call created the record, given how publishing one went. -/
def afterCreation (path : Text) (bits replication : Int) :
    Except Failure Unit → Operation Draft Bool
  | .ok () => do
    Operation.note (createdEvent path bits replication)
    return true
  | .error (.system error) =>
    if error.kind = .fileExists then do
      Operation.note (lostRaceEvent path)
      return false
    else do
      Operation.note (errorEvent "kek.create_failed" path error)
      throw (.kekNotCreated path error)
  | .error failure => throw failure

/-- Makes sure that there is a record at the path; `true` if this call created it. -/
def ensure (generator : Randomness.Generator) (replication : Int) (path : Text) (bits : Int) :
    Operation Draft Bool := do
  if bits ≤ 0 ∨ bits % 8 ≠ 0 then throw (.configuration (.keyBits bits))
  if ← contains path then return false
  let key ← Operation.draw generator (bits / 8).toNat
  (createRecord path replication key).andThen (afterCreation path bits replication)

def ofRecord {α : Type} (path : Text) : Except StorageIssue α → Operation Draft α
  | .ok value => pure value
  | .error issue => throw (.storage path issue)

/-- Reads a record: its header first, then as many bytes as that announces. -/
def readRecord (path : Text) : Operation Draft Bytes := do
  let reader ← Operation.openRecord path
  let (header, reader) ← Operation.read reader KeyRecord.headerSize
  let length ← ofRecord path (KeyRecord.keyLength header)
  let (key, _) ← Operation.read reader length
  ofRecord path (KeyRecord.checkKey length key)

def load (path : Text) : Operation Draft Bytes :=
  (readRecord path).andThen fun
    | .ok key => pure key
    | .error (.system error) =>
      if error.kind = .fileNotFound then throw (.kekMissing path (some error))
      else do
        Operation.note (errorEvent "kek.read_failed" path error)
        throw (.storage path (.system error))
    | .error failure => throw failure

end KeyEnvelope.KeyStore
