import KeyEnvelope.Assoc
import KeyEnvelope.Storage.Client

/-!
# Storage in memory

Records under their paths, with a log of the paths for which a record was begun.
-/

namespace KeyEnvelope.Storage

structure MemoryRecord where
  data : Bytes
  replication : Option Int
deriving DecidableEq

structure Memory where
  records : List (Text × MemoryRecord)
  writes : List Text

namespace Memory

structure Draft where
  path : Text
  replication : Option Int
  content : Bytes

def empty : Memory := ⟨[], []⟩

def record? (memory : Memory) (path : Text) : Option MemoryRecord :=
  Assoc.get? path memory.records

def logWrite (memory : Memory) (path : Text) : Memory :=
  { memory with writes := memory.writes ++ [path] }

def put (memory : Memory) (path : Text) (record : MemoryRecord) : Memory :=
  { memory with records := Assoc.set path record memory.records }

def publish (memory : Memory) (draft : Draft) : Except Failure Unit × Memory :=
  match memory.record? draft.path with
  | some _ => (.error (.system (.described .fileExists draft.path none)), memory)
  | none => (.ok (), memory.put draft.path ⟨draft.content, draft.replication⟩)

def openRecord (memory : Memory) (path : Text) : Except Failure Reader :=
  match memory.record? path with
  | some record => .ok record.data
  | none => .error (.system (.described .fileNotFound path none))

def read (reader : Reader) (count : Int) : Except Failure (Bytes × Reader) := do
  checkCount count
  return readFrom reader count

def serve : (request : Request Draft) → Memory → Served (Answer request) Memory
  | .contains path, memory => .quiet (.ok (memory.record? path).isSome) memory
  | .create path replication, memory => .quiet (.ok ⟨path, replication, []⟩) (memory.logWrite path)
  | .write draft chunk, memory =>
    .quiet (.ok { draft with content := draft.content ++ chunk }) memory
  | .publish draft, memory =>
    let (answer, memory) := memory.publish draft
    .quiet answer memory
  | .discard _, memory => .quiet () memory
  | .openRecord path, memory => .quiet (memory.openRecord path) memory
  | .read reader count, memory => .quiet (read reader count) memory

abbrev client : Client := ⟨Draft, Memory, serve⟩

end Memory

end KeyEnvelope.Storage
