import KeyEnvelope.Storage.Directory
import KeyEnvelope.Storage.Memory

/-!
# Stores on the bench

Stores with ways to tamper with them: failures that are due at certain requests,
records that appear just before one is published, and files that are put into a
directory from outside.
-/

namespace KeyEnvelope.Bench

/-- Requests at which failures may be due. -/
inductive Hook where
  | contains
  | openRecord
  | create
  | read
  | write
  | commit
deriving DecidableEq

/-- A failure that is due at a hook a number of times. -/
structure Fault where
  hook : Hook
  failure : Failure
  times : Nat

inductive Adjustment where
  | put (path : Text) (data : Bytes)
  | fault (fault : Fault)
  | race (path : Text) (data : Bytes)
  | putFile (place : Place) (data : Bytes)
  | makeDirectory (place : Place)

inductive Snapshot where
  | records (records : List (Text × Storage.MemoryRecord)) (writes : List Text)
  | tree (nodes : List (Text × FileNode))

structure Store extends Storage.Client where
  adjust : Adjustment → State → Except Failure Unit × State
  record : Text → State → Except Failure Storage.MemoryRecord
  snapshot : State → Snapshot

/-- Memory with the faults and the racing records that are still due. -/
structure Memory where
  memory : Storage.Memory
  faults : List Fault
  races : List (Text × Bytes)

namespace Memory

def initial : Memory := ⟨.empty, [], []⟩

/-- The oldest failure that is due at a hook, and the faults left after it. -/
def due (hook : Hook) : List Fault → Option (Failure × List Fault)
  | [] => none
  | fault :: rest =>
    if fault.hook = hook then
      some (fault.failure,
        if fault.times ≤ 1 then rest else { fault with times := fault.times - 1 } :: rest)
    else (due hook rest).map fun (failure, left) => (failure, fault :: left)

def guarded {α : Type} (hook : Hook) (store : Memory)
    (next : Memory → Except Failure α × Memory) : Storage.Served (Except Failure α) Memory :=
  match due hook store.faults with
  | some (failure, faults) => .quiet (.error failure) { store with faults }
  | none =>
    let (answer, store) := next store
    .quiet answer store

def forward (request : Storage.Request Storage.Memory.Draft) (store : Memory) :
    Storage.Answer request × Memory :=
  let served := Storage.Memory.serve request store.memory
  (served.answer, { store with memory := served.state })

/-- Stores the records that race with one that is about to be published. -/
def raceAhead (store : Memory) : Memory :=
  let memory :=
    store.races.foldl (fun memory (path, data) => memory.put path ⟨data, none⟩) store.memory
  { store with memory, races := [] }

def serve : (request : Storage.Request Storage.Memory.Draft) → Memory →
    Storage.Served (Storage.Answer request) Memory
  | .contains path, store => guarded .contains store (forward (.contains path))
  | .create path replication, store => guarded .create store (forward (.create path replication))
  | .write draft chunk, store => guarded .write store (forward (.write draft chunk))
  | .publish draft, store => guarded .commit store fun store =>
    forward (.publish draft) store.raceAhead
  | .discard _, store => .quiet () store
  | .openRecord path, store => guarded .openRecord store (forward (.openRecord path))
  | .read reader count, store => guarded .read store (forward (.read reader count))

def adjust (adjustment : Adjustment) (store : Memory) : Except Failure Unit × Memory :=
  match adjustment with
  | .put path data => (.ok (), { store with memory := store.memory.put path ⟨data, none⟩ })
  | .fault fault => (.ok (), { store with faults := store.faults ++ [fault] })
  | .race path data => (.ok (), { store with races := store.races ++ [(path, data)] })
  | .putFile _ _ | .makeDirectory _ => (.ok (), store)

def record (path : Text) (store : Memory) : Except Failure Storage.MemoryRecord :=
  match store.memory.record? path with
  | some record => .ok record
  | none => .error (.unknownName path)

def snapshot (store : Memory) : Snapshot :=
  .records (store.memory.records.mergeSort fun a b => a.1.atMost b.1) store.memory.writes

def store : Store where
  toClient := ⟨Storage.Memory.Draft, Memory, serve⟩
  adjust := adjust
  record := record
  snapshot := snapshot

end Memory

namespace Directory

open Storage (Directory)

/-- A store in a directory of a tree that holds the given directories. -/
def initial (base : FilePath) (directories : List Place) : Directory :=
  ⟨base, directories.foldl (fun tree place => tree.put (FileTree.placeOf place) .directory) .empty⟩

def adjust (adjustment : Adjustment) (store : Directory) : Except Failure Unit × Directory :=
  match adjustment with
  | .put _ _ | .fault _ | .race _ _ => (.ok (), store)
  | .putFile place data =>
    let (result, tree) := store.tree.putWithParents (place.map FileTree.spelled) data 0o644
    (result, { store with tree })
  | .makeDirectory place =>
    match FileTree.checkNames place with
    | .error failure => (.error failure, store)
    | .ok () =>
      let (result, tree) := store.tree.makeDirectory (place.map FileTree.spelled)
      (FileTree.coded result, { store with tree })

def record (path : Text) (_ : Directory) : Except Failure Storage.MemoryRecord :=
  .error (.unknownName path)

def snapshot (store : Directory) : Snapshot :=
  .tree store.tree.listing

def store : Store where
  toClient := Storage.Directory.client
  adjust := adjust
  record := record
  snapshot := snapshot

end Directory

end KeyEnvelope.Bench
